import Patina.DevicePath.Memory

/-!
# Device-path nodes and their byte encoding

A UEFI device path is a sequence of nodes. Each node starts with the four-byte header
`efi::protocols::device_path::Protocol` (type, subtype, and a little-endian 16-bit length
that counts the header), followed by `length - 4` bytes of data. A path ends with the
End-Entire node (type `0x7f`, subtype `0xff`); End-Instance nodes (subtype `0x01`) separate
the instances of a multi-instance path.

`DevicePath` is a well-formed path: its nodes fit their length field and none of them is
End-Entire, so the invariant is carried by the value and the theorems over paths need no
hypothesis about the node list.

Results:
1. `fromLeBytes_header_length`: the length field of an encoded node decodes to its length.
2. `Node.encode_inj`: a node's bytes determine it.
3. `Mem.readProtocol_of_holds`: reading the header of an encoded node gives its `header`.
-/

namespace Patina

open Outcome

/-- `efi::protocols::device_path::TYPE_END`. -/
def typeEnd : UInt8 := 0x7f
/-- `End::SUBTYPE_ENTIRE`. -/
def subtypeEntire : UInt8 := 0xff
/-- `End::SUBTYPE_INSTANCE`. -/
def subtypeInstance : UInt8 := 0x01
/-- `efi::protocols::device_path::TYPE_HARDWARE`. -/
def typeHardware : UInt8 := 0x01
/-- `Hardware::SUBTYPE_PCI`. -/
def subtypePci : UInt8 := 0x01

/-- `efi::protocols::device_path::Protocol`, the header of every node; `length` is `[u8; 2]`. -/
structure Protocol where
  type : UInt8
  subType : UInt8
  length : UInt8 × UInt8
deriving DecidableEq, Repr

/-- `u16::from_le_bytes`, widened to `usize` as every caller does. -/
def fromLeBytes (bytes : UInt8 × UInt8) : Nat := bytes.1.toNat + 256 * bytes.2.toNat

theorem fromLeBytes_lt (bytes : UInt8 × UInt8) : fromLeBytes bytes < 65536 := by
  have lo := bytes.1.toNat_lt_size
  have hi := bytes.2.toNat_lt_size
  simp only [fromLeBytes, UInt8.size] at *
  omega

theorem fromLeBytes_inj {a b : UInt8 × UInt8} (same : fromLeBytes a = fromLeBytes b) : a = b := by
  have := a.1.toNat_lt_size
  have := b.1.toNat_lt_size
  simp only [fromLeBytes, UInt8.size] at *
  exact Prod.ext (UInt8.toNat.inj (by omega)) (UInt8.toNat.inj (by omega))

/-- `is_device_path_end` on the header a non-null pointer points to: End-Entire. -/
def Protocol.isEndEntire (node : Protocol) : Bool :=
  node.type == typeEnd && node.subType == subtypeEntire

/-- `read_unaligned` of a header at `p` (and `*p`): its four bytes in order. -/
def Mem.readProtocol (mem : Mem) (p : Nat) : Outcome Protocol := do
  let type ← mem.read p
  let subType ← mem.read (p + 1)
  let length0 ← mem.read (p + 2)
  let length1 ← mem.read (p + 3)
  return ⟨type, subType, (length0, length1)⟩

/-- A node as the format lays it out: header type and subtype, then `data`. -/
structure Node where
  type : UInt8
  subType : UInt8
  data : List UInt8
deriving DecidableEq, Repr

namespace Node

/-- The value of the node's length field: header and data. -/
def length (n : Node) : Nat := 4 + n.data.length

/-- The header the node is encoded with. -/
def header (n : Node) : Protocol :=
  ⟨n.type, n.subType, (UInt8.ofNat (n.length % 256), UInt8.ofNat (n.length / 256))⟩

/-- The node's bytes: header, then data. -/
def encode (n : Node) : List UInt8 :=
  [n.type, n.subType, n.header.length.1, n.header.length.2] ++ n.data

/-- An End-Entire node, whatever its data. -/
def IsEndEntire (n : Node) : Prop := n.type = typeEnd ∧ n.subType = subtypeEntire

instance (n : Node) : Decidable n.IsEndEntire := inferInstanceAs (Decidable (_ ∧ _))

/-- A node whose length fits the 16-bit length field. -/
def Fits (n : Node) : Prop := n.length ≤ 0xFFFF

instance (n : Node) : Decidable n.Fits := inferInstanceAs (Decidable (_ ≤ _))

@[simp] theorem header_type (n : Node) : n.header.type = n.type := rfl
@[simp] theorem header_subType (n : Node) : n.header.subType = n.subType := rfl

@[simp] theorem encode_length (n : Node) : n.encode.length = n.length := by
  simp only [encode, length, List.length_append, List.length_cons, List.length_nil]

theorem fromLeBytes_header_length {n : Node} (fits : n.Fits) :
    fromLeBytes n.header.length = n.length := by
  have lo : (n.length % 256) < UInt8.size := Nat.mod_lt _ (by decide)
  have hi : (n.length / 256) < UInt8.size := by
    simp only [Fits] at fits
    show _ < 256
    omega
  simp only [fromLeBytes, header, UInt8.toNat_ofNat_of_lt lo, UInt8.toNat_ofNat_of_lt hi]
  omega

@[simp] theorem isEndEntire_header (n : Node) : n.header.isEndEntire = true ↔ n.IsEndEntire := by
  simp [Protocol.isEndEntire, header, IsEndEntire]

theorem encode_inj {n m : Node} (same : n.encode = m.encode) : n = m := by
  obtain ⟨t, s, d⟩ := n
  obtain ⟨t', s', d'⟩ := m
  simp only [encode, List.cons_append, List.nil_append, List.cons.injEq] at same
  obtain ⟨rfl, rfl, -, -, rfl⟩ := same
  rfl

end Node

/-- The terminating End-Entire node. -/
def endEntire : Node := ⟨typeEnd, subtypeEntire, []⟩

@[simp] theorem endEntire_length : endEntire.length = 4 := rfl

theorem endEntire_isEndEntire : endEntire.IsEndEntire := ⟨rfl, rfl⟩

/-- A PCI node with its function and device numbers, as in the crate's examples. -/
def pci (func device : UInt8) : Node := ⟨typeHardware, subtypePci, [func, device]⟩

/-- The bytes of a node list, node after node. -/
def encode (nodes : List Node) : List UInt8 := nodes.flatMap Node.encode

@[simp] theorem encode_nil : encode [] = [] := rfl

@[simp] theorem encode_cons (n : Node) (ns : List Node) :
    encode (n :: ns) = n.encode ++ encode ns := rfl

@[simp] theorem encode_append (ns ms : List Node) : encode (ns ++ ms) = encode ns ++ encode ms :=
  List.flatMap_append ..

/-- A well-formed device path: nodes that fit their length field, none of them End-Entire. -/
structure DevicePath where
  nodes : List Node
  fits : ∀ n ∈ nodes, n.Fits
  notEnd : ∀ n ∈ nodes, ¬ n.IsEndEntire

/-- The path's bytes: its nodes, then the End-Entire node. -/
def DevicePath.bytes (dp : DevicePath) : List UInt8 := encode (dp.nodes ++ [endEntire])

theorem Mem.readProtocol_of_holds {mem : Mem} {p : Nat} {n : Node} {rest : List UInt8}
    (holds : mem.Holds p (n.encode ++ rest)) : mem.readProtocol p = ret n.header := by
  simp only [Node.encode, List.cons_append, Mem.holds_cons] at holds
  obtain ⟨h0, h1, h2, h3, -⟩ := holds
  simp [Mem.readProtocol, Mem.read_of_byte h0, Mem.read_of_byte h1, Mem.read_of_byte h2,
    Mem.read_of_byte h3, Node.header]

end Patina
