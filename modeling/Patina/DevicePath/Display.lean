import Mathlib.Data.String.Basic
import Patina.DevicePath.Concat

/-!
# The text of a device path

`From<DevicePathWalker> for String` walks a path and writes, for each node before the first
End-Entire node, the name `protocol_to_subtype_str` gives its type and subtype, then, when the
node has data, `": "`, its bytes as `0x..` separated by commas, and `/`. A node without data
gets its name alone, with no separator after it.

Results:
1. `loop_devicePathStringBody`: from any node of a well-formed path on, the loop appends the
   texts of the remaining nodes and stops at the End-Entire node.
2. `devicePathString_eq`: the text of every well-formed path is the concatenation of its nodes'
   texts, End-Instance nodes included, and nothing of the End-Entire node.
3. `devicePathString_concat`: the text of two single-instance paths concatenated by
   `concat_device_path_to_boxed_slice` is the text of the first followed by that of the second.
-/

namespace Patina

open Outcome

/-! ## `protocol_to_subtype_str` -/

/-- `efi::protocols::device_path::TYPE_ACPI`. -/
def typeAcpi : UInt8 := 0x02
/-- `efi::protocols::device_path::TYPE_MESSAGING`. -/
def typeMessaging : UInt8 := 0x03
/-- `efi::protocols::device_path::TYPE_MEDIA`. -/
def typeMedia : UInt8 := 0x04
/-- `efi::protocols::device_path::TYPE_BIOS`. -/
def typeBios : UInt8 := 0x05

/-- The subtypes `Hardware::SUBTYPE_PCCARD` to `SUBTYPE_BMC` and `Media::SUBTYPE_HARDDRIVE` to
`SUBTYPE_RAM_DISK` follow the UEFI numbering, from `0x01` on. -/
def subtypeName (subType : UInt8) (names : List String) (unknown : String) : String :=
  if subType = 0 then unknown else (names[subType.toNat - 1]?).getD unknown

/-- `protocol_to_subtype_str`. -/
def protocolToSubtypeStr (protocol : Protocol) : String :=
  if protocol.type = typeHardware then
    subtypeName protocol.subType ["Pci", "PcCard", "MemMap", "Vendor", "Controller", "Bmc"]
      "UnknownHardware"
  else if protocol.type = typeAcpi then "Acpi"
  else if protocol.type = typeMessaging then "Msg"
  else if protocol.type = typeBios then "Bios"
  else if protocol.type = typeMedia then
    subtypeName protocol.subType ["HardDrive", "CdRom", "Vendor", "FilePath", "MediaProtocol",
      "FirmwareFile", "FirmwareVolume", "RelativeOffsetRange", "RamDisk"] "UnknownMedia"
  else if protocol.type = typeEnd then
    if protocol.subType = subtypeInstance then "EndInstance"
    else if protocol.subType = subtypeEntire then "EndEntire"
    else "UnknownEnd"
  else "UnknownType"

/-! ## The loop -/

/-- `format!("0x{byte:02x}")`: two lowercase hexadecimal digits. -/
def hexByte (byte : UInt8) : String :=
  "0x" ++ String.mk [Nat.digitChar (byte.toNat / 16), Nat.digitChar (byte.toNat % 16)]

/-- What the loop writes for one node: its name, then, when it has data, `": "`, the bytes
(`for (i, byte) in node.data.iter().enumerate()`, a comma before all but the first), and `/`. -/
def nodeText (node : DevicePathNode) : String :=
  protocolToSubtypeStr node.header ++
    if node.data.isEmpty then ""
    else ": " ++ node.data.enum.foldl (fun text (i, byte) =>
      (if i > 0 then text.push ',' else text) ++ hexByte byte) "" ++ "/"

/-- One turn of the `for` loop over the walker: the next node, and the text so far.
`is_device_path_end(&node.header)` looks at the copied header, which is never null. -/
def devicePathStringBody (mem : Mem) (s : DevicePathWalker × String) :
    Outcome ((DevicePathWalker × String) ⊕ String) := do
  let (node, walker) ← s.1.next mem
  match node with
  | none => return .inr s.2
  | some node =>
    if node.header.isEndEntire then return .inr s.2
    else return .inl (walker, s.2 ++ nodeText node)

/-- `From<DevicePathWalker> for String`, its loop run for at most `fuel` nodes. -/
def devicePathString (mem : Mem) (walker : DevicePathWalker) (fuel : Nat) : Outcome String :=
  loop (devicePathStringBody mem) fuel (walker, "")

/-! ## The text of a well-formed path -/

theorem loop_devicePathStringBody {mem : Mem} :
    ∀ {nodes : List Node}, (∀ n ∈ nodes, n.Fits ∧ ¬ n.IsEndEntire) →
    ∀ {p fuel : Nat} (text : String), p ≠ 0 → mem.Holds p (encode (nodes ++ [endEntire])) →
    nodes.length < fuel →
    loop (devicePathStringBody mem) fuel (⟨some p⟩, text) =
      ret (text ++ String.join (nodes.map fun n => nodeText n.toDevicePathNode))
  | [], _, p, fuel + 1, text, nonNull, holds, _ => by
    have isEnd : endEntire.header.isEndEntire = true := by decide
    have next : DevicePathWalker.next mem ⟨some p⟩ = ret (some endEntire.toDevicePathNode, ⟨none⟩) :=
      next_of_end (by simpa using holds : mem.Holds p (endEntire.encode ++ [])) nonNull
    rw [loop_succ_of_inr fuel (a := text) (by simp [devicePathStringBody, next, Node.toDevicePathNode,
      isEnd])]
    simp [String.ext_iff]
  | n :: ns, good, p, fuel + 1, text, nonNull, holds, enough => by
    have ⟨fits, notEnd⟩ := good n (List.mem_cons_self _ _)
    have notEnd' : n.header.isEndEntire = false :=
      Bool.eq_false_iff.mpr fun isEnd => notEnd ((Node.isEndEntire_header n).mp isEnd)
    have split : mem.Holds p (n.encode ++ encode (ns ++ [endEntire])) := by simpa using holds
    have next : DevicePathWalker.next mem ⟨some p⟩ =
        ret (some n.toDevicePathNode, ⟨some (p + n.length)⟩) := next_of_node split fits notEnd nonNull
    have step : devicePathStringBody mem (⟨some p⟩, text) =
        ret (.inl (⟨some (p + n.length)⟩, text ++ nodeText n.toDevicePathNode)) := by
      simp [devicePathStringBody, next, Node.toDevicePathNode, notEnd']
    rw [loop_succ_of_inl fuel step,
      loop_devicePathStringBody (fun m hm => good m (List.mem_cons_of_mem _ hm)) _
        (by simp [Node.length]) (by simpa using (Mem.holds_append.mp split).2)
        (by simpa using enough)]
    simp [String.ext_iff]

theorem devicePathString_eq (dp : DevicePath) {mem : Mem} {p : Nat} (nonNull : p ≠ 0)
    (holds : mem.Holds p dp.bytes) {fuel : Nat} (enough : dp.nodes.length < fuel) :
    devicePathString mem (DevicePathWalker.new p) fuel =
      ret (String.join (dp.nodes.map fun n => nodeText n.toDevicePathNode)) := by
  have run := loop_devicePathStringBody (fun n member => ⟨dp.fits n member, dp.notEnd n member⟩)
    "" nonNull holds enough
  rwa [String.empty_append] at run

/-- The two-instance path reads as its three nodes' texts; the End-Instance node has no data, so
nothing separates its name from the next node's. -/
theorem devicePathString_twoInstancePath :
    devicePathString (Mem.ofBytes 1 twoInstancePath.bytes) (DevicePathWalker.new 1) 4 =
      ret "Pci: 0x00,0x1c/EndInstancePci: 0x02,0x00/" :=
  (devicePathString_eq twoInstancePath (by decide) (Mem.holds_ofBytes 1 _) (by decide)).trans
    (by decide)

/-- The concatenation of two paths of one instance each returns, and writing out its result is
writing out the two paths one after the other. -/
theorem devicePathString_concat (A B : DevicePath) {mem : Mem} {a b q fuel : Nat}
    (nonNullA : a ≠ 0) (nonNullB : b ≠ 0) (nonNullQ : q ≠ 0)
    (holdsA : mem.Holds a A.bytes) (holdsB : mem.Holds b B.bytes)
    (enough : A.nodes.length + B.nodes.length < fuel) (singleA : ∀ n ∈ A.nodes, n.type ≠ typeEnd)
    (singleB : ∀ n ∈ B.nodes, n.type ≠ typeEnd) (laid : mem.Holds q (A.append B).bytes) :
    concatDevicePathToBoxedSlice mem a b fuel = ret (.ok (A.append B).bytes) ∧
    devicePathString mem (DevicePathWalker.new q) fuel = (do
      let first ← devicePathString mem (DevicePathWalker.new a) fuel
      let second ← devicePathString mem (DevicePathWalker.new b) fuel
      return first ++ second) := by
  refine ⟨concatDevicePathToBoxedSlice_eq A B nonNullA nonNullB holdsA holdsB (by omega) (by omega)
    singleA singleB, ?_⟩
  have run (dp : DevicePath) {p : Nat} := @loop_devicePathStringBody mem dp.nodes
    (fun n member => ⟨dp.fits n member, dp.notEnd n member⟩) p fuel ""
  simp only [devicePathString, DevicePathWalker.new]
  rw [run (A.append B) nonNullQ laid (by simp [DevicePath.append]; omega),
    run A nonNullA holdsA (by omega), run B nonNullB holdsB (by omega)]
  simp [DevicePath.append, String.ext_iff]

theorem devicePathString_concat_pciPrefix :
    concatDevicePathToBoxedSlice concatMem 1 17 6 = ret (.ok (pciPrefix.append pciPath).bytes) ∧
    devicePathString concatMem (DevicePathWalker.new 39) 6 = (do
      let first ← devicePathString concatMem (DevicePathWalker.new 1) 6
      let second ← devicePathString concatMem (DevicePathWalker.new 17) 6
      return first ++ second) :=
  have whole := Mem.holds_append.mp
    (Mem.holds_ofBytes 1 (pciPrefix.bytes ++ pciPath.bytes ++ (pciPrefix.append pciPath).bytes))
  have paths := Mem.holds_append.mp whole.1
  devicePathString_concat pciPrefix pciPath (by decide) (by decide) (by decide) paths.1 paths.2
    (by decide) (by decide) (by decide) whole.2

end Patina
