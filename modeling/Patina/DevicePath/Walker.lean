import Patina.DevicePath.NodeCount

/-!
# `DevicePathWalker`: decoding a path node by node

`DevicePathNode::new` copies a node's header and data out of memory, refusing a length field
shorter than the header. `DevicePathWalker` yields one `DevicePathNode` per call of `next`
and stops after the node that `is_device_path_end` recognises as End-Entire; an End-Instance
node is yielded like any other.

Results:
1. `DevicePathNode.new_of_holds`: `DevicePathNode::new` decodes an encoded node.
2. `devicePathWalker_round_trip`: on every well-formed path the walker yields exactly the
   path's nodes and End-Entire, in order, then `None` on every later call, reading no byte
   outside the path: decoding inverts encoding over the whole format.
3. `DevicePathNode.eq_iff_of_new`: `PartialEq` skips the length field, but on the nodes
   `DevicePathNode::new` returns, the only ones there are, it is equality.
-/

namespace Patina

open Outcome

/-- `DevicePathNode`: a node's header and a copy of its data. -/
structure DevicePathNode where
  header : Protocol
  data : List UInt8
deriving DecidableEq, Repr

/-- `PartialEq for DevicePathNode`: the type, the subtype and the data; the length field is not
compared. -/
def DevicePathNode.eq (a b : DevicePathNode) : Bool :=
  a.header.type == b.header.type && a.header.subType == b.header.subType && a.data == b.data

/-- `DevicePathNode::len`: the node's length field. -/
def DevicePathNode.len (n : DevicePathNode) : Nat := fromLeBytes n.header.length

/-- `DevicePathNode::new`: the header, then `length - 4` bytes of data; `none` when the length
field is shorter than the four-byte header (`checked_sub`). -/
def DevicePathNode.new (mem : Mem) (node : Nat) : Outcome (Option DevicePathNode) := do
  let header ← mem.readProtocol node
  let nodeLen := fromLeBytes header.length
  if nodeLen < 4 then return none
  else
    let data ← mem.readBytes (node + 4) (nodeLen - 4)
    return some ⟨header, data⟩

/-- `is_device_path_end`: a null pointer counts as the end. -/
def isDevicePathEnd (mem : Mem) (devicePath : Nat) : Outcome Bool :=
  if devicePath = 0 then ret true
  else do return (← mem.readProtocol devicePath).isEndEntire

/-- `DevicePathWalker`: the node the next call of `next` decodes, if any. -/
structure DevicePathWalker where
  nextNode : Option Nat

/-- `DevicePathWalker::new`. -/
def DevicePathWalker.new (devicePath : Nat) : DevicePathWalker := ⟨some devicePath⟩

/-- `Iterator::next` of `DevicePathWalker`. When `DevicePathNode::new` fails the walker is left
as it was, so every later call fails the same way. -/
def DevicePathWalker.next (mem : Mem) (w : DevicePathWalker) :
    Outcome (Option DevicePathNode × DevicePathWalker) :=
  match w.nextNode with
  | none => ret (none, w)
  | some node => do
    match ← DevicePathNode.new mem node with
    | none => return (none, w)
    | some current =>
      if ← isDevicePathEnd mem node then return (some current, ⟨none⟩)
      else
        match tryIntoIsize current.len with
        | none => return (none, w)
        | some offset => return (some current, ⟨some (node + offset)⟩)

/-- `n` calls of `next`: what each returned, and the walker after them. -/
def DevicePathWalker.nextN (mem : Mem) :
    Nat → DevicePathWalker → Outcome (List (Option DevicePathNode) × DevicePathWalker)
  | 0, w => ret ([], w)
  | n + 1, w => do
    let (item, w') ← w.next mem
    let (items, w'') ← nextN mem n w'
    return (item :: items, w'')

/-- The `DevicePathNode` a node decodes to. -/
def Node.toDevicePathNode (n : Node) : DevicePathNode := ⟨n.header, n.data⟩

/-! ## One call of `next` -/

section Next

variable {mem : Mem} {p : Nat} {n : Node} {rest : List UInt8}

theorem DevicePathNode.new_of_holds (holds : mem.Holds p (n.encode ++ rest)) (fits : n.Fits) :
    DevicePathNode.new mem p = ret (some n.toDevicePathNode) := by
  have data : mem.Holds (p + 4) n.data := by
    simp only [Node.encode, List.cons_append, List.nil_append, Mem.holds_cons] at holds
    simpa [Nat.add_assoc] using (Mem.holds_append.mp holds.2.2.2.2).1
  have long : ¬ n.length < 4 := by simp [Node.length]
  simp [DevicePathNode.new, Mem.readProtocol_of_holds holds, Node.fromLeBytes_header_length fits,
    long, Node.length, Mem.readBytes_of_holds data, Node.toDevicePathNode]

theorem next_of_node (holds : mem.Holds p (n.encode ++ rest)) (fits : n.Fits) (notEnd : ¬ n.IsEndEntire)
    (nonNull : p ≠ 0) :
    (DevicePathWalker.new p).next mem = ret (some n.toDevicePathNode, ⟨some (p + n.length)⟩) := by
  have small : n.length < 65536 := by unfold Node.Fits at fits; omega
  have notEnd' : n.header.isEndEntire = false :=
    Bool.eq_false_iff.mpr fun isEnd => notEnd ((Node.isEndEntire_header n).mp isEnd)
  simp [DevicePathWalker.next, DevicePathWalker.new, DevicePathNode.new_of_holds holds fits,
    isDevicePathEnd, nonNull, Mem.readProtocol_of_holds holds, notEnd', DevicePathNode.len,
    Node.toDevicePathNode, Node.fromLeBytes_header_length fits, tryIntoIsize_of_lt small]

theorem next_of_end (holds : mem.Holds p (endEntire.encode ++ rest)) (nonNull : p ≠ 0) :
    (DevicePathWalker.new p).next mem = ret (some endEntire.toDevicePathNode, ⟨none⟩) := by
  have isEnd : endEntire.header.isEndEntire = true := by decide
  simp [DevicePathWalker.next, DevicePathWalker.new, DevicePathNode.new_of_holds holds (by decide),
    isDevicePathEnd, nonNull, Mem.readProtocol_of_holds holds, isEnd]

/-- A node `DevicePathNode::new` returns holds its four-byte header and its data, nothing more. -/
theorem DevicePathNode.len_of_new {node : DevicePathNode}
    (made : DevicePathNode.new mem p = ret (some node)) : node.len = 4 + node.data.length := by
  obtain ⟨header, -, rest⟩ := bind_eq_ret.mp made
  by_cases short : fromLeBytes header.length < 4
  · simp [short] at rest
  · simp only [short, if_false] at rest
    obtain ⟨data, got, done⟩ := bind_eq_ret.mp rest
    cases done
    simp only [DevicePathNode.len, Mem.length_of_readBytes got]
    omega

/-- Its fields are private, so `DevicePathNode::new` makes every `DevicePathNode` there is; on
those the length field that `PartialEq` skips follows from the data, and `PartialEq` is
equality. -/
theorem DevicePathNode.eq_iff_of_new {mem' : Mem} {q : Nat} {a b : DevicePathNode}
    (madeA : DevicePathNode.new mem p = ret (some a))
    (madeB : DevicePathNode.new mem' q = ret (some b)) : a.eq b = true ↔ a = b := by
  constructor
  · intro same
    simp only [DevicePathNode.eq, Bool.and_eq_true, beq_iff_eq] at same
    obtain ⟨⟨type, subType⟩, data⟩ := same
    have length : a.header.length = b.header.length := fromLeBytes_inj <| by
      have lenA := len_of_new madeA
      have lenB := len_of_new madeB
      simp only [DevicePathNode.len] at lenA lenB
      rw [lenA, lenB, data]
    obtain ⟨⟨_, _, _⟩, _⟩ := a
    obtain ⟨⟨_, _, _⟩, _⟩ := b
    simp only [DevicePathNode.mk.injEq, Protocol.mk.injEq] at type subType length data ⊢
    exact ⟨⟨type, subType, length⟩, data⟩
  · rintro rfl
    simp [DevicePathNode.eq]

theorem DevicePathNode.eq_iff_of_new_pciPath :
    DevicePathNode.new (Mem.ofBytes 1 pciPath.bytes) 1 = ret (some (pci 0x0 0x1C).toDevicePathNode) ∧
    DevicePathNode.new (Mem.ofBytes 1 pciPath.bytes) 7 = ret (some (pci 0x0 0x0).toDevicePathNode) ∧
    ((pci 0x0 0x1C).toDevicePathNode.eq (pci 0x0 0x0).toDevicePathNode = true ↔
      (pci 0x0 0x1C).toDevicePathNode = (pci 0x0 0x0).toDevicePathNode) :=
  have first : DevicePathNode.new (Mem.ofBytes 1 pciPath.bytes) 1 =
      ret (some (pci 0x0 0x1C).toDevicePathNode) := by decide
  have second : DevicePathNode.new (Mem.ofBytes 1 pciPath.bytes) 7 =
      ret (some (pci 0x0 0x0).toDevicePathNode) := by decide
  ⟨first, second, DevicePathNode.eq_iff_of_new first second⟩

theorem nextN_succ {w w' : DevicePathWalker} {item : Option DevicePathNode} (k : Nat)
    (step : w.next mem = ret (item, w')) :
    w.nextN mem (k + 1) = w'.nextN mem k >>= fun r => ret (item :: r.1, r.2) := by
  simp [DevicePathWalker.nextN, step]

theorem nextN_done (k : Nat) :
    (⟨none⟩ : DevicePathWalker).nextN mem k = ret (List.replicate k none, ⟨none⟩) := by
  induction k with
  | zero => rfl
  | succ k ih =>
    rw [nextN_succ k (show (⟨none⟩ : DevicePathWalker).next mem = ret (none, ⟨none⟩) from rfl), ih]
    rfl

end Next

/-! ## The whole walk -/

theorem nextN_of_nodes {mem : Mem} (later : Nat) :
    ∀ {nodes : List Node}, (∀ n ∈ nodes, n.Fits ∧ ¬ n.IsEndEntire) →
    ∀ {p : Nat}, p ≠ 0 → mem.Holds p (encode (nodes ++ [endEntire])) →
    (DevicePathWalker.new p).nextN mem (nodes.length + 1 + later) =
      ret ((nodes ++ [endEntire]).map (some ∘ Node.toDevicePathNode) ++ List.replicate later none,
        ⟨none⟩)
  | [], _, p, nonNull, holds => by
    rw [show ([] : List Node).length + 1 + later = later + 1 by simp [Nat.add_comm],
      nextN_succ later (next_of_end (by simpa using holds : mem.Holds p (endEntire.encode ++ [])) nonNull),
      nextN_done]
    rfl
  | n :: ns, good, p, nonNull, holds => by
    have ⟨fits, notEnd⟩ := good n (List.mem_cons_self _ _)
    have split : mem.Holds p (n.encode ++ encode (ns ++ [endEntire])) := by simpa using holds
    have tail := nextN_of_nodes later (fun m hm => good m (List.mem_cons_of_mem _ hm))
      (p := p + n.length) (by simp [Node.length]) (by simpa using (Mem.holds_append.mp split).2)
    rw [show (n :: ns).length + 1 + later = ns.length + 1 + later + 1 by simp; omega,
      nextN_succ _ (next_of_node split fits notEnd nonNull)]
    simp [DevicePathWalker.new] at tail
    simp [tail]

theorem devicePathWalker_round_trip (dp : DevicePath) {mem : Mem} {p : Nat} (nonNull : p ≠ 0)
    (holds : mem.Holds p dp.bytes) (later : Nat) :
    (DevicePathWalker.new p).nextN mem (dp.nodes.length + 1 + later) =
      ret ((dp.nodes ++ [endEntire]).map (some ∘ Node.toDevicePathNode) ++
        List.replicate later none, ⟨none⟩) :=
  nextN_of_nodes later (fun n member => ⟨dp.fits n member, dp.notEnd n member⟩) nonNull holds

theorem devicePathWalker_round_trip_pciPath :
    (1 : Nat) ≠ 0 ∧ (Mem.ofBytes 1 pciPath.bytes).Holds 1 pciPath.bytes ∧
    (DevicePathWalker.new 1).nextN (Mem.ofBytes 1 pciPath.bytes) (pciPath.nodes.length + 1 + 2) =
      ret ((pciPath.nodes ++ [endEntire]).map (some ∘ Node.toDevicePathNode) ++
        List.replicate 2 none, ⟨none⟩) :=
  ⟨by decide, Mem.holds_ofBytes 1 _,
    devicePathWalker_round_trip pciPath (by decide) (Mem.holds_ofBytes 1 _) 2⟩

end Patina
