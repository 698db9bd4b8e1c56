import Patina.DevicePath.Node

/-!
# `device_path_node_count` and the slices built on it

`device_path_node_count` walks the nodes of a path from a raw pointer, adding up node count
and length, and stops at the first node whose type is `TYPE_END`. It does not look at the
subtype, so on a multi-instance path it stops at the End-Instance node that closes the first
instance, while `is_device_path_end`, `DevicePathWalker` and `remaining_device_path` stop only
at End-Entire. `device_path_as_slice` and `copy_device_path_to_boxed_slice` take their length
from it.

Results:
1. `devicePathNodeCount_eq`: on every well-formed path, with enough fuel, the count and the
   length are those of the nodes up to and including the first node of type `TYPE_END`, read
   without touching a byte past that node.
2. `devicePathNodeCount_whole_iff`, `devicePathAsSlice_single_instance`: the count is `k + 1`
   and the length that of the whole path exactly when no node of type `TYPE_END` comes before
   End-Entire, and then `devicePathAsSlice` returns the whole path.
3. `devicePathNodeCount_two_instance`: on a two-instance path the count and the length are
   those of the first instance only, whatever the fuel.
-/

namespace Patina

open Outcome

/-- The `efi::Status` errors these functions return. -/
inductive Status where
  | invalidParameter
deriving DecidableEq, Repr

/-- `usize::try_into::<isize>()` on a 64-bit target: at most `isize::MAX`. -/
def tryIntoIsize (n : Nat) : Option Nat := if n ≤ 9223372036854775807 then some n else none

theorem tryIntoIsize_of_lt {n : Nat} (small : n < 65536) : tryIntoIsize n = some n :=
  if_pos (by omega)

/-- The variables the `loop` of `device_path_node_count` updates. -/
structure NodeCountLoop where
  nodeCount : Nat
  devPathSize : Nat
  currentNodePtr : Nat

/-- One iteration of the `loop` of `device_path_node_count`. -/
def devicePathNodeCountBody (mem : Mem) (s : NodeCountLoop) :
    Outcome (NodeCountLoop ⊕ Except Status (Nat × Nat)) := do
  let currentNode ← mem.readProtocol s.currentNodePtr
  let currentLength := fromLeBytes currentNode.length
  let nodeCount := s.nodeCount + 1
  let devPathSize := s.devPathSize + currentLength
  if currentNode.type = typeEnd then
    return .inr (.ok (nodeCount, devPathSize))
  else
    match tryIntoIsize currentLength with
    | none => return .inr (.error .invalidParameter)
    | some offset => return .inl ⟨nodeCount, devPathSize, s.currentNodePtr + offset⟩

/-- `device_path_node_count`, its `loop` run for at most `fuel` iterations. A null pointer trips
the `debug_assert!` in front of `return Err(INVALID_PARAMETER)`: the model follows the debug
build, as it does for the overflow checks of `align_range` and the conflict checks of
`init_state`. -/
def devicePathNodeCount (mem : Mem) (devicePath fuel : Nat) : Outcome (Except Status (Nat × Nat)) :=
  if devicePath = 0 then panic
  else loop (devicePathNodeCountBody mem) fuel ⟨0, 0, devicePath⟩

/-- `device_path_as_slice`: the bytes from `devicePath` on, as many as the node count says. -/
def devicePathAsSlice (mem : Mem) (devicePath fuel : Nat) : Outcome (Except Status (List UInt8)) := do
  match ← devicePathNodeCount mem devicePath fuel with
  | .error e => return .error e
  | .ok (_, byteCount) => return .ok (← mem.readBytes devicePath byteCount)

/-- `copy_device_path_to_boxed_slice`: a copy of `device_path_as_slice`. -/
def copyDevicePathToBoxedSlice (mem : Mem) (devicePath fuel : Nat) :
    Outcome (Except Status (List UInt8)) :=
  devicePathAsSlice mem devicePath fuel

/-- The nodes up to and including the first one of type `TYPE_END`. -/
def throughFirstEnd : List Node → List Node
  | [] => []
  | n :: ns => if n.type = typeEnd then [n] else n :: throughFirstEnd ns

/-! ## One iteration -/

section Body

variable {mem : Mem} {s : NodeCountLoop} {n : Node} {rest : List UInt8}

theorem devicePathNodeCountBody_of_end (holds : mem.Holds s.currentNodePtr (n.encode ++ rest))
    (fits : n.Fits) (isEnd : n.type = typeEnd) :
    devicePathNodeCountBody mem s = ret (.inr (.ok (s.nodeCount + 1, s.devPathSize + n.length))) := by
  simp [devicePathNodeCountBody, Mem.readProtocol_of_holds holds, Node.fromLeBytes_header_length fits,
    isEnd]

theorem devicePathNodeCountBody_of_not_end (holds : mem.Holds s.currentNodePtr (n.encode ++ rest))
    (fits : n.Fits) (notEnd : n.type ≠ typeEnd) :
    devicePathNodeCountBody mem s =
      ret (.inl ⟨s.nodeCount + 1, s.devPathSize + n.length, s.currentNodePtr + n.length⟩) := by
  have small : n.length < 65536 := by unfold Node.Fits at fits; omega
  simp [devicePathNodeCountBody, Mem.readProtocol_of_holds holds, Node.fromLeBytes_header_length fits,
    notEnd, tryIntoIsize_of_lt small]

end Body

/-! ## The whole loop -/

theorem loop_devicePathNodeCountBody {mem : Mem} {last : Node} (lastFits : last.Fits)
    (lastEnd : last.type = typeEnd) :
    ∀ {pre : List Node}, (∀ n ∈ pre, n.Fits ∧ n.type ≠ typeEnd) →
    ∀ {p nodeCount size fuel : Nat}, mem.Holds p (encode (pre ++ [last])) → pre.length < fuel →
    loop (devicePathNodeCountBody mem) fuel ⟨nodeCount, size, p⟩ =
      ret (.ok (nodeCount + pre.length + 1, size + (encode (pre ++ [last])).length))
  | [], _, p, nodeCount, size, fuel + 1, holds, _ => by
    have body := devicePathNodeCountBody_of_end (s := ⟨nodeCount, size, p⟩)
      (by simpa using holds : mem.Holds p (last.encode ++ [])) lastFits lastEnd
    simpa using loop_succ_of_inr fuel body
  | n :: pre, nodes, p, nodeCount, size, fuel + 1, holds, enough => by
    have ⟨fits, notEnd⟩ := nodes n (List.mem_cons_self _ _)
    have split : mem.Holds p (n.encode ++ encode (pre ++ [last])) := by simpa using holds
    rw [loop_succ_of_inl fuel (devicePathNodeCountBody_of_not_end split fits notEnd),
      loop_devicePathNodeCountBody lastFits lastEnd (fun m hm => nodes m (List.mem_cons_of_mem _ hm))
        (by simpa using (Mem.holds_append.mp split).2) (by simpa using enough)]
    simp only [List.length_cons, List.cons_append, encode_cons, List.length_append,
      Node.encode_length]
    congr 3 <;> omega

theorem throughFirstEnd_split {nodes : List Node} (ended : ∃ n ∈ nodes, n.type = typeEnd) :
    ∃ pre last rest, nodes = pre ++ [last] ++ rest ∧ throughFirstEnd nodes = pre ++ [last] ∧
      (∀ n ∈ pre, n.type ≠ typeEnd) ∧ last.type = typeEnd := by
  induction nodes with
  | nil => simp at ended
  | cons n ns ih =>
    by_cases isEnd : n.type = typeEnd
    · exact ⟨[], n, ns, rfl, by simp [throughFirstEnd, isEnd], by simp, isEnd⟩
    · obtain ⟨m, member, mEnd⟩ := ended
      have inTail : ∃ m ∈ ns, m.type = typeEnd := by
        rcases List.mem_cons.mp member with rfl | inTail
        · exact absurd mEnd isEnd
        · exact ⟨m, inTail, mEnd⟩
      obtain ⟨pre, last, rest, rfl, through, notEnd, lastEnd⟩ := ih inTail
      refine ⟨n :: pre, last, rest, rfl, ?_, ?_, lastEnd⟩
      · rw [throughFirstEnd, if_neg isEnd, through, List.cons_append]
      · simpa [isEnd] using notEnd

/-- The nodes `device_path_node_count` walks over on a well-formed path. -/
def DevicePath.counted (dp : DevicePath) : List Node := throughFirstEnd (dp.nodes ++ [endEntire])

/-- The counted nodes of a path: nodes that fit, none of type `TYPE_END`, then one that is. -/
theorem DevicePath.counted_split (dp : DevicePath) : ∃ pre last, dp.counted = pre ++ [last] ∧
    (∀ n ∈ pre, n.Fits ∧ n.type ≠ typeEnd) ∧ last.Fits ∧ last.type = typeEnd := by
  obtain ⟨pre, last, rest, whole, through, notEnd, lastEnd⟩ :=
    @throughFirstEnd_split (dp.nodes ++ [endEntire]) ⟨endEntire, by simp, rfl⟩
  have fits : ∀ n ∈ pre ++ [last], n.Fits := by
    intro n member
    have : n ∈ dp.nodes ++ [endEntire] := by rw [whole]; exact List.mem_append_left rest member
    rcases List.mem_append.mp this with inPath | isLast
    · exact dp.fits n inPath
    · simp only [List.mem_singleton] at isLast; subst isLast; decide
  exact ⟨pre, last, through, fun n member => ⟨fits n (by simp [member]), notEnd n member⟩,
    fits last (by simp), lastEnd⟩

theorem devicePathNodeCount_eq (dp : DevicePath) {mem : Mem} {p : Nat} (nonNull : p ≠ 0)
    (holds : mem.Holds p (encode dp.counted)) {fuel : Nat} (enough : dp.counted.length ≤ fuel) :
    devicePathNodeCount mem p fuel = ret (.ok (dp.counted.length, (encode dp.counted).length)) := by
  obtain ⟨pre, last, counted, nodes, lastFits, lastEnd⟩ := dp.counted_split
  rw [counted] at holds enough ⊢
  rw [devicePathNodeCount, if_neg nonNull,
    loop_devicePathNodeCountBody lastFits lastEnd nodes holds (by simp at enough; omega)]
  simp

/-! ## Well-formed device paths -/

theorem devicePathNodeCount_add_fuel {mem : Mem} {p fuel : Nat} {r : Except Status (Nat × Nat)}
    (returns : devicePathNodeCount mem p fuel = ret r) (extra : Nat) :
    devicePathNodeCount mem p (fuel + extra) = ret r := by
  unfold devicePathNodeCount at *
  split
  · simp [*] at returns
  · simpa [*] using loop_add_fuel (by simpa [*] using returns) extra

theorem throughFirstEnd_isPrefix : ∀ nodes : List Node, throughFirstEnd nodes <+: nodes
  | [] => List.prefix_refl _
  | n :: ns => by
    unfold throughFirstEnd
    split
    · exact List.prefix_cons_inj n |>.mpr (List.nil_prefix)
    · exact List.prefix_cons_inj n |>.mpr (throughFirstEnd_isPrefix ns)

theorem length_throughFirstEnd_append {last : Node} (lastEnd : last.type = typeEnd) :
    ∀ {nodes : List Node}, (throughFirstEnd (nodes ++ [last])).length = nodes.length + 1 ↔
      ∀ n ∈ nodes, n.type ≠ typeEnd
  | [] => by simp [throughFirstEnd, lastEnd]
  | n :: ns => by
    by_cases isEnd : n.type = typeEnd
    · simp [throughFirstEnd, isEnd]
    · simp [throughFirstEnd, isEnd, length_throughFirstEnd_append lastEnd]

theorem holds_counted {dp : DevicePath} {mem : Mem} {p : Nat} (holds : mem.Holds p dp.bytes) :
    mem.Holds p (encode dp.counted) := by
  obtain ⟨rest, whole⟩ := throughFirstEnd_isPrefix (dp.nodes ++ [endEntire])
  refine Mem.holds_of_prefix holds ⟨encode rest, ?_⟩
  rw [← encode_append, DevicePath.counted, whole, DevicePath.bytes]

theorem devicePathNodeCount_whole_iff (dp : DevicePath) {mem : Mem} {p : Nat} (nonNull : p ≠ 0)
    (holds : mem.Holds p dp.bytes) {fuel : Nat} (enough : dp.nodes.length < fuel) :
    devicePathNodeCount mem p fuel = ret (.ok (dp.nodes.length + 1, dp.bytes.length)) ↔
      ∀ n ∈ dp.nodes, n.type ≠ typeEnd := by
  have leading := throughFirstEnd_isPrefix (dp.nodes ++ [endEntire])
  have short : dp.counted.length ≤ dp.nodes.length + 1 := by simpa using leading.length_le
  rw [devicePathNodeCount_eq dp nonNull (holds_counted holds) (by omega),
    ← @length_throughFirstEnd_append endEntire rfl dp.nodes]
  constructor
  · intro same
    simp only [ret.injEq, Except.ok.injEq, Prod.mk.injEq] at same
    exact same.1
  · intro full
    have all : dp.counted = dp.nodes ++ [endEntire] := leading.eq_of_length (by simpa using full)
    simp [all, DevicePath.bytes]

/-! ## Slices, and paths of several instances -/

theorem devicePathAsSlice_single_instance (dp : DevicePath) {mem : Mem} {p : Nat} (nonNull : p ≠ 0)
    (holds : mem.Holds p dp.bytes) {fuel : Nat} (enough : dp.nodes.length < fuel)
    (single : ∀ n ∈ dp.nodes, n.type ≠ typeEnd) :
    devicePathAsSlice mem p fuel = ret (.ok dp.bytes) := by
  simp [devicePathAsSlice, (devicePathNodeCount_whole_iff dp nonNull holds enough).mpr single,
    Mem.readBytes_of_holds holds]

/-- The three-node path of the example of `device_path_node_count`. -/
def pciPath : DevicePath where
  nodes := [pci 0x0 0x1C, pci 0x0 0x0, pci 0x2 0x0]
  fits := by decide
  notEnd := by decide

/-- A two-instance path: `PCI(0x00,0x1C)`, End-Instance, `PCI(0x02,0x00)`, then End-Entire. -/
def twoInstancePath : DevicePath where
  nodes := [pci 0x0 0x1C, ⟨typeEnd, subtypeInstance, []⟩, pci 0x2 0x0]
  fits := by decide
  notEnd := by decide

theorem devicePathNodeCount_two_instance :
    (∀ fuel, devicePathNodeCount (Mem.ofBytes 1 twoInstancePath.bytes) 1 fuel ≠
      ret (.ok (twoInstancePath.nodes.length + 1, twoInstancePath.bytes.length))) ∧
    devicePathAsSlice (Mem.ofBytes 1 twoInstancePath.bytes) 1 2 =
      ret (.ok (twoInstancePath.bytes.take 10)) := by
  refine ⟨fun fuel => ?_, by decide⟩
  match fuel with
  | 0 | 1 => decide
  | fuel + 2 =>
    rw [devicePathNodeCount_eq twoInstancePath (by decide) (holds_counted (Mem.holds_ofBytes _ _))
      (le_trans (by decide) (Nat.le_add_left 2 fuel))]
    decide

end Patina
