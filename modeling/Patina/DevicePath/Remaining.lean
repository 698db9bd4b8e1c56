import Patina.DevicePath.Walker

/-!
# `remaining_device_path`: prefix matching of two paths

`remaining_device_path(a, b)` walks `a` and `b` in step, comparing each node of `a` with the
node of `b` at the same position byte for byte, until `a` reaches its End-Entire node. It
returns the pointer into `b` just past the nodes they share and their number, or `None` at
the first node that differs.

Results:
1. `remainingDevicePathBody_of_match`, `remainingDevicePathBody_of_mismatch`,
   `remainingDevicePathBody_of_end`: what one iteration does on encoded nodes.
2. `remainingDevicePath_spec`: on every two well-formed paths, with enough fuel, the result is
   `Some (b + |a| - 4, |A|)` when the nodes of `a` are a prefix of those of `b` and `None`
   otherwise. The memory is arbitrary outside the two paths, so no byte outside them is read.
-/

namespace Patina

open Outcome

/-- The variables the `loop` of `remaining_device_path` updates. -/
structure RemainingLoop where
  aPtr : Nat
  bPtr : Nat
  nodeCount : Nat

/-- `a_slice != b_slice` negated: slices of different lengths differ without a byte being
read; otherwise the bytes are compared. -/
def sliceEq (mem : Mem) (a aLength b bLength : Nat) : Outcome Bool :=
  if aLength ≠ bLength then ret false
  else do
    let aSlice ← mem.readBytes a aLength
    let bSlice ← mem.readBytes b bLength
    return aSlice == bSlice

/-- One iteration of the `loop` of `remaining_device_path`; `is_device_path_end(&a_node)` looks
at the copy `a_node`, so it is `Protocol.isEndEntire` of that copy. -/
def remainingDevicePathBody (mem : Mem) (s : RemainingLoop) :
    Outcome (RemainingLoop ⊕ Option (Nat × Nat)) := do
  let aNode ← mem.readProtocol s.aPtr
  let bNode ← mem.readProtocol s.bPtr
  if aNode.isEndEntire then return .inr (some (s.bPtr, s.nodeCount))
  else
    let nodeCount := s.nodeCount + 1
    let aLength := fromLeBytes aNode.length
    let bLength := fromLeBytes bNode.length
    let same ← sliceEq mem s.aPtr aLength s.bPtr bLength
    if !same then return .inr none
    else
      match tryIntoIsize aLength, tryIntoIsize bLength with
      | some aOffset, some bOffset => return .inl ⟨s.aPtr + aOffset, s.bPtr + bOffset, nodeCount⟩
      | _, _ => return .inr none

/-- `remaining_device_path`, its `loop` run for at most `fuel` iterations. -/
def remainingDevicePath (mem : Mem) (a b fuel : Nat) : Outcome (Option (Nat × Nat)) :=
  loop (remainingDevicePathBody mem) fuel ⟨a, b, 0⟩

/-! ## One iteration -/

section Body

variable {mem : Mem} {s : RemainingLoop} {n m : Node} {ra rb : List UInt8}

theorem remainingDevicePathBody_of_end (holdsA : mem.Holds s.aPtr (endEntire.encode ++ ra))
    (holdsB : mem.Holds s.bPtr (m.encode ++ rb)) :
    remainingDevicePathBody mem s = ret (.inr (some (s.bPtr, s.nodeCount))) := by
  have isEnd : endEntire.header.isEndEntire = true := by decide
  simp [remainingDevicePathBody, Mem.readProtocol_of_holds holdsA, Mem.readProtocol_of_holds holdsB,
    isEnd]

theorem remainingDevicePathBody_of_match (holdsA : mem.Holds s.aPtr (n.encode ++ ra))
    (holdsB : mem.Holds s.bPtr (n.encode ++ rb)) (fits : n.Fits) (notEnd : ¬ n.IsEndEntire) :
    remainingDevicePathBody mem s =
      ret (.inl ⟨s.aPtr + n.length, s.bPtr + n.length, s.nodeCount + 1⟩) := by
  have small : n.length < 65536 := by unfold Node.Fits at fits; omega
  have notEnd' : n.header.isEndEntire = false :=
    Bool.eq_false_iff.mpr fun isEnd => notEnd ((Node.isEndEntire_header n).mp isEnd)
  have bytesA := Mem.readBytes_of_holds (Mem.holds_append.mp holdsA).1
  have bytesB := Mem.readBytes_of_holds (Mem.holds_append.mp holdsB).1
  simp only [Node.encode_length] at bytesA bytesB
  simp [remainingDevicePathBody, sliceEq, Mem.readProtocol_of_holds holdsA,
    Mem.readProtocol_of_holds holdsB, notEnd', Node.fromLeBytes_header_length fits, bytesA, bytesB,
    tryIntoIsize_of_lt small]

theorem remainingDevicePathBody_of_mismatch (holdsA : mem.Holds s.aPtr (n.encode ++ ra))
    (holdsB : mem.Holds s.bPtr (m.encode ++ rb)) (fitsA : n.Fits) (fitsB : m.Fits)
    (notEnd : ¬ n.IsEndEntire) (differ : n ≠ m) :
    remainingDevicePathBody mem s = ret (.inr none) := by
  have notEnd' : n.header.isEndEntire = false :=
    Bool.eq_false_iff.mpr fun isEnd => notEnd ((Node.isEndEntire_header n).mp isEnd)
  have bytesA := Mem.readBytes_of_holds (Mem.holds_append.mp holdsA).1
  have bytesB := Mem.readBytes_of_holds (Mem.holds_append.mp holdsB).1
  have unequal : (n.encode == m.encode) = false := by
    simpa using fun same => differ (Node.encode_inj same)
  simp only [Node.encode_length] at bytesA bytesB
  simp only [remainingDevicePathBody, Mem.readProtocol_of_holds holdsA,
    Mem.readProtocol_of_holds holdsB, notEnd', Node.fromLeBytes_header_length fitsA,
    Node.fromLeBytes_header_length fitsB, sliceEq, ret_bind, Bool.false_eq_true, if_false]
  by_cases sameLength : n.length = m.length
  · rw [sameLength] at bytesA
    simp [sameLength, bytesA, bytesB, unequal]
  · simp [sameLength]

end Body

/-! ## The whole loop -/

theorem loop_remainingDevicePathBody {mem : Mem} :
    ∀ {A B : List Node}, (∀ n ∈ A, n.Fits ∧ ¬ n.IsEndEntire) → (∀ n ∈ B, n.Fits ∧ ¬ n.IsEndEntire) →
    ∀ {a b count fuel : Nat}, mem.Holds a (encode (A ++ [endEntire])) →
    mem.Holds b (encode (B ++ [endEntire])) → A.length < fuel →
    loop (remainingDevicePathBody mem) fuel ⟨a, b, count⟩ =
      ret (if A <+: B then some (b + (encode A).length, count + A.length) else none)
  | [], B, _, _, a, b, count, fuel + 1, holdsA, holdsB, _ => by
    obtain ⟨m, rest, whole⟩ : ∃ m rest, B ++ [endEntire] = m :: rest := by
      cases B <;> exact ⟨_, _, rfl⟩
    rw [whole, encode_cons] at holdsB
    rw [loop_succ_of_inr fuel (remainingDevicePathBody_of_end (s := ⟨a, b, count⟩)
      (by simpa using holdsA : mem.Holds a (endEntire.encode ++ [])) holdsB)]
    simp
  | n :: A, [], goodA, _, a, b, count, fuel + 1, holdsA, holdsB, _ => by
    have ⟨fits, notEnd⟩ := goodA n (List.mem_cons_self _ _)
    have differ : n ≠ endEntire := fun same => notEnd (same ▸ endEntire_isEndEntire)
    rw [loop_succ_of_inr fuel (remainingDevicePathBody_of_mismatch (s := ⟨a, b, count⟩)
      (by simpa using holdsA) (by simpa using holdsB : mem.Holds b (endEntire.encode ++ [])) fits
      (by decide) notEnd differ)]
    simp
  | n :: A, m :: B, goodA, goodB, a, b, count, fuel + 1, holdsA, holdsB, enough => by
    have ⟨fitsA, notEnd⟩ := goodA n (List.mem_cons_self _ _)
    have fitsB := (goodB m (List.mem_cons_self _ _)).1
    have splitA : mem.Holds a (n.encode ++ encode (A ++ [endEntire])) := by simpa using holdsA
    have splitB : mem.Holds b (m.encode ++ encode (B ++ [endEntire])) := by simpa using holdsB
    by_cases same : n = m
    · subst same
      rw [loop_succ_of_inl fuel (remainingDevicePathBody_of_match (s := ⟨a, b, count⟩) splitA splitB
          fitsA notEnd),
        loop_remainingDevicePathBody (fun k hk => goodA k (List.mem_cons_of_mem _ hk))
          (fun k hk => goodB k (List.mem_cons_of_mem _ hk))
          (by simpa using (Mem.holds_append.mp splitA).2)
          (by simpa using (Mem.holds_append.mp splitB).2) (by simpa using enough)]
      by_cases leading : A <+: B
      · simp [leading, Nat.add_assoc, Nat.add_comm 1]
      · simp [leading]
    · rw [loop_succ_of_inr fuel (remainingDevicePathBody_of_mismatch (s := ⟨a, b, count⟩) splitA
        splitB fitsA fitsB notEnd same)]
      simp [same]

theorem remainingDevicePath_spec (A B : DevicePath) {mem : Mem} {a b : Nat}
    (holdsA : mem.Holds a A.bytes) (holdsB : mem.Holds b B.bytes) {fuel : Nat}
    (enough : A.nodes.length < fuel) :
    remainingDevicePath mem a b fuel =
      ret (if A.nodes <+: B.nodes then some (b + A.bytes.length - 4, A.nodes.length) else none) := by
  rw [remainingDevicePath, loop_remainingDevicePathBody (fun n member => ⟨A.fits n member, A.notEnd n member⟩)
    (fun n member => ⟨B.fits n member, B.notEnd n member⟩) holdsA holdsB enough]
  simp [DevicePath.bytes, ← Nat.add_assoc]

/-- Path `a` of the example of `remaining_device_path`: the first two nodes of `pciPath`. -/
def pciPrefix : DevicePath where
  nodes := [pci 0x0 0x1C, pci 0x0 0x0]
  fits := by decide
  notEnd := by decide

/-- `pciPrefix` at address `1`, `pciPath` right after it. -/
def prefixMem : Mem := Mem.ofBytes 1 (pciPrefix.bytes ++ pciPath.bytes)

theorem remainingDevicePath_spec_pciPrefix :
    prefixMem.Holds 1 pciPrefix.bytes ∧ prefixMem.Holds 17 pciPath.bytes ∧
    pciPrefix.nodes.length < 3 ∧
    remainingDevicePath prefixMem 1 17 3 = ret (if pciPrefix.nodes <+: pciPath.nodes then
      some (17 + pciPrefix.bytes.length - 4, pciPrefix.nodes.length) else none) := by
  have both := Mem.holds_append.mp (Mem.holds_ofBytes 1 (pciPrefix.bytes ++ pciPath.bytes))
  exact ⟨both.1, both.2, by decide, remainingDevicePath_spec pciPrefix pciPath both.1 both.2 (by decide)⟩

end Patina
