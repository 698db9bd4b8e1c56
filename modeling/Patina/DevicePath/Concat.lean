import Patina.DevicePath.Remaining

/-!
# `concat_device_path_to_boxed_slice`

The concatenation takes both paths' slices from `device_path_as_slice`, allocates
`a.len() + b.len() - size_of::<End>()` zero bytes, copies `a` to the front and then `b` over
`a`'s end node. `copyFromSlice` is the slice copy, and the three checks Rust makes on the
lengths are the panics of `concatSlices`.

Results:
1. `concatSlices_eq`: on slices of at least an end node each, the result is `a` without its
   last four bytes, followed by `b`.
2. `concatDevicePathToBoxedSlice_eq`: for two well-formed paths of one instance each, the
   result is the encoding of the nodes of `a` followed by those of `b`, then End-Entire. A path
   with an End-Instance node is cut by `device_path_node_count` first
   (`devicePathNodeCount_two_instance`), and so is the concatenation.
3. `remainingDevicePath_concat`: the concatenation returns, and its result, laid out anywhere,
   has `a` as a prefix: `remaining_device_path(a, ·)` returns the offset past `a`'s nodes, where
   `b` starts.
4. `concatDevicePathToBoxedSlice_two_instance`: concatenating a two-instance path drops its
   second instance; as the second argument, it leaves a result with no End-Entire node.
-/

namespace Patina

open Outcome

/-- `size_of::<efi::protocols::device_path::End>()`: an end node is a bare header. -/
def endPathSize : Nat := 4

/-- `dst[start..start + src.len()].copy_from_slice(src)` on a slice long enough for it. -/
def copyFromSlice (dst : List UInt8) (start : Nat) (src : List UInt8) : List UInt8 :=
  dst.take start ++ src ++ dst.drop (start + src.length)

/-- The body of `concat_device_path_to_boxed_slice` after the two slices are taken. It panics
when `a.len() + b.len() - size_of::<End>()` underflows, when `out_bytes[..a.len()]` is out of
range, and when `a.len() - size_of::<End>()` underflows. -/
def concatSlices (aSlice bSlice : List UInt8) : Outcome (List UInt8) :=
  if aSlice.length + bSlice.length < endPathSize then panic
  else if aSlice.length + bSlice.length - endPathSize < aSlice.length then panic
  else if aSlice.length < endPathSize then panic
  else
    let outBytes := List.replicate (aSlice.length + bSlice.length - endPathSize) 0
    let outBytes := copyFromSlice outBytes 0 aSlice
    ret (copyFromSlice outBytes (aSlice.length - endPathSize) bSlice)

/-- `concat_device_path_to_boxed_slice`. -/
def concatDevicePathToBoxedSlice (mem : Mem) (a b fuel : Nat) :
    Outcome (Except Status (List UInt8)) := do
  match ← devicePathAsSlice mem a fuel with
  | .error e => return .error e
  | .ok aSlice =>
    match ← devicePathAsSlice mem b fuel with
    | .error e => return .error e
    | .ok bSlice => return .ok (← concatSlices aSlice bSlice)

theorem concatSlices_eq {aSlice bSlice : List UInt8} (longA : endPathSize ≤ aSlice.length)
    (longB : endPathSize ≤ bSlice.length) :
    concatSlices aSlice bSlice = ret (aSlice.take (aSlice.length - endPathSize) ++ bSlice) := by
  rw [concatSlices, if_neg (by omega), if_neg (by omega), if_neg (by omega)]
  have front : (List.replicate (aSlice.length + bSlice.length - endPathSize) (0 : UInt8)).drop
      aSlice.length = List.replicate (bSlice.length - endPathSize) 0 := by
    rw [List.drop_replicate]
    congr 1
    omega
  simp only [copyFromSlice, List.take_zero, List.nil_append, Nat.zero_add, front]
  rw [List.take_append_of_le_length (by omega), List.drop_eq_nil_of_le (by simp; omega),
    List.append_nil]

/-- Two paths, one after the other: the nodes of `a`, then those of `b`. -/
def DevicePath.append (a b : DevicePath) : DevicePath where
  nodes := a.nodes ++ b.nodes
  fits n member := (List.mem_append.mp member).elim (a.fits n) (b.fits n)
  notEnd n member := (List.mem_append.mp member).elim (a.notEnd n) (b.notEnd n)

theorem DevicePath.bytes_eq (dp : DevicePath) : dp.bytes = encode dp.nodes ++ endEntire.encode := by
  simp [DevicePath.bytes]

theorem concatDevicePathToBoxedSlice_eq (A B : DevicePath) {mem : Mem} {a b : Nat} (nonNullA : a ≠ 0)
    (nonNullB : b ≠ 0) (holdsA : mem.Holds a A.bytes) (holdsB : mem.Holds b B.bytes) {fuel : Nat}
    (enoughA : A.nodes.length < fuel) (enoughB : B.nodes.length < fuel)
    (singleA : ∀ n ∈ A.nodes, n.type ≠ typeEnd) (singleB : ∀ n ∈ B.nodes, n.type ≠ typeEnd) :
    concatDevicePathToBoxedSlice mem a b fuel = ret (.ok (A.append B).bytes) := by
  have endLength : endEntire.encode.length = endPathSize := rfl
  have longA : endPathSize ≤ A.bytes.length := by simp [DevicePath.bytes_eq, endLength]
  have longB : endPathSize ≤ B.bytes.length := by simp [DevicePath.bytes_eq, endLength]
  have front : A.bytes.take (A.bytes.length - endPathSize) = encode A.nodes := by
    simp [DevicePath.bytes_eq, endLength, endPathSize]
  simp only [concatDevicePathToBoxedSlice,
    devicePathAsSlice_single_instance A nonNullA holdsA enoughA singleA,
    devicePathAsSlice_single_instance B nonNullB holdsB enoughB singleB, ret_bind,
    concatSlices_eq longA longB, front]
  simp [DevicePath.append, DevicePath.bytes_eq]

theorem encode_length_of_bytes (dp : DevicePath) :
    (encode dp.nodes).length = dp.bytes.length - 4 := by
  simp [DevicePath.bytes_eq]

/-- The concatenation of two paths of one instance each returns the nodes of `a` followed by the
whole of `b`, and, laid out at `q`, starts with `a`: `remaining_device_path(a, q)` goes through
all of `a`'s nodes and returns the offset where the bytes of `b` start. -/
theorem remainingDevicePath_concat (A B : DevicePath) {mem : Mem} {a b q fuel : Nat}
    (nonNullA : a ≠ 0) (nonNullB : b ≠ 0) (holdsA : mem.Holds a A.bytes)
    (holdsB : mem.Holds b B.bytes) (enoughA : A.nodes.length < fuel)
    (enoughB : B.nodes.length < fuel) (singleA : ∀ n ∈ A.nodes, n.type ≠ typeEnd)
    (singleB : ∀ n ∈ B.nodes, n.type ≠ typeEnd) (laid : mem.Holds q (A.append B).bytes) :
    concatDevicePathToBoxedSlice mem a b fuel = ret (.ok (A.append B).bytes) ∧
    remainingDevicePath mem a q fuel = ret (some (q + A.bytes.length - 4, A.nodes.length)) ∧
    mem.Holds (q + A.bytes.length - 4) B.bytes := by
  have whole : (A.append B).bytes = encode A.nodes ++ B.bytes := by
    simp [DevicePath.append, DevicePath.bytes]
  have tail := (Mem.holds_append.mp (whole ▸ laid)).2
  rw [encode_length_of_bytes] at tail
  have ends : q + (A.bytes.length - 4) = q + A.bytes.length - 4 := by
    have long : 4 ≤ A.bytes.length := by simp [DevicePath.bytes_eq]
    omega
  refine ⟨concatDevicePathToBoxedSlice_eq A B nonNullA nonNullB holdsA holdsB enoughA enoughB
    singleA singleB, ?_, ends ▸ tail⟩
  rw [remainingDevicePath, loop_remainingDevicePathBody
    (fun n member => ⟨A.fits n member, A.notEnd n member⟩)
    (fun n member => ⟨(A.append B).fits n member, (A.append B).notEnd n member⟩) holdsA laid enoughA,
    if_pos (show A.nodes <+: (A.append B).nodes from List.prefix_append _ _),
    encode_length_of_bytes, ends, Nat.zero_add]

/-- `pciPrefix` at `1`, `pciPath` at `17`, and their concatenation at `39`. -/
def concatMem : Mem :=
  Mem.ofBytes 1 (pciPrefix.bytes ++ pciPath.bytes ++ (pciPrefix.append pciPath).bytes)

theorem remainingDevicePath_concat_pciPrefix :
    concatDevicePathToBoxedSlice concatMem 1 17 4 = ret (.ok (pciPrefix.append pciPath).bytes) ∧
    remainingDevicePath concatMem 1 39 4 =
      ret (some (39 + pciPrefix.bytes.length - 4, pciPrefix.nodes.length)) ∧
    concatMem.Holds (39 + pciPrefix.bytes.length - 4) pciPath.bytes :=
  have whole := Mem.holds_append.mp
    (Mem.holds_ofBytes 1 (pciPrefix.bytes ++ pciPath.bytes ++ (pciPrefix.append pciPath).bytes))
  have paths := Mem.holds_append.mp whole.1
  remainingDevicePath_concat pciPrefix pciPath (by decide) (by decide) paths.1 paths.2 (by decide)
    (by decide) (by decide) (by decide) whole.2

/-! ## Paths of several instances -/

theorem devicePathAsSlice_add_fuel {mem : Mem} {p fuel : Nat} {r : Except Status (List UInt8)}
    (returns : devicePathAsSlice mem p fuel = ret r) (extra : Nat) :
    devicePathAsSlice mem p (fuel + extra) = ret r := by
  unfold devicePathAsSlice at returns ⊢
  obtain ⟨counted, count, rest⟩ := bind_eq_ret.mp returns
  rwa [devicePathNodeCount_add_fuel count extra, ret_bind]

theorem concatDevicePathToBoxedSlice_add_fuel {mem : Mem} {a b fuel : Nat}
    {r : Except Status (List UInt8)} (returns : concatDevicePathToBoxedSlice mem a b fuel = ret r)
    (extra : Nat) : concatDevicePathToBoxedSlice mem a b (fuel + extra) = ret r := by
  unfold concatDevicePathToBoxedSlice at returns ⊢
  obtain ⟨sliceA, gotA, rest⟩ := bind_eq_ret.mp returns
  rw [devicePathAsSlice_add_fuel gotA extra, ret_bind]
  rcases sliceA with e | aSlice
  · exact rest
  obtain ⟨sliceB, gotB, rest⟩ := bind_eq_ret.mp rest
  dsimp only
  rwa [devicePathAsSlice_add_fuel gotB extra, ret_bind]

/-- A run that returns `r` within `n` iterations returns `r` with any more fuel, so it never
returns another result once no smaller fuel does. -/
theorem concatDevicePathToBoxedSlice_ne_of_returns {mem : Mem} {a b n : Nat}
    {r r' : Except Status (List UInt8)} (returns : concatDevicePathToBoxedSlice mem a b n = ret r)
    (differ : r ≠ r') (below : ∀ fuel < n, concatDevicePathToBoxedSlice mem a b fuel ≠ ret r') :
    ∀ fuel, concatDevicePathToBoxedSlice mem a b fuel ≠ ret r' := by
  intro fuel
  by_cases small : fuel < n
  · exact below fuel small
  · obtain ⟨extra, rfl⟩ := Nat.exists_eq_add_of_le (Nat.not_lt.mp small)
    rw [concatDevicePathToBoxedSlice_add_fuel returns]
    exact fun same => differ (Outcome.ret.inj same)

/-- The two-instance path at address `1`, and the PCI path right after it at `21`. -/
def twoPaths : Mem := Mem.ofBytes 1 (twoInstancePath.bytes ++ pciPath.bytes)

/-- Concatenating a two-instance path keeps only its first instance: with `a` the two-instance
path, `a`'s second instance is lost; with `b` the two-instance path, the result ends with `b`'s
End-Instance node and has no End-Entire node at all. -/
theorem concatDevicePathToBoxedSlice_two_instance :
    (∀ fuel, concatDevicePathToBoxedSlice twoPaths 1 21 fuel ≠
      ret (.ok (twoInstancePath.append pciPath).bytes)) ∧
    concatDevicePathToBoxedSlice twoPaths 1 21 4 = ret (.ok (encode [pci 0x0 0x1C] ++ pciPath.bytes)) ∧
    (∀ fuel, concatDevicePathToBoxedSlice twoPaths 21 1 fuel ≠
      ret (.ok (pciPath.append twoInstancePath).bytes)) ∧
    concatDevicePathToBoxedSlice twoPaths 21 1 4 =
      ret (.ok (encode pciPath.nodes ++ twoInstancePath.bytes.take 10)) := by
  have first : concatDevicePathToBoxedSlice twoPaths 1 21 4 =
      ret (.ok (encode [pci 0x0 0x1C] ++ pciPath.bytes)) := by decide
  have second : concatDevicePathToBoxedSlice twoPaths 21 1 4 =
      ret (.ok (encode pciPath.nodes ++ twoInstancePath.bytes.take 10)) := by decide
  exact ⟨concatDevicePathToBoxedSlice_ne_of_returns first (by decide) (by decide), first,
    concatDevicePathToBoxedSlice_ne_of_returns second (by decide) (by decide), second⟩

end Patina
