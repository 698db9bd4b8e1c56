import Patina.DevicePath.Walker

/-!
# Malformed device paths

`device_path_node_count` trusts the length field of every node it reads: it adds the length to
the pointer without comparing it with the four-byte header, where `DevicePathNode::new` refuses
such a node with `checked_sub`. A node of a type other than `TYPE_END` whose length field is `0`
leaves the pointer where it is, so the loop reads the same node again, for ever. Any other
length moves the pointer forward, and the loop then leaves a buffer within as many iterations
as the buffer has bytes. The headers in question are the ones the loop reads: the states it
goes through from its start (`Outcome.Reaches`), each moved by the length field of the node
before.

Results:
1. `devicePathNodeCountBody_cases`: what one iteration of the loop can do.
2. `loop_devicePathNodeCountBody_stuck`: on a zero-length node the loop spins, whatever the
   fuel.
3. `DevicePath.reads_of_holds`: on a well-formed path every header the loop reads is the header
   of one of the path's nodes.
4. `devicePathNodeCount_stops`: over a buffer, the loop stops within as many iterations as the
   buffer has bytes exactly when no header it reads is a zero-length one of a type other than
   `TYPE_END`.
5. `devicePathNodeCount_returns`: when every header the loop reads lies inside the buffer and
   is an end node or moves the pointer forward, the count returns `Ok`, every iteration reading
   a header past the one before.
6. `devicePathNodeCount_zero_length`: a buffer holding one zero-length PCI node, inside which
   every header the loop reads lies: the count never returns, and `DevicePathNode::new`
   refuses the node.
-/

namespace Patina

open Outcome

/-! ## Reading a header -/

namespace Mem

theorem read_cases (mem : Mem) (p : Nat) : mem.read p = ub ∨ ∃ b, mem.read p = ret b := by
  unfold read
  split <;> simp

theorem readProtocol_cases (mem : Mem) (p : Nat) :
    mem.readProtocol p = ub ∨ ∃ header, mem.readProtocol p = ret header := by
  unfold readProtocol
  rcases mem.read_cases p with r | ⟨_, r⟩ <;> simp only [r, ub_bind, ret_bind, true_or]
  rcases mem.read_cases (p + 1) with r | ⟨_, r⟩ <;> simp only [r, ub_bind, ret_bind, true_or]
  rcases mem.read_cases (p + 2) with r | ⟨_, r⟩ <;> simp only [r, ub_bind, ret_bind, true_or]
  rcases mem.read_cases (p + 3) with r | ⟨_, r⟩ <;> simp only [r, ub_bind, ret_bind, true_or]
  exact .inr ⟨_, rfl⟩

/-- A header read from a buffer starts inside it. -/
theorem lt_of_readProtocol_ofBytes {base p : Nat} {bytes : List UInt8} {header : Protocol}
    (got : (ofBytes base bytes).readProtocol p = ret header) : p < base + bytes.length := by
  obtain ⟨_, first, -⟩ := bind_eq_ret.mp got
  refine Decidable.byContradiction fun outside => ?_
  have missing : (ofBytes base bytes).byte p = none := by
    simp only [ofBytes]
    split_ifs
    · exact List.getElem?_eq_none (by omega)
    · rfl
  simp [Mem.read, missing] at first

end Mem

/-! ## One iteration -/

/-- What one iteration of the loop of `device_path_node_count` can do: read outside memory,
leave the loop at a node of type `TYPE_END`, or go round again with the pointer moved by the
length field of a node of another type. -/
theorem devicePathNodeCountBody_cases (mem : Mem) (s : NodeCountLoop) :
    (mem.readProtocol s.currentNodePtr = ub ∧ devicePathNodeCountBody mem s = ub) ∨
    ∃ header, mem.readProtocol s.currentNodePtr = ret header ∧
      ((header.type = typeEnd ∧ devicePathNodeCountBody mem s =
          ret (.inr (.ok (s.nodeCount + 1, s.devPathSize + fromLeBytes header.length)))) ∨
       (header.type ≠ typeEnd ∧ devicePathNodeCountBody mem s = ret (.inl ⟨s.nodeCount + 1,
          s.devPathSize + fromLeBytes header.length, s.currentNodePtr + fromLeBytes header.length⟩))) := by
  rcases mem.readProtocol_cases s.currentNodePtr with read | ⟨header, read⟩
  · exact .inl ⟨read, by simp [devicePathNodeCountBody, read]⟩
  refine .inr ⟨header, read, ?_⟩
  by_cases isEnd : header.type = typeEnd
  · exact .inl ⟨isEnd, by simp [devicePathNodeCountBody, read, isEnd]⟩
  · exact .inr ⟨isEnd, by
      simp [devicePathNodeCountBody, read, isEnd, tryIntoIsize_of_lt (fromLeBytes_lt _)]⟩

/-! ## Zero-length nodes -/

/-- A header of a type other than `TYPE_END` with length field `0`: the loop reads it again and
again, and no fuel is enough. -/
theorem loop_devicePathNodeCountBody_stuck {mem : Mem} {p : Nat} {header : Protocol}
    (read : mem.readProtocol p = ret header) (notEnd : header.type ≠ typeEnd)
    (empty : fromLeBytes header.length = 0) :
    ∀ fuel nodeCount size, loop (devicePathNodeCountBody mem) fuel ⟨nodeCount, size, p⟩ = spin
  | 0, _, _ => rfl
  | fuel + 1, nodeCount, size => by
    have again : devicePathNodeCountBody mem ⟨nodeCount, size, p⟩ =
        ret (.inl ⟨nodeCount + 1, size, p⟩) := by
      simp [devicePathNodeCountBody, read, notEnd, empty, tryIntoIsize]
    rw [loop_succ_of_inl fuel again]
    exact loop_devicePathNodeCountBody_stuck read notEnd empty fuel _ _

/-- The four bytes of a PCI node header whose length field is `0`, shorter than the header. -/
def zeroLengthNode : List UInt8 := [typeHardware, subtypePci, 0, 0]

/-! ## The headers of a well-formed path -/

/-- Over nodes that fit, laid out from the pointer up to a first node of type `TYPE_END`, every
header the loop reads is the header of one of them: it lies inside them, and it is the end node
or moves the pointer by its node's length, at least the four bytes of a header. -/
theorem reads_of_holds_encode {mem : Mem} {last : Node} (lastFits : last.Fits)
    (lastEnd : last.type = typeEnd) :
    ∀ {pre : List Node}, (∀ n ∈ pre, n.Fits ∧ n.type ≠ typeEnd) →
    ∀ {s : NodeCountLoop}, mem.Holds s.currentNodePtr (encode (pre ++ [last])) →
    ∀ s', Reaches (devicePathNodeCountBody mem) s s' → ∃ header,
      mem.readProtocol s'.currentNodePtr = ret header ∧
        (header.type = typeEnd ∨ 0 < fromLeBytes header.length)
  | [], _, s, holds, s', reach => by
    have split : mem.Holds s.currentNodePtr (last.encode ++ []) := by simpa using holds
    rcases reach.cases_head with rfl | ⟨_, next, -⟩
    · exact ⟨last.header, Mem.readProtocol_of_holds split, .inl lastEnd⟩
    · cases (devicePathNodeCountBody_of_end split lastFits lastEnd).symm.trans next
  | n :: pre, nodes, s, holds, s', reach => by
    have ⟨fits, notEnd⟩ := nodes n (List.mem_cons_self _ _)
    have split : mem.Holds s.currentNodePtr (n.encode ++ encode (pre ++ [last])) := by
      simpa using holds
    rcases reach.cases_head with rfl | ⟨_, next, reach⟩
    · refine ⟨n.header, Mem.readProtocol_of_holds split, .inr ?_⟩
      rw [Node.fromLeBytes_header_length fits, Node.length]
      omega
    · cases (devicePathNodeCountBody_of_not_end split fits notEnd).symm.trans next
      exact reads_of_holds_encode lastFits lastEnd (fun m member => nodes m (List.mem_cons_of_mem _ member))
        (by simpa using (Mem.holds_append.mp split).2) s' reach

/-- On a well-formed path, every header the loop of `device_path_node_count` reads is the
header of one of the path's nodes up to the first one of type `TYPE_END`. -/
theorem DevicePath.reads_of_holds (dp : DevicePath) {mem : Mem} {p : Nat}
    (holds : mem.Holds p dp.bytes) :
    ∀ s, Reaches (devicePathNodeCountBody mem) ⟨0, 0, p⟩ s → ∃ header,
      mem.readProtocol s.currentNodePtr = ret header ∧
        (header.type = typeEnd ∨ 0 < fromLeBytes header.length) := by
  obtain ⟨pre, last, counted, nodes, lastFits, lastEnd⟩ := dp.counted_split
  exact reads_of_holds_encode lastFits lastEnd nodes (by rw [← counted]; exact holds_counted holds)

/-- Headers that are read, and are end nodes or move the pointer, move the pointer unless they
are end nodes. -/
theorem advances_of_reads {mem : Mem} {s₀ : NodeCountLoop}
    (reads : ∀ s, Reaches (devicePathNodeCountBody mem) s₀ s → ∃ header,
      mem.readProtocol s.currentNodePtr = ret header ∧
        (header.type = typeEnd ∨ 0 < fromLeBytes header.length)) :
    ∀ s, Reaches (devicePathNodeCountBody mem) s₀ s → ∀ header,
      mem.readProtocol s.currentNodePtr = ret header → header.type ≠ typeEnd →
        0 < fromLeBytes header.length := by
  intro s reach header read notEnd
  obtain ⟨_, read', moves⟩ := reads s reach
  cases read.symm.trans read'
  exact moves.resolve_left notEnd

/-- When every header the loop reads lies in memory, every iteration from a reached state goes
round again or leaves the loop with `Ok`. -/
theorem devicePathNodeCountBody_exits {mem : Mem} {s₀ : NodeCountLoop}
    (reads : ∀ s, Reaches (devicePathNodeCountBody mem) s₀ s → ∃ header,
      mem.readProtocol s.currentNodePtr = ret header ∧
        (header.type = typeEnd ∨ 0 < fromLeBytes header.length)) :
    ∀ s, Reaches (devicePathNodeCountBody mem) s₀ s →
      (∃ s', devicePathNodeCountBody mem s = ret (.inl s')) ∨
      ∃ r, (∃ count size, r = .ok (count, size)) ∧ devicePathNodeCountBody mem s = ret (.inr r) := by
  intro s reach
  obtain ⟨_, read, -⟩ := reads s reach
  rcases devicePathNodeCountBody_cases mem s with ⟨outside, -⟩ | ⟨_, -, ⟨-, body⟩ | ⟨-, body⟩⟩
  · cases read.symm.trans outside
  · exact .inr ⟨_, ⟨_, _, rfl⟩, body⟩
  · exact .inl ⟨_, body⟩

/-! ## The headers the loop reads in a buffer -/

section Buffer

variable {base : Nat} {bytes : List UInt8}

/-- Over a buffer, an iteration never spins, and one that goes round again after a header of
length above `0` moves the pointer forward from inside the buffer: the distance from the pointer
to the end of the buffer goes down. -/
theorem devicePathNodeCountBody_step (s₀ : NodeCountLoop)
    (advances : ∀ s, Reaches (devicePathNodeCountBody (Mem.ofBytes base bytes)) s₀ s → ∀ header,
      (Mem.ofBytes base bytes).readProtocol s.currentNodePtr = ret header →
        header.type ≠ typeEnd → 0 < fromLeBytes header.length) :
    ∀ s₁, Reaches (devicePathNodeCountBody (Mem.ofBytes base bytes)) s₀ s₁ →
      devicePathNodeCountBody (Mem.ofBytes base bytes) s₁ ≠ spin ∧
      ∀ s₂, devicePathNodeCountBody (Mem.ofBytes base bytes) s₁ = ret (.inl s₂) →
        base + bytes.length - s₂.currentNodePtr < base + bytes.length - s₁.currentNodePtr := by
  intro s₁ reach
  rcases devicePathNodeCountBody_cases (Mem.ofBytes base bytes) s₁ with
    ⟨-, body⟩ | ⟨header, read, ⟨-, body⟩ | ⟨notEnd, body⟩⟩ <;> rw [body]
  · exact ⟨nofun, nofun⟩
  · exact ⟨nofun, nofun⟩
  · refine ⟨nofun, fun s₂ next => ?_⟩
    cases next
    have inside := Mem.lt_of_readProtocol_ofBytes read
    have moved := advances s₁ reach header read notEnd
    dsimp only
    omega

/-- Over a buffer, the loop of `device_path_node_count` stops, within as many iterations as the
buffer has bytes, exactly when no header it reads is of a type other than `TYPE_END` with length
field `0`: such a header is the only way for it to run for ever. -/
theorem devicePathNodeCount_stops (nonNull : base ≠ 0) {fuel : Nat} (enough : bytes.length < fuel) :
    devicePathNodeCount (Mem.ofBytes base bytes) base fuel ≠ spin ↔
      ∀ s, Reaches (devicePathNodeCountBody (Mem.ofBytes base bytes)) ⟨0, 0, base⟩ s → ∀ header,
        (Mem.ofBytes base bytes).readProtocol s.currentNodePtr = ret header →
          header.type ≠ typeEnd → 0 < fromLeBytes header.length := by
  rw [devicePathNodeCount, if_neg nonNull]
  constructor
  · intro stops s reach header read notEnd
    refine Nat.pos_of_ne_zero fun empty => stops ?_
    exact loop_eq_spin_of_reaches reach
      (fun fuel => loop_devicePathNodeCountBody_stuck read notEnd empty fuel s.nodeCount s.devPathSize)
      fuel
  · intro advances
    exact loop_ne_spin_of_decreasing (fun s => base + bytes.length - s.currentNodePtr)
      (devicePathNodeCountBody_step _ advances) fuel (by dsimp only; omega)

theorem devicePathNodeCount_stops_pciPath :
    devicePathNodeCount (Mem.ofBytes 1 pciPath.bytes) 1 23 ≠ spin ∧
    devicePathNodeCount (Mem.ofBytes 1 zeroLengthNode) 1 5 = spin :=
  ⟨(devicePathNodeCount_stops (by decide) (by decide)).mpr
      (advances_of_reads (pciPath.reads_of_holds (Mem.holds_ofBytes 1 _))),
    not_not.mp fun stops => absurd
      ((devicePathNodeCount_stops (by decide) (by decide)).mp stops ⟨0, 0, 1⟩ .refl
        ⟨typeHardware, subtypePci, (0, 0)⟩ (by decide) (by decide))
      (by decide)⟩

/-- Over a buffer in which every header the loop of `device_path_node_count` reads lies inside
the buffer and is an end node or moves the pointer forward, the count returns `Ok` within as
many iterations as the buffer has bytes, and every iteration reads a header past the one
before, so no node is read twice. -/
theorem devicePathNodeCount_returns (nonNull : base ≠ 0)
    (reads : ∀ s, Reaches (devicePathNodeCountBody (Mem.ofBytes base bytes)) ⟨0, 0, base⟩ s →
      ∃ header, (Mem.ofBytes base bytes).readProtocol s.currentNodePtr = ret header ∧
        (header.type = typeEnd ∨ 0 < fromLeBytes header.length))
    {fuel : Nat} (enough : bytes.length < fuel) :
    (∃ count size, devicePathNodeCount (Mem.ofBytes base bytes) base fuel = ret (.ok (count, size))) ∧
    ∀ s s', Reaches (devicePathNodeCountBody (Mem.ofBytes base bytes)) ⟨0, 0, base⟩ s →
      devicePathNodeCountBody (Mem.ofBytes base bytes) s = ret (.inl s') →
        s.currentNodePtr < s'.currentNodePtr := by
  have steps := devicePathNodeCountBody_step _ (advances_of_reads reads)
  refine ⟨?_, fun s s' reach next => by have := (steps s reach).2 s' next; omega⟩
  rw [devicePathNodeCount, if_neg nonNull]
  obtain ⟨_, ⟨count, size, rfl⟩, returns⟩ := loop_ret_of_ne_spin (devicePathNodeCountBody_exits reads)
    (loop_ne_spin_of_decreasing _ steps fuel (by dsimp only; omega))
  exact ⟨count, size, returns⟩

theorem devicePathNodeCount_returns_pciPath :
    (∃ count size, devicePathNodeCount (Mem.ofBytes 1 pciPath.bytes) 1 23 = ret (.ok (count, size))) ∧
    ∀ s s', Reaches (devicePathNodeCountBody (Mem.ofBytes 1 pciPath.bytes)) ⟨0, 0, 1⟩ s →
      devicePathNodeCountBody (Mem.ofBytes 1 pciPath.bytes) s = ret (.inl s') →
        s.currentNodePtr < s'.currentNodePtr :=
  devicePathNodeCount_returns (by decide) (pciPath.reads_of_holds (Mem.holds_ofBytes 1 _)) (by decide)

end Buffer

theorem devicePathNodeCount_zero_length :
    (Mem.ofBytes 1 zeroLengthNode).readProtocol 1 = ret ⟨typeHardware, subtypePci, (0, 0)⟩ ∧
    (∀ fuel, devicePathNodeCount (Mem.ofBytes 1 zeroLengthNode) 1 fuel = spin) ∧
    DevicePathNode.new (Mem.ofBytes 1 zeroLengthNode) 1 = ret none := by
  have read : (Mem.ofBytes 1 zeroLengthNode).readProtocol 1 = ret ⟨typeHardware, subtypePci, (0, 0)⟩ :=
    by decide
  refine ⟨read, fun fuel => ?_, by decide⟩
  rw [devicePathNodeCount, if_neg (by decide)]
  exact loop_devicePathNodeCountBody_stuck read (by decide) rfl fuel 0 0

end Patina
