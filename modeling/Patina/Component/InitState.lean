import Patina.Component.Param

/-!
# Registration conflicts

`StructComponent::initialize` runs `init_state` of the component's parameter type against a
fresh access record. Each `Config`, `ConfigMut` and `Commands` leaf checks what the leaves
before it recorded and records its own access, so a whole parameter type, however nested,
is checked leaf by leaf in declaration order.

`Registers f M` says that a registration `f` behaves as registering the leaves `M` would: it
fails exactly when `M` brings a conflict, and otherwise records `M`. It composes
(`Registers.seq`), which turns the tree of `init_state` calls into the list of its leaves.

Results:
1. `Leaf.initState_registers`: one leaf.
2. `Param.initState_registers`: any parameter type registers its leaves.
3. `initState_conflict_iff`: from an empty access record, `init_state` fails exactly when the
   leaves hold two `ConfigMut` of one type, a `Config` and a `ConfigMut` of one type, or two
   `Commands`, in any positions; otherwise the read set is the ids of the `Config` types, the
   write set those of the `ConfigMut` types, the two are disjoint, and the deferred flag is set
   exactly when there is a `Commands` leaf.
-/

namespace Patina

/-- The leaves of a parameter type in declaration order, those under an `Option` included. -/
def Param.leaves : Param → List Leaf
  | .leaf l => [l]
  | .option p => p.leaves
  | .tuple ps => leavesOf ps
where leavesOf : List Param → List Leaf
  | [] => []
  | p :: ps => p.leaves ++ leavesOf ps

/-- Leaves that no component may declare together. -/
def Conflicting (leaves : List Leaf) : Prop :=
  (∃ t, 2 ≤ leaves.count (.configMut t)) ∨ (∃ t, .config t ∈ leaves ∧ .configMut t ∈ leaves) ∨
    2 ≤ leaves.count .commands

/-- The conflict a leaf has with the leaves registered before it. -/
def Leaf.ConflictsWith : Leaf → List Leaf → Prop
  | .config t, before => .configMut t ∈ before
  | .configMut t, before => .configMut t ∈ before ∨ .config t ∈ before
  | .commands, before => .commands ∈ before
  | _, _ => False

/-! ## Conflicts, leaf by leaf -/

theorem Conflicting.append {L : List Leaf} (conflicting : Conflicting L) (M : List Leaf) :
    Conflicting (L ++ M) := by
  rcases conflicting with ⟨t, two⟩ | ⟨t, read, written⟩ | two
  · exact .inl ⟨t, by rw [List.count_append]; omega⟩
  · exact .inr (.inl ⟨t, List.mem_append_left _ read, List.mem_append_left _ written⟩)
  · exact .inr (.inr (by rw [List.count_append]; omega))

/-- A second copy of `m` arrives with `l` exactly when `l` is `m` and `m` was there already. -/
theorem two_le_count_append_singleton {L : List Leaf} {l m : Leaf} :
    2 ≤ (L ++ [l]).count m ↔ 2 ≤ L.count m ∨ m = l ∧ m ∈ L := by
  rw [List.count_append, List.count_singleton, ← List.one_le_count_iff]
  by_cases same : l = m
  · subst same
    simp only [beq_self_eq_true, if_true, true_and]
    omega
  · simp [same, Ne.symm same]

theorem conflicting_append_singleton {L : List Leaf} {l : Leaf} :
    Conflicting (L ++ [l]) ↔ Conflicting L ∨ l.ConflictsWith L := by
  simp only [Conflicting, two_le_count_append_singleton, List.mem_append, List.mem_singleton]
  cases l <;> simp only [Leaf.ConflictsWith, Leaf.config.injEq, Leaf.configMut.injEq, reduceCtorEq,
      true_and, false_and, and_false, or_false, false_or, exists_false, or_and_right, and_or_left,
      exists_or, exists_eq_left, exists_eq_right] <;>
    exact Iff.of_eq (by ac_rfl)

/-! ## What the access record holds -/

/-- The storage and the access record after the leaves `L` were registered. -/
structure Tracks (storage : Storage) (access : Access) (L : List Leaf) : Prop where
  readsAll : access.readsAllConfigs = false
  writesAll : access.writesAllConfigs = false
  reads : ∀ id, id ∈ access.configReads ↔ ∃ t, .config t ∈ L ∧ storage.configId t = some id
  writes : ∀ id, id ∈ access.configWrites ↔ ∃ t, .configMut t ∈ L ∧ storage.configId t = some id
  deferred : access.usesDeferred = true ↔ .commands ∈ L
  slots : ∀ t, .config t ∈ L ∨ .configMut t ∈ L → ∃ id, storage.configId t = some id

namespace Tracks

variable {storage storage' : Storage} {access : Access} {L : List Leaf}

theorem empty (storage : Storage) : Tracks storage Access.empty [] where
  readsAll := rfl
  writesAll := rfl
  reads := by simp [Access.empty]
  writes := by simp [Access.empty]
  deferred := by simp [Access.empty]
  slots := by simp

theorem extend (tracks : Tracks storage access L)
    (stable : ∀ t id, storage.configId t = some id → storage'.configId t = some id) :
    Tracks storage' access L := by
  have moved : ∀ t id, (.config t ∈ L ∨ .configMut t ∈ L) →
      (storage.configId t = some id ↔ storage'.configId t = some id) := by
    intro t id present
    obtain ⟨j, found⟩ := tracks.slots t present
    refine ⟨stable t id, fun found' => ?_⟩
    obtain rfl := Option.some.inj ((stable t j found).symm.trans found')
    exact found
  exact { tracks with
    reads := fun id => by
      rw [tracks.reads]
      exact exists_congr fun t => and_congr_right fun read => moved t id (.inl read)
    writes := fun id => by
      rw [tracks.writes]
      exact exists_congr fun t => and_congr_right fun written => moved t id (.inr written)
    slots := fun t present => by
      obtain ⟨id, found⟩ := tracks.slots t present
      exact ⟨id, stable t id found⟩ }

theorem hasConfigWrite_iff (tracks : Tracks storage access L) {t : Ty} {id : Nat}
    (found : storage.configId t = some id) : access.hasConfigWrite id = true ↔ .configMut t ∈ L := by
  simp only [Access.hasConfigWrite, List.contains, List.elem_iff, tracks.writes]
  constructor
  · rintro ⟨u, written, found'⟩
    rwa [Storage.configId_inj found found']
  · exact fun written => ⟨t, written, found⟩

theorem hasConfigRead_iff (tracks : Tracks storage access L) {t : Ty} {id : Nat}
    (found : storage.configId t = some id) : access.hasConfigRead id = true ↔ .config t ∈ L := by
  simp only [Access.hasConfigRead, List.contains, List.elem_iff, tracks.reads]
  constructor
  · rintro ⟨u, read, found'⟩
    rwa [Storage.configId_inj found found']
  · exact fun read => ⟨t, read, found⟩

theorem addConfigRead (tracks : Tracks storage access L) {t : Ty} {id : Nat}
    (found : storage.configId t = some id) :
    Tracks storage (access.addConfigRead id) (L ++ [.config t]) where
  readsAll := tracks.readsAll
  writesAll := tracks.writesAll
  reads := fun id' => by
    simp only [Access.addConfigRead, List.mem_append, List.mem_singleton, tracks.reads,
      Leaf.config.injEq]
    constructor
    · rintro (⟨u, read, found'⟩ | rfl)
      · exact ⟨u, .inl read, found'⟩
      · exact ⟨t, .inr rfl, found⟩
    · rintro ⟨u, read | rfl, found'⟩
      · exact .inl ⟨u, read, found'⟩
      · exact .inr (Option.some.inj (found.symm.trans found')).symm
  writes := fun id' => by simp [Access.addConfigRead, tracks.writes]
  deferred := by simp [Access.addConfigRead, tracks.deferred]
  slots := fun u present => by
    simp only [List.mem_append, List.mem_singleton, Leaf.config.injEq, reduceCtorEq, or_false]
      at present
    rcases present with (read | rfl) | written
    · exact tracks.slots u (.inl read)
    · exact ⟨id, found⟩
    · exact tracks.slots u (.inr written)

theorem addConfigWrite (tracks : Tracks storage access L) {t : Ty} {id : Nat}
    (found : storage.configId t = some id) :
    Tracks storage (access.addConfigWrite id) (L ++ [.configMut t]) where
  readsAll := tracks.readsAll
  writesAll := tracks.writesAll
  reads := fun id' => by simp [Access.addConfigWrite, tracks.reads]
  writes := fun id' => by
    simp only [Access.addConfigWrite, List.mem_append, List.mem_singleton, tracks.writes,
      Leaf.configMut.injEq]
    constructor
    · rintro (⟨u, written, found'⟩ | rfl)
      · exact ⟨u, .inl written, found'⟩
      · exact ⟨t, .inr rfl, found⟩
    · rintro ⟨u, written | rfl, found'⟩
      · exact .inl ⟨u, written, found'⟩
      · exact .inr (Option.some.inj (found.symm.trans found')).symm
  deferred := by simp [Access.addConfigWrite, tracks.deferred]
  slots := fun u present => by
    simp only [List.mem_append, List.mem_singleton, Leaf.configMut.injEq, reduceCtorEq, or_false]
      at present
    rcases present with read | written | rfl
    · exact tracks.slots u (.inl read)
    · exact tracks.slots u (.inr written)
    · exact ⟨id, found⟩

theorem deferred' (tracks : Tracks storage access L) :
    Tracks storage access.deferred (L ++ [.commands]) where
  readsAll := tracks.readsAll
  writesAll := tracks.writesAll
  reads := fun id => by simp [Access.deferred, tracks.reads]
  writes := fun id => by simp [Access.deferred, tracks.writes]
  deferred := by simp [Access.deferred]
  slots := fun u present => tracks.slots u (by simpa using present)

theorem unrecorded (tracks : Tracks storage access L) {l : Leaf}
    (unrecorded : ∀ t, l ≠ .config t ∧ l ≠ .configMut t) (noQueue : l ≠ .commands) :
    Tracks storage access (L ++ [l]) where
  readsAll := tracks.readsAll
  writesAll := tracks.writesAll
  reads := fun id => by simp [tracks.reads, (unrecorded _).1.symm]
  writes := fun id => by simp [tracks.writes, (unrecorded _).2.symm]
  deferred := by simp [tracks.deferred, noQueue.symm]
  slots := fun u present => tracks.slots u (by simpa [(unrecorded u).1.symm, (unrecorded u).2.symm]
    using present)

end Tracks

/-! ## Registrations -/

/-- The registration `f` behaves as registering the leaves `M`: from any storage and record
holding leaves without a conflict, it fails exactly when `M` brings one, and otherwise records
`M`. -/
def Registers {α : Type} (f : Storage → MetaData → Except Conflict (α × Storage × MetaData))
    (M : List Leaf) : Prop :=
  ∀ ⦃storage md L⦄, Tracks storage md.access L → ¬ Conflicting L →
    ((∃ c, f storage md = .error c) ↔ Conflicting (L ++ M)) ∧
    ∀ x storage' md', f storage md = .ok (x, storage', md') → Tracks storage' md'.access (L ++ M)

theorem Leaf.initState_registers : ∀ l : Leaf, Registers l.initState [l]
  | .config t => by
    intro storage md L tracks fine
    have found := Storage.configId_addConfigDefaultIfNotPresent storage t
    have tracks' := tracks.extend fun u id => Storage.configId_stable (t := t)
    rw [conflicting_append_singleton, or_iff_right fine, Leaf.initState_config,
      if_neg (by simp [tracks.writesAll])]
    by_cases written : Leaf.configMut t ∈ L
    · rw [if_pos ((tracks'.hasConfigWrite_iff found).mpr written)]
      exact ⟨⟨fun _ => written, fun _ => ⟨_, rfl⟩⟩, by simp⟩
    · rw [if_neg (mt (tracks'.hasConfigWrite_iff found).mp written)]
      refine ⟨by simp [Leaf.ConflictsWith, written], ?_⟩
      rintro _ _ _ ⟨⟩
      exact tracks'.addConfigRead found
  | .configMut t => by
    intro storage md L tracks fine
    have found := Storage.configId_addConfigDefaultIfNotPresent storage t
    have tracks' := tracks.extend fun u id => Storage.configId_stable (t := t)
    rw [conflicting_append_singleton, or_iff_right fine, Leaf.initState_configMut,
      if_neg (by simp [tracks.writesAll]), if_neg (by simp [tracks.readsAll])]
    by_cases written : Leaf.configMut t ∈ L
    · rw [if_pos ((tracks'.hasConfigWrite_iff found).mpr written)]
      exact ⟨⟨fun _ => .inl written, fun _ => ⟨_, rfl⟩⟩, by simp⟩
    rw [if_neg (mt (tracks'.hasConfigWrite_iff found).mp written)]
    by_cases read : Leaf.config t ∈ L
    · rw [if_pos ((tracks'.hasConfigRead_iff found).mpr read)]
      exact ⟨⟨fun _ => .inr read, fun _ => ⟨_, rfl⟩⟩, by simp⟩
    rw [if_neg (mt (tracks'.hasConfigRead_iff found).mp read)]
    refine ⟨by simp [Leaf.ConflictsWith, written, read], ?_⟩
    rintro _ _ _ ⟨⟩
    exact (tracks'.extend fun u id found' => by simpa using found').addConfigWrite (by simpa using found)
  | .commands => by
    intro storage md L tracks fine
    rw [conflicting_append_singleton, or_iff_right fine, Leaf.initState_commands]
    by_cases queued : Leaf.commands ∈ L
    · rw [if_pos (show md.access.hasDeferred = true from tracks.deferred.mpr queued)]
      exact ⟨⟨fun _ => queued, fun _ => ⟨_, rfl⟩⟩, by simp⟩
    · rw [if_neg (show ¬ md.access.hasDeferred = true from mt tracks.deferred.mp queued)]
      refine ⟨by simp [Leaf.ConflictsWith, queued], ?_⟩
      rintro _ _ _ ⟨⟩
      exact tracks.deferred'
  | .service t => by
    intro storage md L tracks fine
    rw [conflicting_append_singleton, or_iff_right fine, Leaf.initState_service]
    refine ⟨by simp [Leaf.ConflictsWith], ?_⟩
    rintro _ _ _ ⟨⟩
    exact (tracks.extend fun u id found => by simpa using found).unrecorded (by simp) (by simp)
  | .standardBootServices | .standardRuntimeServices => by
    intro storage md L tracks fine
    rw [conflicting_append_singleton, or_iff_right fine]
    refine ⟨by simp [Leaf.initState, Leaf.ConflictsWith], ?_⟩
    rintro _ _ _ ⟨⟩
    exact tracks.unrecorded (by simp) (by simp)

namespace Registers

variable {α β γ : Type} {M N : List Leaf}

theorem pure (x : α) : Registers (fun storage md => .ok (x, storage, md)) [] := by
  intro storage md L tracks fine
  simp only [List.append_nil, reduceCtorEq, exists_false, false_iff]
  exact ⟨fine, by rintro _ _ _ ⟨⟩; exact tracks⟩

theorem map {f : Storage → MetaData → Except Conflict (α × Storage × MetaData)}
    (registers : Registers f M) (g : α → β) :
    Registers (fun storage md => do
      let (x, storage, md) ← f storage md
      return (g x, storage, md)) M := by
  intro storage md L tracks fine
  have ⟨fails, records⟩ := registers tracks fine
  refine ⟨by rw [← fails]; rcases result : f storage md with c | _ <;> simp [result],
    fun y storage' md' result => ?_⟩
  obtain ⟨x, first, -⟩ := registration_map_eq_ok result
  exact records x storage' md' first

theorem seq {f : Storage → MetaData → Except Conflict (α × Storage × MetaData)}
    {g : Storage → MetaData → Except Conflict (β × Storage × MetaData)}
    (first : Registers f M) (second : Registers g N) (h : α → β → γ) :
    Registers (fun storage md => do
      let (x, storage, md) ← f storage md
      let (y, storage, md) ← g storage md
      return (h x y, storage, md)) (M ++ N) := by
  intro storage md L tracks fine
  have ⟨fails, records⟩ := first tracks fine
  rw [← List.append_assoc]
  rcases result : f storage md with c | ⟨x, storage', md'⟩
  · refine ⟨iff_of_true ⟨c, by simp [result]⟩ ((fails.mp ⟨c, result⟩).append N), fun z _ _ ok => ?_⟩
    obtain ⟨x, y, _, _, result₁, -⟩ := registration_seq_eq_ok ok
    simp [result] at result₁
  · have fine' : ¬ Conflicting (L ++ M) := fun conflicting => by
      obtain ⟨c, failed⟩ := fails.mpr conflicting
      simp [result] at failed
    have ⟨fails', records'⟩ := second (records x storage' md' result) fine'
    refine ⟨by rw [← fails']; rcases result' : g storage' md' with c | _ <;> simp [result, result'],
      fun z storage'' md'' ok => ?_⟩
    obtain ⟨x', y, _, _, result₁, result₂, -⟩ := registration_seq_eq_ok ok
    rw [result] at result₁
    cases result₁
    exact records' y storage'' md'' result₂

end Registers

theorem Param.initState_registers : ∀ p : Param, Registers p.initState p.leaves
  | .leaf l => (l.initState_registers).map _
  | .option p => (p.initState_registers).map _
  | .tuple ps => (initStates_registers ps).map _
where initStates_registers : ∀ ps : List Param,
    Registers (Param.initState.initStates ps) (Param.leaves.leavesOf ps)
  | [] => Registers.pure []
  | p :: ps => (p.initState_registers).seq (initStates_registers ps) List.cons

/-! ## `StructComponent::initialize` -/

theorem initState_conflict_iff (p : Param) (storage : Storage) (name : String) :
    ((∃ c, p.initState storage (MetaData.new name) = .error c) ↔ Conflicting p.leaves) ∧
    ∀ b storage' md, p.initState storage (MetaData.new name) = .ok (b, storage', md) →
      (∀ id, id ∈ md.access.configReads ↔
        ∃ t, .config t ∈ p.leaves ∧ storage'.configId t = some id) ∧
      (∀ id, id ∈ md.access.configWrites ↔
        ∃ t, .configMut t ∈ p.leaves ∧ storage'.configId t = some id) ∧
      (∀ id, id ∈ md.access.configReads → id ∉ md.access.configWrites) ∧
      (md.access.usesDeferred = true ↔ .commands ∈ p.leaves) := by
  have empty : Tracks storage (MetaData.new name).access [] := Tracks.empty storage
  have ⟨fails, records⟩ := p.initState_registers empty (by simp [Conflicting])
  simp only [List.nil_append] at fails records
  refine ⟨fails, fun b storage' md result => ?_⟩
  have tracks := records b storage' md result
  refine ⟨tracks.reads, tracks.writes, fun id read written => ?_, tracks.deferred⟩
  obtain ⟨t, readT, foundT⟩ := (tracks.reads id).mp read
  obtain ⟨u, writtenU, foundU⟩ := (tracks.writes id).mp written
  obtain rfl := Storage.configId_inj foundT foundU
  obtain ⟨c, failed⟩ := fails.mpr (.inr (.inl ⟨t, readT, writtenU⟩))
  simp [result] at failed

end Patina
