import Patina.Component.Progress

/-!
# `init_state` registers the leaves one after another

`init_state` of a tuple calls its members' `init_state` in order, and `Option<P>` calls `P`'s, so
however a parameter type is nested, the storage and the access record go through the
`init_state` of each leaf in declaration order. `registerLeaves` is that flat sequence, and
`ActsAs f L` says that a registration `f` changes the storage and the record as `registerLeaves L`
does and fails with the same conflict.

Registering leaves whose slots exist changes nothing but the record:
`add_config_default_if_not_present` and `register_service` return the slot already there, and
`unlock_config` of an unlocked slot leaves it as it is (`Repeats`).

Results:
1. `Param.initState_actsAs`: every parameter type acts as its leaves.
2. `initState_effect_eq_of_leaves_eq`: two parameter types with the same leaves in the same order
   change the storage and the record alike and fail with the same conflict, however they group
   the leaves into tuples or wrap them in `Option`.
3. `initState_again`: a second component declaring the same parameter type, initialised on the
   storage the first left, gets the same state and records the same accesses, and the storage
   does not change.
4. `initState_unlocks_configMut`: declaring `ConfigMut<T>` anywhere in a parameter type leaves
   `T`'s slot unlocked after `init_state`.
5. `initState_first_conflict`: from a fresh record, `init_state` fails at the first leaf that
   conflicts with the leaves before it, and the message names that leaf, the component, and an
   earlier leaf of the same type.
-/

namespace Patina

/-- Registering the leaves `L` one after another with their own `init_state`, keeping the
storage and the access record and dropping the states. -/
def registerLeaves : List Leaf → Storage → MetaData → Except Conflict (Storage × MetaData)
  | [], storage, md => .ok (storage, md)
  | l :: L, storage, md => do
    let (_, storage, md) ← l.initState storage md
    registerLeaves L storage md

theorem registerLeaves_append (L M : List Leaf) (storage : Storage) (md : MetaData) :
    registerLeaves (L ++ M) storage md =
      registerLeaves L storage md >>= fun (storage, md) => registerLeaves M storage md := by
  induction L generalizing storage md with
  | nil => rfl
  | cons l L ih =>
    simp only [List.cons_append, registerLeaves]
    rcases l.initState storage md with c | ⟨_, storage', md'⟩
    · rfl
    · exact ih storage' md'

/-- The registration `f` changes the storage and the access record as registering the leaves
`L` one after another does, and fails with the same conflict. -/
def ActsAs {α : Type} (f : Storage → MetaData → Except Conflict (α × Storage × MetaData))
    (L : List Leaf) : Prop :=
  ∀ storage md, (f storage md).map Prod.snd = registerLeaves L storage md

namespace ActsAs

variable {α β γ : Type}
  {f : Storage → MetaData → Except Conflict (α × Storage × MetaData)}
  {g : Storage → MetaData → Except Conflict (β × Storage × MetaData)} {M N : List Leaf}

theorem pure (x : α) : ActsAs (fun storage md => .ok (x, storage, md)) [] := fun _ _ => rfl

theorem map (acts : ActsAs f M) (k : α → β) :
    ActsAs (fun storage md => do
      let (x, storage, md) ← f storage md
      return (k x, storage, md)) M := by
  intro storage md
  rw [← acts storage md]
  dsimp only
  rcases f storage md with c | _ <;> rfl

theorem seq (first : ActsAs f M) (second : ActsAs g N) (h : α → β → γ) :
    ActsAs (fun storage md => do
      let (x, storage, md) ← f storage md
      let (y, storage, md) ← g storage md
      return (h x y, storage, md)) (M ++ N) := by
  intro storage md
  rw [registerLeaves_append, ← first storage md]
  dsimp only
  rcases f storage md with c | ⟨x, storage', md'⟩
  · rfl
  · show (g storage' md' >>= _).map Prod.snd = registerLeaves N storage' md'
    rw [← second storage' md']
    rcases g storage' md' with c | _ <;> rfl

end ActsAs

theorem Leaf.initState_actsAs (l : Leaf) : ActsAs l.initState [l] := by
  intro storage md
  simp only [registerLeaves]
  rcases l.initState storage md with c | _ <;> rfl

theorem Param.initState_actsAs : ∀ p : Param, ActsAs p.initState p.leaves
  | .leaf l => (l.initState_actsAs).map _
  | .option p => (p.initState_actsAs).map _
  | .tuple ps => (initStates_actsAs ps).map _
where initStates_actsAs : ∀ ps : List Param,
    ActsAs (Param.initState.initStates ps) (Param.leaves.leavesOf ps)
  | [] => ActsAs.pure []
  | p :: ps => (p.initState_actsAs).seq (initStates_actsAs ps) List.cons

/-- `(Config<A>, (ConfigMut<B>,))`. -/
def nestedReaderWriter : Param :=
  .tuple [.leaf (.config (.named 0)), .tuple [.leaf (.configMut (.named 1))]]

/-- `Option<(Config<A>, ConfigMut<B>)>`. -/
def optionalReaderWriter : Param :=
  .option (.tuple [.leaf (.config (.named 0)), .leaf (.configMut (.named 1))])

/-- `s'` keeps every slot id of `s`, for configurations and services alike, and every
configuration slot unlocked in `s` is unlocked in `s'`. -/
structure Storage.Settles (s s' : Storage) : Prop where
  configIds : s.Extends s'
  serviceIds : ∀ t (id : Nat), s.serviceId t = some id → s'.serviceId t = some id
  unlocked : ∀ (id : Nat) (slot : ConfigSlot), s.configs[id]? = some slot →
    slot.raw.locked = false →
      ∃ slot' : ConfigSlot, s'.configs[id]? = some slot' ∧ slot'.raw.locked = false

namespace Storage

theorem getElem?_unlockConfig_self (s : Storage) (id : Nat) :
    (s.unlockConfig id).configs[id]? =
      (s.configs[id]?).map fun slot => { slot with raw := { slot.raw with locked := false } } := by
  simp [unlockConfig, modifyConfig, List.getElem?_modify]

end Storage

namespace Storage.Settles

variable {s s' s'' : Storage}

theorem refl (s : Storage) : s.Settles s :=
  ⟨Extends.refl s, fun _ _ => id, fun _ slot found free => ⟨slot, found, free⟩⟩

theorem trans (first : s.Settles s') (second : s'.Settles s'') : s.Settles s'' where
  configIds := first.configIds.trans second.configIds
  serviceIds t id found := second.serviceIds t id (first.serviceIds t id found)
  unlocked id slot found free :=
    have ⟨slot', found', free'⟩ := first.unlocked id slot found free
    second.unlocked id slot' found' free'

theorem addConfigDefaultIfNotPresent (s : Storage) (t : Ty) :
    s.Settles (s.addConfigDefaultIfNotPresent t).1 where
  configIds := extends_addConfigDefaultIfNotPresent s t
  serviceIds _ _ found := by simpa [serviceId] using found
  unlocked _ slot found free := ⟨slot, getElem?_addConfigDefaultIfNotPresent found t, free⟩

theorem unlockConfig (s : Storage) (id : Nat) : s.Settles (s.unlockConfig id) where
  configIds := extends_modifyConfig s id _
  serviceIds _ _ found := by simpa [unlockConfig, serviceId] using found
  unlocked id' slot found free := by
    by_cases same : id = id'
    · subst same
      exact ⟨{ slot with raw := { slot.raw with locked := false } },
        by simp [getElem?_unlockConfig_self, found], rfl⟩
    · exact ⟨slot, by rwa [getElem?_unlockConfig_of_ne same], free⟩

theorem registerService (s : Storage) (t : Ty) : s.Settles (s.registerService t).1 where
  configIds _ _ found := by simpa using found
  serviceIds _ _ found := serviceId_stable found
  unlocked _ slot found free := ⟨slot, by simpa using found, free⟩

end Storage.Settles

theorem Leaf.initState_settles (l : Leaf) :
    Guarantees l.initState fun _ before after => before.1.Settles after.1 := by
  intro storage md x storage' md' result
  cases l with
  | config t =>
    rw [Leaf.initState_config] at result
    split_ifs at result
    cases result
    exact Storage.Settles.addConfigDefaultIfNotPresent storage t
  | configMut t =>
    rw [Leaf.initState_configMut] at result
    split_ifs at result
    cases result
    exact (Storage.Settles.addConfigDefaultIfNotPresent storage t).trans
      (Storage.Settles.unlockConfig _ _)
  | service t =>
    rw [Leaf.initState_service] at result
    cases result
    exact Storage.Settles.registerService storage t
  | commands =>
    rw [Leaf.initState_commands] at result
    split_ifs at result
    cases result
    exact Storage.Settles.refl storage
  | standardBootServices | standardRuntimeServices =>
    cases result
    exact Storage.Settles.refl storage

theorem Param.initState_settles :
    ∀ p : Param, Guarantees p.initState fun _ before after => before.1.Settles after.1
  | .leaf l => Guarantees.map l.initState_settles _ fun _ _ _ settles => settles
  | .option p => Guarantees.map p.initState_settles _ fun _ _ _ settles => settles
  | .tuple ps => Guarantees.map (initStates_settles ps) _ fun _ _ _ settles => settles
where initStates_settles : ∀ ps : List Param,
    Guarantees (Param.initState.initStates ps) fun _ before after => before.1.Settles after.1
  | [] => Guarantees.pure [] fun before => Storage.Settles.refl before.1
  | p :: ps => Guarantees.seq p.initState_settles (initStates_settles ps) List.cons
      fun _ _ _ _ _ first second => first.trans second

/-- `T` has a configuration slot, and it is unlocked. -/
def Storage.Unlocked (s : Storage) (t : Ty) : Prop :=
  ∃ id slot, s.configId t = some id ∧ s.configs[id]? = some slot ∧ slot.raw.locked = false

theorem Storage.Settles.keeps_unlocked {s s' : Storage} (settles : s.Settles s') {t : Ty}
    (free : s.Unlocked t) : s'.Unlocked t :=
  have ⟨id, slot, found, at_id, unlocked⟩ := free
  have ⟨slot', at_id', unlocked'⟩ := settles.unlocked id slot at_id unlocked
  ⟨id, slot', settles.configIds t id found, at_id', unlocked'⟩

theorem Leaf.initState_configMut_unlocked {t : Ty} {storage storage' : Storage} {md md' : MetaData}
    {x : Nat} (result : (Leaf.configMut t).initState storage md = .ok (x, storage', md')) :
    storage'.Unlocked t := by
  rw [Leaf.initState_configMut] at result
  split_ifs at result
  cases result
  have found := Storage.configId_addConfigDefaultIfNotPresent storage t
  obtain ⟨slot, at_id, -⟩ := Storage.configId_some found
  exact ⟨_, { slot with raw := { slot.raw with locked := false } },
    (Storage.configId_unlockConfig _ _ t).trans found,
    by simp [Storage.getElem?_unlockConfig_self, at_id], rfl⟩

/-- Run again on any storage that settles what a first run left, with the access record the
first run started from, the registration `f` returns what it returned, changes nothing in the
storage, and records what the first run recorded. -/
def Repeats {α : Type} (f : Storage → MetaData → Except Conflict (α × Storage × MetaData)) :
    Prop :=
  ∀ ⦃storage md x storage' md'⦄, f storage md = .ok (x, storage', md') →
    ∀ ⦃storage''⦄, storage'.Settles storage'' → ∀ md'' : MetaData,
      md''.access = md.access →
        f storage'' md'' = .ok (x, storage'', { md'' with access := md'.access })

namespace Repeats

variable {α β γ : Type}
  {f : Storage → MetaData → Except Conflict (α × Storage × MetaData)}
  {g : Storage → MetaData → Except Conflict (β × Storage × MetaData)}

theorem pure (x : α) : Repeats (fun storage md => .ok (x, storage, md)) := by
  rintro storage md _ _ _ ⟨⟩ storage'' - md'' same
  simp [← same]

theorem map (repeats : Repeats f) (k : α → β) :
    Repeats (fun storage md => do
      let (x, storage, md) ← f storage md
      return (k x, storage, md)) := by
  intro storage md y storage' md' result storage'' settled md'' same
  obtain ⟨x, first, rfl⟩ := registration_map_eq_ok result
  simp [repeats first settled md'' same]

theorem seq (first : Repeats f) (second : Repeats g)
    (settles : Guarantees g fun _ before after => before.1.Settles after.1) (h : α → β → γ) :
    Repeats (fun storage md => do
      let (x, storage, md) ← f storage md
      let (y, storage, md) ← g storage md
      return (h x y, storage, md)) := by
  intro storage md z storage' md' result storage'' settled md'' same
  obtain ⟨x, y, storage₁, md₁, result₁, result₂, rfl⟩ := registration_seq_eq_ok result
  have again₁ := first result₁ ((settles result₂).trans settled) md'' same
  have again₂ := second result₂ settled { md'' with access := md₁.access } rfl
  simp [again₁, again₂]

end Repeats

theorem Leaf.initState_repeats (l : Leaf) : Repeats l.initState := by
  intro storage md x storage' md' result storage'' settled md'' same
  cases l with
  | config t =>
    rw [Leaf.initState_config] at result
    split_ifs at result with all written
    cases result
    rw [Leaf.initState_config, Storage.addConfigDefaultIfNotPresent_of_configId
      (settled.configIds t _ (Storage.configId_addConfigDefaultIfNotPresent storage t))]
    simp [same, all, written]
  | configMut t =>
    obtain ⟨id, slot, found, at_id, free⟩ :=
      settled.keeps_unlocked (Leaf.initState_configMut_unlocked result)
    rw [Leaf.initState_configMut] at result
    split_ifs at result with all reads written read
    cases result
    cases (settled.configIds t _ ((Storage.configId_unlockConfig _ _ t).trans
      (Storage.configId_addConfigDefaultIfNotPresent storage t))).symm.trans found
    rw [Leaf.initState_configMut, Storage.addConfigDefaultIfNotPresent_of_configId found,
      Storage.unlockConfig_of_unlocked at_id free]
    simp [same, all, reads, written, read]
  | service t =>
    rw [Leaf.initState_service] at result
    cases result
    rw [Leaf.initState_service, Storage.registerService_of_serviceId
      (settled.serviceIds t _ (Storage.serviceId_registerService storage t))]
    simp [← same]
  | commands =>
    rw [Leaf.initState_commands] at result
    split_ifs at result with queued
    cases result
    simp [Leaf.initState_commands, same, queued]
  | standardBootServices | standardRuntimeServices =>
    cases result
    simp [Leaf.initState, ← same]

theorem Param.initState_repeats : ∀ p : Param, Repeats p.initState
  | .leaf l => (l.initState_repeats).map _
  | .option p => (p.initState_repeats).map _
  | .tuple ps => (initStates_repeats ps).map _
where initStates_repeats : ∀ ps : List Param, Repeats (Param.initState.initStates ps)
  | [] => Repeats.pure []
  | p :: ps => (p.initState_repeats).seq (initStates_repeats ps)
      (Param.initState_settles.initStates_settles ps) List.cons

theorem initState_again (p : Param) {storage storage' : Storage} {b : Bound} {md : MetaData}
    {name : String} (first : p.initState storage (MetaData.new name) = .ok (b, storage', md))
    (name' : String) :
    p.initState storage' (MetaData.new name') = .ok (b, storage', ⟨name', md.access, none⟩) :=
  p.initState_repeats first (Storage.Settles.refl storage') (MetaData.new name') rfl

theorem initState_again_nested :
    nestedReaderWriter.initState Storage.new (MetaData.new "a") =
      .ok (.tuple [.leaf (.config (.named 0)) 0, .tuple [.leaf (.configMut (.named 1)) 1]],
        readerWriterStorage, ⟨"a", ⟨[0], [1], false, false, false⟩, none⟩) ∧
    nestedReaderWriter.initState readerWriterStorage (MetaData.new "b") =
      .ok (.tuple [.leaf (.config (.named 0)) 0, .tuple [.leaf (.configMut (.named 1)) 1]],
        readerWriterStorage, ⟨"b", ⟨[0], [1], false, false, false⟩, none⟩) :=
  ⟨rfl, @initState_again nestedReaderWriter Storage.new _ _ _ "a" rfl "b"⟩

/-! ## A writer unlocks its slot -/

theorem registerLeaves_cons_eq_ok {l : Leaf} {L : List Leaf} {storage : Storage} {md : MetaData}
    {r : Storage × MetaData} (registered : registerLeaves (l :: L) storage md = .ok r) :
    ∃ x storage₁ md₁, l.initState storage md = .ok (x, storage₁, md₁) ∧
      registerLeaves L storage₁ md₁ = .ok r := by
  rcases first : l.initState storage md with e | ⟨x, storage₁, md₁⟩ <;>
    simp only [registerLeaves, first, except_error_bind, except_ok_bind] at registered
  · cases registered
  exact ⟨x, storage₁, md₁, rfl, registered⟩

theorem registerLeaves_settles : ∀ {L : List Leaf} {storage storage' : Storage} {md md' : MetaData},
    registerLeaves L storage md = .ok (storage', md') → storage.Settles storage'
  | [], _, _, _, _, registered => by cases registered; exact Storage.Settles.refl _
  | l :: _, _, _, _, _, registered =>
    have ⟨_, _, _, first, rest⟩ := registerLeaves_cons_eq_ok registered
    (Leaf.initState_settles l first).trans (registerLeaves_settles rest)

theorem registerLeaves_unlocks {t : Ty} : ∀ {L : List Leaf} {storage storage' : Storage}
    {md md' : MetaData}, registerLeaves L storage md = .ok (storage', md') → .configMut t ∈ L →
      storage'.Unlocked t
  | [], _, _, _, _, _, member => nomatch member
  | _ :: _, _, _, _, _, registered, member => by
    obtain ⟨_, _, _, first, rest⟩ := registerLeaves_cons_eq_ok registered
    rcases List.mem_cons.mp member with rfl | later
    · exact (registerLeaves_settles rest).keeps_unlocked (Leaf.initState_configMut_unlocked first)
    · exact registerLeaves_unlocks rest later

/-- Declaring `ConfigMut<T>` anywhere in a parameter type, inside groupings and `Option`s too,
leaves `T`'s slot unlocked once `init_state` returns, whether or not the component ever runs. -/
theorem initState_unlocks_configMut (p : Param) {storage storage' : Storage} {md md' : MetaData}
    {b : Bound} {t : Ty} (declares : .configMut t ∈ p.leaves)
    (initialized : p.initState storage md = .ok (b, storage', md')) : storage'.Unlocked t := by
  have effect := p.initState_actsAs storage md
  rw [initialized] at effect
  exact registerLeaves_unlocks effect.symm declares

theorem initState_unlocks_configMut_optional :
    .configMut (.named 1) ∈ optionalReaderWriter.leaves ∧
    ∃ b md, optionalReaderWriter.initState Storage.new (MetaData.new "c") =
        .ok (b, readerWriterStorage, md) ∧ readerWriterStorage.Unlocked (.named 1) :=
  ⟨by decide, _, _, rfl, @initState_unlocks_configMut optionalReaderWriter Storage.new
    readerWriterStorage (MetaData.new "c") _ _ (.named 1) (by decide) rfl⟩

/-! ## The first conflict -/

/-- The earlier leaf a conflict message names (`... conflicts with a previous ConfigMut<T>
access.` and the like): an access of the parameter's own type. The `&Storage` and `&mut Storage`
accesses are no leaves. -/
def Conflict.priorLeaf (c : Conflict) : Option Leaf :=
  match c.param, c.prior with
  | .config t, .configMut => some (.configMut t)
  | .configMut t, .configMut => some (.configMut t)
  | .configMut t, .config => some (.config t)
  | .commands, .commands => some .commands
  | _, _ => none

section Leaf

variable {l : Leaf} {storage storage' : Storage} {md md' : MetaData} {before : List Leaf}

theorem Leaf.initState_name {x : l.State}
    (result : l.initState storage md = .ok (x, storage', md')) : md'.name = md.name := by
  cases l with
  | config t | configMut t | commands =>
    simp only [Leaf.initState_config, Leaf.initState_configMut, Leaf.initState_commands] at result
    split_ifs at result
    cases result
    rfl
  | service t =>
    rw [Leaf.initState_service] at result
    cases result
    rfl
  | standardBootServices | standardRuntimeServices =>
    cases result
    rfl

/-- A leaf's `init_state`, on a record that tracks the leaves `before`, fails only on an earlier
leaf its message names: `Config<T>` after `ConfigMut<T>`, `ConfigMut<T>` after either, and
`Commands` after `Commands`. -/
theorem Leaf.initState_error {c : Conflict} (tracks : Tracks storage md.access before)
    (failed : l.initState storage md = .error c) :
    c.param = l ∧ c.component = md.name ∧
      ∃ prior, c.priorLeaf = some prior ∧ prior ∈ before := by
  have added : ∀ t, Tracks (storage.addConfigDefaultIfNotPresent t).1 md.access before := fun t =>
    tracks.extend fun u id => Storage.configId_stable
  have found := Storage.configId_addConfigDefaultIfNotPresent storage
  cases l with
  | config t =>
    rw [Leaf.initState_config, if_neg (by simp [tracks.writesAll])] at failed
    split_ifs at failed with written
    cases failed
    exact ⟨rfl, rfl, _, rfl, ((added t).hasConfigWrite_iff (found t)).mp written⟩
  | configMut t =>
    rw [Leaf.initState_configMut, if_neg (by simp [tracks.writesAll]),
      if_neg (by simp [tracks.readsAll])] at failed
    split_ifs at failed with written read <;> cases failed
    · exact ⟨rfl, rfl, _, rfl, ((added t).hasConfigWrite_iff (found t)).mp written⟩
    · exact ⟨rfl, rfl, _, rfl, ((added t).hasConfigRead_iff (found t)).mp read⟩
  | commands =>
    rw [Leaf.initState_commands] at failed
    split_ifs at failed with queued
    cases failed
    exact ⟨rfl, rfl, _, rfl, tracks.deferred.mp queued⟩
  | service t =>
    rw [Leaf.initState_service] at failed
    cases failed
  | standardBootServices | standardRuntimeServices => cases failed

end Leaf

/-- Registering `L` after the leaves `before`, which bring no conflict: a failure names a leaf of
`L` at which the leaves so far first conflict, and an earlier leaf. -/
theorem registerLeaves_error {c : Conflict} :
    ∀ {L before : List Leaf} {storage : Storage} {md : MetaData},
    Tracks storage md.access before → ¬ Conflicting before →
    registerLeaves L storage md = .error c →
    c.component = md.name ∧ ∃ pre post prior, L = pre ++ c.param :: post ∧
      ¬ Conflicting (before ++ pre) ∧ c.priorLeaf = some prior ∧ prior ∈ before ++ pre
  | [], _, _, _, _, _, failed => by cases failed
  | l :: L, before, storage, md, tracks, fine, failed => by
    rcases result : l.initState storage md with c' | ⟨x, storage', md'⟩ <;>
      simp only [registerLeaves, result, except_error_bind, except_ok_bind] at failed
    · cases failed
      obtain ⟨rfl, named, prior, names, earlier⟩ := Leaf.initState_error tracks result
      exact ⟨named, [], L, prior, rfl, by simpa using fine, names, by simpa using earlier⟩
    · have ⟨fails, records⟩ := l.initState_registers tracks fine
      have fine' : ¬ Conflicting (before ++ [l]) := fun conflicting => by
        obtain ⟨c'', failed'⟩ := fails.mpr conflicting
        simp [result] at failed'
      obtain ⟨named, pre, post, prior, rfl, first, names, earlier⟩ :=
        registerLeaves_error (records x storage' md' result) fine' failed
      exact ⟨named.trans (Leaf.initState_name result), l :: pre, post, prior, rfl,
        by simpa using first, names, by simpa using earlier⟩

theorem initState_first_conflict (p : Param) (storage : Storage) (name : String) {c : Conflict}
    (failed : p.initState storage (MetaData.new name) = .error c) :
    c.component = name ∧ ∃ before after prior, p.leaves = before ++ c.param :: after ∧
      ¬ Conflicting before ∧ c.priorLeaf = some prior ∧ prior ∈ before := by
  have acts := p.initState_actsAs storage (MetaData.new name)
  rw [failed] at acts
  simpa using registerLeaves_error (Tracks.empty storage) (by simp [Conflicting]) acts.symm

/-- `(Config<A>, Service<S>, ConfigMut<A>)`: the third leaf conflicts with the first. -/
def readerServiceWriter : Param :=
  .tuple [.leaf (.config (.named 0)), .leaf (.service (.named 1)), .leaf (.configMut (.named 0))]

theorem initState_first_conflict_readerServiceWriter :
    readerServiceWriter.initState Storage.new (MetaData.new "c") =
      .error ⟨.configMut (.named 0), .config, "c"⟩ ∧
    ("c" = "c" ∧ ∃ before after prior,
      readerServiceWriter.leaves = before ++ .configMut (.named 0) :: after ∧
      ¬ Conflicting before ∧
      (⟨.configMut (.named 0), .config, "c"⟩ : Conflict).priorLeaf = some prior ∧
      prior ∈ before) :=
  ⟨rfl, initState_first_conflict readerServiceWriter Storage.new "c" rfl⟩

end Patina
