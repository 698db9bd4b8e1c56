import Patina.Component.Registration

/-!
# A locked configuration stops its writers

`ConfigMut<T>::validate` is `!is_locked()` of `T`'s slot, and the `try_validate` of the argument
tuple asks every member's `validate`. Once `T`'s slot is locked, by `ConfigMut::lock` or by the
sweep, every later attempt of a component that takes `ConfigMut<T>` among its arguments answers
`Ok(false)` without running its entry point, for as long as no component declaring
`ConfigMut<T>` is added, whose `init_state` would unlock the slot again
(`steps_unlock_after_sweep`). A `ConfigMut<T>` inside a grouping is not checked
(`runUnsafe_grouped_config`), so the result is about the top-level arguments.

The same flag decides `Config<T>::validate` the other way round, and both parameters of every
component the runtime holds are bound to `T`'s one slot: whatever the interleaving, a reader and
a writer of `T` are never both ready.

Results:
1. `validate_configMut_of_locked`: a `ConfigMut<T>` bound to a locked slot does not validate.
2. `steps_lock_stops_configMut`: over any run from an empty runtime, once `T`'s slot is locked,
   every attempt of a component holding a top-level `ConfigMut<T>` answers `Ok(false)`.
3. `steps_lock_readies_config`: from then on an attempt that does not run never blames a
   top-level `Config<T>`.
4. `step_add_writer_blocks_readers`: adding a component that declares `ConfigMut<T>` anywhere in
   its parameters makes every top-level `Config<T>` reader answer `Ok(false)`.
5. `steps_config_reader_writer_exclusive`: in every runtime reachable from an empty one, of a
   component with a top-level `Config<T>` and one with a top-level `ConfigMut<T>`, one of the
   two attempts answers `Ok(false)`.
-/

namespace Patina

/-- The parameter a component's top-level argument of type `p` is bound to. -/
theorem StructComponent.Initialized.member {c : StructComponent} {storage : Storage}
    (prepared : c.Initialized storage) {p : Param} (declares : p ∈ c.params) :
    ∃ ms m, c.paramState = some (.tuple ms) ∧ m ∈ ms ∧ m.param = p ∧ m.Named storage := by
  obtain ⟨ms, bound, shape, named, -⟩ := prepared
  rw [← shape, Bound.params_eq_map] at declares
  obtain ⟨m, member, rfl⟩ := List.mem_map.mp declares
  exact ⟨ms, m, bound, member, rfl, (Bound.namedAll_iff storage ms).mp named m member⟩

/-- The slot a top-level leaf argument of an initialised component is bound to. -/
theorem StructComponent.Initialized.leaf_member {c : StructComponent} {storage : Storage}
    (prepared : c.Initialized storage) {l : Leaf} (declares : .leaf l ∈ c.params) :
    ∃ ms id, c.paramState = some (.tuple ms) ∧ .leaf l id ∈ ms ∧ (Bound.leaf l id).Named storage := by
  obtain ⟨ms, m, bound, member, shape, named⟩ := prepared.member declares
  rcases m with ⟨l', id⟩ | _ | _ <;> simp only [Bound.param, Param.leaf.injEq, reduceCtorEq] at shape
  subst shape
  exact ⟨ms, id, bound, member, named⟩

/-- An initialised component one of whose top-level arguments does not validate answers
`Ok(false)`. -/
theorem StructComponent.Initialized.runUnsafe_false_of_refused {c : StructComponent}
    {storage : Storage} (prepared : c.Initialized storage) {ms : List Bound}
    (bound : c.paramState = some (.tuple ms)) {m : Bound} (member : m ∈ ms)
    (refused : m.validate storage [] = .ok false) : ∃ c', c.runUnsafe storage = .ok (.ok false, c') := by
  obtain ⟨state, checked, bound', answered⟩ := prepared.tryValidate_ok
  cases bound.symm.trans bound'
  rcases checked with bad | _
  · exact ⟨{ c with metadata := c.metadata.setFailedParam bad },
      by simp [StructComponent.runUnsafe, bound, answered]⟩
  · have passed := (tryValidate_tuple_iff storage ms).mp answered _ member
    rw [refused] at passed
    cases passed

theorem validate_config_of_unlocked {storage : Storage} {t : Ty} {id : Nat} {slot : ConfigSlot}
    (found : storage.configs[id]? = some slot) (unlocked : slot.raw.locked = false) :
    (Bound.leaf (.config t) id).validate storage [] = .ok false := by
  simp [Bound.validate, Storage.getRawConfig, found, unlocked]

theorem validate_configMut_of_locked {storage : Storage} {t : Ty} {id : Nat} {slot : ConfigSlot}
    (found : storage.configs[id]? = some slot) (locked : slot.raw.locked = true) :
    (Bound.leaf (.configMut t) id).validate storage [] = .ok false := by
  simp [Bound.validate, Storage.getRawConfig, found, locked]

/-- What both results on a locked slot start from: after the lock, every component the runtime
holds is initialised, and `T` keeps its slot, still locked, while no step unlocks it. -/
theorem steps_locked_slot_stays {storage : Storage} {ops ops' : List Op} {r r' : Runtime}
    {t : Ty} {id : Nat} {slot : ConfigSlot}
    (fresh : ∀ c, .add c ∈ ops ++ ops' → Compatible c.metadata.access.allows)
    (ran : Runtime.steps ⟨storage, []⟩ ops = .ok r) (found : r.storage.configId t = some id)
    (at_id : r.storage.configs[id]? = some slot) (locked : slot.raw.locked = true)
    (rest : r.steps ops' = .ok r') (other : ∀ op ∈ ops', ¬ op.Unlocks t) :
    r'.Initialized ∧ r'.storage.configId t = some id ∧ r'.storage.configs[id]? = some slot := by
  refine ⟨Runtime.steps_initialized ops' (fun c mem => fresh c (by simp [mem])) rest
    (Runtime.steps_initialized ops (fun c mem => fresh c (by simp [mem])) ran
      fun _ none => nomatch none), Runtime.steps_extends ops' rest t id found, ?_⟩
  obtain ⟨slot', at_id', typed⟩ := Storage.configId_some found
  cases at_id.symm.trans at_id'
  exact Runtime.steps_keep_locked_slot locked ops' (fun op mem => typed ▸ other op mem) rest at_id

theorem steps_lock_stops_configMut {storage : Storage} {ops ops' : List Op} {r r' : Runtime}
    {t : Ty} {id : Nat} {slot : ConfigSlot}
    (fresh : ∀ c, .add c ∈ ops ++ ops' → Compatible c.metadata.access.allows)
    (ran : Runtime.steps ⟨storage, []⟩ ops = .ok r) (found : r.storage.configId t = some id)
    (at_id : r.storage.configs[id]? = some slot) (locked : slot.raw.locked = true)
    (rest : r.steps ops' = .ok r') (other : ∀ op ∈ ops', ¬ op.Unlocks t)
    {c : StructComponent} (held : c ∈ r'.components) (declares : .leaf (.configMut t) ∈ c.params) :
    ∃ c', c.runUnsafe r'.storage = .ok (.ok false, c') := by
  obtain ⟨prepared, stays, kept⟩ := steps_locked_slot_stays fresh ran found at_id locked rest other
  obtain ⟨ms, id', bound, member, named⟩ := (prepared c held).leaf_member declares
  cases stays.symm.trans named
  exact (prepared c held).runUnsafe_false_of_refused bound member
    (validate_configMut_of_locked kept locked)

/-- A component taking `ConfigMut<A>`; the same component initialised on an empty storage; the
runtime after it was added and the lock sweep ran. -/
def lockWriter : StructComponent :=
  .new ⟨.noInput, fun _ _ => (.ok (), 0)⟩ [.leaf (.configMut (.named 0))] "()" 0

def lockWriterInitialized : StructComponent :=
  { lockWriter with
    paramState := some (.tuple [.leaf (.configMut (.named 0)) 0])
    metadata := ⟨"()", ⟨[], [0], false, false, false⟩, none⟩ }

def lockedWriter : Runtime :=
  ⟨⟨[⟨.named 0, ⟨true, ⟨.named 0, 0⟩⟩⟩], [], false, false⟩, [lockWriterInitialized]⟩

theorem steps_lock_stops_configMut_sweep :
    Runtime.steps ⟨Storage.new, []⟩ [.add lockWriter, .lockSweep] = .ok lockedWriter ∧
    ∃ c', lockWriterInitialized.runUnsafe lockedWriter.storage = .ok (.ok false, c') :=
  ⟨rfl, @steps_lock_stops_configMut Storage.new [.add lockWriter, .lockSweep] [] lockedWriter
    lockedWriter (.named 0) 0 ⟨.named 0, ⟨true, ⟨.named 0, 0⟩⟩⟩
    (by simp [Compatible, lockWriter, StructComponent.new, MetaData.new, Access.allows,
      Access.empty])
    rfl rfl rfl rfl rfl (by simp) lockWriterInitialized (.head _) (.head _)⟩

/-- Once `T`'s slot is locked, and for as long as no component declaring `ConfigMut<T>` is added,
an attempt that does not run never blames `Config<T>`: every top-level `Config<T>` validates. -/
theorem steps_lock_readies_config {storage : Storage} {ops ops' : List Op} {r r' : Runtime}
    {t : Ty} {id : Nat} {slot : ConfigSlot}
    (fresh : ∀ c, .add c ∈ ops ++ ops' → Compatible c.metadata.access.allows)
    (ran : Runtime.steps ⟨storage, []⟩ ops = .ok r) (found : r.storage.configId t = some id)
    (at_id : r.storage.configs[id]? = some slot) (locked : slot.raw.locked = true)
    (rest : r.steps ops' = .ok r') (other : ∀ op ∈ ops', ¬ op.Unlocks t)
    {c c' : StructComponent} (held : c ∈ r'.components)
    (failed : c.runUnsafe r'.storage = .ok (.ok false, c')) :
    c'.metadata.failedParam ≠ some (.leaf (.config t)) := by
  obtain ⟨prepared, stays, kept⟩ := steps_locked_slot_stays fresh ran found at_id locked rest other
  obtain ⟨ms, bound, -, named, -⟩ := prepared c held
  obtain ⟨state, bound', ⟨bad, invalid, -, rfl⟩ | ⟨-, -, result, -, -, -, -, -, ran, -⟩⟩ :=
    StructComponent.runUnsafe_eq_ok failed
  · cases bound.symm.trans bound'
    obtain ⟨before, m, after, rfl, -, refused, rfl⟩ := (tryValidate_tuple_error _ bad _).mp invalid
    intro blamed
    simp only [MetaData.setFailedParam, Option.some.injEq] at blamed
    rcases m with ⟨l, id'⟩ | _ | _ <;> simp only [Bound.param, Param.leaf.injEq, reduceCtorEq] at blamed
    subst blamed
    have bindsT : r'.storage.configId t = some id' :=
      (Bound.namedAll_iff _ _).mp named (.leaf (.config t) id') (by simp)
    cases stays.symm.trans bindsT
    simp [Bound.validate, Storage.getRawConfig, kept, locked] at refused
  · exact absurd ran.symm (StructComponent.map_true_ne_ok_false result)

/-- A component taking `Config<A>` and `Service<S>`; the same component initialised on an empty
storage, where `A`'s new slot is locked and `S` is not published; the runtime after it was added;
the component after an attempt blamed `Service<S>`. -/
def readerUserNew : StructComponent :=
  .new ⟨.noInput, fun _ _ => (.ok (), 0)⟩ [.leaf (.config (.named 0)), .leaf (.service (.named 1))]
    "()" 0

def readerUserInitialized : StructComponent :=
  { readerUserNew with
    paramState := some (.tuple [.leaf (.config (.named 0)) 0, .leaf (.service (.named 1)) 0])
    metadata := ⟨"()", ⟨[0], [], false, false, false⟩, none⟩ }

def readerUserAdded : Runtime :=
  ⟨⟨[⟨.named 0, ⟨true, ⟨.named 0, 0⟩⟩⟩], [⟨.named 1, none⟩], false, false⟩, [readerUserInitialized]⟩

def readerUserBlocked : StructComponent :=
  { readerUserInitialized with
    metadata := readerUserInitialized.metadata.setFailedParam (.leaf (.service (.named 1))) }

theorem steps_lock_readies_config_readerUser :
    Runtime.steps ⟨Storage.new, []⟩ [.add readerUserNew] = .ok readerUserAdded ∧
    readerUserInitialized.runUnsafe readerUserAdded.storage = .ok (.ok false, readerUserBlocked) ∧
    readerUserBlocked.metadata.failedParam ≠ some (.leaf (.config (.named 0))) :=
  ⟨rfl, rfl, @steps_lock_readies_config Storage.new [.add readerUserNew] [] readerUserAdded
    readerUserAdded (.named 0) 0 ⟨.named 0, ⟨true, ⟨.named 0, 0⟩⟩⟩
    (by simp [Compatible, readerUserNew, StructComponent.new, MetaData.new, Access.allows,
      Access.empty])
    rfl rfl rfl rfl rfl (by simp) readerUserInitialized readerUserBlocked (.head _) rfl⟩

/-- Whatever the interleaving of additions, attempts and locks, a component reading `Config<T>`
and one writing `ConfigMut<T>` are never both ready: one of their attempts answers `Ok(false)`. -/
theorem steps_config_reader_writer_exclusive {storage : Storage} {ops : List Op} {r : Runtime}
    (fresh : ∀ c, .add c ∈ ops → Compatible c.metadata.access.allows)
    (ran : Runtime.steps ⟨storage, []⟩ ops = .ok r) {reader writer : StructComponent} {t : Ty}
    (heldReader : reader ∈ r.components) (heldWriter : writer ∈ r.components)
    (reads : .leaf (.config t) ∈ reader.params) (writes : .leaf (.configMut t) ∈ writer.params) :
    (∃ c', reader.runUnsafe r.storage = .ok (.ok false, c')) ∨
      ∃ c', writer.runUnsafe r.storage = .ok (.ok false, c') := by
  have prepared := Runtime.steps_initialized ops fresh ran fun _ none => nomatch none
  obtain ⟨ms, id, bound, member, named⟩ := (prepared reader heldReader).leaf_member reads
  obtain ⟨ms', id', bound', member', named'⟩ := (prepared writer heldWriter).leaf_member writes
  cases named.symm.trans named'
  obtain ⟨slot, at_id, -⟩ := Storage.configId_some named
  cases locked : slot.raw.locked
  · exact .inl ((prepared reader heldReader).runUnsafe_false_of_refused bound member
      (validate_config_of_unlocked at_id locked))
  · exact .inr ((prepared writer heldWriter).runUnsafe_false_of_refused bound' member'
      (validate_configMut_of_locked at_id locked))

/-- `configReader` and `lockWriter` added one after the other: the writer's `init_state` unlocked
`A`'s slot. -/
def readerAndWriter : Runtime :=
  ⟨⟨[⟨.named 0, ⟨false, ⟨.named 0, 0⟩⟩⟩], [], false, false⟩,
    [configReaderInitialized, lockWriterInitialized]⟩

theorem steps_config_reader_writer_exclusive_added :
    Runtime.steps ⟨Storage.new, []⟩ [.add configReader, .add lockWriter] = .ok readerAndWriter ∧
    ((∃ c', configReaderInitialized.runUnsafe readerAndWriter.storage = .ok (.ok false, c')) ∨
      ∃ c', lockWriterInitialized.runUnsafe readerAndWriter.storage = .ok (.ok false, c')) :=
  ⟨rfl, @steps_config_reader_writer_exclusive Storage.new [.add configReader, .add lockWriter]
    readerAndWriter (by simp [Compatible, configReader, lockWriter, StructComponent.new,
      MetaData.new, Access.allows, Access.empty])
    rfl configReaderInitialized lockWriterInitialized (.named 0) (.head _) (.tail _ (.head _))
    (.head _) (.head _)⟩

/-- Adding a component that declares `ConfigMut<T>` anywhere in its parameters leaves `T`'s slot
unlocked. -/
theorem Runtime.step_add_unlocks {r r' : Runtime} {c : StructComponent} {t : Ty}
    (added : r.step (.add c) = .ok r') (declares : .configMut t ∈ (Param.tuple c.params).leaves) :
    r'.storage.Unlocked t := by
  rcases initialized : c.init r.storage with e | ⟨c', storage⟩ <;>
    simp only [Runtime.step, initialized] at added <;> cases added
  obtain ⟨b, md, initState, -⟩ := StructComponent.init_eq_ok initialized
  have effect := (Param.tuple c.params).initState_actsAs r.storage c.metadata
  rw [initState] at effect
  exact registerLeaves_unlocks effect.symm declares

/-- Adding a component that declares `ConfigMut<T>`, anywhere in its parameters and whether or not
it ever runs, blocks at once every component of the runtime reading `Config<T>` at the top level,
ready as it may have been. -/
theorem step_add_writer_blocks_readers {storage : Storage} {ops : List Op} {r r' : Runtime}
    {c : StructComponent} {t : Ty}
    (fresh : ∀ c', .add c' ∈ ops ++ [.add c] → Compatible c'.metadata.access.allows)
    (ran : Runtime.steps ⟨storage, []⟩ ops = .ok r) (added : r.step (.add c) = .ok r')
    (declares : .configMut t ∈ (Param.tuple c.params).leaves) {reader : StructComponent}
    (held : reader ∈ r'.components) (reads : .leaf (.config t) ∈ reader.params) :
    ∃ c', reader.runUnsafe r'.storage = .ok (.ok false, c') := by
  have prepared := Runtime.step_initialized (fun c' same => fresh c' (by cases same; simp)) added
    (Runtime.steps_initialized ops (fun c' mem => fresh c' (by simp [mem])) ran
      fun _ none => nomatch none)
  obtain ⟨ms, id, bound, member, named⟩ := (prepared reader held).leaf_member reads
  obtain ⟨id', slot, found, at_id, unlocked⟩ := Runtime.step_add_unlocks added declares
  cases named.symm.trans found
  exact (prepared reader held).runUnsafe_false_of_refused bound member
    (validate_config_of_unlocked at_id unlocked)

/-- `configReader` was ready in `configReaderAdded`, where `A`'s slot is locked; adding
`lockWriter` blocks it. -/
theorem step_add_writer_blocks_readers_lockWriter :
    Runtime.steps ⟨Storage.new, []⟩ [.add configReader] = .ok configReaderAdded ∧
    configReaderAdded.step (.add lockWriter) = .ok readerAndWriter ∧
    ∃ c', configReaderInitialized.runUnsafe readerAndWriter.storage = .ok (.ok false, c') :=
  ⟨rfl, rfl, @step_add_writer_blocks_readers Storage.new [.add configReader] configReaderAdded
    readerAndWriter lockWriter (.named 0)
    (by simp [Compatible, configReader, lockWriter, StructComponent.new, MetaData.new,
      Access.allows, Access.empty])
    rfl rfl (by decide) configReaderInitialized (.head _) (.head _)⟩

end Patina
