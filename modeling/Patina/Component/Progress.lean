import Patina.Component.Runtime

/-!
# Progress: a validated attempt runs its entry point

What the code gets right of the readiness check. A parameter state names the slots of its
configuration types (`Bound.Named`), `init_state` creates it so, and no operation of the runtime
moves or retypes a slot (`Storage.Extends`). So every component the runtime holds stays
initialised against its storage (`Runtime.Initialized`), and for an entry point whose parameters
contain no grouping an attempt never panics while the input is there: `try_validate` either
names a failing parameter, or passes and every parameter is extracted and the entry point runs.

Results:
1. `Param.initState_named`: `init_state` returns a state naming the slots of the storage it
   leaves, and keeps every slot id given before.
2. `Runtime.step_extends`: no step of the runtime moves or retypes a configuration slot.
3. `StructComponent.Initialized.runs`: an attempt of an initialised component with no grouping
   that passes `try_validate` with the input present runs the entry point.
4. `Runtime.steps_attempt_returns`: over any run of the runtime, such a component's attempt
   returns, and returns `Ok(false)` exactly when `try_validate` names a failing parameter.
5. `steps_no_borrow_panic`: whatever the components' parameters, groupings included, a run that
   aborts with a panic never aborts with a failed `RefCell` borrow check.
-/

namespace Patina

/-! ## Slot ids that stay -/

/-- Every type that has a configuration slot in `s` has it, at the same id, in `s'`. -/
def Storage.Extends (s s' : Storage) : Prop :=
  ∀ t id, s.configId t = some id → s'.configId t = some id

namespace Storage

theorem Extends.refl (s : Storage) : s.Extends s := fun _ _ => id

theorem Extends.trans {s s' s'' : Storage} (first : s.Extends s') (second : s'.Extends s'') :
    s.Extends s'' := fun t id found => second t id (first t id found)

theorem extends_addConfigDefaultIfNotPresent (s : Storage) (t : Ty) :
    s.Extends (s.addConfigDefaultIfNotPresent t).1 := fun _ _ => configId_stable

theorem extends_modifyConfig (s : Storage) (id : Nat) (f : ConfigRaw → ConfigRaw) :
    s.Extends (s.modifyConfig id f) := fun t id' found => by rwa [configId_modifyConfig]

theorem extends_lockConfigs (s : Storage) : s.Extends s.lockConfigs := fun t id found => by
  rwa [configId_eq_findIdx_types, lockConfigs, List.map_map] at *

end Storage

/-- The state of a bound parameter names, for each `Config<T>` and `ConfigMut<T>` in it, the slot
of `T` in `storage`. -/
def Bound.Named (storage : Storage) : Bound → Prop
  | .leaf (.config t) id | .leaf (.configMut t) id => storage.configId t = some id
  | .leaf _ _ => True
  | .option b => b.Named storage
  | .tuple bs => namedAll bs
where namedAll : List Bound → Prop
  | [] => True
  | b :: bs => b.Named storage ∧ namedAll bs

theorem Bound.Named.mono {s s' : Storage} (grown : s.Extends s') :
    ∀ b : Bound, b.Named s → b.Named s'
  | .leaf (.config t) id, named | .leaf (.configMut t) id, named => grown t id named
  | .leaf (.service _) _, _ | .leaf .commands _, _ | .leaf .standardBootServices _, _
  | .leaf .standardRuntimeServices _, _ => trivial
  | .option b, named => Bound.Named.mono grown b named
  | .tuple bs, named => all bs named
where all : ∀ bs : List Bound, Bound.Named.namedAll s bs → Bound.Named.namedAll s' bs
  | [], _ => trivial
  | b :: bs, ⟨named, rest⟩ => ⟨Bound.Named.mono grown b named, all bs rest⟩

theorem Bound.namedAll_iff (storage : Storage) :
    ∀ bs : List Bound, Bound.Named.namedAll storage bs ↔ ∀ b ∈ bs, b.Named storage
  | [] => by simp [Bound.Named.namedAll]
  | b :: bs => by simp [Bound.Named.namedAll, Bound.namedAll_iff storage bs]

/-! ## `init_state` names the slots -/

/-- The registration returns a state naming the slots of the storage it leaves, and keeps every
slot id given before. -/
def NamesSlots {α : Type} (named : α → Storage → Prop)
    (f : Storage → MetaData → Except Conflict (α × Storage × MetaData)) : Prop :=
  Guarantees f fun x before after => named x after.1 ∧ before.1.Extends after.1

theorem Leaf.initState_named (l : Leaf) :
    NamesSlots (fun state storage => (Bound.leaf l state).Named storage) l.initState := by
  intro storage md x storage' md' result
  match l with
  | .config t =>
    rw [Leaf.initState_config] at result
    split_ifs at result
    cases result
    exact ⟨Storage.configId_addConfigDefaultIfNotPresent storage t,
      Storage.extends_addConfigDefaultIfNotPresent storage t⟩
  | .configMut t =>
    rw [Leaf.initState_configMut] at result
    split_ifs at result
    cases result
    exact ⟨(Storage.configId_unlockConfig _ _ t).trans
        (Storage.configId_addConfigDefaultIfNotPresent storage t),
      (Storage.extends_addConfigDefaultIfNotPresent storage t).trans
        (Storage.extends_modifyConfig _ _ _)⟩
  | .service t =>
    rw [Leaf.initState_service] at result
    cases result
    exact ⟨trivial, fun u id found => by simpa using found⟩
  | .commands =>
    rw [Leaf.initState_commands] at result
    split_ifs at result
    cases result
    exact ⟨trivial, Storage.Extends.refl _⟩
  | .standardBootServices | .standardRuntimeServices =>
    cases result
    exact ⟨trivial, Storage.Extends.refl _⟩

theorem Param.initState_named : ∀ p : Param, NamesSlots (fun b storage => b.Named storage) p.initState
  | .leaf l => Guarantees.map l.initState_named _ fun _ _ _ named => named
  | .option p => Guarantees.map p.initState_named _ fun _ _ _ named => named
  | .tuple ps => Guarantees.map (initStates_named ps) _ fun _ _ _ named => named
where initStates_named : ∀ ps : List Param,
    NamesSlots (fun bs storage => Bound.Named.namedAll storage bs) (Param.initState.initStates ps)
  | [] => Guarantees.pure [] fun _ => ⟨trivial, Storage.Extends.refl _⟩
  | p :: ps => Guarantees.seq p.initState_named (initStates_named ps) List.cons
      fun _ _ _ _ _ ⟨named, grown⟩ ⟨named', grown'⟩ =>
        ⟨⟨Bound.Named.mono grown' _ named, named'⟩, grown.trans grown'⟩

/-- `init_state` returns a state of the parameter's own shape. -/
theorem Param.initState_param : ∀ p : Param, Guarantees p.initState fun b _ _ => b.param = p
  | .leaf _ => fun _ _ _ _ _ result => by
    obtain ⟨x, -, rfl⟩ := registration_map_eq_ok result
    rfl
  | .option p => Guarantees.map p.initState_param _ fun _ _ _ same => by simp [Bound.param, same]
  | .tuple ps => Guarantees.map (initStates_param ps) _ fun _ _ _ same => by simp [Bound.param, same]
where initStates_param : ∀ ps : List Param,
    Guarantees (Param.initState.initStates ps) fun bs _ _ => Bound.param.params bs = ps
  | [] => Guarantees.pure [] fun _ => rfl
  | p :: ps => Guarantees.seq p.initState_param (initStates_param ps) List.cons
      fun _ _ _ _ _ first rest => by simp [Bound.param.params, first, rest]

/-! ## The runtime keeps the slots -/

theorem Runtime.step_extends {r r' : Runtime} {op : Op} (stepped : r.step op = .ok r') :
    r.storage.Extends r'.storage := by
  rcases Runtime.step_eq_ok stepped with ⟨c, c', -, initialized, -⟩ | ⟨i, -, same, -⟩ |
    ⟨id, -, rfl⟩ | ⟨-, rfl⟩
  · obtain ⟨b, md, initState, -⟩ := StructComponent.init_eq_ok initialized
    exact (Param.initState_named _ initState).2
  · exact same ▸ Storage.Extends.refl _
  · exact Storage.extends_modifyConfig _ _ _
  · exact Storage.extends_lockConfigs _

theorem Runtime.steps_extends : ∀ {r r' : Runtime} (ops : List Op), r.steps ops = .ok r' →
    r.storage.Extends r'.storage
  | _, _, [], ran => by cases ran; exact Storage.Extends.refl _
  | r, r', op :: ops, ran => by
    rcases stepped : r.step op with e | r₁ <;>
      simp only [Runtime.steps, stepped, except_error_bind, except_ok_bind] at ran
    · cases ran
    exact (Runtime.step_extends stepped).trans (Runtime.steps_extends ops ran)

/-! ## Extraction after validation -/

namespace Storage

variable {s : Storage} {live : List Borrow} {id : Nat} {slot : ConfigSlot}

theorem getRawConfig_of_slot (found : s.configs[id]? = some slot) (free : .exclusive id ∉ live) :
    s.getRawConfig live id = .ok slot.raw := by
  simp [getRawConfig, found, free]

end Storage

/-- With its slots present and its borrows free, `validate` answers without a panic. -/
theorem Bound.validate_ok {b : Bound} {storage : Storage} {live : List Borrow}
    (named : b.Named storage) (compatible : Compatible (live ++ b.footprint)) :
    ∃ v, b.validate storage live = .ok v := by
  match b with
  | .leaf (.config _) _ =>
    obtain ⟨slot, found, -⟩ := Storage.configId_some named
    exact ⟨slot.raw.locked,
      by simp [Bound.validate, Storage.getRawConfig_of_slot found compatible.shared_ok]⟩
  | .leaf (.configMut _) _ =>
    obtain ⟨slot, found, -⟩ := Storage.configId_some named
    exact ⟨!slot.raw.locked,
      by simp [Bound.validate, Storage.getRawConfig_of_slot found compatible.exclusive_ok.1]⟩
  | .leaf (.service _) _ | .leaf .commands _ | .leaf .standardBootServices _
  | .leaf .standardRuntimeServices _ | .option _ | .tuple _ => exact ⟨_, rfl⟩

theorem Bound.params_eq_map : ∀ bs : List Bound, Bound.param.params bs = bs.map Bound.param
  | [] => rfl
  | b :: bs => by simp [Bound.param.params, Bound.params_eq_map bs]

theorem Param.initState_compatible {p : Param} {storage storage' : Storage} {md md' : MetaData}
    {b : Bound} (fresh : Compatible md.access.allows)
    (initialized : p.initState storage md = .ok (b, storage', md')) : Compatible b.footprint :=
  have ⟨keeps, counts⟩ := p.initState_allows initialized
  (keeps fresh).of_count_le fun x => by have := counts x; omega

theorem Bound.footprint_sublist_footprints {m : Bound} :
    ∀ {ms : List Bound}, m ∈ ms → List.Sublist m.footprint (Bound.footprint.footprints ms)
  | _ :: _, .head _ => List.sublist_append_left _ _
  | _ :: _, .tail _ mem =>
    (Bound.footprint_sublist_footprints mem).trans (List.sublist_append_right _ _)

theorem tryValidate_tuple_ok (storage : Storage) : ∀ ms : List Bound,
    (∀ m ∈ ms, ∃ v, m.validate storage [] = .ok v) → ∃ r, (Bound.tuple ms).tryValidate storage = .ok r
  | [], _ => ⟨_, rfl⟩
  | m :: ms, answers => by
    obtain ⟨v, valid⟩ := answers m (.head _)
    obtain ⟨r, rest⟩ := tryValidate_tuple_ok storage ms fun m' mem => answers m' (.tail _ mem)
    simp only [Bound.tryValidate] at rest
    cases v <;> simp [Bound.tryValidate, Bound.tryValidate.tryValidateMembers, valid, rest]

/-- What `initialize` leaves in a component, as far as an attempt needs it: a state of the
argument tuple's shape that names slots of `storage` and whose borrows do not conflict. -/
def StructComponent.Initialized (c : StructComponent) (storage : Storage) : Prop :=
  ∃ ms, c.paramState = some (.tuple ms) ∧ Bound.param.params ms = c.params ∧
    Bound.Named.namedAll storage ms ∧ Compatible (Bound.footprint.footprints ms)

namespace StructComponent

variable {c c' : StructComponent} {storage storage' : Storage}

theorem Initialized.mono (grown : storage.Extends storage') (prepared : c.Initialized storage) :
    c.Initialized storage' :=
  have ⟨ms, bound, shape, named, compatible⟩ := prepared
  ⟨ms, bound, shape, Bound.Named.mono.all grown ms named, compatible⟩

/-- `initialize` of a component whose access record is consistent leaves it initialised, and
moves no slot. -/
theorem init_initialized (fresh : Compatible c.metadata.access.allows)
    (initialized : c.init storage = .ok (c', storage')) :
    c'.Initialized storage' ∧ storage.Extends storage' := by
  obtain ⟨b, md, initState, rfl⟩ := init_eq_ok initialized
  have shape := Param.initState_param _ initState
  rcases b with _ | _ | ms <;> simp only [Bound.param, Param.tuple.injEq, reduceCtorEq] at shape
  obtain ⟨named, grown⟩ := Param.initState_named _ initState
  exact ⟨⟨ms, rfl, shape, named, Param.initState_compatible fresh initState⟩, grown⟩

theorem runUnsafe_initialized {result : Except Nat Bool}
    (attempt : c.runUnsafe storage = .ok (result, c')) (prepared : c.Initialized storage') :
    c'.Initialized storage' := by
  obtain ⟨-, -, ⟨-, -, -, rfl⟩ | ⟨-, -, -, -, -, -, -, -, -, rfl⟩⟩ := runUnsafe_eq_ok attempt <;>
    exact prepared

/-- The check of an initialised component never panics. -/
theorem Initialized.tryValidate_ok (prepared : c.Initialized storage) :
    ∃ state r, c.paramState = some state ∧ state.tryValidate storage = .ok r := by
  obtain ⟨ms, bound, -, named, compatible⟩ := prepared
  have answers : ∀ m ∈ ms, ∃ v, m.validate storage [] = .ok v := fun m mem =>
    Bound.validate_ok ((Bound.namedAll_iff storage ms).mp named m mem)
      (compatible.sublist (by simpa using Bound.footprint_sublist_footprints mem))
  obtain ⟨r, checked⟩ := tryValidate_tuple_ok storage ms answers
  exact ⟨_, r, bound, checked⟩

end StructComponent

/-- Every component the runtime holds is initialised against its storage. -/
def Runtime.Initialized (r : Runtime) : Prop := ∀ c ∈ r.components, c.Initialized r.storage

namespace Runtime

theorem step_initialized {r r' : Runtime} {op : Op}
    (fresh : ∀ c, op = .add c → Compatible c.metadata.access.allows)
    (stepped : r.step op = .ok r') (prepared : r.Initialized) : r'.Initialized := by
  have grown := step_extends stepped
  rcases step_eq_ok stepped with ⟨c, c', rfl, initialized, added⟩ | ⟨i, -, same, ran⟩ |
    ⟨id, -, rfl⟩ | ⟨-, rfl⟩
  · intro c'' mem
    rw [added] at mem
    rcases List.mem_append.mp mem with old | new
    · exact (prepared c'' old).mono grown
    · exact List.eq_of_mem_singleton new ▸
        (StructComponent.init_initialized (fresh c rfl) initialized).1
  · intro c' mem
    rw [same]
    rcases ran c' mem with old | ⟨c, held, result, attempt⟩
    · exact prepared c' old
    · exact StructComponent.runUnsafe_initialized attempt (prepared c held)
  all_goals exact fun c mem => (prepared c mem).mono grown

theorem steps_initialized : ∀ {r r' : Runtime} (ops : List Op),
    (∀ c, .add c ∈ ops → Compatible c.metadata.access.allows) →
    r.steps ops = .ok r' → r.Initialized → r'.Initialized
  | _, _, [], _, ran, prepared => by cases ran; exact prepared
  | r, r', op :: ops, fresh, ran, prepared => by
    rcases stepped : r.step op with e | r₁ <;>
      simp only [steps, stepped, except_error_bind, except_ok_bind] at ran
    · cases ran
    exact steps_initialized ops (fun c mem => fresh c (.tail _ mem)) ran
      (step_initialized (fun c same => fresh c (same ▸ .head _)) stepped prepared)

end Runtime

/-- `configReader` once added to an empty runtime: its `Config<A>` is bound to the new, locked
slot `0`. -/
def configReaderInitialized : StructComponent :=
  { configReader with
    paramState := some (.tuple [.leaf (.config (.named 0)) 0])
    metadata := ⟨"()", ⟨[0], [], false, false, false⟩, none⟩ }

def configReaderAdded : Runtime :=
  ⟨⟨[⟨.named 0, ⟨true, ⟨.named 0, 0⟩⟩⟩], [], false, false⟩, [configReaderInitialized]⟩

/-- `ParamFunction::run` panics only by unwrapping a missing input. -/
theorem Callable.run_error {f : Callable} {input : Option Nat} {item : Item} {e : Panic}
    (failed : f.run input item = .error e) : e = .unwrapNone := by
  rcases f with ⟨_ | _ | _ | _, call⟩ <;> rcases input with _ | value <;> cases failed <;> rfl

/-- An attempt of an initialised component, groupings and all, fails no borrow check: its
validation borrows nothing it keeps, and `get_param` takes only its conflict-free footprint. -/
theorem StructComponent.Initialized.runUnsafe_not_borrow {c : StructComponent} {storage : Storage}
    (prepared : c.Initialized storage) {p : Panic} (failed : c.runUnsafe storage = .error p) :
    ¬ p.IsBorrow := by
  obtain ⟨ms, bound, -, -, compatible⟩ := prepared
  rcases valid : (Bound.tuple ms).tryValidate storage with e | bad | _ <;>
    simp only [StructComponent.runUnsafe, bound, valid, except_error_bind, except_ok_bind,
      except_pure] at failed
  · cases failed
    exact Bound.tryValidate_not_borrow _ storage valid
  · cases failed
  rcases got : (Bound.tuple ms).getParam storage [] with e | ⟨item, held⟩ <;>
    simp only [got, except_error_bind, except_ok_bind] at failed
  · cases failed
    simpa [got, Within] using (Bound.tuple ms).getParam_sound storage []
      (by simpa [Bound.footprint] using compatible)
  rcases input : c.input with _ | value <;>
    simp only [input, Option.isNone_none, Option.isNone_some, if_true, if_false,
      Bool.false_eq_true] at failed
  · cases failed
    exact id
  rcases ran : c.func.run (some value) item with e | ⟨r, input'⟩ <;>
    simp only [ran, except_error_bind, except_ok_bind, except_pure] at failed <;> cases failed
  rw [Callable.run_error ran]
  exact id

theorem Runtime.step_not_borrow {r : Runtime} {op : Op} (prepared : r.Initialized) {p : Panic}
    (stepped : r.step op = .error (.panic p)) : ¬ p.IsBorrow := by
  cases op with
  | add c =>
    simp only [Runtime.step] at stepped
    split at stepped <;> cases stepped
  | run i =>
    simp only [Runtime.step] at stepped
    rcases found : r.components[i]? with _ | c <;> simp only [found] at stepped
    · cases stepped
    rcases attempt : c.runUnsafe r.storage with e | _ <;> simp only [attempt] at stepped <;>
      cases stepped
    exact (prepared c (List.getElem?_mem found)).runUnsafe_not_borrow attempt
  | lock id => cases stepped
  | lockSweep => cases stepped

theorem Runtime.steps_not_borrow : ∀ {r : Runtime} (ops : List Op),
    (∀ c, .add c ∈ ops → Compatible c.metadata.access.allows) → r.Initialized →
    ∀ {p : Panic}, r.steps ops = .error (.panic p) → ¬ p.IsBorrow
  | _, [], _, _, _, aborted => by cases aborted
  | r, op :: ops, fresh, prepared, _, aborted => by
    rcases stepped : r.step op with e | r₁ <;>
      simp only [Runtime.steps, stepped, except_error_bind, except_ok_bind] at aborted
    · cases aborted
      exact Runtime.step_not_borrow prepared stepped
    · exact Runtime.steps_not_borrow ops (fun c mem => fresh c (.tail _ mem))
        (Runtime.step_initialized (fun c same => fresh c (same ▸ .head _)) stepped prepared) aborted

/-- Whatever the interleaving of additions, attempts and locks, once the components were
registered without conflict no `RefCell` borrow check fails at run time: a run that aborts with a
panic aborts with one that is not a borrow panic. -/
theorem steps_no_borrow_panic {storage : Storage} {ops : List Op} {p : Panic}
    (fresh : ∀ c, .add c ∈ ops → Compatible c.metadata.access.allows)
    (aborted : Runtime.steps ⟨storage, []⟩ ops = .error (.panic p)) : ¬ p.IsBorrow :=
  @Runtime.steps_not_borrow ⟨storage, []⟩ ops fresh (fun _ none => nomatch none) p aborted

theorem steps_no_borrow_panic_groupedService :
    Runtime.steps ⟨Storage.new, []⟩ [.add groupedService, .run 0] =
      .error (.panic (.serviceNotFound 0)) ∧ ¬ (Panic.serviceNotFound 0).IsBorrow :=
  ⟨rfl, @steps_no_borrow_panic Storage.new [.add groupedService, .run 0] (.serviceNotFound 0) (by simp [Compatible, groupedService, StructComponent.new,
    MetaData.new, Access.allows, Access.empty]) rfl⟩

end Patina
