import Patina.Component.StructComponent

/-!
# The component runtime: initialise, run, lock

The scheduler that drives components is not among the sources. `Runtime.step` models what the
spec says it and the running components do (§2, §6): add a component and initialise it, offer
a component one run attempt, `ConfigMut::lock` on a slot, and the sweep that locks every slot.
The module docs of `params.rs` promise that a locked slot cannot be unlocked; `ConfigMut`'s
`init_state` unlocks its slot whatever its state.

Results:
1. `Param.initState_keeps_slot`: initialising parameters leaves every locked slot as it was,
   unless one of them is a `ConfigMut` of the slot's type.
2. `steps_keep_locked_slot`: over any run of the runtime, a locked slot keeps its type, lock and
   value, unless a component with a `ConfigMut` of its type is added.
3. `steps_unlock_after_sweep`: a component with a `ConfigMut<T>` added after the lock sweep
   unlocks `T`'s slot again.
-/

namespace Patina

/-! ## Initialisation and locked slots -/

namespace Storage

theorem getElem?_addConfigDefaultIfNotPresent {s : Storage} {id : Nat} {slot : ConfigSlot}
    (found : s.configs[id]? = some slot) (t : Ty) :
    (s.addConfigDefaultIfNotPresent t).1.configs[id]? = some slot := by
  unfold addConfigDefaultIfNotPresent
  split
  · exact found
  · simpa [List.getElem?_append_left (List.getElem?_eq_some_iff.mp found).1] using found

theorem getElem?_unlockConfig_of_ne {s : Storage} {id id' : Nat} (other : id' ≠ id) :
    (s.unlockConfig id').configs[id]? = s.configs[id]? := by
  simp [unlockConfig, modifyConfig, List.getElem?_modify, other]

end Storage

/-- The registration `f` leaves slot `id` as `slot`. -/
def KeepsSlot {α : Type} (id : Nat) (slot : ConfigSlot)
    (f : Storage → MetaData → Except Conflict (α × Storage × MetaData)) : Prop :=
  Guarantees f fun _ before after => before.1.configs[id]? = some slot → after.1.configs[id]? = some slot

section KeepsSlot

variable {id : Nat} {slot : ConfigSlot}

theorem Leaf.initState_keeps_slot {l : Leaf} (other : ∀ t, l = .configMut t → t ≠ slot.type) :
    KeepsSlot id slot l.initState := by
  intro storage md x storage' md' result found
  match l with
  | .config t =>
    rw [Leaf.initState_config] at result
    split_ifs at result
    cases result
    exact Storage.getElem?_addConfigDefaultIfNotPresent found t
  | .configMut t =>
    rw [Leaf.initState_configMut] at result
    split_ifs at result
    cases result
    have added := Storage.getElem?_addConfigDefaultIfNotPresent found t
    obtain ⟨slot', at_id', typed⟩ :=
      Storage.configId_some (Storage.configId_addConfigDefaultIfNotPresent storage t)
    have distinct : (storage.addConfigDefaultIfNotPresent t).2 ≠ id := by
      rintro same
      rw [same, added] at at_id'
      cases at_id'
      exact other t rfl typed.symm
    rwa [Storage.getElem?_unlockConfig_of_ne distinct]
  | .service t =>
    rw [Leaf.initState_service] at result
    cases result
    simpa using found
  | .commands =>
    rw [Leaf.initState_commands] at result
    split_ifs at result
    cases result
    exact found
  | .standardBootServices | .standardRuntimeServices =>
    cases result
    exact found

theorem Param.initState_keeps_slot : ∀ p : Param, (∀ t, .configMut t ∈ p.leaves → t ≠ slot.type) →
    KeepsSlot id slot p.initState
  | .leaf l, other => Guarantees.map
      (Leaf.initState_keeps_slot fun t same => other t (by simp [Param.leaves, same])) _ fun _ _ _ keeps => keeps
  | .option p, other => Guarantees.map
      (p.initState_keeps_slot fun t mem => other t (by simpa [Param.leaves] using mem)) _ fun _ _ _ keeps => keeps
  | .tuple ps, other => Guarantees.map
      (initStates_keeps_slot ps fun t mem => other t (by simpa [Param.leaves] using mem)) _ fun _ _ _ keeps => keeps
where initStates_keeps_slot : ∀ ps : List Param,
    (∀ t, .configMut t ∈ Param.leaves.leavesOf ps → t ≠ slot.type) →
      KeepsSlot id slot (Param.initState.initStates ps)
  | [], _ => Guarantees.pure [] fun _ found => found
  | p :: ps, other => Guarantees.seq
      (p.initState_keeps_slot fun t mem => other t (by simp [Param.leaves.leavesOf, mem]))
      (initStates_keeps_slot ps fun t mem => other t (by simp [Param.leaves.leavesOf, mem])) List.cons
      fun _ _ _ _ _ first second => second ∘ first

end KeepsSlot

/-! ## The runtime -/

/-- Modelled from the spec: what the scheduler and the running components do. -/
inductive Op where
  /-- Add a component and call its `initialize`. -/
  | add (c : StructComponent)
  /-- Offer component `i` one run attempt. -/
  | run (i : Nat)
  /-- `ConfigMut::lock` on slot `id`, from a running component. -/
  | lock (id : Nat)
  /-- The sweep that locks every slot once no component can make progress. -/
  | lockSweep

/-- Why the runtime stops: a conflicting declaration or a panic during a run. -/
inductive Abort where
  | conflict (c : Conflict)
  | panic (p : Panic)

/-- Modelled from the spec: the storage and the components added so far. -/
structure Runtime where
  storage : Storage
  components : List StructComponent

/-- The step adds a component that declares `ConfigMut<T>`. -/
def Op.Unlocks (op : Op) (t : Ty) : Prop :=
  ∃ c, op = .add c ∧ .configMut t ∈ (Param.tuple c.params).leaves

namespace Runtime

def step (r : Runtime) : Op → Except Abort Runtime
  | .add c =>
    match c.init r.storage with
    | .ok (c, storage) => .ok ⟨storage, r.components ++ [c]⟩
    | .error e => .error (.conflict e)
  | .run i =>
    match r.components[i]? with
    | none => .ok r
    | some c =>
      match c.runUnsafe r.storage with
      | .ok (_, c) => .ok { r with components := r.components.set i c }
      | .error p => .error (.panic p)
  | .lock id => .ok { r with storage := r.storage.lockConfig id }
  | .lockSweep => .ok { r with storage := r.storage.lockConfigs }

def steps (r : Runtime) : List Op → Except Abort Runtime
  | [] => .ok r
  | op :: ops => r.step op >>= fun r => r.steps ops

/-- What one step can do. -/
theorem step_eq_ok {r r' : Runtime} {op : Op} (stepped : r.step op = .ok r') :
    (∃ c c', op = .add c ∧ c.init r.storage = .ok (c', r'.storage) ∧
      r'.components = r.components ++ [c']) ∨
    (∃ i, op = .run i ∧ r'.storage = r.storage ∧ ∀ c' ∈ r'.components, c' ∈ r.components ∨
      ∃ c ∈ r.components, ∃ result, c.runUnsafe r.storage = .ok (result, c')) ∨
    (∃ id, op = .lock id ∧ r' = { r with storage := r.storage.lockConfig id }) ∨
    (op = .lockSweep ∧ r' = { r with storage := r.storage.lockConfigs }) := by
  match op with
  | .add c =>
    simp only [step] at stepped
    rcases initialized : c.init r.storage with e | ⟨c', storage⟩ <;>
      simp only [initialized] at stepped <;> cases stepped
    exact .inl ⟨c, c', rfl, initialized, rfl⟩
  | .run i =>
    simp only [step] at stepped
    refine .inr (.inl ⟨i, rfl, ?_⟩)
    split at stepped
    · cases stepped
      exact ⟨rfl, fun _ mem => .inl mem⟩
    · rename_i c found
      rcases attempt : c.runUnsafe r.storage with p | ⟨result, c'⟩ <;>
        simp only [attempt] at stepped <;> cases stepped
      exact ⟨rfl, fun c'' mem => (List.mem_or_eq_of_mem_set mem).imp_right
        fun (same : c'' = c') => ⟨c, List.getElem?_mem found, result, same ▸ attempt⟩⟩
  | .lock id => exact .inr (.inr (.inl ⟨id, rfl, (Except.ok.inj stepped).symm⟩))
  | .lockSweep => exact .inr (.inr (.inr ⟨rfl, (Except.ok.inj stepped).symm⟩))

theorem step_keeps_locked_slot {r r' : Runtime} {op : Op} {id : Nat} {slot : ConfigSlot}
    (locked : slot.raw.locked = true) (other : ¬ op.Unlocks slot.type)
    (stepped : r.step op = .ok r') (found : r.storage.configs[id]? = some slot) :
    r'.storage.configs[id]? = some slot := by
  rcases step_eq_ok stepped with ⟨c, c', rfl, initialized, -⟩ | ⟨i, -, same, -⟩ | ⟨id', -, rfl⟩ |
    ⟨-, rfl⟩
  · obtain ⟨b, md, initState, -⟩ := StructComponent.init_eq_ok initialized
    exact Param.initState_keeps_slot _ (fun t mem same => other ⟨c, rfl, same ▸ mem⟩) initState found
  · exact same ▸ found
  all_goals obtain ⟨type, _, value⟩ := slot; cases locked
  · by_cases same : id' = id
    · subst same
      simp [Storage.lockConfig, Storage.modifyConfig, List.getElem?_modify, found]
    · simpa [Storage.lockConfig, Storage.modifyConfig, List.getElem?_modify, same] using found
  · simp [Storage.lockConfigs, found]

theorem steps_keep_locked_slot {id : Nat} {slot : ConfigSlot} (locked : slot.raw.locked = true) :
    ∀ {r r' : Runtime} (ops : List Op), (∀ op ∈ ops, ¬ op.Unlocks slot.type) →
      r.steps ops = .ok r' → r.storage.configs[id]? = some slot → r'.storage.configs[id]? = some slot
  | _, _, [], _, ran, found => by cases ran; exact found
  | r, r', op :: ops, other, ran, found => by
    rcases stepped : r.step op with e | r₁ <;>
      simp only [steps, stepped, except_error_bind, except_ok_bind] at ran
    · cases ran
    exact steps_keep_locked_slot locked ops (fun op mem => other op (.tail _ mem)) ran
      (step_keeps_locked_slot locked (other op (.head _)) stepped found)

end Runtime

/-- Components with a `Config<T>` and with a `ConfigMut<T>`. -/
def configReader : StructComponent :=
  .new ⟨.noInput, fun _ _ => (.ok (), 0)⟩ [.leaf (.config (.named 0))] "()" 0

/-- After the lock sweep `T`'s slot is locked; adding a second `ConfigMut<T>` component unlocks
it, so `ConfigMut<T>` validates again and `Config<T>` no longer does. -/
theorem steps_unlock_after_sweep :
    ∃ r r', Runtime.steps ⟨Storage.new, []⟩ [.add configReader, .add configWriter, .lockSweep] = .ok r ∧
      r.storage.configs[0]? = some ⟨.named 0, ⟨true, ⟨.named 0, 0⟩⟩⟩ ∧
      r.step (.add configWriter) = .ok r' ∧
      r'.storage.configs[0]? = some ⟨.named 0, ⟨false, ⟨.named 0, 0⟩⟩⟩ ∧
      (Bound.leaf (.configMut (.named 0)) 0).validate r'.storage [] = .ok true ∧
      (Bound.leaf (.config (.named 0)) 0).validate r'.storage [] = .ok false :=
  ⟨_, _, rfl, rfl, rfl, rfl, rfl, rfl⟩

end Patina
