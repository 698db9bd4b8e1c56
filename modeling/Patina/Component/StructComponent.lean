import Patina.Component.Borrows

/-!
# `StructComponent`: initialize, validate, extract, run

`StructComponent` holds the entry point, its input, and the parameter state that `initialize`
creates. `run_unsafe` asks `Func::Param::try_validate`; on failure it records the failed
parameter and returns `Ok(false)`, otherwise it calls `get_param` and runs the entry point.
`Func::Param` is always the tuple of the entry point's parameters, so `try_validate` checks
each of them with its own `validate`, and a member that is itself a grouping answers with the
tuple's constant `true`.

Results:
1. `runUnsafe_eq_ok`: the two ways an attempt can return, the callable run or not.
2. `runAttempts_byValue_le_one`, `runAttempts_input`: over any sequence of attempts with any
   storage states between them, a by-value entry point runs at most once, after which the input
   is gone and every attempt whose parameters validate panics, and an entry point that borrows
   its input (or has none) never gives it up.
3. `tryValidate_tuple_iff`: the top-level check is the conjunction of the members' own
   `validate`.
4. `runUnsafe_grouped_config`, `runUnsafe_grouped_service`: a grouping nested in the argument
   list is not checked, so the entry point runs with an unlocked `Config<T>`, and `get_param`
   reaches the panic of `Service::get_param` after validation passed.
-/

namespace Patina

/-! ## Entry points -/

/-- The shapes of `ParamFunction`: no input, the input by value (`RunOnce`), by `&mut In` and
by `&In` (`RunMany`). -/
inductive EntryPoint where
  | noInput
  | byValue
  | byMutRef
  | byRef
deriving DecidableEq, Repr

/-- The entry point: its shape, and what it returns and leaves in its input for an input value
and the extracted parameters. -/
structure Callable where
  shape : EntryPoint
  call : Nat → Item → Except Nat Unit × Nat

/-- `ParamFunction::run`: a by-value entry point takes the input (`input.take().unwrap()`), the
`RunMany` shapes borrow it (`as_mut().unwrap()`, `as_ref().unwrap()`), and an entry point with
no input ignores it. -/
def Callable.run (f : Callable) (input : Option Nat) (item : Item) :
    Except Panic (Except Nat Unit × Option Nat) :=
  match f.shape, input with
  | .noInput, input => return ((f.call 0 item).1, input)
  | .byValue, some value => return ((f.call value item).1, none)
  | .byMutRef, some value => let (result, value) := f.call value item; return (result, some value)
  | .byRef, some value => return ((f.call value item).1, some value)
  | _, none => throw .unwrapNone

/-! ## The component -/

/-- Modelled from the spec: `MetaData::set_failed_param`, which records the parameter that
failed validation (§5). -/
def MetaData.setFailedParam (md : MetaData) (param : Param) : MetaData :=
  { md with failedParam := some param }

/-- `StructComponent`: `Func::Param` is the tuple of `params`. -/
structure StructComponent where
  func : Callable
  params : List Param
  input : Option Nat
  paramState : Option Bound
  metadata : MetaData

/-- `StructComponent::new`; `name` is the type name of the input. -/
def StructComponent.new (func : Callable) (params : List Param) (name : String) (input : Nat) :
    StructComponent :=
  ⟨func, params, some input, none, MetaData.new name⟩

namespace StructComponent

/-- `Component::initialize`: the parameter state and the access record from `init_state`. -/
def init (c : StructComponent) (storage : Storage) :
    Except Conflict (StructComponent × Storage) := do
  let (state, storage, metadata) ← (Param.tuple c.params).initState storage c.metadata
  return ({ c with paramState := some state, metadata }, storage)

/-- `Component::run_unsafe` in a debug build. The borrows of the extracted item end with the
call. -/
def runUnsafe (c : StructComponent) (storage : Storage) :
    Except Panic (Except Nat Bool × StructComponent) := do
  let some paramState := c.paramState | throw .paramStateNone
  match ← paramState.tryValidate storage with
  | .error badParam => return (.ok false, { c with metadata := c.metadata.setFailedParam badParam })
  | .ok () =>
    let (paramValue, _) ← paramState.getParam storage []
    if c.input.isNone then throw .inputNone
    let (result, input) ← c.func.run c.input paramValue
    return (result.map fun _ => true, { c with input })

/-- A sequence of attempts to run the component, one per storage state (the storage may change
in any way between attempts), ended by the first panic: how often the entry point ran, and the
component after the last attempt or the panic. An attempt that runs the entry point is one
that does not return `Ok(false)` (`runUnsafe_eq_ok`). -/
def runAttempts (c : StructComponent) : List Storage → Nat × Except Panic StructComponent
  | [] => (0, .ok c)
  | storage :: rest =>
    match c.runUnsafe storage with
    | .error p => (0, .error p)
    | .ok (result, c') =>
      ((if result = .ok false then 0 else 1) + (c'.runAttempts rest).1, (c'.runAttempts rest).2)

/-! ## One attempt -/

theorem runUnsafe_eq_ok {c c' : StructComponent} {storage : Storage} {result : Except Nat Bool}
    (attempt : c.runUnsafe storage = .ok (result, c')) : ∃ state, c.paramState = some state ∧
      ((∃ bad, state.tryValidate storage = .ok (.error bad) ∧ result = .ok false ∧
          c' = { c with metadata := c.metadata.setFailedParam bad }) ∨
       (∃ item held r input, state.tryValidate storage = .ok (.ok ()) ∧
          state.getParam storage [] = .ok (item, held) ∧ c.input.isSome ∧
          c.func.run c.input item = .ok (r, input) ∧ result = r.map (fun _ => true) ∧
          c' = { c with input })) := by
  rcases c with ⟨func, params, input, _ | state, metadata⟩
  · cases attempt
  rcases valid : state.tryValidate storage with e | bad | _ <;>
    simp only [runUnsafe, valid, except_error_bind, except_ok_bind, except_pure] at attempt
  · cases attempt
  · cases attempt
    exact ⟨state, rfl, .inl ⟨bad, valid, rfl, rfl⟩⟩
  rcases got : state.getParam storage [] with e | ⟨item, held⟩ <;>
    simp only [got, except_error_bind, except_ok_bind] at attempt
  · cases attempt
  rcases input with _ | value
  · cases attempt
  rcases ran : func.run (some value) item with e | ⟨r, input'⟩ <;>
    simp only [ran, Option.isNone_some, if_false, Bool.false_eq_true, except_error_bind,
      except_ok_bind, except_pure] at attempt
  · cases attempt
  cases attempt
  exact ⟨state, rfl, .inr ⟨item, held, r, input', valid, got, rfl, ran, rfl, rfl⟩⟩

theorem init_eq_ok {c c' : StructComponent} {storage storage' : Storage}
    (initialized : c.init storage = .ok (c', storage')) : ∃ b md,
      (Param.tuple c.params).initState storage c.metadata = .ok (b, storage', md) ∧
      c' = { c with paramState := some b, metadata := md } := by
  rcases initState : (Param.tuple c.params).initState storage c.metadata with e | ⟨b, s, md⟩ <;>
    simp only [init, initState, except_error_bind, except_ok_bind, except_pure] at initialized <;>
    cases initialized
  exact ⟨b, md, rfl, rfl⟩

theorem Callable.run_input {f : Callable} {input input' : Option Nat} {item : Item}
    {r : Except Nat Unit} (ran : f.run input item = .ok (r, input')) :
    (f.shape = .byValue → input' = none) ∧ (f.shape ≠ .byValue → input.isSome → input'.isSome) := by
  rcases f with ⟨_ | _ | _ | _, call⟩ <;> rcases input with _ | value <;> cases ran <;> simp

theorem map_true_ne_ok_false (r : Except Nat Unit) : r.map (fun _ => true) ≠ .ok false := by
  cases r <;> simp [Except.map]

/-- An attempt that does not run the entry point changes only the recorded failed parameter. -/
theorem runUnsafe_of_not_run {c c' : StructComponent} {storage : Storage}
    (attempt : c.runUnsafe storage = .ok (.ok false, c')) :
    c'.func = c.func ∧ c'.params = c.params ∧ c'.input = c.input ∧ c'.paramState = c.paramState := by
  obtain ⟨state, -, ⟨bad, -, -, rfl⟩ | ⟨item, held, r, input, -, -, -, -, ran, -⟩⟩ :=
    runUnsafe_eq_ok attempt
  · exact ⟨rfl, rfl, rfl, rfl⟩
  · exact absurd ran.symm (map_true_ne_ok_false r)

/-- An attempt that runs the entry point had the input, and leaves it to `ParamFunction::run`. -/
theorem runUnsafe_of_run {c c' : StructComponent} {storage : Storage} {result : Except Nat Bool}
    (attempt : c.runUnsafe storage = .ok (result, c')) (ran : result ≠ .ok false) :
    c'.func = c.func ∧ c.input.isSome ∧ (c.func.shape = .byValue → c'.input = none) ∧
      (c.func.shape ≠ .byValue → c'.input.isSome) := by
  obtain ⟨state, -, ⟨bad, -, rfl, -⟩ | ⟨item, held, r, input, -, -, present, run, -, rfl⟩⟩ :=
    runUnsafe_eq_ok attempt
  · exact absurd rfl ran
  · have ⟨consumed, kept⟩ := Callable.run_input run
    exact ⟨rfl, present, consumed, fun shape => kept shape present⟩

/-- Without its input, an attempt whose parameters validate panics: `get_param` panics, or the
`debug_assert!` on the input does. -/
theorem runUnsafe_of_input_none {c : StructComponent} {storage : Storage} {state : Bound}
    (absent : c.input = none) (prepared : c.paramState = some state)
    (valid : state.tryValidate storage = .ok (.ok ())) : ∃ p, c.runUnsafe storage = .error p := by
  rcases attempt : c.runUnsafe storage with p | ⟨result, c'⟩
  · exact ⟨p, rfl⟩
  obtain ⟨state', found, ⟨bad, invalid, -⟩ | ⟨-, -, -, -, -, -, present, -⟩⟩ := runUnsafe_eq_ok attempt
  · cases prepared.symm.trans found
    cases valid.symm.trans invalid
  · simp [absent] at present

/-! ## Sequences of attempts -/

/-- Without its input, a component never runs its entry point again, and keeps having no
input. -/
theorem runAttempts_of_input_none : ∀ {c : StructComponent} (storages : List Storage),
    c.input = none → (c.runAttempts storages).1 = 0 ∧
      ∀ last, (c.runAttempts storages).2 = .ok last → last.input = none
  | _, [], absent => ⟨rfl, fun _ final => by cases final; exact absent⟩
  | c, storage :: rest, absent => by
    simp only [runAttempts]
    rcases attempt : c.runUnsafe storage with p | ⟨result, c'⟩
    · exact ⟨rfl, fun _ final => by cases final⟩
    by_cases ran : result = .ok false
    · obtain ⟨-, -, input, -⟩ := runUnsafe_of_not_run (ran ▸ attempt)
      simpa [ran] using runAttempts_of_input_none rest (input.trans absent)
    · have present := (runUnsafe_of_run attempt ran).2.1
      simp [absent] at present

/-- A by-value entry point runs at most once; once it has run the input is gone, and every later
attempt whose parameters validate panics. -/
theorem runAttempts_byValue_le_one : ∀ {c : StructComponent} (storages : List Storage),
    c.func.shape = .byValue → (c.runAttempts storages).1 ≤ 1 ∧
      ((c.runAttempts storages).1 = 1 → ∀ last, (c.runAttempts storages).2 = .ok last →
        last.input = none ∧ ∀ storage state, last.paramState = some state →
          state.tryValidate storage = .ok (.ok ()) → ∃ p, last.runUnsafe storage = .error p)
  | _, [], _ => ⟨Nat.zero_le 1, nofun⟩
  | c, storage :: rest, once => by
    simp only [runAttempts]
    rcases attempt : c.runUnsafe storage with p | ⟨result, c'⟩
    · exact ⟨Nat.zero_le 1, nofun⟩
    by_cases ran : result = .ok false
    · obtain ⟨func, -⟩ := runUnsafe_of_not_run (ran ▸ attempt)
      simpa [ran] using runAttempts_byValue_le_one rest (func ▸ once)
    · obtain ⟨-, -, consumed, -⟩ := runUnsafe_of_run attempt ran
      have ⟨never, stays⟩ := runAttempts_of_input_none rest (consumed once)
      simp only [ran, if_false, never, Nat.add_zero, le_refl, true_and, forall_const]
      exact fun last final => have absent := stays last final
        ⟨absent, fun _ _ prepared valid => runUnsafe_of_input_none absent prepared valid⟩

/-- An initialised component without parameters whose entry point takes the input `7` by
value. -/
def runOnceComponent : StructComponent :=
  ⟨⟨.byValue, fun _ _ => (.ok (), 0)⟩, [], some 7, some (.tuple []), MetaData.new "u32"⟩

theorem runAttempts_byValue_le_one_runOnce :
    runOnceComponent.runAttempts [Storage.new, Storage.new] = (1, .error .inputNone) ∧
    (runOnceComponent.runAttempts [Storage.new]).1 ≤ 1 ∧
    ((runOnceComponent.runAttempts [Storage.new]).1 = 1 → ∀ last,
      (runOnceComponent.runAttempts [Storage.new]).2 = .ok last →
        last.input = none ∧ ∀ storage state, last.paramState = some state →
          state.tryValidate storage = .ok (.ok ()) → ∃ p, last.runUnsafe storage = .error p) :=
  ⟨rfl, runAttempts_byValue_le_one _ rfl⟩

/-- Until the entry point runs, the input stays as it was; an entry point that borrows its
input (or has none) never gives it up. -/
theorem runAttempts_input : ∀ {c last : StructComponent} (storages : List Storage),
    (c.runAttempts storages).2 = .ok last →
      ((c.runAttempts storages).1 = 0 → last.input = c.input) ∧
      (c.func.shape ≠ .byValue → c.input.isSome → last.input.isSome)
  | _, _, [], final => by cases final; exact ⟨fun _ => rfl, fun _ => id⟩
  | c, last, storage :: rest, final => by
    simp only [runAttempts] at final ⊢
    rcases attempt : c.runUnsafe storage with p | ⟨result, c'⟩ <;> simp only [attempt] at final ⊢
    · cases final
    have ⟨unchanged, kept⟩ := runAttempts_input rest final
    by_cases ran : result = .ok false
    · obtain ⟨func, -, input, -⟩ := runUnsafe_of_not_run (ran ▸ attempt)
      simp only [ran, if_true, Nat.zero_add]
      exact ⟨fun none => (unchanged none).trans input, fun shape present =>
        kept (func ▸ shape) (input ▸ present)⟩
    · obtain ⟨func, -, -, borrowed⟩ := runUnsafe_of_run attempt ran
      simp only [ran, if_false]
      exact ⟨fun once => by omega, fun shape _ => kept (func ▸ shape) (borrowed shape)⟩

/-- The same component with an entry point that takes the input by `&mut` and adds one to it. -/
def runManyComponent : StructComponent :=
  { runOnceComponent with func := ⟨.byMutRef, fun value _ => (.ok (), value + 1)⟩ }

/-- The same component waiting for service `0`, which `Storage.new` has not published. -/
def waitingComponent : StructComponent :=
  { runManyComponent with
    params := [.leaf (.service (.named 0))], paramState := some (.tuple [.leaf (.service (.named 0)) 0]) }

/-- `waitingComponent` after an attempt on `Storage.new`: it has recorded the service it waits
for. -/
def waitedComponent : StructComponent :=
  { waitingComponent with
    metadata := waitingComponent.metadata.setFailedParam (.leaf (.service (.named 0))) }

theorem runAttempts_input_runMany :
    waitingComponent.runAttempts [Storage.new, Storage.new] = (0, .ok waitedComponent) ∧
    runManyComponent.runAttempts [Storage.new, Storage.new] =
      (2, .ok { runManyComponent with input := some 9 }) ∧
    (((waitingComponent.runAttempts [Storage.new, Storage.new]).1 = 0 →
        waitedComponent.input = waitingComponent.input) ∧
      (waitingComponent.func.shape ≠ .byValue → waitingComponent.input.isSome →
        waitedComponent.input.isSome)) ∧
    (((runManyComponent.runAttempts [Storage.new, Storage.new]).1 = 0 →
        (some 9 : Option Nat) = runManyComponent.input) ∧
      (runManyComponent.func.shape ≠ .byValue → runManyComponent.input.isSome →
        (some 9 : Option Nat).isSome)) :=
  ⟨rfl, rfl, @runAttempts_input waitingComponent waitedComponent [Storage.new, Storage.new] rfl,
    @runAttempts_input runManyComponent { runManyComponent with input := some 9 }
      [Storage.new, Storage.new] rfl⟩

end StructComponent

/-! ## What `try_validate` checks -/

/-- The spec's reading of whether a parameter can be extracted: every leaf not under an
`Option`, at any depth of grouping, validates. -/
def Bound.ready : Bound → Storage → Bool
  | .leaf l state, storage => (Bound.leaf l state).validate storage [] = .ok true
  | .option _, _ => true
  | .tuple members, storage => readyAll members storage
where readyAll : List Bound → Storage → Bool
  | [], _ => true
  | b :: bs, storage => b.ready storage && readyAll bs storage

theorem Bound.readyAll_iff (storage : Storage) :
    ∀ bs : List Bound, Bound.ready.readyAll bs storage ↔ ∀ b ∈ bs, b.ready storage
  | [] => by simp [Bound.ready.readyAll]
  | b :: bs => by simp [Bound.ready.readyAll, Bound.readyAll_iff storage bs]

theorem tryValidate_tuple_iff (storage : Storage) : ∀ members : List Bound,
    (Bound.tuple members).tryValidate storage = .ok (.ok ()) ↔
      ∀ m ∈ members, m.validate storage [] = .ok true
  | [] => by simp [Bound.tryValidate, Bound.tryValidate.tryValidateMembers]
  | m :: ms => by
    have rest := tryValidate_tuple_iff storage ms
    simp only [Bound.tryValidate] at rest
    rcases valid : m.validate storage [] with e | _ | _ <;>
      simp [Bound.tryValidate, Bound.tryValidate.tryValidateMembers, valid, rest]

/-- A failed top-level check names the first member, in declaration order, whose own
`validate` is false. -/
theorem tryValidate_tuple_error (storage : Storage) (bad : Param) : ∀ members : List Bound,
    (Bound.tuple members).tryValidate storage = .ok (.error bad) ↔
      ∃ before m after, members = before ++ m :: after ∧
        (∀ x ∈ before, x.validate storage [] = .ok true) ∧ m.validate storage [] = .ok false ∧
        bad = m.param
  | [] => by simp [Bound.tryValidate, Bound.tryValidate.tryValidateMembers]
  | m :: ms => by
    have rest := tryValidate_tuple_error storage bad ms
    simp only [Bound.tryValidate] at rest
    rcases valid : m.validate storage [] with e | _ | _ <;>
      simp only [Bound.tryValidate, Bound.tryValidate.tryValidateMembers, valid, rest,
        List.cons_eq_append_iff, List.cons.injEq, except_error_bind, except_ok_bind, except_pure,
        if_true, if_false,
        Bool.false_eq_true, reduceCtorEq, false_iff, not_exists, not_and, Except.ok.injEq,
        Except.error.injEq]
    case error =>
      rintro before m' after (⟨rfl, rfl, rfl⟩ | ⟨a', rfl, -⟩) ok invalid <;> simp [valid] at invalid ok
    case false =>
      constructor
      · rintro rfl
        exact ⟨[], m, ms, .inl ⟨rfl, rfl, rfl⟩, by simp, valid, rfl⟩
      · rintro ⟨before, m', after, ⟨rfl, rfl, rfl⟩ | ⟨a', rfl, -⟩, ok, invalid, rfl⟩
        · rfl
        · simp [valid] at ok
    case true =>
      constructor
      · rintro ⟨before, m', after, rfl, ok, invalid, rfl⟩
        exact ⟨m :: before, m', after, .inr ⟨before, rfl, rfl⟩, by simpa [valid] using ok, invalid, rfl⟩
      · rintro ⟨before, m', after, ⟨rfl, rfl, rfl⟩ | ⟨a', rfl, rfl⟩, ok, invalid, rfl⟩
        · simp [valid] at invalid
        · exact ⟨a', m', after, rfl, fun x mem => ok x (.tail _ mem), invalid, rfl⟩

/-- For a leaf or an `Option`, its own `validate` is the spec's reading. -/
theorem Bound.validate_iff_ready {b : Bound} (notGrouping : ∀ ms, b ≠ .tuple ms)
    (storage : Storage) : b.validate storage [] = .ok true ↔ b.ready storage := by
  match b with
  | .leaf _ _ => simp [Bound.ready]
  | .option _ => simp [Bound.ready, Bound.validate]
  | .tuple ms => exact absurd rfl (notGrouping ms)

/-- For an argument list with no grouping in it, the top-level check is the spec's reading. -/
theorem tryValidate_flat_iff {members : List Bound} (flat : ∀ m ∈ members, ∀ ms, m ≠ .tuple ms)
    (storage : Storage) :
    (Bound.tuple members).tryValidate storage = .ok (.ok ()) ↔ (Bound.tuple members).ready storage := by
  rw [tryValidate_tuple_iff, Bound.ready, Bound.readyAll_iff]
  exact forall₂_congr fun m mem => Bound.validate_iff_ready (flat m mem) storage

/-- An attempt answers `Ok(false)` exactly when a member of the argument tuple fails its own
`validate` after the members before it passed; it then records that member as the failed
parameter and changes nothing else. -/
theorem runUnsafe_false_iff_first {c c' : StructComponent} {storage : Storage}
    {members : List Bound} (bound : c.paramState = some (.tuple members)) :
    c.runUnsafe storage = .ok (.ok false, c') ↔
      ∃ before m after, members = before ++ m :: after ∧
        (∀ x ∈ before, x.validate storage [] = .ok true) ∧ m.validate storage [] = .ok false ∧
        c' = { c with metadata := c.metadata.setFailedParam m.param } := by
  constructor
  · intro attempt
    obtain ⟨state, bound', ⟨bad, invalid, -, rfl⟩ | ⟨-, -, r, -, -, -, -, -, ran, -⟩⟩ :=
      StructComponent.runUnsafe_eq_ok attempt
    · cases bound.symm.trans bound'
      obtain ⟨before, m, after, split, passed, failed, rfl⟩ :=
        (tryValidate_tuple_error storage bad members).mp invalid
      exact ⟨before, m, after, split, passed, failed, rfl⟩
    · exact absurd ran.symm (StructComponent.map_true_ne_ok_false r)
  · rintro ⟨before, m, after, split, passed, failed, rfl⟩
    have invalid := (tryValidate_tuple_error storage m.param members).mpr
      ⟨before, m, after, split, passed, failed, rfl⟩
    simp [StructComponent.runUnsafe, bound, invalid]

/-- A component whose `Config<A>` and `Service<S>` were bound to slot `0` of each kind. -/
def readerUser : StructComponent :=
  ⟨⟨.noInput, fun _ _ => (.ok (), 0)⟩, [.leaf (.config (.named 0)), .leaf (.service (.named 1))],
    some 0, some (.tuple [.leaf (.config (.named 0)) 0, .leaf (.service (.named 1)) 0]),
    MetaData.new "()"⟩

/-- `readerUser` after its `Service<S>` failed validation. -/
def readerUserFailed : StructComponent :=
  { readerUser with metadata := readerUser.metadata.setFailedParam (.leaf (.service (.named 1))) }

/-- A storage where `A`'s slot is locked and no service is published. -/
def lockedUnpublished : Storage :=
  ⟨[⟨.named 0, ⟨true, ⟨.named 0, 0⟩⟩⟩], [⟨.named 1, none⟩], false, false⟩

theorem runUnsafe_false_iff_first_readerUser :
    readerUser.paramState =
      some (.tuple [.leaf (.config (.named 0)) 0, .leaf (.service (.named 1)) 0]) ∧
    (readerUser.runUnsafe lockedUnpublished = .ok (.ok false, readerUserFailed) ↔
      ∃ before m after,
        [Bound.leaf (.config (.named 0)) 0, .leaf (.service (.named 1)) 0] = before ++ m :: after ∧
        (∀ x ∈ before, x.validate lockedUnpublished [] = .ok true) ∧
        m.validate lockedUnpublished [] = .ok false ∧
        readerUserFailed =
          { readerUser with metadata := readerUser.metadata.setFailedParam m.param }) :=
  ⟨rfl, runUnsafe_false_iff_first rfl⟩

/-! ## Groupings inside the argument list -/

/-- An entry point whose only parameter is a grouping of one `Config<T>`, and one that takes a
`ConfigMut<T>` of the same type. -/
def groupedConfig : StructComponent :=
  .new ⟨.noInput, fun _ _ => (.ok (), 0)⟩ [.tuple [.leaf (.config (.named 0))]] "()" 0

def configWriter : StructComponent :=
  .new ⟨.noInput, fun _ _ => (.ok (), 0)⟩ [.leaf (.configMut (.named 0))] "()" 0

/-- Once the writer is initialised the slot is unlocked, so the grouped `Config<T>` does not
validate; the attempt still extracts it and runs the entry point. -/
theorem runUnsafe_grouped_config :
    ∃ c storage c' storage', groupedConfig.init Storage.new = .ok (c, storage) ∧
      configWriter.init storage = .ok (c', storage') ∧
      ∃ state, c.paramState = some state ∧ state.ready storage' = false ∧
        (c.runUnsafe storage').map Prod.fst = .ok (.ok true) :=
  ⟨_, _, _, _, rfl, rfl, _, rfl, rfl, rfl⟩

/-- A `RunMany` entry point (`&In`) whose only parameter is a grouping of one `Service<S>`. -/
def groupedService : StructComponent :=
  .new ⟨.byRef, fun _ _ => (.ok (), 0)⟩ [.tuple [.leaf (.service (.named 0))]] "u32" 0

/-- Before the service is published the attempt passes `try_validate`, and `get_param` panics
instead of running the entry point. -/
theorem runUnsafe_grouped_service :
    ∃ c storage, groupedService.init Storage.new = .ok (c, storage) ∧
      ∃ state, c.paramState = some state ∧ state.tryValidate storage = .ok (.ok ()) ∧
        state.ready storage = false ∧ c.runAttempts [storage] = (0, .error (.serviceNotFound 0)) :=
  ⟨_, _, rfl, _, rfl, rfl, rfl, rfl⟩

/-! ## `Option<P>` -/

/-- For a wrapped leaf or `Option`, `Option<P>::get_param` is `None` exactly when
`P::try_validate` fails, and `Some(P::get_param)` otherwise. -/
theorem getParam_option_of_not_grouping {p : Bound} (notGrouping : ∀ ms, p ≠ .tuple ms)
    (storage : Storage) :
    (Bound.option p).getParam storage [] = (do
      match ← p.tryValidate storage with
      | .ok () =>
        let (item, held) ← p.getParam storage []
        return (.option (some item), held)
      | .error _ => return (.option none, [])) := by
  match p with
  | .leaf l state =>
    rcases valid : (Bound.leaf l state).validate storage [] with e | _ | _ <;>
      simp only [Bound.getParam, Bound.tryValidate, valid, except_error_bind, except_ok_bind,
        except_pure, if_true, if_false, Bool.false_eq_true]
  | .option _ => simp only [Bound.getParam, Bound.tryValidate, Bound.validate, except_ok_bind,
      except_pure, if_true]
  | .tuple ms => exact absurd rfl (notGrouping ms)

/-- A storage in which the slot of `Config<T>` is unlocked and the service `S` is registered
but not published. -/
def unlockedUnpublished : Storage :=
  ⟨[⟨.named 0, ⟨false, ⟨.named 0, 0⟩⟩⟩], [⟨.named 1, none⟩], false, false⟩

/-- Wrapping a grouping: `Option<(Config<T>,)>` extracts the unlocked `Config<T>`, and
`Option<(Service<S>,)>` reaches the panic of `Service::get_param`, although `try_validate` of
either grouping fails. -/
theorem getParam_option_grouped :
    (Bound.tuple [.leaf (.config (.named 0)) 0]).tryValidate unlockedUnpublished =
        .ok (.error (.leaf (.config (.named 0)))) ∧
      (Bound.option (.tuple [.leaf (.config (.named 0)) 0])).getParam unlockedUnpublished [] =
        .ok (.option (some (.tuple [.config 0 ⟨false, ⟨.named 0, 0⟩⟩])), [.shared 0]) ∧
      (Bound.tuple [.leaf (.service (.named 1)) 0]).tryValidate unlockedUnpublished =
        .ok (.error (.leaf (.service (.named 1)))) ∧
      (Bound.option (.tuple [.leaf (.service (.named 1)) 0])).getParam unlockedUnpublished [] =
        .error (.serviceNotFound 0) :=
  ⟨rfl, rfl, rfl, rfl⟩

end Patina
