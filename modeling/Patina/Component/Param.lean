import Patina.Component.Storage

/-!
# Parameters: registration, validation and extraction

The `Param` implementations of `params.rs` and `service.rs`: the leaf kinds `Config<T>`,
`ConfigMut<T>`, `Service<T>`, `Commands`, `StandardBootServices` and
`StandardRuntimeServices`, `Option<P>`, and tuples of parameters. A parameter type is a
`Param`; `Bound` is a parameter type together with the `State` its `init_state` returned,
whose shape follows the type as Rust's associated type `Param::State` does.

`MetaData` and its `Access` (`component/metadata.rs`) are not among the sources; they are
modelled from the spec (§3, §4.2). `debug_assert!` is modelled as checked, as in the debug
builds the crate's tests run in.

Results: the spec lemmas of this module say what `init_state`, `validate` and `get_param`
do on each kind; the properties built on them are in the modules that import this one.
-/

namespace Patina

/-- The parameter kinds that hold no other parameter. -/
inductive Leaf where
  /-- `Config<T>`. -/
  | config (t : Ty)
  /-- `ConfigMut<T>`. -/
  | configMut (t : Ty)
  /-- `Service<T>`. -/
  | service (t : Ty)
  /-- `Commands`. -/
  | commands
  /-- `StandardBootServices`. -/
  | standardBootServices
  /-- `StandardRuntimeServices`. -/
  | standardRuntimeServices
deriving DecidableEq, Repr

/-- `Param::State` of a leaf: the slot id (`usize`) or `()`. -/
abbrev Leaf.State : Leaf → Type
  | .config _ => Nat
  | .configMut _ => Nat
  | .service _ => Nat
  | _ => Unit

/-- A parameter type: a leaf, `Option<P>`, or a tuple `(P1, ..., Pn)` (the crate implements
tuples of up to five members; the model allows any number). -/
inductive Param where
  | leaf (l : Leaf)
  | option (p : Param)
  | tuple (members : List Param)

/-- A parameter type with its `State`. -/
inductive Bound where
  | leaf (l : Leaf) (state : l.State)
  | option (p : Bound)
  | tuple (members : List Bound)

/-- The parameter type of a bound parameter. -/
def Bound.param : Bound → Param
  | .leaf l _ => .leaf l
  | .option p => .option p.param
  | .tuple ps => .tuple (params ps)
where params : List Bound → List Param
  | [] => []
  | p :: ps => p.param :: params ps

/-- Modelled from the spec: `Access`, the footprint a component declares (§3, §4.2). -/
structure Access where
  configReads : List Nat
  configWrites : List Nat
  readsAllConfigs : Bool
  writesAllConfigs : Bool
  usesDeferred : Bool
deriving DecidableEq, Repr

namespace Access

/-- An access record with nothing recorded. -/
def empty : Access := ⟨[], [], false, false, false⟩

/-- Modelled from the spec: `has_config_read(id)`. -/
def hasConfigRead (a : Access) (id : Nat) : Bool := a.configReads.contains id
/-- Modelled from the spec: `has_config_write(id)`. -/
def hasConfigWrite (a : Access) (id : Nat) : Bool := a.configWrites.contains id
/-- Modelled from the spec: `has_deferred()`. -/
def hasDeferred (a : Access) : Bool := a.usesDeferred
/-- Modelled from the spec: `add_config_read(id)`. -/
def addConfigRead (a : Access) (id : Nat) : Access := { a with configReads := a.configReads ++ [id] }
/-- Modelled from the spec: `add_config_write(id)`. -/
def addConfigWrite (a : Access) (id : Nat) : Access := { a with configWrites := a.configWrites ++ [id] }
/-- Modelled from the spec: `deferred()`, marking the deferred queue used. -/
def deferred (a : Access) : Access := { a with usesDeferred := true }

end Access

/-- Modelled from the spec: `MetaData`, the component's name, access record and the last
parameter that failed validation (`failed_param` holds its type's name; the model holds the
type). -/
structure MetaData where
  name : String
  access : Access
  failedParam : Option Param

/-- `MetaData::new`. -/
def MetaData.new (name : String) : MetaData := ⟨name, Access.empty, none⟩

/-- The earlier access a conflict message names: `... conflicts with a previous <prior>
access.` -/
inductive Prior where
  | storageMut
  | storage
  | configMut
  | config
  | commands
deriving DecidableEq, Repr

/-- A failed `debug_assert!` of an `init_state`: the parameter, the earlier access it
conflicts with, and the component. -/
structure Conflict where
  param : Leaf
  prior : Prior
  component : String
deriving DecidableEq, Repr

/-- `debug_assert!(holds, message)`. -/
def debugAssert (holds : Bool) (message : Conflict) : Except Conflict Unit :=
  if holds then .ok () else .error message

/-! ## `init_state` -/

/-- `init_state` of a leaf. -/
def Leaf.initState : (l : Leaf) → Storage → MetaData → Except Conflict (l.State × Storage × MetaData)
  | .config t, storage, md => do
    let (storage, id) := storage.addConfigDefaultIfNotPresent t
    debugAssert (!md.access.writesAllConfigs) ⟨.config t, .storageMut, md.name⟩
    debugAssert (!md.access.hasConfigWrite id) ⟨.config t, .configMut, md.name⟩
    return (id, storage, { md with access := md.access.addConfigRead id })
  | .configMut t, storage, md => do
    let (storage, id) := storage.addConfigDefaultIfNotPresent t
    let storage := storage.unlockConfig id
    debugAssert (!md.access.writesAllConfigs) ⟨.configMut t, .storageMut, md.name⟩
    debugAssert (!md.access.readsAllConfigs) ⟨.configMut t, .storage, md.name⟩
    debugAssert (!md.access.hasConfigWrite id) ⟨.configMut t, .configMut, md.name⟩
    debugAssert (!md.access.hasConfigRead id) ⟨.configMut t, .config, md.name⟩
    return (id, storage, { md with access := md.access.addConfigWrite id })
  | .service t, storage, md =>
    let (storage, id) := storage.registerService t
    return (id, storage, md)
  | .commands, storage, md => do
    debugAssert (!md.access.hasDeferred) ⟨.commands, .commands, md.name⟩
    return ((), storage, { md with access := md.access.deferred })
  | .standardBootServices, storage, md => return ((), storage, md)
  | .standardRuntimeServices, storage, md => return ((), storage, md)

theorem Leaf.initState_config (t : Ty) (storage : Storage) (md : MetaData) :
    (Leaf.config t).initState storage md =
      if md.access.writesAllConfigs then .error ⟨.config t, .storageMut, md.name⟩
      else if md.access.hasConfigWrite (storage.addConfigDefaultIfNotPresent t).2 then
        .error ⟨.config t, .configMut, md.name⟩
      else .ok ((storage.addConfigDefaultIfNotPresent t).2, (storage.addConfigDefaultIfNotPresent t).1,
        { md with access := md.access.addConfigRead (storage.addConfigDefaultIfNotPresent t).2 }) := by
  simp only [Leaf.initState, debugAssert]
  cases md.access.writesAllConfigs <;> cases md.access.hasConfigWrite _ <;> rfl

theorem Leaf.initState_configMut (t : Ty) (storage : Storage) (md : MetaData) :
    (Leaf.configMut t).initState storage md =
      if md.access.writesAllConfigs then .error ⟨.configMut t, .storageMut, md.name⟩
      else if md.access.readsAllConfigs then .error ⟨.configMut t, .storage, md.name⟩
      else if md.access.hasConfigWrite (storage.addConfigDefaultIfNotPresent t).2 then
        .error ⟨.configMut t, .configMut, md.name⟩
      else if md.access.hasConfigRead (storage.addConfigDefaultIfNotPresent t).2 then
        .error ⟨.configMut t, .config, md.name⟩
      else .ok ((storage.addConfigDefaultIfNotPresent t).2,
        (storage.addConfigDefaultIfNotPresent t).1.unlockConfig (storage.addConfigDefaultIfNotPresent t).2,
        { md with access := md.access.addConfigWrite (storage.addConfigDefaultIfNotPresent t).2 }) := by
  simp only [Leaf.initState, debugAssert]
  cases md.access.writesAllConfigs <;> cases md.access.readsAllConfigs <;>
    cases md.access.hasConfigWrite _ <;> cases md.access.hasConfigRead _ <;> rfl

theorem Leaf.initState_commands (storage : Storage) (md : MetaData) :
    Leaf.commands.initState storage md =
      if md.access.hasDeferred then .error ⟨.commands, .commands, md.name⟩
      else .ok ((), storage, { md with access := md.access.deferred }) := by
  simp only [Leaf.initState, debugAssert]
  cases md.access.hasDeferred <;> rfl

theorem Leaf.initState_service (t : Ty) (storage : Storage) (md : MetaData) :
    (Leaf.service t).initState storage md =
      .ok ((storage.registerService t).2, (storage.registerService t).1, md) := rfl

/-- `Param::init_state`: `Option<P>` registers `P`; a tuple registers its members in order. -/
def Param.initState : Param → Storage → MetaData → Except Conflict (Bound × Storage × MetaData)
  | .leaf l, storage, md => do
    let (state, storage, md) ← l.initState storage md
    return (.leaf l state, storage, md)
  | .option p, storage, md => do
    let (bound, storage, md) ← p.initState storage md
    return (.option bound, storage, md)
  | .tuple ps, storage, md => do
    let (bounds, storage, md) ← initStates ps storage md
    return (.tuple bounds, storage, md)
where initStates : List Param → Storage → MetaData → Except Conflict (List Bound × Storage × MetaData)
  | [], storage, md => return ([], storage, md)
  | p :: ps, storage, md => do
    let (bound, storage, md) ← p.initState storage md
    let (bounds, storage, md) ← initStates ps storage md
    return (bound :: bounds, storage, md)

section Registration

variable {α β γ : Type} {f : Storage → MetaData → Except Conflict (α × Storage × MetaData)}
  {g : Storage → MetaData → Except Conflict (β × Storage × MetaData)}
  {storage storage' : Storage} {md md' : MetaData}

/-- A registration whose state is mapped, as `init_state` of a leaf or an `Option` is, succeeds
when the registration inside does. -/
theorem registration_map_eq_ok {k : α → β} {y : β}
    (result : (do
      let (x, storage, md) ← f storage md
      return (k x, storage, md)) = .ok (y, storage', md')) :
    ∃ x, f storage md = .ok (x, storage', md') ∧ y = k x := by
  rcases first : f storage md with c | ⟨x, storage₁, md₁⟩ <;>
    simp only [first, except_error_bind, except_ok_bind, except_pure] at result <;> cases result
  exact ⟨x, rfl, rfl⟩

/-- Two registrations in sequence, as the members of a tuple are registered. -/
theorem registration_seq_eq_ok {h : α → β → γ} {z : γ}
    (result : (do
      let (x, storage, md) ← f storage md
      let (y, storage, md) ← g storage md
      return (h x y, storage, md)) = .ok (z, storage', md')) :
    ∃ x y storage₁ md₁, f storage md = .ok (x, storage₁, md₁) ∧
      g storage₁ md₁ = .ok (y, storage', md') ∧ z = h x y := by
  rcases first : f storage md with c | ⟨x, storage₁, md₁⟩ <;>
    simp only [first, except_error_bind, except_ok_bind] at result
  · cases result
  rcases second : g storage₁ md₁ with c | ⟨y, storage₂, md₂⟩ <;>
    simp only [second, except_error_bind, except_ok_bind, except_pure] at result <;> cases result
  exact ⟨x, y, storage₁, md₁, rfl, second, rfl⟩

/-- What every successful run of the registration `f` satisfies: `spec x before after` when it
returns `x` and takes the storage and the record from `before` to `after`. -/
def Guarantees (f : Storage → MetaData → Except Conflict (α × Storage × MetaData))
    (spec : α → Storage × MetaData → Storage × MetaData → Prop) : Prop :=
  ∀ ⦃storage md x storage' md'⦄, f storage md = .ok (x, storage', md') →
    spec x (storage, md) (storage', md')

namespace Guarantees

variable {P : α → Storage × MetaData → Storage × MetaData → Prop}
  {Q : β → Storage × MetaData → Storage × MetaData → Prop}
  {R : γ → Storage × MetaData → Storage × MetaData → Prop}

theorem pure (x : α) (holds : ∀ before, P x before before) :
    Guarantees (fun storage md => .ok (x, storage, md)) P := by
  rintro storage md _ _ _ ⟨⟩
  exact holds _

theorem map (guarantees : Guarantees f P) (k : α → β)
    (keeps : ∀ x before after, P x before after → Q (k x) before after) :
    Guarantees (fun storage md => do
      let (x, storage, md) ← f storage md
      return (k x, storage, md)) Q := by
  intro storage md y storage' md' result
  obtain ⟨x, first, rfl⟩ := registration_map_eq_ok result
  exact keeps _ _ _ (guarantees first)

theorem seq (first : Guarantees f P) (second : Guarantees g Q) (h : α → β → γ)
    (composes : ∀ x y before middle after, P x before middle → Q y middle after →
      R (h x y) before after) :
    Guarantees (fun storage md => do
      let (x, storage, md) ← f storage md
      let (y, storage, md) ← g storage md
      return (h x y, storage, md)) R := by
  intro storage md z storage' md' result
  obtain ⟨x, y, storage₁, md₁, result₁, result₂, rfl⟩ := registration_seq_eq_ok result
  exact composes _ _ _ _ _ (first result₁) (second result₂)

end Guarantees

end Registration

/-! ## `validate` and `try_validate` -/

/-- `Param::validate`; `live` are the borrows the component already holds, against which the
`Ref` that `get_raw_config` takes for the check is refused. -/
def Bound.validate : Bound → Storage → List Borrow → Except Panic Bool
  | .leaf (.config _) id, storage, live => do return (← storage.getRawConfig live id).locked
  | .leaf (.configMut _) id, storage, live => do return !(← storage.getRawConfig live id).locked
  | .leaf (.service _) id, storage, _ => return (storage.getRawService id).isSome
  | .leaf .commands _, _, _ => return true
  | .leaf .standardBootServices _, storage, _ => return storage.bootServicesInit
  | .leaf .standardRuntimeServices _, storage, _ => return storage.runtimeServicesInit
  | .option _, _, _ => return true
  | .tuple _, _, _ => return true

/-- `Param::try_validate`, called before any borrow is taken: the default maps `validate` to
the parameter's own type; a tuple calls each member's `validate` in order and names the first
that fails. -/
def Bound.tryValidate (b : Bound) (storage : Storage) : Except Panic (Except Param Unit) :=
  match b with
  | .tuple members => tryValidateMembers members
  | b => do return if ← b.validate storage [] then .ok () else .error b.param
where tryValidateMembers : List Bound → Except Panic (Except Param Unit)
  | [] => return .ok ()
  | m :: ms => do
    if ← m.validate storage [] then tryValidateMembers ms else return .error m.param

/-! ## `get_param` -/

/-- `Param::Item`: what `get_param` extracts. -/
inductive Item where
  /-- `Config<T>`, holding the `Ref` of slot `id`. -/
  | config (id : Nat) (raw : ConfigRaw)
  /-- `ConfigMut<T>`, holding the `RefMut` of slot `id`. -/
  | configMut (id : Nat) (raw : ConfigRaw)
  /-- `Service<T>`, its `OnceCell`. -/
  | service (cell : Option AnyValue)
  /-- `Commands`, holding the `&mut Deferred`. -/
  | commands
  | standardBootServices
  | standardRuntimeServices
  | option (item : Option Item)
  | tuple (members : List Item)

/-- `Param::get_param`; `live` are the borrows already held, and the result adds those the
item keeps alive. -/
def Bound.getParam : Bound → Storage → List Borrow → Except Panic (Item × List Borrow)
  | .leaf (.config _) id, storage, live => do
    let raw ← storage.getRawConfig live id
    return (.config id raw, live ++ [.shared id])
  | .leaf (.configMut _) id, storage, live => do
    let raw ← storage.getRawConfigMut live id
    return (.configMut id raw, live ++ [.exclusive id])
  | .leaf (.service _) id, storage, live =>
    match storage.getRawService id with
    | some service => return (.service (some service), live)
    | none => throw (.serviceNotFound id)
  | .leaf .commands _, _, live => return (.commands, live ++ [.queue])
  | .leaf .standardBootServices _, _, live => return (.standardBootServices, live)
  | .leaf .standardRuntimeServices _, _, live => return (.standardRuntimeServices, live)
  | .option p, storage, live => do
    if ← p.validate storage live then
      let (item, live) ← p.getParam storage live
      return (.option (some item), live)
    else return (.option none, live)
  | .tuple ps, storage, live => do
    let (items, live) ← getParams ps storage live
    return (.tuple items, live)
where getParams : List Bound → Storage → List Borrow → Except Panic (List Item × List Borrow)
  | [], _, live => return ([], live)
  | p :: ps, storage, live => do
    let (item, live) ← p.getParam storage live
    let (items, live) ← getParams ps storage live
    return (item :: items, live)

end Patina
