import Patina.Basic

/-!
# Storage: configuration slots, services and their borrows

`Storage` (`component/storage.rs`) is not among the sources. Its operations are modelled
from the spec (§3, §4.1, §9): one configuration slot per type, created on first reference,
locked and default-valued, with a stable small integer id; one service slot per interface,
published at most once; per-slot `RefCell` borrows that panic on a conflicting borrow.
The names are those `params.rs` and `service.rs` call.

Results:
1. `configId_addConfigDefaultIfNotPresent`, `configId_stable`: adding a configuration gives
   its type an id and keeps every id already given.
2. `configId_inj`: two types with the same id are the same type.
-/

namespace Patina

/-- A Rust type as `TypeId` and `Any` see it. -/
inductive Ty where
  /-- A struct, an enum, a primitive or a `dyn Trait`. -/
  | named (id : Nat)
  /-- `&'static T`. -/
  | ref (t : Ty)
  /-- `Box<T>`. -/
  | box (t : Ty)
deriving DecidableEq, Repr

/-- A type-erased value (`Box<dyn Any>`, `&'static dyn Any`): its concrete type and payload. -/
structure AnyValue where
  ty : Ty
  payload : Nat
deriving DecidableEq, Repr

/-- A borrow an extracted parameter keeps alive. -/
inductive Borrow where
  /-- The `Ref` of configuration slot `id`, inside a `Config`. -/
  | shared (id : Nat)
  /-- The `RefMut` of configuration slot `id`, inside a `ConfigMut`. -/
  | exclusive (id : Nat)
  /-- The `&mut Deferred` inside `Commands`. -/
  | queue
deriving DecidableEq, Repr

/-- Why running a component panics. -/
inductive Panic where
  /-- `RefCell::borrow_mut` of slot `id` while it is borrowed. -/
  | alreadyBorrowed (id : Nat)
  /-- `RefCell::borrow` of slot `id` while it is mutably borrowed. -/
  | alreadyMutablyBorrowed (id : Nat)
  /-- An index into the configuration slots that has no slot. -/
  | noConfig (id : Nat)
  /-- "Could not find Service value with id [{}] even though it was just validated." -/
  | serviceNotFound (id : Nat)
  /-- "Param state created on initialize." -/
  | paramStateNone
  /-- "`input` is `None` during run. Did this component already run?" -/
  | inputNone
  /-- "called `Option::unwrap()` on a `None` value", from `ParamFunction::run`. -/
  | unwrapNone
  /-- "Provided Service was not initialized!" -/
  | providedServiceNotInitialized
  /-- "Service was already initialized!" -/
  | serviceAlreadyInitialized
deriving DecidableEq, Repr

/-- `ConfigRaw`: the lock flag and the value of a configuration slot. -/
structure ConfigRaw where
  locked : Bool
  value : AnyValue
deriving DecidableEq, Repr

/-- A configuration slot: the type it holds and its `RefCell<ConfigRaw>`. -/
structure ConfigSlot where
  type : Ty
  raw : ConfigRaw
deriving DecidableEq, Repr

/-- A service slot: the interface and, once published, the `&'static dyn Any`. -/
structure ServiceSlot where
  iface : Ty
  value : Option AnyValue
deriving DecidableEq, Repr

/-- `Storage`; slot ids are indices into `configs` and `services`. -/
structure Storage where
  configs : List ConfigSlot
  services : List ServiceSlot
  bootServicesInit : Bool
  runtimeServicesInit : Bool
deriving DecidableEq, Repr

namespace Storage

/-- `Storage::new`: no slots, no service tables. -/
def new : Storage := ⟨[], [], false, false⟩

/-- The id of the slot for `t`, if it has one. -/
def configId (s : Storage) (t : Ty) : Option Nat := s.configs.findIdx? (·.type == t)

/-- Modelled from the spec: the value a slot created without one holds, standing for
`T::default()`. -/
def defaultValue (t : Ty) : AnyValue := ⟨t, 0⟩

/-- Modelled from the spec: `add_config_default_if_not_present::<T>`, the id of `T`'s slot,
created locked with the default value on first reference. -/
def addConfigDefaultIfNotPresent (s : Storage) (t : Ty) : Storage × Nat :=
  match s.configId t with
  | some id => (s, id)
  | none => ({ s with configs := s.configs ++ [⟨t, ⟨true, defaultValue t⟩⟩] }, s.configs.length)

/-- Changing the `ConfigRaw` of slot `id`. -/
def modifyConfig (s : Storage) (id : Nat) (f : ConfigRaw → ConfigRaw) : Storage :=
  { s with configs := s.configs.modify (fun slot => { slot with raw := f slot.raw }) id }

/-- Modelled from the spec: `unlock_config(id)` clears the slot's locked flag. -/
def unlockConfig (s : Storage) (id : Nat) : Storage := s.modifyConfig id ({ · with locked := false })

/-- Modelled from the spec: `ConfigRaw::lock`, reached through `ConfigMut::lock`. -/
def lockConfig (s : Storage) (id : Nat) : Storage := s.modifyConfig id ({ · with locked := true })

/-- Modelled from the spec and the test that calls it: `lock_configs` locks every slot. -/
def lockConfigs (s : Storage) : Storage :=
  { s with configs := s.configs.map fun slot => { slot with raw := { slot.raw with locked := true } } }

/-- Modelled from the spec: `get_raw_config(id)`, a shared borrow of slot `id`, refused while
the slot is mutably borrowed. -/
def getRawConfig (s : Storage) (live : List Borrow) (id : Nat) : Except Panic ConfigRaw :=
  match s.configs[id]? with
  | none => .error (.noConfig id)
  | some slot => if Borrow.exclusive id ∈ live then .error (.alreadyMutablyBorrowed id) else .ok slot.raw

/-- Modelled from the spec: `get_raw_config_mut(id)`, an exclusive borrow of slot `id`,
refused while the slot is borrowed at all. -/
def getRawConfigMut (s : Storage) (live : List Borrow) (id : Nat) : Except Panic ConfigRaw :=
  match s.configs[id]? with
  | none => .error (.noConfig id)
  | some slot =>
    if Borrow.shared id ∈ live ∨ Borrow.exclusive id ∈ live then .error (.alreadyBorrowed id)
    else .ok slot.raw

/-- The id of the service slot for `t`, if it has one. -/
def serviceId (s : Storage) (t : Ty) : Option Nat := s.services.findIdx? (·.iface == t)

/-- Modelled from the spec: `register_service::<S>()`, the stable id of `S`'s slot, created
unpublished on first reference. -/
def registerService (s : Storage) (t : Ty) : Storage × Nat :=
  match s.serviceId t with
  | some id => (s, id)
  | none => ({ s with services := s.services ++ [⟨t, none⟩] }, s.services.length)

/-- Modelled from the spec: `insert_service(id, service)` publishes `service` in slot `id`. A
service slot is read-only once published (§3), so a slot that already holds a reference keeps
it. -/
def insertService (s : Storage) (id : Nat) (service : AnyValue) : Storage :=
  let publish (slot : ServiceSlot) : ServiceSlot := { slot with value := some (slot.value.getD service) }
  { s with services := s.services.modify publish id }

/-- Modelled from the spec: `get_raw_service(id)`, the published reference, if any. -/
def getRawService (s : Storage) (id : Nat) : Option AnyValue := (s.services[id]?).bind (·.value)

/-! ## Slot ids -/

theorem configId_some {s : Storage} {t : Ty} {id : Nat} (found : s.configId t = some id) :
    ∃ slot, s.configs[id]? = some slot ∧ slot.type = t := by
  obtain ⟨lt, eq, -⟩ := List.findIdx?_eq_some_iff_getElem.mp found
  exact ⟨_, List.getElem?_eq_getElem lt, by simpa using eq⟩

theorem configId_inj {s : Storage} {t u : Ty} {id : Nat} (found : s.configId t = some id)
    (found' : s.configId u = some id) : t = u := by
  obtain ⟨slot, at_id, rfl⟩ := configId_some found
  obtain ⟨slot', at_id', rfl⟩ := configId_some found'
  rw [at_id] at at_id'
  cases at_id'
  rfl

theorem configId_addConfigDefaultIfNotPresent (s : Storage) (t : Ty) :
    (s.addConfigDefaultIfNotPresent t).1.configId t = some (s.addConfigDefaultIfNotPresent t).2 := by
  unfold addConfigDefaultIfNotPresent
  split
  · assumption
  · next absent =>
    simp only [configId, List.findIdx?_append] at absent ⊢
    simp [absent]

theorem configId_stable {s : Storage} {t u : Ty} {id : Nat} (found : s.configId u = some id) :
    (s.addConfigDefaultIfNotPresent t).1.configId u = some id := by
  unfold addConfigDefaultIfNotPresent
  split
  · exact found
  · simp only [configId, List.findIdx?_append] at found ⊢
    simp [found]

theorem configId_addConfigDefaultIfNotPresent_of {s : Storage} {t u : Ty} {id : Nat}
    (found : (s.addConfigDefaultIfNotPresent t).1.configId u = some id) :
    u = t ∨ s.configId u = some id := by
  by_cases same : u = t
  · exact .inl same
  · refine .inr ?_
    revert found
    unfold addConfigDefaultIfNotPresent
    split
    · exact fun found => found
    · simp only [configId, List.findIdx?_append]
      cases s.configs.findIdx? (·.type == u) <;> simp [Ne.symm same]

theorem configId_eq_findIdx_types (s : Storage) (t : Ty) :
    s.configId t = (s.configs.map ConfigSlot.type).findIdx? (· == t) := by
  rw [List.findIdx?_map]
  rfl

theorem configId_modifyConfig (s : Storage) (id : Nat) (f : ConfigRaw → ConfigRaw) (t : Ty) :
    (s.modifyConfig id f).configId t = s.configId t := by
  have types : (s.modifyConfig id f).configs.map ConfigSlot.type = s.configs.map ConfigSlot.type := by
    apply List.ext_getElem?
    intro m
    simp only [modifyConfig, List.getElem?_map, List.getElem?_modify]
    cases s.configs[m]? <;> simp
    split <;> rfl
  rw [configId_eq_findIdx_types, configId_eq_findIdx_types, types]

@[simp] theorem configId_unlockConfig (s : Storage) (id : Nat) (t : Ty) :
    (s.unlockConfig id).configId t = s.configId t :=
  configId_modifyConfig ..

@[simp] theorem configs_registerService (s : Storage) (t : Ty) :
    (s.registerService t).1.configs = s.configs := by
  unfold registerService
  split <;> rfl

@[simp] theorem configId_registerService (s : Storage) (t u : Ty) :
    (s.registerService t).1.configId u = s.configId u := by
  simp [configId]

@[simp] theorem services_addConfigDefaultIfNotPresent (s : Storage) (t : Ty) :
    (s.addConfigDefaultIfNotPresent t).1.services = s.services := by
  unfold addConfigDefaultIfNotPresent
  split <;> rfl

@[simp] theorem services_modifyConfig (s : Storage) (id : Nat) (f : ConfigRaw → ConfigRaw) :
    (s.modifyConfig id f).services = s.services := rfl

/-! ## Registering what is there -/

theorem addConfigDefaultIfNotPresent_of_configId {s : Storage} {t : Ty} {id : Nat}
    (found : s.configId t = some id) : s.addConfigDefaultIfNotPresent t = (s, id) := by
  simp [addConfigDefaultIfNotPresent, found]

theorem registerService_of_serviceId {s : Storage} {t : Ty} {id : Nat}
    (found : s.serviceId t = some id) : s.registerService t = (s, id) := by
  simp [registerService, found]

theorem serviceId_registerService (s : Storage) (t : Ty) :
    (s.registerService t).1.serviceId t = some (s.registerService t).2 := by
  unfold registerService
  split
  · assumption
  · next absent =>
    simp only [serviceId, List.findIdx?_append] at absent ⊢
    simp [absent]

theorem serviceId_stable {s : Storage} {t u : Ty} {id : Nat} (found : s.serviceId u = some id) :
    (s.registerService t).1.serviceId u = some id := by
  unfold registerService
  split
  · exact found
  · simp only [serviceId, List.findIdx?_append] at found ⊢
    simp [found]

theorem unlockConfig_of_unlocked {s : Storage} {id : Nat} {slot : ConfigSlot}
    (found : s.configs[id]? = some slot) (unlocked : slot.raw.locked = false) :
    s.unlockConfig id = s := by
  obtain ⟨configs, services, boot, runtime⟩ := s
  simp only [unlockConfig, modifyConfig, mk.injEq, and_true]
  apply List.ext_getElem?
  intro n
  rw [List.getElem?_modify]
  split
  · next same => subst same; simp [found, ← unlocked]
  · simp

end Storage

end Patina
