import Patina.Component.Param

/-!
# `Service<T>`: a typed handle over a type-erased reference

A `Service<T>` holds a `OnceCell<&'static dyn Any>`. `Deref` downcasts the reference to
`&'static T` and, when the downcast fails, calls `unreachable_unchecked`: the code relies on
every set cell holding a `&'static T` (`Service.Valid`). `TypedService` carries that invariant,
and the constructors `new_uninit`, `mock`, `clone` and `replace` stay inside it. `From<&'static
dyn Any>` and `IntoService::register_service` accept any reference, and `get_param` hands the
published reference to `From`.

Results:
1. `Service.deref_eq_unreachableUnchecked_iff`: `Deref` is undefined exactly on a set cell that
   does not hold a `&'static T`.
2. `TypedService.deref_ne_unreachableUnchecked`: handles built by the invariant-keeping
   constructors never reach it.
3. `registerService_boxed_deref`: the doc example of `register_service` publishes a
   `Box<dyn Service>`, and dereferencing the handle a component receives is undefined.
-/

namespace Patina

/-- `Service<T>`: the cell of a handle to interface `t`. -/
structure Service (t : Ty) where
  value : Option AnyValue
deriving DecidableEq, Repr

/-- How `Deref for Service<T>` ends. -/
inductive DerefOutcome where
  /-- The `&'static T` the cell holds. -/
  | target (payload : Nat)
  /-- `core::hint::unreachable_unchecked()`: undefined behaviour. -/
  | unreachableUnchecked
  /-- `unreachable!("Service should be initialized first!")`. -/
  | unreachable
deriving DecidableEq, Repr

namespace Service

variable {t : Ty}

/-- `Service::new_uninit`. -/
def newUninit : Service t := ⟨none⟩

/-- `Service::replace`: sets this handle from an initialised one. -/
def replace (self service : Service t) : Except Panic (Service t) :=
  match service.value with
  | none => throw .providedServiceNotInitialized
  | some v => if self.value.isSome then throw .serviceAlreadyInitialized else return ⟨some v⟩

/-- `Service::mock`: the boxed value is leaked, and the cell holds the `&'static T` it leaked
to. -/
def mock (payload : Nat) : Service t := ⟨some ⟨.ref t, payload⟩⟩

/-- `From<&'static dyn Any> for Service<T>`. -/
def fromAny (value : AnyValue) : Service t := ⟨some value⟩

/-- `Clone for Service<T>`. -/
def clone (s : Service t) : Service t := ⟨s.value⟩

/-- `Deref for Service<T>`: `downcast_ref::<&'static T>` of the cell. -/
def deref (s : Service t) : DerefOutcome :=
  match s.value with
  | some v => if v.ty = .ref t then .target v.payload else .unreachableUnchecked
  | none => .unreachable

/-- The invariant the `Deref` impl relies on: a set cell holds a `&'static T`. -/
def Valid (s : Service t) : Prop := ∀ v ∈ s.value, v.ty = .ref t

instance (s : Service t) : Decidable s.Valid := inferInstanceAs (Decidable (∀ v ∈ s.value, _))

theorem deref_eq_unreachableUnchecked_iff (s : Service t) :
    s.deref = .unreachableUnchecked ↔ s.value.isSome ∧ ¬ s.Valid := by
  rcases s with ⟨_ | v⟩ <;> simp [deref, Valid]

theorem valid_newUninit : (newUninit : Service t).Valid := by simp [newUninit, Valid]

theorem valid_mock (payload : Nat) : (mock payload : Service t).Valid := by simp [mock, Valid]

theorem Valid.clone {s : Service t} (valid : s.Valid) : s.clone.Valid := valid

theorem Valid.replace {self service s : Service t} (valid : service.Valid)
    (replaced : self.replace service = .ok s) : s.Valid := by
  rcases service with ⟨_ | v⟩
  · cases replaced
  · simp only [Service.replace] at replaced
    split at replaced
    · cases replaced
    · cases replaced
      exact valid

end Service

/-- A handle whose cell, when set, holds a `&'static T`. -/
structure TypedService (t : Ty) where
  service : Service t
  valid : service.Valid

namespace TypedService

variable {t : Ty}

def newUninit : TypedService t := ⟨.newUninit, Service.valid_newUninit⟩

def mock (payload : Nat) : TypedService t := ⟨.mock payload, Service.valid_mock payload⟩

def clone (s : TypedService t) : TypedService t := ⟨s.service.clone, s.valid.clone⟩

/-- `Service::replace` on typed handles. -/
def replace (self service : TypedService t) : Except Panic (TypedService t) :=
  match replaced : self.service.replace service.service with
  | .ok s => .ok ⟨s, service.valid.replace replaced⟩
  | .error p => .error p

theorem replace_service {self service s : TypedService t} (replaced : self.replace service = .ok s) :
    self.service.replace service.service = .ok s.service := by
  unfold replace at replaced
  split at replaced <;> cases replaced
  assumption

theorem deref_ne_unreachableUnchecked (s : TypedService t) :
    s.service.deref ≠ .unreachableUnchecked := fun undefined =>
  ((Service.deref_eq_unreachableUnchecked_iff _).mp undefined).2 s.valid

end TypedService

/-! ## Published services -/

/-- `IntoService::register_service::<S>`: registers `S` and publishes `service` in its slot. -/
def IntoService.registerService (storage : Storage) (s : Ty) (service : AnyValue) : Storage :=
  (storage.registerService s).1.insertService (storage.registerService s).2 service

/-- The doc example of `register_service` publishes a `Box<dyn Service>` for `dyn Service`; a
component taking `Service<dyn Service>` receives it, and its `Deref` reaches
`unreachable_unchecked`. -/
theorem registerService_boxed_deref :
    (Bound.leaf (.service (.named 0)) 0).getParam
        (IntoService.registerService Storage.new (.named 0) ⟨.box (.named 0), 0⟩) [] =
      .ok (.service (some ⟨.box (.named 0), 0⟩), []) ∧
    (Service.fromAny ⟨.box (.named 0), 0⟩ : Service (.named 0)).deref = .unreachableUnchecked :=
  ⟨rfl, rfl⟩

end Patina
