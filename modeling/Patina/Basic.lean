import Mathlib.Data.List.Basic
import Mathlib.Logic.Relation

/-!
# Results and outcomes of the modelled code

The modelled Rust returns `Result` values, modelled as `Except`. They are compared by value in
the statements and the tests, and `do` blocks over them are taken apart by the simp lemmas
below.

Code that reads raw pointers or does checked arithmetic can also end without returning. A
call of it returns (`Outcome.ret`), reads where it may not (`Outcome.ub`), panics on a failed
bounds or overflow check (`Outcome.panic`), or is still inside its `loop` when the iteration
budget runs out (`Outcome.spin`).

Results:
1. `Outcome.loop_add_fuel`: a loop that returns keeps returning the same value with more fuel.
2. `Outcome.loop_eq_spin_of_reaches`, `Outcome.loop_ne_spin_of_decreasing`,
   `Outcome.loop_ret_of_ne_spin`: a loop runs for ever once it reaches a state it never leaves,
   stops within `measure s + 1` iterations when every iteration from a state it reaches lowers a
   measure, and leaves with a result of the kind every reached state leaves with.
-/

namespace Patina

/-- Results of the modelled code are compared by value. -/
instance instDecidableEqExcept {ε α : Type} [DecidableEq ε] [DecidableEq α] :
    DecidableEq (Except ε α)
  | .ok a, .ok b => decidable_of_iff (a = b) (by simp)
  | .error a, .error b => decidable_of_iff (a = b) (by simp)
  | .ok _, .error _ => isFalse Except.noConfusion
  | .error _, .ok _ => isFalse Except.noConfusion

@[simp] theorem except_ok_bind {ε α β : Type} (a : α) (f : α → Except ε β) :
    (Except.ok a >>= f) = f a := rfl

@[simp] theorem except_error_bind {ε α β : Type} (e : ε) (f : α → Except ε β) :
    (Except.error e >>= f) = Except.error e := rfl

@[simp] theorem except_pure {ε α : Type} (a : α) : (pure a : Except ε α) = .ok a := rfl

/-! ## Outcomes -/

/-- How a call of raw-pointer code ends. -/
inductive Outcome (α : Type) where
  /-- The code returned this value. -/
  | ret (a : α)
  /-- The code read a byte outside every live allocation. -/
  | ub
  /-- The code panicked: a slice index out of range or an arithmetic overflow. -/
  | panic
  /-- The code had not left its `loop` when the iteration budget ran out. -/
  | spin
deriving DecidableEq, Repr

namespace Outcome

variable {α β σ : Type}

/-- Sequencing: undefined behaviour, a panic and a spinning loop end the computation. -/
def bind : Outcome α → (α → Outcome β) → Outcome β
  | ret a, f => f a
  | ub, _ => ub
  | panic, _ => panic
  | spin, _ => spin

instance : Monad Outcome where
  pure := ret
  bind := bind

@[simp] theorem pure_eq (a : α) : (pure a : Outcome α) = ret a := rfl
@[simp] theorem ret_bind (a : α) (f : α → Outcome β) : (ret a >>= f) = f a := rfl
@[simp] theorem ub_bind (f : α → Outcome β) : (ub >>= f) = ub := rfl
@[simp] theorem panic_bind (f : α → Outcome β) : (panic >>= f) = panic := rfl
@[simp] theorem spin_bind (f : α → Outcome β) : (spin >>= f) = spin := rfl

theorem bind_eq_ret {x : Outcome α} {f : α → Outcome β} {b : β} :
    (x >>= f) = ret b ↔ ∃ a, x = ret a ∧ f a = ret b := by
  cases x <;> simp

/-- `loop { body }` for at most `fuel` iterations: the body either goes round again with a new
loop state (`.inl`) or leaves the loop with the function's result (`.inr`). -/
def loop (body : σ → Outcome (σ ⊕ α)) : Nat → σ → Outcome α
  | 0, _ => spin
  | fuel + 1, s => body s >>= fun
    | .inl s' => loop body fuel s'
    | .inr a => ret a

@[simp] theorem loop_zero (body : σ → Outcome (σ ⊕ α)) (s : σ) : loop body 0 s = spin := rfl

theorem loop_succ_of_inl {body : σ → Outcome (σ ⊕ α)} {s s' : σ} (fuel : Nat)
    (step : body s = ret (.inl s')) : loop body (fuel + 1) s = loop body fuel s' := by
  simp [loop, step]

theorem loop_succ_of_inr {body : σ → Outcome (σ ⊕ α)} {s : σ} {a : α} (fuel : Nat)
    (step : body s = ret (.inr a)) : loop body (fuel + 1) s = ret a := by
  simp [loop, step]

theorem loop_add_fuel {body : σ → Outcome (σ ⊕ α)} {fuel : Nat} {s : σ} {a : α}
    (returns : loop body fuel s = ret a) (extra : Nat) : loop body (fuel + extra) s = ret a := by
  induction fuel generalizing s with
  | zero => simp at returns
  | succ fuel ih =>
    rw [Nat.add_right_comm]
    obtain ⟨r, step, rest⟩ := bind_eq_ret.mp returns
    cases r with
    | inl s' => rw [loop_succ_of_inl _ step]; exact ih rest
    | inr a' => rw [loop_succ_of_inr _ step]; exact rest

/-! ## The states a loop goes through -/

/-- The loop states `loop body` goes through from `s`, going round zero or more times. -/
def Reaches (body : σ → Outcome (σ ⊕ α)) : σ → σ → Prop :=
  Relation.ReflTransGen fun s s' => body s = ret (.inl s')

variable {body : σ → Outcome (σ ⊕ α)}

/-- A loop that reaches a state from which no fuel is enough needs more than any fuel. -/
theorem loop_eq_spin_of_reaches {s s' : σ} (reach : Reaches body s s')
    (stuck : ∀ fuel, loop body fuel s' = spin) : ∀ fuel, loop body fuel s = spin := by
  induction reach using Relation.ReflTransGen.head_induction_on with
  | refl => exact stuck
  | head step _ ih =>
    rintro (_ | fuel)
    · rfl
    · rw [loop_succ_of_inl fuel step]
      exact ih fuel

/-- A loop whose body never spins, and whose every iteration from a reached state that goes
round again lowers `measure`, leaves within `measure s + 1` iterations. -/
theorem loop_ne_spin_of_decreasing (measure : σ → Nat) {s : σ}
    (step : ∀ s₁, Reaches body s s₁ → body s₁ ≠ spin ∧
      ∀ s₂, body s₁ = ret (.inl s₂) → measure s₂ < measure s₁) :
    ∀ fuel, measure s < fuel → loop body fuel s ≠ spin := by
  suffices ∀ fuel s₁, Reaches body s s₁ → measure s₁ < fuel → loop body fuel s₁ ≠ spin from
    fun fuel => this fuel s .refl
  intro fuel
  induction fuel with
  | zero => exact fun _ _ within => absurd within (Nat.not_lt_zero _)
  | succ fuel ih =>
    intro s₁ reach within
    have ⟨total, lowers⟩ := step s₁ reach
    rcases next : body s₁ with (s₂ | a) | _ | _ | _
    · rw [loop_succ_of_inl fuel next]
      exact ih s₂ (reach.tail next) (by have := lowers s₂ next; omega)
    · simp [loop_succ_of_inr fuel next]
    · simp [loop, next]
    · simp [loop, next]
    · exact absurd next total

/-- A loop every reached state of which goes round again or leaves with a result satisfying `P`
returns such a result whenever it does not run out of fuel. -/
theorem loop_ret_of_ne_spin {P : α → Prop} {s : σ}
    (exits : ∀ s₁, Reaches body s s₁ → (∃ s₂, body s₁ = ret (.inl s₂)) ∨
      ∃ a, P a ∧ body s₁ = ret (.inr a)) :
    ∀ {fuel}, loop body fuel s ≠ spin → ∃ a, P a ∧ loop body fuel s = ret a := by
  intro fuel
  induction fuel generalizing s with
  | zero => exact fun stops => absurd rfl stops
  | succ fuel ih =>
    rcases exits s .refl with ⟨s₂, next⟩ | ⟨a, holds, next⟩
    · rw [loop_succ_of_inl fuel next]
      exact ih fun s₁ reach => exits s₁ (.head next reach)
    · exact fun _ => ⟨a, holds, loop_succ_of_inr fuel next⟩

end Outcome

end Patina
