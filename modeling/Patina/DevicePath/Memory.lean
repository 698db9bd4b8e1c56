import Patina.Basic

/-!
# Raw memory

The device-path utilities walk UEFI device paths through raw pointers. The address space is
a partial map from addresses to bytes: an address outside every live allocation has no byte,
and reading it is undefined behaviour (`Outcome.ub`). Keeping this apart from a return lets a
theorem say both that the code returns and that it reads no byte outside the allocations it
is given.

Results:
1. `Mem.readBytes_of_holds`: reading the bytes a memory holds returns exactly them.
2. `Mem.holds_append`, `Mem.holds_ofBytes`: how placing byte lists in memory composes.
-/

namespace Patina

open Outcome

/-- The address space: `byte a` is the byte at address `a`, `none` outside every live
allocation. -/
structure Mem where
  byte : Nat → Option UInt8

namespace Mem

/-- Reading the byte at `addr`. -/
def read (mem : Mem) (addr : Nat) : Outcome UInt8 :=
  match mem.byte addr with
  | some b => ret b
  | none => ub

/-- Reading `n` bytes from `p` on: what `from_raw_parts(p, n)` and its copy see. -/
def readBytes (mem : Mem) (p : Nat) : Nat → Outcome (List UInt8)
  | 0 => ret []
  | n + 1 => do
    let b ← mem.read p
    let bs ← mem.readBytes (p + 1) n
    return b :: bs

/-- `mem` holds `bytes` from address `p` on. -/
def Holds (mem : Mem) (p : Nat) : List UInt8 → Prop
  | [] => True
  | b :: bs => mem.byte p = some b ∧ mem.Holds (p + 1) bs

/-- The memory of one allocation: `bytes` from `base` on, and nothing else. -/
def ofBytes (base : Nat) (bytes : List UInt8) : Mem :=
  ⟨fun a => if base ≤ a then bytes[a - base]? else none⟩

variable {mem : Mem}

@[simp] theorem holds_nil (p : Nat) : mem.Holds p [] := trivial

@[simp] theorem holds_cons {p : Nat} {b : UInt8} {bs : List UInt8} :
    mem.Holds p (b :: bs) ↔ mem.byte p = some b ∧ mem.Holds (p + 1) bs := Iff.rfl

theorem holds_append {p : Nat} {xs ys : List UInt8} :
    mem.Holds p (xs ++ ys) ↔ mem.Holds p xs ∧ mem.Holds (p + xs.length) ys := by
  induction xs generalizing p with
  | nil => simp
  | cons x xs ih => simp [ih, and_assoc, show p + 1 + xs.length = p + (xs.length + 1) by omega]

theorem holds_of_prefix {p : Nat} {xs ys : List UInt8} (holds : mem.Holds p ys) (leading : xs <+: ys) :
    mem.Holds p xs := by
  obtain ⟨t, rfl⟩ := leading
  exact (holds_append.mp holds).1

theorem read_of_byte {p : Nat} {b : UInt8} (h : mem.byte p = some b) : mem.read p = ret b := by
  simp [read, h]

theorem readBytes_of_holds {p : Nat} {bytes : List UInt8} (h : mem.Holds p bytes) :
    mem.readBytes p bytes.length = ret bytes := by
  induction bytes generalizing p with
  | nil => rfl
  | cons b bs ih => simp [readBytes, read_of_byte h.1, ih h.2]

theorem length_of_readBytes {p n : Nat} {bytes : List UInt8} (read : mem.readBytes p n = ret bytes) :
    bytes.length = n := by
  induction n generalizing p bytes with
  | zero => cases read; rfl
  | succ n ih =>
    obtain ⟨b, -, rest⟩ := bind_eq_ret.mp read
    obtain ⟨bs, got, done⟩ := bind_eq_ret.mp rest
    cases done
    simp [ih got]

theorem holds_ofBytes (base : Nat) (bytes : List UInt8) : (ofBytes base bytes).Holds base bytes := by
  suffices ∀ pre : List UInt8, (ofBytes base (pre ++ bytes)).Holds (base + pre.length) bytes by
    simpa using this []
  intro pre
  induction bytes generalizing pre with
  | nil => trivial
  | cons b bs ih =>
    refine ⟨by simp [ofBytes, List.getElem_append_right], ?_⟩
    simpa [Nat.add_assoc] using ih (pre ++ [b])

end Mem

end Patina
