import Mathlib.Algebra.Group.Nat.Basic
import Mathlib.Order.Bounds.Defs
import Patina.Basic

/-!
# Alignment helpers of `patina::base`

`is_power_of_two`, `align_down`, `align_up` and `align_range` are generic over the primitive
integer types; a value of an unsigned type of `w` bits is a `BitVec w`. `align_down` clears the
low bits with the mask `align - 1`, `align_up` sets them and adds one through `checked_add`, and
`align_range` aligns the end `base + length` up and the base down, its own `+` and `-` checked as
in a debug build. Each is refined by its statement over the natural numbers: `roundDown` is the
greatest multiple of `align` at most the address, `roundUp` the least one at least it.

Results:
1. `isPowerOfTwo_iff`: `is_power_of_two` holds exactly of the powers of two.
2. `alignDown_eq`, `alignUp_eq`: with `align` a power of two both return the rounded address
   (`align_up` only when it fits in `w` bits), and `InvalidParameter` otherwise.
3. `alignDown_alignUp_spec`: for every width, `align_down` returns the greatest multiple of a
   power-of-two `align` at most `addr`, and `align_up` the least one at least `addr` when it fits
   and `InvalidParameter` exactly when it does not.
4. `alignRange_eq`: `align_range` returns the least aligned range that covers
   `[base, base + length)`, or `InvalidParameter`, and panics when `base + length` overflows.
5. `alignRange_eq_panic_iff`: that panic is not an `InvalidParameter`: the unchecked
   `base + length` overflows exactly then (in a release build it wraps), so a range whose aligned
   end does not fit in `w` bits is not always refused (`alignRange_overflow_panics`).
6. `alignRange_least_cover`: what a debug build of `align_range` returns is the least aligned
   range covering `[base, base + length)`, its end within `w` bits.
7. `alignRange_release`: wherever `base + length` fits in `w` bits, a release build, whose `+`
   and `-` wrap, returns what the debug build returns.
-/

namespace Patina

/-! ## Rounding to a multiple -/

/-- The greatest multiple of `align` at most `addr`. -/
def roundDown (addr align : Nat) : Nat := addr / align * align

/-- The least multiple of `align` at least `addr`. -/
def roundUp (addr align : Nat) : Nat := (addr + align - 1) / align * align

section Rounding

variable {addr align m : Nat}

theorem roundDown_le (addr align : Nat) : roundDown addr align ≤ addr := Nat.div_mul_le_self _ _

theorem dvd_roundDown (addr align : Nat) : align ∣ roundDown addr align := Nat.dvd_mul_left _ _

theorem le_roundDown (multiple : align ∣ m) (le : m ≤ addr) : m ≤ roundDown addr align := by
  obtain ⟨q, rfl⟩ := multiple
  rcases Nat.eq_zero_or_pos align with rfl | pos
  · simp
  · exact Nat.mul_comm align q ▸ Nat.mul_le_mul_right _ ((Nat.le_div_iff_mul_le pos).mpr
      (Nat.mul_comm q align ▸ le))

theorem roundUp_eq_of_dvd (pos : 0 < align) (multiple : align ∣ addr) : roundUp addr align = addr := by
  obtain ⟨q, rfl⟩ := multiple
  rw [roundUp, Nat.add_sub_assoc pos, Nat.mul_add_div pos,
    Nat.div_eq_of_lt (Nat.sub_lt pos Nat.one_pos), Nat.add_zero, Nat.mul_comm]

theorem roundUp_eq_roundDown_add (pos : 0 < align) (unaligned : addr % align ≠ 0) :
    roundUp addr align = roundDown addr align + align := by
  have split := Nat.div_add_mod addr align
  have rem := Nat.mod_lt addr pos
  have : (addr + align - 1) / align = addr / align + 1 :=
    Nat.div_eq_of_lt_le (by rw [Nat.succ_mul, Nat.mul_comm]; omega)
      (by rw [Nat.succ_mul, Nat.succ_mul, Nat.mul_comm]; omega)
  rw [roundUp, roundDown, this, Nat.succ_mul]

theorem le_roundUp (pos : 0 < align) (addr : Nat) : addr ≤ roundUp addr align := by
  by_cases aligned : addr % align = 0
  · rw [roundUp_eq_of_dvd pos (Nat.dvd_of_mod_eq_zero aligned)]
  · have split := Nat.div_add_mod addr align
    have rem := Nat.mod_lt addr pos
    rw [roundUp_eq_roundDown_add pos aligned, roundDown, Nat.mul_comm]
    omega

theorem dvd_roundUp (addr align : Nat) : align ∣ roundUp addr align := Nat.dvd_mul_left _ _

theorem roundUp_le (pos : 0 < align) (multiple : align ∣ m) (le : addr ≤ m) :
    roundUp addr align ≤ m := by
  by_cases aligned : addr % align = 0
  · rwa [roundUp_eq_of_dvd pos (Nat.dvd_of_mod_eq_zero aligned)]
  obtain ⟨q, rfl⟩ := multiple
  have split := Nat.div_add_mod addr align
  have below : addr / align < q := Nat.lt_of_mul_lt_mul_left (a := align) (by omega)
  rw [roundUp_eq_roundDown_add pos aligned, roundDown, ← Nat.succ_mul, Nat.mul_comm align q]
  exact Nat.mul_le_mul_right _ below

/-- `roundDown addr align` is the greatest multiple of `align` at most `addr`. -/
theorem roundDown_isGreatest (addr align : Nat) :
    IsGreatest {m | align ∣ m ∧ m ≤ addr} (roundDown addr align) :=
  ⟨⟨dvd_roundDown addr align, roundDown_le addr align⟩, fun _ ⟨multiple, le⟩ => le_roundDown multiple le⟩

/-- `roundUp addr align` is the least multiple of a positive `align` at least `addr`. -/
theorem roundUp_isLeast (pos : 0 < align) (addr : Nat) :
    IsLeast {m | align ∣ m ∧ addr ≤ m} (roundUp addr align) :=
  ⟨⟨dvd_roundUp addr align, le_roundUp pos addr⟩, fun _ ⟨multiple, le⟩ => roundUp_le pos multiple le⟩

end Rounding

/-! ## The helpers -/

/-- The `EfiError` the alignment helpers return. -/
inductive EfiError where
  | invalidParameter
deriving DecidableEq, Repr

variable {w : Nat}

/-- `is_power_of_two`: `x > 0 && x & (x - 1) == 0`; the subtraction runs only when `x > 0`, so it
never wraps. -/
def isPowerOfTwo (x : BitVec w) : Bool :=
  decide (0 < x) && (x &&& (x - 1)) == 0

/-- `checked_add`: the sum, `None` when it does not fit in `w` bits. -/
def checkedAdd (a b : BitVec w) : Option (BitVec w) :=
  if a.toNat + b.toNat < 2 ^ w then some (a + b) else none

/-- `a + b` in a debug build: a panic when the sum does not fit. -/
def addOrPanic (a b : BitVec w) : Outcome (BitVec w) :=
  match checkedAdd a b with
  | some sum => .ret sum
  | none => .panic

/-- `a - b` in a debug build: a panic when `b > a`. -/
def subOrPanic (a b : BitVec w) : Outcome (BitVec w) :=
  if b ≤ a then .ret (a - b) else .panic

/-- `align_down`. The mask `align - 1` is taken once `align` is known to be positive. -/
def alignDown (addr align : BitVec w) : Except EfiError (BitVec w) :=
  if !isPowerOfTwo align then .error .invalidParameter
  else .ok (addr &&& ~~~(align - 1))

/-- `align_up`: an aligned address is returned as it is; otherwise the low bits are set and one
is added, `InvalidParameter` when that overflows. -/
def alignUp (addr align : BitVec w) : Except EfiError (BitVec w) :=
  if !isPowerOfTwo align then .error .invalidParameter
  else
    let alignMask := align - 1
    if addr &&& alignMask == 0 then .ok addr
    else
      match checkedAdd (addr ||| alignMask) 1 with
      | some up => .ok up
      | none => .error .invalidParameter

/-- `align_range`: the aligned base and the length up to the aligned end, as a debug build
compiles it, with overflow checks on `base + length` and `aligned_end - aligned_base`
(`alignRangeRelease` is the release build, where both wrap). -/
def alignRange (base length align : BitVec w) :
    Outcome (Except EfiError (BitVec w × BitVec w)) := do
  if !isPowerOfTwo align then
    return .error .invalidParameter
  match alignUp (← addOrPanic base length) align with
  | .error e => return .error e
  | .ok alignedEnd =>
    match alignDown base align with
    | .error e => return .error e
    | .ok alignedBase =>
      let alignedLength ← subOrPanic alignedEnd alignedBase
      return .ok (alignedBase, alignedLength)

/-! ## Masks -/

section Masks

variable (x m : BitVec w)

theorem and_not_and_and : (x &&& ~~~m) &&& (x &&& m) = 0#w := by
  ext i
  simp only [BitVec.getLsbD_and, BitVec.getLsbD_not, BitVec.getLsbD_zero]
  cases x.getLsbD i <;> cases m.getLsbD i <;> simp

theorem and_not_or_and : (x &&& ~~~m) ||| (x &&& m) = x := by
  ext i
  simp only [BitVec.getLsbD_and, BitVec.getLsbD_not, BitVec.getLsbD_or]
  cases x.getLsbD i <;> cases m.getLsbD i <;> simp

theorem and_not_and : (x &&& ~~~m) &&& m = 0#w := by
  ext i
  simp only [BitVec.getLsbD_and, BitVec.getLsbD_not, BitVec.getLsbD_zero]
  cases m.getLsbD i <;> simp

theorem and_not_or : (x &&& ~~~m) ||| m = x ||| m := by
  ext i
  simp only [BitVec.getLsbD_and, BitVec.getLsbD_not, BitVec.getLsbD_or]
  cases x.getLsbD i <;> cases m.getLsbD i <;> simp

variable {x m} {k : Nat} (mask : m.toNat = 2 ^ k - 1)
include mask

theorem toNat_and_mask : (x &&& m).toNat = x.toNat % 2 ^ k := by
  rw [BitVec.toNat_and, mask, Nat.and_pow_two_sub_one_eq_mod]

theorem and_mask_eq_zero_iff : x &&& m = 0 ↔ x.toNat % 2 ^ k = 0 := by
  rw [BitVec.toNat_eq, toNat_and_mask mask]
  simp

/-- Clearing the low `k` bits rounds down to a multiple of `2 ^ k`. -/
theorem toNat_and_not_mask : (x &&& ~~~m).toNat = roundDown x.toNat (2 ^ k) := by
  have sum := BitVec.toNat_add_of_and_eq_zero (and_not_and_and x m)
  rw [BitVec.add_eq_or_of_and_eq_zero _ _ (and_not_and_and x m), and_not_or_and,
    toNat_and_mask mask] at sum
  have := Nat.div_add_mod x.toNat (2 ^ k)
  rw [roundDown, Nat.mul_comm]
  omega

/-- Setting the low `k` bits. -/
theorem toNat_or_mask : (x ||| m).toNat = roundDown x.toNat (2 ^ k) + (2 ^ k - 1) := by
  rw [← and_not_or, ← BitVec.add_eq_or_of_and_eq_zero _ _ (and_not_and x m),
    BitVec.toNat_add_of_and_eq_zero (and_not_and x m), toNat_and_not_mask mask, mask]

end Masks

/-! ## `is_power_of_two` -/

theorem testBit_of_le_of_lt {n k : Nat} (lo : 2 ^ k ≤ n) (hi : n < 2 ^ (k + 1)) :
    n.testBit k = true := by
  rw [Nat.testBit_to_div_mod,
    Nat.div_eq_of_lt_le (k := 1) (by omega) (by rw [Nat.pow_succ] at hi; omega)]
  rfl

/-- A positive number is a power of two exactly when it shares no bit with its predecessor: a
number that is not has its leading bit in its predecessor too. -/
theorem isPowerOfTwo_iff_and_pred {n : Nat} (pos : 0 < n) : n.isPowerOfTwo ↔ n &&& (n - 1) = 0 := by
  constructor
  · rintro ⟨k, rfl⟩
    rw [Nat.and_pow_two_sub_one_eq_mod, Nat.mod_self]
  · intro cleared
    have lo := Nat.log2_self_le (Nat.pos_iff_ne_zero.mp pos)
    have hi := Nat.lt_log2_self (n := n)
    refine ⟨n.log2, Decidable.byContradiction fun ne => ?_⟩
    have bit := congrArg (Nat.testBit · n.log2) cleared
    simp only [Nat.testBit_and, testBit_of_le_of_lt lo hi,
      testBit_of_le_of_lt (show 2 ^ n.log2 ≤ n - 1 by omega) (by omega), Nat.zero_testBit] at bit
    cases bit

/-- A width with a positive value in it has room for `1`. -/
theorem toNat_one_of_pos {x : BitVec w} (pos : 0 < x.toNat) : (1 : BitVec w).toNat = 1 := by
  have := x.isLt
  have room : 1 < 2 ^ w := by omega
  simp [Nat.mod_eq_of_lt room]

theorem toNat_sub_one {x : BitVec w} (pos : 0 < x.toNat) : (x - 1).toNat = x.toNat - 1 := by
  rw [BitVec.toNat_sub_of_le (by rw [BitVec.le_def, toNat_one_of_pos pos]; omega),
    toNat_one_of_pos pos]

theorem isPowerOfTwo_iff (x : BitVec w) : isPowerOfTwo x = true ↔ x.toNat.isPowerOfTwo := by
  rcases Nat.eq_zero_or_pos x.toNat with zero | pos
  · have : ¬Nat.isPowerOfTwo 0 := fun ⟨k, pow⟩ => absurd pow (Nat.two_pow_pos k).ne
    simp [isPowerOfTwo, BitVec.lt_def, zero, this]
  · rw [isPowerOfTwo_iff_and_pred pos, ← toNat_sub_one pos]
    simp [isPowerOfTwo, BitVec.lt_def, pos, BitVec.toNat_eq]

example : isPowerOfTwo (1024 : BitVec 64) = true ∧ isPowerOfTwo (1023 : BitVec 64) = false := by
  decide

/-! ## `align_down` and `align_up` -/

theorem toNat_alignMask {align : BitVec w} {k : Nat} (pow : align.toNat = 2 ^ k) :
    (align - 1).toNat = 2 ^ k - 1 := by
  rw [toNat_sub_one (pow ▸ Nat.two_pow_pos k), pow]

theorem toNat_ofNat_of_lt {n : Nat} (lt : n < 2 ^ w) : (BitVec.ofNat w n).toNat = n := by
  rw [BitVec.toNat_ofNat, Nat.mod_eq_of_lt lt]

theorem roundDown_lt (x : BitVec w) (align : Nat) : roundDown x.toNat align < 2 ^ w :=
  Nat.lt_of_le_of_lt (roundDown_le _ _) x.isLt

theorem alignDown_eq (addr align : BitVec w) :
    alignDown addr align = if isPowerOfTwo align then .ok (.ofNat w (roundDown addr.toNat align.toNat))
      else .error .invalidParameter := by
  cases valid : isPowerOfTwo align
  · simp [alignDown, valid]
  · obtain ⟨k, pow⟩ := (isPowerOfTwo_iff align).mp valid
    simp only [alignDown, valid, Bool.not_true, Bool.false_eq_true, ↓reduceIte, Except.ok.injEq]
    apply BitVec.eq_of_toNat_eq
    rw [toNat_and_not_mask (toNat_alignMask pow), toNat_ofNat_of_lt (roundDown_lt addr _), pow]

example : alignDown (1023 : BitVec 64) 512 = .ok 512 := by decide

theorem alignUp_eq (addr align : BitVec w) :
    alignUp addr align = if isPowerOfTwo align then
      if roundUp addr.toNat align.toNat < 2 ^ w then .ok (.ofNat w (roundUp addr.toNat align.toNat))
      else .error .invalidParameter
    else .error .invalidParameter := by
  cases valid : isPowerOfTwo align
  · simp [alignUp, valid]
  · obtain ⟨k, pow⟩ := (isPowerOfTwo_iff align).mp valid
    have mask := toNat_alignMask pow
    have pos := Nat.two_pow_pos k
    simp only [alignUp, valid, Bool.not_true, Bool.false_eq_true, ↓reduceIte, beq_iff_eq,
      and_mask_eq_zero_iff mask, pow]
    by_cases aligned : addr.toNat % 2 ^ k = 0
    · rw [if_pos aligned, roundUp_eq_of_dvd pos (Nat.dvd_of_mod_eq_zero aligned),
        if_pos addr.isLt, BitVec.ofNat_toNat, BitVec.setWidth_eq]
    · have one := toNat_one_of_pos (pow ▸ pos)
      have up : (addr ||| (align - 1)).toNat + 1 = roundUp addr.toNat (2 ^ k) := by
        rw [toNat_or_mask mask, roundUp_eq_roundDown_add pos aligned]
        omega
      simp only [if_neg aligned, checkedAdd, one, up]
      by_cases fits : roundUp addr.toNat (2 ^ k) < 2 ^ w
      · simp only [if_pos fits, Except.ok.injEq]
        apply BitVec.eq_of_toNat_eq
        rw [BitVec.toNat_add, one, up, BitVec.toNat_ofNat]
      · simp only [if_neg fits]

example : alignUp (1025 : BitVec 64) 512 = .ok 1536 ∧
    alignUp (0xFFFF : BitVec 16) 0x1000 = .error .invalidParameter := by
  decide

/-- `align_down` and `align_up` in full, for every width: `InvalidParameter` unless `align` is a
power of two; otherwise the greatest multiple of `align` at most `addr`, and the least one at
least `addr` when it fits in `w` bits. -/
theorem alignDown_alignUp_spec (addr align : BitVec w) :
    (isPowerOfTwo align = true ↔ ∃ k, align.toNat = 2 ^ k) ∧
    (isPowerOfTwo align = false →
      alignDown addr align = .error .invalidParameter ∧
      alignUp addr align = .error .invalidParameter) ∧
    (isPowerOfTwo align = true →
      IsGreatest {m | align.toNat ∣ m ∧ m ≤ addr.toNat} (roundDown addr.toNat align.toNat) ∧
      alignDown addr align = .ok (.ofNat w (roundDown addr.toNat align.toNat)) ∧
      IsLeast {m | align.toNat ∣ m ∧ addr.toNat ≤ m} (roundUp addr.toNat align.toNat) ∧
      alignUp addr align = if roundUp addr.toNat align.toNat ≤ 2 ^ w - 1
        then .ok (.ofNat w (roundUp addr.toNat align.toNat)) else .error .invalidParameter) := by
  refine ⟨isPowerOfTwo_iff align, fun invalid => by simp [alignDown_eq, alignUp_eq, invalid],
    fun valid => ?_⟩
  obtain ⟨k, pow⟩ := (isPowerOfTwo_iff align).mp valid
  refine ⟨roundDown_isGreatest _ _, by rw [alignDown_eq, if_pos valid],
    roundUp_isLeast (pow ▸ Nat.two_pow_pos k) _, ?_⟩
  simp only [alignUp_eq, valid, if_true, Nat.le_sub_one_iff_lt (Nat.two_pow_pos w)]

/-! ## `align_range` -/

theorem addOrPanic_eq (a b : BitVec w) :
    addOrPanic a b = if a.toNat + b.toNat < 2 ^ w then .ret (.ofNat w (a.toNat + b.toNat))
      else .panic := by
  unfold addOrPanic checkedAdd
  split_ifs <;> rfl

theorem subOrPanic_of_le {a b : BitVec w} (le : b.toNat ≤ a.toNat) :
    subOrPanic a b = .ret (.ofNat w (a.toNat - b.toNat)) := by
  rw [subOrPanic, if_pos (BitVec.le_def.mpr le), ← BitVec.toNat_sub_of_le (BitVec.le_def.mpr le),
    BitVec.ofNat_toNat, BitVec.setWidth_eq]

/-- `align_range` in full: `InvalidParameter` for an alignment that is not a power of two, a
panic when `base + length` overflows, `InvalidParameter` when the aligned end does not fit, and
otherwise the aligned base with the length up to the aligned end. -/
theorem alignRange_eq (base length align : BitVec w) :
    alignRange base length align =
      if isPowerOfTwo align = false then .ret (.error .invalidParameter)
      else if 2 ^ w ≤ base.toNat + length.toNat then .panic
      else if 2 ^ w ≤ roundUp (base.toNat + length.toNat) align.toNat then
        .ret (.error .invalidParameter)
      else .ret (.ok (.ofNat w (roundDown base.toNat align.toNat),
        .ofNat w (roundUp (base.toNat + length.toNat) align.toNat - roundDown base.toNat align.toNat)))
      := by
  cases valid : isPowerOfTwo align
  · simp [alignRange, valid]
  obtain ⟨k, pow⟩ := (isPowerOfTwo_iff align).mp valid
  simp only [alignRange, valid, Bool.not_true, Bool.false_eq_true, ↓reduceIte, addOrPanic_eq]
  by_cases fits : base.toNat + length.toNat < 2 ^ w
  · simp only [if_pos fits, if_neg (Nat.not_le.mpr fits), Outcome.ret_bind, alignUp_eq, valid,
      toNat_ofNat_of_lt fits, alignDown_eq, ↓reduceIte]
    by_cases upFits : roundUp (base.toNat + length.toNat) align.toNat < 2 ^ w
    · have below : roundDown base.toNat align.toNat ≤ roundUp (base.toNat + length.toNat) align.toNat :=
        (roundDown_le _ _).trans ((Nat.le_add_right _ _).trans (le_roundUp (pow ▸ Nat.two_pow_pos k) _))
      simp only [if_pos upFits, if_neg (Nat.not_le.mpr upFits)]
      have ends := toNat_ofNat_of_lt upFits
      have start := toNat_ofNat_of_lt (roundDown_lt base align.toNat)
      rw [subOrPanic_of_le (by rwa [ends, start]), ends, start]
      rfl
    · simp only [if_neg upFits, if_pos (Nat.not_lt.mp upFits)]
      rfl
  · simp only [if_neg fits, if_pos (Nat.not_lt.mp fits)]
    rfl

example : alignRange (1023 : BitVec 64) 2048 512 = .ret (.ok (512, 2560)) := by decide

/-- In a debug build, a range `align_range` returns is the least aligned one that covers
`[base, base + length)`: its base is the greatest multiple of `align` at most `base`, its end the
least multiple at least `base + length`, and that end fits in `w` bits, since the overflow check
on `base + length` panics otherwise. -/
theorem alignRange_least_cover {base length align alignedBase alignedLength : BitVec w}
    (aligned : alignRange base length align = .ret (.ok (alignedBase, alignedLength))) :
    align.toNat.isPowerOfTwo ∧
    IsGreatest {m | align.toNat ∣ m ∧ m ≤ base.toNat} alignedBase.toNat ∧
    IsLeast {m | align.toNat ∣ m ∧ base.toNat + length.toNat ≤ m}
      (alignedBase.toNat + alignedLength.toNat) ∧
    alignedBase.toNat + alignedLength.toNat < 2 ^ w := by
  rw [alignRange_eq] at aligned
  split_ifs at aligned with invalid _ tooBig <;> cases aligned
  obtain ⟨k, pow⟩ := (isPowerOfTwo_iff align).mp (by simpa using invalid)
  have pos : 0 < align.toNat := pow ▸ Nat.two_pow_pos k
  have fits := Nat.not_le.mp tooBig
  have below : roundDown base.toNat align.toNat ≤ roundUp (base.toNat + length.toNat) align.toNat :=
    (roundDown_le _ _).trans ((Nat.le_add_right _ _).trans (le_roundUp pos _))
  rw [toNat_ofNat_of_lt (roundDown_lt base _), toNat_ofNat_of_lt ((Nat.sub_le _ _).trans_lt fits),
    Nat.add_sub_cancel' below]
  exact ⟨⟨k, pow⟩, roundDown_isGreatest _ _, roundUp_isLeast pos _, fits⟩

theorem alignRange_least_cover_doc :
    alignRange (1023 : BitVec 64) 2048 512 = .ret (.ok (512, 2560)) ∧
    (512).isPowerOfTwo ∧ IsGreatest {m | 512 ∣ m ∧ m ≤ 1023} 512 ∧
    IsLeast {m | 512 ∣ m ∧ 1023 + 2048 ≤ m} (512 + 2560) ∧ 512 + 2560 < 2 ^ 64 :=
  ⟨by decide, @alignRange_least_cover 64 1023 2048 512 512 2560 (by decide)⟩

/-- With `align` a power of two, `align_range` panics exactly when `base + length` overflows. -/
theorem alignRange_eq_panic_iff (base length align : BitVec w) :
    alignRange base length align = .panic ↔
      isPowerOfTwo align = true ∧ 2 ^ w ≤ base.toNat + length.toNat := by
  rw [alignRange_eq]
  split_ifs with invalid overflow <;> simp_all

theorem alignRange_overflow_panics : alignRange (0xF000 : BitVec 16) 0x2000 0x1000 = .panic := by
  decide

/-! ## The release build -/

/-- `align_range` as a release build compiles it: `base + length` and
`aligned_end - aligned_base` wrap instead of panicking. -/
def alignRangeRelease (base length align : BitVec w) : Except EfiError (BitVec w × BitVec w) := do
  if !isPowerOfTwo align then
    throw .invalidParameter
  let alignedEnd ← alignUp (base + length) align
  let alignedBase ← alignDown base align
  let alignedLength := alignedEnd - alignedBase
  return (alignedBase, alignedLength)

/-- Wherever `base + length` fits in `w` bits, the release build of `align_range` returns what
the debug build returns: neither overflow check fires there, so what the debug build is proved
to return (`alignRange_eq`) holds of both builds. -/
theorem alignRange_release (base length align : BitVec w)
    (fits : base.toNat + length.toNat < 2 ^ w) :
    alignRange base length align = .ret (alignRangeRelease base length align) := by
  have sum : (base + length).toNat = base.toNat + length.toNat := by
    rw [BitVec.toNat_add, Nat.mod_eq_of_lt fits]
  rw [alignRange_eq, if_neg (Nat.not_le.mpr fits)]
  cases valid : isPowerOfTwo align
  · simp [alignRangeRelease, valid]
    rfl
  obtain ⟨k, pow⟩ := (isPowerOfTwo_iff align).mp valid
  simp only [alignRangeRelease, alignUp_eq, alignDown_eq, sum, valid, Bool.not_true,
    Bool.false_eq_true, Bool.true_eq_false, ↓reduceIte]
  by_cases upFits : roundUp (base.toNat + length.toNat) align.toNat < 2 ^ w
  · have below : roundDown base.toNat align.toNat ≤ roundUp (base.toNat + length.toNat) align.toNat :=
      (roundDown_le _ _).trans ((Nat.le_add_right _ _).trans (le_roundUp (pow ▸ Nat.two_pow_pos k) _))
    have ends := toNat_ofNat_of_lt upFits
    have start := toNat_ofNat_of_lt (roundDown_lt base align.toNat)
    rw [if_neg (Nat.not_le.mpr upFits), if_pos upFits]
    congr 3
    apply BitVec.eq_of_toNat_eq
    rw [BitVec.toNat_sub_of_le (BitVec.le_def.mpr (by rwa [ends, start])), ends, start,
      toNat_ofNat_of_lt (by omega)]
  · rw [if_pos (Nat.not_lt.mp upFits), if_neg upFits]
    rfl

theorem alignRange_release_doc :
    (1023 : BitVec 64).toNat + (2048 : BitVec 64).toNat < 2 ^ 64 ∧
    alignRange (1023 : BitVec 64) 2048 512 = .ret (alignRangeRelease 1023 2048 512) :=
  ⟨by decide, alignRange_release 1023 2048 512 (by decide)⟩

end Patina
