import Mathlib.Algebra.Group.Nat.Basic
import Patina.Basic

/-!
# `signature!`

`signature!` packs one to eight literals into a `u16` (one or two literals), a `u32` (three or
four) or a `u64` (five to eight): literal `i` is cast to that width and shifted left by `8 * i`,
and the operands are or-ed together. UEFI stores these signatures little-endian, so what the
packing is for is that the bytes of the value, least significant first, are the literals
themselves, as with EDK2's `SIGNATURE_16`, `SIGNATURE_32` and `SIGNATURE_64`.

Results:
1. `toNat_signature`: when every literal is a byte, the packed value is the number whose
   little-endian bytes are the literals.
2. `toLeBytes_signature`: the little-endian bytes of the packed value are the literals, then
   zeros up to the width.
-/

namespace Patina

/-! ## The macro -/

/-- The width of the integer `signature!` packs `n` literals into. -/
def signatureWidth (n : Nat) : Nat := if n ≤ 2 then 16 else if n ≤ 4 then 32 else 64

/-- One operand of `signature!`: `($x as uN) << (8 * i)`; a `char` is cast by its code point,
truncated to the width. -/
def signatureTerm (w i : Nat) (c : Char) : BitVec w := BitVec.ofNat w c.toNat <<< (8 * i)

/-- `signature!`: the operands of the literals or-ed together from the left. The first operand,
`$a as uN`, is the one shifted by `0`, and or-ing it into `0` leaves it as it is. -/
def signature (cs : List Char) : BitVec (signatureWidth cs.length) :=
  cs.enum.foldl (fun acc (i, c) => acc ||| signatureTerm _ i c) 0

example : signature ['A', 'B', 'C', 'D'] = 0x44434241 := by decide

/-! ## Little-endian bytes -/

/-- The number whose bytes, least significant first, are `bytes`. -/
def ofLeBytes : List Nat → Nat
  | [] => 0
  | b :: bs => b + 256 * ofLeBytes bs

/-- `uN::to_le_bytes` of a value of `n` bytes: its bytes, least significant first. -/
def toLeBytes : Nat → Nat → List Nat
  | 0, _ => []
  | n + 1, x => x % 256 :: toLeBytes n (x / 256)

theorem toLeBytes_zero : ∀ n : Nat, toLeBytes n 0 = List.replicate n 0
  | 0 => rfl
  | n + 1 => by rw [toLeBytes, toLeBytes_zero n]; rfl

theorem toLeBytes_ofLeBytes : ∀ {bytes : List Nat} {n : Nat}, (∀ b ∈ bytes, b < 256) →
    bytes.length ≤ n → toLeBytes n (ofLeBytes bytes) = bytes ++ List.replicate (n - bytes.length) 0
  | [], n, _, _ => toLeBytes_zero n
  | b :: bs, n + 1, isByte, fits => by
    have byte := isByte b (.head _)
    rw [ofLeBytes, toLeBytes, Nat.add_mul_mod_self_left, Nat.mod_eq_of_lt byte,
      Nat.add_mul_div_left _ _ (by decide), Nat.div_eq_of_lt byte, Nat.zero_add,
      toLeBytes_ofLeBytes (fun b member => isByte b (.tail _ member)) (by simpa using fits)]
    simp

/-! ## The packing -/

theorem toNat_signatureTerm {w i : Nat} {c : Char} (byte : c.toNat < 256) (fits : 8 * (i + 1) ≤ w) :
    (signatureTerm w i c).toNat = 2 ^ (8 * i) * c.toNat := by
  have wide : 2 ^ (8 * i) * 256 ≤ 2 ^ w := by
    rw [show 256 = 2 ^ 8 from rfl, ← Nat.pow_add]
    exact Nat.pow_le_pow_right (by decide) (by omega)
  have small : c.toNat < 2 ^ w := by
    have := Nat.two_pow_pos (8 * i)
    omega
  have below : 2 ^ (8 * i) * c.toNat < 2 ^ w :=
    (Nat.mul_lt_mul_of_pos_left byte (Nat.two_pow_pos _)).trans_le wide
  rw [signatureTerm, BitVec.toNat_shiftLeft, BitVec.toNat_ofNat, Nat.mod_eq_of_lt small,
    Nat.shiftLeft_eq, Nat.mul_comm, Nat.mod_eq_of_lt below]

/-- Or-ing the operands of literals `k, k + 1, ...` into an accumulator below byte `k` adds them:
their bits do not overlap the accumulator's or each other's. -/
theorem toNat_foldl_signatureTerm {w : Nat} : ∀ {cs : List Char} {k : Nat} {acc : BitVec w},
    (∀ c ∈ cs, c.toNat < 256) → 8 * (k + cs.length) ≤ w → acc.toNat < 2 ^ (8 * k) →
    ((cs.enumFrom k).foldl (fun acc (i, c) => acc ||| signatureTerm w i c) acc).toNat =
      acc.toNat + 2 ^ (8 * k) * ofLeBytes (cs.map Char.toNat)
  | [], _, acc, _, _, _ => by simp [ofLeBytes]
  | c :: cs, k, acc, isByte, fits, below => by
    have byte := isByte c (.head _)
    have room : 8 * (k + 1 + cs.length) ≤ w := by simp at fits; omega
    have power : 2 ^ (8 * (k + 1)) = 2 ^ (8 * k) * 256 := by rw [Nat.mul_succ, Nat.pow_add]
    have step : (acc ||| signatureTerm w k c).toNat = acc.toNat + 2 ^ (8 * k) * c.toNat := by
      rw [BitVec.toNat_or, toNat_signatureTerm byte (by omega), Nat.or_comm,
        ← Nat.mul_add_lt_is_or below, Nat.add_comm]
    have stepBelow : (acc ||| signatureTerm w k c).toNat < 2 ^ (8 * (k + 1)) := by
      have := Nat.mul_le_mul_left (2 ^ (8 * k)) (Nat.le_of_lt_succ byte)
      omega
    rw [List.enumFrom_cons, List.foldl_cons, toNat_foldl_signatureTerm
      (fun c member => isByte c (.tail _ member)) room stepBelow, step, power]
    simp only [List.map_cons, ofLeBytes]
    rw [Nat.mul_add, Nat.mul_assoc, Nat.add_assoc]

theorem signatureWidth_ge {n : Nat} (atMost : n ≤ 8) : 8 * n ≤ signatureWidth n := by
  unfold signatureWidth
  split_ifs <;> omega

theorem toNat_signature {cs : List Char} (isByte : ∀ c ∈ cs, c.toNat < 256) (atMost : cs.length ≤ 8) :
    (signature cs).toNat = ofLeBytes (cs.map Char.toNat) := by
  rw [signature, List.enum, toNat_foldl_signatureTerm isByte (by simpa using signatureWidth_ge atMost)
    (by simp)]
  simp

/-- The bytes of a signature of byte literals, least significant first, are the literals, padded
with zeros to the width `signature!` picks. -/
theorem toLeBytes_signature {cs : List Char} (isByte : ∀ c ∈ cs, c.toNat < 256)
    (atMost : cs.length ≤ 8) :
    toLeBytes (signatureWidth cs.length / 8) (signature cs).toNat =
      cs.map Char.toNat ++ List.replicate (signatureWidth cs.length / 8 - cs.length) 0 := by
  rw [toNat_signature isByte atMost, toLeBytes_ofLeBytes (by simpa using isByte)
    (by have := signatureWidth_ge atMost; simp; omega), List.length_map]

theorem toLeBytes_signature_abc :
    (∀ c ∈ ['A', 'B', 'C'], c.toNat < 256) ∧ ['A', 'B', 'C'].length ≤ 8 ∧
    toLeBytes 4 (signature ['A', 'B', 'C']).toNat = [0x41, 0x42, 0x43, 0] :=
  ⟨by decide, by decide, @toLeBytes_signature ['A', 'B', 'C'] (by decide) (by decide)⟩

end Patina
