import Thresholding.Binary.Format

/-!
# Thresholding.Binary.Basic

**Binary floating-point values.** A value is not-a-number, an infinity, or a signed
whole number of quanta that its format can represent.

Design points:

* Every operation computes the exact result in integers and rounds it **once**, to
  the nearest representable value, ties to the even significand (`Binary.ofRatio`).
  No operation touches an encoding.
* Zero keeps its sign, and there is one not-a-number: its sign and payload are never
  observed by the operators.
* Equality of the type tells `-0` from `0` and makes not-a-number equal to itself. The
  *numeric* comparisons go through `Binary.rank?`, the position of a value on the number
  line, and so identify the zeros and fail on not-a-number.
* Encodings (`ofBits`, `toBits`) are only the form in which values enter and leave.
-/

namespace Thresholding

/-- A value of the format `f`. -/
inductive Binary (f : Format)
  /-- Not a number. -/
  | nan
  /-- An infinity of the given sign. -/
  | infinity (negative : Bool)
  /-- A finite value: a sign and a magnitude in quanta. Both zeros are finite values. -/
  | finite (negative : Bool) (quanta : Nat) (representable : f.Representable quanta)
  deriving DecidableEq, Repr

/-- Single precision, the precision of tensor elements. -/
abbrev Single := Binary .binary32

/-- Double precision, the precision of biases. -/
abbrev Double := Binary .binary64

namespace Binary

variable {f : Format}

/-! ### Rounding -/

/-- The natural number nearest to `num / den`, a tie going to the even one. -/
def nearestEven (num den : Nat) : Nat :=
  let rest := 2 * (num % den)
  if rest < den ∨ (rest = den ∧ num / den % 2 = 0) then num / den else num / den + 1

/-- A multiple of the denominator is rounded to nothing but the factor. -/
theorem nearestEven_mul {den : Nat} (m : Nat) (hden : 0 < den) : nearestEven (den * m) den = m := by
  simp [nearestEven, hden]

theorem nearestEven_le (num den : Nat) : nearestEven num den ≤ num / den + 1 := by
  simp only [nearestEven]
  split <;> omega

/-- The exponent at which `num / den` quanta are rounded: the one that leaves at most
`precision` bits before the binary point, and never below the quantum. -/
def roundingExponent (f : Format) (num den : Nat) : Nat := f.gapExponent (num / den)

theorem div_lt_two_pow_roundingExponent (f : Format) (num den : Nat) :
    num / den < 2 ^ (f.precision + roundingExponent f num den) := by
  refine Nat.lt_of_lt_of_le Nat.lt_log2_self (Nat.pow_le_pow_right (by decide) ?_)
  simp only [roundingExponent, Format.gapExponent]
  omega

/-- The significand that `num / den` quanta are rounded to. -/
def roundedSignificand (f : Format) (num den : Nat) : Nat :=
  nearestEven num (den * 2 ^ roundingExponent f num den)

theorem roundedSignificand_le (f : Format) (num den : Nat) :
    roundedSignificand f num den ≤ 2 ^ f.precision := by
  refine Nat.le_trans (nearestEven_le _ _) ?_
  rw [← Nat.div_div_eq_div_mul]
  refine Nat.div_lt_of_lt_mul ?_
  rw [Nat.mul_comm, ← Nat.pow_add]
  exact div_lt_two_pow_roundingExponent f num den

/-- The value nearest to `num / den` quanta, ties to the even significand. From half a
gap beyond the largest finite value on, that is an infinity. -/
def ofRatio (f : Format) (negative : Bool) (num den : Nat) : Binary f :=
  let exponent := roundingExponent f num den
  let significand := roundedSignificand f num den
  if h : significand * 2 ^ exponent < 2 ^ f.limit then
    finite negative (significand * 2 ^ exponent)
      (Format.representable_mul_two_pow (roundedSignificand_le f num den) h)
  else
    infinity negative

/-- A representable magnitude is its own rounding, however its ratio is written. -/
theorem ofRatio_mul_self {negative : Bool} {quanta den : Nat} (h : f.Representable quanta)
    (hden : 0 < den) : ofRatio f negative (quanta * den) den = finite negative quanta h := by
  have hexponent : roundingExponent f (quanta * den) den = f.gapExponent quanta := by
    rw [roundingExponent, Nat.mul_div_cancel _ hden]
  have hsignificand :
      roundedSignificand f (quanta * den) den * 2 ^ f.gapExponent quanta = quanta := by
    rw [roundedSignificand, hexponent]
    have hgap := Nat.two_pow_pos (f.gapExponent quanta)
    have hdvd := h.2
    generalize 2 ^ f.gapExponent quanta = gap at hgap hdvd ⊢
    obtain ⟨m, hm⟩ := hdvd
    have hmul : quanta * den = den * gap * m := by rw [hm, Nat.mul_comm, Nat.mul_assoc]
    rw [hmul, nearestEven_mul _ (Nat.mul_pos hden hgap), hm, Nat.mul_comm]
  simp only [ofRatio, hexponent, hsignificand, dif_pos h.1]

/-! ### Constants and conversions -/

/-- Positive zero. -/
def zero : Binary f := finite false 0 f.representable_zero

instance : Inhabited (Binary f) := ⟨zero⟩

/-- The value nearest to a natural number. -/
def ofNat (f : Format) (n : Nat) : Binary f := ofRatio f false (n * 2 ^ f.scale) 1

/-- The value nearest to an integer; the integer zero is positive zero. -/
def ofInt (f : Format) (n : Int) : Binary f :=
  ofRatio f (decide (n < 0)) (n.natAbs * 2 ^ f.scale) 1

/-- The value of the format `g` nearest to a value of the format `f`. A magnitude that
rounds to zero keeps its sign. -/
def convert (g : Format) : Binary f → Binary g
  | nan => nan
  | infinity negative => infinity negative
  | finite negative quanta _ => ofRatio g negative (quanta * 2 ^ g.scale) (2 ^ f.scale)

/-! ### Arithmetic -/

/-- Change of sign, of zeros and infinities too. -/
def neg : Binary f → Binary f
  | nan => nan
  | infinity negative => infinity (!negative)
  | finite negative quanta h => finite (!negative) quanta h

instance : Neg (Binary f) := ⟨neg⟩

/-- A signed number of quanta. -/
def signed (negative : Bool) (quanta : Nat) : Int := if negative then -(quanta : Int) else quanta

/-- The exact sum rounded once. Opposite infinities have no sum, and a sum that is zero
is negative only when both operands are. -/
def add : Binary f → Binary f → Binary f
  | nan, _ => nan
  | _, nan => nan
  | infinity s, infinity t => if s = t then infinity s else nan
  | infinity s, finite _ _ _ => infinity s
  | finite _ _ _, infinity t => infinity t
  | finite s a _, finite t b _ =>
    let sum := signed s a + signed t b
    ofRatio f (if sum = 0 then s && t else decide (sum < 0)) sum.natAbs 1

instance : Add (Binary f) := ⟨add⟩

/-! ### Comparison -/

/-- The position of a value on the number line, in quanta; the infinities stand just
beyond the finite values, and not-a-number has no position. -/
def rank? : Binary f → Option Int
  | nan => none
  | infinity negative => some (signed negative (2 ^ f.limit))
  | finite negative quanta _ => some (signed negative quanta)

/-- Numeric order: false as soon as not-a-number is involved. -/
def le (x y : Binary f) : Bool :=
  match x.rank?, y.rank? with
  | some a, some b => decide (a ≤ b)
  | _, _ => false

/-- Numeric equality: the two zeros are equal, and not-a-number equals nothing. -/
def numEq (x y : Binary f) : Bool :=
  match x.rank?, y.rank? with
  | some a, some b => decide (a = b)
  | _, _ => false

theorem numEq_iff (x y : Binary f) :
    x.numEq y = true ↔ ∃ a, x.rank? = some a ∧ y.rank? = some a := by
  simp only [numEq]
  split
  · next a b ha hb => simp [ha, hb, eq_comm]
  · next h =>
    simp only [Bool.false_eq_true, false_iff, not_exists, not_and]
    exact fun a ha hb => h a a ha hb

/-! ### Encodings -/

/-- The number of bits below the exponent field. -/
def trailingBits (f : Format) : Nat := f.precision - 1

theorem significand_le (f : Format) (n : Nat) :
    2 ^ trailingBits f + n % 2 ^ trailingBits f ≤ 2 ^ f.precision := by
  have h : 2 ^ f.precision = 2 * 2 ^ trailingBits f := by cases f <;> rfl
  have := Nat.mod_lt n (Nat.two_pow_pos (trailingBits f))
  omega

/-- The value with a given encoding. An exponent field of zeros holds the magnitudes
below the leading bit, one of ones the infinities and not-a-number; every other field
`e` scales a significand with its leading bit by `2 ^ (e - 1)`. The test against the limit
only supplies the proof: the exponent fields left over all pass it. -/
def ofBits (bits : BitVec f.width) : Binary f :=
  let trailing := bits.toNat % 2 ^ trailingBits f
  let exponent := bits.toNat / 2 ^ trailingBits f % 2 ^ f.exponentBits
  let negative := bits.msb
  if exponent = 2 ^ f.exponentBits - 1 then
    if trailing = 0 then infinity negative else nan
  else
    let significand := if exponent = 0 then trailing else 2 ^ trailingBits f + trailing
    if h : significand * 2 ^ (exponent - 1) < 2 ^ f.limit then
      finite negative (significand * 2 ^ (exponent - 1))
        (Format.representable_mul_two_pow
          (by
            have := significand_le f bits.toNat
            simp only [significand, trailing]
            split <;> omega) h)
    else
      infinity negative

/-- The encoding of a magnitude, its exponent field and trailing significand. Adding the
significand with its leading bit to the exponent's field makes the bit carry into the
field, which is the difference between `exponent` and the stored exponent. -/
def magnitudeBits : Binary f → Nat
  | nan => (2 ^ f.exponentBits - 1) * 2 ^ trailingBits f + 2 ^ (trailingBits f - 1)
  | infinity _ => (2 ^ f.exponentBits - 1) * 2 ^ trailingBits f
  | finite _ quanta _ =>
    let exponent := f.gapExponent quanta
    exponent * 2 ^ trailingBits f + quanta / 2 ^ exponent

/-- Whether the sign of a value is negative; not-a-number is shown without a sign. -/
def negative : Binary f → Bool
  | nan => false
  | infinity negative => negative
  | finite negative _ _ => negative

/-- The encoding of a value, with the quiet encoding of not-a-number. -/
def toBits (x : Binary f) : BitVec f.width :=
  BitVec.ofNat f.width
    (x.magnitudeBits + if x.negative then 2 ^ (f.width - 1) else 0)

end Binary

end Thresholding
