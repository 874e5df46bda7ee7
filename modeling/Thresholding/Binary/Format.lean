/-!
# Thresholding.Binary.Format

The two **binary interchange formats** that values are kept in: single precision
for tensor elements, double precision for biases.

Design points:

* A format is described by two numbers, its precision and its exponent width;
  everything else is computed from them.
* Every finite value of a format is a whole number of *quanta*, the quantum being
  the least positive value `2 ^ -scale`. Counting in quanta removes exponents from
  the arithmetic: a magnitude is a natural number.
* `Representable` says which magnitudes a format holds. It is decidable, and
  `representable_mul_two_pow` is the only way the library shows it: a significand of
  at most `2 ^ precision`, scaled by a power of two, below the overflow limit.
-/

namespace Thresholding

-- Powers of natural numbers are those of the core library, also where algebra has its own.
attribute [scoped instance (high)] instPowNat instNatPowNat

/-- A binary floating-point interchange format. -/
inductive Format
  /-- Single precision: 24 significant bits, an 8-bit exponent. -/
  | binary32
  /-- Double precision: 53 significant bits, an 11-bit exponent. -/
  | binary64
  deriving Repr, DecidableEq

namespace Format

/-- The number of significant bits, the leading one included. -/
def precision : Format → Nat
  | binary32 => 24
  | binary64 => 53

/-- The width of the exponent field. -/
def exponentBits : Format → Nat
  | binary32 => 8
  | binary64 => 11

/-- The width of an encoded value: sign, exponent and trailing significand. -/
def width (f : Format) : Nat := f.exponentBits + f.precision

/-- The quantum is `2 ^ -scale`: the least positive value, and so the unit in which
every finite value of the format is a whole number. -/
def scale (f : Format) : Nat := 2 ^ (f.exponentBits - 1) + f.precision - 3

/-- Finite magnitudes lie below `2 ^ limit` quanta. -/
def limit (f : Format) : Nat := 2 ^ f.exponentBits + f.precision - 3

theorem precision_pos (f : Format) : 0 < f.precision := by cases f <;> decide

/-! ### Representable magnitudes -/

/-- The exponent of the gap between a magnitude and the next one above it: all but
the leading `precision` bits of a representable magnitude are zero. -/
def gapExponent (f : Format) (quanta : Nat) : Nat := quanta.log2 + 1 - f.precision

/-- The magnitudes that the format holds exactly. -/
def Representable (f : Format) (quanta : Nat) : Prop :=
  quanta < 2 ^ f.limit ∧ 2 ^ f.gapExponent quanta ∣ quanta

instance (f : Format) (quanta : Nat) : Decidable (f.Representable quanta) :=
  inferInstanceAs (Decidable (_ ∧ _))

theorem representable_zero (f : Format) : f.Representable 0 :=
  ⟨Nat.two_pow_pos _, Nat.dvd_zero _⟩

/-- A significand of at most `2 ^ precision` may stand at any power of two. The bound
is not strict because rounding up may carry into the next binade. -/
theorem representable_mul_two_pow {f : Format} {m k : Nat} (hm : m ≤ 2 ^ f.precision)
    (hlimit : m * 2 ^ k < 2 ^ f.limit) : f.Representable (m * 2 ^ k) := by
  refine ⟨hlimit, ?_⟩
  have hp := f.precision_pos
  rcases Nat.eq_zero_or_pos m with rfl | hpos
  · simp
  rcases Nat.lt_or_eq_of_le hm with hlt | rfl
  · have hne : m * 2 ^ k ≠ 0 := Nat.mul_ne_zero (by omega) (Nat.ne_of_gt (Nat.two_pow_pos k))
    have hlog : (m * 2 ^ k).log2 < f.precision + k := by
      rw [Nat.log2_lt hne, Nat.pow_add]
      exact Nat.mul_lt_mul_of_pos_right hlt (Nat.two_pow_pos k)
    exact Nat.dvd_mul_left_of_dvd (Nat.pow_dvd_pow 2 (by simp only [gapExponent]; omega)) m
  · rw [← Nat.pow_add]
    refine Nat.pow_dvd_pow 2 ?_
    simp only [gapExponent, Nat.log2_two_pow]
    omega

end Format

end Thresholding
