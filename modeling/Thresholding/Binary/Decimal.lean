import Thresholding.Binary.Basic

/-!
# Thresholding.Binary.Decimal

The **decimal text** of a value: the fewest digits that read back as the value, of
those the nearest, written positionally.

Design points:

* A value of `quanta` quanta is the whole number `quanta * 5 ^ scale` in units of
  `10 ^ -scale`, so every candidate and every comparison is between natural numbers.
* Candidates are taken on decimal *grids*, the multiples of `10 ^ j` of that unit, from
  coarse to fine. The first grid on which a neighbour of the value reads back gives the
  text: if any point of a grid reads back, so does one of the two that enclose the value.
* "Reads back" is the library's own rounding (`Binary.ofRatio`), not an interval with a
  case for each kind of end.
* The finest grid holds the value itself, so the search has an answer by recursion on `j`.
-/

namespace Thresholding.Binary

variable {f : Format}

/-! ### The shortest decimal -/

/-- Whether the decimal `units * 10 ^ -scale` rounds to a magnitude of `quanta`. -/
def readsBack (f : Format) (quanta units : Nat) : Bool :=
  match ofRatio f false units (5 ^ f.scale) with
  | finite _ q _ => q == quanta
  | _ => false

/-- The point of the grid of step `10 ^ j` that stands for a magnitude, if one does: a
neighbour of the magnitude that reads back, the nearer one if both do, and the upper one
if they are equally near. Points are counted in steps. -/
def gridPoint? (f : Format) (quanta j : Nat) : Option Nat :=
  let units := quanta * 5 ^ f.scale
  let step := 10 ^ j
  let low := units / step
  match readsBack f quanta (low * step), readsBack f quanta ((low + 1) * step) with
  | true, true => some (if 2 * units < (2 * low + 1) * step then low else low + 1)
  | true, false => some low
  | false, true => some (low + 1)
  | false, false => none

/-- The digits of the coarsest grid from `10 ^ j` down that has a point for the magnitude,
with the exponent of the grid. The finest grid needs no test: it holds the magnitude. -/
def shortestFrom (f : Format) (quanta : Nat) : Nat → Nat × Nat
  | 0 => (quanta * 5 ^ f.scale, 0)
  | j + 1 =>
    match gridPoint? f quanta (j + 1) with
    | some digits => (digits, j + 1)
    | none => shortestFrom f quanta j

/-- The exponent of a grid whose step lies above the magnitude: a number below
`8 ^ (k + 1)` is below `10 ^ (k + 1)`. -/
def coarsestGrid (f : Format) (quanta : Nat) : Nat := (quanta * 5 ^ f.scale).log2 / 3 + 1

/-- The fewest digits that read back as a magnitude, and the exponent of the power of ten
that they count, in units of `10 ^ -scale`. -/
def shortest (f : Format) (quanta : Nat) : Nat × Nat :=
  shortestFrom f quanta (coarsestGrid f quanta)

/-- The magnitude itself, which the finest grid holds, reads back. -/
theorem readsBack_self {quanta : Nat} (h : f.Representable quanta) :
    readsBack f quanta (quanta * 5 ^ f.scale) = true := by
  have hden : 0 < 5 ^ f.scale := Nat.pow_pos (by decide)
  simp [readsBack, ofRatio_mul_self h hden]

theorem readsBack_gridPoint {quanta j digits : Nat} (h : gridPoint? f quanta j = some digits) :
    readsBack f quanta (digits * 10 ^ j) = true := by
  simp only [gridPoint?] at h
  split at h
  · next hlow hhigh =>
    cases h
    split
    · exact hlow
    · exact hhigh
  · next hlow _ => cases h; exact hlow
  · next _ hhigh => cases h; exact hhigh
  · cases h

/-- The shortest decimal of a magnitude reads back as the magnitude. -/
theorem readsBack_shortest {quanta : Nat} (h : f.Representable quanta) :
    readsBack f quanta ((shortest f quanta).1 * 10 ^ (shortest f quanta).2) = true := by
  simp only [shortest]
  generalize coarsestGrid f quanta = j
  induction j with
  | zero => simpa [shortestFrom] using readsBack_self h
  | succ j ih =>
    simp only [shortestFrom]
    split
    · next hpoint => exact readsBack_gridPoint hpoint
    · exact ih

/-! ### Positional text -/

/-- The positional text of `digits * 10 ^ j / 10 ^ places`: no exponent at any size, no
fractional part of zeros alone, and a zero before a leading point. -/
def positional (digits j places : Nat) : String :=
  if places ≤ j then
    toString digits ++ "".pushn '0' (j - places)
  else
    let fraction := places - j
    let whole := digits / 10 ^ fraction
    let tail := toString (digits % 10 ^ fraction)
    toString whole ++ "." ++ "".pushn '0' (fraction - tail.length) ++ tail

/-- The decimal text of a value. The sign of a negative zero is written. -/
def text : Binary f → String
  | nan => "NaN"
  | infinity negative => if negative then "-inf" else "inf"
  | finite negative quanta _ =>
    let magnitude :=
      if quanta = 0 then "0"
      else
        let (digits, j) := shortest f quanta
        positional digits j f.scale
    if negative then "-" ++ magnitude else magnitude

end Thresholding.Binary
