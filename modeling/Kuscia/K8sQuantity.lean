import Mathlib

namespace K8s

/-!
# Resource quantities as apimachinery's `resource` package keeps them

`ParseQuantity` reads a number with a suffix (`2Gi`, `500m`, `1e3`) and rounds
its value up to a whole number of nano-units; the suffix fixes the quantity's
`Format`, which `String()` prints it in.  A quantity here is that value and
that format.  `MilliValue` and `Value` round a value that is not a whole number
of milli-units or units away from zero, the rounding of the 64-bit
representation that `SetMilli` and `Set` store; `Set` and `SetMilli` keep the
format.  Both return an `int64`: apimachinery scales the stored amount by
checked multiplications and returns 0 when one overflows in its loop of tens,
as `MilliValue` does for `10P`.  Where the scale differs by 1, 2, 3, 6 or 9
digits it returns the wrapped product instead; a quantity here keeps only its
value, which does not tell the two apart, and the model returns 0 there too.
Below `2 ^ 63` both are the value rounded (`scaledInt64_of_le`).

Nothing in this module mentions the program being verified.
-/

/-- How a quantity was written, and so how `String()` prints it. -/
inductive Format where
  | decimalExponent
  | binarySI
  | decimalSI
  deriving DecidableEq, Repr

/-- A quantity: its value in nano-units, and its format. -/
structure Quantity where
  nanos : Int
  format : Format
  deriving DecidableEq, Repr

/-- Nano-units in a milli-unit. -/
def nanosPerMilli : Nat :=
  1000000

/-- Nano-units in a unit. -/
def nanosPerUnit : Nat :=
  1000000000

/-- `a / d` rounded away from zero. -/
def divRoundUp (a : Int) (d : Nat) : Int :=
  if 0 ≤ a then (a + d - 1) / d else -((-a + d - 1) / d)

/-- The `int64` apimachinery returns for a value scaled to units of `d`
nano-units: the rounded value where it fits, and 0 where scaling overflows. -/
def scaledInt64 (a : Int) (d : Nat) : Int :=
  let scaled := divRoundUp a d
  if -2 ^ 63 ≤ scaled ∧ scaled < 2 ^ 63 then scaled else 0

/-- `q.MilliValue()`. -/
def Quantity.MilliValue (q : Quantity) : Int :=
  scaledInt64 q.nanos nanosPerMilli

/-- `q.Value()`. -/
def Quantity.Value (q : Quantity) : Int :=
  scaledInt64 q.nanos nanosPerUnit

/-- `q.SetMilli(value)`. -/
def Quantity.SetMilli (q : Quantity) (value : Int) : Quantity :=
  { q with nanos := value * nanosPerMilli }

/-- `q.Set(value)`. -/
def Quantity.Set (q : Quantity) (value : Int) : Quantity :=
  { q with nanos := value * nanosPerUnit }

/-- Rounding a non-negative value up to a multiple of `d` moves it by less than `d`. -/
theorem divRoundUp_bounds
    {a : Int}
    (nonNegative : 0 ≤ a)
    {d : Nat}
    (positive : 0 < d) :
    0 ≤ divRoundUp a d ∧ a ≤ d * divRoundUp a d ∧ d * divRoundUp a d < a + d := by
  have notBelow : 0 ≤ (a + d - 1) / d := Int.ediv_nonneg (by omega) (by omega)
  have divided := Int.mul_ediv_add_emod (a + d - 1) d
  have remainderLow := Int.emod_nonneg (a + d - 1) (show (d : Int) ≠ 0 by omega)
  have remainderHigh := Int.emod_lt_of_pos (a + d - 1) (show (0 : Int) < d by omega)
  simp only [divRoundUp, nonNegative, if_true]
  refine ⟨notBelow, ?_, ?_⟩ <;> omega

/-- A non-negative multiple of `d` is not rounded. -/
theorem divRoundUp_of_dvd
    {a : Int}
    (nonNegative : 0 ≤ a)
    {d : Nat}
    (positive : 0 < d)
    (multiple : (d : Int) ∣ a) :
    d * divRoundUp a d = a := by
  obtain ⟨k, rfl⟩ := multiple
  -- `d * k + d - 1` is `k` times `d` with `d - 1` left over
  have sameMultiple : (d * k + d - 1) / d = k :=
    ((Int.ediv_emod_unique (r := (d : Int) - 1) (by omega)).mpr ⟨by ring, by omega, by omega⟩).1
  simp only [divRoundUp, nonNegative, if_true, sameMultiple]

/-- A non-negative value of at most `2 ^ 63 - 1` units of `d` scales without
overflow, to the value rounded up. -/
theorem scaledInt64_of_le
    {a : Int}
    (nonNegative : 0 ≤ a)
    {d : Nat}
    (positive : 0 < d)
    (fits : a ≤ (2 ^ 63 - 1) * d) :
    scaledInt64 a d = divRoundUp a d := by
  obtain ⟨notBelow, -, within⟩ := divRoundUp_bounds nonNegative positive
  have scaled : (d : Int) * divRoundUp a d < d * 2 ^ 63 := by linarith
  have below : divRoundUp a d < 2 ^ 63 := lt_of_mul_lt_mul_left scaled (by positivity)
  have above : -2 ^ 63 ≤ divRoundUp a d := by linarith
  simp only [scaledInt64, above, below, and_self, if_true]

/-- A non-negative multiple of `d`, of at most `2 ^ 63 - 1` units of it,
scales exactly. -/
theorem scaledInt64_of_dvd
    {a : Int}
    (nonNegative : 0 ≤ a)
    {d : Nat}
    (positive : 0 < d)
    (fits : a ≤ (2 ^ 63 - 1) * d)
    (multiple : (d : Int) ∣ a) :
    d * scaledInt64 a d = a ∧ 0 ≤ scaledInt64 a d := by
  rw [scaledInt64_of_le nonNegative positive fits]
  exact ⟨divRoundUp_of_dvd nonNegative positive multiple, (divRoundUp_bounds nonNegative positive).1⟩

end K8s
