import Mathlib
import Kuscia.GoRuntime
import Kuscia.GoFloat
import Kuscia.K8sQuantity

namespace Kuscia.Resources

open Go K8s

/-!
# Splitting a resource quantity into parts

`SplitRSC` (`common.go`) divides a quantity into `n` parts; `buildPartyTemplate`
gives each of a party's `containers × replicas` one part of its CPU and memory
limits and requests.  A decimal quantity is divided in milli-units and printed
by `String()`.  Any other quantity is divided in whole units, and a part of at
least `1Mi` is printed through `float64` and `%.0f` in the largest binary
suffix not above a 1024th of it, which rounds the part to the nearest unit of
that suffix.

The model starts from the quantity `ParseQuantity` reads from the input, and
returns what the output string denotes: a `%.0f` mantissa with its suffix, or
the quantity `String()` prints.  `Printed.nanos` is the value `ParseQuantity`
reads back from it, taking `String()` to print a quantity's value and
`<m>Ki` to be `m * 1024`.

For a whole number of milli-units that `MilliValue` returns without overflow
the decimal split is exact to a milli-unit per part
(`SplitRSC_decimal_within`); past it `MilliValue` is 0 or wrapped, and so is
every part.  The binary split never leaves out a
printed unit per part but may round each part up by half of one
(`SplitRSC_binary_within`), so that the parts together exceed the whole.
-/

/-- The binary suffixes `SplitRSC` prints. -/
inductive BinarySuffix where
  | Ki
  | Mi
  | Gi
  | Ti
  | Pi
  deriving DecidableEq, Repr

/-- The power of two a suffix stands for. -/
def BinarySuffix.exponent : BinarySuffix → Nat
  | .Ki => 10
  | .Mi => 20
  | .Gi => 30
  | .Ti => 40
  | .Pi => 50

/-- What `SplitRSC`'s result string denotes. -/
inductive Printed where
  /-- `fmt.Sprintf("%.0f<suffix>", ...)`: a whole number of the suffix's unit. -/
  | formatted (mantissa : Nat) (suffix : BinarySuffix)
  /-- `quantity.String()`. -/
  | canonical (quantity : Quantity)
  deriving DecidableEq, Repr

/-- The value `ParseQuantity` reads from the printed string, in nano-units. -/
def Printed.nanos : Printed → Int
  | .formatted mantissa suffix => mantissa * 2 ^ suffix.exponent * nanosPerUnit
  | .canonical quantity => quantity.nanos

/-- `fmt.Sprintf("%.0f<suffix>", float64(bytesPerPart)/(1<<exponent))`. -/
def formatBinary (bytesPerPart : Int) (suffix : BinarySuffix) : Printed :=
  .formatted (roundHalfEvenDiv (float64OfNat bytesPerPart.toNat) (2 ^ suffix.exponent)) suffix

/-- `SplitRSC(rsc, n)`, for a string `rsc` that `ParseQuantity` reads as
`parsed`; Go's integer division truncates, and panics on a zero divisor. -/
def SplitRSC (parsed : Except String Quantity) (n : Int) : Outcome Printed :=
  match parsed with
  | .error message => .error (.error ("failed to parse resource quantity: " ++ message))
  | .ok quantity =>
    let unit := quantity.format
    if unit = .decimalSI then
      if n = 0 then .error integerDivideByZero
      else .ok (.canonical (quantity.SetMilli (quantity.MilliValue.tdiv n)))
    else
      let bytes := quantity.Value
      if n = 0 then .error integerDivideByZero
      else
        let bytesPerPart := bytes.tdiv n
        if bytesPerPart ≥ 2 ^ 60 then .ok (formatBinary bytesPerPart .Pi)
        else if bytesPerPart ≥ 2 ^ 50 then .ok (formatBinary bytesPerPart .Ti)
        else if bytesPerPart ≥ 2 ^ 40 then .ok (formatBinary bytesPerPart .Gi)
        else if bytesPerPart ≥ 2 ^ 30 then .ok (formatBinary bytesPerPart .Mi)
        else if bytesPerPart ≥ 2 ^ 20 then .ok (formatBinary bytesPerPart .Ki)
        else .ok (.canonical (quantity.Set bytesPerPart))

/-! ## The branches -/

section Branches

variable {quantity : Quantity} {n : Int}

/-- A decimal quantity is divided in milli-units. -/
theorem SplitRSC_of_decimalSI
    (decimal : quantity.format = .decimalSI)
    (nonZero : n ≠ 0) :
    SplitRSC (.ok quantity) n =
      .ok (.canonical (quantity.SetMilli (quantity.MilliValue.tdiv n))) := by
  simp [SplitRSC, decimal, nonZero]

/-- Any other quantity is divided in units, and the part is printed by `String()`
or in a binary suffix. -/
theorem SplitRSC_of_not_decimalSI
    (notDecimal : quantity.format ≠ .decimalSI)
    (nonZero : n ≠ 0) :
    SplitRSC (.ok quantity) n = .ok (.canonical (quantity.Set (quantity.Value.tdiv n))) ∨
      ∃ suffix, SplitRSC (.ok quantity) n = .ok (formatBinary (quantity.Value.tdiv n) suffix) := by
  simp only [SplitRSC, notDecimal, nonZero, if_false]
  split_ifs
  · exact .inr ⟨.Pi, rfl⟩
  · exact .inr ⟨.Ti, rfl⟩
  · exact .inr ⟨.Gi, rfl⟩
  · exact .inr ⟨.Mi, rfl⟩
  · exact .inr ⟨.Ki, rfl⟩
  · exact .inl rfl

end Branches

/-! ## Rounding a part -/

/-- A part below `2 ^ 53` units is printed within half a unit of its suffix. -/
theorem formatBinary_near
    {bytesPerPart : Int}
    (nonNegative : 0 ≤ bytesPerPart)
    (exact : bytesPerPart < 2 ^ 53)
    (suffix : BinarySuffix) :
    2 * (formatBinary bytesPerPart suffix).nanos ≤
        (2 * bytesPerPart + 2 ^ suffix.exponent) * nanosPerUnit ∧
      2 * bytesPerPart * nanosPerUnit ≤
        2 * (formatBinary bytesPerPart suffix).nanos + 2 ^ suffix.exponent * nanosPerUnit := by
  have asDouble : float64OfNat bytesPerPart.toNat = bytesPerPart.toNat :=
    float64OfNat_of_lt (by omega)
  have above := roundHalfEvenDiv_le bytesPerPart.toNat (2 ^ suffix.exponent)
  have below := le_roundHalfEvenDiv (Nat.two_pow_pos suffix.exponent) bytesPerPart.toNat
  -- read the two bounds over the integers, then scale them to nano-units
  have partCast : ((bytesPerPart.toNat : Nat) : Int) = bytesPerPart :=
    Int.toNat_of_nonneg nonNegative
  have aboveInt : 2 * ((roundHalfEvenDiv bytesPerPart.toNat (2 ^ suffix.exponent) : Int) *
      2 ^ suffix.exponent) ≤ 2 * bytesPerPart + 2 ^ suffix.exponent := by
    have cast : ((2 * (roundHalfEvenDiv bytesPerPart.toNat (2 ^ suffix.exponent) *
        2 ^ suffix.exponent) : Nat) : Int) ≤
        ((2 * bytesPerPart.toNat + 2 ^ suffix.exponent : Nat) : Int) := by
      exact_mod_cast above
    push_cast [partCast] at cast
    exact cast
  have belowInt : 2 * bytesPerPart ≤ 2 * ((roundHalfEvenDiv bytesPerPart.toNat
      (2 ^ suffix.exponent) : Int) * 2 ^ suffix.exponent) + 2 ^ suffix.exponent := by
    have cast : ((2 * bytesPerPart.toNat : Nat) : Int) ≤
        ((2 * (roundHalfEvenDiv bytesPerPart.toNat (2 ^ suffix.exponent) *
          2 ^ suffix.exponent) + 2 ^ suffix.exponent : Nat) : Int) := by
      exact_mod_cast below
    push_cast [partCast] at cast
    exact cast
  have unitPositive : (0 : Int) < nanosPerUnit := by
    decide
  simp only [formatBinary, Printed.nanos, asDouble]
  constructor <;> nlinarith

/-- A suffix's unit is at least `1Ki`. -/
theorem two_le_two_pow_exponent
    (suffix : BinarySuffix) :
    (2 : Int) ≤ 2 ^ suffix.exponent := by
  cases suffix <;> decide

/-! ## Whole splits -/

/-- A truncated part of a non-negative whole leaves less than one per part over. -/
theorem part_bounds
    {whole n : Int}
    (positive : 0 < n) :
    whole / n * n ≤ whole ∧ whole < whole / n * n + n := by
  have below := Int.ediv_mul_le whole positive.ne'
  have above := Int.lt_ediv_add_one_mul_self whole positive
  rw [Int.add_mul, one_mul] at above
  exact ⟨below, above⟩

/-- A decimal quantity of a whole, non-negative number of milli-units, at most
the largest `int64` of them, splits into `n` parts that together are at most
the whole and leave out less than a milli-unit per part. -/
theorem SplitRSC_decimal_within
    {quantity : Quantity}
    (decimal : quantity.format = .decimalSI)
    (nonNegative : 0 ≤ quantity.nanos)
    (wholeMillis : (nanosPerMilli : Int) ∣ quantity.nanos)
    (inInt64 : quantity.nanos ≤ (2 ^ 63 - 1) * nanosPerMilli)
    {n : Int}
    (positive : 0 < n) :
    ∃ part, SplitRSC (.ok quantity) n = .ok part ∧
      n * part.nanos ≤ quantity.nanos ∧ quantity.nanos - n * part.nanos < n * nanosPerMilli := by
  obtain ⟨millis, millisNonNegative⟩ :
      (nanosPerMilli : Int) * quantity.MilliValue = quantity.nanos ∧ 0 ≤ quantity.MilliValue :=
    scaledInt64_of_dvd nonNegative (by decide) inInt64 wholeMillis
  obtain ⟨below, above⟩ := @part_bounds quantity.MilliValue _ positive
  have millisPositive : (0 : Int) < nanosPerMilli := by
    decide
  have scaledBelow := mul_le_mul_of_nonneg_left below millisPositive.le
  have scaledAbove := mul_lt_mul_of_pos_left above millisPositive
  refine ⟨_, SplitRSC_of_decimalSI decimal positive.ne', ?_⟩
  simp only [Printed.nanos, Quantity.SetMilli, Int.tdiv_eq_ediv_of_nonneg millisNonNegative]
  constructor <;> linarith

/-- `SplitRSC("1000", 5)` is `200`, as `TestSplitRSC` expects. -/
theorem SplitRSC_decimal_within_thousand :
    ∃ part, SplitRSC (.ok ⟨1000000000000, .decimalSI⟩) 5 = .ok part ∧
      5 * part.nanos ≤ 1000000000000 ∧ 1000000000000 - 5 * part.nanos < 5 * nanosPerMilli :=
  SplitRSC_decimal_within rfl (by decide) (by decide) (by decide) (by decide)

/-- Any other quantity of a whole, non-negative number of units, at most the
largest `int64` of them, whose parts are below `2 ^ 53` units, splits into `n` parts that leave out less than one
printed unit each: a part `String()` prints is a truncated share and the parts
are at most the whole, but a part printed in a binary suffix is rounded to
the nearest unit of it, and the parts may exceed the whole by half a unit
each. -/
theorem SplitRSC_binary_within
    {quantity : Quantity}
    (notDecimal : quantity.format ≠ .decimalSI)
    (nonNegative : 0 ≤ quantity.nanos)
    (wholeUnits : (nanosPerUnit : Int) ∣ quantity.nanos)
    (inInt64 : quantity.nanos ≤ (2 ^ 63 - 1) * nanosPerUnit)
    {n : Int}
    (positive : 0 < n)
    (exact : quantity.Value / n < 2 ^ 53) :
    ∃ part, SplitRSC (.ok quantity) n = .ok part ∧
      ((part = .canonical (quantity.Set (quantity.Value / n)) ∧
          n * part.nanos ≤ quantity.nanos ∧ quantity.nanos - n * part.nanos < n * nanosPerUnit) ∨
        ∃ mantissa suffix, part = .formatted mantissa suffix ∧
          quantity.nanos - n * part.nanos < n * (2 ^ suffix.exponent * nanosPerUnit) ∧
          2 * (n * part.nanos) ≤ 2 * quantity.nanos + n * (2 ^ suffix.exponent * nanosPerUnit)) := by
  obtain ⟨units, unitsNonNegative⟩ :
      (nanosPerUnit : Int) * quantity.Value = quantity.nanos ∧ 0 ≤ quantity.Value :=
    scaledInt64_of_dvd nonNegative (by decide) inInt64 wholeUnits
  have partNonNegative : 0 ≤ quantity.Value / n := Int.ediv_nonneg unitsNonNegative positive.le
  obtain ⟨below, above⟩ := @part_bounds quantity.Value _ positive
  have unitPositive : (0 : Int) < nanosPerUnit := by
    decide
  have unitsBelow := mul_le_mul_of_nonneg_left below unitPositive.le
  have unitsAbove := mul_lt_mul_of_pos_left above unitPositive
  have truncated := Int.tdiv_eq_ediv_of_nonneg (b := n) unitsNonNegative
  rcases SplitRSC_of_not_decimalSI notDecimal positive.ne' with printed | ⟨suffix, printed⟩
  · -- a small part is stored and printed as it is
    refine ⟨_, printed, .inl ⟨by rw [truncated], ?_⟩⟩
    simp only [Printed.nanos, Quantity.Set, truncated]
    constructor <;> linarith
  · -- a large part is rounded to the nearest unit of its suffix
    rw [truncated] at printed
    obtain ⟨roundedBelow, roundedAbove⟩ := formatBinary_near partNonNegative exact suffix
    have unitLarge := two_le_two_pow_exponent suffix
    have scaledBelow := mul_le_mul_of_nonneg_left roundedBelow positive.le
    have scaledAbove := mul_le_mul_of_nonneg_left roundedAbove positive.le
    have roomForRemainder : n * (2 * nanosPerUnit) ≤ n * (2 ^ suffix.exponent * nanosPerUnit) :=
      mul_le_mul_of_nonneg_left (by nlinarith) positive.le
    obtain ⟨mantissa, formatted⟩ : ∃ mantissa, formatBinary (quantity.Value / n) suffix =
        .formatted mantissa suffix := ⟨_, rfl⟩
    refine ⟨_, printed, .inr ⟨mantissa, suffix, formatted, ?_, ?_⟩⟩
    · linarith
    · linarith

/-- `2Gi` in three parts: each is printed in `Ki`, half a `Ki` or less away. -/
theorem SplitRSC_binary_within_twoGi :
    ∃ part, SplitRSC (.ok ⟨2147483648000000000, .binarySI⟩) 3 = .ok part ∧
      ((part = .canonical ((⟨2147483648000000000, .binarySI⟩ : Quantity).Set
            ((⟨2147483648000000000, .binarySI⟩ : Quantity).Value / 3)) ∧
          3 * part.nanos ≤ 2147483648000000000 ∧
          2147483648000000000 - 3 * part.nanos < 3 * nanosPerUnit) ∨
        ∃ mantissa suffix, part = .formatted mantissa suffix ∧
          2147483648000000000 - 3 * part.nanos < 3 * (2 ^ suffix.exponent * nanosPerUnit) ∧
          2 * (3 * part.nanos) ≤
            2 * 2147483648000000000 + 3 * (2 ^ suffix.exponent * nanosPerUnit)) :=
  SplitRSC_binary_within (by decide) (by decide) (by decide) (by decide) (by decide) (by decide)

/-! ## Where the parts exceed the whole -/

/-- `2Gi` split in three: each part of `715827882` bytes is printed as
`699051Ki`, rounded up, and the three parts come to `1Ki` more than `2Gi`.  A
decimal `0.0001`, kept whole, is printed as `1m`, ten times as much, since
`MilliValue` rounds up. -/
theorem split_parts_exceed_whole :
    SplitRSC (.ok ⟨2147483648000000000, .binarySI⟩) 3 = .ok (.formatted 699051 .Ki) ∧
      3 * (Printed.formatted 699051 .Ki).nanos = 2147483648000000000 + 1024 * nanosPerUnit ∧
    SplitRSC (.ok ⟨100000, .decimalSI⟩) 1 = .ok (.canonical ⟨1000000, .decimalSI⟩) ∧
      100000 < (Printed.canonical ⟨1000000, .decimalSI⟩).nanos := by
  refine ⟨?_, ?_, ?_, ?_⟩
  · decide
  · decide
  · decide
  · decide

end Kuscia.Resources
