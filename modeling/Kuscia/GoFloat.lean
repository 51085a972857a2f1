import Mathlib

namespace Go

/-!
# Whole numbers through `float64` and `%.0f`

`float64(x)` of an integer rounds it to 53 significant bits, to the nearest
double and to the even one on a tie; below `2 ^ 53` it is exact
(`float64OfNat_of_lt`).  Dividing a double by a power of two is exact at the
magnitudes used here, and `fmt.Sprintf("%.0f", v)` prints the exact binary
value rounded to a whole number, again half to even.  `roundHalfEvenDiv a b`
is that rounding of `a / b`; it is never more than half of `b` away
(`roundHalfEvenDiv_le`, `le_roundHalfEvenDiv`).

Nothing in this module mentions the program being verified.
-/

/-- `a / b` rounded to the nearest natural number, a tie to the even one. -/
def roundHalfEvenDiv (a b : Nat) : Nat :=
  let quotient := a / b
  let remainder := a % b
  if 2 * remainder < b then quotient
  else if b < 2 * remainder then quotient + 1
  else if quotient % 2 = 0 then quotient
  else quotient + 1

/-- `float64(x)` for a natural number `x`: the nearest double, which is again a
natural number. -/
def float64OfNat (x : Nat) : Nat :=
  if x < 2 ^ 53 then x
  else
    -- the bits below the 53 leading ones are rounded off
    let dropped := Nat.log2 x - 52
    roundHalfEvenDiv x (2 ^ dropped) * 2 ^ dropped

/-- Below `2 ^ 53` every natural number is a double. -/
theorem float64OfNat_of_lt
    {x : Nat}
    (small : x < 2 ^ 53) :
    float64OfNat x = x := by
  unfold float64OfNat
  rw [if_pos small]

/-- The rounding is either the quotient or, from half a `b` of remainder on,
one more. -/
theorem roundHalfEvenDiv_cases
    (a b : Nat) :
    roundHalfEvenDiv a b = a / b ∨
      (b ≤ 2 * (a % b) ∧ roundHalfEvenDiv a b = a / b + 1) := by
  unfold roundHalfEvenDiv
  dsimp only
  split_ifs with below above even
  · exact .inl rfl
  · exact .inr ⟨above.le, rfl⟩
  · exact .inl rfl
  · exact .inr ⟨by omega, rfl⟩

/-- The rounded multiple is at most half of `b` above `a`. -/
theorem roundHalfEvenDiv_le
    (a b : Nat) :
    2 * (roundHalfEvenDiv a b * b) ≤ 2 * a + b := by
  have divided := Nat.div_add_mod' a b
  rcases roundHalfEvenDiv_cases a b with down | ⟨halfway, up⟩
  · rw [down]
    omega
  · rw [up, Nat.add_mul, one_mul]
    omega

/-- The rounded multiple is at most half of `b` below `a`. -/
theorem le_roundHalfEvenDiv
    {b : Nat}
    (positive : 0 < b)
    (a : Nat) :
    2 * a ≤ 2 * (roundHalfEvenDiv a b * b) + b := by
  have divided := Nat.div_add_mod' a b
  have remainderBelow := Nat.mod_lt a positive
  rcases roundHalfEvenDiv_cases a b with down | ⟨_, up⟩
  · -- rounding down leaves at most half of `b`
    rw [down]
    unfold roundHalfEvenDiv at down
    dsimp only at down
    split_ifs at down with below above <;> omega
  · rw [up, Nat.add_mul, one_mul]
    omega

end Go
