import Mathlib

namespace Go

/-!
# Decimal strings as Go's `strconv` reads and writes them

`Atoi` returns a value together with an error; callers that drop the error
still see the value, which is `0` after a syntax error and the nearest bound
of a 64-bit `int` after a range error.  The model returns that value and
whether the error was `nil`.

`ParseInt` and `ParseUint` read base 10 at a bit size the way the library's
digit loop does: a non-digit is a syntax error, and a value past the bit size
a range error that returns the nearest bound; `FormatInt` and `FormatUint`
print decimal text that they read back (`ParseInt_FormatInt`,
`ParseUint_FormatUint`), so that two values never print alike
(`FormatInt_injective`).

Nothing in this module mentions the program being verified.
-/

/-- The digits of a decimal numeral, as `strconv.ParseUint` adds them up. -/
def decimalValue (digits : List Char) : Nat :=
  digits.foldl (fun n c => 10 * n + (c.toNat - '0'.toNat)) 0

/-- `strconv.Atoi` on a 64-bit platform: the value, and whether the error is
`nil`.  An optional sign and then decimal digits; anything else is a syntax
error. -/
def Atoi (s : String) : Int × Bool :=
  let (negative, digits) : Bool × List Char :=
    match s.toList with
    | '+' :: rest => (false, rest)
    | '-' :: rest => (true, rest)
    | chars => (false, chars)
  if digits.isEmpty || !digits.all Char.isDigit then (0, false)
  else
    let value : Int := if negative then -(decimalValue digits : Int) else decimalValue digits
    if value < -2 ^ 63 then (-2 ^ 63, false)
    else if 2 ^ 63 - 1 < value then (2 ^ 63 - 1, false)
    else (value, true)

/-- `strconv.Quote` on printable ASCII text: the text in double quotes, with
quotes and backslashes escaped. -/
def quote (s : String) : String :=
  let escaped := s.toList.flatMap fun c => if c = '\x22' ∨ c = '\x5c' then ['\x5c', c] else [c]
  String.ofList ('\x22' :: escaped ++ ['\x22'])

/-- The text of the error `strconv.Atoi` returns with a failed parse: a
syntax error leaves the value at 0, a range error at a bound. -/
def atoiErrorText (s : String) : String :=
  "strconv.Atoi: parsing " ++ quote s ++
    (if (Atoi s).1 = 0 then ": invalid syntax" else ": value out of range")

/-- A `[]string` printed with `%v`. -/
def formatStrings (xs : List String) : String :=
  "[" ++ " ".intercalate xs ++ "]"

/-- `strings.TrimSuffix`: the text without the suffix, when it ends with it. -/
def TrimSuffix (s suffix : String) : String :=
  if suffix.toList.isSuffixOf s.toList then
    String.ofList (s.toList.take (s.toList.length - suffix.toList.length))
  else s

/-- `strconv.Itoa`. -/
def Itoa (n : Int) : String :=
  toString n

/-- Go's `int` addition on a 64-bit platform, which wraps. -/
def addInt (a b : Int) : Int :=
  (Int64.ofInt a + Int64.ofInt b).toInt

/-- Without overflow, `int` addition is addition. -/
theorem addInt_of_fits
    {a b : Int}
    (aFits : -2 ^ 63 ≤ a ∧ a < 2 ^ 63)
    (bFits : -2 ^ 63 ≤ b ∧ b < 2 ^ 63)
    (sumFits : -2 ^ 63 ≤ a + b ∧ a + b < 2 ^ 63) :
    addInt a b = a + b := by
  -- both operands and the sum are their own remainders modulo 2^64
  have aSame : a.bmod Int64.size = a := Int.bmod_eq_of_le (by simp; omega) (by simp; omega)
  have bSame : b.bmod Int64.size = b := Int.bmod_eq_of_le (by simp; omega) (by simp; omega)
  unfold addInt
  rw [Int64.toInt_add, Int64.toInt_ofInt, Int64.toInt_ofInt, aSame, bSame]
  exact Int.bmod_eq_of_le (by omega) (by omega)

example : quote "a\x22b" = "\x22a\x5c\x22b\x22" ∧
    atoiErrorText "x" = "strconv.Atoi: parsing \x22x\x22: invalid syntax" := by
  decide

example : Atoi "12" = (12, true) ∧ Atoi "-3" = (-3, true) ∧ Atoi "" = (0, false) ∧
    Atoi "1x" = (0, false) := by
  decide

/-! ## Parsing at a bit size -/

/-- A `*strconv.NumError`: the function, its input, and whether the error is
`ErrRange` rather than `ErrSyntax`. -/
structure NumError where
  func : String
  num : String
  range : Bool
  deriving DecidableEq, Repr

/-- `e.Error()`. -/
def NumError.Error (e : NumError) : String :=
  "strconv." ++ e.func ++ ": parsing " ++ quote e.num ++ ": " ++
    (if e.range then "value out of range" else "invalid syntax")

/-- `strconv.FormatInt(i, 10)`. -/
def FormatInt (i : Int) : String :=
  toString i

/-- `strconv.FormatUint(i, 10)`. -/
def FormatUint (i : Nat) : String :=
  toString i

/-- The digit loop of `ParseUint` in base 10 from the value `n` read so far:
`none` for a syntax error, `some (inl ())` for a range error. -/
def parseUintDigits (maxVal : Nat) : Nat → List Char → Except Bool Nat
  | n, [] => .ok n
  | n, c :: rest =>
    if c.isDigit then
      -- `cutoff` is the smallest number whose tenfold overflows 64 bits
      if (2 ^ 64 - 1) / 10 + 1 ≤ n then .error true
      else
        let n1 := 10 * n + (c.toNat - '0'.toNat)
        if maxVal < n1 then .error true else parseUintDigits maxVal n1 rest
    else .error false

/-- `strconv.ParseUint(s, 10, bitSize)`: the value and the error. -/
def ParseUint (s : String) (bitSize : Nat) : Nat × Option NumError :=
  let maxVal := 2 ^ bitSize - 1
  if s = "" then (0, some ⟨"ParseUint", s, false⟩)
  else
    match parseUintDigits maxVal 0 s.toList with
    | .ok n => (n, none)
    | .error true => (maxVal, some ⟨"ParseUint", s, true⟩)
    | .error false => (0, some ⟨"ParseUint", s, false⟩)

/-- `strconv.ParseInt(s, 10, bitSize)`: an optional sign, the digits as
`ParseUint` reads them, and the range of a `bitSize`-bit integer. -/
def ParseInt (s : String) (bitSize : Nat) : Int × Option NumError :=
  if s = "" then (0, some ⟨"ParseInt", s, false⟩)
  else
    let (neg, rest) : Bool × List Char :=
      if s.toList.head? = some '+' then (false, s.toList.tail)
      else if s.toList.head? = some '-' then (true, s.toList.tail)
      else (false, s.toList)
    let (un, err) := ParseUint (String.ofList rest) bitSize
    match err with
    | some e =>
      if !e.range then (0, some ⟨"ParseInt", s, false⟩)
      else if !neg then (2 ^ (bitSize - 1) - 1, some ⟨"ParseInt", s, true⟩)
      else (-(2 ^ (bitSize - 1)), some ⟨"ParseInt", s, true⟩)
    | none =>
      let cutoff := 2 ^ (bitSize - 1)
      if !neg && cutoff ≤ un then (cutoff - 1, some ⟨"ParseInt", s, true⟩)
      else if neg && cutoff < un then (-cutoff, some ⟨"ParseInt", s, true⟩)
      else if neg then (-(un : Int), none) else (un, none)

/-- `strconv.ParseBool(str)`. -/
def ParseBool (str : String) : Bool × Option NumError :=
  if str ∈ ["1", "t", "T", "TRUE", "true", "True"] then (true, none)
  else if str ∈ ["0", "f", "F", "FALSE", "false", "False"] then (false, none)
  else (false, some ⟨"ParseBool", str, false⟩)

example : ParseInt "-128" 8 = (-128, none) ∧ ParseInt "128" 8 = (127, some ⟨"ParseInt", "128", true⟩) ∧
    ParseUint "300" 8 = (255, some ⟨"ParseUint", "300", true⟩) ∧
    ParseInt "NULL" 64 = (0, some ⟨"ParseInt", "NULL", false⟩) := by
  decide

/-! ## Printing and reading back -/

/-- Reading more digits never gives less. -/
theorem le_ofDigitChars
    (digits : List Char)
    (init : Nat) :
    init ≤ Nat.ofDigitChars 10 digits init := by
  rw [Nat.ofDigitChars_eq_ofDigitChars_zero]
  have power : 1 ≤ 10 ^ digits.length := Nat.one_le_pow _ _ (by decide)
  nlinarith

/-- The digit loop reads decimal digits whose value fits. -/
theorem parseUintDigits_of_le
    {maxVal : Nat}
    (fits64 : maxVal ≤ 2 ^ 64 - 1) :
    ∀ {digits : List Char} {n : Nat}, (∀ c ∈ digits, c.isDigit) →
      Nat.ofDigitChars 10 digits n ≤ maxVal →
      parseUintDigits maxVal n digits = .ok (Nat.ofDigitChars 10 digits n) := by
  intro digits
  induction digits with
  | nil =>
    intro n _ _
    rfl
  | cons c rest inductionHypothesis =>
    intro n allDigits fits
    have isDigit := allDigits c List.mem_cons_self
    rw [Nat.ofDigitChars_cons] at fits ⊢
    -- the value read so far stays below the final one, so neither check fires
    have stepFits := (le_ofDigitChars rest (10 * n + (c.toNat - '0'.toNat))).trans fits
    have belowCutoff : ¬(2 ^ 64 - 1) / 10 + 1 ≤ n := by
      omega
    have notAbove : ¬maxVal < 10 * n + (c.toNat - '0'.toNat) := by
      omega
    simp only [parseUintDigits, isDigit, if_true, belowCutoff, notAbove, if_false]
    exact inductionHypothesis (fun c' member => allDigits c' (List.mem_cons_of_mem c member)) fits

/-- `FormatUint` prints only digits. -/
theorem isDigit_of_mem_FormatUint
    {value : Nat}
    {c : Char}
    (member : c ∈ (FormatUint value).toList) :
    c.isDigit := by
  rw [FormatUint, Nat.toString_eq_repr, Nat.toList_repr] at member
  exact Nat.isDigit_of_mem_toDigits (by decide) (by decide) member

/-- A negative value is printed as a minus sign and the digits of its size. -/
theorem FormatInt_negSucc
    (m : Nat) :
    (FormatInt (Int.negSucc m)).toList = '-' :: (FormatUint (m + 1)).toList := by
  show ("-" ++ FormatUint (m + 1)).toList = _
  rw [String.toList_append]
  rfl

/-- `ParseUint` reads back what `FormatUint` prints, within the bit size. -/
theorem ParseUint_FormatUint
    {bitSize : Nat}
    (atMost64 : bitSize ≤ 64)
    {value : Nat}
    (fits : value < 2 ^ bitSize) :
    ParseUint (FormatUint value) bitSize = (value, none) := by
  have notEmpty : FormatUint value ≠ "" := Nat.repr_ne_empty
  have digitsOnly : ∀ c ∈ (FormatUint value).toList, c.isDigit :=
    fun _ member => isDigit_of_mem_FormatUint member
  have readBack : Nat.ofDigitChars 10 (FormatUint value).toList 0 = value := by
    rw [FormatUint, Nat.toString_eq_repr, Nat.toList_repr, Nat.ofDigitChars_ten_toDigits]
  have bitsFit : 2 ^ bitSize ≤ 2 ^ 64 := Nat.pow_le_pow_right (by decide) atMost64
  have parsed := @parseUintDigits_of_le (2 ^ bitSize - 1) (by omega) _ 0 digitsOnly (by omega)
  rw [readBack] at parsed
  simp only [ParseUint, notEmpty, if_false, parsed]

/-- `ParseInt` reads back what `FormatInt` prints, within the bit size. -/
theorem ParseInt_FormatInt
    {bitSize : Nat}
    (positive : 0 < bitSize)
    (atMost64 : bitSize ≤ 64)
    {value : Int}
    (fits : -2 ^ (bitSize - 1) ≤ value ∧ value < 2 ^ (bitSize - 1)) :
    ParseInt (FormatInt value) bitSize = (value, none) := by
  have halfBelow : 2 ^ (bitSize - 1) < 2 ^ bitSize := Nat.pow_lt_pow_right (by decide) (by omega)
  cases value with
  | ofNat m =>
    -- a non-negative value is printed as its digits, with no sign
    have printed : FormatInt (Int.ofNat m) = FormatUint m := rfl
    have small : m < 2 ^ (bitSize - 1) := by
      have below := fits.2
      rw [Int.ofNat_eq_natCast] at below
      exact_mod_cast below
    have notEmpty : FormatUint m ≠ "" := Nat.repr_ne_empty
    obtain ⟨c, rest, chars⟩ : ∃ c rest, (FormatUint m).toList = c :: rest := by
      cases text : (FormatUint m).toList with
      | nil => exact absurd (String.toList_eq_nil_iff.mp text) notEmpty
      | cons c rest => exact ⟨c, rest, rfl⟩
    have isDigit : c.isDigit := by
      apply @isDigit_of_mem_FormatUint m
      rw [chars]
      exact List.mem_cons_self
    have headIs : (FormatUint m).toList.head? = some c := by
      rw [chars]
      rfl
    have notPlus : some c ≠ some '+' := by
      rintro ⟨⟩
      exact absurd isDigit (by decide)
    have notMinus : some c ≠ some '-' := by
      rintro ⟨⟩
      exact absurd isDigit (by decide)
    have unsigned := ParseUint_FormatUint atMost64 (show m < 2 ^ bitSize by omega)
    simp only [ParseInt, printed, notEmpty, if_false, headIs, notPlus, notMinus,
      String.ofList_toList, unsigned]
    simp [Nat.not_le.mpr small]
  | negSucc m =>
    -- a negative value is printed as a minus sign and the digits of its size
    have printed := FormatInt_negSucc m
    have small : m + 1 ≤ 2 ^ (bitSize - 1) := by
      have above := fits.1
      rw [Int.negSucc_eq] at above
      have castAbove : ((m + 1 : Nat) : Int) ≤ ((2 ^ (bitSize - 1) : Nat) : Int) := by
        push_cast
        omega
      exact_mod_cast castAbove
    have notEmpty : FormatInt (Int.negSucc m) ≠ "" := by
      intro empty
      rw [empty] at printed
      exact absurd printed (by simp)
    have unsigned := ParseUint_FormatUint atMost64 (show m + 1 < 2 ^ bitSize by omega)
    simp only [ParseInt, notEmpty, if_false, printed, List.head?_cons, List.tail_cons]
    simp [String.ofList_toList, unsigned, Nat.not_lt.mpr small, Int.negSucc_eq]

/-- The digits `FormatUint` prints add up to the value. -/
theorem ofDigitChars_FormatUint
    (value : Nat) :
    Nat.ofDigitChars 10 (FormatUint value).toList 0 = value := by
  rw [FormatUint, Nat.toString_eq_repr, Nat.toList_repr, Nat.ofDigitChars_ten_toDigits]

/-- `FormatInt` prints at least one character. -/
theorem FormatInt_ne_empty
    (value : Int) :
    FormatInt value ≠ "" := by
  cases value with
  | ofNat m => exact Nat.repr_ne_empty
  | negSucc m =>
    intro empty
    have chars := FormatInt_negSucc m
    rw [empty] at chars
    exact absurd chars (by simp)

/-- Different values print differently. -/
theorem FormatUint_injective :
    Function.Injective FormatUint := by
  intro a b same
  rw [← ofDigitChars_FormatUint a, ← ofDigitChars_FormatUint b, same]

/-- Different values print differently: the minus sign, which no digit
string holds, keeps the two signs apart. -/
theorem FormatInt_injective :
    Function.Injective FormatInt := by
  have noMinus (m : Nat) : '-' ∉ (FormatUint m).toList :=
    fun member => absurd (isDigit_of_mem_FormatUint member) (by decide)
  intro a b same
  have sameChars := congrArg String.toList same
  cases a with
  | ofNat m =>
    cases b with
    | ofNat n => exact congrArg Int.ofNat (FormatUint_injective same)
    | negSucc n =>
      rw [FormatInt_negSucc] at sameChars
      exact absurd (sameChars ▸ List.mem_cons_self) (noMinus m)
  | negSucc m =>
    cases b with
    | ofNat n =>
      rw [FormatInt_negSucc] at sameChars
      exact absurd (sameChars.symm ▸ List.mem_cons_self) (noMinus n)
    | negSucc n =>
      rw [FormatInt_negSucc, FormatInt_negSucc, List.cons.injEq] at sameChars
      have sizes : m + 1 = n + 1 := FormatUint_injective (String.toList_inj.mp sameChars.2)
      rw [Nat.succ_inj.mp sizes]

end Go
