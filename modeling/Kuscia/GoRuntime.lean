import Mathlib

namespace Go

/-!
# Returned errors and runtime panics

A Go call either returns (a result, or an error value the caller checks) or
panics: a nil pointer dereference or an index out of range unwinds the stack
past every caller.  An `Outcome` keeps the two failures apart, so that "the
function returns an error or a result" is a statement about the model:
`NoPanic`.  The lemmas carry it through `do` blocks and loops.

Nothing in this module mentions the program being verified.
-/

/-- Why a call did not return a result. -/
inductive Failure where
  /-- An `error` value returned to the caller. -/
  | error (message : String)
  /-- A runtime panic. -/
  | panic (reason : String)
  deriving Repr, DecidableEq

/-- A call that returns a value or fails. -/
abbrev Outcome (α : Type) := Except Failure α

/-- The panic of reading a field through a nil pointer. -/
def nilDereference : Failure :=
  .panic "runtime error: invalid memory address or nil pointer dereference"

/-- The panic of indexing a slice out of its bounds. -/
def indexOutOfRange : Failure :=
  .panic "runtime error: index out of range"

/-- The panic of an integer division by zero. -/
def integerDivideByZero : Failure :=
  .panic "runtime error: integer divide by zero"

/-- `xs[i]`: the element, or the panic of an index outside the slice. -/
def index {α : Type} (xs : List α) (i : Int) : Outcome α :=
  if 0 ≤ i then
    match xs[i.toNat]? with
    | some x => .ok x
    | none => .error indexOutOfRange
  else .error indexOutOfRange

/-- The panic of slicing outside a slice's bounds. -/
def sliceBoundsOutOfRange : Failure :=
  .panic "runtime error: slice bounds out of range"

/-- `xs[low:high]`, for a slice sliced within its length: the elements from
`low` up to `high`, or the panic of bounds out of order or outside the slice. -/
def slice {α : Type} (xs : List α) (low high : Int) : Outcome (List α) :=
  if 0 ≤ low ∧ low ≤ high ∧ high ≤ xs.length then
    .ok ((xs.take high.toNat).drop low.toNat)
  else .error sliceBoundsOutOfRange

/-- `fmt.Errorf(prefix + "%v", err)` on a returned error; a panic passes
through untouched. -/
def wrapError {α : Type} (errorPrefix : String) : Outcome α → Outcome α
  | .error (.error message) => .error (.error (errorPrefix ++ message))
  | other => other

/-- The call returns: with a value or with an error, but it does not panic. -/
def NoPanic {α : Type} : Outcome α → Prop
  | .ok _ => True
  | .error (.error _) => True
  | .error (.panic _) => False

section NoPanic

variable {α β : Type}

@[simp] theorem noPanic_ok
    (value : α) :
    NoPanic (Except.ok value : Outcome α) := trivial

@[simp] theorem noPanic_error
    (message : String) :
    NoPanic (Except.error (.error message) : Outcome α) := trivial

@[simp] theorem noPanic_pure
    (value : α) :
    NoPanic (pure value : Outcome α) := trivial

/-- A `do` block does not panic when its first call does not and no
continuation of a result does. -/
theorem NoPanic.bind
    {first : Outcome α}
    {next : α → Outcome β}
    (firstNoPanic : NoPanic first)
    (nextNoPanic : ∀ value, first = .ok value → NoPanic (next value)) :
    NoPanic (first >>= next) := by
  cases firstIs : first with
  | ok value =>
    exact nextNoPanic value firstIs
  | error failure =>
    -- the failure is passed on, at the continuation's type
    rw [firstIs] at firstNoPanic
    cases failure with
    | error message => trivial
    | panic reason => exact firstNoPanic.elim

/-- Indexing inside the bounds does not panic. -/
theorem noPanic_index
    {xs : List α}
    {i : Int}
    (nonNegative : 0 ≤ i)
    (inBounds : i < xs.length) :
    NoPanic (index xs i) := by
  have inRange : i.toNat < xs.length := by
    omega
  obtain ⟨x, found⟩ : ∃ x, xs[i.toNat]? = some x := ⟨_, List.getElem?_eq_getElem inRange⟩
  simp [index, nonNegative, found]

/-- A slice within the bounds is the elements between them. -/
theorem slice_of_le
    {xs : List α}
    {low high : Int}
    (inOrder : 0 ≤ low ∧ low ≤ high)
    (inBounds : high ≤ xs.length) :
    slice xs low high = .ok ((xs.take high.toNat).drop low.toNat) := by
  simp [slice, inOrder.1, inOrder.2, inBounds]

/-- Bounds out of order panic. -/
theorem slice_of_lt
    (xs : List α)
    {low high : Int}
    (outOfOrder : high < low) :
    slice xs low high = .error sliceBoundsOutOfRange := by
  have notInOrder : ¬(0 ≤ low ∧ low ≤ high ∧ high ≤ xs.length) := by
    omega
  simp only [slice, notInOrder, if_false]

/-- Wrapping a returned error keeps a call free of panics. -/
theorem NoPanic.wrapError
    {call : Outcome α}
    (callNoPanic : NoPanic call)
    (errorPrefix : String) :
    NoPanic (Go.wrapError errorPrefix call) := by
  match call, callNoPanic with
  | .ok _, _ => trivial
  | .error (.error _), _ => trivial

/-- Wrapping changes only errors: a result passes through. -/
theorem wrapError_eq_ok
    {call : Outcome α}
    {errorPrefix : String}
    {value : α}
    (wrapped : Go.wrapError errorPrefix call = .ok value) :
    call = .ok value := by
  cases call with
  | ok result => exact wrapped
  | error failure =>
    cases failure <;> cases wrapped

/-- A loop that stops at its first failure does not panic when no iteration does. -/
theorem NoPanic.mapM
    {f : α → Outcome β} :
    ∀ {xs : List α}, (∀ x ∈ xs, NoPanic (f x)) → NoPanic (xs.mapM f) := by
  intro xs
  induction xs with
  | nil =>
    intro _
    exact noPanic_pure []
  | cons head rest inductionHypothesis =>
    intro everyNoPanic
    rw [List.mapM_cons]
    apply NoPanic.bind (everyNoPanic head List.mem_cons_self)
    intro value _
    apply NoPanic.bind (inductionHypothesis fun x member =>
      everyNoPanic x (List.mem_cons_of_mem head member))
    intro values _
    exact noPanic_pure _

end NoPanic

section Returns

variable {α β : Type}

/-- A `do` block returns a result when its first call does and the
continuation does on that call's result. -/
theorem exists_bind_eq_ok
    {first : Outcome α}
    {next : α → Outcome β}
    (firstReturns : ∃ value, first = .ok value)
    (nextReturns : ∀ value, first = .ok value → ∃ result, next value = .ok result) :
    ∃ result, (first >>= next) = .ok result := by
  obtain ⟨value, firstIs⟩ := firstReturns
  obtain ⟨result, nextIs⟩ := nextReturns value firstIs
  refine ⟨result, ?_⟩
  rw [firstIs]
  exact nextIs

/-- A loop that stops at its first failure returns when every iteration does. -/
theorem exists_mapM_eq_ok
    {f : α → Outcome β} :
    ∀ {xs : List α}, (∀ x ∈ xs, ∃ y, f x = .ok y) → ∃ ys, xs.mapM f = .ok ys := by
  intro xs
  induction xs with
  | nil =>
    intro _
    exact ⟨[], rfl⟩
  | cons head rest inductionHypothesis =>
    intro everyReturns
    rw [List.mapM_cons]
    apply exists_bind_eq_ok (everyReturns head List.mem_cons_self)
    intro y _
    apply exists_bind_eq_ok (inductionHypothesis fun x member =>
      everyReturns x (List.mem_cons_of_mem head member))
    intro ys _
    exact ⟨y :: ys, rfl⟩

/-- Indexing inside the bounds returns an element. -/
theorem exists_index_eq_ok
    {xs : List α}
    {i : Int}
    (nonNegative : 0 ≤ i)
    (inBounds : i < xs.length) :
    ∃ x, index xs i = .ok x := by
  have inRange : i.toNat < xs.length := by
    omega
  refine ⟨xs[i.toNat], ?_⟩
  simp [index, nonNegative, inRange]

/-- A `do` block goes on with the result of a call that returns. -/
@[simp] theorem ok_bind
    (value : α)
    (next : α → Outcome β) :
    (Except.ok value >>= next : Outcome β) = next value :=
  rfl

/-- Wrapping a call that returns changes nothing. -/
@[simp] theorem wrapError_ok
    (errorPrefix : String)
    (value : α) :
    Go.wrapError errorPrefix (.ok value : Outcome α) = .ok value :=
  rfl

end Returns

end Go
