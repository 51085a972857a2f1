import Mathlib
import Kuscia.GoRuntime

namespace Go

/-!
# Loops over an input in windows of a fixed length

The loop

    for start < len(input) {
        end := start + roundLength
        if end > len(input) {
            end = len(input)
        }
        out, err := f(input[start:end])
        if err != nil {
            return err
        }
        acc = append(acc, out...)
        start = end
    }

cuts its input into windows of `roundLength` elements, the last one shorter,
and appends what `f` makes of each; `f` may thread a state, such as a random
reader.  `windowLoop` runs it for at most `fuel` windows and gives `none` when
the fuel runs out.  With a positive round length one window more than the
input has elements is enough (`windowLoop_run`), and an input made of blocks of
exactly the round length is visited block by block (`windowLoop_blocks`).  With
a round length of zero every window is empty and the loop never ends
(`windowLoop_zero_round`); with a negative one the first slice panics
(`windowLoop_negative_round`).

Nothing in this module mentions the program being verified.
-/

section WindowLoop

variable {α β σ : Type}

/-- The loop from `start` on, with `acc` appended so far and `state` threaded
through `f`; `none` when `fuel` windows were not enough. -/
def windowLoop
    (f : σ → List α → Except String (List β × σ))
    (roundLength : Int)
    (input : List α) :
    Nat → Int → List β → σ → Option (Outcome (List β × σ))
  | 0, _, _, _ => none
  | fuel + 1, start, acc, state =>
    if start < input.length then
      let stop := min (start + roundLength) input.length
      match slice input start stop with
      | .error failure => some (.error failure)
      | .ok window =>
        match f state window with
        | .error message => some (.error (.error message))
        | .ok (out, state) => windowLoop f roundLength input fuel stop (acc ++ out) state
    else some (.ok (acc, state))

variable {f : σ → List α → Except String (List β × σ)}

/-! ## One window -/

/-- Past the end of the input the loop returns what it has appended. -/
theorem windowLoop_done
    {roundLength : Int}
    {input : List α}
    {start : Int}
    (pastEnd : input.length ≤ start)
    (fuel : Nat)
    (acc : List β)
    (state : σ) :
    windowLoop f roundLength input (fuel + 1) start acc state = some (.ok (acc, state)) := by
  have notBefore : ¬start < input.length := by
    omega
  simp only [windowLoop, notBefore, if_false]

/-- The window at `start` is the next `roundLength` elements, or what is left. -/
theorem slice_window
    (input : List α)
    {start roundLength : Int}
    (nonNegative : 0 ≤ start)
    (before : start < input.length)
    (positive : 0 < roundLength) :
    slice input start (min (start + roundLength) input.length) =
      .ok ((input.drop start.toNat).take roundLength.toNat) := by
  rw [slice_of_le ⟨nonNegative, by omega⟩ (min_le_right _ _), List.drop_take,
    List.take_eq_take_min, List.take_eq_take_min (i := roundLength.toNat), List.length_drop]
  congr 2
  omega

/-- What follows the window at `start`. -/
theorem drop_window_stop
    (input : List α)
    {start roundLength : Int}
    (nonNegative : 0 ≤ start)
    (positive : 0 < roundLength) :
    input.drop (min (start + roundLength) input.length).toNat =
      (input.drop start.toNat).drop roundLength.toNat := by
  rw [List.drop_drop]
  by_cases fits : start + roundLength ≤ input.length
  · congr 1
    omega
  · rw [List.drop_eq_nil_of_le (by omega), List.drop_eq_nil_of_le (by omega)]

/-- One window of a positive round length: `f` takes it and the loop goes on
after it. -/
theorem windowLoop_step
    {roundLength : Int}
    {input : List α}
    {start : Int}
    (positive : 0 < roundLength)
    (nonNegative : 0 ≤ start)
    (before : start < input.length)
    {fuel : Nat}
    {acc out : List β}
    {state state' : σ}
    (applied : f state ((input.drop start.toNat).take roundLength.toNat) = .ok (out, state')) :
    windowLoop f roundLength input (fuel + 1) start acc state =
      windowLoop f roundLength input fuel (min (start + roundLength) input.length)
        (acc ++ out) state' := by
  simp only [windowLoop, before, if_true, slice_window input nonNegative before positive, applied]

/-! ## Whole runs -/

/-- With a positive round length and an `f` that takes every window, the loop
returns, having visited windows that make up the rest of the input, each
related to what `f` made of it.  The induction is on the fuel, one window a
step. -/
theorem windowLoop_run
    {roundLength : Int}
    (positive : 0 < roundLength)
    (input : List α)
    {R : List α → List β → Prop}
    (everyWindow : ∀ state window, window ≠ [] → window.length ≤ roundLength.toNat →
      ∃ out state', f state window = .ok (out, state') ∧ R window out) :
    ∀ fuel start acc state, 0 ≤ start → input.length - start.toNat < fuel →
      ∃ windows outs state',
        windowLoop f roundLength input fuel start acc state =
          some (.ok (acc ++ outs.flatten, state')) ∧
        windows.flatten = input.drop start.toNat ∧
        (∀ window ∈ windows, window ≠ []) ∧
        List.Forall₂ R windows outs := by
  intro fuel
  induction fuel with
  | zero =>
    intro start acc state _ enough
    omega
  | succ fuel inductionHypothesis =>
    intro start acc state nonNegative enough
    by_cases before : start < input.length
    · -- the window is not empty and no longer than the round length
      have windowNonEmpty : (input.drop start.toNat).take roundLength.toNat ≠ [] := by
        simp only [ne_eq, List.take_eq_nil_iff, List.drop_eq_nil_iff]
        omega
      have windowShort : ((input.drop start.toNat).take roundLength.toNat).length ≤
          roundLength.toNat := List.length_take_le _ _
      obtain ⟨out, state', applied, related⟩ := everyWindow state _ windowNonEmpty windowShort
      obtain ⟨windows, outs, state'', rest, restWindows, restNonEmpty, restRelated⟩ :=
        inductionHypothesis (min (start + roundLength) input.length) (acc ++ out) state'
          (by omega) (by omega)
      refine ⟨_ :: windows, out :: outs, state'', ?_, ?_, ?_,
        List.Forall₂.cons related restRelated⟩
      · rw [windowLoop_step positive nonNegative before applied, rest, List.flatten_cons,
          List.append_assoc]
      · rw [List.flatten_cons, restWindows, drop_window_stop input nonNegative positive,
          List.take_append_drop]
      · intro window member
        rcases List.mem_cons.mp member with first | later
        · exact first ▸ windowNonEmpty
        · exact restNonEmpty window later
    · refine ⟨[], [], state, ?_, ?_, by simp, List.Forall₂.nil⟩
      · rw [windowLoop_done (by omega), List.flatten_nil, List.append_nil]
      · rw [List.flatten_nil, List.drop_eq_nil_of_le (by omega)]

/-- Non-empty windows are no more than their elements. -/
theorem length_le_length_flatten :
    ∀ {windows : List (List α)}, (∀ window ∈ windows, window ≠ []) →
      windows.length ≤ windows.flatten.length
  | [], _ => by simp
  | window :: rest, nonEmpty => by
    have windowLength : 0 < window.length :=
      List.length_pos_iff.mpr (nonEmpty window List.mem_cons_self)
    have restLength := length_le_length_flatten fun other member =>
      nonEmpty other (List.mem_cons_of_mem window member)
    simp only [List.length_cons, List.flatten_cons, List.length_append]
    omega

/-- An input made of blocks of exactly the round length is visited block by
block, and the loop returns what `f` makes of each. -/
theorem windowLoop_blocks
    {roundLength : Int}
    (positive : 0 < roundLength)
    (input : List α) :
    ∀ {blocks : List (List α)} {outs : List (List β)},
      List.Forall₂ (fun block out => block.length = roundLength.toNat ∧
        ∀ state, ∃ state', f state block = .ok (out, state')) blocks outs →
      ∀ fuel start acc state, 0 ≤ start → input.drop start.toNat = blocks.flatten →
        blocks.length < fuel →
        ∃ state', windowLoop f roundLength input fuel start acc state =
          some (.ok (acc ++ outs.flatten, state')) := by
  intro blocks outs related
  induction related with
  | nil =>
    intro fuel start acc state _ restEmpty enough
    obtain ⟨fuel, rfl⟩ : ∃ rest, fuel = rest + 1 := Nat.exists_eq_succ_of_ne_zero (by simpa using enough.ne')
    have pastEnd : input.length ≤ start := by
      rw [List.flatten_nil, List.drop_eq_nil_iff] at restEmpty
      omega
    exact ⟨state, by rw [windowLoop_done pastEnd, List.flatten_nil, List.append_nil]⟩
  | @cons block out blocks outs blockRelated _ inductionHypothesis =>
    intro fuel start acc state nonNegative rest enough
    obtain ⟨fuel, rfl⟩ : ∃ rest, fuel = rest + 1 := Nat.exists_eq_succ_of_ne_zero (by omega)
    obtain ⟨exactLength, applies⟩ := blockRelated
    -- the block is the whole window, so the loop stops right after it
    have restLength := congrArg List.length rest
    rw [List.flatten_cons, List.length_append, List.length_drop, exactLength] at restLength
    have before : start < input.length := by
      omega
    have window : (input.drop start.toNat).take roundLength.toNat = block := by
      rw [rest, List.flatten_cons, List.take_left' exactLength]
    obtain ⟨state', applied⟩ := applies state
    rw [← window] at applied
    have later : input.drop (min (start + roundLength) input.length).toNat = blocks.flatten := by
      rw [drop_window_stop input nonNegative positive, rest, List.flatten_cons,
        List.drop_left' exactLength]
    obtain ⟨state'', run⟩ := inductionHypothesis fuel _ (acc ++ out) state' (by omega) later
      (by simpa using enough)
    refine ⟨state'', ?_⟩
    rw [windowLoop_step positive nonNegative before applied, run, List.flatten_cons,
      List.append_assoc]

/-- With a round length of zero every window is empty: an `f` that takes the
empty window keeps the loop at `start` for ever. -/
theorem windowLoop_zero_round
    {input : List α}
    {start : Int}
    (nonNegative : 0 ≤ start)
    (before : start < input.length)
    (takesEmpty : ∀ state, ∃ out state', f state [] = .ok (out, state')) :
    ∀ fuel acc state, windowLoop f 0 input fuel start acc state = none := by
  intro fuel
  induction fuel with
  | zero =>
    intro acc state
    rfl
  | succ fuel inductionHypothesis =>
    intro acc state
    have stopHere : min (start + 0) input.length = start := by
      omega
    have emptyWindow : slice input start start = .ok [] := by
      rw [slice_of_le ⟨nonNegative, le_refl start⟩ before.le, List.drop_take, Nat.sub_self,
        List.take_zero]
    obtain ⟨out, state', applied⟩ := takesEmpty state
    simp only [windowLoop, before, if_true, stopHere, emptyWindow, applied]
    exact inductionHypothesis _ _

/-- With a negative round length the first window's bounds are out of order. -/
theorem windowLoop_negative_round
    {roundLength : Int}
    (negative : roundLength < 0)
    {input : List α}
    {start : Int}
    (before : start < input.length)
    (fuel : Nat)
    (acc : List β)
    (state : σ) :
    windowLoop f roundLength input (fuel + 1) start acc state =
      some (.error sliceBoundsOutOfRange) := by
  have outOfOrder : min (start + roundLength) input.length < start := by
    omega
  simp only [windowLoop, before, if_true, slice_of_lt input outOfOrder]

end WindowLoop

end Go
