import Mathlib

namespace Cyclic

/-!
# Scanning a cycle for the first element a check accepts

A scan steps from a base element with `next`, at most `fuel` times; it stops
with failure on an element `atBase` holds of, and with success on the first
element it accepts.  When `next` walks a cycle of length `n` that meets the
base again after exactly `n` steps, the scan with `n` steps is a search of the
`n - 1` elements after the base, in the order of the cycle
(`scanLoop_eq_find?`), and it fails back at the base when none is accepted.

`orbit next s k` is the list of the `k` elements after `s`.

Nothing in this module mentions the program being verified.
-/

variable {β : Type}

/-- The scan: each step moves to `next`, stops at the base, and stops on an
element it accepts. -/
def scanLoop (next : β → β) (atBase accept : β → Bool) : Nat → β → β × Bool
  | 0, s => (s, false)
  | fuel + 1, s =>
    let s' := next s
    if atBase s' then (s', false)
    else if accept s' then (s', true)
    else scanLoop next atBase accept fuel s'

/-- The `k` elements after `s`, in the order `next` visits them. -/
def orbit (next : β → β) (s : β) (k : Nat) : List β :=
  (List.range k).map fun j => next^[j + 1] s

theorem orbit_zero
    (next : β → β)
    (s : β) :
    orbit next s 0 = [] :=
  rfl

theorem orbit_succ
    (next : β → β)
    (s : β)
    (k : Nat) :
    orbit next s (k + 1) = next s :: orbit next (next s) k := by
  simp only [orbit, List.range_succ_eq_map, List.map_cons, List.map_map]
  -- `next^[j + 2] s` unfolds to `next^[j + 1] (next s)`
  rfl

theorem length_orbit
    (next : β → β)
    (s : β)
    (k : Nat) :
    (orbit next s k).length = k := by
  simp [orbit]

theorem getElem_orbit
    (next : β → β)
    (s : β)
    {k j : Nat}
    (inRange : j < (orbit next s k).length) :
    (orbit next s k)[j] = next^[j + 1] s := by
  simp [orbit]

variable {next : β → β} {atBase accept : β → Bool}

/-- A scan with `fuel` steps from an element whose `fuel`-th successor is the
first base it meets searches the elements in between. -/
theorem scanLoop_eq_find? :
    ∀ (fuel : Nat) (s : β), 0 < fuel →
      (∀ j, 0 < j → j < fuel → atBase (next^[j] s) = false) →
      atBase (next^[fuel] s) = true →
      scanLoop next atBase accept fuel s =
        match (orbit next s (fuel - 1)).find? accept with
        | some t => (t, true)
        | none => (next^[fuel] s, false) := by
  intro fuel
  -- the scan moves one element along the cycle per step, so the start is generalised
  induction fuel with
  | zero =>
    intro _ positive
    omega
  | succ fuel inductionHypothesis =>
    intro s _ beforeBase atEnd
    rcases Nat.eq_zero_or_pos fuel with rfl | positive
    · -- the last step reaches the base
      simp only [zero_add, Function.iterate_one] at atEnd
      simp [scanLoop, atEnd, orbit_zero]
    · have notBase : atBase (next s) = false := beforeBase 1 (by omega) (by omega)
      obtain ⟨rest, rfl⟩ : ∃ rest, fuel = rest + 1 := ⟨fuel - 1, by omega⟩
      have restScan := inductionHypothesis (next s) positive
        (fun j jPositive jBelow => by
          rw [← Function.iterate_succ_apply]
          exact beforeBase (j + 1) (by omega) (by omega))
        (by rwa [← Function.iterate_succ_apply])
      rw [scanLoop, if_neg (by simp [notBase]), Nat.add_sub_cancel, orbit_succ, List.find?_cons]
      cases accepted : accept (next s) with
      | true => rfl
      | false =>
        rw [restScan, Nat.add_sub_cancel, ← Function.iterate_succ_apply, if_neg Bool.false_ne_true]

end Cyclic
