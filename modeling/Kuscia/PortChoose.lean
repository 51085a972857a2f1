import Mathlib

namespace Kuscia.PortFlake

/-!
# Port segments and port choice

`port_segment.go` and `port_choose.go`.  A segment is a half-open range
`[min, max)`; a segment list remembers the total number of ports.  A port is
chosen either by probing random positions (`ChoosePortByRandom`, whose random
draws are a parameter: `rand.Intn(n)` returns a value in `[0, n)`) or by a
cyclic scan that starts after a base port (`ChoosePortByIteration`).

For a list made of one segment the scan after `k` steps stands at
`min + (base - min + k) % (max - min)`; `iteration_found_of_valid` and
`iteration_sound` below say that it finds a valid port exactly when one other
than the base exists.
-/

/-- `Segment`: the ports `[min, max)`. -/
structure Segment where
  min : Int
  max : Int
  deriving Repr, DecidableEq, Inhabited

/-- `Segment.numberPorts`. -/
def Segment.numberPorts (s : Segment) : Int :=
  s.max - s.min

/-- `SegmentList`. -/
structure SegmentList where
  segments : List Segment
  count : Int
  deriving Repr, DecidableEq

/-- `NewSegmentList`: the count is the sum of the segment sizes. -/
def NewSegmentList (segments : List Segment) : SegmentList where
  segments := segments
  count := (segments.map Segment.numberPorts).sum

/-- Every port of the list, segment by segment. -/
def SegmentList.members (sl : SegmentList) : List Int :=
  sl.segments.flatMap fun s => (List.range s.numberPorts.toNat).map fun (k : Nat) => s.min + k

/-- The segment at an index; the callers only pass indices of the list. -/
def SegmentList.segmentAt (sl : SegmentList) (idx : Nat) : Segment :=
  sl.segments.getD idx default

/-- The inner loop of `ChoosePortByRandom`: the segment a random offset falls
in, and the port there. -/
def locateRandPort : List Segment → Int → Nat → Option (Int × Nat)
  | [], _, _ => none
  | segment :: rest, randPort, idx =>
      if randPort < segment.numberPorts then
        some (segment.min + randPort, idx)
      else
        locateRandPort rest (randPort - segment.numberPorts) (idx + 1)

/-- The retry loop of `ChoosePortByRandom`; `intn i` is the `i`-th draw. -/
def chooseRandomLoop
    (segmentList : SegmentList)
    (checkPortValid : Int → Bool)
    (intn : Nat → Int) :
    Nat → Nat → Int → Nat → Int × Nat × Bool
  | 0, _, retPort, retPortIdx => (retPort, retPortIdx, false)
  | remaining + 1, i, retPort, retPortIdx =>
      let located := (locateRandPort segmentList.segments (intn i) 0).getD (retPort, retPortIdx)
      if checkPortValid located.1 then
        (located.1, located.2, true)
      else
        chooseRandomLoop segmentList checkPortValid intn remaining (i + 1) located.1 located.2

/-- `ChoosePortByRandom`. -/
def ChoosePortByRandom
    (segmentList : SegmentList)
    (checkPortValid : Int → Bool)
    (retryCount : Nat)
    (intn : Nat → Int) :
    Int × Nat × Bool :=
  chooseRandomLoop segmentList checkPortValid intn retryCount 0 0 0

/-- One step of the scan: the next port, wrapping into the next segment (and
from the last segment to the first). -/
def advance (segmentList : SegmentList) (retPort : Int) (retPortIdx : Nat) : Int × Nat :=
  if retPort + 1 ≥ (segmentList.segmentAt retPortIdx).max then
    let nextIdx := if retPortIdx + 1 ≥ segmentList.segments.length then 0 else retPortIdx + 1
    ((segmentList.segmentAt nextIdx).min, nextIdx)
  else
    (retPort + 1, retPortIdx)

/-- The loop of `ChoosePortByIteration` with `remaining` iterations left. -/
def iterationLoop
    (segmentList : SegmentList)
    (checkPortValid : Int → Bool)
    (basePort : Int) :
    Nat → Int → Nat → Int × Nat × Bool
  | 0, retPort, retPortIdx => (retPort, retPortIdx, false)
  | remaining + 1, retPort, retPortIdx =>
      let next := advance segmentList retPort retPortIdx
      if next.1 = basePort then
        (next.1, next.2, false)
      else if checkPortValid next.1 then
        (next.1, next.2, true)
      else
        iterationLoop segmentList checkPortValid basePort remaining next.1 next.2

/-- `ChoosePortByIteration`: at most `Count()` steps from the base port. -/
def ChoosePortByIteration
    (segmentList : SegmentList)
    (checkPortValid : Int → Bool)
    (basePort : Int)
    (basePortIdx : Nat) :
    Int × Nat × Bool :=
  iterationLoop segmentList checkPortValid basePort segmentList.count.toNat basePort basePortIdx

section SingleSegment

variable {lo hi : Int}

/-- The list made of the one segment `[lo, hi)`. -/
def single (lo hi : Int) : SegmentList :=
  NewSegmentList [⟨lo, hi⟩]

/-- The port `k` scan steps after `base` in `[lo, hi)`. -/
def cyclicPort (lo hi base : Int) (k : Nat) : Int :=
  lo + (base - lo + k) % (hi - lo)

theorem single_count
    (lo hi : Int) :
    (single lo hi).count = hi - lo := by
  simp [single, NewSegmentList, Segment.numberPorts]

theorem mem_single_members
    {p : Int} :
    p ∈ (single lo hi).members ↔ lo ≤ p ∧ p < hi := by
  simp only [SegmentList.members, single, NewSegmentList, Segment.numberPorts, List.flatMap_cons,
    List.flatMap_nil, List.append_nil, List.mem_map, List.mem_range]
  constructor
  · rintro ⟨k, below, rfl⟩
    omega
  · rintro ⟨lower, upper⟩
    exact ⟨(p - lo).toNat, by omega, by omega⟩

theorem single_members_nodup :
    (single lo hi).members.Nodup := by
  simp only [SegmentList.members, single, NewSegmentList, List.flatMap_cons, List.flatMap_nil,
    List.append_nil]
  apply List.nodup_range.map
  intro a b same
  simpa using same

theorem cyclicPort_mem
    (nonEmpty : lo < hi)
    (base : Int)
    (k : Nat) :
    lo ≤ cyclicPort lo hi base k ∧ cyclicPort lo hi base k < hi := by
  have size : 0 < hi - lo := by omega
  have lower := Int.emod_nonneg (base - lo + k) size.ne'
  have upper := Int.emod_lt_of_pos (base - lo + k) size
  unfold cyclicPort
  omega

theorem cyclicPort_zero
    (baseMember : lo ≤ base ∧ base < hi) :
    cyclicPort lo hi base 0 = base := by
  unfold cyclicPort
  rw [Nat.cast_zero, add_zero, Int.emod_eq_of_lt (by omega) (by omega)]
  ring

/-- The cycle wraps from the last port of the segment to the first. -/
theorem cyclicPort_succ
    (nonEmpty : lo < hi)
    (base : Int)
    (k : Nat) :
    cyclicPort lo hi base (k + 1) =
      if cyclicPort lo hi base k + 1 = hi then lo else cyclicPort lo hi base k + 1 := by
  have size : 0 < hi - lo := by omega
  have lower := Int.emod_nonneg (base - lo + k) size.ne'
  have upper := Int.emod_lt_of_pos (base - lo + k) size
  have step : (base - lo + ↑(k + 1)) % (hi - lo) = ((base - lo + ↑k) % (hi - lo) + 1) % (hi - lo) := by
    rw [Int.emod_add_emod, Nat.cast_succ, add_assoc]
  unfold cyclicPort
  rw [step]
  split
  · rename_i atEnd
    rw [show (base - lo + ↑k) % (hi - lo) + 1 = hi - lo by omega, Int.emod_self, add_zero]
  · rw [Int.emod_eq_of_lt (by omega) (by omega), add_assoc]

/-- One scan step in a single segment moves one place around the cycle. -/
theorem advance_single
    (nonEmpty : lo < hi)
    (base : Int)
    (k : Nat) :
    advance (single lo hi) (cyclicPort lo hi base k) 0 = (cyclicPort lo hi base (k + 1), 0) := by
  have within := cyclicPort_mem nonEmpty base k
  rw [cyclicPort_succ nonEmpty]
  simp only [advance, single, NewSegmentList, SegmentList.segmentAt, List.getD_cons_zero,
    List.length_singleton, zero_add, ge_iff_le, le_refl, ↓reduceIte]
  by_cases atEnd : cyclicPort lo hi base k + 1 = hi
  · simp [atEnd]
  · rw [if_neg (by omega), if_neg atEnd]

/-- The scan returns to its base exactly after a multiple of the segment size. -/
theorem cyclicPort_eq_base_iff
    (baseMember : lo ≤ base ∧ base < hi)
    (k : Nat) :
    cyclicPort lo hi base k = base ↔ (k : Int) % (hi - lo) = 0 := by
  have baseOffset : (base - lo) % (hi - lo) = base - lo :=
    Int.emod_eq_of_lt (by omega) (by omega)
  calc cyclicPort lo hi base k = base
      ↔ (base - lo + k) % (hi - lo) = (base - lo) % (hi - lo) := by
        rw [baseOffset, cyclicPort]
        omega
    _ ↔ (base - lo + k - (base - lo)) % (hi - lo) = 0 := Int.emod_eq_emod_iff_emod_sub_eq_zero
    _ ↔ (k : Int) % (hi - lo) = 0 := by
        rw [add_sub_cancel_left]

/-- Every port of the segment is reached from the base within one cycle. -/
theorem exists_cyclicPort_eq
    (base : Int)
    {q : Int}
    (qMember : lo ≤ q ∧ q < hi) :
    ∃ k : Nat, k < (hi - lo).toNat ∧ cyclicPort lo hi base k = q := by
  have size : 0 < hi - lo := by omega
  refine ⟨((q - base) % (hi - lo)).toNat, ?_, ?_⟩
  · have upper := Int.emod_lt_of_pos (q - base) size
    have lower := Int.emod_nonneg (q - base) size.ne'
    omega
  · have lower := Int.emod_nonneg (q - base) size.ne'
    rw [cyclicPort, Int.toNat_of_nonneg lower]
    have shifted : (base - lo + (q - base) % (hi - lo)) % (hi - lo) = q - lo := by
      rw [Int.add_emod, Int.emod_emod_of_dvd _ (dvd_refl _), ← Int.add_emod]
      rw [show base - lo + (q - base) = q - lo by ring]
      exact Int.emod_eq_of_lt (by omega) (by omega)
    rw [shifted]
    ring

theorem locateRandPort_single
    {randPort : Int}
    (inRange : 0 ≤ randPort ∧ randPort < hi - lo) :
    locateRandPort (single lo hi).segments randPort 0 = some (lo + randPort, 0) := by
  simp [single, NewSegmentList, locateRandPort, Segment.numberPorts, inRange.2]

theorem chooseRandomLoop_single_succ
    (checkPortValid : Int → Bool)
    {intn : Nat → Int}
    {i : Nat}
    (drawn : 0 ≤ intn i ∧ intn i < hi - lo)
    (remaining : Nat)
    (retPort : Int)
    (retPortIdx : Nat) :
    chooseRandomLoop (single lo hi) checkPortValid intn (remaining + 1) i retPort retPortIdx =
      if checkPortValid (lo + intn i) then (lo + intn i, 0, true)
      else chooseRandomLoop (single lo hi) checkPortValid intn remaining (i + 1) (lo + intn i) 0 := by
  simp only [chooseRandomLoop, locateRandPort_single drawn, Option.getD_some]

/-- The random probe in one segment, with every draw in range, stops on a port
of the segment: a valid one when it reports success, otherwise the last
(invalid) probe. -/
theorem chooseRandomLoop_single
    (checkPortValid : Int → Bool)
    {intn : Nat → Int}
    (drawsInRange : ∀ i, 0 ≤ intn i ∧ intn i < hi - lo) :
    ∀ (remaining i : Nat) (retPort : Int) (retPortIdx : Nat),
      let chosen := chooseRandomLoop (single lo hi) checkPortValid intn (remaining + 1) i retPort retPortIdx
      (lo ≤ chosen.1 ∧ chosen.1 < hi) ∧ chosen.2.1 = 0 ∧ checkPortValid chosen.1 = chosen.2.2 := by
  intro remaining
  induction remaining with
  | zero =>
      intro i retPort retPortIdx
      have drawn := drawsInRange i
      rw [chooseRandomLoop_single_succ checkPortValid drawn]
      cases valid : checkPortValid (lo + intn i) with
      | true =>
          rw [if_pos rfl]
          exact ⟨⟨by omega, by omega⟩, rfl, valid⟩
      | false =>
          rw [if_neg Bool.false_ne_true, chooseRandomLoop]
          exact ⟨⟨by omega, by omega⟩, rfl, valid⟩
  | succ remaining inductionHypothesis =>
      intro i retPort retPortIdx
      have drawn := drawsInRange i
      rw [chooseRandomLoop_single_succ checkPortValid drawn]
      cases valid : checkPortValid (lo + intn i) with
      | true =>
          rw [if_pos rfl]
          exact ⟨⟨by omega, by omega⟩, rfl, valid⟩
      | false =>
          rw [if_neg Bool.false_ne_true]
          exact inductionHypothesis (i + 1) (lo + intn i) 0

theorem choosePortByRandom_single
    (checkPortValid : Int → Bool)
    {intn : Nat → Int}
    (drawsInRange : ∀ i, 0 ≤ intn i ∧ intn i < hi - lo)
    {retryCount : Nat}
    (retrying : 0 < retryCount) :
    let chosen := ChoosePortByRandom (single lo hi) checkPortValid retryCount intn
    (lo ≤ chosen.1 ∧ chosen.1 < hi) ∧ chosen.2.1 = 0 ∧ checkPortValid chosen.1 = chosen.2.2 := by
  obtain ⟨remaining, rfl⟩ : ∃ remaining, retryCount = remaining + 1 :=
    ⟨retryCount - 1, by omega⟩
  exact chooseRandomLoop_single checkPortValid drawsInRange remaining 0 0 0

/-- A port the scan reports is valid and lies in the segment. -/
theorem iterationLoop_single_sound
    (nonEmpty : lo < hi)
    (checkPortValid : Int → Bool)
    (base : Int) :
    ∀ (remaining j : Nat) {port : Int} {portIdx : Nat},
      iterationLoop (single lo hi) checkPortValid base remaining (cyclicPort lo hi base j) 0 =
          (port, portIdx, true) →
        checkPortValid port = true ∧ (lo ≤ port ∧ port < hi) ∧ portIdx = 0 := by
  intro remaining
  induction remaining with
  | zero => simp [iterationLoop]
  | succ remaining inductionHypothesis =>
      intro j port portIdx found
      simp only [iterationLoop, advance_single nonEmpty] at found
      split at found
      · simp at found
      · split at found
        · rename_i valid
          simp only [Prod.mk.injEq] at found
          obtain ⟨rfl, rfl, -⟩ := found
          exact ⟨valid, cyclicPort_mem nonEmpty base (j + 1), rfl⟩
        · exact inductionHypothesis (j + 1) found

/-- The scan from the `j`-th port with enough steps left finds a valid port
when one lies strictly between it and the end of the cycle. -/
theorem iterationLoop_single_found
    (nonEmpty : lo < hi)
    (checkPortValid : Int → Bool)
    (baseMember : lo ≤ base ∧ base < hi) :
    ∀ (remaining j : Nat), j < (hi - lo).toNat → (hi - lo).toNat ≤ j + remaining →
      (∃ k, j < k ∧ k < (hi - lo).toNat ∧ checkPortValid (cyclicPort lo hi base k) = true) →
      (iterationLoop (single lo hi) checkPortValid base remaining
        (cyclicPort lo hi base j) 0).2.2 = true := by
  intro remaining
  induction remaining with
  | zero =>
      intro j before enough
      omega
  | succ remaining inductionHypothesis =>
      rintro j before enough ⟨k, afterJ, beforeEnd, valid⟩
      have notBase : cyclicPort lo hi base (j + 1) ≠ base := by
        rw [Ne, cyclicPort_eq_base_iff baseMember, Int.emod_eq_of_lt (by omega) (by omega)]
        omega
      simp only [iterationLoop, advance_single nonEmpty, if_neg notBase]
      split
      · rfl
      · rename_i nextInvalid
        have kLater : j + 1 < k := by
          rcases Nat.lt_or_eq_of_le (Nat.succ_le_of_lt afterJ) with later | rfl
          · exact later
          · simp [valid] at nextInvalid
        exact inductionHypothesis (j + 1) (by omega) (by omega) ⟨k, kLater, beforeEnd, valid⟩

/-- `ChoosePortByIteration` in one segment finds a port whenever a valid port
other than the base exists. -/
theorem choosePortByIteration_single_found
    (nonEmpty : lo < hi)
    (checkPortValid : Int → Bool)
    (baseMember : lo ≤ base ∧ base < hi)
    {q : Int}
    (qMember : lo ≤ q ∧ q < hi)
    (notBase : q ≠ base)
    (valid : checkPortValid q = true) :
    (ChoosePortByIteration (single lo hi) checkPortValid base 0).2.2 = true := by
  obtain ⟨k, kBound, rfl⟩ := exists_cyclicPort_eq base qMember
  have kPositive : 0 < k := by
    rcases Nat.eq_zero_or_pos k with rfl | positive
    · exact absurd (cyclicPort_zero baseMember) notBase
    · exact positive
  have scan := iterationLoop_single_found nonEmpty checkPortValid baseMember
    (hi - lo).toNat 0 (by omega) (by omega) ⟨k, kPositive, kBound, valid⟩
  rw [cyclicPort_zero baseMember] at scan
  rwa [ChoosePortByIteration, single_count]

theorem choosePortByIteration_single_sound
    (nonEmpty : lo < hi)
    (checkPortValid : Int → Bool)
    (baseMember : lo ≤ base ∧ base < hi)
    {port : Int}
    {portIdx : Nat}
    (found : ChoosePortByIteration (single lo hi) checkPortValid base 0 = (port, portIdx, true)) :
    checkPortValid port = true ∧ (lo ≤ port ∧ port < hi) ∧ portIdx = 0 := by
  rw [ChoosePortByIteration] at found
  nth_rewrite 2 [← cyclicPort_zero baseMember] at found
  exact iterationLoop_single_sound nonEmpty checkPortValid base _ 0 found

end SingleSegment

end Kuscia.PortFlake
