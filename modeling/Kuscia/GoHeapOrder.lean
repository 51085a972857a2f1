import Kuscia.GoHeap
import Mathlib

namespace GoHeap

/-!
# What `container/heap` guarantees

The package changes a value only through the methods of `heap.Interface`,
and two kinds of facts follow from that.

* A property that `swap` keeps on the first `m` positions survives `up` and
  `down` (`upLoop_induction`, `downLoop_induction`).  Which elements the value
  holds, and what sits in the positions a loop does not reach, are such
  properties; the caller says how its own `push` and `pop` treat them.
* When `less` compares priorities that `swap` exchanges (`Keyed`), `Push`,
  `Pop` and `Fix` keep a binary min-heap (`Push_isHeap`, `Pop_isHeap`,
  `Fix_isHeap`), whose root holds a least priority (`IsHeap.root_le`).

The order proofs use the usual sift invariants: every parent and child pair
is in order except the pairs at the position being moved, whose own
neighbours are in the order the direction of the sift needs (`UpOrder`,
`DownOrder`, and `FixOrder` for an element whose priority changed).

Nothing in this module mentions the program being verified.
-/

/-- The parent of position `c` in the implicit binary tree; `parent 0 = 0`. -/
def parent (c : Nat) : Nat :=
  (c - 1) / 2

theorem parent_lt
    {c : Nat}
    (pos : 0 < c) :
    parent c < c := by
  unfold parent
  omega

theorem parent_le
    (c : Nat) :
    parent c ≤ c := by
  unfold parent
  omega

/-- The children of `p` are `2p + 1` and `2p + 2`. -/
theorem parent_eq_iff
    {c p : Nat}
    (pos : 0 < c) :
    parent c = p ↔ c = 2 * p + 1 ∨ c = 2 * p + 2 := by
  unfold parent
  omega

variable {σ α : Type} (h : Interface σ α)

/-- The position `down` compares `i` with: the lesser of its children below
`n`, the left one on a tie. -/
def minChild (s : σ) (i n : Nat) : Nat :=
  if 2 * i + 1 + 1 < n ∧ h.less s (2 * i + 1 + 1) (2 * i + 1) = true then 2 * i + 1 + 1
  else 2 * i + 1

theorem upLoop_succ
    (fuel : Nat)
    (s : σ)
    (j : Nat) :
    upLoop h (fuel + 1) s j =
      if parent j = j ∨ !h.less s j (parent j) then s
      else upLoop h fuel (h.swap s (parent j) j) (parent j) :=
  rfl

theorem downLoop_succ
    (fuel : Nat)
    (s : σ)
    (i n : Nat) :
    downLoop h (fuel + 1) s i n =
      if n ≤ 2 * i + 1 then (s, i)
      else if !h.less s (minChild h s i n) i then (s, i)
      else downLoop h fuel (h.swap s i (minChild h s i n)) (minChild h s i n) n :=
  rfl

theorem down_eq
    (s : σ)
    (i0 n : Nat) :
    down h s i0 n = ((downLoop h n s i0 n).1, decide (i0 < (downLoop h n s i0 n).2)) :=
  rfl

theorem Fix_eq
    (s : σ)
    (i : Nat) :
    Fix h s i =
      if i < (downLoop h (h.len s) s i (h.len s)).2 then (downLoop h (h.len s) s i (h.len s)).1
      else up h (downLoop h (h.len s) s i (h.len s)).1 i := by
  unfold Fix
  rw [down_eq]
  by_cases moved : i < (downLoop h (h.len s) s i (h.len s)).2 <;> simp [moved]

theorem minChild_gt
    (s : σ)
    (i n : Nat) :
    2 * i + 1 ≤ minChild h s i n := by
  unfold minChild
  split <;> omega

theorem minChild_lt
    {s : σ}
    {i n : Nat}
    (hasChild : 2 * i + 1 < n) :
    minChild h s i n < n := by
  unfold minChild
  split
  · rename_i right
    exact right.1
  · exact hasChild

theorem parent_minChild
    (s : σ)
    (i n : Nat) :
    parent (minChild h s i n) = i := by
  unfold minChild parent
  split <;> omega

/-! ## Properties that `swap` keeps -/

section Induction

variable {h} {P : σ → Prop}

/-- `up` from a position below `m` swaps only positions below `m`. -/
theorem upLoop_induction
    {m : Nat}
    (swapKeeps : ∀ s i j, i < m → j < m → P s → P (h.swap s i j)) :
    ∀ fuel s j, j < m → P s → P (upLoop h fuel s j) := by
  intro fuel
  induction fuel with
  | zero =>
    intro s j _ holds
    exact holds
  | succ fuel inductionHypothesis =>
    intro s j below holds
    rw [upLoop_succ]
    split
    · exact holds
    · have parentBelow : parent j < m := Nat.lt_of_le_of_lt (parent_le j) below
      exact inductionHypothesis _ _ parentBelow (swapKeeps s _ _ parentBelow below holds)

/-- `down` within the first `n` positions swaps only positions below `n`. -/
theorem downLoop_induction
    {n : Nat}
    (swapKeeps : ∀ s i j, i < n → j < n → P s → P (h.swap s i j)) :
    ∀ fuel s i, P s → P (downLoop h fuel s i n).1 := by
  intro fuel
  induction fuel with
  | zero =>
    intro s i holds
    exact holds
  | succ fuel inductionHypothesis =>
    intro s i holds
    rw [downLoop_succ]
    split
    · exact holds
    · rename_i hasChild
      split
      · exact holds
      · have childBelow := minChild_lt h (s := s) (Nat.lt_of_not_le hasChild)
        exact inductionHypothesis _ _ (swapKeeps s _ _ (by omega) childBelow holds)

/-- `down` never moves the element up. -/
theorem le_downLoop
    (n : Nat) :
    ∀ fuel (s : σ) i, i ≤ (downLoop h fuel s i n).2 := by
  intro fuel
  induction fuel with
  | zero =>
    intro s i
    exact Nat.le_refl i
  | succ fuel inductionHypothesis =>
    intro s i
    rw [downLoop_succ]
    split
    · exact Nat.le_refl i
    · split
      · exact Nat.le_refl i
      · have further := inductionHypothesis (h.swap s i (minChild h s i n)) (minChild h s i n)
        have deeper := minChild_gt h s i n
        omega

end Induction

/-! ## The heap order -/

variable {ρ : Type} [LinearOrder ρ]

/-- `less` compares the priorities `key s i` of two positions, and the other
methods move priorities the way the package expects: `swap` exchanges two
positions, `push` adds one at the end and `pop` removes the last one. -/
structure Keyed (key : σ → Nat → ρ) : Prop where
  len_swap : ∀ s i j, h.len (h.swap s i j) = h.len s
  less_iff : ∀ s i j, i < h.len s → j < h.len s → (h.less s i j = true ↔ key s i < key s j)
  key_swap : ∀ s i j k, i < h.len s → j < h.len s →
    key (h.swap s i j) k = if k = i then key s j else if k = j then key s i else key s k
  len_push : ∀ s x, h.len (h.push s x) = h.len s + 1
  key_push : ∀ s x k, k < h.len s → key (h.push s x) k = key s k
  len_pop : ∀ s, h.len (h.pop s).2 = h.len s - 1
  key_pop : ∀ s k, k < h.len s - 1 → key (h.pop s).2 k = key s k

variable {h} {key : σ → Nat → ρ}

namespace Keyed

variable (keyed : Keyed h key) {s : σ} {i j : Nat}
include keyed

theorem key_swap_left
    (iBelow : i < h.len s)
    (jBelow : j < h.len s) :
    key (h.swap s i j) i = key s j := by
  rw [keyed.key_swap s i j i iBelow jBelow, if_pos rfl]

theorem key_swap_right
    (iBelow : i < h.len s)
    (jBelow : j < h.len s)
    (distinct : i ≠ j) :
    key (h.swap s i j) j = key s i := by
  rw [keyed.key_swap s i j j iBelow jBelow, if_neg (Ne.symm distinct), if_pos rfl]

theorem key_swap_of_ne
    (iBelow : i < h.len s)
    (jBelow : j < h.len s)
    {k : Nat}
    (notI : k ≠ i)
    (notJ : k ≠ j) :
    key (h.swap s i j) k = key s k := by
  rw [keyed.key_swap s i j k iBelow jBelow, if_neg notI, if_neg notJ]

theorem len_upLoop :
    ∀ fuel s j, h.len (upLoop h fuel s j) = h.len s := by
  intro fuel s j
  apply upLoop_induction (P := fun s' => h.len s' = h.len s) (m := j + 1)
  · intro s' i j' _ _ same
    rw [keyed.len_swap, same]
  · exact Nat.lt_succ_self j
  · rfl

theorem len_up
    (j : Nat) :
    h.len (up h s j) = h.len s :=
  keyed.len_upLoop (j + 1) s j

theorem len_downLoop
    (n : Nat) :
    ∀ fuel s i, h.len (downLoop h fuel s i n).1 = h.len s := by
  intro fuel s i
  apply downLoop_induction (P := fun s' => h.len s' = h.len s) (n := n)
  · intro s' i' j' _ _ same
    rw [keyed.len_swap, same]
  · rfl

/-- The lesser child is no greater than any child below `n`. -/
theorem minChild_le
    {n : Nat}
    (bound : n ≤ h.len s)
    {c : Nat}
    (cPos : 0 < c)
    (cBelow : c < n)
    (child : parent c = i) :
    key s (minChild h s i n) ≤ key s c := by
  rcases (parent_eq_iff cPos).mp child with rfl | rfl
  · unfold minChild
    split
    · rename_i right
      exact le_of_lt ((keyed.less_iff s _ _ (by omega) (by omega)).mp right.2)
    · exact le_refl _
  · unfold minChild
    split
    · exact le_refl _
    · rename_i notRight
      have notLess : ¬ h.less s (2 * i + 1 + 1) (2 * i + 1) = true := fun less => notRight ⟨cBelow, less⟩
      rw [keyed.less_iff s _ _ (by omega) (by omega)] at notLess
      exact not_lt.mp notLess

end Keyed

variable (key)

/-- The first `n` positions form a min-heap: no child is less than its parent. -/
def IsHeap (s : σ) (n : Nat) : Prop :=
  ∀ c, 0 < c → c < n → key s (parent c) ≤ key s c

/-- What `up` needs while it moves the element at `j`: the pairs off `j` are
in order, and `j`'s children are no less than `j`'s parent. -/
structure UpOrder (s : σ) (n j : Nat) : Prop where
  except : ∀ c, 0 < c → c < n → c ≠ j → key s (parent c) ≤ key s c
  grand : 0 < j → ∀ c, 0 < c → c < n → parent c = j → key s (parent j) ≤ key s c

/-- What `down` needs while it moves the element at `i`: the pairs below other
parents are in order, and `i`'s children are no less than `i`'s parent. -/
structure DownOrder (s : σ) (n i : Nat) : Prop where
  except : ∀ c, 0 < c → c < n → parent c ≠ i → key s (parent c) ≤ key s c
  grand : 0 < i → ∀ c, 0 < c → c < n → parent c = i → key s (parent i) ≤ key s c

/-- What `Fix` needs after the priority at `i` changed: the pairs that do not
touch `i` are in order, and `i`'s children are no less than `i`'s parent. -/
structure FixOrder (s : σ) (n i : Nat) : Prop where
  except : ∀ c, 0 < c → c < n → c ≠ i → parent c ≠ i → key s (parent c) ≤ key s c
  grand : 0 < i → ∀ c, 0 < c → c < n → parent c = i → key s (parent i) ≤ key s c

variable {key}

/-- The root of a heap holds a least priority. -/
theorem IsHeap.root_le
    {s : σ}
    {n : Nat}
    (heap : IsHeap key s n) :
    ∀ k, k < n → key s 0 ≤ key s k := by
  intro k
  induction k using Nat.strongRecOn with
  | ind k inductionHypothesis =>
    intro below
    rcases Nat.eq_zero_or_pos k with rfl | pos
    · exact le_refl _
    · have up := parent_lt pos
      exact le_trans (inductionHypothesis (parent k) up (by omega)) (heap k pos below)

theorem IsHeap.upOrder
    {s : σ}
    {n j : Nat}
    (heap : IsHeap key s n) :
    UpOrder key s n j where
  except c cPos cBelow _ := heap c cPos cBelow
  grand jPos c cPos cBelow child := by
    have childOrdered := heap c cPos cBelow
    rw [child] at childOrdered
    exact le_trans (heap j jPos (by have := parent_lt cPos; omega)) childOrdered

/-- Changing the priority at `i` of a heap leaves what `Fix` needs. -/
theorem IsHeap.fixOrder
    {s s' : σ}
    {n i : Nat}
    (heap : IsHeap key s n)
    (same : ∀ k, k ≠ i → key s' k = key s k) :
    FixOrder key s' n i where
  except c cPos cBelow notI parentNotI := by
    rw [same c notI, same (parent c) parentNotI]
    exact heap c cPos cBelow
  grand iPos c cPos cBelow child := by
    have cNe : c ≠ i := by have := parent_lt cPos; omega
    rw [same c cNe, same (parent i) (Nat.ne_of_lt (parent_lt iPos))]
    have childOrdered := heap c cPos cBelow
    rw [child] at childOrdered
    exact le_trans (heap i iPos (by have := parent_lt cPos; omega)) childOrdered

theorem UpOrder.isHeap
    {s : σ}
    {n j : Nat}
    (order : UpOrder key s n j)
    (stop : 0 < j → key s (parent j) ≤ key s j) :
    IsHeap key s n := by
  intro c cPos cBelow
  by_cases cj : c = j
  · subst cj
    exact stop cPos
  · exact order.except c cPos cBelow cj

theorem DownOrder.isHeap
    {s : σ}
    {n i : Nat}
    (order : DownOrder key s n i)
    (stop : ∀ c, 0 < c → c < n → parent c = i → key s i ≤ key s c) :
    IsHeap key s n := by
  intro c cPos cBelow
  by_cases child : parent c = i
  · rw [child]
    exact stop c cPos cBelow child
  · exact order.except c cPos cBelow child

section Sifts

variable (keyed : Keyed h key)
include keyed

/-! ### `up` -/

/-- One swap of `up` moves the exception to the parent. -/
theorem UpOrder.swap
    {s : σ}
    {n j : Nat}
    (order : UpOrder key s n j)
    (pos : 0 < j)
    (below : j < n)
    (bound : n ≤ h.len s)
    (smaller : key s j < key s (parent j)) :
    UpOrder key (h.swap s (parent j) j) n (parent j) := by
  have parentLt := parent_lt pos
  have jLen : j < h.len s := by omega
  have pLen : parent j < h.len s := by omega
  have atParent := keyed.key_swap_left pLen jLen
  have atJ := keyed.key_swap_right pLen jLen (Nat.ne_of_lt parentLt)
  have elsewhere : ∀ k, k ≠ parent j → k ≠ j → key (h.swap s (parent j) j) k = key s k :=
    fun k notParent notJ => keyed.key_swap_of_ne pLen jLen notParent notJ
  constructor
  · intro c cPos cBelow notParent
    by_cases cj : c = j
    · subst cj
      rw [atParent, atJ]
      exact le_of_lt smaller
    · rw [elsewhere c notParent cj]
      by_cases childOfJ : parent c = j
      · -- a child of `j` now sits below the old parent
        rw [childOfJ, atJ]
        exact order.grand pos c cPos cBelow childOfJ
      · by_cases sibling : parent c = parent j
        · -- `j`'s sibling is no less than the old parent, which is above the new one
          have siblingOrdered := order.except c cPos cBelow cj
          rw [sibling] at siblingOrdered ⊢
          rw [atParent]
          exact le_trans (le_of_lt smaller) siblingOrdered
        · rw [elsewhere (parent c) sibling childOfJ]
          exact order.except c cPos cBelow cj
  · intro parentPos c cPos cBelow childOfParent
    have grandLt := parent_lt parentPos
    have parentOrdered := order.except (parent j) parentPos (by omega) (Nat.ne_of_lt parentLt)
    rw [elsewhere (parent (parent j)) (Nat.ne_of_lt grandLt) (by omega)]
    by_cases cj : c = j
    · subst cj
      rw [atJ]
      exact parentOrdered
    · have cNe : c ≠ parent j := by have := parent_lt cPos; omega
      have siblingOrdered := order.except c cPos cBelow cj
      rw [childOfParent] at siblingOrdered
      rw [elsewhere c cNe cj]
      exact le_trans parentOrdered siblingOrdered

/-- `up` restores the heap; its fuel, one more than the position, is never
exhausted. -/
theorem upLoop_isHeap
    {n : Nat} :
    ∀ fuel s j, j < fuel → j < n → n ≤ h.len s → UpOrder key s n j →
      IsHeap key (upLoop h fuel s j) n := by
  intro fuel
  induction fuel with
  | zero =>
    intro s j enough
    exact absurd enough (Nat.not_lt_zero j)
  | succ fuel inductionHypothesis =>
    intro s j enough below bound order
    rw [upLoop_succ]
    split
    · rename_i stopped
      apply order.isHeap
      intro pos
      rcases stopped with atRoot | notLess
      · exact absurd atRoot (Nat.ne_of_lt (parent_lt pos))
      · have notLess' : ¬ h.less s j (parent j) = true := by simpa using notLess
        rw [keyed.less_iff s _ _ (by omega) (by have := parent_lt pos; omega)] at notLess'
        exact not_lt.mp notLess'
    · rename_i moving
      have pos : 0 < j := by
        rcases Nat.eq_zero_or_pos j with rfl | pos
        · exact absurd (Or.inl rfl) moving
        · exact pos
      have less : h.less s j (parent j) = true := by
        by_contra notLess
        exact moving (Or.inr (by simpa using notLess))
      have parentLt := parent_lt pos
      rw [keyed.less_iff s _ _ (by omega) (by omega)] at less
      exact inductionHypothesis _ _ (by omega) (by omega) (by rw [keyed.len_swap]; exact bound)
        (order.swap keyed pos below bound less)

theorem up_isHeap
    {s : σ}
    {n j : Nat}
    (below : j < n)
    (bound : n ≤ h.len s)
    (order : UpOrder key s n j) :
    IsHeap key (up h s j) n :=
  upLoop_isHeap keyed (j + 1) s j (Nat.lt_succ_self j) below bound order

/-! ### `down` -/

/-- One swap of `down` moves the exception to the lesser child. -/
theorem DownOrder.swap
    {s : σ}
    {n i : Nat}
    (order : DownOrder key s n i)
    (bound : n ≤ h.len s)
    (hasChild : 2 * i + 1 < n)
    (smaller : key s (minChild h s i n) < key s i) :
    DownOrder key (h.swap s i (minChild h s i n)) n (minChild h s i n) := by
  have jBelow := minChild_lt h (s := s) hasChild
  have jParent := parent_minChild h s i n
  have jGt := minChild_gt h s i n
  have iLen : i < h.len s := by omega
  have jLen : minChild h s i n < h.len s := by omega
  have atI := keyed.key_swap_left iLen jLen
  have atJ := keyed.key_swap_right iLen jLen (by omega)
  have elsewhere : ∀ k, k ≠ i → k ≠ minChild h s i n →
      key (h.swap s i (minChild h s i n)) k = key s k :=
    fun k notI notJ => keyed.key_swap_of_ne iLen jLen notI notJ
  constructor
  · intro c cPos cBelow notChildOfJ
    by_cases cj : c = minChild h s i n
    · subst cj
      rw [jParent, atI, atJ]
      exact le_of_lt smaller
    · by_cases ci : c = i
      · -- `i` now holds the lesser child, still no less than `i`'s parent
        subst ci
        rw [atI, elsewhere (parent c) (Nat.ne_of_lt (parent_lt cPos)) (by omega)]
        exact order.grand cPos _ (by omega) jBelow jParent
      · rw [elsewhere c ci cj]
        by_cases childOfI : parent c = i
        · -- the other child is no less than the lesser one
          rw [childOfI, atI]
          exact keyed.minChild_le (by omega) cPos cBelow childOfI
        · rw [elsewhere (parent c) childOfI notChildOfJ]
          exact order.except c cPos cBelow childOfI
  · intro _ c cPos cBelow childOfJ
    have cGt : minChild h s i n < c := by rw [← childOfJ]; exact parent_lt cPos
    rw [jParent, atI, elsewhere c (by omega) (by omega)]
    have childOrdered := order.except c cPos cBelow (by rw [childOfJ]; omega)
    rw [childOfJ] at childOrdered
    exact childOrdered

/-- When `down` stops at `i`, `i` is no greater than its children. -/
theorem down_stop
    {s : σ}
    {n i : Nat}
    (bound : n ≤ h.len s)
    (stopped : n ≤ 2 * i + 1 ∨ ¬ h.less s (minChild h s i n) i = true) :
    ∀ c, 0 < c → c < n → parent c = i → key s i ≤ key s c := by
  intro c cPos cBelow child
  rcases stopped with noChild | notLess
  · rcases (parent_eq_iff cPos).mp child with rfl | rfl <;> omega
  · have hasChild : 2 * i + 1 < n := by rcases (parent_eq_iff cPos).mp child with rfl | rfl <;> omega
    have jBelow := minChild_lt h (s := s) hasChild
    rw [keyed.less_iff s _ _ (by omega) (by omega)] at notLess
    exact le_trans (not_lt.mp notLess) (keyed.minChild_le bound cPos cBelow child)

/-- `down` restores the heap below `n`; its fuel, `n`, is never exhausted. -/
theorem downLoop_isHeap
    {n : Nat} :
    ∀ fuel s i, n ≤ i + fuel → n ≤ h.len s → DownOrder key s n i →
      IsHeap key (downLoop h fuel s i n).1 n := by
  intro fuel
  induction fuel with
  | zero =>
    intro s i enough bound order
    exact order.isHeap (down_stop keyed bound (.inl (by omega)))
  | succ fuel inductionHypothesis =>
    intro s i enough bound order
    rw [downLoop_succ]
    split
    · rename_i noChild
      exact order.isHeap (down_stop keyed bound (.inl noChild))
    · rename_i hasChild
      split
      · rename_i notLess
        exact order.isHeap (down_stop keyed bound (.inr (by simpa using notLess)))
      · rename_i less
        have less' : h.less s (minChild h s i n) i = true := by simpa using less
        have jBelow := minChild_lt h (s := s) (Nat.lt_of_not_le hasChild)
        have jGt := minChild_gt h s i n
        rw [keyed.less_iff s _ _ (by omega) (by omega)] at less'
        exact inductionHypothesis _ _ (by omega) (by rw [keyed.len_swap]; exact bound)
          (order.swap keyed bound (Nat.lt_of_not_le hasChild) less')

/-- If `down` reports no move, it swapped nothing, and `i` is no greater than
its children. -/
theorem downLoop_not_moved
    {s : σ}
    {n i fuel : Nat}
    (enough : n ≤ i + fuel)
    (bound : n ≤ h.len s)
    (stayed : (downLoop h fuel s i n).2 ≤ i) :
    downLoop h fuel s i n = (s, i) ∧ ∀ c, 0 < c → c < n → parent c = i → key s i ≤ key s c := by
  cases fuel with
  | zero => exact ⟨rfl, down_stop keyed bound (.inl (by omega))⟩
  | succ fuel =>
    rw [downLoop_succ] at stayed ⊢
    split
    · rename_i noChild
      exact ⟨rfl, down_stop keyed bound (.inl noChild)⟩
    · split
      · rename_i notLess
        exact ⟨rfl, down_stop keyed bound (.inr (by simpa using notLess))⟩
      · rename_i hasChild less
        rw [if_neg hasChild, if_neg less] at stayed
        have further := le_downLoop (h := h) n fuel (h.swap s i (minChild h s i n)) (minChild h s i n)
        have jGt := minChild_gt h s i n
        omega

/-- If `down` moved the element, one of its children was less than it. -/
theorem downLoop_moved
    {s : σ}
    {n i fuel : Nat}
    (bound : n ≤ h.len s)
    (moved : i < (downLoop h fuel s i n).2) :
    ∃ c, 0 < c ∧ c < n ∧ parent c = i ∧ key s c < key s i := by
  cases fuel with
  | zero => exact absurd moved (Nat.lt_irrefl i)
  | succ fuel =>
    rw [downLoop_succ] at moved
    split at moved
    · exact absurd moved (Nat.lt_irrefl i)
    · rename_i hasChild
      split at moved
      · exact absurd moved (Nat.lt_irrefl i)
      · rename_i less
        have less' : h.less s (minChild h s i n) i = true := by simpa using less
        have jBelow := minChild_lt h (s := s) (Nat.lt_of_not_le hasChild)
        have jGt := minChild_gt h s i n
        rw [keyed.less_iff s _ _ (by omega) (by omega)] at less'
        exact ⟨minChild h s i n, by omega, jBelow, parent_minChild h s i n, less'⟩

/-! ### `Push`, `Pop` and `Fix` -/

theorem Push_isHeap
    {s : σ}
    (heap : IsHeap key s (h.len s))
    (x : α) :
    IsHeap key (Push h s x) (h.len (Push h s x)) := by
  have pushed := keyed.len_push s x
  have order : UpOrder key (h.push s x) (h.len s + 1) (h.len s) := by
    constructor
    · intro c cPos cBelow notLast
      rw [keyed.key_push s x c (by omega),
        keyed.key_push s x (parent c) (by have := parent_lt cPos; omega)]
      exact heap c cPos (by omega)
    · intro _ c cPos cBelow child
      rcases (parent_eq_iff cPos).mp child with rfl | rfl <;> omega
  unfold Push
  dsimp only
  rw [keyed.len_up, pushed, Nat.add_sub_cancel]
  exact up_isHeap keyed (Nat.lt_succ_self _) (by omega) (pushed ▸ order)

theorem Pop_isHeap
    {s : σ}
    (heap : IsHeap key s (h.len s))
    (nonempty : 0 < h.len s) :
    IsHeap key (Pop h s).2 (h.len (Pop h s).2) := by
  -- the last element moves to the root, and `down` sifts it within the rest
  have lastLen : h.len s - 1 < h.len s := by omega
  have swapped : DownOrder key (h.swap s 0 (h.len s - 1)) (h.len s - 1) 0 := by
    constructor
    · intro c cPos cBelow notRoot
      have parentLt := parent_lt cPos
      rw [keyed.key_swap_of_ne nonempty lastLen (k := c) (by omega) (by omega),
        keyed.key_swap_of_ne nonempty lastLen notRoot (by omega)]
      exact heap c cPos (by omega)
    · intro rootPos
      exact absurd rootPos (Nat.lt_irrefl 0)
  have sifted := downLoop_isHeap keyed (h.len s - 1) (h.swap s 0 (h.len s - 1)) 0
    (by omega) (by rw [keyed.len_swap]; omega) swapped
  unfold Pop
  dsimp only
  rw [down_eq]
  dsimp only
  have siftedLen := keyed.len_downLoop (h.len s - 1) (h.len s - 1) (h.swap s 0 (h.len s - 1)) 0
  rw [keyed.len_swap] at siftedLen
  intro c cPos cBelow
  rw [keyed.len_pop, siftedLen] at cBelow
  rw [keyed.key_pop _ c (by omega), keyed.key_pop _ (parent c) (by have := parent_lt cPos; omega)]
  exact sifted c cPos cBelow

theorem Fix_isHeap
    {s : σ}
    {i : Nat}
    (below : i < h.len s)
    (order : FixOrder key s (h.len s) i) :
    IsHeap key (Fix h s i) (h.len s) := by
  rw [Fix_eq]
  split
  · -- `down` moved the element: it was greater than a child, so its parent is below it
    rename_i moved
    obtain ⟨c, cPos, cBelow, child, less⟩ := downLoop_moved keyed (Nat.le_refl _) moved
    have parentBelow : 0 < i → key s (parent i) ≤ key s i :=
      fun iPos => le_trans (order.grand iPos c cPos cBelow child) (le_of_lt less)
    have downOrder : DownOrder key s (h.len s) i := by
      constructor
      · intro c' cPos' cBelow' notChild
        by_cases ci : c' = i
        · subst ci
          exact parentBelow cPos'
        · exact order.except c' cPos' cBelow' ci notChild
      · exact order.grand
    exact downLoop_isHeap keyed (h.len s) s i (by omega) (Nat.le_refl _) downOrder
  · -- `down` did not move it: it is no greater than its children, and `up` finishes
    rename_i stayed
    obtain ⟨unchanged, childrenAbove⟩ :=
      downLoop_not_moved keyed (by omega) (Nat.le_refl _) (Nat.not_lt.mp stayed)
    rw [unchanged]
    have upOrder : UpOrder key s (h.len s) i := by
      constructor
      · intro c cPos cBelow notI
        by_cases child : parent c = i
        · rw [child]
          exact childrenAbove c cPos cBelow child
        · exact order.except c cPos cBelow notI child
      · exact order.grand
    exact up_isHeap keyed below (Nat.le_refl _) upOrder

end Sifts

end GoHeap
