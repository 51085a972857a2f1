import Mathlib

namespace GoHeap

/-!
# Go's `container/heap`

The package keeps a binary min-heap inside any value that offers the five
methods of `heap.Interface`; the algorithms only ever call those methods.  A
value of type `σ` with elements of type `α` is therefore described by an
`Interface σ α`, and `Push`, `Pop` and `Fix` below are the package's functions
over it.

The package's two loops are bounded: `up` moves to a strictly smaller index
and `down` to a strictly larger one below `n`.  They are written with those
bounds as fuel (`j + 1` and `n`), which the loops never exhaust, so that the
functions stay structural and evaluate in the kernel.

Nothing in this module mentions the program being verified.
-/

/-- The methods of `heap.Interface` on a value of type `σ` holding `α`s. -/
structure Interface (σ α : Type) where
  len : σ → Nat
  less : σ → Nat → Nat → Bool
  swap : σ → Nat → Nat → σ
  push : σ → α → σ
  pop : σ → α × σ

variable {σ α : Type} (h : Interface σ α)

/-- The loop of `up`: swap the element at `j` with its parent while it is
less than the parent.  At the root `(j - 1) / 2 = j`, which ends the loop. -/
def upLoop : Nat → σ → Nat → σ
  | 0, s, _ => s
  | fuel + 1, s, j =>
    let i := (j - 1) / 2
    if i = j ∨ !h.less s j i then s
    else upLoop fuel (h.swap s i j) i

def up (s : σ) (j : Nat) : σ :=
  upLoop h (j + 1) s j

/-- The loop of `down`: swap the element at `i` with its lesser child while
that child is less than it; returns the final position. -/
def downLoop : Nat → σ → Nat → Nat → σ × Nat
  | 0, s, i, _ => (s, i)
  | fuel + 1, s, i, n =>
    let j1 := 2 * i + 1
    if n ≤ j1 then (s, i)
    else
      let j := if j1 + 1 < n ∧ h.less s (j1 + 1) j1 = true then j1 + 1 else j1
      if !h.less s j i then (s, i)
      else downLoop fuel (h.swap s i j) j n

/-- `down(h, i0, n)`: sift the element at `i0` down within the first `n`
positions, reporting whether it moved. -/
def down (s : σ) (i0 n : Nat) : σ × Bool :=
  let (s, i) := downLoop h n s i0 n
  (s, i0 < i)

/-- `heap.Push`: append, then restore the order from the new last position. -/
def Push (s : σ) (x : α) : σ :=
  let s := h.push s x
  up h s (h.len s - 1)

/-- `heap.Pop`: move the least element to the end, restore the order on the
rest, and remove the last element.  Go panics on an empty heap; callers only
pop a non-empty one. -/
def Pop (s : σ) : α × σ :=
  let n := h.len s - 1
  let s := h.swap s 0 n
  let s := (down h s 0 n).1
  h.pop s

/-- `heap.Fix`: re-establish the order after the element at `i` changed. -/
def Fix (s : σ) (i : Nat) : σ :=
  let (s, moved) := down h s i (h.len s)
  if moved then s else up h s i

end GoHeap
