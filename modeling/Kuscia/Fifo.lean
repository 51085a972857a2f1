import Mathlib

namespace Fifo

/-!
# Channels that deliver in order

A channel holds a list of items.  Seen from one channel, an operation accepts
items at the back, delivers items from the front, or resets the channel, which
discards what it holds.  `Step current cycle next` says that one operation took
the channel from `current` to `next`; `Transitions` chains the steps of a run.
Without a reset, what the channel held and what it accepted are what it
delivered followed by what it holds at the end (`Transitions.conservation`):
the items come out in the order they went in, each once, and none is lost.

Nothing in this module mentions the program being verified.
-/

/-- One operation as one channel sees it. -/
structure Cycle (α : Type) where
  reset : Bool
  accepted : List α
  delivered : List α
  deriving DecidableEq, Repr

namespace Cycle

variable {α : Type}

/-- An operation that leaves the channel alone. -/
def idle : Cycle α :=
  ⟨false, [], []⟩

/-- An operation that puts `item` at the back. -/
def accept (item : α) : Cycle α :=
  ⟨false, [item], []⟩

/-- An operation that takes `item` from the front. -/
def deliver (item : α) : Cycle α :=
  ⟨false, [], [item]⟩

/-- An operation that discards what the channel holds. -/
def clear : Cycle α :=
  ⟨true, [], []⟩

end Cycle

variable {α : Type}

/-- The channel holds `current` before the operation and `next` after it. -/
def Step (current : List α) (cycle : Cycle α) (next : List α) : Prop :=
  if cycle.reset then next = [] else current ++ cycle.accepted = cycle.delivered ++ next

theorem step_idle
    (items : List α) :
    Step items .idle items := by
  simp [Step, Cycle.idle]

theorem step_accept
    (items : List α)
    (item : α) :
    Step items (.accept item) (items ++ [item]) := by
  simp [Step, Cycle.accept]

theorem step_deliver
    (item : α)
    (rest : List α) :
    Step (item :: rest) (.deliver item) rest := by
  simp [Step, Cycle.deliver]

theorem step_clear
    (items : List α) :
    Step items .clear [] := by
  simp [Step, Cycle.clear]

/-- A step without a reset moves items, and loses none. -/
theorem Step.ordinary
    {current next : List α}
    {cycle : Cycle α}
    (noReset : cycle.reset = false)
    (step : Step current cycle next) :
    current ++ cycle.accepted = cycle.delivered ++ next := by
  simpa [Step, noReset] using step

/-- A reset leaves the channel empty. -/
theorem Step.reset
    {current next : List α}
    {cycle : Cycle α}
    (isReset : cycle.reset = true)
    (step : Step current cycle next) :
    next = [] := by
  simpa [Step, isReset] using step

/-- A run of operations takes the channel from its first contents to its last. -/
inductive Transitions : List α → List (Cycle α) → List α → Prop
  | nil (contents : List α) : Transitions contents [] contents
  | cons {current middle final : List α} {cycle : Cycle α} {cycles : List (Cycle α)} :
      Step current cycle middle → Transitions middle cycles final →
      Transitions current (cycle :: cycles) final

/-- Everything a run accepted, in order. -/
def accepted (cycles : List (Cycle α)) : List α :=
  cycles.flatMap Cycle.accepted

/-- Everything a run delivered, in order. -/
def delivered (cycles : List (Cycle α)) : List α :=
  cycles.flatMap Cycle.delivered

@[simp] theorem accepted_nil :
    accepted ([] : List (Cycle α)) = [] := rfl

@[simp] theorem accepted_cons
    (cycle : Cycle α)
    (cycles : List (Cycle α)) :
    accepted (cycle :: cycles) = cycle.accepted ++ accepted cycles := rfl

@[simp] theorem delivered_nil :
    delivered ([] : List (Cycle α)) = [] := rfl

@[simp] theorem delivered_cons
    (cycle : Cycle α)
    (cycles : List (Cycle α)) :
    delivered (cycle :: cycles) = cycle.delivered ++ delivered cycles := rfl

/-- Without a reset, the first contents and everything accepted are everything
delivered followed by the last contents. -/
theorem Transitions.conservation
    {initial final : List α}
    {cycles : List (Cycle α)}
    (run : Transitions initial cycles final)
    (noReset : ∀ cycle ∈ cycles, cycle.reset = false) :
    initial ++ accepted cycles = delivered cycles ++ final := by
  induction run with
  | nil contents => simp
  | @cons current middle final cycle cycles step rest inductionHypothesis =>
    have first := step.ordinary (noReset cycle List.mem_cons_self)
    have later := inductionHypothesis fun later member =>
      noReset later (List.mem_cons_of_mem cycle member)
    calc current ++ accepted (cycle :: cycles)
        = (current ++ cycle.accepted) ++ accepted cycles := by
          rw [accepted_cons, List.append_assoc]
      _ = cycle.delivered ++ (middle ++ accepted cycles) := by
          rw [first, List.append_assoc]
      _ = delivered (cycle :: cycles) ++ final := by
          rw [later, delivered_cons, List.append_assoc]

end Fifo
