import Mathlib

namespace CasStore

/-!
# An object store with optimistic concurrency

The store holds one object and gives every version of it a number that grows
with each write.  A write names the version it was computed from and is
refused unless that version is still the current one (compare-and-swap on the
version number).  A read may come from a cache and then return any version the
store has held.  The store remembers every version, newest first: this history
is what a stale read can return, and what a property of the object "at any
time" quantifies over.

The key fact is `eq_current_of_update`: a write computed from any version in
the history is accepted only if that version is the current one, so an
accepted write always starts from the latest value, however stale the reads
around it were.

Nothing in this module mentions the program being verified.
-/

/-- One version of the object: the number the store gave it and its value. -/
structure Versioned (α : Type) where
  resourceVersion : Nat
  value : α
deriving DecidableEq, Repr

/-- The history is ordered: every version has a smaller number than every
version written after it. -/
def Ordered {α : Type} (versions : List (Versioned α)) : Prop :=
  versions.Pairwise (fun newer older => older.resourceVersion < newer.resourceVersion)

/-- A store: the current version and the older ones, newest first. -/
structure Store (α : Type) where
  current : Versioned α
  past : List (Versioned α)
  ordered : Ordered (current :: past)

variable {α : Type}

namespace Store

/-- Every version the store has held, newest first. -/
def versions (s : Store α) : List (Versioned α) :=
  s.current :: s.past

/-- A newly created object, at version 0. -/
def create (value : α) : Store α where
  current := ⟨0, value⟩
  past := []
  ordered := List.pairwise_singleton _ _

/-- A read through a cache that lags `staleness` writes behind the store; a
lag beyond the history reads the oldest version. -/
def read (s : Store α) (staleness : Nat) : Versioned α :=
  s.versions.getD staleness (s.past.getLastD s.current)

/-- Adding a version with the next number keeps the history ordered. -/
theorem ordered_next
    (s : Store α)
    (value : α) :
    Ordered (⟨s.current.resourceVersion + 1, value⟩ :: s.versions) := by
  have older := List.pairwise_cons.mp s.ordered
  refine List.pairwise_cons.mpr ⟨?_, s.ordered⟩
  intro version mem
  rcases List.mem_cons.mp mem with rfl | inPast
  · exact Nat.lt_succ_self _
  · exact Nat.lt_succ_of_lt (older.1 version inPast)

/-- The store after an accepted write of `value`. -/
def write (s : Store α) (value : α) : Store α :=
  ⟨⟨s.current.resourceVersion + 1, value⟩, s.versions, ordered_next s value⟩

/-- UpdateStatus: store `value` as computed from the version numbered
`basis`; refused (a conflict) unless `basis` is the current number. -/
def update (s : Store α) (basis : Nat) (value : α) : Option (Store α) :=
  if basis = s.current.resourceVersion then some (s.write value) else none

@[simp] theorem current_write
    (s : Store α)
    (value : α) :
    (s.write value).current = ⟨s.current.resourceVersion + 1, value⟩ := rfl

@[simp] theorem versions_write
    (s : Store α)
    (value : α) :
    (s.write value).versions = ⟨s.current.resourceVersion + 1, value⟩ :: s.versions := rfl

@[simp] theorem versions_create
    (value : α) :
    (create value).versions = [⟨0, value⟩] := rfl

@[simp] theorem current_mem
    (s : Store α) :
    s.current ∈ s.versions :=
  List.mem_cons_self

theorem read_mem
    (s : Store α)
    (staleness : Nat) :
    s.read staleness ∈ s.versions := by
  unfold read
  rw [List.getD_eq_getElem?_getD]
  cases found : s.versions[staleness]? with
  | none => exact List.getLastD_mem_cons
  | some version => exact List.mem_of_getElem? found

@[simp] theorem read_zero
    (s : Store α) :
    s.read 0 = s.current := rfl

/-- The current version is the only one of the history with its number. -/
theorem eq_current_of_resourceVersion
    {s : Store α}
    {version : Versioned α}
    (mem : version ∈ s.versions)
    (same : version.resourceVersion = s.current.resourceVersion) :
    version = s.current := by
  rcases List.mem_cons.mp mem with here | inPast
  · exact here
  · have older := (List.pairwise_cons.mp s.ordered).1 version inPast
    omega

theorem update_eq_some
    {s s' : Store α}
    {basis : Nat}
    {value : α}
    (accepted : s.update basis value = some s') :
    basis = s.current.resourceVersion ∧ s' = s.write value := by
  unfold update at accepted
  split at accepted
  · exact ⟨‹_›, (Option.some.inj accepted).symm⟩
  · cases accepted

@[simp] theorem update_current
    (s : Store α)
    (value : α) :
    s.update s.current.resourceVersion value = some (s.write value) :=
  if_pos rfl

/-- A write computed from any version of the history is accepted only if that
version is the current one. -/
theorem eq_current_of_update
    {s s' : Store α}
    {basis : Versioned α}
    {value : α}
    (mem : basis ∈ s.versions)
    (accepted : s.update basis.resourceVersion value = some s') :
    basis = s.current :=
  eq_current_of_resourceVersion mem (update_eq_some accepted).1

theorem versions_update
    {s s' : Store α}
    {basis : Nat}
    {value : α}
    (accepted : s.update basis value = some s') :
    s'.versions = ⟨s.current.resourceVersion + 1, value⟩ :: s.versions := by
  rw [(update_eq_some accepted).2, versions_write]

/-- `s'` is `s` after some accepted writes: its history ends with the history
of `s`. -/
def Extends (s s' : Store α) : Prop :=
  s.versions <:+ s'.versions

@[refl] theorem Extends.refl
    (s : Store α) :
    s.Extends s :=
  List.suffix_refl _

theorem Extends.trans
    {s s' s'' : Store α}
    (first : s.Extends s')
    (second : s'.Extends s'') :
    s.Extends s'' :=
  List.IsSuffix.trans first second

theorem Extends.mem
    {s s' : Store α}
    (ext : s.Extends s')
    {version : Versioned α}
    (mem : version ∈ s.versions) :
    version ∈ s'.versions :=
  ext.subset mem

theorem extends_write
    (s : Store α)
    (value : α) :
    s.Extends (s.write value) := by
  unfold Extends
  rw [versions_write]
  exact List.suffix_cons _ _

theorem extends_update
    {s s' : Store α}
    {basis : Nat}
    {value : α}
    (accepted : s.update basis value = some s') :
    s.Extends s' := by
  unfold Extends
  rw [versions_update accepted]
  exact List.suffix_cons _ _

end Store

end CasStore
