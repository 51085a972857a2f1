import Mathlib

namespace Go

/-!
# Go maps as association lists

A Go `map[K]V` stores at most one value per key, a store overwrites the
previous value, and iteration visits the entries in an unspecified order.
`AList` already has exactly these keys-are-unique semantics, so a map is an
`AList` with a constant value family.  Every consumer defined here (`values`
membership, `allMatch`, `anyMatch`, `size`, `filter`) is insensitive to the
entry order, which is what lets an order-free Go loop be modelled by one
fixed traversal.

Nothing in this module mentions the program being verified.
-/

universe u v

/-- A Go `map[κ]ν`. -/
abbrev Map (κ : Type u) (ν : Type v) := AList (fun _ : κ => ν)

namespace Map

variable {κ : Type u} {ν : Type v}

/-- The values of a map, in its (unspecified) iteration order. -/
def values (m : Map κ ν) : List ν :=
  m.entries.map Sigma.snd

/-- The entries satisfying a predicate, as a `for k, v := range m` loop that
copies the accepted entries into a fresh map. -/
def filter (p : κ → ν → Bool) (m : Map κ ν) : Map κ ν where
  entries := m.entries.filter (fun entry => p entry.1 entry.2)
  nodupKeys := m.nodupKeys.sublist List.filter_sublist

/-- `len(m)`. -/
def size (m : Map κ ν) : Nat :=
  m.entries.length

/-- Every value satisfies the predicate (a loop that returns `false` on the
first counterexample). -/
def allMatch (p : ν → Bool) (m : Map κ ν) : Bool :=
  m.values.all p

/-- Some value satisfies the predicate. -/
def anyMatch (p : ν → Bool) (m : Map κ ν) : Bool :=
  m.values.any p

/-- A measure summed over the stored values (a `for _, v := range m` loop that
adds `f v` to a running total). -/
def sumBy (f : ν → Nat) (m : Map κ ν) : Nat :=
  (m.values.map f).sum

@[simp] theorem sumBy_empty
    (f : ν → Nat) :
    sumBy f (∅ : Map κ ν) = 0 := rfl

section Lookup

variable [DecidableEq κ]

/-- A map filled by a `for _, kv := range kvs { m[kv.1] = kv.2 }` loop: a later
store under a key overwrites an earlier one. -/
def ofList (kvs : List (κ × ν)) : Map κ ν :=
  kvs.foldl (fun m kv => m.insert kv.1 kv.2) ∅

/-- A lookup hits exactly the stored entries. -/
theorem lookup_eq_some_iff
    {m : Map κ ν}
    {key : κ}
    {value : ν} :
    m.lookup key = some value ↔
      (⟨key, value⟩ : Sigma fun _ : κ => ν) ∈ m.entries :=
  AList.mem_lookup_iff

/-- A value occurs in the map exactly when some key maps to it. -/
theorem mem_values_iff
    {m : Map κ ν}
    {value : ν} :
    value ∈ m.values ↔ ∃ key, m.lookup key = some value := by
  constructor
  · intro member
    obtain ⟨entry, entryMember, entryValue⟩ := List.mem_map.mp member
    refine ⟨entry.1, ?_⟩
    rw [← entryValue]
    exact lookup_eq_some_iff.mpr entryMember
  · rintro ⟨key, found⟩
    exact List.mem_map.mpr ⟨_, lookup_eq_some_iff.mp found, rfl⟩

/-- `allMatch` holds exactly when every stored value satisfies the predicate. -/
theorem allMatch_iff
    {p : ν → Bool}
    {m : Map κ ν} :
    m.allMatch p = true ↔ ∀ key value, m.lookup key = some value → p value = true := by
  simp only [allMatch, List.all_eq_true, mem_values_iff]
  constructor
  · intro every key value found
    exact every value ⟨key, found⟩
  · rintro every value ⟨key, found⟩
    exact every key value found

/-- `anyMatch` holds exactly when some stored value satisfies the predicate. -/
theorem anyMatch_iff
    {p : ν → Bool}
    {m : Map κ ν} :
    m.anyMatch p = true ↔ ∃ key value, m.lookup key = some value ∧ p value = true := by
  simp only [anyMatch, List.any_eq_true, mem_values_iff]
  constructor
  · rintro ⟨value, ⟨key, found⟩, holds⟩
    exact ⟨key, value, found, holds⟩
  · rintro ⟨key, value, found, holds⟩
    exact ⟨value, ⟨key, found⟩, holds⟩

/-- Filtering keeps exactly the stored entries the predicate accepts. -/
theorem lookup_filter_eq_some_iff
    {p : κ → ν → Bool}
    {m : Map κ ν}
    {key : κ}
    {value : ν} :
    (m.filter p).lookup key = some value ↔
      m.lookup key = some value ∧ p key value = true := by
  rw [lookup_eq_some_iff, lookup_eq_some_iff]
  exact List.mem_filter

/-- The stores of a loop over `kvs`, applied to an arbitrary starting map. -/
private theorem lookup_foldl_insert
    (kvs : List (κ × ν))
    (start : Map κ ν)
    (key : κ) :
    (kvs.foldl (fun m kv => m.insert kv.1 kv.2) start).lookup key =
      ((kvs.reverse.find? fun kv => kv.1 = key).map Prod.snd).or (start.lookup key) := by
  induction kvs generalizing start with
  | nil =>
      simp
  | cons kv rest inductionHypothesis =>
      rw [List.foldl_cons, inductionHypothesis, List.reverse_cons, List.find?_append]
      by_cases sameKey : kv.1 = key
      · subst sameKey
        cases (rest.reverse.find? fun other => other.1 = kv.1) <;>
          simp [AList.lookup_insert]
      · cases (rest.reverse.find? fun other => other.1 = key) <;>
          simp [sameKey, AList.lookup_insert_ne (Ne.symm sameKey)]

/-- The last store under a key wins. -/
theorem lookup_ofList
    (kvs : List (κ × ν))
    (key : κ) :
    (ofList kvs).lookup key = (kvs.reverse.find? fun kv => kv.1 = key).map Prod.snd := by
  rw [ofList, lookup_foldl_insert]
  cases (kvs.reverse.find? fun kv => kv.1 = key) <;> simp

/-- With distinct keys, the loop stores exactly the listed pairs. -/
theorem lookup_ofList_of_mem
    {kvs : List (κ × ν)}
    (keysNodup : (kvs.map Prod.fst).Nodup)
    {key : κ}
    {value : ν}
    (member : (key, value) ∈ kvs) :
    (ofList kvs).lookup key = some value := by
  rw [lookup_ofList]
  obtain ⟨found, foundIs⟩ : ∃ found, (kvs.reverse.find? fun kv => kv.1 = key) = some found := by
    apply Option.isSome_iff_exists.mp
    exact List.find?_isSome.mpr ⟨(key, value), List.mem_reverse.mpr member, by simp⟩
  have foundMember : found ∈ kvs := List.mem_reverse.mp (List.mem_of_find?_eq_some foundIs)
  have foundKey : found.1 = key := by simpa using List.find?_some foundIs
  have same : found = (key, value) :=
    List.inj_on_of_nodup_map keysNodup foundMember member foundKey
  simp [foundIs, same]

/-- An empty map is one in which every lookup misses. -/
theorem size_eq_zero_iff
    {m : Map κ ν} :
    m.size = 0 ↔ ∀ key, m.lookup key = none := by
  constructor
  · intro empty key
    have noEntries : m.entries = [] := List.length_eq_zero_iff.mp empty
    simp [AList.lookup, noEntries]
  · intro missing
    cases entriesShape : m.entries with
    | nil => simp [size, entriesShape]
    | cons entry rest =>
        have present : entry ∈ m.entries := by
          simp [entriesShape]
        have found : m.lookup entry.1 = some entry.2 :=
          lookup_eq_some_iff.mpr present
        rw [missing entry.1] at found
        cases found

/-- Deleting an absent key leaves the map as it was. -/
theorem erase_of_lookup_eq_none
    {m : Map κ ν}
    {key : κ}
    (missing : m.lookup key = none) :
    m.erase key = m := by
  apply AList.ext
  exact List.kerase_of_notMem_keys (AList.lookup_eq_none.mp missing)

/-- What a deletion leaves was stored before it. -/
theorem lookup_of_lookup_erase
    {m : Map κ ν}
    {erased key : κ}
    {value : ν}
    (found : (m.erase erased).lookup key = some value) :
    m.lookup key = some value := by
  by_cases same : key = erased
  · subst same
    rw [AList.lookup_erase] at found
    cases found
  · rwa [AList.lookup_erase_ne same] at found

/-- A store counts the new value once, beside every other entry. -/
theorem sumBy_insert
    (f : ν → Nat)
    (m : Map κ ν)
    (key : κ)
    (value : ν) :
    sumBy f (m.insert key value) = f value + sumBy f (m.erase key) := by
  simp [sumBy, values, AList.entries_insert, AList.erase]

/-- Deleting a stored key takes exactly its value out of the sum. -/
theorem sumBy_erase_add
    {f : ν → Nat}
    {m : Map κ ν}
    {key : κ}
    {value : ν}
    (found : m.lookup key = some value) :
    sumBy f (m.erase key) + f value = sumBy f m := by
  have stored : key ∈ m.entries.keys := AList.lookup_isSome.mp (by simp [found])
  obtain ⟨other, front, back, -, entriesSplit, erased⟩ := List.exists_of_kerase stored
  -- the entry that the deletion removes is the one the lookup found
  have sameValue : other = value := by
    have member : (⟨key, other⟩ : Sigma fun _ : κ => ν) ∈ m.entries := by
      simp [entriesSplit]
    exact Option.some.inj ((lookup_eq_some_iff.mpr member).symm.trans found)
  subst sameValue
  show ((m.entries.kerase key).map Sigma.snd |>.map f).sum + f other =
    ((m.entries.map Sigma.snd).map f).sum
  rw [erased, entriesSplit]
  simp only [List.map_append, List.map_cons, List.sum_append, List.sum_cons]
  omega

/-- A stored value is part of the sum. -/
theorem le_sumBy
    {f : ν → Nat}
    {m : Map κ ν}
    {key : κ}
    {value : ν}
    (found : m.lookup key = some value) :
    f value ≤ sumBy f m := by
  have split := sumBy_erase_add (f := f) found
  omega

/-- Two measures that agree on every stored value sum to the same total. -/
theorem sumBy_congr
    {f g : ν → Nat}
    {m : Map κ ν}
    (agree : ∀ key value, m.lookup key = some value → f value = g value) :
    sumBy f m = sumBy g m := by
  unfold sumBy values
  rw [List.map_map, List.map_map]
  congr 1
  apply List.map_congr_left
  intro entry member
  exact agree entry.1 entry.2 (lookup_eq_some_iff.mpr member)

/-- A deletion never adds to a sum. -/
theorem sumBy_erase_le
    (f : ν → Nat)
    (m : Map κ ν)
    (key : κ) :
    sumBy f (m.erase key) ≤ sumBy f m := by
  cases found : m.lookup key with
  | none => rw [erase_of_lookup_eq_none found]
  | some value =>
    have split := sumBy_erase_add (f := f) found
    omega

/-- A `for k, v := range m { m[k] = f(v) }` loop, which rewrites every stored
value in place and keeps the keys. -/
def mapValues (f : ν → ν) (m : Map κ ν) : Map κ ν where
  entries := m.entries.map (Sigma.map id fun _ => f)
  nodupKeys := m.nodupKeys.map₂ _ _

/-- Rewriting the values rewrites what each key holds. -/
@[simp] theorem lookup_mapValues
    (f : ν → ν)
    (m : Map κ ν)
    (key : κ) :
    (m.mapValues f).lookup key = (m.lookup key).map f :=
  List.dlookup_map₂ key

/-- `reflect.DeepEqual` on two maps that are not `nil`: as many entries, and
every entry of the first stored in the second. -/
def deepEqual [DecidableEq ν] (m₁ m₂ : Map κ ν) : Bool :=
  m₁.size == m₂.size && m₁.entries.all fun entry => m₂.lookup entry.1 == some entry.2

end Lookup

end Map

/-- A Go loop that returns at its first error and otherwise collects one
result per element: each result is the element's. -/
theorem mapM_eq_ok_forall₂
    {ε α β : Type u}
    {f : α → Except ε β} :
    ∀ {xs : List α} {ys : List β},
      xs.mapM f = .ok ys → List.Forall₂ (fun x y => f x = .ok y) xs ys := by
  intro xs
  induction xs with
  | nil =>
      intro ys collected
      cases collected
      exact List.Forall₂.nil
  | cons head rest inductionHypothesis =>
      intro ys collected
      rw [List.mapM_cons] at collected
      cases first : f head with
      | error err =>
          rw [first] at collected
          cases collected
      | ok result =>
          cases others : rest.mapM f with
          | error err =>
              rw [first, others] at collected
              cases collected
          | ok results =>
              rw [first, others] at collected
              cases collected
              exact List.Forall₂.cons first (inductionHypothesis others)

/-- Every result of such a loop is the result of one of the elements. -/
theorem exists_of_mapM_eq_ok
    {ε α β : Type u}
    {f : α → Except ε β}
    {xs : List α}
    {ys : List β}
    (collected : xs.mapM f = .ok ys) :
    ∀ y ∈ ys, ∃ x ∈ xs, f x = .ok y := by
  have related := mapM_eq_ok_forall₂ collected
  clear collected
  induction related with
  | nil =>
      intro y member
      cases member
  | cons first _ inductionHypothesis =>
      intro y member
      rcases List.mem_cons.mp member with rfl | later
      · exact ⟨_, List.mem_cons_self, first⟩
      · obtain ⟨x, xMember, found⟩ := inductionHypothesis y later
        exact ⟨x, List.mem_cons_of_mem _ xMember, found⟩

end Go
