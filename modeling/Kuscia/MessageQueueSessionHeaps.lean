import Kuscia.MessageQueue
import Kuscia.GoHeapOrder
import Mathlib

namespace Kuscia.Msq

/-!
# The session id heaps

`SessionIDPQ` is a `heap.Interface` whose `Swap` also records every entry's
position in the entry.  It is a keyed heap in the sense of `GoHeap.Keyed`,
with the timestamp as priority, so `heap.Push`, `heap.Pop` and `heap.Fix`
keep it a min-heap (`timestampAt_keyed`).  Apart from its position, an
entry is what it was pushed as, and the heap functions only permute the
entries (`Arranged.Push`, `Pop_spec`, `Arranged.Fix`), keeping each entry's
recorded position equal to its place (`Indexed`).

On these facts rest the two cleaners of the session manager:

* the dead sids: `DeadSessionID.Consistent` says that `Exists` answers
  exactly for the sids that wait in the heap, each once.  `Clean` forgets
  only sids whose wait has expired, and it leaves no expired sid behind
  unless it stopped at `cleanStep` (`Clean_removes_expired`);
* the activity marks: over every run, the marks form a min-heap, each mark
  records its position (so the `heap.Fix` of a refresh fixes the refreshed
  mark), the marks' identities are distinct, and the mark of every
  registered session is in the heap (`SessionHeaps`, kept by every call).
-/

/-- What an entry records apart from its position. -/
def SessionIDItem.mark (item : SessionIDItem) : String × Int × Nat :=
  (item.sid, item.timestamp, item.uid)

namespace SessionIDPQ

/-- The timestamp at position `k`: the priority `Less` compares. -/
def timestampAt (pq : SessionIDPQ) (k : Nat) : Int :=
  (pq.getD k default).timestamp

/-- The entries without their positions. -/
def marks (pq : SessionIDPQ) : List (String × Int × Nat) :=
  pq.map SessionIDItem.mark

/-- Every entry records its own position. -/
def Indexed (pq : SessionIDPQ) : Prop :=
  ∀ k, k < pq.length → (pq.getD k default).index = k

@[simp] theorem length_Swap
    (pq : SessionIDPQ)
    (i j : Nat) :
    (Swap pq i j).length = pq.length := by
  simp [Swap]

theorem getD_Swap
    (pq : SessionIDPQ)
    {i j : Nat}
    (iBelow : i < pq.length)
    (jBelow : j < pq.length)
    (k : Nat) :
    (Swap pq i j).getD k default =
      if k = j then { pq.getD i default with index := j }
      else if k = i then { pq.getD j default with index := i }
      else pq.getD k default := by
  unfold Swap
  simp only [List.getD_eq_getElem?_getD, List.getElem?_set, List.length_set]
  by_cases kj : k = j
  · subst kj
    simp [jBelow]
  · by_cases ki : k = i
    · subst ki
      simp [iBelow, Ne.symm kj, kj]
    · simp [Ne.symm kj, Ne.symm ki, kj, ki]

theorem timestampAt_keyed :
    GoHeap.Keyed heapInterface timestampAt where
  len_swap := length_Swap
  less_iff s i j _ _ := by
    simp [heapInterface, Less, timestampAt]
  key_swap s i j k iBelow jBelow := by
    simp only [timestampAt, heapInterface]
    rw [getD_Swap s iBelow jBelow k]
    by_cases kj : k = j
    · subst kj
      by_cases ki : k = i
      · subst ki
        simp
      · simp [ki]
    · by_cases ki : k = i
      · subst ki
        simp [kj]
      · simp [ki, kj]
  len_push s x := by
    simp [heapInterface, Push]
  key_push s x k below := by
    have inside : k < s.length := below
    simp [heapInterface, Push, timestampAt, List.getD_eq_getElem?_getD, List.getElem?_append_left inside]
  len_pop s := by
    simp [heapInterface, Pop]
  key_pop s k below := by
    have inside : k < s.length - 1 := below
    have present : k < s.length := by omega
    simp [heapInterface, Pop, timestampAt, List.getD_eq_getElem?_getD, inside,
      List.getElem?_eq_getElem present]

theorem marks_Swap
    {pq : SessionIDPQ}
    {i j : Nat}
    (iBelow : i < pq.length)
    (jBelow : j < pq.length) :
    marks (Swap pq i j) = (marks pq).swap i j := by
  have iMarks : i < (marks pq).length := by simpa [marks] using iBelow
  have jMarks : j < (marks pq).length := by simpa [marks] using jBelow
  rw [List.swap_eq_of_lt iMarks jMarks]
  simp [marks, Swap, List.map_set, List.getD_eq_getElem?_getD, List.getElem?_eq_getElem iBelow,
    List.getElem?_eq_getElem jBelow, SessionIDItem.mark]

theorem Indexed.swap
    {pq : SessionIDPQ}
    (indexed : Indexed pq)
    {i j : Nat}
    (iBelow : i < pq.length)
    (jBelow : j < pq.length) :
    Indexed (Swap pq i j) := by
  intro k below
  rw [length_Swap] at below
  rw [getD_Swap pq iBelow jBelow k]
  split
  · rename_i atJ
    rw [atJ]
  · split
    · rename_i atI
      rw [atI]
    · exact indexed k below

theorem Indexed.push
    {pq : SessionIDPQ}
    (indexed : Indexed pq)
    (item : SessionIDItem) :
    Indexed (Push pq item) := by
  intro k below
  simp only [Push, List.length_append, List.length_singleton] at below
  simp only [Push, List.getD_eq_getElem?_getD]
  rcases Nat.lt_or_ge k pq.length with old | last
  · rw [List.getElem?_append_left old]
    have := indexed k old
    rwa [List.getD_eq_getElem?_getD] at this
  · have atLast : k = pq.length := by omega
    subst atLast
    simp

theorem Indexed.dropLast
    {pq : SessionIDPQ}
    (indexed : Indexed pq) :
    Indexed pq.dropLast := by
  intro k below
  have kept : k < pq.length := by simp at below; omega
  have := indexed k kept
  simp only [List.getD_eq_getElem?_getD, List.getElem?_dropLast] at this ⊢
  rw [if_pos (by simpa using below)]
  exact this

/-- What the sifts keep of a heap array: its entries up to order, its length,
and the positions the entries record. -/
structure Arranged (entries : List (String × Int × Nat)) (m : Nat) (pq : SessionIDPQ) : Prop where
  perm : List.Perm (marks pq) entries
  length : pq.length = m
  indexed : Indexed pq

theorem Arranged.swap
    {entries : List (String × Int × Nat)}
    {m : Nat}
    {pq : SessionIDPQ}
    (arranged : Arranged entries m pq)
    {i j : Nat}
    (iBelow : i < m)
    (jBelow : j < m) :
    Arranged entries m (Swap pq i j) := by
  rw [← arranged.length] at iBelow jBelow
  refine ⟨?_, by rw [length_Swap, arranged.length], arranged.indexed.swap iBelow jBelow⟩
  rw [marks_Swap iBelow jBelow]
  exact (List.swap_perm _ i j).trans arranged.perm

theorem Arranged.up
    {entries : List (String × Int × Nat)}
    {m : Nat}
    {pq : SessionIDPQ}
    (arranged : Arranged entries m pq)
    {j : Nat}
    (below : j < m) :
    Arranged entries m (GoHeap.up heapInterface pq j) :=
  GoHeap.upLoop_induction (fun _ _ _ iBelow jBelow holds => holds.swap iBelow jBelow)
    (j + 1) pq j below arranged

theorem Arranged.downLoop
    {entries : List (String × Int × Nat)}
    {m n : Nat}
    {pq : SessionIDPQ}
    (arranged : Arranged entries m pq)
    (bound : n ≤ m)
    (fuel i : Nat) :
    Arranged entries m (GoHeap.downLoop heapInterface fuel pq i n).1 :=
  GoHeap.downLoop_induction
    (fun _ _ _ iBelow jBelow holds => holds.swap (by omega) (by omega)) fuel pq i arranged

theorem Arranged.Push
    {pq : SessionIDPQ}
    (indexed : Indexed pq)
    (item : SessionIDItem) :
    Arranged (marks pq ++ [item.mark]) (pq.length + 1) (GoHeap.Push heapInterface pq item) := by
  have pushed : Arranged (marks pq ++ [item.mark]) (pq.length + 1) (SessionIDPQ.Push pq item) :=
    ⟨by simp [marks, SessionIDPQ.Push, SessionIDItem.mark], by simp [SessionIDPQ.Push], indexed.push item⟩
  exact pushed.up (by simp [heapInterface, SessionIDPQ.Push])

theorem Arranged.Fix
    {entries : List (String × Int × Nat)}
    {pq : SessionIDPQ}
    (arranged : Arranged entries pq.length pq)
    {i : Nat}
    (below : i < pq.length) :
    Arranged entries pq.length (GoHeap.Fix heapInterface pq i) := by
  rw [GoHeap.Fix_eq]
  have sifted := arranged.downLoop (Nat.le_refl _) (heapInterface.len pq) i
  split
  · exact sifted
  · exact sifted.up below

/-- `heap.Pop` returns the root's entry and keeps the others. -/
theorem Pop_spec
    {pq : SessionIDPQ}
    (indexed : Indexed pq)
    (nonempty : 0 < pq.length) :
    (GoHeap.Pop heapInterface pq).1.mark = (pq.getD 0 default).mark ∧
      List.Perm ((GoHeap.Pop heapInterface pq).1.mark :: marks (GoHeap.Pop heapInterface pq).2) (marks pq) ∧
      Indexed (GoHeap.Pop heapInterface pq).2 ∧
      (GoHeap.Pop heapInterface pq).2.length = pq.length - 1 := by
  -- the root goes to the last position, which `down` below it never touches
  have lastBelow : pq.length - 1 < pq.length := by omega
  have rootMoved : ((Swap pq 0 (pq.length - 1)).getD (pq.length - 1) default).mark =
      (pq.getD 0 default).mark := by
    rw [getD_Swap pq nonempty lastBelow, if_pos rfl]
    rfl
  have swapped : Arranged (marks pq) pq.length (Swap pq 0 (pq.length - 1)) :=
    (Arranged.mk (List.Perm.refl _) rfl indexed).swap nonempty lastBelow
  have sifted := GoHeap.downLoop_induction (h := heapInterface)
    (P := fun s => Arranged (marks pq) pq.length s ∧
      (s.getD (pq.length - 1) default).mark = (pq.getD 0 default).mark)
    (n := pq.length - 1)
    (fun s i j iBelow jBelow holds => by
      refine ⟨holds.1.swap (by omega) (by omega), ?_⟩
      have iLen : i < s.length := by rw [holds.1.length]; omega
      have jLen : j < s.length := by rw [holds.1.length]; omega
      change ((Swap s i j).getD (pq.length - 1) default).mark = _
      rw [getD_Swap s iLen jLen, if_neg (by omega), if_neg (by omega)]
      exact holds.2)
    (pq.length - 1) (Swap pq 0 (pq.length - 1)) 0 ⟨swapped, rootMoved⟩
  have popEq : GoHeap.Pop heapInterface pq =
      Pop (GoHeap.downLoop heapInterface (pq.length - 1) (Swap pq 0 (pq.length - 1)) 0
        (pq.length - 1)).1 :=
    rfl
  rw [popEq]
  generalize (GoHeap.downLoop heapInterface (pq.length - 1) (Swap pq 0 (pq.length - 1)) 0
    (pq.length - 1)).1 = s at sifted ⊢
  obtain ⟨⟨perm, length, sIndexed⟩, last⟩ := sifted
  have lastIs : s.getLast?.getD default = s.getD (pq.length - 1) default := by
    rw [List.getLast?_eq_getElem?, List.getD_eq_getElem?_getD, length]
  have nonemptyS : s ≠ [] := List.ne_nil_of_length_pos (by omega)
  have marksSplit : marks s = marks s.dropLast ++ [(s.getLast?.getD default).mark] := by
    conv_lhs => rw [← List.dropLast_append_getLast nonemptyS]
    simp [marks, List.getLast?_eq_some_getLast nonemptyS]
  refine ⟨?_, ?_, sIndexed.dropLast, by simp [Pop, length]⟩
  · change (s.getLast?.getD default).mark = _
    rw [lastIs]
    exact last
  · change List.Perm ((s.getLast?.getD default).mark :: marks s.dropLast) (marks pq)
    have whole : List.Perm (marks s.dropLast ++ [(s.getLast?.getD default).mark]) (marks pq) := by
      rw [← marksSplit]
      exact perm
    exact (List.perm_append_singleton _ _).symm.trans whole

theorem sids_eq
    (pq : SessionIDPQ) :
    pq.map SessionIDItem.sid = (marks pq).map Prod.fst := by
  simp [marks, SessionIDItem.mark, Function.comp_def]

/-- An entry's timestamp is no less than the root's. -/
theorem root_le_of_mem
    {pq : SessionIDPQ}
    (heap : GoHeap.IsHeap timestampAt pq pq.length)
    {item : SessionIDItem}
    (mem : item ∈ pq) :
    timestampAt pq 0 ≤ item.timestamp := by
  obtain ⟨k, below, atK⟩ := List.mem_iff_getElem.mp mem
  have atPosition : timestampAt pq k = item.timestamp := by
    simp [timestampAt, List.getD_eq_getElem?_getD, List.getElem?_eq_getElem below, atK]
  rw [← atPosition]
  exact heap.root_le k below

theorem getD_zero_mem
    {pq : SessionIDPQ}
    (nonempty : 0 < pq.length) :
    pq.getD 0 default ∈ pq := by
  rw [List.getD_eq_getElem?_getD, List.getElem?_eq_getElem nonempty, Option.getD_some]
  exact List.getElem_mem nonempty

end SessionIDPQ

namespace DeadSessionID

open SessionIDPQ

/-- `Exists` answers exactly for the sids waiting in the heap, each sid waits
once, and the heap is ordered by the time each sid was released. -/
structure Consistent (ds : DeadSessionID) : Prop where
  heap : GoHeap.IsHeap timestampAt ds.pq ds.pq.length
  indexed : Indexed ds.pq
  distinct : (ds.pq.map SessionIDItem.sid).Nodup
  exists_iff : ∀ sid, ds.Exists sid = true ↔ sid ∈ ds.pq.map SessionIDItem.sid

theorem NewDeadSessionID_consistent
    (config : Config) :
    (NewDeadSessionID config).Consistent where
  heap c _ below := absurd below (Nat.not_lt_zero c)
  indexed k below := absurd below (Nat.not_lt_zero k)
  distinct := List.nodup_nil
  exists_iff sid := by simp [NewDeadSessionID, Exists]

theorem Consistent.Push
    {ds : DeadSessionID}
    (consistent : ds.Consistent)
    (sid : String)
    (nowMs : Int) :
    (ds.Push sid nowMs).Consistent := by
  unfold DeadSessionID.Push
  split
  · exact consistent
  · rename_i absent
    have arranged := Arranged.Push consistent.indexed (NewSessionIDItem sid nowMs 0)
    have sidsPerm : List.Perm
        ((GoHeap.Push heapInterface ds.pq (NewSessionIDItem sid nowMs 0)).map SessionIDItem.sid)
        (ds.pq.map SessionIDItem.sid ++ [sid]) := by
      rw [sids_eq, sids_eq]
      simpa [SessionIDItem.mark, NewSessionIDItem] using arranged.perm.map Prod.fst
    have fresh : sid ∉ ds.pq.map SessionIDItem.sid := by
      rw [← consistent.exists_iff]
      simpa [Exists] using absent
    refine ⟨GoHeap.Push_isHeap timestampAt_keyed consistent.heap _, arranged.indexed, ?_, ?_⟩
    · rw [sidsPerm.nodup_iff, List.nodup_append]
      exact ⟨consistent.distinct, List.nodup_singleton sid, by simpa using fresh⟩
    · intro other
      rw [sidsPerm.mem_iff, List.mem_append, List.mem_singleton, ← consistent.exists_iff]
      by_cases same : other = sid
      · subst same
        simp [Exists]
      · simp [Exists, AList.lookup_insert_ne same, same]

/-- Popping the root forgets exactly the root's sid. -/
theorem Consistent.pop
    {ds : DeadSessionID}
    (consistent : ds.Consistent)
    (nonempty : 0 < ds.pq.length) :
    { ds with
      pq := (GoHeap.Pop heapInterface ds.pq).2
      sids := ds.sids.erase (ds.pq.getD 0 default).sid }.Consistent := by
  obtain ⟨rootMark, perm, indexed, -⟩ := Pop_spec consistent.indexed nonempty
  have sidsPerm : List.Perm ((ds.pq.getD 0 default).sid ::
      (GoHeap.Pop heapInterface ds.pq).2.map SessionIDItem.sid) (ds.pq.map SessionIDItem.sid) := by
    have rootSid : (GoHeap.Pop heapInterface ds.pq).1.sid = (ds.pq.getD 0 default).sid :=
      congrArg Prod.fst rootMark
    rw [sids_eq, sids_eq, ← rootSid]
    simpa [SessionIDItem.mark] using perm.map Prod.fst
  have restDistinct := (sidsPerm.nodup_iff.mpr consistent.distinct)
  refine ⟨GoHeap.Pop_isHeap timestampAt_keyed consistent.heap nonempty, indexed,
    (List.nodup_cons.mp restDistinct).2, ?_⟩
  intro other
  by_cases same : other = (ds.pq.getD 0 default).sid
  · subst same
    simp only [Exists, AList.lookup_erase, Option.isSome_none, Bool.false_eq_true, false_iff]
    exact (List.nodup_cons.mp restDistinct).1
  · simp only [Exists, AList.lookup_erase_ne same]
    rw [← Exists, consistent.exists_iff, ← sidsPerm.mem_iff, List.mem_cons, or_iff_right same]

/-- What a cleaning pass from `ds` to `ds'` at `currentMs`, allowed `count`
pops, guarantees: the result is consistent, it forgets only sids whose wait
has expired, and it stopped either after `count` pops or at a heap in which
no wait has expired. -/
structure Cleaned (currentMs : Int) (count : Nat) (ds ds' : DeadSessionID) : Prop where
  consistent : ds'.Consistent
  expiredMs : ds'.expiredMs = ds.expiredMs
  kept : ∀ sid, ds'.Exists sid = true → ds.Exists sid = true
  expired : ∀ sid, ds.Exists sid = true → ds'.Exists sid = false →
    ∃ item ∈ ds.pq, item.sid = sid ∧ ds.expiredMs ≤ currentMs - item.timestamp
  stopped : ds'.pq.length + count = ds.pq.length ∨
    ∀ item ∈ ds'.pq, currentMs - item.timestamp < ds.expiredMs

theorem Cleaned.refl
    {ds : DeadSessionID}
    (consistent : ds.Consistent)
    (currentMs : Int)
    {count : Nat}
    (stopped : ds.pq.length + count = ds.pq.length ∨
      ∀ item ∈ ds.pq, currentMs - item.timestamp < ds.expiredMs) :
    Cleaned currentMs count ds ds where
  consistent := consistent
  expiredMs := rfl
  kept _ known := known
  expired sid known forgotten := by rw [known] at forgotten; cases forgotten
  stopped := stopped

/-- One pass of the loop of `Clean`: an expired root popped, then a cleaning
pass of what is left. -/
theorem Cleaned.pop
    {ds ds' : DeadSessionID}
    {currentMs : Int}
    {count : Nat}
    (consistent : ds.Consistent)
    (nonempty : 0 < ds.pq.length)
    (rootExpired : ¬ currentMs - (ds.pq.getD 0 default).timestamp < ds.expiredMs)
    (rest : Cleaned currentMs count
      { ds with
        pq := (GoHeap.Pop heapInterface ds.pq).2
        sids := ds.sids.erase (ds.pq.getD 0 default).sid } ds') :
    Cleaned currentMs (count + 1) ds ds' := by
  obtain ⟨-, perm, -, shorter⟩ := Pop_spec consistent.indexed nonempty
  refine ⟨rest.consistent, rest.expiredMs, ?_, ?_, ?_⟩
  · intro sid known
    have inPopped := rest.kept sid known
    simp only [Exists] at inPopped ⊢
    by_cases same : sid = (ds.pq.getD 0 default).sid
    · rw [same, AList.lookup_erase] at inPopped
      exact absurd inPopped (by simp)
    · rwa [AList.lookup_erase_ne same] at inPopped
  · intro sid known forgotten
    by_cases same : sid = (ds.pq.getD 0 default).sid
    · -- the root itself, which had expired
      exact ⟨_, getD_zero_mem nonempty, same.symm, by omega⟩
    · have stillKnown : Exists { ds with
          pq := (GoHeap.Pop heapInterface ds.pq).2
          sids := ds.sids.erase (ds.pq.getD 0 default).sid } sid = true := by
        simp only [Exists] at known ⊢
        rwa [AList.lookup_erase_ne same]
      obtain ⟨item, mem, sameSid, old⟩ := rest.expired sid stillKnown forgotten
      -- an entry of the popped heap is an entry of the heap, position apart
      obtain ⟨original, originalMem, sameMark⟩ := List.mem_map.mp
        (perm.subset (List.mem_cons_of_mem _ (List.mem_map_of_mem mem)))
      have sameSid' : original.sid = item.sid := congrArg Prod.fst sameMark
      have sameTime : original.timestamp = item.timestamp := congrArg (·.2.1) sameMark
      exact ⟨original, originalMem, sameSid'.trans sameSid, by rw [sameTime]; exact old⟩
  · rcases rest.stopped with counted | unexpired
    · left
      dsimp only at counted
      omega
    · exact .inr unexpired

/-- The loop of `Clean` pops expired roots until `count` pops are made or the
root has not expired. -/
theorem cleanLoop_cleaned
    (currentMs : Int) :
    ∀ count ds, ds.Consistent → count ≤ ds.pq.length →
      Cleaned currentMs count ds (cleanLoop currentMs count ds) := by
  intro count
  induction count with
  | zero =>
    intro ds consistent _
    exact Cleaned.refl consistent currentMs (.inl rfl)
  | succ count inductionHypothesis =>
    intro ds consistent enough
    have nonempty : 0 < ds.pq.length := by omega
    have shorter := (Pop_spec consistent.indexed nonempty).2.2.2
    unfold cleanLoop
    dsimp only
    split
    · -- the root has not expired, and no entry is older than the root
      rename_i fresh
      refine Cleaned.refl consistent currentMs (.inr fun item mem => ?_)
      have rootLe := root_le_of_mem consistent.heap mem
      unfold timestampAt at rootLe
      omega
    · rename_i rootExpired
      exact Cleaned.pop consistent nonempty rootExpired
        (inductionHypothesis _ (consistent.pop nonempty) (by dsimp only; omega))

/-- `Clean` keeps the dead sids consistent and forgets only sids whose wait of
`expiredMs` is over; unless it stopped after `cleanStep` pops, no sid whose
wait is over is left. -/
theorem Clean_removes_expired
    {ds : DeadSessionID}
    (consistent : ds.Consistent)
    (currentMs : Int) :
    (ds.Clean currentMs).Consistent ∧
      (∀ sid, (ds.Clean currentMs).Exists sid = true → ds.Exists sid = true) ∧
      (∀ sid, ds.Exists sid = true → (ds.Clean currentMs).Exists sid = false →
        ∃ item ∈ ds.pq, item.sid = sid ∧ ds.expiredMs ≤ currentMs - item.timestamp) ∧
      ((ds.Clean currentMs).pq.length + cleanStep = ds.pq.length ∨
        ∀ item ∈ (ds.Clean currentMs).pq, currentMs - item.timestamp < ds.expiredMs) := by
  have cleaned := cleanLoop_cleaned currentMs _ ds consistent (Nat.min_le_left _ cleanStep)
  unfold DeadSessionID.Clean
  refine ⟨cleaned.consistent, cleaned.kept, cleaned.expired, ?_⟩
  rcases cleaned.stopped with counted | unexpired
  · by_cases capped : cleanStep ≤ ds.pq.length
    · left
      omega
    · -- fewer entries than `cleanStep`: all of them were popped
      have emptied : (cleanLoop currentMs (min ds.pq.length cleanStep) ds).pq = [] :=
        List.eq_nil_of_length_eq_zero (by omega)
      right
      intro item mem
      rw [emptied] at mem
      exact absurd mem List.not_mem_nil
  · exact .inr unexpired

/-- Two released sids, one of them older than the window: `Clean` is applied
to the consistent set they make. -/
theorem Clean_removes_expired_twoSids :
    let ds := ((NewDeadSessionID DefaultMsgConfig).Push "a" 0).Push "b" 900000
    ds.Consistent ∧ (ds.Clean 1000000).Consistent ∧
      (∀ sid, (ds.Clean 1000000).Exists sid = true → ds.Exists sid = true) ∧
      (∀ sid, ds.Exists sid = true → (ds.Clean 1000000).Exists sid = false →
        ∃ item ∈ ds.pq, item.sid = sid ∧ ds.expiredMs ≤ 1000000 - item.timestamp) ∧
      ((ds.Clean 1000000).pq.length + cleanStep = ds.pq.length ∨
        ∀ item ∈ (ds.Clean 1000000).pq, 1000000 - item.timestamp < ds.expiredMs) :=
  have consistent := ((NewDeadSessionID_consistent DefaultMsgConfig).Push "a" 0).Push "b" 900000
  ⟨consistent, Clean_removes_expired consistent 1000000⟩

end DeadSessionID

namespace SessionManager

open SessionIDPQ

/-- The sid and the identity of every activity mark, in heap order. -/
def markIds (pq : SessionIDPQ) : List (String × Nat) :=
  pq.map fun item => (item.sid, item.uid)

/-- The identity of the activity mark of the session registered under `sid`. -/
def markOf (s : SessionManager) (sid : String) : Option Nat :=
  (s.sessions.lookup sid).map Session.activeMark

/-- Everything of a session manager that the heap invariant reads. -/
def heapsOf (s : SessionManager) : DeadSessionID × SessionIDPQ × Nat × (String → Option Nat) :=
  (s.deadSessionIDs, s.activeSessionIDs, s.nextUid, s.markOf)

/-- Both heaps of the session manager are what their cleaners rely on: the
dead sids are consistent; the activity marks form a min-heap in which every
mark records its position and has its own identity, below `nextUid`; and the
mark of every registered session is in the heap. -/
structure SessionHeaps (s : SessionManager) : Prop where
  dead : s.deadSessionIDs.Consistent
  heap : GoHeap.IsHeap timestampAt s.activeSessionIDs s.activeSessionIDs.length
  indexed : Indexed s.activeSessionIDs
  distinct : ((markIds s.activeSessionIDs).map Prod.snd).Nodup
  fresh : ∀ entry ∈ markIds s.activeSessionIDs, entry.2 < s.nextUid
  registered : ∀ sid mark, s.markOf sid = some mark → (sid, mark) ∈ markIds s.activeSessionIDs

theorem markIds_eq
    (pq : SessionIDPQ) :
    markIds pq = (marks pq).map fun entry => (entry.1, entry.2.2) := by
  simp [markIds, marks, SessionIDItem.mark, Function.comp_def]

theorem markIds_perm
    {pq pq' : SessionIDPQ}
    (perm : List.Perm (marks pq') (marks pq)) :
    List.Perm (markIds pq') (markIds pq) := by
  rw [markIds_eq, markIds_eq]
  exact perm.map _

theorem SessionHeaps.congr
    {s s' : SessionManager}
    (hs : SessionHeaps s)
    (same : heapsOf s' = heapsOf s) :
    SessionHeaps s' := by
  simp only [heapsOf, Prod.mk.injEq] at same
  obtain ⟨dead, active, next, marked⟩ := same
  refine ⟨?_, ?_, ?_, ?_, ?_, ?_⟩
  · rw [dead]
    exact hs.dead
  · rw [active]
    exact hs.heap
  · rw [active]
    exact hs.indexed
  · rw [active]
    exact hs.distinct
  · rw [active, next]
    exact hs.fresh
  · rw [active, marked]
    exact hs.registered

/-- A new activity heap with the same marks up to order, keeping the heap
facts, keeps the invariant. -/
theorem SessionHeaps.withActive
    {s : SessionManager}
    (hs : SessionHeaps s)
    {pq : SessionIDPQ}
    (heap : GoHeap.IsHeap timestampAt pq pq.length)
    (indexed : Indexed pq)
    (perm : List.Perm (markIds pq) (markIds s.activeSessionIDs)) :
    SessionHeaps { s with activeSessionIDs := pq } where
  dead := hs.dead
  heap := heap
  indexed := indexed
  distinct := (perm.map Prod.snd).nodup_iff.mpr hs.distinct
  fresh entry mem := hs.fresh entry (perm.subset mem)
  registered sid mark found := perm.symm.subset (hs.registered sid mark found)

theorem heapsOf_setQueue
    (s : SessionManager)
    (sid : String)
    (sq : SessionQueue) :
    heapsOf (s.setQueue sid sq) = heapsOf s := by
  unfold setQueue
  split
  · rename_i session found
    simp only [heapsOf, Prod.mk.injEq, true_and]
    funext other
    unfold markOf
    by_cases same : other = sid
    · subst same
      rw [AList.lookup_insert, found]
      rfl
    · rw [AList.lookup_insert_ne same]
  · rfl

theorem heapsOf_releaseBytes
    (s : SessionManager)
    (byteSize : UInt64) :
    heapsOf (s.releaseBytes byteSize) = heapsOf s := by
  unfold releaseBytes
  split <;> rfl

/-- Two positions of marks with one identity are one position. -/
theorem position_unique
    {pq : SessionIDPQ}
    (distinct : ((markIds pq).map Prod.snd).Nodup)
    {j k : Nat}
    (jBelow : j < pq.length)
    (kBelow : k < pq.length)
    (same : (pq.getD j default).uid = (pq.getD k default).uid) :
    j = k := by
  have uids : (markIds pq).map Prod.snd = pq.map SessionIDItem.uid := by
    simp [markIds, Function.comp_def]
  rw [uids] at distinct
  rw [List.getD_eq_getElem?_getD, List.getElem?_eq_getElem jBelow, Option.getD_some,
    List.getD_eq_getElem?_getD, List.getElem?_eq_getElem kBelow, Option.getD_some] at same
  have jMapped : j < (pq.map SessionIDItem.uid).length := by simpa using jBelow
  have kMapped : k < (pq.map SessionIDItem.uid).length := by simpa using kBelow
  have sameMapped : (pq.map SessionIDItem.uid)[j] = (pq.map SessionIDItem.uid)[k] := by
    simpa using same
  exact distinct.getElem_inj_iff.mp sameMapped

/-- The activity heap with the timestamp of mark `uid` set to `now`: what
`refreshMark` hands to `heap.Fix`. -/
def touched (pq : SessionIDPQ) (uid : Nat) (now : Int) : SessionIDPQ :=
  pq.map fun item => if item.uid = uid then { item with timestamp := now } else item

@[simp] theorem length_touched
    (pq : SessionIDPQ)
    (uid : Nat)
    (now : Int) :
    (touched pq uid now).length = pq.length :=
  List.length_map _

theorem markIds_touched
    (pq : SessionIDPQ)
    (uid : Nat)
    (now : Int) :
    markIds (touched pq uid now) = markIds pq := by
  unfold markIds touched
  rw [List.map_map]
  apply List.map_congr_left
  intro item _
  simp only [Function.comp_apply]
  split <;> rfl

theorem getD_touched
    (pq : SessionIDPQ)
    (uid : Nat)
    (now : Int)
    {j : Nat}
    (below : j < pq.length) :
    (touched pq uid now).getD j default =
      if (pq.getD j default).uid = uid then { pq.getD j default with timestamp := now }
      else pq.getD j default := by
  simp [touched, List.getD_eq_getElem?_getD, List.getElem?_eq_getElem below]

theorem indexed_touched
    {pq : SessionIDPQ}
    (indexed : Indexed pq)
    (uid : Nat)
    (now : Int) :
    Indexed (touched pq uid now) := by
  intro j below
  rw [length_touched] at below
  rw [getD_touched pq uid now below]
  split
  · exact indexed j below
  · exact indexed j below

/-- Only the mark `uid` changes its timestamp. -/
theorem timestampAt_touched
    {pq : SessionIDPQ}
    (distinct : ((markIds pq).map Prod.snd).Nodup)
    {uid : Nat}
    {k : Nat}
    (kBelow : k < pq.length)
    (atK : (pq.getD k default).uid = uid)
    (now : Int)
    {j : Nat}
    (notK : j ≠ k) :
    timestampAt (touched pq uid now) j = timestampAt pq j := by
  unfold timestampAt
  rcases Nat.lt_or_ge j pq.length with below | beyond
  · rw [getD_touched pq uid now below]
    split
    · rename_i sameUid
      exact absurd (position_unique distinct below kBelow (sameUid.trans atK.symm)) notK
    · rfl
  · simp [touched, List.getD_eq_getElem?_getD, List.getElem?_eq_none beyond]

/-- The refreshed mark sits at the position `k` it records, so the refresh is
`heap.Fix` at `k`. -/
theorem refreshMark_eq_Fix
    {pq : SessionIDPQ}
    (indexed : Indexed pq)
    (distinct : ((markIds pq).map Prod.snd).Nodup)
    {uid : Nat}
    {k : Nat}
    (kBelow : k < pq.length)
    (atK : (pq.getD k default).uid = uid)
    (now : Int) :
    refreshMark pq uid now = GoHeap.Fix heapInterface (touched pq uid now) k := by
  unfold refreshMark
  have atKMem : pq.getD k default ∈ pq := by
    rw [List.getD_eq_getElem?_getD, List.getElem?_eq_getElem kBelow, Option.getD_some]
    exact List.getElem_mem kBelow
  cases found : pq.find? (fun item => decide (item.uid = uid)) with
  | none =>
    exact absurd (by simpa using atK) (List.find?_eq_none.mp found _ atKMem)
  | some item =>
    have itemUid : item.uid = uid := by simpa using List.find?_some found
    obtain ⟨j, jBelow, atJ⟩ := List.mem_iff_getElem.mp (List.mem_of_find?_eq_some found)
    have getJ : pq.getD j default = item := by
      rw [List.getD_eq_getElem?_getD, List.getElem?_eq_getElem jBelow, Option.getD_some, atJ]
    have jk : j = k := position_unique distinct jBelow kBelow (by rw [getJ, itemUid, atK])
    subst jk
    have recorded : item.index = j := by rw [← getJ]; exact indexed j jBelow
    dsimp only
    rw [recorded, if_neg (by omega), Int.toNat_natCast]
    rfl

theorem SessionHeaps.refresh
    {s : SessionManager}
    (hs : SessionHeaps s)
    {sid : String}
    {session : Session}
    (found : s.sessions.lookup sid = some session)
    (now : Int) :
    SessionHeaps
      { s with activeSessionIDs := refreshMark s.activeSessionIDs session.activeMark now } := by
  have member := hs.registered sid session.activeMark (by simp [markOf, found])
  obtain ⟨item, itemMem, itemIds⟩ := List.mem_map.mp member
  obtain ⟨k, kBelow, atK⟩ := List.mem_iff_getElem.mp itemMem
  have uidAtK : (s.activeSessionIDs.getD k default).uid = session.activeMark := by
    rw [List.getD_eq_getElem?_getD, List.getElem?_eq_getElem kBelow, Option.getD_some, atK]
    exact (Prod.mk.inj itemIds).2
  rw [refreshMark_eq_Fix hs.indexed hs.distinct kBelow uidAtK]
  have arranged : Arranged (marks (touched s.activeSessionIDs session.activeMark now))
      (touched s.activeSessionIDs session.activeMark now).length
      (touched s.activeSessionIDs session.activeMark now) :=
    ⟨List.Perm.refl _, rfl, indexed_touched hs.indexed _ _⟩
  have kBelow' : k < (touched s.activeSessionIDs session.activeMark now).length := by
    rw [length_touched]
    exact kBelow
  have fixed := arranged.Fix kBelow'
  have order : GoHeap.FixOrder timestampAt (touched s.activeSessionIDs session.activeMark now)
      (touched s.activeSessionIDs session.activeMark now).length k := by
    rw [length_touched]
    exact hs.heap.fixOrder fun j notK => timestampAt_touched hs.distinct kBelow uidAtK now notK
  have heap := GoHeap.Fix_isHeap timestampAt_keyed kBelow' order
  refine hs.withActive ?_ fixed.indexed ?_
  · rw [fixed.length]
    exact heap
  · rw [← markIds_touched s.activeSessionIDs session.activeMark now]
    exact markIds_perm fixed.perm

theorem SessionHeaps.GetSession
    {s : SessionManager}
    (hs : SessionHeaps s)
    (sid : String)
    (refresh : Bool)
    (nowMs : Int) :
    SessionHeaps (s.GetSession sid refresh nowMs).2 := by
  unfold SessionManager.GetSession getSessionAndVerifyRefresh
  cases found : s.sessions.lookup sid with
  | none => exact hs
  | some session =>
    cases refresh with
    | false => exact hs
    | true => exact hs.refresh found _

/-- Registering a new session under a free sid, with a fresh mark. -/
theorem SessionHeaps.create
    {s : SessionManager}
    (hs : SessionHeaps s)
    {sid : String}
    (absent : s.sessions.lookup sid = none)
    (sq : SessionQueue)
    (now : Int) :
    SessionHeaps
      { s with
        activeSessionIDs :=
          GoHeap.Push heapInterface s.activeSessionIDs (NewSessionIDItem sid now s.nextUid)
        sessions := s.sessions.insert sid ⟨sq, s.nextUid⟩
        nextUid := s.nextUid + 1 } := by
  have arranged := Arranged.Push hs.indexed (NewSessionIDItem sid now s.nextUid)
  have idsPerm : List.Perm
      (markIds (GoHeap.Push heapInterface s.activeSessionIDs (NewSessionIDItem sid now s.nextUid)))
      (markIds s.activeSessionIDs ++ [(sid, s.nextUid)]) := by
    rw [markIds_eq, markIds_eq]
    simpa [SessionIDItem.mark, NewSessionIDItem] using arranged.perm.map fun entry => (entry.1, entry.2.2)
  have newUid : s.nextUid ∉ (markIds s.activeSessionIDs).map Prod.snd := by
    intro mem
    obtain ⟨entry, entryMem, same⟩ := List.mem_map.mp mem
    exact Nat.lt_irrefl _ (same ▸ hs.fresh entry entryMem)
  refine ⟨hs.dead, GoHeap.Push_isHeap timestampAt_keyed hs.heap _, arranged.indexed, ?_, ?_, ?_⟩
  · rw [(idsPerm.map Prod.snd).nodup_iff, List.map_append, List.nodup_append]
    refine ⟨hs.distinct, List.nodup_singleton _, ?_⟩
    intro uid mem next nextMem
    rw [List.mem_singleton.mp nextMem]
    rintro rfl
    exact newUid mem
  · intro entry mem
    rcases List.mem_append.mp (idsPerm.subset mem) with old | new
    · exact Nat.lt_succ_of_lt (hs.fresh entry old)
    · rw [List.mem_singleton.mp new]
      exact Nat.lt_succ_self _
  · intro other mark found
    apply idsPerm.symm.subset
    by_cases same : other = sid
    · subst same
      simp only [markOf, AList.lookup_insert, Option.map_some, Option.some.injEq] at found
      rw [← found]
      exact List.mem_append_right _ (List.mem_singleton_self _)
    · have registered : s.markOf other = some mark := by
        simpa [markOf, AList.lookup_insert_ne same] using found
      exact List.mem_append_left _ (hs.registered other mark registered)

theorem SessionHeaps.createSessionQueue
    {s : SessionManager}
    (hs : SessionHeaps s)
    (sid : String)
    (nowMs : Int) :
    SessionHeaps (s.createSessionQueue sid nowMs).2 := by
  unfold SessionManager.createSessionQueue
  cases found : s.sessions.lookup sid with
  | some session => exact hs
  | none =>
    dsimp only
    split
    · exact hs
    · exact hs.create found _ _

theorem SessionHeaps.GetOrCreateSession
    {s : SessionManager}
    (hs : SessionHeaps s)
    (sid : String)
    (refresh : Bool)
    (nowMs : Int) :
    SessionHeaps (s.GetOrCreateSession sid refresh nowMs).2 := by
  unfold SessionManager.GetOrCreateSession
  have got := hs.GetSession sid refresh nowMs
  revert got
  rcases s.GetSession sid refresh nowMs with ⟨⟨sq?, err⟩, middle⟩
  intro got
  cases sq? with
  | some sq => exact got
  | none =>
    cases err with
    | some err => exact got
    | none => exact got.createSessionQueue sid nowMs

/-- Unregistering the session under `sid`, with a dead-sid set that stays
consistent and a heap of marks taken from the old ones: what `ReleaseSession`
and the cleaner do. -/
theorem SessionHeaps.unregister
    {s : SessionManager}
    (hs : SessionHeaps s)
    {sid : String}
    {dead : DeadSessionID}
    (deadConsistent : dead.Consistent)
    {pq : SessionIDPQ}
    (heap : GoHeap.IsHeap timestampAt pq pq.length)
    (indexed : Indexed pq)
    (distinct : ((markIds pq).map Prod.snd).Nodup)
    (taken : ∀ entry ∈ markIds pq, entry ∈ markIds s.activeSessionIDs)
    (kept : ∀ entry ∈ markIds s.activeSessionIDs, entry.1 ≠ sid → entry ∈ markIds pq) :
    SessionHeaps
      { s with deadSessionIDs := dead, activeSessionIDs := pq, sessions := s.sessions.erase sid } where
  dead := deadConsistent
  heap := heap
  indexed := indexed
  distinct := distinct
  fresh entry mem := hs.fresh entry (taken entry mem)
  registered other mark found := by
    have otherNe : other ≠ sid := by
      rintro rfl
      simp [markOf, AList.lookup_erase] at found
    have registered : s.markOf other = some mark := by
      simpa [markOf, AList.lookup_erase_ne otherNe] using found
    exact kept _ (hs.registered other mark registered) otherNe

theorem SessionHeaps.deleteSessionQueue
    {s : SessionManager}
    (hs : SessionHeaps s)
    (sid : String)
    (nowMs : Int) :
    SessionHeaps (s.deleteSessionQueue sid nowMs) :=
  hs.unregister (hs.dead.Push sid nowMs) hs.heap hs.indexed hs.distinct (fun _ mem => mem)
    (fun _ mem _ => mem)

/-- Popping the root mark and unregistering the session under its sid. -/
theorem SessionHeaps.popRoot
    {s : SessionManager}
    (hs : SessionHeaps s)
    (nonempty : 0 < s.activeSessionIDs.length)
    {dead : DeadSessionID}
    (deadConsistent : dead.Consistent) :
    SessionHeaps
      { s with
        deadSessionIDs := dead
        activeSessionIDs := (GoHeap.Pop heapInterface s.activeSessionIDs).2
        sessions := s.sessions.erase (s.activeSessionIDs.getD 0 default).sid } := by
  obtain ⟨rootMark, perm, indexed, -⟩ := Pop_spec hs.indexed nonempty
  have idsPerm : List.Perm
      (((s.activeSessionIDs.getD 0 default).sid, (s.activeSessionIDs.getD 0 default).uid) ::
        markIds (GoHeap.Pop heapInterface s.activeSessionIDs).2)
      (markIds s.activeSessionIDs) := by
    rw [markIds_eq, markIds_eq]
    have mapped := perm.map fun entry => (entry.1, entry.2.2)
    rw [rootMark] at mapped
    simpa [SessionIDItem.mark] using mapped
  have restDistinct := (List.nodup_cons.mp ((idsPerm.map Prod.snd).nodup_iff.mpr hs.distinct)).2
  refine hs.unregister deadConsistent (GoHeap.Pop_isHeap timestampAt_keyed hs.heap nonempty)
    indexed restDistinct (fun entry mem => idsPerm.subset (List.mem_cons_of_mem _ mem)) ?_
  intro entry mem otherSid
  rcases List.mem_cons.mp (idsPerm.symm.subset mem) with root | rest
  · exact absurd (congrArg Prod.fst root) otherSid
  · exact rest

/-- The cleaner's locked loop keeps the invariant while it has entries to pop. -/
theorem SessionHeaps.cleanInactiveLoop
    (currentTimestamp expireDuration nowMs : Int) :
    ∀ (count : Nat) (s : SessionManager) (inactive : List SessionQueue), SessionHeaps s →
      count ≤ s.activeSessionIDs.length →
      SessionHeaps (cleanInactiveLoop currentTimestamp expireDuration nowMs count s inactive).1 := by
  intro count
  induction count with
  | zero =>
    intro s inactive hs _
    exact hs
  | succ count inductionHypothesis =>
    intro s inactive hs enough
    have nonempty : 0 < s.activeSessionIDs.length := by omega
    obtain ⟨-, -, -, shorter⟩ := Pop_spec hs.indexed nonempty
    unfold SessionManager.cleanInactiveLoop
    dsimp only
    split
    · exact hs
    · split
      · exact inductionHypothesis _ _ (hs.popRoot nonempty (hs.dead.Push _ nowMs))
          (by dsimp only; omega)
      · exact inductionHypothesis _ _ (hs.popRoot nonempty hs.dead) (by dsimp only; omega)

theorem heapsOf_releaseQueues :
    ∀ (queues : List SessionQueue) (s : SessionManager),
      heapsOf (s.releaseQueues queues) = heapsOf s
  | [], _ => rfl
  | sq :: rest, s => by
    rw [releaseQueues, heapsOf_releaseQueues rest, heapsOf_releaseBytes]

theorem SessionHeaps.cleanInactiveSession
    {s : SessionManager}
    (hs : SessionHeaps s)
    (nowMs : Int) :
    SessionHeaps (s.cleanInactiveSession nowMs) := by
  unfold SessionManager.cleanInactiveSession
  dsimp only
  have loop := SessionHeaps.cleanInactiveLoop (s.normalizedNowTimestamp nowMs)
    (s.config.sessionExpireSeconds.tdiv s.config.normalizeActiveSeconds) nowMs _ s [] hs
    (Nat.min_le_left _ cleanStep)
  generalize SessionManager.cleanInactiveLoop (s.normalizedNowTimestamp nowMs)
    (s.config.sessionExpireSeconds.tdiv s.config.normalizeActiveSeconds) nowMs
    (min s.activeSessionIDs.length cleanStep) s [] = result at loop ⊢
  obtain ⟨middle, inactive⟩ := result
  exact loop.congr (heapsOf_releaseQueues inactive middle)

theorem SessionHeaps.cleanDeadSessionIDs
    {s : SessionManager}
    (hs : SessionHeaps s)
    (nowMs : Int) :
    SessionHeaps (s.cleanDeadSessionIDs nowMs) :=
  { hs with
    dead := (DeadSessionID.cleanLoop_cleaned nowMs _ s.deadSessionIDs hs.dead
      (Nat.min_le_left _ cleanStep)).consistent }

/-- What a queue operation does after `GetOrCreateSession`: write the queue
back and move bytes between the counters, none of which the heaps read. -/
theorem heapsOf_Push
    (s : SessionManager)
    (sid topic : String)
    (message : Message)
    (timeout nowMs : Int) :
    heapsOf (s.Push sid topic message timeout nowMs).2 =
      heapsOf (s.GetOrCreateSession sid false nowMs).2 := by
  unfold SessionManager.Push
  rcases s.GetOrCreateSession sid false nowMs with ⟨result, middle⟩
  cases result with
  | error err => rfl
  | ok sq =>
    dsimp only
    rcases middle.memControl.Prefetch message.ByteSize timeout with ⟨⟨ok, leftTimeout⟩, mc⟩
    cases ok with
    | false => rfl
    | true =>
      dsimp only
      rcases sq.Push topic message with ⟨err, sq'⟩
      cases err with
      | some err => exact heapsOf_setQueue { middle with memControl := mc } sid sq'
      | none => exact heapsOf_setQueue { middle with memControl := mc } sid sq'

theorem heapsOf_Pop
    (s : SessionManager)
    (sid topic : String)
    (nowMs : Int) :
    heapsOf (s.Pop sid topic nowMs).2 = heapsOf (s.GetOrCreateSession sid true nowMs).2 := by
  unfold SessionManager.Pop
  rcases s.GetOrCreateSession sid true nowMs with ⟨result, middle⟩
  cases result with
  | error err => rfl
  | ok sq =>
    dsimp only
    rcases sq.Pop topic with ⟨⟨message, err⟩, sq'⟩
    cases message with
    | some message => exact heapsOf_setQueue middle sid sq'
    | none => exact heapsOf_setQueue middle sid sq'

theorem heapsOf_Peek
    (s : SessionManager)
    (sid topic : String)
    (nowMs : Int) :
    heapsOf (s.Peek sid topic nowMs).2 = heapsOf (s.GetOrCreateSession sid true nowMs).2 := by
  unfold SessionManager.Peek
  rcases s.GetOrCreateSession sid true nowMs with ⟨result, middle⟩
  cases result with
  | error err => rfl
  | ok sq =>
    dsimp only
    rcases sq.Peek topic with ⟨⟨message, err⟩, sq'⟩
    cases message with
    | some message => exact heapsOf_setQueue middle sid sq'
    | none => exact heapsOf_setQueue middle sid sq'

theorem heapsOf_ReleaseTopic
    (s : SessionManager)
    (sid topic : String)
    (nowMs : Int) :
    heapsOf (s.ReleaseTopic sid topic nowMs) = heapsOf (s.GetSession sid false nowMs).2 := by
  unfold SessionManager.ReleaseTopic
  rcases s.GetSession sid false nowMs with ⟨⟨found, err⟩, middle⟩
  cases found with
  | none => rfl
  | some sq =>
    dsimp only
    rw [heapsOf_releaseBytes, heapsOf_setQueue]

theorem SessionHeaps.ReleaseSession
    {s : SessionManager}
    (hs : SessionHeaps s)
    (sid : String)
    (nowMs : Int) :
    SessionHeaps (s.ReleaseSession sid nowMs) := by
  unfold SessionManager.ReleaseSession
  have got := hs.GetSession sid false nowMs
  revert got
  rcases s.GetSession sid false nowMs with ⟨⟨found, err⟩, middle⟩
  intro got
  cases found with
  | none => exact got
  | some sq => exact (got.deleteSessionQueue sid nowMs).congr (heapsOf_releaseBytes _ _)

/-- Every call keeps both heaps what their cleaners rely on. -/
theorem SessionHeaps.step
    {s : SessionManager}
    (hs : SessionHeaps s)
    (op : Op) :
    SessionHeaps (s.step op) := by
  cases op with
  | push sid topic message timeout nowMs =>
    exact (hs.GetOrCreateSession sid false nowMs).congr (heapsOf_Push s sid topic message timeout nowMs)
  | pop sid topic nowMs =>
    exact (hs.GetOrCreateSession sid true nowMs).congr (heapsOf_Pop s sid topic nowMs)
  | peek sid topic nowMs =>
    exact (hs.GetOrCreateSession sid true nowMs).congr (heapsOf_Peek s sid topic nowMs)
  | releaseTopic sid topic nowMs =>
    exact (hs.GetSession sid false nowMs).congr (heapsOf_ReleaseTopic s sid topic nowMs)
  | releaseSession sid nowMs => exact hs.ReleaseSession sid nowMs
  | cleanInactiveSession nowMs => exact hs.cleanInactiveSession nowMs
  | cleanDeadSessionIDs nowMs => exact hs.cleanDeadSessionIDs nowMs

theorem SessionHeaps.run
    {s : SessionManager}
    (hs : SessionHeaps s) :
    ∀ ops, SessionHeaps (s.run ops) := by
  intro ops
  induction ops generalizing s with
  | nil => exact hs
  | cons op rest inductionHypothesis => exact inductionHypothesis (hs.step op)

theorem NewSessionManager_sessionHeaps
    (config : Config) :
    SessionHeaps (NewSessionManager config) where
  dead := DeadSessionID.NewDeadSessionID_consistent config
  heap c _ below := absurd below (Nat.not_lt_zero c)
  indexed k below := absurd below (Nat.not_lt_zero k)
  distinct := List.nodup_nil
  fresh entry mem := absurd mem List.not_mem_nil
  registered sid mark found := by simp [markOf, NewSessionManager] at found

end SessionManager

/-- Over every sequential run from `NewSessionManager`, both heaps are what
their cleaners rely on. -/
theorem session_heaps_consistent
    (config : Config)
    (ops : List Op) :
    SessionManager.SessionHeaps ((NewSessionManager config).run ops) :=
  (SessionManager.NewSessionManager_sessionHeaps config).run ops

end Kuscia.Msq
