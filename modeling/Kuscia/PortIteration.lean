import Mathlib
import Kuscia.PortChoose
import Kuscia.CyclicScan

namespace Kuscia.PortFlake

/-!
# The iteration scan over a list of segments

`ChoosePortByIteration` walks the ports of a segment list in order, segment
after segment and from the last segment back to the first, starting after a
base port.  Each port of the list, with the index of its segment, is a
position of that walk (`SegmentList.positions`).  When the segments are
non-empty and do not overlap, one step of the scan moves from each position to
the next one around the list (`advance_positions`), so `Count()` steps come
back to the base; the scan is then the search, in that order, of the positions
after the base (`ChoosePortByIteration_eq_find?`), through `Cyclic.scanLoop`.
-/

/-- The ports of the segments from index `idx` on, each with its segment's index. -/
def positionsFrom : List Segment → Nat → List (Int × Nat)
  | [], _ => []
  | s :: rest, idx =>
    (List.range s.numberPorts.toNat).map (fun (k : Nat) => (s.min + k, idx)) ++
      positionsFrom rest (idx + 1)

/-- The positions of the scan: every port of the list with its segment's index,
in the order of the segments. -/
def SegmentList.positions (sl : SegmentList) : List (Int × Nat) :=
  positionsFrom sl.segments 0

/-- The positions after a base, in the cyclic order of the list, up to the base. -/
def SegmentList.positionsAfter (sl : SegmentList) (basePort : Int) (basePortIdx : Nat) :
    List (Int × Nat) :=
  (sl.positions.rotate (sl.positions.idxOf (basePort, basePortIdx) + 1)).take
    (sl.positions.length - 1)

/-- Segments no two of which share a port. -/
def Disjoint (segments : List Segment) : Prop :=
  segments.Pairwise fun s t => s.max ≤ t.min ∨ t.max ≤ s.min

instance (segments : List Segment) : Decidable (Disjoint segments) :=
  inferInstanceAs (Decidable (segments.Pairwise _))

/-- The scan of `ChoosePortByIteration` as a scan of positions. -/
def portScan (segmentList : SegmentList) (checkPortValid : Int → Bool) (basePort : Int) :
    Nat → Int × Nat → (Int × Nat) × Bool :=
  Cyclic.scanLoop (fun position => advance segmentList position.1 position.2)
    (fun position => decide (position.1 = basePort)) (fun position => checkPortValid position.1)

/-! ## Positions -/

theorem positionsFrom_append
    (front back : List Segment) :
    ∀ idx, positionsFrom (front ++ back) idx =
      positionsFrom front idx ++ positionsFrom back (idx + front.length) := by
  induction front with
  | nil =>
    intro idx
    rfl
  | cons s rest inductionHypothesis =>
    intro idx
    simp only [List.cons_append, positionsFrom, inductionHypothesis, List.append_assoc,
      List.length_cons]
    congr 3
    omega

theorem length_positionsFrom :
    ∀ (segments : List Segment) (idx : Nat),
      (positionsFrom segments idx).length = (segments.map fun s => s.numberPorts.toNat).sum := by
  intro segments
  induction segments with
  | nil =>
    intro idx
    rfl
  | cons s rest inductionHypothesis =>
    intro idx
    simp [positionsFrom, inductionHypothesis]

/-- A position is a port of the segment of its index. -/
theorem mem_positionsFrom
    {port : Int}
    {j : Nat} :
    ∀ (segments : List Segment) (idx : Nat),
      (port, j) ∈ positionsFrom segments idx ↔
        idx ≤ j ∧ ∃ s, segments[j - idx]? = some s ∧ s.min ≤ port ∧ port < s.max := by
  intro segments
  induction segments with
  | nil =>
    intro idx
    simp [positionsFrom]
  | cons s rest inductionHypothesis =>
    intro idx
    simp only [positionsFrom, List.mem_append, List.mem_map, List.mem_range, Prod.mk.injEq,
      inductionHypothesis, Segment.numberPorts]
    constructor
    · rintro (⟨k, below, rfl, rfl⟩ | ⟨later, t, found, within⟩)
      · exact ⟨le_refl _, s, by simp, by omega, by omega⟩
      · refine ⟨by omega, t, ?_, within⟩
        rw [show j - idx = (j - (idx + 1)) + 1 by omega]
        exact found
    · rintro ⟨atLeast, t, found, within⟩
      rcases Nat.eq_or_lt_of_le atLeast with rfl | later
      · simp only [Nat.sub_self, List.getElem?_cons_zero, Option.some_inj] at found
        subst found
        exact .inl ⟨(port - s.min).toNat, by omega, by omega, rfl⟩
      · refine .inr ⟨later, t, ?_, within⟩
        rw [show j - idx = (j - (idx + 1)) + 1 by omega] at found
        exact found

/-- The ports of the positions are the members of the list. -/
theorem map_fst_positionsFrom :
    ∀ (segments : List Segment) (idx : Nat),
      (positionsFrom segments idx).map Prod.fst =
        segments.flatMap fun (s : Segment) =>
          (List.range s.numberPorts.toNat).map fun (k : Nat) => s.min + k := by
  intro segments
  induction segments with
  | nil =>
    intro idx
    rfl
  | cons s rest inductionHypothesis =>
    intro idx
    simp [positionsFrom, inductionHypothesis]

theorem map_fst_positions
    (sl : SegmentList) :
    sl.positions.map Prod.fst = sl.members :=
  map_fst_positionsFrom sl.segments 0

/-- No two segments share a port, so no port is listed twice. -/
theorem nodup_members
    {sl : SegmentList}
    (disjoint : Disjoint sl.segments) :
    sl.members.Nodup := by
  rw [SegmentList.members, List.nodup_flatMap]
  refine ⟨fun s _ => ?_, disjoint.imp ?_⟩
  · apply List.nodup_range.map
    intro a b same
    simpa using same
  · intro s t apart x inS inT
    simp only [List.mem_map, List.mem_range, Segment.numberPorts] at inS inT
    obtain ⟨k, kBelow, rfl⟩ := inS
    obtain ⟨k', k'Below, same⟩ := inT
    omega

/-! ## One step of the scan -/

section Step

variable {sl : SegmentList}

/-- The segment at an index, from the list's suffix there. -/
theorem segmentAt_of_drop
    {idx : Nat}
    {s : Segment}
    {rest : List Segment}
    (dropped : sl.segments.drop idx = s :: rest) :
    sl.segmentAt idx = s ∧ sl.segments.length = idx + rest.length + 1 := by
  have lengthIs := congrArg List.length dropped
  rw [List.length_drop, List.length_cons] at lengthIs
  have found : sl.segments[idx]? = some s := by
    rw [← Nat.add_zero idx, ← List.getElem?_drop, dropped]
    rfl
  refine ⟨?_, by omega⟩
  simp [SegmentList.segmentAt, List.getD_eq_getElem?_getD, found]

/-- A non-empty segment has ports. -/
theorem numberPorts_pos
    {s : Segment}
    (nonEmpty : s.min < s.max) :
    0 < s.numberPorts.toNat := by
  simp only [Segment.numberPorts]
  omega

/-- The first position of the segments from an index on is the first port of
the segment there. -/
theorem positionsFrom_cons_zero
    {s : Segment}
    (nonEmpty : s.min < s.max)
    (rest : List Segment)
    (idx : Nat) :
    (positionsFrom (s :: rest) idx)[0]? = some (s.min, idx) := by
  have inBlock : 0 < ((List.range s.numberPorts.toNat).map
      fun (k : Nat) => (s.min + k, idx)).length := by
    simpa using numberPorts_pos nonEmpty
  rw [positionsFrom, List.getElem?_append_left inBlock]
  simp [List.getElem?_range (numberPorts_pos nonEmpty)]

variable (nonEmpty : ∀ s ∈ sl.segments, s.min < s.max)
include nonEmpty

/-- Inside the list, one step of the scan moves to the next position: the next
port of the segment, or the first port of the next segment. -/
theorem advance_positionsFrom :
    ∀ (rest : List Segment) (idx : Nat), sl.segments.drop idx = rest →
      ∀ m, m + 1 < (positionsFrom rest idx).length → ∀ x, (positionsFrom rest idx)[m]? = some x →
        (positionsFrom rest idx)[m + 1]? = some (advance sl x.1 x.2) := by
  intro rest
  -- the suffix of the list shrinks segment by segment, so its index is generalised
  induction rest with
  | nil =>
    intro idx _ m next
    simp [positionsFrom] at next
  | cons s rest inductionHypothesis =>
    intro idx dropped m next x found
    obtain ⟨segmentIs, lengthIs⟩ := segmentAt_of_drop dropped
    have sNonEmpty := nonEmpty s (List.mem_of_mem_drop (dropped ▸ List.mem_cons_self))
    have droppedNext : sl.segments.drop (idx + 1) = rest := by
      rw [← List.drop_drop, dropped]
      rfl
    have blockLength : ((List.range s.numberPorts.toNat).map
        fun (k : Nat) => (s.min + k, idx)).length = s.numberPorts.toNat := by
      simp
    simp only [positionsFrom, List.length_append, blockLength] at found next ⊢
    rcases Nat.lt_or_ge (m + 1) s.numberPorts.toNat with inBlock | pastBlock
    · -- the next port of the same segment
      rw [List.getElem?_append_left (by rw [blockLength]; omega)] at found
      rw [List.getElem?_append_left (by rw [blockLength]; omega)]
      simp only [List.getElem?_map, List.getElem?_range (by omega : m < s.numberPorts.toNat),
        List.getElem?_range inBlock, Option.map_some, Option.some_inj] at found ⊢
      subst found
      simp only [Segment.numberPorts] at inBlock
      simp only [advance, segmentIs]
      rw [if_neg (by omega)]
      push_cast
      ring_nf
    rcases Nat.eq_or_lt_of_le pastBlock with atEnd | later
    · -- from the last port of the segment to the first port of the next one
      rw [List.getElem?_append_left (by rw [blockLength]; omega)] at found
      rw [List.getElem?_append_right (by rw [blockLength]; omega), blockLength,
        show m + 1 - s.numberPorts.toNat = 0 by omega]
      simp only [List.getElem?_map, List.getElem?_range (by omega : m < s.numberPorts.toNat),
        Option.map_some, Option.some_inj] at found
      subst found
      obtain ⟨t, rest', rfl⟩ : ∃ t rest', rest = t :: rest' := by
        cases rest with
        | nil => simp [positionsFrom] at next; omega
        | cons t rest' => exact ⟨t, rest', rfl⟩
      have tNonEmpty := nonEmpty t (List.mem_of_mem_drop (droppedNext ▸ List.mem_cons_self))
      obtain ⟨nextSegmentIs, -⟩ := segmentAt_of_drop droppedNext
      simp only [List.length_cons] at lengthIs
      simp only [Segment.numberPorts] at atEnd
      simp only [advance, segmentIs]
      rw [if_pos (by omega), if_neg (by omega), nextSegmentIs]
      exact positionsFrom_cons_zero tNonEmpty rest' (idx + 1)
    · -- both positions lie in the later segments
      rw [List.getElem?_append_right (by rw [blockLength]; omega), blockLength] at found
      rw [List.getElem?_append_right (by rw [blockLength]; omega), blockLength,
        show m + 1 - s.numberPorts.toNat = (m - s.numberPorts.toNat) + 1 by omega]
      exact inductionHypothesis (idx + 1) droppedNext _ (by omega) x found

/-- From the last port of the list the scan wraps to the first port of the
first segment. -/
theorem advance_positions_last
    (hasSegment : sl.segments ≠ [])
    {x : Int × Nat}
    (last : sl.positions[sl.positions.length - 1]? = some x) :
    sl.positions[0]? = some (advance sl x.1 x.2) := by
  obtain ⟨front, s, segmentsIs⟩ := (List.eq_nil_or_concat sl.segments).resolve_left hasSegment
  rw [List.concat_eq_append] at segmentsIs
  have sNonEmpty := nonEmpty s (by rw [segmentsIs]; simp)
  have dropped : sl.segments.drop front.length = [s] := by
    rw [segmentsIs, List.drop_left]
  obtain ⟨segmentIs, lengthIs⟩ := segmentAt_of_drop dropped
  -- the last position is the last port of the last segment
  have blockLength : ((List.range s.numberPorts.toNat).map
      fun (k : Nat) => (s.min + k, front.length)).length = s.numberPorts.toNat := by
    simp
  have positionsIs : sl.positions = positionsFrom front 0 ++
      ((List.range s.numberPorts.toNat).map fun (k : Nat) => (s.min + k, front.length)) := by
    rw [SegmentList.positions, segmentsIs, positionsFrom_append, zero_add, positionsFrom,
      positionsFrom, List.append_nil]
  have sPorts := numberPorts_pos sNonEmpty
  rw [positionsIs, List.length_append, blockLength,
    List.getElem?_append_right (by omega),
    show (positionsFrom front 0).length + s.numberPorts.toNat - 1 - (positionsFrom front 0).length =
      s.numberPorts.toNat - 1 by omega,
    List.getElem?_map, List.getElem?_range (by omega), Option.map_some, Option.some_inj] at last
  subst last
  obtain ⟨first, rest, segmentsCons⟩ := List.exists_cons_of_ne_nil hasSegment
  have firstNonEmpty := nonEmpty first (by rw [segmentsCons]; exact List.mem_cons_self)
  obtain ⟨firstIs, -⟩ := segmentAt_of_drop
    (show sl.segments.drop 0 = first :: rest by rw [List.drop_zero, segmentsCons])
  simp only [Segment.numberPorts] at sPorts
  simp only [List.length_nil] at lengthIs
  simp only [advance, segmentIs, Segment.numberPorts]
  rw [if_pos (by omega), if_pos (by omega), firstIs, SegmentList.positions, segmentsCons]
  exact positionsFrom_cons_zero firstNonEmpty rest 0

/-- One step of the scan moves from each position to the next one around the
list. -/
theorem advance_positions
    {m : Nat}
    (inRange : m < sl.positions.length)
    {x : Int × Nat}
    (found : sl.positions[m]? = some x) :
    sl.positions[(m + 1) % sl.positions.length]? = some (advance sl x.1 x.2) := by
  rcases Nat.lt_or_ge (m + 1) sl.positions.length with inside | atEnd
  · rw [Nat.mod_eq_of_lt inside]
    exact advance_positionsFrom nonEmpty sl.segments 0 (List.drop_zero) m inside x found
  · have isLast : m = sl.positions.length - 1 := by
      omega
    have hasSegment : sl.segments ≠ [] := by
      intro noSegment
      simp [SegmentList.positions, noSegment, positionsFrom] at inRange
    rw [show m + 1 = sl.positions.length by omega, Nat.mod_self]
    rw [isLast] at found
    exact advance_positions_last nonEmpty hasSegment found

/-- After `n` steps from a position the scan stands `n` positions further
around the list. -/
theorem iterate_advance_positions
    {b : Nat}
    (inRange : b < sl.positions.length)
    {base : Int × Nat}
    (found : sl.positions[b]? = some base) :
    ∀ n, sl.positions[(b + n) % sl.positions.length]? =
      some ((fun position => advance sl position.1 position.2)^[n] base) := by
  intro n
  induction n with
  | zero =>
    rw [Nat.add_zero, Nat.mod_eq_of_lt inRange]
    exact found
  | succ n inductionHypothesis =>
    have positive : 0 < sl.positions.length := by
      omega
    rw [Function.iterate_succ_apply',
      show (b + (n + 1)) % sl.positions.length =
        ((b + n) % sl.positions.length + 1) % sl.positions.length by
        rw [Nat.mod_add_mod, Nat.add_assoc]]
    exact advance_positions nonEmpty (Nat.mod_lt _ positive) inductionHypothesis

end Step

/-- Two positions with the same port are the same position. -/
theorem eq_of_port_eq
    {sl : SegmentList}
    (disjoint : Disjoint sl.segments)
    {a b : Nat}
    (inRange : a < sl.positions.length)
    {x y : Int × Nat}
    (xAt : sl.positions[a]? = some x)
    (yAt : sl.positions[b]? = some y)
    (samePort : x.1 = y.1) :
    a = b := by
  have nodup : (sl.positions.map Prod.fst).Nodup := by
    rw [map_fst_positions]
    exact nodup_members disjoint
  apply (List.getElem?_inj (by simpa using inRange) nodup).mp
  rw [List.getElem?_map, List.getElem?_map, xAt, yAt, Option.map_some, Option.map_some, samePort]

/-- The count of a list of non-empty segments is its number of positions. -/
theorem count_NewSegmentList
    {segments : List Segment}
    (nonEmpty : ∀ s ∈ segments, s.min < s.max) :
    (NewSegmentList segments).count.toNat = (NewSegmentList segments).positions.length := by
  have sizes : ∀ segments : List Segment, (∀ s ∈ segments, s.min < s.max) →
      (segments.map Segment.numberPorts).sum =
        ((segments.map fun s => s.numberPorts.toNat).sum : Nat) := by
    intro segments
    induction segments with
    | nil =>
      intro _
      rfl
    | cons s rest inductionHypothesis =>
      intro allNonEmpty
      have sPorts := numberPorts_pos (allNonEmpty s List.mem_cons_self)
      simp only [List.map_cons, List.sum_cons, Nat.cast_add,
        inductionHypothesis fun t member => allNonEmpty t (List.mem_cons_of_mem s member)]
      omega
  rw [NewSegmentList, SegmentList.positions, length_positionsFrom]
  dsimp only
  rw [sizes segments nonEmpty, Int.toNat_natCast]

/-- The loop of `ChoosePortByIteration` is the scan of positions. -/
theorem iterationLoop_eq_portScan
    (segmentList : SegmentList)
    (checkPortValid : Int → Bool)
    (basePort : Int) :
    ∀ remaining retPort retPortIdx,
      iterationLoop segmentList checkPortValid basePort remaining retPort retPortIdx =
        ((portScan segmentList checkPortValid basePort remaining (retPort, retPortIdx)).1.1,
          (portScan segmentList checkPortValid basePort remaining (retPort, retPortIdx)).1.2,
          (portScan segmentList checkPortValid basePort remaining (retPort, retPortIdx)).2) := by
  intro remaining
  induction remaining with
  | zero =>
    intro retPort retPortIdx
    rfl
  | succ remaining inductionHypothesis =>
    intro retPort retPortIdx
    simp only [iterationLoop, portScan, Cyclic.scanLoop]
    by_cases atBase : (advance segmentList retPort retPortIdx).1 = basePort
    · simp [atBase]
    · cases valid : checkPortValid (advance segmentList retPort retPortIdx).1
      · simp only [atBase, decide_false, if_false, Bool.false_eq_true]
        exact inductionHypothesis _ _
      · simp [atBase]

/-! ## The scan from a base port -/

section FromBase

variable {segments : List Segment} {basePortIdx : Nat} {baseSegment : Segment} {basePort : Int}

/-- The base port, with its segment's index, is a position of the list. -/
theorem base_mem_positions
    (baseSegmentIs : segments[basePortIdx]? = some baseSegment)
    (baseIn : baseSegment.min ≤ basePort ∧ basePort < baseSegment.max) :
    (basePort, basePortIdx) ∈ (NewSegmentList segments).positions :=
  (mem_positionsFrom segments 0).mpr ⟨Nat.zero_le _, baseSegment, by simpa using baseSegmentIs, baseIn⟩

/-- The positions after the base are the `n - 1` positions the scan walks
through before it is back at the base. -/
theorem orbit_eq_positionsAfter
    {sl : SegmentList}
    (nonEmpty : ∀ s ∈ sl.segments, s.min < s.max)
    (baseMember : (basePort, basePortIdx) ∈ sl.positions) :
    Cyclic.orbit (fun position => advance sl position.1 position.2) (basePort, basePortIdx)
        (sl.positions.length - 1) =
      sl.positionsAfter basePort basePortIdx := by
  have baseAt := List.idxOf_lt_length_iff.mpr baseMember
  have baseFound : sl.positions[sl.positions.idxOf (basePort, basePortIdx)]? =
      some (basePort, basePortIdx) := by
    rw [List.getElem?_eq_getElem baseAt, List.getElem_idxOf baseAt]
  apply List.ext_getElem
  · simp [Cyclic.length_orbit, SegmentList.positionsAfter]
  · intro k inOrbit inAfter
    rw [Cyclic.getElem_orbit]
    simp only [SegmentList.positionsAfter, List.getElem_take, List.getElem_rotate]
    -- both stand `k + 1` positions after the base
    have walked := iterate_advance_positions nonEmpty baseAt baseFound (k + 1)
    rw [show sl.positions.idxOf (basePort, basePortIdx) + (k + 1) =
      k + (sl.positions.idxOf (basePort, basePortIdx) + 1) by omega,
      List.getElem?_eq_getElem (Nat.mod_lt _ (by omega)), Option.some_inj] at walked
    exact walked.symm

/-- The positions after the base, followed by the base, go once around the list. -/
theorem positionsAfter_append_base
    {sl : SegmentList}
    (baseMember : (basePort, basePortIdx) ∈ sl.positions) :
    sl.positionsAfter basePort basePortIdx ++ [(basePort, basePortIdx)] =
      sl.positions.rotate (sl.positions.idxOf (basePort, basePortIdx) + 1) := by
  have baseAt := List.idxOf_lt_length_iff.mpr baseMember
  have rotatedNonEmpty : sl.positions.rotate (sl.positions.idxOf (basePort, basePortIdx) + 1) ≠ [] := by
    rw [Ne, ← List.length_eq_zero_iff, List.length_rotate]
    omega
  -- the last of the rotated positions is the base
  have lastIsBase : (sl.positions.rotate (sl.positions.idxOf (basePort, basePortIdx) + 1)).getLast
      rotatedNonEmpty = (basePort, basePortIdx) := by
    rw [List.getLast_eq_getElem, List.getElem_rotate]
    simp only [List.length_rotate,
      show sl.positions.length - 1 + (sl.positions.idxOf (basePort, basePortIdx) + 1) =
        sl.positions.idxOf (basePort, basePortIdx) + sl.positions.length by omega,
      Nat.add_mod_right, Nat.mod_eq_of_lt baseAt, List.getElem_idxOf baseAt]
  have afterIsDropLast : sl.positionsAfter basePort basePortIdx =
      (sl.positions.rotate (sl.positions.idxOf (basePort, basePortIdx) + 1)).dropLast := by
    rw [SegmentList.positionsAfter, List.dropLast_eq_take, List.length_rotate]
  calc sl.positionsAfter basePort basePortIdx ++ [(basePort, basePortIdx)]
      = (sl.positions.rotate (sl.positions.idxOf (basePort, basePortIdx) + 1)).dropLast ++
          [(sl.positions.rotate (sl.positions.idxOf (basePort, basePortIdx) + 1)).getLast
            rotatedNonEmpty] := by
        rw [afterIsDropLast, lastIsBase]
    _ = sl.positions.rotate (sl.positions.idxOf (basePort, basePortIdx) + 1) :=
        List.dropLast_append_getLast rotatedNonEmpty

/-- No two positions share a port. -/
theorem eq_of_mem_positions
    {sl : SegmentList}
    (disjoint : Disjoint sl.segments)
    {x y : Int × Nat}
    (xMember : x ∈ sl.positions)
    (yMember : y ∈ sl.positions)
    (samePort : x.1 = y.1) :
    x = y := by
  have nodup : (sl.positions.map Prod.fst).Nodup := by
    rw [map_fst_positions]
    exact nodup_members disjoint
  exact List.inj_on_of_nodup_map nodup xMember yMember samePort

/-- The positions after the base are the positions with another port. -/
theorem mem_positionsAfter
    {sl : SegmentList}
    (disjoint : Disjoint sl.segments)
    (baseMember : (basePort, basePortIdx) ∈ sl.positions)
    {x : Int × Nat} :
    x ∈ sl.positionsAfter basePort basePortIdx ↔ x ∈ sl.positions ∧ x.1 ≠ basePort := by
  have aroundPerm := (List.rotate_perm sl.positions
    (sl.positions.idxOf (basePort, basePortIdx) + 1)).symm
  rw [← positionsAfter_append_base baseMember] at aroundPerm
  have nodup : (sl.positionsAfter basePort basePortIdx ++ [(basePort, basePortIdx)]).Nodup := by
    apply aroundPerm.nodup_iff.mp
    apply List.Nodup.of_map Prod.fst
    rw [map_fst_positions]
    exact nodup_members disjoint
  constructor
  · intro member
    have positionMember := aroundPerm.mem_iff.mpr (List.mem_append_left _ member)
    refine ⟨positionMember, ?_⟩
    intro samePort
    have isBase := eq_of_mem_positions disjoint positionMember baseMember samePort
    subst isBase
    exact List.disjoint_of_nodup_append nodup member (List.mem_singleton_self _)
  · rintro ⟨member, otherPort⟩
    rcases List.mem_append.mp (aroundPerm.mem_iff.mp member) with after | isBase
    · exact after
    · rw [List.mem_singleton] at isBase
      subst isBase
      exact absurd rfl otherPort

variable (nonEmpty : ∀ s ∈ segments, s.min < s.max) (disjoint : Disjoint segments)
  (baseSegmentIs : segments[basePortIdx]? = some baseSegment)
  (baseIn : baseSegment.min ≤ basePort ∧ basePort < baseSegment.max)
include nonEmpty disjoint baseSegmentIs baseIn

/-- `ChoosePortByIteration` searches the positions after the base in the
list's cyclic order: it returns the first with a valid port, or the base. -/
theorem ChoosePortByIteration_eq_find?
    (checkPortValid : Int → Bool) :
    ChoosePortByIteration (NewSegmentList segments) checkPortValid basePort basePortIdx =
      match ((NewSegmentList segments).positionsAfter basePort basePortIdx).find?
          (fun position => checkPortValid position.1) with
      | some (port, portIdx) => (port, portIdx, true)
      | none => (basePort, basePortIdx, false) := by
  have baseMember := base_mem_positions baseSegmentIs baseIn
  have baseAt := List.idxOf_lt_length_iff.mpr baseMember
  have baseFound : (NewSegmentList segments).positions[
      (NewSegmentList segments).positions.idxOf (basePort, basePortIdx)]? =
        some (basePort, basePortIdx) := by
    rw [List.getElem?_eq_getElem baseAt, List.getElem_idxOf baseAt]
  have walked := iterate_advance_positions nonEmpty baseAt baseFound
  -- the scan meets the base port again only after going once around the list
  have beforeBase : ∀ j, 0 < j → j < (NewSegmentList segments).positions.length →
      decide (((fun position => advance (NewSegmentList segments) position.1 position.2)^[j]
        (basePort, basePortIdx)).1 = basePort) = false := by
    intro j positive below
    rw [decide_eq_false_iff_not]
    intro samePort
    have same := eq_of_port_eq disjoint (Nat.mod_lt _ (by omega)) (walked j) baseFound samePort
    rcases Nat.lt_or_ge (List.idxOf (basePort, basePortIdx) (NewSegmentList segments).positions + j)
      (NewSegmentList segments).positions.length with inside | wrapped
    · rw [Nat.mod_eq_of_lt inside] at same
      omega
    · rw [Nat.mod_eq_sub_mod wrapped, Nat.mod_eq_of_lt (by omega)] at same
      omega
  have backAtBase : (fun position => advance (NewSegmentList segments) position.1 position.2)^[
      (NewSegmentList segments).positions.length] (basePort, basePortIdx) = (basePort, basePortIdx) := by
    have around := walked (NewSegmentList segments).positions.length
    rw [Nat.add_mod_right, Nat.mod_eq_of_lt baseAt, baseFound, Option.some_inj] at around
    exact around.symm
  have positive : 0 < (NewSegmentList segments).positions.length := by
    omega
  rw [ChoosePortByIteration, count_NewSegmentList nonEmpty, iterationLoop_eq_portScan, portScan,
    Cyclic.scanLoop_eq_find? _ _ positive beforeBase (by rw [backAtBase]; simp),
    orbit_eq_positionsAfter nonEmpty baseMember, backAtBase]
  cases ((NewSegmentList segments).positionsAfter basePort basePortIdx).find?
    (fun position => checkPortValid position.1) <;> rfl

theorem ChoosePortByIteration_complete
    (checkPortValid : Int → Bool)
    {port : Int}
    {portIdx : Nat}
    {ok : Bool}
    (chosen : ChoosePortByIteration (NewSegmentList segments) checkPortValid basePort basePortIdx =
      (port, portIdx, ok)) :
    (ok = true ↔ ∃ q ∈ (NewSegmentList segments).members, q ≠ basePort ∧ checkPortValid q = true) ∧
      (ok = true → checkPortValid port = true ∧
        (∃ s, segments[portIdx]? = some s ∧ s.min ≤ port ∧ port < s.max) ∧
        ((NewSegmentList segments).positionsAfter basePort basePortIdx).find?
          (fun position => checkPortValid position.1) = some (port, portIdx)) ∧
      (ok = false → port = basePort ∧ portIdx = basePortIdx) := by
  have baseMember := base_mem_positions baseSegmentIs baseIn
  have listDisjoint : Disjoint (NewSegmentList segments).segments := disjoint
  -- a port of the list other than the base is the port of a position after the base
  have otherPorts : ∀ q, (q ∈ (NewSegmentList segments).members ∧ q ≠ basePort) ↔
      ∃ x ∈ (NewSegmentList segments).positionsAfter basePort basePortIdx, x.1 = q := by
    intro q
    rw [← map_fst_positions, List.mem_map]
    constructor
    · rintro ⟨⟨x, member, rfl⟩, otherPort⟩
      exact ⟨x, (mem_positionsAfter listDisjoint baseMember).mpr ⟨member, otherPort⟩, rfl⟩
    · rintro ⟨x, after, rfl⟩
      obtain ⟨member, otherPort⟩ := (mem_positionsAfter listDisjoint baseMember).mp after
      exact ⟨⟨x, member, rfl⟩, otherPort⟩
  rw [ChoosePortByIteration_eq_find? nonEmpty disjoint baseSegmentIs baseIn] at chosen
  cases found : ((NewSegmentList segments).positionsAfter basePort basePortIdx).find?
      (fun position => checkPortValid position.1) with
  | none =>
    simp only [found, Prod.mk.injEq] at chosen
    obtain ⟨rfl, rfl, rfl⟩ := chosen
    refine ⟨⟨nofun, ?_⟩, nofun, fun _ => ⟨rfl, rfl⟩⟩
    rintro ⟨q, member, otherPort, valid⟩
    obtain ⟨x, after, rfl⟩ := (otherPorts q).mp ⟨member, otherPort⟩
    exact absurd valid (List.find?_eq_none.mp found x after)
  | some x =>
    obtain ⟨p, j⟩ := x
    simp only [found, Prod.mk.injEq] at chosen
    obtain ⟨rfl, rfl, rfl⟩ := chosen
    have after := List.mem_of_find?_eq_some found
    have valid := List.find?_some found
    obtain ⟨member, otherPort⟩ := (mem_positionsAfter listDisjoint baseMember).mp after
    obtain ⟨-, s, segmentIs, within⟩ := (mem_positionsFrom segments 0).mp member
    refine ⟨⟨fun _ => ?_, fun _ => rfl⟩, fun _ => ⟨valid, ⟨s, by simpa using segmentIs, within⟩, rfl⟩,
      nofun⟩
    exact ⟨p, ((otherPorts p).mpr ⟨(p, j), after, rfl⟩).1, otherPort, valid⟩

end FromBase

/-- Two segments, the scan from the last port of the first wrapping through
the second back to the first. -/
def twoSegments : List Segment :=
  [⟨10, 13⟩, ⟨20, 22⟩]

theorem ChoosePortByIteration_complete_wrapping :
    (∀ s ∈ twoSegments, s.min < s.max) ∧ Disjoint twoSegments ∧
      twoSegments[0]? = some ⟨10, 13⟩ ∧ ((10 : Int) ≤ 12 ∧ (12 : Int) < 13) ∧
      ChoosePortByIteration (NewSegmentList twoSegments) (fun port => decide (port = 11)) 12 0 =
        (11, 0, true) ∧
      ((true = true ↔ ∃ q ∈ (NewSegmentList twoSegments).members, q ≠ 12 ∧ decide (q = 11) = true) ∧
        (true = true → decide ((11 : Int) = 11) = true ∧
          (∃ s, twoSegments[0]? = some s ∧ s.min ≤ 11 ∧ 11 < s.max) ∧
          ((NewSegmentList twoSegments).positionsAfter 12 0).find?
            (fun position => decide (position.1 = 11)) = some (11, 0)) ∧
        (true = false → (11 : Int) = 12 ∧ 0 = 0)) := by
  have nonEmpty : ∀ s ∈ twoSegments, s.min < s.max := by
    decide
  have disjoint : Disjoint twoSegments := by
    decide
  have chosen : ChoosePortByIteration (NewSegmentList twoSegments) (fun port => decide (port = 11))
      12 0 = (11, 0, true) := by
    decide
  exact ⟨nonEmpty, disjoint, rfl, by decide, chosen,
    ChoosePortByIteration_complete nonEmpty disjoint rfl (by decide) _ chosen⟩

end Kuscia.PortFlake
