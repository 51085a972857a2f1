import Kuscia.GoMap
import Kuscia.PortChoose

namespace Kuscia.PortFlake

/-!
# The per-namespace port provider

`port_provider.go`.  A provider holds the ports it has handed out (`ports`,
with the owning pod once confirmed) and the ports not confirmed yet
(`portsToVerify`, with their allocation time).  `Allocate` chooses `count`
ports that are neither held nor chosen earlier in the same call; the clock and
the random draws are parameters.  Go's mutex only serialises the operations,
so a run of the provider is a sequence of them (`Provider.run`).
-/

/-- `BaseInfo`: the pod owning a port, empty until confirmed. -/
structure BaseInfo where
  owner : String
  deriving Repr, DecidableEq

/-- `VerifyInfo`. -/
structure VerifyInfo where
  allocateTime : Int
  deriving Repr, DecidableEq

/-- `DefaultMaxNotVerifiedPortAge`, in seconds. -/
def DefaultMaxNotVerifiedPortAge : Int := 300

/-- `Provider`; `namespace` is a keyword, so the field is `namespaceName`. -/
structure Provider where
  namespaceName : String
  ports : Go.Map Int BaseInfo
  portsToVerify : Go.Map Int VerifyInfo
  segments : SegmentList

/-- `newProvider`: one segment `[20000, 32767)`. -/
def newProvider (ns : String) : Provider where
  namespaceName := ns
  ports := ∅
  portsToVerify := ∅
  segments := NewSegmentList [⟨20000, 32767⟩]

namespace Provider

/-- `addPort`; `now` is the value of `time.Now().Unix()`. -/
def addPort (pp : Provider) (now : Int) (port : Int) : Provider :=
  { pp with
    ports := pp.ports.insert port ⟨""⟩
    portsToVerify := pp.portsToVerify.insert port ⟨now⟩ }

/-- The closure `checkPortValid` of `Allocate`: neither held nor chosen. -/
def checkPortValid (pp : Provider) (choosePorts : Go.Map Int Bool) (port : Int) : Bool :=
  (pp.ports.lookup port).isNone && (choosePorts.lookup port).isNone

/-- The error `Allocate` returns when a choice fails. -/
def noAvailablePortError (pp : Provider) : String :=
  let allocatedCount := pp.ports.size
  let namespaceName := pp.namespaceName
  s!"no available port to allocate, allocated port count={allocatedCount}, namespace={namespaceName}"

/-- The loop `for index := 1; index < count; index++` of `Allocate`: each port
is searched from the previous one. -/
def chooseRestPorts (pp : Provider) :
    Nat → Go.Map Int Bool → Int → Nat → Except String (Go.Map Int Bool)
  | 0, choosePorts, _, _ => .ok choosePorts
  | remaining + 1, choosePorts, choosePort, choosePortIdx =>
      let chosen := ChoosePortByIteration pp.segments (pp.checkPortValid choosePorts)
        choosePort choosePortIdx
      if chosen.2.2 then
        chooseRestPorts pp remaining (choosePorts.insert chosen.1 true) chosen.1 chosen.2.1
      else
        .error pp.noAvailablePortError

/-- The first port of `Allocate`: ten random probes, then a scan from the last
probe. -/
def chooseFirstPort (pp : Provider) (intn : Nat → Int) : Int × Nat × Bool :=
  let probed := ChoosePortByRandom pp.segments (pp.checkPortValid ∅) 10 intn
  if probed.2.2 then probed
  else ChoosePortByIteration pp.segments (pp.checkPortValid ∅) probed.1 probed.2.1

/-- `Allocate`: the returned ports and the provider afterwards.  The ports are
returned in the order of the keys of `choosePorts`, one of the orders Go's map
iteration may take. -/
def Allocate (pp : Provider) (count : Int) (intn : Nat → Int) (now : Int) :
    Except String (List Int32) × Provider :=
  if count ≤ 0 then
    (.ok [], pp)
  else
    let first := pp.chooseFirstPort intn
    if first.2.2 then
      match pp.chooseRestPorts (count.toNat - 1) ((∅ : Go.Map Int Bool).insert first.1 true)
          first.1 first.2.1 with
      | .error message => (.error message, pp)
      | .ok choosePorts =>
          (.ok (choosePorts.keys.map Int32.ofInt), choosePorts.keys.foldl (addPort · now) pp)
    else
      (.error pp.noAvailablePortError, pp)

/-- `addPortIndeed`: record the owner of a port and drop it from the ports to
verify, unless another pod owns it already. -/
def addPortIndeed (pp : Provider) (owner : String) (port : Int) : Except String Provider :=
  match pp.ports.lookup port with
  | some info =>
      if info.owner != "" && info.owner != owner then
        let currentOwner := info.owner
        let namespaceName := pp.namespaceName
        .error s!"port conflict, current owner={currentOwner}, new owner={owner}, namespace={namespaceName}"
      else
        .ok { pp with ports := pp.ports.insert port ⟨owner⟩, portsToVerify := pp.portsToVerify.erase port }
  | none =>
      .ok { pp with ports := pp.ports.insert port ⟨owner⟩, portsToVerify := pp.portsToVerify.erase port }

/-- `AddIndeed`: a failed port is logged and skipped. -/
def AddIndeed (pp : Provider) (owner : String) (ports : List Int) : Provider :=
  ports.foldl (fun pp pt => (pp.addPortIndeed owner pt).toOption.getD pp) pp

/-- `deletePortIndeed`: release a port held by the given owner. -/
def deletePortIndeed (pp : Provider) (owner : String) (port : Int) : Except String Provider :=
  match pp.ports.lookup port with
  | none =>
      let namespaceName := pp.namespaceName
      .error s!"not found port info, port={port}, namespace={namespaceName}"
  | some info =>
      if info.owner != owner then
        let expected := info.owner
        let namespaceName := pp.namespaceName
        .error s!"unmatched owner, expected={expected}, given={owner}, namespace={namespaceName}"
      else
        .ok { pp with ports := pp.ports.erase port }

/-- `DeleteIndeed`: a failed port is logged and skipped. -/
def DeleteIndeed (pp : Provider) (owner : String) (ports : List Int) : Provider :=
  ports.foldl (fun pp pt => (pp.deletePortIndeed owner pt).toOption.getD pp) pp

/-- `CheckNotVerified`: drop every port that stayed unverified for
`DefaultMaxNotVerifiedPortAge` seconds; `curTime` is `time.Now().Unix()`. -/
def CheckNotVerified (pp : Provider) (curTime : Int) : Provider :=
  let expired := (pp.portsToVerify.entries.filter fun entry =>
    decide (curTime - entry.2.allocateTime ≥ DefaultMaxNotVerifiedPortAge)).map (·.1)
  { pp with
    ports := expired.foldl (fun ports pt => ports.erase pt) pp.ports
    portsToVerify := expired.foldl (fun portsToVerify pt => portsToVerify.erase pt) pp.portsToVerify }

end Provider

/-- The operations that lock the provider's mutex, with the clock reading and
the random draws each one uses. -/
inductive ProviderOp where
  | allocate (count : Int) (intn : Nat → Int) (now : Int)
  | addIndeed (owner : String) (ports : List Int)
  | deleteIndeed (owner : String) (ports : List Int)
  | checkNotVerified (curTime : Int)

namespace Provider

/-- One operation on the provider. -/
def step (pp : Provider) : ProviderOp → Provider
  | .allocate count intn now => (pp.Allocate count intn now).2
  | .addIndeed owner ports => pp.AddIndeed owner ports
  | .deleteIndeed owner ports => pp.DeleteIndeed owner ports
  | .checkNotVerified curTime => pp.CheckNotVerified curTime

/-- A run: the operations in the order they took the mutex. -/
def run (pp : Provider) (ops : List ProviderOp) : Provider :=
  ops.foldl step pp

/-- The ports of the segments that the provider does not hold. -/
def freePorts (pp : Provider) : List Int :=
  pp.segments.members.filter fun port => (pp.ports.lookup port).isNone

/-- The ports chosen so far in one `Allocate` call lie in `[lo, hi)` and are
not held by the provider. -/
def Chosen (pp : Provider) (lo hi : Int) (choosePorts : Go.Map Int Bool) : Prop :=
  ∀ port ∈ choosePorts.keys, (lo ≤ port ∧ port < hi) ∧ pp.ports.lookup port = none

theorem checkPortValid_eq_true_iff
    (pp : Provider)
    (choosePorts : Go.Map Int Bool)
    (port : Int) :
    pp.checkPortValid choosePorts port = true ↔
      pp.ports.lookup port = none ∧ port ∉ choosePorts.keys := by
  simp [checkPortValid, AList.lookup_eq_none, AList.mem_keys]

/-- Choosing a valid port adds it to the keys. -/
theorem keys_insert_of_valid
    {pp : Provider}
    {choosePorts : Go.Map Int Bool}
    {port : Int}
    (valid : pp.checkPortValid choosePorts port = true) :
    (choosePorts.insert port true).keys = port :: choosePorts.keys := by
  rw [AList.keys_insert, List.erase_of_not_mem ((checkPortValid_eq_true_iff _ _ _).mp valid).2]

section SingleSegment

variable {pp : Provider} {lo hi : Int}

theorem chosen_insert
    (chosen : Chosen pp lo hi choosePorts)
    (valid : pp.checkPortValid choosePorts port = true)
    (member : lo ≤ port ∧ port < hi) :
    Chosen pp lo hi (choosePorts.insert port true) := by
  rw [Chosen, keys_insert_of_valid valid]
  rintro p (_ | ⟨_, earlier⟩)
  · exact ⟨member, ((checkPortValid_eq_true_iff _ _ _).mp valid).1⟩
  · exact chosen p earlier

/-- While fewer ports are chosen than are free, some port of the segment is
still valid. -/
theorem exists_valid_of_length_lt
    (singleSegment : pp.segments = single lo hi)
    (fewer : choosePorts.keys.length < pp.freePorts.length) :
    ∃ port, (lo ≤ port ∧ port < hi) ∧ pp.checkPortValid choosePorts port = true := by
  by_contra noneValid
  push Not at noneValid
  have covered : pp.freePorts ⊆ choosePorts.keys := by
    intro port free
    obtain ⟨member, unheld⟩ := List.mem_filter.mp free
    rw [singleSegment, mem_single_members] at member
    have invalid := noneValid port member
    simp only [Option.isNone_iff_eq_none] at unheld
    simpa [checkPortValid_eq_true_iff, unheld] using invalid
  have freeNodup : pp.freePorts.Nodup := by
    rw [freePorts, singleSegment]
    exact single_members_nodup.filter _
  have := freeNodup.length_le_of_subset covered
  omega

/-- No valid port at all means no free port. -/
theorem freePorts_eq_nil_of_invalid
    (singleSegment : pp.segments = single lo hi)
    (noneValid : ∀ port, lo ≤ port ∧ port < hi → pp.checkPortValid ∅ port = false) :
    pp.freePorts = [] := by
  by_contra someFree
  have fewer : (∅ : Go.Map Int Bool).keys.length < pp.freePorts.length := by
    rw [AList.keys_empty, List.length_nil]
    exact List.length_pos_of_ne_nil someFree
  obtain ⟨port, member, valid⟩ := exists_valid_of_length_lt singleSegment fewer
  simp [noneValid port member] at valid

variable {choosePorts : Go.Map Int Bool} {base : Int}

/-- A port the scan reports joins the chosen ports. -/
theorem choosePortByIteration_chosen
    (singleSegment : pp.segments = single lo hi)
    (nonEmpty : lo < hi)
    (chosen : Chosen pp lo hi choosePorts)
    (baseMember : lo ≤ base ∧ base < hi)
    (found : ChoosePortByIteration pp.segments (pp.checkPortValid choosePorts) base 0 =
      (port, portIdx, true)) :
    Chosen pp lo hi (choosePorts.insert port true) ∧
      (choosePorts.insert port true).keys = port :: choosePorts.keys ∧ portIdx = 0 := by
  rw [singleSegment] at found
  obtain ⟨valid, member, rfl⟩ :=
    choosePortByIteration_single_sound nonEmpty _ baseMember found
  exact ⟨chosen_insert chosen valid member, keys_insert_of_valid valid, rfl⟩

/-- The scan from an invalid port fails only when every free port is chosen. -/
theorem choosePortByIteration_found_of_lt
    (singleSegment : pp.segments = single lo hi)
    (nonEmpty : lo < hi)
    (baseMember : lo ≤ base ∧ base < hi)
    (baseInvalid : pp.checkPortValid choosePorts base = false)
    (fewer : choosePorts.keys.length < pp.freePorts.length) :
    (ChoosePortByIteration pp.segments (pp.checkPortValid choosePorts) base 0).2.2 = true := by
  obtain ⟨q, qMember, qValid⟩ := exists_valid_of_length_lt singleSegment fewer
  have notBase : q ≠ base := by
    rintro rfl
    simp [qValid] at baseInvalid
  rw [singleSegment]
  exact choosePortByIteration_single_found nonEmpty _ baseMember qMember notBase qValid

theorem checkPortValid_of_mem_keys
    (chosenBefore : base ∈ choosePorts.keys) :
    pp.checkPortValid choosePorts base = false := by
  cases valid : pp.checkPortValid choosePorts base
  · rfl
  · exact absurd chosenBefore ((checkPortValid_eq_true_iff _ _ _).mp valid).2

/-- A successful rest loop chose one more port for each round. -/
theorem chooseRestPorts_ok
    (singleSegment : pp.segments = single lo hi)
    (nonEmpty : lo < hi) :
    ∀ (remaining : Nat) (choosePorts : Go.Map Int Bool) (base : Int) {result : Go.Map Int Bool},
      base ∈ choosePorts.keys → Chosen pp lo hi choosePorts →
      pp.chooseRestPorts remaining choosePorts base 0 = .ok result →
      Chosen pp lo hi result ∧ result.keys.length = choosePorts.keys.length + remaining := by
  intro remaining
  induction remaining with
  | zero =>
      intro choosePorts base result _ chosen finished
      simp only [chooseRestPorts, Except.ok.injEq] at finished
      subst finished
      exact ⟨chosen, rfl⟩
  | succ remaining inductionHypothesis =>
      intro choosePorts base result chosenBefore chosen finished
      rcases scan : ChoosePortByIteration pp.segments (pp.checkPortValid choosePorts) base 0 with
        ⟨port, portIdx, ok⟩
      simp only [chooseRestPorts, scan] at finished
      cases ok with
      | false => simp at finished
      | true =>
          have baseMember := (chosen base chosenBefore).1
          obtain ⟨chosenAfter, keysAfter, rfl⟩ :=
            choosePortByIteration_chosen singleSegment nonEmpty chosen baseMember scan
          have rest := inductionHypothesis _ port (by simp [keysAfter]) chosenAfter finished
          rw [rest.2, keysAfter, List.length_cons]
          exact ⟨rest.1, by omega⟩

/-- A failed rest loop means fewer ports were free than the loop needed. -/
theorem chooseRestPorts_error
    (singleSegment : pp.segments = single lo hi)
    (nonEmpty : lo < hi) :
    ∀ (remaining : Nat) (choosePorts : Go.Map Int Bool) (base : Int) {message : String},
      base ∈ choosePorts.keys → Chosen pp lo hi choosePorts →
      pp.chooseRestPorts remaining choosePorts base 0 = .error message →
      pp.freePorts.length < choosePorts.keys.length + remaining := by
  intro remaining
  induction remaining with
  | zero =>
      intro choosePorts base message _ _ failed
      simp [chooseRestPorts] at failed
  | succ remaining inductionHypothesis =>
      intro choosePorts base message chosenBefore chosen failed
      have baseMember := (chosen base chosenBefore).1
      rcases scan : ChoosePortByIteration pp.segments (pp.checkPortValid choosePorts) base 0 with
        ⟨port, portIdx, ok⟩
      simp only [chooseRestPorts, scan] at failed
      cases ok with
      | false =>
          -- the scan gave up, so no free port was left unchosen
          have exhausted : ¬ choosePorts.keys.length < pp.freePorts.length := by
            intro fewer
            have found := choosePortByIteration_found_of_lt singleSegment nonEmpty baseMember
              (checkPortValid_of_mem_keys chosenBefore) fewer
            simp [scan] at found
          omega
      | true =>
          obtain ⟨chosenAfter, keysAfter, rfl⟩ :=
            choosePortByIteration_chosen singleSegment nonEmpty chosen baseMember scan
          have rest := inductionHypothesis _ port (by simp [keysAfter]) chosenAfter failed
          rw [keysAfter, List.length_cons] at rest
          omega

section FirstPort

variable {intn : Nat → Int}

/-- The first port, when found, is a valid port of the segment at index 0. -/
theorem chooseFirstPort_found
    (singleSegment : pp.segments = single lo hi)
    (nonEmpty : lo < hi)
    (drawsInRange : ∀ i, 0 ≤ intn i ∧ intn i < hi - lo)
    (found : pp.chooseFirstPort intn = (port, portIdx, true)) :
    (lo ≤ port ∧ port < hi) ∧ pp.checkPortValid ∅ port = true ∧ portIdx = 0 := by
  have probeSpec := choosePortByRandom_single (pp.checkPortValid ∅) drawsInRange
    (by decide : 0 < 10)
  rcases probe : ChoosePortByRandom (single lo hi) (pp.checkPortValid ∅) 10 intn with
    ⟨probePort, probeIdx, ok⟩
  rw [probe] at probeSpec
  obtain ⟨probeMember, rfl, probeValid⟩ := probeSpec
  simp only [chooseFirstPort, singleSegment, probe] at found
  cases ok with
  | true =>
      simp only [if_true, Prod.mk.injEq] at found
      obtain ⟨rfl, rfl, -⟩ := found
      exact ⟨probeMember, probeValid, rfl⟩
  | false =>
      simp only [Bool.false_eq_true, if_false] at found
      obtain ⟨valid, member, idx⟩ :=
        choosePortByIteration_single_sound nonEmpty _ probeMember found
      exact ⟨member, valid, idx⟩

/-- The first choice fails only when no port of the segment is free. -/
theorem chooseFirstPort_not_found
    (singleSegment : pp.segments = single lo hi)
    (nonEmpty : lo < hi)
    (drawsInRange : ∀ i, 0 ≤ intn i ∧ intn i < hi - lo)
    (notFound : (pp.chooseFirstPort intn).2.2 = false) :
    pp.freePorts = [] := by
  have probeSpec := choosePortByRandom_single (pp.checkPortValid ∅) drawsInRange
    (by decide : 0 < 10)
  rcases probe : ChoosePortByRandom (single lo hi) (pp.checkPortValid ∅) 10 intn with
    ⟨probePort, probeIdx, ok⟩
  rw [probe] at probeSpec
  obtain ⟨probeMember, rfl, probeValid⟩ := probeSpec
  simp only [chooseFirstPort, singleSegment, probe] at notFound
  cases ok with
  | true => simp at notFound
  | false =>
      simp only [Bool.false_eq_true, if_false] at notFound
      apply freePorts_eq_nil_of_invalid singleSegment
      intro q qMember
      by_contra qValid
      rw [Bool.not_eq_false] at qValid
      -- the scan starts from the last probe, which was invalid, so it meets `q`
      have notProbe : q ≠ probePort := by
        rintro rfl
        simp [qValid] at probeValid
      have found :=
        choosePortByIteration_single_found nonEmpty _ probeMember qMember notProbe qValid
      simp [found] at notFound

end FirstPort

/-- A successful `Allocate` chose `count` ports of the segment that the provider
did not hold, returned them and added them. -/
theorem allocate_eq_ok
    (singleSegment : pp.segments = single lo hi)
    (nonEmpty : lo < hi)
    (drawsInRange : ∀ i, 0 ≤ intn i ∧ intn i < hi - lo)
    (allocated : pp.Allocate count intn now = (.ok retPorts, after)) :
    ∃ choosePorts : Go.Map Int Bool, Chosen pp lo hi choosePorts ∧
      choosePorts.keys.length = count.toNat ∧
      retPorts = choosePorts.keys.map Int32.ofInt ∧
      after = choosePorts.keys.foldl (addPort · now) pp := by
  unfold Allocate at allocated
  split at allocated
  · rename_i nonPositive
    simp only [Prod.mk.injEq, Except.ok.injEq] at allocated
    obtain ⟨rfl, rfl⟩ := allocated
    exact ⟨∅, by simp [Chosen], by simp; omega, rfl, rfl⟩
  · rename_i positive
    rcases first : pp.chooseFirstPort intn with ⟨port, portIdx, ok⟩
    simp only [first] at allocated
    cases ok with
    | false => simp at allocated
    | true =>
        obtain ⟨member, valid, rfl⟩ :=
          chooseFirstPort_found singleSegment nonEmpty drawsInRange first
        have chosenFirst : Chosen pp lo hi ((∅ : Go.Map Int Bool).insert port true) :=
          chosen_insert (by simp [Chosen]) valid member
        rcases rest : pp.chooseRestPorts (count.toNat - 1) ((∅ : Go.Map Int Bool).insert port true)
            port 0 with restMessage | choosePorts
        · simp only [↓reduceIte, rest, Prod.mk.injEq, reduceCtorEq, false_and] at allocated
        · simp only [↓reduceIte, rest, Prod.mk.injEq, Except.ok.injEq] at allocated
          obtain ⟨rfl, rfl⟩ := allocated
          obtain ⟨chosen, length⟩ := chooseRestPorts_ok singleSegment nonEmpty _ _ port
            (by simp) chosenFirst rest
          rw [keys_insert_of_valid valid, AList.keys_empty] at length
          exact ⟨choosePorts, chosen, by simp at length; omega, rfl, rfl⟩

/-- A failed `Allocate` leaves the provider as it was, and fewer than `count`
ports were free. -/
theorem allocate_eq_error
    (singleSegment : pp.segments = single lo hi)
    (nonEmpty : lo < hi)
    (drawsInRange : ∀ i, 0 ≤ intn i ∧ intn i < hi - lo)
    (failed : pp.Allocate count intn now = (.error message, after)) :
    after = pp ∧ (pp.freePorts.length : Int) < count := by
  unfold Allocate at failed
  split at failed
  · simp at failed
  · rename_i positive
    rcases first : pp.chooseFirstPort intn with ⟨port, portIdx, ok⟩
    simp only [first] at failed
    cases ok with
    | false =>
        have noneFree := chooseFirstPort_not_found singleSegment nonEmpty drawsInRange
          (by simp [first])
        simp only [Bool.false_eq_true, if_false, Prod.mk.injEq] at failed
        rw [noneFree, List.length_nil]
        exact ⟨failed.2.symm, by omega⟩
    | true =>
        obtain ⟨member, valid, rfl⟩ :=
          chooseFirstPort_found singleSegment nonEmpty drawsInRange first
        rcases rest : pp.chooseRestPorts (count.toNat - 1) ((∅ : Go.Map Int Bool).insert port true)
            port 0 with restMessage | choosePorts
        · simp only [↓reduceIte, rest, Prod.mk.injEq] at failed
          have fewer := chooseRestPorts_error singleSegment nonEmpty _ _ port
            (by simp) (chosen_insert (by simp [Chosen]) valid member) rest
          rw [keys_insert_of_valid valid, AList.keys_empty] at fewer
          simp only [List.length_cons, List.length_nil] at fewer
          exact ⟨failed.2.symm, by omega⟩
        · simp only [↓reduceIte, rest, Prod.mk.injEq, reduceCtorEq, false_and] at failed

end SingleSegment

/-- Adding ports one by one holds exactly the added ports on top of the old
ones. -/
theorem lookup_foldl_addPort
    (now : Int)
    (added : List Int)
    (pp : Provider)
    (port : Int) :
    (added.foldl (addPort · now) pp).ports.lookup port =
      if port ∈ added then some ⟨""⟩ else pp.ports.lookup port := by
  induction added generalizing pp with
  | nil => simp
  | cons head rest inductionHypothesis =>
      rw [List.foldl_cons, inductionHypothesis]
      by_cases later : port ∈ rest
      · simp [later]
      · by_cases first : port = head
        · subst first
          simp [addPort, AList.lookup_insert]
        · simp [later, first, addPort, AList.lookup_insert_ne first]

/-- A fold of operations that keep the segments keeps them. -/
theorem foldl_segments
    {α : Type}
    {f : Provider → α → Provider}
    (keeps : ∀ pp x, (f pp x).segments = pp.segments)
    (xs : List α) :
    ∀ pp, (xs.foldl f pp).segments = pp.segments := by
  induction xs with
  | nil => intro pp; rfl
  | cons head rest inductionHypothesis =>
      intro pp
      rw [List.foldl_cons, inductionHypothesis, keeps]

theorem addPortIndeed_segments
    (pp : Provider)
    (owner : String)
    (port : Int) :
    ((pp.addPortIndeed owner port).toOption.getD pp).segments = pp.segments := by
  unfold addPortIndeed
  split
  · split <;> rfl
  · rfl

theorem deletePortIndeed_segments
    (pp : Provider)
    (owner : String)
    (port : Int) :
    ((pp.deletePortIndeed owner port).toOption.getD pp).segments = pp.segments := by
  unfold deletePortIndeed
  split
  · rfl
  · split <;> rfl

/-- No operation changes the segments. -/
theorem step_segments
    (pp : Provider)
    (op : ProviderOp) :
    (pp.step op).segments = pp.segments := by
  cases op with
  | allocate count intn now =>
      simp only [step, Allocate]
      split
      · rfl
      · split
        · split
          · rfl
          · exact @foldl_segments Int (addPort · now) (fun _ _ => rfl) _ pp
        · rfl
  | addIndeed owner ports => exact foldl_segments (addPortIndeed_segments · owner) ports pp
  | deleteIndeed owner ports => exact foldl_segments (deletePortIndeed_segments · owner) ports pp
  | checkNotVerified curTime => rfl

theorem run_segments
    (pp : Provider)
    (ops : List ProviderOp) :
    (pp.run ops).segments = pp.segments :=
  foldl_segments step_segments ops pp

end Provider

/-- A port of the provider's segment keeps its value as an `int32`. -/
theorem toInt_ofInt_of_mem
    {port : Int}
    (member : 20000 ≤ port ∧ port < 32767) :
    (Int32.ofInt port).toInt = port := by
  rw [Int32.toInt_ofInt]
  apply Int.bmod_eq_of_le <;> simp [Int32.size] <;> omega


/-- From any state a run of operations reaches, a successful `Allocate` hands
out `count` distinct free ports of the segment and holds them afterwards, and a
failed one changes nothing and happens only when fewer than `count` ports are
free.  The draws are those of `rand.Intn(Count())`. -/
theorem allocate_consistent_after_run
    (ns : String)
    (ops : List ProviderOp)
    (count : Int)
    (intn : Nat → Int)
    (now : Int)
    (drawsInRange : ∀ i, 0 ≤ intn i ∧ intn i < (newProvider ns).segments.count) :
    let pp := (newProvider ns).run ops
    (∀ retPorts after, pp.Allocate count intn now = (.ok retPorts, after) →
        retPorts.length = count.toNat ∧ retPorts.Nodup ∧
        ∀ port ∈ retPorts, port.toInt ∈ pp.segments.members ∧
          pp.ports.lookup port.toInt = none ∧ (after.ports.lookup port.toInt).isSome) ∧
    (∀ message after, pp.Allocate count intn now = (.error message, after) →
        after.ports = pp.ports ∧ after.portsToVerify = pp.portsToVerify ∧
        (pp.freePorts.length : Int) < count) := by
  intro pp
  have singleSegment : pp.segments = single 20000 32767 := Provider.run_segments _ ops
  have fresh : (newProvider ns).segments = single 20000 32767 := rfl
  have draws : ∀ i, 0 ≤ intn i ∧ intn i < 32767 - 20000 := by
    rwa [fresh, single_count] at drawsInRange
  constructor
  · intro retPorts after allocated
    obtain ⟨choosePorts, chosen, length, rfl, rfl⟩ :=
      Provider.allocate_eq_ok singleSegment (by norm_num) draws allocated
    have toIntKeys : ∀ port ∈ choosePorts.keys, (Int32.ofInt port).toInt = port :=
      fun port member => toInt_ofInt_of_mem (chosen port member).1
    refine ⟨by rw [List.length_map, length], ?_, ?_⟩
    · apply (AList.keys_nodup _).map_on
      intro x xMember y yMember same
      rw [← toIntKeys x xMember, ← toIntKeys y yMember, same]
    · intro port portMember
      obtain ⟨key, keyMember, rfl⟩ := List.mem_map.mp portMember
      rw [toIntKeys key keyMember, singleSegment, mem_single_members,
        Provider.lookup_foldl_addPort, if_pos keyMember]
      exact ⟨(chosen key keyMember).1, (chosen key keyMember).2, rfl⟩
  · intro message after failed
    obtain ⟨rfl, fewer⟩ := Provider.allocate_eq_error singleSegment (by norm_num) draws failed
    exact ⟨rfl, rfl, fewer⟩

theorem allocate_consistent_after_run_twoPorts :
    (0 : Int) < (newProvider "alice").segments.count ∧
      ∀ retPorts after,
        ((newProvider "alice").run [.addIndeed "alice-pod" [20001]]).Allocate 2 (fun _ => 0) 0 =
            (.ok retPorts, after) →
          retPorts.length = 2 ∧ retPorts.Nodup :=
  have counted : (0 : Int) < (newProvider "alice").segments.count := by decide
  ⟨counted, fun retPorts after allocated =>
    let spec := (allocate_consistent_after_run "alice" [.addIndeed "alice-pod" [20001]] 2
      (fun _ => 0) 0 (fun _ => ⟨le_rfl, counted⟩)).1 retPorts after allocated
    ⟨spec.1, spec.2.1⟩⟩

end Kuscia.PortFlake
