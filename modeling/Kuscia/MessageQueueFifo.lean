import Kuscia.MessageQueueAccounting
import Kuscia.Fifo

namespace Kuscia.Msq

/-!
# Each topic of a session queue is a FIFO channel

A user of one `SessionQueue` pushes, pops and peeks messages by topic and
releases a topic or the whole session.  Seen from one topic, a push that
succeeds puts its message at the back, a pop or a peek that returns a message
takes it from the front, and a release of the topic or of the session discards
what the topic holds (`seenBy`); every other call leaves the topic alone.  That
holds call by call from any queue in which a released session holds no message
(`Drained.call`), which every call keeps, so each topic runs as a `Fifo`
channel (`Drained.calls`).  `getTopic` creates a missing topic on both the push
and the pop path, but an empty topic holds what a missing one does, and a push
after `ReleaseTopic` starts the topic afresh.
-/

/-- A call on one session queue, with its arguments; the timeouts only bound
waits, which in a sequential run time out. -/
inductive Call where
  | push (topic : String) (message : Message)
  | pop (topic : String)
  | peek (topic : String)
  | releaseTopic (topic : String)
  | releaseSession

/-- What a call returns. -/
inductive Returned where
  | pushed (err : Option ErrorCode)
  | popped (message : Option Message) (err : Option ErrorCode)
  | released (byteSize : UInt64)

/-- Whether a call discards the messages of `topic`. -/
def Call.releases (watched : String) : Call → Bool
  | .releaseTopic topic => topic == watched
  | .releaseSession => true
  | _ => false

namespace SessionQueue

/-- The messages a topic holds, oldest first; a missing topic holds none. -/
def contents (s : SessionQueue) (topic : String) : List Message :=
  (s.topicOrNew topic).queue

/-- One call: what it returns and the queue after it. -/
def call (s : SessionQueue) : Call → Returned × SessionQueue
  | .push topic message => (.pushed (s.Push topic message).1, (s.Push topic message).2)
  | .pop topic => (.popped (s.Pop topic).1.1 (s.Pop topic).1.2, (s.Pop topic).2)
  | .peek topic => (.popped (s.Peek topic).1.1 (s.Peek topic).1.2, (s.Peek topic).2)
  | .releaseTopic topic => (.released (s.ReleaseTopic topic).1, (s.ReleaseTopic topic).2)
  | .releaseSession => (.released s.ReleaseSession.1, s.ReleaseSession.2)

/-- A sequence of calls: each call with what it returned, and the queue after
them all. -/
def calls (s : SessionQueue) : List Call → List (Call × Returned) × SessionQueue
  | [] => ([], s)
  | c :: cs =>
    let rest := (s.call c).2.calls cs
    ((c, (s.call c).1) :: rest.1, rest.2)

end SessionQueue

/-- A call as the topic `watched` sees it: a push that succeeded accepts its
message, a pop or a peek that returned a message delivers it, and a release of
the topic or of the session clears it. -/
def seenBy (watched : String) : Call × Returned → Fifo.Cycle Message
  | (.push topic message, .pushed none) => if topic = watched then .accept message else .idle
  | (.pop topic, .popped (some message) _) => if topic = watched then .deliver message else .idle
  | (.peek topic, .popped (some message) _) => if topic = watched then .deliver message else .idle
  | (.releaseTopic topic, _) => if topic = watched then .clear else .idle
  | (.releaseSession, _) => .clear
  | _ => .idle

/-- The messages that successful pushes put in `watched`, in call order. -/
def pushedTo (watched : String) (trace : List (Call × Returned)) : List Message :=
  Fifo.accepted (trace.map (seenBy watched))

/-- The messages that pops and peeks of `watched` returned, in call order. -/
def poppedFrom (watched : String) (trace : List (Call × Returned)) : List Message :=
  Fifo.delivered (trace.map (seenBy watched))

/-! ## What each call does to a topic -/

namespace SessionQueue

variable {s : SessionQueue} {topic : String}

/-- Storing a topic changes only what that topic holds. -/
theorem contents_insert
    (s : SessionQueue)
    (topic watched : String)
    (t : Topic)
    (byteSize : UInt64) :
    { s with topics := s.topics.insert topic t, byteSize }.contents watched =
      if topic = watched then t.queue else s.contents watched := by
  unfold contents topicOrNew
  by_cases same : topic = watched
  · subst same
    simp [AList.lookup_insert]
  · simp [AList.lookup_insert_ne (Ne.symm same), same]

/-- Deleting a topic empties only that topic. -/
theorem contents_erase
    (s : SessionQueue)
    (topic watched : String)
    (byteSize : UInt64) :
    { s with byteSize, topics := s.topics.erase topic }.contents watched =
      if topic = watched then [] else s.contents watched := by
  unfold contents topicOrNew
  by_cases same : topic = watched
  · subst same
    simp [AList.lookup_erase, NewTopicQueue]
  · simp [AList.lookup_erase_ne (Ne.symm same), same]

theorem contents_innerPush
    (s : SessionQueue)
    (topic : String)
    (message : Message)
    (watched : String) :
    (s.innerPush topic message).contents watched =
      if topic = watched then s.contents topic ++ [message] else s.contents watched := by
  rw [innerPush_eq, contents_insert]
  split_ifs <;> rfl

theorem released_innerPush
    (s : SessionQueue)
    (topic : String)
    (message : Message) :
    (s.innerPush topic message).released = s.released := by
  rw [innerPush_eq]

/-- A pop from a topic that has a message takes its oldest one. -/
theorem innerPop_of_available
    (available : s.availableToPop topic = true) :
    ∃ message rest, s.contents topic = message :: rest ∧
      (s.innerPop topic).1 = some message ∧
      (s.innerPop topic).2.released = s.released ∧
      ∀ watched, (s.innerPop topic).2.contents watched =
        if topic = watched then rest else s.contents watched := by
  unfold availableToPop at available
  cases found : s.topics.lookup topic with
  | none =>
    simp [found] at available
  | some t =>
    cases shape : t.queue with
    | nil =>
      simp [found, Topic.Len, shape] at available
    | cons message rest =>
      have popped : s.innerPop topic =
          (some message,
            { s with
              topics := s.topics.insert topic ⟨t.byteSize - message.ByteSize, rest⟩
              byteSize := s.byteSize - message.ByteSize }) := by
        simp [SessionQueue.innerPop, getTopic, found, Topic.Pop, shape]
      refine ⟨message, rest, by simp [contents, topicOrNew, found, shape], ?_, ?_, ?_⟩
      · rw [popped]
      · rw [popped]
      · intro watched
        rw [popped, contents_insert]

/-- A push either stores its message, on a live queue, or fails and changes
nothing. -/
theorem Push_cases
    (s : SessionQueue)
    (topic : String)
    (message : Message) :
    ((s.Push topic message).1 = none ∧ s.released = false ∧
        (s.Push topic message).2 = s.innerPush topic message) ∨
      ((∃ err, (s.Push topic message).1 = some err) ∧ (s.Push topic message).2 = s) := by
  unfold SessionQueue.Push waitUntil
  by_cases tooLarge : message.ByteSize > s.byteSizeLimit
  · simp [tooLarge]
  · cases s.released <;> cases s.availableToPush message <;> simp [tooLarge]

/-- A pop either returns nothing and changes nothing, or pops a topic that has
a message, on a live queue. -/
theorem Pop_cases
    (s : SessionQueue)
    (topic : String) :
    ((s.Pop topic).1.1 = none ∧ (s.Pop topic).2 = s) ∨
      (s.released = false ∧ s.availableToPop topic = true ∧
        (s.Pop topic).1.1 = (s.innerPop topic).1 ∧ (s.Pop topic).2 = (s.innerPop topic).2) := by
  unfold SessionQueue.Pop waitUntil
  cases s.released <;> cases s.availableToPop topic <;> simp

/-- `Peek` is a pop that does not wait. -/
theorem Peek_cases
    (s : SessionQueue)
    (topic : String) :
    ((s.Peek topic).1.1 = none ∧ (s.Peek topic).2 = s) ∨
      (s.released = false ∧ s.availableToPop topic = true ∧
        (s.Peek topic).1.1 = (s.innerPop topic).1 ∧ (s.Peek topic).2 = (s.innerPop topic).2) := by
  unfold SessionQueue.Peek
  cases released : s.released <;> cases available : s.availableToPop topic
  · simp
  · -- the message `innerPop` returns is the one `Peek` returns, in both arms
    right
    refine ⟨rfl, rfl, ?_⟩
    simp only [Bool.false_eq_true, if_false, if_true]
    cases popped : s.innerPop topic with
    | mk message after => cases message <;> exact ⟨rfl, rfl⟩
  · simp
  · simp

/-- A topic that holds a message has one to pop. -/
theorem availableToPop_of_contents
    {message : Message}
    {rest : List Message}
    (front : s.contents topic = message :: rest) :
    s.availableToPop topic = true := by
  unfold contents topicOrNew at front
  unfold availableToPop
  cases found : s.topics.lookup topic with
  | none =>
    rw [found] at front
    cases front
  | some t =>
    rw [found, Option.getD_some] at front
    simp [Topic.Len, front]

/-- On a live queue, a pop of a topic that holds messages returns the oldest. -/
theorem Pop_of_contents
    {message : Message}
    {rest : List Message}
    (live : s.released = false)
    (front : s.contents topic = message :: rest) :
    (s.Pop topic).1 = (some message, none) := by
  have available := availableToPop_of_contents front
  obtain ⟨head, rest', front', popped, -, -⟩ := innerPop_of_available available
  rw [front] at front'
  obtain ⟨rfl, -⟩ := List.cons.inj front'
  unfold SessionQueue.Pop waitUntil
  simp only [live, available, Bool.false_eq_true, if_false]
  rcases innerPopped : s.innerPop topic with ⟨returned, after⟩
  rw [innerPopped] at popped
  cases popped
  rfl

/-- `Peek` returns what `Pop` would. -/
theorem Peek_of_contents
    {message : Message}
    {rest : List Message}
    (live : s.released = false)
    (front : s.contents topic = message :: rest) :
    (s.Peek topic).1 = (some message, none) := by
  have available := availableToPop_of_contents front
  obtain ⟨head, rest', front', popped, -, -⟩ := innerPop_of_available available
  rw [front] at front'
  obtain ⟨rfl, -⟩ := List.cons.inj front'
  unfold SessionQueue.Peek
  simp only [live, available, Bool.false_eq_true, if_false, if_true]
  rcases innerPopped : s.innerPop topic with ⟨returned, after⟩
  rw [innerPopped] at popped
  cases popped
  rfl

/-- `ReleaseTopic` empties the topic and no other; a released queue is left as
it is. -/
theorem ReleaseTopic_contents
    (drained : s.released = true → ∀ topic, s.contents topic = [])
    (watched : String) :
    (s.ReleaseTopic topic).2.contents watched =
        (if topic = watched then [] else s.contents watched) ∧
      (s.ReleaseTopic topic).2.released = s.released := by
  unfold SessionQueue.ReleaseTopic
  by_cases released : s.released = true
  · rw [if_pos released]
    refine ⟨?_, rfl⟩
    split_ifs with same
    · exact drained released watched
    · rfl
  · rw [if_neg released]
    cases found : s.topics.lookup topic with
    | none =>
      -- a missing topic already holds nothing
      refine ⟨?_, rfl⟩
      split_ifs with same
      · subst same
        simp [contents, topicOrNew, found, NewTopicQueue]
      · rfl
    | some t =>
      exact ⟨contents_erase s topic watched _, rfl⟩

end SessionQueue

/-- A pop or a peek of `topic` is seen the same way by every topic. -/
theorem seenBy_peek
    (watched topic : String)
    (message : Option Message)
    (err : Option ErrorCode) :
    seenBy watched (.peek topic, .popped message err) = seenBy watched (.pop topic, .popped message err) := by
  cases message <;> rfl

/-- A call clears a topic exactly when it releases it. -/
theorem reset_seenBy
    (watched : String)
    (c : Call)
    (returned : Returned) :
    (seenBy watched (c, returned)).reset = c.releases watched := by
  cases c with
  | releaseTopic topic =>
    by_cases same : topic = watched <;>
      simp [seenBy, Call.releases, same, Fifo.Cycle.clear, Fifo.Cycle.idle]
  | releaseSession => rfl
  | push _ _ | pop _ | peek _ =>
    -- the view is `idle`, `accept` or `deliver`, none of which resets
    rcases returned with ⟨_ | _⟩ | ⟨_ | _, _⟩ | _ <;>
      simp [seenBy, Call.releases, apply_ite Fifo.Cycle.reset, Fifo.Cycle.idle,
        Fifo.Cycle.accept, Fifo.Cycle.deliver]

/-! ## Every topic runs as a FIFO channel -/

namespace SessionQueue

/-- A released queue holds no message: `ReleaseSession` drops every topic, and
no call stores one in a released queue. -/
def Drained (s : SessionQueue) : Prop :=
  s.released = true → ∀ topic, s.contents topic = []

variable {s : SessionQueue} {topic : String}

theorem drained_of_live
    (live : s.released = false) :
    s.Drained := by
  intro released
  rw [live] at released
  cases released

/-- A pop or a peek of `topic` that returns `message` and leaves `after`, as
`Pop_cases` and `Peek_cases` describe it. -/
theorem Drained.take
    (drained : s.Drained)
    {message : Option Message}
    {err : Option ErrorCode}
    {after : SessionQueue}
    (taken : (message = none ∧ after = s) ∨
      (s.released = false ∧ s.availableToPop topic = true ∧
        message = (s.innerPop topic).1 ∧ after = (s.innerPop topic).2))
    (watched : String) :
    Fifo.Step (s.contents watched) (seenBy watched (.pop topic, .popped message err))
        (after.contents watched) ∧ after.Drained := by
  rcases taken with ⟨rfl, rfl⟩ | ⟨live, available, rfl, rfl⟩
  · exact ⟨Fifo.step_idle _, drained⟩
  · obtain ⟨message, rest, front, popped, sameRelease, after⟩ := innerPop_of_available available
    refine ⟨?_, drained_of_live (sameRelease.trans live)⟩
    rw [popped, after]
    simp only [seenBy]
    -- the watched topic loses its oldest message, any other topic nothing
    split_ifs with same
    · subst same
      rw [front]
      exact Fifo.step_deliver message rest
    · exact Fifo.step_idle _

/-- Every call is, for every topic, a step of a FIFO channel, and keeps a
released queue empty. -/
theorem Drained.call
    (drained : s.Drained)
    (c : Call)
    (watched : String) :
    Fifo.Step (s.contents watched) (seenBy watched (c, (s.call c).1))
        ((s.call c).2.contents watched) ∧ (s.call c).2.Drained := by
  cases c with
  | push topic message =>
    rcases Push_cases s topic message with ⟨stored, live, pushed⟩ | ⟨⟨err, failed⟩, same⟩
    · refine ⟨?_, drained_of_live ?_⟩
      · simp only [SessionQueue.call, stored, pushed, seenBy, contents_innerPush]
        split_ifs with same
        · subst same
          exact Fifo.step_accept _ message
        · exact Fifo.step_idle _
      · simp only [SessionQueue.call, pushed, released_innerPush, live]
    · simp only [SessionQueue.call, failed, same, seenBy]
      exact ⟨Fifo.step_idle _, drained⟩
  | pop topic => exact drained.take (Pop_cases s topic) watched
  | peek topic =>
    simp only [SessionQueue.call, seenBy_peek]
    exact drained.take (Peek_cases s topic) watched
  | releaseTopic topic =>
    have released := @ReleaseTopic_contents s topic drained
    refine ⟨?_, ?_⟩
    · simp only [SessionQueue.call, seenBy, (released watched).1]
      split_ifs with same
      · exact Fifo.step_clear _
      · exact Fifo.step_idle _
    · intro isReleased other
      simp only [SessionQueue.call] at isReleased ⊢
      rw [(released other).1]
      rw [(released other).2] at isReleased
      split_ifs
      · rfl
      · exact drained isReleased other
  | releaseSession =>
    -- `topics = nil` reads as the empty map
    have emptied : ∀ other, (s.call .releaseSession).2.contents other = [] := by
      intro other
      simp [SessionQueue.call, ReleaseSession, contents, topicOrNew, AList.lookup_empty, NewTopicQueue]
    exact ⟨emptied watched ▸ Fifo.step_clear _, fun _ => emptied⟩

/-- Every sequence of calls runs each topic as a FIFO channel. -/
theorem Drained.calls
    (drained : s.Drained)
    (cs : List Call) :
    (∀ watched, Fifo.Transitions (s.contents watched) ((s.calls cs).1.map (seenBy watched))
        ((s.calls cs).2.contents watched)) ∧ (s.calls cs).2.Drained := by
  induction cs generalizing s with
  | nil => exact ⟨fun watched => .nil _, drained⟩
  | cons c cs inductionHypothesis =>
    -- the rest of the run starts from the queue the first call left
    obtain ⟨later, finalDrained⟩ := inductionHypothesis (drained.call c "").2
    refine ⟨fun watched => .cons (drained.call c watched).1 (later watched), finalDrained⟩

/-- The trace of a run lists its calls. -/
theorem map_fst_calls
    (s : SessionQueue)
    (cs : List Call) :
    (s.calls cs).1.map Prod.fst = cs := by
  induction cs generalizing s with
  | nil => rfl
  | cons c cs inductionHypothesis =>
    simp only [calls, List.map_cons, inductionHypothesis]

/-- A run splits where its calls do. -/
theorem calls_append
    (s : SessionQueue)
    (front back : List Call) :
    s.calls (front ++ back) =
      ((s.calls front).1 ++ ((s.calls front).2.calls back).1, ((s.calls front).2.calls back).2) := by
  induction front generalizing s with
  | nil => rfl
  | cons c front inductionHypothesis =>
    simp only [List.cons_append, calls, inductionHypothesis, List.cons_append]

theorem length_calls
    (s : SessionQueue)
    (cs : List Call) :
    (s.calls cs).1.length = cs.length := by
  rw [← List.length_map (f := Prod.fst), map_fst_calls]

/-- A run of calls that do not release `watched` does not reset it. -/
theorem noReset_of_kept
    (s : SessionQueue)
    {cs : List Call}
    {watched : String}
    (kept : ∀ c ∈ cs, c.releases watched = false) :
    ∀ cycle ∈ (s.calls cs).1.map (seenBy watched), cycle.reset = false := by
  intro cycle member
  obtain ⟨⟨c, returned⟩, inTrace, rfl⟩ := List.mem_map.mp member
  have called : c ∈ cs := map_fst_calls s cs ▸ List.mem_map_of_mem (f := Prod.fst) inTrace
  rw [reset_seenBy, kept c called]

/-- A call that does not release the session leaves it as live as it was. -/
theorem Drained.released_call
    (drained : s.Drained)
    {c : Call}
    (notSession : c ≠ .releaseSession) :
    (s.call c).2.released = s.released := by
  cases c with
  | push topic message =>
    rcases Push_cases s topic message with ⟨-, -, pushed⟩ | ⟨-, same⟩
    · simp only [SessionQueue.call, pushed, released_innerPush]
    · simp only [SessionQueue.call, same]
  | pop topic =>
    rcases Pop_cases s topic with ⟨-, same⟩ | ⟨-, available, -, popped⟩
    · simp only [SessionQueue.call, same]
    · obtain ⟨-, -, -, -, sameRelease, -⟩ := innerPop_of_available available
      simp only [SessionQueue.call, popped, sameRelease]
  | peek topic =>
    rcases Peek_cases s topic with ⟨-, same⟩ | ⟨-, available, -, peeked⟩
    · simp only [SessionQueue.call, same]
    · obtain ⟨-, -, -, -, sameRelease, -⟩ := innerPop_of_available available
      simp only [SessionQueue.call, peeked, sameRelease]
  | releaseTopic topic => exact (@ReleaseTopic_contents s topic drained "").2
  | releaseSession => exact absurd rfl notSession

/-- A run without `ReleaseSession` leaves the session as live as it was. -/
theorem Drained.released_calls
    (drained : s.Drained)
    {cs : List Call}
    (notSession : ∀ c ∈ cs, c ≠ .releaseSession) :
    (s.calls cs).2.released = s.released := by
  induction cs generalizing s with
  | nil => rfl
  | cons c cs inductionHypothesis =>
    have first := drained.released_call (notSession c List.mem_cons_self)
    have later := inductionHypothesis (drained.call c "").2
      fun c' member => notSession c' (List.mem_cons_of_mem c member)
    exact later.trans first

/-- The entry of a call in the trace of a run: the call, with what it returned
on the queue the calls before it left. -/
theorem getElem?_calls
    (s : SessionQueue)
    (pre : List Call)
    (c : Call)
    (post : List Call) :
    (s.calls (pre ++ c :: post)).1[pre.length]? = some (c, ((s.calls pre).2.call c).1) := by
  rw [calls_append, List.getElem?_append_right (by rw [length_calls]), length_calls, Nat.sub_self]
  rfl

end SessionQueue

/-- What a run of calls shows of one topic: what it held and what was pushed
to it are what pops and peeks returned followed by what it holds at the end,
and each pop or peek of the topic made while it held messages returned the
oldest of them. -/
def DeliversInPushOrder (s : SessionQueue) (cs : List Call) (watched : String) : Prop :=
  (s.contents watched ++ pushedTo watched (s.calls cs).1 =
      poppedFrom watched (s.calls cs).1 ++ (s.calls cs).2.contents watched) ∧
  ∀ pre c post message rest,
    cs = pre ++ c :: post →
    (c = .pop watched ∨ c = .peek watched) →
    (s.calls pre).2.contents watched = message :: rest →
    (s.calls cs).1[pre.length]? = some (c, .popped (some message) none)

/-- On a session queue that has not been released, as long as neither a topic
nor the session is released, the topic delivers in push order: the messages
pops and peeks return for it, followed by those it still holds, are the
messages it held followed by those pushed to it, and a pop or a peek made
while it holds messages returns the oldest. -/
theorem topic_delivers_in_push_order
    (s : SessionQueue)
    (live : s.released = false)
    (cs : List Call)
    (watched : String)
    (kept : ∀ c ∈ cs, c.releases watched = false) :
    DeliversInPushOrder s cs watched := by
  have drained := SessionQueue.drained_of_live live
  refine ⟨((drained.calls cs).1 watched).conservation (s.noReset_of_kept kept), ?_⟩
  intro pre c post message rest split taken front
  -- no call before the pop releases the session, so the queue is still live
  have notSession : ∀ c' ∈ pre, c' ≠ .releaseSession := by
    intro c' member same
    have released := kept c' (split ▸ List.mem_append_left _ member)
    rw [same] at released
    exact absurd released (by simp [Call.releases])
  have stillLive : (s.calls pre).2.released = false :=
    (drained.released_calls notSession).trans live
  rw [split, SessionQueue.getElem?_calls]
  rcases taken with rfl | rfl
  · simp only [SessionQueue.call, SessionQueue.Pop_of_contents stillLive front]
  · simp only [SessionQueue.call, SessionQueue.Peek_of_contents stillLive front]

/-- Two topics filled and drained in turn, with the other topic released. -/
def twoTopicCalls : List Call :=
  [.push "a" ⟨3, by decide, 1⟩, .push "b" ⟨4, by decide, 2⟩, .push "a" ⟨5, by decide, 3⟩,
    .pop "a", .peek "b", .releaseTopic "b", .peek "a", .pop "a"]

theorem topic_delivers_in_push_order_twoTopics :
    DeliversInPushOrder (NewSessionQueue DefaultMsgConfig) twoTopicCalls "a" :=
  topic_delivers_in_push_order _ rfl twoTopicCalls "a" (by decide)

/-- After a release of the topic or of the session, a topic of a queue that was
not released returns only messages pushed after the release, in push order:
what it held before is discarded. -/
theorem release_discards_earlier_messages
    (s : SessionQueue)
    (live : s.released = false)
    (front back : List Call)
    (release : Call)
    (watched : String)
    (discards : release.releases watched = true)
    (kept : ∀ c ∈ back, c.releases watched = false) :
    pushedTo watched ((s.calls (front ++ release :: back)).1.drop (front.length + 1)) =
      poppedFrom watched ((s.calls (front ++ release :: back)).1.drop (front.length + 1)) ++
        (s.calls (front ++ release :: back)).2.contents watched := by
  have middleDrained := ((SessionQueue.drained_of_live live).calls front).2
  set middle := (s.calls front).2
  have afterDrained := (middleDrained.call release watched).2
  set after := (middle.call release).2
  -- the release leaves the topic empty, and from there the topic runs as a FIFO channel
  have emptied : after.contents watched = [] :=
    (middleDrained.call release watched).1.reset (by rw [reset_seenBy, discards])
  have restarted := ((afterDrained.calls back).1 watched).conservation (after.noReset_of_kept kept)
  rw [emptied, List.nil_append] at restarted
  have traceIs :
      (s.calls (front ++ release :: back)).1.drop (front.length + 1) = (after.calls back).1 := by
    rw [SessionQueue.calls_append, ← SessionQueue.length_calls s front, List.drop_append,
      List.drop_eq_nil_of_le (by omega), List.nil_append, Nat.add_sub_cancel_left]
    rfl
  rw [traceIs, SessionQueue.calls_append]
  exact restarted

/-- A message pushed before `ReleaseTopic`, then one after it. -/
theorem release_discards_earlier_messages_repush :
    pushedTo "a" (((NewSessionQueue DefaultMsgConfig).calls
        ([.push "a" ⟨3, by decide, 1⟩] ++ .releaseTopic "a" :: [.push "a" ⟨5, by decide, 2⟩, .pop "a"])).1.drop
          ([Call.push "a" ⟨3, by decide, 1⟩].length + 1)) =
      poppedFrom "a" (((NewSessionQueue DefaultMsgConfig).calls
          ([.push "a" ⟨3, by decide, 1⟩] ++ .releaseTopic "a" :: [.push "a" ⟨5, by decide, 2⟩, .pop "a"])).1.drop
            ([Call.push "a" ⟨3, by decide, 1⟩].length + 1)) ++
        ((NewSessionQueue DefaultMsgConfig).calls
          ([.push "a" ⟨3, by decide, 1⟩] ++ .releaseTopic "a" :: [.push "a" ⟨5, by decide, 2⟩, .pop "a"])).2.contents "a" :=
  release_discards_earlier_messages _ rfl [.push "a" ⟨3, by decide, 1⟩]
    [.push "a" ⟨5, by decide, 2⟩, .pop "a"] (.releaseTopic "a") "a" (by decide) (by decide)

end Kuscia.Msq
