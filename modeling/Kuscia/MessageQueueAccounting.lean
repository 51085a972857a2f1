import Kuscia.MessageQueue

namespace Kuscia.Msq

/-!
# Exact memory accounting of the message queue

Bytes enter the queue in two steps, `MemControl.Prefetch` globally and then
`SessionQueue.Push` per session, and leave it along five paths: the failed
push, `Pop`, `Peek`, `ReleaseTopic`, and the release of a whole session by
`ReleaseSession` or by the cleaner.  The invariant `SessionManager.Accounted`
says that the three levels of counters agree exactly, as natural numbers:
the global counter is the sum of the registered sessions' counters, a
session's counter is the sum of its topics', and a topic's is the total length
of its messages.

The counters are `uint64`, so the invariant needs their sums never to wrap.
Every counter is at most the global one, which counts the bytes the sessions
hold (`Accounted.totalByteSize_eq_heldBytes`), and a message is shorter than
`2^63` bytes, as both request paths read it into a Go slice.  A process on a
64-bit machine holds fewer than `2^63` bytes, and while the sessions do, no
sum wraps, whatever the limits `Check` accepts.  The counters wrap only past
that, for three messages of `2^63 - 1` bytes under limits of `2^64 - 1`
(`accounting_wraps_at_large_limits`).
-/

theorem toNat_add_of_small
    {a b : UInt64}
    (smallA : a.toNat < 2 ^ 63)
    (smallB : b.toNat < 2 ^ 63) :
    (a + b).toNat = a.toNat + b.toNat := by
  rw [UInt64.toNat_add]
  exact Nat.mod_eq_of_lt (by omega)

@[simp] theorem Message.toNat_ByteSize
    (message : Message) :
    message.ByteSize.toNat = message.contentLength :=
  UInt64.toNat_ofNat_of_lt' (lt_trans message.lengthBound (by decide))

/-- The total length of a topic's messages: what its `ByteSize` should be. -/
def Topic.contentLength (t : Topic) : Nat :=
  (t.queue.map Message.contentLength).sum

/-- The sum of a session queue's topic counters. -/
def SessionQueue.topicBytes (s : SessionQueue) : Nat :=
  s.topics.sumBy fun t => t.byteSize.toNat

/-- A registered session queue whose counters agree with its messages. -/
structure SessionQueue.Accounted (limit : UInt64) (s : SessionQueue) : Prop where
  notReleased : s.released = false
  limitIs : s.byteSizeLimit = limit
  topicsExact : ∀ topic t, s.topics.lookup topic = some t → t.byteSize.toNat = t.contentLength
  byteSizeExact : s.byteSize.toNat = s.topicBytes
  withinLimit : s.byteSize ≤ s.byteSizeLimit

/-- The sum of the registered sessions' counters. -/
def SessionManager.sessionBytes (s : SessionManager) : Nat :=
  s.sessions.sumBy fun session => session.queue.byteSize.toNat

/-- The total length of the messages the registered sessions hold. -/
def SessionManager.heldBytes (s : SessionManager) : Nat :=
  s.sessions.sumBy fun session => session.queue.topics.sumBy Topic.contentLength

/-- The accounting invariant of the whole queue. -/
structure SessionManager.Accounted (s : SessionManager) : Prop where
  limitIs : s.memControl.totalByteSizeLimit = s.config.totalByteSizeLimit
  queuesAccounted : ∀ sid session, s.sessions.lookup sid = some session →
    session.queue.Accounted s.config.perSessionByteSizeLimit
  totalExact : s.memControl.totalByteSize.toNat = s.sessionBytes
  withinTotal : s.memControl.totalByteSize ≤ s.memControl.totalByteSizeLimit

/-! ## Session queues -/

namespace SessionQueue

variable {limit : UInt64} {s : SessionQueue} {topic : String}

theorem NewSessionQueue_accounted
    (config : Config) :
    (NewSessionQueue config).Accounted config.perSessionByteSizeLimit where
  notReleased := rfl
  limitIs := rfl
  topicsExact := by
    intro topic t found
    cases found
  byteSizeExact := rfl
  withinLimit := UInt64.zero_le

/-- The topic a push or pop works on: the stored one, or a new empty one. -/
def topicOrNew (s : SessionQueue) (topic : String) : Topic :=
  (s.topics.lookup topic).getD NewTopicQueue

theorem Accounted.topicOrNew_exact
    (hs : s.Accounted limit) :
    (s.topicOrNew topic).byteSize.toNat = (s.topicOrNew topic).contentLength := by
  unfold topicOrNew
  cases found : s.topics.lookup topic with
  | none => rfl
  | some t => exact hs.topicsExact topic t found

/-- The other topics and the one worked on make up the session's counter. -/
theorem topicBytes_erase_add
    (s : SessionQueue)
    (topic : String) :
    Go.Map.sumBy (fun t => t.byteSize.toNat) (s.topics.erase topic) +
      (s.topicOrNew topic).byteSize.toNat = s.topicBytes := by
  unfold topicOrNew topicBytes
  cases found : s.topics.lookup topic with
  | none => simp [Go.Map.erase_of_lookup_eq_none found, NewTopicQueue]
  | some t => exact Go.Map.sumBy_erase_add found

theorem Accounted.topicOrNew_le
    (hs : s.Accounted limit) :
    (s.topicOrNew topic).byteSize.toNat ≤ s.byteSize.toNat := by
  have split := topicBytes_erase_add s topic
  rw [hs.byteSizeExact]
  omega

/-- Storing a topic whose counter is exact, with the session counter moved
by the same amount as the topic's, keeps a session queue accounted. -/
theorem Accounted.storeTopic
    (hs : s.Accounted limit)
    {t : Topic}
    {byteSize : UInt64}
    (topicExact : t.byteSize.toNat = t.contentLength)
    (moved : byteSize.toNat + (s.topicOrNew topic).byteSize.toNat =
      s.byteSize.toNat + t.byteSize.toNat)
    (within : byteSize ≤ limit) :
    { s with topics := s.topics.insert topic t, byteSize }.Accounted limit where
  notReleased := hs.notReleased
  limitIs := hs.limitIs
  topicsExact := by
    intro other u found
    by_cases same : other = topic
    · subst same
      rw [AList.lookup_insert] at found
      cases found
      exact topicExact
    · rw [AList.lookup_insert_ne same] at found
      exact hs.topicsExact other u found
  byteSizeExact := by
    have split := topicBytes_erase_add s topic
    simp only [topicBytes, Go.Map.sumBy_insert]
    rw [hs.byteSizeExact] at moved
    unfold topicBytes at split moved
    omega
  withinLimit := by
    rw [hs.limitIs]
    exact within

theorem innerPush_eq
    (s : SessionQueue)
    (topic : String)
    (message : Message) :
    s.innerPush topic message =
      { s with
        topics := s.topics.insert topic ((s.topicOrNew topic).Push message)
        byteSize := s.byteSize + message.ByteSize } := by
  unfold innerPush getTopic topicOrNew
  cases s.topics.lookup topic with
  | none => simp [AList.insert_insert]
  | some t => rfl

theorem Accounted.innerPush
    (hs : s.Accounted limit)
    {message : Message}
    (small : s.byteSize.toNat < 2 ^ 63)
    (fits : s.byteSize.toNat + message.contentLength ≤ limit.toNat) :
    (s.innerPush topic message).Accounted limit ∧
      (s.innerPush topic message).byteSize.toNat = s.byteSize.toNat + message.contentLength := by
  have topicSmall : (s.topicOrNew topic).byteSize.toNat < 2 ^ 63 :=
    lt_of_le_of_lt hs.topicOrNew_le small
  have messageSmall : message.ByteSize.toNat < 2 ^ 63 := by
    simpa using message.lengthBound
  have grown : (s.byteSize + message.ByteSize).toNat = s.byteSize.toNat + message.contentLength := by
    rw [toNat_add_of_small small messageSmall, Message.toNat_ByteSize]
  rw [innerPush_eq]
  refine ⟨hs.storeTopic ?_ ?_ ?_, grown⟩
  · simp only [Topic.Push, Topic.contentLength, List.map_append, List.sum_append,
      toNat_add_of_small topicSmall messageSmall]
    have exact : (s.topicOrNew topic).byteSize.toNat = (s.topicOrNew topic).contentLength :=
      hs.topicOrNew_exact
    unfold Topic.contentLength at exact
    simp [exact]
  · simp only [Topic.Push, toNat_add_of_small topicSmall messageSmall, grown,
      Message.toNat_ByteSize]
    omega
  · rw [UInt64.le_iff_toNat_le, grown]
    exact fits

/-- What a session push does: nothing, with an error, or it adds exactly the
message's length. -/
theorem Accounted.Push
    (hs : s.Accounted limit)
    {message : Message}
    {err : Option ErrorCode}
    {pushed : SessionQueue}
    (small : s.byteSize.toNat < 2 ^ 63)
    (result : s.Push topic message = (err, pushed)) :
    (err.isSome ∧ pushed = s) ∨
      (err = none ∧ pushed.Accounted limit ∧
        pushed.byteSize.toNat = s.byteSize.toNat + message.contentLength) := by
  unfold SessionQueue.Push waitUntil at result
  rw [hs.notReleased] at result
  by_cases tooLarge : message.ByteSize > s.byteSizeLimit
  · rw [if_pos tooLarge] at result
    cases result
    exact .inl ⟨rfl, rfl⟩
  rw [if_neg tooLarge] at result
  cases available : s.availableToPush message with
  | false =>
    rw [available] at result
    cases result
    exact .inl ⟨rfl, rfl⟩
  | true =>
    rw [available] at result
    cases result
    -- `availableToPush` compares a sum that cannot wrap
    have messageSmall : message.ByteSize.toNat < 2 ^ 63 := by
      simpa using message.lengthBound
    have fits : s.byteSize.toNat + message.contentLength ≤ limit.toNat := by
      unfold availableToPush at available
      have bound := UInt64.le_iff_toNat_le.mp (of_decide_eq_true available)
      rwa [toNat_add_of_small small messageSmall, Message.toNat_ByteSize, hs.limitIs] at bound
    exact .inr ⟨rfl, hs.innerPush small fits⟩

theorem Accounted.innerPop
    (hs : s.Accounted limit)
    (available : s.availableToPop topic = true) :
    ∃ message, (s.innerPop topic).1 = some message ∧
      (s.innerPop topic).2.Accounted limit ∧
      (s.innerPop topic).2.byteSize.toNat + message.contentLength = s.byteSize.toNat := by
  unfold availableToPop at available
  cases found : s.topics.lookup topic with
  | none =>
    simp [found] at available
  | some t =>
    cases shape : t.queue with
    | nil =>
      simp [found, Topic.Len, shape] at available
    | cons message rest =>
      have current : s.topicOrNew topic = t := by simp [topicOrNew, found]
      -- the popped message is part of the topic, which is part of the session
      have topicExact := hs.topicsExact topic t found
      have topicLe : t.byteSize.toNat ≤ s.byteSize.toNat := current ▸ hs.topicOrNew_le
      have messageLe : message.contentLength ≤ t.byteSize.toNat := by
        simp [topicExact, Topic.contentLength, shape]
      have topicShrunk : (t.byteSize - message.ByteSize).toNat =
          t.byteSize.toNat - message.contentLength := by
        rw [UInt64.toNat_sub_of_le _ _ (by simpa [UInt64.le_iff_toNat_le] using messageLe),
          Message.toNat_ByteSize]
      have sessionShrunk : (s.byteSize - message.ByteSize).toNat =
          s.byteSize.toNat - message.contentLength := by
        rw [UInt64.toNat_sub_of_le _ _ (by simp [UInt64.le_iff_toNat_le]; omega),
          Message.toNat_ByteSize]
      have popped : s.innerPop topic =
          (some message,
            { s with
              topics := s.topics.insert topic ⟨t.byteSize - message.ByteSize, rest⟩
              byteSize := s.byteSize - message.ByteSize }) := by
        simp [SessionQueue.innerPop, getTopic, found, Topic.Pop, shape]
      rw [popped]
      refine ⟨message, rfl, hs.storeTopic ?_ ?_ ?_, ?_⟩
      · simp only [topicShrunk, topicExact, Topic.contentLength, shape, List.map_cons,
          List.sum_cons]
        omega
      · rw [current, sessionShrunk, topicShrunk]
        omega
      · rw [← hs.limitIs, UInt64.le_iff_toNat_le, sessionShrunk]
        exact le_trans (Nat.sub_le _ _) (UInt64.le_iff_toNat_le.mp hs.withinLimit)
      · simp only [sessionShrunk]
        omega

/-- What a session pop or peek does: nothing, or it removes one message and
exactly its length. -/
def Removed (limit : UInt64) (s : SessionQueue) (message : Option Message)
    (after : SessionQueue) : Prop :=
  match message with
  | none => after = s
  | some message => after.Accounted limit ∧
      after.byteSize.toNat + message.contentLength = s.byteSize.toNat

theorem Accounted.Pop
    (hs : s.Accounted limit)
    {message : Option Message}
    {err : Option ErrorCode}
    {after : SessionQueue}
    (result : s.Pop topic = ((message, err), after)) :
    Removed limit s message after := by
  unfold SessionQueue.Pop waitUntil at result
  rw [hs.notReleased] at result
  cases available : s.availableToPop topic with
  | false =>
    rw [available] at result
    cases result
    rfl
  | true =>
    rw [available] at result
    obtain ⟨popped, first, accounted, shrunk⟩ := hs.innerPop available
    cases innerResult : s.innerPop topic with
    | mk first' second =>
      rw [innerResult] at result first accounted shrunk
      cases result
      subst first
      exact ⟨accounted, shrunk⟩

theorem Accounted.Peek
    (hs : s.Accounted limit)
    {message : Option Message}
    {err : Option ErrorCode}
    {after : SessionQueue}
    (result : s.Peek topic = ((message, err), after)) :
    Removed limit s message after := by
  unfold SessionQueue.Peek at result
  rw [hs.notReleased] at result
  cases available : s.availableToPop topic with
  | false =>
    simp only [available] at result
    cases result
    rfl
  | true =>
    obtain ⟨popped, first, accounted, shrunk⟩ := hs.innerPop available
    cases innerResult : s.innerPop topic with
    | mk first' second =>
      rw [innerResult] at first accounted shrunk
      subst first
      simp only [available, innerResult] at result
      cases result
      exact ⟨accounted, shrunk⟩

theorem Accounted.ReleaseTopic
    (hs : s.Accounted limit)
    {byteSize : UInt64}
    {after : SessionQueue}
    (result : s.ReleaseTopic topic = (byteSize, after)) :
    after.Accounted limit ∧ after.byteSize.toNat + byteSize.toNat = s.byteSize.toNat := by
  unfold SessionQueue.ReleaseTopic at result
  rw [hs.notReleased] at result
  cases found : s.topics.lookup topic with
  | none =>
    simp only [found] at result
    cases result
    exact ⟨hs, rfl⟩
  | some t =>
    simp only [found] at result
    cases result
    have split := Go.Map.sumBy_erase_add (f := fun t : Topic => t.byteSize.toNat) found
    have topicLe : t.byteSize.toNat ≤ s.byteSize.toNat := by
      rw [hs.byteSizeExact]
      exact Go.Map.le_sumBy (f := fun t : Topic => t.byteSize.toNat) found
    have shrunk : (s.byteSize - t.byteSize).toNat = s.byteSize.toNat - t.byteSize.toNat :=
      UInt64.toNat_sub_of_le _ _ (UInt64.le_iff_toNat_le.mpr topicLe)
    refine ⟨⟨rfl, hs.limitIs, ?_, ?_, ?_⟩, ?_⟩
    · intro other u stored
      by_cases same : other = topic
      · subst same
        rw [AList.lookup_erase] at stored
        cases stored
      · rw [AList.lookup_erase_ne same] at stored
        exact hs.topicsExact other u stored
    · show (s.byteSize - t.byteSize).toNat =
        Go.Map.sumBy (fun t => t.byteSize.toNat) (s.topics.erase topic)
      rw [shrunk, hs.byteSizeExact]
      unfold topicBytes
      omega
    · show s.byteSize - t.byteSize ≤ s.byteSizeLimit
      rw [UInt64.le_iff_toNat_le, shrunk]
      exact le_trans (Nat.sub_le _ _) (UInt64.le_iff_toNat_le.mp hs.withinLimit)
    · show (s.byteSize - t.byteSize).toNat + t.byteSize.toNat = _
      omega

end SessionQueue

/-! ## The global budget -/

namespace MemControl

/-- What `Prefetch` does: nothing, or it reserves the bytes within the limit. -/
theorem Prefetch_spec
    {mc : MemControl}
    {byteSize : UInt64}
    {timeout leftTimeout : Int}
    {ok : Bool}
    {after : MemControl}
    (result : mc.Prefetch byteSize timeout = ((ok, leftTimeout), after)) :
    (ok = false ∧ after = mc) ∨
      (ok = true ∧ after = { mc with totalByteSize := mc.totalByteSize + byteSize } ∧
        mc.availableToPush byteSize = true) := by
  unfold Prefetch at result
  by_cases refused : (!mc.availableToPush byteSize || timeout == 0) = true
  · rw [if_pos refused] at result
    cases result
    exact .inl ⟨rfl, rfl⟩
  · rw [if_neg refused] at result
    cases result
    simp only [Bool.or_eq_true, Bool.not_eq_eq_eq_not, Bool.not_true, not_or] at refused
    exact .inr ⟨rfl, rfl, by simpa using refused.1⟩

theorem Release_zero
    (mc : MemControl) :
    mc.Release 0 = mc := by
  simp [Release]

end MemControl

/-! ## The session manager -/

/-- The summed counters of a list of session queues. -/
def queueBytes (queues : List SessionQueue) : Nat :=
  (queues.map fun q => q.byteSize.toNat).sum

namespace SessionManager

variable {s after : SessionManager} {sid : String} {nowMs : Int}

theorem NewSessionManager_accounted
    (config : Config) :
    (NewSessionManager config).Accounted where
  limitIs := rfl
  queuesAccounted := by
    intro sid session found
    cases found
  totalExact := rfl
  withinTotal := UInt64.zero_le

/-- Only the three parts the invariant reads matter to it. -/
theorem Accounted.congr
    (hs : s.Accounted)
    (config : after.config = s.config)
    (sessions : after.sessions = s.sessions)
    (memControl : after.memControl = s.memControl) :
    after.Accounted where
  limitIs := by
    rw [memControl, config]
    exact hs.limitIs
  queuesAccounted := by
    rw [sessions, config]
    exact hs.queuesAccounted
  totalExact := by
    unfold sessionBytes
    rw [memControl, sessions]
    exact hs.totalExact
  withinTotal := by
    rw [memControl]
    exact hs.withinTotal

/-- The global counter counts exactly the bytes the registered sessions hold. -/
theorem Accounted.totalByteSize_eq_heldBytes
    (hs : s.Accounted) :
    s.memControl.totalByteSize.toNat = s.heldBytes := by
  rw [hs.totalExact]
  apply Go.Map.sumBy_congr
  intro sid session found
  have queue := hs.queuesAccounted sid session found
  rw [queue.byteSizeExact]
  exact Go.Map.sumBy_congr queue.topicsExact

theorem Accounted.queue_le
    (hs : s.Accounted)
    {session : Session}
    (found : s.sessions.lookup sid = some session) :
    session.queue.byteSize.toNat ≤ s.memControl.totalByteSize.toNat := by
  rw [hs.totalExact]
  exact Go.Map.le_sumBy (f := fun session : Session => session.queue.byteSize.toNat) found

/-- Replacing a registered session's queue by an accounted one, with the global
counter moved by as much as the queue's, keeps the invariant.  This is the
write-back of every per-session operation. -/
theorem Accounted.replaceQueue
    (hs : s.Accounted)
    {session : Session}
    {sq : SessionQueue}
    {mc : MemControl}
    (found : s.sessions.lookup sid = some session)
    (queue : sq.Accounted s.config.perSessionByteSizeLimit)
    (limitIs : mc.totalByteSizeLimit = s.memControl.totalByteSizeLimit)
    (within : mc.totalByteSize ≤ mc.totalByteSizeLimit)
    (moved : mc.totalByteSize.toNat + session.queue.byteSize.toNat =
      s.memControl.totalByteSize.toNat + sq.byteSize.toNat) :
    { s with
      sessions := s.sessions.insert sid { session with queue := sq }
      memControl := mc }.Accounted where
  limitIs := limitIs.trans hs.limitIs
  queuesAccounted := by
    intro other stored storedFound
    by_cases same : other = sid
    · subst same
      rw [AList.lookup_insert] at storedFound
      cases storedFound
      exact queue
    · rw [AList.lookup_insert_ne same] at storedFound
      exact hs.queuesAccounted other stored storedFound
  totalExact := by
    have split := Go.Map.sumBy_erase_add
      (f := fun session : Session => session.queue.byteSize.toNat) found
    rw [hs.totalExact] at moved
    simp only [sessionBytes, Go.Map.sumBy_insert]
    unfold sessionBytes at moved
    omega
  withinTotal := within

/-- Registering a fresh empty queue under an unused sid keeps the invariant. -/
theorem Accounted.insertNew
    (hs : s.Accounted)
    {uid : Nat}
    (missing : s.sessions.lookup sid = none)
    (config : after.config = s.config)
    (sessions : after.sessions = s.sessions.insert sid ⟨NewSessionQueue s.config, uid⟩)
    (memControl : after.memControl = s.memControl) :
    after.Accounted where
  limitIs := by
    rw [memControl, config]
    exact hs.limitIs
  queuesAccounted := by
    intro other stored storedFound
    rw [sessions] at storedFound
    rw [config]
    by_cases same : other = sid
    · subst same
      rw [AList.lookup_insert] at storedFound
      cases storedFound
      exact SessionQueue.NewSessionQueue_accounted s.config
    · rw [AList.lookup_insert_ne same] at storedFound
      exact hs.queuesAccounted other stored storedFound
  totalExact := by
    unfold sessionBytes
    rw [memControl, sessions, Go.Map.sumBy_insert, Go.Map.erase_of_lookup_eq_none missing]
    simpa [NewSessionQueue, sessionBytes] using hs.totalExact
  withinTotal := by
    rw [memControl]
    exact hs.withinTotal

/-- Unregistering a session and releasing its bytes keeps the invariant. -/
theorem Accounted.eraseRelease
    (hs : s.Accounted)
    {session : Session}
    (found : s.sessions.lookup sid = some session)
    (config : after.config = s.config)
    (sessions : after.sessions = s.sessions.erase sid)
    (memControl : after.memControl = s.memControl.Release session.queue.byteSize) :
    after.Accounted where
  limitIs := by
    rw [memControl, config]
    exact hs.limitIs
  queuesAccounted := by
    intro other stored storedFound
    rw [sessions] at storedFound
    rw [config]
    by_cases same : other = sid
    · subst same
      rw [AList.lookup_erase] at storedFound
      cases storedFound
    · rw [AList.lookup_erase_ne same] at storedFound
      exact hs.queuesAccounted other stored storedFound
  totalExact := by
    have split := Go.Map.sumBy_erase_add
      (f := fun session : Session => session.queue.byteSize.toNat) found
    have released := hs.queue_le found
    unfold sessionBytes
    rw [memControl, sessions, MemControl.Release,
      UInt64.toNat_sub_of_le _ _ (UInt64.le_iff_toNat_le.mpr released), hs.totalExact]
    unfold sessionBytes
    omega
  withinTotal := by
    rw [memControl, MemControl.Release, UInt64.le_iff_toNat_le,
      UInt64.toNat_sub_of_le _ _ (UInt64.le_iff_toNat_le.mpr (hs.queue_le found))]
    exact le_trans (Nat.sub_le _ _) (UInt64.le_iff_toNat_le.mp hs.withinTotal)

theorem releaseBytes_eq
    (s : SessionManager)
    (byteSize : UInt64) :
    s.releaseBytes byteSize = { s with memControl := s.memControl.Release byteSize } := by
  unfold releaseBytes
  by_cases positive : byteSize > 0
  · rw [if_pos positive]
  · rw [if_neg positive]
    have zero : byteSize = 0 := by
      simpa [UInt64.lt_iff_toNat_lt, ← UInt64.toNat_inj] using positive
    rw [zero, MemControl.Release_zero]

@[simp] theorem setQueue_config
    (s : SessionManager)
    (sid : String)
    (sq : SessionQueue) :
    (s.setQueue sid sq).config = s.config := by
  unfold setQueue
  split <;> rfl

theorem setQueue_of_lookup
    {session : Session}
    (found : s.sessions.lookup sid = some session)
    (sq : SessionQueue) :
    s.setQueue sid sq = { s with sessions := s.sessions.insert sid { session with queue := sq } } := by
  simp [setQueue, found]

/-- `GetSession` changes at most the activity heap, and a queue it returns is
the registered one. -/
theorem GetSession_spec
    {refresh : Bool}
    {sq? : Option SessionQueue}
    {err : Option ErrorCode}
    (result : s.GetSession sid refresh nowMs = ((sq?, err), after)) :
    after.config = s.config ∧ after.sessions = s.sessions ∧ after.memControl = s.memControl ∧
      ∀ sq, sq? = some sq → ∃ session, s.sessions.lookup sid = some session ∧ session.queue = sq := by
  unfold GetSession getSessionAndVerifyRefresh at result
  cases found : s.sessions.lookup sid with
  | none =>
    simp only [found] at result
    cases result
    exact ⟨rfl, rfl, rfl, by simp⟩
  | some session =>
    cases refresh with
    | false =>
      simp only [found] at result
      cases result
      exact ⟨rfl, rfl, rfl, by simp⟩
    | true =>
      simp only [found] at result
      cases result
      exact ⟨rfl, rfl, rfl, by simp⟩

/-- `GetOrCreateSession` keeps the invariant, and a queue it returns is
registered under the sid afterwards. -/
theorem Accounted.GetOrCreateSession
    (hs : s.Accounted)
    {refresh : Bool}
    {r : Except ErrorCode SessionQueue}
    (result : s.GetOrCreateSession sid refresh nowMs = (r, after)) :
    after.Accounted ∧ after.config = s.config ∧ after.memControl = s.memControl ∧
      ∀ sq, r = .ok sq → ∃ session, after.sessions.lookup sid = some session ∧ session.queue = sq := by
  unfold SessionManager.GetOrCreateSession at result
  rcases got : s.GetSession sid refresh nowMs with ⟨⟨sq?, err⟩, middle⟩
  obtain ⟨config, sessions, memControl, registered⟩ := GetSession_spec got
  have middleAccounted : middle.Accounted := hs.congr config sessions memControl
  rw [got] at result
  cases sq? with
  | some sq =>
    cases result
    refine ⟨middleAccounted, config, memControl, ?_⟩
    intro returned same
    rw [sessions]
    exact registered returned (by cases same; rfl)
  | none =>
    cases err with
    | some err =>
      cases result
      exact ⟨middleAccounted, config, memControl, by simp⟩
    | none =>
      -- nothing is registered under the sid: create a session
      simp only at result
      unfold createSessionQueue at result
      cases found : middle.sessions.lookup sid with
      | some existing =>
        rw [found] at result
        cases result
        exact ⟨middleAccounted, config, memControl, fun sq same => ⟨existing, found, by cases same; rfl⟩⟩
      | none =>
        rw [found] at result
        by_cases dead : middle.deadSessionIDs.Exists sid = true
        · rw [if_pos dead] at result
          cases result
          exact ⟨middleAccounted, config, memControl, by simp⟩
        · rw [if_neg dead] at result
          cases result
          refine ⟨middleAccounted.insertNew found rfl rfl rfl, config, memControl, ?_⟩
          intro sq same
          cases same
          exact ⟨_, AList.lookup_insert _, rfl⟩

/-- `Push` keeps the invariant: the bytes it reserves either reach the queue or
are released again. -/
theorem Accounted.Push
    (hs : s.Accounted)
    (small : s.memControl.totalByteSize.toNat < 2 ^ 63)
    (topic : String)
    (message : Message)
    (timeout : Int) :
    (s.Push sid topic message timeout nowMs).2.Accounted ∧
      (s.Push sid topic message timeout nowMs).2.config = s.config := by
  unfold SessionManager.Push
  rcases created : s.GetOrCreateSession sid false nowMs with ⟨r, middle⟩
  obtain ⟨middleAccounted, config, memControl, registered⟩ := hs.GetOrCreateSession created
  cases r with
  | error err => exact ⟨middleAccounted, config⟩
  | ok sq =>
    obtain ⟨session, found, isQueue⟩ := registered sq rfl
    subst isQueue
    dsimp only
    rcases prefetched : middle.memControl.Prefetch message.ByteSize timeout with
      ⟨⟨ok, leftTimeout⟩, mc⟩
    rcases MemControl.Prefetch_spec prefetched with ⟨rfl, rfl⟩ | ⟨rfl, rfl, available⟩
    · exact ⟨middleAccounted, config⟩
    · -- the reservation and the session push do not wrap
      have totalSmall : middle.memControl.totalByteSize.toNat < 2 ^ 63 := by
        rw [memControl]
        exact small
      have messageSmall : message.ByteSize.toNat < 2 ^ 63 := by
        simpa using message.lengthBound
      have reserved := toNat_add_of_small totalSmall messageSmall
      have queue := middleAccounted.queuesAccounted sid session found
      have queueSmall : session.queue.byteSize.toNat < 2 ^ 63 :=
        lt_of_le_of_lt (middleAccounted.queue_le found) totalSmall
      -- within the limit, as `Prefetch` checked
      have within : middle.memControl.totalByteSize + message.ByteSize ≤
          middle.memControl.totalByteSizeLimit :=
        of_decide_eq_true available
      rcases pushed : session.queue.Push topic message with ⟨err, sq'⟩
      rcases queue.Push queueSmall pushed with ⟨errSome, rfl⟩ | ⟨rfl, queue', grown⟩
      · -- the failed push releases exactly what was reserved
        obtain ⟨e, rfl⟩ := Option.isSome_iff_exists.mp errSome
        simp only [setQueue, found, Bool.not_true, Bool.false_eq_true, ↓reduceIte]
        have restored : middle.memControl.totalByteSize + message.ByteSize - message.ByteSize =
            middle.memControl.totalByteSize := by
          simp
        refine ⟨middleAccounted.replaceQueue found queue rfl ?_ ?_, config⟩
        · simpa [MemControl.Release, restored] using middleAccounted.withinTotal
        · simp [MemControl.Release, restored]
      · simp only [setQueue, found, Bool.not_true, Bool.false_eq_true, ↓reduceIte]
        refine ⟨middleAccounted.replaceQueue found queue' rfl within ?_, config⟩
        simp only [reserved, grown, Message.toNat_ByteSize]
        omega

/-- Taking bytes out of a registered queue and releasing as many from the
global counter keeps the invariant. -/
theorem Accounted.releaseFromQueue
    (hs : s.Accounted)
    {session : Session}
    {sq : SessionQueue}
    {byteSize : UInt64}
    (found : s.sessions.lookup sid = some session)
    (queue : sq.Accounted s.config.perSessionByteSizeLimit)
    (shrunk : sq.byteSize.toNat + byteSize.toNat = session.queue.byteSize.toNat) :
    { s with
      sessions := s.sessions.insert sid { session with queue := sq }
      memControl := s.memControl.Release byteSize }.Accounted := by
  have covered : byteSize.toNat ≤ s.memControl.totalByteSize.toNat := by
    have := hs.queue_le found
    omega
  have released : (s.memControl.totalByteSize - byteSize).toNat =
      s.memControl.totalByteSize.toNat - byteSize.toNat :=
    UInt64.toNat_sub_of_le _ _ (UInt64.le_iff_toNat_le.mpr covered)
  refine hs.replaceQueue found queue rfl ?_ ?_
  · rw [MemControl.Release, UInt64.le_iff_toNat_le, released]
    exact le_trans (Nat.sub_le _ _) (UInt64.le_iff_toNat_le.mp hs.withinTotal)
  · simp only [MemControl.Release, released]
    omega

/-- Writing back an unchanged queue keeps the invariant. -/
theorem Accounted.keepQueue
    (hs : s.Accounted)
    {session : Session}
    (found : s.sessions.lookup sid = some session) :
    (s.setQueue sid session.queue).Accounted := by
  rw [setQueue_of_lookup found]
  exact hs.replaceQueue found (hs.queuesAccounted sid session found) rfl hs.withinTotal rfl

theorem Accounted.Pop
    (hs : s.Accounted)
    (topic : String) :
    (s.Pop sid topic nowMs).2.Accounted ∧ (s.Pop sid topic nowMs).2.config = s.config := by
  unfold SessionManager.Pop
  rcases created : s.GetOrCreateSession sid true nowMs with ⟨r, middle⟩
  obtain ⟨middleAccounted, config, -, registered⟩ := hs.GetOrCreateSession created
  cases r with
  | error err => exact ⟨middleAccounted, config⟩
  | ok sq =>
    obtain ⟨session, found, rfl⟩ := registered sq rfl
    dsimp only
    rcases popped : session.queue.Pop topic with ⟨⟨message, err⟩, sq'⟩
    have removed := (middleAccounted.queuesAccounted sid session found).Pop popped
    cases message with
    | none =>
      have same : sq' = session.queue := removed
      subst same
      dsimp only
      exact ⟨middleAccounted.keepQueue found, (setQueue_config _ _ _).trans config⟩
    | some message =>
      obtain ⟨queue', shrunk⟩ := removed
      simp only [setQueue, found]
      exact ⟨middleAccounted.releaseFromQueue found queue' (by simpa using shrunk), config⟩

theorem Accounted.Peek
    (hs : s.Accounted)
    (topic : String) :
    (s.Peek sid topic nowMs).2.Accounted ∧ (s.Peek sid topic nowMs).2.config = s.config := by
  unfold SessionManager.Peek
  rcases created : s.GetOrCreateSession sid true nowMs with ⟨r, middle⟩
  obtain ⟨middleAccounted, config, -, registered⟩ := hs.GetOrCreateSession created
  cases r with
  | error err => exact ⟨middleAccounted, config⟩
  | ok sq =>
    obtain ⟨session, found, rfl⟩ := registered sq rfl
    dsimp only
    rcases peeked : session.queue.Peek topic with ⟨⟨message, err⟩, sq'⟩
    have removed := (middleAccounted.queuesAccounted sid session found).Peek peeked
    cases message with
    | none =>
      have same : sq' = session.queue := removed
      subst same
      dsimp only
      exact ⟨middleAccounted.keepQueue found, (setQueue_config _ _ _).trans config⟩
    | some message =>
      obtain ⟨queue', shrunk⟩ := removed
      simp only [setQueue, found]
      exact ⟨middleAccounted.releaseFromQueue found queue' (by simpa using shrunk), config⟩

theorem Accounted.ReleaseTopic
    (hs : s.Accounted)
    (topic : String) :
    (s.ReleaseTopic sid topic nowMs).Accounted ∧
      (s.ReleaseTopic sid topic nowMs).config = s.config := by
  unfold SessionManager.ReleaseTopic
  rcases got : s.GetSession sid false nowMs with ⟨⟨sq?, err⟩, middle⟩
  obtain ⟨config, sessions, memControl, registered⟩ := GetSession_spec got
  have middleAccounted := hs.congr config sessions memControl
  cases sq? with
  | none => exact ⟨middleAccounted, config⟩
  | some sq =>
    obtain ⟨session, found, rfl⟩ := registered sq rfl
    rw [← sessions] at found
    dsimp only
    rcases released : session.queue.ReleaseTopic topic with ⟨byteSize, sq'⟩
    obtain ⟨queue', shrunk⟩ :=
      (middleAccounted.queuesAccounted sid session found).ReleaseTopic released
    simp only [setQueue, found, releaseBytes_eq]
    exact ⟨middleAccounted.releaseFromQueue found queue' shrunk, config⟩

theorem Accounted.ReleaseSession
    (hs : s.Accounted) :
    (s.ReleaseSession sid nowMs).Accounted ∧ (s.ReleaseSession sid nowMs).config = s.config := by
  unfold SessionManager.ReleaseSession
  rcases got : s.GetSession sid false nowMs with ⟨⟨sq?, err⟩, middle⟩
  obtain ⟨config, sessions, memControl, registered⟩ := GetSession_spec got
  have middleAccounted := hs.congr config sessions memControl
  cases sq? with
  | none => exact ⟨middleAccounted, config⟩
  | some sq =>
    obtain ⟨session, found, rfl⟩ := registered sq rfl
    rw [← sessions] at found
    dsimp only
    rw [releaseBytes_eq]
    exact ⟨middleAccounted.eraseRelease found rfl rfl rfl, config⟩

/-- The cleaner's locked loop moves bytes from registered sessions to the
collected queues, one whole session at a time, and touches no counter. -/
theorem cleanInactiveLoop_spec
    {currentTimestamp expireDuration : Int} :
    ∀ {count : Nat} {s after : SessionManager} {inactive inactive' : List SessionQueue},
      cleanInactiveLoop currentTimestamp expireDuration nowMs count s inactive =
        (after, inactive') →
      after.config = s.config ∧ after.memControl = s.memControl ∧
        (∀ sid session, after.sessions.lookup sid = some session →
          s.sessions.lookup sid = some session) ∧
        after.sessionBytes + queueBytes inactive' = s.sessionBytes + queueBytes inactive := by
  intro count
  induction count with
  | zero =>
    intro s after inactive inactive' result
    cases result
    exact ⟨rfl, rfl, fun _ _ found => found, rfl⟩
  | succ count inductionHypothesis =>
    intro s after inactive inactive' result
    unfold cleanInactiveLoop at result
    dsimp only at result
    split at result
    · cases result
      exact ⟨rfl, rfl, fun _ _ found => found, rfl⟩
    · split at result
      · -- a session is registered under the popped sid: it is collected
        rename_i session found
        obtain ⟨config, memControl, shrunk, bytes⟩ := inductionHypothesis result
        refine ⟨config, memControl, ?_, ?_⟩
        · intro other stored storedFound
          exact Go.Map.lookup_of_lookup_erase (shrunk other stored storedFound)
        · have split := Go.Map.sumBy_erase_add
            (f := fun session : Session => session.queue.byteSize.toNat) found
          simp only [sessionBytes, queueBytes, List.map_append, List.sum_append] at bytes ⊢
          simp only [List.map_cons, List.map_nil, List.sum_cons, List.sum_nil] at bytes
          omega
      · -- the sid was released before: only the stale entry goes
        rename_i missing
        obtain ⟨config, memControl, shrunk, bytes⟩ := inductionHypothesis result
        rw [Go.Map.erase_of_lookup_eq_none missing] at shrunk bytes
        exact ⟨config, memControl, shrunk, bytes⟩

/-- The cleaner's unlocked loop releases the collected queues' bytes. -/
theorem releaseQueues_spec :
    ∀ {queues : List SessionQueue} {s : SessionManager},
      queueBytes queues ≤ s.memControl.totalByteSize.toNat →
      (s.releaseQueues queues).config = s.config ∧
        (s.releaseQueues queues).sessions = s.sessions ∧
        (s.releaseQueues queues).memControl.totalByteSizeLimit =
          s.memControl.totalByteSizeLimit ∧
        (s.releaseQueues queues).memControl.totalByteSize.toNat =
          s.memControl.totalByteSize.toNat - queueBytes queues := by
  intro queues
  induction queues with
  | nil =>
    intro s _
    simp [releaseQueues, queueBytes]
  | cons sq rest inductionHypothesis =>
    intro s covered
    rw [releaseQueues, releaseBytes_eq]
    simp only [queueBytes, List.map_cons, List.sum_cons] at covered
    have released : (s.memControl.totalByteSize - sq.byteSize).toNat =
        s.memControl.totalByteSize.toNat - sq.byteSize.toNat :=
      UInt64.toNat_sub_of_le _ _ (UInt64.le_iff_toNat_le.mpr (by omega))
    have rest_covered : queueBytes rest ≤
        (s.releaseBytes sq.ReleaseSession.1).memControl.totalByteSize.toNat := by
      rw [releaseBytes_eq]
      simp only [MemControl.Release, SessionQueue.ReleaseSession, released]
      unfold queueBytes
      omega
    obtain ⟨config, sessions, limitIs, total⟩ := inductionHypothesis rest_covered
    rw [releaseBytes_eq] at config sessions limitIs total
    refine ⟨config, sessions, limitIs, ?_⟩
    rw [total]
    simp only [MemControl.Release, SessionQueue.ReleaseSession, released, queueBytes,
      List.map_cons, List.sum_cons]
    omega

theorem Accounted.cleanInactiveSession
    (hs : s.Accounted) :
    (s.cleanInactiveSession nowMs).Accounted ∧
      (s.cleanInactiveSession nowMs).config = s.config := by
  unfold SessionManager.cleanInactiveSession
  dsimp only
  generalize loop : cleanInactiveLoop (s.normalizedNowTimestamp nowMs)
    (s.config.sessionExpireSeconds.tdiv s.config.normalizeActiveSeconds) nowMs
    (min s.activeSessionIDs.length cleanStep) s [] = result
  obtain ⟨middle, inactive⟩ := result
  obtain ⟨config, memControl, shrunk, bytes⟩ := cleanInactiveLoop_spec loop
  simp only [queueBytes, List.map_nil, List.sum_nil, Nat.add_zero] at bytes
  have covered : queueBytes inactive ≤ middle.memControl.totalByteSize.toNat := by
    rw [memControl, hs.totalExact]
    unfold queueBytes
    omega
  obtain ⟨config', sessions', limitIs', total'⟩ := releaseQueues_spec covered
  refine ⟨⟨?_, ?_, ?_, ?_⟩, config'.trans config⟩
  · rw [limitIs', config', memControl, config]
    exact hs.limitIs
  · intro sid session found
    rw [sessions'] at found
    rw [config', config]
    exact hs.queuesAccounted sid session (shrunk sid session found)
  · rw [total', memControl, hs.totalExact]
    simp only [sessionBytes, queueBytes, sessions'] at bytes ⊢
    omega
  · rw [UInt64.le_iff_toNat_le, total', limitIs', memControl]
    exact le_trans (Nat.sub_le _ _) (UInt64.le_iff_toNat_le.mp hs.withinTotal)

theorem Accounted.cleanDeadSessionIDs
    (hs : s.Accounted) :
    (s.cleanDeadSessionIDs nowMs).Accounted :=
  hs.congr rfl rfl rfl

/-- One call from a state holding fewer than `2 ^ 63` bytes keeps the
invariant, and no call changes the configuration. -/
theorem Accounted.step
    (hs : s.Accounted)
    (held : s.heldBytes < 2 ^ 63)
    (op : Op) :
    (s.step op).Accounted ∧ (s.step op).config = s.config := by
  have small : s.memControl.totalByteSize.toNat < 2 ^ 63 := by
    rw [hs.totalByteSize_eq_heldBytes]
    exact held
  cases op with
  | push sid topic message timeout nowMs => exact hs.Push small topic message timeout
  | pop sid topic nowMs => exact hs.Pop topic
  | peek sid topic nowMs => exact hs.Peek topic
  | releaseTopic sid topic nowMs => exact hs.ReleaseTopic topic
  | releaseSession sid nowMs => exact hs.ReleaseSession
  | cleanInactiveSession nowMs => exact hs.cleanInactiveSession
  | cleanDeadSessionIDs nowMs => exact ⟨hs.cleanDeadSessionIDs, rfl⟩

/-- Every run whose states each hold fewer than `2 ^ 63` bytes keeps the
invariant. -/
theorem Accounted.run
    (hs : s.Accounted)
    (ops : List Op)
    (held : ∀ k, (s.run (ops.take k)).heldBytes < 2 ^ 63) :
    (s.run ops).Accounted := by
  induction ops generalizing s with
  | nil => exact hs
  | cons op rest inductionHypothesis =>
    -- the states of the rest of the run are the states after the first call
    obtain ⟨stepped, -⟩ := hs.step (held 0) op
    exact inductionHypothesis stepped fun k => held (k + 1)

end SessionManager

/-- Memory accounting is exact over every sequential run from
`NewSessionManager`, under any limits, whose sessions never hold `2 ^ 63`
bytes of messages or more, as no process on a 64-bit machine can. -/
theorem memory_accounting_exact
    (config : Config)
    (ops : List Op)
    (held : ∀ k, ((NewSessionManager config).run (ops.take k)).heldBytes < 2 ^ 63) :
    ((NewSessionManager config).run ops).Accounted :=
  (SessionManager.NewSessionManager_accounted config).run ops held

/-- A push, a pop and the session's release. -/
def pushPopRelease : List Op :=
  [.push "s" "t" ⟨9, by decide, 0⟩ 1 0, .pop "s" "t" 1000, .releaseSession "s" 2000]

theorem memory_accounting_exact_default :
    (∀ k, ((NewSessionManager DefaultMsgConfig).run (pushPopRelease.take k)).heldBytes < 2 ^ 63) ∧
      ((NewSessionManager DefaultMsgConfig).run pushPopRelease).Accounted :=
  have held : ∀ k,
      ((NewSessionManager DefaultMsgConfig).run (pushPopRelease.take k)).heldBytes < 2 ^ 63 := by
    intro k
    rcases k with _ | _ | _ | k
    · decide +kernel
    · decide +kernel
    · decide +kernel
    · rw [List.take_of_length_le (by simp [pushPopRelease])]
      decide +kernel
  ⟨held, memory_accounting_exact DefaultMsgConfig pushPopRelease held⟩

/-- The bound on the bytes held is needed: at limits of `2^64 - 1`, which
`Check` accepts, three pushes of `2^63 - 1` bytes, more than a 64-bit process
can hold, wrap the counters, and the topic's counter no longer equals the
length of its messages. -/
theorem accounting_wraps_at_large_limits :
    let config : Config :=
      { DefaultMsgConfig with
        totalByteSizeLimit := 2 ^ 64 - 1
        perSessionByteSizeLimit := 2 ^ 64 - 1 }
    let huge : Message := ⟨2 ^ 63 - 1, by decide, 0⟩
    let after := (NewSessionManager config).run
      [.push "s" "t" huge 1 0, .push "s" "t" huge 1 0, .push "s" "t" huge 1 0]
    config.Check = .ok config ∧ ¬ after.Accounted := by
  intro config huge after
  refine ⟨by decide +kernel, ?_⟩
  intro accounted
  have topicsExact : ∀ session ∈ after.sessions.lookup "s",
      ∀ t ∈ session.queue.topics.lookup "t", t.byteSize.toNat = t.contentLength :=
    fun session found t topicFound =>
      (accounted.queuesAccounted "s" session found).topicsExact "t" t topicFound
  revert topicsExact
  decide +kernel

end Kuscia.Msq
