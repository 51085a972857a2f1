import Mathlib
import Kuscia.MessageQueueFifo

namespace Kuscia.Msq

/-!
# Each topic of each session of the manager is a FIFO channel

The session manager hands every push, pop and peek to the queue registered
under the call's session id, and creates the session on first use
(`GetOrCreateSession`).  It drops sessions on `ReleaseSession` and in the
cleaner's rounds.  Seen from one topic of one session id (`seenAt`), a push,
pop or peek that names the id is the session queue's call, seen through
`seenBy` with what the manager returned.  A release of the topic or of the
session clears the topic, and so does a cleaning round after which the id is
not registered.  Every other call leaves the topic alone.

An id that is not registered holds no message, so a session created on first
use changes no topic.  Every registered queue is drained (`QueuesDrained`), and
every call keeps it so.  Each topic of each session therefore runs as a `Fifo`
channel over every run of the manager (`QueuesDrained.run`).
-/

namespace SessionManager

/-- The messages topic `topic` of session `sid` holds, oldest first; a session
that is not registered holds none. -/
def contents (s : SessionManager) (sid topic : String) : List Message :=
  match s.sessions.lookup sid with
  | some session => session.queue.contents topic
  | none => []

/-- Every registered queue is drained: a released one holds no message. -/
def QueuesDrained (s : SessionManager) : Prop :=
  ∀ sid session, s.sessions.lookup sid = some session → session.queue.Drained

end SessionManager

/-- A manager call on `s` as topic `topic` of session `sid` sees it. -/
def seenAt (sid topic : String) (s : SessionManager) : Op → Fifo.Cycle Message
  | .push sid' topic' message timeout nowMs =>
    if sid' = sid then
      seenBy topic (.push topic' message, .pushed (s.Push sid' topic' message timeout nowMs).1)
    else .idle
  | .pop sid' topic' nowMs =>
    if sid' = sid then
      seenBy topic (.pop topic', .popped (s.Pop sid' topic' nowMs).1.1 (s.Pop sid' topic' nowMs).1.2)
    else .idle
  | .peek sid' topic' nowMs =>
    if sid' = sid then
      seenBy topic
        (.peek topic', .popped (s.Peek sid' topic' nowMs).1.1 (s.Peek sid' topic' nowMs).1.2)
    else .idle
  | .releaseTopic sid' topic' _ => if sid' = sid ∧ topic' = topic then .clear else .idle
  | .releaseSession sid' _ => if sid' = sid then .clear else .idle
  | .cleanInactiveSession nowMs =>
    if ((s.cleanInactiveSession nowMs).sessions.lookup sid).isNone then .clear else .idle
  | .cleanDeadSessionIDs _ => .idle

/-- The cycles a run shows topic `topic` of session `sid`. -/
def cyclesAt (sid topic : String) : SessionManager → List Op → List (Fifo.Cycle Message)
  | _, [] => []
  | s, op :: ops => seenAt sid topic s op :: cyclesAt sid topic (s.step op) ops

/-- The messages successful pushes put in topic `topic` of session `sid` over
a run, in call order. -/
def pushedAt (sid topic : String) (s : SessionManager) (ops : List Op) : List Message :=
  Fifo.accepted (cyclesAt sid topic s ops)

/-- The messages pops and peeks returned from topic `topic` of session `sid`
over a run, in call order. -/
def poppedAt (sid topic : String) (s : SessionManager) (ops : List Op) : List Message :=
  Fifo.delivered (cyclesAt sid topic s ops)

namespace SessionManager

variable {s s' after : SessionManager} {sid : String} {nowMs : Int}

/-! ## Frames: which sessions a write touches -/

theorem contents_of_sessions
    (same : s'.sessions = s.sessions) :
    s'.contents = s.contents := by
  funext other topic
  simp only [contents, same]

theorem contents_of_lookup
    {session : Session}
    (found : s.sessions.lookup sid = some session)
    (topic : String) :
    s.contents sid topic = session.queue.contents topic := by
  simp only [contents, found]

theorem contents_of_lookup_none
    (missing : s.sessions.lookup sid = none)
    (topic : String) :
    s.contents sid topic = [] := by
  simp only [contents, missing]

/-- Registering a session changes the topics of its id only. -/
theorem contents_of_insert
    (session : Session)
    (inserted : s'.sessions = s.sessions.insert sid session)
    (watchedSid watched : String) :
    s'.contents watchedSid watched =
      if watchedSid = sid then session.queue.contents watched else s.contents watchedSid watched := by
  split_ifs with same
  · subst same
    simp only [contents, inserted, AList.lookup_insert]
  · simp only [contents, inserted, AList.lookup_insert_ne same]

/-- Unregistering a session empties the topics of its id only. -/
theorem contents_of_erase
    (erased : s'.sessions = s.sessions.erase sid)
    (watchedSid watched : String) :
    s'.contents watchedSid watched = if watchedSid = sid then [] else s.contents watchedSid watched := by
  split_ifs with same
  · subst same
    simp only [contents, erased, AList.lookup_erase]
  · simp only [contents, erased, AList.lookup_erase_ne same]

/-- A new session queue holds no message in any topic. -/
theorem contents_NewSessionQueue
    (config : Config)
    (topic : String) :
    (NewSessionQueue config).contents topic = [] := by
  simp [SessionQueue.contents, SessionQueue.topicOrNew, NewSessionQueue, NewTopicQueue]

namespace QueuesDrained

theorem of_sessions
    (drained : s.QueuesDrained)
    (same : s'.sessions = s.sessions) :
    s'.QueuesDrained := by
  intro other session found
  rw [same] at found
  exact drained other session found

theorem insert
    (drained : s.QueuesDrained)
    {session : Session}
    (queueDrained : session.queue.Drained)
    (inserted : s'.sessions = s.sessions.insert sid session) :
    s'.QueuesDrained := by
  intro other registered found
  rw [inserted] at found
  by_cases same : other = sid
  · subst same
    rw [AList.lookup_insert] at found
    cases found
    exact queueDrained
  · rw [AList.lookup_insert_ne same] at found
    exact drained other registered found

theorem erase
    (drained : s.QueuesDrained)
    (erased : s'.sessions = s.sessions.erase sid) :
    s'.QueuesDrained := by
  intro other registered found
  rw [erased] at found
  by_cases same : other = sid
  · subst same
    rw [AList.lookup_erase] at found
    cases found
  · rw [AList.lookup_erase_ne same] at found
    exact drained other registered found

end QueuesDrained

/-- Two managers with the same sessions write a queue back to the same sessions. -/
theorem setQueue_sessions_of_sessions
    (same : s'.sessions = s.sessions)
    (sq : SessionQueue) :
    (s'.setQueue sid sq).sessions = (s.setQueue sid sq).sessions := by
  cases found : s.sessions.lookup sid with
  | none => simp only [setQueue, same, found]
  | some session => simp only [setQueue, same, found]

/-- `GetSession` returns no queue only for an id that is not registered. -/
theorem GetSession_none
    {refresh : Bool}
    {err : Option ErrorCode}
    (result : s.GetSession sid refresh nowMs = ((none, err), after)) :
    s.sessions.lookup sid = none := by
  unfold GetSession getSessionAndVerifyRefresh at result
  cases found : s.sessions.lookup sid with
  | none => rfl
  | some session => cases refresh <;> simp [found] at result

/-- `GetOrCreateSession` changes no topic of any session and keeps the queues
drained; a queue it returns is the one then registered under the id. -/
theorem GetOrCreateSession_frame
    (drained : s.QueuesDrained)
    {refresh : Bool}
    {r : Except ErrorCode SessionQueue}
    (result : s.GetOrCreateSession sid refresh nowMs = (r, after)) :
    after.contents = s.contents ∧ after.QueuesDrained ∧
      ∀ sq, r = .ok sq → ∃ session, after.sessions.lookup sid = some session ∧ session.queue = sq := by
  unfold SessionManager.GetOrCreateSession at result
  rcases got : s.GetSession sid refresh nowMs with ⟨⟨sq?, err⟩, middle⟩
  obtain ⟨-, sessions, -, registered⟩ := GetSession_spec got
  have middleContents := contents_of_sessions sessions
  have middleDrained := drained.of_sessions sessions
  rw [got] at result
  cases sq? with
  | some sq =>
    cases result
    refine ⟨middleContents, middleDrained, ?_⟩
    intro returned same
    rw [sessions]
    exact registered returned (by cases same; rfl)
  | none =>
    cases err with
    | some err =>
      cases result
      exact ⟨middleContents, middleDrained, by simp⟩
    | none =>
      -- nothing is registered under the id: a session is created, empty
      simp only at result
      unfold createSessionQueue at result
      cases found : middle.sessions.lookup sid with
      | some existing =>
        rw [found] at result
        cases result
        exact ⟨middleContents, middleDrained, fun sq same => ⟨existing, found, by cases same; rfl⟩⟩
      | none =>
        rw [found] at result
        by_cases dead : middle.deadSessionIDs.Exists sid = true
        · rw [if_pos dead] at result
          cases result
          exact ⟨middleContents, middleDrained, by simp⟩
        · rw [if_neg dead] at result
          cases result
          refine ⟨?_, middleDrained.insert (SessionQueue.drained_of_live rfl) rfl, ?_⟩
          · funext other topic
            rw [contents_of_insert _ rfl, ← middleContents]
            split_ifs with same
            · rw [same, contents_of_lookup_none found]
              exact contents_NewSessionQueue _ topic
            · rfl
          · intro sq same
            cases same
            exact ⟨_, AList.lookup_insert _, rfl⟩

/-- The sessions the releasing loop of the cleaner leaves. -/
theorem sessions_releaseQueues
    (queues : List SessionQueue)
    (s : SessionManager) :
    (s.releaseQueues queues).sessions = s.sessions := by
  induction queues generalizing s with
  | nil => rfl
  | cons sq rest inductionHypothesis =>
    rw [releaseQueues, inductionHypothesis, releaseBytes_eq]

/-- A session registered after a cleaning round was registered before it. -/
theorem lookup_cleanInactiveSession
    {session : Session}
    (found : (s.cleanInactiveSession nowMs).sessions.lookup sid = some session) :
    s.sessions.lookup sid = some session := by
  unfold SessionManager.cleanInactiveSession at found
  dsimp only at found
  generalize loop : cleanInactiveLoop (s.normalizedNowTimestamp nowMs)
    (s.config.sessionExpireSeconds.tdiv s.config.normalizeActiveSeconds) nowMs
    (min s.activeSessionIDs.length cleanStep) s [] = result at found
  obtain ⟨middle, inactive⟩ := result
  obtain ⟨-, -, shrunk, -⟩ := cleanInactiveLoop_spec loop
  rw [sessions_releaseQueues] at found
  exact shrunk sid session found

/-! ## Push, pop and peek: routed to one session queue -/

/-- How a push, pop or peek on `s` naming `sid` ends in `after`, returning
`returned`.  Either it fails before the queue, changing no topic and showing
none a step; or it makes the queue call `c` on the session registered under
`sid`, perhaps just created, and writes the queue back. -/
def Routed (s : SessionManager) (sid : String) (c : Call) (returned : Returned)
    (after : SessionManager) : Prop :=
  (after.contents = s.contents ∧ after.QueuesDrained ∧ ∀ watched, seenBy watched (c, returned) = .idle) ∨
    ∃ (middle : SessionManager) (session : Session), middle.contents = s.contents ∧ middle.QueuesDrained ∧
      middle.sessions.lookup sid = some session ∧ returned = (session.queue.call c).1 ∧
      after.sessions = (middle.setQueue sid (session.queue.call c).2).sessions

/-- A routed call steps each topic of its session as the queue call does, and
no other session's. -/
theorem Routed.step
    {c : Call}
    {returned : Returned}
    (routed : Routed s sid c returned after)
    (watchedSid watched : String) :
    Fifo.Step (s.contents watchedSid watched)
        (if sid = watchedSid then seenBy watched (c, returned) else .idle)
        (after.contents watchedSid watched) ∧ after.QueuesDrained := by
  rcases routed with ⟨contentsKept, afterDrained, unseen⟩ | ⟨middle, session, contentsKept,
    middleDrained, found, rfl, written⟩
  · rw [contentsKept, unseen, ite_self]
    exact ⟨Fifo.step_idle _, afterDrained⟩
  · have queueDrained := middleDrained sid session found
    rw [setQueue_of_lookup found] at written
    refine ⟨?_, middleDrained.insert (queueDrained.call c "").2 written⟩
    rw [← contentsKept, contents_of_insert _ written]
    -- the session's own topics take the queue's step, the others none
    by_cases same : sid = watchedSid
    · subst same
      rw [if_pos rfl, if_pos rfl, contents_of_lookup found]
      exact (queueDrained.call c watched).1
    · rw [if_neg same, if_neg (Ne.symm same)]
      exact Fifo.step_idle _

theorem Push_routed
    (drained : s.QueuesDrained)
    (sid topic : String)
    (message : Message)
    (timeout nowMs : Int) :
    Routed s sid (.push topic message) (.pushed (s.Push sid topic message timeout nowMs).1)
      (s.Push sid topic message timeout nowMs).2 := by
  unfold SessionManager.Push
  rcases created : s.GetOrCreateSession sid false nowMs with ⟨r, middle⟩
  obtain ⟨contentsKept, middleDrained, registered⟩ := GetOrCreateSession_frame drained created
  cases r with
  | error err => exact .inl ⟨contentsKept, middleDrained, fun _ => rfl⟩
  | ok sq =>
    obtain ⟨session, found, rfl⟩ := registered sq rfl
    dsimp only
    rcases prefetched : middle.memControl.Prefetch message.ByteSize timeout with
      ⟨⟨ok, leftTimeout⟩, mc⟩
    cases ok with
    | false =>
      -- the global budget refuses the message: the queue is not reached
      exact .inl ⟨contentsKept, middleDrained.of_sessions rfl, fun _ => rfl⟩
    | true =>
      right
      refine ⟨middle, session, contentsKept, middleDrained, found, ?_, ?_⟩ <;>
        rcases pushed : session.queue.Push topic message with ⟨err, sq'⟩ <;>
        cases err <;>
        simp only [SessionQueue.call, pushed, Bool.not_true, Bool.false_eq_true, if_false] <;>
        exact setQueue_sessions_of_sessions
          (show ({ middle with memControl := mc } : SessionManager).sessions = middle.sessions from rfl) sq'

theorem Pop_routed
    (drained : s.QueuesDrained)
    (sid topic : String)
    (nowMs : Int) :
    Routed s sid (.pop topic) (.popped (s.Pop sid topic nowMs).1.1 (s.Pop sid topic nowMs).1.2)
      (s.Pop sid topic nowMs).2 := by
  unfold SessionManager.Pop
  rcases created : s.GetOrCreateSession sid true nowMs with ⟨r, middle⟩
  obtain ⟨contentsKept, middleDrained, registered⟩ := GetOrCreateSession_frame drained created
  cases r with
  | error err => exact .inl ⟨contentsKept, middleDrained, fun _ => rfl⟩
  | ok sq =>
    obtain ⟨session, found, rfl⟩ := registered sq rfl
    right
    refine ⟨middle, session, contentsKept, middleDrained, found, ?_, ?_⟩ <;>
      rcases popped : session.queue.Pop topic with ⟨⟨message, err⟩, sq'⟩ <;>
      cases message <;>
      simp only [SessionQueue.call, popped]

theorem Peek_routed
    (drained : s.QueuesDrained)
    (sid topic : String)
    (nowMs : Int) :
    Routed s sid (.peek topic) (.popped (s.Peek sid topic nowMs).1.1 (s.Peek sid topic nowMs).1.2)
      (s.Peek sid topic nowMs).2 := by
  unfold SessionManager.Peek
  rcases created : s.GetOrCreateSession sid true nowMs with ⟨r, middle⟩
  obtain ⟨contentsKept, middleDrained, registered⟩ := GetOrCreateSession_frame drained created
  cases r with
  | error err => exact .inl ⟨contentsKept, middleDrained, fun _ => rfl⟩
  | ok sq =>
    obtain ⟨session, found, rfl⟩ := registered sq rfl
    right
    refine ⟨middle, session, contentsKept, middleDrained, found, ?_, ?_⟩ <;>
      rcases peeked : session.queue.Peek topic with ⟨⟨message, err⟩, sq'⟩ <;>
      cases message <;>
      simp only [SessionQueue.call, peeked]

/-! ## Every call -/

namespace QueuesDrained

theorem ReleaseTopic
    (drained : s.QueuesDrained)
    (sid topic : String)
    (nowMs : Int)
    (watchedSid watched : String) :
    Fifo.Step (s.contents watchedSid watched)
        (seenAt watchedSid watched s (.releaseTopic sid topic nowMs))
        ((s.ReleaseTopic sid topic nowMs).contents watchedSid watched) ∧
      (s.ReleaseTopic sid topic nowMs).QueuesDrained := by
  simp only [seenAt]
  unfold SessionManager.ReleaseTopic
  rcases got : s.GetSession sid false nowMs with ⟨⟨sq?, err⟩, middle⟩
  obtain ⟨-, sessions, -, registered⟩ := GetSession_spec got
  cases sq? with
  | none =>
    -- nothing is registered under the id, so its topics hold nothing
    refine ⟨?_, drained.of_sessions sessions⟩
    rw [contents_of_sessions sessions]
    split_ifs with named
    · obtain ⟨rfl, rfl⟩ := named
      rw [contents_of_lookup_none (GetSession_none got)]
      exact Fifo.step_clear _
    · exact Fifo.step_idle _
  | some sq =>
    obtain ⟨session, found, rfl⟩ := registered sq rfl
    rw [← sessions] at found
    have routed : Routed s sid (.releaseTopic topic) (session.queue.call (.releaseTopic topic)).1
        (s.ReleaseTopic sid topic nowMs) := by
      refine .inr ⟨middle, session, contents_of_sessions sessions, drained.of_sessions sessions,
        found, rfl, ?_⟩
      simp only [SessionManager.ReleaseTopic, got, releaseBytes_eq, SessionQueue.call]
    have released := routed.step watchedSid watched
    simp only [SessionManager.ReleaseTopic, got] at released
    rw [ite_and]
    exact released

theorem ReleaseSession
    (drained : s.QueuesDrained)
    (sid : String)
    (nowMs : Int)
    (watchedSid watched : String) :
    Fifo.Step (s.contents watchedSid watched) (seenAt watchedSid watched s (.releaseSession sid nowMs))
        ((s.ReleaseSession sid nowMs).contents watchedSid watched) ∧
      (s.ReleaseSession sid nowMs).QueuesDrained := by
  simp only [seenAt]
  unfold SessionManager.ReleaseSession
  rcases got : s.GetSession sid false nowMs with ⟨⟨sq?, err⟩, middle⟩
  obtain ⟨-, sessions, -, registered⟩ := GetSession_spec got
  cases sq? with
  | none =>
    refine ⟨?_, drained.of_sessions sessions⟩
    rw [contents_of_sessions sessions]
    split_ifs with named
    · subst named
      rw [contents_of_lookup_none (GetSession_none got)]
      exact Fifo.step_clear _
    · exact Fifo.step_idle _
  | some sq =>
    -- the session is unregistered: all its topics are emptied, no other
    have erased : ((middle.deleteSessionQueue sid nowMs).releaseBytes sq.ReleaseSession.1).sessions =
        s.sessions.erase sid := by
      rw [releaseBytes_eq, ← sessions]
      rfl
    refine ⟨?_, drained.erase erased⟩
    rw [contents_of_erase erased]
    by_cases same : sid = watchedSid
    · subst same
      rw [if_pos rfl, if_pos rfl]
      exact Fifo.step_clear _
    · rw [if_neg same, if_neg (Ne.symm same)]
      exact Fifo.step_idle _

theorem cleanInactiveSession
    (drained : s.QueuesDrained)
    (nowMs : Int)
    (watchedSid watched : String) :
    Fifo.Step (s.contents watchedSid watched) (seenAt watchedSid watched s (.cleanInactiveSession nowMs))
        ((s.cleanInactiveSession nowMs).contents watchedSid watched) ∧
      (s.cleanInactiveSession nowMs).QueuesDrained := by
  simp only [seenAt]
  refine ⟨?_, fun other session found => drained other session (lookup_cleanInactiveSession found)⟩
  -- a session the round leaves registered is the one it found
  cases kept : (s.cleanInactiveSession nowMs).sessions.lookup watchedSid with
  | none =>
    rw [Option.isNone_none, if_pos rfl, contents_of_lookup_none kept]
    exact Fifo.step_clear _
  | some session =>
    rw [Option.isNone_some, if_neg Bool.false_ne_true, contents_of_lookup kept,
      contents_of_lookup (lookup_cleanInactiveSession kept)]
    exact Fifo.step_idle _

/-- Every call of the manager steps every topic of every session as a FIFO
channel, and keeps the registered queues drained. -/
theorem step
    (drained : s.QueuesDrained)
    (op : Op)
    (sid topic : String) :
    Fifo.Step (s.contents sid topic) (seenAt sid topic s op) ((s.step op).contents sid topic) ∧
      (s.step op).QueuesDrained := by
  cases op with
  | push sid' topic' message timeout nowMs =>
    exact (Push_routed drained sid' topic' message timeout nowMs).step sid topic
  | pop sid' topic' nowMs => exact (Pop_routed drained sid' topic' nowMs).step sid topic
  | peek sid' topic' nowMs => exact (Peek_routed drained sid' topic' nowMs).step sid topic
  | releaseTopic sid' topic' nowMs => exact drained.ReleaseTopic sid' topic' nowMs sid topic
  | releaseSession sid' nowMs => exact drained.ReleaseSession sid' nowMs sid topic
  | cleanInactiveSession nowMs => exact drained.cleanInactiveSession nowMs sid topic
  | cleanDeadSessionIDs nowMs => exact ⟨Fifo.step_idle _, drained.of_sessions rfl⟩

/-- Every run of the manager runs every topic of every session as a FIFO
channel. -/
theorem run
    (drained : s.QueuesDrained)
    (ops : List Op)
    (sid topic : String) :
    Fifo.Transitions (s.contents sid topic) (cyclesAt sid topic s ops)
        ((s.run ops).contents sid topic) ∧ (s.run ops).QueuesDrained := by
  induction ops generalizing s with
  | nil => exact ⟨.nil _, drained⟩
  | cons op ops inductionHypothesis =>
    -- the rest of the run starts from the manager the first call left
    obtain ⟨first, firstDrained⟩ := drained.step op sid topic
    obtain ⟨later, finalDrained⟩ := inductionHypothesis firstDrained
    exact ⟨.cons first later, finalDrained⟩

end QueuesDrained

theorem NewSessionManager_queuesDrained
    (config : Config) :
    (NewSessionManager config).QueuesDrained := by
  intro sid session found
  simp [NewSessionManager] at found

end SessionManager

/-- From a manager whose registered queues hold no message once released (a
new manager, for one), the messages pops and peeks return for a topic of a
session, followed by those it still holds, are those it held followed by those
successful pushes put in it, in push order.  This holds over any run in which
no call releases the topic or the session and no cleaning round leaves the
session unregistered. -/
theorem session_topic_delivers_in_push_order
    (s : SessionManager)
    (start : s.QueuesDrained)
    (ops : List Op)
    (sid topic : String)
    (kept : ∀ cycle ∈ cyclesAt sid topic s ops, cycle.reset = false) :
    s.contents sid topic ++ pushedAt sid topic s ops =
      poppedAt sid topic s ops ++ (s.run ops).contents sid topic :=
  (start.run ops sid topic).1.conservation kept

/-- Two sessions share topic names; session `s1` is created by a pop, filled,
drained in part, and survives a cleaning round. -/
def twoSessionOps : List Op :=
  [.pop "s1" "a" 0, .push "s1" "a" ⟨6, by decide, 1⟩ 1 1000, .push "s2" "a" ⟨7, by decide, 2⟩ 1 1000,
    .push "s1" "b" ⟨2, by decide, 3⟩ 1 2000, .push "s1" "a" ⟨8, by decide, 4⟩ 1 3000,
    .peek "s1" "a" 4000, .releaseTopic "s2" "a" 5000, .cleanInactiveSession 6000,
    .pop "s1" "a" 7000]

theorem session_topic_delivers_in_push_order_twoSessions :
    (NewSessionManager DefaultMsgConfig).QueuesDrained ∧
      (∀ cycle ∈ cyclesAt "s1" "a" (NewSessionManager DefaultMsgConfig) twoSessionOps,
        cycle.reset = false) ∧
      (NewSessionManager DefaultMsgConfig).contents "s1" "a" ++
          pushedAt "s1" "a" (NewSessionManager DefaultMsgConfig) twoSessionOps =
        poppedAt "s1" "a" (NewSessionManager DefaultMsgConfig) twoSessionOps ++
          ((NewSessionManager DefaultMsgConfig).run twoSessionOps).contents "s1" "a" :=
  have kept : ∀ cycle ∈ cyclesAt "s1" "a" (NewSessionManager DefaultMsgConfig) twoSessionOps,
      cycle.reset = false := by decide
  ⟨SessionManager.NewSessionManager_queuesDrained _, kept,
    session_topic_delivers_in_push_order _ (SessionManager.NewSessionManager_queuesDrained _)
      twoSessionOps "s1" "a" kept⟩

end Kuscia.Msq
