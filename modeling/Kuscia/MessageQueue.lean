import Kuscia.GoMap
import Kuscia.GoHeap

namespace Kuscia.Msq

/-!
# The transport message queue

`pkg/transport/msq` buffers messages per session and per topic under two byte
budgets: a per-session limit that each `SessionQueue` keeps, and a global
limit that `MemControl` keeps and that `SessionManager.Push` reserves from
before it pushes.  Every session has an activity mark in a min-heap on
normalized timestamps; a cleaner pops expired marks and releases their
sessions, and `DeadSessionID` remembers released session ids for a while so
that a late request cannot bring them back.

The model is sequential: each exported method runs to completion before the
next one starts.  A blocking wait (for session buffer, for a message, or for
global budget) can then only end by its timeout with the awaited condition
still false, because only another goroutine could change it.  The clock is an
argument: `nowMs` is `time.Now().UnixMilli()` at the call.  A Go pointer that
two structures share, a session's `ActiveMark` and its heap entry, is
modelled by the identity `uid` of the entry.  Go's integer division
truncates, hence `Int.tdiv`.
-/

/-- The `transerr` codes the queue returns. -/
inductive ErrorCode where
  | sessionReleased
  | bufferOverflow
  deriving Repr, DecidableEq

/-! ## Configuration (`config.go`) -/

def cleanStep : Nat := 100

def minTotalByteSizeLimit : UInt64 := 1024 * 1024 * 100
def minPerSessionByteSizeLimit : UInt64 := 1024 * 1024

def minDeadSessionIDExpireSeconds : Int := 600
def maxDeadSessionIDExpireSeconds : Int := 3600

def minSessionExpireSeconds : Int := 120
def maxSessionExpireSeconds : Int := 1800

def minNormalizeActiveSeconds : Int := 1
def maxNormalizeActiveSeconds : Int := 10

def minCleanIntervalSeconds : Int := 30
def maxCleanIntervalSeconds : Int := 600

structure Config where
  totalByteSizeLimit : UInt64
  perSessionByteSizeLimit : UInt64
  topicQueueCapacity : Int
  deadSessionIDExpireSeconds : Int
  sessionExpireSeconds : Int
  normalizeActiveSeconds : Int
  cleanIntervalSeconds : Int
  deriving Repr, DecidableEq

def DefaultMsgConfig : Config where
  totalByteSizeLimit := 1024 * 1024 * 1024 * 16
  perSessionByteSizeLimit := 1024 * 1024 * 60
  topicQueueCapacity := 5
  deadSessionIDExpireSeconds := 1800
  sessionExpireSeconds := 600
  normalizeActiveSeconds := 4
  cleanIntervalSeconds := 120

/-- `adjustInt64`: clamp into `[lo, hi]`. -/
def adjustInt64 (v lo hi : Int) : Int :=
  let v := if v < lo then lo else v
  if v > hi then hi else v

/-- `Config.Check`.  Go adjusts the accepted configuration in place; here the
adjusted configuration is the result. -/
def Config.Check (c : Config) : Except String Config :=
  let total := c.totalByteSizeLimit
  let perSession := c.perSessionByteSizeLimit
  if total < minTotalByteSizeLimit then
    .error s!"TotalByteSizeLimit({total}) of msq should greater than {minTotalByteSizeLimit}"
  else if perSession > total then
    .error s!"PerSessionByteSizeLimit({perSession}) of msq should less than TotalByteSizeLimit({total})"
  else if perSession < minPerSessionByteSizeLimit then
    .error s!"PerSessionByteSizeLimit({perSession}) of msq should greater than {minPerSessionByteSizeLimit}"
  else
    .ok { c with
      deadSessionIDExpireSeconds := adjustInt64 c.deadSessionIDExpireSeconds
        minDeadSessionIDExpireSeconds maxDeadSessionIDExpireSeconds
      sessionExpireSeconds := adjustInt64 c.sessionExpireSeconds
        minSessionExpireSeconds maxSessionExpireSeconds
      normalizeActiveSeconds := adjustInt64 c.normalizeActiveSeconds
        minNormalizeActiveSeconds maxNormalizeActiveSeconds
      cleanIntervalSeconds := adjustInt64 c.cleanIntervalSeconds
        minCleanIntervalSeconds maxCleanIntervalSeconds }

/-! ## Messages and topics (`topic_queue.go`) -/

/-- A message, as the `*Message` the queue stores and hands back: the pointer,
by its address, and the length of its content, which is all of the content the
queue reads; the length of a Go slice is an `int`, below `2^63`. -/
structure Message where
  contentLength : Nat
  lengthBound : contentLength < 2 ^ 63
  address : Nat

def Message.ByteSize (m : Message) : UInt64 :=
  UInt64.ofNat m.contentLength

structure Topic where
  byteSize : UInt64
  queue : List Message

/-- `NewTopicQueue`; the capacity is only an allocation hint. -/
def NewTopicQueue : Topic :=
  ⟨0, []⟩

def Topic.Push (t : Topic) (message : Message) : Topic :=
  ⟨t.byteSize + message.ByteSize, t.queue ++ [message]⟩

def Topic.Pop (t : Topic) : Option Message × Topic :=
  match t.queue with
  | [] => (none, t)
  | message :: rest => (some message, ⟨t.byteSize - message.ByteSize, rest⟩)

def Topic.Len (t : Topic) : Nat :=
  t.queue.length

/-! ## Session queues (`session_queue.go`) -/

/-- `SessionQueue`; the mutex and condition variables only order goroutines.
Go sets `topics` to `nil` on release, which reads as the empty map. -/
structure SessionQueue where
  byteSizeLimit : UInt64
  byteSize : UInt64
  topicQueueCapacity : Int
  released : Bool
  topics : Go.Map String Topic

def NewSessionQueue (config : Config) : SessionQueue where
  byteSizeLimit := config.perSessionByteSizeLimit
  byteSize := 0
  topicQueueCapacity := config.topicQueueCapacity
  released := false
  topics := ∅

namespace SessionQueue

def availableToPush (s : SessionQueue) (message : Message) : Bool :=
  s.byteSize + message.ByteSize ≤ s.byteSizeLimit

def availableToPop (s : SessionQueue) (topic : String) : Bool :=
  match s.topics.lookup topic with
  | some topicQueue => topicQueue.Len != 0
  | none => false

/-- `getTopic`: the topic, created empty if missing. -/
def getTopic (s : SessionQueue) (topic : String) : Topic × SessionQueue :=
  match s.topics.lookup topic with
  | some topicQueue => (topicQueue, s)
  | none => (NewTopicQueue, { s with topics := s.topics.insert topic NewTopicQueue })

def innerPush (s : SessionQueue) (topic : String) (message : Message) : SessionQueue :=
  let (topicQueue, s) := s.getTopic topic
  { s with
    topics := s.topics.insert topic (topicQueue.Push message)
    byteSize := s.byteSize + message.ByteSize }

def innerPop (s : SessionQueue) (topic : String) : Option Message × SessionQueue :=
  let (topicQueue, s) := s.getTopic topic
  let (message, topicQueue) := topicQueue.Pop
  let s := { s with topics := s.topics.insert topic topicQueue }
  match message with
  | some message => (some message, { s with byteSize := s.byteSize - message.ByteSize })
  | none => (none, s)

/-- `waitUntil` in a sequential run: the check as it stands, since a wait
that starts ends by its timeout with the check unchanged. -/
def waitUntil (s : SessionQueue) (check : Bool) : Except ErrorCode Bool :=
  if s.released then .error .sessionReleased else .ok check

/-- `Push` (`tryPush`); its timeout only bounds a wait, which times out. -/
def Push (s : SessionQueue) (topic : String) (message : Message) :
    Option ErrorCode × SessionQueue :=
  if message.ByteSize > s.byteSizeLimit then (some .bufferOverflow, s)
  else
    match s.waitUntil (s.availableToPush message) with
    | .error err => (some err, s)
    | .ok false => (some .bufferOverflow, s)
    | .ok true => (none, s.innerPush topic message)

/-- `Pop` (`tryPop`): no message and no error when the wait times out. -/
def Pop (s : SessionQueue) (topic : String) :
    (Option Message × Option ErrorCode) × SessionQueue :=
  match s.waitUntil (s.availableToPop topic) with
  | .error err => ((none, some err), s)
  | .ok false => ((none, none), s)
  | .ok true =>
    let (message, s) := s.innerPop topic
    ((message, none), s)

def Peek (s : SessionQueue) (topic : String) :
    (Option Message × Option ErrorCode) × SessionQueue :=
  if s.released then ((none, some .sessionReleased), s)
  else if s.availableToPop topic then
    match s.innerPop topic with
    | (some message, s) => ((some message, none), s)
    | (none, s) => ((none, none), s)
  else ((none, none), s)

/-- `ReleaseTopic`: drop a topic and return its bytes. -/
def ReleaseTopic (s : SessionQueue) (topic : String) : UInt64 × SessionQueue :=
  if s.released then (0, s)
  else
    match s.topics.lookup topic with
    | none => (0, s)
    | some topicQueue =>
      (topicQueue.byteSize,
        { s with byteSize := s.byteSize - topicQueue.byteSize, topics := s.topics.erase topic })

/-- `ReleaseSession`: mark released, drop every topic, return the bytes. -/
def ReleaseSession (s : SessionQueue) : UInt64 × SessionQueue :=
  (s.byteSize, { s with released := true, topics := ∅, byteSize := 0 })

end SessionQueue

/-! ## The global budget (`mem_control.go`) -/

structure MemControl where
  totalByteSizeLimit : UInt64
  totalByteSize : UInt64

def NewMemControl (config : Config) : MemControl :=
  ⟨config.totalByteSizeLimit, 0⟩

namespace MemControl

def availableToPush (mc : MemControl) (byteSize : UInt64) : Bool :=
  mc.totalByteSize + byteSize ≤ mc.totalByteSizeLimit

/-- `Prefetch`: reserve `byteSize` and return the time left.  When the budget
is short Go either gives up at once (a message above the limit) or waits,
and a sequential wait times out; both return `false` with the timeout as it
was.  An immediate reservation with a zero timeout is refused too. -/
def Prefetch (mc : MemControl) (byteSize : UInt64) (timeout : Int) :
    (Bool × Int) × MemControl :=
  let leftTimeout := timeout
  if !mc.availableToPush byteSize || leftTimeout == 0 then ((false, leftTimeout), mc)
  else ((true, leftTimeout), { mc with totalByteSize := mc.totalByteSize + byteSize })

def Release (mc : MemControl) (byteSize : UInt64) : MemControl :=
  { mc with totalByteSize := mc.totalByteSize - byteSize }

end MemControl

/-! ## Session id heaps (`session_id_pqueue.go`, `dead_session_id.go`) -/

/-- `SessionIDItem`, with the identity `uid` of the Go pointer. -/
structure SessionIDItem where
  sid : String
  index : Int
  timestamp : Int
  uid : Nat
  deriving Repr, DecidableEq, Inhabited

def NewSessionIDItem (id : String) (t : Int) (uid : Nat) : SessionIDItem :=
  ⟨id, -1, t, uid⟩

/-- `SessionIDPQ`: the heap array; the oldest timestamp comes first. -/
abbrev SessionIDPQ := List SessionIDItem

namespace SessionIDPQ

def Less (pq : SessionIDPQ) (i j : Nat) : Bool :=
  (pq.getD i default).timestamp < (pq.getD j default).timestamp

/-- `Swap` exchanges two entries and records their new positions. -/
def Swap (pq : SessionIDPQ) (i j : Nat) : SessionIDPQ :=
  let a := pq.getD i default
  let b := pq.getD j default
  (pq.set i { b with index := i }).set j { a with index := j }

def Push (pq : SessionIDPQ) (item : SessionIDItem) : SessionIDPQ :=
  pq ++ [{ item with index := pq.length }]

def Pop (pq : SessionIDPQ) : SessionIDItem × SessionIDPQ :=
  ({ pq.getLast?.getD default with index := -1 }, pq.dropLast)

def heapInterface : GoHeap.Interface SessionIDPQ SessionIDItem :=
  ⟨List.length, Less, Swap, Push, Pop⟩

end SessionIDPQ

structure DeadSessionID where
  expiredMs : Int
  sids : Go.Map String Unit
  pq : SessionIDPQ

def NewDeadSessionID (config : Config) : DeadSessionID :=
  ⟨config.deadSessionIDExpireSeconds * 1000, ∅, []⟩

namespace DeadSessionID

/-- `Push`: remember a released sid, once; nothing points at the entry, so its
identity is irrelevant. -/
def Push (ds : DeadSessionID) (sid : String) (nowMs : Int) : DeadSessionID :=
  if (ds.sids.lookup sid).isSome then ds
  else
    { ds with
      sids := ds.sids.insert sid ()
      pq := GoHeap.Push SessionIDPQ.heapInterface ds.pq (NewSessionIDItem sid nowMs 0) }

def Exists (ds : DeadSessionID) (sid : String) : Bool :=
  (ds.sids.lookup sid).isSome

/-- The loop of `Clean`, over at most `count` entries. -/
def cleanLoop (currentMs : Int) : Nat → DeadSessionID → DeadSessionID
  | 0, ds => ds
  | count + 1, ds =>
    let item := ds.pq.getD 0 default
    if currentMs - item.timestamp < ds.expiredMs then ds
    else
      cleanLoop currentMs count
        { ds with
          pq := (GoHeap.Pop SessionIDPQ.heapInterface ds.pq).2
          sids := ds.sids.erase item.sid }

def Clean (ds : DeadSessionID) (currentMs : Int) : DeadSessionID :=
  cleanLoop currentMs (min ds.pq.length cleanStep) ds

end DeadSessionID

/-! ## The session manager (`session_manager.go`) -/

/-- `Session`: its queue and the identity of its `ActiveMark` heap entry. -/
structure Session where
  queue : SessionQueue
  activeMark : Nat

/-- `SessionManager`; `nextUid` hands out the identities of new heap entries. -/
structure SessionManager where
  config : Config
  sessions : Go.Map String Session
  deadSessionIDs : DeadSessionID
  activeSessionIDs : SessionIDPQ
  memControl : MemControl
  nextUid : Nat

def NewSessionManager (config : Config) : SessionManager where
  config := config
  sessions := ∅
  deadSessionIDs := NewDeadSessionID config
  activeSessionIDs := []
  memControl := NewMemControl config
  nextUid := 0

namespace SessionManager

/-- `normalizedNowTimestamp`: `time.Now().Unix() / NormalizeActiveSeconds`. -/
def normalizedNowTimestamp (s : SessionManager) (nowMs : Int) : Int :=
  (nowMs.tdiv 1000).tdiv s.config.normalizeActiveSeconds

/-- Write back a queue that a method changed through the pointer
`sessions[sid].Queue`. -/
def setQueue (s : SessionManager) (sid : String) (sq : SessionQueue) : SessionManager :=
  match s.sessions.lookup sid with
  | some session => { s with sessions := s.sessions.insert sid { session with queue := sq } }
  | none => s

/-- `memControl.Release` of the bytes a release returned, when there are any. -/
def releaseBytes (s : SessionManager) (byteSize : UInt64) : SessionManager :=
  if byteSize > 0 then { s with memControl := s.memControl.Release byteSize } else s

/-- `getSessionAndVerifyRefresh`.  Go's `refresh = true` under `refresh` is a
no-op, so the flag comes back as it went in. -/
def getSessionAndVerifyRefresh (s : SessionManager) (sid : String) (refresh : Bool) :
    Option SessionQueue × Bool :=
  match s.sessions.lookup sid with
  | none => (none, refresh)
  | some session => (some session.queue, refresh)

/-- Set the timestamp of the entry `uid` and `heap.Fix` it at its recorded
index; `heap.Fix` at index `-1` (a popped entry) changes nothing. -/
def refreshMark (pq : SessionIDPQ) (uid : Nat) (now : Int) : SessionIDPQ :=
  let updated := pq.map fun item => if item.uid = uid then { item with timestamp := now } else item
  match pq.find? (·.uid = uid) with
  | some item =>
    if item.index < 0 then updated
    else GoHeap.Fix SessionIDPQ.heapInterface updated item.index.toNat
  | none => updated

def GetSession (s : SessionManager) (sid : String) (refresh : Bool) (nowMs : Int) :
    (Option SessionQueue × Option ErrorCode) × SessionManager :=
  match s.getSessionAndVerifyRefresh sid refresh with
  | (none, _) => ((none, none), s)
  | (some sq, false) => ((some sq, none), s)
  | (some _, true) =>
    match s.sessions.lookup sid with
    | none => ((none, some .sessionReleased), s)
    | some session =>
      ((some session.queue, none),
        { s with
          activeSessionIDs :=
            refreshMark s.activeSessionIDs session.activeMark (s.normalizedNowTimestamp nowMs) })

/-- `createSessionQueue`.  Go's panic on an entry still at index `-1` after
`heap.Push` cannot fire: `Push` records the entry's position. -/
def createSessionQueue (s : SessionManager) (sid : String) (nowMs : Int) :
    Except ErrorCode SessionQueue × SessionManager :=
  match s.sessions.lookup sid with
  | some ss => (.ok ss.queue, s)
  | none =>
    if s.deadSessionIDs.Exists sid then (.error .sessionReleased, s)
    else
      let sessionQueue := NewSessionQueue s.config
      let item := NewSessionIDItem sid (s.normalizedNowTimestamp nowMs) s.nextUid
      (.ok sessionQueue,
        { s with
          activeSessionIDs := GoHeap.Push SessionIDPQ.heapInterface s.activeSessionIDs item
          sessions := s.sessions.insert sid ⟨sessionQueue, item.uid⟩
          nextUid := s.nextUid + 1 })

/-- `GetOrCreateSession`; it returns a queue or an error, never neither. -/
def GetOrCreateSession (s : SessionManager) (sid : String) (refresh : Bool) (nowMs : Int) :
    Except ErrorCode SessionQueue × SessionManager :=
  match s.GetSession sid refresh nowMs with
  | ((some sq, _), s) => (.ok sq, s)
  | ((none, some err), s) => (.error err, s)
  | ((none, none), s) => s.createSessionQueue sid nowMs

def deleteSessionQueue (s : SessionManager) (sid : String) (nowMs : Int) : SessionManager :=
  { s with
    deadSessionIDs := s.deadSessionIDs.Push sid nowMs
    sessions := s.sessions.erase sid }

def Push (s : SessionManager) (sid topic : String) (message : Message) (timeout nowMs : Int) :
    Option ErrorCode × SessionManager :=
  match s.GetOrCreateSession sid false nowMs with
  | (.error err, s) => (some err, s)
  | (.ok sq, s) =>
    let ((ok, _), memControl) := s.memControl.Prefetch message.ByteSize timeout
    let s := { s with memControl }
    if !ok then (some .bufferOverflow, s)
    else
      let (err, sq) := sq.Push topic message
      let s := s.setQueue sid sq
      match err with
      | some err => (some err, { s with memControl := s.memControl.Release message.ByteSize })
      | none => (none, s)

def Pop (s : SessionManager) (sid topic : String) (nowMs : Int) :
    (Option Message × Option ErrorCode) × SessionManager :=
  match s.GetOrCreateSession sid true nowMs with
  | (.error err, s) => ((none, some err), s)
  | (.ok sq, s) =>
    let ((message, err), sq) := sq.Pop topic
    let s := s.setQueue sid sq
    match message with
    | some message =>
      ((some message, err), { s with memControl := s.memControl.Release message.ByteSize })
    | none => ((none, err), s)

def Peek (s : SessionManager) (sid topic : String) (nowMs : Int) :
    (Option Message × Option ErrorCode) × SessionManager :=
  match s.GetOrCreateSession sid true nowMs with
  | (.error err, s) => ((none, some err), s)
  | (.ok sq, s) =>
    let ((message, err), sq) := sq.Peek topic
    let s := s.setQueue sid sq
    match message with
    | some message =>
      ((some message, err), { s with memControl := s.memControl.Release message.ByteSize })
    | none => ((none, err), s)

def ReleaseTopic (s : SessionManager) (sid topic : String) (nowMs : Int) : SessionManager :=
  match s.GetSession sid false nowMs with
  | ((none, _), s) => s
  | ((some sq, _), s) =>
    let (topicByteSize, sq) := sq.ReleaseTopic topic
    (s.setQueue sid sq).releaseBytes topicByteSize

/-- `ReleaseSession`: unregister the session (its heap entry stays for the
cleaner), then release its bytes. -/
def ReleaseSession (s : SessionManager) (sid : String) (nowMs : Int) : SessionManager :=
  match s.GetSession sid false nowMs with
  | ((none, _), s) => s
  | ((some sq, _), s) =>
    let s := s.deleteSessionQueue sid nowMs
    s.releaseBytes sq.ReleaseSession.1

/-- The locked loop of `cleanInactiveSession`, over at most `count` entries:
pop each expired entry and unregister the session registered under its sid,
collecting that session's queue. -/
def cleanInactiveLoop (currentTimestamp expireDuration nowMs : Int) :
    Nat → SessionManager → List SessionQueue → SessionManager × List SessionQueue
  | 0, s, inactiveQueues => (s, inactiveQueues)
  | count + 1, s, inactiveQueues =>
    let item := s.activeSessionIDs.getD 0 default
    if currentTimestamp - item.timestamp < expireDuration then (s, inactiveQueues)
    else
      let activeSessionIDs := (GoHeap.Pop SessionIDPQ.heapInterface s.activeSessionIDs).2
      -- the session under the sid may have been released, or re-created since
      match s.sessions.lookup item.sid with
      | some session =>
        cleanInactiveLoop currentTimestamp expireDuration nowMs count
          { s with
            activeSessionIDs
            deadSessionIDs := s.deadSessionIDs.Push item.sid nowMs
            sessions := s.sessions.erase item.sid }
          (inactiveQueues ++ [session.queue])
      | none =>
        cleanInactiveLoop currentTimestamp expireDuration nowMs count
          { s with activeSessionIDs, sessions := s.sessions.erase item.sid }
          inactiveQueues

/-- The unlocked loop of `cleanInactiveSession`: release each collected queue. -/
def releaseQueues (s : SessionManager) : List SessionQueue → SessionManager
  | [] => s
  | sq :: rest => (s.releaseBytes sq.ReleaseSession.1).releaseQueues rest

def cleanInactiveSession (s : SessionManager) (nowMs : Int) : SessionManager :=
  let currentTimestamp := s.normalizedNowTimestamp nowMs
  let expireDuration := s.config.sessionExpireSeconds.tdiv s.config.normalizeActiveSeconds
  let count := min s.activeSessionIDs.length cleanStep
  let (s, inactiveQueues) := cleanInactiveLoop currentTimestamp expireDuration nowMs count s []
  s.releaseQueues inactiveQueues

/-- One round of `StartCleanLoop` on the dead sids. -/
def cleanDeadSessionIDs (s : SessionManager) (nowMs : Int) : SessionManager :=
  { s with deadSessionIDs := s.deadSessionIDs.Clean nowMs }

end SessionManager

/-- The calls of a sequential run; the clean loop's two rounds are calls too. -/
inductive Op where
  | push (sid topic : String) (message : Message) (timeout nowMs : Int)
  | pop (sid topic : String) (nowMs : Int)
  | peek (sid topic : String) (nowMs : Int)
  | releaseTopic (sid topic : String) (nowMs : Int)
  | releaseSession (sid : String) (nowMs : Int)
  | cleanInactiveSession (nowMs : Int)
  | cleanDeadSessionIDs (nowMs : Int)

namespace SessionManager

def step (s : SessionManager) : Op → SessionManager
  | .push sid topic message timeout nowMs => (s.Push sid topic message timeout nowMs).2
  | .pop sid topic nowMs => (s.Pop sid topic nowMs).2
  | .peek sid topic nowMs => (s.Peek sid topic nowMs).2
  | .releaseTopic sid topic nowMs => s.ReleaseTopic sid topic nowMs
  | .releaseSession sid nowMs => s.ReleaseSession sid nowMs
  | .cleanInactiveSession nowMs => s.cleanInactiveSession nowMs
  | .cleanDeadSessionIDs nowMs => s.cleanDeadSessionIDs nowMs

def run (s : SessionManager) (ops : List Op) : SessionManager :=
  ops.foldl step s

end SessionManager

/-- `ReleaseSession` leaves the session's heap entry behind, and `Check`
accepts a dead-sid window (600 s) shorter than the session expiry (1800 s).
Once the dead sid has expired the sid can be re-created, with a fresh entry
(normalized timestamp 150).  At normalized time 450 the cleaner pops the
stale entry (timestamp 0), looks the sid up, and reaps the fresh session,
whose own mark is only 300 old, less than the expiry of 450: its buffered
bytes are released and its next call fails with `SessionReleased`. -/
theorem cleaner_reaps_fresh_session :
    let config : Config :=
      { DefaultMsgConfig with deadSessionIDExpireSeconds := 600, sessionExpireSeconds := 1800 }
    let before := (NewSessionManager config).run
      [.pop "s" "t" 0, .releaseSession "s" 0, .cleanDeadSessionIDs 600000,
        .push "s" "t" ⟨5, by decide, 0⟩ 1 601000]
    let after := before.cleanInactiveSession 1800000
    config.Check = .ok config ∧
      (before.sessions.lookup "s").isSome ∧
      (∀ session ∈ before.sessions.lookup "s", ∀ mark ∈ before.activeSessionIDs,
        mark.uid = session.activeMark →
          before.normalizedNowTimestamp 1800000 - mark.timestamp <
            config.sessionExpireSeconds.tdiv config.normalizeActiveSeconds) ∧
      (after.sessions.lookup "s").isNone ∧
      before.memControl.totalByteSize = 5 ∧ after.memControl.totalByteSize = 0 ∧
      (after.Pop "s" "t" 1800001).1.2 = some .sessionReleased := by
  decide

end Kuscia.Msq
