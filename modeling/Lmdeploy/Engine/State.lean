import Mathlib.Data.List.Basic

/-! The state the engine's request handlers and output path read and write
(pytorch/engine/engine.py). A `SchedulerSequence` is an object: the scheduler keeps every
sequence it created in a heap keyed by `seq_id`, a session lists the ids of its sequences,
and a running batch lists ids too, so a batch in flight may still hold a sequence its
session has let go. A `Response` handle is shared with the client: the engine writes its
`type` and posts it through `req_manager.response`, and the posts are kept in order.

The scheduler's methods are not in this repository; each is modelled from the lifecycle
and state machine of the specification. -/
namespace Lmdeploy.Py

/-- `xs[-k:]`: the last `k` elements; `xs[-0:]` is all of `xs`. -/
def sliceFromNeg {α : Type} (xs : List α) (k : Nat) : List α :=
  if k = 0 then xs else xs.drop (xs.length - k)

theorem sliceFromNeg_append {α : Type} (h g : List α) (hg : g ≠ []) :
    sliceFromNeg (h ++ g) g.length = g := by
  have : g.length ≠ 0 := by simpa using hg
  simp [sliceFromNeg, this]

end Lmdeploy.Py

namespace Lmdeploy.Engine

inductive MessageStatus
  | waiting
  | running
  | locked
  | waitingMigration
  | migrationLocked
  | toBeMigrated
  | stopped
  deriving DecidableEq, Repr

inductive ResponseType
  | success
  | finish
  | sessionRepeat
  | sessionNotExist
  deriving DecidableEq, Repr

structure Sequence where
  seqId : Nat
  sessionId : Nat
  allIds : List Nat
  numNewTokens : Nat
  status : MessageStatus
  maxNewTokens : Int
  preserveCache : Bool
  /-- `migration_request.remote_token_id`, for a sequence admitted with a migration
  request. -/
  migrationRequest : Option Nat
  /-- `getattr(seq, 'resp', None)`: the handle `_add_message` attached. -/
  resp : Option Nat
  deriving DecidableEq, Repr

/-- `msg.resp` is set, and so is `msg.migration_request` while the sequence is
WAITING_MIGRATION. -/
def Sequence.Answerable (q : Sequence) : Prop :=
  q.resp.isSome ∧ (q.status = .waitingMigration → q.migrationRequest.isSome)

structure Session where
  sessionId : Nat
  sequences : List Nat
  deriving DecidableEq, Repr

structure Scheduler where
  sessions : List Session
  /-- Every sequence created so far, by `seq_id`; a new one gets the next free id. -/
  heap : List Sequence
  deriving DecidableEq, Repr

namespace Scheduler

def find? (s : Scheduler) (id : Nat) : Option Sequence := s.heap.find? (·.seqId = id)

def session? (s : Scheduler) (sid : Nat) : Option Session := s.sessions.find? (·.sessionId = sid)

def hasSession (s : Scheduler) (sid : Nat) : Bool := s.sessions.any (·.sessionId = sid)

def modify (s : Scheduler) (id : Nat) (g : Sequence → Sequence) : Scheduler :=
  { s with heap := s.heap.map fun q => if q.seqId = id then g q else q }

/-! Modelled from the spec: `setStatus` is `Scheduler._set_message_status`, and `addSession`,
`lockRunning`, `unlockRunning` and `lockRunningMigration` are the methods of those names. -/

def setStatus (s : Scheduler) (id : Nat) (st : MessageStatus) : Scheduler :=
  s.modify id fun q => { q with status := st }

def addSession (s : Scheduler) (sid : Nat) : Scheduler :=
  { s with sessions := s.sessions ++ [⟨sid, []⟩] }

/-- Modelled from the spec: `Scheduler.stop_session` stops every sequence of the session. -/
def stopSession (s : Scheduler) (sid : Nat) : Scheduler :=
  ((s.session? sid).map (·.sequences)).getD [] |>.foldl (fun s id => s.setStatus id .stopped) s

/-- Modelled from the spec: `Scheduler.end_session` frees the session, which leaves the
scheduler with its list of sequences. -/
def endSession (s : Scheduler) (sid : Nat) : Scheduler :=
  { s with sessions := s.sessions.filter (·.sessionId ≠ sid) }

/-- Modelled from the spec: `SchedulerSession.add_sequence` followed by
`Scheduler.add_sequence` keeps a WAITING sequence under the next free id, listed in its
session. -/
def addSequence (s : Scheduler) (q : Sequence) : Scheduler :=
  { sessions := s.sessions.map fun ss =>
      if ss.sessionId = q.sessionId then { ss with sequences := ss.sequences ++ [q.seqId] }
      else ss,
    heap := s.heap ++ [q] }

/-- Modelled from the spec: the scheduler moves the listed sequences that are in status `a`
to status `b`, one edge of its state machine. -/
def moveStatus (a b : MessageStatus) (s : Scheduler) (ids : List Nat) : Scheduler :=
  ids.foldl (fun s id => s.modify id fun q => if q.status = a then { q with status := b } else q) s

/-- Modelled from the spec: `Scheduler.schedule` moves the sequences it admits from WAITING
to RUNNING. -/
def schedule : Scheduler → List Nat → Scheduler := moveStatus .waiting .running

def lockRunning : Scheduler → List Nat → Scheduler := moveStatus .running .locked

def unlockRunning : Scheduler → List Nat → Scheduler := moveStatus .locked .running

def lockRunningMigration : Scheduler → List Nat → Scheduler :=
  moveStatus .waitingMigration .migrationLocked

/-- Modelled from the spec: `Scheduler.unlock_running_migration`, back to the RUNNING pool. -/
def unlockRunningMigration : Scheduler → List Nat → Scheduler :=
  moveStatus .migrationLocked .running

@[simp] theorem hasSession_addSequence (s : Scheduler) (q : Sequence) (sid : Nat) :
    (s.addSequence q).hasSession sid = s.hasSession sid := by
  simp only [hasSession, addSequence, List.any_map]
  congr 1
  funext ss
  simp only [Function.comp]
  split <;> rfl

theorem session?_isSome (s : Scheduler) (sid : Nat) :
    (s.session? sid).isSome = s.hasSession sid := by
  simp only [session?, hasSession]
  induction s.sessions with
  | nil => rfl
  | cons x xs ih => by_cases h : x.sessionId = sid <;> simp [List.find?_cons, h, ih]

@[simp] theorem hasSession_modify (s : Scheduler) (id : Nat) (g : Sequence → Sequence) :
    (s.modify id g).hasSession = s.hasSession := rfl

end Scheduler

structure State where
  scheduler : Scheduler
  /-- The `type` of each response handle the engine has written. -/
  respTypes : List (Nat × ResponseType)
  /-- Every `req_manager.response(resp)`: the handle and the type it carried, in order. -/
  posts : List (Nat × ResponseType)
  maxSessionLen : Int
  deriving DecidableEq, Repr

namespace State

def respType? (e : State) (r : Nat) : Option ResponseType :=
  (e.respTypes.find? (·.1 = r)).map (·.2)

def setRespType (e : State) (r : Nat) (t : ResponseType) : State :=
  { e with respTypes := (r, t) :: e.respTypes.filter (·.1 ≠ r) }

/-- `self.req_manager.response(resp)`: the handle is posted with the type it holds. -/
def post (e : State) (r : Nat) (t : ResponseType) : State :=
  { e with posts := e.posts ++ [(r, t)] }

/-- `_response`: a handle that already holds FINISH is left alone. -/
def response (e : State) (r : Nat) (t : ResponseType) : State :=
  if e.respType? r = some .finish then e else (e.setRespType r t).post r t

def withScheduler (e : State) (s : Scheduler) : State := { e with scheduler := s }

end State

structure Request where
  sessionId : Nat
  resp : Nat
  response : Bool
  tokenIds : List Nat
  maxNewTokens : Int
  preserveCache : Bool
  /-- `req.data.get('migration_request')`, by its `remote_token_id`. -/
  migrationRequest : Option Nat
  deriving DecidableEq, Repr

end Lmdeploy.Engine
