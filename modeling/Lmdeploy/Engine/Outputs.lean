import Lmdeploy.Engine.Requests

/-! The output path: `update_running` and `_make_infer_outputs` after each forward
iteration, `update_running_migration` with the output the migration loop makes for a
migrated sequence, and `__send_resps`, which turns outputs into responses.
`SchedulerSequence.update_token_ids` appends its tokens to `all_ids`; an output carries
`all_ids[-num_new_tokens:]`. The outputs of one iteration are a dict keyed by `session_id`:
a later entry for the same session replaces the earlier one in place. -/
namespace Lmdeploy.Engine

structure InferOutput where
  sessionId : Nat
  resp : Option Nat
  finish : Bool
  tokenIds : List Nat
  deriving DecidableEq, Repr

/-- `d[k] = v` on a dict kept as a list of its items in insertion order. -/
def dictSet {α : Type} (d : List (Nat × α)) (k : Nat) (v : α) : List (Nat × α) :=
  if d.any (·.1 = k) then d.map fun p => if p.1 = k then (k, v) else p else d ++ [(k, v)]

namespace Sequence

/-- The body of `update_running` for one row: a LOCKED sequence gets its token, and a stop
flag ends it. -/
def updateRunning (q : Sequence) (token : Nat) (stop : Bool) : Sequence :=
  if q.status ≠ .locked then q
  else
    let q := { q with allIds := q.allIds ++ [token], numNewTokens := q.numNewTokens + 1 }
    if stop then { q with status := if q.preserveCache then .toBeMigrated else .stopped } else q

/-- The body of `update_running_migration` for one row; on a stop the empty token is
appended. -/
def updateRunningMigration (q : Sequence) (token : Nat) (stop : Bool) : Sequence :=
  if q.status ≠ .migrationLocked then q
  else
    let q := { q with allIds := q.allIds ++ [token], numNewTokens := q.numNewTokens + 1 }
    if stop then { q with allIds := q.allIds ++ [], status := .stopped } else q

end Sequence

namespace Scheduler

def updateRow (s : Scheduler) (token id : Nat) (stop : Bool) : Scheduler :=
  s.modify id (·.updateRunning token stop)

def updateRunning (s : Scheduler) : List Nat → List Nat → List Bool → Scheduler
  | token :: tokens, id :: running, stop :: stopped =>
    updateRunning (s.updateRow token id stop) tokens running stopped
  | _, _, _ => s

def updateRowMigration (s : Scheduler) (token id : Nat) (stop : Bool) : Scheduler :=
  s.modify id (·.updateRunningMigration token stop)

def output (s : Scheduler) (id : Nat) : Option InferOutput := do
  let q ← s.find? id
  let tokenIds := Py.sliceFromNeg q.allIds q.numNewTokens
  let finish := q.status = .stopped ∨ q.status = .toBeMigrated
  if ¬finish ∧ tokenIds = [] then none
  pure ⟨q.sessionId, q.resp, finish, tokenIds⟩

def collectOutputs (s : Scheduler) : List (Nat × Bool) → List (Nat × InferOutput) → List (Nat × InferOutput)
  | [], outputs => outputs
  | (id, isRun) :: rows, outputs =>
    let outputs := if isRun then
        match s.output id with
        | some out => dictSet outputs out.sessionId out
        | none => outputs
      else outputs
    collectOutputs s rows outputs

def isLocked (s : Scheduler) (id : Nat) : Bool := (s.find? id).map (·.status) = some .locked

/-- `_make_infer_outputs`: which rows are LOCKED is read before the update. -/
def makeInferOutputs (s : Scheduler) (tokens running : List Nat) (stopped : List Bool) :
    Scheduler × List (Nat × InferOutput) :=
  let isRun := running.map s.isLocked
  let s := s.updateRunning tokens running stopped
  (s, s.collectOutputs (running.zip isRun) [])

end Scheduler

namespace State

/-- One pass of the output loop of the migration loop, for a sequence it migrated: the
handle is reset to SUCCESS, the output carries the remote's last token, and
`update_running_migration` appends that token. `none` where Python raises `AttributeError`:
`msg.resp.type` on a sequence without a handle, `msg.migration_request.remote_token_id` on
one without a migration request. -/
def migrationOutput (acc : State × List (Nat × InferOutput)) (id : Nat) :
    Option (State × List (Nat × InferOutput)) := do
  let q ← acc.1.scheduler.find? id
  let r ← q.resp
  let token ← q.migrationRequest
  let e := acc.1.setRespType r .success
  pure (e.withScheduler (e.scheduler.updateRowMigration token id false),
    dictSet acc.2 q.sessionId ⟨q.sessionId, some r, false, [token]⟩)

/-- The part of the migration loop after the KV transfer: lock, one output per migrated
sequence, unlock. -/
def migrationOutputs (e : State) (migrating : List Nat) :
    Option (State × List (Nat × InferOutput)) := do
  let e := e.withScheduler (e.scheduler.lockRunningMigration migrating)
  let (e, outputs) ← migrating.foldlM migrationOutput (e, [])
  pure (e.withScheduler (e.scheduler.unlockRunningMigration migrating), outputs)

/-- `__send_resps`: FINISH for a finished output, SUCCESS otherwise, through `_response`. -/
def sendResps (e : State) (outputs : List InferOutput) : State :=
  outputs.foldl (fun e out => match out.resp with
    | some r => e.response r (if out.finish then .finish else .success)
    | none => e) e

end State

end Lmdeploy.Engine
