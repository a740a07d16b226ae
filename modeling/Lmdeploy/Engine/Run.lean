import Lmdeploy.Engine.Outputs

/-! The engine's loops as one system over the data they share. Control passes between the
loops only at an `await`, so each loop is a series of blocks that run whole: a handler on
the requests one `req_manager.step()` drains, the main loop's scheduling, lock, output and
unlock blocks, the two halves of the migration loop on either side of its transfer awaits,
and one `__send_resps`. A run is any order of such blocks; the loops' own control flow, which
fixes some of that order, is modelled in `Lmdeploy.Engine.Loops`. An `AssertionError` that
leaves `_on_add_message` ends the run: `_add_loop_tasks_done_callback` cancels the loops. -/
namespace Lmdeploy.Engine

namespace Scheduler

/-- Modelled from the spec: a sequence `Scheduler.schedule` may put in a batch is listed in
a session and WAITING (it is admitted) or RUNNING. -/
def schedulable (s : Scheduler) (id : Nat) : Bool :=
  s.sessions.any (·.sequences.contains id) &&
    (s.find? id).any fun q => q.status = .waiting || q.status = .running

/-- Modelled from the spec: `Scheduler._schedule_migration` picks sequences listed in a
session and WAITING_MIGRATION. -/
def migratable (s : Scheduler) (id : Nat) : Bool :=
  s.sessions.any (·.sequences.contains id) && (s.find? id).any (·.status = .waitingMigration)

end Scheduler

structure Sys where
  engine : State
  /-- `resp_que`: the values of each output dict put on it, oldest first. -/
  queue : List (List InferOutput)
  nextRunning : Option (List Nat)
  running : List Nat
  /-- `migration_running`, held by the migration loop across its awaits. -/
  migrating : List Nat
  deriving DecidableEq, Repr

inductive Op
  | addSession (reqs : List Request)
  | stopSession (reqs : List Request)
  | endSession (reqs : List Request)
  | addMessage (reqs : List Request)
  | schedule (picks : List Nat)
  | lock
  | forward (tokens : List Nat) (stopped : List Bool)
  | unlock
  | scheduleMigration (picks : List Nat)
  | migrate
  /-- `__send_resps` on the oldest output dict. The response loop sends the values of every
  dict it drained in one call, which is these sends one after another. -/
  | send
  deriving DecidableEq, Repr

namespace Sys

def init (maxSessionLen : Int) : Sys := ⟨⟨⟨[], []⟩, [], [], maxSessionLen⟩, [], none, [], []⟩

/-- One block; `none` where the block cannot run: a raising handler or output block, a batch
the scheduler does not hand out, an executor output without one token and one stop flag per
row, or an empty queue or migration batch. -/
def step (x : Sys) : Op → Option Sys
  | .addSession reqs => some { x with engine := x.engine.onAddSession reqs }
  | .stopSession reqs => some { x with engine := x.engine.onStopSession reqs }
  | .endSession reqs => some { x with engine := x.engine.onEndSession reqs }
  | .addMessage reqs =>
    match x.engine.onAddMessage reqs with
    | (e, none) => some { x with engine := e }
    | (_, some _) => none
  | .schedule picks =>
    if picks.Nodup ∧ ∀ id ∈ picks, x.engine.scheduler.schedulable id then
      some { x with
        engine := x.engine.withScheduler (x.engine.scheduler.schedule picks)
        nextRunning := some picks }
    else none
  | .lock =>
    match x.nextRunning with
    | some running =>
      some { x with
        engine := x.engine.withScheduler (x.engine.scheduler.lockRunning running)
        running, nextRunning := none }
    | none => none
  | .forward tokens stopped =>
    if tokens.length = x.running.length ∧ stopped.length = x.running.length then
      let (s, outputs) := x.engine.scheduler.makeInferOutputs tokens x.running stopped
      some { x with engine := x.engine.withScheduler s, queue := x.queue ++ [outputs.map (·.2)] }
    else none
  | .unlock =>
    some { x with engine := x.engine.withScheduler (x.engine.scheduler.unlockRunning x.running) }
  | .scheduleMigration picks =>
    if picks.Nodup ∧ ∀ id ∈ picks, x.engine.scheduler.migratable id then
      some { x with migrating := picks }
    else none
  | .migrate =>
    if x.migrating = [] then none
    else (x.engine.migrationOutputs x.migrating).map fun (e, outputs) =>
      { x with engine := e, queue := x.queue ++ [outputs.map (·.2)], migrating := [] }
  | .send =>
    match x.queue with
    | outputs :: queue => some { x with engine := x.engine.sendResps outputs, queue }
    | [] => none

def run (x : Sys) : List Op → Option Sys
  | [] => some x
  | op :: ops => (x.step op).bind fun x => x.run ops

end Sys

/-- A request of a client: session, handle, input, `max_new_tokens` 8, and a migration
request by its remote token. -/
def ask (sid r : Nat) (ids : List Nat) (migration : Option Nat) : Request :=
  ⟨sid, r, true, ids, 8, false, migration⟩

/-- Two runs that post to handle 10 after its FINISH. In the first, a STOP_SESSION arrives
after the generation has finished, and `_on_stop_session` posts FINISH again. In the second
it arrives while the migration loop awaits the transfer: the migration loop writes SUCCESS
back into the handle, and the response loop posts it. -/
theorem finish_posted_twice :
    ((Sys.init 100).run [.addSession [ask 1 20 [] none], .addMessage [ask 1 10 [5] none],
        .schedule [0], .lock, .forward [7] [true], .send, .unlock,
        .stopSession [ask 1 21 [] none]]).map (·.engine.posts.filter (·.1 = 10)) =
      some [(10, .finish), (10, .finish)] ∧
    ((Sys.init 100).run [.addSession [ask 1 20 [] none], .addMessage [ask 1 10 [5] (some 7)],
        .scheduleMigration [0], .stopSession [ask 1 21 [] none], .migrate,
        .send]).map (·.engine.posts.filter (·.1 = 10)) =
      some [(10, .finish), (10, .success)] := by
  decide

/-- A continuation that arrives while the migration loop awaits the transfer: the sequence
is WAITING again when the output block runs, so `update_running_migration` appends nothing,
yet the output carries the remote token 7. The sequence holds its two prompts and no
generated token. -/
theorem migration_output_not_appended :
    ((Sys.init 100).run [.addSession [ask 1 20 [] none], .addMessage [ask 1 10 [5] (some 7)],
        .scheduleMigration [0], .addMessage [ask 1 11 [9] none], .migrate]).map
      (fun x => (x.queue, (x.engine.scheduler.find? 0).map fun q => (q.allIds, q.numNewTokens))) =
      some ([[⟨1, some 11, false, [7]⟩]], some ([5, 9], 0)) := by
  decide

end Lmdeploy.Engine
