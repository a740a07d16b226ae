import Lmdeploy.Engine.Event

/-! The four loops of `async_loop` as tasks of one asyncio event loop, by where each is
suspended and by the two events they share, `forward_event` and `has_runable_event`. A task
runs from one await to the next without interruption; any task that is not blocked in an
event's `wait()` may run next. An await on something already done does not yield in asyncio;
letting the same task run again next covers that. A task released by `set()` resumes after its
`wait()` whenever it next runs, whatever the flag is then. What the loops read of the world
(`scheduler.has_unfinished()`, the batch an input maker hands back, whether a request or an
output has arrived) is the environment's choice at each block. The executor also receives
`forward_event`; its code is not in the repository, and its use of the event is not
modelled. -/
namespace Lmdeploy.Engine

inductive Task
  | main
  | preprocess
  | response
  | migration
  deriving DecidableEq, Repr

inductive MainPc
  | top
  | runableWait
  | sendNext
  | sleep
  | prefetch (n idx : Nat)
  | output (n idx : Nat)
  deriving DecidableEq, Repr

/-- Where the preprocess or the response loop is with respect to `_await_forward_event`. -/
inductive GatePc
  | gate
  | waiting
  | body
  deriving DecidableEq, Repr

/-- What a block reads outside the loops: `scheduler.has_unfinished()`, and the `loop_count`
of the batch an input maker hands back (`none` when it hands back none). -/
structure Env where
  unfinished : Bool
  batch : Option Nat
  deriving DecidableEq, Repr

inductive Effect
  | none
  | requests
  | sendResps
  deriving DecidableEq, Repr

structure Loops where
  main : MainPc
  /-- `next_running`, by the `loop_count` of the inputs sent with it. -/
  next : Option Nat
  preprocess : GatePc
  response : GatePc
  /-- The migration loop is in its transfer awaits. -/
  migrating : Bool
  forward : CounterEvent Task
  runable : AsyncEvent Task
  deriving DecidableEq, Repr

namespace Loops

def init : Loops := ⟨.top, none, .gate, .body, false, CounterEvent.started, ⟨false, []⟩⟩

def setRunable (σ : Loops) (unfinished : Bool) : Loops :=
  { σ with runable := if unfinished then σ.runable.set.1 else σ.runable.clear }

def iteration (σ : Loops) (n idx : Nat) : Loops :=
  { σ with
    forward := if idx = n / 2 then σ.forward.clear else σ.forward
    main := if idx = n - 1 then .prefetch n idx else .output n idx }

/-- A batch of `n` loops from `lock_running` on; a batch of none goes straight to
`has_runable_event.set()` and the top. -/
def startBatch (σ : Loops) (n : Nat) (unfinished : Bool) : Loops :=
  if 0 < n then σ.iteration n 0 else { σ.setRunable unfinished with main := .top }

/-- After the `for` loop: `unlock_running`, `has_runable_event.set()`, and the top of the
`while` loop, which goes on with a prefetched batch at once. -/
def batchDone (σ : Loops) (unfinished : Bool) : Loops :=
  let σ := σ.setRunable unfinished
  match σ.next with
  | some n => { σ with next := none }.startBatch n unfinished
  | none => { σ with main := .top }

def mainStep (σ : Loops) (env : Env) : Loops :=
  match σ.main with
  | .top =>
    if σ.runable.value then { σ with main := .sendNext }
    else { σ with main := .runableWait, runable := σ.runable.wait .main }
  | .runableWait => { σ with main := .sendNext }
  | .sendNext =>
    match env.batch with
    | some n => σ.startBatch n env.unfinished
    | none => { σ with main := .sleep }
  | .sleep => { σ with main := .top }
  | .prefetch n idx => { σ with main := .output n idx, next := env.batch }
  | .output n idx =>
    let σ := if idx = n - 1 then { σ with forward := σ.forward.set.1 } else σ
    if idx + 1 < n then σ.iteration n (idx + 1) else σ.batchDone env.unfinished

/-- `_await_forward_event` lets a task on without yielding unless there are unfinished
sequences and the flag is down. -/
def passes (σ : Loops) (unfinished : Bool) : Bool := !unfinished || σ.forward.is_set

def preprocessStep (σ : Loops) (env : Env) : Loops × Effect :=
  match σ.preprocess with
  | .gate =>
    if σ.passes env.unfinished then ({ σ with preprocess := .body }, .none)
    else ({ σ with preprocess := .waiting, forward := σ.forward.wait .preprocess }, .none)
  | .waiting => ({ σ with preprocess := .body }, .none)
  | .body => ({ σ.setRunable env.unfinished with preprocess := .gate }, .requests)

def responseStep (σ : Loops) (env : Env) : Loops × Effect :=
  match σ.response with
  | .body => ({ σ with response := .gate }, .none)
  | .gate =>
    if σ.passes env.unfinished then ({ σ with response := .body }, .sendResps)
    else ({ σ with response := .waiting, forward := σ.forward.wait .response }, .none)
  | .waiting => ({ σ with response := .body }, .sendResps)

/-- The block `_async_loop_migration` runs: from the top it starts a transfer when
`_schedule_migration` found work; after the transfer it puts the outputs and sets
`has_runable_event`. -/
def migrationStep (σ : Loops) (env : Env) : Loops :=
  if σ.migrating then { σ.setRunable env.unfinished with migrating := false }
  else { σ with migrating := env.batch.isSome }

def blocked (σ : Loops) (t : Task) : Bool :=
  σ.forward.event.waiters.contains t || σ.runable.waiters.contains t

def block (σ : Loops) (env : Env) : Task → Loops × Effect
  | .main => (σ.mainStep env, .none)
  | .preprocess => σ.preprocessStep env
  | .response => σ.responseStep env
  | .migration => (σ.migrationStep env, .none)

def step (σ : Loops) (t : Task) (env : Env) : Option (Loops × Effect) :=
  if σ.blocked t then none else some (σ.block env t)

def run (σ : Loops) : List (Task × Env) → Option Loops
  | [] => some σ
  | (t, env) :: rest => (σ.step t env).bind fun r => r.1.run rest

def Reachable (σ : Loops) : Prop := ∃ sched, init.run sched = some σ

/-- Main has cleared `forward_event` at iteration `loop_count // 2` and not yet set it
again at iteration `loop_count - 1`. -/
def inWindow (σ : Loops) : Bool :=
  match σ.main with
  | .prefetch n idx | .output n idx => n / 2 ≤ idx
  | _ => false

@[simp] theorem setRunable_main (σ : Loops) (u : Bool) : (σ.setRunable u).main = σ.main := rfl

@[simp] theorem setRunable_next (σ : Loops) (u : Bool) : (σ.setRunable u).next = σ.next := rfl

@[simp] theorem setRunable_forward (σ : Loops) (u : Bool) :
    (σ.setRunable u).forward = σ.forward := rfl

/-! ### The window -/

/-- The invariant of the loops: main's iteration lies inside its batch, and `forward_event`
has one `clear()` outstanding exactly in main's window, its flag down exactly then. -/
structure Inv (σ : Loops) : Prop where
  prefetch : ∀ n idx, σ.main = .prefetch n idx → idx + 1 = n
  output : ∀ n idx, σ.main = .output n idx → idx < n
  counter : σ.forward.counter = if σ.inWindow then 1 else 0
  consistent : σ.forward.Consistent

theorem init_inv : init.Inv :=
  ⟨by simp [init], by simp [init], rfl, CounterEvent.started_consistent⟩

theorem iteration_inWindow (σ : Loops) (n idx : Nat) :
    (σ.iteration n idx).inWindow = decide (n / 2 ≤ idx) := by
  unfold iteration inWindow
  split_ifs <;> rfl

/-- Entering iteration `idx` keeps the invariant when the `clear()` it makes at `n / 2` is
the one the window needs. -/
theorem iteration_inv {σ : Loops} {n idx : Nat} (hc : σ.forward.Consistent) (hidx : idx < n)
    (hcount : σ.forward.counter + (if idx = n / 2 then 1 else 0) =
      if n / 2 ≤ idx then 1 else 0) : (σ.iteration n idx).Inv where
  prefetch n' idx' h := by
    simp only [iteration] at h
    split_ifs at h
    cases h
    omega
  output n' idx' h := by
    simp only [iteration] at h
    split_ifs at h
    cases h
    exact hidx
  counter := by
    rw [iteration_inWindow]
    simp only [iteration]
    split_ifs at hcount ⊢ <;> simp_all
  consistent := by
    simp only [iteration]
    split_ifs
    · exact CounterEvent.clear_consistent hc
    · exact hc

theorem inv_of_idle {σ : Loops} (hm : ∀ n idx, σ.main ≠ .prefetch n idx ∧ σ.main ≠ .output n idx)
    (h0 : σ.forward.counter = 0) (hc : σ.forward.Consistent) : σ.Inv where
  prefetch n idx h := absurd h (hm n idx).1
  output n idx h := absurd h (hm n idx).2
  counter := by
    cases hmain : σ.main
    case prefetch n idx => exact absurd hmain (hm n idx).1
    case output n idx => exact absurd hmain (hm n idx).2
    all_goals simp [inWindow, hmain, h0]
  consistent := hc

theorem startBatch_inv {σ : Loops} (n : Nat) (u : Bool) (hc : σ.forward.Consistent)
    (h0 : σ.forward.counter = 0) : (σ.startBatch n u).Inv := by
  unfold startBatch
  split_ifs with hn
  · exact iteration_inv hc hn (by split_ifs <;> omega)
  · exact inv_of_idle (fun _ _ => ⟨nofun, nofun⟩) h0 hc

theorem batchDone_inv {σ : Loops} (u : Bool) (hc : σ.forward.Consistent)
    (h0 : σ.forward.counter = 0) : (σ.batchDone u).Inv := by
  cases hn : σ.next with
  | none =>
    simp only [batchDone, setRunable_next, hn]
    exact inv_of_idle (fun _ _ => ⟨nofun, nofun⟩) h0 hc
  | some n =>
    simp only [batchDone, setRunable_next, hn]
    exact startBatch_inv n u hc h0

/-- Main's blocks keep the invariant: the window opens at the `clear()` of iteration
`n / 2` and closes at the `set()` after iteration `n - 1`. -/
theorem mainStep_inv {σ : Loops} (env : Env) (hσ : σ.Inv) : (σ.mainStep env).Inv := by
  have outside : σ.inWindow = false → σ.forward.counter = 0 := fun h => by
    simpa [h] using hσ.counter
  unfold mainStep
  split
  case h_1 hm =>
    have h0 := outside (by simp [inWindow, hm])
    split <;> exact inv_of_idle (fun _ _ => ⟨nofun, nofun⟩) h0 hσ.consistent
  case h_2 hm | h_4 hm =>
    exact inv_of_idle (fun _ _ => ⟨nofun, nofun⟩) (outside (by simp [inWindow, hm])) hσ.consistent
  case h_3 hm =>
    have h0 := outside (by simp [inWindow, hm])
    split
    · exact startBatch_inv _ _ hσ.consistent h0
    · exact inv_of_idle (fun _ _ => ⟨nofun, nofun⟩) h0 hσ.consistent
  case h_5 n idx hm =>
    have hn := hσ.prefetch n idx hm
    refine ⟨by simp, fun n' idx' h => ?_, ?_, hσ.consistent⟩
    · cases h; omega
    · simpa [inWindow, hm] using hσ.counter
  case h_6 n idx hm =>
    have hidx := hσ.output n idx hm
    have hcount := hσ.counter
    simp only [inWindow, hm] at hcount
    by_cases hlast : idx = n - 1
    · have hw : n / 2 ≤ idx := by omega
      simp only [hlast, if_true, show ¬(n - 1 + 1 < n) by omega, if_false]
      apply batchDone_inv _ (CounterEvent.set_consistent hσ.consistent)
      rw [CounterEvent.set_counter, hcount, if_pos (decide_eq_true hw)]
    · simp only [hlast, if_false, show idx + 1 < n by omega, if_true]
      exact iteration_inv hσ.consistent (by omega) (by split_ifs at hcount ⊢ <;> simp_all <;> omega)

/-- A block of a loop other than main: main's place and the counter and flag of
`forward_event` stay, and its waiters can only grow. -/
structure Frame (σ σ' : Loops) : Prop where
  main : σ'.main = σ.main
  counter : σ'.forward.counter = σ.forward.counter
  value : σ'.forward.event.value = σ.forward.event.value
  waiters : σ.forward.event.waiters ⊆ σ'.forward.event.waiters

theorem Frame.inWindow {σ σ' : Loops} (h : Frame σ σ') : σ'.inWindow = σ.inWindow := by
  simp only [Loops.inWindow, h.main]

theorem Frame.inv {σ σ' : Loops} (h : Frame σ σ') (hσ : σ.Inv) : σ'.Inv where
  prefetch n idx hm := hσ.prefetch n idx (h.main ▸ hm)
  output n idx hm := hσ.output n idx (h.main ▸ hm)
  counter := by rw [h.counter, hσ.counter, h.inWindow]
  consistent := by
    simpa only [CounterEvent.Consistent, h.value, h.counter] using hσ.consistent

theorem preprocessStep_frame (σ : Loops) (env : Env) : Frame σ (σ.preprocessStep env).1 := by
  unfold preprocessStep
  split
  · split_ifs
    · exact ⟨rfl, rfl, rfl, List.Subset.refl _⟩
    · exact ⟨rfl, rfl, rfl, List.subset_append_left _ _⟩
  all_goals exact ⟨rfl, rfl, rfl, List.Subset.refl _⟩

theorem responseStep_frame (σ : Loops) (env : Env) : Frame σ (σ.responseStep env).1 := by
  unfold responseStep
  split
  case h_2 =>
    split_ifs
    · exact ⟨rfl, rfl, rfl, List.Subset.refl _⟩
    · exact ⟨rfl, rfl, rfl, List.subset_append_left _ _⟩
  all_goals exact ⟨rfl, rfl, rfl, List.Subset.refl _⟩

theorem migrationStep_frame (σ : Loops) (env : Env) : Frame σ (σ.migrationStep env) := by
  unfold migrationStep
  split_ifs <;> exact ⟨rfl, rfl, rfl, List.Subset.refl _⟩

theorem step_eq_some {σ σ' : Loops} {t : Task} {env : Env} {e : Effect} :
    σ.step t env = some (σ', e) ↔ σ.blocked t = false ∧ σ.block env t = (σ', e) := by
  unfold step
  split_ifs with h <;> simp [h]

theorem block_inv {σ : Loops} (env : Env) (t : Task) (hσ : σ.Inv) : (σ.block env t).1.Inv := by
  cases t with
  | main => exact mainStep_inv env hσ
  | preprocess => exact (preprocessStep_frame σ env).inv hσ
  | response => exact (responseStep_frame σ env).inv hσ
  | migration => exact (migrationStep_frame σ env).inv hσ

theorem run_inv {σ σ' : Loops} (sched : List (Task × Env)) (hσ : σ.Inv)
    (h : σ.run sched = some σ') : σ'.Inv := by
  induction sched generalizing σ with
  | nil => exact Option.some.inj h ▸ hσ
  | cons p sched ih =>
    simp only [run, Option.bind_eq_some] at h
    obtain ⟨⟨σ₁, e⟩, h1, h2⟩ := h
    obtain ⟨-, hb⟩ := step_eq_some.mp h1
    exact ih (hb ▸ block_inv p.2 p.1 hσ) h2

theorem Reachable.inv {σ : Loops} (h : σ.Reachable) : σ.Inv :=
  let ⟨sched, hs⟩ := h
  run_inv sched init_inv hs

theorem mainStep_window {σ : Loops} (env : Env) (hσ : σ.Inv) (hw : σ.inWindow = true) :
    ((σ.mainStep env).inWindow = true ∧
      σ.forward.event.waiters ⊆ (σ.mainStep env).forward.event.waiters) ∨
    ∃ n, σ.main = .output n (n - 1) := by
  unfold mainStep
  split
  case h_5 n idx hm =>
    simp only [inWindow, hm] at hw
    exact .inl ⟨by simpa [inWindow] using hw, List.Subset.refl _⟩
  case h_6 n idx hm =>
    by_cases hlast : idx = n - 1
    · exact .inr ⟨n, hlast ▸ hm⟩
    · have hidx := hσ.output n idx hm
      simp only [inWindow, hm, decide_eq_true_eq] at hw
      simp only [hlast, if_false, show idx + 1 < n by omega, if_true]
      refine .inl ⟨by rw [iteration_inWindow]; simp only [decide_eq_true_eq]; omega, ?_⟩
      simp only [iteration, show idx + 1 ≠ n / 2 by omega, if_false]
      exact List.Subset.refl _
  all_goals rename_i hm; simp [inWindow, hm] at hw

/-- What main's window guarantees from a state `σ`: `forward_event` is down; a preprocess
or response loop that runs `_await_forward_event` with unfinished sequences blocks in its
`wait()` and does nothing else; and every block keeps main in the window and every waiter
of `forward_event` blocked, except main's block after iteration `loop_count - 1`, whose
`set()` ends the window. -/
def Guarded (σ : Loops) : Prop :=
  σ.forward.is_set = false ∧
  (∀ env σ' e, σ.preprocess = .gate → env.unfinished = true →
    σ.step .preprocess env = some (σ', e) → σ'.blocked .preprocess = true ∧ e = .none) ∧
  (∀ env σ' e, σ.response = .gate → env.unfinished = true →
    σ.step .response env = some (σ', e) → σ'.blocked .response = true ∧ e = .none) ∧
  ∀ t env σ' e, σ.step t env = some (σ', e) →
    (σ'.inWindow = true ∧ σ.forward.event.waiters ⊆ σ'.forward.event.waiters) ∨
      (t = .main ∧ ∃ n, σ.main = .output n (n - 1))

theorem forward_window_guarded (σ : Loops) (hσ : σ.Reachable) (hw : σ.inWindow = true) :
    σ.Guarded := by
  have inv := hσ.inv
  have down : σ.forward.is_set = false := by
    have h := inv.consistent
    rw [CounterEvent.Consistent, inv.counter, if_pos hw] at h
    simpa [CounterEvent.is_set, AsyncEvent.is_set] using h
  refine ⟨down, fun env σ' e hg hu h => ?_, fun env σ' e hg hu h => ?_, fun t env σ' e h => ?_⟩
  · obtain ⟨-, hb⟩ := step_eq_some.mp h
    simp only [block, preprocessStep, hg, passes, hu, down] at hb
    cases hb
    simp [blocked, CounterEvent.wait, AsyncEvent.wait]
  · obtain ⟨-, hb⟩ := step_eq_some.mp h
    simp only [block, responseStep, hg, passes, hu, down] at hb
    cases hb
    simp [blocked, CounterEvent.wait, AsyncEvent.wait]
  · obtain ⟨-, hb⟩ := step_eq_some.mp h
    have frame : ∀ σ'', Frame σ σ'' → σ'' = σ' →
        (σ'.inWindow = true ∧ σ.forward.event.waiters ⊆ σ'.forward.event.waiters) :=
      fun σ'' hf he => he ▸ ⟨hf.inWindow ▸ hw, hf.waiters⟩
    cases t with
    | main =>
      cases hb
      rcases mainStep_window env inv hw with hin | hlast
      · exact .inl hin
      · exact .inr ⟨rfl, hlast⟩
    | preprocess => exact .inl (frame _ (preprocessStep_frame σ env) (congrArg Prod.fst hb))
    | response => exact .inl (frame _ (responseStep_frame σ env) (congrArg Prod.fst hb))
    | migration => exact .inl (frame _ (migrationStep_frame σ env) (congrArg Prod.fst hb))

theorem forward_window_guarded_prefill :
    let σ : Loops := ⟨.prefetch 1 0, none, .body, .body, false, ⟨1, ⟨false, []⟩⟩, ⟨true, []⟩⟩
    σ.Reachable ∧ σ.inWindow = true ∧ σ.Guarded :=
  let sched : List (Task × Env) := [(.preprocess, ⟨false, none⟩), (.preprocess, ⟨true, none⟩),
    (.preprocess, ⟨true, none⟩), (.main, ⟨true, none⟩), (.main, ⟨true, some 1⟩)]
  ⟨⟨sched, rfl⟩, rfl, forward_window_guarded _ ⟨sched, rfl⟩ rfl⟩

/-- Two schedules in which a loop acts inside main's window. In the first, the preprocess
loop got past `_await_forward_event` before the batch and waits in `req_manager.step()` on
the mailbox; a request that arrives after main's `clear()` is applied at once. In the
second, the response loop blocks in the window of a batch of two loops; main's `set()` at
its end releases it, main goes on with a prefetched batch of one loop and clears the event
again before it yields, and the released loop runs `__send_resps` in the new window. -/
theorem forward_window_breached :
    (init.run [(.preprocess, ⟨false, none⟩), (.preprocess, ⟨true, none⟩),
        (.preprocess, ⟨true, none⟩), (.main, ⟨true, none⟩), (.main, ⟨true, some 1⟩)]).map
      (fun σ => (σ.inWindow, (σ.step .preprocess ⟨true, none⟩).map (·.2))) =
      some (true, some .requests) ∧
    (init.run [(.preprocess, ⟨false, none⟩), (.preprocess, ⟨true, none⟩),
        (.main, ⟨true, none⟩), (.main, ⟨true, some 2⟩), (.main, ⟨true, none⟩),
        (.response, ⟨true, none⟩), (.response, ⟨true, none⟩), (.main, ⟨true, some 1⟩),
        (.main, ⟨true, none⟩)]).map
      (fun σ => (σ.inWindow, (σ.step .response ⟨true, none⟩).map (·.2))) =
      some (true, some .sendResps) := by
  decide

end Loops

end Lmdeploy.Engine
