import Lmdeploy.Engine.Run

/-! What the outputs of the engine carry. Every block but `_add_message` changes a sequence
object only by `update_token_ids`, which appends to `all_ids` while `num_new_tokens` counts
the appended tokens, and by status moves that never lead into WAITING_MIGRATION
(`Sequence.Grows`). `_add_message` admits or continues sequences, each with
`num_new_tokens = 0`, and leaves the others as they were (`Scheduler.Renews`). The tokens
the update functions appended since a sequence's last admission or continuation are a ghost
of the run, `generated`, and `num_new_tokens` with the slice `all_ids[-num_new_tokens:]`
keeps track of it over every run (`reach_tracks`). -/
namespace Lmdeploy.Engine

namespace Sequence

/-- What a block other than `_add_message` may do to a sequence object. -/
structure Grows (q q' : Sequence) : Prop where
  seqId : q'.seqId = q.seqId
  sessionId : q'.sessionId = q.sessionId
  resp : q'.resp = q.resp
  appends : q.allIds <+: q'.allIds
  count : q'.numNewTokens + q.allIds.length = q.numNewTokens + q'.allIds.length
  waitingMigration : q'.status = .waitingMigration → q' = q

theorem Grows.refl (q : Sequence) : q.Grows q :=
  ⟨rfl, rfl, rfl, List.prefix_refl _, rfl, fun _ => rfl⟩

theorem Grows.trans {q q' q'' : Sequence} (h : q.Grows q') (h' : q'.Grows q'') : q.Grows q'' :=
  ⟨h'.seqId.trans h.seqId, h'.sessionId.trans h.sessionId, h'.resp.trans h.resp,
    h.appends.trans h'.appends, by have := h.count; have := h'.count; omega,
    fun hw => (h'.waitingMigration hw).trans (h.waitingMigration (h'.waitingMigration hw ▸ hw))⟩

theorem Grows.status (q : Sequence) {st : MessageStatus} (h : st ≠ .waitingMigration) :
    q.Grows { q with status := st } :=
  ⟨rfl, rfl, rfl, List.prefix_refl _, rfl, fun hw => absurd hw h⟩

theorem Grows.token (q : Sequence) (token : Nat) (h : q.status ≠ .waitingMigration) :
    q.Grows { q with allIds := q.allIds ++ [token], numNewTokens := q.numNewTokens + 1 } :=
  ⟨rfl, rfl, rfl, List.prefix_append _ _,
    by simp only [List.length_append, List.length_singleton]; omega,
    fun hw => absurd hw h⟩

theorem Grows.answerable {q q' : Sequence} (h : q.Grows q') (hq : q.Answerable) :
    q'.Answerable :=
  ⟨h.resp ▸ hq.1, fun hw => h.waitingMigration hw ▸ hq.2 (h.waitingMigration hw ▸ hw)⟩

theorem grows_updateRunning (q : Sequence) (token : Nat) (stop : Bool) :
    q.Grows (q.updateRunning token stop) := by
  unfold updateRunning
  split
  · exact .refl q
  · have grown := Grows.token q token (by simp_all)
    split
    · exact grown.trans (.status _ (by split <;> simp))
    · exact grown

end Sequence

namespace Scheduler

theorem find?_modify (s : Scheduler) (id j : Nat) {g : Sequence → Sequence}
    (hg : ∀ q, (g q).seqId = q.seqId) :
    (s.modify id g).find? j = (s.find? j).map fun q => if q.seqId = id then g q else q := by
  have hp : ((fun q : Sequence => decide (q.seqId = j)) ∘
      fun q => if q.seqId = id then g q else q) = fun q => decide (q.seqId = j) := by
    funext q
    simp only [Function.comp_apply]
    split <;> simp [hg]
  simp only [find?, modify, List.find?_map, hp]

theorem find?_seqId {s : Scheduler} {j : Nat} {q : Sequence} (h : s.find? j = some q) :
    q.seqId = j := by
  simpa using List.find?_some h

theorem find?_modify_ne {s : Scheduler} {id j : Nat} {g : Sequence → Sequence}
    (hid : ∀ q, (g q).seqId = q.seqId) (hj : j ≠ id) : (s.modify id g).find? j = s.find? j := by
  rw [find?_modify s id j hid]
  cases hf : s.find? j with
  | none => rfl
  | some q => simp [find?_seqId hf, hj]

def Objects (s s' : Scheduler) : Prop := ∀ j, Option.Rel Sequence.Grows (s.find? j) (s'.find? j)

theorem objects_refl (s : Scheduler) : s.Objects s := fun j => by
  cases s.find? j with
  | none => exact .none
  | some q => exact .some (.refl q)

theorem objects_of_heap {s s' : Scheduler} (h : s'.heap = s.heap) : s.Objects s' := by
  have : ∀ j, s'.find? j = s.find? j := fun j => by simp only [find?, h]
  exact fun j => this j ▸ objects_refl s j

/-- What every block but the session and message handlers does to the scheduler: its
sequence objects grow, it creates none, and it keeps some of the sessions. -/
structure Grows (s s' : Scheduler) : Prop where
  objects : s.Objects s'
  length : s'.heap.length = s.heap.length
  sessions : s'.sessions.Sublist s.sessions

theorem Grows.refl (s : Scheduler) : s.Grows s := ⟨objects_refl s, rfl, .refl _⟩

theorem Grows.trans {s s' s'' : Scheduler} (h : s.Grows s') (h' : s'.Grows s'') :
    s.Grows s'' := by
  refine ⟨fun j => ?_, h'.length.trans h.length, h'.sessions.trans h.sessions⟩
  have h1 := h.objects j
  have h2 := h'.objects j
  revert h1 h2
  generalize s.find? j = a
  generalize s'.find? j = b
  generalize s''.find? j = c
  rintro (⟨hq⟩ | _) h2 <;> cases h2
  exacts [.some (hq.trans ‹_›), .none]

theorem Grows.of_heap {s s' : Scheduler} (h : s'.heap = s.heap)
    (hs : s'.sessions.Sublist s.sessions) : s.Grows s' :=
  ⟨objects_of_heap h, congrArg List.length h, hs⟩

theorem grows_modify (s : Scheduler) (id : Nat) {g : Sequence → Sequence}
    (hg : ∀ q : Sequence, q.Grows (g q)) : s.Grows (s.modify id g) := by
  refine ⟨fun j => ?_, List.length_map _ _, .refl _⟩
  rw [find?_modify s id j fun q => (hg q).seqId]
  cases s.find? j with
  | none => exact .none
  | some q => exact .some (by dsimp only; split; exacts [hg q, .refl q])

theorem grows_moveStatus {a b : MessageStatus} (hb : b ≠ .waitingMigration) (s : Scheduler)
    (ids : List Nat) : s.Grows (moveStatus a b s ids) := by
  induction ids generalizing s with
  | nil => exact Grows.refl s
  | cons id ids ih =>
    refine (grows_modify s id fun q => ?_).trans (ih _)
    split
    · exact .status q hb
    · exact .refl q

theorem grows_setStatus (s : Scheduler) (id : Nat) {st : MessageStatus}
    (h : st ≠ .waitingMigration) : s.Grows (s.setStatus id st) :=
  grows_modify s id fun q => .status q h

theorem grows_updateRow (s : Scheduler) (token id : Nat) (stop : Bool) :
    s.Grows (s.updateRow token id stop) :=
  grows_modify s id fun q => q.grows_updateRunning token stop

theorem grows_updateRunning (s : Scheduler) (tokens running : List Nat) (stopped : List Bool) :
    s.Grows (s.updateRunning tokens running stopped) := by
  induction running generalizing s tokens stopped with
  | nil => cases tokens <;> exact Grows.refl s
  | cons id running ih =>
    cases tokens with
    | nil => exact Grows.refl s
    | cons token tokens =>
      cases stopped with
      | nil => exact Grows.refl s
      | cons stop stopped => exact (grows_updateRow s token id stop).trans (ih _ _ _)

theorem grows_updateRowMigration (s : Scheduler) (token id : Nat) (stop : Bool) :
    s.Grows (s.updateRowMigration token id stop) := grows_modify s id fun q => by
  unfold Sequence.updateRunningMigration
  split
  · exact .refl q
  · have grown := Sequence.Grows.token q token (by simp_all)
    split
    · simpa only [List.append_nil] using grown.trans (.status _ (by simp))
    · exact grown

theorem grows_stopSession (s : Scheduler) (sid : Nat) : s.Grows (s.stopSession sid) := by
  unfold stopSession
  generalize ((s.session? sid).map (·.sequences)).getD [] = ids
  induction ids generalizing s with
  | nil => exact Grows.refl s
  | cons id ids ih => exact (grows_setStatus s id (by simp)).trans (ih _)

/-- What `_add_message` may do to the sequence objects: each is one of `s` as it was, or one
it admitted or continued, counting no new token. -/
def Renews (s s' : Scheduler) : Prop :=
  ∀ j q', s'.find? j = some q' → s.find? j = some q' ∨ q'.numNewTokens = 0

theorem Renews.refl (s : Scheduler) : s.Renews s := fun _ _ h => .inl h

theorem Renews.trans {s s' s'' : Scheduler} (h : s.Renews s') (h' : s'.Renews s'') :
    s.Renews s'' := fun j q h'' => (h' j q h'').elim (h j q) .inr

theorem find?_addSequence (s : Scheduler) (q : Sequence) (j : Nat) :
    (s.addSequence q).find? j = (s.find? j).or (if q.seqId = j then some q else none) := by
  simp [find?, addSequence]

theorem renews_addSequence (s : Scheduler) {q : Sequence} (hq : q.numNewTokens = 0) :
    s.Renews (s.addSequence q) := fun j q' h => by
  rw [find?_addSequence, Option.or_eq_some] at h
  rcases h with h | ⟨-, h⟩
  · exact .inl h
  · by_cases hj : q.seqId = j
    · rw [if_pos hj] at h
      cases h
      exact .inr hq
    · rw [if_neg hj] at h
      cases h

theorem renews_modify (s : Scheduler) (id : Nat) {g : Sequence → Sequence}
    (hid : ∀ q, (g q).seqId = q.seqId) (hn : ∀ q, (g q).numNewTokens = 0) :
    s.Renews (s.modify id g) := fun j q' h => by
  rw [find?_modify s id j hid] at h
  rcases hf : s.find? j with _ | q <;> rw [hf] at h
  · cases h
  · obtain rfl := Option.some.inj h
    dsimp only
    split
    · exact .inr (hn q)
    · exact .inl rfl

end Scheduler

namespace State

@[simp] theorem withScheduler_scheduler (e : State) (s : Scheduler) :
    (e.withScheduler s).scheduler = s := rfl

@[simp] theorem setRespType_scheduler (e : State) (r : Nat) (t : ResponseType) :
    (e.setRespType r t).scheduler = e.scheduler := rfl

@[simp] theorem post_scheduler (e : State) (r : Nat) (t : ResponseType) :
    (e.post r t).scheduler = e.scheduler := rfl

@[simp] theorem response_scheduler (e : State) (r : Nat) (t : ResponseType) :
    (e.response r t).scheduler = e.scheduler := by
  unfold response; split <;> rfl

@[simp] theorem finishSequences_scheduler (e : State) (ids : List Nat) :
    (e.finishSequences ids).scheduler = e.scheduler := by
  unfold finishSequences
  induction ids generalizing e with
  | nil => rfl
  | cons id ids ih =>
    simp only [List.foldl_cons]
    rw [ih]
    split <;> rfl

@[simp] theorem sendResps_scheduler (e : State) (outputs : List InferOutput) :
    (e.sendResps outputs).scheduler = e.scheduler := by
  unfold sendResps
  induction outputs generalizing e with
  | nil => rfl
  | cons out outputs ih =>
    simp only [List.foldl_cons]
    rw [ih]
    split <;> simp

theorem onAddSession_heap (e : State) (reqs : List Request) :
    (e.onAddSession reqs).scheduler.heap = e.scheduler.heap := by
  induction reqs generalizing e with
  | nil => rfl
  | cons req reqs ih =>
    simp only [onAddSession]
    rw [ih]
    split <;> split <;> simp [Scheduler.addSession]

theorem onStopSession_grows (e : State) (reqs : List Request) :
    e.scheduler.Grows (e.onStopSession reqs).scheduler := by
  induction reqs generalizing e with
  | nil => exact .refl _
  | cons req reqs ih =>
    cases hs : e.scheduler.session? req.sessionId with
    | none =>
      simp only [onStopSession, hs]
      refine Scheduler.Grows.trans ?_ (ih _)
      split <;> simpa using Scheduler.Grows.refl _
    | some sess =>
      simp only [onStopSession, hs]
      refine Scheduler.Grows.trans ?_ (ih _)
      split <;> simpa using Scheduler.grows_stopSession _ _

theorem onEndSession_grows (e : State) (reqs : List Request) :
    e.scheduler.Grows (e.onEndSession reqs).scheduler := by
  induction reqs generalizing e with
  | nil => exact .refl _
  | cons req reqs ih =>
    have ended : e.scheduler.Grows (e.scheduler.endSession req.sessionId) :=
      .of_heap rfl (List.filter_sublist _)
    cases hs : e.scheduler.session? req.sessionId with
    | none =>
      simp only [onEndSession, hs]
      refine Scheduler.Grows.trans ?_ (ih _)
      split <;> simpa using Scheduler.Grows.refl _
    | some sess =>
      refine Scheduler.Grows.trans ?_ (ih _)
      cases hq : sess.sequences.head?.bind e.scheduler.find? with
      | none =>
        simp only [onEndSession, hs, hq]
        split <;> simpa using ended
      | some q =>
        by_cases hp : q.preserveCache
        · simp only [onEndSession, hs, hq, hp, if_true]
          split <;> simpa using Scheduler.grows_setStatus _ _ (by simp)
        · simp only [onEndSession, hs, hq, hp, if_false]
          split <;> simpa using ended

theorem addOne_renews {e e' : State} {req : Request} (h : e.addOne req = .ok e') :
    e.scheduler.Renews e'.scheduler := by
  obtain ⟨-, -, ⟨-, -, q, -, -, -, hn, -, -, rfl⟩ | ⟨id, -, g, -, hg, rfl⟩⟩ := addOne_cases h
  · exact Scheduler.renews_addSequence _ hn
  · exact Scheduler.renews_modify _ _ (fun q => (hg q).1) fun q => (hg q).2.2.2.1

theorem onAddMessage_renews (e : State) (reqs : List Request) :
    e.scheduler.Renews (e.onAddMessage reqs).1.scheduler :=
  onAddMessage_keeps (e.scheduler.Renews ·) (fun hk hok => hk.trans (addOne_renews hok)) e reqs
    (.refl _)

theorem migrationOutput_grows {acc acc' : State × List (Nat × InferOutput)} {id : Nat}
    (h : migrationOutput acc id = some acc') : acc.1.scheduler.Grows acc'.1.scheduler := by
  simp only [migrationOutput, Option.bind_eq_bind, Option.bind_eq_some] at h
  obtain ⟨q, -, r, -, token, -, h⟩ := h
  cases h
  exact Scheduler.grows_updateRowMigration _ _ _ _

theorem foldlM_migrationOutput_grows :
    ∀ {ids : List Nat} {acc acc' : State × List (Nat × InferOutput)},
      ids.foldlM migrationOutput acc = some acc' → acc.1.scheduler.Grows acc'.1.scheduler
  | [], _, _, h => by cases h; exact .refl _
  | id :: ids, acc, acc', h => by
    rw [List.foldlM_cons] at h
    obtain ⟨acc₁, h₁, h₂⟩ := Option.bind_eq_some.mp h
    exact (migrationOutput_grows h₁).trans (foldlM_migrationOutput_grows h₂)

theorem migrationOutputs_grows {e e' : State} {migrating : List Nat}
    {outputs : List (Nat × InferOutput)} (h : e.migrationOutputs migrating = some (e', outputs)) :
    e.scheduler.Grows e'.scheduler := by
  simp only [migrationOutputs, Option.bind_eq_bind, Option.bind_eq_some] at h
  obtain ⟨⟨e₁, outputs₁⟩, h₁, h⟩ := h
  cases h
  exact (Scheduler.grows_moveStatus (b := .migrationLocked) (by simp) _ _).trans
    ((foldlM_migrationOutput_grows h₁).trans (Scheduler.grows_moveStatus (b := .running) (by simp) _ _))

end State

namespace Sequence

/-- `num_new_tokens` counts the tokens `g` at the end of `all_ids`, and a sequence still
WAITING_MIGRATION has none. -/
def Tracks (q : Sequence) (g : List Nat) : Prop :=
  g <:+ q.allIds ∧ q.numNewTokens = g.length ∧ (q.status = .waitingMigration → g = [])

theorem Tracks.grow {q q' : Sequence} {g : List Nat} (h : q.Tracks g) (hg : q.Grows q') :
    q'.Tracks (g ++ q'.allIds.drop q.allIds.length) := by
  obtain ⟨d, hd⟩ := hg.appends
  obtain ⟨c, hc⟩ := h.1
  have hdrop : q'.allIds.drop q.allIds.length = d := by
    rw [← hd, List.drop_left]
  rw [hdrop]
  refine ⟨⟨c, by rw [← hd, ← hc, List.append_assoc]⟩, ?_, fun hw => ?_⟩
  · have := hg.count
    rw [← hd, List.length_append] at this
    rw [List.length_append, ← h.2.1]
    omega
  · have hq := hg.waitingMigration hw
    subst hq
    rw [h.2.2 hw, List.nil_append, ← hdrop, List.drop_length]

theorem tracks_nil {q : Sequence} (h : q.numNewTokens = 0) : q.Tracks [] :=
  ⟨List.nil_suffix, h, fun _ => rfl⟩

theorem Tracks.slice {q : Sequence} {g : List Nat} (h : q.Tracks g) (hg : g ≠ []) :
    Py.sliceFromNeg q.allIds q.numNewTokens = g := by
  obtain ⟨c, hc⟩ := h.1
  rw [← hc, h.2.1, Py.sliceFromNeg_append c g hg]

end Sequence

namespace Scheduler

def Tracks (s : Scheduler) (gen : Nat → List Nat) : Prop :=
  ∀ j q, s.find? j = some q → q.Tracks (gen j)

def appended (s s' : Scheduler) (j : Nat) : List Nat :=
  match s.find? j, s'.find? j with
  | some q, some q' => q'.allIds.drop q.allIds.length
  | _, _ => []

theorem Tracks.grow {s s' : Scheduler} {gen : Nat → List Nat} (h : s.Tracks gen)
    (hg : s.Objects s') : s'.Tracks fun j => gen j ++ appended s s' j := fun j q' hq' => by
  have hr := hg j
  have ht := h j
  simp only [appended]
  revert hr ht
  rw [hq']
  generalize s.find? j = o
  rintro (⟨hgrow⟩ | _) ht
  exact (ht _ rfl).grow hgrow

theorem Tracks.renew {s s' : Scheduler} {gen : Nat → List Nat} (h : s.Tracks gen)
    (hr : s.Renews s') :
    s'.Tracks fun j => if s'.find? j = s.find? j then gen j else [] := fun j q' hq' => by
  dsimp only
  split
  · rename_i heq
    exact h j q' (heq ▸ hq')
  · rcases hr j q' hq' with hq | hn
    · exact absurd (hq'.trans hq.symm) ‹_›
    · exact Sequence.tracks_nil hn

end Scheduler

namespace Sys

/-- How a block changes the ghost `generated`, the tokens the update functions appended to
each sequence since `_add_message` last admitted or continued it: `_add_message` empties
it for the sequences it changed, and every other block adds what it appended. -/
def nextGenerated (op : Op) (s s' : Scheduler) (gen : Nat → List Nat) (j : Nat) : List Nat :=
  match op with
  | .addMessage _ => if s'.find? j = s.find? j then gen j else []
  | _ => gen j ++ Scheduler.appended s s' j

inductive Reach (maxSessionLen : Int) : Sys → (Nat → List Nat) → Prop
  | init : Reach maxSessionLen (init maxSessionLen) fun _ => []
  | step {x x' : Sys} {gen : Nat → List Nat} (op : Op) : Reach maxSessionLen x gen →
      x.step op = some x' →
      Reach maxSessionLen x' (nextGenerated op x.engine.scheduler x'.engine.scheduler gen)

/-- What a block does to the scheduler: the session handler opens sessions and leaves the
sequence objects alone, the message handler admits and continues sequences, and every other
block grows them. -/
theorem step_changes {x x' : Sys} {op : Op} (h : x.step op = some x') :
    (∃ reqs, op = .addSession reqs ∧ x' = { x with engine := x.engine.onAddSession reqs }) ∨
    (∃ reqs, op = .addMessage reqs ∧ (x.engine.onAddMessage reqs).2 = none ∧
      x' = { x with engine := (x.engine.onAddMessage reqs).1 }) ∨
    (∀ reqs, op ≠ .addSession reqs ∧ op ≠ .addMessage reqs) ∧
      x.engine.scheduler.Grows x'.engine.scheduler := by
  cases op
  case addSession reqs => exact .inl ⟨reqs, rfl, (Option.some.inj h).symm⟩
  case addMessage reqs =>
    refine .inr (.inl ⟨reqs, rfl, ?_⟩)
    simp only [step] at h
    split at h
    · rename_i e heq
      cases h
      simp [heq]
    · cases h
  all_goals
    refine .inr (.inr ⟨fun _ => ⟨nofun, nofun⟩, ?_⟩)
    simp only [step] at h
  · cases h; exact State.onStopSession_grows _ _
  · cases h; exact State.onEndSession_grows _ _
  · split at h <;> cases h
    exact Scheduler.grows_moveStatus (by simp) _ _
  · split at h <;> cases h
    exact Scheduler.grows_moveStatus (by simp) _ _
  · split at h <;> cases h
    exact Scheduler.grows_updateRunning _ _ _ _
  · cases h; exact Scheduler.grows_moveStatus (by simp) _ _
  · split at h <;> cases h
    exact .refl _
  · split at h
    · cases h
    · obtain ⟨⟨e, outputs⟩, hm, rfl⟩ := Option.map_eq_some'.mp h
      exact State.migrationOutputs_grows hm
  · split at h <;> cases h
    simpa using Scheduler.Grows.refl _

/-- Over every run, `num_new_tokens` counts exactly the tokens the update functions have
appended since the sequence's last admission or continuation, and they end its `all_ids`. -/
theorem reach_tracks {m : Int} {x : Sys} {gen : Nat → List Nat} (h : Reach m x gen) :
    x.engine.scheduler.Tracks gen := by
  induction h with
  | init => intro j q hq; cases hq
  | step op _ hstep ih =>
    rcases step_changes hstep with ⟨reqs, rfl, rfl⟩ | ⟨reqs, rfl, -, rfl⟩ | ⟨hop, hg⟩
    · exact ih.grow (Scheduler.objects_of_heap (State.onAddSession_heap _ _))
    · exact ih.renew (State.onAddMessage_renews _ _)
    · cases op <;> first | exact ih.grow hg.objects | exact absurd rfl (hop _).1 |
        exact absurd rfl (hop _).2

end Sys

end Lmdeploy.Engine
