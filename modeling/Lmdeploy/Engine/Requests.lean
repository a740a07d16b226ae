import Lmdeploy.Engine.State

/-! The request handlers the engine binds to its `RequestManager`: `_on_add_session`,
`_on_stop_session`, `_on_end_session`, and `_on_add_message` with `_add_message`. Each
receives the batch of requests of its type that one `req_manager.step()` drains.
`_on_stop_session` posts FINISH to the handle of every sequence of the session directly,
past the guard of `_response`. `_add_message` checks an empty input only with an `assert`:
the `AssertionError` leaves the handler in the middle of the batch, after the requests
before it have been applied and before the ones after it are. -/
namespace Lmdeploy.Engine

/-- The state after a handler, and the exception that left it, if one did: Python keeps the
changes made before the raise. -/
abbrev Outcome := State × Option String

namespace State

def onAddSession (e : State) : List Request → State
  | [] => e
  | req :: reqs =>
    let known := e.scheduler.hasSession req.sessionId
    let e := if known then e else e.withScheduler (e.scheduler.addSession req.sessionId)
    let respType := if known then ResponseType.sessionRepeat else .success
    onAddSession (if req.response then e.response req.resp respType else e) reqs

/-- The loop of `_on_stop_session` over `session.sequences`: FINISH is written into every
handle and posted, whatever the handle held. -/
def finishSequences (e : State) (ids : List Nat) : State :=
  ids.foldl (fun e id => match (e.scheduler.find? id).bind (·.resp) with
    | some r => (e.setRespType r .finish).post r .finish
    | none => e) e

def onStopSession (e : State) : List Request → State
  | [] => e
  | req :: reqs =>
    let (e, respType) := match e.scheduler.session? req.sessionId with
      | some sess =>
        ((e.withScheduler (e.scheduler.stopSession req.sessionId)).finishSequences
          sess.sequences, ResponseType.success)
      | none => (e, .sessionNotExist)
    onStopSession (if req.response then e.response req.resp respType else e) reqs

def onEndSession (e : State) : List Request → State
  | [] => e
  | req :: reqs =>
    let (e, respType) := match e.scheduler.session? req.sessionId with
      | some sess =>
        let ended := e.withScheduler (e.scheduler.endSession req.sessionId)
        match sess.sequences.head?.bind e.scheduler.find? with
        | some q =>
          if q.preserveCache then (e.withScheduler (e.scheduler.setStatus q.seqId .toBeMigrated),
            ResponseType.success)
          else (ended, .success)
        | none => (ended, .success)
      | none => (e, .sessionNotExist)
    onEndSession (if req.response then e.response req.resp respType else e) reqs

def updateMaxNewTokens (maxSessionLen : Int) (q : Sequence) : Sequence :=
  if q.maxNewTokens + q.allIds.length > maxSessionLen then
    { q with maxNewTokens := maxSessionLen - q.allIds.length }
  else q

theorem updateMaxNewTokens_eq (m : Int) (q : Sequence) :
    updateMaxNewTokens m q = { q with maxNewTokens := min q.maxNewTokens (m - q.allIds.length) } := by
  unfold updateMaxNewTokens
  split
  · congr 1
    omega
  · show { q with maxNewTokens := q.maxNewTokens } = _
    congr 1
    omega

/-- One pass of the loop of `_add_message`: a session without a sequence gets a new one, a
session with one continues it; either way the request's handle is attached. -/
def addOne (e : State) (req : Request) : Except String State :=
  match e.scheduler.session? req.sessionId with
  | none => .error "KeyError"
  | some sess =>
    match sess.sequences with
    | [] =>
      if req.tokenIds.length > 0 then
        let q : Sequence :=
          { seqId := e.scheduler.heap.length, sessionId := req.sessionId,
            allIds := req.tokenIds, numNewTokens := 0, status := .waiting,
            maxNewTokens := req.maxNewTokens, preserveCache := req.preserveCache,
            migrationRequest := req.migrationRequest, resp := none }
        let q := updateMaxNewTokens e.maxSessionLen q
        let q := if req.migrationRequest.isSome then { q with status := .waitingMigration } else q
        .ok (e.withScheduler (e.scheduler.addSequence { q with resp := some req.resp }))
      else .error "Empty input is not allowed."
    | id :: _ =>
      let continued := fun q : Sequence =>
        { q with allIds := q.allIds ++ req.tokenIds, numNewTokens := 0,
                 maxNewTokens := req.maxNewTokens, status := .waiting }
      .ok (e.withScheduler (e.scheduler.modify id fun q =>
        { updateMaxNewTokens e.maxSessionLen (continued q) with resp := some req.resp }))

def addMessage (e : State) : List Request → Outcome
  | [] => (e, none)
  | req :: reqs =>
    match e.addOne req with
    | .ok e => addMessage e reqs
    | .error err => (e, some err)

def validRequests (e : State) : List Request → State × List Request
  | [] => (e, [])
  | req :: reqs =>
    if e.scheduler.hasSession req.sessionId then
      let (e, valid) := validRequests e reqs
      (e, req :: valid)
    else validRequests (e.response req.resp .sessionNotExist) reqs

def onAddMessage (e : State) (reqs : List Request) : Outcome :=
  let (e, valid) := e.validRequests reqs
  if valid.isEmpty then (e, none) else e.addMessage valid

/-! ### What `_on_add_message` does -/

theorem validRequests_scheduler (e : State) (reqs : List Request) :
    (e.validRequests reqs).1.scheduler = e.scheduler := by
  induction reqs generalizing e with
  | nil => rfl
  | cons req reqs ih =>
    unfold validRequests
    split
    · exact ih e
    · exact (ih _).trans (by unfold response; split <;> rfl)

theorem validRequests_valid (e : State) (reqs : List Request) :
    (e.validRequests reqs).2 = reqs.filter (e.scheduler.hasSession ·.sessionId) := by
  induction reqs generalizing e with
  | nil => rfl
  | cons req reqs ih =>
    unfold validRequests
    split
    · rename_i h
      simp [ih, List.filter_cons, h]
    · rename_i h
      have hs := validRequests_scheduler (e.response req.resp .sessionNotExist) reqs
      simp only [List.filter_cons, h, ih]
      rw [show (e.response req.resp .sessionNotExist).scheduler = e.scheduler by
        unfold response; split <;> rfl]
      simp

/-- What one pass of `_add_message` can do, in a known session: give a session without a
sequence one, holding the prompt (not empty) under the next free `seq_id`, or continue the
session's sequence with the prompt. Either way the sequence counts no new token, its
budget is the request's capped at what `max_session_len` leaves beside all its tokens, it
holds the request's handle, and only the scheduler changes. -/
theorem addOne_cases {e e' : State} {req : Request} (h : e.addOne req = .ok e') :
    ∃ sess, e.scheduler.session? req.sessionId = some sess ∧
      ((sess.sequences = [] ∧ req.tokenIds.length > 0 ∧ ∃ q : Sequence,
          q.seqId = e.scheduler.heap.length ∧ q.sessionId = req.sessionId ∧
          q.allIds = req.tokenIds ∧ q.numNewTokens = 0 ∧
          q.maxNewTokens = min req.maxNewTokens (e.maxSessionLen - q.allIds.length) ∧
          q.Answerable ∧ e' = e.withScheduler (e.scheduler.addSequence q)) ∨
        ∃ id ids g, sess.sequences = id :: ids ∧
          (∀ q, (g q).seqId = q.seqId ∧ (g q).sessionId = q.sessionId ∧
            (g q).allIds = q.allIds ++ req.tokenIds ∧ (g q).numNewTokens = 0 ∧
            (g q).maxNewTokens = min req.maxNewTokens (e.maxSessionLen - (g q).allIds.length) ∧
            (g q).Answerable) ∧
          e' = e.withScheduler (e.scheduler.modify id g)) := by
  unfold addOne at h
  split at h
  · cases h
  · rename_i sess hsess
    refine ⟨sess, hsess, ?_⟩
    split at h
    · split at h
      · cases h
        refine .inl ⟨‹_›, ‹_›, _, ?_, ?_, ?_, ?_, ?_, ?_, rfl⟩ <;>
          split <;> simp_all [updateMaxNewTokens_eq, Sequence.Answerable]
      · cases h
    · cases h
      exact .inr ⟨_, _, _, ‹_›, fun q => by
        simp [updateMaxNewTokens_eq, Sequence.Answerable], rfl⟩

/-- What each pass of `_add_message` keeps of the scheduler, `_on_add_message` keeps: the
requests it answers first leave the scheduler as it is. -/
theorem onAddMessage_keeps (P : Scheduler → Prop)
    (pass : ∀ {e e' : State} {req : Request}, P e.scheduler → e.addOne req = .ok e' →
      P e'.scheduler)
    (e : State) (reqs : List Request) (h : P e.scheduler) :
    P (e.onAddMessage reqs).1.scheduler := by
  have loop : ∀ (e : State) (reqs : List Request), P e.scheduler →
      P (e.addMessage reqs).1.scheduler := by
    intro e reqs h
    induction reqs generalizing e with
    | nil => exact h
    | cons req reqs ih =>
      simp only [addMessage]
      split
      · exact ih _ (pass h ‹_›)
      · exact h
  have hs := validRequests_scheduler e reqs
  unfold onAddMessage
  generalize e.validRequests reqs = p at hs
  obtain ⟨e', valid⟩ := p
  dsimp only at hs ⊢
  split
  · exact hs ▸ h
  · exact loop e' valid (hs ▸ h)

theorem addOne_hasSession {e e' : State} {req : Request} (h : e.addOne req = .ok e')
    (sid : Nat) (hs : e.scheduler.hasSession sid) : e'.scheduler.hasSession sid := by
  obtain ⟨-, -, ⟨-, -, q, -, -, -, -, -, -, rfl⟩ | ⟨id, -, g, -, -, rfl⟩⟩ := addOne_cases h <;>
    simpa [withScheduler] using hs

theorem addMessage_returns {e : State} {reqs : List Request}
    (h : ∀ r ∈ reqs, e.scheduler.hasSession r.sessionId ∧ r.tokenIds ≠ []) :
    (e.addMessage reqs).2 = none := by
  induction reqs generalizing e with
  | nil => rfl
  | cons req reqs ih =>
    obtain ⟨known, hne⟩ := h req (List.mem_cons_self _ _)
    have ok : ∃ e', e.addOne req = .ok e' := by
      unfold addOne
      obtain ⟨sess, hsess⟩ := Option.isSome_iff_exists.mp
        ((Scheduler.session?_isSome _ _).trans known)
      rw [hsess]
      dsimp only
      split
      · rw [if_pos (show req.tokenIds.length > 0 from List.length_pos.mpr hne)]
        exact ⟨_, rfl⟩
      · exact ⟨_, rfl⟩
    obtain ⟨e', he'⟩ := ok
    simp only [addMessage, he']
    exact ih fun r hr => ⟨addOne_hasSession he' _ (h r (List.mem_cons_of_mem _ hr)).1,
      (h r (List.mem_cons_of_mem _ hr)).2⟩

theorem onAddMessage_returns (e : State) {reqs : List Request} (h : ∀ r ∈ reqs, r.tokenIds ≠ []) :
    (e.onAddMessage reqs).2 = none := by
  have hs := validRequests_scheduler e reqs
  have hv := validRequests_valid e reqs
  unfold onAddMessage
  generalize e.validRequests reqs = p at hs hv ⊢
  obtain ⟨e', valid⟩ := p
  dsimp only at hs hv ⊢
  split
  · rfl
  · apply addMessage_returns
    intro r hr
    rw [hv, List.mem_filter] at hr
    rw [hs]
    exact ⟨hr.2, h r hr.1⟩

theorem validRequests_maxSessionLen (e : State) (reqs : List Request) :
    (e.validRequests reqs).1.maxSessionLen = e.maxSessionLen := by
  induction reqs generalizing e with
  | nil => rfl
  | cons req reqs ih =>
    unfold validRequests
    split
    · exact ih e
    · exact (ih _).trans (by unfold response; split <;> rfl)

theorem addOne_congr {e₁ e₂ : State} (hs : e₁.scheduler = e₂.scheduler)
    (hm : e₁.maxSessionLen = e₂.maxSessionLen) (req : Request) :
    (e₁.addOne req).map (fun e => (e.scheduler, e.maxSessionLen)) =
      (e₂.addOne req).map (fun e => (e.scheduler, e.maxSessionLen)) := by
  unfold addOne
  rw [hs, hm]
  cases e₂.scheduler.session? req.sessionId with
  | none => rfl
  | some sess =>
    dsimp only
    cases sess.sequences with
    | nil => by_cases hlen : 0 < req.tokenIds.length <;> simp [hlen, Except.map, withScheduler, hm]
    | cons id _ => simp [Except.map, withScheduler, hm]

theorem addMessage_congr {e₁ e₂ : State} (hs : e₁.scheduler = e₂.scheduler)
    (hm : e₁.maxSessionLen = e₂.maxSessionLen) (reqs : List Request) :
    (e₁.addMessage reqs).1.scheduler = (e₂.addMessage reqs).1.scheduler ∧
      (e₁.addMessage reqs).2 = (e₂.addMessage reqs).2 := by
  induction reqs generalizing e₁ e₂ with
  | nil => exact ⟨hs, rfl⟩
  | cons req reqs ih =>
    have h := addOne_congr hs hm req
    simp only [addMessage]
    cases h₁ : e₁.addOne req <;> cases h₂ : e₂.addOne req <;>
      simp only [h₁, h₂, Except.map, Except.ok.injEq, Except.error.injEq, Prod.mk.injEq,
        reduceCtorEq] at h ⊢
    · exact ⟨hs, h ▸ rfl⟩
    · exact ih h.1 h.2

theorem onAddMessage_known (e : State) {reqs : List Request} (h : ∀ r ∈ reqs, r.tokenIds ≠ []) :
    (e.onAddMessage reqs).2 = none ∧
      (e.onAddMessage reqs).1.scheduler =
        (e.addMessage (reqs.filter (e.scheduler.hasSession ·.sessionId))).1.scheduler := by
  refine ⟨onAddMessage_returns e h, ?_⟩
  have hs := validRequests_scheduler e reqs
  have hm := validRequests_maxSessionLen e reqs
  have hv := validRequests_valid e reqs
  unfold onAddMessage
  generalize e.validRequests reqs = p at hs hm hv
  obtain ⟨e', valid⟩ := p
  dsimp only at hs hm hv ⊢
  rw [← hv]
  split
  · rename_i hnil
    rw [List.isEmpty_iff.mp hnil]
    exact hs
  · exact (addMessage_congr hs hm valid).1

end State

/-- A batch whose second request would open a sequence from an empty input: the
`AssertionError` leaves `_on_add_message`; the first request has opened its sequence, the
third has not, and the second gets no response. Without the empty request the third opens
its sequence. -/
theorem add_message_assert_escapes :
    let e : State := ⟨⟨[⟨1, []⟩, ⟨2, []⟩, ⟨3, []⟩], []⟩, [], [], 100⟩
    let ask : Nat → Nat → List Nat → Request := fun sid r ids => ⟨sid, r, true, ids, 8, false, none⟩
    let batch := [ask 1 10 [5], ask 2 11 [], ask 3 12 [6]]
    (e.onAddMessage batch).2 = some "Empty input is not allowed." ∧
    ((e.onAddMessage batch).1.scheduler.session? 1).map (·.sequences) = some [0] ∧
    ((e.onAddMessage batch).1.scheduler.session? 3).map (·.sequences) = some [] ∧
    (e.onAddMessage batch).1.posts = [] ∧
    ((e.onAddMessage [ask 1 10 [5], ask 3 12 [6]]).1.scheduler.session? 3).map (·.sequences) =
      some [1] := by
  intro e ask batch
  have known := @State.onAddMessage_known e [ask 1 10 [5], ask 3 12 [6]] (by decide)
  refine ⟨by decide, by decide, by decide, by decide, ?_⟩
  rw [known.2]
  decide

end Lmdeploy.Engine
