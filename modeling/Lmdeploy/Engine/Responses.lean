import Lmdeploy.Engine.Run

/-! The guard of `_response`: a handle whose type is FINISH is posted nothing more. Every
block but two posts only through `_response`, so on a run without those two nothing is posted
to a handle after its FINISH. The two are `_on_stop_session`, which posts FINISH past the
guard, and the output block of the migration loop, which writes SUCCESS into a handle. -/
namespace Lmdeploy.Engine

namespace State

@[simp] theorem setRespType_posts (e : State) (r : Nat) (t : ResponseType) :
    (e.setRespType r t).posts = e.posts := rfl

@[simp] theorem post_posts (e : State) (r : Nat) (t : ResponseType) :
    (e.post r t).posts = e.posts ++ [(r, t)] := rfl

@[simp] theorem post_respType? (e : State) (r r' : Nat) (t : ResponseType) :
    (e.post r t).respType? r' = e.respType? r' := rfl

theorem respType?_setRespType (e : State) (r r' : Nat) (t : ResponseType) :
    (e.setRespType r t).respType? r' = if r' = r then some t else e.respType? r' := by
  unfold respType? setRespType
  split
  · simp [*]
  · rename_i hne
    simp only [List.find?_cons, Ne.symm hne, decide_False, List.find?_filter]
    congr 2
    funext p
    by_cases hp : p.1 = r' <;> simp [hp, hne]

def Guarded (e : State) : Prop :=
  ∀ r, (r, ResponseType.finish) ∈ e.posts → e.respType? r = some .finish

/-- From `e` to `e'` the guard is kept, and what is posted goes to handles `e` has not
posted FINISH. -/
def Respects (e e' : State) : Prop :=
  e.Guarded → e'.Guarded ∧
    ∃ new, e'.posts = e.posts ++ new ∧ ∀ p ∈ new, (p.1, ResponseType.finish) ∉ e.posts

theorem Respects.refl (e : State) : e.Respects e := fun h => ⟨h, [], by simp, nofun⟩

theorem Respects.trans {e e' e'' : State} (h : e.Respects e') (h' : e'.Respects e'') :
    e.Respects e'' := fun hg => by
  obtain ⟨hg', new, hp, hnew⟩ := h hg
  obtain ⟨hg'', new', hp', hnew'⟩ := h' hg'
  refine ⟨hg'', new ++ new', by rw [hp', hp, List.append_assoc], fun p hp'' hfin => ?_⟩
  rcases List.mem_append.mp hp'' with hpn | hpn
  · exact hnew p hpn hfin
  · exact hnew' p hpn (hp ▸ List.mem_append_left _ hfin)

theorem respects_of_eq {e e' : State} (hr : e'.respTypes = e.respTypes)
    (hp : e'.posts = e.posts) : e.Respects e' := fun hg =>
  ⟨fun r h => by simpa only [respType?, hr] using hg r (hp ▸ h), [], by simp [hp], nofun⟩

theorem respects_response (e : State) (r : Nat) (t : ResponseType) :
    e.Respects (e.response r t) := by
  unfold response
  split
  · exact .refl e
  · rename_i hr
    intro hg
    have fresh : (r, ResponseType.finish) ∉ e.posts := fun h => hr (hg r h)
    refine ⟨fun r' hr' => ?_, [(r, t)], rfl, by simpa using fresh⟩
    rw [post_respType?, respType?_setRespType]
    simp only [post_posts, setRespType_posts, List.mem_append, List.mem_singleton,
      Prod.mk.injEq] at hr'
    split
    · rename_i he
      subst he
      rcases hr' with h | ⟨-, rfl⟩
      exacts [absurd h fresh, rfl]
    · rename_i hne
      rcases hr' with h | ⟨he, -⟩
      exacts [hg r' h, absurd he hne]

theorem respects_answer {e : State} {m : State × ResponseType} (c : Bool) (r : Nat)
    (hr : m.1.respTypes = e.respTypes) (hp : m.1.posts = e.posts) :
    e.Respects (if c then m.1.response r m.2 else m.1) := by
  have h := respects_of_eq hr hp
  split
  · exact h.trans (respects_response _ _ _)
  · exact h

theorem onAddSession_respects (e : State) (reqs : List Request) :
    e.Respects (e.onAddSession reqs) := by
  induction reqs generalizing e with
  | nil => exact .refl e
  | cons req reqs ih =>
    have opened : e.Respects (if e.scheduler.hasSession req.sessionId then e
        else e.withScheduler (e.scheduler.addSession req.sessionId)) :=
      respects_of_eq (by split <;> rfl) (by split <;> rfl)
    simp only [onAddSession]
    refine Respects.trans ?_ (ih _)
    split
    · exact opened.trans (respects_response _ _ _)
    · exact opened

theorem onEndSession_respects (e : State) (reqs : List Request) :
    e.Respects (e.onEndSession reqs) := by
  induction reqs generalizing e with
  | nil => exact .refl e
  | cons req reqs ih =>
    simp only [onEndSession]
    refine Respects.trans (respects_answer _ _ ?_ ?_) (ih _) <;>
      split <;> (try split) <;> (try split) <;> rfl

theorem validRequests_respects (e : State) (reqs : List Request) :
    e.Respects (e.validRequests reqs).1 := by
  induction reqs generalizing e with
  | nil => exact .refl e
  | cons req reqs ih =>
    unfold validRequests
    split
    · exact ih e
    · exact (respects_response _ _ _).trans (ih _)

theorem addMessage_respects (e : State) (reqs : List Request) :
    e.Respects (e.addMessage reqs).1 := by
  induction reqs generalizing e with
  | nil => exact .refl e
  | cons req reqs ih =>
    simp only [addMessage]
    split
    · rename_i e' hok
      refine (respects_of_eq ?_ ?_).trans (ih e') <;>
        obtain ⟨-, -, ⟨-, -, -, -, -, -, -, -, -, rfl⟩ | ⟨-, -, -, -, -, rfl⟩⟩ := addOne_cases hok <;> rfl
    · exact .refl e

theorem onAddMessage_respects (e : State) (reqs : List Request) :
    e.Respects (e.onAddMessage reqs).1 := by
  have hv := validRequests_respects e reqs
  unfold onAddMessage
  generalize e.validRequests reqs = p at hv
  obtain ⟨e', valid⟩ := p
  dsimp only at hv ⊢
  split
  · exact hv
  · exact hv.trans (addMessage_respects e' valid)

theorem sendResps_respects (e : State) (outputs : List InferOutput) :
    e.Respects (e.sendResps outputs) := by
  unfold sendResps
  induction outputs generalizing e with
  | nil => exact .refl e
  | cons out outputs ih =>
    simp only [List.foldl_cons]
    refine Respects.trans ?_ (ih _)
    split
    · exact respects_response _ _ _
    · exact .refl e

end State

/-- The blocks that post only through `_response`: all but `_on_stop_session` and the output
block of the migration loop. -/
def Op.viaResponse : Op → Bool
  | .stopSession _ | .migrate => false
  | _ => true

namespace Sys

theorem step_respects {x x' : Sys} {op : Op} (h : x.step op = some x') (hop : op.viaResponse) :
    x.engine.Respects x'.engine := by
  cases op <;> simp only [step, Op.viaResponse] at h hop
  case addSession reqs => cases h; exact State.onAddSession_respects _ _
  case endSession reqs => cases h; exact State.onEndSession_respects _ _
  case addMessage reqs =>
    split at h <;> cases h
    rename_i e heq
    simpa [heq] using State.onAddMessage_respects x.engine reqs
  case send =>
    split at h <;> cases h
    exact State.sendResps_respects _ _
  case stopSession | migrate => cases hop
  case unlock => cases h; exact State.respects_of_eq rfl rfl
  all_goals
    split at h <;> cases h
    exact State.respects_of_eq rfl rfl

theorem run_respects {x x' : Sys} {ops : List Op} (h : x.run ops = some x')
    (hops : ∀ op ∈ ops, op.viaResponse) : x.engine.Respects x'.engine := by
  induction ops generalizing x with
  | nil => cases h; exact .refl _
  | cons op ops ih =>
    simp only [run, Option.bind_eq_some] at h
    obtain ⟨y, hy, hrun⟩ := h
    exact (step_respects hy (hops op (List.mem_cons_self _ _))).trans
      (ih hrun fun op hop => hops op (List.mem_cons_of_mem _ hop))

/-- On a run that stops no session and migrates nothing, nothing is posted to a handle after
its FINISH: once the run has posted FINISH to `r`, every later post goes to another handle. -/
theorem finish_final {m : Int} {ops ops' : List Op} {x x' : Sys}
    (h : (init m).run ops = some x) (h' : x.run ops' = some x')
    (hops : ∀ op ∈ ops ++ ops', op.viaResponse) {r : Nat}
    (hfin : (r, ResponseType.finish) ∈ x.engine.posts) :
    ∃ new, x'.engine.posts = x.engine.posts ++ new ∧ ∀ p ∈ new, p.1 ≠ r := by
  have guarded := (run_respects h fun op hop => hops op (List.mem_append_left _ hop))
    (fun _ h => by cases h)
  obtain ⟨-, new, hp, hnew⟩ :=
    run_respects h' (fun op hop => hops op (List.mem_append_right _ hop)) guarded.1
  exact ⟨new, hp, fun p hp' he => hnew p hp' (he ▸ hfin)⟩

theorem finish_final_next_request :
    let first : List Op := [.addSession [ask 1 20 [] none], .addMessage [ask 1 10 [5] none],
      .schedule [0], .lock, .forward [7] [true], .send, .unlock]
    let next : List Op := [.addMessage [ask 1 11 [9] none], .schedule [0], .lock,
      .forward [8] [true], .send, .unlock]
    ∃ x x', (init 100).run first = some x ∧ x.run next = some x' ∧
      (∀ op ∈ first ++ next, op.viaResponse) ∧ (10, ResponseType.finish) ∈ x.engine.posts ∧
      ∃ new, x'.engine.posts = x.engine.posts ++ new ∧ ∀ p ∈ new, p.1 ≠ 10 := by
  intro first next
  exact ⟨_, _, rfl, rfl, by decide, by decide,
    @finish_final 100 first next _ _ rfl rfl (by decide) 10 (by decide)⟩

end Sys

end Lmdeploy.Engine
