import Lmdeploy.Engine.Batch
import Mathlib.Data.List.Nodup

/-! The sessions and batches every run keeps. `_on_add_session` opens a session only under an
id no open session has; `_add_message` gives a session at most one sequence, under the next
free `seq_id`; and the scheduler hands the main loop batches of distinct sequences listed in
sessions (`Scheduler.schedulable`, modelled from the spec). A batch is held across awaits
while sessions end and open, and its rows stay distinct sequences of distinct sessions, so the
spec of `_make_infer_outputs` holds of every forward output of every run. -/
namespace Lmdeploy.Engine

theorem eq_of_mem_of_length_le_one {l : List Nat} (hl : l.length ≤ 1) {a b : Nat}
    (ha : a ∈ l) (hb : b ∈ l) : a = b := by
  rcases l with _ | ⟨x, _ | ⟨y, t⟩⟩
  · cases ha
  · simp_all
  · simp at hl

namespace Scheduler

def Keeps (s s' : Scheduler) : Prop :=
  ∀ j q, s.find? j = some q → ∃ q', s'.find? j = some q' ∧ q'.sessionId = q.sessionId

theorem Keeps.refl (s : Scheduler) : s.Keeps s := fun _ q h => ⟨q, h, rfl⟩

theorem Keeps.trans {s s' s'' : Scheduler} (h : s.Keeps s') (h' : s'.Keeps s'') :
    s.Keeps s'' := fun j q hq => by
  obtain ⟨q', hq', hs'⟩ := h j q hq
  obtain ⟨q'', hq'', hs''⟩ := h' j q' hq'
  exact ⟨q'', hq'', hs''.trans hs'⟩

theorem Keeps.of_heap {s s' : Scheduler} (h : s'.heap = s.heap) : s.Keeps s' :=
  fun j q hq => ⟨q, by simpa only [find?, h] using hq, rfl⟩

theorem Objects.keeps {s s' : Scheduler} (h : s.Objects s') : s.Keeps s' := fun j q hq => by
  have hr := h j
  rw [hq] at hr
  generalize s'.find? j = o at hr ⊢
  rcases hr with ⟨hg⟩
  exact ⟨_, rfl, hg.sessionId⟩

theorem Objects.none {s s' : Scheduler} (h : s.Objects s') {j : Nat} (hn : s.find? j = none) :
    s'.find? j = none := by
  have hr := h j
  rw [hn] at hr
  generalize s'.find? j = o at hr ⊢
  cases hr
  rfl

theorem keeps_modify (s : Scheduler) (id : Nat) {g : Sequence → Sequence}
    (hid : ∀ q, (g q).seqId = q.seqId) (hs : ∀ q, (g q).sessionId = q.sessionId) :
    s.Keeps (s.modify id g) := fun j q hq => by
  rw [find?_modify s id j hid, hq]
  exact ⟨_, rfl, by dsimp only; split <;> simp [hs]⟩

theorem Batch.keep {s s' : Scheduler} {ids : List Nat} (hb : s.Batch ids) (hk : s.Keeps s') :
    s'.Batch ids where
  nodup := hb.nodup
  found id hid := by
    obtain ⟨q, hq⟩ := Option.isSome_iff_exists.mp (hb.found id hid)
    obtain ⟨q', hq', -⟩ := hk id q hq
    simp [hq']
  sessions := hb.sessions.imp_of_mem fun {i j} hi hj hne qi' qj' hqi' hqj' => by
    obtain ⟨qi, hqi⟩ := Option.isSome_iff_exists.mp (hb.found i hi)
    obtain ⟨qj, hqj⟩ := Option.isSome_iff_exists.mp (hb.found j hj)
    obtain ⟨qi'', hqi'', hsi⟩ := hk i qi hqi
    obtain ⟨qj'', hqj'', hsj⟩ := hk j qj hqj
    obtain rfl := Option.some.inj (hqi''.symm.trans hqi')
    obtain rfl := Option.some.inj (hqj''.symm.trans hqj')
    rw [hsi, hsj]
    exact hne qi qj hqi hqj

/-- The shape of the scheduler every run keeps: no sequence sits at or past the heap's
length, where `_add_message` takes its next `seq_id`; open sessions have distinct ids; and
a session lists at most one sequence, one of its own. -/
structure WF (s : Scheduler) : Prop where
  fresh : ∀ j, s.heap.length ≤ j → s.find? j = none
  sessions : (s.sessions.map (·.sessionId)).Nodup
  single : ∀ ss ∈ s.sessions, ss.sequences.length ≤ 1
  listed : ∀ ss ∈ s.sessions, ∀ id ∈ ss.sequences,
    ∃ q, s.find? id = some q ∧ q.sessionId = ss.sessionId

theorem WF.transfer {s s' : Scheduler} (h : s.WF) (hk : s.Keeps s')
    (hn : ∀ j, s.find? j = none → s'.find? j = none) (hl : s'.heap.length = s.heap.length)
    (hs : s'.sessions.Sublist s.sessions) : s'.WF where
  fresh j hj := hn j (h.fresh j (hl ▸ hj))
  sessions := h.sessions.sublist (hs.map _)
  single ss hss := h.single ss (hs.subset hss)
  listed ss hss id hid := by
    obtain ⟨q, hq, hsid⟩ := h.listed ss (hs.subset hss) id hid
    obtain ⟨q', hq', hsid'⟩ := hk id q hq
    exact ⟨q', hq', hsid'.trans hsid⟩

theorem WF.grow {s s' : Scheduler} (h : s.WF) (hg : s.Grows s') : s'.WF :=
  h.transfer hg.objects.keeps (fun _ => hg.objects.none) hg.length hg.sessions

theorem WF.modify {s : Scheduler} (h : s.WF) (id : Nat) {g : Sequence → Sequence}
    (hid : ∀ q, (g q).seqId = q.seqId) (hs : ∀ q, (g q).sessionId = q.sessionId) :
    (s.modify id g).WF :=
  h.transfer (keeps_modify s id hid hs) (fun j hn => by rw [find?_modify s id j hid, hn]; rfl)
    (List.length_map _ _) (.refl _)

theorem WF.addSession {s : Scheduler} (h : s.WF) {sid : Nat} (hs : s.hasSession sid = false) :
    (s.addSession sid).WF where
  fresh := h.fresh
  sessions := by
    simp only [Scheduler.addSession, List.map_append, List.map_singleton]
    refine h.sessions.append (List.nodup_singleton _) ?_
    simpa [hasSession, List.disjoint_singleton] using hs
  single ss hss := by
    simp only [Scheduler.addSession, List.mem_append, List.mem_singleton] at hss
    rcases hss with hss | rfl
    exacts [h.single ss hss, by simp]
  listed ss hss := by
    simp only [Scheduler.addSession, List.mem_append, List.mem_singleton] at hss
    rcases hss with hss | rfl
    exacts [h.listed ss hss, by simp]

theorem WF.session?_unique {s : Scheduler} (h : s.WF) {sid : Nat} {sess ss : Session}
    (hsess : s.session? sid = some sess) (hss : ss ∈ s.sessions) (hid : ss.sessionId = sid) :
    ss = sess := by
  have hm := List.mem_of_find?_eq_some hsess
  have hsid : sess.sessionId = sid := by simpa using List.find?_some hsess
  exact List.inj_on_of_nodup_map h.sessions hss hm (hid.trans hsid.symm)

theorem find?_addSequence_new {s : Scheduler} (h : s.WF) {q : Sequence}
    (hid : q.seqId = s.heap.length) : (s.addSequence q).find? q.seqId = some q := by
  rw [find?_addSequence, h.fresh _ hid.ge, if_pos rfl]
  rfl

theorem keeps_addSequence (s : Scheduler) (q : Sequence) : s.Keeps (s.addSequence q) :=
  fun j q' hq' => ⟨q', by rw [find?_addSequence, hq']; rfl, rfl⟩

theorem WF.addSequence {s : Scheduler} (h : s.WF) {q : Sequence} {sess : Session}
    (hsess : s.session? q.sessionId = some sess) (hnil : sess.sequences = [])
    (hid : q.seqId = s.heap.length) : (s.addSequence q).WF where
  fresh j hj := by
    simp only [Scheduler.addSequence, List.length_append, List.length_singleton] at hj
    rw [find?_addSequence, h.fresh j (by omega), if_neg (by omega)]
    rfl
  sessions := by
    simp only [Scheduler.addSequence, List.map_map]
    convert h.sessions using 1
    exact List.map_congr_left fun ss _ => by simp only [Function.comp_apply]; split <;> rfl
  single ss' hss' := by
    obtain ⟨ss, hss, rfl⟩ := List.mem_map.mp hss'
    split
    · rename_i heq
      rw [h.session?_unique hsess hss heq, hnil]
      rfl
    · exact h.single ss hss
  listed ss' hss' id hid' := by
    obtain ⟨ss, hss, rfl⟩ := List.mem_map.mp hss'
    by_cases heq : ss.sessionId = q.sessionId
    · rw [if_pos heq] at hid' ⊢
      rw [h.session?_unique hsess hss heq, hnil, List.nil_append, List.mem_singleton] at hid'
      subst hid'
      exact ⟨q, find?_addSequence_new h hid, heq.symm⟩
    · rw [if_neg heq] at hid' ⊢
      obtain ⟨q', hq', hsid⟩ := h.listed ss hss id hid'
      exact ⟨q', by rw [find?_addSequence, hq']; rfl, hsid⟩

theorem WF.found_of_listed {s : Scheduler} (h : s.WF) {id : Nat}
    (hl : s.sessions.any (·.sequences.contains id)) :
    ∃ ss ∈ s.sessions, id ∈ ss.sequences ∧ ∃ q, s.find? id = some q ∧ q.sessionId = ss.sessionId := by
  obtain ⟨ss, hss, hid⟩ := List.any_eq_true.mp hl
  have hid : id ∈ ss.sequences := by simpa using hid
  exact ⟨ss, hss, hid, h.listed ss hss id hid⟩

theorem schedulable_listed {s : Scheduler} {id : Nat} (h : s.schedulable id) :
    s.sessions.any (·.sequences.contains id) :=
  ((Bool.and_eq_true _ _).mp h).1

theorem migratable_listed {s : Scheduler} {id : Nat} (h : s.migratable id) :
    s.sessions.any (·.sequences.contains id) :=
  ((Bool.and_eq_true _ _).mp h).1

theorem Batch.nil (s : Scheduler) : s.Batch [] := ⟨List.nodup_nil, nofun, .nil⟩

def Answerable (s : Scheduler) : Prop := ∀ j q, s.find? j = some q → q.Answerable

theorem Objects.answerable {s s' : Scheduler} (h : s.Objects s') (hs : s.Answerable) :
    s'.Answerable := fun j q' hq' => by
  have hr := h j
  rw [hq'] at hr
  generalize hf : s.find? j = o at hr
  rcases hr with ⟨hg⟩
  exact hg.answerable (hs j _ hf)

theorem WF.batch {s : Scheduler} (h : s.WF) {picks : List Nat} (hnd : picks.Nodup)
    (hp : ∀ id ∈ picks, s.sessions.any (·.sequences.contains id)) : s.Batch picks where
  nodup := hnd
  found id hid := by
    obtain ⟨-, -, -, q, hq, -⟩ := h.found_of_listed (hp id hid)
    simp [hq]
  sessions := hnd.imp_of_mem fun {i j} hi hj hne qi qj hqi hqj hsid => by
    obtain ⟨ssi, hssi, hi', qi', hqi', hsi⟩ := h.found_of_listed (hp i hi)
    obtain ⟨ssj, hssj, hj', qj', hqj', hsj⟩ := h.found_of_listed (hp j hj)
    obtain rfl := Option.some.inj (hqi'.symm.trans hqi)
    obtain rfl := Option.some.inj (hqj'.symm.trans hqj)
    have hss : ssi = ssj :=
      List.inj_on_of_nodup_map h.sessions hssi hssj (hsi.symm.trans (hsid.trans hsj))
    subst hss
    exact hne (eq_of_mem_of_length_le_one (h.single ssi hssi) hi' hj')

end Scheduler

namespace State

theorem onAddSession_wf (e : State) (reqs : List Request) (h : e.scheduler.WF) :
    (e.onAddSession reqs).scheduler.WF := by
  induction reqs generalizing e with
  | nil => exact h
  | cons req reqs ih =>
    have opened : (if e.scheduler.hasSession req.sessionId then e
        else e.withScheduler (e.scheduler.addSession req.sessionId)).scheduler.WF := by
      split
      · exact h
      · exact h.addSession (Bool.eq_false_iff.mpr ‹_›)
    simp only [onAddSession]
    apply ih
    split <;> simpa using opened

theorem addOne_wf {e e' : State} {req : Request} (h : e.scheduler.WF)
    (hok : e.addOne req = .ok e') : e'.scheduler.WF ∧ e.scheduler.Keeps e'.scheduler := by
  obtain ⟨sess, hsess, ⟨hnil, -, q, hid, hs, -, -, -, -, rfl⟩ | ⟨id, -, g, -, hg, rfl⟩⟩ :=
    addOne_cases hok
  · exact ⟨h.addSequence (hs ▸ hsess) hnil hid, Scheduler.keeps_addSequence _ _⟩
  · exact ⟨h.modify _ (fun q => (hg q).1) fun q => (hg q).2.1,
      Scheduler.keeps_modify _ _ (fun q => (hg q).1) fun q => (hg q).2.1⟩

theorem addOne_answerable {e e' : State} {req : Request} (h : e.scheduler.Answerable)
    (hok : e.addOne req = .ok e') : e'.scheduler.Answerable := fun j q' hq' => by
  obtain ⟨-, -, ⟨-, -, q, -, -, -, -, -, hq, rfl⟩ | ⟨id, -, g, -, hg, rfl⟩⟩ := addOne_cases hok
  · rw [withScheduler_scheduler, Scheduler.find?_addSequence, Option.or_eq_some] at hq'
    rcases hq' with hq' | ⟨-, hq'⟩
    · exact h j q' hq'
    · split at hq' <;> cases hq'
      exact hq
  · rw [withScheduler_scheduler, Scheduler.find?_modify _ _ _ fun q => (hg q).1] at hq'
    obtain ⟨q, hf, rfl⟩ := Option.map_eq_some'.mp hq'
    split
    exacts [(hg q).2.2.2.2.2, h j q hf]

theorem onAddMessage_answerable (e : State) (reqs : List Request) (h : e.scheduler.Answerable) :
    (e.onAddMessage reqs).1.scheduler.Answerable :=
  onAddMessage_keeps _ addOne_answerable e reqs h

theorem onAddMessage_wf (e : State) (reqs : List Request) (h : e.scheduler.WF) :
    (e.onAddMessage reqs).1.scheduler.WF ∧
      e.scheduler.Keeps (e.onAddMessage reqs).1.scheduler :=
  onAddMessage_keeps (fun s => s.WF ∧ e.scheduler.Keeps s)
    (fun ⟨hwf, hk⟩ hok => ⟨(addOne_wf hwf hok).1, hk.trans (addOne_wf hwf hok).2⟩) e reqs
    ⟨h, .refl _⟩

end State

namespace Sys

/-- What every run keeps: the scheduler's shape; the main loop's `running` and
`next_running` and the migration loop's `migration_running` are batches of distinct sequences
of distinct sessions; and every sequence has a handle, with a migration request while it is
WAITING_MIGRATION. -/
structure Inv (x : Sys) : Prop where
  wf : x.engine.scheduler.WF
  running : x.engine.scheduler.Batch x.running
  next : ∀ picks, x.nextRunning = some picks → x.engine.scheduler.Batch picks
  migrating : x.engine.scheduler.Batch x.migrating
  answerable : x.engine.scheduler.Answerable

theorem init_inv (m : Int) : (init m).Inv where
  wf := ⟨fun _ _ => rfl, List.nodup_nil, nofun, nofun⟩
  running := .nil _
  next _ h := by cases h
  migrating := .nil _
  answerable _ _ h := by cases h

/-- Only the scheduling block and `lock_running` change the main loop's batches. -/
theorem step_batches {x x' : Sys} {op : Op} (h : x.step op = some x') :
    (∃ picks, op = .schedule picks ∧ picks.Nodup ∧
      (∀ id ∈ picks, x.engine.scheduler.schedulable id) ∧
      x'.nextRunning = some picks ∧ x'.running = x.running) ∨
    (op = .lock ∧ x.nextRunning = some x'.running ∧ x'.nextRunning = none) ∨
    (x'.running = x.running ∧ x'.nextRunning = x.nextRunning) := by
  cases op
  case schedule picks =>
    simp only [step] at h
    split at h
    · rename_i hp
      cases h
      exact .inl ⟨picks, rfl, hp.1, hp.2, rfl, rfl⟩
    · cases h
  case lock =>
    simp only [step] at h
    split at h
    · rename_i running hn
      cases h
      exact .inr (.inl ⟨rfl, hn, rfl⟩)
    · cases h
  case migrate =>
    simp only [step] at h
    split at h
    · cases h
    · obtain ⟨_, -, rfl⟩ := Option.map_eq_some'.mp h
      exact .inr (.inr ⟨rfl, rfl⟩)
  all_goals
    refine .inr (.inr ?_)
    simp only [step] at h
  all_goals first
    | (cases h; exact ⟨rfl, rfl⟩)
    | (split at h <;> cases h; exact ⟨rfl, rfl⟩)

theorem step_migrating {x x' : Sys} {op : Op} (h : x.step op = some x') :
    (∃ picks, picks.Nodup ∧ (∀ id ∈ picks, x.engine.scheduler.migratable id) ∧
      x'.migrating = picks) ∨ x'.migrating = [] ∨ x'.migrating = x.migrating := by
  cases op
  case scheduleMigration picks =>
    simp only [step] at h
    split at h
    · rename_i hp
      cases h
      exact .inl ⟨picks, hp.1, hp.2, rfl⟩
    · cases h
  case migrate =>
    simp only [step] at h
    split at h
    · cases h
    · obtain ⟨_, -, rfl⟩ := Option.map_eq_some'.mp h
      exact .inr (.inl rfl)
  all_goals
    refine .inr (.inr ?_)
    simp only [step] at h
  all_goals first
    | (cases h; rfl)
    | (split at h <;> cases h; rfl)

theorem step_inv {x x' : Sys} {op : Op} (hi : x.Inv) (h : x.step op = some x') : x'.Inv := by
  have ⟨hwf, hk, answerable⟩ : x'.engine.scheduler.WF ∧
      x.engine.scheduler.Keeps x'.engine.scheduler ∧ x'.engine.scheduler.Answerable := by
    rcases step_changes h with ⟨reqs, -, rfl⟩ | ⟨reqs, -, -, rfl⟩ | ⟨-, hg⟩
    · exact ⟨State.onAddSession_wf _ _ hi.wf, .of_heap (State.onAddSession_heap _ _),
        (Scheduler.objects_of_heap (State.onAddSession_heap _ _)).answerable hi.answerable⟩
    · exact ⟨(State.onAddMessage_wf _ _ hi.wf).1, (State.onAddMessage_wf _ _ hi.wf).2,
        State.onAddMessage_answerable _ _ hi.answerable⟩
    · exact ⟨hi.wf.grow hg, hg.objects.keeps, hg.objects.answerable hi.answerable⟩
  have migrating : x'.engine.scheduler.Batch x'.migrating := by
    rcases step_migrating h with ⟨picks, hnd, hp, hm⟩ | hm | hm <;> rw [hm]
    · exact (hi.wf.batch hnd fun id hid => Scheduler.migratable_listed (hp id hid)).keep hk
    · exact .nil _
    · exact hi.migrating.keep hk
  rcases step_batches h with ⟨picks, -, hnd, hp, hn, hr⟩ | ⟨-, hn, hn'⟩ | ⟨hr, hn⟩
  · refine ⟨hwf, hr ▸ hi.running.keep hk, fun _ h => ?_, migrating, answerable⟩
    rw [← Option.some.inj (hn.symm.trans h)]
    exact (hi.wf.batch hnd fun id hid => Scheduler.schedulable_listed (hp id hid)).keep hk
  · exact ⟨hwf, (hi.next _ hn).keep hk, fun _ h => by simp [hn'] at h, migrating, answerable⟩
  · exact ⟨hwf, hr ▸ hi.running.keep hk, fun picks h => (hi.next picks (hn ▸ h)).keep hk,
      migrating, answerable⟩

theorem Reach.inv {m : Int} {x : Sys} {gen : Nat → List Nat} (h : Reach m x gen) : x.Inv := by
  induction h with
  | init => exact init_inv _
  | step _ _ hstep ih => exact step_inv ih hstep

/-- Over every run, a forward output of the main loop puts on `resp_que` one output for each
row whose sequence was LOCKED, in row order, with the row's stop flag as `finish` and, as its
tokens, those generated since the sequence's last admission or continuation followed by the
row's own. -/
theorem forward_outputs {m : Int} {x x' : Sys} {gen : Nat → List Nat} (h : Reach m x gen)
    {tokens : List Nat} {stopped : List Bool} (hs : x.step (.forward tokens stopped) = some x') :
    x'.queue = x.queue ++ [((x.running.zip (tokens.zip stopped)).filterMap
      (x.engine.scheduler.lockedOutput gen)).map (·.2)] := by
  simp only [step] at hs
  split at hs
  · rename_i hlen
    cases hs
    rw [← Scheduler.makeInferOutputs_spec _ (reach_tracks h) h.inv.running hlen.1 hlen.2]
  · cases hs

theorem forward_outputs_first_token :
    ∃ x x' gen, (init 100).run [.addSession [ask 1 20 [] none], .addMessage [ask 1 10 [5] none],
        .schedule [0], .lock] = some x ∧ Reach 100 x gen ∧
      x.step (.forward [7] [true]) = some x' ∧
      x'.queue = x.queue ++ [((x.running.zip ([7].zip [true])).filterMap
        (x.engine.scheduler.lockedOutput gen)).map (·.2)] ∧
      x'.queue = [[⟨1, some 10, true, [7]⟩]] :=
  have h := ((((@Reach.init 100).step (.addSession [ask 1 20 [] none]) rfl).step
    (.addMessage [ask 1 10 [5] none]) rfl).step (.schedule [0]) rfl).step .lock rfl
  ⟨_, _, _, rfl, h, rfl, forward_outputs h rfl, rfl⟩

end Sys

end Lmdeploy.Engine
