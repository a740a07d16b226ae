import Lmdeploy.Engine.Tokens

/-! What `_make_infer_outputs` puts in its dict for a batch whose rows are distinct
sequences of distinct sessions, with one token and one stop flag per row: one entry for
every row that was LOCKED when the step began, in row order, keyed by the row's session,
carrying the row's stop flag as `finish` and, as `token_ids`, the tokens generated since the
sequence's last admission or continuation with the step's own. -/
namespace Lmdeploy.Engine

theorem dictSet_fresh {α : Type} {d : List (Nat × α)} {k : Nat} (v : α)
    (h : ∀ p ∈ d, p.1 ≠ k) : dictSet d k v = d ++ [(k, v)] := by
  have : d.any (·.1 = k) = false := by simpa using h
  simp [dictSet, this]

namespace Sequence

@[simp] theorem updateRunning_seqId (q : Sequence) (token : Nat) (stop : Bool) :
    (q.updateRunning token stop).seqId = q.seqId := by
  unfold updateRunning; split_ifs <;> rfl

@[simp] theorem updateRunning_sessionId (q : Sequence) (token : Nat) (stop : Bool) :
    (q.updateRunning token stop).sessionId = q.sessionId := by
  unfold updateRunning; split_ifs <;> rfl

@[simp] theorem updateRunning_resp (q : Sequence) (token : Nat) (stop : Bool) :
    (q.updateRunning token stop).resp = q.resp := by
  unfold updateRunning; split_ifs <;> rfl

theorem updateRunning_locked {q : Sequence} {g : List Nat} (ht : q.Tracks g)
    (hl : q.status = .locked) (token : Nat) (stop : Bool) :
    (q.updateRunning token stop).Tracks (g ++ [token]) ∧
      decide ((q.updateRunning token stop).status = .stopped ∨
        (q.updateRunning token stop).status = .toBeMigrated) = stop := by
  have hall : (q.updateRunning token stop).allIds = q.allIds ++ [token] := by
    simp only [updateRunning, hl, ne_eq, not_true_eq_false, if_false]
    split <;> rfl
  refine ⟨by simpa [hall] using ht.grow (q.grows_updateRunning token stop), ?_⟩
  simp only [updateRunning, hl, ne_eq, not_true_eq_false, if_false]
  cases stop <;> simp only [if_true, Bool.false_eq_true, if_false]
  · simp [hl]
  · split <;> simp

end Sequence

namespace Scheduler

theorem find?_updateRow_self (s : Scheduler) (token id : Nat) (stop : Bool) :
    (s.updateRow token id stop).find? id = (s.find? id).map (·.updateRunning token stop) := by
  rw [updateRow, find?_modify _ _ _ fun q => q.updateRunning_seqId token stop]
  cases hf : s.find? id with
  | none => rfl
  | some q => simp [find?_seqId hf]

theorem find?_updateRow_ne (s : Scheduler) (token : Nat) {id j : Nat} (stop : Bool)
    (hj : j ≠ id) : (s.updateRow token id stop).find? j = s.find? j :=
  find?_modify_ne (fun q => q.updateRunning_seqId token stop) hj

theorem find?_updateRunning (s : Scheduler) {tokens running : List Nat} {stopped : List Bool}
    (hnd : running.Nodup) (h1 : tokens.length = running.length)
    (h2 : stopped.length = running.length) :
    (∀ r ∈ running.zip (tokens.zip stopped),
      (s.updateRunning tokens running stopped).find? r.1 =
        (s.find? r.1).map (·.updateRunning r.2.1 r.2.2)) ∧
    ∀ j ∉ running, (s.updateRunning tokens running stopped).find? j = s.find? j := by
  induction running generalizing s tokens stopped with
  | nil => exact ⟨by simp, fun j _ => by cases tokens <;> rfl⟩
  | cons id running ih =>
    obtain ⟨hid, hnd⟩ := List.nodup_cons.mp hnd
    cases tokens with
    | nil => cases h1
    | cons token tokens =>
      cases stopped with
      | nil => cases h2
      | cons stop stopped =>
        obtain ⟨rows, frame⟩ := ih (s.updateRow token id stop) hnd
          (Nat.succ.inj h1) (Nat.succ.inj h2)
        refine ⟨fun r hr => ?_, fun j hj => ?_⟩
        · simp only [List.zip_cons_cons, List.mem_cons] at hr
          rcases hr with rfl | hr
          · exact (frame id hid).trans (find?_updateRow_self _ _ _ _)
          · have hne : r.1 ≠ id := fun he =>
              hid (he ▸ List.of_mem_zip hr |>.1)
            exact (rows r hr).trans (by rw [find?_updateRow_ne _ _ _ hne])
        · simp only [List.mem_cons, not_or] at hj
          exact (frame j hj.2).trans (find?_updateRow_ne _ _ _ hj.1)

/-- The rows of a batch are distinct sequences of distinct sessions. -/
structure Batch (s : Scheduler) (ids : List Nat) : Prop where
  nodup : ids.Nodup
  found : ∀ id ∈ ids, (s.find? id).isSome
  sessions : ids.Pairwise fun i j => ∀ qi qj, s.find? i = some qi → s.find? j = some qj →
    qi.sessionId ≠ qj.sessionId

/-- What `_make_infer_outputs` puts in its dict for a row that was LOCKED: keyed by its
session, its handle, its stop flag, and the tokens generated before the step with the
step's own. -/
def lockedOutput (s : Scheduler) (gen : Nat → List Nat) (row : Nat × Nat × Bool) :
    Option (Nat × InferOutput) :=
  (s.find? row.1).bind fun q =>
    if q.status = .locked then
      some (q.sessionId, ⟨q.sessionId, q.resp, row.2.2, gen row.1 ++ [row.2.1]⟩)
    else none

theorem output_locked {s' : Scheduler} {id : Nat} {q : Sequence} {g : List Nat}
    (ht : q.Tracks g) (hl : q.status = .locked) (token : Nat) (stop : Bool)
    (h : s'.find? id = some (q.updateRunning token stop)) :
    s'.output id = some ⟨q.sessionId, q.resp, stop, g ++ [token]⟩ := by
  obtain ⟨ht', hfin⟩ := q.updateRunning_locked ht hl token stop
  have hslice := ht'.slice (by simp)
  simp only [Bool.decide_or] at hfin
  simp [output, h, hslice, hfin]

theorem zip_map_self {α β : Type} (l : List α) (f : α → β) :
    l.zip (l.map f) = l.map fun a => (a, f a) := by
  induction l with
  | nil => rfl
  | cons a l ih => simp [ih]

theorem lockedOutput_of_unlocked {s : Scheduler} (gen : Nat → List Nat) {r : Nat × Nat × Bool}
    (h : s.isLocked r.1 = false) : s.lockedOutput gen r = none := by
  unfold lockedOutput
  cases hf : s.find? r.1 <;> simp_all [isLocked]

theorem collectOutputs_locked (s s' : Scheduler) {gen : Nat → List Nat} (ht : s.Tracks gen) :
    ∀ (rows : List (Nat × Nat × Bool)) (acc : List (Nat × InferOutput)),
      (∀ r ∈ rows, s'.find? r.1 = (s.find? r.1).map (·.updateRunning r.2.1 r.2.2)) →
      rows.Pairwise (fun r r' => ∀ q q', s.find? r.1 = some q → s.find? r'.1 = some q' →
        q.sessionId ≠ q'.sessionId) →
      (∀ p ∈ acc, ∀ r ∈ rows, ∀ q, s.find? r.1 = some q → p.1 ≠ q.sessionId) →
      s'.collectOutputs (rows.map fun r => (r.1, s.isLocked r.1)) acc =
        acc ++ rows.filterMap (s.lockedOutput gen) := by
  intro rows
  induction rows with
  | nil => intro acc _ _ _; simp [collectOutputs]
  | cons r rows ih =>
    intro acc hrows hpair hfresh
    obtain ⟨hhead, hpair⟩ := List.pairwise_cons.mp hpair
    have tail := fun acc' (h : ∀ p ∈ acc', ∀ r' ∈ rows, ∀ q, s.find? r'.1 = some q →
        p.1 ≠ q.sessionId) => ih acc' (fun r' hr' => hrows r' (List.mem_cons_of_mem _ hr')) hpair h
    have fresh : ∀ p ∈ acc, ∀ r' ∈ rows, ∀ q, s.find? r'.1 = some q → p.1 ≠ q.sessionId :=
      fun p hp r' hr' => hfresh p hp r' (List.mem_cons_of_mem _ hr')
    simp only [List.map_cons, collectOutputs, List.filterMap_cons]
    cases hl : s.isLocked r.1
    · simp only [lockedOutput_of_unlocked gen hl, Bool.false_eq_true, if_false]
      exact tail acc fresh
    · obtain ⟨q, hf, hst⟩ : ∃ q, s.find? r.1 = some q ∧ q.status = .locked := by
        simpa [isLocked] using hl
      have hsome : s.lockedOutput gen r =
          some (q.sessionId, ⟨q.sessionId, q.resp, r.2.2, gen r.1 ++ [r.2.1]⟩) := by
        simp [lockedOutput, hf, hst]
      have hout := output_locked (ht r.1 q hf) hst r.2.1 r.2.2
        (by rw [hrows r (List.mem_cons_self _ _), hf]; rfl)
      simp only [hsome, if_true, hout]
      rw [dictSet_fresh _ fun p hp => hfresh p hp r (List.mem_cons_self _ _) q hf, tail,
        List.append_assoc, List.singleton_append]
      intro p hp r' hr' q' hq'
      rcases List.mem_append.mp hp with hp | hp
      · exact fresh p hp r' hr' q' hq'
      · rw [List.mem_singleton.mp hp]
        exact hhead r' hr' q q' hf hq'

/-- `_make_infer_outputs` on a batch of distinct sequences of distinct sessions, with one
token and one stop flag per row: its dict holds, in row order, one entry for every row that
was LOCKED when it began, keyed by the row's session, with the row's handle, its stop flag
as `finish`, and the tokens generated since the last admission or continuation followed by
the row's token. -/
theorem makeInferOutputs_spec (s : Scheduler) {gen : Nat → List Nat} (ht : s.Tracks gen)
    {tokens running : List Nat} {stopped : List Bool} (hb : s.Batch running)
    (h1 : tokens.length = running.length) (h2 : stopped.length = running.length) :
    (s.makeInferOutputs tokens running stopped).2 =
      (running.zip (tokens.zip stopped)).filterMap (s.lockedOutput gen) := by
  obtain ⟨rows, -⟩ := s.find?_updateRunning hb.nodup h1 h2
  have hfst : (running.zip (tokens.zip stopped)).map (·.1) = running :=
    List.map_fst_zip _ _ (by simp [h1, h2])
  have hzip : running.zip (running.map s.isLocked) =
      (running.zip (tokens.zip stopped)).map fun r => (r.1, s.isLocked r.1) := by
    conv_lhs => rw [← hfst]
    rw [zip_map_self, List.map_map]
    rfl
  have hpair := hb.sessions
  rw [← hfst, List.pairwise_map] at hpair
  simp only [makeInferOutputs]
  rw [hzip, collectOutputs_locked s _ ht _ [] rows hpair (by simp), List.nil_append]

end Scheduler

end Lmdeploy.Engine
