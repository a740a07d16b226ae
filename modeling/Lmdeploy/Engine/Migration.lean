import Lmdeploy.Engine.Sessions

/-! The output block of the migration loop on sequences that are still WAITING_MIGRATION when
it runs. `lock_running_migration` locks each of them, `update_running_migration` appends the
remote's last token, and the dict holds one output per sequence, with that token as all it has
generated since admission. The block makes its outputs whatever the sequences' status is,
also for a sequence that a continuation took out of WAITING_MIGRATION during the
transfer. -/
namespace Lmdeploy.Engine

namespace Scheduler

theorem find?_moveStatus {a b : MessageStatus} (hab : a ≠ b) (s : Scheduler) (ids : List Nat)
    (j : Nat) : (moveStatus a b s ids).find? j =
      (s.find? j).map fun q => if j ∈ ids ∧ q.status = a then { q with status := b } else q := by
  induction ids generalizing s with
  | nil => simp [moveStatus]
  | cons id ids ih =>
    have step : moveStatus a b s (id :: ids) =
        moveStatus a b (s.modify id fun q => if q.status = a then { q with status := b } else q)
          ids := rfl
    rw [step, ih, find?_modify _ _ _ fun q => by split <;> rfl]
    cases hf : s.find? j with
    | none => rfl
    | some q =>
      obtain rfl := find?_seqId hf
      simp only [Option.map_some', List.mem_cons]
      by_cases hjid : q.seqId = id <;> by_cases hst : q.status = a <;> simp [hjid, hst, Ne.symm hab]

/-- What the migration loop's output block puts in its dict for a sequence still
WAITING_MIGRATION, with a migration request and a handle: keyed by its session, not finished,
and the tokens generated since its admission followed by the remote's last token. -/
def migratedOutput (s : Scheduler) (gen : Nat → List Nat) (id : Nat) :
    Option (Nat × InferOutput) := do
  let q ← s.find? id
  let token ← q.migrationRequest
  let r ← q.resp
  if q.status = .waitingMigration then
    some (q.sessionId, ⟨q.sessionId, some r, false, gen id ++ [token]⟩)
  else none

end Scheduler

namespace State

theorem migrationOutput_fold (s : Scheduler) {gen : Nat → List Nat} (ht : s.Tracks gen)
    (hs : s.Answerable) :
    ∀ (ids : List Nat) (acc : State × List (Nat × InferOutput)),
      (∀ id ∈ ids, (s.find? id).map (·.status) = some .waitingMigration ∧
        acc.1.scheduler.find? id = (s.find? id).map ({ · with status := .migrationLocked })) →
      ids.Nodup →
      ids.Pairwise (fun i j => ∀ qi qj, s.find? i = some qi → s.find? j = some qj →
        qi.sessionId ≠ qj.sessionId) →
      (∀ p ∈ acc.2, ∀ id ∈ ids, ∀ q, s.find? id = some q → p.1 ≠ q.sessionId) →
      ∃ outs e', ids.mapM (s.migratedOutput gen) = some outs ∧
        ids.foldlM migrationOutput acc = some (e', acc.2 ++ outs) := by
  intro ids
  induction ids with
  | nil => intro acc _ _ _ _; exact ⟨[], acc.1, rfl, by simp⟩
  | cons id ids ih =>
    intro acc hids hnd hpair hfresh
    obtain ⟨hid, hnd⟩ := List.nodup_cons.mp hnd
    obtain ⟨hhead, hpair⟩ := List.pairwise_cons.mp hpair
    obtain ⟨hw, hacc⟩ := hids id (List.mem_cons_self _ _)
    obtain ⟨q, hq, hst⟩ : ∃ q, s.find? id = some q ∧ q.status = .waitingMigration := by
      simpa using hw
    obtain ⟨r, hr⟩ := Option.isSome_iff_exists.mp (hs id q hq).1
    obtain ⟨token, hm⟩ := Option.isSome_iff_exists.mp ((hs id q hq).2 hst)
    rw [hq, Option.map_some'] at hacc
    let out : Nat × InferOutput := (q.sessionId, ⟨q.sessionId, some r, false, [token]⟩)
    let e₁ := acc.1.setRespType r .success
    let e₂ := e₁.withScheduler (e₁.scheduler.updateRowMigration token id false)
    have pass : migrationOutput acc id = some (e₂, acc.2 ++ [out]) := by
      have hd := dictSet_fresh out.2 fun p hp => hfresh p hp id (List.mem_cons_self _ _) q hq
      simp only [migrationOutput, hacc, hr, hm, hd, Option.bind_eq_bind, Option.some_bind]
      rfl
    have others : ∀ j ∈ ids, e₂.scheduler.find? j = acc.1.scheduler.find? j := fun j hj =>
      Scheduler.find?_modify_ne (fun q => by unfold Sequence.updateRunningMigration; split_ifs <;> rfl)
        fun he => hid (by rw [← he]; exact hj)
    obtain ⟨outs, e', hmap, hfold⟩ := ih (e₂, acc.2 ++ [out])
      (fun j hj => ⟨(hids j (List.mem_cons_of_mem _ hj)).1,
        (others j hj).trans (hids j (List.mem_cons_of_mem _ hj)).2⟩)
      hnd hpair (fun p hp j hj q' hq' => by
        rcases List.mem_append.mp hp with hp | hp
        · exact hfresh p hp j (List.mem_cons_of_mem _ hj) q' hq'
        · rw [List.mem_singleton.mp hp]
          exact hhead j hj q q' hq hq')
    refine ⟨out :: outs, e', ?_, ?_⟩
    · have hgen : gen id = [] := (ht id q hq).2.2 hst
      rw [List.mapM_cons, hmap]
      simp [Scheduler.migratedOutput, hq, hm, hr, hst, hgen, out]
    · rw [List.foldlM_cons, pass, Option.bind_eq_bind, Option.some_bind, hfold]
      simp

/-- The migration loop's output block on a batch of distinct sequences of distinct sessions,
all still WAITING_MIGRATION and answerable: it returns one output per sequence, in order,
carrying what it has generated since admission and the remote's last token. -/
theorem migrationOutputs_spec (e : State) {gen : Nat → List Nat} (ht : e.scheduler.Tracks gen)
    (hs : e.scheduler.Answerable) {ids : List Nat} (hb : e.scheduler.Batch ids)
    (hw : ∀ id ∈ ids, (e.scheduler.find? id).map (·.status) = some .waitingMigration) :
    ∃ outs e', ids.mapM (e.scheduler.migratedOutput gen) = some outs ∧
      e.migrationOutputs ids = some (e', outs) := by
  have locked : ∀ id ∈ ids, (e.scheduler.lockRunningMigration ids).find? id =
      (e.scheduler.find? id).map ({ · with status := .migrationLocked }) := fun id hid => by
    rw [Scheduler.lockRunningMigration, Scheduler.find?_moveStatus (by simp)]
    obtain ⟨q, hq, hst⟩ : ∃ q, e.scheduler.find? id = some q ∧ q.status = .waitingMigration := by
      simpa using hw id hid
    simp [hq, hst, hid]
  obtain ⟨outs, e', hmap, hfold⟩ := migrationOutput_fold e.scheduler ht hs ids
    (e.withScheduler (e.scheduler.lockRunningMigration ids), [])
    (fun id hid => ⟨hw id hid, locked id hid⟩) hb.nodup hb.sessions (by simp)
  exact ⟨outs, _, hmap, by
    simp only [migrationOutputs, Option.bind_eq_bind, hfold, List.nil_append]; rfl⟩

end State

namespace Sys

/-- Over every run, the migration loop's output block on sequences that are all still
WAITING_MIGRATION runs without raising, and puts on `resp_que` one output per sequence, in
order, carrying the tokens generated since its admission and the remote's last token. -/
theorem migrate_outputs {m : Int} {x : Sys} {gen : Nat → List Nat} (h : Reach m x gen)
    (hne : x.migrating ≠ [])
    (hw : ∀ id ∈ x.migrating, (x.engine.scheduler.find? id).map (·.status) =
      some .waitingMigration) :
    ∃ x' outs, x.step .migrate = some x' ∧
      x.migrating.mapM (x.engine.scheduler.migratedOutput gen) = some outs ∧
      x'.queue = x.queue ++ [outs.map (·.2)] := by
  obtain ⟨outs, e', hmap, hout⟩ := State.migrationOutputs_spec _ (reach_tracks h)
    h.inv.answerable h.inv.migrating hw
  exact ⟨_, outs, by simp only [step, if_neg hne, hout]; rfl, hmap, rfl⟩

theorem migrate_outputs_remote_token :
    ∃ x gen, (init 100).run [.addSession [ask 1 20 [] none],
        .addMessage [ask 1 10 [5] (some 7)], .scheduleMigration [0]] = some x ∧ Reach 100 x gen ∧
      x.migrating ≠ [] ∧
      (∀ id ∈ x.migrating, (x.engine.scheduler.find? id).map (·.status) =
        some .waitingMigration) ∧
      ∃ x' outs, x.step .migrate = some x' ∧
        x.migrating.mapM (x.engine.scheduler.migratedOutput gen) = some outs ∧
        x'.queue = x.queue ++ [outs.map (·.2)] :=
  have h := (((@Reach.init 100).step (.addSession [ask 1 20 [] none]) rfl).step
    (.addMessage [ask 1 10 [5] (some 7)]) rfl).step (.scheduleMigration [0]) rfl
  have hw : ∀ id ∈ _, _ := by decide
  ⟨_, _, rfl, h, by decide, hw, migrate_outputs h (by decide) hw⟩

end Sys

end Lmdeploy.Engine
