import Mathlib.Data.List.Basic

/-! The two events of the engine loop (pytorch/engine/engine.py). `AsyncEvent` is the part
of `asyncio.Event` the loops use: its flag and the tasks blocked in `wait()`; `set()`
releases every blocked task at once, `clear()` only lowers the flag. `CounterEvent` wraps
one and counts nested `clear()` calls, so that only the last matching `set()` reopens it.
The loops that hold these events are in `Lmdeploy.Engine.Loops`. -/
namespace Lmdeploy.Engine

structure AsyncEvent (τ : Type) where
  value : Bool
  waiters : List τ
  deriving DecidableEq, Repr

namespace AsyncEvent

variable {τ : Type}

def is_set (e : AsyncEvent τ) : Bool := e.value

def set (e : AsyncEvent τ) : AsyncEvent τ × List τ :=
  if e.value then (e, []) else (⟨true, []⟩, e.waiters)

def clear (e : AsyncEvent τ) : AsyncEvent τ := { e with value := false }

def wait (e : AsyncEvent τ) (t : τ) : AsyncEvent τ := { e with waiters := e.waiters ++ [t] }

@[simp] theorem set_value (e : AsyncEvent τ) : e.set.1.value = true := by
  unfold set; split <;> simp_all

@[simp] theorem clear_value (e : AsyncEvent τ) : e.clear.value = false := rfl

@[simp] theorem clear_waiters (e : AsyncEvent τ) : e.clear.waiters = e.waiters := rfl

end AsyncEvent

structure CounterEvent (τ : Type) where
  counter : Nat
  event : AsyncEvent τ
  deriving DecidableEq, Repr

namespace CounterEvent

variable {τ : Type}

def init : CounterEvent τ := ⟨0, ⟨false, []⟩⟩

def is_set (e : CounterEvent τ) : Bool := e.event.is_set

def set (e : CounterEvent τ) : CounterEvent τ × List τ :=
  let counter := if 0 < e.counter then e.counter - 1 else e.counter
  if counter = 0 then (⟨counter, e.event.set.1⟩, e.event.set.2) else (⟨counter, e.event⟩, [])

def wait (e : CounterEvent τ) (t : τ) : CounterEvent τ := ⟨e.counter, e.event.wait t⟩

def clear (e : CounterEvent τ) : CounterEvent τ :=
  let event := if e.counter = 0 ∧ e.event.is_set = true then e.event.clear else e.event
  ⟨e.counter + 1, event⟩

def started : CounterEvent τ := (init.set).1

@[simp] theorem set_counter (e : CounterEvent τ) : e.set.1.counter = e.counter - 1 := by
  unfold set
  by_cases hc : 0 < e.counter
  · by_cases h1 : e.counter - 1 = 0 <;> simp [hc, h1]
  · have h0 : e.counter = 0 := by omega
    simp [h0]

@[simp] theorem clear_counter (e : CounterEvent τ) : e.clear.counter = e.counter + 1 := rfl

@[simp] theorem wait_counter (e : CounterEvent τ) (t : τ) : (e.wait t).counter = e.counter := rfl

@[simp] theorem wait_value (e : CounterEvent τ) (t : τ) :
    (e.wait t).event.value = e.event.value := rfl

/-- The flag is up exactly when no `clear()` is outstanding. -/
def Consistent (e : CounterEvent τ) : Prop := e.event.value = true ↔ e.counter = 0

theorem started_consistent : Consistent (started : CounterEvent τ) := by
  simp [Consistent, started, init, set, AsyncEvent.set]

theorem clear_closes {e : CounterEvent τ} (h : Consistent e) : e.clear.event.value = false := by
  unfold clear AsyncEvent.is_set
  by_cases hc : e.counter = 0
  · simp [hc, h.mpr hc]
  · simpa [hc] using mt h.mp hc

theorem set_value_iff {e : CounterEvent τ} (h : Consistent e) :
    e.set.1.event.value = true ↔ e.counter - 1 = 0 := by
  unfold set
  by_cases hc : e.counter = 0
  · simp [hc]
  · have hp : 0 < e.counter := Nat.pos_of_ne_zero hc
    by_cases h1 : e.counter - 1 = 0
    · simp [hp, h1]
    · simpa [hp, h1] using mt h.mp hc

theorem clear_consistent {e : CounterEvent τ} (h : Consistent e) : Consistent e.clear := by
  simp [Consistent, clear_closes h]

theorem set_consistent {e : CounterEvent τ} (h : Consistent e) : Consistent e.set.1 := by
  simp only [Consistent, set_value_iff h, set_counter]

inductive Call (H : Type)
  | clear (holder : H)
  | set (holder : H)
  deriving DecidableEq, Repr

def Call.apply {H : Type} : Call H → CounterEvent τ → CounterEvent τ
  | .clear _, e => e.clear
  | .set _, e => e.set.1

def runCalls {H : Type} (e : CounterEvent τ) : List (Call H) → CounterEvent τ
  | [] => e
  | c :: cs => runCalls (c.apply e) cs

theorem runCalls_consistent {H : Type} (cs : List (Call H)) {e : CounterEvent τ}
    (h : Consistent e) : Consistent (runCalls e cs) := by
  induction cs generalizing e with
  | nil => exact h
  | cons c cs ih =>
    cases c with
    | clear _ => exact ih (clear_consistent h)
    | set _ => exact ih (set_consistent h)

section Holders

variable {H : Type} [DecidableEq H]

def pending : List H → List (Call H) → List H
  | p, [] => p
  | p, .clear h :: cs => pending (h :: p) cs
  | p, .set h :: cs => pending (p.erase h) cs

/-- Every holder calls `set()` only after a matching `clear()` of its own. -/
def Disciplined : List H → List (Call H) → Prop
  | _, [] => True
  | p, .clear h :: cs => Disciplined (h :: p) cs
  | p, .set h :: cs => h ∈ p ∧ Disciplined (p.erase h) cs

instance decDisciplined : ∀ (p : List H) (cs : List (Call H)), Decidable (Disciplined p cs)
  | _, [] => isTrue trivial
  | p, .clear h :: cs => decDisciplined (h :: p) cs
  | p, .set h :: cs =>
    haveI := decDisciplined (p.erase h) cs
    inferInstanceAs (Decidable (h ∈ p ∧ Disciplined (p.erase h) cs))

theorem runCalls_counter (p : List H) (cs : List (Call H)) (hd : Disciplined p cs)
    {e : CounterEvent τ} (he : e.counter = p.length) :
    (runCalls e cs).counter = (pending p cs).length := by
  induction cs generalizing p e with
  | nil => exact he
  | cons c cs ih =>
    cases c with
    | clear h => exact ih (h :: p) hd (by simp [Call.apply, he])
    | set h =>
      exact ih (p.erase h) hd.2 (by simp [Call.apply, he, List.length_erase_of_mem hd.1])

end Holders

/-- From the state the loops start in, after any calls the event is set exactly when the
counter is zero; and when the calls come from holders that each `set()` only after their
own `clear()`, the counter is the number of outstanding clears, so the event is set exactly
when no holder is outstanding. -/
theorem counter_event_tracks_holders {H : Type} [DecidableEq H] :
    (∀ cs : List (Call H),
      (runCalls (started : CounterEvent τ) cs).is_set = true ↔
        (runCalls (started : CounterEvent τ) cs).counter = 0) ∧
    (∀ cs : List (Call H), Disciplined [] cs →
      (runCalls (started : CounterEvent τ) cs).counter = (pending [] cs).length ∧
      ((runCalls (started : CounterEvent τ) cs).is_set = true ↔ pending [] cs = [])) := by
  have consistent := fun cs : List (Call H) => runCalls_consistent cs (started_consistent (τ := τ))
  refine ⟨consistent, fun cs hd => ?_⟩
  have count := runCalls_counter [] cs hd (e := (started : CounterEvent τ)) rfl
  refine ⟨count, ?_⟩
  rw [← List.length_eq_zero, ← count]
  exact consistent cs

theorem counter_event_nested_holders :
    Disciplined [] [Call.clear 0, .clear 1, .set 0] ∧
    (runCalls (started : CounterEvent Nat) [Call.clear 0, .clear 1, .set 0]).counter =
      (pending [] [Call.clear 0, .clear 1, .set 0]).length ∧
    ((runCalls (started : CounterEvent Nat) [Call.clear 0, .clear 1, .set 0]).is_set = true ↔
      pending [] [Call.clear 0, .clear 1, .set 0] = []) :=
  ⟨by decide, (counter_event_tracks_holders (τ := Nat)).2 _ (by decide)⟩

end CounterEvent

end Lmdeploy.Engine
