import Lmdeploy.Engine.State
import Lmdeploy.Template.Dispatch
import Lmdeploy.Template.Registry

/-! `turbomind/chat.py`: the command-line chat. `main` reads one input at a time: `exit` ends
the process, `end` ends the session, and any other text is a round: the template's
`get_prompt`, the tokenizer, a guard against the session length, and `async_infer`, which
streams the answer and returns how many tokens it has. The turbomind session the loop drives
is not in the source; it is modelled as the list of tokens it holds, which a request that
starts a sequence replaces and one that does not continues from `step`. -/
namespace Lmdeploy.Turbomind

open Lmdeploy.Template

/-! ### `async_infer` -/

structure Output where
  numToken : Nat
  tokenIds : List Nat
  deriving DecidableEq, Repr

/-- The locals of the loop of `async_infer`: `token_ids`, `prev_len`, and `tokens` once the
loop has bound it. -/
structure InferState where
  tokenIds : List Nat
  prevLen : Nat
  tokens : Option Nat
  deriving DecidableEq, Repr

/-- One output of the stream. Since `tokens > prev_len`, `token_ids[prev_len - tokens:]` is
the last `tokens - prev_len` ids of the output. -/
def InferState.feed (s : InferState) (output : Output) : InferState :=
  let tokens := output.numToken
  if tokens > s.prevLen then
    { tokenIds := s.tokenIds ++ Py.sliceFromNeg output.tokenIds (tokens - s.prevLen),
      prevLen := tokens, tokens := some tokens }
  else { s with tokens := some tokens }

/-- `async_infer`: `tokens`, and the ids it has handed to `detokenize_incrementally`; `none`
on a stream without outputs, where `return tokens` raises `UnboundLocalError`. -/
def asyncInfer (inputIds : List Nat) (outputs : List Output) : Option (Nat × List Nat) :=
  let s := outputs.foldl InferState.feed ⟨inputIds, 0, none⟩
  s.tokens.map (·, s.tokenIds)

/-- A stream of the generation `g` as `async_stream_infer` yields it: each output carries the
first `num_token` tokens of `g`, and the last output all of them. -/
structure Streams (g : List Nat) (outputs : List Output) : Prop where
  cumulative : ∀ o ∈ outputs, o.numToken ≤ g.length ∧ o.tokenIds = g.take o.numToken
  last : outputs.getLast?.map (·.numToken) = some g.length

@[simp] theorem feed_prevLen (s : InferState) (o : Output) :
    (s.feed o).prevLen = max s.prevLen o.numToken := by
  unfold InferState.feed
  dsimp only
  split <;> dsimp only <;> omega

@[simp] theorem feed_tokens (s : InferState) (o : Output) : (s.feed o).tokens = some o.numToken := by
  unfold InferState.feed
  dsimp only
  split <;> rfl

theorem feed_tokenIds {g inputIds : List Nat} {s : InferState} {o : Output}
    (hs : s.tokenIds = inputIds ++ g.take s.prevLen) (ho : o.tokenIds = g.take o.numToken)
    (hn : o.numToken ≤ g.length) :
    (s.feed o).tokenIds = inputIds ++ g.take (max s.prevLen o.numToken) := by
  unfold InferState.feed
  dsimp only
  split
  · rename_i hgt
    have hlen : (g.take o.numToken).length = o.numToken := List.length_take_of_le hn
    have hslice : Py.sliceFromNeg (g.take o.numToken) (o.numToken - s.prevLen) =
        (g.take o.numToken).drop s.prevLen := by
      rw [Py.sliceFromNeg, if_neg (by omega), hlen, Nat.sub_sub_self (by omega)]
    calc s.tokenIds ++ Py.sliceFromNeg o.tokenIds (o.numToken - s.prevLen)
        = inputIds ++ ((g.take o.numToken).take s.prevLen ++ (g.take o.numToken).drop s.prevLen) := by
          rw [hs, ho, hslice, List.take_take, min_eq_left (by omega), List.append_assoc]
      _ = inputIds ++ g.take (max s.prevLen o.numToken) := by
          rw [List.take_append_drop, max_eq_right (by omega)]
  · rw [max_eq_left (by omega)]
    exact hs

theorem le_foldl_feed (outputs : List Output) (s : InferState) :
    s.prevLen ≤ (outputs.foldl InferState.feed s).prevLen := by
  induction outputs generalizing s with
  | nil => exact le_refl _
  | cons o os ih =>
    have := ih (s.feed o)
    rw [feed_prevLen] at this
    exact (le_max_left _ _).trans this

theorem foldl_feed {g inputIds : List Nat} (outputs : List Output)
    (houts : ∀ o ∈ outputs, o.numToken ≤ g.length ∧ o.tokenIds = g.take o.numToken)
    {s : InferState} (hs : s.tokenIds = inputIds ++ g.take s.prevLen) (hp : s.prevLen ≤ g.length) :
    (outputs.foldl InferState.feed s).tokenIds =
        inputIds ++ g.take (outputs.foldl InferState.feed s).prevLen ∧
      (outputs.foldl InferState.feed s).prevLen ≤ g.length ∧
      (∀ o ∈ outputs, o.numToken ≤ (outputs.foldl InferState.feed s).prevLen) ∧
      (outputs.foldl InferState.feed s).tokens = (outputs.getLast?.map (·.numToken)).or s.tokens := by
  induction outputs generalizing s with
  | nil => exact ⟨hs, hp, nofun, rfl⟩
  | cons o os ih =>
    obtain ⟨hn, ho⟩ := houts o (List.mem_cons_self _ _)
    obtain ⟨ids, len, mono, last⟩ := ih (fun o' h => houts o' (List.mem_cons_of_mem _ h))
      (by rw [feed_prevLen]; exact feed_tokenIds hs ho hn) (by rw [feed_prevLen]; omega)
    refine ⟨ids, len, fun o' h => ?_, ?_⟩
    · rcases List.mem_cons.mp h with rfl | h
      · have := le_foldl_feed os (s.feed o')
        rw [feed_prevLen] at this
        exact (le_max_right _ _).trans this
      · exact mono o' h
    · rw [List.foldl_cons, last]
      cases os with
      | nil => simp
      | cons _ _ => simp [List.getLast?_cons]

theorem asyncInfer_streams {g : List Nat} {outputs : List Output} (h : Streams g outputs)
    (inputIds : List Nat) : asyncInfer inputIds outputs = some (g.length, inputIds ++ g) := by
  obtain ⟨ids, len, mono, last⟩ :=
    @foldl_feed g inputIds outputs h.cumulative ⟨inputIds, 0, none⟩ (by simp) (Nat.zero_le _)
  obtain ⟨o, ho, hlast⟩ : ∃ o, outputs.getLast? = some o ∧ o.numToken = g.length := by
    simpa using h.last
  have hprev : (outputs.foldl InferState.feed ⟨inputIds, 0, none⟩).prevLen = g.length :=
    le_antisymm len (hlast ▸ mono o (List.mem_of_getLast?_eq_some ho))
  simp [asyncInfer, last, ho, hlast, ids, hprev]

/-! ### `input_prompt` -/

/-- `iter(input, sentinel)`: the lines `input()` returns before the first that equals the
sentinel, and the lines left after it; `none` when the input ends first, where `input()`
raises `EOFError`. -/
def readUntil (sentinel : String) : List String → Option (List String × List String)
  | [] => none
  | l :: ls =>
    if l = sentinel then some ([], ls) else (readUntil sentinel ls).map fun r => (l :: r.1, r.2)

def sentinel (modelName : String) : String := if modelName = "codellama" then "!!" else ""

/-- `input_prompt(model_name)` on the lines typed: the lines before the sentinel joined by
newlines, and the lines left for the next input. -/
def inputPrompt (modelName : String) (stdin : List String) : Option (String × List String) :=
  (readUntil (sentinel modelName) stdin).map fun r => ("\n".intercalate r.1, r.2)

theorem readUntil_eq_some {s : String} :
    ∀ {stdin ls rest : List String}, readUntil s stdin = some (ls, rest) ↔
      stdin = ls ++ s :: rest ∧ s ∉ ls
  | [], ls, rest => by simp [readUntil]
  | l :: stdin, ls, rest => by
    by_cases hl : l = s
    · subst hl
      rcases ls with _ | ⟨a, ls⟩
      · simp [readUntil, eq_comm]
      · refine ⟨fun h => by simp [readUntil] at h, fun ⟨h, hs⟩ => ?_⟩
        exact absurd (List.mem_cons.2 (.inl (List.cons.inj h).1)) hs
    · rcases ls with _ | ⟨a, ls⟩
      · simp [readUntil, hl]
      · simp only [readUntil, if_neg hl, Option.map_eq_some', Prod.exists, Prod.mk.injEq,
          List.cons_append, List.cons.injEq, List.mem_cons, not_or]
        constructor
        · rintro ⟨ls', rest', h, ⟨rfl, rfl⟩, rfl⟩
          obtain ⟨rfl, hs⟩ := readUntil_eq_some.1 h
          exact ⟨⟨rfl, rfl⟩, Ne.symm hl, hs⟩
        · rintro ⟨⟨rfl, rfl⟩, -, hs⟩
          exact ⟨ls, rest, readUntil_eq_some.2 ⟨rfl, hs⟩, ⟨rfl, rfl⟩, rfl⟩

theorem intercalate_go_extends (sep : String) :
    ∀ (acc : String) (as : List String), acc.data <+: (String.intercalate.go acc sep as).data
  | _, [] => List.prefix_refl _
  | acc, a :: as => (List.prefix_append _ _).trans <| by
      simpa [String.intercalate.go, String.append_assoc] using intercalate_go_extends sep _ as

theorem eq_singleton_of_intercalate {ls : List String} {w : String}
    (h : "\n".intercalate ls = w) (hw : '\n' ∉ w.data) (hne : w ≠ "") : ls = [w] := by
  rcases ls with _ | ⟨a, _ | ⟨b, ls⟩⟩
  · exact absurd h.symm hne
  · exact congrArg (· :: []) h
  · refine absurd ?_ hw
    rw [← h]
    refine (intercalate_go_extends _ (a ++ "\n" ++ b) ls).subset ?_
    simp

/-! ### The loop of `main` -/

/-- What `main` uses of the object `chat_template_config.chat_template` builds: `get_prompt`,
which may raise (`none`) and may change the object, and `capability`. -/
structure Model (σ : Type) where
  getPrompt : σ → String → Bool → Option (String × σ)
  capability : σ → String

namespace Model

def ofChatTemplate : Model ChatTemplate where
  getPrompt t prompt sequenceStart := (t.getPrompt prompt sequenceStart).map (·, t)
  capability t := t.fields.capability

def ofChatGLM2 : Model ChatGLM2 where
  getPrompt c prompt sequenceStart := some (c.getPrompt prompt sequenceStart)
  capability c := c.capability

/-- `BaseModel`, registered as `base` and `llama`, as its `capability`: `get_prompt` returns
the prompt. -/
def baseModel : Model String where
  getPrompt capability prompt _ := some (prompt, capability)
  capability capability := capability

def KeepsCapability {σ : Type} (M : Model σ) : Prop :=
  ∀ m prompt sequenceStart r, M.getPrompt m prompt sequenceStart = some r →
    M.capability r.2 = M.capability m

theorem ofChatTemplate_keeps : ofChatTemplate.KeepsCapability := by
  intro t prompt sequenceStart r h
  obtain ⟨_, -, rfl⟩ := Option.map_eq_some'.mp h
  rfl

end Model

/-- What `main` fixes before its loop: `tm_model.session_len`, `request_output_len` (the
`max_new_tokens` of every request) and `tokenizer.encode(prompt, add_bos)`. -/
structure Setup where
  sessionLen : Nat
  requestOutputLen : Nat
  encode : String → Bool → List Nat

/-- The variables of `main`'s loop: the template object, `nth_round` and `step`. `seed` is
left out: only the generator reads it. -/
structure Repl (σ : Type) where
  model : σ
  nthRound : Nat
  step : Nat

inductive Call
  | endSession
  /-- `async_stream_infer(input_ids=input_ids, sequence_start=sequence_start, step=step)`,
  with `max_new_tokens=request_output_len`. -/
  | infer (inputIds : List Nat) (sequenceStart : Bool) (step : Nat)
  deriving DecidableEq, Repr

/-- The tokens the turbomind session holds after a call, the engine having generated `gen`
for it: `async_end` drops them; a request that starts a sequence replaces them, and one that
does not continues them from `step`. -/
def Call.apply (hist gen : List Nat) : Call → List Nat
  | .endSession => []
  | .infer inputIds sequenceStart step =>
    (if sequenceStart then [] else hist.take step) ++ inputIds ++ gen

variable {σ : Type}

namespace Repl

/-- The `else` branch of the loop: a round on the text `prompt`, with the outputs the
generator streams if the round calls it. The variables afterwards and the call, if any;
`none` where the round raises. -/
def round (S : Setup) (M : Model σ) (st : Repl σ) (prompt : String) (outputs : List Output) :
    Option (Repl σ × Option Call) := do
  let (prompt, model) ← M.getPrompt st.model prompt (st.nthRound == 1)
  let inputIds := S.encode prompt (st.nthRound == 1)
  let sequenceStart := if M.capability model = "chat" then st.nthRound == 1 else true
  let step := if M.capability model = "chat" then st.step else 0
  if step + inputIds.length + S.requestOutputLen ≥ S.sessionLen then
    pure ({ st with model, step }, none)
  else do
    let (tokens, _) ← asyncInfer inputIds outputs
    pure (⟨model, st.nthRound + 1, step + inputIds.length + tokens⟩,
      some (.infer inputIds sequenceStart step))

/-- One pass of `main`'s `while True` loop on what `input_prompt` returned; `some none` at
`exit`, which ends the process. -/
def pass (S : Setup) (M : Model σ) (st : Repl σ) (prompt : String) (outputs : List Output) :
    Option (Option (Repl σ × Option Call)) :=
  if prompt = "exit" then some none
  else if prompt = "end" then some (some ({ st with nthRound := 1, step := 0 }, some .endSession))
  else (st.round S M prompt outputs).map some

end Repl

/-- An input of the loop: what `input_prompt` returns, and, for the round it may start, what
the engine generates and the outputs it streams of it. -/
structure Line where
  prompt : String
  gen : List Nat
  outputs : List Output

structure Line.Honours (S : Setup) (l : Line) : Prop where
  bound : l.gen.length ≤ S.requestOutputLen
  streams : Streams l.gen l.outputs

/-- The loop over the lines typed, with the session it drives: the variables and the session
after the lines, or at `exit`; `none` where a pass raises. -/
def run (S : Setup) (M : Model σ) : Repl σ × List Nat → List Line → Option (Repl σ × List Nat)
  | x, [] => some x
  | (st, hist), l :: ls =>
    match st.pass S M l.prompt l.outputs with
    | none => none
    | some none => some (st, hist)
    | some (some (st', call)) => run S M (st', (call.map (·.apply hist l.gen)).getD hist) ls

namespace Repl

theorem round_cases {S : Setup} {M : Model σ} {st st' : Repl σ} {prompt : String}
    {outputs : List Output} {call : Option Call}
    (h : st.round S M prompt outputs = some (st', call)) :
    ∃ text model, M.getPrompt st.model prompt (st.nthRound == 1) = some (text, model) ∧
      let inputIds := S.encode text (st.nthRound == 1)
      let step := if M.capability model = "chat" then st.step else 0
      (S.sessionLen ≤ step + inputIds.length + S.requestOutputLen ∧
          st' = { st with model, step } ∧ call = none) ∨
        (step + inputIds.length + S.requestOutputLen < S.sessionLen ∧ ∃ tokens ids,
          asyncInfer inputIds outputs = some (tokens, ids) ∧
          st' = ⟨model, st.nthRound + 1, step + inputIds.length + tokens⟩ ∧
          call = some (.infer inputIds
            (if M.capability model = "chat" then st.nthRound == 1 else true) step)) := by
  unfold round at h
  simp only [bind, Option.bind_eq_some] at h
  obtain ⟨⟨text, model⟩, hp, h⟩ := h
  refine ⟨text, model, hp, ?_⟩
  dsimp only at h ⊢
  generalize (if M.capability model = "chat" then st.step else 0) = step at h ⊢
  by_cases hg : step + (S.encode text (st.nthRound == 1)).length + S.requestOutputLen ≥ S.sessionLen
  · rw [if_pos hg] at h
    cases h
    exact .inl ⟨hg, rfl, rfl⟩
  · rw [if_neg hg] at h
    simp only [Option.bind_eq_some] at h
    obtain ⟨⟨tokens, ids⟩, hi, h⟩ := h
    cases h
    exact .inr ⟨by omega, tokens, ids, hi, rfl, rfl⟩

end Repl

/-! ### The session over every run -/

theorem pass_cases {S : Setup} {M : Model σ} {st : Repl σ} {prompt : String}
    {outputs : List Output} {r : Option (Repl σ × Option Call)}
    (h : st.pass S M prompt outputs = some r) :
    (prompt = "exit" ∧ r = none) ∨
      (prompt ≠ "exit" ∧ prompt = "end" ∧
        r = some ({ st with nthRound := 1, step := 0 }, some .endSession)) ∨
      (prompt ≠ "exit" ∧ prompt ≠ "end" ∧
        ∃ st' call, r = some (st', call) ∧ st.round S M prompt outputs = some (st', call)) := by
  unfold Repl.pass at h
  split at h
  · exact .inl ⟨‹_›, (Option.some.inj h).symm⟩
  · split at h
    · exact .inr (.inl ⟨‹_›, ‹_›, (Option.some.inj h).symm⟩)
    · obtain ⟨⟨st', call⟩, hr, rfl⟩ := Option.map_eq_some'.mp h
      exact .inr (.inr ⟨‹_›, ‹_›, st', call, rfl, hr⟩)

def after (hist gen : List Nat) (call : Option Call) : List Nat :=
  (call.map (·.apply hist gen)).getD hist

@[simp] theorem after_none (hist gen : List Nat) : after hist gen none = hist := rfl

@[simp] theorem after_some (hist gen : List Nat) (c : Call) :
    after hist gen (some c) = c.apply hist gen := rfl

theorem run_cons (S : Setup) (M : Model σ) (st : Repl σ) (hist : List Nat) (l : Line)
    (ls : List Line) : run S M (st, hist) (l :: ls) =
      match st.pass S M l.prompt l.outputs with
      | none => none
      | some none => some (st, hist)
      | some (some (st', call)) => run S M (st', after hist l.gen call) ls := rfl

theorem round_bounded {S : Setup} {M : Model σ} {st st' : Repl σ} {prompt : String}
    {outputs : List Output} {call : Option Call} (hist : List Nat) {gen : List Nat}
    (hb : hist = [] ∨ hist.length < S.sessionLen) (hgen : gen.length ≤ S.requestOutputLen)
    (h : st.round S M prompt outputs = some (st', call)) :
    after hist gen call = [] ∨ (after hist gen call).length < S.sessionLen := by
  obtain ⟨text, model, -, ⟨-, -, rfl⟩ | ⟨hg, -, -, -, -, rfl⟩⟩ := Repl.round_cases h
  · exact hb
  · refine .inr ?_
    have hbase : ∀ b : Bool, ((if b then [] else hist.take
        (if M.capability model = "chat" then st.step else 0)) : List Nat).length ≤
          if M.capability model = "chat" then st.step else 0 := by
      intro b
      cases b
      · exact List.length_take_le _ _
      · exact Nat.zero_le _
    have := hbase (if M.capability model = "chat" then st.nthRound == 1 else true)
    simp only [after_some, Call.apply, List.length_append]
    omega

/-- Every run keeps the session below `session_len`, when the engine honours
`max_new_tokens`. -/
theorem run_bounded {S : Setup} {M : Model σ} :
    ∀ (lines : List Line) {st st' : Repl σ} {hist hist' : List Nat},
      (∀ l ∈ lines, l.gen.length ≤ S.requestOutputLen) →
      (hist = [] ∨ hist.length < S.sessionLen) → run S M (st, hist) lines = some (st', hist') →
      hist' = [] ∨ hist'.length < S.sessionLen
  | [], _, _, _, _, _, hb, h => by cases h; exact hb
  | l :: ls, st, st', hist, hist', hl, hb, h => by
    rw [run_cons] at h
    split at h
    · cases h
    · cases h; exact hb
    · rename_i st₁ call hpass
      refine run_bounded ls (fun l' h' => hl l' (List.mem_cons_of_mem _ h')) ?_ h
      rcases pass_cases hpass with ⟨-, ⟨⟩⟩ | ⟨-, -, ⟨⟩⟩ | ⟨-, -, _, _, ⟨⟩, hr⟩
      · exact .inl rfl
      · exact round_bounded hist hb (hl l (List.mem_cons_self _ _)) hr

/-- In chat mode the loop's variables describe the session: `step` is its length, and it is
empty while `nth_round` is 1. -/
structure Tracks (M : Model σ) (st : Repl σ) (hist : List Nat) : Prop where
  chat : M.capability st.model = "chat"
  step : st.step = hist.length
  positive : 1 ≤ st.nthRound
  first : st.nthRound = 1 → hist = []

theorem Tracks.round_extends {M : Model σ} (hkeep : M.KeepsCapability) {st st' : Repl σ}
    {hist : List Nat} (ht : Tracks M st hist) {S : Setup} {prompt : String}
    {outputs : List Output} {ids : List Nat} {sequenceStart : Bool} {step : Nat}
    (h : st.round S M prompt outputs = some (st', some (.infer ids sequenceStart step)))
    (gen : List Nat) :
    (Call.infer ids sequenceStart step).apply hist gen = hist ++ ids ++ gen ∧
      step = hist.length := by
  obtain ⟨text, model, hp, ⟨-, -, hc⟩ | ⟨-, -, -, -, -, hc⟩⟩ := Repl.round_cases h
  · cases hc
  · have hchat : M.capability model = "chat" := (hkeep _ _ _ _ hp).trans ht.chat
    simp only [hchat, if_true, Option.some.injEq, Call.infer.injEq] at hc
    obtain ⟨rfl, rfl, rfl⟩ := hc
    refine ⟨?_, ht.step⟩
    by_cases hn : st.nthRound = 1
    · simp [Call.apply, hn, ht.first hn]
    · simp [Call.apply, hn, ← ht.step]

theorem Tracks.round {M : Model σ} (hkeep : M.KeepsCapability) {st st' : Repl σ}
    {hist : List Nat} (ht : Tracks M st hist) {S : Setup} {l : Line} (hl : l.Honours S)
    {call : Option Call} (h : st.round S M l.prompt l.outputs = some (st', call)) :
    Tracks M st' (after hist l.gen call) := by
  obtain ⟨text, model, hp, hcase⟩ := Repl.round_cases h
  have hchat : M.capability model = "chat" := (hkeep _ _ _ _ hp).trans ht.chat
  rcases hcase with ⟨-, rfl, rfl⟩ | ⟨-, tokens, ids, hi, rfl, rfl⟩
  · exact ⟨hchat, by simp [hchat, ht.step], ht.positive, ht.first⟩
  · obtain ⟨hext, -⟩ := ht.round_extends hkeep h l.gen
    rw [asyncInfer_streams hl.streams] at hi
    obtain ⟨rfl, -⟩ := Prod.mk.inj (Option.some.inj hi)
    refine ⟨hchat, ?_, Nat.le_add_left 1 _, fun h1 => absurd ht.positive (by dsimp only at h1; omega)⟩
    simp only [hchat, if_true] at hext ⊢
    rw [after_some, hext]
    simp only [List.length_append, ht.step, Nat.add_assoc]

theorem Tracks.pass {M : Model σ} (hkeep : M.KeepsCapability) {st st' : Repl σ}
    {hist : List Nat} (ht : Tracks M st hist) {S : Setup} {l : Line} (hl : l.Honours S)
    {call : Option Call} (h : st.pass S M l.prompt l.outputs = some (some (st', call))) :
    Tracks M st' (after hist l.gen call) := by
  rcases pass_cases h with ⟨-, ⟨⟩⟩ | ⟨-, -, ⟨⟩⟩ | ⟨-, -, _, _, ⟨⟩, hr⟩
  · exact ⟨ht.chat, rfl, le_refl _, fun _ => rfl⟩
  · exact ht.round hkeep hl hr

theorem Tracks.run {M : Model σ} (hkeep : M.KeepsCapability) {S : Setup} :
    ∀ (lines : List Line) {st st' : Repl σ} {hist hist' : List Nat},
      (∀ l ∈ lines, l.Honours S) → Tracks M st hist → run S M (st, hist) lines = some (st', hist') →
      Tracks M st' hist'
  | [], _, _, _, _, _, ht, h => by cases h; exact ht
  | l :: ls, st, st', hist, hist', hl, ht, h => by
    rw [run_cons] at h
    split at h
    · cases h
    · cases h; exact ht
    · exact Tracks.run hkeep ls (fun l' h' => hl l' (List.mem_cons_of_mem _ h'))
        (ht.pass hkeep (hl l (List.mem_cons_self _ _)) ‹_›) h

/-- `ChatGLM2` advances its counter on every text other than `end`, before the guard. -/
theorem chatGLM2_pass_count {S : Setup} {st : Repl ChatGLM2} {l : Line}
    {r : Option (Repl ChatGLM2 × Option Call)} (h : st.pass S Model.ofChatGLM2 l.prompt l.outputs = some r)
    (hexit : l.prompt ≠ "exit") :
    ∃ st' call, r = some (st', call) ∧
      st'.model.count = st.model.count + if l.prompt = "end" then 0 else 1 := by
  rcases pass_cases h with ⟨he, -⟩ | ⟨-, hend, rfl⟩ | ⟨-, hend, st', call, rfl, hr⟩
  · exact absurd he hexit
  · exact ⟨_, _, rfl, by simp [hend]⟩
  · refine ⟨st', call, rfl, ?_⟩
    obtain ⟨text, model, hp, ⟨-, rfl, -⟩ | ⟨-, -, -, -, rfl, -⟩⟩ := Repl.round_cases hr <;>
    · cases hp
      simp [ChatGLM2.getPrompt, hend]

/-! ### What every run of the loop keeps -/

/-- Over any stream of a generation, `async_infer` hands the detokenizer only prefixes of the
input followed by the generation, and at the end returns the generation's length with the
whole of it, however the stream cuts it into outputs. -/
theorem async_infer_streams_prefixes {g : List Nat} {outputs : List Output}
    (h : Streams g outputs) (inputIds : List Nat) :
    (∀ k, ((outputs.take k).foldl InferState.feed ⟨inputIds, 0, none⟩).tokenIds <+:
        inputIds ++ g) ∧
      asyncInfer inputIds outputs = some (g.length, inputIds ++ g) := by
  refine ⟨fun k => ?_, asyncInfer_streams h inputIds⟩
  obtain ⟨ids, -, -, -⟩ := @foldl_feed g inputIds (outputs.take k)
    (fun o ho => h.cumulative o (List.mem_of_mem_take ho)) ⟨inputIds, 0, none⟩ (by simp)
    (Nat.zero_le _)
  rw [ids]
  exact List.prefix_append_right_inj _ |>.mpr (List.take_prefix _ _)

theorem async_infer_streams_prefixes_two_chunks :
    Streams [7, 8] [⟨1, [7]⟩, ⟨2, [7, 8]⟩] ∧
      (∀ k, ((([⟨1, [7]⟩, ⟨2, [7, 8]⟩] : List Output).take k).foldl InferState.feed
          ⟨[1], 0, none⟩).tokenIds <+: [1] ++ [7, 8]) ∧
        asyncInfer [1] [⟨1, [7]⟩, ⟨2, [7, 8]⟩] = some ([7, 8].length, [1] ++ [7, 8]) :=
  have h : Streams [7, 8] [⟨1, [7]⟩, ⟨2, [7, 8]⟩] := ⟨by decide, rfl⟩
  ⟨h, async_infer_streams_prefixes h [1]⟩

/-- In every capability, every run of the loop from its start keeps the turbomind session
below `session_len` tokens, whatever is typed, however the tokenizer encodes, and whatever
the engine generates within `max_new_tokens`. -/
theorem session_below_session_len (S : Setup) (M : Model σ) (model : σ) (lines : List Line)
    (hgen : ∀ l ∈ lines, l.gen.length ≤ S.requestOutputLen) {st : Repl σ} {hist : List Nat}
    (h : run S M (⟨model, 1, 0⟩, []) lines = some (st, hist)) :
    hist = [] ∨ hist.length < S.sessionLen :=
  run_bounded lines hgen (.inl rfl) h

theorem session_below_session_len_two_rounds :
    (∀ l ∈ [(⟨"hi", [7], [⟨1, [7]⟩]⟩ : Line), ⟨"end", [], []⟩, ⟨"hello", [7, 7], [⟨2, [7, 7]⟩]⟩],
        l.gen.length ≤ 2) ∧
      run ⟨8, 2, fun p _ => [p.length]⟩ Model.ofChatTemplate
        (⟨⟨.base, BaseChatTemplate.defaults⟩, 1, 0⟩, [])
        [⟨"hi", [7], [⟨1, [7]⟩]⟩, ⟨"end", [], []⟩, ⟨"hello", [7, 7], [⟨2, [7, 7]⟩]⟩] =
        some (⟨⟨.base, BaseChatTemplate.defaults⟩, 2, 3⟩, [5, 7, 7]) ∧
      ([5, 7, 7] = [] ∨ [5, 7, 7].length < 8) :=
  have hgen : ∀ l ∈ [(⟨"hi", [7], [⟨1, [7]⟩]⟩ : Line), ⟨"end", [], []⟩,
      ⟨"hello", [7, 7], [⟨2, [7, 7]⟩]⟩], l.gen.length ≤ 2 := by decide
  ⟨hgen, rfl, session_below_session_len ⟨8, 2, fun p _ => [p.length]⟩ Model.ofChatTemplate
    ⟨.base, BaseChatTemplate.defaults⟩ _ hgen rfl⟩

/-- In chat mode, every run of the loop from its start keeps `step` equal to the number of
tokens the turbomind session holds, and every request the loop sends next continues the
session exactly at its end: its `step` is the session's length, and the session afterwards is
the session before, followed by the request's input and its generation. -/
theorem chat_requests_extend_session {S : Setup} {M : Model σ} (hkeep : M.KeepsCapability)
    {model : σ} (hchat : M.capability model = "chat") {lines : List Line}
    (hl : ∀ l ∈ lines, l.Honours S) {st : Repl σ} {hist : List Nat}
    (hrun : run S M (⟨model, 1, 0⟩, []) lines = some (st, hist)) :
    st.step = hist.length ∧
      ∀ (l : Line) (st' : Repl σ) (ids : List Nat) (sequenceStart : Bool) (step : Nat),
        st.pass S M l.prompt l.outputs = some (some (st', some (.infer ids sequenceStart step))) →
        step = hist.length ∧ (Call.infer ids sequenceStart step).apply hist l.gen = hist ++ ids ++ l.gen := by
  have ht := Tracks.run hkeep lines hl ⟨hchat, rfl, le_refl _, fun _ => rfl⟩ hrun
  refine ⟨ht.step, fun l st' ids sequenceStart step h => ?_⟩
  rcases pass_cases h with ⟨-, ⟨⟩⟩ | ⟨-, -, ⟨⟩⟩ | ⟨-, -, _, _, ⟨⟩, hr⟩
  exact (ht.round_extends hkeep hr l.gen).symm

theorem chat_requests_extend_session_base :
    Model.ofChatTemplate.KeepsCapability ∧
      Model.ofChatTemplate.capability ⟨.base, BaseChatTemplate.defaults⟩ = "chat" ∧
      (∀ l ∈ [(⟨"hi", [7], [⟨1, [7]⟩]⟩ : Line)], l.Honours ⟨8, 2, fun p _ => [p.length]⟩) ∧
      run ⟨8, 2, fun p _ => [p.length]⟩ Model.ofChatTemplate
          (⟨⟨.base, BaseChatTemplate.defaults⟩, 1, 0⟩, []) [⟨"hi", [7], [⟨1, [7]⟩]⟩] =
        some (⟨⟨.base, BaseChatTemplate.defaults⟩, 2, 2⟩, [2, 7]) ∧
      ((⟨⟨.base, BaseChatTemplate.defaults⟩, 2, 2⟩ : Repl ChatTemplate).step = [2, 7].length ∧
        ∀ (l : Line) (st' : Repl ChatTemplate) (ids : List Nat) (sequenceStart : Bool) (step : Nat),
          (⟨⟨.base, BaseChatTemplate.defaults⟩, 2, 2⟩ : Repl ChatTemplate).pass
              ⟨8, 2, fun p _ => [p.length]⟩ Model.ofChatTemplate l.prompt l.outputs =
            some (some (st', some (.infer ids sequenceStart step))) →
          step = [2, 7].length ∧
            (Call.infer ids sequenceStart step).apply [2, 7] l.gen = [2, 7] ++ ids ++ l.gen) :=
  have hl : ∀ l ∈ [(⟨"hi", [7], [⟨1, [7]⟩]⟩ : Line)], l.Honours ⟨8, 2, fun p _ => [p.length]⟩ :=
    fun l hl => by
      rw [List.mem_singleton] at hl
      subst hl
      exact ⟨by decide, by decide, rfl⟩
  ⟨Model.ofChatTemplate_keeps, rfl, hl, rfl,
    @chat_requests_extend_session _ _ _ Model.ofChatTemplate_keeps ⟨.base, BaseChatTemplate.defaults⟩
      rfl _ hl _ _ rfl⟩

/-- With `ChatGLM2`, whose `get_prompt` numbers the rounds it writes, the number counts every
text of the process other than `end`: over a run without `exit` the counter grows by exactly
that many, whether the session was ended in between or a prompt was refused at the length
guard. -/
theorem chatGLM2_counts_every_prompt (S : Setup) :
    ∀ (lines : List Line) {st st' : Repl ChatGLM2} {hist hist' : List Nat},
      (∀ l ∈ lines, l.prompt ≠ "exit") →
      run S Model.ofChatGLM2 (st, hist) lines = some (st', hist') →
      st'.model.count = st.model.count + lines.countP (fun l => l.prompt != "end")
  | [], _, _, _, _, _, h => by cases h; rfl
  | l :: ls, st, st', hist, hist', hexit, h => by
    rw [run_cons] at h
    split at h
    · cases h
    · rename_i hp
      obtain ⟨_, _, ⟨⟩, -⟩ := chatGLM2_pass_count hp (hexit l (List.mem_cons_self _ _))
    · rename_i st₁ call hp
      obtain ⟨_, _, ⟨⟩, hc⟩ := chatGLM2_pass_count hp (hexit l (List.mem_cons_self _ _))
      rw [chatGLM2_counts_every_prompt S ls (fun l' h' => hexit l' (List.mem_cons_of_mem _ h')) h,
        hc, List.countP_cons]
      by_cases hend : l.prompt = "end" <;> simp [hend]; omega

theorem chatGLM2_counts_every_prompt_end :
    (∀ l ∈ [(⟨"hi", [7], [⟨1, [7]⟩]⟩ : Line), ⟨"end", [], []⟩, ⟨"yo", [7], [⟨1, [7]⟩]⟩],
        l.prompt ≠ "exit") ∧
      run ⟨8, 2, fun p _ => [p.length]⟩ Model.ofChatGLM2 (⟨ChatGLM2.defaults, 1, 0⟩, [])
          [⟨"hi", [7], [⟨1, [7]⟩]⟩, ⟨"end", [], []⟩, ⟨"yo", [7], [⟨1, [7]⟩]⟩] =
        some (⟨{ ChatGLM2.defaults with count := 2 }, 2, 2⟩, [19, 7]) ∧
      ({ ChatGLM2.defaults with count := 2 } : ChatGLM2).count = ChatGLM2.defaults.count +
        ([(⟨"hi", [7], [⟨1, [7]⟩]⟩ : Line), ⟨"end", [], []⟩, ⟨"yo", [7], [⟨1, [7]⟩]⟩].countP
          fun l => l.prompt != "end") :=
  have hexit : ∀ l ∈ [(⟨"hi", [7], [⟨1, [7]⟩]⟩ : Line), ⟨"end", [], []⟩,
      ⟨"yo", [7], [⟨1, [7]⟩]⟩], l.prompt ≠ "exit" := by decide
  have hrun : run ⟨8, 2, fun p _ => [p.length]⟩ Model.ofChatGLM2 (⟨ChatGLM2.defaults, 1, 0⟩, [])
      [⟨"hi", [7], [⟨1, [7]⟩]⟩, ⟨"end", [], []⟩, ⟨"yo", [7], [⟨1, [7]⟩]⟩] =
      some (⟨{ ChatGLM2.defaults with count := 2 }, 2, 2⟩, [19, 7]) := rfl
  ⟨hexit, hrun, chatGLM2_counts_every_prompt ⟨8, 2, fun p _ => [p.length]⟩ _ hexit hrun⟩

/-- `input_prompt` returns a text without newline, such as `exit` or `end`, exactly when that
text is typed alone before the sentinel, whatever else is typed: `input()` returns each line
without its newline, so text spread over several lines is never taken for a command. -/
theorem input_prompt_single_line (modelName : String) {stdin rest : List String} {w : String}
    (hw : '\n' ∉ w.data) (hne : w ≠ "") (hs : w ≠ sentinel modelName) :
    inputPrompt modelName stdin = some (w, rest) ↔ stdin = w :: sentinel modelName :: rest := by
  constructor
  · intro h
    obtain ⟨⟨ls, rest'⟩, hr, he⟩ := Option.map_eq_some'.1 h
    obtain ⟨hj, rfl⟩ := Prod.mk.inj he
    dsimp only at hj
    obtain ⟨rfl, -⟩ := readUntil_eq_some.1 hr
    rw [eq_singleton_of_intercalate hj hw hne]
    rfl
  · rintro rfl
    have hr : readUntil (sentinel modelName) (w :: sentinel modelName :: rest) = some ([w], rest) :=
      readUntil_eq_some.2 ⟨rfl, by simpa using hs.symm⟩
    simp only [inputPrompt, hr]
    rfl

theorem input_prompt_single_line_exit :
    '\n' ∉ "exit".data ∧ "exit" ≠ "" ∧ "exit" ≠ sentinel "base" ∧
      (inputPrompt "base" ["exit", "", "hi"] = some ("exit", ["hi"]) ↔
        ["exit", "", "hi"] = "exit" :: sentinel "base" :: ["hi"]) :=
  ⟨by decide, by decide, by decide,
    input_prompt_single_line "base" (by decide) (by decide) (by decide)⟩

end Lmdeploy.Turbomind
