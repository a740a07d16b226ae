import Lmdeploy.Template.Chatml
import Lmdeploy.Template.Mutation

/-! The chatml-style renderers write well-bracketed turns: every `<|im_start|>` is closed by
one `<|im_end|>` before the next opens, and the prompt ends inside an open assistant turn.
User text may hold no marker (`Message.Clean`), nor may the JSON of the tools and of the
tool calls (`LibFree`); the template's own text must open and close turns as chatml does
(`QwenShape`, `InternShape`), as the defaults of every registered class of the two families
do. Each message's text opens and closes one turn; `Qwen2d5Chat` puts a run of tool results
into one user turn, opened at the first and closed at the last; the prefix-of-response cut of
`InternLM2Chat7B` and `InternS1` takes off exactly the end marker of the final answer. -/
namespace Lmdeploy.Template

open Chatml

variable {J : Type}

def closedTurns : List Mark → Bool
  | [] => true
  | .imStart :: .imEnd :: rest => closedTurns rest
  | _ => false

def openTurn : List Mark → Bool
  | [.imStart] => true
  | .imStart :: .imEnd :: rest => openTurn rest
  | _ => false

theorem closedTurns_append {a b : List Mark} (ha : closedTurns a = true)
    (hb : closedTurns b = true) : closedTurns (a ++ b) = true := by
  induction a using closedTurns.induct with
  | case1 => exact hb
  | case2 rest ih => exact ih ha
  | case3 l h => rcases l with _ | ⟨_ | _, _ | ⟨_ | _, r⟩⟩ <;> simp_all [closedTurns]

theorem openTurn_of_closed {a : List Mark} (ha : closedTurns a = true) :
    openTurn (a ++ [.imStart]) = true := by
  induction a using closedTurns.induct with
  | case1 => rfl
  | case2 rest ih => exact ih ha
  | case3 l h => rcases l with _ | ⟨_ | _, _ | ⟨_ | _, r⟩⟩ <;> simp_all [closedTurns]

/-- The prompt ends inside an assistant turn: whole turns, then `<|im_start|>assistant`, and
no marker after it. -/
def OpensAssistant (p : String) : Prop :=
  ∃ x y, p = x ++ "<|im_start|>assistant" ++ y ∧ closedTurns (marks x) = true ∧ marks y = []

theorem seg_assistant_marker : Seg [.imStart] "<|im_start|>assistant" := by decide

def Closed (x : String) : Prop := ∃ m, Seg m x ∧ closedTurns m = true

theorem Closed.empty : Closed "" := ⟨[], Seg.empty, rfl⟩

theorem Closed.append {x y : String} (hx : Closed x) (hy : Closed y) : Closed (x ++ y) := by
  obtain ⟨m, hm, hc⟩ := hx
  obtain ⟨m', hm', hc'⟩ := hy
  exact ⟨m ++ m', hm.append hm', closedTurns_append hc hc'⟩

theorem Closed.turn {x t y : String} (hx : Seg [.imStart] x) (ht : Quiet t)
    (hy : Tag [.imEnd] y) : Closed (x ++ t ++ y) :=
  ⟨_, hx.quiet_tag ht hy, rfl⟩

/-- Whole turns, then an open assistant turn: its opening, template text, and user text at
the very end. -/
def Turned (p : String) : Prop :=
  ∃ x y t, p = x ++ "<|im_start|>assistant" ++ y ++ t ∧ Closed x ∧ Seg [] y ∧ Quiet t

theorem Turned.balanced {p : String} (h : Turned p) :
    openTurn (marks p) = true ∧ OpensAssistant p := by
  obtain ⟨x, y, t, rfl, ⟨m, hm, hc⟩, hy, ht⟩ := h
  refine ⟨?_, x, y ++ t, by simp only [String.append_assoc], hm.marks ▸ hc, hy.marks_quiet ht⟩
  rw [((hm.append seg_assistant_marker).append hy).marks_quiet ht, List.append_nil]
  exact openTurn_of_closed hc

theorem Turned.of_opens {x y : String} (hx : Closed x) (hy : Seg [] y) :
    Turned (x ++ "<|im_start|>assistant" ++ y) :=
  ⟨x, y, "", (String.append_empty _).symm, hx, hy, Quiet.empty⟩

/-- The JSON values the input carries (the tools, the arguments of the tool calls) hold no
marker, so neither does any of their dumps. -/
structure LibFree (lib : Lib J) : Prop where
  dumps : ∀ v, Free (lib.dumps v)
  dumpsList : ∀ ts, Free (lib.dumpsList ts)
  dumpsListIndent : ∀ ts, Free (lib.dumpsListIndent ts)
  dumpsFunction : ∀ n v, Free n → Free (lib.dumpsFunction n v)

/-- No text of a message holds a marker: its content, read by `get_text` or raw, its
reasoning, and the names of its tool calls. -/
structure Message.Clean (lib : Lib J) (x : Message J) : Prop where
  text : ∀ t, getText x.content = some t → Free t
  raw : Free (Content.format lib x.content)
  reasoning : ∀ rc, x.reasoningContent = some rc → Free rc
  names : ∀ cs, x.toolCalls = some cs → ∀ c ∈ cs,
    (∀ n, (c.function.getD c.direct).name = some n → Free n) ∧
      Free ((c.function.getD ⟨none, none, none⟩).name.getD "")

theorem Message.plain_clean (lib : Lib J) (r : Role) {s : String} (hs : Free s) :
    (Message.plain r s : Message J).Clean lib :=
  ⟨fun t h => (by cases h; exact hs), hs, fun _ h => (by cases h), fun _ h => (by cases h)⟩

theorem libFree_trivial : LibFree Lib.trivial :=
  ⟨fun _ => (by decide : Free "\x7b\x7d"), fun _ => (by decide : Free "[]"),
    fun _ => (by decide : Free "[]"), fun _ _ _ => (by decide : Free "\x7b\x7d")⟩

/-! ### `Qwen2d5Chat`, `QwQ`, `Qwen3` -/

structure QwenShape (f : Fields) : Prop where
  system : Seg [.imStart] f.system
  user : Seg [.imStart] f.user
  assistant : ∃ r, f.assistant = "<|im_start|>assistant" ++ r ∧ Seg [] r
  eosys : Tag [.imEnd] f.eosys
  eoh : Tag [.imEnd] f.eoh
  separator : Tag [] f.separator
  tools : Tag [] f.tools
  eotools : Seg [] f.eotools
  meta : ∀ mi, f.metaInstruction = some mi → Free mi

theorem QwenShape.assistant_seg {f : Fields} (hf : QwenShape f) : Seg [.imStart] f.assistant := by
  obtain ⟨r, h, hr⟩ := hf.assistant
  rw [h]
  exact seg_assistant_marker.append hr

theorem Qwen2d5Chat.toolPrompt_seg {lib : Lib J} {f : Fields} (hf : QwenShape f)
    (hlib : LibFree lib) (ts : List J) : Seg [] (Qwen2d5Chat.toolPrompt lib f ts) := by
  induction ts with
  | nil => exact Seg.empty
  | cons t ts ih =>
    have entry : Seg [] (f.separator ++ "\x7b\"type\": \"function\", \"function\": ") :=
      hf.separator.seg.append (by decide)
    exact (entry.quiet_tag (hlib.dumps t).quiet (by decide : Tag [] "\x7d")).append ih

theorem Qwen2d5Chat.renderToolCall_tag {lib : Lib J} {f : Fields} (hf : QwenShape f)
    (hlib : LibFree lib) {c c' : ToolCall J} {s : String}
    (hname : ∀ n, (c.function.getD c.direct).name = some n → Free n)
    (h : Qwen2d5Chat.renderToolCall lib f c = some (s, c')) : Tag [] s := by
  simp only [Qwen2d5Chat.renderToolCall, Option.bind_eq_bind, Option.bind_eq_some] at h
  obtain ⟨args, -, value, -, name, hn, h⟩ := h
  simp only [pure, Option.some.injEq, Prod.mk.injEq] at h
  obtain ⟨rfl, -⟩ := h
  have opening : Tag [] (f.separator ++ "<tool_call>" ++ f.separator ++ "\x7b\"name\": \"") :=
    ((hf.separator.append (by decide : Seg [] "<tool_call>")).append hf.separator.seg).append
      (by decide : Seg [] "\x7b\"name\": \"")
  have named := opening.quiet_tag (hname name hn).quiet (by decide : Tag [] "\", \"arguments\": ")
  have dumped := named.quiet_tag (hlib.dumps value).quiet (by decide : Tag [] "\x7d")
  exact (dumped.append hf.separator.seg).append (by decide : Seg [] "</tool_call>")

theorem Qwen2d5Chat.renderToolCalls_tag {lib : Lib J} {f : Fields} (hf : QwenShape f)
    (hlib : LibFree lib) {cs cs' : List (ToolCall J)} {s : String}
    (hnames : ∀ c ∈ cs, ∀ n, (c.function.getD c.direct).name = some n → Free n)
    (h : Qwen2d5Chat.renderToolCalls lib f cs = some (s, cs')) : s = "" ∨ Tag [] s := by
  induction cs generalizing s cs' with
  | nil =>
    simp only [Qwen2d5Chat.renderToolCalls, Option.some.injEq, Prod.mk.injEq] at h
    exact .inl h.1.symm
  | cons c cs ih =>
    simp only [Qwen2d5Chat.renderToolCalls, Option.bind_eq_bind, Option.bind_eq_some] at h
    obtain ⟨⟨s1, c1⟩, h1, ⟨s2, cs2⟩, h2, h⟩ := h
    simp only [pure, Option.some.injEq, Prod.mk.injEq] at h
    obtain ⟨rfl, -⟩ := h
    have t1 := Qwen2d5Chat.renderToolCall_tag hf hlib (hnames c (List.mem_cons_self c cs)) h1
    exact .inr (t1.append_calls (ih (fun c hc => hnames c (List.mem_cons_of_mem _ hc)) h2))

theorem Qwen2d5Chat.boxMap_seg {f : Fields} (hf : QwenShape f) {r : Role} {b : String}
    (h : Qwen2d5Chat.boxMap f r = some b) : Seg [.imStart] b := by
  cases r <;> cases h
  exacts [hf.user, hf.assistant_seg, hf.system]

/-- The markers one message adds: a turn for a user message, a later system message and an
answer; for a tool result, the opening of the user turn at the first of a run of them and its
closing at the last. -/
def Qwen2d5Chat.turnOf (first prev next : Bool) (x : Message J) : List Mark :=
  if x.role = .user ∨ (x.role = .system ∧ ¬first) ∨ x.role = .assistant then
    [.imStart, .imEnd]
  else if x.role = .tool then
    (if prev then [] else [.imStart]) ++ (if next then [] else [.imEnd])
  else []

theorem Qwen2d5Chat.answer_calls_seg {f : Fields} (hf : QwenShape f) {text calls : String}
    (htext : text = "" ∨ ∃ t, text = f.separator ++ t ∧ Free t) (hcalls : calls = "" ∨ Tag [] calls) :
    Seg [.imStart, .imEnd] ("<|im_start|>assistant" ++ text ++ calls ++ f.eosys) := by
  have close : Tag [.imEnd] (calls ++ f.eosys) := by
    rcases hcalls with rfl | hc
    · simpa using hf.eosys
    · exact hc.append hf.eosys.seg
  rcases htext with rfl | ⟨t, rfl, ht⟩
  · simpa only [String.append_empty, String.append_assoc] using
      seg_assistant_marker.quiet_tag Quiet.empty close
  · simpa only [String.append_assoc] using
      (seg_assistant_marker.append hf.separator.seg).quiet_tag ht.quiet close

theorem Qwen2d5Chat.tool_seg {lib : Lib J} {f : Fields} (hf : QwenShape f) {x : Message J}
    (hx : x.Clean lib) (prev next : Bool) :
    Seg ((if prev then [] else [.imStart]) ++ (if next then [] else [.imEnd]))
      ((if prev then "" else "<|im_start|>user") ++ f.separator ++ "<tool_response>" ++
        f.separator ++ Content.format lib x.content ++ f.separator ++ "</tool_response>" ++
        (if next then "" else f.eoh)) := by
  have inner : Seg [] (f.separator ++ "<tool_response>" ++ f.separator) :=
    (hf.separator.seg.append (by decide : Seg [] "<tool_response>")).append hf.separator.seg
  have opening : Seg (if prev then [] else [.imStart])
      ((if prev then "" else "<|im_start|>user") ++ f.separator ++ "<tool_response>" ++
        f.separator) := by
    cases prev
    · simpa only [String.append_assoc] using (by decide : Seg [.imStart] "<|im_start|>user").append inner
    · simpa only [String.append_assoc, String.empty_append] using inner
  have closing : Tag (if next then [] else [.imEnd])
      (f.separator ++ "</tool_response>" ++ (if next then "" else f.eoh)) := by
    have tag := hf.separator.append (by decide : Seg [] "</tool_response>")
    cases next
    · exact tag.append hf.eoh.seg
    · simpa using tag
  simpa only [String.append_assoc] using opening.quiet_tag hx.raw.quiet closing

theorem Qwen2d5Chat.renderMessage_seg {lib : Lib J} {f : Fields} (hf : QwenShape f)
    (hlib : LibFree lib) {x x' : Message J} (hx : x.Clean lib) {first prev next : Bool}
    {s : String} (h : Qwen2d5Chat.renderMessage lib f first prev next x = some (s, x')) :
    Seg (Qwen2d5Chat.turnOf first prev next x) s := by
  unfold Qwen2d5Chat.renderMessage at h
  by_cases own : x.role = .user ∨ (x.role = .system ∧ ¬first) ∨
    (x.role = .assistant ∧ x.toolCalls.isNone)
  · -- a turn of its own
    simp only [if_pos own, Option.bind_eq_bind, Option.bind_eq_some, pure, Option.some.injEq,
      Prod.mk.injEq] at h
    obtain ⟨box, hbox, text, htext, rfl, -⟩ := h
    rw [Qwen2d5Chat.turnOf, if_pos (by tauto)]
    exact (Qwen2d5Chat.boxMap_seg hf hbox).quiet_tag (hx.text text htext).quiet hf.eosys
  rw [if_neg own] at h
  by_cases answer : x.role = .assistant
  · -- an answer with tool calls
    rw [if_pos answer] at h
    rw [Qwen2d5Chat.turnOf, if_pos (.inr (.inr answer))]
    have calls : ∀ text (g : String × List (ToolCall J) → Message J),
        (text = "" ∨ ∃ t, text = f.separator ++ t ∧ Free t) →
        (Qwen2d5Chat.renderToolCalls lib f (x.toolCalls.getD [])).bind (fun r =>
          pure ("<|im_start|>assistant" ++ text ++ r.1 ++ f.eosys, g r)) = some (s, x') →
        Seg [.imStart, .imEnd] s := by
      intro text g htext h
      simp only [Option.bind_eq_some, pure, Option.some.injEq, Prod.mk.injEq] at h
      obtain ⟨⟨calls, cs'⟩, hcalls, rfl, -⟩ := h
      refine Qwen2d5Chat.answer_calls_seg hf htext
        (Qwen2d5Chat.renderToolCalls_tag hf hlib (fun c hc => ?_) hcalls)
      cases htc : x.toolCalls with
      | none => simp [htc] at hc
      | some cs => exact (hx.names cs htc c (by simpa [htc] using hc)).1
    rcases hc : x.content with _ | c <;>
      simp only [hc, Option.bind_eq_bind, Option.some_bind, Option.map_eq_map] at h
    · exact calls "" _ (.inl rfl) h
    · cases ht : getText (some c) with
      | none => simp [ht] at h
      | some t =>
        simp only [ht, Option.map_some', Option.some_bind] at h
        exact calls _ _ (.inr ⟨t, rfl, hx.text t (hc ▸ ht)⟩) h
  rw [if_neg answer] at h
  by_cases tool : x.role = .tool
  · -- a tool result
    simp only [if_pos tool, pure, Option.some.injEq, Prod.mk.injEq] at h
    obtain ⟨rfl, -⟩ := h
    rw [Qwen2d5Chat.turnOf, if_neg (by tauto), if_pos tool]
    exact Qwen2d5Chat.tool_seg hf hx prev next
  · -- a leading system message, or a role the loop skips
    simp only [if_neg tool, pure, Option.some.injEq, Prod.mk.injEq] at h
    obtain ⟨rfl, -⟩ := h
    rw [Qwen2d5Chat.turnOf, if_neg (by tauto), if_neg tool]
    exact Seg.empty

def Qwen2d5Chat.turns (first prev : Bool) : List (Message J) → List Mark
  | [] => []
  | m :: ms => Qwen2d5Chat.turnOf first prev (ms.head?.map (·.role) = some .tool) m ++
      Qwen2d5Chat.turns false (m.role = .tool) ms

def Qwen2d5Chat.pendingTool (prev : Bool) (ms : List (Message J)) : List Mark :=
  if prev && (ms.head?.map (·.role) = some .tool) then [.imStart] else []

theorem Qwen2d5Chat.turns_closed (first prev : Bool) (ms : List (Message J)) :
    closedTurns (Qwen2d5Chat.pendingTool prev ms ++ Qwen2d5Chat.turns first prev ms) = true := by
  induction ms generalizing first prev with
  | nil => simp [Qwen2d5Chat.pendingTool, Qwen2d5Chat.turns, closedTurns]
  | cons m ms ih =>
    have rest := ih false (m.role = .tool)
    clear ih
    simp only [Qwen2d5Chat.pendingTool, Qwen2d5Chat.turns, List.head?_cons,
      Option.map_some'] at rest ⊢
    generalize decide (ms.head?.map (·.role) = some .tool) = n at rest ⊢
    by_cases ht : m.role = .tool
    · -- a tool result: the run's turn stays open exactly while the next is one too
      cases prev <;> cases n <;> simp_all [Qwen2d5Chat.turnOf, closedTurns]
    · -- any other message: a whole turn or nothing
      simp only [ht, Qwen2d5Chat.turnOf, if_false, decide_False, Bool.and_false] at rest ⊢
      split_ifs <;> simp_all [closedTurns]

theorem Qwen2d5Chat.renderMessages_seg {lib : Lib J} {f : Fields} (hf : QwenShape f)
    (hlib : LibFree lib) {ms ms' : List (Message J)} (hms : ∀ x ∈ ms, x.Clean lib)
    {first prev : Bool} {s : String}
    (h : Qwen2d5Chat.renderMessages lib f first prev ms = some (s, ms')) :
    Seg (Qwen2d5Chat.turns first prev ms) s := by
  induction ms generalizing first prev s ms' with
  | nil =>
    simp only [Qwen2d5Chat.renderMessages, Option.some.injEq, Prod.mk.injEq] at h
    rw [← h.1]
    exact Seg.empty
  | cons m ms ih =>
    simp only [Qwen2d5Chat.renderMessages, Option.bind_eq_bind, Option.bind_eq_some] at h
    obtain ⟨⟨s1, m'⟩, h1, ⟨s2, ms2⟩, h2, h⟩ := h
    simp only [pure, Option.some.injEq, Prod.mk.injEq] at h
    obtain ⟨rfl, -⟩ := h
    exact (Qwen2d5Chat.renderMessage_seg hf hlib (hms m (List.mem_cons_self m ms)) h1).append
      (ih (fun x hx => hms x (List.mem_cons_of_mem m hx)) h2)

theorem Qwen2d5Chat.formatMeta_free {f : Fields} (hf : QwenShape f) :
    Free (Qwen2d5Chat.formatMeta f.metaInstruction) := by
  cases h : f.metaInstruction with
  | none => decide
  | some mi => exact hf.meta mi h

theorem Qwen2d5Chat.header_closed {lib : Lib J} {f : Fields} (hf : QwenShape f)
    (hlib : LibFree lib) {ms : List (Message J)} (hms : ∀ x ∈ ms, x.Clean lib)
    (sequenceStart : Bool) (tools : Option (List J)) :
    Closed (Qwen2d5Chat.header lib f ms sequenceStart tools) := by
  have first : ∀ m, ms.head? = some m → Free (Content.format lib m.content) :=
    fun m hm => (hms m (List.mem_of_mem_head? hm)).raw
  have system : ∀ t, Free t → Closed (f.system ++ t ++ f.eosys) :=
    fun t ht => Closed.turn hf.system ht.quiet hf.eosys
  unfold Qwen2d5Chat.header
  split
  · -- the tools
    rename_i t ts
    have leading : Free (match ms.head? with
        | some m => if m.role = .system then Content.format lib m.content
          else Qwen2d5Chat.formatMeta f.metaInstruction
        | none => Qwen2d5Chat.formatMeta f.metaInstruction) := by
      split
      · split
        · exact first _ ‹_›
        · exact Qwen2d5Chat.formatMeta_free hf
      · exact Qwen2d5Chat.formatMeta_free hf
    have close : Tag [.imEnd] (f.tools ++ Qwen2d5Chat.toolPrompt lib f (t :: ts) ++ f.eotools ++
        f.eosys) :=
      ((hf.tools.append (Qwen2d5Chat.toolPrompt_seg hf hlib _)).append hf.eotools).append
        hf.eosys.seg
    simpa only [String.append_assoc] using Closed.turn hf.system leading.quiet close
  · split
    · split
      · split
        · exact system _ (first _ ‹_›)
        · exact system _ (hf.meta _ ‹_›)
      · exact system _ (hf.meta _ ‹_›)
    · exact Closed.empty

theorem Qwen2d5Chat.messages2prompt_opens {lib : Lib J} {f : Fields} (hf : QwenShape f)
    (hlib : LibFree lib) {ms ms' : List (Message J)} (hms : ∀ x ∈ ms, x.Clean lib)
    {sequenceStart : Bool} {tools : Option (List J)} {p : String}
    (h : Qwen2d5Chat.messages2prompt lib f ms sequenceStart tools = some (p, ms')) :
    ∃ x y, p = x ++ "<|im_start|>assistant" ++ y ∧ Closed x ∧ Seg [] y := by
  simp only [Qwen2d5Chat.messages2prompt, Option.bind_eq_bind, Option.bind_eq_some] at h
  obtain ⟨⟨body, ms2⟩, hbody, h⟩ := h
  simp only [pure, Option.some.injEq, Prod.mk.injEq] at h
  obtain ⟨rfl, -⟩ := h
  obtain ⟨r, hr, hrs⟩ := hf.assistant
  have closed := Qwen2d5Chat.turns_closed true false ms
  rw [Qwen2d5Chat.pendingTool, if_neg (by simp), List.nil_append] at closed
  refine ⟨_, r, by rw [hr, ← String.append_assoc], ?_, hrs⟩
  exact (Qwen2d5Chat.header_closed hf hlib hms _ _).append
    ⟨_, Qwen2d5Chat.renderMessages_seg hf hlib hms hbody, closed⟩

theorem Qwen2d5Chat.messages2prompt_turned {lib : Lib J} {f : Fields} (hf : QwenShape f)
    (hlib : LibFree lib) {ms ms' : List (Message J)} (hms : ∀ x ∈ ms, x.Clean lib)
    {sequenceStart : Bool} {tools : Option (List J)} {p : String}
    (h : Qwen2d5Chat.messages2prompt lib f ms sequenceStart tools = some (p, ms')) : Turned p := by
  obtain ⟨x, y, rfl, hx, hy⟩ := Qwen2d5Chat.messages2prompt_opens hf hlib hms h
  exact Turned.of_opens hx hy

theorem Qwen2d5Chat.messages2prompt_think {lib : Lib J} {f : Fields} (hf : QwenShape f)
    (hlib : LibFree lib) {ms ms' : List (Message J)} (hms : ∀ x ∈ ms, x.Clean lib)
    {sequenceStart : Bool} {tools : Option (List J)} {p : String} {think : String}
    (hthink : Seg [] think)
    (h : Qwen2d5Chat.messages2prompt lib f ms sequenceStart tools = some (p, ms')) :
    Turned (p ++ think) := by
  obtain ⟨x, y, rfl, hx, hy⟩ := Qwen2d5Chat.messages2prompt_opens hf hlib hms h
  rw [String.append_assoc]
  exact Turned.of_opens hx (hy.append hthink)

theorem QwQ.messages2prompt_turned {lib : Lib J} {f : Fields} (hf : QwenShape f)
    (hlib : LibFree lib) {ms ms' : List (Message J)} (hms : ∀ x ∈ ms, x.Clean lib)
    {sequenceStart : Bool} {tools : Option (List J)} {p : String}
    (h : QwQ.messages2prompt lib f ms sequenceStart tools = some (p, ms')) : Turned p := by
  simp only [QwQ.messages2prompt, Option.map_eq_map, Option.map_eq_some'] at h
  obtain ⟨⟨p0, ms0⟩, h0, h⟩ := h
  simp only [Prod.mk.injEq] at h
  rw [← h.1]
  exact Qwen2d5Chat.messages2prompt_think hf hlib hms (by decide) h0

theorem Qwen3.messages2prompt_turned {lib : Lib J} {f : Fields} (hf : QwenShape f)
    (hlib : LibFree lib) {ms ms' : List (Message J)} (hms : ∀ x ∈ ms, x.Clean lib)
    {sequenceStart : Bool} {tools : Option (List J)} {enableThinking : Option Bool}
    {p : String} (h : Qwen3.messages2prompt lib f ms sequenceStart tools enableThinking =
      some (p, ms')) : Turned p := by
  simp only [Qwen3.messages2prompt, Option.map_eq_map, Option.map_eq_some'] at h
  obtain ⟨⟨p0, ms0⟩, h0, h⟩ := h
  simp only [Prod.mk.injEq] at h
  rw [← h.1]
  refine Qwen2d5Chat.messages2prompt_think hf hlib hms ?_ h0
  split
  · decide
  · exact Seg.empty

end Lmdeploy.Template
