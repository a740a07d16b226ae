import Lmdeploy.Template.Turns

/-! The turns of `InternLM2Chat7B` and `InternS1`. Every message, the tools prompt among
them, is written as one turn: its role's box (stripped, and named for a named message), the
message's text and tool calls, and its role's end marker. A conversation that ends with an
answer is cut by exactly that answer's end marker, which leaves its turn open; any other
gets a fresh assistant turn. -/
namespace Lmdeploy.Template

open Chatml

variable {J : Type}

def Opens (r : Role) (b : String) : Prop :=
  Seg [.imStart] b ∧ (r = .assistant → ∃ y, b = "<|im_start|>assistant" ++ y ∧ Seg [] y)

/-- A box that opens one turn, also when stripped, as a named message writes it. -/
def Opener (b : String) : Prop := Seg [.imStart] b ∧ Seg [.imStart] (Py.strip b)

instance (b : String) : Decidable (Opener b) := inferInstanceAs (Decidable (_ ∧ _))

structure InternShape (f : Fields) : Prop where
  system : Opener f.system
  user : Opener f.user
  environment : Opener f.environment
  assistant : ∃ y, f.assistant = "<|im_start|>assistant" ++ y ∧ Seg [] y
  assistantStrip : ∃ y, Py.strip f.assistant = "<|im_start|>assistant" ++ y ∧ Seg [] y
  eosys : Tag [.imEnd] f.eosys
  eoh : Tag [.imEnd] f.eoh
  eoenv : Tag [.imEnd] f.eoenv
  eoa : Tag [.imEnd] (f.eoa ++ f.separator)
  plugin : Seg [] (" name=" ++ f.plugin ++ "\n")
  interpreter : Seg [] (" name=" ++ f.interpreter ++ "\n")
  meta : ∀ mi, f.metaInstruction = some mi → Free mi

structure InternS1Shape (f : Fields) extends InternShape f : Prop where
  tool : Tag [] f.tool
  toolStripped : Tag [] (Py.lstripNewline f.tool)
  eotool : f.eotool = "" ∨ Tag [] f.eotool

namespace InternShape

variable {f : Fields}

theorem box_opens (hf : InternShape f) {r : Role} {b : String}
    (h : InternLM2Chat7B.boxMap f r = some b) : Opens r b ∧ Opens r (Py.strip b) := by
  have other : ∀ b, r ≠ .assistant → Opener b → Opens r b ∧ Opens r (Py.strip b) :=
    fun b hr hb => ⟨⟨hb.1, fun h => absurd h hr⟩, ⟨hb.2, fun h => absurd h hr⟩⟩
  cases r <;> cases h
  case assistant =>
    obtain ⟨y, hy, hys⟩ := hf.assistant
    obtain ⟨z, hz, hzs⟩ := hf.assistantStrip
    refine ⟨⟨?_, fun _ => ⟨y, hy, hys⟩⟩, ⟨?_, fun _ => ⟨z, hz, hzs⟩⟩⟩
    · rw [hy]; exact seg_assistant_marker.append hys
    · rw [hz]; exact seg_assistant_marker.append hzs
  case user => exact other _ (by decide) hf.user
  case system => exact other _ (by decide) hf.system
  case tool => exact other _ (by decide) hf.environment
  case environment => exact other _ (by decide) hf.environment

theorem eox_tag (hf : InternShape f) {r : Role} {e : String}
    (h : InternLM2Chat7B.eoxMap f r = some e) : Tag [.imEnd] e := by
  cases r <;> cases h
  exacts [hf.eoh, hf.eoa, hf.eosys, hf.eoenv, hf.eoenv]

theorem name_seg (hf : InternShape f) {n : Option String} {v : String}
    (h : InternLM2Chat7B.nameMap f n = some v) : Seg [] (" name=" ++ v ++ "\n") := by
  unfold InternLM2Chat7B.nameMap at h
  split at h <;> cases h
  exacts [hf.plugin, hf.interpreter]

theorem cut (hf : InternShape f) : 0 < (f.eoa ++ f.separator).length := hf.eoa.length_pos

end InternShape

theorem Opens.named {r : Role} {b v : String} (hb : Opens r b)
    (hv : Seg [] (" name=" ++ v ++ "\n")) : Opens r (b ++ " name=" ++ v ++ "\n") := by
  refine ⟨by simpa only [String.append_assoc, List.append_nil] using hb.1.append hv,
    fun hr => ?_⟩
  obtain ⟨y, rfl, hy⟩ := hb.2 hr
  exact ⟨y ++ " name=" ++ v ++ "\n", by simp only [String.append_assoc],
    by simpa only [String.append_assoc] using hy.append hv⟩

/-- What the renderers of the family need of a message: its text finds no marker, nor do
its reasoning and the names of its tool calls. -/
structure Message.Unmarked (x : Message J) : Prop where
  text : ∀ t, getText x.content = some t → Quiet t
  reasoning : ∀ rc, x.reasoningContent = some rc → Free rc
  names : ∀ cs, x.toolCalls = some cs → ∀ c ∈ cs,
    Free ((c.function.getD ⟨none, none, none⟩).name.getD "")

theorem Message.Clean.unmarked {lib : Lib J} {x : Message J} (hx : x.Clean lib) : x.Unmarked :=
  ⟨fun t ht => (hx.text t ht).quiet, hx.reasoning, fun cs hcs c hc => (hx.names cs hcs c hc).2⟩

theorem InternLM2Chat7B.toolsPrompt_unmarked {t : String} (ht : Quiet t) :
    (InternLM2Chat7B.toolsPrompt t : Message J).Unmarked :=
  ⟨fun t' h => (by cases h; exact ht), fun _ h => (by cases h), fun _ h => (by cases h)⟩

/-! ### Tool calls -/

theorem InternLM2Chat7B.rewriteFunction_name {lib : Lib J} {c c' : ToolCall J} {n : String}
    {v : J} (h : InternLM2Chat7B.rewriteFunction lib c = some (c', n, v)) :
    n = (c.function.getD ⟨none, none, none⟩).name.getD "" := by
  simp only [InternLM2Chat7B.rewriteFunction, Option.bind_eq_bind] at h
  split at h
  · cases h
  · simp only [Option.bind_eq_some, pure, Option.some.injEq, Prod.mk.injEq] at h
    obtain ⟨_, -, _, -, -, rfl, -⟩ := h
    rfl

theorem InternLM2Chat7B.rewriteCalls_tag {lib : Lib J} {action : String → J → String}
    (hact : ∀ n v, Free n → Tag [] (action n v)) {cs cs' : List (ToolCall J)} {s : String}
    (hnames : ∀ c ∈ cs, Free ((c.function.getD ⟨none, none, none⟩).name.getD ""))
    (h : InternLM2Chat7B.rewriteCalls lib action cs = some (s, cs')) : s = "" ∨ Tag [] s := by
  induction cs generalizing s cs' with
  | nil =>
    simp only [InternLM2Chat7B.rewriteCalls, Option.some.injEq, Prod.mk.injEq] at h
    exact .inl h.1.symm
  | cons c cs ih =>
    simp only [InternLM2Chat7B.rewriteCalls, Option.bind_eq_bind, Option.bind_eq_some] at h
    obtain ⟨⟨c', n, v⟩, h1, ⟨s2, cs2⟩, h2, h⟩ := h
    simp only [pure, Option.some.injEq, Prod.mk.injEq] at h
    obtain ⟨rfl, -⟩ := h
    have t1 := hact n v (InternLM2Chat7B.rewriteFunction_name h1 ▸
      hnames c (List.mem_cons_self c cs))
    exact .inr (t1.append_calls (ih (fun c hc => hnames c (List.mem_cons_of_mem _ hc)) h2))

theorem InternLM2Chat7B.assistantCalls_tag {lib : Lib J} {action : String → J → String}
    (hact : ∀ n v, Free n → Tag [] (action n v)) {x x' : Message J} {s : String}
    (hx : x.Unmarked) (h : InternLM2Chat7B.assistantCalls lib action x = some (s, x')) :
    (s = "" ∨ Tag [] s) ∧ x'.role = x.role := by
  unfold InternLM2Chat7B.assistantCalls at h
  split at h
  · rename_i calls _ hcalls
    simp only [Option.bind_eq_bind, Option.bind_eq_some, pure, Option.some.injEq,
      Prod.mk.injEq] at h
    obtain ⟨⟨text, cs'⟩, hrw, rfl, rfl⟩ := h
    exact ⟨InternLM2Chat7B.rewriteCalls_tag hact (hx.names _ hcalls) hrw, rfl⟩
  · simp only [Option.some.injEq, Prod.mk.injEq] at h
    obtain ⟨rfl, rfl⟩ := h
    exact ⟨.inl rfl, rfl⟩

theorem InternLM2Chat7B.action_tag {lib : Lib J} (hlib : LibFree lib) (n : String) (v : J)
    (hn : Free n) : Tag [] (InternLM2Chat7B.action lib n v) :=
  (by decide : Tag [] "<|action_start|><|plugin|>\n").quiet_tag (hlib.dumpsFunction n v hn).quiet
    (by decide : Tag [] "<|action_end|>")

theorem InternS1.action_tag {lib : Lib J} (hlib : LibFree lib) (n : String) (v : J)
    (hn : Free n) : Tag [] (InternS1.action lib n v) :=
  (by decide : Tag [] "<|action_start|><|plugin|>\n").quiet_tag (hlib.dumpsFunction n v hn).quiet
    (by decide : Tag [] "\n<|action_end|>")

/-! ### Messages -/

/-- One message's text: a turn's opening, the message's own text, and its role's end
marker. -/
def Turn (f : Fields) (r : Role) (s : String) : Prop :=
  ∃ b t e, s = b ++ t ++ e ∧ Opens r b ∧ Quiet t ∧ InternLM2Chat7B.eoxMap f r = some e

theorem Turn.of_parts {f : Fields} {r : Role} {b t c e : String} (hb : Opens r b) (ht : Quiet t)
    (hc : c = "" ∨ Tag [] c) (he : InternLM2Chat7B.eoxMap f r = some e) :
    Turn f r (b ++ t ++ c ++ e) :=
  ⟨b, t ++ c, e, by simp only [String.append_assoc], hb, ht.append_calls hc, he⟩

theorem Turn.closed {f : Fields} (hf : InternShape f) {r : Role} {s : String}
    (h : Turn f r s) : Closed s := by
  obtain ⟨b, t, e, rfl, hb, ht, he⟩ := h
  exact Closed.turn hb.1 ht (hf.eox_tag he)

theorem InternLM2Chat7B.renderMessage_turn {lib : Lib J} {f : Fields} (hf : InternShape f)
    (hlib : LibFree lib) {x x' : Message J} (hx : x.Unmarked) {s : String}
    (h : InternLM2Chat7B.renderMessage lib f x = some (s, x')) :
    Turn f x.role s ∧ x'.role = x.role := by
  simp only [InternLM2Chat7B.renderMessage, Option.bind_eq_bind, Option.bind_eq_some] at h
  obtain ⟨content, hcontent, ⟨calls, x''⟩, hcalls, box, hbox, eox, heox, h⟩ := h
  simp only [pure, Option.some.injEq, Prod.mk.injEq] at h
  obtain ⟨rfl, rfl⟩ := h
  obtain ⟨hc, hrole⟩ := InternLM2Chat7B.assistantCalls_tag (InternLM2Chat7B.action_tag hlib) hx hcalls
  refine ⟨Turn.of_parts ?_ (hx.text _ hcontent) hc heox, hrole⟩
  have opens := hf.box_opens hbox
  split
  · exact opens.2.named (hf.name_seg ‹_›)
  · exact opens.1

theorem InternS1.renderMessage_turn {lib : Lib J} {f : Fields} (hf : InternShape f)
    (hlib : LibFree lib) {x x' : Message J} (hx : x.Unmarked) {u : Option Nat} {i : Nat}
    {s : String} (h : InternS1.renderMessage lib f u i x = some (s, x')) :
    Turn f x.role s ∧ x'.role = x.role := by
  simp only [InternS1.renderMessage, Option.bind_eq_bind, Option.bind_eq_some] at h
  obtain ⟨content, hcontent, ⟨calls, x''⟩, hcalls, box, hbox, eox, heox, h⟩ := h
  simp only [pure, Option.some.injEq, Prod.mk.injEq] at h
  obtain ⟨rfl, rfl⟩ := h
  obtain ⟨hc, hrole⟩ := InternLM2Chat7B.assistantCalls_tag (InternS1.action_tag hlib) hx hcalls
  refine ⟨Turn.of_parts ?_ ?_ hc heox, hrole⟩
  · -- the opening
    have opens := hf.box_opens hbox
    split
    · split
      · exact opens.2.named (hf.name_seg ‹_›)
      · split
        · exact opens.2.named hf.plugin
        · exact opens.2
    · exact opens.1
  · -- the text, after the reasoning replayed in think tags
    have quiet := hx.text content hcontent
    split
    · split
      · exact ((by decide : Seg [] "<think>\n").quiet_tag (hx.reasoning _ ‹_›).quiet
          (by decide : Tag [] "\n</think>\n")).quiet_append quiet
      · exact quiet
    · exact quiet

/-! ### The loop and the prompt -/

theorem renderEach_turns {f : Fields} (hf : InternShape f)
    {body : Nat → Message J → Option (String × Message J)} {ms ms' : List (Message J)}
    {i : Nat} {s : String}
    (hbody : ∀ j x s x', x ∈ ms → body j x = some (s, x') → Turn f x.role s ∧ x'.role = x.role)
    (h : renderEach body i ms = some (s, ms')) :
    Closed s ∧ (BaseChatTemplate.endsWithAssistant ms' → ∃ x y t,
      s = x ++ "<|im_start|>assistant" ++ y ++ t ++ (f.eoa ++ f.separator) ∧ Closed x ∧
        Seg [] y ∧ Quiet t) := by
  induction ms generalizing i s ms' with
  | nil =>
    simp only [renderEach, Option.some.injEq, Prod.mk.injEq] at h
    obtain ⟨rfl, rfl⟩ := h
    exact ⟨Closed.empty, fun h => by cases h⟩
  | cons x xs ih =>
    simp only [renderEach, Option.bind_eq_bind, Option.bind_eq_some] at h
    obtain ⟨⟨s1, x'⟩, h1, ⟨r, xs'⟩, h2, h⟩ := h
    simp only [pure, Option.some.injEq, Prod.mk.injEq] at h
    obtain ⟨rfl, rfl⟩ := h
    obtain ⟨turn, hrole⟩ := hbody i x s1 x' (List.mem_cons_self x xs) h1
    obtain ⟨closed, last⟩ :=
      ih (fun j y s y' hy => hbody j y s y' (List.mem_cons_of_mem x hy)) h2
    refine ⟨(turn.closed hf).append closed, fun hend => ?_⟩
    cases xs' with
    | nil =>
      -- the answer is the last message
      obtain rfl : xs = [] := List.length_eq_zero.mp (renderEach_length h2).symm
      obtain rfl : r = "" := by
        simp only [renderEach, Option.some.injEq, Prod.mk.injEq] at h2
        exact h2.1.symm
      have answer : x.role = .assistant := by
        simpa [BaseChatTemplate.endsWithAssistant, hrole] using hend
      obtain ⟨b, t, e, rfl, hb, ht, he⟩ := turn
      rw [answer] at hb he
      obtain ⟨y, rfl, hy⟩ := hb.2 rfl
      cases he
      exact ⟨"", y, t, by simp only [String.append_empty, String.empty_append], Closed.empty,
        hy, ht⟩
    | cons y ys =>
      have hend' : BaseChatTemplate.endsWithAssistant (y :: ys) := by
        rwa [BaseChatTemplate.endsWithAssistant, List.getLast?_cons_cons] at hend
      obtain ⟨x0, y0, t0, rfl, hx0, hy0, ht0⟩ := last hend'
      exact ⟨s1 ++ x0, y0, t0, by simp only [String.append_assoc], (turn.closed hf).append hx0,
        hy0, ht0⟩

theorem Turned.cut {f : Fields} (hf : InternShape f) {hdr s : String} (hhdr : Closed hdr)
    (h : ∃ x y t, s = x ++ "<|im_start|>assistant" ++ y ++ t ++ (f.eoa ++ f.separator) ∧
      Closed x ∧ Seg [] y ∧ Quiet t) :
    Turned (Py.sliceNeg (hdr ++ s) (f.eoa ++ f.separator).length) := by
  obtain ⟨x, y, t, rfl, hx, hy, ht⟩ := h
  exact ⟨hdr ++ x, y, t, sliceNeg_cut (t := f.eoa ++ f.separator)
    (by simp only [String.append_assoc]) rfl hf.cut, hhdr.append hx, hy, ht⟩

theorem BaseChatTemplate.header_closed {f : Fields} (hf : InternShape f) (ms : List (Message J))
    (sequenceStart : Bool) : Closed (BaseChatTemplate.header f ms sequenceStart) := by
  unfold BaseChatTemplate.header
  split
  · split_ifs
    · exact Closed.turn hf.system.1 (hf.meta _ ‹_›).quiet hf.eosys
    · exact Closed.empty
  · exact Closed.empty

theorem InternLM2Chat7B.insertTools_unmarked {lib : Lib J} (hlib : LibFree lib)
    {tools : Option (List J)} {ms ms' : List (Message J)} (hms : ∀ x ∈ ms, x.Clean lib)
    (h : InternLM2Chat7B.insertTools lib tools ms = some ms') : ∀ x ∈ ms', x.Unmarked := by
  unfold InternLM2Chat7B.insertTools at h
  split at h
  · rename_i t ts first rest
    simp only [Option.some.injEq] at h
    subst h
    intro x hx
    have cases : x = InternLM2Chat7B.toolsPrompt (lib.dumpsList (t :: ts)) ∨ x ∈ first :: rest := by
      split_ifs at hx <;> simp only [List.mem_cons] at hx ⊢ <;> tauto
    rcases cases with rfl | hx
    · exact InternLM2Chat7B.toolsPrompt_unmarked (hlib.dumpsList _).quiet
    · exact (hms x hx).unmarked
  · cases h
  · cases h
    exact fun x hx => (hms x hx).unmarked

theorem InternLM2Chat7B.messages2prompt_turned {lib : Lib J} {f : Fields} (hf : InternShape f)
    (hlib : LibFree lib) {ms ms' : List (Message J)} (hms : ∀ x ∈ ms, x.Clean lib)
    {sequenceStart : Bool} {tools : Option (List J)} {p : String}
    (h : InternLM2Chat7B.messages2prompt lib f ms sequenceStart tools = some (p, ms')) :
    Turned p := by
  simp only [InternLM2Chat7B.messages2prompt, Option.bind_eq_bind, Option.bind_eq_some] at h
  obtain ⟨placed, hplaced, ⟨body, ms2⟩, hbody, h⟩ := h
  have hdr := BaseChatTemplate.header_closed hf ms sequenceStart
  have unmarked := InternLM2Chat7B.insertTools_unmarked hlib hms hplaced
  obtain ⟨closed, last⟩ := renderEach_turns hf
    (fun _ x _ _ hx hr => InternLM2Chat7B.renderMessage_turn hf hlib (unmarked x hx) hr) hbody
  split at h <;> simp only [pure, Option.some.injEq, Prod.mk.injEq] at h <;>
    obtain ⟨rfl, rfl⟩ := h
  · exact Turned.cut hf hdr (last ‹_›)
  · obtain ⟨y, hy, hys⟩ := hf.assistant
    rw [hy, ← String.append_assoc]
    exact Turned.of_opens (hdr.append closed) hys

theorem InternS1Shape.content_quiet {lib : Lib J} {f : Fields} (hf : InternS1Shape f)
    (hlib : LibFree lib) {a : String} (ha : Quiet a) (ts : List J) :
    Quiet (a ++ (f.tool ++ lib.dumpsListIndent ts ++ f.eotool)) := by
  simpa only [String.append_assoc] using
    ((ha.tag hf.tool).quiet_append (hlib.dumpsListIndent ts).quiet).append_calls hf.eotool

theorem InternS1Shape.stripped_quiet {lib : Lib J} {f : Fields} (hf : InternS1Shape f)
    (hlib : LibFree lib) (ts : List J) :
    Quiet (Py.lstripNewline (f.tool ++ lib.dumpsListIndent ts ++ f.eotool)) := by
  have kept : Py.lstripNewline f.tool ≠ "" := by
    intro h
    have := hf.toolStripped.length_pos
    rw [h] at this
    exact absurd this (by decide)
  rw [String.append_assoc, Py.lstripNewline_append _ kept, ← String.append_assoc]
  exact (hf.toolStripped.seg.quiet_append (hlib.dumpsListIndent ts).quiet).append_calls hf.eotool

theorem InternS1.placeTools_unmarked {lib : Lib J} {f : Fields} (hf : InternS1Shape f)
    (hlib : LibFree lib) {sequenceStart : Bool} {enableThinking : Option Bool} {ts : List J}
    {ms ms' : List (Message J)} (hms : ∀ x ∈ ms, x.Clean lib)
    (h : InternS1.placeTools lib f sequenceStart enableThinking ts ms = some ms') :
    ∀ x ∈ ms', x.Unmarked := by
  cases ms with
  | nil => cases h
  | cons first rest =>
    have kept : ∀ x ∈ first :: rest, x.Unmarked := fun x hx => (hms x hx).unmarked
    simp only [InternS1.placeTools] at h
    by_cases hsys : first.role = .system
    · -- a leading system message absorbs the tools prompt
      rw [if_pos hsys] at h
      split at h
      · rename_i s hs
        simp only [Option.some.injEq] at h
        subst h
        have hs' : getText first.content = some s := by rw [hs]; rfl
        intro x hx
        rcases List.mem_cons.mp hx with rfl | hx
        · exact InternLM2Chat7B.toolsPrompt_unmarked
            (hf.content_quiet hlib ((hms first (List.mem_cons_self _ _)).text s hs').quiet ts)
        · exact kept x (List.mem_cons_of_mem _ hx)
      · cases h
    · -- the tools prompt goes first
      simp only [if_neg hsys, Option.some.injEq] at h
      subst h
      intro x hx
      rcases List.mem_cons.mp hx with rfl | hx
      · apply InternLM2Chat7B.toolsPrompt_unmarked
        split
        · split_ifs
          · exact hf.content_quiet hlib (hf.meta _ ‹_›).quiet ts
          · exact hf.stripped_quiet hlib ts
        · exact hf.stripped_quiet hlib ts
      · exact kept x hx

theorem InternS1.header_closed {f : Fields} (hf : InternShape f) (ms : List (Message J))
    (sequenceStart : Bool) (enableThinking : Option Bool) :
    Closed (InternS1.header f ms sequenceStart enableThinking) := by
  unfold InternS1.header
  split
  · split_ifs
    · exact Closed.turn hf.system.1 (hf.meta _ ‹_›).quiet hf.eosys
    · exact Closed.empty
  · exact Closed.empty

theorem InternS1.messages2prompt_turned {lib : Lib J} {f : Fields} (hf : InternS1Shape f)
    (hlib : LibFree lib) {ms ms' : List (Message J)} (hms : ∀ x ∈ ms, x.Clean lib)
    {sequenceStart : Bool} {tools : Option (List J)} {enableThinking : Option Bool} {p : String}
    (h : InternS1.messages2prompt lib f ms sequenceStart tools enableThinking = some (p, ms')) :
    Turned p := by
  have rest : ∀ hdr placed, Closed hdr → (∀ x ∈ placed, x.Unmarked) →
      (renderEach (InternS1.renderMessage lib f (InternS1.lastUserIdx placed)) 0 placed).bind
        (fun r => if BaseChatTemplate.endsWithAssistant r.2 then
            pure (Py.sliceNeg (hdr ++ r.1) (f.eoa ++ f.separator).length, r.2)
          else pure (hdr ++ r.1 ++ f.assistant ++
            (if InternS1.thinking enableThinking then "<think>" else ""), r.2)) =
        some (p, ms') → Turned p := by
    intro hdr placed hhdr hplaced h
    obtain ⟨⟨body, ms2⟩, hbody, h⟩ := Option.bind_eq_some.mp h
    obtain ⟨closed, last⟩ := renderEach_turns hf.toInternShape
      (fun _ x _ _ hx hr => InternS1.renderMessage_turn hf.toInternShape hlib (hplaced x hx) hr)
      hbody
    split at h <;> simp only [pure, Option.some.injEq, Prod.mk.injEq] at h <;>
      obtain ⟨rfl, rfl⟩ := h
    · exact Turned.cut hf.toInternShape hhdr (last ‹_›)
    · obtain ⟨y, hy, hys⟩ := hf.assistant
      have think : Seg [] (if InternS1.thinking enableThinking then "<think>" else "") := by
        split
        · decide
        · exact Seg.empty
      rw [hy, ← String.append_assoc, String.append_assoc _ y]
      exact Turned.of_opens (hhdr.append closed) (hys.append think)
  simp only [InternS1.messages2prompt, Option.bind_eq_bind] at h
  split at h
  · obtain ⟨placed, hplaced, h⟩ := Option.bind_eq_some.mp h
    exact rest "" placed Closed.empty (InternS1.placeTools_unmarked hf hlib hms hplaced) h
  · exact rest _ ms (InternS1.header_closed hf.toInternShape ms sequenceStart enableThinking)
      (fun x hx => (hms x hx).unmarked) h

end Lmdeploy.Template
