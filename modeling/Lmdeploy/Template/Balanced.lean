import Lmdeploy.Template.InternTurns

/-! The chatml-style templates of the registry write well-bracketed turns. With their default
fields, every prompt that `messages2prompt` returns for messages whose text holds no turn
marker, and for tools whose JSON holds none, is whole turns and then one open assistant turn.
The defaults' template text is checked against `QwenShape`, `InternShape` and
`InternS1Shape`, the long tool descriptions through `Seg.of_free`. -/
namespace Lmdeploy.Template

open Chatml

variable {J : Type}

def ChatmlShape (t : ChatTemplate) : Prop :=
  match t.kind with
  | .qwen2d5 | .qwq | .qwen3 => QwenShape t.fields
  | .internLM2 => InternShape t.fields
  | .internS1 => InternS1Shape t.fields
  | _ => False

theorem ChatTemplate.messages2prompt_turned {lib : Lib J} (hlib : LibFree lib)
    {t : ChatTemplate} (ht : ChatmlShape t) {ms ms' : List (Message J)}
    (hms : ∀ x ∈ ms, x.Clean lib) {sequenceStart : Bool} {tools : Option (List J)}
    {enableThinking : Option Bool} {p : String}
    (h : t.messages2prompt lib ms sequenceStart tools enableThinking = some (p, ms')) :
    Turned p := by
  obtain ⟨kind, f⟩ := t
  cases kind
  case qwen2d5 => exact Qwen2d5Chat.messages2prompt_turned ht hlib hms h
  case qwq => exact QwQ.messages2prompt_turned ht hlib hms h
  case qwen3 => exact Qwen3.messages2prompt_turned ht hlib hms h
  case internLM2 => exact InternLM2Chat7B.messages2prompt_turned ht hlib hms h
  case internS1 => exact InternS1.messages2prompt_turned ht hlib hms h
  all_goals exact ht.elim

/-! ### The defaults -/

theorem QwenShape.withMeta {f : Fields} (hf : QwenShape f) {mi : String} (hmi : Free mi) :
    QwenShape { f with metaInstruction := some mi } :=
  { hf with meta := fun _ h => by cases h; exact hmi }

set_option maxRecDepth 4000 in
theorem Qwen2d5Chat.defaults_shape : QwenShape Qwen2d5Chat.defaults where
  system := by decide
  user := by decide
  assistant := ⟨"\n", rfl, by decide⟩
  eosys := by decide
  eoh := by decide
  separator := by decide
  tools := Tag.of_free (by decide) (by decide) (by decide)
  eotools := Seg.of_free (by decide) (by decide)
  meta := fun _ h => by cases h; decide

theorem InternShape.withMeta {f : Fields} (hf : InternShape f) {mi : String} (hmi : Free mi) :
    InternShape { f with metaInstruction := some mi } :=
  { hf with meta := fun _ h => by cases h; exact hmi }

set_option maxRecDepth 4000 in
theorem InternLM2Chat7B.defaults_shape : InternShape InternLM2Chat7B.defaults where
  system := by decide
  user := by decide
  environment := by decide
  assistant := ⟨"\n", rfl, by decide⟩
  assistantStrip := ⟨"", by decide, by decide⟩
  eosys := by decide
  eoh := by decide
  eoenv := by decide
  eoa := by decide
  plugin := by decide
  interpreter := by decide
  meta := fun _ h => by cases h; decide

theorem Qwen2d5VL.defaults_shape : QwenShape Qwen2d5VL.defaults :=
  Qwen2d5Chat.defaults_shape.withMeta (by decide)

set_option maxRecDepth 4000 in
theorem QwQPreview.defaults_shape : QwenShape QwQPreview.defaults :=
  Qwen2d5Chat.defaults_shape.withMeta (by decide)

theorem QwQ.defaults_shape : QwenShape QwQ.defaults :=
  Qwen2d5Chat.defaults_shape.withMeta (by decide)

theorem Qwen3.defaults_shape : QwenShape Qwen3.defaults :=
  Qwen2d5Chat.defaults_shape.withMeta (by decide)

theorem InternVLInternLM2Chat.defaults_shape : InternShape InternVLInternLM2Chat.defaults :=
  InternLM2Chat7B.defaults_shape.withMeta (by decide)

set_option maxRecDepth 4000 in
theorem InternVL2_5.defaults_shape : InternShape InternVL2_5.defaults :=
  InternLM2Chat7B.defaults_shape.withMeta (by decide)

set_option maxRecDepth 4000 in
theorem InternVL2InternLM2.defaults_shape : InternShape InternVL2InternLM2.defaults :=
  { InternLM2Chat7B.defaults_shape with
    eosys := by decide
    eoh := by decide
    eoa := by decide
    meta := fun _ h => by cases h; decide }

set_option maxRecDepth 4000 in
theorem InternS1.defaults_shape : InternS1Shape InternS1.defaults :=
  { toInternShape := { InternLM2Chat7B.defaults_shape with meta := fun _ h => by cases h; decide }
    tool := Tag.of_free (by decide) (by decide) (by decide)
    toolStripped := Tag.of_free (by decide) (by decide) (by decide)
    eotool := .inl rfl }

/-- The registered templates of the two chatml-style families, with their default fields. -/
def chatmlTemplates : List ChatTemplate :=
  [⟨.qwen2d5, Qwen2d5Chat.defaults⟩, ⟨.qwen2d5, Qwen2d5VL.defaults⟩,
    ⟨.qwen2d5, QwQPreview.defaults⟩, ⟨.qwq, QwQ.defaults⟩, ⟨.qwen3, Qwen3.defaults⟩,
    ⟨.internLM2, InternLM2Chat7B.defaults⟩, ⟨.internLM2, InternVLInternLM2Chat.defaults⟩,
    ⟨.internLM2, InternVL2InternLM2.defaults⟩, ⟨.internLM2, InternVL2_5.defaults⟩,
    ⟨.internS1, InternS1.defaults⟩]

theorem chatmlTemplates_shape : ∀ t ∈ chatmlTemplates, ChatmlShape t := by
  intro t ht
  simp only [chatmlTemplates, List.mem_cons, List.mem_nil_iff, or_false] at ht
  rcases ht with rfl | rfl | rfl | rfl | rfl | rfl | rfl | rfl | rfl | rfl
  exacts [Qwen2d5Chat.defaults_shape, Qwen2d5VL.defaults_shape, QwQPreview.defaults_shape,
    QwQ.defaults_shape, Qwen3.defaults_shape, InternLM2Chat7B.defaults_shape,
    InternVLInternLM2Chat.defaults_shape, InternVL2InternLM2.defaults_shape,
    InternVL2_5.defaults_shape, InternS1.defaults_shape]

/-! ### The renderers return a prompt -/

theorem Qwen2d5Chat.renderMessage_some (lib : Lib J) (f : Fields) {x : Message J}
    (hx : x.Ordinary) (first prev next : Bool) :
    ∃ r, Qwen2d5Chat.renderMessage lib f first prev next x = some (r, x) := by
  obtain ⟨t, ht⟩ := hx.text
  obtain ⟨⟨-, htc, -⟩, hr, -⟩ := hx
  rcases hr with h | h | h | h <;> cases first <;>
    simp [Qwen2d5Chat.renderMessage, Qwen2d5Chat.boxMap, h, ht, htc]

theorem Qwen2d5Chat.renderMessages_some (lib : Lib J) (f : Fields) {ms : List (Message J)}
    (hms : ∀ x ∈ ms, x.Ordinary) (first prev : Bool) :
    ∃ body, Qwen2d5Chat.renderMessages lib f first prev ms = some (body, ms) := by
  induction ms generalizing first prev with
  | nil => exact ⟨"", rfl⟩
  | cons x ms ih =>
    obtain ⟨r, hr⟩ := Qwen2d5Chat.renderMessage_some lib f (hms x (List.mem_cons_self x ms))
      first prev (ms.head?.map (·.role) = some .tool)
    obtain ⟨body, hbody⟩ := ih (fun y hy => hms y (List.mem_cons_of_mem x hy)) false
      (x.role = .tool)
    exact ⟨r ++ body, by rw [Qwen2d5Chat.renderMessages, hr]; simp [hbody]⟩

theorem ChatTemplate.messages2prompt_some (lib : Lib J) {t : ChatTemplate} (ht : ChatmlShape t)
    (hcut : 0 < (t.fields.eoa ++ t.fields.separator).length) {ms : List (Message J)}
    (hms : ∀ x ∈ ms, x.Ordinary) (sequenceStart : Bool) (enableThinking : Option Bool) :
    ∃ p ms', t.messages2prompt lib ms sequenceStart none enableThinking = some (p, ms') := by
  obtain ⟨kind, f⟩ := t
  obtain ⟨body, hbody⟩ := Qwen2d5Chat.renderMessages_some lib f hms true false
  cases kind
  case qwen2d5 | qwq | qwen3 =>
    exact ⟨_, _, by simp [ChatTemplate.messages2prompt, QwQ.messages2prompt, Qwen3.messages2prompt,
      Qwen2d5Chat.messages2prompt, hbody]; exact ⟨rfl, rfl⟩⟩
  case internLM2 =>
    obtain ⟨p, ms', hp, -⟩ := InternLM2Chat7B.messages2prompt_embeds lib f hms sequenceStart hcut
    exact ⟨p, ms', hp⟩
  case internS1 =>
    obtain ⟨p, ms', hp, -⟩ :=
      InternS1.messages2prompt_embeds lib f hms sequenceStart enableThinking hcut
    exact ⟨p, ms', hp⟩
  all_goals exact ht.elim

/-- On clean messages with only a role and a content, and without tools, each of these
templates returns a prompt, and that prompt is whole turns and then one open assistant
turn. -/
theorem chatmlTemplates_prompt_turned (lib : Lib J) (hlib : LibFree lib) {t : ChatTemplate}
    (ht : t ∈ chatmlTemplates) {ms : List (Message J)} (hms : ∀ x ∈ ms, x.Ordinary ∧ x.Clean lib)
    (sequenceStart : Bool) (enableThinking : Option Bool) :
    ∃ p ms', t.messages2prompt lib ms sequenceStart none enableThinking = some (p, ms') ∧
      openTurn (marks p) = true ∧ OpensAssistant p := by
  have cut : ∀ t ∈ chatmlTemplates, 0 < (t.fields.eoa ++ t.fields.separator).length := by decide
  obtain ⟨p, ms', hp⟩ := ChatTemplate.messages2prompt_some lib (chatmlTemplates_shape t ht)
    (cut t ht) (fun x hx => (hms x hx).1) sequenceStart enableThinking
  exact ⟨p, ms', hp, (ChatTemplate.messages2prompt_turned hlib (chatmlTemplates_shape t ht)
    (fun x hx => (hms x hx).2) hp).balanced⟩

end Lmdeploy.Template
