import Lmdeploy.Template.Dispatch

/-! On messages that carry only a role and a content (no `name`, no `tool_calls`, no
`reasoning_content`), the renderers that override `messages2prompt` write each user,
assistant and system message as `BaseChatTemplate` does. These reductions are what the
laws about all templates are proved from. -/
namespace Lmdeploy.Template

variable {J : Type}

def Message.Simple (m : Message J) : Prop :=
  m.name = none ∧ m.toolCalls = none ∧ m.reasoningContent = none

def Role.Chat : Role → Prop
  | .user | .assistant | .system => True
  | _ => False

@[simp] theorem Message.plain_simple (r : Role) (s : String) :
    (Message.plain r s : Message J).Simple := ⟨rfl, rfl, rfl⟩

@[simp] theorem renderAll_nil (body : Message J → Option String) : renderAll body [] = some "" :=
  rfl

@[simp] theorem renderAll_cons (body : Message J → Option String) (m : Message J)
    (ms : List (Message J)) :
    renderAll body (m :: ms) = (do let s ← body m; let r ← renderAll body ms; pure (s ++ r)) :=
  rfl

theorem renderAll_append (body : Message J → Option String) (xs ys : List (Message J)) :
    renderAll body (xs ++ ys) =
      (do let a ← renderAll body xs; let b ← renderAll body ys; pure (a ++ b)) := by
  induction xs with
  | nil => cases h : renderAll body ys <;> simp [h]
  | cons x xs ih =>
    simp only [List.cons_append, renderAll_cons, ih]
    cases body x <;> cases renderAll body xs <;> cases renderAll body ys <;>
      simp [String.append_assoc]

theorem renderEach_of_unchanged {body : Nat → Message J → Option (String × Message J)}
    {g : Message J → Option String} {ms : List (Message J)}
    (h : ∀ i, ∀ m ∈ ms, body i m = (fun s => (s, m)) <$> g m) (i : Nat) :
    renderEach body i ms = (fun s => (s, ms)) <$> renderAll g ms := by
  induction ms generalizing i with
  | nil => rfl
  | cons m ms ih =>
    simp only [renderEach, renderAll_cons, h i m (List.mem_cons_self m ms),
      ih (fun j x hx => h j x (List.mem_cons_of_mem m hx)) (i + 1)]
    cases g m <;> cases renderAll g ms <;> rfl

theorem InternLM2Chat7B.renderMessage_simple (lib : Lib J) (f : Fields) {m : Message J}
    (hs : m.Simple) (hr : m.role.Chat) :
    InternLM2Chat7B.renderMessage lib f m =
      (fun s => (s, m)) <$> BaseChatTemplate.renderMessage f m := by
  obtain ⟨hn, ht, -⟩ := hs
  obtain ⟨role, content⟩ := m
  simp only at hn ht
  subst hn ht
  cases role <;> simp_all [Role.Chat, InternLM2Chat7B.renderMessage, BaseChatTemplate.renderMessage,
    InternLM2Chat7B.assistantCalls, InternLM2Chat7B.nameMap, InternLM2Chat7B.boxMap,
    InternLM2Chat7B.eoxMap, BaseChatTemplate.boxMap, BaseChatTemplate.eoxMap]

theorem InternLM2Chat7B.messages2prompt_simple (lib : Lib J) (f : Fields)
    {ms : List (Message J)} (hms : ∀ m ∈ ms, m.Simple ∧ m.role.Chat) (s : Bool)
    (heox : BaseChatTemplate.endsWithAssistant ms = true → 0 < (f.eoa ++ f.separator).length) :
    InternLM2Chat7B.messages2prompt lib f ms s none =
      (fun p => (p, ms)) <$> BaseChatTemplate.messages2prompt f ms s := by
  have loop : renderEach (fun _ => InternLM2Chat7B.renderMessage lib f) 0 ms =
      (fun s => (s, ms)) <$> renderAll (BaseChatTemplate.renderMessage f) ms :=
    renderEach_of_unchanged
      (fun _ m hm => InternLM2Chat7B.renderMessage_simple lib f (hms m hm).1 (hms m hm).2) 0
  simp only [InternLM2Chat7B.messages2prompt, InternLM2Chat7B.insertTools,
    BaseChatTemplate.messages2prompt, Option.bind_eq_bind, Option.some_bind]
  rw [loop]
  cases renderAll (BaseChatTemplate.renderMessage f) ms with
  | none => rfl
  | some body =>
    by_cases he : BaseChatTemplate.endsWithAssistant ms = true
    · have hl := heox he
      simp only [String.length_append] at hl
      simp [he, hl]
    · simp [he]

theorem Qwen2d5Chat.renderMessage_simple (lib : Lib J) (f : Fields) (first prev next : Bool)
    {m : Message J} (hs : m.Simple) (hr : m.role = .user ∨ m.role = .assistant)
    (heoh : f.eoh = f.eosys) (heoa : f.eoa ++ f.separator = f.eosys) :
    Qwen2d5Chat.renderMessage lib f first prev next m =
      (fun s => (s, m)) <$> BaseChatTemplate.renderMessage f m := by
  obtain ⟨-, ht, -⟩ := hs
  rcases hr with hr | hr <;>
    simp [Qwen2d5Chat.renderMessage, BaseChatTemplate.renderMessage, hr, ht,
      Qwen2d5Chat.boxMap, BaseChatTemplate.boxMap, BaseChatTemplate.eoxMap, heoh, heoa]

theorem Qwen2d5Chat.renderMessages_simple (lib : Lib J) (f : Fields) {ms : List (Message J)}
    (hms : ∀ m ∈ ms, m.Simple ∧ (m.role = .user ∨ m.role = .assistant))
    (heoh : f.eoh = f.eosys) (heoa : f.eoa ++ f.separator = f.eosys) (first prev : Bool) :
    Qwen2d5Chat.renderMessages lib f first prev ms =
      (fun s => (s, ms)) <$> renderAll (BaseChatTemplate.renderMessage f) ms := by
  induction ms generalizing first prev with
  | nil => rfl
  | cons m ms ih =>
    have hm := hms m (List.mem_cons_self m ms)
    simp only [Qwen2d5Chat.renderMessages, renderAll_cons,
      Qwen2d5Chat.renderMessage_simple lib f _ _ _ hm.1 hm.2 heoh heoa,
      ih (fun x hx => hms x (List.mem_cons_of_mem m hx))]
    cases BaseChatTemplate.renderMessage f m <;> cases renderAll (BaseChatTemplate.renderMessage f) ms <;>
      rfl

theorem Qwen2d5Chat.messages2prompt_simple (lib : Lib J) (f : Fields) {m : Message J}
    {ms : List (Message J)} (hms : ∀ x ∈ m :: ms, x.Simple ∧ (x.role = .user ∨ x.role = .assistant))
    (s : Bool) (heoh : f.eoh = f.eosys) (heoa : f.eoa ++ f.separator = f.eosys)
    (hlast : BaseChatTemplate.endsWithAssistant (m :: ms) = false) :
    Qwen2d5Chat.messages2prompt lib f (m :: ms) s none =
      (fun p => (p, m :: ms)) <$> BaseChatTemplate.messages2prompt f (m :: ms) s := by
  have hsys : m.role ≠ .system := by
    rcases (hms m (List.mem_cons_self m ms)).2 with h | h <;> simp [h]
  simp only [Qwen2d5Chat.messages2prompt, Qwen2d5Chat.renderMessages_simple lib f hms heoh heoa,
    BaseChatTemplate.messages2prompt, hlast]
  cases renderAll (BaseChatTemplate.renderMessage f) (m :: ms) with
  | none => rfl
  | some body =>
    cases hmi : f.metaInstruction <;> cases s <;>
      simp [Qwen2d5Chat.header, BaseChatTemplate.header, hmi, hsys, String.append_assoc]

end Lmdeploy.Template
