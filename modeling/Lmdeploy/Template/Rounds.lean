import Lmdeploy.Template.Plain
import Lmdeploy.Template.Registry

/-! The two ways a conversation reaches the model. `turbomind/chat.py` calls `get_prompt`
once per round, on the new user text only, and the model's own answer with its end marker
follows in the session's history; the serving path renders the whole history at once with
`messages2prompt`. For the templates whose `messages2prompt` is `BaseChatTemplate`'s (under
a marker in front or not), or `InternLM2Chat7B`'s, the two agree for all field values.
`Qwen2d5Chat` closes every message with `eosys`, so it agrees only when `eoh` and
`eoa + separator` are `eosys`, as its defaults are. `ChatGLM2` agrees from a fresh object:
its `get_prompt` round counter is never reset, not even at `sequence_start`. -/
namespace Lmdeploy.Template

variable {J : Type}

/-- `[assistant a₁, user u₂, ..., assistant aₙ₋₁, user uₙ]`. -/
def roundMessages : List (String × String) → List (Message J)
  | [] => []
  | r :: rs => .plain .assistant r.1 :: .plain .user r.2 :: roundMessages rs

/-- `[user u, assistant a₁, user u₂, ..., assistant aₙ₋₁, user uₙ]`. -/
def conversation (u : String) (rounds : List (String × String)) : List (Message J) :=
  .plain .user u :: roundMessages rounds

namespace ChatTemplate

def laterRounds (t : ChatTemplate) (E : String) : List (String × String) → Option String
  | [] => some ""
  | (a, u) :: rs => do
    let p ← t.getPrompt u false
    let r ← laterRounds t E rs
    pure (a ++ E ++ p ++ r)

/-- The per-round prompts of `turbomind/chat.py` and the answers between them. -/
def perRound (t : ChatTemplate) (E u : String) (rounds : List (String × String)) :
    Option String := do
  let p ← t.getPrompt u true
  let r ← laterRounds t E rounds
  pure (p ++ r)

end ChatTemplate

namespace ChatGLM2

def laterRounds (c : ChatGLM2) : List (String × String) → String
  | [] => ""
  | (a, u) :: rs => a ++ (c.getPrompt u false).1 ++ laterRounds (c.getPrompt u false).2 rs

def perRound (c : ChatGLM2) (u : String) (rounds : List (String × String)) : String :=
  (c.getPrompt u true).1 ++ laterRounds (c.getPrompt u true).2 rounds

end ChatGLM2

def baseRounds (f : Fields) : List (String × String) → String
  | [] => ""
  | r :: rs => f.assistant ++ r.1 ++ (f.eoa ++ f.separator) ++ (f.user ++ r.2 ++ f.eoh) ++
    baseRounds f rs

def roundsTail (f : Fields) : List (String × String) → String
  | [] => ""
  | r :: rs => r.1 ++ f.eoa ++ (f.separator ++ f.user ++ r.2 ++ f.eoh ++ f.assistant) ++
    roundsTail f rs

theorem renderAll_base_rounds (f : Fields) (rounds : List (String × String)) :
    renderAll (BaseChatTemplate.renderMessage f) (roundMessages rounds : List (Message J)) =
      some (baseRounds f rounds) := by
  induction rounds with
  | nil => rfl
  | cons r rs ih =>
    simp only [roundMessages, renderAll_cons, ih]
    simp [BaseChatTemplate.renderMessage, BaseChatTemplate.boxMap, BaseChatTemplate.eoxMap,
      baseRounds, String.append_assoc]

theorem baseRounds_rotate (f : Fields) (rounds : List (String × String)) :
    baseRounds f rounds ++ f.assistant = f.assistant ++ roundsTail f rounds := by
  induction rounds with
  | nil => simp [baseRounds, roundsTail]
  | cons r rs ih => simp only [baseRounds, roundsTail, String.append_assoc, ih]

theorem laterRounds_base (t : ChatTemplate) (hbase : ∀ u, t.getPrompt u false =
      some (BaseChatTemplate.getPrompt t.fields u false))
    (hchat : t.fields.capability = "chat") (rounds : List (String × String)) :
    t.laterRounds t.fields.eoa rounds = some (roundsTail t.fields rounds) := by
  induction rounds with
  | nil => rfl
  | cons r rs ih =>
    simp [ChatTemplate.laterRounds, hbase, ih, BaseChatTemplate.getPrompt, hchat, roundsTail,
      String.append_assoc]

theorem conversation_cons (u : String) (r : String × String) (rs : List (String × String)) :
    (conversation u (r :: rs) : List (Message J)) =
      .plain .user u :: .plain .assistant r.1 :: conversation r.2 rs := rfl

theorem conversation_last (u : String) (rounds : List (String × String)) :
    ∃ v, (conversation u rounds : List (Message J)).getLast? = some (.plain .user v) := by
  induction rounds generalizing u with
  | nil => exact ⟨u, rfl⟩
  | cons r rs ih =>
    obtain ⟨v, hv⟩ := ih r.2
    exact ⟨v, by rw [conversation_cons, List.getLast?_cons_cons]; exact hv⟩

theorem conversation_not_answer (u : String) (rounds : List (String × String)) :
    BaseChatTemplate.endsWithAssistant (conversation u rounds : List (Message J)) = false := by
  obtain ⟨v, hv⟩ := conversation_last (J := J) u rounds
  simp [BaseChatTemplate.endsWithAssistant, hv]

theorem conversation_simple (u : String) (rounds : List (String × String)) :
    ∀ m ∈ (conversation u rounds : List (Message J)),
      m.Simple ∧ (m.role = .user ∨ m.role = .assistant) := by
  induction rounds generalizing u with
  | nil => simp [conversation, roundMessages]
  | cons r rs ih =>
    rw [conversation_cons]
    intro m hm
    rcases List.mem_cons.mp hm with rfl | hm
    · simp
    rcases List.mem_cons.mp hm with rfl | hm
    · simp
    exact ih r.2 m hm

/-- The law for `BaseChatTemplate` itself. -/
theorem base_rounds_agree (f : Fields) (hchat : f.capability = "chat") (u : String)
    (rounds : List (String × String)) :
    BaseChatTemplate.messages2prompt f (conversation u rounds : List (Message J)) true =
      some (BaseChatTemplate.getPrompt f u true ++ roundsTail f rounds) := by
  have body : renderAll (BaseChatTemplate.renderMessage f) (conversation u rounds : List (Message J)) =
      some (f.user ++ u ++ f.eoh ++ baseRounds f rounds) := by
    simp [conversation, renderAll_base_rounds, BaseChatTemplate.renderMessage,
      BaseChatTemplate.boxMap, BaseChatTemplate.eoxMap, String.append_assoc]
  have rotate := baseRounds_rotate f rounds
  simp only [String.append_assoc] at rotate
  have head : (conversation u rounds : List (Message J)).head? = some (.plain .user u) := rfl
  cases hmi : f.metaInstruction <;>
    simp [BaseChatTemplate.messages2prompt, body, conversation_not_answer, BaseChatTemplate.header,
      head, hmi, BaseChatTemplate.getPrompt, hchat, String.append_assoc, rotate]

/-- The templates whose two renderings agree: those that run `BaseChatTemplate`'s
`messages2prompt` (possibly under a marker in front) or `InternLM2Chat7B`'s, for all fields,
and the `Qwen2d5Chat` family when `eoh` and `eoa + separator` are `eosys`. -/
def RoundScope (t : ChatTemplate) : Prop :=
  t.fields.capability = "chat" ∧
  match t.kind with
  | .base | .deepseekV3 | .llama3 | .codeLlama | .chatGLM3 | .internLM2 => True
  | .qwen2d5 | .qwen3 =>
    t.fields.eoh = t.fields.eosys ∧ t.fields.eoa ++ t.fields.separator = t.fields.eosys
  | .deepseekR1 | .vicuna | .deepseekVL2 | .internS1 | .qwq | .llama3_1 => False

instance : DecidablePred RoundScope := fun ⟨k, f⟩ =>
  match k with
  | .base | .deepseekV3 | .llama3 | .codeLlama | .chatGLM3 | .internLM2 =>
    inferInstanceAs (Decidable (f.capability = "chat" ∧ True))
  | .qwen2d5 | .qwen3 =>
    inferInstanceAs (Decidable (f.capability = "chat" ∧
      (f.eoh = f.eosys ∧ f.eoa ++ f.separator = f.eosys)))
  | .deepseekR1 | .vicuna | .deepseekVL2 | .internS1 | .qwq | .llama3_1 =>
    inferInstanceAs (Decidable (f.capability = "chat" ∧ False))

theorem getPrompt_later {t : ChatTemplate} (hscope : RoundScope t) (p : String) :
    t.getPrompt p false = some (BaseChatTemplate.getPrompt t.fields p false) := by
  obtain ⟨kind, f⟩ := t
  obtain ⟨hchat, hkind⟩ := hscope
  cases kind <;> simp_all [RoundScope, ChatTemplate.getPrompt, DeepseekV3.getPrompt,
    Llama3.getPrompt, ChatGLM3.getPrompt, CodeLlama.getPrompt, prefixOnStart]

theorem ChatGLM2.renderMessages_rounds (c : ChatGLM2) (k : Nat) (rounds : List (String × String)) :
    ChatGLM2.renderMessages c k (roundMessages rounds : List (Message J)) =
      some (ChatGLM2.laterRounds { c with count := k } rounds) := by
  induction rounds generalizing k with
  | nil => rfl
  | cons r rs ih =>
    simp [roundMessages, ChatGLM2.renderMessages, ih, ChatGLM2.laterRounds, ChatGLM2.getPrompt,
      String.append_assoc]

/-- The per-round prompts and the whole-history prompt agree: for the templates of
`RoundScope`, with `eoa` after each answer, and for `ChatGLM2` from a fresh object, with
nothing after an answer. -/
theorem round_prompts_agree :
    (∀ (lib : Lib J) (t : ChatTemplate), RoundScope t → ∀ u rounds,
      (t.messages2prompt lib (conversation u rounds) true none none).map Prod.fst =
        t.perRound t.fields.eoa u rounds) ∧
    (∀ c : ChatGLM2, c.count = 0 → ∀ u rounds,
      ChatGLM2.messages2prompt c (conversation u rounds : List (Message J)) true =
        some (c.perRound u rounds)) := by
  constructor
  · rintro lib ⟨kind, f⟩ hscope u rounds
    have later := laterRounds_base _ (getPrompt_later hscope) hscope.1 rounds
    obtain ⟨hchat, hkind⟩ := hscope
    have law := base_rounds_agree (J := J) f hchat u rounds
    have simple := conversation_simple (J := J) u rounds
    have last := conversation_not_answer (J := J) u rounds
    simp only at later hchat
    cases kind <;> simp only [RoundScope] at hkind
    case internLM2 =>
      have hms : ∀ m ∈ (conversation u rounds : List (Message J)), m.Simple ∧ m.role.Chat :=
        fun m hm => ⟨(simple m hm).1, by rcases (simple m hm).2 with h | h <;> simp [h, Role.Chat]⟩
      simp [ChatTemplate.messages2prompt, InternLM2Chat7B.messages2prompt_simple lib f hms true
        (by simp [last]), law, ChatTemplate.perRound, later, ChatTemplate.getPrompt]
    case qwen2d5 | qwen3 =>
      have hq : Qwen2d5Chat.messages2prompt lib f (conversation u rounds) true none =
          (fun p => (p, conversation u rounds)) <$>
            BaseChatTemplate.messages2prompt f (conversation u rounds) true :=
        Qwen2d5Chat.messages2prompt_simple lib f simple true hkind.1 hkind.2 last
      simp [ChatTemplate.messages2prompt, Qwen3.messages2prompt, hq, law, ChatTemplate.perRound,
        later, ChatTemplate.getPrompt]
    all_goals simp [ChatTemplate.messages2prompt, DeepseekV3.messages2prompt,
      Llama3.messages2prompt, ChatGLM3.messages2prompt, law, ChatTemplate.perRound, later,
      ChatTemplate.getPrompt, DeepseekV3.getPrompt, Llama3.getPrompt, ChatGLM3.getPrompt,
      CodeLlama.getPrompt, hchat, prefixOnStart, String.append_assoc]
  · intro c hc u rounds
    have fresh : { c with count := 0 } = c := by cases c; simp_all
    simp [ChatGLM2.messages2prompt, ChatGLM2.perRound, conversation, ChatGLM2.renderMessages,
      ChatGLM2.getPrompt, ChatGLM2.renderMessages_rounds, hc, String.append_assoc]

theorem round_prompts_agree_qwen2d5 :
    RoundScope ⟨.qwen2d5, Qwen2d5Chat.defaults⟩ ∧
    (ChatTemplate.messages2prompt Lib.trivial ⟨.qwen2d5, Qwen2d5Chat.defaults⟩
        (conversation "hi" [("hello", "bye")]) true none none).map Prod.fst =
      ChatTemplate.perRound ⟨.qwen2d5, Qwen2d5Chat.defaults⟩ "<|im_end|>" "hi" [("hello", "bye")] :=
  ⟨by decide, round_prompts_agree.1 _ _ (by decide) _ _⟩

/-- The two paths differ on a single round for `Qwen2d5Chat` with an `eoh` other than
`eosys`, and for `ChatGLM2` after an earlier call to `get_prompt`: its round counter is not
reset even at `sequence_start`. -/
theorem round_prompts_differ :
    (ChatTemplate.messages2prompt Lib.trivial ⟨.qwen2d5, { Qwen2d5Chat.defaults with eoh := "\n" }⟩
        (conversation "hi" []) true none none).map Prod.fst ≠
      ChatTemplate.perRound ⟨.qwen2d5, { Qwen2d5Chat.defaults with eoh := "\n" }⟩
        "<|im_end|>" "hi" [] ∧
    ChatGLM2.messages2prompt (ChatGLM2.defaults.getPrompt "hi" true).2
        (conversation "hi" [] : List (Message Unit)) true ≠
      some ((ChatGLM2.defaults.getPrompt "hi" true).2.perRound "hi" []) := by
  decide

end Lmdeploy.Template
