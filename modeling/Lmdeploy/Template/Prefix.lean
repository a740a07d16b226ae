import Lmdeploy.Template.Plain
import Lmdeploy.Template.Registry

/-! The prefix-of-response branch. A conversation that ends with an assistant message is
rendered up to that answer, for the model to continue it: the end marker written after the
answer is cut off again (`ret[:-len(eoa + separator)]`) and no assistant header follows.
Growing the answer then grows the prompt by the same text, as long as what is cut is
exactly what was written after the answer. `BaseChatTemplate` cuts only a non-empty marker
and otherwise opens a fresh assistant turn after the answer; `InternLM2Chat7B`, `InternS1`
and `Llama3_1` cut without that guard, and `Llama3_1` closes an answer that calls a tool with
`<|eom_id|>` while still cutting `len(eoa + separator)` characters. The `Vicuna` wrappers cut
one character more; `DeepseekR1` writes a thinking tag after the answer at the start of a
session. -/
namespace Lmdeploy.Template

variable {J : Type}

theorem renderEach_append (body : Nat → Message J → Option (String × Message J)) (i : Nat)
    (xs ys : List (Message J)) :
    renderEach body i (xs ++ ys) = (renderEach body i xs).bind fun r =>
      (renderEach body (i + xs.length) ys).map fun q => (r.1 ++ q.1, r.2 ++ q.2) := by
  induction xs generalizing i with
  | nil => cases renderEach body i ys <;> simp [renderEach]
  | cons x xs ih =>
    simp only [List.cons_append, renderEach, List.append_eq, ih, List.length_cons]
    rw [show i + (xs.length + 1) = i + 1 + xs.length by omega]
    cases body i x <;> cases renderEach body (i + 1) xs <;>
      cases renderEach body (i + 1 + xs.length) ys <;> simp [String.append_assoc]

theorem endsWithAssistant_answer (m : List (Message J)) (c : String) :
    BaseChatTemplate.endsWithAssistant (m ++ [.plain .assistant c]) = true := by
  simp [BaseChatTemplate.endsWithAssistant]

theorem sliceNeg_cut {x p t : String} {k : Nat} (hx : x = p ++ t) (hk : t.length = k)
    (hcut : 0 < t.length) : Py.sliceNeg x k = p := by
  subst hx hk
  exact Py.sliceNeg_append p t (by rintro rfl; simp at hcut)

@[simp] theorem prefixOnStart_append (bos : String) (s : Bool) (x y : String) :
    prefixOnStart bos s (x ++ y) = prefixOnStart bos s x ++ y := by
  cases s <;> simp [prefixOnStart, String.append_assoc]

theorem BaseChatTemplate.header_answer (f : Fields) (m : List (Message J)) (s : Bool)
    (c c' : String) :
    BaseChatTemplate.header f (m ++ [.plain .assistant c]) s =
      BaseChatTemplate.header f (m ++ [.plain .assistant c']) s := by
  cases m with
  | nil => unfold BaseChatTemplate.header; cases f.metaInstruction <;> cases s <;> rfl
  | cons x xs => rfl

theorem BaseChatTemplate.messages2prompt_answer (f : Fields) (m : List (Message J)) (s : Bool)
    (c : String) (hcut : 0 < (f.eoa ++ f.separator).length) :
    BaseChatTemplate.messages2prompt f (m ++ [.plain .assistant c]) s =
      (fun body => BaseChatTemplate.header f (m ++ [.plain .assistant c]) s ++ body ++
        f.assistant ++ c) <$> renderAll (BaseChatTemplate.renderMessage f) m := by
  simp only [BaseChatTemplate.messages2prompt, renderAll_append, endsWithAssistant_answer,
    true_and, hcut, if_true]
  cases renderAll (BaseChatTemplate.renderMessage f) m with
  | none => rfl
  | some body =>
    simp [BaseChatTemplate.renderMessage, BaseChatTemplate.boxMap, BaseChatTemplate.eoxMap]
    exact sliceNeg_cut (t := f.eoa ++ f.separator) (by simp only [String.append_assoc])
      (String.length_append _ _) hcut

theorem BaseChatTemplate.answer_grows (f : Fields) (m : List (Message J)) (s : Bool)
    (c : String) (hcut : 0 < (f.eoa ++ f.separator).length) :
    BaseChatTemplate.messages2prompt f (m ++ [.plain .assistant c]) s =
      (· ++ c) <$> BaseChatTemplate.messages2prompt f (m ++ [.plain .assistant ""]) s := by
  rw [BaseChatTemplate.messages2prompt_answer f m s c hcut,
    BaseChatTemplate.messages2prompt_answer f m s "" hcut,
    BaseChatTemplate.header_answer f m s c ""]
  cases renderAll (BaseChatTemplate.renderMessage f) m <;> simp

theorem InternLM2Chat7B.renderMessage_answer (lib : Lib J) (f : Fields) (c : String) :
    InternLM2Chat7B.renderMessage lib f (.plain .assistant c) =
      some (f.assistant ++ c ++ (f.eoa ++ f.separator), .plain .assistant c) := by
  simp [InternLM2Chat7B.renderMessage, InternLM2Chat7B.assistantCalls, InternLM2Chat7B.nameMap,
    InternLM2Chat7B.boxMap, InternLM2Chat7B.eoxMap]

theorem InternLM2Chat7B.messages2prompt_answer (lib : Lib J) (f : Fields) (m : List (Message J))
    (s : Bool) (c : String) (hcut : 0 < (f.eoa ++ f.separator).length) :
    InternLM2Chat7B.messages2prompt lib f (m ++ [.plain .assistant c]) s none =
      (fun r => (BaseChatTemplate.header f (m ++ [.plain .assistant c]) s ++ r.1 ++
        f.assistant ++ c, r.2 ++ [.plain .assistant c])) <$>
        renderEach (fun _ => InternLM2Chat7B.renderMessage lib f) 0 m := by
  simp only [InternLM2Chat7B.messages2prompt, InternLM2Chat7B.insertTools, Option.bind_eq_bind,
    Option.some_bind, renderEach_append]
  cases renderEach (fun _ => InternLM2Chat7B.renderMessage lib f) 0 m with
  | none => rfl
  | some r =>
    simp [renderEach, InternLM2Chat7B.renderMessage_answer, endsWithAssistant_answer]
    exact sliceNeg_cut (t := f.eoa ++ f.separator) (by simp only [String.append_assoc])
      (String.length_append _ _) hcut

theorem InternS1.renderMessage_answer (lib : Lib J) (f : Fields) (u : Option Nat) (i : Nat)
    (c : String) :
    InternS1.renderMessage lib f u i (.plain .assistant c) =
      some (f.assistant ++ c ++ (f.eoa ++ f.separator), .plain .assistant c) := by
  cases u <;> simp [InternS1.renderMessage, InternLM2Chat7B.assistantCalls,
    InternLM2Chat7B.boxMap, InternLM2Chat7B.eoxMap]

theorem InternS1.lastUserIdx_answer (m : List (Message J)) (c c' : String) :
    InternS1.lastUserIdx (m ++ [.plain .assistant c]) =
      InternS1.lastUserIdx (m ++ [.plain .assistant c']) := by
  simp [InternS1.lastUserIdx, List.enum_append, List.filter_append]

theorem InternS1.header_answer (f : Fields) (m : List (Message J)) (s : Bool)
    (e : Option Bool) (c c' : String) :
    InternS1.header f (m ++ [.plain .assistant c]) s e =
      InternS1.header f (m ++ [.plain .assistant c']) s e := by
  cases m with
  | nil => unfold InternS1.header; cases f.metaInstruction <;> cases s <;> rfl
  | cons x xs => rfl

theorem InternS1.messages2prompt_answer (lib : Lib J) (f : Fields) (m : List (Message J))
    (s : Bool) (e : Option Bool) (c : String) (hcut : 0 < (f.eoa ++ f.separator).length) :
    InternS1.messages2prompt lib f (m ++ [.plain .assistant c]) s none e =
      (fun r => (InternS1.header f (m ++ [.plain .assistant c]) s e ++ r.1 ++ f.assistant ++ c,
        r.2 ++ [.plain .assistant c])) <$>
        renderEach (InternS1.renderMessage lib f
          (InternS1.lastUserIdx (m ++ [.plain .assistant c]))) 0 m := by
  simp only [InternS1.messages2prompt, Option.bind_eq_bind, Option.some_bind, renderEach_append]
  generalize InternS1.lastUserIdx (m ++ [.plain .assistant c]) = u
  cases renderEach (InternS1.renderMessage lib f u) 0 m with
  | none => rfl
  | some r =>
    simp [renderEach, InternS1.renderMessage_answer, endsWithAssistant_answer]
    exact sliceNeg_cut (t := f.eoa ++ f.separator) (by simp only [String.append_assoc])
      (String.length_append _ _) hcut

theorem Llama3_1.callsTool_empty : Llama3_1.callsTool "" = false := by decide

theorem Llama3_1.header_answer (f : Fields) (m : List (Message J)) (s : Bool)
    (tools : Option (List J)) (p c c' : String) :
    Llama3_1.header f (m ++ [.plain .assistant c]) s tools p =
      Llama3_1.header f (m ++ [.plain .assistant c']) s tools p := by
  cases m with
  | nil => unfold Llama3_1.header; cases f.metaInstruction <;> cases s <;> rfl
  | cons x xs => rfl

theorem Llama3_1.messages2prompt_answer (lib : Lib J) (f : Fields) (m : List (Message J))
    (s : Bool) (c : String) (hcut : 0 < (f.eoa ++ f.separator).length)
    (heom : Llama3_1.callsTool c = true → (f.eoa ++ f.separator).length = "<|eom_id|>".length) :
    Llama3_1.messages2prompt lib f (m ++ [.plain .assistant c]) s none =
      (fun body => prefixOnStart Llama3.bos s
        (Llama3_1.header f (m ++ [.plain .assistant c]) s none "" ++ body) ++ f.assistant ++ c) <$>
        renderAll (Llama3_1.renderMessage f none "") m := by
  have close : ∃ t, Llama3_1.renderMessage f none "" (.plain .assistant c : Message J) =
      some (f.assistant ++ (c ++ t)) ∧ t.length = (f.eoa ++ f.separator).length := by
    by_cases hc : Llama3_1.callsTool c = true
    · exact ⟨"<|eom_id|>", by simp [Llama3_1.renderMessage, Llama3_1.boxMap, hc, String.append_assoc],
        (heom hc).symm⟩
    · exact ⟨f.eoa ++ f.separator, by
        simp [Llama3_1.renderMessage, Llama3_1.boxMap, Llama3_1.eoxMap, hc, String.append_assoc],
        rfl⟩
  obtain ⟨t, hmsg, ht⟩ := close
  simp only [Llama3_1.messages2prompt, renderAll_append, endsWithAssistant_answer, if_true,
    Option.bind_eq_bind, Option.some_bind, renderAll_cons, renderAll_nil, hmsg]
  cases renderAll (Llama3_1.renderMessage f none "") m with
  | none => rfl
  | some body =>
    simp only [endsWithAssistant_answer, if_true, Option.map_some', prefixOnStart_append]
    exact congrArg some (sliceNeg_cut (t := t) (by simp only [String.append_assoc, String.append_empty])
      ht (ht ▸ hcut))

/-- The templates whose prefix-of-response branch keeps the answer last: the end marker
`eoa + separator` is not empty; `DeepseekR1` outside the start of a session; `Llama3_1` when
an answer that calls a tool is closed by a text of the same length as that marker. -/
def PrefixScope (t : ChatTemplate) (sequenceStart : Bool) (c : String) : Prop :=
  0 < (t.fields.eoa ++ t.fields.separator).length ∧
  match t.kind with
  | .base | .codeLlama | .deepseekV3 | .llama3 | .chatGLM3 | .internLM2 | .internS1 => True
  | .deepseekR1 => sequenceStart = false
  | .llama3_1 =>
    Llama3_1.callsTool c = true → (t.fields.eoa ++ t.fields.separator).length = "<|eom_id|>".length
  | .vicuna | .deepseekVL2 | .qwen2d5 | .qwq | .qwen3 => False

instance (t : ChatTemplate) (sequenceStart : Bool) (c : String) :
    Decidable (PrefixScope t sequenceStart c) :=
  match t with
  | ⟨k, f⟩ =>
    have : Decidable (0 < (f.eoa ++ f.separator).length) := inferInstance
    match k with
    | .base | .codeLlama | .deepseekV3 | .llama3 | .chatGLM3 | .internLM2 | .internS1 =>
      inferInstanceAs (Decidable (_ ∧ True))
    | .deepseekR1 => inferInstanceAs (Decidable (_ ∧ sequenceStart = false))
    | .llama3_1 => inferInstanceAs (Decidable (_ ∧
        (Llama3_1.callsTool c = true → (f.eoa ++ f.separator).length = "<|eom_id|>".length)))
    | .vicuna | .deepseekVL2 | .qwen2d5 | .qwq | .qwen3 => inferInstanceAs (Decidable (_ ∧ False))

theorem answer_stays_last (lib : Lib J) (t : ChatTemplate) (m : List (Message J))
    (sequenceStart : Bool) (c : String) (enableThinking : Option Bool)
    (hscope : PrefixScope t sequenceStart c) :
    (t.messages2prompt lib (m ++ [.plain .assistant c]) sequenceStart none enableThinking).map
        Prod.fst =
      (fun r => r.1 ++ c) <$>
        t.messages2prompt lib (m ++ [.plain .assistant ""]) sequenceStart none enableThinking := by
  obtain ⟨kind, f⟩ := t
  obtain ⟨hcut, hkind⟩ := hscope
  have base := BaseChatTemplate.answer_grows f m sequenceStart c hcut
  cases kind <;> simp only [PrefixScope] at hkind
  case internLM2 =>
    simp only [ChatTemplate.messages2prompt, InternLM2Chat7B.messages2prompt_answer lib f m _ _ hcut,
      BaseChatTemplate.header_answer f m sequenceStart c ""]
    cases renderEach (fun _ => InternLM2Chat7B.renderMessage lib f) 0 m <;> simp
  case internS1 =>
    simp only [ChatTemplate.messages2prompt, InternS1.messages2prompt_answer lib f m _ _ _ hcut,
      InternS1.header_answer f m sequenceStart enableThinking c "",
      InternS1.lastUserIdx_answer m c ""]
    cases renderEach (InternS1.renderMessage lib f (InternS1.lastUserIdx (m ++ [.plain .assistant ""])))
      0 m <;> simp
  case llama3_1 =>
    simp only [ChatTemplate.messages2prompt,
      Llama3_1.messages2prompt_answer lib f m _ c hcut hkind,
      Llama3_1.messages2prompt_answer lib f m _ "" hcut (by simp [Llama3_1.callsTool_empty]),
      Llama3_1.header_answer f m sequenceStart none "" c ""]
    cases renderAll (Llama3_1.renderMessage f none "") m <;> simp
  all_goals
    simp only [ChatTemplate.messages2prompt, DeepseekV3.messages2prompt, DeepseekR1.messages2prompt,
      Llama3.messages2prompt, ChatGLM3.messages2prompt, base]
    cases BaseChatTemplate.messages2prompt f (m ++ [.plain .assistant ""]) sequenceStart <;>
      simp_all [String.append_assoc]

theorem answer_stays_last_internLM2 :
    PrefixScope ⟨.internLM2, InternLM2Chat7B.defaults⟩ true "Sure" ∧
    (ChatTemplate.messages2prompt Lib.trivial ⟨.internLM2, InternLM2Chat7B.defaults⟩
        ([.plain .user "hi"] ++ [.plain .assistant "Sure"]) true none none).map Prod.fst =
      (fun r => r.1 ++ "Sure") <$> ChatTemplate.messages2prompt Lib.trivial
        ⟨.internLM2, InternLM2Chat7B.defaults⟩ ([.plain .user "hi"] ++ [.plain .assistant ""])
        true none none :=
  ⟨by decide, answer_stays_last _ _ _ _ _ _ (by decide)⟩

set_option maxRecDepth 4000 in
/-- Outside the scope, on `[user "hi"]` and the answer `"x"` at the start of a session:
`ChatGLM3` with its empty end marker opens a fresh assistant turn after the answer, `Vicuna`
cuts the answer's last character, and `DeepseekR1` writes its thinking tag after it. -/
theorem answer_not_last :
    let differs := fun (t : ChatTemplate) =>
      (t.messages2prompt Lib.trivial ([.plain .user "hi"] ++ [.plain .assistant "x"]) true none
          none).map Prod.fst ≠
        (fun r => r.1 ++ "x") <$>
          t.messages2prompt Lib.trivial ([.plain .user "hi"] ++ [.plain .assistant ""]) true none none
    differs ⟨.chatGLM3, ChatGLM3.defaults⟩ ∧ differs ⟨.vicuna, Vicuna.defaults⟩ ∧
      differs ⟨.deepseekR1, DeepseekR1.defaults⟩ := by
  refine ⟨?_, ?_, ?_⟩ <;> decide

set_option maxRecDepth 4000 in
/-- Two slips of the prefix-of-response cut. `InternLM2Chat7B` (like `InternS1`) cuts
`ret[:-len(eoa + separator)]` with no guard, and with both empty `ret[:-0]` is the empty
prompt. `Llama3_1` closes an answer that calls a tool with `<|eom_id|>` and still cuts
`len(eoa + separator)`, so with a shorter `eoa` a piece of that marker stays after the
answer. -/
theorem answer_cut_slips :
    (ChatTemplate.messages2prompt Lib.trivial
        ⟨.internLM2, { InternLM2Chat7B.defaults with eoa := "", separator := "" }⟩
        [.plain .user "hi", .plain .assistant "x"] true none none).map Prod.fst = some "" ∧
    (ChatTemplate.messages2prompt Lib.trivial ⟨.llama3_1, { Llama3_1.defaults with eoa := "</s>" }⟩
        [.plain .user "hi", .plain .assistant "<|python_tag|>f()"] true none none).map
        (fun r => (Py.contains r.1 "f()<|eom_", Py.contains r.1 "<|eom_id|>")) = some (true, false) := by
  constructor <;> decide

end Lmdeploy.Template
