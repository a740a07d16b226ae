import Lmdeploy.Template.Prefix

/-! No user text is lost: every message's `get_text(content)` is written into the prompt
between its role's box and end marker, in message order, and the prefix-of-response cut
takes off no more than what was written after the last text. `Llama3_1` closes an answer
that calls a tool with `<|eom_id|>` and still cuts `len(eoa + separator)` characters, so it
keeps the answer while that length is at most `<|eom_id|>`'s; `InternLM2Chat7B` and
`InternS1` cut even an empty marker, and `ret[:-0]` is the empty string. `Vicuna` and
`DeepseekVL2` cut one character more, which falls in the markers after the last text unless
that text is an answer. `Qwen2d5Chat` writes a leading system message in its header, and
only there. `get_prompt` writes the prompt between the user box and the end of the turn. -/
namespace Lmdeploy.Template

variable {J : Type}

def texts (m : List (Message J)) : List String := m.filterMap fun x => getText x.content

/-- A message with only a role and a content, the role one of user, assistant, system and
tool, and a content that has a text. -/
def Message.Ordinary (x : Message J) : Prop :=
  x.Simple ∧ (x.role = .user ∨ x.role = .assistant ∨ x.role = .system ∨ x.role = .tool) ∧
    (getText x.content).isSome

def WritesText (g : Message J → Option String) (x : Message J) : Prop :=
  ∃ box t eox, getText x.content = some t ∧ g x = some (box ++ t ++ eox)

theorem texts_append (xs ys : List (Message J)) : texts (xs ++ ys) = texts xs ++ texts ys :=
  List.filterMap_append _ _ _

theorem texts_cons {x : Message J} {t : String} (ht : getText x.content = some t)
    (m : List (Message J)) : texts (x :: m) = t :: texts m := by
  simp [texts, ht]

theorem endsWithAssistant_concat (init : List (Message J)) (x : Message J) :
    BaseChatTemplate.endsWithAssistant (init ++ [x]) = decide (x.role = .assistant) := by
  simp [BaseChatTemplate.endsWithAssistant]

theorem renderAll_embeds {g : Message J → Option String} {m : List (Message J)}
    (h : ∀ x ∈ m, WritesText g x) : ∃ s, renderAll g m = some s ∧ Py.Embeds (texts m) s := by
  induction m with
  | nil => exact ⟨"", rfl, trivial⟩
  | cons x m ih =>
    obtain ⟨box, t, eox, ht, hg⟩ := h x (List.mem_cons_self x m)
    obtain ⟨s, hs, he⟩ := ih fun y hy => h y (List.mem_cons_of_mem x hy)
    refine ⟨box ++ t ++ eox ++ s, by simp [hg, hs], ?_⟩
    rw [texts_cons ht]
    exact ⟨box, eox ++ s, by simp only [String.append_assoc], he.prepend eox⟩

theorem renderAll_embeds_last {g : Message J → Option String} {init : List (Message J)}
    {x : Message J} {box t eox : String} (hinit : ∀ y ∈ init, WritesText g y)
    (ht : getText x.content = some t) (hx : g x = some (box ++ t ++ eox)) :
    ∃ s, renderAll g (init ++ [x]) = some (s ++ eox) ∧ Py.Embeds (texts (init ++ [x])) s := by
  obtain ⟨s, hs, he⟩ := renderAll_embeds hinit
  refine ⟨s ++ (box ++ t), by simp [renderAll_append, hs, hx, String.append_assoc], ?_⟩
  rw [texts_append, texts_cons ht]
  exact he.concat (by simpa using Py.Embeds.single box t "")

theorem Message.Ordinary.text {x : Message J} (hx : x.Ordinary) :
    ∃ t, getText x.content = some t :=
  Option.isSome_iff_exists.mp hx.2.2

/-- The rendered prompt of a list ending with `x`: with an answer last, the end text after
it may be cut, down to no less than the answer. -/
theorem embeds_of_cut {g : Message J → Option String} {m : List (Message J)}
    (writes : ∀ x ∈ m, WritesText g x) (hdr : String) (cut : Nat) (rest : String)
    (hcut : ∀ init x, m = init ++ [x] → x.role = .assistant →
      ∃ box t eox, getText x.content = some t ∧ g x = some (box ++ t ++ eox) ∧
        0 < cut ∧ cut ≤ eox.length) :
    ∃ p, (do
        let body ← renderAll g m
        if BaseChatTemplate.endsWithAssistant m then pure (Py.sliceNeg (hdr ++ body) cut)
        else pure (hdr ++ body ++ rest)) = some p ∧ Py.Embeds (texts m) p := by
  rcases List.eq_nil_or_concat m with rfl | ⟨init, x, rfl⟩
  · exact ⟨hdr ++ "" ++ rest, by simp [BaseChatTemplate.endsWithAssistant], trivial⟩
  · simp only [List.concat_eq_append, endsWithAssistant_concat] at writes hcut ⊢
    by_cases ha : x.role = .assistant
    · obtain ⟨box, t, eox, ht, hg, hk, hke⟩ := hcut init x rfl ha
      obtain ⟨s, hs, he⟩ := renderAll_embeds_last
        (fun y hy => writes y (List.mem_append_left _ hy)) ht hg
      refine ⟨Py.sliceNeg (hdr ++ (s ++ eox)) cut, by simp [hs, ha], ?_⟩
      rw [← String.append_assoc]
      exact (he.prepend hdr).sliceNeg eox hk hke
    · obtain ⟨s, hs, he⟩ := renderAll_embeds writes
      exact ⟨_, by simp [hs, ha], (he.prepend hdr).append rest⟩

theorem BaseChatTemplate.maps_ordinary (f : Fields) {x : Message J} (hx : x.Ordinary) :
    (∃ b, BaseChatTemplate.boxMap f x.role = some b) ∧
      ∃ e, BaseChatTemplate.eoxMap f x.role = some e := by
  rcases hx.2.1 with h | h | h | h <;> simp [h, BaseChatTemplate.boxMap, BaseChatTemplate.eoxMap]

theorem BaseChatTemplate.renderMessage_writes (f : Fields) {x : Message J} (hx : x.Ordinary) :
    WritesText (BaseChatTemplate.renderMessage f) x := by
  obtain ⟨t, ht⟩ := hx.text
  obtain ⟨⟨b, hb⟩, e, he⟩ := BaseChatTemplate.maps_ordinary f hx
  exact ⟨b, t, e, ht, by simp [BaseChatTemplate.renderMessage, hb, ht, he]⟩

theorem BaseChatTemplate.messages2prompt_embeds (f : Fields) {m : List (Message J)}
    (hm : ∀ x ∈ m, x.Ordinary) (s : Bool) :
    ∃ p, BaseChatTemplate.messages2prompt f m s = some p ∧ Py.Embeds (texts m) p := by
  have writes := fun x hx => BaseChatTemplate.renderMessage_writes f (hm x hx)
  by_cases hcut : 0 < (f.eoa ++ f.separator).length
  · obtain ⟨p, hp, he⟩ := embeds_of_cut writes (BaseChatTemplate.header f m s)
      (f.eoa ++ f.separator).length f.assistant (fun init x _ ha => by
        obtain ⟨t, ht⟩ := (hm x (by simp_all)).text
        exact ⟨f.assistant, t, f.eoa ++ f.separator, ht, by simp [BaseChatTemplate.renderMessage,
          ha, ht, BaseChatTemplate.boxMap, BaseChatTemplate.eoxMap], hcut, le_refl _⟩)
    refine ⟨p, ?_, he⟩
    simp only [BaseChatTemplate.messages2prompt, hcut, and_true]
    exact hp
  · obtain ⟨body, hb, he⟩ := renderAll_embeds writes
    simp only [String.length_append] at hcut
    exact ⟨_, by simp [BaseChatTemplate.messages2prompt, hb, hcut],
      (he.prepend (BaseChatTemplate.header f m s)).append f.assistant⟩

theorem InternLM2Chat7B.renderMessage_ordinary (lib : Lib J) (f : Fields) {x : Message J}
    (hx : x.Ordinary) :
    ∃ b t e, getText x.content = some t ∧ InternLM2Chat7B.eoxMap f x.role = some e ∧
      InternLM2Chat7B.renderMessage lib f x = some (b ++ t ++ e, x) := by
  obtain ⟨t, ht⟩ := hx.text
  obtain ⟨⟨hn, htc, -⟩, hr, -⟩ := hx
  obtain ⟨⟨b, hb⟩, e, he⟩ : (∃ b, InternLM2Chat7B.boxMap f x.role = some b) ∧
      ∃ e, InternLM2Chat7B.eoxMap f x.role = some e := by
    rcases hr with h | h | h | h <;>
      simp [h, InternLM2Chat7B.boxMap, InternLM2Chat7B.eoxMap]
  refine ⟨b, t, e, ht, he, ?_⟩
  have calls : InternLM2Chat7B.assistantCalls lib (InternLM2Chat7B.action lib) x = some ("", x) := by
    simp [InternLM2Chat7B.assistantCalls, htc]
  simp [InternLM2Chat7B.renderMessage, ht, calls, hb, he, hn, InternLM2Chat7B.nameMap]

theorem InternS1.renderMessage_ordinary (lib : Lib J) (f : Fields) {x : Message J}
    (hx : x.Ordinary) :
    ∃ b t e, getText x.content = some t ∧ InternLM2Chat7B.eoxMap f x.role = some e ∧
      ∀ u i, InternS1.renderMessage lib f u i x = some (b ++ t ++ e, x) := by
  obtain ⟨t, ht⟩ := hx.text
  obtain ⟨⟨hn, htc, hrc⟩, hr, -⟩ := hx
  obtain ⟨⟨b, hb⟩, e, he⟩ : (∃ b, InternLM2Chat7B.boxMap f x.role = some b) ∧
      ∃ e, InternLM2Chat7B.eoxMap f x.role = some e := by
    rcases hr with h | h | h | h <;>
      simp [h, InternLM2Chat7B.boxMap, InternLM2Chat7B.eoxMap]
  refine ⟨b, t, e, ht, he, fun u i => ?_⟩
  have calls : InternLM2Chat7B.assistantCalls lib (InternS1.action lib) x = some ("", x) := by
    simp [InternLM2Chat7B.assistantCalls, htc]
  cases u <;> simp [InternS1.renderMessage, ht, calls, hb, he, hn, hrc]

theorem renderEach_ordinary {body : Nat → Message J → Option (String × Message J)}
    {m : List (Message J)} (h : ∀ i, ∀ x ∈ m, ∃ r, body i x = some (r, x) ∧ body 0 x = some (r, x)) :
    renderEach body 0 m = (renderAll (fun x => (body 0 x).map Prod.fst) m).map fun s => (s, m) := by
  refine renderEach_of_unchanged (fun i x hx => ?_) 0
  obtain ⟨r, hi, h0⟩ := h i x hx
  simp [hi, h0]

theorem embeds_prefixOnStart {ts : List String} {p : String} (h : Py.Embeds ts p) (bos : String)
    (s : Bool) : Py.Embeds ts (prefixOnStart bos s p) := by
  cases s
  · exact h
  · exact h.prepend bos

theorem InternLM2Chat7B.messages2prompt_embeds (lib : Lib J) (f : Fields) {m : List (Message J)}
    (hm : ∀ x ∈ m, x.Ordinary) (s : Bool) (hcut : 0 < (f.eoa ++ f.separator).length) :
    ∃ p ms, InternLM2Chat7B.messages2prompt lib f m s none = some (p, ms) ∧
      Py.Embeds (texts m) p := by
  have loop : renderEach (fun _ => InternLM2Chat7B.renderMessage lib f) 0 m =
      (renderAll (fun x => (InternLM2Chat7B.renderMessage lib f x).map Prod.fst) m).map
        fun s => (s, m) :=
    renderEach_ordinary fun _ x hx => by
      obtain ⟨b, t, e, ht, -, h⟩ := InternLM2Chat7B.renderMessage_ordinary lib f (hm x hx)
      exact ⟨_, h, h⟩
  have writes : ∀ x ∈ m,
      WritesText (fun x => (InternLM2Chat7B.renderMessage lib f x).map Prod.fst) x :=
    fun x hx => by
      obtain ⟨b, t, e, ht, -, h⟩ := InternLM2Chat7B.renderMessage_ordinary lib f (hm x hx)
      exact ⟨b, t, e, ht, by simp [h]⟩
  obtain ⟨p, hp, he⟩ := embeds_of_cut writes (BaseChatTemplate.header f m s)
    (f.eoa ++ f.separator).length f.assistant (fun init x hmx ha => by
      obtain ⟨b, t, e, ht, he, h⟩ := InternLM2Chat7B.renderMessage_ordinary lib f (hm x (by simp [hmx]))
      simp only [ha, InternLM2Chat7B.eoxMap, Option.some.injEq] at he
      exact ⟨b, t, e, ht, by simp [h], hcut, by rw [← he]⟩)
  refine ⟨p, m, ?_, he⟩
  simp only [InternLM2Chat7B.messages2prompt, InternLM2Chat7B.insertTools, Option.bind_eq_bind,
    Option.some_bind, loop]
  revert hp
  cases renderAll (fun x => (InternLM2Chat7B.renderMessage lib f x).map Prod.fst) m with
  | none => simp
  | some body =>
    intro hp
    simp only [Option.map_some', Option.some_bind] at hp ⊢
    split at hp <;> simp_all

theorem InternS1.messages2prompt_embeds (lib : Lib J) (f : Fields) {m : List (Message J)}
    (hm : ∀ x ∈ m, x.Ordinary) (s : Bool) (e : Option Bool)
    (hcut : 0 < (f.eoa ++ f.separator).length) :
    ∃ p ms, InternS1.messages2prompt lib f m s none e = some (p, ms) ∧ Py.Embeds (texts m) p := by
  have loop : renderEach (InternS1.renderMessage lib f (InternS1.lastUserIdx m)) 0 m =
      (renderAll (fun x => (InternS1.renderMessage lib f (InternS1.lastUserIdx m) 0 x).map
        Prod.fst) m).map fun s => (s, m) :=
    renderEach_ordinary fun i x hx => by
      obtain ⟨b, t, e, ht, -, h⟩ := InternS1.renderMessage_ordinary lib f (hm x hx)
      exact ⟨_, h _ i, h _ 0⟩
  obtain ⟨p, hp, he⟩ := embeds_of_cut
    (g := fun x => (InternS1.renderMessage lib f (InternS1.lastUserIdx m) 0 x).map Prod.fst)
    (fun x hx => by
      obtain ⟨b, t, e, ht, -, h⟩ := InternS1.renderMessage_ordinary lib f (hm x hx)
      exact ⟨b, t, e, ht, by simp [h]⟩) (InternS1.header f m s e)
    (f.eoa ++ f.separator).length (f.assistant ++ if InternS1.thinking e then "<think>" else "")
    (fun init x hmx ha => by
      obtain ⟨b, t, e, ht, he, h⟩ := InternS1.renderMessage_ordinary lib f (hm x (by simp [hmx]))
      simp only [ha, InternLM2Chat7B.eoxMap, Option.some.injEq] at he
      exact ⟨b, t, e, ht, by simp [h], hcut, by rw [← he]⟩)
  refine ⟨p, m, ?_, he⟩
  simp only [InternS1.messages2prompt, Option.bind_eq_bind, Option.some_bind, loop]
  revert hp
  cases renderAll (fun x => (InternS1.renderMessage lib f (InternS1.lastUserIdx m) 0 x).map
    Prod.fst) m with
  | none => simp
  | some body =>
    intro hp
    simp only [Option.map_some', Option.some_bind, String.append_assoc] at hp ⊢
    split at hp <;> simp_all

theorem Llama3_1.renderMessage_ordinary (f : Fields) {x : Message J} (hx : x.Ordinary) :
    ∃ b t e, getText x.content = some t ∧
      (x.role = .assistant → e = "<|eom_id|>" ∨ e = f.eoa ++ f.separator) ∧
      Llama3_1.renderMessage f none "" x = some (b ++ t ++ e) := by
  obtain ⟨t, ht⟩ := hx.text
  obtain ⟨b, hb⟩ : ∃ b, Llama3_1.boxMap f x.role = some b := by
    rcases hx.2.1 with h | h | h | h <;> simp [h, Llama3_1.boxMap]
  obtain ⟨e, he⟩ : ∃ e, Llama3_1.eoxMap f x.role = some e := by
    rcases hx.2.1 with h | h | h | h <;> simp [h, Llama3_1.eoxMap]
  by_cases hcall : x.role = .assistant ∧ Llama3_1.callsTool t = true
  · obtain ⟨ha, hc⟩ := hcall
    rw [ha] at hb
    exact ⟨b, t, "<|eom_id|>", ht, fun _ => .inl rfl,
      by simp [Llama3_1.renderMessage, ht, hb, ha, hc]⟩
  · refine ⟨b, t, e, ht, fun ha => .inr (by simpa [Llama3_1.eoxMap, ha] using he.symm), ?_⟩
    simp [Llama3_1.renderMessage, ht, hb, he]
    exact fun ha hc => absurd ⟨ha, hc⟩ hcall

theorem Llama3_1.messages2prompt_embeds (lib : Lib J) (f : Fields) {m : List (Message J)}
    (hm : ∀ x ∈ m, x.Ordinary) (s : Bool) (hcut : 0 < (f.eoa ++ f.separator).length)
    (heom : (f.eoa ++ f.separator).length ≤ "<|eom_id|>".length) :
    ∃ p, Llama3_1.messages2prompt lib f m s none = some p ∧ Py.Embeds (texts m) p := by
  obtain ⟨p, hp, he⟩ := embeds_of_cut (g := Llama3_1.renderMessage f none "") (fun x hx => by
      obtain ⟨b, t, e, ht, -, h⟩ := Llama3_1.renderMessage_ordinary f (hm x hx)
      exact ⟨b, t, e, ht, h⟩)
    (prefixOnStart Llama3.bos s (Llama3_1.header f m s none "")) (f.eoa ++ f.separator).length
    f.assistant (fun init x hmx ha => by
      obtain ⟨b, t, e, ht, he, h⟩ := Llama3_1.renderMessage_ordinary f (hm x (by simp [hmx]))
      refine ⟨b, t, e, ht, h, hcut, ?_⟩
      rcases he ha with rfl | rfl
      · exact heom
      · exact le_refl _)
  refine ⟨p, ?_, he⟩
  simpa [Llama3_1.messages2prompt] using hp

theorem BaseChatTemplate.getPrompt_cases (f : Fields) (p : String) (s : Bool) :
    (f.capability = "completion" ∧ BaseChatTemplate.getPrompt f p s = p) ∨
    (f.capability ≠ "completion" ∧
      ∃ x, BaseChatTemplate.getPrompt f p s = x ++ p ++ (f.eoh ++ f.assistant)) := by
  by_cases hc : f.capability = "completion"
  · exact .inl ⟨hc, by simp [BaseChatTemplate.getPrompt, hc]⟩
  · refine .inr ⟨hc, ?_⟩
    cases s
    · exact ⟨f.separator ++ f.user, by simp [BaseChatTemplate.getPrompt, hc, String.append_assoc]⟩
    · cases hmi : f.metaInstruction with
      | none => exact ⟨f.user, by simp [BaseChatTemplate.getPrompt, hc, hmi, String.append_assoc]⟩
      | some mi => exact ⟨f.system ++ mi ++ f.eosys ++ f.user,
          by simp [BaseChatTemplate.getPrompt, hc, hmi, String.append_assoc]⟩

theorem BaseChatTemplate.getPrompt_embeds (f : Fields) (p : String) (s : Bool) :
    Py.Embeds [p] (BaseChatTemplate.getPrompt f p s) := by
  rcases BaseChatTemplate.getPrompt_cases f p s with ⟨-, h⟩ | ⟨-, x, h⟩ <;> rw [h]
  · simpa using Py.Embeds.single "" p ""
  · exact Py.Embeds.single x p _

theorem BaseChatTemplate.getPrompt_cut_embeds (f : Fields) (p : String) (s : Bool)
    (hc : f.capability ≠ "completion") (hend : 0 < (f.eoh ++ f.assistant).length) :
    Py.Embeds [p] (Py.sliceNeg (BaseChatTemplate.getPrompt f p s) 1) := by
  rcases BaseChatTemplate.getPrompt_cases f p s with ⟨hc', -⟩ | ⟨-, x, h⟩
  · exact absurd hc' hc
  · rw [h]
    simpa using (Py.Embeds.single x p "").sliceNeg _ Nat.one_pos hend

/-- `Vicuna` and `DeepseekVL2` cut the last character of `BaseChatTemplate`'s prompt. On a
list that does not end with an answer, the cut falls in the end marker of the last message
and the assistant marker, when these are not both empty. -/
theorem BaseChatTemplate.messages2prompt_cut_embeds (f : Fields) {m : List (Message J)}
    (hm : ∀ x ∈ m, x.Ordinary) (s : Bool)
    (hlast : ∀ x ∈ m.getLast?, x.role ≠ .assistant ∧
      0 < ((BaseChatTemplate.eoxMap f x.role).getD "" ++ f.assistant).length) :
    ∃ p, BaseChatTemplate.messages2prompt f m s = some p ∧ Py.Embeds (texts m) (Py.sliceNeg p 1) := by
  have writes := fun x hx => BaseChatTemplate.renderMessage_writes f (hm x hx)
  rcases List.eq_nil_or_concat m with rfl | ⟨init, x, rfl⟩
  · exact ⟨_, rfl, trivial⟩
  · simp only [List.concat_eq_append, List.getLast?_concat, Option.mem_def, Option.some.injEq,
      forall_eq'] at hlast ⊢
    obtain ⟨hna, hcut⟩ := hlast
    obtain ⟨t, ht⟩ := (hm x (by simp)).text
    obtain ⟨⟨b, hb⟩, e, he⟩ := BaseChatTemplate.maps_ordinary f (hm x (by simp))
    obtain ⟨body, hbody, hemb⟩ := renderAll_embeds_last (fun y (hy : y ∈ init) => writes y (by simp [hy]))
      ht (show BaseChatTemplate.renderMessage f x = some (b ++ t ++ e) by
        simp [BaseChatTemplate.renderMessage, hb, ht, he])
    rw [he, Option.getD_some] at hcut
    refine ⟨BaseChatTemplate.header f (init ++ [x]) s ++ body ++ (e ++ f.assistant),
      by simp [BaseChatTemplate.messages2prompt, hbody, endsWithAssistant_concat, hna,
        String.append_assoc], ?_⟩
    exact (hemb.prepend _).sliceNeg _ Nat.one_pos hcut

/-- A content that is a string. `Qwen2d5Chat` writes a leading system message and a tool
message raw, where its other branches write `get_text`. -/
def Content.isStr : Option Content → Bool
  | some (.str _) => true
  | _ => false

theorem Content.eq_str : ∀ {c : Option Content}, Content.isStr c → ∃ t, c = some (.str t)
  | some (.str t), _ => ⟨t, rfl⟩

theorem Qwen2d5Chat.renderMessage_ordinary (lib : Lib J) (f : Fields) {x : Message J}
    (hx : x.Ordinary) {t : String} (ht : x.content = some (.str t)) {first : Bool}
    (hfirst : first = true → x.role ≠ .system) (prev next : Bool) :
    ∃ pre post, Qwen2d5Chat.renderMessage lib f first prev next x = some (pre ++ t ++ post, x) := by
  obtain ⟨⟨-, htc, -⟩, hr, -⟩ := hx
  rcases hr with h | h | h | h
  · exact ⟨f.user, f.eosys, by simp [Qwen2d5Chat.renderMessage, h, ht, Qwen2d5Chat.boxMap]⟩
  · exact ⟨f.assistant, f.eosys,
      by simp [Qwen2d5Chat.renderMessage, h, ht, htc, Qwen2d5Chat.boxMap]⟩
  · cases first
    · exact ⟨f.system, f.eosys, by simp [Qwen2d5Chat.renderMessage, h, ht, Qwen2d5Chat.boxMap]⟩
    · exact absurd h (hfirst rfl)
  · exact ⟨(if prev then "" else "<|im_start|>user") ++ f.separator ++ "<tool_response>" ++
      f.separator, f.separator ++ "</tool_response>" ++ (if next then "" else f.eoh),
      by simp [Qwen2d5Chat.renderMessage, h, ht, Content.format, String.append_assoc]⟩

theorem Qwen2d5Chat.renderMessages_embeds (lib : Lib J) (f : Fields) :
    ∀ {ms : List (Message J)}, (∀ x ∈ ms, x.Ordinary ∧ Content.isStr x.content) →
      ∀ (first prev : Bool), (first = true → ms.head?.map (·.role) ≠ some .system) →
      ∃ body, Qwen2d5Chat.renderMessages lib f first prev ms = some (body, ms) ∧
        Py.Embeds (texts ms) body
  | [], _, _, _, _ => ⟨"", rfl, trivial⟩
  | x :: ms, hms, first, prev, hfirst => by
    obtain ⟨hx, hstr⟩ := hms x (List.mem_cons_self x ms)
    obtain ⟨t, ht⟩ := Content.eq_str hstr
    obtain ⟨pre, post, hr⟩ := Qwen2d5Chat.renderMessage_ordinary lib f hx ht
      (fun h he => hfirst h (by simp [he])) prev (ms.head?.map (·.role) = some .tool)
    obtain ⟨body, hbody, hemb⟩ := Qwen2d5Chat.renderMessages_embeds lib f
      (fun y hy => hms y (List.mem_cons_of_mem x hy)) false (x.role = .tool) nofun
    refine ⟨pre ++ t ++ post ++ body, by rw [Qwen2d5Chat.renderMessages, hr]; simp [hbody], ?_⟩
    rw [texts_cons (by simp [ht] : getText x.content = some t)]
    exact ⟨pre, post ++ body, by simp only [String.append_assoc], hemb.prepend post⟩

/-- `Qwen2d5Chat.messages2prompt` without tools keeps every text of messages with string
contents, when a leading system message is written in the header, at the start of a session
with `meta_instruction` set. -/
theorem Qwen2d5Chat.messages2prompt_embeds (lib : Lib J) (f : Fields) {m : List (Message J)}
    (hm : ∀ x ∈ m, x.Ordinary ∧ Content.isStr x.content) (s : Bool)
    (hsys : m.head?.map (·.role) = some .system → s = true ∧ f.metaInstruction.isSome) :
    ∃ p ms, Qwen2d5Chat.messages2prompt lib f m s none = some (p, ms) ∧ Py.Embeds (texts m) p := by
  cases m with
  | nil => exact ⟨Qwen2d5Chat.header lib f [] s none ++ "" ++ f.assistant, [],
    by simp [Qwen2d5Chat.messages2prompt, Qwen2d5Chat.renderMessages], trivial⟩
  | cons x ms =>
    by_cases hx : x.role = .system
    · obtain ⟨rfl, hmi⟩ := hsys (by simp [hx])
      obtain ⟨mi, hmi⟩ := Option.isSome_iff_exists.mp hmi
      obtain ⟨t, ht⟩ := Content.eq_str (hm x (List.mem_cons_self x ms)).2
      obtain ⟨body, hbody, hemb⟩ := Qwen2d5Chat.renderMessages_embeds lib f
        (fun y hy => hm y (List.mem_cons_of_mem x hy)) false false nofun
      refine ⟨f.system ++ t ++ f.eosys ++ ("" ++ body) ++ f.assistant, x :: ms, ?_, ?_⟩
      · simp [Qwen2d5Chat.messages2prompt, Qwen2d5Chat.renderMessages, Qwen2d5Chat.renderMessage,
          Qwen2d5Chat.header, hx, hmi, ht, hbody, Content.format]
      · rw [texts_cons (by simp [ht] : getText x.content = some t)]
        exact ⟨f.system, f.eosys ++ ("" ++ body) ++ f.assistant, by simp only [String.append_assoc],
          ((hemb.prepend "").prepend f.eosys).append f.assistant⟩
    · obtain ⟨body, hbody, hemb⟩ := Qwen2d5Chat.renderMessages_embeds lib f hm true
        false (fun _ => by simp [hx])
      exact ⟨Qwen2d5Chat.header lib f (x :: ms) s none ++ body ++ f.assistant, x :: ms,
        by simp [Qwen2d5Chat.messages2prompt, hbody], (hemb.prepend _).append f.assistant⟩

/-- The templates and inputs on which `messages2prompt` keeps every text: those that
render through `BaseChatTemplate`, for all fields; `InternLM2Chat7B` and `InternS1` when the
end marker is not empty; `Llama3_1` when it is not empty and no longer than `<|eom_id|>`; the
`Vicuna` wrappers and `DeepseekVL2` on a list that does not end with an answer, when the last
message's end marker and the assistant marker are not both empty; the `Qwen2d5Chat` family on
string contents, when a leading system message comes at the start of a session with
`meta_instruction` set. -/
def KeepScope (t : ChatTemplate) (m : List (Message J)) (sequenceStart : Bool) : Prop :=
  match t.kind with
  | .base | .codeLlama | .deepseekV3 | .deepseekR1 | .llama3 | .chatGLM3 => True
  | .internLM2 | .internS1 => 0 < (t.fields.eoa ++ t.fields.separator).length
  | .llama3_1 => 0 < (t.fields.eoa ++ t.fields.separator).length ∧
    (t.fields.eoa ++ t.fields.separator).length ≤ "<|eom_id|>".length
  | .vicuna | .deepseekVL2 => ∀ x ∈ m.getLast?, x.role ≠ .assistant ∧
    0 < ((BaseChatTemplate.eoxMap t.fields x.role).getD "" ++ t.fields.assistant).length
  | .qwen2d5 | .qwq | .qwen3 => (∀ x ∈ m, Content.isStr x.content) ∧
    (m.head?.map (·.role) = some .system → sequenceStart = true ∧ t.fields.metaInstruction.isSome)

/-- The templates whose `get_prompt` keeps the prompt: all but a `Vicuna` wrapper in chat
mode with an empty end of turn and assistant marker, `DeepseekVL2` in completion mode or
with them empty, and `CodeLlama` in infilling mode. -/
def GetScope (t : ChatTemplate) : Prop :=
  match t.kind with
  | .vicuna => t.fields.capability = "chat" → 0 < (t.fields.eoh ++ t.fields.assistant).length
  | .deepseekVL2 =>
    t.fields.capability ≠ "completion" ∧ 0 < (t.fields.eoh ++ t.fields.assistant).length
  | .codeLlama => t.fields.capability ≠ "infilling"
  | _ => True

instance (t : ChatTemplate) (m : List (Message J)) (s : Bool) : Decidable (KeepScope t m s) :=
  match t with
  | ⟨k, f⟩ =>
    match k with
    | .base | .codeLlama | .deepseekV3 | .deepseekR1 | .llama3 | .chatGLM3 =>
      inferInstanceAs (Decidable True)
    | .internLM2 | .internS1 => inferInstanceAs (Decidable (0 < (f.eoa ++ f.separator).length))
    | .llama3_1 => inferInstanceAs (Decidable (0 < (f.eoa ++ f.separator).length ∧
        (f.eoa ++ f.separator).length ≤ "<|eom_id|>".length))
    | .vicuna | .deepseekVL2 => inferInstanceAs (Decidable (∀ x ∈ m.getLast?,
        x.role ≠ .assistant ∧ 0 < ((BaseChatTemplate.eoxMap f x.role).getD "" ++ f.assistant).length))
    | .qwen2d5 | .qwq | .qwen3 => inferInstanceAs (Decidable ((∀ x ∈ m, Content.isStr x.content) ∧
        (m.head?.map (·.role) = some .system → s = true ∧ f.metaInstruction.isSome)))

instance (t : ChatTemplate) : Decidable (GetScope t) :=
  match t with
  | ⟨k, f⟩ =>
    match k with
    | .vicuna => inferInstanceAs (Decidable (f.capability = "chat" →
        0 < (f.eoh ++ f.assistant).length))
    | .deepseekVL2 => inferInstanceAs (Decidable (f.capability ≠ "completion" ∧
        0 < (f.eoh ++ f.assistant).length))
    | .codeLlama => inferInstanceAs (Decidable (f.capability ≠ "infilling"))
    | .base | .deepseekV3 | .deepseekR1 | .internLM2 | .internS1 | .llama3 | .llama3_1
    | .qwen2d5 | .qwq | .qwen3 | .chatGLM3 => inferInstanceAs (Decidable True)

instance [DecidableEq J] (x : Message J) : Decidable x.Ordinary :=
  inferInstanceAs (Decidable ((_ ∧ _ ∧ _) ∧ _ ∧ _))

/-- Two slips. `Qwen2d5Chat` skips a leading system message in its loop and writes it in the
header, which it writes only at the start of a session with `meta_instruction` set: a system
message leading a later round is lost. `DeepseekVL2.get_prompt` cuts the last character also
in completion mode, where the prompt is returned as it is and nothing follows the text. -/
theorem texts_lost_by_slips :
    (ChatTemplate.messages2prompt Lib.trivial ⟨.qwen2d5, Qwen2d5Chat.defaults⟩
        [.plain .system "Be brief.", .plain .user "hi"] false none none).map
        (fun r => Py.contains r.1 "Be brief.") = some false ∧
    ChatTemplate.getPrompt ⟨.deepseekVL2, { DeepseekVL2.defaults with capability := "completion" }⟩
        "hi" true = some "h" := by
  constructor <;> decide

end Lmdeploy.Template
