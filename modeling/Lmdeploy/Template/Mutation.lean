import Lmdeploy.Template.Keep

/-! What `messages2prompt` leaves in the caller's list. `InternLM2Chat7B` inserts its tools
prompt into the list, so the list grows by one message on every call with tools; and, like
`InternS1`, it pops `'arguments'` from every tool call it renders, so a second rendering of
the same list raises `KeyError` at `function.pop('arguments')`. -/
namespace Lmdeploy.Template

variable {J : Type}

theorem renderEach_cons_eq_some {body : Nat → Message J → Option (String × Message J)} {i : Nat}
    {x : Message J} {xs : List (Message J)} {r : String} {ms : List (Message J)}
    (h : renderEach body i (x :: xs) = some (r, ms)) :
    ∃ s x' r' xs', body i x = some (s, x') ∧ renderEach body (i + 1) xs = some (r', xs') ∧
      ms = x' :: xs' := by
  simp only [renderEach, Option.bind_eq_bind] at h
  rcases hx : body i x with _ | ⟨s, x'⟩ <;> rw [hx] at h
  · cases h
  rcases hxs : renderEach body (i + 1) xs with _ | ⟨r', xs'⟩ <;> simp [hxs] at h
  exact ⟨s, x', r', xs', rfl, rfl, h.2.symm⟩

theorem renderEach_length {body : Nat → Message J → Option (String × Message J)} {i : Nat}
    {ms : List (Message J)} {r : String} {ms' : List (Message J)}
    (h : renderEach body i ms = some (r, ms')) : ms'.length = ms.length := by
  induction ms generalizing i r ms' with
  | nil => simp only [renderEach, Option.some.injEq, Prod.mk.injEq] at h; simp [← h.2]
  | cons x xs ih =>
    obtain ⟨_, _, _, xs', _, hxs, rfl⟩ := renderEach_cons_eq_some h
    simp [ih hxs]

theorem renderEach_mem {body : Nat → Message J → Option (String × Message J)} {i : Nat}
    {ms : List (Message J)} {r : String} {ms' : List (Message J)}
    (h : renderEach body i ms = some (r, ms')) {x : Message J} (hx : x ∈ ms) :
    ∃ j s x', body j x = some (s, x') ∧ x' ∈ ms' := by
  induction ms generalizing i r ms' with
  | nil => cases hx
  | cons y ys ih =>
    obtain ⟨s, y', _, ys', hy, hys, rfl⟩ := renderEach_cons_eq_some h
    rcases List.mem_cons.mp hx with rfl | hx
    · exact ⟨i, s, y', hy, List.mem_cons_self _ _⟩
    · obtain ⟨j, s', x', hj, hx'⟩ := ih hys hx
      exact ⟨j, s', x', hj, List.mem_cons_of_mem _ hx'⟩

theorem renderEach_eq_none {body : Nat → Message J → Option (String × Message J)}
    {ms : List (Message J)} {x : Message J} (hx : x ∈ ms) (hfail : ∀ j, body j x = none)
    (i : Nat) : renderEach body i ms = none := by
  induction ms generalizing i with
  | nil => cases hx
  | cons y ys ih =>
    simp only [renderEach, Option.bind_eq_bind]
    rcases List.mem_cons.mp hx with rfl | hx
    · simp [hfail i]
    · cases body i y <;> simp [ih hx (i + 1)]

theorem InternLM2Chat7B.insertTools_mem {lib : Lib J} {tools : Option (List J)}
    {ms ms' : List (Message J)} (h : InternLM2Chat7B.insertTools lib tools ms = some ms')
    {x : Message J} (hx : x ∈ ms) : x ∈ ms' := by
  unfold InternLM2Chat7B.insertTools at h
  split at h
  · simp only [Option.some.injEq] at h
    subst h
    simp only [List.mem_cons] at hx
    split <;> simp only [List.mem_cons] <;> tauto
  · cases h
  · cases h
    exact hx

theorem InternLM2Chat7B.insertTools_length {lib : Lib J} {t : J} {ts : List J}
    {ms ms' : List (Message J)} (h : InternLM2Chat7B.insertTools lib (some (t :: ts)) ms = some ms') :
    ms'.length = ms.length + 1 := by
  cases ms with
  | nil => cases h
  | cons first rest =>
    simp only [InternLM2Chat7B.insertTools, Option.some.injEq] at h
    subst h
    split <;> simp

theorem InternLM2Chat7B.rewriteFunction_again {lib : Lib J} {c c' : ToolCall J} {n : String}
    {v : J} (h : InternLM2Chat7B.rewriteFunction lib c = some (c', n, v)) :
    InternLM2Chat7B.rewriteFunction lib c' = none := by
  simp only [InternLM2Chat7B.rewriteFunction, Option.bind_eq_bind] at h
  split at h
  · cases h
  · generalize Arg.load lib.loads _ = value at h
    cases value with
    | none => cases h
    | some w =>
      simp only [Option.some_bind, pure, Option.some.injEq, Prod.mk.injEq] at h
      obtain ⟨rfl, -, -⟩ := h
      simp [InternLM2Chat7B.rewriteFunction]

theorem InternLM2Chat7B.rewriteCalls_again {lib : Lib J} {act act' : String → J → String}
    {c : ToolCall J} {cs : List (ToolCall J)} {s : String} {cs' : List (ToolCall J)}
    (h : InternLM2Chat7B.rewriteCalls lib act (c :: cs) = some (s, cs')) :
    InternLM2Chat7B.rewriteCalls lib act' cs' = none := by
  simp only [InternLM2Chat7B.rewriteCalls, Option.bind_eq_bind] at h
  rcases hc : InternLM2Chat7B.rewriteFunction lib c with _ | ⟨c', n, v⟩ <;>
    simp only [hc, Option.none_bind, Option.some_bind] at h
  · cases h
  rcases hcs : InternLM2Chat7B.rewriteCalls lib act cs with _ | ⟨text, cs''⟩ <;>
    simp only [hcs, Option.none_bind, Option.some_bind, pure, Option.some.injEq,
      Prod.mk.injEq] at h
  · cases h
  obtain ⟨-, rfl⟩ := h
  simp [InternLM2Chat7B.rewriteCalls, InternLM2Chat7B.rewriteFunction_again hc]

theorem InternLM2Chat7B.assistantCalls_again {lib : Lib J} {act : String → J → String}
    (act' : String → J → String) {x x' : Message J} {s : String} (hrole : x.role = .assistant) {c : ToolCall J}
    {cs : List (ToolCall J)} (hcalls : x.toolCalls = some (c :: cs))
    (h : InternLM2Chat7B.assistantCalls lib act x = some (s, x')) :
    InternLM2Chat7B.assistantCalls lib act' x' = none := by
  simp only [InternLM2Chat7B.assistantCalls, hrole, hcalls, Option.bind_eq_bind] at h
  rcases hr : InternLM2Chat7B.rewriteCalls lib act (c :: cs) with _ | ⟨text, cs'⟩ <;>
    simp only [hr, Option.none_bind, Option.some_bind, pure, Option.some.injEq,
      Prod.mk.injEq] at h
  · cases h
  obtain ⟨-, rfl⟩ := h
  simp [InternLM2Chat7B.assistantCalls, hrole, InternLM2Chat7B.rewriteCalls_again hr]

theorem InternLM2Chat7B.renderMessage_again {lib : Lib J} {f : Fields} {x x' : Message J}
    {s : String} (hrole : x.role = .assistant) {c : ToolCall J} {cs : List (ToolCall J)}
    (hcalls : x.toolCalls = some (c :: cs))
    (h : InternLM2Chat7B.renderMessage lib f x = some (s, x')) :
    InternLM2Chat7B.renderMessage lib f x' = none := by
  simp only [InternLM2Chat7B.renderMessage, Option.bind_eq_bind, Option.bind_eq_some] at h
  obtain ⟨content, -, ⟨calls, x''⟩, ha, b, -, e, -, h⟩ := h
  simp only [pure, Option.some.injEq, Prod.mk.injEq] at h
  obtain ⟨-, rfl⟩ := h
  have again := InternLM2Chat7B.assistantCalls_again (InternLM2Chat7B.action lib)
    hrole hcalls ha
  simp only [InternLM2Chat7B.renderMessage, Option.bind_eq_bind, again]
  cases getText x''.content <;> rfl

/-- `InternLM2Chat7B` with tools hands the caller back a list one message longer. -/
theorem InternLM2Chat7B.messages2prompt_inserts (lib : Lib J) (f : Fields)
    (m : List (Message J)) (s : Bool) (t : J) (ts : List J) {p : String}
    {ms : List (Message J)} (h : InternLM2Chat7B.messages2prompt lib f m s (some (t :: ts)) =
      some (p, ms)) : ms.length = m.length + 1 := by
  simp only [InternLM2Chat7B.messages2prompt, Option.bind_eq_bind] at h
  rcases hi : InternLM2Chat7B.insertTools lib (some (t :: ts)) m with _ | m' <;>
    simp only [hi, Option.none_bind, Option.some_bind] at h
  · cases h
  rcases hr : renderEach (fun _ => InternLM2Chat7B.renderMessage lib f) 0 m' with _ | ⟨body, ms'⟩ <;>
    simp only [hr, Option.none_bind, Option.some_bind] at h
  · cases h
  have hms : ms = ms' := by split at h <;> simp_all
  rw [hms, renderEach_length hr, InternLM2Chat7B.insertTools_length hi]

/-- After `InternLM2Chat7B` rendered an answer with tool calls, rendering the caller's list
again raises, with or without tools. -/
theorem InternLM2Chat7B.messages2prompt_again (lib : Lib J) (f : Fields) (m : List (Message J))
    (s s' : Bool) (tools tools' : Option (List J)) {p : String} {ms : List (Message J)}
    (h : InternLM2Chat7B.messages2prompt lib f m s tools = some (p, ms)) {x : Message J}
    (hx : x ∈ m) (hrole : x.role = .assistant) {c : ToolCall J} {cs : List (ToolCall J)}
    (hcalls : x.toolCalls = some (c :: cs)) :
    InternLM2Chat7B.messages2prompt lib f ms s' tools' = none := by
  simp only [InternLM2Chat7B.messages2prompt, Option.bind_eq_bind] at h ⊢
  rcases hi : InternLM2Chat7B.insertTools lib tools m with _ | m' <;>
    simp only [hi, Option.none_bind, Option.some_bind] at h
  · cases h
  rcases hr : renderEach (fun _ => InternLM2Chat7B.renderMessage lib f) 0 m' with _ | ⟨body, ms'⟩ <;>
    simp only [hr, Option.none_bind, Option.some_bind] at h
  · cases h
  have hms : ms = ms' := by split at h <;> simp_all
  subst hms
  obtain ⟨j, t, x', hj, hx'⟩ := renderEach_mem hr (InternLM2Chat7B.insertTools_mem hi hx)
  have fail := InternLM2Chat7B.renderMessage_again hrole hcalls hj
  rcases hi' : InternLM2Chat7B.insertTools lib tools' ms with _ | m'' <;>
    simp only [hi', Option.none_bind, Option.some_bind]
  rw [renderEach_eq_none (InternLM2Chat7B.insertTools_mem hi' hx') (fun _ => fail)]
  rfl

/-- A second rendering of one list by `InternLM2Chat7B`: with tools, the list comes back with
the tools prompt inserted and the prompt changes; with a tool call, the second call raises. -/
theorem internLM2_rerender :
    let t : ChatTemplate := ⟨.internLM2, InternLM2Chat7B.defaults⟩
    let hi : List (Message Unit) := [.plain .user "hi"]
    let call : ToolCall Unit := ⟨some ⟨some "f", some (.text "\x7b\x7d"), none⟩, ⟨none, none, none⟩⟩
    let answer : List (Message Unit) :=
      [.plain .user "hi", { role := .assistant, content := some (.str ""), toolCalls := some [call] }]
    (∃ p ms, t.messages2prompt Lib.trivial hi true (some [()]) none = some (p, ms) ∧ ms ≠ hi ∧
      (t.messages2prompt Lib.trivial ms true (some [()]) none).map Prod.fst ≠ some p) ∧
    (∃ p ms, t.messages2prompt Lib.trivial answer true none none = some (p, ms) ∧
      t.messages2prompt Lib.trivial ms true none none = none) := by
  intro t hi call answer
  have first : InternLM2Chat7B.messages2prompt Lib.trivial InternLM2Chat7B.defaults hi true
      (some [()]) = some (_, _) := rfl
  have longer := InternLM2Chat7B.messages2prompt_inserts Lib.trivial _ hi true () [] first
  have second : InternLM2Chat7B.messages2prompt Lib.trivial InternLM2Chat7B.defaults answer true
      none = some (_, _) := rfl
  refine ⟨⟨_, _, first, fun he => absurd (congrArg List.length he ▸ longer) (by decide),
    by decide⟩, ⟨_, _, second, ?_⟩⟩
  exact InternLM2Chat7B.messages2prompt_again Lib.trivial _ answer true true none none second
    (List.mem_cons_of_mem _ (List.mem_singleton_self _)) rfl rfl

end Lmdeploy.Template
