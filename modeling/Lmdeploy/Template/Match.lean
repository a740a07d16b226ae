import Mathlib.Data.List.Nodup
import Lmdeploy.Template.Registry

/-! `best_match_model` and the `match` classmethods it calls, one per class of
`lmdeploy/model.py`. Each `match` lowers the model path and tests substrings of it, in the
order the source writes its `if`s; `best_match_model` asks every name of `MODELS.module_dict`
in turn and returns the first name a class's `match` gives, else `'base'`. A class registered
under several names is asked once per name, and `from_json` registers new names with
`BaseChatTemplate`, whose `match` is `BaseModel`'s. -/
namespace Lmdeploy.Py

/-- `str.lower()` on the ASCII letters; the case mapping of other letters is left out. -/
def lower (s : String) : String := ⟨s.data.map Char.toLower⟩

end Lmdeploy.Py

namespace Lmdeploy.Template

def BaseModel.match? (_ : String) : Option String := none

def DeepseekV3.match? (modelPath : String) : Option String :=
  let path := Py.lower modelPath
  if Py.contains path "deepseek-v3" then some "deepseek-v3" else none

def DeepseekR1.match? (modelPath : String) : Option String :=
  let path := Py.lower modelPath
  if Py.contains path "deepseek-r1" then some "deepseek-r1" else none

def CogVLM.match? (modelPath : String) : Option String :=
  let path := Py.lower modelPath
  if Py.contains path "cogvlm" && !Py.contains path "cogvlm2" then some "cogvlm" else none

def CogVLM2.match? (modelPath : String) : Option String :=
  let path := Py.lower modelPath
  if Py.contains path "cogvlm2" then some "cogvlm2" else none

def Vicuna.match? (modelPath : String) : Option String :=
  let path := Py.lower modelPath
  if Py.contains path "vicuna" && !Py.contains path "llava" then some "vicuna"
  else if Py.contains path "wizardlm" then some "wizardlm"
  else none

def Llavav1.match? (modelPath : String) : Option String :=
  let path := Py.lower modelPath
  if Py.contains path "llava" && Py.contains path "v1" && !Py.contains path "v1.6-34b" &&
      !Py.contains path "mistral" then some "llava-v1"
  else if Py.contains path "llava-1.5" then some "llava-v1"
  else none

def InternLMChat7B.match? (modelPath : String) : Option String :=
  let path := Py.lower modelPath
  if ["internlm3", "internlm2", "8k"].all (fun c => !Py.contains path c) &&
      ["internlm", "chat"].all (fun c => Py.contains path c) then some "internlm"
  else none

def InternLM2Chat7B.match? (modelPath : String) : Option String :=
  let path := Py.lower modelPath
  if Py.contains path "internlm2" && (Py.contains path "chat" || Py.contains path "math") then
    some "internlm2"
  else if Py.contains path "internlm3" && Py.contains path "instruct" then some "internlm3"
  else none

def InternVLInternLM2Chat.match? (modelPath : String) : Option String :=
  let path := Py.lower modelPath
  if Py.contains path "internvl" && Py.contains path "v1-5" then
    -- `internvl-phi3` takes the mini 4B model
    if Py.contains path "mini" && Py.contains path "4b" then none else some "internvl-internlm2"
  else if Py.contains path "chemvlm" then some "internvl-internlm2"
  else none

def InternVL2InternLM2.match? (modelPath : String) : Option String :=
  let path := Py.lower modelPath
  if Py.contains path "internvl2" && !Py.contains path "internvl2-4b" ||
      Py.contains path "mono-internvl" then
    if Py.contains path "internvl2.5" || Py.contains path "internvl2_5" then none
    else some "internvl2-internlm2"
  else none

def InternVL2_5.match? (modelPath : String) : Option String :=
  let path := Py.lower modelPath
  if Py.contains path "internvl2.5" || Py.contains path "internvl2_5" ||
      Py.contains path "internvl3" then some "internvl2_5"
  else none

def InternLMXComposer2Chat7B.match? (modelPath : String) : Option String :=
  let path := Py.lower modelPath
  if Py.contains path "internlm" && Py.contains path "xcomposer2" then
    if Py.contains path "2d5" then some "internlm-xcomposer2d5" else some "internlm-xcomposer2"
  else none

def Baichuan2.match? (modelPath : String) : Option String :=
  let path := Py.lower modelPath
  if Py.contains path "baichuan2" && Py.contains path "chat" then some "baichuan2" else none

def Puyu.match? (modelPath : String) : Option String :=
  if Py.contains (Py.lower modelPath) "puyu" then some "puyu" else none

def Llama2.match? (modelPath : String) : Option String :=
  if Py.contains (Py.lower modelPath) "llama-2" || Py.contains (Py.lower modelPath) "llama2" then
    some "llama2"
  else none

/-- `Llama3.match`, which refuses `InternVL2-Llama3-76B` first. -/
def Llama3.match? (modelPath : String) : Option String :=
  if Py.contains (Py.lower modelPath) "internvl2" then none
  else if Py.contains (Py.lower modelPath) "llama-3-" ||
      Py.contains (Py.lower modelPath) "llama3-" then some "llama3"
  else none

def Llama3_1.match? (modelPath : String) : Option String :=
  if Py.contains (Py.lower modelPath) "llama-3.1-" ||
      Py.contains (Py.lower modelPath) "llama3.1-" then some "llama3_1"
  else if Py.contains (Py.lower modelPath) "llama-3.2-" ||
      Py.contains (Py.lower modelPath) "llama3.2-" then some "llama3_1"
  else none

def Qwen7BChat.match? (modelPath : String) : Option String :=
  let modelPath := Py.lower modelPath
  if Py.contains modelPath "qwen" &&
      !(["qwen2.5", "qwq", "qwen3"].any fun keyword => Py.contains modelPath keyword) then
    some "qwen"
  else if Py.contains modelPath "minicpm-v-2_6" then some "minicpmv-2d6"
  else if Py.contains modelPath "minicpm3-" then some "minicpm3"
  else none

def Qwen2d5Chat.match? (modelPath : String) : Option String :=
  let lowerPath := Py.lower modelPath
  if (Py.contains lowerPath "qwen2.5" || Py.contains lowerPath "qwen2_5") &&
      !Py.contains lowerPath "vl" then some "qwen2d5"
  else none

def Qwen2d5VL.match? (modelPath : String) : Option String :=
  let lowerPath := Py.lower modelPath
  if (Py.contains lowerPath "qwen2.5" || Py.contains lowerPath "qwen2_5") &&
      Py.contains lowerPath "vl" then some "qwen2d5-vl"
  else none

def QwQPreview.match? (modelPath : String) : Option String :=
  let lowerPath := Py.lower modelPath
  if Py.contains lowerPath "qwq" && Py.contains lowerPath "preview" then some "qwq_preview"
  else none

def QwQ.match? (modelPath : String) : Option String :=
  let lowerPath := Py.lower modelPath
  if Py.contains lowerPath "qwq" && !Py.contains lowerPath "preview" then some "qwq" else none

def Qwen3.match? (modelPath : String) : Option String :=
  if Py.contains (Py.lower modelPath) "qwen3" then some "qwen3" else none

def CodeLlama.match? (modelPath : String) : Option String :=
  if Py.contains (Py.lower modelPath) "codellama" then some "codellama" else none

/-- `ChatGLM2.match`: registered as `chatglm`, it matches paths naming `chatglm2`. -/
def ChatGLM2.match? (modelPath : String) : Option String :=
  if Py.contains (Py.lower modelPath) "chatglm2" then some "chatglm" else none

def SOLAR.match? (modelPath : String) : Option String :=
  if Py.contains (Py.lower modelPath) "solar" then some "solar" else none

def UltraChat.match? (modelPath : String) : Option String :=
  if Py.contains (Py.lower modelPath) "ultracm" then some "ultracm"
  else if Py.contains (Py.lower modelPath) "ultralm" then some "ultralm"
  else none

def Yi.match? (modelPath : String) : Option String :=
  let path := Py.lower modelPath
  if Py.contains path "yi" && !Py.contains path "vl" then some "yi" else none

def MistralChat.match? (modelPath : String) : Option String :=
  let modelPath := Py.lower modelPath
  if Py.contains modelPath "instruct" || Py.contains modelPath "llava" then
    if Py.contains modelPath "mistral" then some "mistral"
    else if Py.contains modelPath "mixtral" then some "mixtral"
    else none
  else none

def Gemma.match? (modelPath : String) : Option String :=
  if Py.contains (Py.lower modelPath) "gemma" then some "gemma" else none

def Deepseek.match? (modelPath : String) : Option String :=
  let path := Py.lower modelPath
  if Py.contains path "deepseek" && Py.contains path "chat" && !Py.contains path "vl" then
    some "deepseek"
  else none

def InternVLZH.match? (modelPath : String) : Option String :=
  let path := Py.lower modelPath
  if Py.contains path "internvl-chat" && Py.contains path "v1-1" then some "internvl-zh" else none

def DeepseekVL.match? (modelPath : String) : Option String :=
  let path := Py.lower modelPath
  if Py.contains path "deepseek-vl" && Py.contains path "chat" then some "deepseek-vl" else none

def DeepseekVL2.match? (modelPath : String) : Option String :=
  let path := Py.lower modelPath
  if Py.contains path "deepseek-vl2" then some "deepseek-vl2" else none

def DeepSeek.match? (modelPath : String) : Option String :=
  let path := Py.lower modelPath
  if Py.contains path "deepseek-coder" then some "deepseek-coder" else none

def YiVL.match? (modelPath : String) : Option String :=
  let path := Py.lower modelPath
  if Py.contains path "yi-vl" then some "yi-vl" else none

def ChatmlDirect.match? (modelPath : String) : Option String :=
  let path := Py.lower modelPath
  if Py.contains path "llava" && Py.contains path "v1.6-34b" then some "llava-chatml"
  else if Py.contains path "internvl-chat" && Py.contains path "v1-2" then
    some "internvl-zh-hermes2"
  else none

def Phi3Instruct.match? (modelPath : String) : Option String :=
  let path := Py.lower modelPath
  if ["phi-3", "instruct"].all (fun c => Py.contains path c) then some "phi-3"
  else if ["phi-4", "instruct"].all (fun c => Py.contains path c) then some "phi-4"
  else none

def InternVL2Phi3.match? (modelPath : String) : Option String :=
  let path := Py.lower modelPath
  if Py.contains path "internvl2-4b" then some "internvl2-phi3" else none

def ChatGLM3.match? (modelPath : String) : Option String :=
  let path := Py.lower modelPath
  if Py.contains path "chatglm3" then some "chatglm3" else none

def Glm4Chat.match? (modelPath : String) : Option String :=
  let path := Py.lower modelPath
  if Py.contains path "glm-4" then some "glm4" else none

def CodeGeeX4Chat.match? (modelPath : String) : Option String :=
  let path := Py.lower modelPath
  if Py.contains path "codegeex4" then some "codegeex4" else none

def InternVLPhi3.match? (modelPath : String) : Option String :=
  let path := Py.lower modelPath
  if ["mini-internvl-chat", "4b", "v1-5"].all (fun c => Py.contains path c) then
    some "internvl-phi3"
  else none

def Molmo.match? (modelPath : String) : Option String :=
  let path := Py.lower modelPath
  if Py.contains path "molmo" then some "molmo" else none

def Llama4.match? (modelPath : String) : Option String :=
  let path := Py.lower modelPath
  if Py.contains path "llama-4" then some "llama4" else none

def InternS1.match? (modelPath : String) : Option String :=
  let path := Py.lower modelPath
  if Py.contains path "intern-s1" || Py.contains path "interns1" then some "intern-s1" else none

/-- The classes `lmdeploy.model` registers in `MODELS`, in the order of the module, each by
the `match` it runs (its own or the one it inherits) and the names its decorators register
it under, in the order they run: the decorator nearest the class first. -/
def registered : List ((String → Option String) × List String) := [
  (BaseModel.match?, ["base", "llama"]),
  (DeepseekV3.match?, ["deepseek-v3"]),
  (DeepseekR1.match?, ["deepseek-r1"]),
  (CogVLM.match?, ["cogvlm"]),
  (CogVLM2.match?, ["cogvlm2"]),
  (Vicuna.match?, ["vicuna", "wizardlm"]),
  (Llavav1.match?, ["llava-v1"]),
  (InternLMChat7B.match?, ["internlm"]),
  (InternLM2Chat7B.match?, ["internlm2", "internlm3"]),
  (InternVLInternLM2Chat.match?, ["internvl-internlm2"]),
  (InternVL2InternLM2.match?, ["internvl2-internlm2"]),
  (InternVL2_5.match?, ["internvl2_5"]),
  (InternLMXComposer2Chat7B.match?, ["internlm-xcomposer2", "internlm-xcomposer2d5"]),
  (Baichuan2.match?, ["baichuan2"]),
  (Puyu.match?, ["puyu"]),
  (Llama2.match?, ["llama2"]),
  (Llama3.match?, ["llama3"]),
  (Llama3_1.match?, ["llama3_1", "llama3_2"]),
  (Qwen7BChat.match?, ["qwen", "minicpm3", "minicpmv-2d6"]),
  (Qwen2d5Chat.match?, ["qwen2d5"]),
  (Qwen2d5VL.match?, ["qwen2d5-vl"]),
  (QwQPreview.match?, ["qwq_preview"]),
  (QwQ.match?, ["qwq"]),
  (Qwen3.match?, ["qwen3"]),
  (CodeLlama.match?, ["codellama"]),
  (ChatGLM2.match?, ["chatglm"]),
  (SOLAR.match?, ["solar"]),
  (UltraChat.match?, ["ultracm", "ultralm"]),
  (Yi.match?, ["yi"]),
  (MistralChat.match?, ["mistral", "mixtral"]),
  (Gemma.match?, ["gemma"]),
  (Deepseek.match?, ["deepseek"]),
  (InternVLZH.match?, ["internvl-zh"]),
  (DeepseekVL.match?, ["deepseek-vl"]),
  (DeepseekVL2.match?, ["deepseek-vl2"]),
  (DeepSeek.match?, ["deepseek-coder"]),
  (YiVL.match?, ["yi-vl"]),
  (ChatmlDirect.match?, ["llava-chatml", "internvl-zh-hermes2"]),
  (Phi3Instruct.match?, ["phi-3", "phi-4"]),
  (InternVL2Phi3.match?, ["internvl2-phi3"]),
  (ChatGLM3.match?, ["chatglm3"]),
  (Glm4Chat.match?, ["glm4"]),
  (CodeGeeX4Chat.match?, ["codegeex4"]),
  (InternVLPhi3.match?, ["internvl-phi3"]),
  (Molmo.match?, ["molmo"]),
  (Llama4.match?, ["llama4"]),
  (InternS1.match?, ["interns1", "intern-s1"])]

/-- `MODELS.module_dict` after the import: every registered name with the `match` of its
class. -/
def moduleDict : List (String × (String → Option String)) :=
  registered.flatMap fun c => c.2.map (·, c.1)

/-- `MODELS.register_module(name, module=BaseChatTemplate)`, which `from_json` runs for a name
`MODELS` does not hold. -/
def registerModule (models : List (String × (String → Option String))) (name : String) :
    List (String × (String → Option String)) :=
  models ++ [(name, BaseModel.match?)]

/-- `best_match_model(query)` over the names `models` holds, in order: the first name a
class's `match` returns that is truthy, else `'base'`. -/
def bestMatchModel (models : List (String × (String → Option String))) (query : String) : String :=
  (models.findSome? fun e => (e.2 query).filter (· != "")).getD "base"

/-! ### The table -/

theorem registered_names_nodup : (registered.flatMap (·.2)).Nodup := by decide

theorem empty_not_mem_registered : "" ∉ registered.flatMap (·.2) := by decide

theorem registered_match_mem : ∀ c ∈ registered, ∀ q n, c.1 q = some n → n ∈ c.2 := by
  simp only [registered, List.forall_mem_cons, List.not_mem_nil, false_implies, implies_true,
    and_true]
  repeat' apply And.intro
  all_goals
    intro q n h
    simp only [BaseModel.match?, DeepseekV3.match?, DeepseekR1.match?, CogVLM.match?,
      CogVLM2.match?, Vicuna.match?, Llavav1.match?, InternLMChat7B.match?,
      InternLM2Chat7B.match?, InternVLInternLM2Chat.match?, InternVL2InternLM2.match?,
      InternVL2_5.match?, InternLMXComposer2Chat7B.match?, Baichuan2.match?, Puyu.match?,
      Llama2.match?, Llama3.match?, Llama3_1.match?, Qwen7BChat.match?, Qwen2d5Chat.match?,
      Qwen2d5VL.match?, QwQPreview.match?, QwQ.match?, Qwen3.match?, CodeLlama.match?,
      ChatGLM2.match?, SOLAR.match?, UltraChat.match?, Yi.match?, MistralChat.match?,
      Gemma.match?, Deepseek.match?, InternVLZH.match?, DeepseekVL.match?, DeepseekVL2.match?,
      DeepSeek.match?, YiVL.match?, ChatmlDirect.match?, Phi3Instruct.match?,
      InternVL2Phi3.match?, ChatGLM3.match?, Glm4Chat.match?, CodeGeeX4Chat.match?,
      InternVLPhi3.match?, Molmo.match?, Llama4.match?, InternS1.match?] at h
    first | cases h | (split_ifs at h <;> cases h <;> decide)

theorem moduleDict_names_perm : (moduleDict.map (·.1)).Perm (registry.map (·.1)) := by decide

/-! ### `best_match_model` -/

theorem lookup_map_of_mem {α : Type} {ns : List String} (m : α) {n : String} (hn : n ∈ ns) :
    (ns.map (·, m)).lookup n = some m := by
  induction ns with
  | nil => cases hn
  | cons a ns ih =>
    by_cases h : n = a
    · subst h; exact List.lookup_cons_self
    · rw [List.map_cons, List.lookup_cons, beq_false_of_ne h]
      exact ih ((List.mem_cons.1 hn).resolve_left h)

theorem lookup_map_of_not_mem {α : Type} {ns : List String} (m : α) {n : String} (hn : n ∉ ns) :
    (ns.map (·, m)).lookup n = none :=
  List.lookup_eq_none_iff.2 fun p hp => by
    obtain ⟨a, ha, rfl⟩ := List.mem_map.1 hp
    exact bne_iff_ne.2 fun h : n = a => hn (h ▸ ha)

theorem lookup_flatMap {α : Type} {tbl : List (α × List String)}
    (hnd : (tbl.flatMap (·.2)).Nodup) {c : α × List String} (hc : c ∈ tbl) {n : String}
    (hn : n ∈ c.2) : (tbl.flatMap fun c => c.2.map (·, c.1)).lookup n = some c.1 := by
  induction tbl with
  | nil => cases hc
  | cons d tbl ih =>
    rw [List.flatMap_cons, List.nodup_append] at hnd
    rw [List.flatMap_cons, List.lookup_append]
    rcases List.mem_cons.1 hc with rfl | hc
    · rw [lookup_map_of_mem _ hn, Option.or_some]
    · rw [lookup_map_of_not_mem _ fun h => hnd.2.2 h (List.mem_flatMap.2 ⟨c, hc, hn⟩),
        Option.none_or, ih hnd.2.1 hc]

theorem lookup_moduleDict {c : (String → Option String) × List String} (hc : c ∈ registered)
    {n : String} (hn : n ∈ c.2) : moduleDict.lookup n = some c.1 :=
  lookup_flatMap registered_names_nodup hc hn

theorem mem_moduleDict {e : String × (String → Option String)} (he : e ∈ moduleDict) :
    ∃ c ∈ registered, e.1 ∈ c.2 ∧ e.2 = c.1 := by
  obtain ⟨c, hc, he⟩ := List.mem_flatMap.1 he
  obtain ⟨a, ha, rfl⟩ := List.mem_map.1 he
  exact ⟨c, hc, ha, rfl⟩

theorem registry_lookup_isSome {n : String} {m : String → Option String}
    (h : moduleDict.lookup n = some m) : (registry.lookup n).isSome := by
  have hn : n ∈ moduleDict.map (·.1) := by
    obtain ⟨p, hp, hn⟩ := List.lookup_isSome_iff.1 (Option.isSome_iff_exists.2 ⟨m, h⟩)
    exact List.mem_map.2 ⟨p, hp, (beq_iff_eq.1 hn).symm⟩
  obtain ⟨p, hp, rfl⟩ := List.mem_map.1 (moduleDict_names_perm.mem_iff.1 hn)
  exact List.lookup_isSome_iff.2 ⟨p, hp, beq_self_eq_true _⟩

theorem foldl_registerModule (models : List (String × (String → Option String)))
    (names : List String) :
    names.foldl registerModule models = models ++ names.map (·, BaseModel.match?) := by
  induction names generalizing models with
  | nil => simp
  | cons a names ih => simp [ih, registerModule]

theorem bestMatchModel_append_base (models : List (String × (String → Option String)))
    (names : List String) (query : String) :
    bestMatchModel (models ++ names.map (·, BaseModel.match?)) query =
      bestMatchModel models query := by
  have hnone : (names.map (·, BaseModel.match?)).findSome?
      (fun e => (e.2 query).filter (· != "")) = none :=
    List.findSome?_eq_none_iff.2 fun _ he => by obtain ⟨_, -, rfl⟩ := List.mem_map.1 he; rfl
  rw [bestMatchModel, bestMatchModel, List.findSome?_append, hnone, Option.or_none]

/-- What `best_match_model` returns over the table: a name whose class matches the query to
that very name, or `'base'` when no class matches it. -/
theorem bestMatchModel_cases (query : String) :
    (∃ m, moduleDict.lookup (bestMatchModel moduleDict query) = some m ∧
        m query = some (bestMatchModel moduleDict query)) ∨
      bestMatchModel moduleDict query = "base" ∧ ∀ e ∈ moduleDict, e.2 query = none := by
  unfold bestMatchModel
  cases h : moduleDict.findSome? fun e => (e.2 query).filter (· != "") with
  | some n =>
    obtain ⟨e, he, hf⟩ := List.exists_of_findSome?_eq_some h
    obtain ⟨c, hc, -, hec⟩ := mem_moduleDict he
    have hm : c.1 query = some n := hec ▸ (Option.filter_eq_some.1 hf).1
    exact .inl ⟨c.1, lookup_moduleDict hc (registered_match_mem c hc _ _ hm), hm⟩
  | none =>
    refine .inr ⟨rfl, fun e he => ?_⟩
    obtain ⟨c, hc, -, hec⟩ := mem_moduleDict he
    have hnone := List.findSome?_eq_none_iff.1 h e he
    rcases hq : e.2 query with _ | n
    · rfl
    · have hn : n ∈ c.2 := registered_match_mem c hc _ _ (hec ▸ hq)
      have hempty : n = "" := by simpa [hq] using hnone
      exact absurd (List.mem_flatMap.2 ⟨c, hc, hempty ▸ hn⟩) empty_not_mem_registered

/-- Whatever the query, and whatever names `from_json` has registered since the import,
`best_match_model` returns a name `MODELS` holds and `registry` constructs: either a name
whose class, by the `match` it runs, matches the query to that very name, or `'base'` when
no class matches it. The names `from_json` registers never change the answer. -/
theorem best_match_model_names_its_class (names : List String) (query : String) :
    bestMatchModel (names.foldl registerModule moduleDict) query =
        bestMatchModel moduleDict query ∧
      (registry.lookup (bestMatchModel moduleDict query)).isSome ∧
      ((∃ m, moduleDict.lookup (bestMatchModel moduleDict query) = some m ∧
          m query = some (bestMatchModel moduleDict query)) ∨
        bestMatchModel moduleDict query = "base" ∧ ∀ e ∈ moduleDict, e.2 query = none) := by
  refine ⟨by rw [foldl_registerModule, bestMatchModel_append_base], ?_, bestMatchModel_cases query⟩
  rcases bestMatchModel_cases query with ⟨m, hm, -⟩ | ⟨hbase, -⟩
  · exact registry_lookup_isSome hm
  · rw [hbase]; rfl

example : bestMatchModel moduleDict "internlm/internlm2-chat-7b" = "internlm2" := by decide

end Lmdeploy.Template
