import Lmdeploy.Template.Message

/-! The attributes of a chat template object. Every class of `lmdeploy/model.py` that
derives from `BaseChatTemplate` keeps its markers in the same attributes and differs
from its parent only in their defaults and in which methods it overrides; so a template
is a `Kind` (the methods it runs) with its `Fields` (the attributes they read). An
attribute a kind never reads is still present here, and its value does not matter. -/
namespace Lmdeploy.Template

structure Fields where
  system : String
  /-- `None` is different from `''`: no system header at all. -/
  metaInstruction : Option String
  eosys : String
  user : String
  eoh : String
  assistant : String
  eoa : String
  separator : String
  tool : String
  eotool : String
  capability : String
  environment : String
  plugin : String
  interpreter : String
  eoenv : String
  ipython : String
  eoi : String
  knowledge : String
  tools : String
  eotools : String
  start : String
  suffixFirst : Bool
  deriving DecidableEq, Repr

/-- The methods a template class runs, named after the class that defines them. -/
inductive Kind
  /-- `BaseChatTemplate`'s own `get_prompt` and `messages2prompt`. -/
  | base
  | deepseekV3
  | deepseekR1
  /-- `Vicuna`, `Llavav1`, `Deepseek`, `DeepseekVL`, `InternVLZH`: the same two overrides. -/
  | vicuna
  | deepseekVL2
  /-- `InternLM2Chat7B` and the InternVL templates that derive from it. -/
  | internLM2
  | internS1
  | llama3
  | llama3_1
  /-- `Qwen2d5Chat`, `Qwen2d5VL`, `QwQPreview`. -/
  | qwen2d5
  | qwq
  | qwen3
  | codeLlama
  /-- `ChatGLM3` and `Glm4Chat`. -/
  | chatGLM3
  deriving DecidableEq, Repr

structure ChatTemplate where
  kind : Kind
  fields : Fields
  deriving DecidableEq, Repr

/-- `ChatGLM2`, which derives from `BaseModel` only; `count` is its round counter, which
`get_prompt` advances. -/
structure ChatGLM2 where
  user : String
  eoh : String
  assistant : String
  eoa : String
  capability : String
  count : Nat
  deriving DecidableEq, Repr

def BaseChatTemplate.defaults : Fields where
  system := ""
  metaInstruction := some ""
  eosys := ""
  user := ""
  eoh := ""
  assistant := ""
  eoa := ""
  separator := ""
  tool := ""
  eotool := ""
  capability := "chat"
  environment := ""
  plugin := ""
  interpreter := ""
  eoenv := ""
  ipython := ""
  eoi := ""
  knowledge := ""
  tools := ""
  eotools := ""
  start := ""
  suffixFirst := false

end Lmdeploy.Template
