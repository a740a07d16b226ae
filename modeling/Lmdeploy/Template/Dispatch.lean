import Lmdeploy.Template.Render.InternLM2
import Lmdeploy.Template.Render.Llama
import Lmdeploy.Template.Render.Qwen

/-! Method dispatch: which `get_prompt` and `messages2prompt` a template object runs. The
renderers that do not write into the caller's list hand it back unchanged. -/
namespace Lmdeploy.Template

variable {J : Type}

namespace ChatTemplate

/-- `t.get_prompt(prompt, sequence_start)`; `none` where it raises. -/
def getPrompt (t : ChatTemplate) (prompt : String) (sequenceStart : Bool) : Option String :=
  let f := t.fields
  match t.kind with
  | .base | .internLM2 | .internS1 | .qwen2d5 | .qwq | .qwen3 =>
    some (BaseChatTemplate.getPrompt f prompt sequenceStart)
  | .deepseekV3 | .deepseekR1 => some (DeepseekV3.getPrompt f prompt sequenceStart)
  | .vicuna => some (Vicuna.getPrompt f prompt sequenceStart)
  | .deepseekVL2 => some (DeepseekVL2.getPrompt f prompt sequenceStart)
  | .llama3 | .llama3_1 => some (Llama3.getPrompt f prompt sequenceStart)
  | .codeLlama => CodeLlama.getPrompt f prompt sequenceStart
  | .chatGLM3 => some (ChatGLM3.getPrompt f prompt sequenceStart)

/-- `t.messages2prompt(messages, sequence_start, tools=tools, enable_thinking=...)` on a
message list: the prompt and the caller's list afterwards; `none` where it raises. -/
def messages2prompt (lib : Lib J) (t : ChatTemplate) (messages : List (Message J))
    (sequenceStart : Bool) (tools : Option (List J)) (enableThinking : Option Bool) :
    Option (String × List (Message J)) :=
  let f := t.fields
  let unchanged := fun (s : String) => (s, messages)
  match t.kind with
  | .base | .codeLlama => unchanged <$> BaseChatTemplate.messages2prompt f messages sequenceStart
  | .deepseekV3 => unchanged <$> DeepseekV3.messages2prompt f messages sequenceStart
  | .deepseekR1 => unchanged <$> DeepseekR1.messages2prompt f messages sequenceStart
  | .vicuna => unchanged <$> Vicuna.messages2prompt f messages sequenceStart
  | .deepseekVL2 => unchanged <$> DeepseekVL2.messages2prompt f messages sequenceStart
  | .internLM2 => InternLM2Chat7B.messages2prompt lib f messages sequenceStart tools
  | .internS1 => InternS1.messages2prompt lib f messages sequenceStart tools enableThinking
  | .llama3 => unchanged <$> Llama3.messages2prompt f messages sequenceStart
  | .llama3_1 => unchanged <$> Llama3_1.messages2prompt lib f messages sequenceStart tools
  | .qwen2d5 => Qwen2d5Chat.messages2prompt lib f messages sequenceStart tools
  | .qwq => QwQ.messages2prompt lib f messages sequenceStart tools
  | .qwen3 => Qwen3.messages2prompt lib f messages sequenceStart tools enableThinking
  | .chatGLM3 => unchanged <$> ChatGLM3.messages2prompt f messages sequenceStart

end ChatTemplate

end Lmdeploy.Template
