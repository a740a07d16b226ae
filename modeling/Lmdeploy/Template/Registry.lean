import Lmdeploy.Template.Fields

/-! The registered template classes of `lmdeploy/model.py` with the defaults of their
constructors. Each class overrides its parent's defaults as its `__init__` does;
`ChatTemplateConfig` may override any of them again, which is why the theorems about a kind
hold for every value of its fields. -/
namespace Lmdeploy.Template

def DeepseekV3.defaults : Fields :=
  { BaseChatTemplate.defaults with
    user := "<｜User｜>",
    assistant := "<｜Assistant｜>",
    eoa := "<｜end▁of▁sentence｜>" }

def DeepseekR1.defaults : Fields :=
  DeepseekV3.defaults

def CogVLM.defaults : Fields :=
  { BaseChatTemplate.defaults with
    metaInstruction := some "",
    eosys := "",
    user := "Question: ",
    separator := "\n",
    eoh := " ",
    assistant := "Answer:",
    eoa := "</s>" }

def CogVLM2.defaults : Fields :=
  { CogVLM.defaults with
    eoa := "<|end_of_text|>" }

def Vicuna.defaults : Fields :=
  { BaseChatTemplate.defaults with
    metaInstruction := some "A chat between a curious user and an artificial intelligence assistant. The assistant gives helpful, detailed, and polite answers to the user\x27s questions.",
    eosys := " ",
    user := "USER: ",
    eoh := " ",
    assistant := "ASSISTANT: ",
    eoa := "</s>" }

def Llavav1.defaults : Fields :=
  { Vicuna.defaults with
    metaInstruction := some "A chat between a curious human and an artificial intelligence assistant. The assistant gives helpful, detailed, and polite answers to the human\x27s questions." }

def InternLMChat7B.defaults : Fields :=
  { BaseChatTemplate.defaults with
    system := "<|System|>:",
    metaInstruction := some "You are an AI assistant whose name is InternLM (书生·浦语).\n- InternLM (书生·浦语) is a conversational language model that is developed by Shanghai AI Laboratory (上海人工智能实验室). It is designed to be helpful, honest, and harmless.\n- InternLM (书生·浦语) can understand and communicate fluently in the language chosen by the user such as English and 中文.\n",
    eosys := "\n",
    user := "<|User|>:",
    eoh := "\n",
    assistant := "<|Bot|>:",
    eoa := "<eoa>",
    separator := "\n" }

def InternLM2Chat7B.defaults : Fields :=
  { InternLMChat7B.defaults with
    system := "<|im_start|>system\n",
    user := "<|im_start|>user\n",
    assistant := "<|im_start|>assistant\n",
    environment := "<|im_start|>environment\n",
    plugin := "<|plugin|>",
    interpreter := "<|interpreter|>",
    eosys := "<|im_end|>\n",
    eoh := "<|im_end|>\n",
    eoa := "<|im_end|>",
    eoenv := "<|im_end|>\n",
    separator := "\n" }

def InternVLInternLM2Chat.defaults : Fields :=
  { InternLM2Chat7B.defaults with
    metaInstruction := some "You are an AI assistant whose name is InternLM (书生·浦语)." }

def InternVL2InternLM2.defaults : Fields :=
  { InternLM2Chat7B.defaults with
    metaInstruction := some "你是由上海人工智能实验室联合商汤科技开发的书生多模态大模型，英文名叫InternVL, 是一个有用无害的人工智能助手。",
    eosys := "<|im_end|>",
    eoh := "<|im_end|>",
    separator := "" }

def InternVL2_5.defaults : Fields :=
  { InternLM2Chat7B.defaults with
    metaInstruction := some "你是书生·万象，英文名是InternVL，是由上海人工智能实验室、清华大学及多家合作单位联合开发的多模态大语言模型。" }

def InternLMXComposer2Chat7B.defaults : Fields :=
  { InternLMChat7B.defaults with
    system := "[UNUSED_TOKEN_146]system\n",
    metaInstruction := some "You are an AI assistant whose name is InternLM-XComposer (浦语·灵笔).\n- InternLM-XComposer (浦语·灵笔) is a multi-modality conversational language model that is developed by Shanghai AI Laboratory (上海人工智能实验室). It is designed to be helpful, honest, and harmless.\n- InternLM-XComposer (浦语·灵笔) can understand and communicate fluently in the language chosen by the user such as English and 中文.\n- InternLM-XComposer (浦语·灵笔) is capable of comprehending and articulating responses effectively based on the provided image.",
    user := "[UNUSED_TOKEN_146]user\n",
    assistant := "[UNUSED_TOKEN_146]assistant\n",
    eosys := "[UNUSED_TOKEN_145]\n",
    eoh := "[UNUSED_TOKEN_145]\n",
    eoa := "[UNUSED_TOKEN_145]\n",
    separator := "\n" }

def Baichuan2.defaults : Fields :=
  { BaseChatTemplate.defaults with
    user := "<reserved_106>",
    assistant := "<reserved_107>" }

def Puyu.defaults : Fields :=
  { BaseChatTemplate.defaults with
    metaInstruction := some "",
    system := "",
    eosys := "",
    user := "",
    eoh := "",
    assistant := "",
    eoa := "" }

def Llama2.defaults : Fields :=
  { BaseChatTemplate.defaults with
    system := "[INST] <<SYS>>\n",
    metaInstruction := some "You are a helpful, respectful and honest assistant. Always answer as helpfully as possible, while being safe. Your answers should not include any harmful, unethical, racist, sexist, toxic, dangerous, or illegal content. Please ensure that your responses are socially unbiased and positive in nature.\n\nIf a question does not make any sense, or is not factually coherent, explain why instead of answering something not correct. If you don\x27t know the answer to a question, please don\x27t share false information.",
    eosys := "\n<</SYS>>\n\n",
    assistant := " [/INST] ",
    eoa := "</s>",
    separator := "<s>[INST] " }

def Llama3.defaults : Fields :=
  { BaseChatTemplate.defaults with
    system := "<|start_header_id|>system<|end_header_id|>\n\n",
    metaInstruction := none,
    eosys := "<|eot_id|>",
    assistant := "<|start_header_id|>assistant<|end_header_id|>\n\n",
    eoa := "<|eot_id|>",
    user := "<|start_header_id|>user<|end_header_id|>\n\n",
    eoh := "<|eot_id|>" }

def Llama3_1.defaults : Fields :=
  { Llama3.defaults with
    tool := "# Tool Instructions\n- Always execute python code in messages that you share.\n- When looking for real time information use relevant functions if available else fallback to brave_search\n\n\n\nYou have access to the following functions:\n\n",
    eotool := "\n\nIf a you choose to call a function ONLY reply in the following format:\n<\x7bstart_tag\x7d=\x7bfunction_name\x7d>\x7bparameters\x7d\x7bend_tag\x7d\nwhere\n\nstart_tag => \x60<function\x60\nparameters => a JSON dict with the function argument name as key and function argument value as value.\nend_tag => \x60</function>\x60\n\nHere is an example,\n<function=example_function_name>\x7b\"example_name\": \"example_value\"\x7d</function>\n\nReminder:\n- Function calls MUST follow the specified format\n- Required parameters MUST be specified\n- Only call one function at a time\n- Put the entire function call reply on one line\"\n- Always add your sources when using search results to answer the user query\n\n",
    knowledge := "Cutting Knowledge Date: December 2023\nToday Date: 26 Jul 2024\n\n",
    metaInstruction := some "You are a helpful assistant.",
    ipython := "<|start_header_id|>ipython<|end_header_id|>\n\n",
    eoi := "<|eot_id|>" }

def Qwen7BChat.defaults : Fields :=
  { BaseChatTemplate.defaults with
    system := "<|im_start|>system\n",
    metaInstruction := some "You are a helpful assistant.",
    eosys := "<|im_end|>\n",
    user := "<|im_start|>user\n",
    eoh := "<|im_end|>\n",
    assistant := "<|im_start|>assistant\n",
    eoa := "<|im_end|>",
    separator := "\n" }

def Qwen2d5Chat.defaults : Fields :=
  { Qwen7BChat.defaults with
    system := "<|im_start|>system\n",
    metaInstruction := some "You are Qwen, created by Alibaba Cloud. You are a helpful assistant.",
    eosys := "<|im_end|>\n",
    user := "<|im_start|>user\n",
    eoh := "<|im_end|>\n",
    assistant := "<|im_start|>assistant\n",
    eoa := "<|im_end|>",
    separator := "\n",
    tools := "\n\n# Tools\n\nYou may call one or more functions to assist with the user query.\n\nYou are provided with function signatures within <tools></tools> XML tags:\n<tools>",
    eotools := "\n</tools>\n\nFor each function call, return a json object with function name and arguments within <tool_call></tool_call> XML tags:\n<tool_call>\n\x7b\"name\": <function-name>, \"arguments\": <args-json-object>\x7d\n</tool_call>" }

def Qwen2d5VL.defaults : Fields :=
  { Qwen2d5Chat.defaults with
    metaInstruction := some "You are a helpful assistant." }

def QwQPreview.defaults : Fields :=
  { Qwen2d5Chat.defaults with
    metaInstruction := some "You are a helpful and harmless assistant. You are Qwen developed by Alibaba. You should think step-by-step." }

def QwQ.defaults : Fields :=
  { Qwen2d5Chat.defaults with
    metaInstruction := some "" }

def Qwen3.defaults : Fields :=
  { Qwen2d5Chat.defaults with
    metaInstruction := some "" }

def CodeLlama.defaults : Fields :=
  { Llama2.defaults with
    metaInstruction := some "",
    suffixFirst := false }

def SOLAR.defaults : Fields :=
  { BaseChatTemplate.defaults with
    system := "### System:\n",
    eosys := "\n\n",
    user := "### User:\n",
    eoh := "\n\n",
    assistant := "### Assistant:\n",
    metaInstruction := some "" }

def UltraChat.defaults : Fields :=
  { BaseChatTemplate.defaults with
    system := "User: ",
    metaInstruction := some "A one-turn chat between a curious user and an artificial intelligence assistant. The assistant gives helpful, very detailed, and polite answers to the user\x27s questions.",
    eosys := "</s>\n",
    user := "User: ",
    eoh := "</s>\n",
    assistant := "Assistant: ",
    eoa := "</s>",
    separator := "\n" }

def Yi.defaults : Fields :=
  { BaseChatTemplate.defaults with
    system := "<|im_start|>system\n",
    metaInstruction := none,
    eosys := "<|im_end|>\n",
    user := "<|im_start|>user\n",
    eoh := "<|im_end|>\n",
    assistant := "<|im_start|>assistant\n",
    eoa := "<|im_end|>",
    separator := "\n" }

def MistralChat.defaults : Fields :=
  { BaseChatTemplate.defaults with
    user := "[INST] ",
    eoh := " [/INST]",
    eoa := "</s>" }

def Gemma.defaults : Fields :=
  { BaseChatTemplate.defaults with
    user := "<start_of_turn>user\n",
    eoh := "<end_of_turn>\n",
    assistant := "<start_of_turn>model\n",
    eoa := "<end_of_turn>\n" }

def Deepseek.defaults : Fields :=
  { BaseChatTemplate.defaults with
    eosys := "\n\n",
    user := "User: ",
    eoh := "\n\n",
    assistant := "Assistant: ",
    eoa := "<｜end▁of▁sentence｜>" }

def InternVLZH.defaults : Fields :=
  { BaseChatTemplate.defaults with
    user := "<human>: ",
    eoh := " ",
    assistant := "<bot>: ",
    eoa := "</s>" }

def DeepseekVL.defaults : Fields :=
  { BaseChatTemplate.defaults with
    metaInstruction := some "You are a helpful language and vision assistant. You are able to understand the visual content that the user provides, and assist the user with a variety of tasks using natural language.",
    eosys := "\n\n",
    user := "User: ",
    eoh := "\n\n",
    assistant := "Assistant: ",
    eoa := "<｜end▁of▁sentence｜>" }

def DeepseekVL2.defaults : Fields :=
  { BaseChatTemplate.defaults with
    metaInstruction := some "",
    eosys := "",
    user := "<|User|>: ",
    eoh := "\n\n",
    assistant := "<|Assistant|>: ",
    eoa := "<｜end▁of▁sentence｜>" }

def DeepSeek.defaults : Fields :=
  { BaseChatTemplate.defaults with
    system := "",
    metaInstruction := some "You are an AI programming assistant, utilizing the Deepseek Coder model, developed by Deepseek Company, and you only answer questions related to computer science. For politically sensitive questions, security and privacy issues, and other non-computer science questions, you will refuse to answer\n",
    eosys := "",
    user := "### Instruction:\n",
    eoh := "\n",
    assistant := "### Response:\n",
    eoa := "\n<|EOT|>",
    separator := "\n" }

def YiVL.defaults : Fields :=
  { BaseChatTemplate.defaults with
    metaInstruction := some "This is a chat between an inquisitive human and an AI assistant. Assume the role of the AI assistant. Read all the images carefully, and respond to the human\x27s questions with informative, helpful, detailed and polite answers. 这是一个好奇的人类和一个人工智能助手之间的对话。假设你扮演这个AI助手的角色。仔细阅读所有的图像，并对人类的问题做出信息丰富、有帮助、详细的和礼貌的回答。\n\n",
    user := "### Human: ",
    eoh := "\n",
    assistant := "### Assistant:",
    eoa := "\n" }

def ChatmlDirect.defaults : Fields :=
  { BaseChatTemplate.defaults with
    system := "<|im_start|>system\n",
    metaInstruction := some "Answer the questions.",
    eosys := "<|im_end|>",
    user := "<|im_start|>user\n",
    eoh := "<|im_end|>",
    assistant := "<|im_start|>assistant\n",
    eoa := "<|im_end|>",
    separator := "" }

def Phi3Instruct.defaults : Fields :=
  { BaseChatTemplate.defaults with
    system := "<|system|>\n",
    metaInstruction := none,
    eosys := "<|end|>\n",
    user := "<|user|>\n",
    eoh := "<|end|>\n",
    assistant := "<|assistant|>\n",
    eoa := "<|end|>\n",
    separator := "" }

def InternVL2Phi3.defaults : Fields :=
  { Phi3Instruct.defaults with
    metaInstruction := some "你是由上海人工智能实验室联合商汤科技开发的书生多模态大模型，英文名叫InternVL, 是一个有用无害的人工智能助手。" }

def ChatGLM3.defaults : Fields :=
  { BaseChatTemplate.defaults with
    system := "<|system|>\n ",
    metaInstruction := none,
    eosys := "",
    user := "<|user|>\n ",
    eoh := "",
    assistant := "<|assistant|>\n ",
    eoa := "",
    separator := "",
    start := "[gMASK]sop" }

def Glm4Chat.defaults : Fields :=
  { ChatGLM3.defaults with
    system := "<|system|>\n",
    user := "<|user|>\n",
    assistant := "<|assistant|>\n",
    start := "[gMASK]<sop>" }

def CodeGeeX4Chat.defaults : Fields :=
  { BaseChatTemplate.defaults with
    system := "<|system|>\n",
    metaInstruction := some "你是一位智能编程助手，你叫CodeGeeX。你会为用户回答关于编程、代码、计算机方面的任何问题，并提供格式规范、可以执行、准确安全的代码，并在必要时提供详细的解释。",
    eosys := "",
    user := "<|user|>\n",
    eoh := "",
    assistant := "<|assistant|>\n",
    eoa := "",
    separator := "" }

def InternVLPhi3.defaults : Fields :=
  { Phi3Instruct.defaults with
    metaInstruction := some "You are an AI assistant whose name is Phi-3.",
    eosys := "<|end|>",
    eoh := "<|end|>",
    eoa := "<|end|>",
    separator := "" }

def Molmo.defaults : Fields :=
  { BaseChatTemplate.defaults with
    user := " User: ",
    eoh := "",
    assistant := " Assistant:",
    eoa := "",
    separator := " " }

def Llama4.defaults : Fields :=
  { BaseChatTemplate.defaults with
    system := "<|header_start|>system<|header_end|>\n\n",
    user := "<|header_start|>user<|header_end|>\n\n",
    assistant := "<|header_start|>assistant<|header_end|>\n\n",
    eosys := "<|eot|>",
    eoh := "<|eot|>",
    eoa := "<|eot|>",
    separator := "" }

def InternS1.defaults : Fields :=
  { InternLM2Chat7B.defaults with
    tool := "\n\nYour response should consist of a reasoning step (**thought**) followed immediately by a function call in valid JSON format. Wrap each function call using the \x60<|action_start|><|plugin|>\x60 and \x60<|action_end|>\x60 tags.\n\n**Format example:**\n\n\x60\x60\x60\n(Your thought goes here...)\n\n<|action_start|><|plugin|>\n\x7b\n    \"name\": \"tool_name\",\n    \"parameters\": \x7b\n        \"parameter1\": \"value1\",\n        \"parameter2\": \"value2\"\n    \x7d\n\x7d\n<|action_end|>\n\x60\x60\x60\n\n# External Tools\nYou have access to these tools:\n",
    eotool := "",
    metaInstruction := some "You are an expert reasoner with extensive experience in all areas. You approach problems through systematic thinking and rigorous reasoning. Your response should reflect deep understanding and precise logical thinking, making your solution path and reasoning clear to others. Please put your thinking process within <think>...</think> tags." }
def ChatGLM2.defaults : ChatGLM2 where
  user := "问："
  eoh := "\n\n"
  assistant := "答："
  eoa := "\n\n"
  capability := "chat"
  count := 0

/-- What a registered name constructs: `BaseModel`, a `BaseChatTemplate` descendant, or
`ChatGLM2`. -/
inductive Registered
  | baseModel
  | chat (t : ChatTemplate)
  | chatGLM2 (c : ChatGLM2)

def registry : List (String × Registered) := [
  ("llama", .baseModel),
  ("base", .baseModel),
  ("deepseek-v3", .chat ⟨.deepseekV3, DeepseekV3.defaults⟩),
  ("deepseek-r1", .chat ⟨.deepseekR1, DeepseekR1.defaults⟩),
  ("cogvlm", .chat ⟨.base, CogVLM.defaults⟩),
  ("cogvlm2", .chat ⟨.base, CogVLM2.defaults⟩),
  ("wizardlm", .chat ⟨.vicuna, Vicuna.defaults⟩),
  ("vicuna", .chat ⟨.vicuna, Vicuna.defaults⟩),
  ("llava-v1", .chat ⟨.vicuna, Llavav1.defaults⟩),
  ("internlm", .chat ⟨.base, InternLMChat7B.defaults⟩),
  ("internlm3", .chat ⟨.internLM2, InternLM2Chat7B.defaults⟩),
  ("internlm2", .chat ⟨.internLM2, InternLM2Chat7B.defaults⟩),
  ("internvl-internlm2", .chat ⟨.internLM2, InternVLInternLM2Chat.defaults⟩),
  ("internvl2-internlm2", .chat ⟨.internLM2, InternVL2InternLM2.defaults⟩),
  ("internvl2_5", .chat ⟨.internLM2, InternVL2_5.defaults⟩),
  ("internlm-xcomposer2", .chat ⟨.base, InternLMXComposer2Chat7B.defaults⟩),
  ("internlm-xcomposer2d5", .chat ⟨.base, InternLMXComposer2Chat7B.defaults⟩),
  ("baichuan2", .chat ⟨.base, Baichuan2.defaults⟩),
  ("puyu", .chat ⟨.base, Puyu.defaults⟩),
  ("llama2", .chat ⟨.base, Llama2.defaults⟩),
  ("llama3", .chat ⟨.llama3, Llama3.defaults⟩),
  ("llama3_1", .chat ⟨.llama3_1, Llama3_1.defaults⟩),
  ("llama3_2", .chat ⟨.llama3_1, Llama3_1.defaults⟩),
  ("minicpmv-2d6", .chat ⟨.base, Qwen7BChat.defaults⟩),
  ("minicpm3", .chat ⟨.base, Qwen7BChat.defaults⟩),
  ("qwen", .chat ⟨.base, Qwen7BChat.defaults⟩),
  ("qwen2d5", .chat ⟨.qwen2d5, Qwen2d5Chat.defaults⟩),
  ("qwen2d5-vl", .chat ⟨.qwen2d5, Qwen2d5VL.defaults⟩),
  ("qwq_preview", .chat ⟨.qwen2d5, QwQPreview.defaults⟩),
  ("qwq", .chat ⟨.qwq, QwQ.defaults⟩),
  ("qwen3", .chat ⟨.qwen3, Qwen3.defaults⟩),
  ("codellama", .chat ⟨.codeLlama, CodeLlama.defaults⟩),
  ("chatglm", .chatGLM2 ChatGLM2.defaults),
  ("solar", .chat ⟨.base, SOLAR.defaults⟩),
  ("ultracm", .chat ⟨.base, UltraChat.defaults⟩),
  ("ultralm", .chat ⟨.base, UltraChat.defaults⟩),
  ("yi", .chat ⟨.base, Yi.defaults⟩),
  ("mistral", .chat ⟨.base, MistralChat.defaults⟩),
  ("mixtral", .chat ⟨.base, MistralChat.defaults⟩),
  ("gemma", .chat ⟨.base, Gemma.defaults⟩),
  ("deepseek", .chat ⟨.vicuna, Deepseek.defaults⟩),
  ("internvl-zh", .chat ⟨.vicuna, InternVLZH.defaults⟩),
  ("deepseek-vl", .chat ⟨.vicuna, DeepseekVL.defaults⟩),
  ("deepseek-vl2", .chat ⟨.deepseekVL2, DeepseekVL2.defaults⟩),
  ("deepseek-coder", .chat ⟨.base, DeepSeek.defaults⟩),
  ("yi-vl", .chat ⟨.base, YiVL.defaults⟩),
  ("llava-chatml", .chat ⟨.base, ChatmlDirect.defaults⟩),
  ("internvl-zh-hermes2", .chat ⟨.base, ChatmlDirect.defaults⟩),
  ("phi-4", .chat ⟨.base, Phi3Instruct.defaults⟩),
  ("phi-3", .chat ⟨.base, Phi3Instruct.defaults⟩),
  ("internvl2-phi3", .chat ⟨.base, InternVL2Phi3.defaults⟩),
  ("chatglm3", .chat ⟨.chatGLM3, ChatGLM3.defaults⟩),
  ("glm4", .chat ⟨.chatGLM3, Glm4Chat.defaults⟩),
  ("codegeex4", .chat ⟨.base, CodeGeeX4Chat.defaults⟩),
  ("internvl-phi3", .chat ⟨.base, InternVLPhi3.defaults⟩),
  ("molmo", .chat ⟨.base, Molmo.defaults⟩),
  ("llama4", .chat ⟨.base, Llama4.defaults⟩),
  ("intern-s1", .chat ⟨.internS1, InternS1.defaults⟩),
  ("interns1", .chat ⟨.internS1, InternS1.defaults⟩)]

end Lmdeploy.Template
