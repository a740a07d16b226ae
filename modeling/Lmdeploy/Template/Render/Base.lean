import Lmdeploy.Template.Fields

/-! `BaseChatTemplate.get_prompt` and `messages2prompt`, and the classes that only wrap
them: a marker put in front (`DeepseekV3`, `Llama3`, `ChatGLM3`), a tag put after
(`DeepseekR1`), the last character cut (`Vicuna` and its siblings, `DeepseekVL2`), and the
capability switch of `CodeLlama`. `ChatGLM2`, which has its own methods, ends the file. -/
namespace Lmdeploy.Template

variable {J : Type}

namespace BaseChatTemplate

def getPrompt (f : Fields) (prompt : String) (sequenceStart : Bool) : String :=
  if f.capability = "completion" then prompt
  else if sequenceStart then
    match f.metaInstruction with
    | some mi => f.system ++ mi ++ f.eosys ++ f.user ++ prompt ++ f.eoh ++ f.assistant
    | none => f.user ++ prompt ++ f.eoh ++ f.assistant
  else f.separator ++ f.user ++ prompt ++ f.eoh ++ f.assistant

def boxMap (f : Fields) : Role → Option String
  | .user => some f.user
  | .assistant => some f.assistant
  | .system => some f.system
  | .tool => some f.tool
  | _ => none

def eoxMap (f : Fields) : Role → Option String
  | .user => some f.eoh
  | .assistant => some (f.eoa ++ f.separator)
  | .system => some f.eosys
  | .tool => some f.eotool
  | _ => none

/-- The system header written when `meta_instruction` is set, at the start of a session,
unless the conversation brings its own system message. -/
def header (f : Fields) (messages : List (Message J)) (sequenceStart : Bool) : String :=
  match f.metaInstruction, sequenceStart, messages.head? with
  | some mi, true, some m => if m.role ≠ .system then f.system ++ mi ++ f.eosys else ""
  | _, _, _ => ""

/-- The body of the loop: `f'{box_map[role]}{content}{eox_map[role]}'`. -/
def renderMessage (f : Fields) (m : Message J) : Option String := do
  let box ← boxMap f m.role
  let content ← getText m.content
  let eox ← eoxMap f m.role
  pure (box ++ content ++ eox)

def endsWithAssistant (messages : List (Message J)) : Bool :=
  messages.getLast?.map (·.role) = some .assistant

def messages2prompt (f : Fields) (messages : List (Message J)) (sequenceStart : Bool) :
    Option String := do
  let body ← renderAll (renderMessage f) messages
  let ret := header f messages sequenceStart ++ body
  if endsWithAssistant messages ∧ 0 < (f.eoa ++ f.separator).length then
    -- prefix of response
    pure (Py.sliceNeg ret (f.eoa ++ f.separator).length)
  else pure (ret ++ f.assistant)

end BaseChatTemplate

/-- `DeepseekV3` and `Llama3`: a begin-of-sequence marker in front of both methods when
`sequence_start`. -/
def prefixOnStart (bos : String) (sequenceStart : Bool) (s : String) : String :=
  if sequenceStart then bos ++ s else s

def DeepseekV3.bos : String := "<｜begin▁of▁sentence｜>"

def DeepseekV3.getPrompt (f : Fields) (prompt : String) (sequenceStart : Bool) : String :=
  prefixOnStart DeepseekV3.bos sequenceStart (BaseChatTemplate.getPrompt f prompt sequenceStart)

def DeepseekV3.messages2prompt (f : Fields) (messages : List (Message J))
    (sequenceStart : Bool) : Option String :=
  prefixOnStart DeepseekV3.bos sequenceStart <$>
    BaseChatTemplate.messages2prompt f messages sequenceStart

def DeepseekR1.messages2prompt (f : Fields) (messages : List (Message J))
    (sequenceStart : Bool) : Option String :=
  (fun s => if sequenceStart then s ++ "<think>\n" else s) <$>
    DeepseekV3.messages2prompt f messages sequenceStart

def Llama3.bos : String := "<|begin_of_text|>"

def Llama3.getPrompt (f : Fields) (prompt : String) (sequenceStart : Bool) : String :=
  prefixOnStart Llama3.bos sequenceStart (BaseChatTemplate.getPrompt f prompt sequenceStart)

def Llama3.messages2prompt (f : Fields) (messages : List (Message J))
    (sequenceStart : Bool) : Option String :=
  prefixOnStart Llama3.bos sequenceStart <$>
    BaseChatTemplate.messages2prompt f messages sequenceStart

/-- `Vicuna`, `Llavav1`, `Deepseek`, `DeepseekVL`, `InternVLZH`: the generation prompt
loses its last character (the space after the assistant marker) in chat mode. -/
def Vicuna.getPrompt (f : Fields) (prompt : String) (sequenceStart : Bool) : String :=
  if f.capability = "chat" then Py.sliceNeg (BaseChatTemplate.getPrompt f prompt sequenceStart) 1
  else BaseChatTemplate.getPrompt f prompt sequenceStart

def Vicuna.messages2prompt (f : Fields) (messages : List (Message J)) (sequenceStart : Bool) :
    Option String :=
  (Py.sliceNeg · 1) <$> BaseChatTemplate.messages2prompt f messages sequenceStart

/-- `DeepseekVL2` cuts the last character whatever the capability. -/
def DeepseekVL2.getPrompt (f : Fields) (prompt : String) (sequenceStart : Bool) : String :=
  Py.sliceNeg (BaseChatTemplate.getPrompt f prompt sequenceStart) 1

def DeepseekVL2.messages2prompt (f : Fields) (messages : List (Message J))
    (sequenceStart : Bool) : Option String :=
  (Py.sliceNeg · 1) <$> BaseChatTemplate.messages2prompt f messages sequenceStart

/-- `ChatGLM3.get_prompt` puts `start` in front at the start of a session only. -/
def ChatGLM3.getPrompt (f : Fields) (prompt : String) (sequenceStart : Bool) : String :=
  prefixOnStart f.start sequenceStart (BaseChatTemplate.getPrompt f prompt sequenceStart)

def ChatGLM3.messages2prompt (f : Fields) (messages : List (Message J)) (sequenceStart : Bool) :
    Option String :=
  (f.start ++ ·) <$> BaseChatTemplate.messages2prompt f messages sequenceStart

/-- `CodeLlama._infill_prompt`; `none` unless the prompt holds exactly one `<FILL>`. -/
def CodeLlama.infillPrompt (f : Fields) (prompt : String) : Option String :=
  (Py.split2 prompt "<FILL>").map fun (pre, suf) =>
    if f.suffixFirst then "<PRE> <SUF>" ++ suf ++ " <MID> " ++ pre
    else "<PRE> " ++ pre ++ " <SUF>" ++ suf ++ " <MID>"

def CodeLlama.getPrompt (f : Fields) (prompt : String) (sequenceStart : Bool) : Option String :=
  if f.capability = "infilling" then CodeLlama.infillPrompt f prompt
  else if f.capability = "chat" then some (BaseChatTemplate.getPrompt f prompt sequenceStart)
  else some prompt

namespace ChatGLM2

/-- `ChatGLM2.get_prompt`: the prompt and the object with its counter advanced. -/
def getPrompt (c : ChatGLM2) (prompt : String) (_sequenceStart : Bool) : String × ChatGLM2 :=
  let count := c.count + 1
  ("[Round " ++ toString count ++ "]\n\n" ++ c.user ++ prompt ++ c.eoh ++ c.assistant,
    { c with count := count })

def renderMessages (c : ChatGLM2) (count : Nat) : List (Message J) → Option String
  | [] => some ""
  | m :: ms => do
    let content ← getText m.content
    match m.role with
    | .user =>
      let rest ← renderMessages c (count + 1) ms
      pure ("[Round " ++ toString (count + 1) ++ "]\n\n" ++ c.user ++ content ++ c.eoh ++
        c.assistant ++ rest)
    | .assistant => (content ++ ·) <$> renderMessages c count ms
    | _ => renderMessages c count ms

def messages2prompt (c : ChatGLM2) (messages : List (Message J)) (_sequenceStart : Bool) :
    Option String :=
  renderMessages c 0 messages

end ChatGLM2

end Lmdeploy.Template
