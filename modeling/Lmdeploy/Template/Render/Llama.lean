import Lmdeploy.Template.Render.Base

/-! `Llama3_1.messages2prompt`: a knowledge line in the system header, tools described in
the system message, and `<|eom_id|>` in place of the end marker after an answer that calls
a tool. Its `get_prompt` is `Llama3`'s. -/
namespace Lmdeploy.Template

variable {J : Type}

namespace Llama3_1

def boxMap (f : Fields) : Role → Option String
  | .user => some f.user
  | .ipython => some f.ipython
  | .tool => some f.ipython
  | .assistant => some f.assistant
  | .system => some f.system
  | _ => none

def eoxMap (f : Fields) : Role → Option String
  | .user => some f.eoh
  | .ipython => some f.eoi
  | .tool => some f.eoi
  | .assistant => some (f.eoa ++ f.separator)
  | .system => some f.eosys
  | _ => none

def toolPrompt (lib : Lib J) : List J → Option String
  | [] => some ""
  | t :: ts => do
    let name ← lib.field t "name"
    let description ← lib.field t "description"
    let rest ← toolPrompt lib ts
    pure ("Use the function \x27" ++ name ++ "\x27 to: " ++ description ++ "\n" ++ lib.dumps t ++
      "\n" ++ rest)

def callsTool (content : String) : Bool :=
  Py.contains content "<|python_tag|>" || Py.contains content "</function>"

def header (f : Fields) (messages : List (Message J)) (sequenceStart : Bool)
    (tools : Option (List J)) (toolPrompt : String) : String :=
  match f.metaInstruction, sequenceStart, messages.head? with
  | some mi, true, some m =>
    if m.role ≠ .system then
      match tools with
      | none => f.system ++ f.knowledge ++ mi ++ f.eosys
      | some _ => f.system ++ f.knowledge ++ f.tool ++ toolPrompt ++ f.eotool ++ mi ++ f.eosys
    else ""
  | _, _, _ => ""

def renderMessage (f : Fields) (tools : Option (List J)) (toolPrompt : String) (m : Message J) :
    Option String := do
  let content ← getText m.content
  let box ← boxMap f m.role
  if m.role = .assistant ∧ callsTool content then pure (box ++ content ++ "<|eom_id|>")
  else
    let eox ← eoxMap f m.role
    if m.role = .system ∧ tools.isSome then
      pure (box ++ f.tool ++ toolPrompt ++ f.eotool ++ content ++ eox)
    else pure (box ++ content ++ eox)

def messages2prompt (lib : Lib J) (f : Fields) (messages : List (Message J))
    (sequenceStart : Bool) (tools : Option (List J)) : Option String := do
  let toolPrompt ← match tools with
    | some ts => toolPrompt lib ts
    | none => some ""
  let body ← renderAll (renderMessage f tools toolPrompt) messages
  let ret := prefixOnStart Llama3.bos sequenceStart
    (header f messages sequenceStart tools toolPrompt ++ body)
  if BaseChatTemplate.endsWithAssistant messages then
    -- prefix of response
    pure (Py.sliceNeg ret (f.eoa ++ f.separator).length)
  else pure (ret ++ f.assistant)

end Llama3_1

end Lmdeploy.Template
