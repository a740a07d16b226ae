import Lmdeploy.Template.Render.Base

/-! `Qwen2d5Chat.messages2prompt` and the two classes that add a thinking tag after it,
`QwQ` and `Qwen3`. Every message is closed by `eosys`; a leading system message is written
only in the header; consecutive tool messages share one user turn; the string arguments of
a tool call are replaced in the caller's list by their parsed value. -/
namespace Lmdeploy.Template

variable {J : Type}

namespace Qwen2d5Chat

def boxMap (f : Fields) : Role → Option String
  | .user => some f.user
  | .assistant => some f.assistant
  | .system => some f.system
  | _ => none

/-- `f'{self.meta_instruction}'`, which renders `None` as `'None'`. -/
def formatMeta : Option String → String
  | some s => s
  | none => "None"

def toolPrompt (lib : Lib J) (f : Fields) : List J → String
  | [] => ""
  | tool :: tools => f.separator ++ "\x7b\"type\": \"function\", \"function\": " ++ lib.dumps tool ++
    "\x7d" ++ toolPrompt lib f tools

def header (lib : Lib J) (f : Fields) (messages : List (Message J)) (sequenceStart : Bool)
    (tools : Option (List J)) : String :=
  match tools with
  | some (t :: ts) =>
    let first := match messages.head? with
      | some m => if m.role = .system then Content.format lib m.content
        else formatMeta f.metaInstruction
      | none => formatMeta f.metaInstruction
    f.system ++ first ++ f.tools ++ toolPrompt lib f (t :: ts) ++ f.eotools ++ f.eosys
  | _ =>
    match f.metaInstruction, sequenceStart with
    | some mi, true =>
      match messages.head? with
      | some m => if m.role = .system then f.system ++ Content.format lib m.content ++ f.eosys
        else f.system ++ mi ++ f.eosys
      | none => f.system ++ mi ++ f.eosys
    | _, _ => ""

/-- One tool call: string arguments are parsed and written back into the call. -/
def renderToolCall (lib : Lib J) (f : Fields) (call : ToolCall J) :
    Option (String × ToolCall J) := do
  let fn := call.function.getD call.direct
  let args ← fn.arguments
  let value ← args.load lib.loads
  let name ← fn.name
  let fn' := { fn with arguments := some (.value value) }
  let call' := if call.function.isSome then { call with function := some fn' }
    else { call with direct := fn' }
  pure (f.separator ++ "<tool_call>" ++ f.separator ++ "\x7b\"name\": \"" ++ name ++
    "\", \"arguments\": " ++ lib.dumps value ++ "\x7d" ++ f.separator ++ "</tool_call>", call')

def renderToolCalls (lib : Lib J) (f : Fields) :
    List (ToolCall J) → Option (String × List (ToolCall J))
  | [] => some ("", [])
  | c :: cs => do
    let (s, c') ← renderToolCall lib f c
    let (r, cs') ← renderToolCalls lib f cs
    pure (s ++ r, c' :: cs')

/-- The body of the loop, given whether the message is the first, and whether the messages
before and after it are tool messages. -/
def renderMessage (lib : Lib J) (f : Fields) (first prevTool nextTool : Bool) (m : Message J) :
    Option (String × Message J) :=
  if m.role = .user ∨ (m.role = .system ∧ ¬first) ∨ (m.role = .assistant ∧ m.toolCalls.isNone)
  then do
    let box ← boxMap f m.role
    let text ← getText m.content
    pure (box ++ text ++ f.eosys, m)
  else if m.role = .assistant then do
    let text ← match m.content with
      | none => some ""
      | some c => (f.separator ++ ·) <$> getText (some c)
    let (calls, calls') ← renderToolCalls lib f (m.toolCalls.getD [])
    pure ("<|im_start|>assistant" ++ text ++ calls ++ f.eosys, { m with toolCalls := some calls' })
  else if m.role = .tool then
    pure ((if prevTool then "" else "<|im_start|>user") ++ f.separator ++ "<tool_response>" ++
      f.separator ++ Content.format lib m.content ++ f.separator ++ "</tool_response>" ++
      (if nextTool then "" else f.eoh), m)
  else pure ("", m)

def renderMessages (lib : Lib J) (f : Fields) (first prevTool : Bool) :
    List (Message J) → Option (String × List (Message J))
  | [] => some ("", [])
  | m :: ms => do
    let nextTool := ms.head?.map (·.role) = some .tool
    let (s, m') ← renderMessage lib f first prevTool nextTool m
    let (r, ms') ← renderMessages lib f false (m.role = .tool) ms
    pure (s ++ r, m' :: ms')

def messages2prompt (lib : Lib J) (f : Fields) (messages : List (Message J))
    (sequenceStart : Bool) (tools : Option (List J)) : Option (String × List (Message J)) := do
  let (body, messages') ← renderMessages lib f true false messages
  pure (header lib f messages sequenceStart tools ++ body ++ f.assistant, messages')

end Qwen2d5Chat

def QwQ.messages2prompt (lib : Lib J) (f : Fields) (messages : List (Message J))
    (sequenceStart : Bool) (tools : Option (List J)) : Option (String × List (Message J)) :=
  (fun r => (r.1 ++ "<think>\n", r.2)) <$>
    Qwen2d5Chat.messages2prompt lib f messages sequenceStart tools

def Qwen3.messages2prompt (lib : Lib J) (f : Fields) (messages : List (Message J))
    (sequenceStart : Bool) (tools : Option (List J)) (enableThinking : Option Bool) :
    Option (String × List (Message J)) :=
  (fun r => (r.1 ++ (if enableThinking = some false then "<think>\n\n</think>\n\n" else ""), r.2))
    <$> Qwen2d5Chat.messages2prompt lib f messages sequenceStart tools

end Lmdeploy.Template
