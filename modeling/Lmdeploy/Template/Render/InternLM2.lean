import Lmdeploy.Template.Render.Base

/-! `InternLM2Chat7B.messages2prompt` and `InternS1.messages2prompt`. Both write into the
caller's list: the tools prompt is inserted into it (or replaces its first message), and
every tool call's `'function'` dict is rewritten in place to `{'name', 'parameters'}`, its
`'arguments'` popped. So both return the prompt together with the list as the caller
holds it afterwards. -/
namespace Lmdeploy.Template

variable {J : Type}

namespace InternLM2Chat7B

def boxMap (f : Fields) : Role → Option String
  | .user => some f.user
  | .assistant => some f.assistant
  | .system => some f.system
  | .environment => some f.environment
  | .tool => some f.environment
  | _ => none

def eoxMap (f : Fields) : Role → Option String
  | .user => some f.eoh
  | .assistant => some (f.eoa ++ f.separator)
  | .system => some f.eosys
  | .environment => some f.eoenv
  | .tool => some f.eoenv
  | _ => none

def nameMap (f : Fields) : Option String → Option String
  | some "plugin" => some f.plugin
  | some "interpreter" => some f.interpreter
  | _ => none

def toolsPrompt (content : String) : Message J :=
  { role := .system, content := some (.str content), name := some "plugin" }

/-- One pass of the loop over `message['tool_calls']`: `function.pop('arguments')` raises
when there is none, and string parameters are parsed. The call with its rewritten function,
the function's name and its parameters. -/
def rewriteFunction (lib : Lib J) (call : ToolCall J) : Option (ToolCall J × String × J) := do
  let fn := call.function.getD ⟨none, none, none⟩
  let name := fn.name.getD ""
  let params := fn.parameters.getD (fn.arguments.getD (.text ""))
  if fn.arguments.isNone then none
  let value ← params.load lib.loads
  pure ({ call with function := some ⟨some name, none, some (.value value)⟩ }, name, value)

def rewriteCalls (lib : Lib J) (action : String → J → String) :
    List (ToolCall J) → Option (String × List (ToolCall J))
  | [] => some ("", [])
  | c :: cs => do
    let (c', name, value) ← rewriteFunction lib c
    let (text, cs') ← rewriteCalls lib action cs
    pure (action name value ++ text, c' :: cs')

def assistantCalls (lib : Lib J) (action : String → J → String) (m : Message J) :
    Option (String × Message J) :=
  match m.role, m.toolCalls with
  | .assistant, some calls => do
    let (text, calls') ← rewriteCalls lib action calls
    pure (text, { m with toolCalls := some calls' })
  | _, _ => some ("", m)

def action (lib : Lib J) (name : String) (value : J) : String :=
  "<|action_start|><|plugin|>\n" ++ lib.dumpsFunction name value ++ "<|action_end|>"

def renderMessage (lib : Lib J) (f : Fields) (m : Message J) : Option (String × Message J) := do
  let content ← getText m.content
  let (calls, m') ← assistantCalls lib (action lib) m
  let box ← boxMap f m.role
  let begin := match nameMap f m.name with
    | some n => Py.strip box ++ " name=" ++ n ++ "\n"
    | none => box
  let eox ← eoxMap f m.role
  pure (begin ++ content ++ calls ++ eox, m')

/-- `messages.insert(insert_index, tools_prompt)`, after a leading system message. -/
def insertTools (lib : Lib J) (tools : Option (List J)) (messages : List (Message J)) :
    Option (List (Message J)) :=
  match tools, messages with
  | some (t :: ts), first :: rest =>
    let prompt := toolsPrompt (lib.dumpsList (t :: ts))
    some (if first.role = .system then first :: prompt :: rest else prompt :: first :: rest)
  | some (_ :: _), [] => none
  | _, _ => some messages

def messages2prompt (lib : Lib J) (f : Fields) (messages : List (Message J))
    (sequenceStart : Bool) (tools : Option (List J)) : Option (String × List (Message J)) := do
  let hdr := BaseChatTemplate.header f messages sequenceStart
  let messages ← insertTools lib tools messages
  let (body, messages) ← renderEach (fun _ => renderMessage lib f) 0 messages
  let ret := hdr ++ body
  if BaseChatTemplate.endsWithAssistant messages then
    -- prefix of response
    pure (Py.sliceNeg ret (f.eoa ++ f.separator).length, messages)
  else pure (ret ++ f.assistant, messages)

end InternLM2Chat7B

namespace InternS1

open InternLM2Chat7B (boxMap eoxMap nameMap toolsPrompt assistantCalls)

def thinking (enableThinking : Option Bool) : Bool := enableThinking != some false

/-- The tools branch: the first message, a system one, absorbs the tools prompt and is
replaced by it; otherwise the prompt is inserted first, led by `meta_instruction`. -/
def placeTools (lib : Lib J) (f : Fields) (sequenceStart : Bool) (enableThinking : Option Bool)
    (ts : List J) : List (Message J) → Option (List (Message J))
  | [] => none
  | first :: rest =>
    let content := f.tool ++ lib.dumpsListIndent ts ++ f.eotool
    if first.role = .system then
      match first.content with
      | some (.str s) => some (toolsPrompt (s ++ content) :: rest)
      | _ => none
    else
      let content := match f.metaInstruction with
        | some mi => if sequenceStart ∧ thinking enableThinking then mi ++ content
          else Py.lstripNewline content
        | none => Py.lstripNewline content
      some (toolsPrompt content :: first :: rest)

def header (f : Fields) (messages : List (Message J)) (sequenceStart : Bool)
    (enableThinking : Option Bool) : String :=
  match f.metaInstruction, sequenceStart, messages.head? with
  | some mi, true, some m =>
    if m.role ≠ .system ∧ thinking enableThinking then f.system ++ mi ++ f.eosys else ""
  | _, _, _ => ""

def lastUserIdx (messages : List (Message J)) : Option Nat :=
  ((messages.enum.filter fun p => p.2.role = .user).getLast?).map (·.1)

def action (lib : Lib J) (name : String) (value : J) : String :=
  "<|action_start|><|plugin|>\n" ++ lib.dumpsFunction name value ++ "\n<|action_end|>"

/-- The body of the loop: reasoning after the last user turn is replayed in think tags. -/
def renderMessage (lib : Lib J) (f : Fields) (lastUser : Option Nat) (idx : Nat)
    (m : Message J) : Option (String × Message J) := do
  let content ← getText m.content
  let content := match lastUser, m.reasoningContent with
    | some u, some rc => if u < idx then "<think>\n" ++ rc ++ "\n</think>\n" ++ content else content
    | _, _ => content
  let (calls, m') ← assistantCalls lib (action lib) m
  let box ← boxMap f m.role
  let begin := match m.name with
    | some n => match nameMap f (some n) with
      | some v => Py.strip box ++ " name=" ++ v ++ "\n"
      | none => if m.role = .tool then Py.strip box ++ " name=" ++ f.plugin ++ "\n" else Py.strip box
    | none => box
  let eox ← eoxMap f m.role
  pure (begin ++ content ++ calls ++ eox, m')

def messages2prompt (lib : Lib J) (f : Fields) (messages : List (Message J))
    (sequenceStart : Bool) (tools : Option (List J)) (enableThinking : Option Bool) :
    Option (String × List (Message J)) := do
  let (hdr, messages) ← match tools with
    | some (t :: ts) => do
      let placed ← placeTools lib f sequenceStart enableThinking (t :: ts) messages
      pure ("", placed)
    | _ => some (header f messages sequenceStart enableThinking, messages)
  let lastUser := lastUserIdx messages
  let (body, messages) ← renderEach (renderMessage lib f lastUser) 0 messages
  let ret := hdr ++ body
  if BaseChatTemplate.endsWithAssistant messages then
    -- prefix of response
    pure (Py.sliceNeg ret (f.eoa ++ f.separator).length, messages)
  else pure (ret ++ f.assistant ++ (if thinking enableThinking then "<think>" else ""), messages)

end InternS1

end Lmdeploy.Template
