import Lmdeploy.Template.Text

/-! The OpenAI-style messages the chat templates render (`lmdeploy/model.py`). A message is
a Python dict; the keys the renderers read are fields here, `Option` where the key may be
absent or `None`. JSON values are left abstract: `Lib J` collects the calls into Python's
`json` module and `str()` of a list content, which this repository does not define. -/
namespace Lmdeploy.Template

inductive Role
  | user
  | assistant
  | system
  | tool
  | environment
  | ipython
  | other (name : String)
  deriving DecidableEq, Repr

structure Part where
  text : Option String
  deriving DecidableEq, Repr

inductive Content
  | str (s : String)
  | parts (ps : List Part)
  deriving DecidableEq, Repr

/-- `get_text(content)`: a string is itself, a list gives its first part's text. `none`
where Python raises (a missing or `None` content, an empty list, a part without text). -/
def getText : Option Content → Option String
  | some (.str s) => some s
  | some (.parts (p :: _)) => p.text
  | _ => none

inductive Arg (J : Type)
  | text (s : String)
  | value (v : J)
  deriving DecidableEq, Repr

def Arg.load {J : Type} (loads : String → Option J) : Arg J → Option J
  | .text s => loads s
  | .value v => some v

structure ToolFunction (J : Type) where
  name : Option String
  arguments : Option (Arg J)
  parameters : Option (Arg J)
  deriving DecidableEq, Repr

/-- A tool call: its `'function'` dict if present, and its own `name`/`arguments` keys,
which Qwen2d5Chat reads when there is no `'function'`. -/
structure ToolCall (J : Type) where
  function : Option (ToolFunction J)
  direct : ToolFunction J
  deriving DecidableEq, Repr

structure Message (J : Type) where
  role : Role
  content : Option Content
  name : Option String := none
  toolCalls : Option (List (ToolCall J)) := none
  reasoningContent : Option String := none
  deriving DecidableEq, Repr

def Message.plain {J : Type} (role : Role) (text : String) : Message J :=
  { role := role, content := some (.str text) }

@[simp] theorem Message.plain_role {J : Type} (r : Role) (s : String) :
    (Message.plain r s : Message J).role = r := rfl

@[simp] theorem Message.plain_content {J : Type} (r : Role) (s : String) :
    (Message.plain r s : Message J).content = some (.str s) := rfl

@[simp] theorem Message.plain_name {J : Type} (r : Role) (s : String) :
    (Message.plain r s : Message J).name = none := rfl

@[simp] theorem Message.plain_toolCalls {J : Type} (r : Role) (s : String) :
    (Message.plain r s : Message J).toolCalls = none := rfl

@[simp] theorem Message.plain_reasoningContent {J : Type} (r : Role) (s : String) :
    (Message.plain r s : Message J).reasoningContent = none := rfl

@[simp] theorem getText_str (s : String) : getText (some (.str s)) = some s := rfl

/-- The library calls the renderers make. -/
structure Lib (J : Type) where
  /-- `json.loads(s)`, `none` on a decoding error. -/
  loads : String → Option J
  /-- `json.dumps(v, ensure_ascii=False)`. -/
  dumps : J → String
  /-- `json.dumps(tools, ensure_ascii=False)`. -/
  dumpsList : List J → String
  /-- `json.dumps(tools, ensure_ascii=False, indent=2)`. -/
  dumpsListIndent : List J → String
  /-- `json.dumps({'name': n, 'parameters': p}, ensure_ascii=False)`. -/
  dumpsFunction : String → J → String
  /-- `str(tool[key])`, `none` when the key is missing. -/
  field : J → String → Option String
  /-- `str(content)` for a list content, as an f-string renders it. -/
  repr : List Part → String

/-- A library over a JSON type of one value, for renderings that pass no tools. -/
def Lib.trivial : Lib Unit :=
  ⟨fun _ => some (), fun _ => "{}", fun _ => "[]", fun _ => "[]", fun _ _ => "{}",
    fun _ _ => none, fun _ => "[]"⟩

variable {J : Type}

/-- `for message in messages: ret += body(message)`. -/
def renderAll (body : Message J → Option String) : List (Message J) → Option String
  | [] => some ""
  | m :: ms => do
    let s ← body m
    let r ← renderAll body ms
    pure (s ++ r)

/-- `for idx, message in enumerate(messages)` with a body that renders the message and may
rewrite it in place: the text, and the list as the caller sees it afterwards. -/
def renderEach (body : Nat → Message J → Option (String × Message J)) (idx : Nat) :
    List (Message J) → Option (String × List (Message J))
  | [] => some ("", [])
  | m :: ms => do
    let (s, m') ← body idx m
    let (r, ms') ← renderEach body (idx + 1) ms
    pure (s ++ r, m' :: ms')

/-- `f'{content}'` of a raw content; `None` renders as `'None'`. -/
def Content.format (lib : Lib J) : Option Content → String
  | some (.str s) => s
  | some (.parts ps) => lib.repr ps
  | none => "None"

end Lmdeploy.Template
