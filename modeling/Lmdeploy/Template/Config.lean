import Lmdeploy.Py.Json
import Lmdeploy.Template.Registry

/-! `ChatTemplateConfig` and its JSON form. `to_json` writes `dataclasses.asdict` with
`json.dumps(..., ensure_ascii=False, indent=4)`. `from_json` takes its argument first as a
path and parses it as JSON text only when `open` raises `FileNotFoundError`; any other
`OSError` becomes `ValueError`. Linux refuses a path component longer than `NAME_MAX`, 255
bytes, with `ENAMETOOLONG`, and the JSON text of a config with its optional fields unset is
at least 277 bytes: one such component unless the model name holds a `/`. -/
namespace Lmdeploy.Py

/-- The `errno` of the `OSError`s `open(path, 'r')` raises on a path it cannot read. -/
inductive Errno
  | enoent
  | enametoolong
  | enotdir
  | eisdir
  deriving DecidableEq, Repr

/-- The files, with their contents, and the directories, by their paths from the working
directory. -/
structure FileSystem where
  files : List (String × String)
  dirs : List String
  deriving DecidableEq, Repr

def nameMax : Nat := 255

def pathMax : Nat := 4096

/-- The path walk from the directory `dir` over the remaining components: the first that is
longer than `NAME_MAX` is refused with `ENAMETOOLONG`, the first that is missing with
`ENOENT`. -/
def FileSystem.walk (fs : FileSystem) (dir : String) : List (List Char) → Except Errno String
  | [] => .error .enoent
  | c :: cs =>
    if nameMax < (String.mk c).utf8ByteSize then .error .enametoolong
    else
      let p := dir ++ String.mk c
      match cs with
      | [] =>
        match fs.files.lookup p with
        | some s => .ok s
        | none => if p ∈ fs.dirs then .error .eisdir else .error .enoent
      | _ =>
        if p ∈ fs.dirs then fs.walk (p ++ "/") cs
        else if (fs.files.lookup p).isSome then .error .enotdir
        else .error .enoent

/-- `open(path, 'r', encoding='utf-8').read()` on Linux. Paths are taken as written: the model
resolves no `.`, `..`, repeated `/` or link. -/
def FileSystem.openFile (fs : FileSystem) (path : String) : Except Errno String :=
  if pathMax ≤ path.utf8ByteSize + 1 then .error .enametoolong
  else fs.walk "" (path.toList.splitOn '/')

/-! ### Paths a JSON text names -/

theorem hexDigit_ne_slash {n : Nat} (h : n < 16) : hexDigit n ≠ '/' := by
  have all : ∀ n < 16, hexDigit n ≠ '/' := by decide
  exact all n h

theorem eq_of_slash_mem_escapeChar {c : Char} (h : '/' ∈ escapeChar c) : c = '/' := by
  rcases escapeChar_cases c with ⟨e, -, hc, he⟩ | ⟨h8, he⟩ | ⟨-, -, -, he⟩ <;> rw [he] at h <;>
    simp only [List.mem_cons, List.mem_singleton, List.not_mem_nil, or_false] at h
  · rcases h with h | rfl
    · cases h
    · exact Option.some.inj (hc.symm.trans (by decide))
  · rcases h with h | h | h | h | h | h
    all_goals first | cases h | exact absurd h.symm (hexDigit_ne_slash (by omega))
  · exact h.symm

theorem slash_not_mem_encodeBasestring {cs : List Char} (h : '/' ∉ cs) :
    '/' ∉ encodeBasestring cs := by
  intro hm
  simp only [encodeBasestring, List.mem_cons, List.mem_append, List.mem_flatMap,
    List.mem_singleton] at hm
  rcases hm with (hm | ⟨c, hc, hs⟩) | hm | hm
  · cases hm
  · exact h (eq_of_slash_mem_escapeChar hs ▸ hc)
  · cases hm
  · cases hm

theorem length_le_utf8ByteSize (s : String) : s.toList.length ≤ s.utf8ByteSize := by
  obtain ⟨cs⟩ := s
  induction cs with
  | nil => simp
  | cons c cs ih =>
    have := c.utf8Size_pos
    simp only [String.toList, String.utf8ByteSize, String.utf8ByteSize.go, List.length_cons] at ih ⊢
    omega

theorem openFile_long_name (fs : FileSystem) {path : String} (hs : '/' ∉ path.toList)
    (hl : nameMax < path.utf8ByteSize) : fs.openFile path = .error .enametoolong := by
  have hsplit : path.toList.splitOn '/' = [path.toList] :=
    List.splitOnP_eq_single _ _ fun x hx hx' => hs (beq_iff_eq.mp hx' ▸ hx)
  unfold FileSystem.openFile
  split
  · rfl
  · rw [hsplit, FileSystem.walk, if_pos (by simpa using hl)]

end Lmdeploy.Py

namespace Lmdeploy.Template

open Lmdeploy.Py

inductive Capability
  | completion
  | infilling
  | chat
  | python
  deriving DecidableEq, Repr

def Capability.name : Capability → String
  | .completion => "completion"
  | .infilling => "infilling"
  | .chat => "chat"
  | .python => "python"

def Capability.ofName? (s : String) : Option Capability :=
  [Capability.completion, .infilling, .chat, .python].find? (·.name = s)

structure ChatTemplateConfig where
  modelName : String
  system : Option String := none
  metaInstruction : Option String := none
  eosys : Option String := none
  user : Option String := none
  eoh : Option String := none
  assistant : Option String := none
  eoa : Option String := none
  tool : Option String := none
  eotool : Option String := none
  separator : Option String := none
  capability : Option Capability := none
  stopWords : Option (List String) := none
  deriving DecidableEq, Repr

namespace ChatTemplateConfig

def optionalStr : Option String → Json
  | none => .null
  | some s => .str s

def optionalStrs : Option (List String) → Json
  | none => .null
  | some ws => .arr (ws.map .str)

def asdict (c : ChatTemplateConfig) : List (String × Json) :=
  [("model_name", .str c.modelName), ("system", optionalStr c.system),
    ("meta_instruction", optionalStr c.metaInstruction), ("eosys", optionalStr c.eosys),
    ("user", optionalStr c.user), ("eoh", optionalStr c.eoh),
    ("assistant", optionalStr c.assistant), ("eoa", optionalStr c.eoa),
    ("tool", optionalStr c.tool), ("eotool", optionalStr c.eotool),
    ("separator", optionalStr c.separator),
    ("capability", optionalStr (c.capability.map Capability.name)),
    ("stop_words", optionalStrs c.stopWords)]

def toJson (c : ChatTemplateConfig) : String := dumps (.obj c.asdict)

def fieldNames : List String :=
  ["model_name", "system", "meta_instruction", "eosys", "user", "eoh", "assistant", "eoa",
    "tool", "eotool", "separator", "capability", "stop_words"]

/-- The value of a keyword for an optional string field. The dataclass stores any value; the
model's fields hold only the values of their annotations and refuse the others. -/
def ofOptionalStr : Option Json → Except String (Option String)
  | none | some .null => .ok none
  | some (.str s) => .ok (some s)
  | some _ => .error "a value outside the field type"

def ofStrs : List Json → Except String (List String)
  | [] => .ok []
  | .str s :: xs => (ofStrs xs).map (s :: ·)
  | _ :: _ => .error "a value outside the field type"

def ofOptionalStrs : Option Json → Except String (Option (List String))
  | none | some .null => .ok none
  | some (.arr xs) => (ofStrs xs).map some
  | some _ => .error "a value outside the field type"

def ofCapability : Option Json → Except String (Option Capability)
  | none | some .null => .ok none
  | some (.str s) =>
    match Capability.ofName? s with
    | some c => .ok (some c)
    | none => .error "a value outside the field type"
  | some _ => .error "a value outside the field type"

def ofModelName : Option Json → Except String String
  | some (.str s) => .ok s
  | some _ => .error "a value outside the field type"
  | none => .error ("ChatTemplateConfig.__init__() missing 1 required positional argument: " ++
    "\x27model_name\x27")

/-- `ChatTemplateConfig(**d)`: an unknown keyword raises `TypeError`; a keyword not given
keeps its default. -/
def ofDict (d : List (String × Json)) : Except String ChatTemplateConfig :=
  match d.find? (fun kv => !fieldNames.contains kv.1) with
  | some kv =>
    .error ("ChatTemplateConfig.__init__() got an unexpected keyword argument \x27" ++ kv.1 ++
      "\x27")
  | none => do
    pure { modelName := ← ofModelName (d.lookup "model_name"),
           system := ← ofOptionalStr (d.lookup "system"),
           metaInstruction := ← ofOptionalStr (d.lookup "meta_instruction"),
           eosys := ← ofOptionalStr (d.lookup "eosys"),
           user := ← ofOptionalStr (d.lookup "user"),
           eoh := ← ofOptionalStr (d.lookup "eoh"),
           assistant := ← ofOptionalStr (d.lookup "assistant"),
           eoa := ← ofOptionalStr (d.lookup "eoa"),
           tool := ← ofOptionalStr (d.lookup "tool"),
           eotool := ← ofOptionalStr (d.lookup "eotool"),
           separator := ← ofOptionalStr (d.lookup "separator"),
           capability := ← ofCapability (d.lookup "capability"),
           stopWords := ← ofOptionalStrs (d.lookup "stop_words") }

/-- `from_json(file_or_string)` with `open` as `openFile` and `random_uuid()` as `uuid`, from
the names `MODELS` holds: the names it holds afterwards, and the config or the exception. A
name new to `MODELS` is registered before the config is built. -/
def fromJson (openFile : String → Except Errno String) (uuid : String) (names : List String)
    (fileOrString : String) : List String × Except String ChatTemplateConfig :=
  let jsonData : Except String String := match openFile fileOrString with
    | .ok contents => .ok contents
    | .error .enoent => .ok fileOrString
    | .error _ => .error "Invalid input. Must be a file path or a valid JSON string."
  match jsonData.bind loads with
  | .error err => (names, .error err)
  | .ok (.obj d) =>
    let d := match d.lookup "model_name" with
      | none | some .null => dictSet d "model_name" (.str uuid)
      | some _ => d
    match d.lookup "model_name" with
    | some (.str name) => (if name ∈ names then names else names ++ [name], ofDict d)
    | _ => (names, .error "TypeError: the model name is not a str")
  | .ok _ => (names, .error "AttributeError: the JSON value is not a dict")

/-! ### The round trip -/

@[simp] theorem ofOptionalStr_optionalStr (x : Option String) :
    ofOptionalStr (some (optionalStr x)) = .ok x := by
  cases x <;> rfl

@[simp] theorem ofOptionalStrs_optionalStrs (x : Option (List String)) :
    ofOptionalStrs (some (optionalStrs x)) = .ok x := by
  rcases x with _ | ws
  · rfl
  · have h : ofStrs (ws.map .str) = .ok ws := by
      induction ws with
      | nil => rfl
      | cons w ws ih => simp [ofStrs, ih, Except.map]
    simp [ofOptionalStrs, optionalStrs, h, Except.map]

@[simp] theorem ofCapability_name (x : Option Capability) :
    ofCapability (some (optionalStr (x.map Capability.name))) = .ok x := by
  rcases x with _ | (_ | _ | _ | _) <;> rfl

theorem keyed_asdict (c : ChatTemplateConfig) : (Json.obj c.asdict).Keyed := by
  refine ⟨by simp [asdict], ?_⟩
  have hs : ∀ x, (optionalStr x).Keyed := fun x => by cases x <;> trivial
  have hw : (optionalStrs c.stopWords).Keyed := by
    rcases c.stopWords with _ | ws
    · trivial
    · induction ws with
      | nil => trivial
      | cons w ws ih => exact ⟨trivial, ih⟩
  simp [asdict, fieldsKeyed, Json.Keyed, hs, hw]

theorem ofDict_asdict (c : ChatTemplateConfig) : ofDict c.asdict = .ok c := by
  simp [ofDict, asdict, fieldNames, List.lookup_cons, ofModelName, bind, Except.bind, pure, Except.pure]

/-- When `open` finds no file at the JSON text of a config, `from_json` reads the config back,
and `MODELS` holds its name afterwards. -/
theorem fromJson_toJson (openFile : String → Except Errno String) (uuid : String)
    (names : List String) (c : ChatTemplateConfig) (h : openFile c.toJson = .error .enoent) :
    fromJson openFile uuid names c.toJson =
      (if c.modelName ∈ names then names else names ++ [c.modelName], .ok c) := by
  have hl : loads c.toJson = .ok (.obj c.asdict) := loads_dumps _ (keyed_asdict c)
  have hm : c.asdict.lookup "model_name" = some (.str c.modelName) := by simp [asdict, List.lookup_cons]
  simp [fromJson, h, Except.bind, hl, hm, ofDict_asdict]

set_option maxRecDepth 4000 in
example : (fromJson (FileSystem.openFile ⟨[], []⟩) "" []
    ({ modelName := "internlm/internlm2-chat-7b" } : ChatTemplateConfig).toJson).2 =
      .ok { modelName := "internlm/internlm2-chat-7b" } :=
  congrArg Prod.snd (fromJson_toJson _ _ _ _ rfl)

end ChatTemplateConfig

set_option maxRecDepth 4000 in
open ChatTemplateConfig in
/-- A config with its optional fields unset and no `/` in its model name: its JSON text is
one path component of more than `NAME_MAX` bytes, so Linux's `open` raises `ENAMETOOLONG`,
whatever files exist, and `from_json` raises `ValueError` on the config's own JSON text. -/
theorem from_json_name_too_long (fs : FileSystem) (uuid : String) (names : List String)
    (name : String) (h : '/' ∉ name.toList) :
    fromJson fs.openFile uuid names ({ modelName := name } : ChatTemplateConfig).toJson =
      (names, .error "Invalid input. Must be a file path or a valid JSON string.") := by
  let head := '\x7b' :: newlineIndent 1 ++ encodeBasestring "model_name".toList ++ [':', ' ']
  let tail := encodeFields 1 ({ modelName := "" } : ChatTemplateConfig).asdict.tail ++
    newlineIndent 0 ++ ['\x7d']
  have htext : ({ modelName := name } : ChatTemplateConfig).toJson.toList =
      head ++ (encodeBasestring name.toList ++ tail) := by
    simp [head, tail, toJson, dumps, asdict, Json.encode]
  have hs : '/' ∉ ({ modelName := name } : ChatTemplateConfig).toJson.toList := by
    have hh : '/' ∉ head := by decide
    have ht : '/' ∉ tail := by decide
    rw [htext]
    simp only [List.mem_append, not_or]
    exact ⟨hh, slash_not_mem_encodeBasestring h, ht⟩
  have hl : nameMax < ({ modelName := name } : ChatTemplateConfig).toJson.utf8ByteSize := by
    have hfix : nameMax < head.length + 2 + tail.length := by decide
    have hq : 2 ≤ (encodeBasestring name.toList).length := by simp [encodeBasestring]
    have hb := length_le_utf8ByteSize ({ modelName := name } : ChatTemplateConfig).toJson
    rw [htext] at hb
    simp only [List.length_append] at hb
    omega
  rw [fromJson, openFile_long_name fs hs hl]
  rfl

set_option maxRecDepth 4000 in
open ChatTemplateConfig in
theorem from_json_name_too_long_internlm2 :
    '/' ∉ "internlm2".toList ∧
    fromJson (FileSystem.openFile ⟨[], []⟩) "" (registry.map (·.1))
        ({ modelName := "internlm2" } : ChatTemplateConfig).toJson =
      (registry.map (·.1), .error "Invalid input. Must be a file path or a valid JSON string.") :=
  ⟨by decide, from_json_name_too_long _ _ _ _ (by decide)⟩

end Lmdeploy.Template
