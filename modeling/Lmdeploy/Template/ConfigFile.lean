import Lmdeploy.Template.Config

/-! `to_json(file_path)`: `ChatTemplateConfig` writes its JSON text to `file_path` when the
path is truthy, through `open(file_path, 'w')`. On Linux that `open` walks the directories of
the path as a read does, refuses a last component that is a directory, or a path ending in
`/`, with `EISDIR`, and creates or truncates the file. `from_json` of the same path then reads
back the config that was written. -/
namespace Lmdeploy.Py

/-- The path walk of `open(path, 'w')` from the directory `dir`: the directories on the way
are walked as by `walk`, and the last component names the file to create or truncate. -/
def FileSystem.createPath (fs : FileSystem) (dir : String) :
    List (List Char) → Except Errno String
  | [] => .error .enoent
  | c :: cs =>
    if nameMax < (String.mk c).utf8ByteSize then .error .enametoolong
    else
      let p := dir ++ String.mk c
      match cs with
      | [] => if c = [] ∨ p ∈ fs.dirs then .error .eisdir else .ok p
      | _ =>
        if p ∈ fs.dirs then fs.createPath (p ++ "/") cs
        else if (fs.files.lookup p).isSome then .error .enotdir
        else .error .enoent

def FileSystem.setFile (fs : FileSystem) (p text : String) : FileSystem :=
  { fs with files := (p, text) :: fs.files.filter (·.1 ≠ p) }

def FileSystem.writeFile (fs : FileSystem) (path text : String) : Except Errno FileSystem :=
  if pathMax ≤ path.utf8ByteSize + 1 then .error .enametoolong
  else (fs.createPath "" (path.toList.splitOn '/')).map (fs.setFile · text)

@[simp] theorem FileSystem.setFile_dirs (fs : FileSystem) (p text : String) :
    (fs.setFile p text).dirs = fs.dirs := rfl

@[simp] theorem FileSystem.setFile_lookup (fs : FileSystem) (p text : String) :
    (fs.setFile p text).files.lookup p = some text := List.lookup_cons_self

/-- Walking the path `createPath` resolved, over the file system with the file written, reads
the new contents. -/
theorem FileSystem.walk_setFile {fs : FileSystem} (text : String) :
    ∀ {dir p : String} {cs : List (List Char)},
      fs.createPath dir cs = .ok p → (fs.setFile p text).walk dir cs = .ok text
  | _, _, [], h => by cases h
  | dir, p, c :: cs, h => by
    unfold createPath at h
    split_ifs at h with hlong
    rcases cs with _ | ⟨c', cs⟩
    · dsimp only at h
      split_ifs at h
      cases h
      simp only [walk, if_neg hlong, setFile_lookup]
    · dsimp only at h
      split_ifs at h with hdir
      simp only [walk, if_neg hlong, setFile_dirs, if_pos hdir]
      exact walk_setFile text h

theorem FileSystem.writeFile_eq_ok {fs fs' : FileSystem} {path text : String}
    (h : fs.writeFile path text = .ok fs') : ¬pathMax ≤ path.utf8ByteSize + 1 ∧
      ∃ p, fs.createPath "" (path.toList.splitOn '/') = .ok p ∧ fs' = fs.setFile p text := by
  rw [writeFile] at h
  split_ifs at h with hmax
  refine ⟨hmax, ?_⟩
  revert h
  cases fs.createPath "" (path.toList.splitOn '/') with
  | error e => exact nofun
  | ok p => intro h; cases h; exact ⟨p, rfl, rfl⟩

theorem FileSystem.openFile_writeFile {fs fs' : FileSystem} {path text : String}
    (h : fs.writeFile path text = .ok fs') : fs'.openFile path = .ok text := by
  obtain ⟨hmax, p, hp, rfl⟩ := writeFile_eq_ok h
  rw [openFile, if_neg hmax]
  exact walk_setFile text hp

end Lmdeploy.Py

namespace Lmdeploy.Template.ChatTemplateConfig

open Py

/-- `to_json(file_path)`: the JSON text, and the file system after it is written to
`file_path` when that is truthy; `None` is `none`. -/
def toJsonFile (c : ChatTemplateConfig) (fs : FileSystem) (filePath : Option String) :
    Except Errno (FileSystem × String) :=
  match filePath with
  | some path =>
    if path = "" then .ok (fs, c.toJson) else (fs.writeFile path c.toJson).map (·, c.toJson)
  | none => .ok (fs, c.toJson)

theorem toJsonFile_some_cases {c : ChatTemplateConfig} {fs fs' : FileSystem} {path text : String}
    (h : c.toJsonFile fs (some path) = .ok (fs', text)) : text = c.toJson ∧
      (path = "" ∧ fs' = fs ∨ path ≠ "" ∧ fs.writeFile path c.toJson = .ok fs') := by
  simp only [toJsonFile] at h
  split_ifs at h with hpath
  · cases h; exact ⟨rfl, .inl ⟨hpath, rfl⟩⟩
  · cases hw : fs.writeFile path c.toJson with
    | error e => rw [hw] at h; cases h
    | ok fs'' =>
      rw [hw] at h; cases h
      exact ⟨rfl, .inr ⟨hpath, rfl⟩⟩

theorem fromJson_of_openFile (openFile : String → Except Errno String) (uuid : String)
    (names : List String) (c : ChatTemplateConfig) {path : String}
    (h : openFile path = .ok c.toJson) :
    fromJson openFile uuid names path =
      (if c.modelName ∈ names then names else names ++ [c.modelName], .ok c) := by
  have hl : loads c.toJson = .ok (.obj c.asdict) := loads_dumps _ (keyed_asdict c)
  have hm : c.asdict.lookup "model_name" = some (.str c.modelName) := by
    simp [asdict, List.lookup_cons]
  simp [fromJson, h, Except.bind, hl, hm, ofDict_asdict]

/-- A config saved with `to_json(file_path)` is what `from_json(file_path)` reads back,
whatever the file system held before: once the write succeeds, `open` finds the text just
written, and `from_json` parses it into the same config, registering its name if `MODELS`
lacked it. -/
theorem from_json_reads_to_json_file (c : ChatTemplateConfig) {fs fs' : FileSystem}
    {path text : String} (hpath : path ≠ "") (h : c.toJsonFile fs (some path) = .ok (fs', text))
    (uuid : String) (names : List String) :
    text = c.toJson ∧
      fromJson fs'.openFile uuid names path =
        (if c.modelName ∈ names then names else names ++ [c.modelName], .ok c) := by
  obtain ⟨rfl, ⟨hp, -⟩ | ⟨-, hw⟩⟩ := toJsonFile_some_cases h
  · exact absurd hp hpath
  · exact ⟨rfl, fromJson_of_openFile _ uuid names c (FileSystem.openFile_writeFile hw)⟩

theorem from_json_reads_to_json_file_cfg :
    "cfg/t.json" ≠ "" ∧
      ({ modelName := "m" } : ChatTemplateConfig).toJsonFile ⟨[], ["cfg"]⟩ (some "cfg/t.json") =
        .ok (⟨[("cfg/t.json", ({ modelName := "m" } : ChatTemplateConfig).toJson)], ["cfg"]⟩,
          ({ modelName := "m" } : ChatTemplateConfig).toJson) ∧
      (({ modelName := "m" } : ChatTemplateConfig).toJson =
          ({ modelName := "m" } : ChatTemplateConfig).toJson ∧
        fromJson (FileSystem.openFile
            ⟨[("cfg/t.json", ({ modelName := "m" } : ChatTemplateConfig).toJson)], ["cfg"]⟩) ""
            [] "cfg/t.json" =
          (if "m" ∈ ([] : List String) then [] else [] ++ ["m"], .ok { modelName := "m" })) :=
  have hw : ({ modelName := "m" } : ChatTemplateConfig).toJsonFile ⟨[], ["cfg"]⟩
      (some "cfg/t.json") =
        .ok (⟨[("cfg/t.json", ({ modelName := "m" } : ChatTemplateConfig).toJson)], ["cfg"]⟩,
          ({ modelName := "m" } : ChatTemplateConfig).toJson) := rfl
  ⟨by decide, hw, from_json_reads_to_json_file { modelName := "m" } (by decide) hw "" []⟩

end Lmdeploy.Template.ChatTemplateConfig
