import Mathlib.Data.List.Nodup

/-! `json.dumps(obj, ensure_ascii=False, indent=4)` and `json.loads` of CPython's `json`
package: the writer `_make_iterencode` with `py_encode_basestring`, and the C scanner
(`scan_once_unicode`, `scanstring_unicode`, `_parse_array_unicode`,
`_parse_object_unicode`). Values are those without numbers; text is a list of characters.
`loads` reads back every value `dumps` writes whose objects have distinct keys, as every
Python `dict` has (`loads_dumps`). -/
namespace Lmdeploy.Py

/-- A value of `json.loads`: `None`, a `bool`, a `str`, a `list`, or a `dict` with its keys in
insertion order. -/
inductive Json
  | null
  | bool (b : Bool)
  | str (s : String)
  | arr (xs : List Json)
  | obj (kvs : List (String × Json))
  deriving Repr

/-! ### Writing -/

def hexDigit (n : Nat) : Char := if n < 10 then Char.ofNat (48 + n) else Char.ofNat (87 + n)

def escapeChar (c : Char) : List Char :=
  if c = '\\' then ['\\', '\\']
  else if c = '"' then ['\\', '"']
  else if c = '\x08' then ['\\', 'b']
  else if c = '\x0c' then ['\\', 'f']
  else if c = '\n' then ['\\', 'n']
  else if c = '\r' then ['\\', 'r']
  else if c = '\t' then ['\\', 't']
  else if c.toNat < 0x20 then ['\\', 'u', '0', '0', hexDigit (c.toNat / 16), hexDigit (c.toNat % 16)]
  else [c]

def encodeBasestring (s : List Char) : List Char := '"' :: s.flatMap escapeChar ++ ['"']

def newlineIndent (level : Nat) : List Char := '\n' :: List.replicate (4 * level) ' '

mutual
/-- `_iterencode` at the indent level `level`: a non-empty list or dict opens a line for each
item one level deeper and closes on a line of its own. -/
def Json.encode (level : Nat) : Json → List Char
  | .null => ['n', 'u', 'l', 'l']
  | .bool true => ['t', 'r', 'u', 'e']
  | .bool false => ['f', 'a', 'l', 's', 'e']
  | .str s => encodeBasestring s.toList
  | .arr [] => ['[', ']']
  | .arr (x :: xs) =>
    '[' :: newlineIndent (level + 1) ++ x.encode (level + 1) ++ encodeItems (level + 1) xs ++
      newlineIndent level ++ [']']
  | .obj [] => ['{', '}']
  | .obj ((k, v) :: kvs) =>
    '{' :: newlineIndent (level + 1) ++ encodeBasestring k.toList ++ [':', ' '] ++
      v.encode (level + 1) ++ encodeFields (level + 1) kvs ++ newlineIndent level ++ ['}']
def encodeItems (level : Nat) : List Json → List Char
  | [] => []
  | x :: xs => ',' :: newlineIndent level ++ x.encode level ++ encodeItems level xs
def encodeFields (level : Nat) : List (String × Json) → List Char
  | [] => []
  | (k, v) :: kvs =>
    ',' :: newlineIndent level ++ encodeBasestring k.toList ++ [':', ' '] ++ v.encode level ++
      encodeFields level kvs
end

def dumps (v : Json) : String := String.mk (v.encode 0)

/-! ### Reading -/

def isWs (c : Char) : Bool := c = ' ' || c = '\t' || c = '\n' || c = '\r'

def skipWs (cs : List Char) : List Char := cs.dropWhile isWs

def hexVal (c : Char) : Option Nat :=
  if '0' ≤ c ∧ c ≤ '9' then some (c.toNat - 48)
  else if 'a' ≤ c ∧ c ≤ 'f' then some (c.toNat - 87)
  else if 'A' ≤ c ∧ c ≤ 'F' then some (c.toNat - 55)
  else none

def hex4 (a b c d : Char) : Option Nat := do
  let a ← hexVal a
  let b ← hexVal b
  let c ← hexVal c
  let d ← hexVal d
  pure (((a * 16 + b) * 16 + c) * 16 + d)

def unescape (e : Char) : Option Char :=
  if e = '"' then some '"'
  else if e = '\\' then some '\\'
  else if e = '/' then some '/'
  else if e = 'b' then some '\x08'
  else if e = 'f' then some '\x0c'
  else if e = 'n' then some '\n'
  else if e = 'r' then some '\r'
  else if e = 't' then some '\t'
  else none

def consChar (c : Char) (r : Except String (List Char × List Char)) :
    Except String (List Char × List Char) :=
  r.map fun p => (c :: p.1, p.2)

mutual
/-- `scanstring_unicode` in strict mode, after the opening quote: the characters of the string
and the text after its closing quote. -/
def scanString : List Char → Except String (List Char × List Char)
  | [] => .error "Unterminated string starting at"
  | c :: rest =>
    if c = '"' then .ok ([], rest)
    else if c = '\\' then scanEscape rest
    else if c.toNat < 0x20 then .error "Invalid control character at"
    else consChar c (scanString rest)
def scanEscape : List Char → Except String (List Char × List Char)
  | [] => .error "Unterminated string starting at"
  | e :: rest =>
    if e = 'u' then scanUnicode rest
    else match unescape e with
      | some c => consChar c (scanString rest)
      | none => .error "Invalid \\escape"
/-- The digits of a `\uXXXX` escape. A surrogate names no character of a Lean string; a
high one joins with the low one of the next escape, and any other is refused. -/
def scanUnicode : List Char → Except String (List Char × List Char)
  | a :: b :: c :: d :: rest =>
    match hex4 a b c d with
    | none => .error "Invalid \\uXXXX escape"
    | some u =>
      if 0xd800 ≤ u ∧ u ≤ 0xdbff then scanLow u rest
      else if 0xdc00 ≤ u ∧ u ≤ 0xdfff then .error "lone surrogate"
      else consChar (Char.ofNat u) (scanString rest)
  | _ => .error "Invalid \\uXXXX escape"
def scanLow (u : Nat) : List Char → Except String (List Char × List Char)
  | s :: t :: a :: b :: c :: d :: rest =>
    if s = '\\' ∧ t = 'u' then
      match hex4 a b c d with
      | none => .error "Invalid \\uXXXX escape"
      | some u' =>
        if 0xdc00 ≤ u' ∧ u' ≤ 0xdfff then
          consChar (Char.ofNat (0x10000 + (u - 0xd800) * 0x400 + (u' - 0xdc00))) (scanString rest)
        else .error "lone surrogate"
    else .error "lone surrogate"
  | _ => .error "lone surrogate"
end

def dictSet (d : List (String × Json)) (k : String) (v : Json) : List (String × Json) :=
  if d.any (·.1 = k) then d.map fun p => if p.1 = k then (k, v) else p else d ++ [(k, v)]

def dictOf (kvs : List (String × Json)) : List (String × Json) :=
  kvs.foldl (fun d p => dictSet d p.1 p.2) []

mutual
/-- `scan_once_unicode`: the value at the start of the text and the text after it. `fuel`
stands for the recursion limit; `loads` gives more than any text it reads can use. -/
def parseValue : Nat → List Char → Except String (Json × List Char)
  | 0, _ => .error "Expecting value"
  | _ + 1, [] => .error "Expecting value"
  | n + 1, c :: cs =>
    if c = '"' then (scanString cs).map fun p => (.str (String.mk p.1), p.2)
    else if c = '{' then
      let cs := skipWs cs
      if cs.head? = some '}' then .ok (.obj [], cs.tail)
      else (parseFields n cs).map fun p => (.obj (dictOf p.1), p.2)
    else if c = '[' then
      let cs := skipWs cs
      if cs.head? = some ']' then .ok (.arr [], cs.tail)
      else (parseItems n cs).map fun p => (.arr p.1, p.2)
    else if c = 'n' ∧ cs.take 3 = ['u', 'l', 'l'] then .ok (.null, cs.drop 3)
    else if c = 't' ∧ cs.take 3 = ['r', 'u', 'e'] then .ok (.bool true, cs.drop 3)
    else if c = 'f' ∧ cs.take 4 = ['a', 'l', 's', 'e'] then .ok (.bool false, cs.drop 4)
    else .error "Expecting value"
def parseItems : Nat → List Char → Except String (List Json × List Char)
  | 0, _ => .error "Expecting value"
  | n + 1, cs => do
    let (x, r) ← parseValue n cs
    match skipWs r with
    | c :: r =>
      if c = ']' then .ok ([x], r)
      else if c = ',' then (parseItems n (skipWs r)).map fun p => (x :: p.1, p.2)
      else .error "Expecting ',' delimiter"
    | [] => .error "Expecting ',' delimiter"
def parseFields : Nat → List Char → Except String (List (String × Json) × List Char)
  | 0, _ => .error "Expecting value"
  | _ + 1, [] => .error "Expecting property name enclosed in double quotes"
  | n + 1, q :: cs =>
    if q = '"' then do
      let (k, r) ← scanString cs
      match skipWs r with
      | c :: r =>
        if c = ':' then do
          let (v, r) ← parseValue n (skipWs r)
          match skipWs r with
          | c :: r =>
            if c = '}' then .ok ([(String.mk k, v)], r)
            else if c = ',' then
              (parseFields n (skipWs r)).map fun p => ((String.mk k, v) :: p.1, p.2)
            else .error "Expecting ',' delimiter"
          | [] => .error "Expecting ',' delimiter"
        else .error "Expecting ':' delimiter"
      | [] => .error "Expecting ':' delimiter"
    else .error "Expecting property name enclosed in double quotes"
end

def loads (s : String) : Except String Json :=
  if s.toList.head? = some '\uFEFF' then .error "Unexpected UTF-8 BOM (decode using utf-8-sig)"
  else do
    let (v, r) ← parseValue (s.toList.length + 1) (skipWs s.toList)
    if skipWs r = [] then .ok v else .error "Extra data"

mutual
/-- The nodes of a value, items of lists and dicts counted once more: what `parseValue`
spends of its fuel reading it back. -/
def Json.size : Json → Nat
  | .arr xs => sizeItems xs + 1
  | .obj kvs => sizeFields kvs + 1
  | _ => 1
def sizeItems : List Json → Nat
  | [] => 0
  | x :: xs => x.size + sizeItems xs + 1
def sizeFields : List (String × Json) → Nat
  | [] => 0
  | (_, v) :: kvs => v.size + sizeFields kvs + 1
end

mutual
def Json.Keyed : Json → Prop
  | .arr xs => itemsKeyed xs
  | .obj kvs => (kvs.map (·.1)).Nodup ∧ fieldsKeyed kvs
  | _ => True
def itemsKeyed : List Json → Prop
  | [] => True
  | x :: xs => x.Keyed ∧ itemsKeyed xs
def fieldsKeyed : List (String × Json) → Prop
  | [] => True
  | (_, v) :: kvs => v.Keyed ∧ fieldsKeyed kvs
end

/-! ### Reading what is written -/

theorem hexVal_hexDigit {n : Nat} (h : n < 16) : hexVal (hexDigit n) = some n := by
  have all : ∀ n < 16, hexVal (hexDigit n) = some n := by decide
  exact all n h

theorem hex4_control {c : Char} (h : c.toNat < 0x20) :
    hex4 '0' '0' (hexDigit (c.toNat / 16)) (hexDigit (c.toNat % 16)) = some c.toNat := by
  simp only [hex4, hexVal_hexDigit (show c.toNat / 16 < 16 by omega),
    hexVal_hexDigit (show c.toNat % 16 < 16 by omega)]
  have h0 : hexVal '0' = some 0 := rfl
  simp only [h0, Option.bind_eq_bind, Option.some_bind, Option.pure_def]
  congr 1
  omega

theorem escapeChar_cases (c : Char) :
    (∃ e, e ≠ 'u' ∧ unescape e = some c ∧ escapeChar c = ['\\', e]) ∨
    (c.toNat < 0x20 ∧
      escapeChar c = ['\\', 'u', '0', '0', hexDigit (c.toNat / 16), hexDigit (c.toNat % 16)]) ∨
    (c ≠ '\\' ∧ c ≠ '"' ∧ ¬ c.toNat < 0x20 ∧ escapeChar c = [c]) := by
  by_cases h : c ∈ ['\\', '"', '\x08', '\x0c', '\n', '\r', '\t']
  · simp only [List.mem_cons, List.mem_singleton, List.not_mem_nil, or_false] at h
    rcases h with rfl | rfl | rfl | rfl | rfl | rfl | rfl <;>
      exact .inl ⟨_, by decide, by decide, rfl⟩
  · simp only [List.mem_cons, List.mem_singleton, List.not_mem_nil, or_false, not_or] at h
    obtain ⟨h1, h2, h3, h4, h5, h6, h7⟩ := h
    rw [escapeChar, if_neg h1, if_neg h2, if_neg h3, if_neg h4, if_neg h5, if_neg h6, if_neg h7]
    by_cases h8 : c.toNat < 0x20
    · exact .inr (.inl ⟨h8, if_pos h8⟩)
    · exact .inr (.inr ⟨h1, h2, h8, if_neg h8⟩)

theorem scanString_escapeChar (c : Char) (t : List Char) :
    scanString (escapeChar c ++ t) = consChar c (scanString t) := by
  rcases escapeChar_cases c with ⟨e, he, hc, h⟩ | ⟨h8, h⟩ | ⟨h1, h2, h8, h⟩ <;>
    rw [h] <;> simp only [List.cons_append, List.nil_append]
  · rw [scanString.eq_2, if_neg (by decide), if_pos rfl, scanEscape.eq_2, if_neg he, hc]
  · have hs : ¬ (0xd800 ≤ c.toNat ∧ c.toNat ≤ 0xdbff) := by omega
    have hs' : ¬ (0xdc00 ≤ c.toNat ∧ c.toNat ≤ 0xdfff) := by omega
    rw [scanString.eq_2, if_neg (by decide), if_pos rfl, scanEscape.eq_2, if_pos rfl,
      scanUnicode.eq_1, hex4_control h8]
    simp only [hs, hs', if_false, Char.ofNat_toNat]
  · rw [scanString, if_neg h2, if_neg h1, if_neg h8]

theorem scanString_encode (s rest : List Char) :
    scanString (s.flatMap escapeChar ++ '"' :: rest) = .ok (s, rest) := by
  induction s with
  | nil => simp [scanString]
  | cons c s ih => rw [List.flatMap_cons, List.append_assoc, scanString_escapeChar, ih]; rfl

theorem skipWs_cons {c : Char} (h : isWs c = false) (r : List Char) :
    skipWs (c :: r) = c :: r := by
  simp [skipWs, List.dropWhile_cons, h]

theorem skipWs_newlineIndent (level : Nat) (cs : List Char) :
    skipWs (newlineIndent level ++ cs) = skipWs cs := by
  simp only [skipWs, newlineIndent, List.cons_append, List.dropWhile_cons]
  simp [isWs]

theorem encode_cons (v : Json) (level : Nat) :
    ∃ c cs, v.encode level = c :: cs ∧ c ∈ ['"', 'n', 't', 'f', '[', '{'] := by
  rcases v with _ | (_ | _) | _ | (_ | _) | (_ | ⟨_, _⟩) <;> simp [Json.encode, encodeBasestring]

theorem skipWs_encode (v : Json) (level : Nat) (r : List Char) :
    skipWs (v.encode level ++ r) = v.encode level ++ r := by
  obtain ⟨c, cs, h, hc⟩ := encode_cons v level
  rw [h]
  simp only [List.mem_cons, List.mem_singleton, List.not_mem_nil, or_false] at hc
  rcases hc with rfl | rfl | rfl | rfl | rfl | rfl <;> rfl


theorem foldl_dictSet {d kvs : List (String × Json)} (h : (d.map (·.1) ++ kvs.map (·.1)).Nodup) :
    kvs.foldl (fun d p => dictSet d p.1 p.2) d = d ++ kvs := by
  induction kvs generalizing d with
  | nil => simp
  | cons p kvs ih =>
    have hp : p.1 ∉ d.map (·.1) := fun hm => by simp_all [List.nodup_append]
    have hnew : d.any (·.1 = p.1) = false := by
      simp only [List.any_eq_false, decide_eq_true_eq]
      exact fun q hq heq => hp (List.mem_map.mpr ⟨q, hq, heq⟩)
    rw [List.foldl_cons, dictSet, if_neg (by simp [hnew]), ih (by simpa using h)]
    simp

theorem dictOf_of_nodup {kvs : List (String × Json)} (h : (kvs.map (·.1)).Nodup) :
    dictOf kvs = kvs :=
  foldl_dictSet (by simpa using h)


theorem size_pos (v : Json) : 0 < v.size := by
  cases v <;> simp [Json.size]

theorem head_encode (v : Json) (level : Nat) (r : List Char) :
    ∃ c, (v.encode level ++ r).head? = some c ∧ c ≠ ']' ∧ c ≠ '\x7d' := by
  obtain ⟨c, cs, h, hc⟩ := encode_cons v level
  refine ⟨c, by simp [h], ?_⟩
  simp only [List.mem_cons, List.mem_singleton, List.not_mem_nil, or_false] at hc
  rcases hc with rfl | rfl | rfl | rfl | rfl | rfl <;> decide

/-- `parseValue` with `fuel` reads back every value `encode` writes that the fuel covers. -/
def ReadsValues (fuel : Nat) : Prop :=
  ∀ (v : Json) level rest, v.Keyed → v.size ≤ fuel →
    parseValue fuel (v.encode level ++ rest) = .ok (v, rest)

def ReadsItems (fuel : Nat) : Prop :=
  ∀ (x : Json) xs level tail rest, x.Keyed → itemsKeyed xs → sizeItems (x :: xs) ≤ fuel →
    skipWs tail = ']' :: rest →
    parseItems fuel (x.encode level ++ (encodeItems level xs ++ tail)) = .ok (x :: xs, rest)

def ReadsFields (fuel : Nat) : Prop :=
  ∀ (k : String) (v : Json) kvs level tail rest, v.Keyed → fieldsKeyed kvs →
    sizeFields ((k, v) :: kvs) ≤ fuel → skipWs tail = '\x7d' :: rest →
    parseFields fuel (encodeBasestring k.toList ++ ([':', ' '] ++ (v.encode level ++
      (encodeFields level kvs ++ tail)))) = .ok ((k, v) :: kvs, rest)

theorem readsItems_succ {n : Nat} (hv : ReadsValues n) (hi : ReadsItems n) :
    ReadsItems (n + 1) := by
  intro x xs level tail rest hx hxs hs ht
  simp only [sizeItems] at hs
  rw [parseItems, hv x level _ hx (by omega)]
  cases xs with
  | nil => simp [bind, Except.bind, encodeItems, ht]
  | cons y ys =>
    obtain ⟨hy, hys⟩ := hxs
    have hs' : sizeItems (y :: ys) ≤ n := by simp only [sizeItems] at hs ⊢; omega
    simp only [encodeItems, List.cons_append, List.append_assoc, bind, Except.bind]
    rw [skipWs_cons (c := ',') rfl]
    simp [Except.map, skipWs_newlineIndent, skipWs_encode, hi y ys level tail rest hy hys hs' ht]

theorem skipWs_space (r : List Char) : skipWs (' ' :: r) = skipWs r := by
  simp [skipWs, isWs]

theorem readsFields_succ {n : Nat} (hv : ReadsValues n) (hf : ReadsFields n) :
    ReadsFields (n + 1) := by
  intro k v kvs level tail rest hk hkvs hs ht
  simp only [sizeFields] at hs
  simp only [encodeBasestring, List.cons_append, List.append_assoc, List.singleton_append,
    List.nil_append]
  rw [parseFields, if_pos rfl]
  simp only [bind, Except.bind, scanString_encode]
  rw [skipWs_cons (c := ':') rfl]
  dsimp only
  rw [if_pos rfl, skipWs_space, skipWs_encode, hv v level _ hk (by omega)]
  dsimp only
  cases kvs with
  | nil => simp [Except.map, encodeFields, ht]
  | cons kv kvs =>
    obtain ⟨k', v'⟩ := kv
    obtain ⟨hv', hkvs'⟩ := hkvs
    have hs' : sizeFields ((k', v') :: kvs) ≤ n := by simp only [sizeFields] at hs ⊢; omega
    have := hf k' v' kvs level tail rest hv' hkvs' hs' ht
    simp only [encodeBasestring, List.cons_append, List.append_assoc, List.singleton_append,
      List.nil_append] at this
    simp only [encodeFields, encodeBasestring, List.cons_append, List.append_assoc,
      List.singleton_append, List.nil_append]
    rw [skipWs_cons (c := ',') rfl]
    dsimp only
    rw [if_neg (by decide), if_pos rfl, skipWs_newlineIndent, skipWs_cons (c := '"') rfl, this]
    simp [Except.map]

theorem readsValues_succ {n : Nat} (hi : ReadsItems n) (hf : ReadsFields n) :
    ReadsValues (n + 1) := by
  intro v level rest hk hs
  rcases v with _ | (_ | _) | s | (_ | ⟨x, xs⟩) | (_ | ⟨⟨k, w⟩, kvs⟩)
  · simp only [Json.encode, List.cons_append, List.nil_append]; rw [parseValue]; simp
  · simp only [Json.encode, List.cons_append, List.nil_append]; rw [parseValue]; simp
  · simp only [Json.encode, List.cons_append, List.nil_append]; rw [parseValue]; simp
  · simp only [Json.encode, encodeBasestring, List.cons_append, List.append_assoc,
      List.singleton_append]
    rw [parseValue, if_pos rfl, scanString_encode]
    rfl
  · simp only [Json.encode, List.cons_append, List.nil_append]; rw [parseValue]; simp [skipWs, isWs]
  · obtain ⟨hx, hxs⟩ := hk
    simp only [Json.size] at hs
    obtain ⟨c, hc, hc1, -⟩ := head_encode x (level + 1)
      (encodeItems (level + 1) xs ++ (newlineIndent level ++ ']' :: rest))
    simp only [Json.encode, List.cons_append, List.append_assoc, List.singleton_append,
      List.nil_append]
    rw [parseValue, if_neg (by decide), if_neg (by decide), if_pos rfl]
    dsimp only
    rw [skipWs_newlineIndent, skipWs_encode, hc, if_neg (by simpa using hc1),
      hi x xs (level + 1) _ rest hx hxs (by omega) (by rw [skipWs_newlineIndent]; rfl)]
    rfl
  · simp only [Json.encode, List.cons_append, List.nil_append]; rw [parseValue]; simp [skipWs, isWs]
  · obtain ⟨hnd, hw, hkvs⟩ := hk
    simp only [Json.size] at hs
    simp only [Json.encode, List.cons_append, List.append_assoc, List.singleton_append,
      List.nil_append]
    rw [parseValue, if_neg (by decide), if_pos rfl]
    dsimp only
    have := hf k w kvs (level + 1) (newlineIndent level ++ '\x7d' :: rest) rest hw hkvs (by omega)
      (by rw [skipWs_newlineIndent]; rfl)
    simp only [encodeBasestring, List.cons_append, List.append_assoc, List.singleton_append,
      List.nil_append] at this
    simp only [skipWs_newlineIndent, encodeBasestring, List.cons_append, List.append_assoc,
      List.singleton_append, List.nil_append]
    rw [skipWs_cons (c := '"') rfl, if_neg (by simp), this]
    simp only [Except.map, dictOf_of_nodup hnd]

theorem reads (n : Nat) : ReadsValues n ∧ ReadsItems n ∧ ReadsFields n := by
  induction n with
  | zero =>
    refine ⟨fun v _ _ _ hs => absurd hs (by have := size_pos v; omega), ?_, ?_⟩
    · intro _ _ _ _ _ _ _ hs; simp [sizeItems] at hs
    · intro _ _ _ _ _ _ _ _ hs; simp [sizeFields] at hs
  | succ n ih =>
    obtain ⟨hv, hi, hf⟩ := ih
    exact ⟨readsValues_succ hi hf, readsItems_succ hv hi, readsFields_succ hv hf⟩

mutual
theorem size_le_encode : ∀ (v : Json) (level : Nat), v.size ≤ (v.encode level).length
  | .null, _ => by simp [Json.size, Json.encode]
  | .bool b, _ => by cases b <;> simp [Json.size, Json.encode]
  | .str _, _ => by simp [Json.size, Json.encode, encodeBasestring]
  | .arr [], _ => by simp [Json.size, Json.encode, sizeItems]
  | .arr (x :: xs), level => by
    have := size_le_encode x (level + 1)
    have := sizeItems_le_encode xs (level + 1)
    simp [Json.size, Json.encode, sizeItems, newlineIndent]
    omega
  | .obj [], _ => by simp [Json.size, Json.encode, sizeFields]
  | .obj ((_, v) :: kvs), level => by
    have := size_le_encode v (level + 1)
    have := sizeFields_le_encode kvs (level + 1)
    simp [Json.size, Json.encode, sizeFields, newlineIndent]
    omega
theorem sizeItems_le_encode : ∀ (xs : List Json) (level : Nat),
    sizeItems xs ≤ (encodeItems level xs).length
  | [], _ => by simp [sizeItems, encodeItems]
  | x :: xs, level => by
    have := size_le_encode x level
    have := sizeItems_le_encode xs level
    simp [sizeItems, encodeItems, newlineIndent]
    omega
theorem sizeFields_le_encode : ∀ (kvs : List (String × Json)) (level : Nat),
    sizeFields kvs ≤ (encodeFields level kvs).length
  | [], _ => by simp [sizeFields, encodeFields]
  | (_, v) :: kvs, level => by
    have := size_le_encode v level
    have := sizeFields_le_encode kvs level
    simp [sizeFields, encodeFields, newlineIndent]
    omega
end

/-- `json.loads` reads back what `json.dumps` writes, for every value whose objects have
distinct keys. -/
theorem loads_dumps (v : Json) (hv : v.Keyed) : loads (dumps v) = .ok v := by
  obtain ⟨c, hc, -, -⟩ := head_encode v 0 []
  have hsize := size_le_encode v 0
  have hread := (reads ((v.encode 0).length + 1)).1 v 0 [] hv (by omega)
  rw [List.append_nil] at hc hread
  have hbom : c ≠ '\uFEFF' := by
    obtain ⟨c', cs, h, hc'⟩ := encode_cons v 0
    rw [h] at hc
    cases hc
    simp only [List.mem_cons, List.mem_singleton, List.not_mem_nil, or_false] at hc'
    rcases hc' with rfl | rfl | rfl | rfl | rfl | rfl <;> decide
  have hws := skipWs_encode v 0 []
  rw [List.append_nil] at hws
  rw [loads, show (dumps v).toList = v.encode 0 from rfl]
  simp [hc, hbom, hws, hread, bind, Except.bind]
  rfl

end Lmdeploy.Py
