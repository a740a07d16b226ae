import Mathlib.Data.List.Infix

/-! The Python string operations that the chat templates of `lmdeploy/model.py` use,
on `String` through its list of characters: Python indexes strings by code point, as
`String.data` does. -/
namespace Lmdeploy.Py

/-- `s[:-k]` for `k ≥ 0`. Note `s[:-0]` is `s[:0]`, the empty string. -/
def sliceNeg (s : String) (k : Nat) : String :=
  if k = 0 then "" else ⟨s.data.take (s.length - k)⟩

def contains (s sub : String) : Bool := decide (sub.data <:+: s.data)

/-- The whitespace `str.strip()` removes, restricted to ASCII: the markers the templates
strip contain no other. -/
def isSpace (c : Char) : Bool :=
  c = ' ' || c = '\t' || c = '\n' || c = '\r' || c = '\x0b' || c = '\x0c'

def strip (s : String) : String :=
  ⟨((s.data.dropWhile isSpace).reverse.dropWhile isSpace).reverse⟩

def lstripNewline (s : String) : String := ⟨s.data.dropWhile (· = '\n')⟩

theorem lstripNewline_append {a : String} (b : String) (ha : lstripNewline a ≠ "") :
    lstripNewline (a ++ b) = lstripNewline a ++ b := by
  have kept : (a.data.dropWhile (· = '\n')).isEmpty = false := by
    cases h : a.data.dropWhile (· = '\n') with
    | nil => exact absurd (congrArg String.mk h) ha
    | cons c cs => rfl
  simp only [lstripNewline, String.data_append, List.dropWhile_append, kept]
  rfl

def splitFirst (sep : List Char) : List Char → Option (List Char × List Char)
  | [] => none
  | c :: cs =>
    if sep <+: c :: cs then some ([], (c :: cs).drop sep.length)
    else (splitFirst sep cs).map fun p => (c :: p.1, p.2)

/-- `a, b = s.split(sep)` for a non-empty `sep`: it unpacks only when `sep` occurs exactly
once, and raises `ValueError` (here `none`) otherwise. -/
def split2 (s sep : String) : Option (String × String) :=
  match splitFirst sep.data s.data with
  | some (a, b) => if sep.data <:+: b then none else some (⟨a⟩, ⟨b⟩)
  | none => none

@[simp] theorem sliceNeg_zero (s : String) : sliceNeg s 0 = "" := rfl

theorem sliceNeg_append (s t : String) (ht : t ≠ "") : sliceNeg (s ++ t) t.length = s := by
  have hl : t.length ≠ 0 := fun h => ht (String.ext (List.length_eq_zero.mp h))
  rw [sliceNeg, if_neg hl]
  apply String.ext
  simp only [String.length_append, Nat.add_sub_cancel, String.data_append]
  exact List.take_left' rfl

/-- The texts `ts` occur in `s` in this order as non-overlapping substrings. -/
def Embeds : List String → String → Prop
  | [], _ => True
  | t :: ts, s => ∃ x y, s = x ++ t ++ y ∧ Embeds ts y

theorem Embeds.prepend {ts : List String} {s : String} (h : Embeds ts s) (x : String) :
    Embeds ts (x ++ s) := by
  cases ts with
  | nil => trivial
  | cons t ts =>
    obtain ⟨a, b, rfl, hb⟩ := h
    exact ⟨x ++ a, b, by simp [String.append_assoc], hb⟩

theorem Embeds.append {ts : List String} {s : String} (h : Embeds ts s) (y : String) :
    Embeds ts (s ++ y) := by
  induction ts generalizing s with
  | nil => trivial
  | cons t ts ih =>
    obtain ⟨a, b, rfl, hb⟩ := h
    exact ⟨a, b ++ y, by simp [String.append_assoc], ih hb⟩

theorem Embeds.concat {ts us : List String} {s u : String} (hs : Embeds ts s) (hu : Embeds us u) :
    Embeds (ts ++ us) (s ++ u) := by
  induction ts generalizing s with
  | nil => exact hu.prepend s
  | cons t ts ih =>
    obtain ⟨a, b, rfl, hb⟩ := hs
    exact ⟨a, b ++ u, by simp [String.append_assoc], ih hb⟩

theorem Embeds.single (x t y : String) : Embeds [t] (x ++ t ++ y) := ⟨x, y, rfl, trivial⟩

theorem sliceNeg_append_le (p t : String) {k : Nat} (hk : 0 < k) (hkt : k ≤ t.length) :
    sliceNeg (p ++ t) k = p ++ ⟨t.data.take (t.length - k)⟩ := by
  have hlen : (p ++ t).length - k = p.length + (t.length - k) := by
    rw [String.length_append]
    omega
  apply String.ext
  rw [sliceNeg, if_neg (Nat.pos_iff_ne_zero.mp hk), hlen, String.data_append, String.data_append]
  exact List.take_append (t.length - k)

theorem Embeds.sliceNeg {ts : List String} {p : String} (h : Embeds ts p) (t : String) {k : Nat}
    (hk : 0 < k) (hkt : k ≤ t.length) : Embeds ts (Py.sliceNeg (p ++ t) k) := by
  rw [sliceNeg_append_le p t hk hkt]
  exact h.append _

theorem Embeds.contains {t : String} {ts : List String} {s : String} (h : Embeds (t :: ts) s) :
    contains s t = true := by
  obtain ⟨x, y, rfl, -⟩ := h
  exact decide_eq_true ⟨x.data, y.data, by simp⟩

end Lmdeploy.Py
