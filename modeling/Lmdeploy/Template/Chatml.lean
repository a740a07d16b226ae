import Lmdeploy.Template.Text

/-! The turn markers of the chatml-style prompts, `<|im_start|>` and `<|im_end|>`, found by a
scanner that reads the prompt one character at a time and remembers the longest partial
marker it is in. A marker starts with the only `<` it contains and ends with the only `>`,
so after a `<` or a character of neither marker the scanner's state no longer depends on what
it read before, and after a `>` or such a character it holds no partial marker. Prompts are
built by concatenation, and these two facts let the markers of a prompt be counted piece by
piece: template text (`Seg`, `Tag`) and user text that contains no marker (`Free`). -/
namespace Lmdeploy.Chatml

inductive Mark
  | imStart
  | imEnd
  deriving DecidableEq, Repr

def imStart : List Char := "<|im_start|>".data

def imEnd : List Char := "<|im_end|>".data

structure Scan where
  pending : List Char
  marks : List Mark
  deriving DecidableEq, Repr

def outside (c : Char) : Bool := decide (c ∉ imStart) && decide (c ∉ imEnd)

/-- One character read with the partial marker `p`: the new partial marker and the marker
it completes, if any. -/
def advance (p : List Char) (c : Char) : List Char × List Mark :=
  let q := p ++ [c]
  if q = imStart then ([], [.imStart])
  else if q = imEnd then ([], [.imEnd])
  else if q.isPrefixOf imStart || q.isPrefixOf imEnd then (q, [])
  else if c = '<' then (['<'], [])
  else ([], [])

def step (st : Scan) (c : Char) : Scan :=
  ⟨(advance st.pending c).1, st.marks ++ (advance st.pending c).2⟩

def scan (st : Scan) (s : List Char) : Scan := s.foldl step st

def marks (s : String) : List Mark := (scan ⟨[], []⟩ s.data).marks

example : marks "<|im_start|>user\nhi<|im_end|>\n<|im_start|>assistant\n" =
    [.imStart, .imEnd, .imStart] := by decide

theorem scan_append (st : Scan) (a b : List Char) : scan st (a ++ b) = scan (scan st a) b :=
  List.foldl_append _ _ _ _

theorem scan_cons (st : Scan) (c : Char) (s : List Char) :
    scan st (c :: s) = scan (step st c) s := rfl

/-- Found markers are only ever added to. -/
theorem scan_marks (p : List Char) (ms : List Mark) (s : List Char) :
    scan ⟨p, ms⟩ s = ⟨(scan ⟨p, []⟩ s).pending, ms ++ (scan ⟨p, []⟩ s).marks⟩ := by
  induction s generalizing p ms with
  | nil => simp [scan]
  | cons c s ih =>
    simp only [scan_cons, step, List.nil_append]
    rw [ih, ih _ (advance p c).2, List.append_assoc]

theorem imStart_cons : imStart = '<' :: "|im_start|>".data := rfl

theorem imEnd_cons : imEnd = '<' :: "|im_end|>".data := rfl

theorem lt_not_prefix {p : List Char} (hp : p ≠ []) :
    (p ++ ['<']).isPrefixOf imStart = false ∧ (p ++ ['<']).isPrefixOf imEnd = false := by
  obtain ⟨c, p', rfl⟩ := List.exists_cons_of_ne_nil hp
  have hS : '<' ∉ "|im_start|>".data := by decide
  have hE : '<' ∉ "|im_end|>".data := by decide
  constructor <;> apply Bool.eq_false_iff.mpr <;> intro h <;>
    have h := List.isPrefixOf_iff_prefix.mp h
  · rw [imStart_cons, List.cons_append, List.cons_prefix_cons] at h
    exact hS (h.2.subset (by simp))
  · rw [imEnd_cons, List.cons_append, List.cons_prefix_cons] at h
    exact hE (h.2.subset (by simp))

theorem lt_not_marker {p : List Char} : p ++ ['<'] ≠ imStart ∧ p ++ ['<'] ≠ imEnd := by
  constructor <;> intro h
  · have := congrArg List.getLast? h
    simp [imStart] at this
  · have := congrArg List.getLast? h
    simp [imEnd] at this

theorem outside_not_prefix {p : List Char} {c : Char} (hc : outside c = true) :
    (p ++ [c]).isPrefixOf imStart = false ∧ (p ++ [c]).isPrefixOf imEnd = false ∧
      p ++ [c] ≠ imStart ∧ p ++ [c] ≠ imEnd := by
  simp only [outside, Bool.and_eq_true, decide_eq_true_eq] at hc
  have mem : c ∈ p ++ [c] := by simp
  refine ⟨Bool.eq_false_iff.mpr fun h => hc.1 ?_, Bool.eq_false_iff.mpr fun h => hc.2 ?_,
    fun h => hc.1 (h ▸ mem), fun h => hc.2 (h ▸ mem)⟩
  · exact (List.isPrefixOf_iff_prefix.mp h).subset mem
  · exact (List.isPrefixOf_iff_prefix.mp h).subset mem

def resets (c : Char) : Bool := c = '<' || outside c

theorem outside_ne_lt {c : Char} (hc : outside c = true) : c ≠ '<' := by
  rintro rfl
  simp [outside, imStart] at hc

theorem advance_resets (p : List Char) {c : Char} (hc : resets c = true) :
    advance p c = advance [] c := by
  rcases List.eq_nil_or_concat p with rfl | ⟨p', x, rfl⟩
  · rfl
  have hp : p'.concat x ≠ [] := by simp
  simp only [resets, Bool.or_eq_true, decide_eq_true_eq] at hc
  rcases hc with rfl | hc
  · obtain ⟨hS, hE⟩ := lt_not_prefix hp
    obtain ⟨nS, nE⟩ := lt_not_marker (p := p'.concat x)
    have fresh : advance [] '<' = (['<'], []) := by decide
    rw [fresh]
    simp only [advance]
    rw [if_neg nS, if_neg nE, hS, hE]
    rfl
  · obtain ⟨hS, hE, nS, nE⟩ := outside_not_prefix (p := p'.concat x) hc
    obtain ⟨hS', hE', nS', nE'⟩ := outside_not_prefix (p := []) hc
    simp only [advance, nS, nE, hS, hE, nS', nE', hS', hE', outside_ne_lt hc]
    rfl

def closes (c : Char) : Bool := c = '>' || outside c

theorem gt_prefix {q : List Char} (h : (q ++ ['>']).isPrefixOf imStart = true ∨
    (q ++ ['>']).isPrefixOf imEnd = true) : q ++ ['>'] = imStart ∨ q ++ ['>'] = imEnd := by
  have take_gt : ∀ m : List Char, (∀ n < m.length, (m.take (n + 1)).getLast? = some '>' →
      n + 1 = m.length) → (q ++ ['>']) <+: m → q ++ ['>'] = m := by
    intro m hm hq
    have hn : q ++ ['>'] = m.take (q.length + 1) := by
      rw [List.prefix_iff_eq_take.mp hq]
      simp
    have hlen : q.length < m.length := by
      have := hq.length_le
      simp only [List.length_append, List.length_singleton] at this
      omega
    have := hm q.length hlen (by rw [← hn]; simp)
    rw [hn, List.take_of_length_le (by omega)]
  rcases h with h | h
  · exact .inl (take_gt imStart (by decide) (List.isPrefixOf_iff_prefix.mp h))
  · exact .inr (take_gt imEnd (by decide) (List.isPrefixOf_iff_prefix.mp h))

theorem advance_closes (p : List Char) {c : Char} (hc : closes c = true) :
    (advance p c).1 = [] := by
  simp only [closes, Bool.or_eq_true, decide_eq_true_eq] at hc
  rcases hc with rfl | hc
  · by_cases h1 : p ++ ['>'] = imStart
    · simp only [advance, if_pos h1]
    by_cases h2 : p ++ ['>'] = imEnd
    · simp only [advance, if_neg h1, if_pos h2]
    have h3 : ((p ++ ['>']).isPrefixOf imStart || (p ++ ['>']).isPrefixOf imEnd) = false := by
      apply Bool.eq_false_iff.mpr
      intro h
      rcases gt_prefix (by simpa only [Bool.or_eq_true] using h) with h | h
      · exact h1 h
      · exact h2 h
    simp only [advance]
    rw [if_neg h1, if_neg h2, h3]
    rfl
  · obtain ⟨hS, hE, nS, nE⟩ := outside_not_prefix (p := p) hc
    simp only [advance]
    rw [if_neg nS, if_neg nE, hS, hE]
    simp [outside_ne_lt hc]

theorem advance_cases (p : List Char) (c : Char) :
    (p ++ [c] = imStart ∧ advance p c = ([], [.imStart])) ∨
    (p ++ [c] = imEnd ∧ advance p c = ([], [.imEnd])) ∨
    ((advance p c).2 = [] ∧ ((advance p c).1 = p ++ [c] ∨
      (c = '<' ∧ (advance p c).1 = ['<']) ∨ (advance p c).1 = [])) := by
  simp only [advance]
  split_ifs <;> simp_all

def Free (t : String) : Prop := ¬ imStart <:+: t.data ∧ ¬ imEnd <:+: t.data

instance (t : String) : Decidable (Free t) := inferInstanceAs (Decidable (_ ∧ _))

theorem scan_free (p : List Char) (ms : List Mark) (s : List Char)
    (hS : ¬ imStart <:+: p ++ s) (hE : ¬ imEnd <:+: p ++ s) : (scan ⟨p, ms⟩ s).marks = ms := by
  induction s generalizing p with
  | nil => rfl
  | cons c s ih =>
    have suffix : ∀ x, x ++ s <:+ p ++ c :: s → ¬ imStart <:+: x ++ s ∧ ¬ imEnd <:+: x ++ s :=
      fun x hx => ⟨fun h => hS (h.trans hx.isInfix), fun h => hE (h.trans hx.isInfix)⟩
    have whole : ∀ q, p ++ [c] = q → q <:+: p ++ c :: s := fun q hq => ⟨[], s, by simp [← hq]⟩
    rw [scan_cons, step]
    rcases advance_cases p c with ⟨h, -⟩ | ⟨h, -⟩ | ⟨hm, hp | ⟨rfl, hp⟩ | hp⟩
    · exact absurd (whole _ h) hS
    · exact absurd (whole _ h) hE
    · rw [hm, List.append_nil, hp]
      exact ih _ (by simpa using hS) (by simpa using hE)
    · rw [hm, List.append_nil, hp]
      exact ih _ (suffix _ ⟨p, by simp⟩).1 (suffix _ ⟨p, by simp⟩).2
    · rw [hm, List.append_nil, hp]
      exact ih _ (suffix [] ⟨p ++ [c], by simp⟩).1 (suffix [] ⟨p ++ [c], by simp⟩).2

theorem scan_closes_pending (st : Scan) (l : List Char) {c : Char} (hc : closes c = true) :
    (scan st (l ++ [c])).pending = [] := by
  rw [scan_append]
  exact advance_closes _ hc

/-- Template text: scanned from a clean state it finds `m` and ends clean. -/
def Seg (m : List Mark) (x : String) : Prop := scan ⟨[], []⟩ x.data = ⟨[], m⟩

/-- Template text that also starts with a resetting character, so it may follow user text. -/
def Tag (m : List Mark) (x : String) : Prop := x.data.head?.map resets = some true ∧ Seg m x

instance (m : List Mark) (x : String) : Decidable (Seg m x) :=
  inferInstanceAs (Decidable (_ = _))

instance (m : List Mark) (x : String) : Decidable (Tag m x) :=
  inferInstanceAs (Decidable (_ ∧ _))

theorem Seg.scan {m : List Mark} {x : String} (h : Seg m x) (ms : List Mark) :
    scan ⟨[], ms⟩ x.data = ⟨[], ms ++ m⟩ := by
  rw [scan_marks, h]

theorem Seg.empty : Seg [] "" := rfl

theorem Seg.append {m m' : List Mark} {x y : String} (hx : Seg m x) (hy : Seg m' y) :
    Seg (m ++ m') (x ++ y) := by
  rw [Seg, String.data_append, scan_append, hx, hy.scan]

theorem Tag.scan {m : List Mark} {x : String} (h : Tag m x) (p : List Char) (ms : List Mark) :
    Chatml.scan ⟨p, ms⟩ x.data = ⟨[], ms ++ m⟩ := by
  obtain ⟨hhead, hseg⟩ := h
  obtain ⟨c, cs, hx⟩ : ∃ c cs, x.data = c :: cs := by
    cases hd : x.data with
    | nil => simp [hd] at hhead
    | cons c cs => exact ⟨c, cs, rfl⟩
  have hc : resets c = true := by simpa [hx] using hhead
  have := hseg.scan ms
  rw [hx] at this ⊢
  rw [scan_cons] at this ⊢
  simpa only [step, advance_resets p hc] using this

theorem Tag.seg {m : List Mark} {x : String} (h : Tag m x) : Seg m x := h.2

theorem Seg.of_free {x : String} (hx : Free x) (hend : x.data.getLast?.all closes = true) :
    Seg [] x := by
  have marks := scan_free [] [] x.data (by simpa using hx.1) (by simpa using hx.2)
  have pending : (Chatml.scan ⟨[], []⟩ x.data).pending = [] := by
    rcases List.eq_nil_or_concat x.data with h | ⟨l, c, h⟩
    · rw [h]
      rfl
    · rw [h, List.concat_eq_append] at hend ⊢
      exact scan_closes_pending _ l (by simpa using hend)
  rw [Seg]
  generalize Chatml.scan ⟨[], []⟩ x.data = st at marks pending
  obtain ⟨p, m⟩ := st
  cases pending
  cases marks
  rfl

theorem Tag.of_free {x : String} (hx : Free x) (hhead : x.data.head?.map resets = some true)
    (hend : x.data.getLast?.all closes = true) : Tag [] x :=
  ⟨hhead, Seg.of_free hx hend⟩

theorem Tag.length_pos {m : List Mark} {x : String} (h : Tag m x) : 0 < x.length := by
  obtain ⟨d⟩ := x
  cases d with
  | nil => cases h.1
  | cons c cs => exact Nat.succ_pos _

/-- Text that, read from a clean state, finds no marker; it may end inside a partial one. -/
def Quiet (t : String) : Prop := (scan ⟨[], []⟩ t.data).marks = []

theorem Free.quiet {t : String} (h : Free t) : Quiet t :=
  scan_free [] [] t.data (by simpa using h.1) (by simpa using h.2)

theorem Quiet.scan {t : String} (h : Quiet t) (ms : List Mark) :
    (Chatml.scan ⟨[], ms⟩ t.data).marks = ms := by
  rw [scan_marks, h, List.append_nil]

theorem Seg.quiet {x : String} (h : Seg [] x) : Quiet x := by
  rw [Quiet, show Chatml.scan ⟨[], []⟩ x.data = ⟨[], []⟩ from h]

theorem Quiet.empty : Quiet "" := rfl

theorem Quiet.tag {m : List Mark} {t y : String} (ht : Quiet t) (hy : Tag m y) :
    Seg m (t ++ y) := by
  rw [Seg, String.data_append, scan_append, scan_marks, ht, hy.scan]
  rfl

theorem Seg.quiet_tag {m m' : List Mark} {x t y : String} (hx : Seg m x) (ht : Quiet t)
    (hy : Tag m' y) : Seg (m ++ m') (x ++ t ++ y) := by
  rw [String.append_assoc]
  exact hx.append (ht.tag hy)

theorem Seg.quiet_append {x t : String} (hx : Seg [] x) (ht : Quiet t) : Quiet (x ++ t) := by
  rw [Quiet, String.data_append, scan_append, hx]
  exact ht.scan []

theorem Quiet.append_tag {t y : String} (ht : Quiet t) (hy : Tag [] y) : Quiet (t ++ y) :=
  (ht.tag hy).quiet

theorem Tag.append {m m' : List Mark} {x y : String} (hx : Tag m x) (hy : Seg m' y) :
    Tag (m ++ m') (x ++ y) := by
  refine ⟨?_, hx.seg.append hy⟩
  obtain ⟨c, cs, hc⟩ : ∃ c cs, x.data = c :: cs := by
    cases hd : x.data with
    | nil => have := hx.1; simp [hd] at this
    | cons c cs => exact ⟨c, cs, rfl⟩
  have := hx.1
  simp only [String.data_append, hc, List.cons_append, List.head?_cons] at this ⊢
  exact this

theorem Tag.quiet_tag {m m' : List Mark} {x t y : String} (hx : Tag m x) (ht : Quiet t)
    (hy : Tag m' y) : Tag (m ++ m') (x ++ t ++ y) := by
  rw [String.append_assoc]
  exact hx.append (ht.tag hy)

theorem Tag.append_calls {a b : String} (ha : Tag [] a) (hb : b = "" ∨ Tag [] b) :
    Tag [] (a ++ b) := by
  rcases hb with rfl | hb
  · simpa using ha
  · exact ha.append hb.seg

theorem Quiet.append_calls {t c : String} (ht : Quiet t) (hc : c = "" ∨ Tag [] c) :
    Quiet (t ++ c) := by
  rcases hc with rfl | hc
  · simpa using ht
  · exact ht.append_tag hc

theorem Seg.marks_quiet {m : List Mark} {x t : String} (hx : Seg m x) (ht : Quiet t) :
    marks (x ++ t) = m := by
  rw [marks, String.data_append, scan_append, hx]
  exact ht.scan m

theorem Seg.marks {m : List Mark} {x : String} (hx : Seg m x) : Chatml.marks x = m := by
  rw [Chatml.marks, show Chatml.scan ⟨[], []⟩ x.data = ⟨[], m⟩ from hx]

end Lmdeploy.Chatml
