import Lmdeploy.Engine.State

/-! The model inputs `create_model_inputs` builds for a batch, and in them the mask
`input_embedding_indexing` of `__get_vlm_embeddings`: one row of `max_q_seq_length` flags per
sequence, True where the model takes a supplied embedding instead of a token's. An embedding
is attached by its range `[start, end)` of absolute token positions, and the row marks the
slice `[start - history_len : end - history_len]`. A Python slice counts a negative bound
from the row's end, so a range that starts inside the history is not cut at the row's start:
it marks what the wrapped bounds cover. -/
namespace Lmdeploy.Py

/-- A bound of the slice `xs[a:b]` on a sequence of length `len`, as `PySlice_AdjustIndices`
settles it: a negative bound counts from the end, and the result is clamped to `[0, len]`. -/
def sliceIndex (len : Nat) (i : Int) : Nat :=
  if i < 0 then (i + len).toNat else min i.toNat len

def setSlice (row : List Bool) (a b : Int) : List Bool :=
  let lo := sliceIndex row.length a
  let hi := sliceIndex row.length b
  row.mapIdx fun j x => decide (lo ≤ j ∧ j < hi) || x

theorem sliceIndex_of_nonneg {len : Nat} {i : Int} (h : 0 ≤ i) :
    (sliceIndex len i : Int) = min i len := by
  have hn : ¬ i < 0 := by omega
  simp only [sliceIndex, hn, if_false]
  omega

@[simp] theorem length_setSlice (row : List Bool) (a b : Int) :
    (setSlice row a b).length = row.length := List.length_mapIdx

theorem getElem?_setSlice (row : List Bool) (a b : Int) (j : Nat) :
    (setSlice row a b)[j]? = row[j]?.map fun x =>
      decide (sliceIndex row.length a ≤ j ∧ j < sliceIndex row.length b) || x :=
  List.getElem?_mapIdx

end Lmdeploy.Py

namespace Lmdeploy.Engine

structure InputEmbedding where
  start : Nat
  stop : Nat
  deriving DecidableEq, Repr

structure BatchSequence where
  historyLen : Nat
  /-- The tokens of this step: the prompt not yet in the cache in prefill, the last token in
  decoding. -/
  tokenIds : List Nat
  inputEmbeddings : List InputEmbedding
  deriving DecidableEq, Repr

structure ModelInputs where
  inputIds : List Nat
  seqLength : List Nat
  historyLengths : List Nat
  isDecoding : Bool
  inputEmbeddingIndexing : Option (List (List Bool))
  inputEmbeddingRanges : Option (List (List (Nat × Nat)))
  deriving DecidableEq, Repr

def embeddingRow (maxQSeqLength : Nat) (msg : BatchSequence) : List Bool :=
  msg.inputEmbeddings.foldl (fun row emb =>
      Py.setSlice row ((emb.start : Int) - msg.historyLen) ((emb.stop : Int) - msg.historyLen))
    (List.replicate maxQSeqLength false)

/-- `__get_vlm_embeddings`: the indexing and the ranges; the embedding tensors are passed on
as they are and left out. -/
def getVlmEmbeddings (messages : List BatchSequence) (maxQSeqLength : Nat) :
    List (List Bool) × List (List (Nat × Nat)) :=
  (messages.map (embeddingRow maxQSeqLength),
    messages.map fun msg => msg.inputEmbeddings.map fun emb => (emb.start, emb.stop))

/-- `create_model_inputs`; `none` on an empty batch, where `token_ids[0]` raises. -/
def createModelInputs (messages : List BatchSequence) (isPrefill : Bool) : Option ModelInputs :=
  match messages with
  | [] => none
  | _ =>
    let seqLength := if isPrefill then messages.map (·.tokenIds.length) else messages.map fun _ => 1
    let maxQSeqLength := seqLength.foldr max 0
    let vlm := if messages.any (·.inputEmbeddings ≠ []) then
      some (getVlmEmbeddings messages maxQSeqLength) else none
    some { inputIds := messages.flatMap (·.tokenIds), seqLength,
           historyLengths := messages.map (·.historyLen), isDecoding := !isPrefill,
           inputEmbeddingIndexing := vlm.map (·.1), inputEmbeddingRanges := vlm.map (·.2) }

/-! ### The mask -/

theorem le_foldr_max {l : List Nat} {x : Nat} (h : x ∈ l) : x ≤ l.foldr max 0 := by
  induction l with
  | nil => cases h
  | cons y l ih =>
    rcases List.mem_cons.mp h with rfl | h
    · exact le_max_left _ _
    · exact (ih h).trans (le_max_right _ _)

theorem getElem?_foldl_setSlice (h : Int) (embs : List InputEmbedding) (row : List Bool)
    (j : Nat) :
    (embs.foldl (fun row emb => Py.setSlice row ((emb.start : Int) - h) ((emb.stop : Int) - h))
      row)[j]? = row[j]?.map fun x => x || embs.any fun emb =>
        decide (Py.sliceIndex row.length ((emb.start : Int) - h) ≤ j ∧
          j < Py.sliceIndex row.length ((emb.stop : Int) - h)) := by
  induction embs generalizing row with
  | nil => simp
  | cons emb embs ih =>
    rw [List.foldl_cons, ih, Py.length_setSlice, Py.getElem?_setSlice, Option.map_map]
    congr 1
    funext x
    rw [Function.comp_apply, List.any_cons, Bool.or_assoc, Bool.or_left_comm]

theorem getElem?_embeddingRow (L : Nat) (msg : BatchSequence) {j : Nat} (hj : j < L) :
    (embeddingRow L msg)[j]? = some (msg.inputEmbeddings.any fun emb =>
      decide (Py.sliceIndex L ((emb.start : Int) - msg.historyLen) ≤ j ∧
        j < Py.sliceIndex L ((emb.stop : Int) - msg.historyLen))) := by
  simp [embeddingRow, getElem?_foldl_setSlice, List.getElem?_replicate, hj]

theorem covers_of_after {L h j : Nat} {emb : InputEmbedding} (hj : j < L)
    (hs : h ≤ emb.start) (he : h ≤ emb.stop) :
    (Py.sliceIndex L ((emb.start : Int) - h) ≤ j ∧ j < Py.sliceIndex L ((emb.stop : Int) - h)) ↔
      emb.start ≤ h + j ∧ h + j < emb.stop := by
  have hs' : (Py.sliceIndex L ((emb.start : Int) - h) : Int) = min ((emb.start : Int) - h) L :=
    Py.sliceIndex_of_nonneg (by omega)
  have he' : (Py.sliceIndex L ((emb.stop : Int) - h) : Int) = min ((emb.stop : Int) - h) L :=
    Py.sliceIndex_of_nonneg (by omega)
  omega

/-- Where every range of a sequence starts and ends at or after its history, its row of
`input_embedding_indexing` is True at a position of its query exactly when the absolute
position lies in one of its ranges. -/
theorem embedding_indexing_marks_ranges {messages : List BatchSequence} {isPrefill : Bool}
    {out : ModelInputs} {indexing : List (List Bool)}
    (hout : createModelInputs messages isPrefill = some out)
    (hidx : out.inputEmbeddingIndexing = some indexing)
    (hafter : ∀ msg ∈ messages, ∀ emb ∈ msg.inputEmbeddings,
      msg.historyLen ≤ emb.start ∧ msg.historyLen ≤ emb.stop)
    {i : Nat} {msg : BatchSequence} (hi : messages[i]? = some msg) {j : Nat}
    (hj : j < if isPrefill then msg.tokenIds.length else 1) :
    indexing[i]?.bind (·[j]?) = some (decide (∃ emb ∈ msg.inputEmbeddings,
      emb.start ≤ msg.historyLen + j ∧ msg.historyLen + j < emb.stop)) := by
  have hmem := List.getElem?_mem hi
  cases messages with
  | nil => cases hout
  | cons m ms =>
    simp only [createModelInputs] at hout
    cases hout
    obtain ⟨vlm, hvlm, rfl⟩ := Option.map_eq_some'.mp hidx
    split at hvlm <;> cases hvlm
    have hq : (if isPrefill then msg.tokenIds.length else 1) ∈
        (if isPrefill then (m :: ms).map (·.tokenIds.length) else (m :: ms).map fun _ => 1) := by
      cases isPrefill <;> exact List.mem_map_of_mem _ hmem
    have hjL := hj.trans_le (le_foldr_max hq)
    simp only [getVlmEmbeddings, List.getElem?_map, hi, Option.map_some', Option.some_bind]
    rw [getElem?_embeddingRow _ _ hjL]
    congr 1
    rw [Bool.eq_iff_iff, List.any_eq_true, decide_eq_true_eq]
    exact exists_congr fun emb => and_congr_right fun he => decide_eq_true_iff.trans <|
      covers_of_after hjL (hafter msg hmem emb he).1 (hafter msg hmem emb he).2

theorem embedding_indexing_marks_ranges_image :
    createModelInputs [⟨4, [1, 2, 3, 4], [⟨5, 7⟩]⟩] true =
      some ⟨[1, 2, 3, 4], [4], [4], false, some [[false, true, true, false]], some [[(5, 7)]]⟩ ∧
    [[false, true, true, false]][0]?.bind (·[1]?) = some (decide (∃ emb ∈ ([⟨5, 7⟩] : List InputEmbedding),
      emb.start ≤ 4 + 1 ∧ 4 + 1 < emb.stop)) :=
  ⟨rfl, @embedding_indexing_marks_ranges [⟨4, [1, 2, 3, 4], [⟨5, 7⟩]⟩] true _ _ rfl rfl
    (by decide) 0 _ rfl 1 (by decide)⟩

/-- Ranges that start inside the history. After four tokens of history, the range `[2, 6)`
covers the first two positions of the prompt, but its slice `[-2:2]` of a row of four is
`[2:2]` and marks nothing; the range `[0, 3)` lies wholly in the history, but its slice
`[-4:-1]` of a row of eight is `[4:7]` and marks the positions 8, 9 and 10. -/
theorem embedding_indexing_wraps :
    ((createModelInputs [⟨4, [1, 2, 3, 4], [⟨2, 6⟩]⟩] true).bind (·.inputEmbeddingIndexing) =
      some [[false, false, false, false]]) ∧
    ((createModelInputs [⟨4, [1, 2, 3, 4, 5, 6, 7, 8], [⟨0, 3⟩]⟩] true).bind
      (·.inputEmbeddingIndexing) = some [[false, false, false, false, true, true, true, false]]) := by
  decide

end Lmdeploy.Engine
