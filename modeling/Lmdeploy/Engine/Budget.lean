import Lmdeploy.Engine.Run

/-! The generation budget `_add_message` leaves a sequence. The engine fixes
`max_session_len` once, by `_get_max_session_len` on its configs, and
`__update_max_new_tokens` caps the request's `max_new_tokens` at what that leaves beside
`num_all_tokens`: the tokens of the whole session so far, history and new prompt. The cap has
no floor, so a session whose tokens alone pass `max_session_len` is admitted with a negative
budget, and `__get_num_appendable_ids` hands that number on. -/
namespace Lmdeploy.Engine

structure SchedulerConfig where
  maxSessionLen : Option Int
  deriving DecidableEq, Repr

structure CacheConfig where
  numGpuBlocks : Int
  blockSize : Int
  windowSize : Int
  deriving DecidableEq, Repr

/-- `_get_max_session_len`: the tokens the cache holds, or `(1 << 63) - 1` under a sliding
window that fits in it, capped by the configured length, less one block. -/
def getMaxSessionLen (sc : SchedulerConfig) (cc : CacheConfig) : Int :=
  let maxTokens := cc.numGpuBlocks * cc.blockSize
  let maxTokens := if cc.windowSize > 0 ∧ cc.windowSize ≤ maxTokens then 9223372036854775807
    else maxTokens
  let sessionLen := match sc.maxSessionLen with
    | none => maxTokens
    | some sessionLen => min maxTokens sessionLen
  sessionLen - cc.blockSize

def getNumAppendableIds (seqs : List Sequence) : List Int :=
  seqs.map fun q => q.maxNewTokens - q.numNewTokens

namespace Scheduler

def sequence? (s : Scheduler) (sid : Nat) : Option Sequence :=
  (s.session? sid).bind fun sess => sess.sequences.head?.bind s.find?

end Scheduler

/-- Admission with a negative budget. With 4 blocks of 4 tokens and a session length of 12,
`max_session_len` is 8: a prompt of 6 tokens gets the budget 2, generates its 2 tokens, and a
second turn of 3 tokens brings the session to 11, so the sequence is admitted with budget
`8 - 11` and the sampler is handed `-3`. With a session length below one block,
`max_session_len` is itself negative and the first prompt is admitted with a negative
budget. -/
theorem admitted_budget_negative :
    getMaxSessionLen ⟨some 12⟩ ⟨4, 4, -1⟩ = 8 ∧
    ((Sys.init (getMaxSessionLen ⟨some 12⟩ ⟨4, 4, -1⟩)).run [.addSession [ask 1 20 [] none],
        .addMessage [ask 1 10 [1, 2, 3, 4, 5, 6] none], .schedule [0], .lock,
        .forward [7] [false], .forward [8] [true], .unlock,
        .addMessage [ask 1 11 [9, 9, 9] none]]).map
      (fun x => (x.engine.scheduler.sequence? 1).map fun q => (q.allIds, getNumAppendableIds [q])) =
      some (some ([1, 2, 3, 4, 5, 6, 7, 8, 9, 9, 9], [-3])) ∧
    getMaxSessionLen ⟨some 2⟩ ⟨4, 4, -1⟩ = -2 ∧
    ((Sys.init (getMaxSessionLen ⟨some 2⟩ ⟨4, 4, -1⟩)).run [.addSession [ask 1 20 [] none],
        .addMessage [ask 1 10 [5] none]]).map
      (fun x => (x.engine.scheduler.sequence? 1).map fun q => (q.allIds, getNumAppendableIds [q])) =
      some (some ([5], [-3])) := by
  decide

end Lmdeploy.Engine
