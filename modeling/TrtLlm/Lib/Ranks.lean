import Mathlib.Data.Fin.Tuple.Basic
import TrtLlm.Lib.Run

/-! # A call on all ranks

All ranks make a call, and the next one starts when all of them have returned. A failure on one
rank is a failure of all.
-/

namespace Ranks

variable {ε α β : Type}

/-- The results of all ranks, or the failure of the first rank that fails. -/
def call : {ranks : Nat} → (Fin ranks → Except ε α) → Except ε (Fin ranks → α)
  | 0, _ => .ok Fin.elim0
  | _ + 1, results => do
      let first ← results 0
      let others ← call fun rank => results rank.succ
      pure (Fin.cons first others)

theorem call_ok {ranks : Nat} {results : Fin ranks → Except ε α} {values : Fin ranks → α}
    (returned : ∀ rank, results rank = .ok (values rank)) : call results = .ok values := by
  induction ranks with
  | zero => exact congrArg Except.ok (funext fun rank => rank.elim0)
  | succ ranks ih =>
    simp only [call, Except.bind_eq_ok, Except.pure_eq_ok]
    exact ⟨values 0, returned 0, fun rank => values rank.succ, ih fun rank => returned rank.succ,
      Fin.cons_self_tail values⟩

end Ranks
