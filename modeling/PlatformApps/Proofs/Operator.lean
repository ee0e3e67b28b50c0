/-
# Calls of the store within a pass

Calls of the store are played by the part of a handler that answers them.
-/

import PlatformApps.Operator
import PlatformApps.Proofs.Dialogue

namespace PlatformApps.Operator

variable {α σ : Type} {allowed : OperatorRequest → Prop}

/-- The part of a handler that answers calls of the store. -/
def stored (handler : Operator.Handler σ) : Store.Handler σ :=
  fun call state => handler (.store call) state

theorem run_calls (handler : Operator.Handler σ) (dialogue : Dialogue Store α) (state : σ) :
    (calls dialogue).run handler state = dialogue.run (stored handler) state := by
  rw [calls, Dialogue.run_embed]
  congr 1
  funext call state
  exact Prod.ext (congrFun Except.map_id _) rfl

theorem asks_calls {dialogue : Dialogue Store α}
    (asks : dialogue.Asks fun call : StoreCall => allowed (.store call)) :
    (calls dialogue).Asks allowed :=
  Dialogue.Asks.embed asks

end PlatformApps.Operator
