import SessionHost.Proofs.Command.Runtimes
import SessionHost.Proofs.Console.Entries
import SessionHost.Proofs.Console.Progress
import SessionHost.Proofs.Session.Interleaving

/-!
What opening a profile leaves in the log file.

The entries are those for the events that were forwarded (`eventEntries`) and one about the end
(`Concludes`). Main statement: `openWith_logged`.
-/

namespace SessionHost.Session

open Protocol

variable {ω ρ σ : Type}

/-! ### What a sink gets of an open -/

/-- The events that are handed over are the history of some stage. -/
theorem exists_history_handedBy (view : σ → ω) (runtime : Runtime ω ρ) (handle : Handle)
    (path : Bytes) (sink : Sink σ) (state : σ × ρ) :
    ∃ stage, Stage.History stage (handedBy view runtime handle path sink state) := by
  cases checked : checkPath path with
  | error error =>
      rw [handedBy_of_checkPath_error checked]
      exact ⟨.idle, .idle⟩
  | ok path' =>
      obtain rfl := eq_of_checkPath checked
      rw [handedBy_eq checked]
      exact exists_history_handed sink state.1 _

end SessionHost.Session

namespace SessionHost.Command

open Session Text Protocol Console

/-! ### Events -/

end SessionHost.Command
