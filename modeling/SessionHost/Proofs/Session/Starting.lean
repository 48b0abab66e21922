import SessionHost.Proofs.Session.Launching

/-!
Starts of one bridge.

`Bridge.startAll` makes any number of starts one after the other. `startAll_fresh` says what the
first comes to and that the others come to nothing.
-/

namespace SessionHost.Session

open Text Protocol

variable {ω ρ σ : Type}

/-! ### The entry -/

namespace Launches

variable {view : σ → ω} {runtime : Runtime ω ρ} {entry : Entry σ ρ} {state last : σ × ρ}
  {calls : List InitCall} {ending : Option Ending} {values : List Int32}

/-- The entry runs exactly if the first call that counts has a handle. -/
theorem isSome_iff (launches : Launches view runtime entry state calls ending values last) :
    ending.isSome ↔ ∃ handle, (counted calls).head? = some ⟨some handle, true⟩ := by
  cases launches with
  | refused closed =>
      constructor
      · intro ran
        cases ran
      · rintro ⟨handle, first⟩
        have null := closed ⟨some handle, true⟩ first
        cases null
  | @entered before after handle result early ran =>
      rw [counted_append_cons early]
      simp

/-- An entry that counts its runs on the host's side has run once more, or not at all. -/
theorem count_eq (launches : Launches view runtime entry state calls ending values last)
    {count : σ → Nat}
    (counts : ∀ opener state, count (entry opener state).1.1 = count state.1 + 1) :
    count last.1 = count state.1 + if ending.isSome then 1 else 0 := by
  cases launches with
  | refused closed => rfl
  | entered early ran =>
      subst ran
      exact counts _ _

/-- Every call returns one value. -/
theorem length_values (launches : Launches view runtime entry state calls ending values last) :
    values.length = calls.length := by
  cases launches with
  | refused closed => simp [refusals]
  | entered early ran => simp [refusals]

end Launches

/-! ### One start after the other -/

/-- A start that a host makes: what befalls both sides before it, and its entry. -/
structure Start (σ ρ : Type) where
  meanwhile : σ × ρ → σ × ρ
  entry : Entry σ ρ

namespace Bridge

/-- Makes starts in order, with their outcomes in the same order. -/
def startAll (view : σ → ω) (runtime : Runtime ω ρ) :
    List (Start σ ρ) → Bridge → σ × ρ → (σ × ρ) × Bridge × List (Outcome Error Int32)
  | [], bridge, state => (state, bridge, [])
  | start :: rest, bridge, state =>
      let result := bridge.start view runtime start.entry (start.meanwhile state)
      let later := startAll view runtime rest result.2.1 result.1
      (later.1, later.2.1, result.2.2 :: later.2.2)

/-- Both sides after what befell them before the starts, if nothing else did. -/
def unattended (starts : List (Start σ ρ)) (state : σ × ρ) : σ × ρ :=
  starts.foldl (fun state start => start.meanwhile state) state

/-- A bridge that was started makes no other start. -/
theorem startAll_of_started (view : σ → ω) (runtime : Runtime ω ρ) {bridge : Bridge}
    (started : bridge.started = true) (starts : List (Start σ ρ)) (state : σ × ρ) :
    bridge.startAll view runtime starts state
      = (unattended starts state, bridge, starts.map fun _ => .failed .alreadyStarted) := by
  induction starts generalizing state with
  | nil => rfl
  | cons start rest ih =>
      have refused : bridge.start view runtime start.entry (start.meanwhile state)
          = (start.meanwhile state, bridge, .failed .alreadyStarted) := by
        simp [Bridge.start, started]
      rw [startAll, refused, ih]
      rfl

/-- With a NUL in the id the runtime is not reached. -/
theorem start_of_hasNul (view : σ → ω) (runtime : Runtime ω ρ) (entry : Entry σ ρ) {id : String}
    (broken : hasNul (encode id) = true) (state : σ × ρ) :
    (fresh id).start view runtime entry state = (state, ⟨id, true⟩, .failed (appIdHasNul id)) := by
  simp [Bridge.start, fresh, broken]

/-- Without one the runtime makes its calls. -/
theorem start_of_whole (view : σ → ω) (runtime : Runtime ω ρ) (entry : Entry σ ρ) {id : String}
    (whole : hasNul (encode id) = false) (state : σ × ρ) :
    let begun := runtime.start (view state.1) (terminate (encode id)) state.2
    let launch := begun.1.calls.foldl (Launch.init view runtime entry) (.fresh (state.1, begun.2))
    (fresh id).start view runtime entry state
      = (launch.state, ⟨id, true⟩, launch.finish (begun.1.returns.status launch.values)) := by
  simp [Bridge.start, fresh, whole]

/-- A start uses its bridge up, however it ends. -/
theorem start_uses_up (view : σ → ω) (runtime : Runtime ω ρ) (entry : Entry σ ρ) (id : String)
    (state : σ × ρ) : ((fresh id).start view runtime entry state).2.1 = ⟨id, true⟩ := by
  cases broken : hasNul (encode id) with
  | true => rw [start_of_hasNul view runtime entry broken]
  | false => rw [start_of_whole view runtime entry broken]

end Bridge

/-- **What starts come to.** Of all starts of a bridge only the first gets anywhere; whatever it
came to, the others are refused and leave both sides alone. With a NUL in the id the first is
refused as well. Without one it goes as `Launches` says: the entry runs once or not at all, and it
does so exactly if the first init call that counts has a handle. The outcome is the verdict on how
the entry ended, the calls that counted and the status for the values that all calls returned. -/
theorem startAll_fresh (view : σ → ω) (runtime : Runtime ω ρ) (id : String) (first : Start σ ρ)
    (later : List (Start σ ρ)) (state : σ × ρ) :
    let ready := first.meanwhile state
    let opened := (Bridge.fresh id).start view runtime first.entry ready
    (Bridge.fresh id).startAll view runtime (first :: later) state
        = (Bridge.unattended later opened.1, ⟨id, true⟩,
            opened.2.2 :: later.map fun _ => .failed .alreadyStarted) ∧
    (hasNul (encode id) = true →
      opened.1 = ready ∧ opened.2.2 = .failed (Bridge.appIdHasNul id)) ∧
    (hasNul (encode id) = false →
      let begun := runtime.start (view ready.1) (terminate (encode id)) ready.2
      ∃ ending values,
        Launches view runtime first.entry (ready.1, begun.2) begun.1.calls ending values opened.1 ∧
        opened.2.2 = verdict ending (counted begun.1.calls) (begun.1.returns.status values) ∧
        values.length = begun.1.calls.length ∧
        (ending.isSome ↔
          ∃ handle, (counted begun.1.calls).head? = some ⟨some handle, true⟩) ∧
        ∀ count : σ → Nat,
          (∀ opener state, count (first.entry opener state).1.1 = count state.1 + 1) →
          count opened.1.1 = count ready.1 + if ending.isSome then 1 else 0) := by
  intro ready opened
  refine ⟨?_, fun broken => ?_, fun whole => ?_⟩
  · have used : opened.2.1 = ⟨id, true⟩ :=
      Bridge.start_uses_up view runtime first.entry id ready
    have one : (Bridge.fresh id).startAll view runtime (first :: later) state
        = let rest := opened.2.1.startAll view runtime later opened.1
          (rest.1, rest.2.1, opened.2.2 :: rest.2.2) := rfl
    rw [one, used, Bridge.startAll_of_started view runtime rfl]
  · have refused : opened = _ := Bridge.start_of_hasNul view runtime first.entry broken ready
    rw [refused]
    exact ⟨rfl, rfl⟩
  · intro begun
    have started : opened = _ := Bridge.start_of_whole view runtime first.entry whole ready
    obtain ⟨ending, launches, finish⟩ :=
      exists_launches view runtime first.entry (ready.1, begun.2) begun.1.calls rfl
    refine ⟨ending, _, ?_, ?_, launches.length_values, launches.isSome_iff, ?_⟩
    · rw [started]
      exact launches
    · rw [started]
      exact finish _
    · intro count counts
      rw [started]
      exact launches.count_eq counts

end SessionHost.Session
