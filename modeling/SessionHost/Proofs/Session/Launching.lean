import SessionHost.Session.Launch

/-!
What the init calls of a start come to.

`foldl_init_of_unregistered` and `foldl_init_of_used` are about calls that cannot run the entry:
those before the first that counts, and those after it. `Launches` describes a whole run of calls,
and `exists_launches` says that every run is described, with the `verdict` of the host.
-/

namespace SessionHost.Session

open Text Protocol

variable {ω ρ σ : Type}

/-! ### Values for the runtime -/

/-- The runtime's state after it learned what its calls of the init callback returned. -/
def Runtime.hear (runtime : Runtime ω ρ) (values : List Int32) (inside : ρ) : ρ :=
  values.foldl (fun inside value => runtime.initReturned value inside) inside

/-- The values of calls that were all turned away. -/
def refusals (calls : List InitCall) : List Int32 := calls.map fun _ => initRefused

/-- What the init call that ran the entry returns. -/
def Ending.value : Ending → Int32
  | returned code => code
  | panicked _ => initRefused

/-- The text of the panic that ended the entry. -/
def Ending.panic? : Ending → Option String
  | returned _ => none
  | panicked text => some text

/-- The init calls that count: those that bring back what the host registered. -/
def counted (calls : List InitCall) : List InitCall := calls.filter (·.registered)

namespace Launch

variable (view : σ → ω) (runtime : Runtime ω ρ) (entry : Entry σ ρ)

/-! ### One call -/

/-- A call that does not count is turned away, and nothing else happens. -/
theorem init_of_unregistered (launch : Launch σ ρ) {call : InitCall}
    (unregistered : call.registered = false) :
    launch.init view runtime entry call = launch.answer runtime initRefused := by
  simp [init, unregistered]

/-- A call that counts after another is a duplicate. -/
theorem init_of_used {launch : Launch σ ρ} (used : launch.calls ≠ 0) {call : InitCall}
    (registered : call.registered = true) :
    launch.init view runtime entry call
      = answer runtime initRefused
          { launch with calls := launch.calls + 1, violation := some .duplicateInit } := by
  simp [init, registered, used]

/-- The first call that counts is turned away if it has no handle. -/
theorem init_of_null {launch : Launch σ ρ} (unused : launch.calls = 0) :
    launch.init view runtime entry ⟨none, true⟩
      = answer runtime initRefused { launch with calls := 1, violation := some .nullHandle } := by
  simp [init, unused]

/-- The first call that counts runs the entry if it has a handle. -/
theorem init_of_handle {launch : Launch σ ρ} (unused : launch.calls = 0) (handle : Handle) :
    let result := entry (openSession view runtime handle) launch.state
    launch.init view runtime entry ⟨some handle, true⟩
      = answer runtime result.2.value
          { launch with
            state := result.1, calls := 1, panic := result.2.panic?.or launch.panic } := by
  intro result
  cases ending : result.2 with
  | returned code =>
      simp only [result] at ending
      simp [init, enter, unused, result, ending, Ending.value, Ending.panic?]
  | panicked text =>
      simp only [result] at ending
      simp [init, enter, unused, result, ending, Ending.value, Ending.panic?]

/-! ### Runs of calls -/

/-- Calls that do not count are turned away. -/
theorem foldl_init_of_unregistered {calls : List InitCall}
    (unregistered : ∀ call ∈ calls, call.registered = false) (launch : Launch σ ρ) :
    calls.foldl (init view runtime entry) launch
      = { launch with
          state := (launch.state.1, runtime.hear (refusals calls) launch.state.2)
          values := launch.values ++ refusals calls } := by
  induction calls generalizing launch with
  | nil => simp [refusals, Runtime.hear]
  | cons call rest ih =>
      obtain ⟨first, others⟩ := List.forall_mem_cons.mp unregistered
      rw [List.foldl_cons, init_of_unregistered view runtime entry launch first, ih others]
      simp [answer, refusals, Runtime.hear]

/-- After a call that counted all calls are turned away, and one more that counts makes the start a
duplicate. -/
theorem foldl_init_of_used {launch : Launch σ ρ} (used : launch.calls ≠ 0)
    (calls : List InitCall) :
    calls.foldl (init view runtime entry) launch
      = { launch with
          state := (launch.state.1, runtime.hear (refusals calls) launch.state.2)
          calls := launch.calls + (counted calls).length
          violation := if counted calls = [] then launch.violation else some .duplicateInit
          values := launch.values ++ refusals calls } := by
  -- No call lowers the count of calls, so the way to the entry stays shut.
  induction calls generalizing launch with
  | nil => simp [refusals, Runtime.hear, counted]
  | cons call rest ih =>
      rw [List.foldl_cons]
      cases registered : call.registered with
      | false =>
          have same : counted (call :: rest) = counted rest := by simp [counted, registered]
          have still : (launch.answer runtime initRefused).calls ≠ 0 := used
          rw [init_of_unregistered view runtime entry launch registered, ih still, same]
          simp [answer, refusals, Runtime.hear]
      | true =>
          have more : counted (call :: rest) = call :: counted rest := by
            simp [counted, registered]
          rw [init_of_used view runtime entry used registered, ih (Nat.succ_ne_zero _), more]
          simp [answer, refusals, Runtime.hear]
          omega

/-- Calls of which none counts are all turned away. -/
theorem foldl_init_fresh_of_none {calls : List InitCall} (nothing : counted calls = [])
    (state : σ × ρ) :
    calls.foldl (init view runtime entry) (fresh state)
      = ⟨(state.1, runtime.hear (refusals calls) state.2), 0, none, none, refusals calls⟩ := by
  have unregistered : ∀ call ∈ calls, call.registered = false := by
    simpa [counted] using nothing
  rw [foldl_init_of_unregistered view runtime entry unregistered]
  rfl

/-- So are calls of which the first that counts has no handle. -/
theorem foldl_init_fresh_of_null {before : List InitCall} (early : counted before = [])
    (after : List InitCall) (state : σ × ρ) :
    let calls := before ++ ⟨none, true⟩ :: after
    calls.foldl (init view runtime entry) (fresh state)
      = ⟨(state.1, runtime.hear (refusals calls) state.2), 1 + (counted after).length,
          if counted after = [] then some .nullHandle else some .duplicateInit, none,
          refusals calls⟩ := by
  intro calls
  rw [List.foldl_append, foldl_init_fresh_of_none view runtime entry early, List.foldl_cons,
    init_of_null view runtime entry rfl,
    foldl_init_of_used view runtime entry (Nat.succ_ne_zero 0)]
  simp [calls, answer, refusals, Runtime.hear]

/-- Calls of which the first that counts has a handle run the entry in it. -/
theorem foldl_init_fresh_of_handle {before : List InitCall} (early : counted before = [])
    (handle : Handle) (after : List InitCall) (state : σ × ρ) :
    let result := entry (openSession view runtime handle)
      (state.1, runtime.hear (refusals before) state.2)
    (before ++ ⟨some handle, true⟩ :: after).foldl (init view runtime entry) (fresh state)
      = ⟨(result.1.1, runtime.hear (result.2.value :: refusals after) result.1.2),
          1 + (counted after).length, if counted after = [] then none else some .duplicateInit,
          result.2.panic?, refusals before ++ result.2.value :: refusals after⟩ := by
  intro result
  rw [List.foldl_append, foldl_init_fresh_of_none view runtime entry early, List.foldl_cons,
    init_of_handle view runtime entry rfl handle,
    foldl_init_of_used view runtime entry (Nat.succ_ne_zero 0)]
  simp [result, answer, Runtime.hear]

end Launch

/-! ### Starts -/

/-- What the calls of a start come to on the states of host and runtime. Without a first call that
counts and has a handle all calls are turned away. With one the calls before it are, the entry runs
in it, and the calls after it are turned away. -/
inductive Launches (view : σ → ω) (runtime : Runtime ω ρ) (entry : Entry σ ρ) (state : σ × ρ) :
    List InitCall → Option Ending → List Int32 → σ × ρ → Prop where
  | refused {calls : List InitCall} (closed : ∀ call ∈ (counted calls).head?, call.handle = none) :
      Launches view runtime entry state calls none (refusals calls)
        (state.1, runtime.hear (refusals calls) state.2)
  | entered {before after : List InitCall} {handle : Handle} {result : (σ × ρ) × Ending}
      (early : counted before = [])
      (ran : entry (openSession view runtime handle)
        (state.1, runtime.hear (refusals before) state.2) = result) :
      Launches view runtime entry state (before ++ ⟨some handle, true⟩ :: after) (some result.2)
        (refusals before ++ result.2.value :: refusals after)
        (result.1.1, runtime.hear (result.2.value :: refusals after) result.1.2)

/-- What the host makes of a start: of how the entry ended, if it ran, of the calls that counted and
of the status that the runtime returned. -/
def verdict (ending : Option Ending) (calls : List InitCall) (status : Int32) :
    Outcome Error Int32 :=
  match ending, calls with
  | some (.panicked text), _ => .panicked text
  | _, [] => .failed (.initialization status)
  | _, [call] =>
      if call.handle.isNone then .failed (.protocolViolation .nullHandle) else .ok status
  | _, _ => .failed (.protocolViolation .duplicateInit)

/-- The calls of a start either have none that counts or a first one. -/
theorem counted_eq_nil_or_first (calls : List InitCall) :
    counted calls = [] ∨
      ∃ (before : List InitCall) (handle : Option Handle) (after : List InitCall),
        calls = before ++ ⟨handle, true⟩ :: after ∧ counted before = [] := by
  cases first : calls.find? (·.registered) with
  | none =>
      left
      rw [counted, List.filter_eq_nil_iff]
      exact List.find?_eq_none.mp first
  | some call =>
      right
      obtain ⟨registered, before, after, split, early⟩ := List.find?_eq_some_iff_append.mp first
      obtain ⟨handle, flag⟩ := call
      simp only at registered
      subst registered
      refine ⟨before, handle, after, split, List.filter_eq_nil_iff.mpr fun call member => ?_⟩
      simpa using early call member

theorem counted_append_cons {before after : List InitCall} {handle : Option Handle}
    (early : counted before = []) :
    counted (before ++ ⟨handle, true⟩ :: after) = ⟨handle, true⟩ :: counted after := by
  rw [counted, List.filter_append, ← counted, early]
  rfl

/-- Every run of init calls is described, with the verdict that the host comes to. -/
theorem exists_launches (view : σ → ω) (runtime : Runtime ω ρ) (entry : Entry σ ρ) (state : σ × ρ)
    (calls : List InitCall) {launch : Launch σ ρ}
    (run : calls.foldl (Launch.init view runtime entry) (.fresh state) = launch) :
    ∃ ending, Launches view runtime entry state calls ending launch.values launch.state ∧
      ∀ status, launch.finish status = verdict ending (counted calls) status := by
  rcases counted_eq_nil_or_first calls with nothing | ⟨before, handle, after, rfl, early⟩
  · rw [Launch.foldl_init_fresh_of_none view runtime entry nothing] at run
    subst run
    refine ⟨none, .refused (by simp [nothing]), fun status => ?_⟩
    rw [nothing]
    rfl
  · have counts := @counted_append_cons before after handle early
    cases handle with
    | none =>
        rw [Launch.foldl_init_fresh_of_null view runtime entry early] at run
        subst run
        refine ⟨none, .refused (by simp [counts]), fun status => ?_⟩
        rw [counts]
        cases counted after <;> rfl
    | some handle =>
        rw [Launch.foldl_init_fresh_of_handle view runtime entry early] at run
        subst run
        refine ⟨_, .entered early rfl, fun status => ?_⟩
        rw [counts]
        cases (entry (openSession view runtime handle)
          (state.1, runtime.hear (refusals before) state.2)).2 with
        | returned code => cases counted after <;> rfl
        | panicked text => rfl

end SessionHost.Session
