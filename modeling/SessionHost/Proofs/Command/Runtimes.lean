import SessionHost.Proofs.Command.Opening
import SessionHost.Proofs.Console.Showing
import SessionHost.Proofs.Session.Starting

/-!
Opening a profile with any runtime.

`openWith_of_entered` says what is asked of the console if the runtime has the entry run, and
`openWith_of_refused` if it does not. That is the same whatever the console shows: the open sends
the same events (`openSession_congr`), so that the command asks for the same and comes back with the
same (`exists_openWith`).
-/

namespace SessionHost.Console

open Session Protocol Text

variable {ρ : Type} {one other : Console}

/-! ### Opens and what is shown -/

/-- A delivery without what its console shows. -/
def unseen (delivery : Delivery Console) : Delivery Console :=
  { delivery with host := delivery.host.blind }

/-- A status call does the same besides showing, whatever the console shows. -/
theorem unseen_deliver (call : StatusCall) (delivery : Delivery Console) :
    unseen (call.deliver sink delivery) = unseen (call.deliver sink (unseen delivery)) := by
  unfold StatusCall.deliver
  cases call.registered with
  | false => rfl
  | true =>
      cases halted : delivery.halt with
      | some halt => simp [Delivery.receive, halted, unseen, blind]
      | none =>
          cases judged : Delivery.judge delivery.stage call.notification with
          | error violation => simp [Delivery.receive, halted, judged, unseen, blind]
          | ok pair =>
              have same : (delivery.host.performAll (callsFor pair.2)).blind
                  = (delivery.host.blind.performAll (callsFor pair.2)).blind := by
                apply blind_performAll_congr
                rfl
              simp [Delivery.receive, halted, judged, unseen, Delivery.forward, sink, same]

/-- **An open does the same besides showing**, whatever its console shows: it gets the same calls,
hands the same events over, leaves the runtime in the same state and ends the same. -/
theorem openSession_congr (same : one.blind = other.blind) (runtime : Runtime Machine ρ)
    (handle : Handle) (path : Bytes) (inside : ρ) :
    (openSession machine runtime handle path sink (one, inside)).1.2
        = (openSession machine runtime handle path sink (other, inside)).1.2 ∧
      (openSession machine runtime handle path sink (one, inside)).2
        = (openSession machine runtime handle path sink (other, inside)).2 ∧
      handedBy machine runtime handle path sink (one, inside)
        = handedBy machine runtime handle path sink (other, inside) := by
  have fresh : unseen (Delivery.fresh one) = unseen (Delivery.fresh other) := by
    simp [unseen, Delivery.fresh, same]
  cases checked : checkPath path with
  | error error => simp [openSession, handedBy, checked]
  | ok path' =>
      obtain rfl := eq_of_checkPath checked
      let script := runtime.openSession handle (terminate path') inside
      let shown (delivery : Delivery Console) : Machine := delivery.host.machine
      let receive (call : StatusCall) (delivery : Delivery Console) : Delivery Console :=
        unseen (call.deliver sink delivery)
      have run (console : Console) :
          script.run shown receive (unseen (Delivery.fresh console))
            = (unseen (script.run shown (StatusCall.deliver sink) (Delivery.fresh console)).1,
                (script.run shown (StatusCall.deliver sink) (Delivery.fresh console)).2) :=
        Script.run_map shown unseen_deliver script _
      have sent (console : Console) :
          script.sent shown receive (unseen (Delivery.fresh console))
            = script.sent shown (StatusCall.deliver sink) (Delivery.fresh console) :=
        Script.sent_map shown unseen_deliver script _
      have finish (delivery : Delivery Console) : (unseen delivery).finish = delivery.finish := rfl
      have alike := run one
      rw [fresh, run other, Prod.mk.injEq] at alike
      have calls := sent one
      rw [fresh, sent other] at calls
      refine ⟨?_, ?_, ?_⟩
      · simp only [openSession, checked]
        exact alike.2.symm
      · simp only [openSession, checked]
        exact (congrArg Delivery.finish alike.1).symm
      · rw [handedBy_eq checked, handedBy_eq checked, sink_calm.handed_eq, sink_calm.handed_eq]
        simp only [delivered, statusCalls, checked]
        exact congrArg (fun calls : List StatusCall =>
          (survey .idle ((calls.filter (·.registered)).map (·.notification))).events) calls.symm

end SessionHost.Console

namespace SessionHost.Command

open Session Text Protocol

section

variable {ρ : Type} {runtime : Runtime Machine ρ} {profile : Path} {appId : String}
  {console : Console} {inside : ρ}

/-- What opening a profile begins with. -/
theorem underWay_blind_congr {one other : Console} (same : one.blind = other.blind) :
    (underWay appId one).blind = (underWay appId other).blind :=
  Console.blind_performAll_congr same _

/-- What is asked of the console while the runtime runs, between what is asked before and after. -/
def framed (appId : String) (calls : List Console.Call) : List Console.Call :=
  [.debug ("Application id: " ++ appId), .spinnerStart] ++ calls ++ [.spinnerStop]

theorem performAll_framed (appId : String) (calls : List Console.Call) (console : Console) :
    console.performAll (framed appId calls)
      = ((underWay appId console).performAll calls).perform .spinnerStop := by
  rw [framed, Console.performAll_append, Console.performAll_append]
  rfl

/-- Without a profile nothing is asked. -/
theorem openWith_of_missing (missing : console.machine.files.isFile profile = false) :
    openWith runtime profile appId (console, inside)
      = ((console.performAll [], inside), .failed (.profileNotFound profile)) := by
  simp [openWith, missing, Console.performAll]

/-- With a NUL in the id the spinner is started and stopped. -/
theorem openWith_of_hasNul (file : console.machine.files.isFile profile = true)
    (broken : hasNul (encode appId) = true) :
    openWith runtime profile appId (console, inside)
      = ((console.performAll (framed appId []), inside),
          .failed (.session (Bridge.appIdHasNul appId))) := by
  rw [performAll_framed]
  simp only [openWith, file, if_true, Bridge.start_of_hasNul _ _ _ broken]
  rfl

variable (runtime appId console inside) in
/-- What the runtime is about to do, and its state, once it was started. -/
def begun : Startup × ρ :=
  runtime.start (underWay appId console).machine (terminate (encode appId)) inside

variable (runtime profile appId console inside) in
/-- The start of the runtime after its calls of the init callback. -/
def launched : Launch Console ρ :=
  (begun runtime appId console inside).1.calls.foldl
    (Launch.init Console.machine runtime (entry profile))
    (.fresh (underWay appId console, (begun runtime appId console inside).2))

/-- Once the calls are made the spinner is stopped, and the command comes back with what the host
makes of the start. -/
theorem openWith_of_launched (file : console.machine.files.isFile profile = true)
    (whole : hasNul (encode appId) = false)
    (calm : (launched runtime profile appId console inside).panic = none) :
    let launch := launched runtime profile appId console inside
    let status := (begun runtime appId console inside).1.returns.status launch.values
    openWith runtime profile appId (console, inside)
      = ((launch.state.1.perform .spinnerStop, launch.state.2),
          (launch.finish status).mapError .session) := by
  intro launch status
  have unpanicked (text : String) : launch.finish status ≠ .panicked text := by
    unfold Launch.finish
    rw [calm]
    split <;> simp_all
  have started : (Bridge.fresh appId).start Console.machine runtime (entry profile)
      (underWay appId console, inside) = (launch.state, ⟨appId, true⟩, launch.finish status) :=
    Bridge.start_of_whole Console.machine runtime (entry profile) whole _
  rw [underWay] at started
  -- That the start has not panicked rules out the first case of the match.
  simp only [openWith, file, if_true, started]

/-- Either no init call may run the entry, or the first that counts has a handle. -/
theorem closed_or_entered (calls : List InitCall) :
    (∀ call ∈ (counted calls).head?, call.handle = none) ∨
      ∃ (before : List InitCall) (handle : Handle) (after : List InitCall),
        calls = before ++ ⟨some handle, true⟩ :: after ∧ counted before = [] := by
  rcases counted_eq_nil_or_first calls with nothing | ⟨before, handle, after, rfl, early⟩
  · simp [nothing]
  · cases handle with
    | none => simp [counted_append_cons early]
    | some handle => exact .inr ⟨before, handle, after, rfl, early⟩

/-- **If no init call may run the entry** the spinner is started and stopped. -/
theorem openWith_of_refused (file : console.machine.files.isFile profile = true)
    (whole : hasNul (encode appId) = false)
    (closed : ∀ call ∈ (counted (begun runtime appId console inside).1.calls).head?,
      call.handle = none) :
    let start := begun runtime appId console inside
    openWith runtime profile appId (console, inside)
      = ((console.performAll (framed appId []), runtime.hear (refusals start.1.calls) start.2),
          (Session.verdict none (counted start.1.calls)
            (start.1.returns.status (refusals start.1.calls))).mapError .session) := by
  intro start
  rw [performAll_framed]
  rcases counted_eq_nil_or_first start.1.calls with nothing | ⟨before, handle, after, split, early⟩
  · have ran : launched runtime profile appId console inside = _ :=
      Launch.foldl_init_fresh_of_none Console.machine runtime (entry profile) nothing _
    refine (openWith_of_launched file whole (by rw [ran])).trans ?_
    rw [ran, nothing]
    rfl
  · have counts := @counted_append_cons before after handle early
    rw [← split] at counts
    have null : handle = none := closed _ (by rw [counts]; rfl)
    subst null
    have ran : launched runtime profile appId console inside = _ :=
      (congrArg (List.foldl _ _) split).trans
        (Launch.foldl_init_fresh_of_null Console.machine runtime (entry profile) early after _)
    rw [← split] at ran
    refine (openWith_of_launched file whole (by rw [ran])).trans ?_
    rw [ran, counts]
    cases counted after <;> rfl

/-- **If the first init call that counts has a handle** the console is asked for what the events of
the open call for, then for what its end does. -/
theorem openWith_of_entered (file : console.machine.files.isFile profile = true)
    (whole : hasNul (encode appId) = false) {before after : List InitCall} {handle : Handle}
    (calls : (begun runtime appId console inside).1.calls = before ++ ⟨some handle, true⟩ :: after)
    (early : counted before = []) :
    let start := begun runtime appId console inside
    let ready := (underWay appId console, runtime.hear (refusals before) start.2)
    let events := handedBy Console.machine runtime handle profile.bytes Console.sink ready
    let opened := openSession Console.machine runtime handle profile.bytes Console.sink ready
    let code := exitCode opened.2
    openWith runtime profile appId (console, inside)
      = ((console.performAll
            (framed appId (events.flatMap Console.callsFor ++ closing console opened.2)),
            runtime.hear (code :: refusals after) opened.1.2),
          (Session.verdict (some (.returned code)) (counted start.1.calls)
            (start.1.returns.status (refusals before ++ code :: refusals after))).mapError
              .session) := by
  intro start ready events opened code
  have colors : closing (underWay appId console) = closing console :=
    closing_eq_of_color (Console.color_performAll console _)
  have entered : entry profile (openSession Console.machine runtime handle)
      (underWay appId console,
        runtime.hear (refusals before) (begun runtime appId console inside).2)
      = (((underWay appId console).performAll
            (events.flatMap Console.callsFor ++ closing console opened.2), opened.1.2),
          .returned code) := by
    rw [← colors]
    exact entry_openSession runtime handle profile ready
  have ran : launched runtime profile appId console inside = _ :=
    (congrArg (List.foldl _ _) calls).trans
      (Launch.foldl_init_fresh_of_handle Console.machine runtime (entry profile) early handle after
        _)
  rw [entered] at ran
  refine (openWith_of_launched file whole (by rw [ran]; rfl)).trans ?_
  rw [ran, calls, counted_append_cons early, performAll_framed]
  cases counted after <;> rfl

end

/-! ### Opening and what is shown -/

theorem showLogPath_notMem_callsFor (event : Event) : .showLogPath ∉ Console.callsFor event := by
  cases event with
  | loadPlugin load =>
      by_cases first : load.index = 0 <;> by_cases last : load.isLast = true <;>
        simp [Console.callsFor, first, last]
  | _ => simp [Console.callsFor]

theorem showLogPath_notMem_closing (console : Console) (outcome : Outcome Session.Error Summary) :
    .showLogPath ∉ closing console outcome := by
  cases outcome <;> simp [closing]

section

variable {ρ : Type} (runtime : Runtime Machine ρ) (profile : Path) (appId : String)

theorem begun_congr {one other : Console} (same : one.blind = other.blind) (inside : ρ) :
    begun runtime appId one inside = begun runtime appId other inside := by
  have alike : (underWay appId one).blind = (underWay appId other).blind :=
    underWay_blind_congr same
  obtain ⟨machine, -⟩ := Console.blind_eq_iff.mp alike
  rw [begun, begun, machine]

/-- **Opening a profile asks for the same** of all consoles that differ only in what they show, and
it leaves the runtime alike and comes back with the same. -/
theorem exists_openWith (console : Console) (inside : ρ) :
    ∃ (calls : List Console.Call) (left : ρ) (outcome : Outcome Error Int32),
      .showLogPath ∉ calls ∧ ∀ other : Console, other.blind = console.blind →
        openWith runtime profile appId (other, inside)
          = ((other.performAll calls, left), outcome) := by
  have files {other : Console} (same : other.blind = console.blind) :
      other.machine.files.isFile profile = console.machine.files.isFile profile := by
    rw [(Console.blind_eq_iff.mp same).1]
  have frame {calls : List Console.Call} (others : .showLogPath ∉ calls) :
      .showLogPath ∉ framed appId calls := by
    simp [framed, others]
  cases file : console.machine.files.isFile profile with
  | false =>
      exact ⟨[], inside, .failed (.profileNotFound profile), List.not_mem_nil,
        fun other same => openWith_of_missing ((files same).trans file)⟩
  | true =>
      cases broken : hasNul (encode appId) with
      | true =>
          exact ⟨framed appId [], inside, .failed (.session (Bridge.appIdHasNul appId)),
            frame List.not_mem_nil,
            fun other same => openWith_of_hasNul ((files same).trans file) broken⟩
      | false =>
          let start := begun runtime appId console inside
          rcases closed_or_entered start.1.calls with closed | ⟨before, handle, after, split, early⟩
          · refine ⟨framed appId [], runtime.hear (refusals start.1.calls) start.2,
              (Session.verdict none (counted start.1.calls)
                (start.1.returns.status (refusals start.1.calls))).mapError .session,
              frame List.not_mem_nil, fun other same => ?_⟩
            have began : begun runtime appId other inside = start :=
              begun_congr runtime appId same inside
            rw [openWith_of_refused ((files same).trans file) broken (by rwa [began]), began]
          · let ready := (underWay appId console, runtime.hear (refusals before) start.2)
            let events := handedBy Console.machine runtime handle profile.bytes Console.sink ready
            let opened :=
              openSession Console.machine runtime handle profile.bytes Console.sink ready
            let code := exitCode opened.2
            refine ⟨framed appId (events.flatMap Console.callsFor ++ closing console opened.2),
              runtime.hear (code :: refusals after) opened.1.2,
              (Session.verdict (some (.returned code)) (counted start.1.calls)
                (start.1.returns.status (refusals before ++ code :: refusals after))).mapError
                  .session, frame ?_, fun other same => ?_⟩
            · simp only [List.mem_append, List.mem_flatMap, showLogPath_notMem_callsFor,
                showLogPath_notMem_closing, and_false, exists_false, or_self, not_false_eq_true]
            · have began : begun runtime appId other inside = start :=
                begun_congr runtime appId same inside
              obtain ⟨inside', outcome, events'⟩ := Console.openSession_congr
                (underWay_blind_congr same) runtime handle profile.bytes
                (runtime.hear (refusals before) start.2)
              rw [openWith_of_entered ((files same).trans file) broken (by rwa [began]) early,
                began, inside', outcome, events',
                closing_eq_of_color (Console.blind_eq_iff.mp same).2.2.1]

end

end SessionHost.Command
