import SessionHost.Proofs.Session.Courses
import SessionHost.Proofs.Session.Forwarding
import SessionHost.Session.Opening
import SessionHost.Session.Rehearsed

/-!
What a runtime sends while it opens a session.

`delivered` lists, for any runtime, the notifications that an open gets, and `openSession_eq` says
that the open is their delivery. `handedBy` lists the events that its sink gets.
-/

namespace SessionHost.Session

open Text Protocol

variable {ω ρ σ : Type}

/-! ### Opens -/

/-- A path is let through as it is or not at all. -/
theorem eq_of_checkPath {path checked : Bytes} (admitted : checkPath path = .ok checked) :
    checked = path := by
  unfold checkPath at admitted
  split at admitted
  · cases admitted
  · split at admitted
    · cases admitted
    · split at admitted
      · cases admitted
      · exact (Except.ok.inj admitted).symm

/-- A path is let through if it is text, not empty and without a NUL. -/
theorem checkPath_eq_ok_iff {path : Bytes} :
    checkPath path = .ok path ↔
      (∃ text, decode? path = some text) ∧ path ≠ [] ∧ hasNul path = false := by
  unfold checkPath
  split
  · rename_i invalid
    simp [invalid]
  · rename_i text valid
    cases path with
    | nil => simp
    | cons b rest => cases hasNul (b :: rest) <;> simp [valid]

/-- The calls of the status callback that an open gets, none if its path is not let through. -/
def statusCalls (view : σ → ω) (runtime : Runtime ω ρ) (handle : Handle) (path : Bytes)
    (sink : Sink σ) (state : σ × ρ) : List StatusCall :=
  match checkPath path with
  | .error _ => []
  | .ok path =>
      (runtime.openSession handle (terminate path) state.2).sent
        (fun delivery => view delivery.host) (StatusCall.deliver sink) (.fresh state.1)

/-- The notifications that an open gets: those of the calls that bring back what the host
registered. -/
def delivered (view : σ → ω) (runtime : Runtime ω ρ) (handle : Handle) (path : Bytes)
    (sink : Sink σ) (state : σ × ρ) : List Notification :=
  ((statusCalls view runtime handle path sink state).filter (·.registered)).map (·.notification)

theorem foldl_deliver (sink : Sink σ) (calls : List StatusCall) (delivery : Delivery σ) :
    calls.foldl (fun delivery call => call.deliver sink delivery) delivery
      = delivery.receiveAll sink ((calls.filter (·.registered)).map (·.notification)) := by
  induction calls generalizing delivery with
  | nil => rfl
  | cons call calls ih =>
      rw [List.foldl_cons, ih]
      cases registered : call.registered with
      | false =>
          rw [List.filter_cons_of_neg (by simp [registered])]
          simp [StatusCall.deliver, registered]
      | true =>
          rw [List.filter_cons_of_pos registered, List.map_cons, Delivery.receiveAll,
            Delivery.receiveAll, List.foldl_cons]
          simp [StatusCall.deliver, registered]

/-- With a path that is let through, an open is the delivery of its notifications, whatever the
runtime looks at between them. -/
theorem openSession_eq {view : σ → ω} {runtime : Runtime ω ρ} {handle : Handle} {path : Bytes}
    {sink : Sink σ} {state : σ × ρ} (admitted : checkPath path = .ok path) :
    let last := (Delivery.fresh state.1).receiveAll sink
      (delivered view runtime handle path sink state)
    (openSession view runtime handle path sink state).1.1 = last.host ∧
      (openSession view runtime handle path sink state).2 = last.finish := by
  have course : ((runtime.openSession handle (terminate path) state.2).run
      (fun delivery => view delivery.host) (StatusCall.deliver sink) (.fresh state.1)).1
        = (Delivery.fresh state.1).receiveAll sink
            (delivered view runtime handle path sink state) := by
    rw [Script.run_fst_eq_foldl, foldl_deliver, delivered, statusCalls, admitted]
  simp only [openSession, admitted, course, and_self]

/-- Every list of notifications is delivered by some runtime: one that is to send it. -/
theorem delivered_rehearsed {view : σ → ω} {startup : Startup} {handle : Handle} {path : Bytes}
    {sink : Sink σ} {host : σ} {rehearsal : Rehearsal} (admitted : checkPath path = .ok path) :
    delivered view (.rehearsed startup) handle path sink (host, rehearsal)
      = (rehearsal.plan.filter (·.registered)).map (·.notification) := by
  rw [delivered, statusCalls, admitted]
  simp only [Runtime.rehearsed, Script.sent_sendAll]

/-- With a path that is not let through nothing is delivered. -/
theorem delivered_of_checkPath_error {view : σ → ω} {runtime : Runtime ω ρ} {handle : Handle}
    {path : Bytes} {sink : Sink σ} {state : σ × ρ} {error : Error}
    (refused : checkPath path = .error error) :
    delivered view runtime handle path sink state = [] := by
  rw [delivered, statusCalls, refused]
  rfl

/-! ### Hosts that keep more -/

/-- A delivery whose host is seen in another way. -/
def Delivery.mapHost {τ : Type} (f : σ → τ) (delivery : Delivery σ) : Delivery τ :=
  ⟨f delivery.host, delivery.stage, delivery.plugins, delivery.halt⟩

section

variable {τ : Type} {f : σ → τ} {sink : Sink σ} {sink' : Sink τ}
  (same : ∀ event host, sink' event (f host) = (f (sink event host).1, (sink event host).2))

include same

theorem Delivery.mapHost_deliver (call : StatusCall) (delivery : Delivery σ) :
    (call.deliver sink delivery).mapHost f = call.deliver sink' (delivery.mapHost f) := by
  obtain ⟨host, stage, plugins, halt⟩ := delivery
  unfold StatusCall.deliver
  split
  · cases halt with
    | some halt => rfl
    | none =>
        simp only [receive, mapHost]
        split
        · rfl
        · simp only [forward, same]
  · rfl

/-- An open does not depend on what a host keeps beside what its sink and the runtime see of it. -/
theorem openSession_mapHost (view : τ → ω) (runtime : Runtime ω ρ) (handle : Handle) (path : Bytes)
    (state : σ × ρ) :
    let plain := openSession (fun host => view (f host)) runtime handle path sink state
    openSession view runtime handle path sink' (f state.1, state.2)
      = ((f plain.1.1, plain.1.2), plain.2) := by
  cases checked : checkPath path with
  | error error => simp only [openSession, checked]
  | ok path' =>
      have moved := Script.run_map (fun delivery : Delivery τ => view delivery.host)
        (Delivery.mapHost_deliver same)
        (runtime.openSession handle (terminate path') state.2) (.fresh state.1)
      have fresh : (Delivery.fresh state.1).mapHost f = .fresh (f state.1) := rfl
      rw [fresh] at moved
      simp only [openSession, checked, moved]
      rfl

end

/-! ### Watched opens -/

/-- A watched delivery without the record. -/
def Delivery.forget (delivery : Delivery (σ × List Event)) : Delivery σ :=
  ⟨delivery.host.1, delivery.stage, delivery.plugins, delivery.halt⟩

/-- The record does not change what a status call does. -/
theorem Delivery.forget_deliver (sink : Sink σ) (call : StatusCall)
    (delivery : Delivery (σ × List Event)) :
    (call.deliver sink.recorded delivery).forget = call.deliver sink delivery.forget :=
  mapHost_deliver (f := Prod.fst) (fun _ _ => rfl) call delivery

/-- The events that the sink of an open gets, as a record of them shows. -/
def handedBy (view : σ → ω) (runtime : Runtime ω ρ) (handle : Handle) (path : Bytes)
    (sink : Sink σ) (state : σ × ρ) : List Event :=
  (openSession (fun watched : σ × List Event => view watched.1) runtime handle path sink.recorded
    ((state.1, []), state.2)).1.1.2

/-- A watched open leaves host and runtime as one that is not watched, and ends like it. -/
theorem openSession_recorded (view : σ → ω) (runtime : Runtime ω ρ) (handle : Handle)
    (path : Bytes) (sink : Sink σ) (state : σ × ρ) :
    let watched := openSession (fun watched : σ × List Event => view watched.1) runtime handle path
      sink.recorded ((state.1, []), state.2)
    let plain := openSession view runtime handle path sink state
    watched.1.1.1 = plain.1.1 ∧ watched.1.2 = plain.1.2 ∧ watched.2 = plain.2 := by
  intro watched plain
  have moved : plain = ((watched.1.1.1, watched.1.2), watched.2) :=
    openSession_mapHost (f := Prod.fst) (fun _ _ => rfl) view runtime handle path
      ((state.1, []), state.2)
  rw [moved]
  exact ⟨rfl, rfl, rfl⟩

/-- The sink of an open is handed what it is handed by the delivery of the notifications. -/
theorem handedBy_eq {view : σ → ω} {runtime : Runtime ω ρ} {handle : Handle} {path : Bytes}
    {sink : Sink σ} {state : σ × ρ} (admitted : checkPath path = .ok path) :
    handedBy view runtime handle path sink state
      = handed sink state.1 (delivered view runtime handle path sink state) := by
  have same : delivered (fun watched : σ × List Event => view watched.1) runtime handle path
      sink.recorded ((state.1, []), state.2) = delivered view runtime handle path sink state := by
    have calls := Script.sent_map (fun delivery : Delivery σ => view delivery.host)
      (Delivery.forget_deliver sink) (runtime.openSession handle (terminate path) state.2)
      (.fresh (state.1, []))
    simp only [delivered, statusCalls, admitted]
    exact congrArg (fun calls => (calls.filter (·.registered)).map (·.notification)) calls.symm
  rw [handedBy, (openSession_eq admitted).1, same, handed]

end SessionHost.Session
