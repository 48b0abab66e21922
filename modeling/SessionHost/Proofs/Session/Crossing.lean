import Mathlib.Data.List.Forall2
import SessionHost.Proofs.Session.Interleaving
import SessionHost.Proofs.Session.Panics

/-!
Arguments on their way to a runtime.

`Runtime.watched` is any runtime that keeps a record beside its state: which calls it got and what
it read in their buffers. `openSession_watched` and `attempted_watched` say that the record changes
nothing. What stands in it after an entry made its opens, and what an open that is turned down does
to the others, is `arguments_cross_unchanged`.
-/

namespace SessionHost.Session

open Text Protocol

variable {ω ρ σ : Type}

/-! ### Paths -/

/-- A path that cannot be handed across: it is no text, or it is empty, or there is a NUL in it. -/
def Unfit (path : Bytes) : Prop := (¬ ∃ text, encode text = path) ∨ path = [] ∨ nul ∈ path

theorem checkPath_eq_ok_iff_not_unfit {path : Bytes} :
    checkPath path = .ok path ↔ ¬ Unfit path := by
  have spelled : (∃ text, decode? path = some text) ↔ ∃ text, encode text = path := by
    simp only [decode?_eq_some_iff, @eq_comm _ path]
  have whole : hasNul path = false ↔ nul ∉ path := by
    rw [hasNul, ← Bool.not_eq_true, List.contains_iff_mem]
  rw [checkPath_eq_ok_iff, spelled, whole, Unfit]
  tauto

instance (path : Bytes) : Decidable (Unfit path) :=
  decidable_of_iff (¬ ((decode? path).isSome = true ∧ path ≠ [] ∧ hasNul path = false)) <| by
    rw [Option.isSome_iff_exists, ← checkPath_eq_ok_iff, checkPath_eq_ok_iff_not_unfit, not_not]

theorem checkPath_cases (path : Bytes) :
    checkPath path = .ok path ∨ ∃ reason, checkPath path = .error (.invalidArgument reason) := by
  unfold checkPath
  split
  · exact .inr ⟨_, rfl⟩
  · split
    · exact .inr ⟨_, rfl⟩
    · split
      · exact .inr ⟨_, rfl⟩
      · exact .inl rfl

/-- A path that cannot be handed across is turned down with a reason. -/
theorem exists_of_unfit {path : Bytes} (unfit : Unfit path) :
    ∃ reason, checkPath path = .error (.invalidArgument reason) :=
  (checkPath_cases path).resolve_left fun admitted =>
    checkPath_eq_ok_iff_not_unfit.mp admitted unfit

/-! ### Opens -/

/-- An open with a path that cannot be handed across leaves both sides alone. -/
theorem openSession_of_unfit (view : σ → ω) (runtime : Runtime ω ρ) (handle : Handle) {path : Bytes}
    (unfit : Unfit path) :
    ∃ reason, ∀ (sink : Sink σ) (state : σ × ρ),
      openSession view runtime handle path sink state
        = (state, .failed (.invalidArgument reason)) := by
  obtain ⟨reason, refused⟩ := exists_of_unfit unfit
  exact ⟨reason, fun sink state => by rw [openSession, refused]⟩

/-- An open is turned down for its argument exactly if its path cannot be handed across. -/
theorem openSession_invalidArgument_iff (view : σ → ω) (runtime : Runtime ω ρ) (handle : Handle)
    (path : Bytes) (sink : Sink σ) (state : σ × ρ) :
    (∃ reason, (openSession view runtime handle path sink state).2
      = .failed (.invalidArgument reason)) ↔ Unfit path := by
  constructor
  · rintro ⟨reason, refused⟩
    by_contra fit
    rw [(openSession_eq (checkPath_eq_ok_iff_not_unfit.mpr fit)).2, Delivery.finish] at refused
    split at refused
    · cases refused
    · cases refused
    · split at refused <;> cases refused
  · intro unfit
    obtain ⟨reason, refused⟩ := openSession_of_unfit view runtime handle unfit
    exact ⟨reason, congrArg Prod.snd (refused sink state)⟩

/-! ### Runtimes with a record -/

/-- The runtime with a record beside its state: the calls that it got with what it reads in their
buffers, and what its calls of the init callback returned. -/
def Runtime.watched (runtime : Runtime ω ρ) : Runtime ω (ρ × List Sighting) where
  start around appId state :=
    let begun := runtime.start around appId state.1
    (begun.1, (begun.2, state.2 ++ [.start (untilNul appId)]))
  initReturned value state := (runtime.initReturned value state.1, state.2 ++ [.init value])
  openSession handle path state :=
    (fun left => (left, state.2 ++ [.openSession handle (untilNul path)])) <$>
      runtime.openSession handle path state.1

/-- What a runtime gets of an open. -/
def crossing (handle : Handle) (path : Bytes) : List Sighting :=
  if Unfit path then [] else [.openSession handle path]

/-- The record changes nothing about an open, and what the runtime gets of it is added to the
record. -/
theorem openSession_watched (view : σ → ω) (runtime : Runtime ω ρ) (handle : Handle) (path : Bytes)
    (sink : Sink σ) (host : σ) (inside : ρ) (record : List Sighting) :
    let plain := openSession view runtime handle path sink (host, inside)
    openSession view runtime.watched handle path sink (host, (inside, record))
      = ((plain.1.1, (plain.1.2, record ++ crossing handle path)), plain.2) := by
  by_cases unfit : Unfit path
  · obtain ⟨reason, refused⟩ := exists_of_unfit unfit
    simp [openSession, refused, crossing, unfit]
  · have admitted := checkPath_eq_ok_iff_not_unfit.mpr unfit
    obtain ⟨-, -, whole⟩ := checkPath_eq_ok_iff.mp admitted
    simp only [openSession, admitted, Runtime.watched, Script.map_eq_bind, Script.run_bind,
      Script.run_pure, untilNul_terminate whole, crossing, if_neg unfit]

/-- The record shows what the runtime's calls of the init callback returned. -/
theorem hear_watched (runtime : Runtime ω ρ) (values : List Int32) (inside : ρ)
    (record : List Sighting) :
    runtime.watched.hear values (inside, record)
      = (runtime.hear values inside, record ++ values.map .init) := by
  induction values generalizing inside record with
  | nil => simp [Runtime.hear]
  | cons value values ih =>
      have one : runtime.watched.initReturned value (inside, record)
          = (runtime.initReturned value inside, record ++ [.init value]) := rfl
      rw [Runtime.hear, List.foldl_cons, one, ← Runtime.hear, ih]
      simp [Runtime.hear]

/-- A journal takes down the events of an open, and nothing else about it changes. -/
theorem openSession_sink_fst (runtime : Runtime ω ρ) (handle : Handle) (path : Bytes)
    (panics : Nat → Option String) (journal : Journal ω) (inside : ρ) :
    (openSession Journal.around runtime handle path (Journal.sink panics) (journal, inside)).1.1
      = { journal with
          events := journal.events ++ handedBy Journal.around runtime handle path
            (Journal.sink panics) (journal, inside) } := by
  cases checked : checkPath path with
  | error error =>
      rw [handedBy_of_checkPath_error checked, List.append_nil, openSession, checked]
  | ok path' =>
      obtain rfl := eq_of_checkPath checked
      have going : (Delivery.fresh journal).halt = none := rfl
      rw [(openSession_eq checked).1, (Delivery.receiveAll_spec _ going _).1, handedBy_eq checked,
        handed_eq]
      simp only [Delivery.fresh, Journal.feed_sink]

/-! ### Entries -/

/-- What an attempt shows its host, and how it leaves the runtime. -/
def Attempt.result (runtime : Runtime ω ρ) (handle : Handle) (around : ω) (attempt : Attempt ρ)
    (inside : ρ) : Attempt.Report × ρ :=
  let result := openSession Journal.around runtime handle attempt.path
    (Journal.sink attempt.panics) (.fresh around, attempt.prepare inside)
  (⟨result.1.1.events, result.2⟩, result.1.2)

/-- What attempts come to: the reports of those that were made, the runtime after them, and how the
entry ended. -/
structure Course (ρ : Type) where
  reports : List Attempt.Report
  left : ρ
  ending : Ending

/-- The panic with which a report ends its entry, unless the entry guards the attempt. -/
def Attempt.Report.escaping? (guarded : Bool) (report : Attempt.Report) : Option String :=
  match report.outcome, guarded with
  | .panicked text, false => some text
  | _, _ => none

/-- Makes attempts up to the first whose panic escapes. -/
def course (runtime : Runtime ω ρ) (handle : Handle) (around : ω) (ending : Ending) :
    List (Attempt ρ) → ρ → Course ρ
  | [], inside => ⟨[], inside, ending⟩
  | attempt :: rest, inside =>
      let shown := attempt.result runtime handle around inside
      match shown.1.escaping? attempt.guarded with
      | some text => ⟨[shown.1], shown.2, .panicked text⟩
      | none =>
          let later := course runtime handle around ending rest shown.2
          { later with reports := shown.1 :: later.reports }

section

variable (runtime : Runtime ω ρ) (handle : Handle) (around : ω) (ending : Ending)

/-- An attempt shows a host the same, whatever the host has seen before. -/
theorem openSession_eq_result (attempt : Attempt ρ) {journal : Journal ω}
    (quiet : journal.events = []) (inside : ρ) :
    let shown := attempt.result runtime handle journal.around inside
    openSession Journal.around runtime handle attempt.path (Journal.sink attempt.panics)
        (journal, attempt.prepare inside)
      = (({ journal with events := shown.1.events }, shown.2), shown.1.outcome) := by
  intro shown
  -- The journal is the fresh one with what it held before put back.
  let resume (fresh : Journal ω) : Journal ω :=
    { journal with around := fresh.around, events := fresh.events }
  have same (event : Event) (fresh : Journal ω) :
      Journal.sink attempt.panics event (resume fresh)
        = (resume (Journal.sink attempt.panics event fresh).1,
            (Journal.sink attempt.panics event fresh).2) := rfl
  have resumed := openSession_mapHost same Journal.around runtime handle attempt.path
    (.fresh journal.around, attempt.prepare inside)
  have begun : resume (.fresh journal.around) = journal := by
    simp only [resume, Journal.fresh, ← quiet]
  simp only [begun] at resumed
  rw [resumed]
  simp only [shown, Attempt.result, resume, openSession_sink_fst, Journal.fresh]

/-- An entry makes its attempts as far as no panic escapes, each with the report that it has by
itself. -/
theorem attemptAll_eq_course (attempts : List (Attempt ρ)) {journal : Journal ω}
    (quiet : journal.events = []) (inside : ρ) :
    let made := course runtime handle journal.around ending attempts inside
    attemptAll (openSession Journal.around runtime handle) ending attempts (journal, inside)
      = (({ journal with reports := journal.reports ++ made.reports }, made.left),
          made.ending) := by
  induction attempts generalizing journal inside with
  | nil => simp [attemptAll, course]
  | cons attempt rest ih =>
      have opened := openSession_eq_result runtime handle attempt quiet inside
      rw [course]
      generalize attempt.result runtime handle journal.around inside = shown at opened ⊢
      let closed : Journal ω := { journal with reports := journal.reports ++ [shown.1] }
      have shut : { journal with events := shown.1.events }.close shown.1.outcome = closed := by
        simp only [closed, Journal.close, ← quiet]
      have one : attemptAll (openSession Journal.around runtime handle) ending (attempt :: rest)
          (journal, inside)
          = match shown.1.escaping? attempt.guarded with
            | some text => ((closed, shown.2), .panicked text)
            | none => attemptAll (openSession Journal.around runtime handle) ending rest
                (closed, shown.2) := by
        simp only [attemptAll, opened, shut, Attempt.Report.escaping?]
        cases shown.1.outcome <;> cases attempt.guarded <;> rfl
      have later := @ih closed quiet shown.2
      rw [one]
      cases shown.1.escaping? attempt.guarded with
      | some text => rfl
      | none =>
          refine later.trans ?_
          simp only [closed, List.append_assoc, List.singleton_append]

/-- The report of an attempt says whether its path was turned down, and shows no event if it was. -/
structure Attempt.Answers (attempt : Attempt ρ) (report : Attempt.Report) : Prop where
  refused : (∃ reason, report.outcome = .failed (.invalidArgument reason)) ↔ Unfit attempt.path
  silent : Unfit attempt.path → report.events = []

theorem Attempt.answers_result (attempt : Attempt ρ) (inside : ρ) :
    attempt.Answers (attempt.result runtime handle around inside).1 where
  refused := openSession_invalidArgument_iff Journal.around runtime handle attempt.path _ _
  silent unfit := by
    obtain ⟨reason, refused⟩ := openSession_of_unfit Journal.around runtime handle unfit
    simp only [Attempt.result, refused, Journal.fresh]

/-- A panic in an attempt is one of its sink. -/
theorem Attempt.exists_of_escaping {attempt : Attempt ρ} {inside : ρ} {text : String}
    (escapes : (attempt.result runtime handle around inside).1.escaping? attempt.guarded
      = some text) : ∃ place, attempt.panics place = some text := by
  have panicked : (attempt.result runtime handle around inside).1.outcome = .panicked text := by
    unfold Report.escaping? at escapes
    split at escapes
    · rename_i came _
      rw [came, Option.some.inj escapes]
    · cases escapes
  cases checked : checkPath attempt.path with
  | error error =>
      simp only [Attempt.result, openSession, checked] at panicked
      cases panicked
  | ok path =>
      obtain rfl := eq_of_checkPath checked
      have ended := (openSession_eq checked).2.symm.trans panicked
      rw [Delivery.finish_receiveAll] at ended
      split at ended
      · rename_i found fed
        obtain rfl := Outcome.panicked.inj ended
        rw [Journal.feed_sink] at fed
        obtain ⟨before, -, -, -, -, last⟩ := Sink.exists_of_feed_counting_panic fed
        exact ⟨_, last⟩
      · cases ended
      · split at ended <;> cases ended

/-- Every attempt that is made is answered, and all are made unless a sink panics. -/
theorem answers_course (attempts : List (Attempt ρ)) (inside : ρ) :
    let reports := (course runtime handle around ending attempts inside).reports
    List.Forall₂ Attempt.Answers (attempts.take reports.length) reports ∧
      (attempts.take reports.length = attempts ∨
        ∃ attempt ∈ attempts, ∃ place, attempt.panics place ≠ none) := by
  induction attempts generalizing inside with
  | nil => exact ⟨.nil, .inl rfl⟩
  | cons attempt rest ih =>
      have answers := attempt.answers_result runtime handle around inside
      have panics := @Attempt.exists_of_escaping _ _ runtime handle around attempt inside
      rw [course]
      generalize attempt.result runtime handle around inside = shown at answers panics ⊢
      cases escapes : shown.1.escaping? attempt.guarded with
      | some text =>
          obtain ⟨place, panicked⟩ := panics escapes
          refine ⟨.cons answers .nil, .inr ⟨attempt, List.mem_cons_self, place, ?_⟩⟩
          rw [panicked]
          exact Option.some_ne_none text
      | none =>
          obtain ⟨answered, made⟩ := ih shown.2
          refine ⟨.cons answers answered, made.imp (congrArg (attempt :: ·)) ?_⟩
          rintro ⟨other, member, panicked⟩
          exact ⟨other, List.mem_cons_of_mem _ member, panicked⟩

/-! ### Attempts with a record, and attempts left out -/

/-- The attempt where the runtime has a record. -/
def Attempt.watched (attempt : Attempt ρ) : Attempt (ρ × List Sighting) :=
  ⟨attempt.path, Prod.map attempt.prepare id, attempt.panics, attempt.guarded⟩

/-- The record changes nothing about attempts, and of each that was made what the runtime got of it
is added to the record. -/
theorem course_watched (attempts : List (Attempt ρ)) (inside : ρ) (record : List Sighting) :
    let plain := course runtime handle around ending attempts inside
    course runtime.watched handle around ending (attempts.map Attempt.watched) (inside, record)
      = ⟨plain.reports,
          (plain.left, record ++ (attempts.take plain.reports.length).flatMap fun attempt =>
            crossing handle attempt.path), plain.ending⟩ := by
  induction attempts generalizing inside record with
  | nil => simp [course]
  | cons attempt rest ih =>
      have shown : attempt.watched.result runtime.watched handle around (inside, record)
          = ((attempt.result runtime handle around inside).1,
              ((attempt.result runtime handle around inside).2,
                record ++ crossing handle attempt.path)) := by
        simp only [Attempt.result, Attempt.watched, Prod.map, id, openSession_watched]
      have guarded : attempt.watched.guarded = attempt.guarded := rfl
      rw [List.map_cons, course, course, shown, guarded]
      generalize attempt.result runtime handle around inside = plain
      cases plain.1.escaping? attempt.guarded with
      | some text => simp
      | none =>
          simp only [ih]
          simp

/-- Lets something befall the runtime before the first of the attempts, if there is one. -/
def befall (event : ρ → ρ) (attempts : List (Attempt ρ)) : List (Attempt ρ) :=
  attempts.modifyHead fun attempt => { attempt with prepare := attempt.prepare ∘ event }

/-- An attempt whose path cannot be handed across may be left out: the others come to the same, as
long as what befell the runtime before it is not left out with it. -/
theorem course_omit {bad : Attempt ρ} (unfit : Unfit bad.path) (earlier later : List (Attempt ρ))
    (inside : ρ) :
    let long := course runtime handle around ending (earlier ++ bad :: later) inside
    let short := course runtime handle around ending (earlier ++ befall bad.prepare later) inside
    short.reports = long.reports.eraseIdx earlier.length ∧ short.ending = long.ending ∧
      (long.left = short.left ∨ long.left = bad.prepare short.left) := by
  induction earlier generalizing inside with
  | nil =>
      obtain ⟨reason, refused⟩ := openSession_of_unfit Journal.around runtime handle unfit
      have shown : bad.result runtime handle around inside
          = (⟨[], .failed (.invalidArgument reason)⟩, bad.prepare inside) := by
        simp only [Attempt.result, refused, Journal.fresh]
      have stays : Attempt.Report.escaping? bad.guarded ⟨[], .failed (.invalidArgument reason)⟩
          = none := rfl
      simp only [List.nil_append, course, shown, stays]
      cases later with
      | nil => exact ⟨rfl, rfl, .inr rfl⟩
      | cons first rest => exact ⟨rfl, rfl, .inl rfl⟩
  | cons attempt rest ih =>
      simp only [List.cons_append, course]
      generalize attempt.result runtime handle around inside = shown
      cases shown.1.escaping? attempt.guarded with
      | some text => exact ⟨rfl, rfl, .inl rfl⟩
      | none =>
          obtain ⟨reports, ends, left⟩ := ih shown.2
          exact ⟨congrArg (shown.1 :: ·) reports, ends, left⟩

end

/-! ### Starts -/

/-- Starts a runtime for a host that has seen nothing, with an entry that makes the attempts and
then ends as given. -/
def attempted (runtime : Runtime ω ρ) (around : ω) (id : String) (ending : Ending) (inside : ρ)
    (attempts : List (Attempt ρ)) : (Journal ω × ρ) × Bridge × Outcome Error Int32 :=
  (Bridge.fresh id).start Journal.around runtime (.ofAttempts attempts ending)
    (.fresh around, inside)

section

variable {id : String} (whole : hasNul (encode id) = false) (runtime : Runtime ω ρ) (around : ω)
  (ending : Ending) (inside : ρ) (attempts : List (Attempt ρ))

include whole

/-- A start whose first call that counts has a handle runs the entry in it. -/
theorem attempted_of_handle {before after : List InitCall} {handle : Handle}
    (early : counted before = [])
    (calls : (runtime.start around (terminate (encode id)) inside).1.calls
      = before ++ ⟨some handle, true⟩ :: after) :
    let begun := runtime.start around (terminate (encode id)) inside
    let ran := course runtime handle around ending attempts
      (runtime.hear (refusals before) begun.2)
    let values := refusals before ++ ran.ending.value :: refusals after
    attempted runtime around id ending inside attempts
      = ((⟨around, 1, ran.reports, []⟩,
            runtime.hear (ran.ending.value :: refusals after) ran.left), ⟨id, true⟩,
          verdict (some ran.ending) (counted begun.1.calls) (begun.1.returns.status values)) := by
  intro begun ran values
  have entered : Entry.ofAttempts attempts ending (openSession Journal.around runtime handle)
      (.fresh around, runtime.hear (refusals before) begun.2)
      = ((⟨around, 1, ran.reports, []⟩, ran.left), ran.ending) :=
    @attemptAll_eq_course ω ρ runtime handle ending attempts ⟨around, 1, [], []⟩ rfl _
  rw [attempted, Bridge.start_of_whole _ _ _ whole]
  simp only [Journal.fresh] at entered ⊢
  rw [calls, Launch.foldl_init_fresh_of_handle _ _ _ early, entered, counted_append_cons early,
    Launch.finish_eq_verdict]

/-- The record of a start begins with the id. -/
theorem watched_start :
    let begun := runtime.start around (terminate (encode id)) inside
    runtime.watched.start around (terminate (encode id)) (inside, [])
      = (begun.1, (begun.2, [.start (encode id)])) := by
  simp [Runtime.watched, untilNul_terminate whole]

/-- The record changes nothing about a start that runs the entry. It shows the id, the calls before
the entry, the attempts that were made, what the entry's call returned, and the calls after it. -/
theorem attempted_watched_of_handle {before after : List InitCall} {handle : Handle}
    (early : counted before = [])
    (calls : (runtime.start around (terminate (encode id)) inside).1.calls
      = before ++ ⟨some handle, true⟩ :: after) :
    let plain := attempted runtime around id ending inside attempts
    ∃ value, attempted runtime.watched around id ending (inside, []) (attempts.map Attempt.watched)
      = ((plain.1.1, (plain.1.2, .start (encode id) :: (refusals before).map .init
          ++ ((attempts.take plain.1.1.reports.length).flatMap fun attempt =>
              crossing handle attempt.path)
          ++ .init value :: (refusals after).map .init)), plain.2) := by
  have begun := watched_start whole runtime around inside
  have same : (runtime.watched.start around (terminate (encode id)) (inside, [])).1.calls
      = before ++ ⟨some handle, true⟩ :: after := by rw [begun, calls]
  rw [attempted_of_handle whole runtime around ending inside attempts early calls,
    attempted_of_handle whole runtime.watched around ending _ _ early same]
  simp only [begun, hear_watched, course_watched]
  exact ⟨_, rfl⟩

/-- The record changes nothing about any start. The id is handed over once, before all else. -/
theorem attempted_watched :
    let plain := attempted runtime around id ending inside attempts
    ∃ rest, (∀ other, .start other ∉ rest) ∧
      attempted runtime.watched around id ending (inside, []) (attempts.map Attempt.watched)
        = ((plain.1.1, (plain.1.2, .start (encode id) :: rest)), plain.2) := by
  intro plain
  have begun := watched_start whole runtime around inside
  rcases counted_eq_nil_or_first (runtime.start around (terminate (encode id)) inside).1.calls with
    nothing | ⟨before, _ | handle, after, calls, early⟩
  · refine ⟨(refusals (runtime.start around (terminate (encode id)) inside).1.calls).map .init,
      by simp, ?_⟩
    simp only [plain, attempted, Bridge.start_of_whole _ _ _ whole, Journal.fresh, begun,
      Launch.foldl_init_fresh_of_none _ _ _ nothing, hear_watched, List.singleton_append]
    rfl
  · refine ⟨(refusals (runtime.start around (terminate (encode id)) inside).1.calls).map .init,
      by simp, ?_⟩
    simp only [plain, attempted, Bridge.start_of_whole _ _ _ whole, Journal.fresh, begun, calls,
      Launch.foldl_init_fresh_of_null _ _ _ early, hear_watched, List.singleton_append]
    rfl
  · obtain ⟨value, watched⟩ :=
      attempted_watched_of_handle whole runtime around ending inside attempts early calls
    refine ⟨_, fun other => ?_, watched⟩
    simp [crossing]

end

theorem map_watched_befall (bad : Attempt ρ) (attempts : List (Attempt ρ)) :
    (befall bad.prepare attempts).map Attempt.watched
      = befall bad.watched.prepare (attempts.map Attempt.watched) := by
  cases attempts <;> rfl

/-- An attempt whose path cannot be handed across may be left out of a start: all other reports, the
record and the outcome stay as they are. -/
theorem attempted_omit {id : String} (whole : hasNul (encode id) = false) (runtime : Runtime ω ρ)
    (around : ω) (ending : Ending) (inside : ρ) {before after : List InitCall} {handle : Handle}
    (early : counted before = [])
    (calls : (runtime.start around (terminate (encode id)) inside).1.calls
      = before ++ ⟨some handle, true⟩ :: after)
    {bad : Attempt ρ} (unfit : Unfit bad.path) (earlier later : List (Attempt ρ)) :
    let started (attempts : List (Attempt ρ)) :=
      attempted runtime.watched around id ending (inside, []) (attempts.map Attempt.watched)
    let long := started (earlier ++ bad :: later)
    let short := started (earlier ++ befall bad.prepare later)
    short.1.1.reports = long.1.1.reports.eraseIdx earlier.length ∧ short.1.2.2 = long.1.2.2 ∧
      short.2 = long.2 := by
  intro started long short
  have begun := watched_start whole runtime around inside
  have same : (runtime.watched.start around (terminate (encode id)) (inside, [])).1.calls
      = before ++ ⟨some handle, true⟩ :: after := by rw [begun, calls]
  have unfit' : Unfit bad.watched.path := unfit
  obtain ⟨reports, ends, left⟩ := course_omit runtime.watched handle around ending unfit'
    (earlier.map Attempt.watched) (later.map Attempt.watched)
    (runtime.watched.hear (refusals before)
      (runtime.watched.start around (terminate (encode id)) (inside, [])).2)
  rw [List.length_map] at reports
  simp only [long, short, started, List.map_append, List.map_cons, map_watched_befall,
    attempted_of_handle whole runtime.watched around ending _ _ early same]
  generalize course runtime.watched handle around ending
    (earlier.map Attempt.watched ++ bad.watched :: later.map Attempt.watched) _ = ran at *
  generalize course runtime.watched handle around ending
    (earlier.map Attempt.watched ++ befall bad.watched.prepare (later.map Attempt.watched)) _
      = other at *
  have seen : other.left.2 = ran.left.2 := by
    rcases left with left | left
    · rw [left]
    · rw [left]
      rfl
  have heard (values : List Int32) (state : ρ × List Sighting) :
      (runtime.watched.hear values state).2 = state.2 ++ values.map .init :=
    congrArg Prod.snd (hear_watched runtime values state.1 state.2)
  simp only [heard, seen, ends]
  exact ⟨reports, trivial, trivial⟩

/-- **Arguments are checked before they are handed over, and are handed over unchanged.** The record
of a watched runtime shows what the runtime got, and changes nothing else.

Whoever opens a session, with whatever sink, is told of an invalid argument exactly if the path is
no text, or is empty, or has a NUL in it. Then both sides are as before, the sink got nothing and
the runtime was not called. With any other path the runtime is called once, with the handle, and
reads the path off its buffer byte for byte.

A start hands the application id over byte for byte, once and before all else, unless there is a NUL
in it; then nothing is handed over. If the first init call that counts has a handle, then the opens
of the entry are handed over with this handle and in their order, but for those whose report says
that they were turned down. To leave one of these out of the entry changes nothing but that its
report is missing. -/
theorem arguments_cross_unchanged (runtime : Runtime ω ρ) :
    (∀ (σ : Type) (view : σ → ω) (handle : Handle) (path : Bytes) (sink : Sink σ) (host : σ)
      (inside : ρ) (record : List Sighting),
      let plain := openSession view runtime handle path sink (host, inside)
      let watched := openSession view runtime.watched handle path sink (host, (inside, record))
      let unfit := (¬ ∃ text, encode text = path) ∨ path = [] ∨ nul ∈ path
      watched.1.1 = plain.1.1 ∧ watched.1.2.1 = plain.1.2 ∧ watched.2 = plain.2 ∧
        ((∃ reason, plain.2 = .failed (.invalidArgument reason)) ↔ unfit) ∧
        (unfit → plain.1 = (host, inside) ∧
          handedBy view runtime handle path sink (host, inside) = [] ∧
          watched.1.2.2 = record) ∧
        (¬ unfit → watched.1.2.2 = record ++ [.openSession handle path])) ∧
    ∀ (around : ω) (id : String) (ending : Ending) (inside : ρ),
      let plain (attempts : List (Attempt ρ)) :=
        attempted runtime around id ending inside attempts
      let watched (attempts : List (Attempt ρ)) :=
        attempted runtime.watched around id ending (inside, []) (attempts.map Attempt.watched)
      (∀ attempts, (watched attempts).1.1 = (plain attempts).1.1 ∧
        (watched attempts).1.2.1 = (plain attempts).1.2 ∧
        (watched attempts).2 = (plain attempts).2) ∧
      (nul ∈ encode id → ∀ attempts, (watched attempts).1.2.2 = [] ∧
        (watched attempts).2.2 = .failed (Bridge.appIdHasNul id)) ∧
      (nul ∉ encode id →
        (∀ attempts, ∃ rest, (watched attempts).1.2.2 = .start (encode id) :: rest ∧
          ∀ other, .start other ∉ rest) ∧
        ∀ before handle after, counted before = [] →
          (runtime.start around (terminate (encode id)) inside).1.calls
            = before ++ ⟨some handle, true⟩ :: after →
          (∀ attempts,
            let reports := (watched attempts).1.1.reports
            let made := attempts.take reports.length
            List.Forall₂ Attempt.Answers made reports ∧
              (made = attempts ∨
                ∃ attempt ∈ attempts, ∃ place, attempt.panics place ≠ none) ∧
              ∃ value, (watched attempts).1.2.2
                = .start (encode id) :: (refusals before).map .init
                  ++ (made.flatMap fun attempt => crossing handle attempt.path)
                  ++ .init value :: (refusals after).map .init) ∧
          ∀ earlier bad later, Unfit bad.path →
            let long := watched (earlier ++ bad :: later)
            let short := watched (earlier ++ befall bad.prepare later)
            short.1.1.reports = long.1.1.reports.eraseIdx earlier.length ∧
              short.1.2.2 = long.1.2.2 ∧ short.2 = long.2) := by
  refine ⟨fun σ view handle path sink host inside record => ?_, fun around id ending inside => ?_⟩
  · intro plain watched unfit
    have seen : watched = _ := openSession_watched view runtime handle path sink host inside record
    refine ⟨by rw [seen], by rw [seen], by rw [seen],
      openSession_invalidArgument_iff view runtime handle path sink (host, inside),
      fun (turned : Unfit path) => ?_, fun (fit : ¬ Unfit path) => ?_⟩
    · obtain ⟨reason, refused⟩ := openSession_of_unfit view runtime handle turned
      obtain ⟨_, checked⟩ := exists_of_unfit turned
      refine ⟨congrArg Prod.fst (refused sink (host, inside)),
        handedBy_of_checkPath_error checked, ?_⟩
      rw [seen, crossing, if_pos turned, List.append_nil]
    · rw [seen, crossing, if_neg fit]
  · intro plain watched
    have broken_iff : hasNul (encode id) = true ↔ nul ∈ encode id := List.contains_iff_mem
    have whole_of (clean : nul ∉ encode id) : hasNul (encode id) = false :=
      Bool.eq_false_iff.mpr fun broken => clean (broken_iff.mp broken)
    have refused (broken : nul ∈ encode id) (attempts : List (Attempt ρ)) :
        plain attempts = ((.fresh around, inside), ⟨id, true⟩, .failed (Bridge.appIdHasNul id)) ∧
          watched attempts
            = ((.fresh around, (inside, [])), ⟨id, true⟩, .failed (Bridge.appIdHasNul id)) :=
      ⟨Bridge.start_of_hasNul _ _ _ (broken_iff.mpr broken) _,
        Bridge.start_of_hasNul _ _ _ (broken_iff.mpr broken) _⟩
    refine ⟨fun attempts => ?_, fun broken attempts => ?_, fun clean => ⟨fun attempts => ?_,
      fun before handle after early calls => ⟨fun attempts => ?_, fun earlier bad later unfit =>
        attempted_omit (whole_of clean) runtime around ending inside early calls unfit earlier
          later⟩⟩⟩
    · by_cases broken : nul ∈ encode id
      · obtain ⟨one, other⟩ := refused broken attempts
        rw [one, other]
        exact ⟨rfl, rfl, rfl⟩
      · obtain ⟨rest, -, same⟩ :=
          attempted_watched (whole_of broken) runtime around ending inside attempts
        simp only [plain, watched, same, and_self]
    · rw [(refused broken attempts).2]
      exact ⟨rfl, rfl⟩
    · obtain ⟨rest, once, same⟩ :=
        attempted_watched (whole_of clean) runtime around ending inside attempts
      exact ⟨rest, by simp only [watched, same], once⟩
    · obtain ⟨value, same⟩ :=
        attempted_watched_of_handle (whole_of clean) runtime around ending inside attempts early
          calls
      have ran := attempted_of_handle (whole_of clean) runtime around ending inside attempts early
        calls
      obtain ⟨answered, made⟩ := answers_course runtime handle around ending attempts
        (runtime.hear (refusals before)
          (runtime.start around (terminate (encode id)) inside).2)
      simp only [watched, same]
      simp only [ran]
      exact ⟨answered, made, value, rfl⟩

/-- An entry makes three opens, the second with a NUL in its path. The application has no name, and
the runtime sends nothing, so that no open succeeds. -/
theorem arguments_cross_unchanged_second_unfit :
    let handle : Handle := rehearsedHandle
    let runtime : Runtime Unit Rehearsal := .rehearsed ⟨[⟨some handle, true⟩], .first⟩
    let attempt (path : String) : Attempt Rehearsal := ⟨encode path, id, fun _ => none, false⟩
    let attempts := [attempt "jeu-\u00e9t\u00e9", attempt "a\x00b", attempt "b.toml"]
    let result := attempted runtime.watched () "" (.returned 0) (⟨[], []⟩, [])
      (attempts.map Attempt.watched)
    Unfit (attempt "a\x00b").path ∧
      List.Forall₂ Attempt.Answers attempts result.1.1.reports ∧
      ∃ value, result.1.2.2
        = [.start [], .openSession handle (encode "jeu-\u00e9t\u00e9"),
            .openSession handle (encode "b.toml"), .init value] := by
  intro handle runtime attempt attempts result
  have unfit : Unfit (attempt "a\x00b").path := .inr (.inr (by decide))
  have fit (text : String) (some : encode text ≠ []) (clean : nul ∉ encode text) :
      ¬ Unfit (attempt text).path := by
    rintro (other | empty | broken)
    exacts [other ⟨text, rfl⟩, some empty, clean broken]
  have first := fit "jeu-\u00e9t\u00e9" (by decide) (by decide)
  have last := fit "b.toml" (by decide) (by decide)
  obtain ⟨-, inside⟩ := arguments_cross_unchanged runtime
  obtain ⟨-, -, whole⟩ := inside () "" (.returned 0) ⟨[], []⟩
  obtain ⟨-, runs⟩ := whole (by decide)
  obtain ⟨answered, made, value, seen⟩ := (runs [] handle [] rfl rfl).1 attempts
  rcases made with all | ⟨other, member, place, panics⟩
  · rw [all] at answered seen
    refine ⟨unfit, answered, value, seen.trans ?_⟩
    have nameless : encode "" = [] := by decide
    simp [attempts, crossing, unfit, first, last, refusals, attempt, nameless]
  · simp only [attempts, List.mem_cons, List.not_mem_nil, or_false] at member
    rcases member with rfl | rfl | rfl <;> exact absurd rfl panics

end SessionHost.Session
