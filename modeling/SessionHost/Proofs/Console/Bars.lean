import SessionHost.Proofs.Console.Progress
import SessionHost.Proofs.Console.Showing

/-!
When a progress bar is up.

Where bars are shown, `barUp` tells from the calls so far whether one is up. An event leaves it up
exactly if it leaves a burst under way (`barUp_callsFor`), and so do events in a row
(`barUp_flatMap`). Main statement: `barUp_eq_true_iff`, for any point in the calls for events.
-/

namespace SessionHost.Protocol

theorem Event.plugin?_eq_some_iff {event : Event} {load : PluginLoad} :
    event.plugin? = some load ↔ event = .loadPlugin load := by
  cases event <;> simp [plugin?]

namespace Stage

/-! ### Bursts under way -/

/-- A burst has begun, and not all of its plugins have come. -/
def isMidBurst : Stage → Bool
  | loadingPlugins burst => !burst.isComplete
  | _ => false

/-- A plugin begins a burst if its index is zero, and else comes while one is under way. It leaves
one under way unless it is the last. -/
theorem History.isMidBurst_of_loadPlugin {stage next : Stage} {events : List Event}
    {load : PluginLoad} (history : History stage events)
    (step : Step stage (.loadPlugin load) next) :
    stage.isMidBurst = !decide (load.index = 0) ∧ next.isMidBurst = !load.isLast := by
  have ends {loaded : UInt64} (below : load.index < load.count)
      (after : loaded.toNat = load.index.toNat + 1) :
      (Stage.loadingPlugins ⟨loaded, load.count⟩).isMidBurst = !load.isLast := by
    have last := (PluginLoad.isLast_iff rfl (UInt64.lt_iff_toNat_lt.mp below)).2
    have same : load.isLast = true ↔ loaded = load.count := by
      rw [last, ← after, UInt64.toNat_inj]
    rw [isMidBurst, Burst.isComplete]
    congr 1
    rw [Bool.eq_iff_iff, same, decide_eq_true_eq]
  cases step with
  | firstPlugin first some =>
      refine ⟨by simp [isMidBurst, first], ends (first.symm ▸ some) ?_⟩
      rw [first]
      rfl
  | @nextPlugin burst load same here below =>
      -- There was a plugin before, so that the next index is not zero.
      have later : burst.loaded ≠ 0 := by
        cases history with
        | loadingPlugins nonempty _ loaded _ =>
            intro zero
            rw [zero] at loaded
            exact nonempty (List.eq_nil_of_length_eq_zero loaded.symm)
      have more : (Stage.loadingPlugins burst).isMidBurst = true := by
        simp [isMidBurst, Burst.isComplete, UInt64.ne_of_lt below]
      rw [← here] at later
      refine ⟨by simp [more, later], ?_⟩
      rw [← same, ← here] at below ⊢
      refine ends below ?_
      have room : load.index.toNat + 1 < 2 ^ 64 :=
        Nat.lt_of_le_of_lt (UInt64.lt_iff_toNat_lt.mp below) load.count.toNat_lt
      rw [UInt64.toNat_add, UInt64.toNat_one, Nat.mod_eq_of_lt room]

/-- No other event comes while a burst is under way, or leaves one under way. -/
theorem Step.isMidBurst_of_plugin?_eq_none {stage next : Stage} {event : Event}
    (step : Step stage event next) (other : event.plugin? = none) :
    stage.isMidBurst = false ∧ next.isMidBurst = false := by
  cases step with
  | firstPlugin first some => cases other
  | nextPlugin same here below => cases other
  | allPlugins all => exact ⟨by simp [isMidBurst, Burst.isComplete, all], rfl⟩
  | _ => exact ⟨rfl, rfl⟩

/-- A burst is under way exactly if a plugin came last that is not the last of its burst. -/
theorem History.isMidBurst_eq_true_iff {stage : Stage} {events : List Event}
    (history : History stage events) :
    stage.isMidBurst = true ↔
      ∃ load, events.getLast? = some (.loadPlugin load) ∧ load.isLast = false := by
  rcases List.eq_nil_or_concat events with rfl | ⟨earlier, event, rfl⟩
  · cases history
    simp [isMidBurst]
  · rw [List.concat_eq_append] at history ⊢
    obtain ⟨before, run, last⟩ := advanceAll_append_eq_ok_iff.mp history.advanceAll
    have step := advanceAll_singleton_eq_ok_iff.mp last
    simp only [List.getLast?_concat, Option.some.injEq]
    cases about : event.plugin? with
    | none =>
        rw [(step.isMidBurst_of_plugin?_eq_none about).2]
        simp only [Bool.false_eq_true, false_iff]
        rintro ⟨load, rfl, -⟩
        cases about
    | some load =>
        obtain rfl := Event.plugin?_eq_some_iff.mp about
        rw [(isMidBurst_of_loadPlugin (.of_advanceAll run) step).2]
        simp

end Stage

end SessionHost.Protocol

namespace SessionHost.Console

open Protocol Session

/-! ### Calls -/

/-- Whether a bar is up after a call. -/
def Call.barAfter (up : Bool) : Call → Bool
  | progressStart _ _ => true
  | progressFinish => false
  | _ => up

/-- Whether a bar is up after calls. -/
def barUp (up : Bool) (calls : List Call) : Bool := calls.foldl Call.barAfter up

theorem barUp_append (up : Bool) (before after : List Call) :
    barUp up (before ++ after) = barUp (barUp up before) after :=
  List.foldl_append

/-- Nothing that is asked of a console changes whether bars are shown. -/
theorem isAnimated_perform (console : Console) (call : Call) :
    (console.perform call).isAnimated = console.isAnimated := by
  rw [perform_eq]
  rfl

/-- Where bars are shown calls leave one up as `barUp` says, and elsewhere they leave none. -/
theorem progressBar_performAll {console : Console} {up : Bool}
    (shown : console.progressBar = (console.isAnimated && up)) (calls : List Call) :
    (console.performAll calls).progressBar = (console.isAnimated && barUp up calls) := by
  induction calls generalizing console up with
  | nil => exact shown
  | cons call rest ih =>
      have moved : (console.perform call).progressBar
          = ((console.perform call).isAnimated && call.barAfter up) := by
        rw [isAnimated_perform, perform_eq]
        cases call with
        | progressStart total text =>
            simp only [progressBarAfter, Call.barAfter, shown, Bool.and_true]
            cases console.isAnimated <;> cases up <;> rfl
        | progressFinish => exact (Bool.and_false _).symm
        | _ => exact shown
      rw [← isAnimated_perform console call]
      exact ih moved

/-- Only calls that move the bar matter to it. -/
theorem barUp_filter (up : Bool) (calls : List Call) :
    barUp up (calls.filter Call.movesBar) = barUp up calls := by
  induction calls generalizing up with
  | nil => rfl
  | cons call rest ih =>
      have step : barUp up (call :: rest) = barUp (call.barAfter up) rest := rfl
      rw [step, ← ih]
      cases call <;> rfl

/-- Calls that put no bar up leave none up. -/
theorem barUp_of_notMem {calls : List Call}
    (others : ∀ total text, .progressStart total text ∉ calls) : barUp false calls = false := by
  induction calls with
  | nil => rfl
  | cons call rest ih =>
      have later := ih fun total text member => others total text (List.mem_cons_of_mem _ member)
      cases call with
      | progressStart total text => exact absurd List.mem_cons_self (others total text)
      | _ => exact later

/-! ### Events -/

section

variable {stage next : Stage} {events : List Event} {event : Event}

/-- **An event leaves a bar up exactly if it leaves a burst under way**, if that is how the bar was
before. -/
theorem barUp_callsFor (history : Stage.History stage events)
    (step : Stage.Step stage event next) :
    barUp stage.isMidBurst (callsFor event) = next.isMidBurst := by
  rw [← barUp_filter, filter_movesBar_callsFor]
  cases about : event.plugin? with
  | none =>
      obtain ⟨before, after⟩ := step.isMidBurst_of_plugin?_eq_none about
      rw [before, after]
      rfl
  | some load =>
      obtain rfl := Event.plugin?_eq_some_iff.mp about
      obtain ⟨before, after⟩ := history.isMidBurst_of_loadPlugin step
      rw [before, after, Option.toList_some, List.flatMap_singleton, barCalls]
      by_cases zero : load.index = 0 <;> cases load.isLast <;> simp [barUp, Call.barAfter, zero]

/-- So do events in a row. -/
theorem barUp_flatMap (history : Stage.History stage events) :
    barUp false (events.flatMap callsFor) = stage.isMidBurst := by
  induction events using List.reverseRecOn generalizing stage with
  | nil =>
      cases history
      rfl
  | append_singleton events event ih =>
      obtain ⟨before, run, last⟩ := Stage.advanceAll_append_eq_ok_iff.mp history.advanceAll
      have earlier := Stage.History.of_advanceAll run
      rw [List.flatMap_append, List.flatMap_singleton, barUp_append, ih earlier,
        barUp_callsFor earlier (Stage.advanceAll_singleton_eq_ok_iff.mp last)]

/-- At any point in the calls for an event a bar is up if the event is about a plugin and the bar
was put up for it, if it is the first, and not taken down, if it is the last. -/
theorem barUp_part_eq_true_iff (history : Stage.History stage events)
    (step : Stage.Step stage event next) {part rest : List Call}
    (split : callsFor event = part ++ rest) :
    barUp stage.isMidBurst part = true ↔
      ∃ load, event = .loadPlugin load ∧
        (load.index = 0 → .progressStart load.count "plugins" ∈ part) ∧
        (load.isLast = true → .progressFinish ∈ rest) := by
  have moves := filter_movesBar_callsFor event
  rw [split, List.filter_append] at moves
  rw [← barUp_filter]
  cases about : event.plugin? with
  | none =>
      obtain ⟨before, -⟩ := step.isMidBurst_of_plugin?_eq_none about
      rw [about] at moves
      rw [before, (List.append_eq_nil_iff.mp moves).1]
      simp only [barUp, List.foldl_nil, Bool.false_eq_true, false_iff]
      rintro ⟨load, rfl, -⟩
      cases about
  | some load =>
      obtain rfl := Event.plugin?_eq_some_iff.mp about
      obtain ⟨before, -⟩ := history.isMidBurst_of_loadPlugin step
      rw [about, Option.toList_some, List.flatMap_singleton, barCalls] at moves
      have put : .progressStart load.count "plugins" ∈ part ↔
          .progressStart load.count "plugins" ∈ part.filter Call.movesBar := by
        simp [Call.movesBar]
      have taken : .progressFinish ∈ rest ↔ .progressFinish ∈ rest.filter Call.movesBar := by
        simp [Call.movesBar]
      simp only [Event.loadPlugin.injEq, exists_eq_left', put, taken, before]
      generalize part.filter Call.movesBar = done at moves ⊢
      generalize rest.filter Call.movesBar = left at moves ⊢
      -- For a plugin at most two calls move the bar, so that there are few ways to part them.
      by_cases zero : load.index = 0 <;> cases last : load.isLast <;>
        simp only [zero, last, if_true, if_false, Bool.false_eq_true, List.append_nil,
          List.nil_append, List.cons_append, List.append_eq_nil_iff, List.append_eq_cons_iff,
          List.cons_eq_append_iff, List.nil_eq_append_iff] at moves
      · rcases moves with ⟨rfl, rfl⟩ | ⟨_, rfl, rfl, rfl⟩ <;> simp [barUp, Call.barAfter]
      · rcases moves with ⟨rfl, rfl⟩ | ⟨_, rfl, ⟨rfl, rfl⟩ | ⟨_, rfl, rfl, rfl⟩⟩ <;>
          simp [barUp, Call.barAfter]
      · obtain ⟨rfl, rfl⟩ := moves
        simp [barUp]
      · rcases moves with ⟨rfl, rfl⟩ | ⟨_, rfl, rfl, rfl⟩ <;> simp [barUp, Call.barAfter]

end

/-! ### Points in the calls -/

/-- A first part of what things are turned into goes up to some point in what one of them is turned
into. -/
theorem exists_of_flatMap_eq_append {α β : Type} {f : α → List β} {things : List α}
    {before after : List β} (split : things.flatMap f = before ++ after) (begun : before ≠ []) :
    ∃ earlier thing later part rest, things = earlier ++ thing :: later ∧ f thing = part ++ rest ∧
      part ≠ [] ∧ before = earlier.flatMap f ++ part := by
  induction things generalizing before with
  | nil => exact absurd (List.append_eq_nil_iff.mp split.symm).1 begun
  | cons thing later ih =>
      rw [List.flatMap_cons] at split
      rcases List.append_eq_append_iff.mp split with ⟨more, rfl, left⟩ | ⟨rest, whole, -⟩
      · by_cases here : more = []
        · subst here
          rw [List.append_nil] at begun ⊢
          exact ⟨[], thing, later, f thing, [], rfl, (List.append_nil _).symm, begun, rfl⟩
        · obtain ⟨earlier, other, later, part, rest, rfl, whole, some, rfl⟩ := ih left here
          exact ⟨thing :: earlier, other, later, part, rest, rfl, whole, some,
            by rw [List.flatMap_cons, List.append_assoc]⟩
      · exact ⟨[], thing, later, before, rest, rfl, whole, begun, rfl⟩

/-- The calls for events break off after some of those for a plugin: the bar was put up, if the
plugin is the first of its burst, and is not taken down yet, if it is the last. -/
inductive BreaksOff (events : List Event) : List Call → Prop where
  | plugin {earlier later : List Event} {load : PluginLoad} {part rest : List Call}
      (split : events = earlier ++ .loadPlugin load :: later)
      (calls : callsFor (.loadPlugin load) = part ++ rest) (begun : part ≠ [])
      (put : load.index = 0 → .progressStart load.count "plugins" ∈ part)
      (stands : load.isLast = true → .progressFinish ∈ rest) :
      BreaksOff events (earlier.flatMap callsFor ++ part)

/-- They break off somewhere in the calls for the events. -/
theorem BreaksOff.within {events : List Event} {calls : List Call}
    (breaks : BreaksOff events calls) : calls ≠ [] ∧ calls <+: events.flatMap callsFor := by
  cases breaks with
  | @plugin earlier later load part rest split calls begun put stands =>
      refine ⟨fun empty => begun (List.append_eq_nil_iff.mp empty).2,
        rest ++ later.flatMap callsFor, ?_⟩
      rw [split, List.flatMap_append, List.flatMap_cons, calls]
      simp only [List.append_assoc]

/-- **At any point in the calls for events a bar is up exactly if they break off in a burst.** -/
theorem barUp_eq_true_iff {stage : Stage} {events : List Event}
    (history : Stage.History stage events) {before after : List Call}
    (split : events.flatMap callsFor = before ++ after) :
    barUp false before = true ↔ BreaksOff events before := by
  -- The events before say how the bar is when the calls for an event begin.
  have inside {earlier later : List Event} {event : Event} {part rest : List Call}
      (parts : events = earlier ++ event :: later) (calls : callsFor event = part ++ rest) :
      barUp false (earlier.flatMap callsFor ++ part) = true ↔
        ∃ load, event = .loadPlugin load ∧
          (load.index = 0 → .progressStart load.count "plugins" ∈ part) ∧
          (load.isLast = true → .progressFinish ∈ rest) := by
    obtain ⟨reached, run, left⟩ :=
      Stage.advanceAll_append_eq_ok_iff.mp (parts ▸ history.advanceAll)
    obtain ⟨next, step, -⟩ := Stage.advanceAll_cons_eq_ok_iff.mp left
    have led := Stage.History.of_advanceAll run
    rw [barUp_append, barUp_flatMap led]
    exact barUp_part_eq_true_iff led step calls
  constructor
  · intro up
    have begun : before ≠ [] := by
      rintro rfl
      cases up
    obtain ⟨earlier, event, later, part, rest, parts, calls, some, rfl⟩ :=
      exists_of_flatMap_eq_append split begun
    obtain ⟨load, rfl, put, stands⟩ := (inside parts calls).mp up
    exact .plugin parts calls some put stands
  · rintro ⟨parts, calls, -, put, stands⟩
    exact (inside parts calls).mpr ⟨_, rfl, put, stands⟩

section

variable {stage : Stage} {events : List Event} (history : Stage.History stage events)
  {ending : List Call} (others : ∀ total text, .progressStart total text ∉ ending)
  (clears : stage.isMidBurst = true → ending.head? = some .progressFinish)

include history others clears

/-- If more is asked after the events, which begins by taking down the bar of a burst that is still
under way and puts none up, then no bar is up from its first call on. -/
theorem barUp_append_ending {told left : List Call} (split : ending = told ++ left)
    (begun : told ≠ []) : barUp false (events.flatMap callsFor ++ told) = false := by
  have noneLater {calls : List Call} (inside : calls ⊆ told) : barUp false calls = false :=
    barUp_of_notMem fun total text member =>
      others total text (split ▸ List.mem_append_left left (inside member))
  rw [barUp_append, barUp_flatMap history]
  cases mid : stage.isMidBurst with
  | false => exact noneLater (List.Subset.refl told)
  | true =>
      obtain ⟨call, rest, rfl⟩ := List.exists_cons_of_ne_nil begun
      have first := clears mid
      rw [split] at first
      obtain rfl := Option.some.inj first
      exact noneLater (List.subset_cons_self _ rest)

/-- So at any point before or after that a bar is up exactly if the calls for the events break off
in a burst there. -/
theorem barUp_eq_true_iff_of_ending {before after : List Call}
    (split : events.flatMap callsFor ++ ending = before ++ after) :
    barUp false before = true ↔ BreaksOff events before := by
  rcases List.append_eq_append_iff.mp split with ⟨told, rfl, rest⟩ | ⟨rest, whole, -⟩
  · by_cases begun : told = []
    · subst begun
      exact barUp_eq_true_iff history ((List.append_nil _).symm.trans (List.append_nil _).symm)
    · rw [barUp_append_ending history others clears rest begun]
      simp only [Bool.false_eq_true, false_iff]
      intro breaks
      have short := breaks.within.2.length_le
      rw [List.length_append] at short
      exact begun (List.eq_nil_of_length_eq_zero (by omega))
  · exact barUp_eq_true_iff history whole

end

end SessionHost.Console
