import SessionHost.Protocol.Order

/-!
The order of events as a relation.

`Stage.Step` lists which event may come at which stage and where it leads, with the numbers of a
burst. `Stage.advance_eq_ok_iff` says that `Stage.advance` accepts an event exactly when there is
such a step, and `Stage.advanceAll` repeats it over a list of events.
-/

namespace SessionHost.Protocol

/-! ### Bursts -/

/-- A burst accepts a plugin of its own size that is the next one and lies below the size. -/
theorem Burst.accept_eq_ok_iff {burst next : Burst} {load : PluginLoad} :
    burst.accept load = .ok next ↔
      load.count = burst.count ∧ load.index = burst.loaded ∧ burst.loaded < burst.count ∧
        next = ⟨burst.loaded + 1, burst.count⟩ := by
  unfold Burst.accept
  split
  · rename_i other
    simp [other]
  · rename_i same
    have same : load.count = burst.count := Decidable.not_not.mp same
    split
    · rename_i beyond
      simp only [reduceCtorEq, false_iff]
      rintro ⟨-, index, below, -⟩
      rw [index, same] at beyond
      exact absurd below (UInt64.not_lt.mpr beyond)
    · rename_i below
      split
      · rename_i other
        simp [other]
      · rename_i here
        have here : load.index = burst.loaded := Decidable.not_not.mp here
        rw [same, here] at below
        have below : burst.loaded < burst.count := UInt64.not_le.mp below
        simp [same, here, below, eq_comm]

/-- A burst begins with the plugin at place zero of at least one. -/
theorem Burst.begin_eq_ok_iff {first : PluginLoad} {next : Burst} :
    Burst.begin first = .ok next ↔
      first.index = 0 ∧ 0 < first.count ∧ next = ⟨1, first.count⟩ := by
  simp [Burst.begin, Burst.accept_eq_ok_iff]

namespace Stage

/-! ### Steps -/

/-- The event that may come at a stage, and the stage that it leads to. -/
inductive Step : Stage → Event → Stage → Prop where
  | loadSettings : Step idle .loadSettings loadingSettings
  | loadProfile : Step loadingSettings .loadProfile loadingProfile
  | createRuntime : Step loadingProfile .createRuntime creatingRuntime
  | firstPlugin {load : PluginLoad} : load.index = 0 → 0 < load.count →
      Step creatingRuntime (.loadPlugin load) (loadingPlugins ⟨1, load.count⟩)
  | nextPlugin {burst : Burst} {load : PluginLoad} : load.count = burst.count →
      load.index = burst.loaded → burst.loaded < burst.count →
      Step (loadingPlugins burst) (.loadPlugin load)
        (loadingPlugins ⟨burst.loaded + 1, burst.count⟩)
  | noPlugins : Step creatingRuntime .loadRecords loadingRecords
  | allPlugins {burst : Burst} : burst.loaded = burst.count →
      Step (loadingPlugins burst) .loadRecords loadingRecords
  | loaded : Step loadingRecords .loaded loaded

/-- Every step is taken. -/
theorem Step.advance {stage next : Stage} {event : Event} (step : Step stage event next) :
    stage.advance event = .ok next := by
  cases step with
  | loadSettings => rfl
  | loadProfile => rfl
  | createRuntime => rfl
  | firstPlugin first some =>
      simp [Stage.advance, Burst.begin_eq_ok_iff.mpr ⟨first, some, rfl⟩, Except.map]
  | nextPlugin same here below =>
      simp [Stage.advance, Burst.accept_eq_ok_iff.mpr ⟨same, here, below, rfl⟩, Except.map]
  | noPlugins => rfl
  | allPlugins all => simp [Stage.advance, Burst.isComplete, all]
  | loaded => rfl

/-- Nothing but the steps is taken. -/
theorem Step.of_advance {stage next : Stage} {event : Event}
    (taken : stage.advance event = .ok next) : Step stage event next := by
  unfold Stage.advance at taken
  split at taken
  · cases taken
    exact .loadSettings
  · cases taken
    exact .loadProfile
  · cases taken
    exact .createRuntime
  · rename_i load
    cases begun : Burst.begin load with
    | error violation => simp [begun, Except.map] at taken
    | ok burst =>
        obtain ⟨first, some, rfl⟩ := Burst.begin_eq_ok_iff.mp begun
        simp only [begun, Except.map, Except.ok.injEq] at taken
        subst taken
        exact .firstPlugin first some
  · cases taken
    exact .noPlugins
  · rename_i burst load
    cases accepted : burst.accept load with
    | error violation => simp [accepted, Except.map] at taken
    | ok further =>
        obtain ⟨same, here, below, rfl⟩ := Burst.accept_eq_ok_iff.mp accepted
        simp only [accepted, Except.map, Except.ok.injEq] at taken
        subst taken
        exact .nextPlugin same here below
  · split at taken
    · rename_i complete
      cases taken
      exact .allPlugins (by simpa [Burst.isComplete] using complete)
    · cases taken
  · cases taken
    exact .loaded
  · cases taken
  · cases taken

/-- `advance` decides `Step`. -/
theorem advance_eq_ok_iff {stage next : Stage} {event : Event} :
    stage.advance event = .ok next ↔ Step stage event next :=
  ⟨Step.of_advance, Step.advance⟩

/-! ### Lists of events -/

/-- The stage after events in a row, or why the first that may not come was refused. -/
def advanceAll (stage : Stage) (events : List Event) : Except Violation Stage :=
  events.foldlM advance stage

@[simp] theorem advanceAll_nil (stage : Stage) : stage.advanceAll [] = .ok stage := rfl

theorem advanceAll_cons_eq_ok_iff {stage last : Stage} {event : Event} {events : List Event} :
    stage.advanceAll (event :: events) = .ok last ↔
      ∃ next, Step stage event next ∧ next.advanceAll events = .ok last := by
  simp only [advanceAll, List.foldlM_cons]
  cases taken : stage.advance event with
  | error violation =>
      simp [bind, Except.bind, ← advance_eq_ok_iff, taken]
  | ok next =>
      simp [bind, Except.bind, ← advance_eq_ok_iff, taken]

theorem advanceAll_append_eq_ok_iff {stage last : Stage} {before after : List Event} :
    stage.advanceAll (before ++ after) = .ok last ↔
      ∃ next, stage.advanceAll before = .ok next ∧ next.advanceAll after = .ok last := by
  induction before generalizing stage with
  | nil => simp
  | cons event before ih =>
      simp only [List.cons_append, advanceAll_cons_eq_ok_iff, ih]
      constructor
      · rintro ⟨first, step, middle, run, rest⟩
        exact ⟨middle, ⟨first, step, run⟩, rest⟩
      · rintro ⟨middle, ⟨first, step, run⟩, rest⟩
        exact ⟨first, step, middle, run, rest⟩

theorem advanceAll_singleton_eq_ok_iff {stage last : Stage} {event : Event} :
    stage.advanceAll [event] = .ok last ↔ Step stage event last := by
  simp [advanceAll_cons_eq_ok_iff]

end Stage

end SessionHost.Protocol
