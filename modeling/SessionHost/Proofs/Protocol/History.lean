import Mathlib.Data.List.Induction
import SessionHost.Proofs.Protocol.Steps

/-!
The words of the protocol.

`completed loads` is the whole word of a session that opens with the plugins `loads`, and
`CountsUp` says what their numbers must be. `Stage.History` gives for each stage the events that
lead to it. `Stage.advanceAll_idle_eq_ok_iff` says that a list of events is accepted from the
start exactly when it is the history of a stage, and `Stage.History.prefix_completed` that every
history can still become a whole word.
-/

namespace SessionHost.Protocol

/-- The loads are the first plugins of a burst of `count`: their places run up from zero, and each
carries the count. -/
def CountsUp (count : Nat) (loads : List PluginLoad) : Prop :=
  ∀ i, (h : i < loads.length) → loads[i].index.toNat = i ∧ loads[i].count.toNat = count

theorem countsUp_nil (count : Nat) : CountsUp count [] := by
  intro i h
  exact absurd h (Nat.not_lt_zero i)

/-- One more plugin continues a burst if it has the next place and the same count. -/
theorem countsUp_append_singleton_iff {count : Nat} {loads : List PluginLoad} {load : PluginLoad} :
    CountsUp count (loads ++ [load]) ↔
      CountsUp count loads ∧ load.index.toNat = loads.length ∧ load.count.toNat = count := by
  constructor
  · intro h
    refine ⟨fun i hi => ?_, ?_⟩
    · have here := h i (by simp; omega)
      rwa [List.getElem_append_left hi] at here
    · have last := h loads.length (by simp)
      rwa [List.getElem_concat_length rfl] at last
  · rintro ⟨h, last⟩ i hi
    by_cases inside : i < loads.length
    · rw [List.getElem_append_left inside]
      exact h i inside
    · have : i = loads.length := by
        simp only [List.length_append, List.length_singleton] at hi
        omega
      subst this
      rwa [List.getElem_concat_length rfl]

/-- The events of an opening session up to the plugins. -/
def opening (loads : List PluginLoad) : List Event :=
  [.loadSettings, .loadProfile, .createRuntime] ++ loads.map .loadPlugin

/-- The events of a session that was opened. -/
def completed (loads : List PluginLoad) : List Event := opening loads ++ [.loadRecords, .loaded]

theorem opening_append (loads more : List PluginLoad) :
    opening (loads ++ more) = opening loads ++ more.map .loadPlugin := by
  simp [opening]

/-- The plugins of an opening session. -/
theorem filterMap_plugin?_opening (loads : List PluginLoad) :
    (opening loads).filterMap Event.plugin? = loads := by
  have plugins : (loads.map Event.loadPlugin).filterMap Event.plugin? = loads := by
    rw [List.filterMap_map]
    exact List.filterMap_some
  rw [opening, List.filterMap_append, plugins]
  rfl

/-- The plugins of a whole word. -/
theorem filterMap_plugin?_completed (loads : List PluginLoad) :
    (completed loads).filterMap Event.plugin? = loads := by
  rw [completed, List.filterMap_append, filterMap_plugin?_opening]
  exact List.append_nil loads

namespace Stage

/-! ### What leads to a stage -/

/-- The events that lead from the start to a stage. -/
inductive History : Stage → List Event → Prop where
  | idle : History idle []
  | loadingSettings : History loadingSettings [.loadSettings]
  | loadingProfile : History loadingProfile [.loadSettings, .loadProfile]
  | creatingRuntime : History creatingRuntime (opening [])
  | loadingPlugins {burst : Burst} {loads : List PluginLoad} : loads ≠ [] →
      CountsUp burst.count.toNat loads → burst.loaded.toNat = loads.length →
      loads.length ≤ burst.count.toNat → History (loadingPlugins burst) (opening loads)
  | loadingRecords {loads : List PluginLoad} : CountsUp loads.length loads →
      History loadingRecords (opening loads ++ [.loadRecords])
  | loaded {loads : List PluginLoad} : CountsUp loads.length loads →
      History loaded (completed loads)

/-- A step extends the history by its event. -/
theorem History.step {stage next : Stage} {events : List Event} {event : Event}
    (history : History stage events) (step : Step stage event next) :
    History next (events ++ [event]) := by
  cases step with
  | loadSettings => cases history; exact .loadingSettings
  | loadProfile => cases history; exact .loadingProfile
  | createRuntime => cases history; exact .creatingRuntime
  | @firstPlugin load first some =>
      cases history
      have below : 0 < load.count.toNat := UInt64.lt_iff_toNat_lt.mp some
      have counts : CountsUp load.count.toNat [load] := by
        rw [← List.nil_append [load], countsUp_append_singleton_iff]
        exact ⟨countsUp_nil _, by simp [first], rfl⟩
      exact @History.loadingPlugins ⟨1, load.count⟩ [load] (List.cons_ne_nil _ _) counts rfl below
  | @nextPlugin burst load same here below =>
      cases history with
      | @loadingPlugins _ loads nonempty counts loaded _ =>
          have below : burst.loaded.toNat < burst.count.toNat := UInt64.lt_iff_toNat_lt.mp below
          have room : burst.loaded.toNat + 1 < 2 ^ 64 :=
            Nat.lt_of_le_of_lt below burst.count.toNat_lt
          have counts : CountsUp burst.count.toNat (loads ++ [load]) := by
            rw [countsUp_append_singleton_iff, here, same]
            exact ⟨counts, loaded, rfl⟩
          rw [← List.map_singleton, ← opening_append]
          refine .loadingPlugins (by simp) counts ?_ ?_
          · rw [UInt64.toNat_add]
            simp only [UInt64.toNat_one, List.length_append, List.length_singleton]
            omega
          · simp only [List.length_append, List.length_singleton]
            omega
  | noPlugins =>
      cases history
      exact .loadingRecords (countsUp_nil _)
  | @allPlugins burst all =>
      cases history with
      | loadingPlugins _ counts loaded _ =>
          rw [← all, loaded] at counts
          exact .loadingRecords counts
  | loaded =>
      cases history with
      | loadingRecords counts =>
          rw [List.append_assoc]
          exact .loaded counts

/-- Whatever is accepted from the start has led to the stage that was reached. -/
theorem History.of_advanceAll {stage : Stage} {events : List Event}
    (reached : Stage.idle.advanceAll events = .ok stage) : History stage events := by
  induction events using List.reverseRecOn generalizing stage with
  | nil =>
      cases reached
      exact .idle
  | append_singleton events event ih =>
      obtain ⟨before, run, last⟩ := advanceAll_append_eq_ok_iff.mp reached
      exact (ih run).step (advanceAll_singleton_eq_ok_iff.mp last)

/-- The plugins of a burst are accepted one after the other. -/
theorem advanceAll_opening {burst : Burst} {loads : List PluginLoad} (nonempty : loads ≠ [])
    (counts : CountsUp burst.count.toNat loads) (loaded : burst.loaded.toNat = loads.length)
    (room : loads.length ≤ burst.count.toNat) :
    idle.advanceAll (opening loads) = .ok (loadingPlugins burst) := by
  induction loads using List.reverseRecOn generalizing burst with
  | nil => exact absurd rfl nonempty
  | append_singleton loads load ih =>
      obtain ⟨counts, index, count⟩ := countsUp_append_singleton_iff.mp counts
      have count : load.count = burst.count := UInt64.toNat_inj.mp count
      simp only [List.length_append, List.length_singleton] at loaded room
      have below : loads.length < 2 ^ 64 := Nat.lt_of_lt_of_le (Nat.lt_of_succ_le room)
        (Nat.le_of_lt burst.count.toNat_lt)
      rw [opening_append, advanceAll_append_eq_ok_iff]
      by_cases empty : loads = []
      · -- The first plugin begins the burst; there is none under way to continue.
        subst empty
        have first : load.index = 0 := UInt64.toNat_inj.mp index
        have some : 0 < load.count := by
          rw [count, UInt64.lt_iff_toNat_lt]
          exact room
        have one : burst = ⟨1, load.count⟩ := by
          cases burst
          simp only [Burst.mk.injEq]
          exact ⟨UInt64.toNat_inj.mp loaded, count.symm⟩
        rw [one]
        exact ⟨creatingRuntime, rfl, advanceAll_singleton_eq_ok_iff.mpr (.firstPlugin first some)⟩
      · have earlier : (loads.length.toUInt64).toNat = loads.length := by
          simpa using Nat.mod_eq_of_lt below
        refine ⟨loadingPlugins ⟨loads.length.toUInt64, burst.count⟩,
          ih empty counts earlier (Nat.le_of_succ_le room), advanceAll_singleton_eq_ok_iff.mpr ?_⟩
        have next : burst = ⟨loads.length.toUInt64 + 1, burst.count⟩ := by
          cases burst
          simp only [Burst.mk.injEq, and_true]
          apply UInt64.toNat_inj.mp
          simp only at loaded room
          rw [UInt64.toNat_add, earlier, loaded]
          simp only [UInt64.toNat_one]
          have := UInt64.toNat_lt ‹UInt64›
          omega
        rw [next]
        refine .nextPlugin count (UInt64.toNat_inj.mp (index.trans earlier.symm)) ?_
        rw [UInt64.lt_iff_toNat_lt, earlier]
        exact room

/-- A complete burst, an empty one included, is followed by the records. -/
theorem advanceAll_opening_loadRecords {loads : List PluginLoad}
    (counts : CountsUp loads.length loads) :
    idle.advanceAll (opening loads ++ [.loadRecords]) = .ok Stage.loadingRecords := by
  rw [advanceAll_append_eq_ok_iff]
  cases loads with
  | nil => exact ⟨creatingRuntime, rfl, rfl⟩
  | cons first rest =>
      have count := (counts 0 (Nat.zero_lt_succ _)).2
      have loaded : first.count.toNat = (first :: rest).length := count
      refine ⟨loadingPlugins ⟨first.count, first.count⟩, ?_,
        advanceAll_singleton_eq_ok_iff.mpr (.allPlugins rfl)⟩
      exact advanceAll_opening (List.cons_ne_nil _ _) (loaded ▸ counts) loaded
        (Nat.le_of_eq loaded.symm)

/-- A history is accepted. -/
theorem History.advanceAll {stage : Stage} {events : List Event} (history : History stage events) :
    Stage.idle.advanceAll events = .ok stage := by
  cases history with
  | idle => rfl
  | loadingSettings => rfl
  | loadingProfile => rfl
  | creatingRuntime => rfl
  | loadingPlugins nonempty counts loaded room =>
      exact advanceAll_opening nonempty counts loaded room
  | loadingRecords counts => exact advanceAll_opening_loadRecords counts
  | loaded counts =>
      rw [completed, ← List.singleton_append, ← List.append_assoc, advanceAll_append_eq_ok_iff]
      exact ⟨Stage.loadingRecords, advanceAll_opening_loadRecords counts, rfl⟩

/-- Exactly the histories are accepted. -/
theorem advanceAll_idle_eq_ok_iff {stage : Stage} {events : List Event} :
    idle.advanceAll events = .ok stage ↔ History stage events :=
  ⟨History.of_advanceAll, History.advanceAll⟩

/-- The last stage is reached by the whole words. -/
theorem history_loaded_iff {events : List Event} :
    History Stage.loaded events ↔
      ∃ loads, CountsUp loads.length loads ∧ events = completed loads := by
  constructor
  · intro history
    cases history with
    | loaded counts => exact ⟨_, counts, rfl⟩
  · rintro ⟨loads, counts, rfl⟩
    exact .loaded counts

/-! ### What a stage can still become -/

/-- The rest of a burst of `count` after the first `loaded` plugins, without names. -/
def remaining (count loaded : Nat) : List PluginLoad :=
  (List.range' loaded (count - loaded)).map fun i => ⟨[], i.toUInt64, count.toUInt64⟩

/-- A burst that has begun can be completed. -/
theorem countsUp_remaining {burst : Burst} {loads : List PluginLoad}
    (counts : CountsUp burst.count.toNat loads) (room : loads.length ≤ burst.count.toNat) :
    CountsUp (loads ++ remaining burst.count.toNat loads.length).length
      (loads ++ remaining burst.count.toNat loads.length) := by
  have length : (loads ++ remaining burst.count.toNat loads.length).length
      = burst.count.toNat := by
    simp only [remaining, List.length_append, List.length_map, List.length_range']
    omega
  rw [length]
  intro i hi
  by_cases inside : i < loads.length
  · rw [List.getElem_append_left inside]
    exact counts i inside
  · have small : i < 2 ^ 64 := by
      have := burst.count.toNat_lt
      omega
    rw [List.getElem_append_right (Nat.le_of_not_lt inside)]
    simp only [remaining, List.getElem_map, List.getElem_range']
    constructor
    · have place : loads.length + 1 * (i - loads.length) = i := by omega
      rw [place]
      simpa using Nat.mod_eq_of_lt small
    · simp

/-- Every history can still become a whole word. -/
theorem History.prefix_completed {stage : Stage} {events : List Event}
    (history : History stage events) :
    ∃ loads, CountsUp loads.length loads ∧ events <+: completed loads := by
  cases history with
  | idle => exact ⟨[], countsUp_nil _, List.nil_prefix⟩
  | loadingSettings => exact ⟨[], countsUp_nil _, _, rfl⟩
  | loadingProfile => exact ⟨[], countsUp_nil _, _, rfl⟩
  | creatingRuntime => exact ⟨[], countsUp_nil _, _, rfl⟩
  | loadingPlugins _ counts _ room =>
      refine ⟨_, countsUp_remaining counts room, ?_⟩
      rw [completed, opening_append, List.append_assoc]
      exact List.prefix_append _ _
  | @loadingRecords loads counts =>
      refine ⟨loads, counts, [.loaded], ?_⟩
      rw [List.append_assoc]
      rfl
  | @loaded loads counts => exact ⟨loads, counts, List.prefix_refl _⟩

end Stage

end SessionHost.Protocol
