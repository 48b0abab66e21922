import SessionHost.Proofs.Console.Calls
import SessionHost.Proofs.Session.Forwarding

/-!
The progress of a burst as a host sees it.

A sink is told the place and the count of a plugin, and a delivery keeps a burst of its own.
`exists_burst_of_handed` says how far the burst has come when a plugin is handed over, so that the
two agree. For the console this comes to one progress bar for a burst, which is up from its first
plugin to its last (`flatMap_barCalls`). Main statement: `burst_seen_alike`.
-/

namespace SessionHost.Protocol

/-! ### Places from one -/

/-- The place from one is the next number, as far as there is one. -/
theorem PluginLoad.toNat_position (load : PluginLoad) :
    load.position.toNat = min (load.index.toNat + 1) (UInt64.size - 1) := by
  have bound := load.index.toNat_lt
  unfold position
  split
  · rename_i room
    rw [UInt64.toNat_add, UInt64.toNat_one, Nat.mod_eq_of_lt room]
    omega
  · rename_i full
    simp only [UInt64.size] at full ⊢
    omega

/-- A plugin below its count has a next place, and it is the last if that place is the count. -/
theorem PluginLoad.isLast_iff {load : PluginLoad} {count : Nat} (counted : load.count.toNat = count)
    (below : load.index.toNat < count) :
    load.position.toNat = load.index.toNat + 1 ∧
      (load.isLast = true ↔ load.index.toNat + 1 = count) := by
  have bound := load.count.toNat_lt
  have place : load.position.toNat = load.index.toNat + 1 := by
    rw [toNat_position]
    simp only [UInt64.size]
    omega
  refine ⟨place, ?_⟩
  rw [isLast, decide_eq_true_eq, ← UInt64.toNat_inj, place, counted]

/-! ### Bursts in a history -/

namespace Stage.History

variable {stage : Stage} {events : List Event}

/-- The plugins of a history count up, and are not more than their count. -/
theorem countsUp_plugins (history : History stage events) :
    ∃ count, CountsUp count (events.filterMap Event.plugin?) ∧
      (events.filterMap Event.plugin?).length ≤ count := by
  cases history with
  | idle => exact ⟨0, countsUp_nil 0, Nat.le_refl 0⟩
  | loadingSettings => exact ⟨0, countsUp_nil 0, Nat.le_refl 0⟩
  | loadingProfile => exact ⟨0, countsUp_nil 0, Nat.le_refl 0⟩
  | creatingRuntime => exact ⟨0, countsUp_nil 0, Nat.le_refl 0⟩
  | @loadingPlugins burst loads _ counts _ room =>
      rw [filterMap_plugin?_opening]
      exact ⟨_, counts, room⟩
  | @loadingRecords loads counts =>
      refine ⟨loads.length, ?_⟩
      have plugins : (opening loads ++ [Event.loadRecords]).filterMap Event.plugin? = loads := by
        rw [List.filterMap_append, filterMap_plugin?_opening]
        exact List.append_nil loads
      rw [plugins]
      exact ⟨counts, Nat.le_refl _⟩
  | @loaded loads counts =>
      refine ⟨loads.length, ?_⟩
      rw [filterMap_plugin?_completed]
      exact ⟨counts, Nat.le_refl _⟩

/-- After a plugin there is a burst under way, which has come as far as there were plugins. -/
theorem of_append_loadPlugin {load : PluginLoad}
    (history : History stage (events ++ [.loadPlugin load])) :
    ∃ burst loads, stage = .loadingPlugins burst ∧ events = opening loads ∧
      CountsUp burst.count.toNat (loads ++ [load]) ∧ burst.loaded.toNat = loads.length + 1 ∧
      loads.length + 1 ≤ burst.count.toNat := by
  generalize word : events ++ [.loadPlugin load] = whole at history
  have last : whole.getLast? = some (.loadPlugin load) := by
    rw [← word, List.getLast?_concat]
  cases history with
  | idle => cases last
  | loadingSettings => cases last
  | loadingProfile => cases last
  | creatingRuntime => cases last
  | @loadingPlugins burst loads nonempty counts loaded room =>
      obtain ⟨before, final, rfl⟩ := List.eq_nil_or_concat loads |>.resolve_left nonempty
      rw [List.concat_eq_append] at *
      rw [opening_append, List.map_singleton] at word
      obtain ⟨rfl, same⟩ := List.append_inj' word rfl
      obtain rfl := Event.loadPlugin.inj (List.head_eq_of_cons_eq same)
      rw [List.length_append, List.length_singleton] at loaded room
      exact ⟨burst, before, rfl, rfl, counts, loaded, room⟩
  | loadingRecords => simp at last
  | loaded => simp [completed] at last

end Stage.History

end SessionHost.Protocol

namespace SessionHost.Session

open Protocol

variable {σ : Type}

/-! ### Bursts that are handed over -/

theorem filterMap_take_succ {events : List Event} {i : Nat} {load : PluginLoad}
    (got : events[i]? = some (.loadPlugin load)) :
    (events.take (i + 1)).filterMap Event.plugin?
      = (events.take i).filterMap Event.plugin? ++ [load] := by
  rw [List.take_add_one, got, List.filterMap_append]
  rfl

/-- When a plugin is handed over, the burst of the delivery has come to it. Its index is the number
of plugins before it, and its place from one, which has room in a number, is how far the burst is.
The burst is complete with the plugin that calls itself the last. -/
theorem exists_burst_of_handed {sink : Sink σ} {host : σ} {notifications : List Notification}
    {i : Nat} {load : PluginLoad}
    (got : (handed sink host notifications)[i]? = some (.loadPlugin load)) :
    ∃ burst,
      ((Delivery.fresh host).receiveAll sink (notifications.take (i + 1))).stage
          = .loadingPlugins burst ∧
        load.index.toNat
          = (((handed sink host notifications).take i).filterMap Event.plugin?).length ∧
        load.position.toNat = load.index.toNat + 1 ∧ load.position = burst.loaded ∧
        (load.isLast = true ↔ burst.isComplete = true) := by
  obtain ⟨inside, -⟩ := List.getElem?_eq_some_iff.mp got
  have grown : (handed sink host notifications).take (i + 1)
      = (handed sink host notifications).take i ++ [.loadPlugin load] := by
    rw [List.take_add_one, got]
    rfl
  have history := Delivery.history_of_handed inside
  rw [grown] at history
  obtain ⟨burst, loads, stage, opened, counts, loaded, room⟩ := history.of_append_loadPlugin
  obtain ⟨-, index, count⟩ := countsUp_append_singleton_iff.mp counts
  obtain ⟨place, last⟩ := PluginLoad.isLast_iff count (by omega)
  refine ⟨burst, stage, ?_, place, UInt64.toNat_inj.mp (by omega), ?_⟩
  · rw [opened, filterMap_plugin?_opening, index]
  · rw [last, Burst.isComplete, decide_eq_true_eq, ← UInt64.toNat_inj, loaded, index]

end SessionHost.Session

namespace SessionHost.Console

open Protocol Session

variable {σ : Type}

/-! ### The progress bar -/

/-- Whether a call puts the progress bar up or takes it down. -/
def Call.movesBar : Call → Bool
  | progressStart _ _ => true
  | progressFinish => true
  | _ => false

/-- What is done to the progress bar for a plugin. -/
def barCalls (load : PluginLoad) : List Call :=
  (if load.index = 0 then [.progressStart load.count "plugins"] else [])
    ++ if load.isLast then [.progressFinish] else []

/-- Only plugins move the progress bar. -/
theorem filter_movesBar_callsFor (event : Event) :
    (callsFor event).filter Call.movesBar = event.plugin?.toList.flatMap barCalls := by
  cases event with
  | loadPlugin load =>
      by_cases first : load.index = 0 <;> by_cases last : load.isLast = true <;>
        simp [callsFor, barCalls, Event.plugin?, List.filter_cons, Call.movesBar, first, last]
  | _ => rfl

theorem filter_movesBar_flatMap (events : List Event) :
    (events.flatMap callsFor).filter Call.movesBar
      = (events.filterMap Event.plugin?).flatMap barCalls := by
  induction events with
  | nil => rfl
  | cons event rest ih =>
      rw [List.flatMap_cons, List.filter_append, ih, filter_movesBar_callsFor, List.filterMap_cons]
      cases event.plugin? with
      | none => rfl
      | some load => rw [Option.toList_some, List.flatMap_singleton, List.flatMap_cons]

theorem progressFinish_mem_callsFor_iff (event : Event) :
    .progressFinish ∈ callsFor event ↔ ∃ load, event = .loadPlugin load ∧ load.isLast = true := by
  cases event with
  | loadPlugin load =>
      by_cases first : load.index = 0 <;> by_cases last : load.isLast = true <;>
        simp [callsFor, first, last]
  | _ => simp [callsFor]

/-- For plugins that count up the bar is put up once, for the first of them, and taken down after
that if they are as many as their count. -/
theorem flatMap_barCalls {count : Nat} {loads : List PluginLoad} (counts : CountsUp count loads)
    (room : loads.length ≤ count) :
    loads.flatMap barCalls = loads.head?.toList.flatMap fun first =>
      .progressStart first.count "plugins"
        :: if loads.length = first.count.toNat then [.progressFinish] else [] := by
  induction loads using List.reverseRecOn with
  | nil => rfl
  | append_singleton loads load ih =>
      obtain ⟨earlier, index, counted⟩ := countsUp_append_singleton_iff.mp counts
      rw [List.length_append, List.length_singleton] at room
      have last := (PluginLoad.isLast_iff counted (by omega)).2
      rw [index] at last
      rw [List.flatMap_append, ih earlier (by omega), List.length_append]
      cases loads with
      | nil =>
          have start : load.index = 0 := UInt64.toNat_inj.mp index
          simp [barCalls, start, last, counted]
      | cons first rest =>
          have same : first.count.toNat = count := (earlier 0 (Nat.zero_lt_succ _)).2
          have short : ¬ rest.length + 1 = count := by
            rw [List.length_cons] at room
            omega
          have later : load.index ≠ 0 := by
            intro start
            rw [start] at index
            exact absurd index (by simp)
          simp [barCalls, later, last, same, short]

/-- When a plugin was handed over, records may come next exactly if it is the last of its burst. -/
theorem advance_loadRecords_iff (burst : Burst) :
    (∃ next, (Stage.loadingPlugins burst).advance .loadRecords = .ok next) ↔
      burst.isComplete = true := by
  by_cases complete : burst.isComplete = true
  · simp [Stage.advance, complete]
  · simp [Stage.advance, complete]

/-- A console that is sent notifications does the calls for the events that it is handed. -/
theorem host_receiveAll_sink (console : Console) (notifications : List Notification) :
    ((Delivery.fresh console).receiveAll sink notifications).host
      = console.performAll ((handed sink console notifications).flatMap callsFor) := by
  have going : (Delivery.fresh console).halt = none := rfl
  rw [(Delivery.receiveAll_spec sink going notifications).1, sink_calm.handed_eq,
    sink_calm.feed_eq, hostAfter_sink]
  rfl

/-- **A sink sees a burst as its delivery does.** Whenever a sink is handed a plugin, the delivery is
in a burst. The place from one that the event shows is the number of plugins so far, this one
included, which is what the burst has counted, and it is the plain successor of its index. The event
is the last of its burst exactly if the burst is complete with it, and its index is zero exactly if
no plugin came before.

So a console is asked for one progress bar if there are plugins, for the first of them, and to finish
it if they were all handed over: for a plugin after which records may come, and for no other
event. -/
theorem burst_seen_alike (sink : Sink σ) (host : σ) (notifications : List Notification) :
    let events := handed sink host notifications
    (∀ i load, events[i]? = some (.loadPlugin load) →
      let plugins := (events.take (i + 1)).filterMap Event.plugin?
      ∃ burst,
        ((Delivery.fresh host).receiveAll sink (notifications.take (i + 1))).stage
            = .loadingPlugins burst ∧
          load.position = burst.loaded ∧ load.position.toNat = plugins.length ∧
          load.position.toNat = load.index.toNat + 1 ∧
          (load.isLast = true ↔ burst.isComplete = true) ∧
          (load.index = 0 ↔ (events.take i).filterMap Event.plugin? = [])) ∧
      ∀ console : Console,
        let seen := handed Console.sink console notifications
        let calls := seen.flatMap callsFor
        let plugins := seen.filterMap Event.plugin?
        ((Delivery.fresh console).receiveAll Console.sink notifications).host
            = console.performAll calls ∧
          (calls.filter Call.movesBar = plugins.head?.toList.flatMap fun first =>
            .progressStart first.count "plugins"
              :: if plugins.length = first.count.toNat then [.progressFinish] else []) ∧
          ∀ i event, seen[i]? = some event →
            (.progressFinish ∈ callsFor event ↔
              event.phase = .loadPlugin ∧
                ∃ next, ((Delivery.fresh console).receiveAll Console.sink
                  (notifications.take (i + 1))).stage.advance .loadRecords = .ok next) := by
  intro events
  refine ⟨fun i load got => ?_, fun console => ⟨host_receiveAll_sink console notifications, ?_,
    fun i event got => ?_⟩⟩
  · obtain ⟨burst, stage, index, place, counted, last⟩ := exists_burst_of_handed got
    refine ⟨burst, stage, counted, ?_, place, last, ?_⟩
    · rw [place, index, filterMap_take_succ got, List.length_append, List.length_singleton]
    · rw [← UInt64.toNat_inj, index, UInt64.toNat_zero, List.length_eq_zero_iff]
  · obtain ⟨stage, history⟩ := exists_history_handed Console.sink console notifications
    obtain ⟨count, counts, room⟩ := history.countsUp_plugins
    rw [filter_movesBar_flatMap, flatMap_barCalls counts room]
  · cases event with
    | loadPlugin load =>
        obtain ⟨burst, stage, -, -, -, last⟩ := exists_burst_of_handed got
        rw [progressFinish_mem_callsFor_iff, stage, advance_loadRecords_iff, ← last]
        simp [Event.phase]
    | _ => simp [progressFinish_mem_callsFor_iff, Event.phase]

end SessionHost.Console
