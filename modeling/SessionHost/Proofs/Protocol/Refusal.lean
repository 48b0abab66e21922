import SessionHost.Proofs.Protocol.Decoding
import SessionHost.Proofs.Protocol.History

/-!
What a refusal says.

`Notification.Unreadable` says what is wrong with a notification that stands for no event, and
`Event.Misplaced` what is wrong with an event, in terms of the events before it alone.
`Notification.decode_eq_error_iff` and `Stage.History.advance_eq_error_iff` say that a violation is
reported exactly where it is true.
-/

namespace SessionHost.Protocol

/-! ### Notifications that cannot be read -/

/-- The violation is what is wrong with a payload: it has a length but no memory behind its name, or
a length that no run of bytes can have. -/
def PluginPayload.Unreadable (payload : PluginPayload) : Violation → Prop
  | .nullPluginName length => payload.length = length ∧ length ≠ 0 ∧ payload.name = none
  | .pluginNameTooLong length =>
      payload.length = length ∧ payload.name.isSome ∧ longestRun < length.toNat
  | _ => False

/-- The violation is what is wrong with a notification: its code is unknown, or it is that of a
plugin and nothing describes one. -/
def Notification.Unreadable (notification : Notification) : Violation → Prop
  | .unknownStatus code => notification.code = code ∧ 5 < code.toNat
  | .missingPayload => notification.code = Phase.loadPlugin.code ∧ notification.payload = none
  | violation =>
      notification.code = Phase.loadPlugin.code ∧
        ∃ payload, notification.payload = some payload ∧ payload.Unreadable violation

/-- The codes without a phase are the numbers above five. -/
theorem Phase.ofCode?_eq_none_iff {code : UInt32} : ofCode? code = none ↔ 5 < code.toNat := by
  constructor
  · intro unknown
    have other (phase : Phase) : phase.code ≠ code := by
      intro same
      rw [ofCode?_eq_some_iff.mpr same] at unknown
      cases unknown
    by_contra small
    have known : code.toNat = 0 ∨ code.toNat = 1 ∨ code.toNat = 2 ∨ code.toNat = 3 ∨
        code.toNat = 4 ∨ code.toNat = 5 := by omega
    rcases known with same | same | same | same | same | same
    · exact other .loadSettings (UInt32.toNat_inj.mp same.symm)
    · exact other .loadProfile (UInt32.toNat_inj.mp same.symm)
    · exact other .createRuntime (UInt32.toNat_inj.mp same.symm)
    · exact other .loadPlugin (UInt32.toNat_inj.mp same.symm)
    · exact other .loadRecords (UInt32.toNat_inj.mp same.symm)
    · exact other .loaded (UInt32.toNat_inj.mp same.symm)
  · intro large
    cases found : ofCode? code with
    | none => rfl
    | some phase =>
        have known : phase.code.toNat ≤ 5 := by cases phase <;> decide
        rw [ofCode?_eq_some_iff.mp found] at known
        omega

/-- A payload is refused with what is wrong with it. -/
theorem PluginPayload.decode_eq_error_iff {payload : PluginPayload} {violation : Violation} :
    payload.decode = .error violation ↔ payload.Unreadable violation := by
  constructor
  · intro refused
    unfold decode at refused
    split at refused
    · cases refused
    · rename_i nonzero
      split at refused
      · rename_i null
        cases refused
        exact ⟨rfl, nonzero, null⟩
      · rename_i memory present
        split at refused
        · rename_i long
          cases refused
          exact ⟨rfl, by simp [present], long⟩
        · cases refused
  · intro unreadable
    cases violation with
    | nullPluginName length =>
        obtain ⟨rfl, nonzero, null⟩ := unreadable
        simp [decode, nonzero, null]
    | pluginNameTooLong length =>
        obtain ⟨rfl, some, long⟩ := unreadable
        obtain ⟨memory, present⟩ := Option.isSome_iff_exists.mp some
        have nonzero : payload.length ≠ 0 := by
          intro empty
          rw [empty] at long
          exact absurd long (Nat.not_lt_zero _)
        simp [decode, nonzero, present, long]
    | _ => exact unreadable.elim

/-- A notification is refused with what is wrong with it. -/
theorem Notification.decode_eq_error_iff {notification : Notification} {violation : Violation} :
    notification.decode = .error violation ↔ notification.Unreadable violation := by
  constructor
  · intro refused
    unfold decode at refused
    split at refused
    · rename_i unknown
      cases refused
      exact ⟨rfl, Phase.ofCode?_eq_none_iff.mp unknown⟩
    case h_5 plugin =>
      have code : notification.code = Phase.loadPlugin.code :=
        (Phase.ofCode?_eq_some_iff.mp plugin).symm
      split at refused
      · rename_i absent
        cases refused
        exact ⟨code, absent⟩
      · rename_i payload present
        cases read : payload.decode with
        | ok load => simp [read, Except.map] at refused
        | error found =>
            simp only [read, Except.map, Except.error.injEq] at refused
            subst refused
            have unreadable := PluginPayload.decode_eq_error_iff.mp read
            cases found with
            | unknownStatus => exact unreadable.elim
            | missingPayload => exact unreadable.elim
            | _ => exact ⟨code, payload, present, unreadable⟩
    all_goals cases refused
  · intro unreadable
    have plugin : Phase.ofCode? Phase.loadPlugin.code = some .loadPlugin := Phase.ofCode?_code _
    cases violation with
    | unknownStatus code =>
        obtain ⟨rfl, above⟩ := unreadable
        simp [decode, Phase.ofCode?_eq_none_iff.mpr above]
    | missingPayload =>
        obtain ⟨code, absent⟩ := unreadable
        simp [decode, code, plugin, absent]
    | _ =>
        obtain ⟨code, payload, present, unreadable⟩ := unreadable
        simp [decode, code, plugin, present, PluginPayload.decode_eq_error_iff.mpr unreadable,
          Except.map]

/-! ### Events that may not come -/

/-- The phases that may come after a phase, or at the start. -/
def Phase.successors : Option Phase → List Phase
  | none => [loadSettings]
  | some loadSettings => [loadProfile]
  | some loadProfile => [createRuntime]
  | some createRuntime => [loadPlugin, loadRecords]
  | some loadPlugin => [loadPlugin, loadRecords]
  | some loadRecords => [loaded]
  | some loaded => []

/-- The violation is what is wrong with an event that comes after the others. The numbers in it are
those of the plugins that came before, and of the event itself. -/
def Event.Misplaced (events : List Event) (event : Event) : Violation → Prop
  | .afterLoaded found => found = event.phase ∧ .loaded ∈ events
  | .pluginBurstIncomplete came count =>
      event = .loadRecords ∧ ∃ loads : List PluginLoad, events = opening loads ∧ loads ≠ [] ∧
        loads.length = came.toNat ∧ (∀ earlier ∈ loads, earlier.count = count) ∧ came < count
  | .pluginCountChanged expected found =>
      ∃ load first rest, event = .loadPlugin load ∧ events = opening (first :: rest) ∧
        first.count = expected ∧ load.count = found ∧ found ≠ expected
  | .pluginIndexOutOfRange index count =>
      ∃ load loads, event = .loadPlugin load ∧ events = opening loads ∧
        load.index = index ∧ load.count = count ∧ (∀ earlier ∈ loads, earlier.count = count) ∧
        count ≤ index
  | .pluginIndex expected found =>
      ∃ load loads, event = .loadPlugin load ∧ events = opening loads ∧
        load.index = found ∧ (∀ earlier ∈ loads, earlier.count = load.count) ∧
        found < load.count ∧ loads.length = expected.toNat ∧ found ≠ expected
  | .unexpectedPhase stage found =>
      found = event.phase ∧ Stage.History stage events ∧ .loaded ∉ events ∧
        found ∉ Phase.successors (events.getLast?.map Event.phase)
  | _ => False

theorem opening_injective {loads others : List PluginLoad} (same : opening loads = opening others) :
    loads = others := by
  have inner : loads.map Event.loadPlugin = others.map Event.loadPlugin :=
    List.append_cancel_left same
  exact (List.map_inj_right fun _ _ => Event.loadPlugin.inj).mp inner

theorem loadRecords_notMem_opening (loads : List PluginLoad) : .loadRecords ∉ opening loads := by
  simp [opening]

theorem loaded_notMem_opening (loads : List PluginLoad) : .loaded ∉ opening loads := by
  simp [opening]

theorem getLast?_opening_append (loads : List PluginLoad) (last : PluginLoad) :
    (opening (loads ++ [last])).getLast? = some (.loadPlugin last) := by
  simp [opening_append]

/-- After the runtime or a plugin, a plugin or the records may come. -/
theorem successors_opening (loads : List PluginLoad) :
    Phase.successors ((opening loads).getLast?.map Event.phase) = [.loadPlugin, .loadRecords] := by
  rcases List.eq_nil_or_concat loads with rfl | ⟨before, last, rfl⟩
  · rfl
  · rw [List.concat_eq_append, getLast?_opening_append]
    rfl

namespace Stage.History

variable {stage : Stage} {events : List Event}

/-- Events lead to one stage only. -/
theorem unique {other : Stage} (history : History stage events) (too : History other events) :
    other = stage :=
  Except.ok.inj (too.advanceAll.symm.trans history.advanceAll)

/-- The last stage is the one after `loaded`. -/
theorem loaded_mem_iff (history : History stage events) : .loaded ∈ events ↔ stage = .loaded := by
  cases history with
  | idle => simp
  | loadingSettings => simp
  | loadingProfile => simp
  | creatingRuntime => simp [loaded_notMem_opening]
  | loadingPlugins => simp [loaded_notMem_opening]
  | loadingRecords => simp [loaded_notMem_opening]
  | loaded => simp [completed]

/-- A stage knows the phase of the last event. -/
theorem lastPhase?_eq (history : History stage events) :
    stage.lastPhase? = events.getLast?.map Event.phase := by
  cases history with
  | idle => rfl
  | loadingSettings => rfl
  | loadingProfile => rfl
  | creatingRuntime => rfl
  | @loadingPlugins burst loads nonempty _ _ _ =>
      rw [← List.dropLast_concat_getLast nonempty, getLast?_opening_append]
      rfl
  | loadingRecords => simp [lastPhase?, Event.phase]
  | loaded => simp [completed, lastPhase?, Event.phase]

/-- What a stage knows of the plugins when another is offered: how many have come, and their count,
which for the first is its own. -/
theorem of_opening {loads : List PluginLoad} (history : History stage (opening loads))
    (load : PluginLoad) :
    ∃ burst : Burst, loads.length = burst.loaded.toNat ∧
      (∀ earlier ∈ loads, earlier.count = burst.count) ∧ (loads = [] → burst.count = load.count) ∧
      loads.length ≤ burst.count.toNat ∧
      stage = (if loads = [] then Stage.creatingRuntime else Stage.loadingPlugins burst) := by
  generalize word : opening loads = events at history
  cases history with
  | idle => simp [opening] at word
  | loadingSettings => simp [opening] at word
  | loadingProfile => simp [opening] at word
  | creatingRuntime =>
      obtain rfl := opening_injective word
      exact ⟨⟨0, load.count⟩, rfl, by simp, fun _ => rfl, Nat.zero_le _, rfl⟩
  | @loadingPlugins burst others nonempty counts loaded room =>
      obtain rfl := opening_injective word
      refine ⟨burst, loaded.symm, ?_, fun empty => absurd empty nonempty, room, ?_⟩
      · intro earlier member
        obtain ⟨i, inside, rfl⟩ := List.mem_iff_getElem.mp member
        exact UInt64.toNat_inj.mp (counts i inside).2
      · rw [if_neg nonempty]
  | loadingRecords =>
      have absent := loadRecords_notMem_opening loads
      simp [word] at absent
  | loaded =>
      have absent := loaded_notMem_opening loads
      simp [word, completed] at absent

end Stage.History

/-! ### Plugins that a burst does not accept -/

/-- The violation is what keeps a burst from accepting a plugin. -/
def Burst.Refuses (burst : Burst) (load : PluginLoad) : Violation → Prop
  | .pluginCountChanged expected found =>
      burst.count = expected ∧ load.count = found ∧ found ≠ expected
  | .pluginIndexOutOfRange index count =>
      load.index = index ∧ load.count = count ∧ burst.count = count ∧ count ≤ index
  | .pluginIndex expected found =>
      load.index = found ∧ burst.count = load.count ∧ found < load.count ∧
        burst.loaded = expected ∧ found ≠ expected
  | _ => False

theorem Burst.accept_eq_error_iff {burst : Burst} {load : PluginLoad} {violation : Violation} :
    burst.accept load = .error violation ↔ burst.Refuses load violation := by
  constructor
  · intro refused
    unfold accept at refused
    split at refused
    · rename_i changed
      cases refused
      exact ⟨rfl, rfl, changed⟩
    · rename_i kept
      have same : load.count = burst.count := Decidable.not_not.mp kept
      split at refused
      · rename_i beyond
        cases refused
        exact ⟨rfl, rfl, same.symm, beyond⟩
      · rename_i inside
        split at refused
        · rename_i other
          cases refused
          exact ⟨rfl, same.symm, UInt64.not_le.mp inside, rfl, other⟩
        · cases refused
  · intro refuses
    cases violation with
    | pluginCountChanged expected found =>
        obtain ⟨rfl, rfl, changed⟩ := refuses
        rw [accept, if_pos changed]
    | pluginIndexOutOfRange index count =>
        obtain ⟨rfl, rfl, same, beyond⟩ := refuses
        rw [accept, if_neg (not_not_intro same.symm), if_pos beyond]
    | pluginIndex expected found =>
        obtain ⟨rfl, same, below, rfl, other⟩ := refuses
        rw [accept, if_neg (not_not_intro same.symm), if_neg (UInt64.not_le.mpr below),
          if_pos other]
    | _ => exact refuses.elim

/-- What keeps a burst from accepting a plugin is what is wrong with it after the plugins that the
burst has accepted. -/
theorem Event.misplaced_loadPlugin_iff {loads : List PluginLoad} {burst : Burst} {load : PluginLoad}
    {violation : Violation} (came : loads.length = burst.loaded.toNat)
    (counts : ∀ earlier ∈ loads, earlier.count = burst.count)
    (first : loads = [] → burst.count = load.count) :
    (Event.loadPlugin load).Misplaced (opening loads) violation ↔ burst.Refuses load violation := by
  have count {other : UInt64} (same : ∀ earlier ∈ loads, earlier.count = other)
      (own : load.count = other) : burst.count = other := by
    cases loads with
    | nil => exact (first rfl).trans own
    | cons head rest => exact (counts head (by simp)).symm.trans (same head (by simp))
  cases violation with
  | pluginCountChanged expected found =>
      constructor
      · rintro ⟨_, head, rest, ⟨rfl⟩, word, rfl, rfl, changed⟩
        obtain rfl := opening_injective word
        exact ⟨(counts head (by simp)).symm, rfl, changed⟩
      · rintro ⟨rfl, rfl, changed⟩
        cases loads with
        | nil => exact absurd (first rfl).symm changed
        | cons head rest =>
            exact ⟨load, head, rest, rfl, rfl, counts head (by simp), rfl, changed⟩
  | pluginIndexOutOfRange index bound =>
      constructor
      · rintro ⟨_, others, ⟨rfl⟩, word, rfl, rfl, same, beyond⟩
        obtain rfl := opening_injective word
        exact ⟨rfl, rfl, count same rfl, beyond⟩
      · rintro ⟨rfl, rfl, same, beyond⟩
        exact ⟨load, loads, rfl, rfl, rfl, rfl, same ▸ counts, beyond⟩
  | pluginIndex expected found =>
      constructor
      · rintro ⟨_, others, ⟨rfl⟩, word, rfl, same, below, number, other⟩
        obtain rfl := opening_injective word
        exact ⟨rfl, count same rfl, below, UInt64.toNat_inj.mp (came.symm.trans number), other⟩
      · rintro ⟨rfl, same, below, rfl, other⟩
        exact ⟨load, loads, rfl, rfl, rfl, same ▸ counts, below, came, other⟩
  | unexpectedPhase stage found =>
      simp only [Misplaced, Burst.Refuses, successors_opening, phase, iff_false]
      rintro ⟨rfl, -, -, strange⟩
      exact strange (List.mem_cons_self ..)
  | afterLoaded found =>
      simp only [Misplaced, Burst.Refuses, loaded_notMem_opening, and_false]
  | _ => simp [Misplaced, Burst.Refuses]

/-! ### Refused events -/

/-- An event of a phase that may not come next is refused for its phase. -/
theorem Stage.advance_of_notMem_successors {stage : Stage} {event : Event}
    (running : stage ≠ .loaded) (strange : event.phase ∉ Phase.successors stage.lastPhase?) :
    stage.advance event = .error (.unexpectedPhase stage event.phase) := by
  cases stage with
  | loaded => exact absurd rfl running
  | _ =>
      cases event <;>
        simp_all [Phase.successors, Stage.lastPhase?, Event.phase, Stage.advance]

namespace Stage.History

variable {stage : Stage} {events : List Event} {event : Event} {violation : Violation}

/-- A plugin is refused after others with what is wrong with it. -/
theorem advance_loadPlugin_eq_error_iff {loads : List PluginLoad} {load : PluginLoad}
    (history : History stage (opening loads)) :
    stage.advance (.loadPlugin load) = .error violation ↔
      (Event.loadPlugin load).Misplaced (opening loads) violation := by
  obtain ⟨burst, came, counts, first, -, rfl⟩ := history.of_opening load
  have offered : Stage.advance (if loads = [] then .creatingRuntime else .loadingPlugins burst)
      (.loadPlugin load) = (burst.accept load).map Stage.loadingPlugins := by
    by_cases empty : loads = []
    · subst empty
      have zero : burst.loaded = 0 := UInt64.toNat_inj.mp came.symm
      have start : burst = ⟨0, load.count⟩ := by
        rw [← zero, ← first rfl]
      rw [if_pos rfl, start]
      rfl
    · rw [if_neg empty]
      rfl
  rw [offered, Event.misplaced_loadPlugin_iff came counts first, ← Burst.accept_eq_error_iff]
  cases burst.accept load <;> simp [Except.map]

/-- The records are refused after plugins of which some are missing. -/
theorem advance_loadRecords_eq_error_iff {loads : List PluginLoad}
    (history : History stage (opening loads)) :
    stage.advance .loadRecords = .error violation ↔
      Event.loadRecords.Misplaced (opening loads) violation := by
  constructor
  · intro refused
    -- Any plugin may stand for the one that is offered; none is.
    obtain ⟨burst, came, counts, -, room, rfl⟩ := history.of_opening ⟨[], 0, 0⟩
    by_cases empty : loads = []
    · rw [if_pos empty] at refused
      cases refused
    · rw [if_neg empty] at refused
      by_cases complete : burst.loaded = burst.count
      · simp [Stage.advance, Burst.isComplete, complete] at refused
      · simp only [Stage.advance, Burst.isComplete, complete, decide_false, Bool.false_eq_true,
          if_false, Except.error.injEq] at refused
        subst refused
        have short : burst.loaded < burst.count :=
          UInt64.lt_of_le_of_ne (UInt64.le_iff_toNat_le.mpr (came ▸ room)) complete
        exact ⟨rfl, loads, rfl, empty, came, counts, short⟩
  · intro misplaced
    cases violation with
    | pluginBurstIncomplete reached count =>
        obtain ⟨-, others, word, nonempty, number, same, short⟩ := misplaced
        obtain rfl := opening_injective word
        obtain ⟨burst, came, counts, -, -, rfl⟩ := history.of_opening ⟨[], 0, 0⟩
        obtain ⟨first, member⟩ := List.exists_mem_of_ne_nil _ nonempty
        have loaded : burst.loaded = reached := UInt64.toNat_inj.mp (came.symm.trans number)
        have count : burst.count = count := (counts first member).symm.trans (same first member)
        subst loaded count
        rw [if_neg nonempty]
        simp [Stage.advance, Burst.isComplete, UInt64.ne_of_lt short]
    | unexpectedPhase found phase =>
        obtain ⟨rfl, -, -, strange⟩ := misplaced
        rw [successors_opening] at strange
        exact absurd (by decide) strange
    | afterLoaded found => exact absurd misplaced.2 (loaded_notMem_opening loads)
    | _ => simp [Event.Misplaced] at misplaced

/-- Whatever is refused is refused with what is wrong with it. -/
theorem misplaced_of_advance (history : History stage events)
    (refused : stage.advance event = .error violation) : event.Misplaced events violation := by
  by_cases ended : stage = .loaded
  · subst ended
    have found : violation = .afterLoaded event.phase := by
      cases event <;> exact (Except.error.inj refused).symm
    subst found
    exact ⟨rfl, history.loaded_mem_iff.mpr rfl⟩
  · by_cases fits : event.phase ∈ Phase.successors stage.lastPhase?
    · cases history with
      | creatingRuntime =>
          cases event with
          | loadPlugin load => exact (advance_loadPlugin_eq_error_iff .creatingRuntime).mp refused
          | loadRecords => cases refused
          | _ => simp [Phase.successors, lastPhase?, Event.phase] at fits
      | loadingPlugins nonempty counts loaded room =>
          have history := History.loadingPlugins nonempty counts loaded room
          cases event with
          | loadPlugin load => exact history.advance_loadPlugin_eq_error_iff.mp refused
          | loadRecords => exact history.advance_loadRecords_eq_error_iff.mp refused
          | _ => simp [Phase.successors, lastPhase?, Event.phase] at fits
      | _ =>
          cases event <;> simp_all [Phase.successors, lastPhase?, Event.phase, Stage.advance]
    · rw [Stage.advance_of_notMem_successors ended fits] at refused
      cases refused
      rw [history.lastPhase?_eq] at fits
      exact ⟨rfl, history, mt history.loaded_mem_iff.mp ended, fits⟩

/-- Whatever is wrong with an event, it is refused with that. -/
theorem advance_of_misplaced (history : History stage events)
    (misplaced : event.Misplaced events violation) : stage.advance event = .error violation := by
  cases violation with
  | afterLoaded found =>
      obtain ⟨rfl, ended⟩ := misplaced
      obtain rfl := history.loaded_mem_iff.mp ended
      cases event <;> rfl
  | pluginBurstIncomplete came count =>
      obtain ⟨rfl, loads, rfl, wrong⟩ := misplaced
      exact history.advance_loadRecords_eq_error_iff.mpr ⟨rfl, loads, rfl, wrong⟩
  | pluginCountChanged expected found =>
      obtain ⟨load, first, rest, rfl, rfl, wrong⟩ := misplaced
      exact history.advance_loadPlugin_eq_error_iff.mpr ⟨load, first, rest, rfl, rfl, wrong⟩
  | pluginIndexOutOfRange index count =>
      obtain ⟨load, loads, rfl, rfl, wrong⟩ := misplaced
      exact history.advance_loadPlugin_eq_error_iff.mpr ⟨load, loads, rfl, rfl, wrong⟩
  | pluginIndex expected found =>
      obtain ⟨load, loads, rfl, rfl, wrong⟩ := misplaced
      exact history.advance_loadPlugin_eq_error_iff.mpr ⟨load, loads, rfl, rfl, wrong⟩
  | unexpectedPhase found phase =>
      obtain ⟨rfl, same, running, strange⟩ := misplaced
      obtain rfl := history.unique same
      rw [← history.lastPhase?_eq] at strange
      exact Stage.advance_of_notMem_successors (mt history.loaded_mem_iff.mpr running) strange
  | _ => exact misplaced.elim

/-- An event is refused with what is wrong with it, and with nothing else. -/
theorem advance_eq_error_iff (history : History stage events) :
    stage.advance event = .error violation ↔ event.Misplaced events violation :=
  ⟨history.misplaced_of_advance, history.advance_of_misplaced⟩

end Stage.History

end SessionHost.Protocol
