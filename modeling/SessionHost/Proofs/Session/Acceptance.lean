import SessionHost.Proofs.Protocol.Decoding
import SessionHost.Proofs.Session.Sent
import SessionHost.Proofs.Text.Utf8
import SessionHost.Session.Attempts

/-!
Which notifications open a session.

`ReportsOpening` spells out, on raw notifications, the report of a whole opening.
`openSession_eq_ok_iff` says that an open succeeds on exactly these reports, with the names that
they carry.
-/

namespace SessionHost.Session

open Text Protocol

variable {ω ρ σ : Type}

/-! ### Whole words -/

/-- With a sink that never panics, a delivery ends well exactly when its notifications stand for
the events of an opened session. -/
theorem finish_eq_ok_iff {sink : Sink σ} (calm : sink.Calm) (host : σ)
    (notifications : List Notification) (plugins : List String) :
    ((Delivery.fresh host).receiveAll sink notifications).finish = .ok ⟨plugins⟩ ↔
      ∃ loads, CountsUp loads.length loads ∧
        notifications.map Notification.decode = (completed loads).map .ok ∧
        plugins = loads.map PluginLoad.name := by
  rw [Delivery.finish_receiveAll, calm.feed_eq]
  constructor
  · intro opened
    cases refusal : (survey .idle notifications).refusal with
    | some violation => simp [refusal] at opened
    | none =>
        cases final : (survey .idle notifications).stage.isFinal with
        | false => simp [refusal, final] at opened
        | true =>
            have stage : (survey .idle notifications).stage = .loaded := by
              simpa [Stage.isFinal] using final
            have accepts : Accepts .idle notifications (survey .idle notifications).events
                .loaded := by
              rw [← survey_eq_iff_accepts, ← stage, ← refusal]
            obtain ⟨decoded, run⟩ := accepts_iff.mp accepts
            obtain ⟨loads, counts, word⟩ :=
              Stage.history_loaded_iff.mp (Stage.advanceAll_idle_eq_ok_iff.mp run)
            simp only [refusal, final, if_true, Outcome.ok.injEq, Summary.mk.injEq] at opened
            refine ⟨loads, counts, word ▸ decoded, ?_⟩
            rw [← opened, word, pluginNames_completed]
  · rintro ⟨loads, counts, decoded, rfl⟩
    have run := Stage.advanceAll_idle_eq_ok_iff.mpr
      (Stage.history_loaded_iff.mpr ⟨loads, counts, rfl⟩)
    rw [survey_eq_iff_accepts.mpr (accepts_iff.mpr ⟨decoded, run⟩)]
    simp [Stage.isFinal, pluginNames_completed]

/-! ### Reports -/

/-- The notification that carries the payload of a plugin. -/
def pluginNotification (payload : PluginPayload) : Notification :=
  ⟨Phase.loadPlugin.code, some payload⟩

/-- The notifications report an opening with the plugins of the payloads: settings, profile,
runtime, one notification for each payload, records, loaded, and nothing else. The payloads can be
read, their places run up from zero, and each carries their number. -/
def ReportsOpening (notifications : List Notification) (payloads : List PluginPayload) : Prop :=
  (∃ p₀ p₁ p₂ p₃ p₄ : Option PluginPayload,
    notifications =
      [⟨Phase.loadSettings.code, p₀⟩, ⟨Phase.loadProfile.code, p₁⟩, ⟨Phase.createRuntime.code, p₂⟩]
        ++ payloads.map pluginNotification
        ++ [⟨Phase.loadRecords.code, p₃⟩, ⟨Phase.loaded.code, p₄⟩]) ∧
  ∀ i, (h : i < payloads.length) →
    payloads[i].Readable ∧ payloads[i].index.toNat = i ∧
      payloads[i].count.toNat = payloads.length

/-- The notifications that stand for plugins are those of readable payloads. -/
theorem map_decode_eq_loadPlugins_iff {notifications : List Notification}
    {loads : List PluginLoad} :
    notifications.map Notification.decode = (loads.map Event.loadPlugin).map .ok ↔
      ∃ payloads : List PluginPayload, notifications = payloads.map pluginNotification ∧
        (∀ payload ∈ payloads, payload.Readable) ∧ loads = payloads.map PluginPayload.load := by
  constructor
  · intro decoded
    induction loads generalizing notifications with
    | nil =>
        rw [List.map_nil, List.map_nil, List.map_eq_nil_iff] at decoded
        exact ⟨[], decoded, by simp, rfl⟩
    | cons load loads ih =>
        obtain ⟨notification, rest, rfl, first, later⟩ := List.map_eq_cons_iff.mp decoded
        obtain ⟨payload, rfl, readable, rfl⟩ :=
          Notification.decode_eq_ok_loadPlugin_iff.mp first
        obtain ⟨payloads, rfl, all, rfl⟩ := ih later
        exact ⟨payload :: payloads, rfl, List.forall_mem_cons.mpr ⟨readable, all⟩, rfl⟩
  · rintro ⟨payloads, rfl, readable, rfl⟩
    rw [List.map_map, List.map_map, List.map_map]
    apply List.map_congr_left
    intro payload member
    exact Notification.decode_eq_ok_loadPlugin_iff.mpr ⟨payload, rfl, readable payload member, rfl⟩

/-- The notifications that stand for the events of an opened session are a report without the
numbers. -/
theorem map_decode_eq_completed_iff {notifications : List Notification}
    {loads : List PluginLoad} :
    notifications.map Notification.decode = (completed loads).map .ok ↔
      ∃ (p₀ p₁ p₂ p₃ p₄ : Option PluginPayload) (payloads : List PluginPayload),
        notifications =
          [⟨Phase.loadSettings.code, p₀⟩, ⟨Phase.loadProfile.code, p₁⟩,
              ⟨Phase.createRuntime.code, p₂⟩]
            ++ payloads.map pluginNotification
            ++ [⟨Phase.loadRecords.code, p₃⟩, ⟨Phase.loaded.code, p₄⟩] ∧
        (∀ payload ∈ payloads, payload.Readable) ∧ loads = payloads.map PluginPayload.load := by
  have plain {notification : Notification} {event : Event} (other : event.phase ≠ .loadPlugin) :=
    @Notification.decode_eq_ok_of_phase_ne notification event other
  have word : completed loads = .loadSettings :: .loadProfile :: .createRuntime ::
      (loads.map .loadPlugin ++ [.loadRecords, .loaded]) := by
    simp [completed, opening]
  rw [word]
  constructor
  · intro decoded
    obtain ⟨_, _, rfl, settings, decoded₁⟩ := List.map_eq_cons_iff.mp decoded
    obtain ⟨_, _, rfl, profile, decoded₂⟩ := List.map_eq_cons_iff.mp decoded₁
    obtain ⟨_, _, rfl, create, decoded₃⟩ := List.map_eq_cons_iff.mp decoded₂
    rw [List.map_append] at decoded₃
    obtain ⟨_, _, rfl, plugins, decoded₄⟩ := List.map_eq_append_iff.mp decoded₃
    obtain ⟨_, _, rfl, records, decoded₅⟩ := List.map_eq_cons_iff.mp decoded₄
    obtain ⟨_, _, rfl, loaded, decoded₆⟩ := List.map_eq_cons_iff.mp decoded₅
    obtain ⟨p₀, rfl⟩ := (plain (by decide)).mp settings
    obtain ⟨p₁, rfl⟩ := (plain (by decide)).mp profile
    obtain ⟨p₂, rfl⟩ := (plain (by decide)).mp create
    obtain ⟨p₃, rfl⟩ := (plain (by decide)).mp records
    obtain ⟨p₄, rfl⟩ := (plain (by decide)).mp loaded
    obtain ⟨payloads, rfl, readable, rfl⟩ := map_decode_eq_loadPlugins_iff.mp plugins
    rw [List.map_nil, List.map_eq_nil_iff] at decoded₆
    subst decoded₆
    exact ⟨p₀, p₁, p₂, p₃, p₄, payloads, rfl, readable, rfl⟩
  · rintro ⟨p₀, p₁, p₂, p₃, p₄, payloads, rfl, readable, rfl⟩
    have plugins := map_decode_eq_loadPlugins_iff.mpr ⟨payloads, rfl, readable, rfl⟩
    rw [List.map_append, List.map_append, plugins]
    simp only [List.map_cons, List.map_append, List.map_nil]
    rfl

/-- A report stands for the events of an opened session, and only a report does. -/
theorem exists_completed_iff_reportsOpening {notifications : List Notification}
    {plugins : List String} :
    (∃ loads, CountsUp loads.length loads ∧
        notifications.map Notification.decode = (completed loads).map .ok ∧
        plugins = loads.map PluginLoad.name) ↔
      ∃ payloads, ReportsOpening notifications payloads ∧
        plugins = payloads.map fun payload => lossy payload.nameBytes := by
  constructor
  · rintro ⟨loads, counts, decoded, rfl⟩
    obtain ⟨p₀, p₁, p₂, p₃, p₄, payloads, rfl, readable, rfl⟩ :=
      map_decode_eq_completed_iff.mp decoded
    refine ⟨payloads, ⟨⟨p₀, p₁, p₂, p₃, p₄, rfl⟩, fun i inside => ?_⟩, ?_⟩
    · have number := counts i (by simpa using inside)
      simp only [List.getElem_map, PluginPayload.load, List.length_map] at number
      exact ⟨readable _ (List.getElem_mem inside), number⟩
    · rw [List.map_map]
      rfl
  · rintro ⟨payloads, ⟨⟨p₀, p₁, p₂, p₃, p₄, rfl⟩, numbered⟩, rfl⟩
    have readable : ∀ payload ∈ payloads, payload.Readable := by
      intro payload member
      obtain ⟨i, inside, rfl⟩ := List.mem_iff_getElem.mp member
      exact (numbered i inside).1
    refine ⟨payloads.map PluginPayload.load, fun i inside => ?_,
      map_decode_eq_completed_iff.mpr ⟨p₀, p₁, p₂, p₃, p₄, payloads, rfl, readable, rfl⟩, ?_⟩
    · simp only [List.getElem_map, PluginPayload.load, List.length_map]
      exact (numbered i (by simpa using inside)).2
    · rw [List.map_map]
      rfl

/-- **An open succeeds on exactly the reports of an opening.** Let a runtime deliver a list of
notifications, in whatever way it comes to them, to an open whose sink never panics. The open
succeeds if and only if the whole list is the report of an opening, and then its plugins are the
names in the report, in order. -/
theorem openSession_eq_ok_iff (view : σ → ω) (runtime : Runtime ω ρ) (handle : Handle)
    (path : Bytes) {sink : Sink σ} (calm : sink.Calm) (state : σ × ρ)
    (notifications : List Notification)
    (sent : delivered view runtime handle path sink state = notifications)
    (plugins : List String) :
    (openSession view runtime handle path sink state).2 = .ok ⟨plugins⟩ ↔
      ∃ payloads, ReportsOpening notifications payloads ∧
        plugins = payloads.map fun payload => lossy payload.nameBytes := by
  subst sent
  rw [← exists_completed_iff_reportsOpening]
  cases checked : checkPath path with
  | error error =>
      rw [delivered_of_checkPath_error checked]
      simp [openSession, checked, completed]
  | ok admitted =>
      obtain rfl := eq_of_checkPath checked
      rw [(openSession_eq checked).2, finish_eq_ok_iff calm]

/-- A runtime sends a call that does not count and then the report of two plugins, the first with
more memory behind its name than the length says. -/
theorem openSession_ok_two_plugins :
    let alpha : PluginPayload := ⟨some (encode "alphaGARBAGE"), 5, 0, 2⟩
    let beta : PluginPayload := ⟨some (encode "beta"), 4, 1, 2⟩
    let report : List Notification :=
      [⟨0, none⟩, ⟨1, none⟩, ⟨2, none⟩, ⟨3, some alpha⟩, ⟨3, some beta⟩, ⟨4, none⟩, ⟨5, none⟩]
    let plan : List StatusCall := ⟨⟨9, none⟩, false⟩ :: report.map (⟨·, true⟩)
    let sink : Sink (Journal Unit) := Journal.sink fun _ => none
    let state : Journal Unit × Rehearsal := (.fresh (), ⟨[], plan⟩)
    sink.Calm ∧
      delivered Journal.around (.rehearsed ⟨[], .first⟩) rehearsedHandle (encode "game.toml") sink
        state = report ∧
      (openSession Journal.around (.rehearsed ⟨[], .first⟩) rehearsedHandle (encode "game.toml")
        sink state).2 = .ok ⟨["alpha", "beta"]⟩ := by
  intro alpha beta report plan sink state
  have calm : sink.Calm := fun _ _ => rfl
  have admitted : checkPath (encode "game.toml") = .ok (encode "game.toml") :=
    checkPath_eq_ok_iff.mpr ⟨⟨_, decode?_encode _⟩, by decide, by decide⟩
  have sent : delivered Journal.around (.rehearsed ⟨[], .first⟩) rehearsedHandle
      (encode "game.toml") sink state = report := (delivered_rehearsed admitted).trans rfl
  have names : ["alpha", "beta"] = [alpha, beta].map fun payload => lossy payload.nameBytes := by
    have first : alpha.nameBytes = encode "alpha" := by decide
    have second : beta.nameBytes = encode "beta" := by decide
    rw [List.map_cons, List.map_cons, List.map_nil, first, second, lossy_encode, lossy_encode]
  have reports : ReportsOpening report [alpha, beta] :=
    ⟨⟨none, none, none, none, none, rfl⟩, by decide⟩
  exact ⟨calm, sent, (openSession_eq_ok_iff Journal.around (.rehearsed ⟨[], .first⟩) rehearsedHandle
    (encode "game.toml") calm state report sent ["alpha", "beta"]).mpr
      ⟨[alpha, beta], reports, names⟩⟩

end SessionHost.Session
