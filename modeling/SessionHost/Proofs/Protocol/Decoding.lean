import SessionHost.Protocol.Notification

/-!
What a notification stands for.

`PluginPayload.Readable` says which payloads describe a plugin and `PluginPayload.load` which one.
`Notification.decode_eq_ok_iff` gives the notifications of each event, and
`Notification.decode_ofEvent` says that an event comes back from the notification written for it.
-/

namespace SessionHost.Protocol

namespace PluginPayload

/-- The payload describes a plugin: its name is empty, or there is memory behind it and the length
is one that a run of bytes can have. -/
def Readable (payload : PluginPayload) : Prop :=
  payload.length = 0 ∨ (payload.name.isSome ∧ payload.length.toNat ≤ longestRun)

instance (payload : PluginPayload) : Decidable payload.Readable := by
  unfold Readable; infer_instance

/-- The bytes of the name: of the memory behind it, as many as the length says. -/
def nameBytes (payload : PluginPayload) : Bytes :=
  (payload.name.getD []).take payload.length.toNat

/-- The plugin that a readable payload describes. -/
def load (payload : PluginPayload) : PluginLoad :=
  ⟨payload.nameBytes, payload.index, payload.count⟩

/-- Exactly the readable payloads are decoded. -/
theorem decode_eq_ok_iff {payload : PluginPayload} {load : PluginLoad} :
    payload.decode = .ok load ↔ payload.Readable ∧ load = payload.load := by
  unfold decode
  split
  · rename_i empty
    have readable : payload.Readable := Or.inl empty
    simp only [Except.ok.injEq, readable, true_and, PluginPayload.load, nameBytes, empty,
      UInt64.toNat_zero, List.take_zero]
    exact eq_comm
  · rename_i some
    split
    · rename_i null
      simp [Readable, some, null]
    · rename_i memory present
      split
      · rename_i long
        have unreadable : ¬ payload.Readable := by
          rintro (empty | ⟨-, short⟩)
          · exact some empty
          · exact absurd long (Nat.not_lt.mpr short)
        simp [unreadable]
      · rename_i short
        have readable : payload.Readable := Or.inr ⟨by simp [present], Nat.le_of_not_lt short⟩
        simp only [Except.ok.injEq, readable, true_and, PluginPayload.load, nameBytes, present,
          Option.getD_some]
        exact eq_comm

end PluginPayload

theorem Event.eq_loadPlugin_of_phase {event : Event} (phase : event.phase = .loadPlugin) :
    ∃ load, event = .loadPlugin load := by
  cases event with
  | loadPlugin load => exact ⟨load, rfl⟩
  | _ => cases phase

namespace Notification

/-- A notification stands for the event whose code it carries; for a plugin it must carry a
readable payload too. -/
theorem decode_eq_ok_iff {notification : Notification} {event : Event} :
    notification.decode = .ok event ↔
      notification.code = event.phase.code ∧
        ∀ load, event = .loadPlugin load →
          ∃ payload, notification.payload = some payload ∧ payload.decode = .ok load := by
  unfold decode
  split
  · rename_i unknown
    simp only [reduceCtorEq, false_iff]
    rintro ⟨known, -⟩
    rw [known, Phase.ofCode?_code] at unknown
    cases unknown
  case h_5 plugin =>
    constructor
    · intro decoded
      split at decoded
      · cases decoded
      · rename_i payload present
        cases read : payload.decode with
        | error violation => simp [read, Except.map] at decoded
        | ok load =>
            simp only [read, Except.map, Except.ok.injEq] at decoded
            subst decoded
            refine ⟨(Phase.ofCode?_eq_some_iff.mp plugin).symm, ?_⟩
            rintro _ ⟨rfl⟩
            exact ⟨payload, present, read⟩
    · rintro ⟨code, described⟩
      rw [code, Phase.ofCode?_code] at plugin
      obtain ⟨load, rfl⟩ := Event.eq_loadPlugin_of_phase (Option.some.inj plugin)
      obtain ⟨payload, present, read⟩ := described load rfl
      simp [present, read, Except.map]
  all_goals
    rename_i phase
    rw [Phase.ofCode?_eq_some_iff] at phase
    rw [← phase]
    cases event <;> simp [Event.phase, Phase.code]

/-- The notifications that stand for an event without payload are those with its code. -/
theorem decode_eq_ok_of_phase_ne {notification : Notification} {event : Event}
    (other : event.phase ≠ .loadPlugin) :
    notification.decode = .ok event ↔ ∃ payload, notification = ⟨event.phase.code, payload⟩ := by
  rw [decode_eq_ok_iff]
  constructor
  · rintro ⟨code, -⟩
    exact ⟨notification.payload, by rw [← code]⟩
  · rintro ⟨payload, rfl⟩
    refine ⟨rfl, ?_⟩
    rintro load rfl
    exact absurd rfl other

/-- The notifications that stand for a plugin carry a payload that describes it. -/
theorem decode_eq_ok_loadPlugin_iff {notification : Notification} {load : PluginLoad} :
    notification.decode = .ok (.loadPlugin load) ↔
      ∃ payload : PluginPayload, notification = ⟨Phase.loadPlugin.code, some payload⟩ ∧
        payload.Readable ∧ load = payload.load := by
  rw [decode_eq_ok_iff]
  constructor
  · rintro ⟨code, described⟩
    obtain ⟨payload, present, read⟩ := described load rfl
    refine ⟨payload, ?_, PluginPayload.decode_eq_ok_iff.mp read⟩
    rw [← present]
    cases notification
    exact congrArg (Notification.mk · _) code
  · rintro ⟨payload, rfl, read⟩
    refine ⟨rfl, ?_⟩
    rintro _ ⟨rfl⟩
    exact ⟨payload, rfl, PluginPayload.decode_eq_ok_iff.mpr read⟩

/-- An event comes back from its notification, the bytes of a plugin's name included, if the name
is one that memory can hold. -/
theorem decode_ofEvent {event : Event}
    (fits : ∀ load, event = .loadPlugin load → load.nameBytes.length ≤ longestRun) :
    (ofEvent event).decode = .ok event := by
  rw [decode_eq_ok_iff]
  refine ⟨rfl, ?_⟩
  rintro load rfl
  have room : load.nameBytes.length < 2 ^ 64 :=
    Nat.lt_of_le_of_lt (fits load rfl) (by decide)
  have length : (load.nameBytes.length.toUInt64).toNat = load.nameBytes.length := by
    simpa using Nat.mod_eq_of_lt room
  refine ⟨⟨some load.nameBytes, load.nameBytes.length.toUInt64, load.index, load.count⟩, rfl, ?_⟩
  rw [PluginPayload.decode_eq_ok_iff]
  refine ⟨Or.inr ⟨rfl, ?_⟩, ?_⟩
  · rw [length]
    exact fits load rfl
  · simp only [PluginPayload.load, PluginPayload.nameBytes, Option.getD_some, length,
      List.take_length]

end Notification

end SessionHost.Protocol
