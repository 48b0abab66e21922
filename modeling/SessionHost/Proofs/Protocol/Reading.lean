import SessionHost.Proofs.Protocol.Refusal

/-!
What is read of a notification.

`PluginPayload.decode_withMemory_congr` says how much of the memory behind a name is looked at, and
`Notification.decode_of_code_ne` when the payload is not. `Notification.decode_ofEvent_iff` says
which events come back from their notifications. `Notification.decode_reads_claimed` joins these
with the order in which a plugin's payload is checked.
-/

namespace SessionHost.Protocol

namespace PluginPayload

/-- The payload with this memory behind its name. A null name has none behind it. -/
def withMemory (payload : PluginPayload) (memory : Bytes) : PluginPayload :=
  { payload with name := payload.name.map fun _ => memory }

/-- Of the memory behind a name as many bytes are looked at as the length says, and none at all if
the name is null or no run of bytes can have the length. -/
theorem decode_withMemory_congr (payload : PluginPayload) {memory other : Bytes}
    (agree : (∀ i < payload.length.toNat, memory[i]? = other[i]?) ∨ payload.name = none ∨
      longestRun < payload.length.toNat) :
    (payload.withMemory memory).decode = (payload.withMemory other).decode := by
  cases present : payload.name with
  | none => simp only [withMemory, present, Option.map_none]
  | some old =>
      simp only [decode, withMemory, present, Option.map_some]
      by_cases long : longestRun < payload.length.toNat
      · simp only [if_pos long]
      · have same : ∀ i < payload.length.toNat, memory[i]? = other[i]? :=
          agree.resolve_right (by simp [present, long])
        have read : memory.take payload.length.toNat = other.take payload.length.toNat := by
          apply List.ext_getElem?
          intro i
          rw [List.getElem?_take, List.getElem?_take]
          split
          · rename_i inside
            exact same i inside
          · rfl
        rw [read]

theorem Readable.length_le {payload : PluginPayload} (readable : payload.Readable) :
    payload.length.toNat ≤ longestRun := by
  rcases readable with empty | ⟨-, short⟩
  · rw [empty]
    exact Nat.zero_le _
  · exact short

/-- The bytes of a readable name are read whole, whatever they are and whatever follows them. -/
theorem decode_of_name_eq_append {payload : PluginPayload} {name rest : Bytes}
    (present : payload.name = some (name ++ rest)) (size : name.length = payload.length.toNat)
    (short : payload.length.toNat ≤ longestRun) :
    payload.decode = .ok ⟨name, payload.index, payload.count⟩ := by
  have readable : payload.Readable := Or.inr ⟨by simp [present], short⟩
  refine decode_eq_ok_iff.mpr ⟨readable, ?_⟩
  simp only [load, nameBytes, present, Option.getD_some, ← size, List.take_left]

end PluginPayload

namespace Notification

/-- With the code of another phase, or of none, nothing is looked at but the code. -/
theorem decode_of_code_ne {code : UInt32} (plain : code ≠ Phase.loadPlugin.code)
    (payload other : Option PluginPayload) :
    decode ⟨code, payload⟩ = decode ⟨code, other⟩ := by
  unfold decode
  cases known : Phase.ofCode? code with
  | none => rfl
  | some phase =>
      cases phase with
      | loadPlugin => exact absurd (Phase.ofCode?_eq_some_iff.mp known).symm plain
      | _ => rfl

theorem decode_loadPlugin (payload : PluginPayload) :
    decode ⟨Phase.loadPlugin.code, some payload⟩ = payload.decode.map .loadPlugin := by
  simp only [decode, Phase.ofCode?_code]

theorem decode_loadPlugin_eq_error_iff {payload : PluginPayload} {violation : Violation} :
    decode ⟨Phase.loadPlugin.code, some payload⟩ = .error violation ↔
      payload.Unreadable violation := by
  rw [decode_loadPlugin, ← PluginPayload.decode_eq_error_iff]
  cases payload.decode <;> simp [Except.map]

/-- An event comes back from its notification exactly if memory can hold the name. The length of a
longer name does not fit into the payload, or is refused. -/
theorem decode_ofEvent_iff {event : Event} :
    (ofEvent event).decode = .ok event ↔
      ∀ load, event = .loadPlugin load → load.nameBytes.length ≤ longestRun := by
  refine ⟨?_, decode_ofEvent⟩
  rintro returned load rfl
  obtain ⟨payload, sent, readable, same⟩ := decode_eq_ok_loadPlugin_iff.mp returned
  obtain rfl : payload = ⟨some load.nameBytes, load.nameBytes.length.toUInt64, load.index,
    load.count⟩ := (Option.some.inj (congrArg Notification.payload sent)).symm
  have read : load.nameBytes.length
      = min load.nameBytes.length.toUInt64.toNat load.nameBytes.length := by
    rw [← List.length_take]
    exact congrArg (fun load => load.nameBytes.length) same
  calc load.nameBytes.length
      ≤ load.nameBytes.length.toUInt64.toNat := by omega
    _ ≤ longestRun := readable.length_le

/-- **Decoding reads what is claimed.** Of the memory behind a name nothing counts but its first
bytes, as many as the length says, and nothing at all if the name is null or the length more than a
run of bytes can have: memories that agree so far are decoded alike, whatever the code. With a code
that is not that of a plugin the payload does not count either.

For a plugin the payload must be there. A length of zero is an empty name, wherever it points. Any
other length is refused with a null name, and then if it is too great; else the name is exactly that
many bytes, whatever they are and whatever follows them, and the index and the count are as sent.

An event comes back from the notification written for it, exactly if memory can hold the name. -/
theorem decode_reads_claimed :
    (∀ (code : UInt32) (payload : PluginPayload) (memory other : Bytes),
      (∀ i < payload.length.toNat, memory[i]? = other[i]?) ∨ payload.name = none ∨
          longestRun < payload.length.toNat →
        decode ⟨code, some (payload.withMemory memory)⟩
          = decode ⟨code, some (payload.withMemory other)⟩) ∧
      (∀ code, code ≠ Phase.loadPlugin.code → ∀ payload other : Option PluginPayload,
        decode ⟨code, payload⟩ = decode ⟨code, other⟩) ∧
      (∀ payload : Option PluginPayload,
        decode ⟨Phase.loadPlugin.code, payload⟩ = .error .missingPayload ↔ payload = none) ∧
      (∀ payload : PluginPayload,
        let read := decode ⟨Phase.loadPlugin.code, some payload⟩
        (payload.length = 0 → read = .ok (.loadPlugin ⟨[], payload.index, payload.count⟩)) ∧
        (payload.length ≠ 0 →
          (∀ length, read = .error (.nullPluginName length) ↔
            payload.name = none ∧ length = payload.length) ∧
          (∀ length, read = .error (.pluginNameTooLong length) ↔
            payload.name ≠ none ∧ longestRun < payload.length.toNat ∧
              length = payload.length) ∧
          ∀ name rest, payload.name = some (name ++ rest) →
            name.length = payload.length.toNat → payload.length.toNat ≤ longestRun →
              read = .ok (.loadPlugin ⟨name, payload.index, payload.count⟩))) ∧
      ∀ event, (ofEvent event).decode = .ok event ↔
        ∀ load, event = .loadPlugin load → load.nameBytes.length ≤ longestRun := by
  refine ⟨?alike, fun code plain => decode_of_code_ne plain, ?missing, fun payload =>
    ⟨?empty, fun nonzero => ⟨?null, ?tooLong, ?whole⟩⟩, fun event => decode_ofEvent_iff⟩
  case alike =>
    intro code payload memory other agree
    simp only [decode, payload.decode_withMemory_congr agree]
  case missing =>
    intro payload
    exact decode_eq_error_iff.trans ⟨And.right, fun absent => ⟨rfl, absent⟩⟩
  case empty =>
    intro empty
    rw [decode_loadPlugin, PluginPayload.decode, if_pos empty]
    rfl
  case null =>
    intro length
    rw [decode_loadPlugin_eq_error_iff]
    constructor
    · rintro ⟨rfl, -, null⟩
      exact ⟨null, rfl⟩
    · rintro ⟨null, rfl⟩
      exact ⟨rfl, nonzero, null⟩
  case tooLong =>
    intro length
    rw [decode_loadPlugin_eq_error_iff]
    constructor
    · rintro ⟨rfl, present, long⟩
      exact ⟨Option.isSome_iff_ne_none.mp present, long, rfl⟩
    · rintro ⟨present, long, rfl⟩
      exact ⟨rfl, Option.isSome_iff_ne_none.mpr present, long⟩
  case whole =>
    intro name rest present size short
    rw [decode_loadPlugin, PluginPayload.decode_of_name_eq_append present size short]
    rfl

/-- A name with a NUL in it, followed in memory by one more byte and then by nothing, and a length
that no run of bytes has. -/
theorem decode_reads_claimed_inner_nul :
    let name : Bytes := [0x61, 0x00, 0x62]
    let payload : PluginPayload := ⟨some (name ++ [0x63]), 3, 0, 2⟩
    let endless : PluginPayload := { payload with length := 0x8000000000000000 }
    (∀ i < payload.length.toNat, (name ++ [0x63])[i]? = name[i]?) ∧
      decode ⟨3, some (payload.withMemory (name ++ [0x63]))⟩
        = decode ⟨3, some (payload.withMemory name)⟩ ∧
      decode ⟨3, some payload⟩ = .ok (.loadPlugin ⟨name, 0, 2⟩) ∧
      longestRun < endless.length.toNat ∧
      decode ⟨3, some (endless.withMemory name)⟩ = decode ⟨3, some (endless.withMemory [])⟩ ∧
      decode ⟨3, some endless⟩ = .error (.pluginNameTooLong 0x8000000000000000) := by
  intro name payload endless
  have agree : ∀ i < payload.length.toNat, (name ++ [0x63])[i]? = name[i]? := by decide
  have long : longestRun < endless.length.toNat := by decide
  obtain ⟨alike, -, -, read, -⟩ := decode_reads_claimed
  refine ⟨agree, alike 3 payload _ _ (Or.inl agree), ?_, long,
    alike 3 endless _ _ (Or.inr (Or.inr long)), ?_⟩
  · exact ((read payload).2 (by decide)).2.2 name [0x63] rfl rfl (by decide)
  · exact (((read endless).2 (by decide)).2.1 _).mpr ⟨by decide, long, rfl⟩

end Notification

end SessionHost.Protocol
