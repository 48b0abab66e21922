import SessionHost.Proofs.Protocol.Refusal

/-!
Bursts that are offered any loads.

`Burst.receive` is a burst that takes a load in place, and `Burst.run_receive` says that one that is
refused leaves no trace in it. `Tally` passes over the loads that are refused and keeps the others:
what it keeps is a history of the protocol (`Tally.history`), from which
`Tally.accepts_in_order` says which loads these are and what the burst then holds.
-/

namespace SessionHost.Protocol

namespace Burst

/-! ### Loads taken in place -/

/-- Takes a load into a burst that is kept in one place: what is not refused moves it on. -/
def receive (load : PluginLoad) : ExceptT Violation (StateM Burst) Unit := do
  let burst ← get
  if load.count ≠ burst.count then throw (.pluginCountChanged burst.count load.count)
  else if load.count ≤ load.index then throw (.pluginIndexOutOfRange load.index load.count)
  else if load.index ≠ burst.loaded then throw (.pluginIndex burst.loaded load.index)
  else set { burst with loaded := burst.loaded + 1 }

/-- In place there is the accepted burst afterwards, or the same burst as before. -/
theorem run_receive (burst : Burst) (load : PluginLoad) :
    (receive load).run.run burst =
      match burst.accept load with
      | .ok next => (.ok (), next)
      | .error violation => (.error violation, burst) := by
  have looked : (receive load).run.run burst =
      (if load.count ≠ burst.count then
          (throw (.pluginCountChanged burst.count load.count) :
            ExceptT Violation (StateM Burst) Unit)
        else if load.count ≤ load.index then
          throw (.pluginIndexOutOfRange load.index load.count)
        else if load.index ≠ burst.loaded then throw (.pluginIndex burst.loaded load.index)
        else set { burst with loaded := burst.loaded + 1 }).run.run burst := rfl
  rw [looked, accept]
  split
  · rfl
  split
  · rfl
  split
  · rfl
  · rfl

/-- A load that is refused leaves the burst as it was. -/
theorem eq_of_run_receive_eq_error {burst left : Burst} {load : PluginLoad} {violation : Violation}
    (refused : (receive load).run.run burst = (.error violation, left)) : left = burst := by
  rw [run_receive] at refused
  cases taken : burst.accept load with
  | ok next =>
      rw [taken] at refused
      cases congrArg Prod.fst refused
  | error _ =>
      rw [taken] at refused
      exact (congrArg Prod.snd refused).symm

/-- A complete burst takes no load, whatever its place and count. -/
theorem exists_accept_eq_error {burst : Burst} (complete : burst.isComplete = true)
    (load : PluginLoad) : ∃ violation, burst.accept load = .error violation := by
  cases taken : burst.accept load with
  | error violation => exact ⟨violation, rfl⟩
  | ok next =>
      obtain ⟨-, -, below, -⟩ := accept_eq_ok_iff.mp taken
      rw [of_decide_eq_true complete] at below
      exact absurd below (UInt64.lt_irrefl _)

/-- The stage of a session whose burst has come so far. -/
def stage : Option Burst → Stage
  | none => .creatingRuntime
  | some burst => .loadingPlugins burst

/-- An offer is what a session makes of the load. -/
theorem advance_stage (burst : Option Burst) (load : PluginLoad) :
    (stage burst).advance (.loadPlugin load) = (offer burst load).map .loadingPlugins := by
  cases burst <;> rfl

end Burst

/-! ### Loads that are passed over -/

/-- What has come of loads: the burst, if one has begun, and the loads that it took. -/
structure Tally where
  burst : Option Burst
  accepted : List PluginLoad

namespace Tally

/-- No load yet. -/
def empty : Tally := ⟨none, []⟩

/-- One more load. It may begin a burst if there is none, and is else taken in place. -/
def offer (tally : Tally) (load : PluginLoad) : Tally :=
  match tally.burst with
  | none =>
      match Burst.begin load with
      | .ok burst => ⟨some burst, tally.accepted ++ [load]⟩
      | .error _ => tally
  | some burst =>
      match (Burst.receive load).run.run burst with
      | (.ok (), next) => ⟨some next, tally.accepted ++ [load]⟩
      | (.error _, left) => ⟨some left, tally.accepted⟩

/-- Loads in a row. -/
def ofLoads (loads : List PluginLoad) : Tally := loads.foldl offer empty

theorem ofLoads_append_singleton (loads : List PluginLoad) (load : PluginLoad) :
    ofLoads (loads ++ [load]) = (ofLoads loads).offer load :=
  List.foldl_append

/-- A load that is taken is kept with the burst that it leads to, and any other changes nothing. -/
theorem offer_eq (tally : Tally) (load : PluginLoad) :
    tally.offer load =
      match Burst.offer tally.burst load with
      | .ok next => ⟨some next, tally.accepted ++ [load]⟩
      | .error _ => tally := by
  obtain ⟨burst, accepted⟩ := tally
  cases burst with
  | none => rfl
  | some burst =>
      simp only [offer, Burst.offer, Burst.run_receive]
      cases burst.accept load <;> rfl

/-- The loads that were taken have led a session to the burst. -/
theorem history (loads : List PluginLoad) :
    Stage.History (Burst.stage (ofLoads loads).burst) (opening (ofLoads loads).accepted) := by
  induction loads using List.reverseRecOn with
  | nil => exact .creatingRuntime
  | append_singleton loads load ih =>
      rw [ofLoads_append_singleton, offer_eq]
      cases offered : Burst.offer (ofLoads loads).burst load with
      | error violation => exact ih
      | ok next =>
          simp only
          rw [opening_append]
          refine ih.step (Stage.advance_eq_ok_iff.mp ?_)
          rw [Burst.advance_stage, offered]
          rfl

/-- Where no burst has begun no load was taken. -/
theorem burst_eq_none_iff (loads : List PluginLoad) :
    (ofLoads loads).burst = none ↔ (ofLoads loads).accepted = [] := by
  have led := history loads
  generalize word : opening (ofLoads loads).accepted = events at led
  cases burst : (ofLoads loads).burst with
  | none =>
      rw [burst] at led
      cases led
      exact ⟨fun _ => opening_injective word, fun _ => rfl⟩
  | some burst' =>
      rw [burst] at led
      cases led with
      | loadingPlugins nonempty _ _ _ =>
          rw [opening_injective word]
          simp [nonempty]

/-- A burst that has begun knows how many loads were taken, and these count up in it. -/
theorem counts_of_burst {loads : List PluginLoad} {burst : Burst}
    (begun : (ofLoads loads).burst = some burst) :
    CountsUp burst.count.toNat (ofLoads loads).accepted ∧
      burst.loaded.toNat = (ofLoads loads).accepted.length ∧
      (ofLoads loads).accepted.length ≤ burst.count.toNat := by
  have led := history loads
  rw [begun] at led
  generalize word : opening (ofLoads loads).accepted = events at led
  cases led with
  | loadingPlugins _ counts loaded room =>
      rw [opening_injective word]
      exact ⟨counts, loaded, room⟩

/-- A burst has the count of the first load that was taken. -/
theorem exists_first_of_burst {loads : List PluginLoad} {burst : Burst}
    (begun : (ofLoads loads).burst = some burst) :
    ∃ first rest, (ofLoads loads).accepted = first :: rest ∧ first.count = burst.count := by
  have taken : (ofLoads loads).accepted ≠ [] := by
    rw [Ne, ← burst_eq_none_iff, begun]
    exact Option.some_ne_none burst
  obtain ⟨first, rest, filled⟩ := List.exists_cons_of_ne_nil taken
  have counts := (counts_of_burst begun).1
  rw [filled] at counts
  exact ⟨first, rest, filled, UInt64.toNat_inj.mp (counts 0 (Nat.zero_lt_succ _)).2⟩

/-- Of all loads just the next one of the count is taken. -/
theorem exists_offer_eq_ok_iff (loads : List PluginLoad) (load : PluginLoad) :
    (∃ next, Burst.offer (ofLoads loads).burst load = .ok next) ↔
      load.index.toNat = (ofLoads loads).accepted.length ∧
        (ofLoads loads).accepted.length < load.count.toNat ∧
        ∀ first ∈ (ofLoads loads).accepted.head?, load.count = first.count := by
  cases begun : (ofLoads loads).burst with
  | none =>
      have none_taken := (burst_eq_none_iff loads).mp begun
      simp only [Burst.offer, Burst.begin_eq_ok_iff, exists_and_left, exists_eq, and_true,
        none_taken, List.length_nil, List.head?_nil, ← UInt64.toNat_inj, UInt64.lt_iff_toNat_lt]
      simp
  | some burst =>
      obtain ⟨-, loaded, -⟩ := counts_of_burst begun
      obtain ⟨first, rest, taken, count⟩ := exists_first_of_burst begun
      rw [← loaded, taken]
      simp only [Burst.offer, Burst.accept_eq_ok_iff, exists_and_left, exists_eq, and_true,
        List.head?_cons, Option.mem_some_iff, forall_eq', count, UInt64.lt_iff_toNat_lt,
        ← UInt64.toNat_inj]
      constructor
      · rintro ⟨same, here, below⟩
        exact ⟨here, same ▸ below, same⟩
      · rintro ⟨here, below, same⟩
        exact ⟨same, here, same ▸ below⟩

theorem accepted_sublist (loads : List PluginLoad) : (ofLoads loads).accepted.Sublist loads := by
  induction loads using List.reverseRecOn with
  | nil => exact List.Sublist.refl _
  | append_singleton loads load ih =>
      rw [ofLoads_append_singleton, offer_eq]
      cases Burst.offer (ofLoads loads).burst load with
      | error violation => exact ih.trans (List.sublist_append_left _ _)
      | ok next => exact ih.append (List.Sublist.refl _)

/-- **A burst counts exactly.** Whatever loads are offered, those that are taken have the places
zero, one, two and so on, and all have the count of the first of them. Of these a burst knows how
many they are, never more than its count. It is complete when they are as many as its count, and
then takes no load at all; one that it refuses leaves it as it was.

One more load is taken exactly if it is the next one of the same count, and the burst then knows of
one more: its number has room for that. Any other load changes nothing. -/
theorem accepts_in_order (loads : List PluginLoad) :
    let tally := ofLoads loads
    let taken := tally.accepted.length
    tally.accepted.Sublist loads ∧
      (tally.burst = none ↔ tally.accepted = []) ∧
      (∀ burst, tally.burst = some burst →
        CountsUp burst.count.toNat tally.accepted ∧
        tally.accepted.head?.map (·.count) = some burst.count ∧
        burst.loaded.toNat = taken ∧ 1 ≤ taken ∧ taken ≤ burst.count.toNat ∧
        (burst.isComplete = true ↔ taken = burst.count.toNat) ∧
        (burst.isComplete = true → ∀ load, ∃ violation,
          (Burst.receive load).run.run burst = (.error violation, burst)) ∧
        ∀ load violation left,
          (Burst.receive load).run.run burst = (.error violation, left) → left = burst) ∧
      ∀ load,
        ((∃ next, Burst.offer tally.burst load = .ok next) ↔
          load.index.toNat = taken ∧ taken < load.count.toNat ∧
            ∀ first ∈ tally.accepted.head?, load.count = first.count) ∧
        (∀ next, Burst.offer tally.burst load = .ok next →
          ofLoads (loads ++ [load]) = ⟨some next, tally.accepted ++ [load]⟩ ∧
            next.loaded.toNat = taken + 1) ∧
        ∀ violation, Burst.offer tally.burst load = .error violation →
          ofLoads (loads ++ [load]) = tally := by
  intro tally taken
  refine ⟨accepted_sublist loads, burst_eq_none_iff loads, fun burst begun => ?_,
    fun load => ⟨exists_offer_eq_ok_iff loads load, fun next offered => ?_,
      fun violation refused => ?_⟩⟩
  · obtain ⟨counts, loaded, room⟩ := counts_of_burst begun
    obtain ⟨first, rest, filled, count⟩ := exists_first_of_burst begun
    refine ⟨counts, ?_, loaded, ?_, room, ?_, fun complete load => ?_,
      fun load violation left refused => ?_⟩
    · rw [filled, List.head?_cons, Option.map_some, count]
    · exact List.length_pos_iff.mpr (filled ▸ List.cons_ne_nil first rest)
    · rw [Burst.isComplete, decide_eq_true_eq, ← UInt64.toNat_inj, loaded]
    · obtain ⟨violation, refused⟩ := Burst.exists_accept_eq_error complete load
      exact ⟨violation, by rw [Burst.run_receive, refused]⟩
    · exact Burst.eq_of_run_receive_eq_error refused
  · have more : ofLoads (loads ++ [load]) = ⟨some next, tally.accepted ++ [load]⟩ := by
      rw [ofLoads_append_singleton, offer_eq, offered]
    have begun : (ofLoads (loads ++ [load])).burst = some next := by rw [more]
    refine ⟨more, ?_⟩
    rw [(counts_of_burst begun).2.1, more, List.length_append, List.length_singleton]
  · rw [ofLoads_append_singleton, offer_eq, refused]

example :
    let load (index count : UInt64) : PluginLoad := ⟨[], index, count⟩
    let offered := [load 1 2, load 0 0, load 0 2, load 0 2, load 1 3, load 1 2, load 2 2]
    (ofLoads offered).accepted = [load 0 2, load 1 2] ∧ (ofLoads offered).burst = some ⟨2, 2⟩ := by
  decide

end Tally

end SessionHost.Protocol
