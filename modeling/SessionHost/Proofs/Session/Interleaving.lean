import Mathlib.Data.List.Nodup
import Mathlib.Data.List.Perm.Basic
import SessionHost.Proofs.Session.Acceptance

/-!
Delivery from several threads.

Each thread delivers its notifications in order, and a delivery is over once the sink has returned,
so that what reaches an open is an `Interleaving` of the threads. Interleavings of the same threads
hold the same notifications, and `eq_of_perm_completed` says that these can be in order in one way
only. From this, `interleavings_agree`.
-/

namespace SessionHost.Protocol

/-! ### Words and their order -/

namespace CountsUp

/-- The place of a plugin in a burst can be read off it. -/
theorem index_inj {count i j : Nat} {loads : List PluginLoad} (counts : CountsUp count loads)
    (hi : i < loads.length) (hj : j < loads.length) (same : loads[i] = loads[j]) : i = j := by
  rw [← (counts i hi).1, same, (counts j hj).1]

/-- A burst announces no plugin twice. -/
theorem nodup {count : Nat} {loads : List PluginLoad} (counts : CountsUp count loads) :
    loads.Nodup :=
  List.nodup_iff_injective_get.mpr fun i j same => Fin.ext (counts.index_inj i.2 j.2 same)

/-- Bursts of the same plugins announce them in the same order. -/
theorem eq_of_perm {count count' : Nat} {loads others : List PluginLoad}
    (counts : CountsUp count loads) (counts' : CountsUp count' others)
    (perm : loads.Perm others) : loads = others := by
  refine List.ext_getElem perm.length_eq fun i hi hi' => ?_
  obtain ⟨j, hj, found⟩ := List.mem_iff_getElem.mp (perm.mem_iff.mp (List.getElem_mem hi))
  have place : j = i := by
    rw [← (counts' j hj).1, found, (counts i hi).1]
  subst place
  exact found.symm

end CountsUp

/-- The events of a whole word can be put in order in one way only. -/
theorem eq_of_perm_completed {count count' : Nat} {loads others : List PluginLoad}
    (counts : CountsUp count loads) (counts' : CountsUp count' others)
    (perm : (completed loads).Perm (completed others)) : loads = others := by
  have plugins := perm.filterMap Event.plugin?
  rw [filterMap_plugin?_completed, filterMap_plugin?_completed] at plugins
  exact counts.eq_of_perm counts' plugins

/-- No event comes twice in a whole word. -/
theorem nodup_completed {count : Nat} {loads : List PluginLoad} (counts : CountsUp count loads) :
    (completed loads).Nodup := by
  have plugins : (loads.map Event.loadPlugin).Nodup :=
    counts.nodup.map fun _ _ same => Event.loadPlugin.inj same
  simp [completed, opening, List.nodup_append, plugins]

/-- In the beginning of a whole word nothing comes after `loaded`. -/
theorem eq_nil_of_loaded_prefix {count : Nat} {loads : List PluginLoad}
    (counts : CountsUp count loads) {before after : List Event}
    (word : before ++ .loaded :: after <+: completed loads) : after = [] := by
  obtain ⟨rest, whole⟩ := word
  have last : completed loads = (opening loads ++ [.loadRecords]) ++ [.loaded] := by
    simp [completed]
  -- Were there anything more, the word would end in a second `loaded`.
  cases after with
  | nil => rfl
  | cons event after =>
      have ends : ((event :: after) ++ rest).getLast? = some .loaded := by
        have := congrArg List.getLast? whole
        rw [last] at this
        simpa using this
      have twice := nodup_completed counts
      rw [← whole, List.append_assoc, List.cons_append] at twice
      have once := (List.nodup_cons.mp (List.nodup_append.mp twice).2.1).1
      exact absurd (List.mem_of_getLast? ends) once

end SessionHost.Protocol

namespace SessionHost.Session

open Text Protocol

variable {ω ρ σ : Type}

/-! ### Interleavings -/

/-- The word takes one message after the other from the threads, from each in its order, until all
have delivered what they had. -/
inductive Interleaving {α : Type} : List (List α) → List α → Prop where
  | done {threads : List (List α)} (idle : ∀ thread ∈ threads, thread = []) :
      Interleaving threads []
  | step {before after : List (List α)} {rest word : List α} {message : α}
      (later : Interleaving (before ++ rest :: after) word) :
      Interleaving (before ++ (message :: rest) :: after) (message :: word)

/-- An interleaving has the messages of the threads, each as often as they have it. -/
theorem Interleaving.perm {α : Type} {threads : List (List α)} {word : List α}
    (interleaving : Interleaving threads word) : word.Perm threads.flatten := by
  induction interleaving with
  | done idle => rw [List.flatten_eq_nil_iff.mpr idle]
  | @step before after rest word message _ ih =>
      have moved : (before ++ (message :: rest) :: after).flatten.Perm
          (message :: (before ++ rest :: after).flatten) := by
        simp only [List.flatten_append, List.flatten_cons, List.cons_append]
        exact List.perm_middle
      exact (ih.cons message).trans moved.symm

/-! ### Opens -/

/-- What a sink gets is the beginning of a whole word. -/
theorem handed_prefix_completed (sink : Sink σ) (host : σ) (notifications : List Notification) :
    ∃ loads, CountsUp loads.length loads ∧ handed sink host notifications <+: completed loads := by
  obtain ⟨stage, history⟩ := exists_history_handed sink host notifications
  exact history.prefix_completed

/-- If a delivery ends well, its notifications stand for a whole word, which is what its sink got,
and the summary has the names in it. -/
theorem exists_of_finish_eq_ok {sink : Sink σ} (calm : sink.Calm) {host : σ}
    {notifications : List Notification} {summary : Summary}
    (opened : ((Delivery.fresh host).receiveAll sink notifications).finish = .ok summary) :
    ∃ loads, CountsUp loads.length loads ∧
      notifications.map Notification.decode = (completed loads).map .ok ∧
      handed sink host notifications = completed loads ∧
      summary = ⟨loads.map PluginLoad.name⟩ := by
  obtain ⟨plugins⟩ := summary
  obtain ⟨loads, counts, decoded, names⟩ := (finish_eq_ok_iff calm host notifications plugins).mp
    opened
  have run := Stage.advanceAll_idle_eq_ok_iff.mpr
    (Stage.history_loaded_iff.mpr ⟨loads, counts, rfl⟩)
  refine ⟨loads, counts, decoded, ?_, congrArg Summary.mk names⟩
  rw [calm.handed_eq, survey_eq_iff_accepts.mpr (accepts_iff.mpr ⟨decoded, run⟩)]

/-- With a path that is not let through the sink gets nothing. -/
theorem handedBy_of_checkPath_error {view : σ → ω} {runtime : Runtime ω ρ} {handle : Handle}
    {path : Bytes} {sink : Sink σ} {state : σ × ρ} {error : Error}
    (refused : checkPath path = .error error) :
    handedBy view runtime handle path sink state = [] := by
  simp [handedBy, openSession, refused]

/-- An open that succeeds hands a whole word to its sink, and its summary has the names in it. -/
theorem exists_completed_of_openSession {view : σ → ω} {runtime : Runtime ω ρ} {handle : Handle}
    {path : Bytes} {sink : Sink σ} (calm : sink.Calm) {state : σ × ρ} {summary : Summary}
    (opened : (openSession view runtime handle path sink state).2 = .ok summary) :
    ∃ loads, CountsUp loads.length loads ∧
      handedBy view runtime handle path sink state = completed loads ∧
      summary = ⟨loads.map PluginLoad.name⟩ := by
  cases checked : checkPath path with
  | error error =>
      rw [openSession, checked] at opened
      cases opened
  | ok path' =>
      obtain rfl := eq_of_checkPath checked
      rw [(openSession_eq checked).2] at opened
      obtain ⟨loads, counts, -, got, names⟩ := exists_of_finish_eq_ok calm opened
      exact ⟨loads, counts, (handedBy_eq checked).trans got, names⟩

/-- **The order of threads does not matter.** Let threads deliver their notifications to opens with
a sink that never panics, each thread its own in order and one notification at a time. All opens
that succeed hand the same events to the sink, in the same order, and have the same summary. No
open, whether it succeeds or not, hands over an event twice or out of the order of the protocol, or
anything after `loaded`. -/
theorem interleavings_agree (view : σ → ω) (runtime : Runtime ω ρ) (handle : Handle) (path : Bytes)
    {sink : Sink σ} (calm : sink.Calm) (threads : List (List Notification)) :
    (∀ (state other : σ × ρ) (summary summary' : Summary),
      Interleaving threads (delivered view runtime handle path sink state) →
      Interleaving threads (delivered view runtime handle path sink other) →
      (openSession view runtime handle path sink state).2 = .ok summary →
      (openSession view runtime handle path sink other).2 = .ok summary' →
      handedBy view runtime handle path sink state = handedBy view runtime handle path sink other ∧
        summary = summary') ∧
    ∀ state : σ × ρ, Interleaving threads (delivered view runtime handle path sink state) →
      let events := handedBy view runtime handle path sink state
      events.Nodup ∧
        (∃ loads, CountsUp loads.length loads ∧ events <+: completed loads) ∧
        ∀ before after, events = before ++ .loaded :: after → after = [] := by
  cases checked : checkPath path with
  | error error =>
      constructor
      · intro state _ summary _ _ _ opened
        simp [openSession, checked] at opened
      · intro state _ events
        have nothing : events = [] := handedBy_of_checkPath_error checked
        rw [nothing]
        exact ⟨List.nodup_nil, ⟨[], countsUp_nil _, List.nil_prefix⟩, by simp⟩
  | ok path' =>
      obtain rfl := eq_of_checkPath checked
      constructor
      · intro state other summary summary' one two opened opened'
        rw [(openSession_eq checked).2] at opened opened'
        obtain ⟨loads, counts, decoded, got, rfl⟩ := exists_of_finish_eq_ok calm opened
        obtain ⟨others, counts', decoded', got', rfl⟩ := exists_of_finish_eq_ok calm opened'
        have perm := (one.perm.trans two.perm.symm).map Notification.decode
        rw [decoded, decoded'] at perm
        have events : (completed loads).Perm (completed others) :=
          (List.map_perm_map_iff fun _ _ => Except.ok.inj).mp perm
        obtain rfl := eq_of_perm_completed counts counts' events
        rw [handedBy_eq checked, handedBy_eq checked, got, got']
        exact ⟨rfl, rfl⟩
      · intro state _ events
        have got : events = handed sink state.1 _ := handedBy_eq checked
        obtain ⟨loads, counts, word⟩ := handed_prefix_completed sink state.1
          (delivered view runtime handle path' sink state)
        rw [← got] at word
        refine ⟨(nodup_completed counts).sublist word.sublist, ⟨loads, counts, word⟩, ?_⟩
        intro before after split
        rw [split] at word
        exact eq_nil_of_loaded_prefix counts word

/-- Two threads take turns up to the end of a session with two plugins; in one of the opens a call
that does not count comes between theirs. In a third the first thread does not wait for the
second. -/
theorem interleavings_agree_two_threads :
    let alpha : PluginPayload := ⟨some (encode "alpha"), 5, 0, 2⟩
    let beta : PluginPayload := ⟨some (encode "beta"), 4, 1, 2⟩
    let first : List Notification := [⟨0, none⟩, ⟨2, none⟩, ⟨3, some beta⟩, ⟨5, none⟩]
    let second : List Notification := [⟨1, none⟩, ⟨3, some alpha⟩, ⟨4, none⟩]
    let turns : List Notification :=
      [⟨0, none⟩, ⟨1, none⟩, ⟨2, none⟩, ⟨3, some alpha⟩, ⟨3, some beta⟩, ⟨4, none⟩, ⟨5, none⟩]
    let sink : Sink (Journal Unit) := Journal.sink fun _ => none
    let state (plan : List StatusCall) : Journal Unit × Rehearsal := (.fresh (), ⟨[], plan⟩)
    let sent (plan : List StatusCall) := delivered Journal.around (.rehearsed ⟨[], .first⟩)
      rehearsedHandle (encode "game.toml") sink (state plan)
    let got (plan : List StatusCall) := handedBy Journal.around (.rehearsed ⟨[], .first⟩)
      rehearsedHandle (encode "game.toml") sink (state plan)
    let outcome (plan : List StatusCall) := (openSession Journal.around (.rehearsed ⟨[], .first⟩)
      rehearsedHandle (encode "game.toml") sink (state plan)).2
    let one : List StatusCall := turns.map (⟨·, true⟩)
    let two : List StatusCall := ⟨⟨9, none⟩, false⟩ :: one
    let hasty : List StatusCall := (first ++ second).map (⟨·, true⟩)
    sink.Calm ∧ Interleaving [first, second] (sent one) ∧ Interleaving [first, second] (sent two) ∧
      Interleaving [first, second] (sent hasty) ∧ outcome one = .ok ⟨["alpha", "beta"]⟩ ∧
      outcome two = .ok ⟨["alpha", "beta"]⟩ ∧ got one = got two ∧ (got hasty).Nodup := by
  intro alpha beta first second turns sink state sent got outcome one two hasty
  have admitted : checkPath (encode "game.toml") = .ok (encode "game.toml") :=
    checkPath_eq_ok_iff.mpr ⟨⟨_, decode?_encode _⟩, by decide, by decide⟩
  have calm : sink.Calm := fun _ _ => rfl
  have sentOne : sent one = turns := (delivered_rehearsed admitted).trans rfl
  have sentTwo : sent two = turns := (delivered_rehearsed admitted).trans rfl
  have sentHasty : sent hasty = first ++ second := (delivered_rehearsed admitted).trans rfl
  have inTurns {word : List Notification} (taken : word = turns) :
      Interleaving [first, second] word := by
    rw [taken]
    exact @Interleaving.step _ [] [second] _ _ _ <| @Interleaving.step _ [first.drop 1] [] _ _ _ <|
      @Interleaving.step _ [] [second.drop 1] _ _ _ <|
      @Interleaving.step _ [first.drop 2] [] _ _ _ <|
      @Interleaving.step _ [] [second.drop 2] _ _ _ <|
      @Interleaving.step _ [first.drop 3] [] _ _ _ <|
      @Interleaving.step _ [] [[]] _ _ _ <| .done (by simp)
  have atOnce : Interleaving [first, second] (sent hasty) := by
    rw [sentHasty]
    exact @Interleaving.step _ [] [second] _ _ _ <| @Interleaving.step _ [] [second] _ _ _ <|
      @Interleaving.step _ [] [second] _ _ _ <| @Interleaving.step _ [] [second] _ _ _ <|
      @Interleaving.step _ [[]] [] _ _ _ <| @Interleaving.step _ [[]] [] _ _ _ <|
      @Interleaving.step _ [[]] [] _ _ _ <| .done (by simp)
  have opened {plan : List StatusCall} (planned : sent plan = turns) :
      outcome plan = .ok ⟨["alpha", "beta"]⟩ := by
    have counts : CountsUp 2 [⟨encode "alpha", 0, 2⟩, ⟨encode "beta", 1, 2⟩] :=
      countsUp_append_singleton_iff.mpr
        ⟨countsUp_append_singleton_iff.mpr ⟨countsUp_nil 2, rfl, rfl⟩, rfl, rfl⟩
    refine (openSession_eq admitted).2.trans ?_
    refine (finish_eq_ok_iff calm _ _ _).mpr
      ⟨[⟨encode "alpha", 0, 2⟩, ⟨encode "beta", 1, 2⟩], counts, ?_, ?_⟩
    · exact (congrArg (List.map Notification.decode) planned).trans (by decide)
    · simp only [List.map_cons, List.map_nil, PluginLoad.name, lossy_encode]
  have theorems := interleavings_agree Journal.around (.rehearsed ⟨[], .first⟩) rehearsedHandle
    (encode "game.toml") calm [first, second]
  have same := theorems.1 (state one) (state two) _ _ (inTurns sentOne) (inTurns sentTwo)
    (opened sentOne) (opened sentTwo)
  have safe := theorems.2 (state hasty) atOnce
  exact ⟨calm, inTurns sentOne, inTurns sentTwo, atOnce, opened sentOne, opened sentTwo, same.1,
    safe.1⟩

end SessionHost.Session
