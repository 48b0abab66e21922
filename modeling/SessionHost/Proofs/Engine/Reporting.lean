import SessionHost.Engine.EntryPoints
import SessionHost.Proofs.Engine.Course
import SessionHost.Proofs.Protocol.Decoding
import SessionHost.Proofs.Session.Sent
import SessionHost.Proofs.Text.Utf8

/-!
What a host makes of the engine's reports.

The engine sends the events of a course as notifications (`delivered_runtime`), and a host reads the
same events off them and ends as the course says (`Course.delivery`).
-/

namespace SessionHost.Engine

open Text Protocol Session

variable {σ : Type}

/-! ### Courses as a host sees them -/

/-- Memory can hold the entries: a word can count them, and no name is longer than a run of bytes
can be. -/
def InMemory (entries : List PluginEntry) : Prop :=
  entries.length < UInt64.size ∧ ∀ entry ∈ entries, (encode entry.name).length ≤ longestRun

/-- How an open with this course ends for the host. -/
def Course.outcome : Course → Outcome Session.Error Summary
  | noProfile _ => .failed (.incomplete (some .loadProfile))
  | noPlugins _ => .failed (.incomplete (some .createRuntime))
  | opened entries => .ok ⟨entries.map (·.name)⟩

/-- The stage that the events of a course lead to. -/
def Course.stage : Course → Stage
  | noProfile _ => .loadingProfile
  | noPlugins _ => .creatingRuntime
  | opened _ => .loaded

/-- The name in an announcement is that of an entry. -/
theorem exists_of_mem_announced {entries : List PluginEntry} {load : PluginLoad}
    (member : load ∈ announced entries) :
    ∃ entry ∈ entries, load.nameBytes = encode entry.name := by
  obtain ⟨⟨entry, place⟩, inside, rfl⟩ := List.mem_map.mp member
  exact ⟨entry, List.fst_mem_of_mem_zipIdx inside, rfl⟩

/-- The plugins that a host hears of are the entries. -/
theorem map_name_announced (entries : List PluginEntry) :
    (announced entries).map PluginLoad.name = entries.map (·.name) := by
  have place : (announced entries).map PluginLoad.name
      = entries.zipIdx.map ((fun entry => entry.name) ∘ Prod.fst) := by
    rw [announced, announcedFrom, List.map_map]
    apply List.map_congr_left
    intro place _
    exact lossy_encode place.1.name
  rw [place, ← List.map_map, List.zipIdx_map_fst]

namespace Course

variable {found : Course} (fits : ∀ entries, found = .opened entries → InMemory entries)

include fits

/-- The events of a course have led to its stage. -/
theorem history : Stage.History found.stage found.events := by
  cases found with
  | noProfile error => exact .loadingProfile
  | noPlugins error => exact .creatingRuntime
  | opened entries => exact .loaded (countsUp_announced (fits entries rfl).1)

/-- The host reads off each notification the event that it was written for. -/
theorem map_decode :
    (found.events.map Notification.ofEvent).map Notification.decode = found.events.map .ok := by
  rw [List.map_map]
  apply List.map_congr_left
  intro event member
  apply Notification.decode_ofEvent
  rintro load rfl
  cases found with
  | noProfile error => simp [events] at member
  | noPlugins error => simp [events] at member
  | opened entries =>
      have inside : load ∈ announced entries := by
        simpa [events, completed, opening] using member
      obtain ⟨entry, entered, name⟩ := exists_of_mem_announced inside
      rw [name]
      exact (fits entries rfl).2 entry entered

/-- The host accepts the notifications of a course. -/
theorem accepts :
    Accepts .idle (found.events.map Notification.ofEvent) found.events found.stage :=
  accepts_iff.mpr ⟨map_decode fits, Stage.advanceAll_idle_eq_ok_iff.mpr (history fits)⟩

/-- A host whose sink never panics gets all events of a course, and makes of it what is its
outcome. -/
theorem delivery {sink : Sink σ} (calm : sink.Calm) (host : σ) :
    handed sink host (found.events.map Notification.ofEvent) = found.events ∧
      ((Delivery.fresh host).receiveAll sink (found.events.map Notification.ofEvent)).finish
        = found.outcome := by
  have surveyed := survey_eq_iff_accepts.mpr (accepts fits)
  constructor
  · rw [calm.handed_eq, surveyed]
  · rw [Delivery.finish_receiveAll, surveyed, calm.feed_eq]
    cases found with
    | noProfile error => rfl
    | noPlugins error => rfl
    | opened entries =>
        simp [events, stage, outcome, Stage.isFinal, pluginNames_completed, map_name_announced]

end Course

/-! ### What the engine sends -/

/-- Once a sink that never panics got events that are in order, it has had its way with the host. -/
theorem host_receiveAll {sink : Sink σ} (calm : sink.Calm) (host : σ) {events : List Event}
    {stage : Stage}
    (decoded : (events.map Notification.ofEvent).map Notification.decode = events.map .ok)
    (run : Stage.idle.advanceAll events = .ok stage) :
    ((Delivery.fresh host).receiveAll sink (events.map Notification.ofEvent)).host
      = sink.hostAfter host events := by
  have going : (Delivery.fresh host).halt = none := rfl
  have accepts := accepts_iff.mpr ⟨decoded, run⟩
  rw [(Delivery.receiveAll_spec sink going _).1]
  simp only [Delivery.fresh, survey_eq_iff_accepts.mpr accepts, calm.feed_eq]

/-- Asked to open a path that a host lets through, the engine opens the profile at this path. -/
theorem answer_eq {path : Bytes} (admitted : checkPath path = .ok path) (app : Application) :
    answer ⟨some (terminate path), true, true⟩ app
      = (fun result => result.1) <$> app.openProfile ⟨path⟩ := by
  obtain ⟨⟨text, valid⟩, -, whole⟩ := checkPath_eq_ok_iff.mp admitted
  have read : readTerminated? (terminate path) = some text := by
    rw [readTerminated?, untilNul_terminate whole, valid]
  have named : Path.ofText text = ⟨path⟩ := by
    rw [Path.ofText, ← decode?_eq_some_iff.mp valid]
  simp only [answer, Option.bind_some, read, named, if_true]

/-- The engine sends the events of the course, for the files that its host shows after the first
events. -/
theorem delivered_runtime (view : σ → Machine) (handle : Handle) {path : Bytes}
    (admitted : checkPath path = .ok path) {sink : Sink σ} (calm : sink.Calm) (host : σ)
    (app : Application) :
    let reading := (view (sink.hostAfter host [.loadSettings, .loadProfile])).files
    let looking := (view (sink.hostAfter host [.loadSettings, .loadProfile, .createRuntime])).files
    delivered view runtime handle path sink (host, some app)
      = (course reading looking ⟨path⟩).events.map Notification.ofEvent := by
  intro reading looking
  -- What the engine sees is read off the delivery; up to there nothing was refused, so that it is
  -- what the sink made of the host.
  have started : (view (Delivery.receiveAll sink [.ofEvent .loadSettings, .ofEvent .loadProfile]
      (.fresh host)).host).files = reading :=
    congrArg (fun host => (view host).files)
      (@host_receiveAll _ sink calm host [.loadSettings, .loadProfile] _ rfl rfl)
  have created : (view (Delivery.receiveAll sink
      [.ofEvent .loadSettings, .ofEvent .loadProfile, .ofEvent .createRuntime]
      (.fresh host)).host).files = looking :=
    congrArg (fun host => (view host).files)
      (@host_receiveAll _ sink calm host [.loadSettings, .loadProfile, .createRuntime] _ rfl rfl)
  have sent := Application.sent_openProfile (fun delivery : Delivery σ => view delivery.host)
    (fun event => StatusCall.deliver sink ⟨.ofEvent event, true⟩) app ⟨path⟩ (.fresh host)
  rw [← started, ← created, delivered, statusCalls, admitted]
  simp only [runtime, answer_eq admitted, Script.map_eq_bind, Script.sent_bind,
    Script.sent_mapMessages, Script.sent_pure, List.append_nil, sent, List.filter_map,
    List.map_map]
  exact congrArg (List.map Notification.ofEvent) (List.filter_eq_self.mpr fun _ _ => rfl)

/-- An open leaves the engine with its application, of the same id and configuration. -/
theorem openSession_runtime_keeps (view : σ → Machine) (handle : Handle) (path : Bytes)
    (sink : Sink σ) (host : σ) (app : Application) :
    ∃ left, (openSession view runtime handle path sink (host, some app)).1.2 = some left ∧
      left.id = app.id ∧ left.config = app.config := by
  cases checked : checkPath path with
  | error error => exact ⟨app, by simp [openSession, checked], rfl, rfl⟩
  | ok path' =>
      simp only [openSession, checked, runtime, Script.run_bind, Script.run_mapMessages,
        Script.run_pure]
      refine ⟨_, rfl, ?_⟩
      unfold answer
      split
      · rw [Script.map_eq_bind, if_pos rfl, Script.run_bind, Script.run_pure]
        exact Application.run_openProfile_keeps _ _ app _ _
      · exact ⟨rfl, rfl⟩

end SessionHost.Engine
