import Nek0.Guarantees.HistoryFrames

/-!
# What is in the history files

A save writes the whole file, from what a timer has captured or from what a session has at its
disconnect. So the file has every message of earlier disconnects as long as everything that may
still be saved to it has them: the waiting timers, the other sessions on the same server, and
the copies with which restores from the file go on.
-/

namespace Nek0.Guarantees

open Nek0.Library Nek0.Source Nek0.Source.HistoryApp

variable {ρ : Type*}

/-- A list for a file has what disconnects have flushed to it, up to what retention and the entry
cap have kept out. -/
def Covers (s : HistoryApp ρ) (name : String) (messages : List LoggedMessage) : Prop :=
  ∀ m, (name, m) ∈ s.flushed → m ∈ messages ∨ (name, m) ∈ s.dropped

/-- The history on disk is complete. -/
def HistoryComplete (s : HistoryApp ρ) : Prop := ∀ name, Covers s name (s.files name)

/-- The session waits for what its own file has. -/
def awaitsRestore (s : HistoryApp ρ) (cid : ConnectionId) : Bool :=
  s.restores.any fun task =>
    task.session = cid && task.record.snapshot.name = (s.records cid).snapshot.name

def coversFile (s : HistoryApp ρ) (record : SessionRecord ρ) : Bool :=
  s.flushed.all fun f => f.1 ≠ record.snapshot.name || f.2 ∈ record.messages || f ∈ s.dropped

/-- A list has the messages that a session will flush. -/
def hasAll (s : HistoryApp ρ) (record : SessionRecord ρ) (messages : List LoggedMessage) : Bool :=
  record.messages.all fun m => m ∈ messages || (record.snapshot.name, m) ∈ s.dropped

/-- Whatever may still be saved to the file of a session has its messages. -/
def sharesMessages (s : HistoryApp ρ) (cid : ConnectionId) : Bool :=
  let record := s.records cid
  let name := record.snapshot.name
  s.historySaveTimer.values.all (fun snapshot =>
    snapshot.name ≠ name || hasAll s record snapshot.messages) &&
  s.restores.all (fun task =>
    task.record.snapshot.name ≠ name || hasAll s record task.file) &&
  s.app.sessions.keys.all fun other =>
    other = cid || !(s.records other).keepsHistory || (s.records other).snapshot.name ≠ name ||
      awaitsRestore s other || hasAll s record (s.records other).messages

/-- A save is only prepared by sessions that do not wait for a restore, and what a session has at
its disconnect is in everything else that may be saved to its file. The history is not switched
on for a session that lacks what its file has. -/
def savesWhole (s : HistoryApp ρ) : Action ρ → Bool
  | .textMessage cid _ _ _ _ ignored =>
    !s.hears cid || ignored || !(s.records cid).keepsHistory || !awaitsRestore s cid
  | .disconnected cid _ _ =>
    (s.app.stateOf cid).connecting || (s.app.rt.find cid).isNone ||
      !(s.records cid).keepsHistory || !awaitsRestore s cid && sharesMessages s cid
  | .setChatRetention _ => s.app.sessions.keys.all fun cid =>
    !(s.records cid).keepsHistory || !awaitsRestore s cid
  | .loadHistoryPreferences enabled _ | .setChatHistoryEnabled enabled =>
    !enabled || s.app.sessions.keys.all fun cid =>
      (s.records cid).serverUid = "" || (s.records cid).keepsHistory || awaitsRestore s cid ||
        coversFile s (s.records cid)
  | _ => true

/-- Everything that may be saved has what its file must have. -/
structure SourcesKeep (s : HistoryApp ρ) : Prop where
  timers : ∀ cid snapshot, s.historySaveTimer.find cid = some snapshot →
    Covers s snapshot.name snapshot.messages
  restores : ∀ task ∈ s.restores, Covers s task.record.snapshot.name task.file
  records : ∀ cid, (s.records cid).keepsHistory = true → awaitsRestore s cid = true ∨
    Covers s (s.records cid).snapshot.name (s.records cid).messages
  rooted : ∀ cid, (s.records cid).keepsHistory = true → cid ∈ s.app.sessions.keys

structure FilesKeep (s : HistoryApp ρ) : Prop extends SourcesKeep s where
  files : HistoryComplete s

/-- Only the record of one session may change. -/
structure Touches (cid : ConnectionId) (s t : HistoryApp ρ) : Prop where
  files : t.files = s.files
  timers : t.historySaveTimer = s.historySaveTimer
  restores : t.restores = s.restores
  flushed : t.flushed = s.flushed
  dropped : t.dropped = s.dropped
  others : ∀ other, other ≠ cid → t.records other = s.records other
  keys : ∀ other ∈ s.app.sessions.keys, other ∈ t.app.sessions.keys

section Covering

variable {s t : HistoryApp ρ} {name : String} {messages : List LoggedMessage}

theorem Covers.mono {more : List LoggedMessage} (covers : Covers s name messages)
    (sub : ∀ m ∈ messages, m ∈ more) : Covers s name more :=
  fun m flushed => (covers m flushed).imp_left (sub m)

/-- What is dropped later need not be in a list any more. -/
theorem Covers.later (covers : Covers s name messages) (flushed : t.flushed = s.flushed)
    (dropped : ∀ f ∈ s.dropped, f ∈ t.dropped) : Covers t name messages :=
  fun m listed => (covers m (flushed ▸ listed)).imp_right (dropped _)

theorem Covers.same (covers : Covers s name messages) (flushed : t.flushed = s.flushed)
    (dropped : t.dropped = s.dropped) : Covers t name messages :=
  covers.later flushed fun _ listed => dropped ▸ listed

theorem mem_drop (s : HistoryApp ρ) (name : String) (messages kept : List LoggedMessage) :
    ∀ m ∈ messages, m ∈ kept ∨ (name, m) ∈ (s.drop name messages kept).dropped := by
  intro m listed
  by_cases stays : m ∈ kept
  · exact .inl stays
  · refine .inr (List.mem_append_right _ (List.mem_map_of_mem ?_))
    exact List.mem_filter.mpr ⟨listed, by simpa using stays⟩

/-- What is left of a covering list covers, if the rest is noted. -/
theorem Covers.drop (covers : Covers s name messages) (kept : List LoggedMessage) :
    Covers (s.drop name messages kept) name kept := by
  intro m flushed
  rcases covers m flushed with listed | dropped
  · exact mem_drop s name messages kept m listed
  · exact .inr (List.mem_append_left _ dropped)

theorem awaitsRestore_iff {cid : ConnectionId} : awaitsRestore s cid = true ↔
    ∃ task ∈ s.restores, task.session = cid ∧
      task.record.snapshot.name = (s.records cid).snapshot.name := by
  simp only [awaitsRestore, List.any_eq_true, Bool.and_eq_true, decide_eq_true_eq]

end Covering

section Operations

variable {s t u : HistoryApp ρ} {cid : ConnectionId}

theorem Touches.refl (cid : ConnectionId) (s : HistoryApp ρ) : Touches cid s s :=
  ⟨rfl, rfl, rfl, rfl, rfl, fun _ _ => rfl, fun _ => id⟩

theorem Touches.trans (first : Touches cid s t) (second : Touches cid t u) : Touches cid s u where
  files := second.files.trans first.files
  timers := second.timers.trans first.timers
  restores := second.restores.trans first.restores
  flushed := second.flushed.trans first.flushed
  dropped := second.dropped.trans first.dropped
  others other different := (second.others other different).trans (first.others other different)
  keys other listed := second.keys other (first.keys other listed)

/-- The record of a session may change as long as it is waiting or has what it must have. -/
theorem FilesKeep.touches (keep : FilesKeep s) (cid : ConnectionId) (touched : Touches cid s t)
    (record : (t.records cid).keepsHistory = true → cid ∈ t.app.sessions.keys ∧
      (awaitsRestore t cid = true ∨
        Covers t (t.records cid).snapshot.name (t.records cid).messages)) : FilesKeep t := by
  have same : ∀ {name messages}, Covers s name messages → Covers t name messages :=
    fun covers => covers.same touched.flushed touched.dropped
  refine ⟨⟨?_, ?_, fun other keeps => ?_, fun other keeps => ?_⟩, ?_⟩
  · rw [touched.timers]
    exact fun other snapshot waits => same (keep.timers other snapshot waits)
  · rw [touched.restores]
    exact fun task listed => same (keep.restores task listed)
  · by_cases own : other = cid
    · subst own
      exact (record keeps).2
    · have equal := touched.others other own
      rw [awaitsRestore, touched.restores, equal]
      rw [equal] at keeps
      exact (keep.records other keeps).imp_right same
  · by_cases own : other = cid
    · subst own
      exact (record keeps).1
    · rw [touched.others other own] at keeps
      exact touched.keys other (keep.rooted other keeps)
  · rw [HistoryComplete, touched.files]
    exact fun name => same (keep.files name)

/-- A record that only gains messages. -/
theorem FilesKeep.grown (keep : FilesKeep s) (touched : Touches cid s t)
    (enabled : (t.records cid).chatHistoryEnabled = (s.records cid).chatHistoryEnabled)
    (server : (t.records cid).serverUid = (s.records cid).serverUid)
    (more : ∀ m ∈ (s.records cid).messages, m ∈ (t.records cid).messages) : FilesKeep t := by
  refine keep.touches cid touched fun keeps => ?_
  have before : (s.records cid).keepsHistory = true := by
    simpa only [SessionRecord.keepsHistory, enabled, server] using keeps
  have named : (t.records cid).snapshot.name = (s.records cid).snapshot.name := by
    simp only [HistorySnapshot.name, SessionRecord.snapshot, server]
  refine ⟨touched.keys cid (keep.rooted cid before), ?_⟩
  rw [awaitsRestore, touched.restores, named]
  exact (keep.records cid before).imp_right fun covers =>
    (covers.same touched.flushed touched.dropped).mono more

theorem touches_setRecord (s : HistoryApp ρ) (cid : ConnectionId) (record : SessionRecord ρ) :
    Touches cid s (s.setRecord cid record) := by
  refine ⟨rfl, rfl, rfl, rfl, rfl, fun other different => ?_, fun other listed => ?_⟩
  · simp [setRecord, different]
  · have wrote := Notifier.wrote_setSession s.app cid (s.app.stateOf cid)
    exact wrote.sessions ▸ Notifier.mem_listedWith.mpr (.inl listed)

theorem keep_setRecord (keep : FilesKeep s) {record : SessionRecord ρ}
    (enabled : record.chatHistoryEnabled = (s.records cid).chatHistoryEnabled)
    (server : record.serverUid = (s.records cid).serverUid)
    (more : ∀ m ∈ (s.records cid).messages, m ∈ record.messages) :
    FilesKeep (s.setRecord cid record) := by
  have written := records_setRecord s cid record
  refine keep.grown (touches_setRecord s cid record) ?_ ?_ ?_
  · rw [written, enabled]
  · rw [written, server]
  · rw [written]
    exact more

/-- Writing a record without another message, server or switch. -/
theorem keep_rewrite (keep : FilesKeep s) {record : SessionRecord ρ}
    (enabled : record.chatHistoryEnabled = (s.records cid).chatHistoryEnabled)
    (server : record.serverUid = (s.records cid).serverUid)
    (same : record.messages = (s.records cid).messages) : FilesKeep (s.setRecord cid record) :=
  keep_setRecord keep enabled server fun _ listed => same ▸ listed

/-- What does not matter for the files. -/
theorem FilesKeep.same (keep : FilesKeep s) (files : t.files = s.files)
    (timers : t.historySaveTimer = s.historySaveTimer) (restores : t.restores = s.restores)
    (flushed : t.flushed = s.flushed) (dropped : t.dropped = s.dropped)
    (records : t.records = s.records)
    (keys : ∀ other ∈ s.app.sessions.keys, other ∈ t.app.sessions.keys) : FilesKeep t := by
  have touched : Touches 0 s t :=
    ⟨files, timers, restores, flushed, dropped, fun other _ => congrFun records other, keys⟩
  refine keep.grown touched ?_ ?_ ?_ <;> simp [records]

theorem FilesKeep.quiet (keep : FilesKeep s) (quiet : Unheard s t) : FilesKeep t := by
  have same : ∀ {name messages}, Covers s name messages → Covers t name messages :=
    fun covers => covers.same quiet.flushed quiet.dropped
  have before : ∀ other, (t.records other).keepsHistory = (s.records other).keepsHistory := by
    intro other
    simp only [SessionRecord.keepsHistory, quiet.enabled, quiet.server]
  have named : ∀ other, (t.records other).snapshot.name = (s.records other).snapshot.name := by
    intro other
    simp only [HistorySnapshot.name, SessionRecord.snapshot, quiet.server]
  refine ⟨⟨?_, ?_, fun other keeps => ?_, fun other keeps => ?_⟩, ?_⟩
  · rw [quiet.timers]
    exact fun other snapshot waits => same (keep.timers other snapshot waits)
  · rw [quiet.restores]
    exact fun task listed => same (keep.restores task listed)
  · rw [awaitsRestore, quiet.restores, named, quiet.messages]
    exact (keep.records other (before other ▸ keeps)).imp_right same
  · exact quiet.keys other (keep.rooted other (before other ▸ keeps))
  · rw [HistoryComplete, quiet.files]
    exact fun name => same (keep.files name)

theorem keep_append (keep : FilesKeep s) {record : SessionRecord ρ} (message : ChatMessage)
    (enabled : record.chatHistoryEnabled = (s.records cid).chatHistoryEnabled)
    (server : record.serverUid = (s.records cid).serverUid)
    (same : record.messages = (s.records cid).messages) :
    FilesKeep (s.append cid record message) := by
  have written : FilesKeep (s.setRecord cid
      { record with messages := record.messages ++ [s.log message] }) := by
    refine keep_setRecord keep enabled server fun m listed => ?_
    exact List.mem_append_left _ (same ▸ listed)
  exact written.same rfl rfl rfl rfl rfl rfl fun _ => id

/-- A save that is prepared has what the record has. -/
theorem keep_scheduleHistorySave (keep : FilesKeep s)
    (ready : (s.records cid).keepsHistory = true → awaitsRestore s cid = false) :
    FilesKeep (s.scheduleHistorySave cid) := by
  unfold scheduleHistorySave
  dsimp only
  split
  · next schedules =>
    have keeps := (Bool.and_eq_true_iff.mp schedules).1
    have covers := (keep.records cid keeps).resolve_left (by simp [ready keeps])
    refine { keep with timers := fun other snapshot waits => ?_ }
    rw [LinkedMap.find_insert] at waits
    split at waits
    · obtain rfl := Option.some.inj waits
      exact covers
    · exact keep.timers other snapshot waits
  · exact keep

/-- What is saved is pruned, and what is pruned is noted. -/
theorem keep_save (keep : SourcesKeep s) {snapshot : HistorySnapshot}
    (others : ∀ name, name ≠ snapshot.name ∨ snapshot.serverUid = "" → Covers s name (s.files name))
    (covers : Covers s snapshot.name snapshot.messages) : FilesKeep (s.save snapshot) := by
  unfold save
  split
  next none => exact { keep with files := fun name => others name (.inr none) }
  · have later : ∀ f ∈ s.dropped, f ∈ (s.drop snapshot.name snapshot.messages
        (pruneLogged snapshot.messages snapshot.retention s.clock)).dropped :=
      fun f listed => List.mem_append_left _ listed
    refine ⟨⟨fun other waiting waits => ?_, fun task listed => ?_, fun other keeps => ?_,
      keep.rooted⟩, fun name => ?_⟩
    · exact (keep.timers other waiting waits).later rfl later
    · exact (keep.restores task listed).later rfl later
    · exact (keep.records other keeps).imp_right fun covers => covers.later rfl later
    · simp only [Function.update_apply]
      split
      next same =>
        rw [same]
        exact (covers.drop _).same rfl rfl
      next other => exact (others name (.inl other)).later rfl later

/-- A timer fires. -/
theorem keep_fireSaveTimer (keep : FilesKeep s) (taken : s.fireSaveTimer cid = some t) :
    FilesKeep t := by
  simp only [fireSaveTimer, Option.map_eq_some_iff] at taken
  obtain ⟨snapshot, waits, rfl⟩ := taken
  have fired : FilesKeep { s with historySaveTimer := s.historySaveTimer.erase cid } := by
    refine { keep with timers := fun other waiting waits' => ?_ }
    by_cases same : other = cid
    · rw [same, LinkedMap.find_erase_self] at waits'
      cases waits'
    · rw [LinkedMap.find_erase_of_ne _ same] at waits'
      exact keep.timers other waiting waits'
  exact keep_save fired.toSourcesKeep (fun name _ => keep.files name)
    (keep.timers cid snapshot waits)

theorem covers_noteFlush {name : String} {messages : List LoggedMessage}
    (record : SessionRecord ρ) (covers : Covers s name messages)
    (has : record.snapshot.name = name → hasAll s record messages = true) :
    Covers (s.noteFlush record.snapshot) name messages := by
  intro m flushed
  rcases List.mem_append.mp flushed with old | new
  · exact covers m old
  · obtain ⟨m', listed, same⟩ := List.mem_map.mp new
    obtain ⟨named, rfl⟩ := Prod.mk.inj same
    have held := List.all_eq_true.mp (has named) m' listed
    simp only [Bool.or_eq_true, decide_eq_true_eq] at held
    exact held.imp_right fun dropped => named ▸ dropped

/-- What a session has at its disconnect must be in everything that may be saved later. -/
theorem keep_flush (keep : FilesKeep s)
    (whole : (s.records cid).keepsHistory = true → awaitsRestore s cid = false ∧
      sharesMessages s cid = true) : FilesKeep (s.flush (s.records cid)) := by
  unfold flush
  split
  next keeps =>
    obtain ⟨ready, shares⟩ := whole keeps
    simp only [sharesMessages, Bool.and_eq_true, List.all_eq_true, Bool.or_eq_true,
      decide_eq_true_eq, Bool.not_eq_true'] at shares
    obtain ⟨⟨timers, restores⟩, others⟩ := shares
    have own := (keep.records cid keeps).resolve_left (by simp [ready])
    have noted : ∀ {name messages}, Covers s name messages →
        (name = (s.records cid).snapshot.name → hasAll s (s.records cid) messages = true) →
        Covers (s.noteFlush (s.records cid).snapshot) name messages :=
      fun covers has => covers_noteFlush _ covers fun same => has same.symm
    have all : hasAll s (s.records cid) (s.records cid).messages = true := by
      simpa [hasAll] using fun m listed => .inl listed
    have sources : SourcesKeep (s.noteFlush (s.records cid).snapshot) := by
      refine ⟨fun other snapshot waits => ?_, fun task listed => ?_, fun other keeps' => ?_,
        keep.rooted⟩
      · refine noted (keep.timers other snapshot waits) fun same => ?_
        have listed := LinkedMap.mem_values.mpr ⟨other, waits⟩
        exact (timers snapshot listed).resolve_left (by simp [same])
      · refine noted (keep.restores task listed) fun same => ?_
        exact (restores task listed).resolve_left (by simp [same])
      · rcases keep.records other keeps' with awaits | covers
        · exact .inl awaits
        · rcases others other (keep.rooted other keeps') with
            ((((rfl | off) | apart) | awaits) | has)
          · exact .inr (noted covers fun _ => all)
          · exact absurd (off.symm.trans keeps') (by decide)
          · exact .inr (noted covers fun same => absurd same apart)
          · exact .inl awaits
          · exact .inr (noted covers fun _ => has)
    refine keep_save sources (fun name other => ?_) (noted own fun _ => all)
    refine noted (keep.files name) fun same => ?_
    rcases other with apart | none
    · exact absurd same apart
    · have server : (s.records cid).serverUid = "" := none
      simp [SessionRecord.keepsHistory, server] at keeps
  · exact keep

theorem keep_beginRestore (keep : FilesKeep s) (touched : Touches cid s t)
    (listed : cid ∈ t.app.sessions.keys) : FilesKeep (t.beginRestore cid) := by
  unfold beginRestore
  dsimp only
  split
  next keeps =>
    let task : HistoryRestoreTask ρ :=
      ⟨cid, t.app.stateOf cid, t.records cid, t.files (t.records cid).snapshot.name⟩
    have begun : FilesKeep { s with restores := s.restores ++ [task] } := by
      refine { keep with restores := fun other listed => ?_, records := fun other keeps' => ?_ }
      · rcases List.mem_append.mp listed with old | new
        · exact keep.restores other old
        · obtain rfl := List.mem_singleton.mp new
          exact touched.files ▸ keep.files _
      · refine (keep.records other keeps').imp_left fun awaits => ?_
        obtain ⟨waiting, old, same⟩ := awaitsRestore_iff.mp awaits
        exact awaitsRestore_iff.mpr ⟨waiting, List.mem_append_left _ old, same⟩
    have after : Touches cid { s with restores := s.restores ++ [task] }
        { t with restores := t.restores ++ [task] } :=
      { touched with restores := congrArg (· ++ [task]) touched.restores }
    refine begun.touches cid after fun _ =>
      ⟨listed, .inl (awaitsRestore_iff.mpr ⟨task, ?_, rfl, rfl⟩)⟩
    exact List.mem_append_right _ (List.mem_singleton.mpr rfl)
  · next off => exact keep.touches cid touched fun keeps => absurd keeps off

theorem touches_pushSystem (s : HistoryApp ρ) (cid : ConnectionId) (text : String) :
    Touches cid s (s.pushSystem cid text) := by
  unfold pushSystem
  dsimp only
  split
  · exact .refl cid s
  · have written := touches_setRecord s cid
    exact { written _ with }

theorem keep_handleConnected (keep : FilesKeep s) (data : ConnectedEvent)
    (serverUid welcomeMessage : String) :
    FilesKeep (s.handleConnected cid data serverUid welcomeMessage) := by
  unfold handleConnected hydrateServerMessages
  split
  · exact keep
  · have opened := touches_setRecord s cid { s.records cid with serverUid }
    have welcomed := opened.trans (touches_pushSystem _ cid welcomeMessage)
    have handled : ∀ u : HistoryApp ρ,
        Touches cid u { u with app := u.app.handleConnected cid data } ∧
        cid ∈ (u.app.handleConnected cid data).sessions.keys := by
      intro u
      have wrote := Notifier.wrote_handleConnected u.app cid data
      rw [wrote.sessions]
      refine ⟨⟨rfl, rfl, rfl, rfl, rfl, fun _ _ => rfl, fun other listed => ?_⟩, ?_⟩
      · exact wrote.sessions ▸ Notifier.mem_listedWith.mpr (.inl listed)
      · exact Notifier.mem_listedWith.mpr (.inr rfl)
    dsimp only
    refine keep_rewrite (keep_beginRestore keep (Touches.trans ?_ (handled _).1) (handled _).2)
      rfl rfl rfl
    split
    · exact welcomed.trans (touches_pushSystem _ cid data.hostMessage)
    · exact welcomed

/-- The session saves to the same file and waits for the same restores. -/
def Steady (cid : ConnectionId) (s t : HistoryApp ρ) : Prop :=
  t.restores = s.restores ∧ (t.records cid).serverUid = (s.records cid).serverUid ∧
    (t.records cid).chatHistoryEnabled = (s.records cid).chatHistoryEnabled

theorem Steady.ready (steady : Steady cid s t)
    (ready : (s.records cid).keepsHistory = true → awaitsRestore s cid = false) :
    (t.records cid).keepsHistory = true → awaitsRestore t cid = false := by
  obtain ⟨restores, server, enabled⟩ := steady
  have named : (t.records cid).snapshot.name = (s.records cid).snapshot.name := by
    simp only [HistorySnapshot.name, SessionRecord.snapshot, server]
  rw [awaitsRestore, restores, named, SessionRecord.keepsHistory, enabled, server]
  exact ready

theorem steady_append (s : HistoryApp ρ) (cid : ConnectionId) (message : ChatMessage) :
    Steady cid s (s.append cid (s.records cid) message) := by
  have written : (s.append cid (s.records cid) message).records cid =
      { s.records cid with messages := (s.records cid).messages ++ [s.log message] } :=
    records_setRecord ..
  exact ⟨rfl, by rw [written], by rw [written]⟩

theorem steady_of_quiet (quiet : Unheard s t) : Steady cid s t :=
  ⟨quiet.restores, quiet.server cid, quiet.enabled cid⟩

theorem Steady.trans (first : Steady cid s t) (second : Steady cid t u) : Steady cid s u :=
  ⟨second.1.trans first.1, second.2.1.trans first.2.1, second.2.2.trans first.2.2⟩

theorem keep_handleTextMessage (keep : FilesKeep s) {fromClient message : String}
    {fromClientId targetMode : Nat} {ignored : Bool}
    (met : savesWhole s (.textMessage cid fromClient fromClientId targetMode message ignored) =
      true) :
    FilesKeep (s.handleTextMessage cid fromClient fromClientId targetMode message ignored) := by
  unfold handleTextMessage
  dsimp only
  split
  · exact keep
  next heard =>
    have ready : (s.records cid).keepsHistory = true → awaitsRestore s cid = false := by
      intro keeps
      simp only [savesWhole, Bool.or_assoc] at met
      simpa [heard, keeps, ← Bool.or_assoc] using met
    split
    · exact keep_scheduleHistorySave (keep_append keep _ rfl rfl rfl)
        ((steady_append s cid _).ready ready)
    · exact keep_scheduleHistorySave ((keep_append keep _ rfl rfl rfl).quiet (quiet_markUnread ..))
        (((steady_append s cid _).trans (steady_of_quiet (quiet_markUnread ..))).ready ready)

theorem keep_handleDisconnected [Inhabited ρ] (keep : FilesKeep s) {expected : Bool} {draw : Draw}
    (met : savesWhole s (.disconnected cid expected draw) = true) :
    FilesKeep (s.handleDisconnected cid expected draw) := by
  unfold handleDisconnected
  split
  · exact keep
  next heard =>
    have flushed : FilesKeep (s.flush (s.records cid)) := by
      refine keep_flush keep fun keeps => ?_
      simp only [savesWhole, Bool.or_assoc] at met
      simpa [heard, keeps, ← Bool.or_assoc] using met
    refine flushed.touches cid ⟨rfl, rfl, rfl, rfl, rfl, fun other different => ?_,
      fun other listed => ?_⟩ fun keeps => ?_
    · simp [different]
    · rcases Notifier.handleDisconnected_writes (s.flush (s.records cid)).app cid expected
        ⟨s.clock, draw⟩ with kept | ⟨-, wrote⟩
      · exact kept.sessions ▸ listed
      · exact wrote.sessions ▸ Notifier.mem_listedWith.mpr (.inl listed)
    · simp [SessionRecord.keepsHistory, SessionRecord.new] at keeps

/-- The session waits for this restore or for another one. -/
def AwaitsOr (task : HistoryRestoreTask ρ) (s : HistoryApp ρ) (cid : ConnectionId) : Prop :=
  awaitsRestore s cid = true ∨
    task.session = cid ∧ task.record.snapshot.name = (s.records cid).snapshot.name

/-- A restore that is taken from the waiting ones leaves the others. -/
theorem awaitsOr_erase {task : HistoryRestoreTask ρ} {i : Nat} (begun : s.restores[i]? = some task)
    (awaits : awaitsRestore s cid = true) :
    AwaitsOr task { s with restores := s.restores.eraseIdx i } cid := by
  obtain ⟨waiting, listed, session, named⟩ := awaitsRestore_iff.mp awaits
  obtain ⟨k, found⟩ := List.mem_iff_getElem?.mp listed
  by_cases same : k = i
  · obtain rfl := Option.some.inj ((same ▸ found).symm.trans begun)
    exact .inr ⟨session, named⟩
  · have stays := List.mem_eraseIdx_iff_getElem?.mpr ⟨k, same, found⟩
    exact .inl (awaitsRestore_iff.mpr ⟨waiting, stays, session, named⟩)

/-- What a restore leaves has what the file had, up to what retention and the cap leave out. -/
theorem keep_endRestore {task : HistoryRestoreTask ρ} (files : HistoryComplete s)
    (timers : ∀ cid snapshot, s.historySaveTimer.find cid = some snapshot →
      Covers s snapshot.name snapshot.messages)
    (restores : ∀ other ∈ s.restores, Covers s other.record.snapshot.name other.file)
    (records : ∀ cid, (s.records cid).keepsHistory = true → AwaitsOr task s cid ∨
      Covers s (s.records cid).snapshot.name (s.records cid).messages)
    (rooted : ∀ cid, (s.records cid).keepsHistory = true → cid ∈ s.app.sessions.keys)
    (file : Covers s task.record.snapshot.name task.file) : FilesKeep (s.endRestore task) := by
  unfold endRestore
  generalize s.storedFor task = stored
  have covers := file.drop stored
  have later : ∀ f ∈ s.dropped, f ∈ (s.drop task.record.snapshot.name task.file stored).dropped :=
    fun f listed => List.mem_append_left _ listed
  dsimp only
  split
  next none =>
    -- Nothing is left of the file, so the record of the session lacks nothing.
    subst none
    refine ⟨⟨fun other waiting waits => (timers other waiting waits).later rfl later,
      fun other listed => (restores other listed).later rfl later, fun other keeps => ?_, rooted⟩,
      fun name => (files name).later rfl later⟩
    rcases records other keeps with (awaits | ⟨-, named⟩) | held
    · exact .inl awaits
    · refine .inr fun m flushed => ?_
      have same : ((s.drop task.record.snapshot.name task.file []).records other).snapshot.name =
        task.record.snapshot.name := named.symm
      rw [same] at flushed ⊢
      exact (covers m flushed).imp_left fun listed => nomatch listed
    · exact .inr (held.later rfl later)
  · refine ⟨⟨fun other waiting waits => (timers other waiting waits).later rfl later,
      fun other listed => (restores other listed).later rfl later, fun other keeps => ?_,
      fun other keeps => ?_⟩, fun name => (files name).later rfl later⟩
    · by_cases own : other = task.session
      · subst own
        simp only [Function.update_self]
        exact .inr ((covers.same rfl rfl).mono fun m listed => List.mem_append_left _ listed)
      · simp only [Function.update_of_ne own] at keeps ⊢
        rcases records other keeps with (awaits | ⟨session, -⟩) | held
        · obtain ⟨waiting, listed, session, named⟩ := awaitsRestore_iff.mp awaits
          refine .inl (awaitsRestore_iff.mpr ⟨waiting, listed, session, ?_⟩)
          simp only [Function.update_of_ne own]
          exact named
        · exact absurd session.symm own
        · exact .inr (held.later rfl later)
    · have wrote := Notifier.wrote_setSession s.app task.session task.table
      refine wrote.sessions ▸ Notifier.mem_listedWith.mpr ?_
      by_cases own : other = task.session
      · exact .inr own
      · simp only [Function.update_of_ne own] at keeps
        exact .inl (rooted other keeps)

theorem keep_finishRestore {i : Nat} (keep : FilesKeep s) (taken : s.finishRestore i = some t) :
    FilesKeep t := by
  simp only [finishRestore, Option.map_eq_some_iff] at taken
  obtain ⟨task, begun, rfl⟩ := taken
  refine keep_endRestore keep.files keep.timers (fun other listed => ?_) (fun cid keeps => ?_)
    keep.rooted (keep.restores task (List.mem_of_getElem? begun))
  · exact keep.restores other (List.mem_of_mem_eraseIdx listed)
  · exact (keep.records cid keeps).imp_left (awaitsOr_erase begun)

theorem covers_of_coversFile {record : SessionRecord ρ} (checked : coversFile s record = true) :
    Covers s record.snapshot.name record.messages := by
  intro m flushed
  have listed := List.all_eq_true.mp checked _ flushed
  simpa [or_assoc] using listed

/-- The switch of all sessions. -/
theorem keep_changeAll (keep : FilesKeep s) {change : SessionRecord ρ → SessionRecord ρ}
    (server : ∀ record, (change record).serverUid = record.serverUid)
    (same : ∀ record, (change record).messages = record.messages)
    (ready : ∀ cid ∈ s.app.sessions.keys, (change (s.records cid)).keepsHistory = true →
      (s.records cid).keepsHistory = true ∨ awaitsRestore s cid = true ∨
        coversFile s (s.records cid) = true) : FilesKeep (s.changeAll change) := by
  have named : ∀ record, (change record).snapshot.name = record.snapshot.name := by
    intro record
    simp only [HistorySnapshot.name, SessionRecord.snapshot, server]
  refine { keep with records := fun cid keeps => ?_, rooted := fun cid keeps => ?_ }
  · have shown : ((s.changeAll change).records cid).snapshot.name = (s.records cid).snapshot.name ∧
        ((s.changeAll change).records cid).messages = (s.records cid).messages := by
      simp only [changeAll]
      split
      · exact ⟨named _, same _⟩
      · exact ⟨rfl, rfl⟩
    have waits : awaitsRestore (s.changeAll change) cid = awaitsRestore s cid := by
      rw [awaitsRestore, shown.1]
      rfl
    rw [waits, shown.1, shown.2]
    have either : (s.records cid).keepsHistory = true ∨ awaitsRestore s cid = true ∨
        coversFile s (s.records cid) = true := by
      simp only [changeAll] at keeps
      split at keeps
      next listed => exact ready cid listed keeps
      · exact .inl keeps
    rcases either with before | awaits | checked
    · exact (keep.records cid before).imp_right fun covers => covers.same rfl rfl
    · exact .inl awaits
    · exact .inr ((covers_of_coversFile checked).same rfl rfl)
  · simp only [changeAll] at keeps
    split at keeps
    next listed => exact listed
    · exact keep.rooted cid keeps

theorem keep_clearChatHistory (keep : FilesKeep s) : FilesKeep s.clearChatHistory where
  timers _ _ _ _ flushed := nomatch flushed
  restores _ _ _ flushed := nomatch flushed
  records _ _ := .inr fun _ flushed => nomatch flushed
  rooted := keep.rooted
  files _ _ flushed := nomatch flushed

theorem keep_restart [Inhabited ρ] (keep : FilesKeep s) : FilesKeep s.restart where
  timers _ _ waits := nomatch waits
  restores _ listed := nomatch listed
  records _ keeps := by simp [restart, build, SessionRecord.keepsHistory, SessionRecord.new] at keeps
  rooted _ keeps := by simp [restart, build, SessionRecord.keepsHistory, SessionRecord.new] at keeps
  files := keep.files

/-- A session that is removed saves nothing any more, and no other one is removed. -/
theorem keep_cancelConnect [Inhabited ρ] (keep : FilesKeep s)
    (taken : s.tableStep (.table (.cancelConnect cid)) = some t) : FilesKeep t := by
  obtain rfl := Option.some.inj taken
  have empty : (SessionRecord.new : SessionRecord ρ).keepsHistory = false := rfl
  refine { keep with records := fun other keeps => ?_, rooted := fun other keeps => ?_ }
  · by_cases own : other = cid
    · simp [own, empty] at keeps
    · simp only [Function.update_of_ne own] at keeps ⊢
      refine (keep.records other keeps).imp (fun awaits => ?_) fun covers => covers.same rfl rfl
      obtain ⟨waiting, listed, session, named⟩ := awaitsRestore_iff.mp awaits
      refine awaitsRestore_iff.mpr ⟨waiting, listed, session, ?_⟩
      simpa only [Function.update_of_ne own] using named
  · by_cases own : other = cid
    · simp [own, empty] at keeps
    · simp only [Function.update_of_ne own] at keeps
      exact List.mem_filter.mpr ⟨keep.rooted other keeps, by simpa using own⟩

theorem switched_of_met {enabled : Bool}
    (met : (!enabled || s.app.sessions.keys.all fun cid =>
      (s.records cid).serverUid = "" || (s.records cid).keepsHistory || awaitsRestore s cid ||
        coversFile s (s.records cid)) = true) :
    enabled = true → ∀ cid ∈ s.app.sessions.keys, (s.records cid).serverUid = "" ∨
      (s.records cid).keepsHistory = true ∨ awaitsRestore s cid = true ∨
        coversFile s (s.records cid) = true := by
  rintro rfl cid listed
  have checked := List.all_eq_true.mp (show s.app.sessions.keys.all _ = true from met) cid listed
  simpa only [Bool.or_eq_true, decide_eq_true_eq, or_assoc] using checked

/-- Where the history is switched on, the records have what their files have. -/
theorem keep_switch (keep : FilesKeep s) {enabled : Bool}
    (retention : SessionRecord ρ → HistoryRetention)
    (met : enabled = true → ∀ cid ∈ s.app.sessions.keys, (s.records cid).serverUid = "" ∨
      (s.records cid).keepsHistory = true ∨ awaitsRestore s cid = true ∨
        coversFile s (s.records cid) = true) :
    FilesKeep (s.changeAll fun record =>
      { record with chatHistoryEnabled := enabled, chatRetention := retention record }) := by
  refine keep_changeAll keep (fun _ => rfl) (fun _ => rfl) fun cid listed keeps => ?_
  simp only [SessionRecord.keepsHistory, Bool.and_eq_true, bne_iff_ne] at keeps
  exact (met keeps.1 cid listed).resolve_left keeps.2

/-- A schedule changes nothing that the next one depends on. -/
theorem steady_scheduleHistorySave (s : HistoryApp ρ) (cid other : ConnectionId) :
    Steady other s (s.scheduleHistorySave cid) := by
  unfold scheduleHistorySave
  dsimp only
  split <;> exact ⟨rfl, rfl, rfl⟩

theorem keep_scheduleAll (cids : List ConnectionId) (keep : FilesKeep s)
    (ready : ∀ cid ∈ cids, (s.records cid).keepsHistory = true → awaitsRestore s cid = false) :
    FilesKeep (cids.foldl (fun u cid => u.scheduleHistorySave cid) s) := by
  induction cids generalizing s with
  | nil => exact keep
  | cons cid cids ih =>
    rw [List.forall_mem_cons] at ready
    exact ih (keep_scheduleHistorySave keep ready.1) fun other listed =>
      (steady_scheduleHistorySave s cid other).ready (ready.2 other listed)

theorem keep_setChatRetention (keep : FilesKeep s) {retention : HistoryRetention}
    (met : savesWhole s (.setChatRetention retention) = true) :
    FilesKeep (s.setChatRetention retention) := by
  unfold setChatRetention
  have changed : FilesKeep
      (s.changeAll fun record => { record with chatRetention := retention }) :=
    keep_changeAll keep (fun _ => rfl) (fun _ => rfl) fun _ _ keeps => .inl keeps
  have ready : ∀ cid ∈ s.app.sessions.keys, (s.records cid).keepsHistory = true →
      awaitsRestore s cid = false := by
    intro cid listed keeps
    have checked := List.all_eq_true.mp met cid listed
    simpa [keeps] using checked
  have steady : ∀ cid, Steady cid s
      (s.changeAll fun record => { record with chatRetention := retention }) := by
    intro cid
    refine ⟨rfl, ?_, ?_⟩ <;> simp only [changeAll] <;> split <;> rfl
  exact keep_scheduleAll s.app.sessions.keys changed fun cid listed =>
    (steady cid).ready (ready cid listed)

end Operations

theorem keep_step [Inhabited ρ] {s t : HistoryApp ρ} {action : Action ρ} (keep : FilesKeep s)
    (met : savesWhole s action = true) (taken : s.step action = some t) : FilesKeep t := by
  by_cases quiet : isQuiet action = true
  · exact keep.quiet (quiet_step quiet taken)
  cases action with
  | table action =>
    obtain ⟨cid, rfl⟩ := removes_of_loud quiet
    exact keep_cancelConnect keep taken
  | connected cid data serverUid welcomeMessage =>
    obtain rfl := Option.some.inj taken
    exact keep_handleConnected keep data serverUid welcomeMessage
  | disconnected cid expected draw =>
    obtain rfl := Option.some.inj taken
    exact keep_handleDisconnected keep met
  | textMessage cid fromClient fromClientId targetMode message ignored =>
    obtain rfl := Option.some.inj taken
    exact keep_handleTextMessage keep met
  | sendPrivateMessage cid clientId text queued peerName =>
    obtain rfl := Option.some.inj taken
    unfold sendPrivateMessage
    dsimp only
    split
    · exact keep
    split
    · exact keep_rewrite keep rfl rfl rfl
    · exact keep_append keep _ rfl rfl rfl
  | finishRestore i => exact keep_finishRestore keep taken
  | fireSaveTimer cid => exact keep_fireSaveTimer keep taken
  | loadHistoryPreferences enabled retention =>
    obtain rfl := Option.some.inj taken
    exact keep_switch keep (fun _ => retention) (switched_of_met met)
  | setChatHistoryEnabled enabled =>
    obtain rfl := Option.some.inj taken
    have switched := keep_switch keep (·.chatRetention) (switched_of_met met)
    unfold setChatHistoryEnabled
    dsimp only
    split
    · exact switched
    · exact keep_clearChatHistory switched
  | setChatRetention retention =>
    obtain rfl := Option.some.inj taken
    exact keep_setChatRetention keep met
  | clearChatHistory =>
    obtain rfl := Option.some.inj taken
    exact keep_clearChatHistory keep
  | restart =>
    obtain rfl := Option.some.inj taken
    exact keep_restart keep
  | _ => exact absurd rfl quiet

/-- In a run whose steps all meet the condition, the history files have in every state what the
disconnects have flushed to them. -/
theorem history_complete [Inhabited ρ] {actions : List (Action ρ)} {s : HistoryApp ρ}
    (run : Run step (fun t action => savesWhole t action = true) build actions s) :
    HistoryComplete s := by
  have keep : FilesKeep s := by
    refine run.invariant FilesKeep ⟨⟨?_, ?_, ?_, ?_⟩, ?_⟩ fun _ _ _ keep met taken =>
      keep_step keep met taken
    · exact fun _ _ waits => nomatch waits
    · exact fun _ listed => nomatch listed
    · exact fun _ _ => .inr fun _ flushed => nomatch flushed
    · exact fun _ keeps => nomatch keeps
    · exact fun _ _ flushed => nomatch flushed
  exact keep.files

/-- The user opens a session to the server, whose restore finishes at once. -/
def onServer (cid ticket : Nat) : List (Action Unit) :=
  [.table (.table (.connect ⟨"host", "me", none, none, none⟩)),
    .table (.table (.completeConnect
      ⟨ticket, ⟨"host", "me", none, none, none⟩, .user, ticket⟩ (some cid))),
    .loadHistoryPreferences true .thirtyDays,
    .connected cid ⟨some 5, "", 0, [], []⟩ "server" "", .finishRestore 0]

/-- Two sessions after each other: the second one saves what it has restored from the first. -/
def savedHistory : List (Action Unit) :=
  onServer 1 0 ++ [.textMessage 1 "Anna" 7 2 "hello" false, .fireSaveTimer 1,
    .disconnected 1 true lowestDraw] ++ onServer 2 1 ++
    [.textMessage 2 "Anna" 7 2 "again" false, .disconnected 2 true lowestDraw, .fireSaveTimer 2]

/-- The texts in the file of the server. -/
def textsOnDisk (s : HistoryApp Unit) : List String :=
  (s.files (ChatHistoryService.fileNameFor "server")).map (·.message.message)

theorem history_complete_saved : ∃ s : HistoryApp Unit,
    Run step (fun t action => savesWhole t action = true) build savedHistory s ∧
      textsOnDisk s = ["hello", "again"] ∧ HistoryComplete s := by
  obtain ⟨s, run, written⟩ := reaches_of_guarded savesWhole
    (show (exec (guarded savesWhole step) build savedHistory).any
      (fun s : HistoryApp Unit => textsOnDisk s == ["hello", "again"]) = true by decide +kernel)
  exact ⟨s, run, beq_iff_eq.mp written, history_complete run⟩

/-- The user answers within the three seconds and leaves: the timer that has captured the first
message only fires after the flush of both. -/
theorem answer_is_lost : ¬ ∀ (actions : List (Action Unit)) (s : HistoryApp Unit),
    Run step anyStep build actions s → s.historySaveTimer.keys = [] → HistoryComplete s := by
  intro complete
  obtain ⟨s, run, lost⟩ := reaches_of_exec anyStep (fun _ _ _ => trivial)
    (show (exec step build (onServer 1 0 ++ [.textMessage 1 "Anna" 7 2 "hello" false,
        .sendPrivateMessage 1 7 "hi" true none, .disconnected 1 true lowestDraw,
        .fireSaveTimer 1])).any
      (fun s : HistoryApp Unit => s.historySaveTimer.keys == [] && s.flushed.any fun f =>
        f.2 ∉ s.files f.1 && f ∉ s.dropped) = true by decide +kernel)
  simp only [Bool.and_eq_true, beq_iff_eq, List.any_eq_true, decide_eq_true_eq] at lost
  obtain ⟨fired, ⟨name, m⟩, flushed, missing, kept⟩ := lost
  exact (complete _ s run fired name m flushed).elim missing kept

end Nek0.Guarantees
