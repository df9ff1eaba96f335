import Nek0.Guarantees.HistoryFrames

/-!
# History from some message on

Once nothing that may still be saved has a message from before some point, no file gets one any
more: a save writes what a session, a timer or a restore has, and new messages are numbered
upwards. Only a session whose history is off may still show old messages, as long as the history
is not switched on for it.
-/

namespace Nek0.Guarantees

open Nek0.Library Nek0.Source Nek0.Source.HistoryApp

variable {ρ : Type*}

/-- All messages come from after the first `bound`. -/
def isFresh (bound : Nat) (messages : List LoggedMessage) : Bool :=
  messages.all fun m => bound ≤ m.serial

/-- Everything that is saved or may be saved is fresh. -/
structure FreshHistory (bound : Nat) (s : HistoryApp ρ) : Prop where
  files : ∀ name, isFresh bound (s.files name) = true
  timers : ∀ cid snapshot, s.historySaveTimer.find cid = some snapshot →
    isFresh bound snapshot.messages = true
  restores : ∀ task ∈ s.restores,
    isFresh bound task.file = true ∧ isFresh bound task.record.messages = true
  records : ∀ cid, (s.records cid).keepsHistory = true →
    isFresh bound (s.records cid).messages = true

/-- The history is not switched on for a session with older messages, and none of them comes to
a server to keep it for. -/
def keepsFresh (bound : Nat) (s : HistoryApp ρ) : Action ρ → Bool
  | .connected cid _ serverUid _ =>
    !s.hears cid || !(s.records cid).chatHistoryEnabled || serverUid = "" ||
      isFresh bound (s.records cid).messages
  | .loadHistoryPreferences enabled _ | .setChatHistoryEnabled enabled =>
    !enabled || s.app.sessions.keys.all fun cid =>
      (s.records cid).serverUid = "" || (s.records cid).keepsHistory ||
        isFresh bound (s.records cid).messages
  | _ => true

section Messages

variable {bound : Nat} {messages more : List LoggedMessage}

theorem isFresh_iff : isFresh bound messages = true ↔ ∀ m ∈ messages, bound ≤ m.serial := by
  simp [isFresh]

@[simp] theorem isFresh_nil : isFresh bound [] = true := rfl

@[simp] theorem isFresh_append :
    isFresh bound (messages ++ more) = true ↔
      isFresh bound messages = true ∧ isFresh bound more = true := by
  simp [isFresh]

theorem isFresh_sublist (fresh : isFresh bound messages = true) (sub : more.Sublist messages) :
    isFresh bound more = true :=
  isFresh_iff.mpr fun m listed => isFresh_iff.mp fresh m (sub.subset listed)

end Messages

section Operations

variable {bound : Nat} {s t : HistoryApp ρ} {cid : ConnectionId}

theorem FreshHistory.same (fresh : FreshHistory bound s) (files : t.files = s.files)
    (timers : t.historySaveTimer = s.historySaveTimer) (restores : t.restores = s.restores)
    (records : t.records = s.records) : FreshHistory bound t := by
  refine ⟨?_, ?_, ?_, ?_⟩
  · rw [files]
    exact fresh.files
  · rw [timers]
    exact fresh.timers
  · rw [restores]
    exact fresh.restores
  · rw [records]
    exact fresh.records

theorem fresh_table (fresh : FreshHistory bound s) (change : Notifier → Notifier) :
    FreshHistory bound { s with app := change s.app } :=
  fresh.same rfl rfl rfl rfl

theorem FreshHistory.quiet (fresh : FreshHistory bound s) (quiet : Unheard s t) :
    FreshHistory bound t := by
  refine ⟨?_, ?_, ?_, fun cid keeps => ?_⟩
  · rw [quiet.files]
    exact fresh.files
  · rw [quiet.timers]
    exact fresh.timers
  · rw [quiet.restores]
    exact fresh.restores
  · rw [quiet.messages]
    refine fresh.records cid ?_
    simpa only [SessionRecord.keepsHistory, quiet.enabled, quiet.server] using keeps

/-- Writing a record that is fresh if its history is kept. -/
theorem fresh_setRecord (fresh : FreshHistory bound s) {record : SessionRecord ρ}
    (own : record.keepsHistory = true → isFresh bound record.messages = true) :
    FreshHistory bound (s.setRecord cid record) := by
  refine { fresh with records := fun other keeps => ?_ }
  by_cases same : other = cid
  · subst same
    rw [records_setRecord] at keeps ⊢
    exact own keeps
  · rw [records_setRecord_of_ne s cid same] at keeps ⊢
    exact fresh.records other keeps

theorem fresh_changeAll (fresh : FreshHistory bound s) {change : SessionRecord ρ → SessionRecord ρ}
    (own : ∀ cid ∈ s.app.sessions.keys, (change (s.records cid)).keepsHistory = true →
      isFresh bound (change (s.records cid)).messages = true) :
    FreshHistory bound (s.changeAll change) := by
  refine { fresh with records := fun cid keeps => ?_ }
  simp only [changeAll] at keeps ⊢
  split at keeps
  next listed =>
    rw [if_pos listed]
    exact own cid listed keeps
  next gone =>
    rw [if_neg gone]
    exact fresh.records cid keeps

theorem fresh_save (fresh : FreshHistory bound s) {snapshot : HistorySnapshot}
    (saved : isFresh bound snapshot.messages = true) : FreshHistory bound (s.save snapshot) := by
  unfold save
  split
  · exact fresh
  · refine { fresh with files := fun name => ?_ }
    simp only [Function.update_apply]
    split
    · exact isFresh_sublist saved (pruneLogged_sublist ..)
    · exact fresh.files name

theorem fresh_scheduleHistorySave (fresh : FreshHistory bound s) (cid : ConnectionId) :
    FreshHistory bound (s.scheduleHistorySave cid) := by
  unfold scheduleHistorySave
  dsimp only
  split
  next schedules =>
    refine { fresh with timers := fun other snapshot waits => ?_ }
    rw [LinkedMap.find_insert] at waits
    split at waits
    · obtain rfl := Option.some.inj waits
      exact fresh.records cid (Bool.and_eq_true_iff.mp schedules).1
    · exact fresh.timers other snapshot waits
  · exact fresh

theorem fresh_fireSaveTimer (fresh : FreshHistory bound s)
    (taken : s.fireSaveTimer cid = some t) : FreshHistory bound t := by
  simp only [fireSaveTimer, Option.map_eq_some_iff] at taken
  obtain ⟨snapshot, waits, rfl⟩ := taken
  have fired : FreshHistory bound { s with historySaveTimer := s.historySaveTimer.erase cid } := by
    refine { fresh with timers := fun other waiting waits' => ?_ }
    by_cases same : other = cid
    · rw [same, LinkedMap.find_erase_self] at waits'
      cases waits'
    · rw [LinkedMap.find_erase_of_ne _ same] at waits'
      exact fresh.timers other waiting waits'
  exact fresh_save fired (fresh.timers cid snapshot waits)

/-- A restore begins with the record of a session whose history is kept. -/
theorem fresh_beginRestore (fresh : FreshHistory bound s) (cid : ConnectionId) :
    FreshHistory bound (s.beginRestore cid) := by
  unfold beginRestore
  dsimp only
  split
  next keeps =>
    refine { fresh with restores := fun task listed => ?_ }
    rcases List.mem_append.mp listed with old | new
    · exact fresh.restores task old
    · obtain rfl := List.mem_singleton.mp new
      exact ⟨fresh.files _, fresh.records cid keeps⟩
  · exact fresh

theorem fresh_finishRestore {i : Nat} (fresh : FreshHistory bound s)
    (taken : s.finishRestore i = some t) : FreshHistory bound t := by
  simp only [finishRestore, Option.map_eq_some_iff] at taken
  obtain ⟨task, begun, rfl⟩ := taken
  obtain ⟨file, record⟩ := fresh.restores task (List.mem_of_getElem? begun)
  have waits : FreshHistory bound { s with restores := s.restores.eraseIdx i } :=
    { fresh with
      restores := fun other listed => fresh.restores other (List.mem_of_mem_eraseIdx listed) }
  unfold endRestore
  dsimp only
  split
  · exact waits.same rfl rfl rfl rfl
  · refine { waits with records := fun cid keeps => ?_ }
    simp only [Function.update_apply] at keeps ⊢
    split
    · exact isFresh_append.mpr ⟨isFresh_sublist file (pruneLogged_sublist ..), record⟩
    next other =>
      rw [if_neg other] at keeps
      exact fresh.records cid keeps

/-- The next message is a new one. -/
theorem fresh_append (fresh : FreshHistory bound s) (more : bound ≤ s.logged)
    {record : SessionRecord ρ} (message : ChatMessage)
    (own : record.keepsHistory = true → isFresh bound record.messages = true) :
    FreshHistory bound (s.append cid record message) := by
  have written : FreshHistory bound
      (s.setRecord cid { record with messages := record.messages ++ [s.log message] }) := by
    refine fresh_setRecord fresh fun keeps => ?_
    rw [isFresh_append]
    exact ⟨own keeps, isFresh_iff.mpr fun m listed => List.mem_singleton.mp listed ▸ more⟩
  exact written.same rfl rfl rfl rfl

theorem fresh_pushSystem (fresh : FreshHistory bound s) (more : bound ≤ s.logged)
    (cid : ConnectionId) (text : String) : FreshHistory bound (s.pushSystem cid text) := by
  unfold pushSystem
  dsimp only
  split
  · exact fresh
  · exact fresh_append fresh more _ (fresh.records cid)

theorem fresh_handleConnected (fresh : FreshHistory bound s) (more : bound ≤ s.logged)
    {data : ConnectedEvent} {serverUid welcomeMessage : String}
    (met : keepsFresh bound s (.connected cid data serverUid welcomeMessage) = true) :
    FreshHistory bound (s.handleConnected cid data serverUid welcomeMessage) := by
  unfold handleConnected hydrateServerMessages
  split
  · exact fresh
  next hears =>
    have opened : FreshHistory bound (s.setRecord cid { s.records cid with serverUid }) := by
      refine fresh_setRecord fresh fun keeps => ?_
      simp only [SessionRecord.keepsHistory, Bool.and_eq_true, bne_iff_ne] at keeps
      simpa [keepsFresh, hears, keeps.1, keeps.2] using met
    have greeted := fresh_pushSystem opened more cid welcomeMessage
    have later := more.trans (grows_pushSystem
      (s.setRecord cid { s.records cid with serverUid }) cid welcomeMessage).logged
    dsimp only
    refine (fresh_beginRestore (fresh_table ?_ (·.handleConnected cid data)) cid).quiet
      (quiet_setRecord _ cid rfl rfl rfl)
    split
    · exact fresh_pushSystem greeted later cid data.hostMessage
    · exact greeted

theorem fresh_handleDisconnected [Inhabited ρ] (fresh : FreshHistory bound s)
    (expected : Bool) (draw : Draw) :
    FreshHistory bound (s.handleDisconnected cid expected draw) := by
  unfold handleDisconnected
  dsimp only
  split
  · exact fresh
  · have flushed : FreshHistory bound (s.flush (s.records cid)) := by
      unfold flush
      split
      next keeps =>
        have noted : FreshHistory bound (s.noteFlush (s.records cid).snapshot) :=
          fresh.same rfl rfl rfl rfl
        exact fresh_save noted (fresh.records cid keeps)
      · exact fresh
    have emptied : FreshHistory bound ((s.flush (s.records cid)).setRecord cid
        { SessionRecord.new with
          chatHistoryEnabled := (s.records cid).chatHistoryEnabled
          chatRetention := (s.records cid).chatRetention }) :=
      fresh_setRecord flushed fun _ => isFresh_nil
    exact emptied.same rfl rfl rfl rfl

theorem fresh_handleTextMessage (fresh : FreshHistory bound s) (more : bound ≤ s.logged)
    (fromClient : String) (fromClientId targetMode : Nat) (message : String) (ignored : Bool) :
    FreshHistory bound
      (s.handleTextMessage cid fromClient fromClientId targetMode message ignored) := by
  unfold handleTextMessage
  dsimp only
  split
  · exact fresh
  · refine fresh_scheduleHistorySave ?_ cid
    split
    · exact fresh_append fresh more _ (fresh.records cid)
    · exact (fresh_append fresh more _ (fresh.records cid)).quiet (quiet_markUnread ..)

theorem fresh_clearChatHistory (fresh : FreshHistory bound s) :
    FreshHistory bound s.clearChatHistory :=
  { fresh with
    files := fun _ => isFresh_nil
    timers := fun cid snapshot waits =>
      fresh.timers cid snapshot (LinkedMap.find_filter_eq_some.mp waits).1 }

/-- Where the history is switched on, the records are fresh. -/
theorem fresh_switch (fresh : FreshHistory bound s) {enabled : Bool}
    (retention : SessionRecord ρ → HistoryRetention)
    (met : (!enabled || s.app.sessions.keys.all fun cid =>
      (s.records cid).serverUid = "" || (s.records cid).keepsHistory ||
        isFresh bound (s.records cid).messages) = true) :
    FreshHistory bound (s.changeAll fun record =>
      { record with chatHistoryEnabled := enabled, chatRetention := retention record }) := by
  refine fresh_changeAll fresh fun cid listed keeps => ?_
  simp only [SessionRecord.keepsHistory, Bool.and_eq_true, bne_iff_ne] at keeps
  obtain ⟨rfl, server⟩ := keeps
  have checked := List.all_eq_true.mp (show s.app.sessions.keys.all _ = true from met) cid listed
  simp only [Bool.or_eq_true, decide_eq_true_eq] at checked
  rcases checked with (none | keeps) | fresh'
  · exact absurd none server
  · exact fresh.records cid keeps
  · exact fresh'

theorem fresh_setChatRetention (fresh : FreshHistory bound s) (retention : HistoryRetention) :
    FreshHistory bound (s.setChatRetention retention) := by
  unfold setChatRetention
  have changed : FreshHistory bound
      (s.changeAll fun record => { record with chatRetention := retention }) :=
    fresh_changeAll fresh fun cid _ keeps => fresh.records cid keeps
  generalize s.changeAll _ = t at changed ⊢
  induction s.app.sessions.keys generalizing t with
  | nil => exact changed
  | cons cid keys ih => exact ih _ (fresh_scheduleHistorySave changed cid)

end Operations

theorem fresh_step [Inhabited ρ] {bound : Nat} {s t : HistoryApp ρ} {action : Action ρ}
    (fresh : FreshHistory bound s) (more : bound ≤ s.logged)
    (met : keepsFresh bound s action = true) (taken : s.step action = some t) :
    FreshHistory bound t := by
  by_cases quiet : isQuiet action = true
  · exact fresh.quiet (quiet_step quiet taken)
  cases action with
  | table action =>
    obtain ⟨cid, rfl⟩ := removes_of_loud quiet
    obtain rfl := Option.some.inj taken
    have emptied : FreshHistory bound (s.setRecord cid .new) :=
      fresh_setRecord fresh fun _ => isFresh_nil
    exact emptied.same rfl rfl rfl rfl
  | connected cid data serverUid welcomeMessage =>
    obtain rfl := Option.some.inj taken
    exact fresh_handleConnected fresh more met
  | disconnected cid expected draw =>
    obtain rfl := Option.some.inj taken
    exact fresh_handleDisconnected fresh expected draw
  | textMessage cid fromClient fromClientId targetMode message ignored =>
    obtain rfl := Option.some.inj taken
    exact fresh_handleTextMessage fresh more fromClient fromClientId targetMode message ignored
  | sendPrivateMessage cid clientId text queued peerName =>
    obtain rfl := Option.some.inj taken
    unfold sendPrivateMessage
    dsimp only
    split
    · exact fresh
    split
    · exact fresh_setRecord fresh (fresh.records cid)
    · exact fresh_append fresh more _ (fresh.records cid)
  | finishRestore i => exact fresh_finishRestore fresh taken
  | fireSaveTimer cid => exact fresh_fireSaveTimer fresh taken
  | loadHistoryPreferences enabled retention =>
    obtain rfl := Option.some.inj taken
    exact fresh_switch fresh (fun _ => retention) met
  | setChatHistoryEnabled enabled =>
    obtain rfl := Option.some.inj taken
    have switched := fresh_switch fresh (·.chatRetention) met
    unfold setChatHistoryEnabled
    dsimp only
    split
    · exact switched
    · exact fresh_clearChatHistory switched
  | setChatRetention retention =>
    obtain rfl := Option.some.inj taken
    exact fresh_setChatRetention fresh retention
  | clearChatHistory =>
    obtain rfl := Option.some.inj taken
    exact fresh_clearChatHistory fresh
  | restart =>
    obtain rfl := Option.some.inj taken
    exact
      { files := fresh.files
        timers := fun _ _ waits => nomatch waits
        restores := fun _ listed => nomatch listed
        records := fun _ _ => isFresh_nil }
  | _ => exact absurd rfl quiet

end Nek0.Guarantees
