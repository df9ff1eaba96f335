import Nek0.Guarantees.WellFormedTabs
import Nek0.Source.HistoryApp

/-!
# Frames of the history

Most steps are quiet for the history: they change a record in other fields, or the connection
table. What the other steps touch is one record, or all of them at a switch. A session that is
not in the table has the record of a new one.
-/

namespace Nek0.Guarantees

open Nek0.Library Nek0.Source Nek0.Source.HistoryApp

variable {ρ : Type*}

/-- A step that changes nothing of messages, timers, restores and files. -/
structure Unheard (s t : HistoryApp ρ) : Prop where
  files : t.files = s.files
  timers : t.historySaveTimer = s.historySaveTimer
  restores : t.restores = s.restores
  logged : t.logged = s.logged
  outcomes : t.outcomes = s.outcomes
  flushed : t.flushed = s.flushed
  dropped : t.dropped = s.dropped
  messages : ∀ cid, (t.records cid).messages = (s.records cid).messages
  server : ∀ cid, (t.records cid).serverUid = (s.records cid).serverUid
  enabled : ∀ cid, (t.records cid).chatHistoryEnabled = (s.records cid).chatHistoryEnabled
  keys : ∀ cid ∈ s.app.sessions.keys, cid ∈ t.app.sessions.keys
  unlisted : ∀ cid, cid ∉ t.app.sessions.keys → t.records cid = s.records cid

/-- A step that removes no session and no message number. -/
structure Grows (s t : HistoryApp ρ) : Prop where
  logged : s.logged ≤ t.logged
  keys : ∀ cid ∈ s.app.sessions.keys, cid ∈ t.app.sessions.keys
  unlisted : ∀ cid, cid ∉ t.app.sessions.keys → t.records cid = s.records cid

/-- A session that is not in the table has the record of a new one. -/
def Unlisted [Inhabited ρ] (s : HistoryApp ρ) : Prop :=
  ∀ cid, cid ∉ s.app.sessions.keys → s.records cid = .new

/-- The actions whose steps are quiet. -/
def isQuiet : Action ρ → Bool
  | .table (.table (.cancelConnect _)) => false
  | .table _ | .toggleInputMute _ | .toggleOutputMute _ | .setFullMute .. | .openThread ..
  | .closeThreads _ | .setNickname .. | .setOthers .. | .toggleChannelFavorite ..
  | .setChannelSortAlpha .. | .setEventSounds _ | .tick _ => true
  | _ => false

/-- Of the table only the removal of a session is not quiet. -/
theorem removes_of_loud {action : Notifier.TabAction}
    (loud : ¬ isQuiet (.table action : Action ρ) = true) :
    ∃ cid, action = .table (.cancelConnect cid) := by
  unfold isQuiet at loud
  split at loud
  next cid same => exact ⟨cid, Action.table.inj same⟩
  all_goals first | exact absurd rfl loud | simp_all

section Relations

variable {s t u : HistoryApp ρ} {cid : ConnectionId}

theorem Unheard.refl (s : HistoryApp ρ) : Unheard s s :=
  ⟨rfl, rfl, rfl, rfl, rfl, rfl, rfl, fun _ => rfl, fun _ => rfl, fun _ => rfl, fun _ => id,
    fun _ _ => rfl⟩

theorem Unheard.trans (first : Unheard s t) (second : Unheard t u) : Unheard s u where
  files := second.files.trans first.files
  timers := second.timers.trans first.timers
  restores := second.restores.trans first.restores
  logged := second.logged.trans first.logged
  outcomes := second.outcomes.trans first.outcomes
  flushed := second.flushed.trans first.flushed
  dropped := second.dropped.trans first.dropped
  messages cid := (second.messages cid).trans (first.messages cid)
  server cid := (second.server cid).trans (first.server cid)
  enabled cid := (second.enabled cid).trans (first.enabled cid)
  keys cid listed := second.keys cid (first.keys cid listed)
  unlisted cid gone :=
    (second.unlisted cid gone).trans
      (first.unlisted cid fun listed => gone (second.keys cid listed))

/-- What keeps all records and sessions, and what belongs to the history. -/
theorem quiet_of_same (files : t.files = s.files) (timers : t.historySaveTimer = s.historySaveTimer)
    (restores : t.restores = s.restores) (logged : t.logged = s.logged)
    (outcomes : t.outcomes = s.outcomes) (flushed : t.flushed = s.flushed)
    (dropped : t.dropped = s.dropped) (records : t.records = s.records)
    (keys : ∀ cid ∈ s.app.sessions.keys, cid ∈ t.app.sessions.keys) : Unheard s t := by
  refine ⟨files, timers, restores, logged, outcomes, flushed, dropped, ?_, ?_, ?_, keys, ?_⟩
  all_goals simp [records]

theorem Grows.refl (s : HistoryApp ρ) : Grows s s := ⟨le_refl _, fun _ => id, fun _ _ => rfl⟩

theorem Grows.trans (first : Grows s t) (second : Grows t u) : Grows s u where
  logged := first.logged.trans second.logged
  keys cid listed := second.keys cid (first.keys cid listed)
  unlisted cid gone :=
    (second.unlisted cid gone).trans
      (first.unlisted cid fun listed => gone (second.keys cid listed))

theorem Unheard.grows (quiet : Unheard s t) : Grows s t where
  logged := le_of_eq quiet.logged.symm
  keys := quiet.keys
  unlisted := quiet.unlisted

theorem grows_of_same (logged : s.logged ≤ t.logged) (records : t.records = s.records)
    (keys : ∀ cid ∈ s.app.sessions.keys, cid ∈ t.app.sessions.keys) : Grows s t :=
  ⟨logged, keys, fun cid _ => congrFun records cid⟩

theorem Unlisted.grows [Inhabited ρ] (unlisted : Unlisted s) (grows : Grows s t) : Unlisted t :=
  fun cid gone =>
    (grows.unlisted cid gone).trans (unlisted cid fun listed => gone (grows.keys cid listed))

/-- A session with a history is in the table. -/
theorem Unlisted.listed [Inhabited ρ] (unlisted : Unlisted s)
    (different : s.records cid ≠ .new) : cid ∈ s.app.sessions.keys := by
  by_contra gone
  exact different (unlisted cid gone)

end Relations

section Operations

variable (s : HistoryApp ρ) (cid : ConnectionId)

theorem keys_setRecord (record : SessionRecord ρ) :
    (s.setRecord cid record).app.sessions.keys = Notifier.listedWith cid s.app.sessions.keys :=
  (Notifier.wrote_setSession s.app cid (s.app.stateOf cid)).sessions

theorem records_setRecord_of_ne {record : SessionRecord ρ} {other : ConnectionId}
    (different : other ≠ cid) : (s.setRecord cid record).records other = s.records other :=
  Function.update_of_ne different ..

/-- The record of a session in the table may change. -/
theorem grows_setSession {s t : HistoryApp ρ} {cid : ConnectionId} (logged : s.logged ≤ t.logged)
    (keys : t.app.sessions.keys = Notifier.listedWith cid s.app.sessions.keys)
    (others : ∀ other, other ≠ cid → t.records other = s.records other) : Grows s t := by
  refine ⟨logged, fun other listed => ?_, fun other gone => others other ?_⟩
  · exact keys ▸ Notifier.mem_listedWith.mpr (.inl listed)
  · rintro rfl
    exact gone (keys ▸ Notifier.mem_listedWith.mpr (.inr rfl))

theorem grows_setRecord (record : SessionRecord ρ) : Grows s (s.setRecord cid record) :=
  grows_setSession (le_refl _) (keys_setRecord s cid record) fun _ different =>
    records_setRecord_of_ne s cid different

theorem records_setRecord (record : SessionRecord ρ) :
    (s.setRecord cid record).records cid = record :=
  Function.update_self ..

/-- Writing other fields of a record is quiet. -/
theorem quiet_setRecord {record : SessionRecord ρ}
    (messages : record.messages = (s.records cid).messages)
    (server : record.serverUid = (s.records cid).serverUid)
    (enabled : record.chatHistoryEnabled = (s.records cid).chatHistoryEnabled) :
    Unheard s (s.setRecord cid record) := by
  have grown := grows_setRecord s cid record
  have written := records_setRecord s cid record
  have field : ∀ {α : Type} (get : SessionRecord ρ → α), get record = get (s.records cid) →
      ∀ other, get ((s.setRecord cid record).records other) = get (s.records other) := by
    intro α get same other
    by_cases own : other = cid
    · rw [own, written, same]
    · rw [records_setRecord_of_ne s cid own]
  refine ⟨rfl, rfl, rfl, rfl, rfl, rfl, rfl, field (·.messages) messages,
    field (·.serverUid) server, field (·.chatHistoryEnabled) enabled, grown.keys, grown.unlisted⟩

theorem quiet_changeAll {change : SessionRecord ρ → SessionRecord ρ}
    (messages : ∀ record, (change record).messages = record.messages)
    (server : ∀ record, (change record).serverUid = record.serverUid)
    (enabled : ∀ record, (change record).chatHistoryEnabled = record.chatHistoryEnabled) :
    Unheard s (s.changeAll change) := by
  refine ⟨rfl, rfl, rfl, rfl, rfl, rfl, rfl, fun cid => ?_, fun cid => ?_, fun cid => ?_,
    fun _ => id, fun cid gone => if_neg gone⟩
  all_goals
    simp only [changeAll]
    split
  · exact messages _
  · rfl
  · exact server _
  · rfl
  · exact enabled _
  · rfl

theorem quiet_noteThread (key : Option ChatThreadKey) : Unheard s (s.noteThread cid key) := by
  unfold noteThread
  split
  · exact quiet_of_same rfl rfl rfl rfl rfl rfl rfl rfl fun _ => id
  · exact .refl s

theorem quiet_markUnread (key : ChatThreadKey) : Unheard s (s.markUnread cid key) := by
  unfold markUnread
  split
  · exact .refl s
  · obtain ⟨counters, counted⟩ := (s.records cid).countUnread_eq key
    rw [counted]
    exact quiet_setRecord s cid rfl rfl rfl

/-- The connection table keeps its sessions, except for a removed one. -/
theorem keys_tabStep {action : Notifier.TabAction} {a b : Notifier}
    (other : ∀ cid, action ≠ .table (.cancelConnect cid)) (taken : a.tabStep action = some b) :
    ∀ cid ∈ a.sessions.keys, cid ∈ b.sessions.keys := by
  have lists : ∀ m n : Notifier, (∀ cid ∈ a.sessions.keys, cid ∈ m.sessions.keys) →
      ∀ new, n.sessions.keys = Notifier.listedWith new m.sessions.keys →
        ∀ cid ∈ a.sessions.keys, cid ∈ n.sessions.keys :=
    fun m n before new same cid listed =>
      same ▸ Notifier.mem_listedWith.mpr (.inl (before cid listed))
  refine holds_tabStep (fun m n before kept cid listed => kept.sessions ▸ before cid listed)
    (fun m n new before wrote => lists m n before new wrote.sessions) (fun call reply _ => ?_)
    (fun cid same => absurd same (other cid)) (fun cid _ => ?_) (fun _ => id) taken
  · rcases completeConnect_writes a call reply with kept | ⟨new, -, sessions, -⟩
    · exact fun cid listed => kept.sessions ▸ listed
    · exact lists a _ (fun _ => id) new sessions
  · unfold Notifier.selectSession
    split <;> exact fun _ => id

theorem quiet_tableStep [Inhabited ρ] {s t : HistoryApp ρ} {action : Notifier.TabAction}
    (other : ∀ cid, action ≠ .table (.cancelConnect cid)) (taken : s.tableStep action = some t) :
    Unheard s t := by
  unfold tableStep at taken
  split at taken
  · cases taken
  · cases taken
  · next call cid =>
    split at taken
    · cases taken
    · obtain ⟨app, stepped, rfl⟩ := Option.map_eq_some_iff.mp taken
      have opened : s.app.tabStep (.table (.completeConnect call (some cid))) = some app := stepped
      exact quiet_of_same rfl rfl rfl rfl rfl rfl rfl rfl (keys_tabStep other opened)
  · next cid => exact absurd rfl (other cid)
  · obtain ⟨app, stepped, rfl⟩ := Option.map_eq_some_iff.mp taken
    exact quiet_of_same rfl rfl rfl rfl rfl rfl rfl rfl (keys_tabStep other stepped)

theorem quiet_step [Inhabited ρ] {s t : HistoryApp ρ} {action : Action ρ}
    (quiet : isQuiet action = true) (taken : s.step action = some t) : Unheard s t := by
  cases action with
  | table action =>
    refine quiet_tableStep (fun cid same => ?_) taken
    subst same
    cases quiet
  | toggleInputMute cid | toggleOutputMute cid | setOthers cid others =>
    obtain rfl := Option.some.inj taken
    exact quiet_setRecord s cid rfl rfl rfl
  | setFullMute cid muted =>
    obtain rfl := Option.some.inj taken
    unfold setFullMute
    dsimp only
    split
    · exact .refl s
    · exact quiet_setRecord s cid rfl rfl rfl
  | openThread cid key =>
    obtain rfl := Option.some.inj taken
    have noted := quiet_noteThread s cid (some key)
    unfold showThread
    dsimp only
    split
    · exact noted
    · exact noted.trans (quiet_setRecord _ cid rfl rfl rfl)
  | closeThreads cid =>
    obtain rfl := Option.some.inj taken
    exact quiet_noteThread s cid none
  | setNickname cid nickname =>
    obtain rfl := Option.some.inj taken
    unfold setNickname
    split
    · exact quiet_setRecord s cid rfl rfl rfl
    · exact .refl s
  | toggleChannelFavorite cid channelId | setChannelSortAlpha cid alpha =>
    obtain rfl := Option.some.inj taken
    have shown : ∀ channelUi, Unheard s (s.setRecord cid { s.records cid with channelUi }) :=
      fun _ => quiet_setRecord s cid rfl rfl rfl
    exact (shown _).trans (quiet_of_same rfl rfl rfl rfl rfl rfl rfl rfl fun _ => id)
  | setEventSounds enabled =>
    obtain rfl := Option.some.inj taken
    have changed : Unheard s (s.changeAll fun record =>
        { record with channelUi := { record.channelUi with eventSounds := enabled } }) :=
      quiet_changeAll s (fun _ => rfl) (fun _ => rfl) fun _ => rfl
    exact changed.trans (quiet_of_same rfl rfl rfl rfl rfl rfl rfl rfl fun _ => id)
  | tick elapsed =>
    obtain rfl := Option.some.inj taken
    exact quiet_of_same rfl rfl rfl rfl rfl rfl rfl rfl fun _ => id
  | _ => cases quiet

end Operations

section Growth

variable (s : HistoryApp ρ) (cid : ConnectionId)

theorem grows_changeAll (change : SessionRecord ρ → SessionRecord ρ) :
    Grows s (s.changeAll change) :=
  ⟨le_refl _, fun _ => id, fun _ gone => if_neg gone⟩

theorem grows_save (snapshot : HistorySnapshot) : Grows s (s.save snapshot) := by
  unfold save
  split
  · exact .refl s
  · exact grows_of_same (le_refl _) rfl fun _ => id

theorem grows_scheduleHistorySave : Grows s (s.scheduleHistorySave cid) := by
  unfold scheduleHistorySave
  dsimp only
  split
  · exact grows_of_same (le_refl _) rfl fun _ => id
  · exact .refl s

theorem grows_beginRestore : Grows s (s.beginRestore cid) := by
  unfold beginRestore
  dsimp only
  split
  · exact grows_of_same (le_refl _) rfl fun _ => id
  · exact .refl s

theorem grows_append (record : SessionRecord ρ) (message : ChatMessage) :
    Grows s (s.append cid record message) :=
  (grows_setRecord s cid _).trans (grows_of_same (Nat.le_succ _) rfl fun _ => id)

theorem grows_pushSystem (text : String) : Grows s (s.pushSystem cid text) := by
  unfold pushSystem
  dsimp only
  split
  · exact .refl s
  · exact grows_append ..

theorem grows_hydrateServerMessages (data : ConnectedEvent) (welcomeMessage : String) :
    Grows s (s.hydrateServerMessages cid data welcomeMessage) := by
  unfold hydrateServerMessages
  have welcomed := grows_pushSystem s cid welcomeMessage
  dsimp only
  split
  · exact welcomed.trans (grows_pushSystem ..)
  · exact welcomed

theorem grows_handleConnected (data : ConnectedEvent) (serverUid welcomeMessage : String) :
    Grows s (s.handleConnected cid data serverUid welcomeMessage) := by
  unfold handleConnected
  split
  · exact .refl s
  · have opened := grows_setRecord s cid { s.records cid with serverUid }
    have hydrated := opened.trans (grows_hydrateServerMessages _ cid data welcomeMessage)
    have handled : ∀ u : HistoryApp ρ, Grows u { u with app := u.app.handleConnected cid data } :=
      fun u => grows_setSession (le_refl _) (Notifier.wrote_handleConnected u.app cid data).sessions
        fun _ _ => rfl
    exact ((hydrated.trans (handled _)).trans (grows_beginRestore ..)).trans (grows_setRecord ..)

theorem grows_handleTextMessage (fromClient : String) (fromClientId targetMode : Nat)
    (message : String) (ignored : Bool) :
    Grows s (s.handleTextMessage cid fromClient fromClientId targetMode message ignored) := by
  unfold handleTextMessage
  dsimp only
  split
  · exact .refl s
  · refine Grows.trans ?_ (grows_scheduleHistorySave ..)
    split
    · exact grows_append ..
    · exact (grows_append ..).trans (quiet_markUnread ..).grows

theorem grows_flush (record : SessionRecord ρ) : Grows s (s.flush record) := by
  unfold flush
  split
  · have noted : Grows s (s.noteFlush record.snapshot) :=
      grows_of_same (le_refl _) rfl fun _ => id
    exact noted.trans (grows_save ..)
  · exact .refl s

theorem flush_app (record : SessionRecord ρ) : (s.flush record).app = s.app := by
  unfold flush save
  split
  · split <;> rfl
  · rfl

theorem grows_handleDisconnected [Inhabited ρ] (expected : Bool) (draw : Draw) :
    Grows s (s.handleDisconnected cid expected draw) := by
  unfold handleDisconnected
  dsimp only
  split
  · exact .refl s
  next hears =>
    simp only [Bool.or_eq_true, not_or, Bool.not_eq_true, Option.isNone_eq_false_iff] at hears
    have flushed := grows_flush s (s.records cid)
    have same : (s.flush (s.records cid)).app = s.app := flush_app s (s.records cid)
    have wrote :=
      Notifier.wrote_handleDisconnected s.app cid expected ⟨s.clock, draw⟩ hears.1 hears.2
    refine flushed.trans (grows_setSession (le_refl _) ?_ fun other different =>
      Function.update_of_ne different ..)
    rw [same]
    exact wrote.sessions

theorem grows_sendPrivateMessage (clientId : Nat) (text : String) (queued : Bool)
    (peerName : Option String) :
    Grows s (s.sendPrivateMessage cid clientId text queued peerName) := by
  unfold sendPrivateMessage
  dsimp only
  split
  · exact .refl s
  split
  · exact grows_setRecord ..
  · exact grows_append ..

theorem grows_endRestore (task : HistoryRestoreTask ρ) : Grows s (s.endRestore task) := by
  unfold endRestore
  dsimp only
  split
  · exact grows_of_same (le_refl _) rfl fun _ => id
  · exact grows_setSession (le_refl _)
      (Notifier.wrote_setSession s.app task.session task.table).sessions
      fun _ different => Function.update_of_ne different ..

theorem grows_fireSaveTimer {s t : HistoryApp ρ} {cid : ConnectionId}
    (taken : s.fireSaveTimer cid = some t) : Grows s t := by
  simp only [fireSaveTimer, Option.map_eq_some_iff] at taken
  obtain ⟨snapshot, -, rfl⟩ := taken
  have fired : Grows s { s with historySaveTimer := s.historySaveTimer.erase cid } :=
    grows_of_same (le_refl _) rfl fun _ => id
  exact fired.trans (grows_save ..)

theorem grows_finishRestore {s t : HistoryApp ρ} {i : Nat} (taken : s.finishRestore i = some t) :
    Grows s t := by
  simp only [finishRestore, Option.map_eq_some_iff] at taken
  obtain ⟨task, -, rfl⟩ := taken
  have taken : Grows s { s with restores := s.restores.eraseIdx i } :=
    grows_of_same (le_refl _) rfl fun _ => id
  exact taken.trans (grows_endRestore ..)

theorem grows_setChatHistoryEnabled (enabled : Bool) :
    Grows s (s.setChatHistoryEnabled enabled) := by
  unfold setChatHistoryEnabled
  have changed := grows_changeAll s fun record => { record with chatHistoryEnabled := enabled }
  dsimp only
  split
  · exact changed
  · exact changed.trans (grows_of_same (le_refl _) rfl fun _ => id)

theorem grows_setChatRetention (retention : HistoryRetention) :
    Grows s (s.setChatRetention retention) := by
  unfold setChatRetention
  refine (grows_changeAll s fun record => { record with chatRetention := retention }).trans ?_
  generalize s.changeAll _ = t
  induction s.app.sessions.keys generalizing t with
  | nil => exact .refl t
  | cons cid keys ih => exact (grows_scheduleHistorySave t cid).trans (ih _)

/-- Sessions only go where one is removed or the app starts again. -/
theorem grows_step [Inhabited ρ] {s t : HistoryApp ρ} {action : Action ρ}
    (stays : ∀ cid, action ≠ .table (.table (.cancelConnect cid))) (goesOn : action ≠ .restart)
    (taken : s.step action = some t) : Grows s t := by
  by_cases quiet : isQuiet action = true
  · exact (quiet_step quiet taken).grows
  cases action with
  | table action =>
    obtain ⟨cid, rfl⟩ := removes_of_loud quiet
    exact absurd rfl (stays cid)
  | restart => exact absurd rfl goesOn
  | finishRestore i => exact grows_finishRestore taken
  | fireSaveTimer cid => exact grows_fireSaveTimer taken
  | connected cid data serverUid welcomeMessage =>
    obtain rfl := Option.some.inj taken
    exact grows_handleConnected ..
  | disconnected cid expected draw =>
    obtain rfl := Option.some.inj taken
    exact grows_handleDisconnected ..
  | textMessage cid fromClient fromClientId targetMode message ignored =>
    obtain rfl := Option.some.inj taken
    exact grows_handleTextMessage ..
  | sendPrivateMessage cid clientId text queued peerName =>
    obtain rfl := Option.some.inj taken
    exact grows_sendPrivateMessage ..
  | loadHistoryPreferences enabled retention =>
    obtain rfl := Option.some.inj taken
    exact grows_changeAll ..
  | setChatHistoryEnabled enabled =>
    obtain rfl := Option.some.inj taken
    exact grows_setChatHistoryEnabled ..
  | setChatRetention retention =>
    obtain rfl := Option.some.inj taken
    exact grows_setChatRetention ..
  | clearChatHistory =>
    obtain rfl := Option.some.inj taken
    exact grows_of_same (le_refl _) rfl fun _ => id
  | _ => exact absurd rfl quiet

theorem unlisted_cancelConnect [Inhabited ρ] {s t : HistoryApp ρ} {cid : ConnectionId}
    (unlisted : Unlisted s) (taken : s.step (.table (.table (.cancelConnect cid))) = some t) :
    Unlisted t := by
  obtain rfl := Option.some.inj taken
  intro other gone
  by_cases own : other = cid
  · subst own
    exact Function.update_self ..
  · refine (Function.update_of_ne own ..).trans (unlisted other fun listed => gone ?_)
    exact List.mem_filter.mpr ⟨listed, by simpa using own⟩

theorem unlisted_step [Inhabited ρ] {s t : HistoryApp ρ} {action : Action ρ}
    (unlisted : Unlisted s) (taken : s.step action = some t) : Unlisted t := by
  by_cases removes : ∃ cid, action = .table (.table (.cancelConnect cid))
  · obtain ⟨cid, rfl⟩ := removes
    exact unlisted_cancelConnect unlisted taken
  by_cases ends : action = .restart
  · subst ends
    obtain rfl := Option.some.inj taken
    exact fun _ _ => rfl
  · exact unlisted.grows (grows_step (fun cid same => removes ⟨cid, same⟩) ends taken)

/-- Messages are numbered upwards. -/
theorem logged_step [Inhabited ρ] {s t : HistoryApp ρ} {action : Action ρ}
    (taken : s.step action = some t) : s.logged ≤ t.logged := by
  by_cases removes : ∃ cid, action = .table (.table (.cancelConnect cid))
  · obtain ⟨cid, rfl⟩ := removes
    obtain rfl := Option.some.inj taken
    exact le_refl _
  by_cases ends : action = .restart
  · subst ends
    obtain rfl := Option.some.inj taken
    exact le_refl _
  · exact (grows_step (fun cid same => removes ⟨cid, same⟩) ends taken).logged

end Growth

def lowestDraw : Draw := ⟨0, by decide, by decide⟩

end Nek0.Guarantees
