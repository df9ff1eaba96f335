import Nek0.Guarantees.HistoryFrames
import Nek0.Library.Run

/-!
# Restoring the history

A restore writes back the record that it began with and puts the stored messages in front. So it
loses nothing exactly if nobody has changed the record while it waited, except for messages that
it brings itself, and if the record did not hold a stored message already.
-/

namespace Nek0.Guarantees

open Nek0.Library Nek0.Source Nek0.Source.HistoryApp

variable {ρ : Type*}

/-- A restore has left the record that it found, with the restored messages, each one once. -/
structure Lossless (o : RestoreOutcome ρ) : Prop where
  table : o.left.1 = o.found.1
  fields : { o.left.2 with messages := o.found.2.messages } = o.found.2
  held : ∀ m ∈ o.found.2.messages, m ∈ o.left.2.messages
  restored : ∀ m ∈ o.stored, m ∈ o.left.2.messages
  once : o.left.2.messages.Nodup

/-- A restore that writes finds the record that it began with, and no message that it does not
bring; and no stored message was in the record already. -/
def restoresUnchanged [DecidableEq ρ] (s : HistoryApp ρ) : Action ρ → Bool
  | .finishRestore i =>
    match s.restores[i]? with
    | none => true
    | some task =>
      let stored := s.storedFor task
      let found := s.records task.session
      stored = [] || task.table = s.app.stateOf task.session &&
        { task.record with messages := found.messages } = found &&
        found.messages.all (fun m => m ∈ stored || m ∈ task.record.messages) &&
        stored.all (· ∉ task.record.messages)
  | _ => true

section Messages

variable {n : Nat} {messages : List LoggedMessage}

/-- Different messages out of the first `n`. -/
def Single (n : Nat) (messages : List LoggedMessage) : Prop :=
  messages.Nodup ∧ ∀ m ∈ messages, m.serial < n

theorem single_nil : Single n [] := ⟨List.nodup_nil, fun _ listed => nomatch listed⟩

theorem Single.mono {k : Nat} (single : Single n messages) (bound : n ≤ k) :
    Single k messages := by
  refine ⟨single.1, fun m listed => ?_⟩
  have before := single.2 m listed
  omega

theorem Single.sublist {kept : List LoggedMessage} (single : Single n messages)
    (sub : kept.Sublist messages) : Single n kept :=
  ⟨single.1.sublist sub, fun m listed => single.2 m (sub.subset listed)⟩

/-- The next message is a new one. -/
theorem Single.snoc (single : Single n messages) (message : ChatMessage) :
    Single (n + 1) (messages ++ [⟨n, message⟩]) := by
  constructor
  · refine single.1.append (List.nodup_singleton _) fun m listed other => ?_
    have before := single.2 m listed
    obtain rfl := List.mem_singleton.mp other
    exact absurd before (Nat.lt_irrefl n)
  · intro m listed
    rcases List.mem_append.mp listed with old | new
    · have before := single.2 m old
      omega
    · obtain rfl := List.mem_singleton.mp new
      exact Nat.lt_succ_self n

end Messages

/-- No copy of messages has one of them twice. -/
structure NoDoubles (s : HistoryApp ρ) : Prop where
  records : ∀ cid, Single s.logged (s.records cid).messages
  timers : ∀ cid snapshot, s.historySaveTimer.find cid = some snapshot →
    Single s.logged snapshot.messages
  restores : ∀ task ∈ s.restores, Single s.logged task.record.messages ∧
    Single s.logged task.file
  files : ∀ name, Single s.logged (s.files name)

/-- A step that is not the end of a restore. -/
structure Spares (s t : HistoryApp ρ) : Prop where
  outcomes : t.outcomes = s.outcomes
  kept : NoDoubles s → NoDoubles t

theorem Spares.refl (s : HistoryApp ρ) : Spares s s := ⟨rfl, id⟩

theorem Spares.trans {s t u : HistoryApp ρ} (first : Spares s t) (second : Spares t u) :
    Spares s u :=
  ⟨second.outcomes.trans first.outcomes, fun before => second.kept (first.kept before)⟩

section Operations

variable {s : HistoryApp ρ} {cid : ConnectionId}

/-- What does not touch the copies of messages. -/
theorem spares_of_same {t : HistoryApp ρ} (records : t.records = s.records)
    (timers : t.historySaveTimer = s.historySaveTimer) (restores : t.restores = s.restores)
    (files : t.files = s.files) (logged : t.logged = s.logged)
    (outcomes : t.outcomes = s.outcomes) : Spares s t := by
  refine ⟨outcomes, fun before => ⟨?_, ?_, ?_, ?_⟩⟩
  · rw [records, logged]
    exact before.records
  · rw [timers, logged]
    exact before.timers
  · rw [restores, logged]
    exact before.restores
  · rw [files, logged]
    exact before.files

theorem spares_of_quiet {t : HistoryApp ρ} (quiet : Unheard s t) : Spares s t := by
  refine ⟨quiet.outcomes, fun before => ⟨fun cid => ?_, ?_, ?_, ?_⟩⟩
  · rw [quiet.messages, quiet.logged]
    exact before.records cid
  · rw [quiet.timers, quiet.logged]
    exact before.timers
  · rw [quiet.restores, quiet.logged]
    exact before.restores
  · rw [quiet.files, quiet.logged]
    exact before.files

/-- Writing a record with fewer messages or the same. -/
theorem spares_setRecord (cid : ConnectionId) {record : SessionRecord ρ}
    (sub : record.messages.Sublist (s.records cid).messages) :
    Spares s (s.setRecord cid record) := by
  refine ⟨rfl, fun before => { before with records := fun other => ?_ }⟩
  by_cases same : other = cid
  · subst same
    simpa [setRecord] using (before.records other).sublist sub
  · simpa [setRecord, same] using before.records other

theorem spares_changeAll {change : SessionRecord ρ → SessionRecord ρ}
    (same : ∀ record, (change record).messages = record.messages) :
    Spares s (s.changeAll change) := by
  refine ⟨rfl, fun before => { before with records := fun other => ?_ }⟩
  simp only [changeAll]
  split
  · rw [same]
    exact before.records other
  · exact before.records other

theorem spares_save (snapshot : HistorySnapshot)
    (single : NoDoubles s → Single s.logged snapshot.messages) : Spares s (s.save snapshot) := by
  unfold save
  split
  · exact .refl s
  · refine ⟨rfl, fun before => { before with files := fun name => ?_ }⟩
    simp only [Function.update_apply]
    split
    · exact (single before).sublist (pruneLogged_sublist ..)
    · exact before.files name

theorem spares_scheduleHistorySave : Spares s (s.scheduleHistorySave cid) := by
  unfold scheduleHistorySave
  dsimp only
  split
  · refine ⟨rfl, fun before => { before with timers := fun other snapshot waits => ?_ }⟩
    rw [LinkedMap.find_insert] at waits
    split at waits
    · obtain rfl := Option.some.inj waits
      exact before.records cid
    · exact before.timers other snapshot waits
  · exact .refl s

theorem spares_beginRestore (cid : ConnectionId) : Spares s (s.beginRestore cid) := by
  unfold beginRestore
  dsimp only
  split
  · refine ⟨rfl, fun before => { before with restores := fun task listed => ?_ }⟩
    rcases List.mem_append.mp listed with old | new
    · exact before.restores task old
    · obtain rfl := List.mem_singleton.mp new
      exact ⟨before.records cid, before.files _⟩
  · exact .refl s

theorem spares_append {record : SessionRecord ρ} (message : ChatMessage)
    (same : record.messages = (s.records cid).messages) :
    Spares s (s.append cid record message) := by
  refine ⟨rfl, fun before => ?_⟩
  have more : s.logged ≤ s.logged + 1 := Nat.le_succ _
  refine ⟨fun other => ?_, fun other snapshot waits => ?_, fun task listed => ?_, fun name => ?_⟩
  · by_cases new : other = cid
    · subst new
      simpa [append, setRecord, log, same] using (before.records other).snoc message
    · simpa [append, setRecord, new] using (before.records other).mono more
  · exact (before.timers other snapshot waits).mono more
  · exact ⟨(before.restores task listed).1.mono more, (before.restores task listed).2.mono more⟩
  · exact (before.files name).mono more

theorem spares_pushSystem (text : String) : Spares s (s.pushSystem cid text) := by
  unfold pushSystem
  dsimp only
  split
  · exact .refl s
  · exact spares_append _ rfl

theorem spares_hydrateServerMessages (cid : ConnectionId) (data : ConnectedEvent)
    (welcomeMessage : String) : Spares s (s.hydrateServerMessages cid data welcomeMessage) := by
  unfold hydrateServerMessages
  have welcomed : Spares s (s.pushSystem cid welcomeMessage) := spares_pushSystem welcomeMessage
  dsimp only
  split
  · exact welcomed.trans (spares_pushSystem data.hostMessage)
  · exact welcomed

theorem spares_table (change : Notifier → Notifier) : Spares s { s with app := change s.app } :=
  spares_of_same rfl rfl rfl rfl rfl rfl

theorem spares_handleConnected (data : ConnectedEvent) (serverUid welcomeMessage : String) :
    Spares s (s.handleConnected cid data serverUid welcomeMessage) := by
  unfold handleConnected
  split
  · exact .refl s
  · have opened : Spares s (s.setRecord cid { s.records cid with serverUid }) :=
      spares_setRecord _ (List.Sublist.refl _)
    have hydrated := opened.trans (spares_hydrateServerMessages cid data welcomeMessage)
    have handled := hydrated.trans (spares_table (·.handleConnected cid data))
    have begun := handled.trans (spares_beginRestore cid)
    exact begun.trans (spares_setRecord _ (List.Sublist.refl _))

theorem spares_handleTextMessage (fromClient : String) (fromClientId targetMode : Nat)
    (message : String) (ignored : Bool) :
    Spares s (s.handleTextMessage cid fromClient fromClientId targetMode message ignored) := by
  unfold handleTextMessage
  dsimp only
  split
  · exact .refl s
  · refine Spares.trans ?_ spares_scheduleHistorySave
    split
    · exact spares_append _ rfl
    · exact (spares_append _ rfl).trans (spares_of_quiet (quiet_markUnread _ cid _))

theorem spares_flush (cid : ConnectionId) : Spares s (s.flush (s.records cid)) := by
  unfold flush
  split
  · have noted : Spares s (s.noteFlush (s.records cid).snapshot) :=
      spares_of_same rfl rfl rfl rfl rfl rfl
    exact noted.trans (spares_save (s.records cid).snapshot fun before => before.records cid)
  · exact .refl s

theorem spares_fireSaveTimer {t : HistoryApp ρ} (taken : s.fireSaveTimer cid = some t) :
    Spares s t := by
  simp only [fireSaveTimer, Option.map_eq_some_iff] at taken
  obtain ⟨snapshot, waits, rfl⟩ := taken
  have fired : Spares s { s with historySaveTimer := s.historySaveTimer.erase cid } := by
    refine ⟨rfl, fun before => { before with timers := fun other snapshot' waits' => ?_ }⟩
    by_cases same : other = cid
    · rw [same, LinkedMap.find_erase_self] at waits'
      cases waits'
    · rw [LinkedMap.find_erase_of_ne _ same] at waits'
      exact before.timers other snapshot' waits'
  refine ⟨?_, fun before => ?_⟩
  · unfold save
    split <;> rfl
  · have saved := spares_save (s := { s with
      historySaveTimer := s.historySaveTimer.erase cid }) snapshot
    exact (saved fun _ => before.timers cid snapshot waits).kept (fired.kept before)

theorem spares_clearChatHistory : Spares s s.clearChatHistory := by
  refine ⟨rfl, fun before => { before with
    timers := fun cid snapshot waits => ?_, files := fun _ => single_nil }⟩
  exact before.timers cid snapshot (LinkedMap.find_filter_eq_some.mp waits).1

theorem spares_setChatHistoryEnabled (enabled : Bool) :
    Spares s (s.setChatHistoryEnabled enabled) := by
  unfold setChatHistoryEnabled
  have changed : Spares s
      (s.changeAll fun record => { record with chatHistoryEnabled := enabled }) :=
    spares_changeAll fun _ => rfl
  dsimp only
  split
  · exact changed
  · exact changed.trans spares_clearChatHistory

theorem spares_setChatRetention (retention : HistoryRetention) :
    Spares s (s.setChatRetention retention) := by
  unfold setChatRetention
  have changed : Spares s
      (s.changeAll fun record => { record with chatRetention := retention }) :=
    spares_changeAll fun _ => rfl
  refine changed.trans ?_
  generalize s.changeAll _ = t
  induction s.app.sessions.keys generalizing t with
  | nil => exact .refl t
  | cons cid keys ih => exact spares_scheduleHistorySave.trans (ih _)

theorem spares_restart [Inhabited ρ] : Spares s s.restart := by
  refine ⟨rfl, fun before => { before with
    records := fun _ => single_nil
    timers := fun _ _ waits => nomatch waits
    restores := fun _ listed => nomatch listed }⟩

theorem spares_cancelConnect [Inhabited ρ] {t : HistoryApp ρ}
    (taken : s.tableStep (.table (.cancelConnect cid)) = some t) : Spares s t := by
  obtain rfl := Option.some.inj taken
  have emptied : Spares s (s.setRecord cid .new) := spares_setRecord _ (List.nil_sublist _)
  exact emptied.trans (spares_of_same rfl rfl rfl rfl rfl rfl)

end Operations

section Restores

variable {s : HistoryApp ρ}

/-- What the end of a restore adds to the outcomes. -/
def outcomeOf (s : HistoryApp ρ) (task : HistoryRestoreTask ρ) : RestoreOutcome ρ where
  stored := s.storedFor task
  found := (s.app.stateOf task.session, s.records task.session)
  left := (task.table, { task.record with messages := s.storedFor task ++ task.record.messages })

/-- Writing back what the restore began with is right exactly if nothing else has changed. -/
theorem lossless_iff {task : HistoryRestoreTask ρ}
    (held : Single s.logged task.record.messages) (file : Single s.logged task.file) :
    Lossless (outcomeOf s task) ↔
      task.table = s.app.stateOf task.session ∧
        { task.record with messages := (s.records task.session).messages } =
          s.records task.session ∧
        (∀ m ∈ (s.records task.session).messages,
          m ∈ s.storedFor task ∨ m ∈ task.record.messages) ∧
        ∀ m ∈ s.storedFor task, m ∉ task.record.messages := by
  have single : Single s.logged (s.storedFor task) := file.sublist (pruneLogged_sublist ..)
  unfold outcomeOf
  generalize s.storedFor task = stored at single ⊢
  constructor
  · intro lossless
    refine ⟨lossless.table, lossless.fields, fun m listed => ?_, fun m listed other => ?_⟩
    · exact List.mem_append.mp (lossless.held m listed)
    · exact List.disjoint_of_nodup_append lossless.once listed other
  · rintro ⟨table, fields, brought, apart⟩
    refine ⟨table, fields, fun m listed => ?_, fun m listed => ?_, ?_⟩
    · exact List.mem_append.mpr (brought m listed)
    · exact List.mem_append_left _ listed
    · exact single.1.append held.1 apart

theorem endRestore_cases (s : HistoryApp ρ) (task : HistoryRestoreTask ρ) :
    s.storedFor task = [] ∧ (∃ dropped, s.endRestore task = { s with dropped }) ∨
      s.storedFor task ≠ [] ∧ (s.endRestore task).outcomes = s.outcomes ++ [outcomeOf s task] := by
  unfold endRestore
  dsimp only
  split
  next none => exact .inl ⟨none, _, rfl⟩
  next some => exact .inr ⟨some, rfl⟩

/-- What is noted as dropped is no copy of messages. -/
theorem noDoubles_drop (before : NoDoubles s) (dropped : List (String × LoggedMessage)) :
    NoDoubles { s with dropped } := { before with }

theorem noDoubles_endRestore {task : HistoryRestoreTask ρ} (before : NoDoubles s)
    (once : Single s.logged (s.storedFor task ++ task.record.messages)) :
    NoDoubles (s.endRestore task) := by
  have noted : NoDoubles (s.drop task.record.snapshot.name task.file (s.storedFor task)) :=
    noDoubles_drop before _
  unfold endRestore
  dsimp only
  split
  · exact noted
  · refine { noted with records := fun cid => ?_ }
    simp only [Function.update_apply]
    split
    · exact once
    · exact before.records cid

end Restores

section Steps

variable [Inhabited ρ] {s t : HistoryApp ρ} {action : Action ρ}

/-- Every other step spares what was restored. -/
theorem step_spares (other : ∀ i, action ≠ .finishRestore i) (taken : s.step action = some t) :
    Spares s t := by
  by_cases quiet : isQuiet action = true
  · exact spares_of_quiet (quiet_step quiet taken)
  cases action with
  | table action =>
    obtain ⟨cid, rfl⟩ := removes_of_loud quiet
    exact spares_cancelConnect taken
  | connected cid data serverUid welcomeMessage =>
    obtain rfl := Option.some.inj taken
    exact spares_handleConnected data serverUid welcomeMessage
  | disconnected cid expected draw =>
    obtain rfl := Option.some.inj taken
    unfold handleDisconnected
    split
    · exact .refl s
    · have emptied : ∀ u : HistoryApp ρ, Spares u (u.setRecord cid
          { SessionRecord.new with
            chatHistoryEnabled := (s.records cid).chatHistoryEnabled
            chatRetention := (s.records cid).chatRetention }) :=
        fun _ => spares_setRecord cid (List.nil_sublist _)
      exact ((spares_flush cid).trans (emptied _)).trans (spares_of_same rfl rfl rfl rfl rfl rfl)
  | textMessage cid fromClient fromClientId targetMode message ignored =>
    obtain rfl := Option.some.inj taken
    exact spares_handleTextMessage fromClient fromClientId targetMode message ignored
  | sendPrivateMessage cid clientId text queued peerName =>
    obtain rfl := Option.some.inj taken
    unfold sendPrivateMessage
    dsimp only
    split
    · exact .refl s
    split
    · exact spares_setRecord _ (List.Sublist.refl _)
    · exact spares_append _ rfl
  | finishRestore i => exact absurd rfl (other i)
  | fireSaveTimer cid => exact spares_fireSaveTimer taken
  | loadHistoryPreferences enabled retention =>
    obtain rfl := Option.some.inj taken
    exact spares_changeAll fun _ => rfl
  | setChatHistoryEnabled enabled =>
    obtain rfl := Option.some.inj taken
    exact spares_setChatHistoryEnabled enabled
  | setChatRetention retention =>
    obtain rfl := Option.some.inj taken
    exact spares_setChatRetention retention
  | clearChatHistory =>
    obtain rfl := Option.some.inj taken
    exact spares_clearChatHistory
  | restart =>
    obtain rfl := Option.some.inj taken
    exact spares_restart
  | _ => exact absurd rfl quiet

theorem noDoubles_build : NoDoubles (build : HistoryApp ρ) where
  records _ := single_nil
  timers _ _ waits := nomatch waits
  restores _ listed := nomatch listed
  files _ := single_nil

variable [DecidableEq ρ]

omit [Inhabited ρ] in
theorem restoresUnchanged_iff {i : Nat} {task : HistoryRestoreTask ρ}
    (begun : s.restores[i]? = some task) : restoresUnchanged s (.finishRestore i) = true ↔
      s.storedFor task = [] ∨ task.table = s.app.stateOf task.session ∧
        { task.record with messages := (s.records task.session).messages } =
          s.records task.session ∧
        (∀ m ∈ (s.records task.session).messages,
          m ∈ s.storedFor task ∨ m ∈ task.record.messages) ∧
        ∀ m ∈ s.storedFor task, m ∉ task.record.messages := by
  simp only [restoresUnchanged, begun, Bool.or_eq_true, Bool.and_eq_true, decide_eq_true_eq,
    List.all_eq_true, and_assoc]

omit [Inhabited ρ] in
theorem endRestore_right {i : Nat} {task : HistoryRestoreTask ρ}
    (single : (∀ o ∈ s.outcomes, Lossless o) → NoDoubles s) (begun : s.restores[i]? = some task)
    (taken : { s with restores := s.restores.eraseIdx i }.endRestore task = t) :
    ((∀ o ∈ t.outcomes, Lossless o) → NoDoubles t) ∧
      ((∀ o ∈ t.outcomes, Lossless o) ↔
        (∀ o ∈ s.outcomes, Lossless o) ∧ restoresUnchanged s (.finishRestore i) = true) := by
  set r : HistoryApp ρ := { s with restores := s.restores.eraseIdx i } with waits
  have fewer : NoDoubles s → NoDoubles r := fun before =>
    { before with
      restores := fun other listed => before.restores other (List.mem_of_mem_eraseIdx listed) }
  have same : outcomeOf r task = outcomeOf s task := rfl
  rw [restoresUnchanged_iff begun]
  rcases endRestore_cases r task with ⟨none, left⟩ | ⟨some, left⟩
  · obtain ⟨dropped, left⟩ := left
    obtain rfl := taken.symm.trans left
    exact ⟨fun lossless => noDoubles_drop (fewer (single lossless)) dropped,
      fun lossless => ⟨lossless, .inl none⟩, And.left⟩
  · subst taken
    rw [left, same]
    simp only [List.forall_mem_append, List.forall_mem_singleton]
    constructor
    · rintro ⟨lossless, last⟩
      have before := single lossless
      have bounds := before.restores task (List.mem_of_getElem? begun)
      refine noDoubles_endRestore (fewer before) ⟨last.once, fun m listed => ?_⟩
      rcases List.mem_append.mp listed with stored | held
      · exact bounds.2.2 m ((pruneLogged_sublist ..).subset stored)
      · exact bounds.1.2 m held
    · refine and_congr_right fun lossless => ?_
      have bounds := (single lossless).restores task (List.mem_of_getElem? begun)
      rw [lossless_iff bounds.1 bounds.2]
      exact ⟨.inr, fun either => either.resolve_left some⟩

/-- As long as the restores lose nothing, no message is doubled, and the next step is right
exactly if it meets the condition. -/
theorem step_restores (single : (∀ o ∈ s.outcomes, Lossless o) → NoDoubles s)
    (taken : s.step action = some t) :
    ((∀ o ∈ t.outcomes, Lossless o) → NoDoubles t) ∧
      ((∀ o ∈ t.outcomes, Lossless o) ↔
        (∀ o ∈ s.outcomes, Lossless o) ∧ restoresUnchanged s action = true) := by
  by_cases other : ∀ i, action ≠ .finishRestore i
  · have spares := step_spares other taken
    have free : restoresUnchanged s action = true := by
      cases action with
      | finishRestore i => exact absurd rfl (other i)
      | _ => rfl
    rw [spares.outcomes, free]
    exact ⟨fun lossless => spares.kept (single lossless), fun lossless => ⟨lossless, rfl⟩,
      And.left⟩
  · obtain ⟨i, same⟩ := not_forall.mp other
    obtain rfl := not_not.mp same
    simp only [step, finishRestore, Option.map_eq_some_iff] at taken
    obtain ⟨task, begun, rfl⟩ := taken
    exact endRestore_right single begun rfl

end Steps

/-- In a run no restore loses anything if and only if each one that writes finds the record it
began with, apart from messages that it brings, and none of the stored messages in it. -/
theorem restore_loses_nothing [Inhabited ρ] [DecidableEq ρ] {actions : List (Action ρ)}
    {s : HistoryApp ρ} (run : Run step anyStep build actions s) :
    (∀ o ∈ s.outcomes, Lossless o) ↔
      Run step (fun t action => restoresUnchanged t action = true) build actions s :=
  run.holds_iff (fun t => (∀ o ∈ t.outcomes, Lossless o) → NoDoubles t)
    (fun _ => noDoubles_build) (fun _ listed => nomatch listed)
    (fun _ _ _ single taken => (step_restores single taken).1)
    fun _ _ _ single taken => (step_restores single taken).2

/-- The user opens a session, which restores what the file has: the step `finishRestore 0`
comes later. -/
def reopened (cid ticket : Nat) : List (Action Unit) :=
  [.table (.table (.connect ⟨"host", "me", none, none, none⟩)),
    .table (.table (.completeConnect
      ⟨ticket, ⟨"host", "me", none, none, none⟩, .user, ticket⟩ (some cid))),
    .loadHistoryPreferences true .thirtyDays,
    .connected cid ⟨some 5, "", 0, [], []⟩ "server" ""]

/-- A message is kept for the next session to the server. -/
def keptHistory : List (Action Unit) :=
  reopened 1 0 ++ [.finishRestore 0, .textMessage 1 "Anna" 7 2 "hello" false, .fireSaveTimer 1] ++
    reopened 2 1

theorem restore_loses_nothing_kept : ∃ s : HistoryApp Unit,
    Run step (fun t action => restoresUnchanged t action = true) build
        (keptHistory ++ [.finishRestore 0]) s ∧
      ((s.records 2).messages.map (·.message.message) = ["hello"]) ∧
      ∀ o ∈ s.outcomes, Lossless o := by
  obtain ⟨s, run, shown⟩ := reaches_of_guarded restoresUnchanged
    (show (exec (guarded restoresUnchanged step) build (keptHistory ++ [.finishRestore 0])).any
      (fun s : HistoryApp Unit => (s.records 2).messages.map (·.message.message) == ["hello"]) =
        true by decide +kernel)
  have plain := run.weaken fun _ _ _ => trivial
  exact ⟨s, run, beq_iff_eq.mp shown, (restore_loses_nothing plain).mpr run⟩

/-- A message comes in while the restore waits, and is gone when it has finished. -/
theorem restore_loses_a_message : ¬ ∀ (actions : List (Action Unit)) (s : HistoryApp Unit),
    Run step anyStep build actions s → ∀ o ∈ s.outcomes, Lossless o := by
  intro lossless
  obtain ⟨s, run, lost⟩ := reaches_of_exec anyStep (fun _ _ _ => trivial)
    (show (exec step build (keptHistory ++
        [.textMessage 2 "Anna" 7 2 "again" false, .finishRestore 0])).any
      (fun s : HistoryApp Unit => s.outcomes.any fun o =>
        o.found.2.messages.any (· ∉ o.left.2.messages)) = true by decide +kernel)
  simp only [List.any_eq_true, decide_eq_true_eq] at lost
  obtain ⟨o, listed, m, held, gone⟩ := lost
  exact gone ((lossless _ s run o listed).held m held)

end Nek0.Guarantees
