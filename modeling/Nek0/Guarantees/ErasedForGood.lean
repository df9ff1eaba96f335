import Nek0.Guarantees.FreshHistory
import Nek0.Library.Run
import Nek0.Source.EraseApp

/-!
# What is erased stays erased

The erase empties the storage, the stash of the engine and the history files, but it stops nothing
that is under way. So the identity and the messages stay away exactly as long as nothing that was
under way brings them back: an attempt that has taken the identity puts it back, a call of
`connect` pushes what it has read, a waiting save or restore has the messages from before, and a
session that is still there saves what it has when its disconnect is told.
-/

namespace Nek0.Guarantees

open Nek0.Library Nek0.Source Nek0.Source.EraseApp

variable {ρ : Type*}

/-- No file has a message from before the erase, and neither the storage nor the stash has a key
from before. -/
structure StaysErased (s : EraseApp ρ) : Prop where
  files : s.erase = .done → ∀ name, isFresh s.bound (s.history.files name) = true
  storage : s.erase ≠ .untouched → ∀ k ∈ keysOf s.storage, k ∉ s.erased
  stash : s.erase ≠ .untouched → ∀ k ∈ keysOf s.engine.stash, k ∉ s.erased

/-- What may still be saved has no message from before the erase. -/
def pendingFresh (s : EraseApp ρ) : Bool :=
  s.history.historySaveTimer.values.all (fun snapshot => isFresh s.bound snapshot.messages) &&
  s.history.restores.all (fun task =>
    isFresh s.bound task.file && isFresh s.bound task.record.messages) &&
  s.history.app.sessions.keys.all fun cid =>
    !(s.history.records cid).keepsHistory || isFresh s.bound (s.history.records cid).messages

/-- An erase begins while no attempt and no call of `connect` has an identity, and the storage
confirms it. No old preference is migrated before the erase removes it. When the files are
cleared, nothing that may still be saved is from before, and later the history is not switched on
for a session that shows older messages. -/
def bringsNothing (s : EraseApp ρ) : Action ρ → Bool
  | .eraseStart confirmed =>
    (confirmed || keysOf s.storage = []) &&
      ((List.range s.engine.nextConnectionId).all fun cid => s.engine.taskKeys cid = []) &&
        s.history.app.inFlight.all fun call => (s.progress call.ticket).keys = []
  | .gotIdentity ticket failed =>
    s.erase ≠ .deleting || failed || s.progress ticket ≠ .reading none ||
      (keysOf s.legacy).all (· ∉ s.erased)
  | .eraseClear _ => pendingFresh s
  | .history action => s.erase ≠ .done || keepsFresh s.bound s.history action
  | _ => true

/-- The platform clears the files, or there is nothing from before the erase in them. -/
def clearsFiles (s : EraseApp ρ) (action : Action ρ) : Prop :=
  action = .eraseClear false → ∀ name, isFresh s.bound (s.history.files name) = true

section Engine

variable {good : Nat → Prop} {e f : IdentityEngine}

/-- All keys of the engine are of one kind. -/
structure KeysOnly (good : Nat → Prop) (e : IdentityEngine) : Prop where
  stash : ∀ k ∈ keysOf e.stash, good k
  tasks : ∀ cid, ∀ k ∈ e.taskKeys cid, good k

/-- A step of `do_connect` goes on with the key of the stash, a new one or its own, and leaves in
the stash what there was or its own. -/
theorem task_step {action : IdentityEngine.Action} (task : action.ofTask = true)
    (taken : e.step action = some f) : ∃ cid stage, e.connectTasks cid ≠ none ∧
      f.connectTasks = Function.update e.connectTasks cid stage ∧
      f.nextConnectionId = e.nextConnectionId ∧
      (∀ k ∈ keysOf f.stash, k ∈ keysOf e.stash ∨ k ∈ e.taskKeys cid) ∧
      ∀ k ∈ stageKeys stage, k ∈ keysOf e.stash ∨ k ∈ e.taskKeys cid ∨
        ∃ generated, action = .takeIdentity cid generated ∧ k = generated.key := by
  have own : ∀ {cid stage}, e.connectTasks cid = some stage →
      e.connectTasks cid ≠ none ∧ e.taskKeys cid = stageKeys (some stage) :=
    fun at_ => ⟨fun none => (nomatch at_.symm.trans none), congrArg stageKeys at_⟩
  cases action with
  | takeIdentity cid generated =>
    simp only [IdentityEngine.step, IdentityEngine.takeIdentity] at taken
    split at taken
    next at_ =>
      obtain rfl := Option.some.inj taken
      refine ⟨cid, _, (own at_).1, rfl, rfl, (fun _ listed => nomatch listed), fun k listed => ?_⟩
      obtain rfl := List.mem_singleton.mp listed
      cases found : e.stash.bind IdentityJson.read with
      | none => exact .inr (.inr ⟨generated, rfl, rfl⟩)
      | some identity => exact .inl (by simp [keysOf, found])
    · cases taken
  | raiseLevel cid needed reached =>
    simp only [IdentityEngine.step, IdentityEngine.raiseLevel] at taken
    split at taken
    next at_ =>
      split at taken
      · obtain rfl := Option.some.inj taken
        refine ⟨cid, _, (own at_).1, rfl, rfl, fun _ => .inl, fun k listed => .inr (.inl ?_)⟩
        exact (own at_).2 ▸ listed
      · cases taken
    · cases taken
  | failConnect cid =>
    simp only [IdentityEngine.step, IdentityEngine.failConnect] at taken
    split at taken
    next at_ =>
      obtain rfl := Option.some.inj taken
      exact ⟨cid, none, (own at_).1, rfl, rfl, fun _ => .inl, fun _ listed => nomatch listed⟩
    · cases taken
  | announce cid =>
    simp only [IdentityEngine.step, IdentityEngine.announce] at taken
    split at taken
    next at_ =>
      obtain rfl := Option.some.inj taken
      refine ⟨cid, _, (own at_).1, rfl, rfl, fun _ => .inl, fun k listed => .inr (.inl ?_)⟩
      exact (own at_).2 ▸ listed
    · cases taken
  | putBack cid =>
    simp only [IdentityEngine.step, IdentityEngine.putBack] at taken
    split at taken
    next at_ =>
      obtain rfl := Option.some.inj taken
      refine ⟨cid, none, (own at_).1, rfl, rfl, fun k listed => .inr ?_,
        fun _ listed => nomatch listed⟩
      exact (own at_).2 ▸ listed
    · cases taken
  | _ => cases task

/-- A task that goes on with a key of the kind, or ends. -/
theorem KeysOnly.setTask (only : KeysOnly good e) {cid : ConnectionId}
    (stage : Option ConnectStage) (own : ∀ k ∈ stageKeys stage, good k)
    (stash : ∀ k ∈ keysOf f.stash, good k)
    (tasks : f.connectTasks = Function.update e.connectTasks cid stage) : KeysOnly good f := by
  refine ⟨stash, fun other => ?_⟩
  simp only [IdentityEngine.taskKeys, tasks, Function.update_apply]
  split
  · exact own
  · exact only.tasks other

theorem KeysOnly.setIdentity (only : KeysOnly good e) {json : IdentityJson}
    (pushed : ∀ k ∈ keysOf (some json), good k) : KeysOnly good (e.setIdentity (some json)) := by
  refine ⟨?_, only.tasks⟩
  simp only [IdentityEngine.setIdentity]
  split
  · exact fun _ listed => nomatch listed
  · exact pushed

theorem KeysOnly.connect (only : KeysOnly good e) : KeysOnly good e.connect.1 :=
  only.setTask (some .spawned) (fun _ listed => nomatch listed) only.stash rfl

theorem KeysOnly.cancelConnect (only : KeysOnly good e) (cid : ConnectionId) :
    KeysOnly good (e.cancelConnect cid) := by
  unfold IdentityEngine.cancelConnect
  split
  · exact only.setTask none (fun _ listed => nomatch listed) only.stash rfl
  · exact only.setTask none (fun _ listed => nomatch listed) only.stash rfl
  · exact only

theorem KeysOnly.step (only : KeysOnly good e) {action : IdentityEngine.Action}
    (task : action.ofTask = true)
    (made : ∀ cid generated, action = .takeIdentity cid generated → good generated.key)
    (taken : e.step action = some f) : KeysOnly good f := by
  obtain ⟨cid, stage, -, tasks, -, stash, keys⟩ := task_step task taken
  refine only.setTask stage (fun k listed => ?_) (fun k listed => ?_) tasks
  · rcases keys k listed with old | own | ⟨generated, rfl, rfl⟩
    · exact only.stash k old
    · exact only.tasks cid k own
    · exact made cid generated rfl
  · exact (stash k listed).elim (only.stash k) (only.tasks cid k)

/-- Tasks only have the numbers that the engine has given. -/
def TasksGiven (e : IdentityEngine) : Prop :=
  ∀ cid, e.nextConnectionId ≤ cid → e.connectTasks cid = none

theorem TasksGiven.setTask (numbered : TasksGiven e) {cid : ConnectionId}
    {stage : Option ConnectStage} (known : stage = none ∨ e.connectTasks cid ≠ none)
    (next : f.nextConnectionId = e.nextConnectionId)
    (tasks : f.connectTasks = Function.update e.connectTasks cid stage) : TasksGiven f := by
  intro other late
  rw [next] at late
  rw [tasks, Function.update_apply]
  split
  next same => exact known.elim id fun there => absurd (same ▸ numbered other late) there
  · exact numbered other late

theorem TasksGiven.connect (numbered : TasksGiven e) : TasksGiven e.connect.1 := by
  intro other late
  have later : e.nextConnectionId + 1 ≤ other := late
  have different : other ≠ e.nextConnectionId := Nat.ne_of_gt later
  exact (Function.update_of_ne different ..).trans (numbered other (Nat.le_of_succ_le later))

theorem TasksGiven.cancelConnect (numbered : TasksGiven e) (cid : ConnectionId) :
    TasksGiven (e.cancelConnect cid) := by
  unfold IdentityEngine.cancelConnect
  split
  · exact numbered.setTask (.inl rfl) rfl rfl
  · exact numbered.setTask (.inl rfl) rfl rfl
  · exact numbered

theorem TasksGiven.step (numbered : TasksGiven e) {action : IdentityEngine.Action}
    (task : action.ofTask = true) (taken : e.step action = some f) : TasksGiven f := by
  obtain ⟨cid, stage, there, tasks, next, -⟩ := task_step task taken
  exact numbered.setTask (.inr there) next tasks

end Engine

section Calls

variable {s : EraseApp ρ} {ticket : Nat}

/-- Once the erase has begun, nothing under way has a key from before. -/
structure Forgotten (s : EraseApp ρ) : Prop where
  logged : s.bound ≤ s.history.logged
  engine : KeysOnly (· ∉ s.erased) s.engine
  storage : ∀ k ∈ keysOf s.storage, k ∉ s.erased
  calls : ∀ ticket, s.isWaiting ticket = true → ∀ k ∈ (s.progress ticket).keys, k ∉ s.erased
  legacy : s.erase ≠ .deleting → keysOf s.legacy = []

theorem Forgotten.held (forgotten : Forgotten s) {progress : ConnectProgress}
    (waits : s.isWaiting ticket = true) (at_ : s.progress ticket = progress) :
    ∀ k ∈ progress.keys, k ∉ s.erased :=
  at_ ▸ forgotten.calls ticket waits

/-- A call of `connect` goes on, and the erase does not. -/
theorem Forgotten.setProgress (forgotten : Forgotten s) (ticket : Nat) (progress : ConnectProgress)
    (keys : ∀ k ∈ progress.keys, k ∉ s.erased) : Forgotten (s.setProgress ticket progress) := by
  refine { forgotten with calls := fun other waits => ?_ }
  simp only [EraseApp.setProgress, Function.update_apply]
  split
  · exact keys
  · exact forgotten.calls other waits

theorem Forgotten.pushIdentity (forgotten : Forgotten s) (ticket : Nat) (json : IdentityJson)
    (keys : ∀ k ∈ keysOf (some json), k ∉ s.erased) : Forgotten (s.pushIdentity ticket json) :=
  { forgotten.setProgress ticket .preparing (fun _ listed => nomatch listed) with
    engine := forgotten.engine.setIdentity keys }

/-- A step of the history, whose new calls are at their start. -/
theorem Forgotten.withHistory (forgotten : Forgotten s) {history : HistoryApp ρ}
    (logged : s.history.logged ≤ history.logged) : Forgotten (s.withHistory history) := by
  refine { forgotten with logged := forgotten.logged.trans logged, calls := fun other waits => ?_ }
  simp only [EraseApp.withHistory]
  split
  next before => exact forgotten.calls other before
  · exact fun _ listed => nomatch listed

end Calls

/-- The erased keys and messages are under way nowhere. -/
structure Unknown [Inhabited ρ] (s : EraseApp ρ) : Prop where
  unlisted : Unlisted s.history
  numbered : TasksGiven s.engine
  forgotten : s.erase ≠ .untouched → Forgotten s
  fresh : s.erase = .done → FreshHistory s.bound s.history

section Steps

variable [Inhabited ρ] {s t : EraseApp ρ} {ticket : Nat}

/-- A step that leaves the history and the erase as they are. -/
theorem Unknown.same (unknown : Unknown s) (history : t.history = s.history)
    (erase : t.erase = s.erase) (bound : t.bound = s.bound) (numbered : TasksGiven t.engine)
    (forgotten : Forgotten s → Forgotten t) : Unknown t := by
  refine ⟨history ▸ unknown.unlisted, numbered, ?_, ?_⟩
  · rw [erase]
    exact fun begun => forgotten (unknown.forgotten begun)
  · rw [erase, bound, history]
    exact unknown.fresh

theorem unknown_readIdentity (unknown : Unknown s) (taken : s.readIdentity ticket = some t) :
    Unknown t := by
  simp only [readIdentity, Option.ite_none_right_eq_some, Option.some.injEq] at taken
  obtain ⟨-, rfl⟩ := taken
  exact unknown.same rfl rfl rfl unknown.numbered fun forgotten =>
    forgotten.setProgress ticket _ forgotten.storage

theorem unknown_gotIdentity (unknown : Unknown s) {failed : Bool}
    (met : bringsNothing s (.gotIdentity ticket failed) = true)
    (taken : s.gotIdentity ticket failed = some t) : Unknown t := by
  unfold gotIdentity at taken
  split at taken
  next value waits at_ =>
    have none : ∀ {k}, k ∈ ConnectProgress.preparing.keys → k ∉ s.erased :=
      fun listed => nomatch listed
    split at taken
    · obtain rfl := Option.some.inj taken
      exact unknown.same rfl rfl rfl unknown.numbered fun forgotten =>
        forgotten.setProgress ticket _ fun _ => none
    next goesOn =>
      split at taken
      next json =>
        obtain rfl := Option.some.inj taken
        refine unknown.same rfl rfl rfl unknown.numbered fun forgotten => ?_
        exact forgotten.pushIdentity ticket json (forgotten.held waits at_)
      next json stored =>
        obtain rfl := Option.some.inj taken
        refine unknown.same rfl rfl rfl unknown.numbered fun forgotten => ?_
        have keys : ∀ k ∈ keysOf (some json), k ∉ s.erased := by
          by_cases deletes : s.erase = .deleting
          · simpa [bringsNothing, deletes, goesOn, at_, stored] using met
          · rw [← stored, forgotten.legacy deletes]
            exact fun _ listed => nomatch listed
        exact { forgotten.setProgress ticket (.migrating json) keys with storage := keys }
      · obtain rfl := Option.some.inj taken
        exact unknown.same rfl rfl rfl unknown.numbered fun forgotten =>
          forgotten.setProgress ticket _ fun _ => none
  · cases taken

theorem unknown_removeLegacy (unknown : Unknown s) (taken : s.removeLegacy ticket = some t) :
    Unknown t := by
  unfold removeLegacy at taken
  split at taken
  next json waits at_ =>
    obtain rfl := Option.some.inj taken
    refine unknown.same rfl rfl rfl unknown.numbered fun forgotten => ?_
    have held := forgotten.held waits at_
    exact { forgotten.setProgress ticket (.removing json) held with legacy := fun _ => rfl }
  · cases taken

theorem unknown_resumeConnect (unknown : Unknown s) (taken : s.resumeConnect ticket = some t) :
    Unknown t := by
  unfold resumeConnect at taken
  split at taken
  next json waits at_ =>
    obtain rfl := Option.some.inj taken
    exact unknown.same rfl rfl rfl unknown.numbered fun forgotten =>
      forgotten.pushIdentity ticket json (forgotten.held waits at_)
  · cases taken

/-- What the engine has is saved. -/
theorem unknown_saveIdentity (unknown : Unknown s) (refused : Bool) :
    Unknown (s.saveIdentity refused) := by
  unfold saveIdentity IdentityEngine.getIdentity
  dsimp only
  split
  · exact unknown.same rfl rfl rfl unknown.numbered fun forgotten => { forgotten with }
  next json stashed =>
    split
    · exact unknown.same rfl rfl rfl unknown.numbered fun forgotten => { forgotten with }
    · refine unknown.same rfl rfl rfl unknown.numbered fun forgotten => ?_
      exact { forgotten with storage := stashed ▸ forgotten.engine.stash }

theorem unknown_finishSave (unknown : Unknown s) (taken : s.finishSave = some t) : Unknown t := by
  simp only [finishSave, Option.ite_none_right_eq_some, Option.some.injEq] at taken
  obtain ⟨-, rfl⟩ := taken
  exact unknown.same rfl rfl rfl unknown.numbered fun forgotten =>
    { forgotten with legacy := fun _ => rfl }

theorem unknown_engineStep (unknown : Unknown s) {action : IdentityEngine.Action}
    (taken : s.engineStep action = some t) : Unknown t := by
  simp only [engineStep, Option.ite_none_right_eq_some, Bool.and_eq_true,
    Option.map_eq_some_iff] at taken
  obtain ⟨⟨task, isNew⟩, engine, stepped, rfl⟩ := taken
  refine unknown.same rfl rfl rfl (unknown.numbered.step task stepped) fun forgotten => ?_
  refine { forgotten with
    engine := forgotten.engine.step task (fun cid generated same => ?_) stepped }
  subst same
  exact of_decide_eq_true isNew

/-- A step of the history keeps everything fresh where it is after the erase. -/
theorem Unknown.withHistory (unknown : Unknown s) {action : HistoryApp.Action ρ}
    {history : HistoryApp ρ} (met : s.erase = .done → keepsFresh s.bound s.history action = true)
    (taken : s.history.step action = some history) : Unknown (s.withHistory history) where
  unlisted := unlisted_step unknown.unlisted taken
  numbered := unknown.numbered
  forgotten begun := (unknown.forgotten begun).withHistory (logged_step taken)
  fresh done := by
    have begun : s.erase ≠ .untouched := fun same => nomatch same.symm.trans done
    exact fresh_step (unknown.fresh done) (unknown.forgotten begun).logged (met done) taken

theorem unknown_historyStep (unknown : Unknown s) {action : HistoryApp.Action ρ}
    (met : bringsNothing s (.history action) = true) (taken : s.historyStep action = some t) :
    Unknown t := by
  have free : s.erase = .done → keepsFresh s.bound s.history action = true := by
    intro done
    simpa [bringsNothing, done] using met
  unfold historyStep at taken
  split at taken
  · cases taken
  · cases taken
  · cases taken
  · obtain ⟨history, stepped, rfl⟩ := Option.map_eq_some_iff.mp taken
    exact unknown.withHistory free stepped

theorem unknown_completeConnect (unknown : Unknown s) {call : ConnectCall}
    {reply : Option ConnectionId} (taken : s.completeConnect call reply = some t) : Unknown t := by
  simp only [completeConnect, Option.ite_none_right_eq_some, Option.bind_eq_some_iff] at taken
  obtain ⟨-, history, stepped, taken⟩ := taken
  have told := unknown.withHistory (fun _ => rfl) stepped
  split at taken
  · obtain rfl := Option.some.inj taken
    exact told
  · split at taken
    · obtain rfl := Option.some.inj taken
      exact told.same rfl rfl rfl unknown.numbered.connect fun forgotten =>
        { forgotten with engine := forgotten.engine.connect }
    · cases taken

theorem unknown_cancelConnect (unknown : Unknown s) {cid : ConnectionId}
    (taken : s.cancelConnect cid = some t) : Unknown t := by
  obtain ⟨history, stepped, rfl⟩ := Option.map_eq_some_iff.mp taken
  have told := unknown.withHistory (fun _ => rfl) stepped
  exact told.same rfl rfl rfl (unknown.numbered.cancelConnect cid) fun forgotten =>
    { forgotten with engine := forgotten.engine.cancelConnect cid }

/-- The sessions that the erase disconnects stay in the table, and no call is touched. -/
theorem disconnectActive_frame (a : Notifier) : a.disconnectActive.inFlight = a.inFlight ∧
    ∀ cid ∈ a.sessions.keys, cid ∈ a.disconnectActive.sessions.keys := by
  have one : ∀ (b : Notifier) (cid : ConnectionId),
      (b.disconnectIfActive cid).inFlight = b.inFlight ∧
      ∀ other ∈ b.sessions.keys, other ∈ (b.disconnectIfActive cid).sessions.keys := by
    intro b cid
    unfold Notifier.disconnectIfActive
    split
    · refine ⟨?_, fun other listed => ?_⟩
      · unfold Notifier.disconnect
        dsimp only
        split <;> rfl
      · have wrote := Notifier.wrote_disconnect b cid
        exact wrote.sessions ▸ Notifier.mem_listedWith.mpr (.inl listed)
    · exact ⟨rfl, fun _ => id⟩
  unfold Notifier.disconnectActive
  generalize a.order = order
  induction order generalizing a with
  | nil => exact ⟨rfl, fun _ => id⟩
  | cons cid order ih =>
    obtain ⟨inFlight, keys⟩ := ih (a.disconnectIfActive cid)
    exact ⟨inFlight.trans (one a cid).1,
      fun other listed => keys other ((one a cid).2 other listed)⟩

theorem unknown_eraseStart (unknown : Unknown s) {confirmed : Bool}
    (met : bringsNothing s (.eraseStart confirmed) = true)
    (taken : s.eraseStart confirmed = some t) : Unknown t := by
  simp only [bringsNothing, Bool.and_eq_true, Bool.or_eq_true, decide_eq_true_eq,
    List.all_eq_true, List.mem_range] at met
  obtain ⟨⟨storage, tasks⟩, calls⟩ := met
  simp only [eraseStart, Option.ite_none_left_eq_some, Option.some.injEq] at taken
  obtain ⟨-, rfl⟩ := taken
  obtain ⟨inFlight, keys⟩ := disconnectActive_frame s.history.app
  refine ⟨fun cid gone => ?_, unknown.numbered, fun _ => ?_, fun done => nomatch done⟩
  · exact unknown.unlisted cid fun listed => gone (keys cid listed)
  · refine ⟨le_refl _, ⟨fun _ listed => (nomatch listed), fun cid => ?_⟩, ?_,
      fun ticket waits => ?_, fun deletes => absurd rfl deletes⟩
    · have empty : s.engine.taskKeys cid = [] := by
        by_cases given : cid < s.engine.nextConnectionId
        · exact tasks cid given
        · rw [IdentityEngine.taskKeys, unknown.numbered cid (Nat.le_of_not_lt given)]
          rfl
      intro k listed
      exact nomatch (empty ▸ (show k ∈ s.engine.taskKeys cid from listed))
    · rcases storage with confirmed | none
      · simp [confirmed, keysOf]
      · split
        · exact fun _ listed => nomatch listed
        · rw [none]
          exact fun _ listed => nomatch listed
    · have waiting : s.history.app.inFlight.any (·.ticket = ticket) = true := by
        rw [← inFlight]
        exact waits
      obtain ⟨call, listed, same⟩ := List.any_eq_true.mp waiting
      rw [← of_decide_eq_true same, calls call listed]
      exact fun _ listed => nomatch listed

theorem unknown_eraseRemove (unknown : Unknown s) (taken : s.eraseRemove = some t) :
    Unknown t := by
  simp only [eraseRemove, Option.ite_none_right_eq_some, Option.some.injEq] at taken
  obtain ⟨deletes, rfl⟩ := taken
  have forgotten := unknown.forgotten (by rw [deletes]; decide)
  exact
    { unlisted := unknown.unlisted
      numbered := unknown.numbered
      forgotten := fun _ => { forgotten with legacy := fun _ => rfl }
      fresh := fun done => nomatch done }

/-- When the files are cleared, nothing from before waits to be saved. -/
theorem unknown_eraseClear (unknown : Unknown s) {cleared : Bool} (pending : pendingFresh s = true)
    (clears : clearsFiles s (.eraseClear cleared)) (taken : s.eraseClear cleared = some t) :
    Unknown t := by
  simp only [eraseClear, Option.ite_none_right_eq_some, Option.some.injEq] at taken
  obtain ⟨removes, rfl⟩ := taken
  have forgotten := unknown.forgotten (by rw [removes]; decide)
  simp only [pendingFresh, Bool.and_eq_true, List.all_eq_true, Bool.or_eq_true,
    Bool.not_eq_true'] at pending
  obtain ⟨⟨timers, restores⟩, records⟩ := pending
  refine ⟨unknown.unlisted, unknown.numbered,
    fun _ => { forgotten with legacy := fun _ => forgotten.legacy (by rw [removes]; decide) },
    fun _ => ⟨fun name => ?_, fun cid snapshot waits => ?_, restores, fun cid keeps => ?_⟩⟩
  · cases cleared with
    | true => exact isFresh_nil
    | false => exact clears rfl name
  · exact timers snapshot (LinkedMap.mem_values.mpr ⟨cid, waits⟩)
  · have listed : cid ∈ s.history.app.sessions.keys := by
      refine unknown.unlisted.listed fun new => ?_
      rw [new] at keeps
      cases keeps
    exact (records cid listed).resolve_left fun off => nomatch off.symm.trans keeps

theorem unknown_restart (unknown : Unknown s) : Unknown s.restart := by
  have done : s.restart.erase ≠ .untouched → s.erase = .done := by
    intro begun
    by_contra other
    exact begun (if_neg other)
  refine ⟨fun _ _ => rfl, fun _ _ => rfl, fun begun => ?_, fun finished => ?_⟩
  · have before := done begun
    have forgotten := unknown.forgotten (by rw [before]; decide)
    exact
      { logged := forgotten.logged
        engine := ⟨fun _ listed => (nomatch listed), fun _ _ listed => nomatch listed⟩
        storage := forgotten.storage
        calls := fun _ waits => nomatch waits
        legacy := fun _ => forgotten.legacy (by rw [before]; decide) }
  · have before : s.erase = .done := done fun same => nomatch same.symm.trans finished
    have fresh := unknown.fresh before
    have again : s.history.step .restart = some s.history.restart := rfl
    have forgotten := unknown.forgotten (by rw [before]; decide)
    exact fresh_step fresh forgotten.logged rfl again

theorem unknown_step (unknown : Unknown s) {action : Action ρ}
    (met : bringsNothing s action = true) (clears : clearsFiles s action)
    (taken : s.step action = some t) : Unknown t := by
  simp only [step, Option.ite_none_left_eq_some] at taken
  obtain ⟨-, taken⟩ := taken
  cases action with
  | history action => exact unknown_historyStep unknown met taken
  | readIdentity ticket => exact unknown_readIdentity unknown taken
  | gotIdentity ticket failed => exact unknown_gotIdentity unknown met taken
  | removeLegacy ticket => exact unknown_removeLegacy unknown taken
  | resumeConnect ticket => exact unknown_resumeConnect unknown taken
  | completeConnect call reply => exact unknown_completeConnect unknown taken
  | saveIdentity refused =>
    simp only [next, Option.ite_none_right_eq_some, Option.some.injEq] at taken
    obtain ⟨-, rfl⟩ := taken
    exact unknown_saveIdentity unknown refused
  | finishSave => exact unknown_finishSave unknown taken
  | cancelConnect cid => exact unknown_cancelConnect unknown taken
  | eraseStart confirmed => exact unknown_eraseStart unknown met taken
  | eraseRemove => exact unknown_eraseRemove unknown taken
  | eraseClear cleared => exact unknown_eraseClear unknown met clears taken
  | engine action => exact unknown_engineStep unknown taken
  | restart =>
    obtain rfl := Option.some.inj taken
    exact unknown_restart unknown

theorem unknown_build (storage legacy : Option IdentityJson) :
    Unknown (build storage legacy : EraseApp ρ) where
  unlisted _ _ := rfl
  numbered _ _ := rfl
  forgotten begun := absurd rfl begun
  fresh done := nomatch done

end Steps

/-- In a run whose steps all meet the condition, what was erased is in no state back. -/
theorem erased_for_good [Inhabited ρ] {storage legacy : Option IdentityJson}
    {actions : List (Action ρ)} {s : EraseApp ρ}
    (run : Run step (fun t action => bringsNothing t action = true ∧ clearsFiles t action)
      (build storage legacy) actions s) : StaysErased s := by
  have unknown : Unknown s := run.invariant Unknown (unknown_build storage legacy)
    fun _ _ _ unknown met taken => unknown_step unknown met.1 met.2 taken
  exact
    { files := fun done => (unknown.fresh done).files
      storage := fun begun => (unknown.forgotten begun).storage
      stash := fun begun => (unknown.forgotten begun).engine.stash }

def ownIdentity : IdentityJson := .identity ⟨7, 8⟩

/-- The user connects with the stored identity, switches the history on and gets a message. -/
def beforeErase : List (Action Unit) :=
  let request : ConnectRequest := ⟨"host", "me", none, none, none⟩
  [.history (.table (.table (.connect request))), .readIdentity 0, .gotIdentity 0 false,
    .completeConnect ⟨0, request, .user, 0⟩ (some 1), .saveIdentity false, .finishSave,
    .engine (.takeIdentity 1 ⟨9, 8⟩), .engine (.announce 1), .engine (.putBack 1),
    .history (.connected 1 ⟨some 5, "", 0, [], []⟩ "server" ""),
    .history (.setChatHistoryEnabled true), .history (.textMessage 1 "Anna" 7 2 "hello" false)]

/-- The erase, during which the disconnect is told. -/
def eraseAll : List (Action Unit) :=
  [.eraseStart true, .eraseRemove, .history (.disconnected 1 true lowestDraw),
    .eraseClear true]

def isCleared : Action Unit → Bool
  | .eraseClear cleared => cleared
  | _ => true

/-- The save is over before the erase begins. -/
theorem erased_for_good_saved : ∃ s : EraseApp Unit,
    Run step (fun t action => bringsNothing t action = true ∧ clearsFiles t action)
        (build (some ownIdentity) none)
        (beforeErase ++ [.history (.fireSaveTimer 1)] ++ eraseAll) s ∧
      (s.erase = .done ∧ s.bound = 1 ∧ 7 ∈ s.erased) ∧ StaysErased s := by
  obtain ⟨s, run, shown⟩ := reaches_of_guarded
    (fun s action => bringsNothing s action && isCleared action)
    (show (exec (guarded _ step) (build (some ownIdentity) none)
        (beforeErase ++ [.history (.fireSaveTimer 1)] ++ eraseAll)).any
      (fun s : EraseApp Unit => s.erase = .done ∧ s.bound = 1 ∧ 7 ∈ s.erased) = true by
        decide +kernel)
  have implied : ∀ (t : EraseApp Unit) (action : Action Unit),
      (bringsNothing t action && isCleared action) = true →
        bringsNothing t action = true ∧ clearsFiles t action := by
    intro t action both
    obtain ⟨brings, clears⟩ := Bool.and_eq_true_iff.mp both
    refine ⟨brings, ?_⟩
    rintro rfl
    cases clears
  have met := run.weaken implied
  exact ⟨s, met, of_decide_eq_true shown, erased_for_good met⟩

/-- The erase is done, and nothing is under way any more. -/
def isOver (s : EraseApp ρ) : Bool :=
  s.erase = .done && !s.saving && s.removals = 0 && s.history.historySaveTimer.keys = [] &&
    s.history.restores.isEmpty && s.history.app.inFlight = [] &&
    ((List.range s.engine.nextConnectionId).all fun cid => s.engine.connectTasks cid = none) &&
    (s.history.app.sessions.keys.all fun cid => !(s.history.app.stateOf cid).connected &&
      !(s.history.app.stateOf cid).connecting) &&
    s.history.app.rt.keys.all fun cid =>
      ((s.history.app.rt.find cid).bind (·.reconnectTimer)).isNone

/-- The message comes less than three seconds before the erase, and its save fires after it. -/
theorem save_survives_erase : ¬ ∀ (storage legacy : Option IdentityJson)
    (actions : List (Action Unit)) (s : EraseApp Unit),
    Run step anyStep (build storage legacy) actions s → isOver s = true → StaysErased s := by
  intro stays
  obtain ⟨s, run, shown⟩ := reaches_of_exec anyStep (fun _ _ _ => trivial)
    (show (exec step (build (some ownIdentity) none)
        (beforeErase ++ eraseAll ++ [.history (.fireSaveTimer 1)])).any
      (fun s : EraseApp Unit => isOver s &&
        !isFresh s.bound (s.history.files (ChatHistoryService.fileNameFor "server"))) = true by
        decide +kernel)
  obtain ⟨finished, old⟩ := Bool.and_eq_true_iff.mp shown
  have done : s.erase = .done := by
    simp only [isOver, Bool.and_assoc, Bool.and_eq_true, decide_eq_true_eq] at finished
    exact finished.1
  simp [(stays _ _ _ s run finished).files done] at old

end Nek0.Guarantees
