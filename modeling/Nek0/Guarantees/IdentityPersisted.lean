import Nek0.Guarantees.IdentityKept
import Nek0.Source.IdentityStorage

/-!
# The identity of a session is stored

Once the `connected` event of a session was handled and all writes are done, the secure
storage holds the identity of that session, perhaps at a higher level, in the runs in
which the app has read that identity before and no write loses a stored one. Nothing is
saved when the event comes in.
-/

namespace Nek0.Guarantees

open Nek0.Library Nek0.Source

/-- What the storage will hold once all writes are done. -/
def comingStorage (a : IdentityApp) : Option IdentityJson :=
  (a.writes.map (·.json)).getLast?.or a.storage

def StoresAtLeast (json : Option IdentityJson) (identity : Identity) : Prop :=
  ∃ stored, json.bind IdentityJson.read = some stored ∧ Raises stored identity = true

/-- With no write on its way, the storage has every user who was told to be connected. -/
def Persisted (a : IdentityApp) : Prop :=
  a.writes = [] → ∀ identity ∈ a.handled, StoresAtLeast a.storage identity

/-- The text has the identity that is stored, or is to be stored, at its level at least. -/
def losesNothing (a : IdentityApp) (json : IdentityJson) : Bool :=
  ((comingStorage a).bind IdentityJson.read).all fun stored =>
    json.read.any fun identity => Raises identity stored

/-- No write loses a stored identity, and the app has already read the identity of a
session whose `connected` event it handles. -/
def persisting (a : IdentityApp) : IdentityApp.Action → Bool
  | .readStorage _ failed => failed || a.storage.isSome || a.legacy.all (losesNothing a)
  | .saveIdentity => a.engine.stash.all (losesNothing a)
  | .handleConnected =>
    match a.engine.events with
    | [] => true
    | (connId, identity) :: _ => !decide (connId ∈ a.sessions) || decide (identity ∈ a.seen)
  | _ => true

/-- What was read is stored, or will be. -/
structure Recorded (a : IdentityApp) : Prop where
  seen : ∀ identity ∈ a.seen, StoresAtLeast (comingStorage a) identity
  storage : ∀ identity, a.storage.bind IdentityJson.read = some identity →
    StoresAtLeast (comingStorage a) identity
  writes : ∀ write ∈ a.writes, ∀ identity, write.json.read = some identity → identity ∈ a.seen
  migrated : ∀ call json, a.calls call = some (.migrated json) →
    ∀ identity, json.read = some identity → identity ∈ a.seen
  handled : ∀ identity ∈ a.handled, identity ∈ a.seen

theorem Recorded.persisted {a : IdentityApp} (recorded : Recorded a) : Persisted a := by
  intro done identity handled
  have stored := recorded.seen identity (recorded.handled identity handled)
  rwa [comingStorage, done] at stored

section Recorded

variable {a : IdentityApp}

/-- A step that neither reads nor writes an identity. -/
theorem recorded_of_same (recorded : Recorded a) {b : IdentityApp}
    (storage : b.storage = a.storage) (writes : b.writes = a.writes) (seen : b.seen = a.seen)
    (handled : b.handled = a.handled)
    (calls : ∀ call json, b.calls call = some (.migrated json) →
      a.calls call = some (.migrated json)) : Recorded b := by
  have coming : comingStorage b = comingStorage a := by
    unfold comingStorage
    rw [writes, storage]
  constructor
  · rw [seen, coming]
    exact recorded.seen
  · rw [storage, coming]
    exact recorded.storage
  · rw [writes, seen]
    exact recorded.writes
  · intro call json waits
    rw [seen]
    exact recorded.migrated call json (calls call json waits)
  · rw [handled, seen]
    exact recorded.handled

theorem recorded_setCall (recorded : Recorded a) (call : Nat) {wait : Option ConnectWait}
    (plain : ∀ json, wait ≠ some (.migrated json)) : Recorded (a.setCall call wait) := by
  refine recorded_of_same recorded rfl rfl rfl rfl fun other json waits => ?_
  unfold IdentityApp.setCall at waits
  dsimp only at waits
  by_cases same : other = call
  · subst same
    rw [Function.update_self] at waits
    exact absurd waits (plain json)
  · rwa [Function.update_of_ne same] at waits

theorem comingStorage_put (a : IdentityApp) (write : StorageWrite) :
    comingStorage (a.put write) = some write.json := by
  simp [comingStorage, IdentityApp.put]

theorem recorded_put (recorded : Recorded a) (write : StorageWrite)
    (kept : losesNothing a write.json = true) : Recorded (a.put write) := by
  have before : ∀ identity, StoresAtLeast (comingStorage a) identity →
      StoresAtLeast (comingStorage (a.put write)) identity := by
    rintro identity ⟨stored, coming, raised⟩
    simp only [losesNothing, coming, Option.all_some, Option.any_eq_true] at kept
    obtain ⟨written, read, more⟩ := kept
    exact ⟨written, by simp [comingStorage_put, read], Raises.trans more raised⟩
  refine ⟨?_, fun identity stored => before identity (recorded.storage identity stored), ?_, ?_, ?_⟩
  · intro identity listed
    rcases List.mem_append.mp listed with listed | listed
    · exact before identity (recorded.seen identity listed)
    · rw [Option.mem_toList] at listed
      exact ⟨identity, by simp [comingStorage_put, listed], Raises.refl identity⟩
  · intro other listed identity read
    rcases List.mem_append.mp listed with listed | listed
    · exact List.mem_append_left _ (recorded.writes other listed identity read)
    · rw [List.mem_singleton] at listed
      subst listed
      exact List.mem_append_right _ (Option.mem_toList.mpr read)
  · intro call json waits identity read
    exact List.mem_append_left _ (recorded.migrated call json waits identity read)
  · intro identity handled
    exact List.mem_append_left _ (recorded.handled identity handled)

/-- The engine gets what is stored, or will be. -/
theorem recorded_pushIdentity (recorded : Recorded a) (call : Nat) {json : IdentityJson}
    (stored : ∀ identity, json.read = some identity → StoresAtLeast (comingStorage a) identity) :
    Recorded (a.pushIdentity call json) := by
  have set : Recorded (a.setCall call (some .preparing)) :=
    recorded_setCall recorded call (by simp)
  refine ⟨?_, set.storage, ?_, ?_, ?_⟩
  · intro identity listed
    rcases List.mem_append.mp listed with listed | listed
    · exact set.seen identity listed
    · exact stored identity (Option.mem_toList.mp listed)
  · intro write listed identity read
    exact List.mem_append_left _ (set.writes write listed identity read)
  · intro other json waits identity read
    exact List.mem_append_left _ (set.migrated other json waits identity read)
  · intro identity handled
    exact List.mem_append_left _ (set.handled identity handled)

theorem recorded_readStorage (recorded : Recorded a) {b : IdentityApp} {call : Nat} {failed : Bool}
    (met : persisting a (.readStorage call failed) = true)
    (read : a.readStorage call failed = some b) : Recorded b := by
  unfold IdentityApp.readStorage at read
  split at read
  next =>
    split at read
    next =>
      obtain rfl := Option.some.inj read
      exact recorded_setCall recorded call (by simp)
    next succeeded =>
      split at read
      next json stored =>
        obtain rfl := Option.some.inj read
        refine recorded_pushIdentity recorded call fun identity has => ?_
        exact recorded.storage identity (by simp [stored, has])
      next json empty old =>
        obtain rfl := Option.some.inj read
        have waits : Recorded (a.setCall call (some .migrating)) :=
          recorded_setCall recorded call (by simp)
        have keeps : losesNothing a json = true := by
          simpa [persisting, succeeded, empty, old] using met
        exact recorded_put waits ⟨json, some call⟩ keeps
      next =>
        obtain rfl := Option.some.inj read
        exact recorded_setCall recorded call (by simp)
  next => cases read

/-- What is stored next was the oldest write. -/
theorem recorded_finishWrite (recorded : Recorded a) {b : IdentityApp}
    (finished : a.finishWrite = some b) : Recorded b := by
  unfold IdentityApp.finishWrite at finished
  split at finished
  · cases finished
  next write writes listed =>
  have written : ∀ identity, write.json.read = some identity → identity ∈ a.seen :=
    recorded.writes write (by simp [listed])
  have coming : comingStorage { a with storage := some write.json, writes, legacy := none } =
      comingStorage a := by
    unfold comingStorage
    rw [listed]
    cases writes with
    | nil => simp
    | cons later writes => simp [List.getLast?_cons]
  have stored : Recorded { a with storage := some write.json, writes, legacy := none } := by
    refine ⟨?_, ?_, ?_, recorded.migrated, recorded.handled⟩
    · rw [coming]
      exact recorded.seen
    · intro identity read
      rw [coming]
      exact recorded.seen identity (written identity read)
    · intro other later
      exact recorded.writes other (by simp [listed, later])
  obtain rfl := Option.some.inj finished
  cases waits : write.call with
  | none => exact stored
  | some call =>
    refine ⟨stored.seen, stored.storage, stored.writes, ?_, stored.handled⟩
    intro other json resumes identity read
    dsimp only [Option.elim, IdentityApp.setCall] at resumes ⊢
    by_cases same : other = call
    · subst same
      rw [Function.update_self] at resumes
      cases resumes
      exact written identity read
    · rw [Function.update_of_ne same] at resumes
      exact recorded.migrated other json resumes identity read

theorem recorded_saveIdentity (recorded : Recorded a)
    (met : persisting a .saveIdentity = true) : Recorded a.saveIdentity := by
  have idle : Recorded { a with saving := false } :=
    recorded_of_same recorded rfl rfl rfl rfl fun _ _ waits => waits
  unfold IdentityApp.saveIdentity
  dsimp only
  split
  next => exact idle
  next json held =>
    have held : a.engine.stash = some json := held
    have keeps : losesNothing a json = true := by simpa [persisting, held] using met
    exact recorded_put idle ⟨json, none⟩ keeps

theorem recorded_handleConnected (recorded : Recorded a) {b : IdentityApp}
    (met : persisting a .handleConnected = true) (handled : a.handleConnected = some b) :
    Recorded b := by
  unfold IdentityApp.handleConnected at handled
  split at handled
  · cases handled
  next connId identity events listed =>
  obtain rfl := Option.some.inj handled
  have popped : Recorded { a with engine := { a.engine with events } } :=
    recorded_of_same recorded rfl rfl rfl rfl fun _ _ waits => waits
  dsimp only
  split
  next present =>
    refine { popped with handled := ?_ }
    intro other mentioned
    rcases List.mem_append.mp mentioned with mentioned | mentioned
    · exact recorded.handled other mentioned
    · rw [List.mem_singleton] at mentioned
      subst mentioned
      simpa [persisting, listed, present] using met
  next => exact popped

theorem recorded_step {b : IdentityApp} {action : IdentityApp.Action} (recorded : Recorded a)
    (met : persisting a action = true) (taken : a.step action = some b) : Recorded b := by
  have unmoved : ∀ engine saving sessions nextCall,
      Recorded { a with engine, saving, sessions, nextCall } := fun _ _ _ _ =>
    recorded_of_same recorded rfl rfl rfl rfl fun _ _ waits => waits
  rw [IdentityApp.step, Option.ite_none_left_eq_some] at taken
  obtain ⟨_, taken⟩ := taken
  cases action with
  | startConnect =>
    obtain rfl := Option.some.inj taken
    have waits : Recorded (a.setCall a.nextCall (some .reading)) :=
      recorded_setCall recorded a.nextCall (by simp)
    exact recorded_of_same waits rfl rfl rfl rfl fun _ _ waits => waits
  | readStorage call failed => exact recorded_readStorage recorded met taken
  | finishWrite => exact recorded_finishWrite recorded taken
  | resumeConnect call =>
    simp only [IdentityApp.next, IdentityApp.resumeConnect] at taken
    split at taken
    next json waits =>
      obtain rfl := Option.some.inj taken
      refine recorded_pushIdentity recorded call fun identity read => ?_
      exact recorded.seen identity (recorded.migrated call json waits identity read)
    next => cases taken
  | callEngine call =>
    simp only [IdentityApp.next, IdentityApp.callEngine] at taken
    split at taken
    next =>
      obtain rfl := Option.some.inj taken
      have ended : Recorded (a.setCall call none) := recorded_setCall recorded call (by simp)
      exact recorded_of_same ended rfl rfl rfl rfl fun _ _ waits => waits
    next => cases taken
  | saveIdentity =>
    simp only [IdentityApp.next, Option.ite_none_right_eq_some, Option.some.injEq] at taken
    obtain ⟨_, rfl⟩ := taken
    exact recorded_saveIdentity recorded met
  | cancelConnect connId =>
    obtain rfl := Option.some.inj taken
    exact unmoved _ _ _ _
  | removeSession connId =>
    obtain rfl := Option.some.inj taken
    exact unmoved _ _ _ _
  | handleConnected => exact recorded_handleConnected recorded met taken
  | engine action =>
    simp only [IdentityApp.next] at taken
    split at taken
    next =>
      obtain ⟨engine, _, rfl⟩ := Option.map_eq_some_iff.mp taken
      exact unmoved engine _ _ _
    next => cases taken

theorem recorded_build (storage legacy : Option IdentityJson) :
    Recorded (.build storage legacy) where
  seen := by simp [IdentityApp.build]
  storage := fun identity stored => ⟨identity, stored, Raises.refl identity⟩
  writes := by simp [IdentityApp.build]
  migrated := by simp [IdentityApp.build]
  handled := by simp [IdentityApp.build]

end Recorded

/-- Whatever the storage holds at first, the identities of connected sessions are stored
in the end while every `connected` event finds its identity read and no write loses one. -/
theorem identities_are_stored (storage legacy : Option IdentityJson)
    (actions : List IdentityApp.Action) (a : IdentityApp)
    (run : Run IdentityApp.step (fun b action => persisting b action = true)
      (.build storage legacy) actions a) : Persisted a := by
  have recorded : Recorded a := run.invariant Recorded (recorded_build storage legacy)
    (fun _ _ _ recorded met taken => recorded_step recorded met taken)
  exact recorded.persisted

/-- The identity of an older version is migrated and used. -/
def migrationHistory : List IdentityApp.Action :=
  [.startConnect, .readStorage 0 false, .finishWrite, .resumeConnect 0, .callEngine 0,
    .saveIdentity, .engine (.takeIdentity 1 ⟨9, 8⟩), .engine (.announce 1), .engine (.putBack 1),
    .handleConnected, .finishWrite]

theorem migrated_identity_is_stored :
    ∃ a : IdentityApp, a.handled = [⟨7, 8⟩] ∧ a.writes = [] ∧ Persisted a := by
  obtain ⟨a, run, reached⟩ := reaches_of_guarded persisting (show
    (exec (guarded persisting IdentityApp.step) (.build none (some (.identity ⟨7, 8⟩)))
      migrationHistory).any (fun a => a.handled == [⟨7, 8⟩] && a.writes == []) = true by
    decide +kernel)
  simp only [Bool.and_eq_true, beq_iff_eq] at reached
  exact ⟨a, reached.1, reached.2, identities_are_stored _ _ migrationHistory a run⟩

/-- The first connection of a new installation. -/
def firstHistory : List IdentityApp.Action :=
  [.startConnect, .readStorage 0 false, .callEngine 0, .saveIdentity,
    .engine (.takeIdentity 1 ⟨9, 8⟩), .engine (.announce 1), .engine (.putBack 1),
    .handleConnected]

theorem first_identity_is_not_stored :
    ∃ a : IdentityApp, Run IdentityApp.step anyStep (.build none none) firstHistory a ∧
      a.handled = [⟨9, 8⟩] ∧ a.writes = [] ∧ a.storage = none ∧ ¬Persisted a := by
  obtain ⟨a, run, reached⟩ := reaches_of_exec anyStep (fun _ _ _ => trivial) (show
    (exec IdentityApp.step (.build none none) firstHistory).any (fun a =>
      a.handled == [⟨9, 8⟩] && a.writes == [] && a.storage == none) = true by decide +kernel)
  simp only [Bool.and_eq_true, beq_iff_eq] at reached
  obtain ⟨⟨handled, writes⟩, storage⟩ := reached
  refine ⟨a, run, handled, writes, storage, fun persisted => ?_⟩
  obtain ⟨stored, found, _⟩ := persisted writes ⟨9, 8⟩ (by simp [handled])
  simp [storage] at found

end Nek0.Guarantees
