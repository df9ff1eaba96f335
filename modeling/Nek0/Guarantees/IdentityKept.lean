import Nek0.Library.Run
import Nek0.Source.IdentityStash

/-!
# The identity of the user is kept

An attempt that starts while an identity is set connects with that identity, and the
stash never holds one that was made up, in the runs in which no such attempt finds the
stash empty and nothing but the identity of the user is put back.
-/

namespace Nek0.Guarantees

open Nek0.Library Nek0.Source

/-- The same key, at a level that is not lower. -/
def Raises (new old : Identity) : Bool := new.key == old.key && decide (old.level ≤ new.level)

/-- The engine, with what its calls have said about the user. -/
structure Ledger where
  engine : IdentityEngine
  /-- The identity that was set, if it was neither cleared nor set again. -/
  known : Option Identity
  /-- The keys of all identities that were set. -/
  given : List Nat
  /-- What an attempt has to connect with. -/
  owed : ConnectionId → Option Identity

namespace Ledger

def new : Ledger := ⟨.new, none, [], fun _ => none⟩

/-- An attempt that has not taken its identity yet is owed nothing once the identity
changes. -/
def released (l : Ledger) (connId : ConnectionId) : Option Identity :=
  if l.engine.connectTasks connId = some .spawned then none else l.owed connId

def step (l : Ledger) (action : IdentityEngine.Action) : Option Ledger :=
  (l.engine.step action).map fun engine =>
    match action with
    | .setIdentity (some json) =>
      { engine
        known := json.read
        given := l.given ++ (json.read.map (·.key)).toList
        owed := l.released }
    | .clearIdentity => { l with engine, known := none, owed := l.released }
    | .connect =>
      { l with engine, owed := Function.update l.owed l.engine.nextConnectionId l.known }
    | _ => { l with engine }

end Ledger

/-- Attempts use what they are owed, and the stash holds no identity that nobody set. -/
structure IdentityKept (l : Ledger) : Prop where
  attempts : ∀ connId stage identity user, l.engine.connectTasks connId = some stage →
    stage.identity = some identity → l.owed connId = some user → Raises identity user = true
  stash : ∀ identity, l.engine.stash = some (.identity identity) → identity.key ∈ l.given

/-- No attempt that is owed an identity finds the stash empty, and what is put back is
an identity that was set, and the one that is set now. -/
def unbroken (l : Ledger) : IdentityEngine.Action → Bool
  | .takeIdentity connId _ => (l.owed connId).isNone || l.engine.stash.isSome
  | .putBack connId =>
    match l.engine.connectTasks connId with
    | some (.announced identity) => l.known.all (Raises identity) && identity.key ∈ l.given
    | _ => true
  | _ => true

/-- What makes the next attempt right. -/
structure Owing (l : Ledger) : Prop where
  kept : IdentityKept l
  spawned : ∀ connId user, l.engine.connectTasks connId = some .spawned →
    l.owed connId = some user → l.known = some user
  known : ∀ user json, l.known = some user → l.engine.stash = some json →
    ∃ identity, json.read = some identity ∧ Raises identity user = true

theorem Raises.refl (identity : Identity) : Raises identity identity = true := by
  simp [Raises]

theorem Raises.trans {new between old : Identity} (later : Raises new between = true)
    (earlier : Raises between old = true) : Raises new old = true := by
  simp only [Raises, Bool.and_eq_true, beq_iff_eq, decide_eq_true_eq] at *
  omega

section Owing

variable {l : Ledger}

theorem owed_of_released {connId : ConnectionId} {user : Identity}
    (released : l.released connId = some user) :
    l.owed connId = some user ∧ l.engine.connectTasks connId ≠ some .spawned := by
  unfold Ledger.released at released
  split at released
  next => cases released
  next notSpawned => exact ⟨released, notSpawned⟩

/-- Tasks go on with the identities that they have, and the stash stays. -/
theorem owing_of_tasks (owing : Owing l) {engine : IdentityEngine}
    (stash : engine.stash = l.engine.stash)
    (goesOn : ∀ connId stage, engine.connectTasks connId = some stage →
      ∃ before, l.engine.connectTasks connId = some before ∧
        (stage = .spawned → before = .spawned) ∧
        ∀ identity, stage.identity = some identity →
          ∃ old, before.identity = some old ∧ Raises identity old = true) :
    Owing { l with engine } := by
  refine ⟨⟨?_, ?_⟩, ?_, ?_⟩
  · intro connId stage identity user task used owed
    obtain ⟨before, task, _, sameKey⟩ := goesOn connId stage task
    obtain ⟨old, had, raised⟩ := sameKey identity used
    exact Raises.trans raised (owing.kept.attempts connId before old user task had owed)
  · intro identity stored
    rw [stash] at stored
    exact owing.kept.stash identity stored
  · intro connId user task owed
    obtain ⟨before, task, spawned, _⟩ := goesOn connId .spawned task
    exact owing.spawned connId user (spawned rfl ▸ task) owed
  · intro user json known stored
    rw [stash] at stored
    exact owing.known user json known stored

/-- One task changes as the rule says. -/
theorem owing_update (owing : Owing l) {engine : IdentityEngine} {connId : ConnectionId}
    {before : ConnectStage} {after : Option ConnectStage}
    (stash : engine.stash = l.engine.stash)
    (tasks : engine.connectTasks = Function.update l.engine.connectTasks connId after)
    (task : l.engine.connectTasks connId = some before)
    (goesOn : ∀ stage ∈ after, stage ≠ .spawned ∧ ∀ identity, stage.identity = some identity →
      ∃ old, before.identity = some old ∧ Raises identity old = true) :
    Owing { l with engine } := by
  refine owing_of_tasks owing stash fun other stage found => ?_
  rw [tasks] at found
  by_cases same : other = connId
  · subst same
    rw [Function.update_self] at found
    obtain ⟨notSpawned, sameKey⟩ := goesOn stage found
    exact ⟨before, task, fun spawned => absurd spawned notSpawned, sameKey⟩
  · rw [Function.update_of_ne same] at found
    exact ⟨stage, found, id, fun identity used => ⟨identity, used, Raises.refl identity⟩⟩

theorem owing_setIdentity (owing : Owing l) (json : IdentityJson) :
    Owing {
      engine := l.engine.setIdentity (some json)
      known := json.read
      given := l.given ++ (json.read.map (·.key)).toList
      owed := l.released } := by
  refine ⟨⟨?_, ?_⟩, ?_, ?_⟩
  · intro connId stage identity user task used owed
    exact owing.kept.attempts connId stage identity user task used (owed_of_released owed).1
  · intro identity stored
    simp only [IdentityEngine.setIdentity] at stored
    split at stored
    · cases stored
    · cases stored
      simp [IdentityJson.read]
  · intro connId user task owed
    exact absurd task (owed_of_released owed).2
  · intro user other known stored
    simp only [IdentityEngine.setIdentity] at stored
    split at stored
    · cases stored
    · cases stored
      exact ⟨user, known, Raises.refl user⟩

theorem owing_clearIdentity (owing : Owing l) :
    Owing { l with engine := l.engine.clearIdentity, known := none, owed := l.released } := by
  refine ⟨⟨?_, ?_⟩, ?_, ?_⟩
  · intro connId stage identity user task used owed
    exact owing.kept.attempts connId stage identity user task used (owed_of_released owed).1
  · intro identity stored
    cases stored
  · intro connId user task owed
    exact absurd task (owed_of_released owed).2
  · intro user json known
    cases known

theorem owing_connect (owing : Owing l) :
    Owing { l with
      engine := l.engine.connect.1
      owed := Function.update l.owed l.engine.nextConnectionId l.known } := by
  have elsewhere : ∀ connId, connId ≠ l.engine.nextConnectionId →
      l.engine.connect.1.connectTasks connId = l.engine.connectTasks connId :=
    fun connId different => Function.update_of_ne different _ _
  have fresh : l.engine.connect.1.connectTasks l.engine.nextConnectionId = some .spawned :=
    Function.update_self _ _ _
  refine ⟨⟨?_, owing.kept.stash⟩, ?_, owing.known⟩
  · intro connId stage identity user task used owed
    dsimp only at task owed
    by_cases same : connId = l.engine.nextConnectionId
    · subst same
      rw [fresh] at task
      cases task
      cases used
    · rw [elsewhere connId same] at task
      rw [Function.update_of_ne same] at owed
      exact owing.kept.attempts connId stage identity user task used owed
  · intro connId user task owed
    dsimp only at task owed
    by_cases same : connId = l.engine.nextConnectionId
    · subst same
      rwa [Function.update_self] at owed
    · rw [elsewhere connId same] at task
      rw [Function.update_of_ne same] at owed
      exact owing.spawned connId user task owed

theorem owing_takeIdentity (owing : Owing l) {connId : ConnectionId} {generated : Identity}
    {engine : IdentityEngine} (met : unbroken l (.takeIdentity connId generated) = true)
    (taken : l.engine.takeIdentity connId generated = some engine) :
    Owing { l with engine } := by
  unfold IdentityEngine.takeIdentity at taken
  split at taken
  next spawned =>
    obtain rfl := Option.some.inj taken
    refine ⟨⟨?_, ?_⟩, ?_, ?_⟩
    · intro other stage identity user task used owed
      dsimp only at task owed
      by_cases same : other = connId
      · subst same
        rw [Function.update_self] at task
        cases task
        cases used
        have known := owing.spawned other user spawned owed
        have held : l.engine.stash.isSome = true := by simpa [unbroken, owed] using met
        obtain ⟨json, stored⟩ := Option.isSome_iff_exists.mp held
        obtain ⟨identity, read, raised⟩ := owing.known user json known stored
        simpa [stored, read] using raised
      · rw [Function.update_of_ne same] at task
        exact owing.kept.attempts other stage identity user task used owed
    · intro identity stored
      cases stored
    · intro other user task owed
      dsimp only at task
      by_cases same : other = connId
      · subst same
        rw [Function.update_self] at task
        cases task
      · rw [Function.update_of_ne same] at task
        exact owing.spawned other user task owed
    · intro user json _ stored
      cases stored
  next => cases taken

theorem owing_putBack (owing : Owing l) {connId : ConnectionId} {engine : IdentityEngine}
    (met : unbroken l (.putBack connId) = true)
    (done : l.engine.putBack connId = some engine) : Owing { l with engine } := by
  unfold IdentityEngine.putBack at done
  split at done
  next identity announced =>
    obtain rfl := Option.some.inj done
    have meets : l.known.all (Raises identity) = true ∧ identity.key ∈ l.given := by
      simpa [unbroken, announced] using met
    have ended : Owing { l with engine := l.engine.endTask connId } :=
      owing_update owing rfl rfl announced (by simp)
    refine ⟨⟨ended.kept.attempts, ?_⟩, ended.spawned, ?_⟩
    · intro other stored
      cases stored
      exact meets.2
    · intro user json known stored
      cases stored
      refine ⟨identity, rfl, ?_⟩
      exact (Option.all_eq_true _ _).mp meets.1 user known
  next => cases done

theorem owing_step {t : Ledger} {action : IdentityEngine.Action} (owing : Owing l)
    (met : unbroken l action = true) (taken : l.step action = some t) : Owing t := by
  obtain ⟨engine, done, rfl⟩ := Option.map_eq_some_iff.mp taken
  cases action with
  | setIdentity json =>
    obtain rfl := Option.some.inj done
    cases json with
    | none => exact owing
    | some json => exact owing_setIdentity owing json
  | clearIdentity =>
    obtain rfl := Option.some.inj done
    exact owing_clearIdentity owing
  | connect =>
    obtain rfl := Option.some.inj done
    exact owing_connect owing
  | cancelConnect connId =>
    obtain rfl := Option.some.inj done
    simp only [IdentityEngine.cancelConnect]
    split
    next spawned => exact owing_update owing rfl rfl spawned (by simp)
    next identity handshaking => exact owing_update owing rfl rfl handshaking (by simp)
    next => exact owing
  | takeIdentity connId generated => exact owing_takeIdentity owing met done
  | raiseLevel connId needed reached =>
    simp only [IdentityEngine.step, IdentityEngine.raiseLevel] at done
    split at done
    next identity handshaking =>
      split at done
      next raises =>
        obtain rfl := Option.some.inj done
        have higher : identity.level ≤ reached := by omega
        exact owing_update owing rfl rfl handshaking
          (by simp [ConnectStage.identity, Raises, higher])
      next => cases done
    next => cases done
  | failConnect connId =>
    simp only [IdentityEngine.step, IdentityEngine.failConnect] at done
    split at done
    next identity handshaking =>
      obtain rfl := Option.some.inj done
      exact owing_update owing rfl rfl handshaking (by simp)
    next => cases done
  | announce connId =>
    simp only [IdentityEngine.step, IdentityEngine.announce] at done
    split at done
    next identity handshaking =>
      obtain rfl := Option.some.inj done
      exact owing_update owing rfl rfl handshaking (by simp [ConnectStage.identity, Raises])
    next => cases done
  | putBack connId => exact owing_putBack owing met done

theorem owing_new : Owing .new where
  kept := ⟨by simp [Ledger.new], by simp [Ledger.new, IdentityEngine.new]⟩
  spawned := by simp [Ledger.new]
  known := by simp [Ledger.new]

end Owing

/-- The user stays the same while no attempt that is owed an identity starts without one,
and no other identity is put back. -/
theorem identity_is_kept (actions : List IdentityEngine.Action) (l : Ledger)
    (run : Run Ledger.step (fun t action => unbroken t action = true) .new actions l) :
    IdentityKept l := by
  have owing : Owing l := run.invariant Owing owing_new
    (fun t action u owing met taken => owing_step owing met taken)
  exact owing.kept

/-- Two attempts, one after the other; the server raises the level of the first. -/
def raisedHistory : List IdentityEngine.Action :=
  [.setIdentity (some (.identity ⟨7, 8⟩)), .connect, .takeIdentity 1 ⟨9, 8⟩, .raiseLevel 1 10 10,
    .announce 1, .putBack 1, .connect, .takeIdentity 2 ⟨9, 8⟩]

theorem raised_identity_is_kept :
    ∃ l : Ledger, l.owed 2 = some ⟨7, 8⟩ ∧
      l.engine.connectTasks 2 = some (.handshaking ⟨7, 10⟩) ∧ IdentityKept l := by
  obtain ⟨l, run, reached⟩ := reaches_of_guarded unbroken (show
    (exec (guarded unbroken Ledger.step) .new raisedHistory).any (fun l =>
      l.owed 2 == some ⟨7, 8⟩ &&
        l.engine.connectTasks 2 == some (.handshaking ⟨7, 10⟩)) = true by decide +kernel)
  simp only [Bool.and_eq_true, beq_iff_eq] at reached
  exact ⟨l, reached.1, reached.2, identity_is_kept raisedHistory l run⟩

/-- Two attempts at once: the second finds an empty stash. -/
def sharedHistory : List IdentityEngine.Action :=
  [.setIdentity (some (.identity ⟨7, 8⟩)), .connect, .connect, .takeIdentity 1 ⟨9, 8⟩,
    .takeIdentity 2 ⟨9, 8⟩]

theorem second_attempt_is_another_user :
    ∃ l : Ledger, Run Ledger.step anyStep .new sharedHistory l ∧ l.owed 2 = some ⟨7, 8⟩ ∧
      l.engine.connectTasks 2 = some (.handshaking ⟨9, 8⟩) ∧ ¬IdentityKept l := by
  obtain ⟨l, run, reached⟩ := reaches_of_exec anyStep (fun _ _ _ => trivial) (show
    (exec Ledger.step .new sharedHistory).any (fun l =>
      l.owed 2 == some ⟨7, 8⟩ &&
        l.engine.connectTasks 2 == some (.handshaking ⟨9, 8⟩)) = true by decide +kernel)
  simp only [Bool.and_eq_true, beq_iff_eq] at reached
  refine ⟨l, run, reached.1, reached.2, fun kept => ?_⟩
  have raised := kept.attempts 2 _ _ _ reached.2 rfl reached.1
  simp [Raises] at raised

end Nek0.Guarantees
