import Nek0.Library.Run
import Nek0.Source.NativeSystem
import Nek0.Source.NotifierEffects

/-!
# No zombie connection

Once the user has cancelled or disconnected a session and its tasks rest, the engine
does not hold it connected, provided that each stop takes effect where it is decided
and that no handshake completes and no loop panics after that. A cancel that comes
after the handshake takes no effect, and the session stays connected.
-/

namespace Nek0.Guarantees

open Nek0.Source Nek0.Source.SessionTasks Nek0.Library

/-- The connect task is past its last wait and will mark the session connected and
stash its connection. -/
def succeeding : ConnectTask → Bool
  | .handshaken _ | .wired _ | .marked _ | .published => true
  | _ => false

/-- The connect task has not marked the session connected. -/
def early : ConnectTask → Bool
  | .waiting | .handshaken _ | .wired _ | .failed .. | .unmarked .. => true
  | _ => false

/-- The connect task has come to its end. -/
def closing : ConnectTask → Bool
  | .leaving | .ended => true
  | _ => false

/-- The loop owns the connection or had it. -/
def owning : LoopTask → Bool
  | .unspawned | .spawned | .ended => false
  | _ => true

/-- The loop has been marked alive and may still be. -/
def maybeAlive : LoopTask → Bool
  | .running | .leaving _ | .unmarked _ | .announced | .returned | .reported => true
  | _ => false

/-- The loop holds the connection and will mark the session disconnected when it ends. -/
def finishing : LoopTask → Bool
  | .running | .leaving _ => true
  | _ => false

/-- `ts_disconnect` has taken the connection. -/
def Tearing (s : SessionTasks) : Prop :=
  s.call = some .clearConnected ∨ s.call = some .removeSession

/-- How the session cell and the tasks belong together. -/
structure Matched (s : SessionTasks) : Prop where
  behind : closing s.task = false → s.loop = .unspawned
  unconnected : early s.task = true ∨ closing s.task = true ∧ s.loop = .unspawned →
    s.cell.any (·.connected) = false ∧ s.cell.any (·.connection) = false
  unstashed : succeeding s.task = true ∨ s.loop = .ended → s.cell.any (·.connection) = false
  owned : owning s.loop = true → s.cell.any (·.connection) = false ∧ ¬ Tearing s
  present : s.loop = .taken ∨ s.loop = .running → s.cell.isSome = true
  alive : s.cell.any (·.eventLoopAlive) = true → maybeAlive s.loop = true
  finalized : ∀ expected, s.loop = .unmarked expected ∨ s.loop = .announced ∨ s.loop = .detached →
    s.cell.any (·.connected) = false
  torn : Tearing s → s.cell.any (·.connection) = false ∧ early s.task = false ∧
    succeeding s.task = false

section Steps

variable {s : SessionTasks} {action : TaskAction} {outcome : Outcome}

/-- Before the loop is spawned, only the connect task matters. -/
theorem Matched.before_spawn (unspawned : s.loop = .unspawned)
    (unconnected : early s.task = true ∨ closing s.task = true →
      s.cell.any (·.connected) = false ∧ s.cell.any (·.connection) = false)
    (unstashed : succeeding s.task = true → s.cell.any (·.connection) = false)
    (alive : s.cell.any (·.eventLoopAlive) = false)
    (torn : Tearing s → s.cell.any (·.connection) = false ∧ early s.task = false ∧
      succeeding s.task = false) : Matched s where
  behind _ := unspawned
  unconnected place := unconnected (place.imp_right And.left)
  unstashed place := unstashed (place.resolve_right (by simp [unspawned]))
  owned place := by simp [unspawned, owning] at place
  present place := by simp [unspawned] at place
  alive lively := by simp [alive] at lively
  finalized _ place := by simp [unspawned] at place
  torn := torn

theorem early_of_closing {task : ConnectTask} (closed : closing task = true) :
    early task = false ∧ succeeding task = false := by
  cases task <;> simp_all [closing, early, succeeding]

/-- After the loop was spawned, only the loop matters. -/
theorem Matched.after_spawn (spawned : s.loop ≠ .unspawned) (closed : closing s.task = true)
    (unstashed : s.loop = .ended → s.cell.any (·.connection) = false)
    (owned : owning s.loop = true → s.cell.any (·.connection) = false ∧ ¬ Tearing s)
    (present : s.loop = .taken ∨ s.loop = .running → s.cell.isSome = true)
    (alive : s.cell.any (·.eventLoopAlive) = true → maybeAlive s.loop = true)
    (finalized : ∀ expected, s.loop = .unmarked expected ∨ s.loop = .announced ∨
      s.loop = .detached → s.cell.any (·.connected) = false)
    (torn : Tearing s → s.cell.any (·.connection) = false) : Matched s where
  behind place := by simp [closed] at place
  unconnected place := by simp [early_of_closing closed, spawned] at place
  unstashed place := unstashed (place.resolve_left (by simp [early_of_closing closed]))
  owned := owned
  present := present
  alive := alive
  finalized := finalized
  torn torn' := ⟨torn torn', early_of_closing closed⟩

/-- Changes of the cell and of the call that take nothing away and add no connection. -/
theorem Matched.mono {t : SessionTasks} (matched : Matched s)
    (task : t.task = s.task ∨ closing t.task = true ∧ closing s.task = true)
    (loop : t.loop = s.loop)
    (connected : t.cell.any (·.connected) = true → s.cell.any (·.connected) = true)
    (connection : t.cell.any (·.connection) = true → s.cell.any (·.connection) = true)
    (alive : t.cell.any (·.eventLoopAlive) = true → s.cell.any (·.eventLoopAlive) = true)
    (present : t.cell.isSome = s.cell.isSome) (torn : Tearing t → Tearing s) : Matched t := by
  have unconnected : s.cell.any (·.connected) = false → t.cell.any (·.connected) = false := by
    simpa only [← Bool.not_eq_true] using mt connected
  have unstashed : s.cell.any (·.connection) = false → t.cell.any (·.connection) = false := by
    simpa only [← Bool.not_eq_true] using mt connection
  have place : closing t.task = closing s.task ∧ early t.task = early s.task ∧
      succeeding t.task = succeeding s.task := by
    rcases task with same | ⟨now, before⟩
    · simp [same]
    · simp [now, before, early_of_closing now, early_of_closing before]
  obtain ⟨closed, early, succeeding⟩ := place
  constructor
  · rw [closed, loop]
    exact matched.behind
  · rw [closed, early, loop]
    exact fun place => (matched.unconnected place).imp unconnected unstashed
  · rw [succeeding, loop]
    exact fun place => unstashed (matched.unstashed place)
  · rw [loop]
    exact fun place => (matched.owned place).imp unstashed (mt torn)
  · rw [loop, present]
    exact matched.present
  · rw [loop]
    exact matched.alive ∘ alive
  · rw [loop]
    exact fun expected place => unconnected (matched.finalized expected place)
  · rw [early, succeeding]
    exact fun place => (matched.torn (torn place)).imp_left unstashed

/-- A session without a loop is not marked alive. -/
theorem Matched.dead (matched : Matched s) (unspawned : s.loop = .unspawned) :
    s.cell.any (·.eventLoopAlive) = false := by
  by_contra lively
  have place := matched.alive (by simpa using lively)
  simp [unspawned, maybeAlive] at place

/-- A connect task that has neither stashed the connection nor come to its end goes on, and no
teardown is under way. -/
theorem Matched.connects {t : SessionTasks} (matched : Matched s)
    (place : early s.task = true ∨ succeeding s.task = true) (loop : t.loop = s.loop)
    (call : t.call = s.call)
    (unconnected : early t.task = true ∨ closing t.task = true →
      t.cell.any (·.connected) = false ∧ t.cell.any (·.connection) = false)
    (unstashed : succeeding t.task = true → t.cell.any (·.connection) = false)
    (alive : t.cell.any (·.eventLoopAlive) = true → s.cell.any (·.eventLoopAlive) = true) :
    Matched t := by
  have unclosed : closing s.task = false := by
    cases task : s.task <;> simp [task, early, succeeding] at place <;> rfl
  have unspawned := matched.behind unclosed
  have untorn : ¬ Tearing t := by
    rw [Tearing, call]
    intro torn
    obtain ⟨-, notEarly, notSucceeding⟩ := matched.torn torn
    simp [notEarly, notSucceeding] at place
  refine .before_spawn (loop.trans unspawned) unconnected unstashed ?_ fun torn => absurd torn untorn
  simpa only [← Bool.not_eq_true] using mt alive (by simp [matched.dead unspawned])

theorem matched_connect (matched : Matched s) (taken : s.connectStep = some outcome) :
    Matched outcome.1 := by
  cases point : s.task with
  | waiting | ended => simp [connectStep, point] at taken
  | handshaken data =>
    simp only [connectStep, point] at taken
    obtain ⟨unconnected, unstashed⟩ := matched.unconnected (.inl (by simp [point, early]))
    cases there : s.cell with
    | none =>
      simp only [there] at taken
      cases taken
      exact matched.connects (.inl (by simp [point, early])) rfl rfl (by simp) (by simp) (by simp)
    | some cell =>
      simp only [there] at taken
      cases taken
      rw [there] at unconnected unstashed
      exact matched.connects (.inl (by simp [point, early])) rfl rfl
        (fun _ => ⟨unconnected, unstashed⟩) (fun _ => unstashed) (by simp [there])
  | wired data =>
    simp only [connectStep, point] at taken
    have unstashed := (matched.unconnected (.inl (by simp [point, early]))).2
    cases there : s.cell with
    | none =>
      simp only [there] at taken
      cases taken
      exact matched.connects (.inl (by simp [point, early])) rfl rfl (by simp) (by simp) (by simp)
    | some cell =>
      simp only [there] at taken
      cases taken
      rw [there] at unstashed
      exact matched.connects (.inl (by simp [point, early])) rfl rfl
        (by simp [early, closing]) (fun _ => unstashed) (by simp [there])
  | marked data =>
    simp only [connectStep, point] at taken
    cases taken
    have unstashed := matched.unstashed (.inl (by simp [point, succeeding]))
    exact matched.connects (.inr (by simp [point, succeeding])) rfl rfl (by simp [early, closing])
      (fun _ => unstashed) id
  | published =>
    simp only [connectStep, point] at taken
    cases taken
    exact matched.connects (.inr (by simp [point, succeeding])) rfl rfl (by simp [early, closing])
      (by simp [succeeding]) (by simp [modifyCell, Option.any_map])
  | stashed =>
    simp only [connectStep, point] at taken
    cases taken
    have unspawned := matched.behind (by simp [point, closing])
    have dead : ¬ s.cell.any (·.eventLoopAlive) = true := by simp [matched.dead unspawned]
    exact .after_spawn nofun rfl nofun nofun (by simp) (fun lively => absurd lively dead) (by simp)
      fun torn => (matched.torn torn).1
  | failed kind retryable =>
    simp only [connectStep, point] at taken
    cases taken
    obtain ⟨unconnected, unstashed⟩ := matched.unconnected (.inl (by simp [point, early]))
    refine matched.connects (.inl (by simp [point, early])) rfl rfl (fun _ => ⟨?_, ?_⟩)
      (by simp [succeeding]) (by simp [modifyCell, Option.any_map])
    · simpa [modifyCell, Option.any_map] using unconnected
    · simpa [modifyCell, Option.any_map] using unstashed
  | unmarked kind retryable =>
    simp only [connectStep, point] at taken
    cases taken
    have fields := matched.unconnected (.inl (by simp [point, early]))
    exact matched.connects (.inl (by simp [point, early])) rfl rfl (fun _ => fields)
      (by simp [succeeding]) id
  | leaving =>
    simp only [connectStep, point] at taken
    cases taken
    apply matched.mono <;> simp [modifyCell, Option.any_map, Tearing, closing, point]

/-- A loop that has the connection goes on, and nobody else has one. -/
theorem Matched.goes_on {t : SessionTasks} (matched : Matched s) (owner : owning s.loop = true)
    (spawned : t.loop ≠ .unspawned) (task : t.task = s.task) (call : t.call = s.call)
    (connection : t.cell.any (·.connection) = true → s.cell.any (·.connection) = true)
    (present : t.loop = .taken ∨ t.loop = .running → t.cell.isSome = true)
    (alive : t.cell.any (·.eventLoopAlive) = true → maybeAlive t.loop = true)
    (finalized : ∀ expected, t.loop = .unmarked expected ∨ t.loop = .announced ∨
      t.loop = .detached → t.cell.any (·.connected) = false) : Matched t := by
  obtain ⟨without, untorn⟩ := matched.owned owner
  have closed : closing s.task = true := by
    by_contra before
    simp [matched.behind (by simpa using before), owning] at owner
  have unstashed : t.cell.any (·.connection) = false := by
    simpa only [← Bool.not_eq_true] using mt connection (by simp [without])
  have untorn : ¬ Tearing t := by rwa [Tearing, call]
  exact .after_spawn spawned (task ▸ closed) (fun _ => unstashed) (fun _ => ⟨unstashed, untorn⟩)
    present alive finalized fun torn => absurd torn untorn

/-- The loop takes the connection, or ends where there is none. -/
theorem matched_spawned (matched : Matched s) (point : s.loop = .spawned)
    (taken : s.loopStep = some outcome) : Matched outcome.1 := by
  have closed : closing s.task = true := by
    by_contra before
    simp [matched.behind (by simpa using before)] at point
  have dead : s.cell.any (·.eventLoopAlive) ≠ true := fun lively => by
    simpa [point, maybeAlive] using matched.alive lively
  simp only [loopStep, point] at taken
  by_cases stashed : s.cell.any (·.connection) = true
  · rw [if_pos stashed] at taken
    cases taken
    have untorn : ¬ Tearing s := fun torn => by simp [(matched.torn torn).1] at stashed
    have present : s.cell.isSome = true := by
      cases there : s.cell with
      | none => simp [there] at stashed
      | some cell => rfl
    have unstashed : (s.cell.map ({ · with connection := false })).any (·.connection) = false := by
      simp [Option.any_map]
    refine .after_spawn nofun closed nofun (fun _ => ⟨unstashed, untorn⟩) (fun _ => ?_)
      (fun lively => absurd ?_ dead) (by simp) fun torn => absurd torn untorn
    · simpa [modifyCell] using present
    · simpa [modifyCell, Option.any_map] using lively
  · rw [if_neg stashed] at taken
    cases taken
    have unstashed : s.cell.any (·.connection) = false := by simpa using stashed
    exact .after_spawn nofun closed (fun _ => unstashed) nofun nofun
      (fun lively => absurd lively dead) (by simp) fun _ => unstashed

theorem matched_loop (matched : Matched s) (taken : s.loopStep = some outcome) :
    Matched outcome.1 := by
  cases point : s.loop with
  | unspawned | running | ended => simp [loopStep, point] at taken
  | spawned => exact matched_spawned matched point taken
  | taken =>
    simp only [loopStep, point] at taken
    cases taken
    refine matched.goes_on (by simp [point, owning]) nofun rfl rfl ?_ (fun _ => ?_) (fun _ => rfl)
      (by simp)
    · simp [modifyCell, Option.any_map]
    · simpa [modifyCell] using matched.present (.inl point)
  | leaving expected =>
    simp only [loopStep, point] at taken
    cases taken
    refine matched.goes_on (by simp [point, owning]) nofun rfl rfl ?_ (by simp) (fun _ => rfl) ?_ <;>
      simp [modifyCell, Option.any_map]
  | unmarked expected =>
    simp only [loopStep, point] at taken
    cases taken
    have unconnected := matched.finalized expected (.inl point)
    exact matched.goes_on (by simp [point, owning]) nofun rfl rfl id (by simp) (fun _ => rfl)
      fun _ _ => unconnected
  | announced =>
    simp only [loopStep, point] at taken
    cases taken
    have unconnected := matched.finalized false (.inr (.inl point))
    refine matched.goes_on (by simp [point, owning]) nofun rfl rfl ?_ (by simp) ?_ fun _ _ => ?_
    · simp [modifyCell, Option.any_map]
    · simp [modifyCell, Option.any_map]
    · simpa [modifyCell, Option.any_map] using unconnected
  | detached =>
    simp only [loopStep, point] at taken
    cases taken
    exact matched.goes_on (by simp [point, owning]) nofun rfl rfl (by simp) (by simp) (by simp)
      (by simp)
  | returned =>
    simp only [loopStep, point] at taken
    cases taken
    exact matched.goes_on (by simp [point, owning]) nofun rfl rfl id (by simp) (fun _ => rfl)
      (by simp)
  | reported =>
    simp only [loopStep, point] at taken
    cases taken
    refine matched.goes_on (by simp [point, owning]) nofun rfl rfl ?_ (by simp) ?_ (by simp) <;>
      simp [modifyCell, Option.any_map]

theorem matched_call (matched : Matched s) (taken : s.callStep = some outcome) :
    Matched outcome.1 := by
  rcases point : s.call with _ | point'
  · simp [callStep, point] at taken
  simp only [callStep, point] at taken
  cases point' with
  | abort handle wasConnecting =>
    cases taken
    by_cases aborted : (handle && s.task = .waiting) = true
    · have waiting : s.task = .waiting := by
        simp only [Bool.and_eq_true, decide_eq_true_eq] at aborted
        exact aborted.2
      have unspawned := matched.behind (by simp [waiting, closing])
      have fields := matched.unconnected (.inl (by simp [waiting, early]))
      simp only [aborted, if_true]
      constructor <;> simp [unspawned, fields, closing, succeeding, owning]
      · exact fun lively => absurd (matched.alive (by simpa using lively))
          (by simp [unspawned, maybeAlive])
      · simp [early]
    · simp only [aborted]
      apply matched.mono <;> simp [Tearing]
  | readAlive =>
    cases taken
    apply matched.mono <;> simp [Tearing]
    split <;> simp
  | takeConnection =>
    by_cases stashed : s.cell.any (·.connection) = true
    · have marked : early s.task ≠ true := fun place => by
        simp [(matched.unconnected (.inl place)).2] at stashed
      have finished : succeeding s.task ≠ true := fun place => by
        simp [matched.unstashed (.inl place)] at stashed
      have unowned : owning s.loop ≠ true := fun place => by
        simp [(matched.owned place).1] at stashed
      rw [if_pos stashed] at taken
      cases taken
      obtain ⟨behind, unconnected, unstashed, owned, present, alive, finalized, torn⟩ := matched
      constructor <;> simp_all [modifyCell, Option.any_map]
    · rw [if_neg stashed] at taken
      cases taken
      apply matched.mono <;> simp [Tearing]
  | clearConnected =>
    cases taken
    apply matched.mono <;> simp [modifyCell, Option.any_map, Tearing, point]
  | removeSession =>
    cases taken
    have untaken : owning s.loop ≠ true := fun place =>
      (matched.owned place).2 (.inr point)
    obtain ⟨behind, unconnected, unstashed, owned, present, alive, finalized, torn⟩ := matched
    constructor <;> simp_all [Tearing]
    constructor <;> intro place <;> simp [place, owning] at untaken
  | _ =>
    cases taken
    apply matched.mono <;> simp [modifyCell, Option.any_map, Tearing]

theorem matched_step (matched : Matched s) (taken : s.step action = some outcome) :
    Matched outcome.1 := by
  cases action with
  | connect => exact matched_connect matched taken
  | loop => exact matched_loop matched taken
  | call => exact matched_call matched taken
  | handshakePushes | loopPushes | transferPushes =>
    simp only [SessionTasks.step, Option.ite_none_right_eq_some, Option.some.injEq] at taken
    obtain ⟨-, rfl⟩ := taken
    exact matched
  | startTransfer | transferEnds =>
    simp only [SessionTasks.step, Option.ite_none_right_eq_some, Option.some.injEq] at taken
    obtain ⟨-, rfl⟩ := taken
    exact matched.mono (.inl rfl) rfl id id id rfl id
  | handshakeDone | fail =>
    simp only [SessionTasks.step, Option.ite_none_right_eq_some, Option.some.injEq] at taken
    obtain ⟨waiting, rfl⟩ := taken
    have unspawned := matched.behind (by simp [waiting, closing])
    have fields := matched.unconnected (.inl (by simp [waiting, early]))
    have untorn : ¬ Tearing s := fun torn => by
      simpa [waiting, early] using (matched.torn torn).2.1
    exact .before_spawn unspawned (fun _ => fields) (fun _ => fields.2) (matched.dead unspawned)
      fun torn => absurd torn untorn
  | obey | streamEnds | sessionMissing | panics =>
    simp only [SessionTasks.step, Option.ite_none_right_eq_some, Option.some.injEq] at taken
    obtain ⟨enabled, rfl⟩ := taken
    have running : s.loop = .running := by simp_all
    exact matched.goes_on (by simp [running, owning]) nofun rfl rfl id (by simp) (fun _ => rfl)
      (by simp)

/-- No connection is held, or its teardown is under way. -/
structure Releasing (s : SessionTasks) : Prop where
  unsucceeding : succeeding s.task = false
  unstashed : s.cell.any (·.connection) = false
  untaken : s.loop ≠ .taken
  asked : s.loop = .running → s.disconnectPending = true ∨ s.call = some .requestDisconnect
  connected : s.cell.any (·.connected) = true →
    finishing s.loop = true ∨ s.call = some .clearConnected

/-- Changes of the cell and of the call that add no connection and drop no request. -/
theorem Releasing.mono {t : SessionTasks} (releasing : Releasing s)
    (task : succeeding s.task = false → succeeding t.task = false) (loop : t.loop = s.loop)
    (connection : t.cell.any (·.connection) = true → s.cell.any (·.connection) = true)
    (asked : s.loop = .running → s.disconnectPending = true ∨ s.call = some .requestDisconnect →
      t.disconnectPending = true ∨ t.call = some .requestDisconnect)
    (connected : t.cell.any (·.connected) = true → s.cell.any (·.connected) = true ∧
      (s.call = some .clearConnected → t.call = some .clearConnected)) : Releasing t where
  unsucceeding := task releasing.unsucceeding
  unstashed := by
    simpa only [← Bool.not_eq_true] using mt connection (by simp [releasing.unstashed])
  untaken := loop ▸ releasing.untaken
  asked running := asked (loop ▸ running) (releasing.asked (loop ▸ running))
  connected marked :=
    loop ▸ (releasing.connected (connected marked).1).imp_right (connected marked).2

theorem releasing_connect (matched : Matched s) (releasing : Releasing s)
    (taken : s.connectStep = some outcome) : Releasing outcome.1 := by
  have behind := matched.behind
  obtain ⟨unsucceeding, unstashed, untaken, asked, connected⟩ := releasing
  obtain ⟨cell, task, loop, sent, transfers, call⟩ := s
  cases task with
  | waiting | ended => cases taken
  | handshaken | wired | marked | published => simp [succeeding] at unsucceeding
  | stashed =>
    cases taken
    obtain rfl := behind rfl
    exact ⟨rfl, unstashed, nofun, nofun, connected⟩
  | _ =>
    cases cell <;> cases taken
    all_goals constructor <;> simp_all [modifyCell, succeeding, disconnectPending]

theorem releasing_loop (releasing : Releasing s) (taken : s.loopStep = some outcome) :
    Releasing outcome.1 := by
  obtain ⟨unsucceeding, unstashed, untaken, asked, connected⟩ := releasing
  obtain ⟨cell, task, loop, sent, transfers, call⟩ := s
  cases loop with
  | unspawned | running | ended => cases taken
  | taken => exact absurd rfl untaken
  | spawned =>
    simp only [loopStep, unstashed] at taken
    cases taken
    exact ⟨unsucceeding, unstashed, nofun, nofun, connected⟩
  | _ =>
    cases cell <;> cases taken
    all_goals constructor <;> simp_all [modifyCell, finishing]

theorem releasing_call (matched : Matched s) (releasing : Releasing s)
    (taken : s.callStep = some outcome) : Releasing outcome.1 := by
  rcases point : s.call with _ | point'
  · simp [callStep, point] at taken
  simp only [callStep, point] at taken
  cases point' with
  | requestDisconnect =>
    cases taken
    refine releasing.mono id rfl (by simp [modifyCell, Option.any_map]) ?_
      (by simp [modifyCell, Option.any_map, point])
    intro running _
    have present := matched.present (.inr running)
    obtain ⟨cell, stored⟩ := Option.isSome_iff_exists.mp present
    simp [disconnectPending, modifyCell, stored]
  | takeConnection =>
    simp only [releasing.unstashed] at taken
    cases taken
    apply releasing.mono <;> simp [point, disconnectPending]
  | clearConnected =>
    cases taken
    have unowned : owning s.loop ≠ true := fun place => (matched.owned place).2 (.inl point)
    apply releasing.mono <;> simp [modifyCell, Option.any_map]
    exact fun running => absurd (by simp [running, owning]) unowned
  | removeSession =>
    cases taken
    have unowned : owning s.loop ≠ true := fun place => (matched.owned place).2 (.inr point)
    apply releasing.mono <;> simp
    exact fun running => absurd (by simp [running, owning]) unowned
  | abort handle wasConnecting =>
    cases taken
    apply releasing.mono <;> simp [point, disconnectPending]
    split <;> simp [succeeding]
  | readAlive =>
    cases taken
    apply releasing.mono <;> simp [disconnectPending, point]
    exact fun _ => .inl
  | sendDisconnect =>
    cases taken
    apply releasing.mono <;> simp [modifyCell, Option.any_map, disconnectPending, point]
    exact fun _ pending => pending.imp_right .inl
  | _ =>
    cases taken
    apply releasing.mono <;> simp [modifyCell, Option.any_map, disconnectPending, point]

theorem call_step (other : action ≠ .call) (taken : s.step action = some outcome) :
    outcome.1.call = s.call := by
  obtain ⟨cell, task, loop, sent, transfers, call⟩ := s
  cases action with
  | call => exact absurd rfl other
  | connect => cases task <;> cases cell <;> cases taken <;> rfl
  | loop =>
    simp only [SessionTasks.step, loopStep] at taken
    split at taken
    case h_4 => split at taken <;> cases taken <;> rfl
    all_goals cases taken
    all_goals rfl
  | _ =>
    simp only [SessionTasks.step, Option.ite_none_right_eq_some, Option.some.injEq] at taken
    obtain ⟨-, rfl⟩ := taken
    rfl

/-- What would bring a stopped session back. -/
def revives : TaskAction → Bool
  | .handshakeDone _ | .panics => true
  | _ => false

theorem releasing_step (matched : Matched s) (releasing : Releasing s)
    (kept : revives action = false) (taken : s.step action = some outcome) :
    Releasing outcome.1 := by
  cases action with
  | connect => exact releasing_connect matched releasing taken
  | loop => exact releasing_loop releasing taken
  | call => exact releasing_call matched releasing taken
  | handshakeDone | panics => cases kept
  | fail =>
    simp only [SessionTasks.step, Option.ite_none_right_eq_some, Option.some.injEq] at taken
    obtain ⟨-, rfl⟩ := taken
    exact ⟨rfl, releasing.unstashed, releasing.untaken, releasing.asked, releasing.connected⟩
  | sessionMissing =>
    simp only [SessionTasks.step, Option.ite_none_right_eq_some, Option.some.injEq] at taken
    obtain ⟨⟨-, missing⟩, rfl⟩ := taken
    exact ⟨releasing.unsucceeding, releasing.unstashed, nofun, nofun, by simp [missing]⟩
  | obey | streamEnds =>
    simp only [SessionTasks.step, Option.ite_none_right_eq_some, Option.some.injEq] at taken
    obtain ⟨-, rfl⟩ := taken
    exact ⟨releasing.unsucceeding, releasing.unstashed, nofun, nofun, fun _ => .inl rfl⟩
  | _ =>
    simp only [SessionTasks.step, Option.ite_none_right_eq_some, Option.some.injEq] at taken
    obtain ⟨-, rfl⟩ := taken
    exact ⟨releasing.unsucceeding, releasing.unstashed, releasing.untaken, releasing.asked,
      releasing.connected⟩

end Steps

instance : DecidablePred Releasing := fun s =>
  decidable_of_iff (succeeding s.task = false ∧ s.cell.any (·.connection) = false ∧
      s.loop ≠ .taken ∧
      (s.loop = .running → s.disconnectPending = true ∨ s.call = some .requestDisconnect) ∧
      (s.cell.any (·.connected) = true → finishing s.loop = true ∨ s.call = some .clearConnected))
    ⟨fun ⟨task, stash, loop, asked, connected⟩ => ⟨task, stash, loop, asked, connected⟩,
      fun releasing => ⟨releasing.unsucceeding, releasing.unstashed, releasing.untaken,
        releasing.asked, releasing.connected⟩⟩

/-- A call from the app has not come to the point that decides its effect. -/
def deciding : Option NativePoint → Bool
  | some .takeHandle | some (.clearConnecting _) | some (.abort ..) | some .readAlive
  | some .takeConnection => true
  | _ => false

/-- A call takes effect where it is decided: the abort finds no connection or one that is
going, the loop that is read as alive has not panicked, the stash holds the connection. -/
def takesEffect (s : SessionTasks) : Bool :=
  match s.call with
  | some (.abort ..) => Releasing s
  | some .readAlive => !s.cell.any (·.eventLoopAlive) || (s.loop != .returned && s.loop != .reported)
  | some .takeConnection => s.cell.any (·.connection) || Releasing s
  | _ => true

/-- The next call for a stopped session takes effect, and once its stop is decided
nothing brings it back. -/
def heeds (undecided : Bool) (s : SessionTasks) : TaskAction → Bool
  | .call => takesEffect s
  | action => undecided || !revives action

section Decisions

variable {s : SessionTasks} {action : TaskAction} {outcome : Outcome}

/-- A loop that is alive and has not panicked obeys, or has already announced the end. -/
theorem releasing_of_alive (matched : Matched s) (alive : s.cell.any (·.eventLoopAlive) = true)
    (sane : s.loop ≠ .returned ∧ s.loop ≠ .reported) :
    Releasing { s with call := some .requestDisconnect } := by
  have place := matched.alive alive
  have closed : closing s.task = true := by
    by_contra before
    simp [matched.behind (by simpa using before), maybeAlive] at place
  have owned := matched.owned (by cases at_ : s.loop <;> simp_all [maybeAlive, owning])
  refine ⟨(early_of_closing closed).2, owned.1, ?_, fun _ => .inr rfl, ?_⟩
  · rintro taken
    simp only at taken
    simp [taken, maybeAlive] at place
  · intro connected
    left
    have finalized := matched.finalized
    cases at_ : s.loop <;> simp_all [maybeAlive, finishing]

/-- A connection in the stash belongs to no loop. -/
theorem releasing_of_stash (matched : Matched s) (stashed : s.cell.any (·.connection) = true) :
    Releasing { s.modifyCell ({ · with connection := false }) with
      call := some .clearConnected } := by
  have finished : succeeding s.task ≠ true := fun place => by
    simp [matched.unstashed (.inl place)] at stashed
  have unowned : owning s.loop ≠ true := fun place => by
    simp [(matched.owned place).1] at stashed
  refine ⟨by simpa [modifyCell] using finished, by simp [modifyCell, Option.any_map], ?_, ?_,
    fun _ => .inr rfl⟩
  · intro taken
    exact absurd (by simpa [modifyCell, owning] using congrArg owning taken) unowned
  · intro running
    exact absurd (by simpa [modifyCell, owning] using congrArg owning running) unowned

theorem decided_step (matched : Matched s) (effect : takesEffect s = true)
    (undecided : deciding s.call = true) (taken : s.callStep = some outcome) :
    deciding outcome.1.call = true ∨ Releasing outcome.1 := by
  rcases point : s.call with _ | point'
  · simp [callStep, point] at taken
  cases point' with
  | takeHandle | clearConnecting =>
    simp only [callStep, point] at taken
    cases taken
    exact .inl rfl
  | abort =>
    have releasing : Releasing s := by simpa [takesEffect, point] using effect
    exact .inr (releasing_call matched releasing taken)
  | readAlive =>
    simp only [callStep, point] at taken
    cases taken
    by_cases alive : s.cell.any (·.eventLoopAlive) = true
    · have sane : s.loop ≠ .returned ∧ s.loop ≠ .reported := by
        simpa [takesEffect, point, alive] using effect
      simp only [alive, if_true]
      exact .inr (releasing_of_alive matched alive sane)
    · simp only [alive]
      exact .inl rfl
  | takeConnection =>
    by_cases stashed : s.cell.any (·.connection) = true
    · simp only [callStep, point, stashed, if_true] at taken
      cases taken
      exact .inr (releasing_of_stash matched stashed)
    · have releasing : Releasing s := by simpa [takesEffect, point, stashed] using effect
      exact .inr (releasing_call matched releasing taken)
  | _ => simp [deciding, point] at undecided

/-- A stopped session stays undecided or on its way to the end. -/
theorem stopped_step {waits : Bool} (matched : Matched s)
    (before : (waits || deciding s.call) = true ∨ Releasing s)
    (meets : heeds (waits || deciding s.call) s action = true)
    (taken : s.step action = some outcome) :
    (waits || deciding outcome.1.call) = true ∨ Releasing outcome.1 := by
  by_cases calls : action = .call
  · subst calls
    cases waits with
    | true => exact .inl rfl
    | false =>
      rcases before with undecided | releasing
      · exact decided_step matched meets undecided taken
      · exact .inr (releasing_call matched releasing taken)
  · rw [call_step calls taken]
    rcases before with undecided | releasing
    · exact .inl undecided
    · have allowed : (waits || deciding s.call) = true ∨ revives action = false := by
        cases action <;> simp_all [heeds]
      exact allowed.imp_right fun kept => releasing_step matched releasing kept taken

end Decisions

/-- The app still has to stop the session. -/
def stopWaits (s : NativeSystem) (cid : ConnectionId) : Bool :=
  s.app.native.any fun call => call = .disconnect cid || call = .cancelConnect cid

/-- A stop of the session is not decided yet. -/
def undecided (s : NativeSystem) (cid : ConnectionId) : Bool :=
  stopWaits s cid || deciding (s.engine.sessions cid).call

/-- A disconnect that the app does not pass on finds no connection or one that is going,
each call for a stopped session takes effect, and after a stop is decided no handshake
completes and no loop panics. -/
def stopsTakeEffect (s : NativeSystem) : NativeSystem.Action → Bool
  | .app (.disconnect cid) =>
    (s.app.stateOf cid).connected || (s.app.stateOf cid).connecting ||
      Releasing (s.engine.sessions cid)
  | .task cid action =>
    !s.stopped cid || heeds (undecided s cid) (s.engine.sessions cid) action
  | _ => true

/-- The engine holds the session connected. -/
def Held (s : SessionTasks) : Prop :=
  s.cell.any (·.connected) = true ∨ s.cell.any (·.connection) = true ∨
    s.loop = .taken ∨ s.loop = .running

/-- Nothing goes on for the session. -/
def AtRest (s : NativeSystem) (cid : ConnectionId) : Prop :=
  stopWaits s cid = false ∧ (s.engine.sessions cid).atRest = true

theorem not_held_of_releasing {s : SessionTasks} (releasing : Releasing s)
    (resting : s.atRest = true) : ¬ Held s := by
  simp only [atRest, Bool.and_eq_true, Bool.or_eq_true, decide_eq_true_eq,
    Bool.not_eq_true'] at resting
  obtain ⟨⟨uncalled, -⟩, loop⟩ := resting
  have stopped : s.loop ≠ .running := fun running => by
    have asked := releasing.asked running
    simp [running, uncalled] at asked loop
    simp [asked] at loop
  rintro (connected | stashed | taken | running)
  · have place := releasing.connected connected
    rcases loop with (loop | loop) | ⟨loop, -⟩
    · simp [loop, uncalled, finishing] at place
    · simp [loop, uncalled, finishing] at place
    · exact stopped loop
  · simp [releasing.unstashed] at stashed
  · exact releasing.untaken taken
  · exact stopped running

/-- Every stop of the user has taken effect or will. -/
structure Stopping (s : NativeSystem) : Prop where
  matched : ∀ cid, Matched (s.engine.sessions cid)
  busy : ∀ cid, (s.engine.sessions cid).call ≠ none → s.engine.busy = some cid
  known : ∀ cid, s.stopped cid = true → cid < s.engine.nextConnectionId
  releasing : ∀ cid, s.stopped cid = true →
    undecided s cid = true ∨ Releasing (s.engine.sessions cid)

theorem stopping_start : Stopping .start where
  matched _ := by
    refine .before_spawn rfl ?_ ?_ rfl ?_ <;>
      simp [NativeSystem.start, NativeEngine.new, unopened, Tearing]
  busy _ called := absurd rfl called
  known _ stopped := nomatch stopped
  releasing _ stopped := nomatch stopped

theorem Stopping.idle {s : NativeSystem} (stopping : Stopping s) (idle : s.idle = true)
    {cid : ConnectionId} (stopped : s.stopped cid = true) : Releasing (s.engine.sessions cid) := by
  simp only [NativeSystem.idle, Bool.and_eq_true, List.isEmpty_iff, Option.isNone_iff_eq_none]
    at idle
  have uncalled : (s.engine.sessions cid).call = none := by
    by_contra called
    simp [stopping.busy cid called] at idle
  refine (stopping.releasing cid stopped).resolve_left ?_
  simp [undecided, stopWaits, idle.1, uncalled, deciding]

theorem stopWaits_disconnect {s : NativeSystem} {cid : ConnectionId}
    (live : ((s.app.stateOf cid).connected || (s.app.stateOf cid).connecting) = true) :
    stopWaits { s with app := s.app.disconnect cid } cid = true := by
  have passed : (!(s.app.stateOf cid).connected && !(s.app.stateOf cid).connecting) = false := by
    cases connected : (s.app.stateOf cid).connected <;> simp_all
  simp [stopWaits, Notifier.disconnect, passed]

theorem stopping_app {s : NativeSystem} {action : Notifier.Action} {app : Notifier}
    (stopping : Stopping s) (idle : s.idle = true)
    (meets : stopsTakeEffect s (.app action) = true) (taken : s.app.step action = some app) :
    Stopping { s with app := app, stopped := s.noteStop action } where
  matched := stopping.matched
  busy := stopping.busy
  known cid stopped := by
    simp only [NativeSystem.noteStop, Bool.or_eq_true, Bool.and_eq_true,
      decide_eq_true_eq] at stopped
    exact stopped.elim (stopping.known cid) And.right
  releasing cid stopped := by
    simp only [NativeSystem.noteStop, Bool.or_eq_true, Bool.and_eq_true,
      decide_eq_true_eq] at stopped
    rcases stopped with before | ⟨stops, -⟩
    · exact .inr (stopping.idle idle before)
    cases action with
    | disconnect =>
      cases stops
      cases taken
      by_cases live : ((s.app.stateOf cid).connected || (s.app.stateOf cid).connecting) = true
      · left
        have waits := stopWaits_disconnect live
        simpa [undecided, stopWaits] using Or.inl waits
      · right
        simpa [stopsTakeEffect, Bool.eq_false_iff.mpr live] using meets
    | cancelConnect =>
      cases stops
      cases taken
      simp [undecided, stopWaits, Notifier.cancelConnect, Notifier.callNative]
    | _ => cases stops

/-- Between two calls the app may do anything that is no stop. -/
theorem stopping_between {s t : NativeSystem} (stopping : Stopping s) (idle : s.idle = true)
    (engine : t.engine = s.engine) (stopped : t.stopped = s.stopped) : Stopping t where
  matched := engine ▸ stopping.matched
  busy := engine ▸ stopping.busy
  known := by
    rw [engine, stopped]
    exact stopping.known
  releasing := by
    rw [engine, stopped]
    exact fun cid before => .inr (stopping.idle idle before)

theorem matched_opened : Matched opened := by
  refine .before_spawn rfl ?_ ?_ rfl ?_ <;> simp [opened, Tearing, SessionCell.new]

theorem stopping_accept {s : NativeSystem} {engine : NativeEngine} (stopping : Stopping s)
    (idle : s.idle = true) (taken : s.engine.step .connect = some engine) (app : Notifier) :
    Stopping { s with app := app, engine := engine } := by
  have unbusy : s.engine.busy = none := by
    simp only [NativeSystem.idle, Bool.and_eq_true, Option.isNone_iff_eq_none] at idle
    exact idle.2
  simp only [NativeEngine.step, unbusy, if_true, Option.some.injEq] at taken
  subst taken
  constructor
  · intro cid
    by_cases fresh : cid = s.engine.nextConnectionId
    · simpa [NativeEngine.openSession, fresh] using matched_opened
    · simpa [NativeEngine.openSession, fresh] using stopping.matched cid
  · intro cid called
    by_cases fresh : cid = s.engine.nextConnectionId
    · exact fresh ▸ rfl
    · have before := stopping.busy cid (by simpa [NativeEngine.openSession, fresh] using called)
      simp [unbusy] at before
  · exact fun cid stopped => (stopping.known cid stopped).trans (Nat.lt_succ_self _)
  · intro cid stopped
    right
    have fresh : cid ≠ s.engine.nextConnectionId := (stopping.known cid stopped).ne
    simpa [NativeEngine.openSession, fresh] using stopping.idle idle stopped

/-- A call for a session begins: it is not decided yet. -/
theorem stopping_begin {s : NativeSystem} {rest : List NativeCall} {called : ConnectionId}
    {point : NativePoint} {call : NativeCall} (stopping : Stopping s)
    (idle : s.engine.busy = none) (native : s.app.native = call :: rest)
    (own : ∀ cid, cid ≠ called → call ≠ .disconnect cid ∧ call ≠ .cancelConnect cid)
    (entry : point = .takeHandle ∨ point = .readAlive) :
    Stopping { s with
      app := { s.app with native := rest }
      engine := s.engine.begin called point } := by
  constructor
  · intro cid
    by_cases same : cid = called
    · subst same
      simp only [NativeEngine.begin, Function.update_self]
      refine (stopping.matched cid).mono (.inl rfl) rfl id id id rfl ?_
      rcases entry with rfl | rfl <;> simp [Tearing]
    · simpa [NativeEngine.begin, same] using stopping.matched cid
  · intro cid before
    by_cases same : cid = called
    · exact same ▸ rfl
    · have busy := stopping.busy cid (by simpa [NativeEngine.begin, same] using before)
      simp [idle] at busy
  · exact stopping.known
  · intro cid stopped
    by_cases same : cid = called
    · left
      subst same
      rcases entry with rfl | rfl <;> simp [undecided, NativeEngine.begin, deciding]
    · have before := stopping.releasing cid stopped
      simpa [undecided, stopWaits, NativeEngine.begin, same, native, own cid same] using before

theorem stopping_callNative {s t : NativeSystem} (stopping : Stopping s)
    (taken : s.step .callNative = some t) : Stopping t := by
  simp only [NativeSystem.step] at taken
  split at taken
  · cases taken
  next call rest native =>
    obtain ⟨engine, executed, rfl⟩ := Option.map_eq_some_iff.mp taken
    cases call with
    | disconnect called =>
      simp only [NativeSystem.execute, NativeEngine.step, Option.ite_none_right_eq_some,
        Option.some.injEq] at executed
      obtain ⟨idle, rfl⟩ := executed
      exact stopping_begin stopping idle native (by simp [eq_comm]) (.inr rfl)
    | cancelConnect called =>
      simp only [NativeSystem.execute, NativeEngine.step, Option.ite_none_right_eq_some,
        Option.some.injEq] at executed
      obtain ⟨idle, rfl⟩ := executed
      exact stopping_begin stopping idle native (by simp [eq_comm]) (.inl rfl)
    | moveToChannel moved channel =>
      simp only [NativeSystem.execute, Option.ite_none_right_eq_some, Option.some.injEq] at executed
      obtain ⟨-, rfl⟩ := executed
      refine ⟨stopping.matched, stopping.busy, stopping.known, fun cid stopped => ?_⟩
      have before := stopping.releasing cid stopped
      simpa [undecided, stopWaits, native] using before

theorem stopping_task {s : NativeSystem} {cid : ConnectionId} {action : TaskAction}
    {outcome : Outcome} (stopping : Stopping s) (meets : stopsTakeEffect s (.task cid action) = true)
    (taken : (s.engine.sessions cid).step action = some outcome) :
    Stopping { s with engine := s.engine.settle cid outcome } := by
  have matched := stopping.matched cid
  constructor
  · intro queried
    by_cases same : queried = cid
    · subst same
      simpa [NativeEngine.settle] using matched_step matched taken
    · simpa [NativeEngine.settle, same] using stopping.matched queried
  · intro queried called
    have kept : s.engine.busy = some queried →
        (s.engine.settle cid outcome).busy = some queried := by
      intro busy
      simp only [NativeEngine.settle]
      split
      next ended =>
        obtain rfl : queried = cid := Option.some.inj (busy.symm.trans ended.1)
        simp [NativeEngine.settle, ended.2] at called
      next => exact busy
    by_cases same : queried = cid
    · subst same
      refine kept (stopping.busy queried fun uncalled => called ?_)
      simp only [NativeEngine.settle, Function.update_self]
      by_cases calls : action = .call
      · subst calls
        simp [SessionTasks.step, callStep, uncalled] at taken
      · rw [call_step calls taken, uncalled]
    · exact kept (stopping.busy queried (by simpa [NativeEngine.settle, same] using called))
  · exact stopping.known
  · intro queried stopped
    have before := stopping.releasing queried stopped
    by_cases same : queried = cid
    · subst same
      have meets : heeds (undecided s queried) (s.engine.sessions queried) action = true := by
        simpa [stopsTakeEffect, show s.stopped queried = true from stopped] using meets
      have after := stopped_step matched before meets taken
      simpa [undecided, stopWaits, NativeEngine.settle] using after
    · simpa [undecided, stopWaits, NativeEngine.settle, same] using before

theorem stopping_step {s t : NativeSystem} {action : NativeSystem.Action} (stopping : Stopping s)
    (meets : stopsTakeEffect s action = true) (taken : s.step action = some t) :
    Stopping t := by
  cases action with
  | app action =>
    simp only [NativeSystem.step, Option.ite_none_right_eq_some, Option.map_eq_some_iff] at taken
    obtain ⟨⟨idle, -⟩, app, taken, rfl⟩ := taken
    exact stopping_app stopping idle meets taken
  | accept call =>
    simp only [NativeSystem.step, Option.ite_none_right_eq_some, Option.map_eq_some_iff] at taken
    obtain ⟨⟨idle, -⟩, engine, taken, rfl⟩ := taken
    exact stopping_accept stopping idle taken _
  | deliver env =>
    simp only [NativeSystem.step, Option.ite_none_right_eq_some, Option.map_eq_some_iff] at taken
    obtain ⟨idle, ⟨cid, event⟩, -, rfl⟩ := taken
    exact stopping_between stopping idle rfl rfl
  | callNative => exact stopping_callNative stopping taken
  | task cid action =>
    simp only [NativeSystem.step, NativeEngine.step, Option.map_eq_some_iff] at taken
    obtain ⟨engine, ⟨outcome, taken, rfl⟩, rfl⟩ := taken
    exact stopping_task stopping meets taken

/-- In every run in which every stop takes effect where it is decided, the engine holds no
connection of a session that was stopped and has come to rest. -/
theorem no_zombie_connection {as : List NativeSystem.Action} {s : NativeSystem}
    (run : Run NativeSystem.step (fun s action => stopsTakeEffect s action = true) .start as s) :
    ∀ cid, s.stopped cid = true → AtRest s cid → ¬ Held (s.engine.sessions cid) := by
  have kept : Stopping s := run.invariant Stopping stopping_start
    fun _ _ _ before meets taken => stopping_step before meets taken
  intro cid stopped ⟨unasked, resting⟩
  have settled := resting
  simp only [atRest, Bool.and_eq_true, decide_eq_true_eq] at settled
  have releasing := (kept.releasing cid stopped).resolve_left
    (by simp [undecided, unasked, settled.1.1, deciding])
  exact not_held_of_releasing releasing resting

def awaitedRequest : ConnectRequest := ⟨"ts.example", "Ada", none, none, none⟩

/-- A session whose connect task waits for the handshake. -/
def awaitedHistory : List NativeSystem.Action :=
  [.app (.connect awaitedRequest), .accept ⟨0, awaitedRequest, .user, 0⟩, .task 1 .call]

/-- The user cancels the session, and the engine executes the cancel. -/
def cancelHistory : List NativeSystem.Action :=
  [.app (.cancelConnect 1), .callNative] ++ List.replicate 4 (.task 1 .call)

theorem no_zombie_after_cancel :
    ∃ s, Run NativeSystem.step (fun s action => stopsTakeEffect s action = true) .start
      (awaitedHistory ++ cancelHistory) s ∧ s.stopped 1 = true ∧ AtRest s 1 ∧
        ¬ Held (s.engine.sessions 1) := by
  obtain ⟨s, run, passed⟩ := reaches_of_guarded stopsTakeEffect (show
    (exec (guarded stopsTakeEffect NativeSystem.step) .start
      (awaitedHistory ++ cancelHistory)).any (fun s =>
        s.stopped 1 && (!stopWaits s 1 && (s.engine.sessions 1).atRest)) = true by
    decide +kernel)
  simp only [Bool.and_eq_true, Bool.not_eq_true'] at passed
  exact ⟨s, run, passed.1, passed.2, no_zombie_connection run 1 passed.1 passed.2⟩

/-- A cancel that comes when the handshake is done: the connect task runs on, marks the
session connected and spawns its loop. -/
theorem cancelled_session_stays_connected :
    ¬ ∀ (as : List NativeSystem.Action) (s : NativeSystem),
      Run NativeSystem.step anyStep .start as s →
      ∀ cid, s.stopped cid = true → AtRest s cid → ¬ Held (s.engine.sessions cid) := by
  intro claimed
  obtain ⟨s, run, passed⟩ := reaches_of_exec anyStep (fun _ _ _ => trivial) (show
    (exec NativeSystem.step .start
      (awaitedHistory ++ [.task 1 (.handshakeDone ⟨some 7, "", 0, [], []⟩)] ++ cancelHistory ++
        List.replicate 6 (.task 1 .connect) ++ List.replicate 2 (.task 1 .loop))).any (fun s =>
      s.stopped 1 && (!stopWaits s 1 && (s.engine.sessions 1).atRest) &&
        (s.engine.sessions 1).cell.any (·.connected)) = true by
    decide +kernel)
  simp only [Bool.and_eq_true, Bool.not_eq_true'] at passed
  exact claimed _ s run 1 passed.1.1 passed.1.2 (.inl passed.2)

end Nek0.Guarantees
