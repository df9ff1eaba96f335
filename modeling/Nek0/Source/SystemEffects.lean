import Mathlib.Data.List.Count
import Mathlib.Order.Basic
import Nek0.Source.NotifierEffects
import Nek0.Source.System

/-!
# What engine steps change

A session weighs one while it has not ended and one for each terminal event of it
that waits in the queue. Engine steps keep its chain and never make it heavier;
only a cancelled attempt is reported on top.
-/

namespace Nek0.Source

open Nek0.Library

namespace Engine

def chainAt (e : Engine) (cid : ConnectionId) : Option ChainId :=
  (e.sessions cid).map (·.chain)

/-- One for a session that has not ended. -/
def openWeight (e : Engine) (cid : ConnectionId) : Nat :=
  match e.sessions cid with
  | some session => if session.stage = .ended then 0 else 1
  | none => 0

/-- The terminal events of a session that wait to be polled. -/
def pendingEnds (e : Engine) (cid : ConnectionId) : Nat :=
  e.events.countP fun entry => entry.1 = cid && entry.2.isTerminal

def weight (e : Engine) (cid : ConnectionId) : Nat := e.openWeight cid + e.pendingEnds cid

/-- Changes that open no session and end sessions at most once, apart from the
exempt ones. -/
structure Ages (exempt : ConnectionId → Prop) (e later : Engine) : Prop where
  next : later.nextConnectionId = e.nextConnectionId
  chainAt : ∀ cid, later.chainAt cid = e.chainAt cid
  openWeight : ∀ cid, later.openWeight cid ≤ e.openWeight cid
  weight : ∀ cid, ¬ exempt cid → later.weight cid ≤ e.weight cid
  events : ∀ cid event, (cid, event) ∈ later.events →
    (cid, event) ∈ e.events ∨ (e.sessions cid).isSome = true

theorem isSome_sessions_of_chainAt {e later : Engine} {cid : ConnectionId}
    (same : later.chainAt cid = e.chainAt cid) (known : (later.sessions cid).isSome = true) :
    (e.sessions cid).isSome = true := by
  have chained := congrArg Option.isSome same
  simpa [chainAt, known] using chained

variable {exempt : ConnectionId → Prop}

theorem Ages.refl (e : Engine) : Ages exempt e e :=
  ⟨rfl, fun _ => rfl, fun _ => le_refl _, fun _ _ => le_refl _, fun _ _ => .inl⟩

theorem Ages.trans {e₁ e₂ e₃ : Engine} (first : Ages exempt e₁ e₂) (second : Ages exempt e₂ e₃) :
    Ages exempt e₁ e₃ :=
  ⟨second.next.trans first.next, fun cid => (second.chainAt cid).trans (first.chainAt cid),
    fun cid => (second.openWeight cid).trans (first.openWeight cid),
    fun cid free => (second.weight cid free).trans (first.weight cid free),
    fun cid event pending => (second.events cid event pending).elim (first.events cid event)
      fun known => .inr (isSome_sessions_of_chainAt (first.chainAt cid) known)⟩

theorem pendingEnds_push (e : Engine) (cid queried : ConnectionId) (event : TsEngineEvent) :
    (e.push cid event).pendingEnds queried =
      e.pendingEnds queried + if cid = queried ∧ event.isTerminal = true then 1 else 0 := by
  simp only [pendingEnds, push, List.countP_append, List.countP_singleton]
  by_cases same : cid = queried <;> simp [same]

@[simp] theorem pendingEnds_setStage (e : Engine) (cid queried : ConnectionId)
    (session : EngineSession) (stage : Stage) :
    (e.setStage cid session stage).pendingEnds queried = e.pendingEnds queried := rfl

theorem openWeight_setStage (e : Engine) (cid queried : ConnectionId) (session : EngineSession)
    (stage : Stage) :
    (e.setStage cid session stage).openWeight queried =
      if queried = cid then (if stage = .ended then 0 else 1) else e.openWeight queried := by
  by_cases same : queried = cid <;> simp [openWeight, setStage, same]

theorem chainAt_setStage (e : Engine) {cid : ConnectionId} {session : EngineSession}
    (stage : Stage) (found : e.sessions cid = some session) (queried : ConnectionId) :
    (e.setStage cid session stage).chainAt queried = e.chainAt queried := by
  by_cases same : queried = cid
  · subst same
    simp [chainAt, setStage, found]
  · simp [chainAt, setStage, same]

theorem openWeight_of_stage {e : Engine} {cid : ConnectionId} {session : EngineSession}
    (found : e.sessions cid = some session) (alive : session.stage ≠ .ended) :
    e.openWeight cid = 1 := by
  simp [openWeight, found, alive]

/-- A session that has not ended moves to another stage. -/
theorem ages_setStage (e : Engine) {cid : ConnectionId} {session : EngineSession} (stage : Stage)
    (found : e.sessions cid = some session) (alive : session.stage ≠ .ended) :
    Ages exempt e (e.setStage cid session stage) := by
  have lighter : ∀ queried, (e.setStage cid session stage).openWeight queried ≤
      e.openWeight queried := by
    intro queried
    rw [openWeight_setStage]
    split
    next same =>
      rw [same, openWeight_of_stage found alive]
      split <;> omega
    next => exact le_refl _
  exact ⟨rfl, e.chainAt_setStage stage found, lighter,
    fun queried _ => Nat.add_le_add_right (lighter queried) _, fun _ _ => .inl⟩

theorem mem_events_push {e : Engine} {cid queried : ConnectionId}
    {event entry : TsEngineEvent} (known : (e.sessions cid).isSome = true)
    (pending : (queried, entry) ∈ e.events ++ [(cid, event)]) :
    (queried, entry) ∈ e.events ∨ (e.sessions queried).isSome = true := by
  rcases List.mem_append.mp pending with earlier | now
  · exact .inl earlier
  · cases List.mem_singleton.mp now
    exact .inr known

/-- A session ends and says so. -/
theorem ages_end (e : Engine) {cid : ConnectionId} {session : EngineSession}
    (event : TsEngineEvent) (found : e.sessions cid = some session)
    (alive : session.stage ≠ .ended) :
    Ages exempt e ((e.setStage cid session .ended).push cid event) := by
  have aged : Ages exempt e (e.setStage cid session .ended) := ages_setStage e .ended found alive
  refine ⟨rfl, aged.chainAt, aged.openWeight, fun queried _ => ?_,
    fun queried pushed pending => mem_events_push (by simp [found]) pending⟩
  have unchanged : ((e.setStage cid session .ended).push cid event).openWeight queried =
      (e.setStage cid session .ended).openWeight queried := rfl
  rw [weight, weight, unchanged, openWeight_setStage, pendingEnds_push, pendingEnds_setStage]
  by_cases same : queried = cid
  · subst same
    rw [openWeight_of_stage found alive]
    simp only [if_true, true_and]
    split <;> omega
  · simp [same, Ne.symm same]

/-- An event that ends nothing. -/
theorem ages_push (e : Engine) {cid : ConnectionId} {event : TsEngineEvent}
    (known : (e.sessions cid).isSome = true)
    (harmless : event.isTerminal = false ∨ exempt cid) : Ages exempt e (e.push cid event) := by
  refine ⟨rfl, fun _ => rfl, fun _ => le_refl _, fun queried free => ?_,
    fun queried pushed pending => mem_events_push known pending⟩
  have unchanged : (e.push cid event).openWeight queried = e.openWeight queried := rfl
  rw [weight, weight, unchanged, pendingEnds_push]
  split
  next ends =>
    rcases harmless with quiet | spared
    · rw [quiet] at ends
      cases ends.2
    · exact absurd (ends.1 ▸ spared) free
  next => rfl

theorem ages_disconnect (e : Engine) (cid : ConnectionId) : Ages exempt e (e.disconnect cid) := by
  unfold disconnect
  split
  · exact .refl e
  next session found =>
    split
    next stage => exact e.ages_setStage _ found (by simp [stage])
    next stage => exact e.ages_setStage _ found (by simp [stage])
    · exact .refl e

theorem ages_cancelConnect (e : Engine) (cid : ConnectionId) (reported : Bool)
    (spared : exempt cid) : Ages exempt e (e.cancelConnect cid reported) := by
  unfold cancelConnect
  dsimp only
  split
  · exact .refl e
  next session found =>
    split
    next stage => exact e.ages_end _ found (by simp [stage])
    · exact e.ages_push (by simp [found]) (.inr spared)
    · split
      · exact e.ages_push (by simp [found]) (.inr spared)
      · exact .refl e

/-- Executing calls of the app exempts the attempts they cancel. -/
theorem ages_execute (e : Engine) (reported : Bool) (calls : List NativeCall)
    (spared : ∀ cid, .cancelConnect cid ∈ calls → exempt cid) :
    Ages exempt e (calls.foldl (execute reported) e) := by
  induction calls generalizing e with
  | nil => exact .refl e
  | cons call rest ih =>
    have first : Ages exempt e (execute reported e call) := by
      cases call with
      | disconnect cid => exact e.ages_disconnect cid
      | cancelConnect cid => exact e.ages_cancelConnect cid reported (spared cid (by simp))
      | moveToChannel _ _ => exact .refl e
    exact first.trans (ih _ fun cid called => spared cid (List.mem_cons_of_mem _ called))

theorem next_execute (e : Engine) (reported : Bool) (calls : List NativeCall) :
    (calls.foldl (execute reported) e).nextConnectionId = e.nextConnectionId := by
  have aged : Ages (fun _ => True) e (calls.foldl (execute reported) e) :=
    e.ages_execute reported calls fun _ _ => trivial
  exact aged.next

/-- Executing calls of the app connects nothing. -/
theorem connected_execute {e : Engine} {reported : Bool} {calls : List NativeCall}
    {cid : ConnectionId} {data : ConnectedEvent}
    (pending : (cid, .connected data) ∈ (calls.foldl (execute reported) e).events) :
    (cid, .connected data) ∈ e.events := by
  induction calls generalizing e with
  | nil => exact pending
  | cons call rest ih =>
    have earlier := ih pending
    cases call with
    | disconnect closed =>
      simp only [execute, disconnect] at earlier
      split at earlier
      · exact earlier
      · split at earlier <;> exact earlier
    | cancelConnect cancelled =>
      simp only [execute, cancelConnect] at earlier
      split at earlier
      · exact earlier
      · split at earlier
        · simpa [push, setStage] using earlier
        · simpa [push] using earlier
        · split at earlier
          · simpa [push] using earlier
          · exact earlier
    | moveToChannel _ _ => exact earlier

theorem mayNote_not_terminal {stage : Stage} {event : TsEngineEvent}
    (may : mayNote stage event = true) : event.isTerminal = false := by
  cases event <;> first | rfl | cases may

/-! ## Steps of the engine on its own -/

/-- The session a step is about. -/
def movedBy : EngineAction → ConnectionId
  | .handshakeDone cid | .fail cid _ _ | .publish cid _ | .stash cid | .take cid
  | .startLoop cid | .drop cid | .panics cid | .note cid _ => cid

/-- From which stage to which a step moves its session, and what it says meanwhile. -/
inductive Moves : EngineAction → Stage → Stage → List TsEngineEvent → Prop where
  | handshakeDone {cid : ConnectionId} : Moves (.handshakeDone cid) .handshaking .finishing []
  | fail {cid : ConnectionId} {kind : String} {retryable : Bool} {stage : Stage}
      (waits : stage = .handshaking ∨ stage = .finishing) :
      Moves (.fail cid kind retryable) stage .ended [.connectFailed kind retryable]
  | publish {cid : ConnectionId} {data : ConnectedEvent} :
      Moves (.publish cid data) .finishing .published [.connected data]
  | stash {cid : ConnectionId} : Moves (.stash cid) .published .stashed []
  | take {cid : ConnectionId} : Moves (.take cid) .stashed .taken []
  | startLoop {cid : ConnectionId} : Moves (.startLoop cid) .taken (.looping false) []
  | drop {cid : ConnectionId} {requested : Bool} :
      Moves (.drop cid) (.looping requested) .ended [.disconnected requested]
  | panics {cid : ConnectionId} {requested : Bool} :
      Moves (.panics cid) (.looping requested) .ended []
  | note {cid : ConnectionId} {stage : Stage} {event : TsEngineEvent}
      (may : mayNote stage event = true) : Moves (.note cid event) stage stage [event]

def say (e : Engine) (cid : ConnectionId) (said : List TsEngineEvent) : Engine :=
  { e with events := e.events ++ said.map fun event => (cid, event) }

theorem say_nil (e : Engine) (cid : ConnectionId) : e.say cid [] = e := by
  simp [say]

theorem setStage_self {e : Engine} {cid : ConnectionId} {session : EngineSession}
    (found : e.sessions cid = some session) : e.setStage cid session session.stage = e := by
  simp only [setStage]
  rw [Function.update_eq_self_iff.mpr found.symm]

/-- What a step of the engine does. -/
theorem step_cases {e later : Engine} {action : EngineAction} (taken : e.step action = some later) :
    ∃ session source stage said, e.sessions (movedBy action) = some session ∧
      session.stage = source ∧ Moves action source stage said ∧
      later = (e.setStage (movedBy action) session stage).say (movedBy action) said := by
  cases action with
  | handshakeDone cid | stash cid | take cid | startLoop cid =>
    obtain ⟨session, found, moved⟩ := Option.bind_eq_some_iff.mp taken
    simp only [Option.ite_none_right_eq_some, Option.some.injEq] at moved
    obtain ⟨stage, rfl⟩ := moved
    refine ⟨session, _, _, [], found, stage, ?_, (say_nil ..).symm⟩
    constructor
  | fail cid kind retryable =>
    obtain ⟨session, found, moved⟩ := Option.bind_eq_some_iff.mp taken
    simp only [Option.ite_none_right_eq_some, Option.some.injEq] at moved
    obtain ⟨stage, rfl⟩ := moved
    exact ⟨session, _, _, _, found, rfl, .fail stage, rfl⟩
  | publish cid data =>
    obtain ⟨session, found, moved⟩ := Option.bind_eq_some_iff.mp taken
    simp only [Option.ite_none_right_eq_some, Option.some.injEq] at moved
    obtain ⟨stage, rfl⟩ := moved
    exact ⟨session, _, _, _, found, stage, .publish, rfl⟩
  | drop cid =>
    obtain ⟨session, found, moved⟩ := Option.bind_eq_some_iff.mp taken
    split at moved
    next requested stage =>
      cases moved
      exact ⟨session, _, _, _, found, stage, .drop, rfl⟩
    next => cases moved
  | panics cid =>
    obtain ⟨session, found, moved⟩ := Option.bind_eq_some_iff.mp taken
    split at moved
    next requested stage =>
      cases moved
      exact ⟨session, _, _, [], found, stage, .panics, (say_nil ..).symm⟩
    next => cases moved
  | note cid event =>
    obtain ⟨session, found, moved⟩ := Option.bind_eq_some_iff.mp taken
    simp only [Option.ite_none_right_eq_some, Option.some.injEq] at moved
    obtain ⟨may, rfl⟩ := moved
    refine ⟨session, _, _, _, found, rfl, .note may, ?_⟩
    rw [movedBy, setStage_self found]
    rfl

/-- No step of the engine opens a session or ends one twice. -/
theorem ages_step {e later : Engine} {action : EngineAction} (taken : e.step action = some later) :
    Ages exempt e later := by
  obtain ⟨session, source, stage, said, found, at_source, moves, rfl⟩ := step_cases taken
  cases moves with
  | handshakeDone | stash | take | startLoop | panics =>
    rw [say_nil]
    exact e.ages_setStage _ found (by simp [at_source])
  | fail waits =>
    have alive : session.stage ≠ .ended := by
      rcases waits with waits | waits <;> simp [at_source, waits]
    exact e.ages_end _ found alive
  | drop => exact e.ages_end _ found (by simp [at_source])
  | publish =>
    exact (e.ages_setStage _ found (by simp [at_source])).trans
      (ages_push _ (by simp [setStage]) (.inl rfl))
  | note may =>
    rw [← at_source, setStage_self found]
    exact e.ages_push (by simp [found]) (.inl (mayNote_not_terminal may))

/-- An event that waits goes on waiting while the engine runs. -/
theorem events_step {e later : Engine} {action : EngineAction}
    {entry : ConnectionId × TsEngineEvent} (taken : e.step action = some later)
    (waits : entry ∈ e.events) : entry ∈ later.events := by
  obtain ⟨session, source, stage, said, _, _, _, rfl⟩ := step_cases taken
  exact List.mem_append_left _ waits

/-- Only publishing a session reports it connected. -/
theorem connected_step {e later : Engine} {action : EngineAction} {cid : ConnectionId}
    {data : ConnectedEvent} (taken : e.step action = some later)
    (pending : (cid, .connected data) ∈ later.events) :
    (cid, .connected data) ∈ e.events ∨ action = .publish cid data := by
  obtain ⟨session, source, stage, said, _, _, moves, rfl⟩ := step_cases taken
  refine (List.mem_append.mp pending).imp_right fun now => ?_
  obtain ⟨event, inside, same⟩ := List.mem_map.mp now
  cases same
  cases moves with
  | publish =>
    cases List.mem_singleton.mp inside
    rfl
  | fail | drop => cases List.mem_singleton.mp inside
  | note may =>
    cases List.mem_singleton.mp inside
    cases may
  | _ => cases inside

theorem pendingEnds_openSession (e : Engine) (chain : ChainId) (cid : ConnectionId) :
    (e.openSession chain).pendingEnds cid = e.pendingEnds cid := rfl

theorem openWeight_openSession (e : Engine) (chain : ChainId) (cid : ConnectionId) :
    (e.openSession chain).openWeight cid =
      if cid = e.nextConnectionId then 1 else e.openWeight cid := by
  by_cases same : cid = e.nextConnectionId <;>
    simp [openWeight, openSession, same]

theorem chainAt_openSession (e : Engine) (chain : ChainId) (cid : ConnectionId) :
    (e.openSession chain).chainAt cid =
      if cid = e.nextConnectionId then some chain else e.chainAt cid := by
  by_cases same : cid = e.nextConnectionId <;>
    simp [chainAt, openSession, same]

end Engine

namespace System

variable {s t : System} {reported : Bool}

/-- The engine gave no id. -/
theorem step_refused {call : ConnectCall}
    (taken : s.step (.app (.completeConnect call none) reported) = some t) :
    call ∈ s.app.inFlight ∧ t = settle (s.app.completeConnect call none) s.engine reported := by
  obtain ⟨app, moved, rfl⟩ := Option.map_eq_some_iff.mp taken
  obtain ⟨flying, rfl⟩ := Notifier.step_completeConnect moved
  exact ⟨flying, rfl⟩

theorem step_timer {cid : ConnectionId} (taken : s.step (.app (.timer cid) reported) = some t) :
    ∃ rt timer, s.app.rt.find cid = some rt ∧ rt.reconnectTimer = some timer ∧
      t = settle (s.app.timerFired cid rt timer) s.engine reported := by
  obtain ⟨app, fired, rfl⟩ := Option.map_eq_some_iff.mp taken
  obtain ⟨rt, timer, found, armed, rfl⟩ := Notifier.step_timer fired
  exact ⟨rt, timer, found, armed, rfl⟩

/-- The app polls the oldest event. -/
theorem step_deliver {env : Notifier.Ambient} (taken : s.step (.deliver env) = some t) :
    ∃ cid event rest, s.engine.events = (cid, event) :: rest ∧
      t = settle (s.app.handleEvent cid event env) (s.engine.leave rest) false := by
  simp only [step] at taken
  split at taken
  · cases taken
  next cid event rest queue => exact ⟨cid, event, rest, queue, (Option.some.inj taken).symm⟩

/-- The step of the app that a step of the system is. -/
def atApp (s : System) : Action → Option Notifier.Action
  | .app action _ => some action
  | .accept call => some (.completeConnect call (some s.engine.nextConnectionId))
  | .deliver env => s.engine.events.head?.map fun entry => .event entry.1 entry.2 env
  | .engine _ => none

/-- The app takes its step, has its calls executed, and the engine counts the sessions that it
opens. -/
theorem step_atApp {a : Action} {b : Notifier.Action} (taken : s.step a = some t)
    (own : s.atApp a = some b) :
    ∃ app, s.app.step b = some app ∧ t.app = { app with native := [] } ∧
      ((∃ call, b = .completeConnect call (some s.engine.nextConnectionId)) ∧
          t.engine.nextConnectionId = s.engine.nextConnectionId + 1 ∨
        (∀ call opened, b ≠ .completeConnect call (some opened)) ∧
          t.engine.nextConnectionId = s.engine.nextConnectionId) := by
  cases a with
  | app action reported =>
    obtain rfl := Option.some.inj own
    have executed : (∀ call opened, action ≠ .completeConnect call (some opened)) ∧
        ∃ app, s.app.step action = some app ∧ t = settle app s.engine reported := by
      cases action with
      | completeConnect call reply =>
        cases reply with
        | some opened => cases taken
        | none =>
          obtain ⟨app, moved, rfl⟩ := Option.map_eq_some_iff.mp taken
          exact ⟨by simp, app, moved, rfl⟩
      | event cid event env => cases taken
      | _ =>
        simp only [step] at taken
        obtain ⟨app, moved, rfl⟩ := Option.map_eq_some_iff.mp taken
        exact ⟨by simp, app, moved, rfl⟩
    obtain ⟨other, app, moved, rfl⟩ := executed
    exact ⟨app, moved, rfl, .inr ⟨other, Engine.next_execute ..⟩⟩
  | accept call =>
    obtain rfl := Option.some.inj own
    simp only [step, Option.ite_none_right_eq_some, Option.some.injEq] at taken
    obtain ⟨flying, rfl⟩ := taken
    exact ⟨_, if_pos flying, rfl, .inl ⟨⟨call, rfl⟩, Engine.next_execute ..⟩⟩
  | deliver env =>
    obtain ⟨cid, event, rest, queue, rfl⟩ := step_deliver taken
    have polled : b = .event cid event env := by
      simpa [atApp, queue] using own.symm
    subst polled
    exact ⟨_, rfl, rfl, .inr ⟨by simp, Engine.next_execute ..⟩⟩
  | engine action => cases own

/-- The engine on its own opens nothing. -/
theorem step_atApp_none {a : Action} (taken : s.step a = some t) (own : s.atApp a = none) :
    t.app = s.app ∧ t.engine.nextConnectionId = s.engine.nextConnectionId := by
  cases a with
  | deliver env =>
    obtain ⟨cid, event, rest, queue, rfl⟩ := step_deliver taken
    simp [atApp, queue] at own
  | engine action =>
    obtain ⟨engine, moved, rfl⟩ := Option.map_eq_some_iff.mp taken
    have aged : Engine.Ages (fun _ => True) s.engine engine := Engine.ages_step moved
    exact ⟨rfl, aged.next⟩
  | _ => cases own

end System

end Nek0.Source
