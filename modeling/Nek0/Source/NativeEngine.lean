import Nek0.Source.SessionTasks

/-!
# Native engine, task by task

The table of all engine sessions, their ids and the events they have pushed. Calls
from the app come from its one thread, so at most one is under way.
-/

namespace Nek0.Source

structure NativeEngine where
  nextConnectionId : ConnectionId
  sessions : ConnectionId → SessionTasks
  /-- All events pushed so far. -/
  events : List (ConnectionId × PushedEvent)
  /-- The session for which a call from the app is under way. -/
  busy : Option ConnectionId

inductive NativeAction where
  | connect
  | cancelConnect (cid : ConnectionId)
  | disconnect (cid : ConnectionId)
  | task (cid : ConnectionId) (action : SessionTasks.TaskAction)

namespace NativeEngine

def new : NativeEngine := ⟨1, fun _ => .unopened, [], none⟩

/-- `ts_connect` up to the spawn of the connect task. -/
def openSession (e : NativeEngine) : NativeEngine :=
  { e with
    nextConnectionId := e.nextConnectionId + 1
    sessions := Function.update e.sessions e.nextConnectionId .opened
    busy := some e.nextConnectionId }

/-- A call from the app for a session begins. -/
def begin (e : NativeEngine) (cid : ConnectionId) (point : NativePoint) : NativeEngine :=
  { e with
    sessions := Function.update e.sessions cid { e.sessions cid with call := some point }
    busy := some cid }

/-- A session took a step. -/
def settle (e : NativeEngine) (cid : ConnectionId) (outcome : SessionTasks.Outcome) :
    NativeEngine :=
  { e with
    sessions := Function.update e.sessions cid outcome.1
    events := e.events ++ outcome.2.map (cid, ·)
    busy := if e.busy = some cid ∧ outcome.1.call = none then none else e.busy }

def step (e : NativeEngine) : NativeAction → Option NativeEngine
  | .connect => if e.busy = none then some e.openSession else none
  | .cancelConnect cid => if e.busy = none then some (e.begin cid .takeHandle) else none
  | .disconnect cid => if e.busy = none then some (e.begin cid .readAlive) else none
  | .task cid action => ((e.sessions cid).step action).map (e.settle cid)

/-- The events of one session, in the order it pushed them. -/
def eventsOf (e : NativeEngine) (cid : ConnectionId) : List PushedEvent :=
  (e.events.filter (·.1 = cid)).map (·.2)

/-- What a step of the engine means to one session. -/
inductive Seen (e u : NativeEngine) (cid : ConnectionId) : NativeAction → Prop where
  | untouched {action : NativeAction} (session : u.sessions cid = e.sessions cid)
      (events : u.eventsOf cid = e.eventsOf cid) : Seen e u cid action
  | opened (fresh : cid = e.nextConnectionId) (session : u.sessions cid = .opened)
      (events : u.eventsOf cid = e.eventsOf cid) : Seen e u cid .connect
  | called {action : NativeAction} (point : NativePoint)
      (entry : point = .takeHandle ∨ point = .readAlive) (idle : e.busy = none)
      (session : u.sessions cid = { e.sessions cid with call := some point })
      (events : u.eventsOf cid = e.eventsOf cid) : Seen e u cid action
  | moved {action : SessionTasks.TaskAction} (outcome : SessionTasks.Outcome)
      (taken : (e.sessions cid).step action = some outcome)
      (session : u.sessions cid = outcome.1)
      (events : u.eventsOf cid = e.eventsOf cid ++ outcome.2) : Seen e u cid (.task cid action)

theorem eventsOf_settle (e : NativeEngine) (cid queried : ConnectionId)
    (outcome : SessionTasks.Outcome) :
    (e.settle cid outcome).eventsOf queried =
      e.eventsOf queried ++ if cid = queried then outcome.2 else [] := by
  simp only [eventsOf, settle, List.filter_append, List.map_append, List.filter_map]
  congr 1
  by_cases same : cid = queried
  · simp [same, Function.comp_def]
  · simp [same, Function.comp_def]

theorem seen_begin {e : NativeEngine} {action : NativeAction} (opened cid : ConnectionId)
    {point : NativePoint} (entry : point = .takeHandle ∨ point = .readAlive)
    (idle : e.busy = none) : Seen e (e.begin opened point) cid action := by
  by_cases same : cid = opened
  · subst same
    exact .called point entry idle (Function.update_self ..) rfl
  · exact .untouched (Function.update_of_ne same ..) rfl

theorem seen_of_step {e u : NativeEngine} {action : NativeAction}
    (taken : e.step action = some u) (cid : ConnectionId) : Seen e u cid action := by
  cases action with
  | connect =>
    simp only [step, Option.ite_none_right_eq_some, Option.some.injEq] at taken
    obtain ⟨_, rfl⟩ := taken
    by_cases same : cid = e.nextConnectionId
    · exact .opened same (same ▸ Function.update_self ..) rfl
    · exact .untouched (Function.update_of_ne same ..) rfl
  | cancelConnect called =>
    simp only [step, Option.ite_none_right_eq_some, Option.some.injEq] at taken
    obtain ⟨idle, rfl⟩ := taken
    exact seen_begin called cid (.inl rfl) idle
  | disconnect called =>
    simp only [step, Option.ite_none_right_eq_some, Option.some.injEq] at taken
    obtain ⟨idle, rfl⟩ := taken
    exact seen_begin called cid (.inr rfl) idle
  | task moved action =>
    simp only [step, Option.map_eq_some_iff] at taken
    obtain ⟨outcome, taken, rfl⟩ := taken
    have events := eventsOf_settle e moved cid outcome
    by_cases same : moved = cid
    · subst same
      rw [if_pos rfl] at events
      exact .moved outcome taken (Function.update_self ..) events
    · rw [if_neg same, List.append_nil] at events
      exact .untouched (Function.update_of_ne (Ne.symm same) ..) events

theorem nextConnectionId_connect {e u : NativeEngine} (taken : e.step .connect = some u) :
    e.nextConnectionId < u.nextConnectionId := by
  simp only [step, Option.ite_none_right_eq_some, Option.some.injEq] at taken
  obtain ⟨-, rfl⟩ := taken
  exact Nat.lt_succ_self _

theorem nextConnectionId_step {e u : NativeEngine} {action : NativeAction}
    (taken : e.step action = some u) : e.nextConnectionId ≤ u.nextConnectionId := by
  cases action with
  | connect => exact (nextConnectionId_connect taken).le
  | task =>
    simp only [step, Option.map_eq_some_iff] at taken
    obtain ⟨_, _, rfl⟩ := taken
    exact le_rfl
  | _ =>
    simp only [step, Option.ite_none_right_eq_some, Option.some.injEq] at taken
    obtain ⟨_, rfl⟩ := taken
    exact le_rfl

end NativeEngine

end Nek0.Source
