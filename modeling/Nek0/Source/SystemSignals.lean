import Nek0.Source.SystemEffects

/-!
# What a session still has to report

A session of the engine reports `connected` and then `disconnected`, each at most once. What is
still to come is what waits in the queue and what the stage of the session leaves open. Every
step cuts it off at its end, and polling takes it from its front.
-/

namespace Nek0.Source

open Library

namespace Engine

inductive Signal where
  | up
  | down
  deriving DecidableEq, Repr

def signalOf : TsEngineEvent → Option Signal
  | .connected _ => some .up
  | .disconnected _ => some .down
  | _ => none

def stageSignals : Stage → List Signal
  | .handshaking | .finishing => [.up, .down]
  | .published | .stashed | .taken | .looping _ => [.down]
  | .ended => []

/-- The signals of a session that wait to be polled. -/
def waitingSignals (events : List (ConnectionId × TsEngineEvent)) (cid : ConnectionId) :
    List Signal :=
  events.filterMap fun entry => if entry.1 = cid then signalOf entry.2 else none

def openSignals (e : Engine) (cid : ConnectionId) : List Signal :=
  match e.sessions cid with
  | some session => stageSignals session.stage
  | none => [.up, .down]

def toCome (e : Engine) (cid : ConnectionId) : List Signal :=
  waitingSignals e.events cid ++ e.openSignals cid

theorem waitingSignals_say (events : List (ConnectionId × TsEngineEvent))
    (cid queried : ConnectionId) (said : List TsEngineEvent) :
    waitingSignals (events ++ said.map fun event => (cid, event)) queried =
      waitingSignals events queried ++ if cid = queried then said.filterMap signalOf else [] := by
  simp only [waitingSignals, List.filterMap_append, List.filterMap_map]
  congr 1
  by_cases same : cid = queried
  · simp [same]
  · simp [same]

theorem openSignals_setStage (e : Engine) (cid queried : ConnectionId) (session : EngineSession)
    (stage : Stage) : (e.setStage cid session stage).openSignals queried =
      if cid = queried then stageSignals stage else e.openSignals queried := by
  by_cases same : cid = queried
  · simp [openSignals, setStage, same]
  · simp [openSignals, setStage, same, Ne.symm same]

/-- A session moves on and says something. -/
theorem toCome_move {e : Engine} {cid : ConnectionId} {session : EngineSession} {stage : Stage}
    {said : List TsEngineEvent} (found : e.sessions cid = some session)
    (cut : said.filterMap signalOf ++ stageSignals stage <+: stageSignals session.stage)
    (queried : ConnectionId) :
    ((e.setStage cid session stage).say cid said).toCome queried <+: e.toCome queried := by
  have opened : ((e.setStage cid session stage).say cid said).openSignals queried =
      (e.setStage cid session stage).openSignals queried := rfl
  have events : ((e.setStage cid session stage).say cid said).events =
      e.events ++ said.map fun event => (cid, event) := rfl
  rw [toCome, toCome, opened, openSignals_setStage, events, waitingSignals_say, List.append_assoc]
  refine (List.prefix_append_right_inj _).mpr ?_
  by_cases same : cid = queried
  · subst same
    simpa [openSignals, found] using cut
  · simp [same]

theorem signal_of_mayNote {stage : Stage} {event : TsEngineEvent}
    (may : mayNote stage event = true) : signalOf event = none := by
  cases event <;> first | rfl | cases may

theorem toCome_step {e later : Engine} {action : EngineAction} (taken : e.step action = some later)
    (queried : ConnectionId) : later.toCome queried <+: e.toCome queried := by
  obtain ⟨session, source, stage, said, found, source_eq, moves, rfl⟩ := step_cases taken
  refine toCome_move found ?_ queried
  rw [source_eq]
  cases moves with
  | fail waits => exact List.nil_prefix
  | note may =>
    simp [signal_of_mayNote may]
  | _ => simp [signalOf, stageSignals]

theorem toCome_disconnect (e : Engine) (cid queried : ConnectionId) :
    (e.disconnect cid).toCome queried <+: e.toCome queried := by
  unfold disconnect
  split
  · exact List.prefix_rfl
  next session found =>
  have move : ∀ stage, stageSignals stage <+: stageSignals session.stage →
      (e.setStage cid session stage).toCome queried <+: e.toCome queried := by
    intro stage cut
    rw [← say_nil (e.setStage cid session stage) cid]
    exact toCome_move found (by simpa using cut) queried
  split
  · next stage => exact move _ (by simp [stage, stageSignals])
  · next stage => exact move _ (by simp [stage, stageSignals])
  · exact List.prefix_rfl

theorem toCome_push (e : Engine) (cid queried : ConnectionId) {event : TsEngineEvent}
    (silent : signalOf event = none) : (e.push cid event).toCome queried = e.toCome queried := by
  have opened : (e.push cid event).openSignals queried = e.openSignals queried := rfl
  have events : (e.push cid event).events = e.events ++ [event].map fun event => (cid, event) := rfl
  rw [toCome, toCome, opened, events, waitingSignals_say]
  simp [silent]

theorem toCome_cancelConnect (e : Engine) (cid queried : ConnectionId) (reported : Bool) :
    (e.cancelConnect cid reported).toCome queried <+: e.toCome queried := by
  unfold cancelConnect
  dsimp only
  split
  · exact List.prefix_rfl
  next session found =>
  split
  · next stage =>
    rw [toCome_push _ _ _ rfl, ← say_nil (e.setStage cid session .ended) cid]
    exact toCome_move found (by simp [stageSignals]) queried
  · exact ⟨[], by rw [List.append_nil, toCome_push _ _ _ rfl]⟩
  · split
    · exact ⟨[], by rw [List.append_nil, toCome_push _ _ _ rfl]⟩
    · exact List.prefix_rfl

theorem toCome_execute (reported : Bool) (calls : List NativeCall) (e : Engine)
    (queried : ConnectionId) :
    (calls.foldl (execute reported) e).toCome queried <+: e.toCome queried := by
  induction calls generalizing e with
  | nil => exact List.prefix_rfl
  | cons call rest ih =>
    refine (ih (execute reported e call)).trans ?_
    cases call with
    | disconnect cid => exact toCome_disconnect e cid queried
    | cancelConnect cid => exact toCome_cancelConnect e cid queried reported
    | moveToChannel _ _ => exact List.prefix_rfl

/-- A session that is opened has everything still to report. -/
theorem toCome_openSession (e : Engine) (chain : ChainId) (queried : ConnectionId)
    (unused : e.sessions e.nextConnectionId = none) :
    (e.openSession chain).toCome queried = e.toCome queried := by
  have events : (e.openSession chain).events = e.events := rfl
  rw [toCome, toCome, events]
  congr 1
  by_cases same : queried = e.nextConnectionId
  · simp [openSignals, openSession, same, unused, stageSignals]
  · simp [openSignals, openSession, same]

/-- Nothing of a session waits before it is opened. -/
theorem toCome_unused {e : Engine} {cid : ConnectionId} (unused : e.sessions cid = none)
    (silent : ∀ event, (cid, event) ∉ e.events) : e.toCome cid = [.up, .down] := by
  have nothing : waitingSignals e.events cid = [] := by
    refine List.filterMap_eq_nil_iff.mpr fun entry listed => if_neg fun same => ?_
    exact silent entry.2 (same ▸ listed)
  simp [toCome, nothing, openSignals, unused]

theorem toCome_leave {e : Engine} {cid : ConnectionId} {event : TsEngineEvent}
    {rest : List (ConnectionId × TsEngineEvent)} (queue : e.events = (cid, event) :: rest)
    (queried : ConnectionId) : e.toCome queried =
      (if cid = queried then (signalOf event).toList else []) ++ (e.leave rest).toCome queried := by
  have opened : (e.leave rest).openSignals queried = e.openSignals queried := rfl
  rw [toCome, toCome, opened, queue, ← List.append_assoc]
  congr 1
  by_cases same : cid = queried
  · cases signal : signalOf event <;> simp [waitingSignals, leave, same, signal]
  · simp [waitingSignals, leave, same]

end Engine

end Nek0.Source
