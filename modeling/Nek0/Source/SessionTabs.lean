import Nek0.Source.NotifierEffects

/-!
# Tabs of the app

What else happens to the containers of `MultiServerNotifier`: a tab is selected or closed, and
an action of one session writes its record. Of a record only the key counts here. `Wrote` and
`Kept` say what an operation does to the session map, the order, the selection and the keys of
the runtime.
-/

namespace Nek0.Source

open Nek0.Library

namespace Notifier

def selectSession (s : Notifier) (cid : ConnectionId) : Notifier :=
  if cid ∈ s.order then { s with selectedId := some cid } else s

def closeSession (s : Notifier) (cid : ConnectionId) : Notifier :=
  if (s.rt.find cid).isSome then (s.cancelTimer cid).disconnect cid else s

/-- An action that writes the record of its session in any case, now or after a wait:
`setPttPressed`, `setVadThreshold`, `openThread`, `applyWhisperPreferences` and their like. -/
def writeSession (s : Notifier) (cid : ConnectionId) : Notifier := s.setSession cid (s.stateOf cid)

/-- An action that asks for a connected session first: `kickClient`, `setAway` and their like. -/
def writeConnected (s : Notifier) (cid : ConnectionId) : Notifier :=
  if (s.stateOf cid).connected then s.writeSession cid else s

inductive TabAction where
  | table (action : Action)
  | selectSession (cid : ConnectionId)
  | closeSession (cid : ConnectionId)
  | writeSession (cid : ConnectionId)
  | writeConnected (cid : ConnectionId)

def tabStep (s : Notifier) : TabAction → Option Notifier
  | .table action => s.step action
  | .selectSession cid => some (s.selectSession cid)
  | .closeSession cid => some (s.closeSession cid)
  | .writeSession cid => some (s.writeSession cid)
  | .writeConnected cid => some (s.writeConnected cid)

/-- A list with a key put at its end unless it is there. -/
def listedWith (cid : ConnectionId) (cids : List ConnectionId) : List ConnectionId :=
  if cid ∈ cids then cids else cids ++ [cid]

@[simp] theorem mem_listedWith {cid queried : ConnectionId} {cids : List ConnectionId} :
    queried ∈ listedWith cid cids ↔ queried ∈ cids ∨ queried = cid := by
  unfold listedWith
  split
  · next present => exact ⟨.inl, fun either => either.elim id (· ▸ present)⟩
  · simp

@[simp] theorem listedWith_listedWith (cid : ConnectionId) (cids : List ConnectionId) :
    listedWith cid (listedWith cid cids) = listedWith cid cids :=
  if_pos (mem_listedWith.mpr (.inr rfl))

/-- The containers are as before. -/
structure Kept (s t : Notifier) : Prop where
  sessions : t.sessions.keys = s.sessions.keys
  order : t.order = s.order
  selectedId : t.selectedId = s.selectedId
  rt : t.rt.keys = s.rt.keys

/-- The record of one session was written. -/
structure Wrote (cid : ConnectionId) (s t : Notifier) : Prop where
  sessions : t.sessions.keys = listedWith cid s.sessions.keys
  order : t.order = listedWith cid s.order
  selectedId : t.selectedId = s.selectedId
  rt : t.rt.keys = s.rt.keys

variable {s t u : Notifier} {cid : ConnectionId}

theorem Kept.refl (s : Notifier) : Kept s s := ⟨rfl, rfl, rfl, rfl⟩

theorem Kept.trans (first : Kept s t) (second : Kept t u) : Kept s u where
  sessions := second.sessions.trans first.sessions
  order := second.order.trans first.order
  selectedId := second.selectedId.trans first.selectedId
  rt := second.rt.trans first.rt

theorem Kept.wrote (first : Kept s t) (second : Wrote cid t u) : Wrote cid s u where
  sessions := first.sessions ▸ second.sessions
  order := first.order ▸ second.order
  selectedId := second.selectedId.trans first.selectedId
  rt := second.rt.trans first.rt

theorem Wrote.kept (first : Wrote cid s t) (second : Kept t u) : Wrote cid s u where
  sessions := second.sessions.trans first.sessions
  order := second.order.trans first.order
  selectedId := second.selectedId.trans first.selectedId
  rt := second.rt.trans first.rt

theorem Wrote.trans (first : Wrote cid s t) (second : Wrote cid t u) : Wrote cid s u where
  sessions := by rw [second.sessions, first.sessions, listedWith_listedWith]
  order := by rw [second.order, first.order, listedWith_listedWith]
  selectedId := second.selectedId.trans first.selectedId
  rt := second.rt.trans first.rt

section Operations

variable (s) (cid : ConnectionId)

theorem wrote_setSession (next : TsConnectionState) : Wrote cid s (s.setSession cid next) :=
  ⟨rfl, rfl, rfl, rfl⟩

theorem kept_modifyRt (change : SessionRuntime → SessionRuntime) : Kept s (s.modifyRt cid change) :=
  ⟨rfl, rfl, rfl, modifyRt_keys ..⟩

theorem kept_cancelTimer : Kept s (s.cancelTimer cid) := kept_modifyRt s cid _

theorem kept_callNative (call : NativeCall) : Kept s (s.callNative call) := ⟨rfl, rfl, rfl, rfl⟩

theorem kept_connect (request : ConnectRequest) (origin : Origin) (chain : Option ChainId) :
    Kept s (s.connect request origin chain) := ⟨rfl, rfl, rfl, rfl⟩

theorem wrote_disconnect : Wrote cid s (s.disconnect cid) := by
  have noted := (kept_cancelTimer s cid).trans
    (kept_modifyRt _ cid fun rt => { rt with channelToRestore := none })
  unfold disconnect
  dsimp only
  split
  · exact noted.wrote (wrote_setSession ..)
  · exact ((noted.wrote (wrote_setSession ..)).kept (kept_callNative ..)).trans
      (wrote_setSession ..)

theorem kept_restoreChannel (channels : List TsChannel) :
    Kept s (s.restoreChannelAfterReconnect cid channels) := by
  unfold restoreChannelAfterReconnect
  split
  · exact .refl s
  · have start : Kept s _ := kept_modifyRt s cid fun rt => { rt with channelToRestore := none }
    dsimp only
    split
    · exact start
    split
    · exact start
    split
    · exact start
    · exact start.trans (kept_callNative ..)

theorem wrote_handleConnected (data : ConnectedEvent) :
    Wrote cid s (s.handleConnected cid data) := by
  unfold handleConnected hydrateServerMessages
  dsimp only
  split
  · exact (((wrote_setSession ..).trans (wrote_disconnect ..)).kept (kept_cancelTimer ..)).kept
      (kept_restoreChannel ..)
  · exact ((wrote_setSession ..).kept (kept_cancelTimer ..)).kept (kept_restoreChannel ..)

theorem wrote_armReconnect (chain : ChainId) (request : ConnectRequest) (delay now : Nat) :
    Wrote cid s (s.armReconnect cid chain request delay now) := by
  have armed : Wrote cid s _ := (wrote_setSession s cid
    { s.stateOf cid with
      phase := .reconnecting
      reconnectAttempt := (s.stateOf cid).reconnectAttempt + 1
      reconnectAt := some (now + delay) }).kept (kept_modifyRt _ cid
    fun rt => { rt with reconnectTimer := some ⟨request, delay⟩ })
  exact ⟨armed.sessions, armed.order, armed.selectedId, armed.rt⟩

theorem maybeScheduleReconnect_writes (kind : String) (retryable : Bool) (env : Ambient) :
    Kept s (s.maybeScheduleReconnect cid kind retryable env) ∨
      Wrote cid s (s.maybeScheduleReconnect cid kind retryable env) := by
  unfold maybeScheduleReconnect
  split
  · exact .inl (.refl s)
  split
  · exact .inl (.refl s)
  split
  · exact .inl (.refl s)
  dsimp only
  split
  · exact .inr (wrote_setSession ..)
  split
  · exact .inr (wrote_setSession ..)
  · exact .inr (wrote_armReconnect ..)

theorem wrote_handleConnectFailed (kind : String) (retryable : Bool) (env : Ambient) :
    Wrote cid s (s.handleConnectFailed cid kind retryable env) := by
  unfold handleConnectFailed
  dsimp only
  rcases maybeScheduleReconnect_writes (s.setSession cid _) cid kind retryable env with kept | wrote
  · exact (wrote_setSession ..).kept kept
  · exact (wrote_setSession ..).trans wrote

theorem wrote_handleDisconnected (expected : Bool) (env : Ambient)
    (idle : (s.stateOf cid).connecting = false) (found : (s.rt.find cid).isSome = true) :
    Wrote cid s (s.handleDisconnected cid expected env) := by
  obtain ⟨rt, found⟩ := Option.isSome_iff_exists.mp found
  unfold handleDisconnected
  simp only [idle, found, Bool.false_eq_true, if_false]
  have reset : Wrote cid s _ := (kept_modifyRt s cid fun rt =>
    { rt with channelToRestore := some (s.currentChannelName cid), reconnectTimer := none }).wrote
    (wrote_setSession _ cid (.new cid))
  split
  · exact reset
  · rcases maybeScheduleReconnect_writes (setSession _ cid _) cid "connection_lost" true env with
      kept | wrote
    · exact (reset.trans (wrote_setSession ..)).kept kept
    · exact (reset.trans (wrote_setSession ..)).trans wrote

/-- A lost session is written only if it has a runtime. -/
theorem handleDisconnected_writes (expected : Bool) (env : Ambient) :
    Kept s (s.handleDisconnected cid expected env) ∨
      cid ∈ s.rt.keys ∧ Wrote cid s (s.handleDisconnected cid expected env) := by
  by_cases idle : (s.stateOf cid).connecting = false
  · by_cases found : (s.rt.find cid).isSome = true
    · exact .inr ⟨(s.rt.mem_keys cid).mpr found,
        wrote_handleDisconnected s cid expected env idle found⟩
    · simp only [Bool.not_eq_true, Option.isSome_eq_false_iff, Option.isNone_iff_eq_none] at found
      left
      simp only [handleDisconnected, idle, found, Bool.false_eq_true, if_false]
      exact .refl s
  · left
    simp only [handleDisconnected, if_pos (Bool.not_eq_false _ ▸ idle)]
    exact .refl s

theorem wrote_handleError : Wrote cid s (s.handleError cid) := by
  unfold handleError
  dsimp only
  split <;> exact wrote_setSession ..

theorem wrote_handleConnectionPhase (phase : String) (waits : (s.stateOf cid).connected = false) :
    Wrote cid s (s.handleConnectionPhase cid phase) := by
  unfold handleConnectionPhase
  dsimp only
  rw [if_neg (by simp [waits])]
  exact wrote_setSession ..

end Operations

end Notifier

end Nek0.Source
