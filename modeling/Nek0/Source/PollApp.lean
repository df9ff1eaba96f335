import Nek0.Library.LinkedMap
import Nek0.Library.TimerSlot
import Nek0.Source.Notifier

/-!
# The poll timer

What `MultiServerNotifier` in `lib/models/ts_state.dart` does to `_pollTimer`. The pending timers
are those whose callback is `_pollEvents`; how long they run is left out, so any of them may fire
next. Dart runs one handler at a time: calls, timers and the scheduled wake-up come between two
polls, events while one is running. An exception in a poll ends its events and gets to the
`finally` too. Of a session only the two flags count that the timer depends on. What a poll reads
after its events (voice activity, the roster) leaves the flags as they are.
-/

namespace Nek0.Source.Polling

open Nek0.Library

structure SessionFlags where
  connecting : Bool
  connected : Bool
  deriving DecidableEq, Repr

structure PollApp where
  sessions : LinkedMap ConnectionId SessionFlags
  rt : List ConnectionId
  pollTimer : TimerSlot
  nativeWakeScheduled : Bool
  foreground : Bool
  /-- `_pollEvents` is running. -/
  polling : Bool

/-- What an engine event carries that the timer depends on. -/
inductive Event where
  | connected (hostMessage : String) (hostMessageMode : Int)
  | connectFailed
  | disconnected
  | error
  | clientUpdated
  /-- The other types, some of which write the session. -/
  | other (writes : Bool)

namespace PollApp

def build : PollApp where
  sessions := .empty
  rt := []
  pollTimer := .empty
  nativeWakeScheduled := false
  foreground := true
  polling := false

def isEmpty (s : PollApp) : Bool := s.sessions.keys.isEmpty

def stateOf (s : PollApp) (cid : ConnectionId) : SessionFlags :=
  (s.sessions.find cid).getD ⟨false, false⟩

def setSession (s : PollApp) (cid : ConnectionId) (next : SessionFlags) : PollApp :=
  { s with sessions := s.sessions.insert cid next }

/-- `_pollTimer?.cancel()` -/
def cancelTimer (s : PollApp) : PollApp := { s with pollTimer := s.pollTimer.cancel }

def scheduleNextPoll (s : PollApp) : PollApp :=
  if s.isEmpty then s else { s with pollTimer := s.pollTimer.arm }

def startPolling (s : PollApp) : PollApp :=
  if s.isEmpty then s else s.cancelTimer.scheduleNextPoll

/-- `connect` once the engine has named the connection. -/
def connect (s : PollApp) (cid : ConnectionId) : PollApp :=
  let s := { s with rt := if cid ∈ s.rt then s.rt else s.rt ++ [cid] }
  (s.setSession cid { s.stateOf cid with connecting := true }).startPolling

def refreshRoster (s : PollApp) (cid : ConnectionId) : PollApp :=
  if cid ∈ s.rt then s.startPolling else s

def disconnect (s : PollApp) (cid : ConnectionId) : PollApp :=
  let s := s.setSession cid (s.stateOf cid)
  if (s.stateOf cid).connected || (s.stateOf cid).connecting then
    (s.cancelTimer.setSession cid { s.stateOf cid with connecting := false }).startPolling
  else s

def cancelConnect (s : PollApp) (cid : ConnectionId) : PollApp :=
  let s := { s with sessions := s.sessions.erase cid, rt := s.rt.filter (· ≠ cid) }
  if s.isEmpty then s.cancelTimer else s

def onForegroundChanged (s : PollApp) (foreground : Bool) : PollApp :=
  if s.foreground = foreground then s
  else
    let s := { s with foreground := foreground }
    if s.isEmpty then s else s.cancelTimer.scheduleNextPoll

def onNativeEventsAvailable (s : PollApp) : PollApp :=
  if s.nativeWakeScheduled || s.isEmpty then s else { s with nativeWakeScheduled := true }

/-- The microtask that `onNativeEventsAvailable` schedules. -/
def wakeUp (s : PollApp) : PollApp :=
  let s := { s with nativeWakeScheduled := false }
  if s.isEmpty then s else { s.cancelTimer with polling := true }

/-- An engine event whose session is known. -/
def handleKnown (s : PollApp) (cid : ConnectionId) : Event → PollApp
  | .connected hostMessage hostMessageMode =>
    let s := s.setSession cid ⟨false, true⟩
    if hostMessage ≠ "" ∧ hostMessageMode = 3 then s.disconnect cid else s
  | .connectFailed => s.cancelTimer.setSession cid ⟨false, false⟩
  | .disconnected =>
    if (s.stateOf cid).connecting then s
    else if cid ∈ s.rt then s.cancelTimer.setSession cid ⟨false, false⟩
    else s.cancelTimer
  | .error =>
    if (s.stateOf cid).connecting then
      (s.setSession cid { s.stateOf cid with connecting := false }).cancelTimer
    else s.setSession cid (s.stateOf cid)
  | .clientUpdated => s.refreshRoster cid
  | .other writes => if writes then s.setSession cid (s.stateOf cid) else s

def handleEvent (s : PollApp) (cid : ConnectionId) (event : Event) : PollApp :=
  if cid ≠ 0 ∧ cid ∉ s.rt then s else s.handleKnown cid event

/-- A handler outside a poll. -/
inductive Call where
  | connect (cid : ConnectionId)
  | refreshRoster (cid : ConnectionId)
  | disconnect (cid : ConnectionId)
  | cancelConnect (cid : ConnectionId)
  | onForegroundChanged (foreground : Bool)
  | onNativeEventsAvailable
  /-- Another action writes a session, perhaps the copy it read before a wait. -/
  | write (cid : ConnectionId) (flags : SessionFlags)

def handleCall (s : PollApp) : Call → PollApp
  | .connect cid => s.connect cid
  | .refreshRoster cid => s.refreshRoster cid
  | .disconnect cid => s.disconnect cid
  | .cancelConnect cid => s.cancelConnect cid
  | .onForegroundChanged foreground => s.onForegroundChanged foreground
  | .onNativeEventsAvailable => s.onNativeEventsAvailable
  | .write cid flags => s.setSession cid flags

inductive Action where
  | call (call : Call)
  | wakeUp
  | fire (timer : Nat)
  | event (cid : ConnectionId) (event : Event)
  /-- The `finally` of `_pollEvents`. -/
  | endPoll

def step (s : PollApp) : Action → Option PollApp
  | .call call => if s.polling then none else some (s.handleCall call)
  | .wakeUp => if !s.polling && s.nativeWakeScheduled then some s.wakeUp else none
  | .fire timer =>
    if !s.polling && timer ∈ s.pollTimer.pending then
      some { s with pollTimer := s.pollTimer.fire timer, polling := true }
    else none
  | .event cid event => if s.polling then some (s.handleEvent cid event) else none
  | .endPoll => if s.polling then some { s with polling := false }.scheduleNextPoll else none

end PollApp

end Nek0.Source.Polling
