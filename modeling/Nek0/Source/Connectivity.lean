import Nek0.Source.NotifierFrames

/-!
# Connectivity

`ConnectivityStreamHandler.kt`, the stream of `lib/services/connectivity_service.dart` and what
the app does with it. The system tells the handler of every network with internet access, one
after the other, while the device itself uses its default network; each callback posts the status
of its own network, and the main thread hands the posted statuses to the app in their order. An
error of the stream is only logged, and left out.
-/

namespace Nek0.Source

open Nek0.Library

/-- `Network`, by its text, which is never empty. -/
structure Network where
  handle : String
  named : handle ≠ ""
  deriving DecidableEq

structure NetworkCapabilities where
  wifi : Bool
  cellular : Bool
  ethernet : Bool
  vpn : Bool
  validated : Bool
  deriving DecidableEq, Repr

def NetworkCapabilities.transport (caps : NetworkCapabilities) : String :=
  if caps.wifi then "wifi"
  else if caps.cellular then "cellular"
  else if caps.ethernet then "ethernet"
  else if caps.vpn then "vpn"
  else "other"

/-- A network whose capabilities are not known is not validated. -/
def isValidated (caps : Option NetworkCapabilities) : Bool := caps.any (·.validated)

inductive NetworkCallback where
  /-- `onAvailable`, with what `getNetworkCapabilities` returns. -/
  | available (network : Network) (caps : Option NetworkCapabilities)
  | capabilitiesChanged (network : Network) (caps : NetworkCapabilities)
  | lost (network : Network)
  deriving DecidableEq

/-- A posted status. -/
structure NetworkEvent where
  status : NetworkStatus
  /-- The default network when it was posted. -/
  active : Option Network
  /-- Whether some validated network was up, where a callback has posted it. -/
  truth : Option Bool
  deriving DecidableEq

/-- What the app starts with. -/
def NetworkEvent.unknown : NetworkEvent := ⟨.unknown, none, none⟩

/-- A status that has reached the app, and the one before. -/
structure NetworkReport where
  event : NetworkEvent
  previous : NetworkEvent
  deriving DecidableEq

structure Connectivity where
  /-- The networks that are up, with what is known of them. -/
  networks : LinkedMap Network (Option NetworkCapabilities)
  activeNetwork : Option Network
  /-- The app listens. -/
  listening : Bool
  /-- What the main thread has still to hand over. -/
  queue : List NetworkEvent
  app : Notifier
  /-- The event that the app has heard last. -/
  heard : NetworkEvent
  received : List NetworkReport
  /-- The event that was posted last. -/
  last : NetworkEvent
  posted : List NetworkReport

namespace Connectivity

def build : Connectivity where
  networks := .empty
  activeNetwork := none
  listening := false
  queue := []
  app := .build
  heard := .unknown
  received := []
  last := .unknown
  posted := []

/-- Some validated network is up. -/
def anyValidated (networks : LinkedMap Network (Option NetworkCapabilities)) : Bool :=
  networks.keys.any fun network => (networks.find network).any isValidated

/-- `postEvent` -/
def post (s : Connectivity) (status : NetworkStatus) (truth : Option Bool) : Connectivity :=
  let event : NetworkEvent := ⟨status, s.activeNetwork, truth⟩
  if s.listening then
    { s with
      queue := s.queue ++ [event]
      last := event
      posted := s.posted ++ [⟨event, s.last⟩] }
  else s

/-- The payload of `emit`. -/
def statusOf (network : Network) (available : Bool) (caps : Option NetworkCapabilities) :
    NetworkStatus where
  available := available && isValidated caps
  transport := caps.elim "unknown" (·.transport)
  networkId := network.handle

/-- `emitCurrentState` -/
def emitCurrentState (s : Connectivity) : Connectivity :=
  match s.activeNetwork with
  | none => s.post ⟨false, "none", ""⟩ none
  | some active => s.post (statusOf active true ((s.networks.find active).join)) none

def onListen (s : Connectivity) : Connectivity := { s with listening := true }.emitCurrentState

/-- What a callback says about the networks. -/
def networksAfter (s : Connectivity) :
    NetworkCallback → LinkedMap Network (Option NetworkCapabilities)
  | .available network caps => s.networks.insert network caps
  | .capabilitiesChanged network caps => s.networks.insert network (some caps)
  | .lost network => s.networks.erase network

/-- A callback emits the status of its network; nothing is known any more of a lost one. -/
def reported : NetworkCallback → NetworkStatus
  | .available network caps => statusOf network true caps
  | .capabilitiesChanged network caps => statusOf network true (some caps)
  | .lost network => statusOf network false none

def callback (s : Connectivity) (callback : NetworkCallback) : Connectivity :=
  let s := { s with networks := s.networksAfter callback }
  s.post (reported callback) (some (anyValidated s.networks))

/-- The main thread hands over the oldest status. -/
def deliver (s : Connectivity) : Option Connectivity :=
  match s.queue with
  | [] => none
  | event :: queue =>
    some
      { s with
        queue
        app := s.app.onNetworkChanged event.status
        heard := event
        received := s.received ++ [⟨event, { s.heard with status := s.app.network }⟩] }

/-- Anything else that happens to the app. -/
def appStep (s : Connectivity) : Notifier.Action → Option Connectivity
  | .network _ => none
  | action => (s.app.step action).map fun app => { s with app }

inductive Action where
  | onListen
  | callback (callback : NetworkCallback)
  /-- The device changes its default network. -/
  | activate (network : Option Network)
  | deliver
  | app (action : Notifier.Action)

def step (s : Connectivity) : Action → Option Connectivity
  | .onListen => if s.listening then none else some s.onListen
  | .callback callback => some (s.callback callback)
  | .activate network => some { s with activeNetwork := network }
  | .deliver => s.deliver
  | .app action => s.appStep action

end Connectivity

end Nek0.Source
