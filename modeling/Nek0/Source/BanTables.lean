import Mathlib.Algebra.Group.Int.Defs
import Mathlib.Data.List.Basic
import Nek0.Library.ListSort
import Nek0.Library.Run
import Nek0.Source.NotifierFrames

/-!
# The ban table and the complaint table

The replies of `handle_control_item` in `native/src/api.rs`, one event an entry, and what
`_handleEvent`, `banDelete` and `listBans` of `lib/models/ts_state.dart` do with the tables of a
session. The events wait in a queue until the app polls. An answer without entries has no event.
Nothing in the app asks for the complaints. The session is connected when the one of the session
table is: `follows_run`.
-/

namespace Nek0.Source.BanTables

open Nek0.Library

/-- `InBanListPart`, as far as it is handed on. The times are in seconds. -/
structure InBanListPart where
  banId : UInt32
  ip : String
  name : String
  uid : String
  lastNickname : String
  created : Int
  duration : Int
  invokerName : String
  deriving DecidableEq, Repr

structure InComplainListPart where
  targetClientDbId : UInt64
  targetName : String
  fromClientDbId : UInt64
  fromName : String
  message : String
  timestamp : Int
  deriving DecidableEq, Repr

/-- The JSON of an event. -/
inductive TsEvent where
  | banList (banId : UInt32) (ip name uid lastNickname : String) (created duration : Nat)
    (invokerName : String)
  | complainList (targetDbId : UInt64) (targetName : String) (fromDbId : UInt64)
    (fromName message : String) (timestamp : Nat)
  deriving DecidableEq, Repr

def InBanListPart.event (item : InBanListPart) : TsEvent :=
  .banList item.banId item.ip item.name item.uid item.lastNickname (max item.created 0).toNat
    (max item.duration 0).toNat item.invokerName

def InComplainListPart.event (item : InComplainListPart) : TsEvent :=
  .complainList item.targetClientDbId item.targetName item.fromClientDbId item.fromName
    item.message (max item.timestamp 0).toNat

structure ServerBan where
  banId : Int
  ip : String
  name : String
  uid : String
  lastNickname : String
  created : Int
  duration : Int
  invokerName : String
  deriving DecidableEq, Repr

structure ServerComplain where
  targetDbId : Int
  targetName : String
  fromDbId : Int
  fromName : String
  message : String
  timestamp : Int
  deriving DecidableEq, Repr

/-- `toInt` of a JSON number, which is a double from 2^63 on. -/
def toInt (value : UInt64) : Int := min value.toNat (2 ^ 63 - 1)

/-- `ServerBan.fromJson` -/
def TsEvent.ban? : TsEvent → Option ServerBan
  | .banList banId ip name uid lastNickname created duration invokerName =>
    some ⟨banId.toNat, ip, name, uid, lastNickname, created, duration, invokerName⟩
  | .complainList .. => none

/-- `ServerComplain.fromJson` -/
def TsEvent.complain? : TsEvent → Option ServerComplain
  | .complainList targetDbId targetName fromDbId fromName message timestamp =>
    some ⟨toInt targetDbId, targetName, toInt fromDbId, fromName, message, timestamp⟩
  | .banList .. => none

structure TsConnectionState where
  connected : Bool := false
  bans : List ServerBan := []
  complains : List ServerComplain := []
  deriving DecidableEq

/-- `a.banId.compareTo(b.banId)` -/
def byBanId : Comparator ServerBan := .onRank (·.banId)

namespace TsConnectionState

variable (sorted : ListSort byBanId)

/-- The table after a `ban_list` event. -/
def putBan (bans : List ServerBan) (ban : ServerBan) : List ServerBan :=
  sorted.sort (bans.filter (·.banId ≠ ban.banId) ++ [ban])

def handleEvent (st : TsConnectionState) (event : TsEvent) : TsConnectionState :=
  match event.ban?, event.complain? with
  | some ban, _ => { st with bans := putBan sorted st.bans ban }
  | none, some complain => { st with complains := st.complains ++ [complain] }
  | none, none => st

def banDelete (st : TsConnectionState) (banId : Int) : TsConnectionState :=
  if !st.connected then st else { st with bans := st.bans.filter (·.banId ≠ banId) }

end TsConnectionState

/-- A session and its server. -/
structure Tables where
  /-- The tables of the server. -/
  bans : List InBanListPart
  complaints : List InComplainListPart
  /-- `banlist` commands that have not been answered. -/
  requests : Nat
  /-- Events that have not been handled. -/
  events : List TsEvent
  session : TsConnectionState
  /-- The last answer. The bans are not those of an answer any more once the user has deleted one
  after it was handled. -/
  banReply : Option (List InBanListPart)
  complainReply : Option (List InComplainListPart)

namespace Tables

def start : Tables := ⟨[], [], 0, [], {}, none, none⟩

variable (s : Tables)

/-- The entries of the events that have not been handled. -/
def comingBans : List ServerBan := s.events.filterMap TsEvent.ban?

def comingComplains : List ServerComplain := s.events.filterMap TsEvent.complain?

/-- The server lets the user in. -/
def connect : Option Tables :=
  if s.session.connected then none
  else some { s with session := { s.session with connected := true } }

/-- `disconnected`, the last event of a connection. -/
def disconnect : Option Tables :=
  if s.events = [] then
    some { s with requests := 0, session := {}, banReply := none, complainReply := none }
  else none

def listBans : Tables := if !s.session.connected then s else { s with requests := s.requests + 1 }

/-- A request is superseded by a later one before it is sent. -/
def dropRequest : Option Tables :=
  if 1 < s.requests then some { s with requests := s.requests - 1 } else none

def banDelete (banId : Int) : Tables :=
  { s with
    session := s.session.banDelete banId
    banReply := if s.session.connected ∧ s.comingBans = [] then none else s.banReply }

/-- Somebody bans, and the server gives the ban an id. -/
def ban (item : InBanListPart) : Option Tables :=
  if ∀ other ∈ s.bans, other.banId ≠ item.banId then some { s with bans := s.bans ++ [item] }
  else none

/-- Somebody deletes a ban, or it ends. -/
def unban (banId : UInt32) : Tables := { s with bans := s.bans.filter (·.banId ≠ banId) }

def complain (item : InComplainListPart) : Tables :=
  { s with complaints := s.complaints ++ [item] }

def withdraw (i : Nat) : Tables := { s with complaints := s.complaints.eraseIdx i }

/-- `InMessage::BanList` -/
def answerBans : Option Tables :=
  if s.requests = 0 then none
  else some { s with
    requests := s.requests - 1
    events := s.events ++ s.bans.map InBanListPart.event
    banReply := some s.bans }

/-- `InMessage::ComplainList` -/
def answerComplains : Option Tables :=
  if !s.session.connected then none
  else some { s with
    events := s.events ++ s.complaints.map InComplainListPart.event
    complainReply := some s.complaints }

def handleEvent (sorted : ListSort byBanId) : Option Tables :=
  match s.events with
  | event :: events => some { s with events, session := s.session.handleEvent sorted event }
  | [] => none

end Tables

inductive Action where
  | connect
  | disconnect
  | listBans
  | dropRequest
  | banDelete (banId : Int)
  | ban (item : InBanListPart)
  | unban (banId : UInt32)
  | complain (item : InComplainListPart)
  | withdraw (i : Nat)
  | answerBans
  | answerComplains
  | handleEvent
  deriving DecidableEq

def Tables.step (sorted : ListSort byBanId) (s : Tables) : Action → Option Tables
  | .connect => s.connect
  | .disconnect => s.disconnect
  | .listBans => some s.listBans
  | .dropRequest => s.dropRequest
  | .banDelete banId => some (s.banDelete banId)
  | .ban item => s.ban item
  | .unban banId => some (s.unban banId)
  | .complain item => some (s.complain item)
  | .withdraw i => some (s.withdraw i)
  | .answerBans => s.answerBans
  | .answerComplains => s.answerComplains
  | .handleEvent => s.handleEvent sorted

section Table

variable {sorted : ListSort byBanId} {cid : ConnectionId} {s : Tables} {n n' : Notifier}

/-- The session is connected as one of the session table. -/
def Follows (cid : ConnectionId) (s : Tables) (n : Notifier) : Prop :=
  s.session.connected = (n.view cid).connected

/-- The events that are left can all be handled. -/
theorem handles_all (sorted : ListSort byBanId) (s : Tables) :
    ∃ actions t, Run (Tables.step sorted) anyStep s actions t ∧ t.events = [] := by
  generalize left : s.events = events
  induction events generalizing s with
  | nil => exact ⟨[], s, .start, left⟩
  | cons event events ih =>
    have taken : Tables.step sorted s .handleEvent =
        some { s with events, session := s.session.handleEvent sorted event } := by
      simp only [Tables.step, Tables.handleEvent, left]
    obtain ⟨actions, t, run, done⟩ :=
      ih { s with events, session := s.session.handleEvent sorted event } rfl
    exact ⟨.handleEvent :: actions, t, .cons trivial taken run, done⟩

/-- The connection can end. -/
theorem closes (sorted : ListSort byBanId) (s : Tables) :
    ∃ actions t, Run (Tables.step sorted) anyStep s actions t ∧ t.session.connected = false := by
  obtain ⟨actions, t, run, done⟩ := handles_all sorted s
  have taken : Tables.step sorted t .disconnect =
      some { t with requests := 0, session := {}, banReply := none, complainReply := none } :=
    if_pos done
  exact ⟨actions ++ [.disconnect], _, run.append (.single trivial taken), rfl⟩

/-- A step of the session table is a run here. -/
theorem follows_step {a : Notifier.Action} (follows : Follows cid s n)
    (taken : n.step a = some n') :
    ∃ actions s', Run (Tables.step sorted) anyStep s actions s' ∧ Follows cid s' n' := by
  have here := Notifier.view_step taken cid
  have unchanged (same : (n'.view cid).connected = (n.view cid).connected) :
      ∃ actions s', Run (Tables.step sorted) anyStep s actions s' ∧ Follows cid s' n' :=
    ⟨[], s, .start, follows.trans same.symm⟩
  have closed (same : (n'.view cid).connected = false) :
      ∃ actions s', Run (Tables.step sorted) anyStep s actions s' ∧ Follows cid s' n' := by
    obtain ⟨actions, t, run, off⟩ := closes sorted s
    exact ⟨actions, t, run, off.trans same.symm⟩
  cases change : n.change cid a with
  | keep | starts | idle | roster =>
    rw [change] at here
    exact unchanged (by rw [here]; rfl)
  | failed | gone =>
    rw [change] at here
    exact closed (by rw [here]; rfl)
  | connected data =>
    rw [change] at here
    have on : (n'.view cid).connected = true := by
      rw [here]
      rfl
    by_cases already : s.session.connected = true
    · exact ⟨[], s, .start, already.trans on.symm⟩
    · exact ⟨[.connect], _, .single trivial (if_neg already), on.symm⟩

theorem follows_start : Follows cid .start .build := rfl

/-- What a run of the session table does to a session is a run here. -/
theorem follows_run (sorted : ListSort byBanId) (cid : ConnectionId)
    {actions : List Notifier.Action} (run : Run Notifier.step anyStep .build actions n) :
    ∃ actions s, Run (Tables.step sorted) anyStep .start actions s ∧ Follows cid s n :=
  run.simulate (Tables.step sorted) anyStep (fun n s => Follows cid s n) follows_start
    fun _ _ _ _ follows _ taken => follows_step follows taken

end Table

end Nek0.Source.BanTables
