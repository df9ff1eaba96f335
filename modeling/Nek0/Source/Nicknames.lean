import Mathlib.Data.List.Infix
import Mathlib.Logic.Function.Basic
import Nek0.Library.Run
import Nek0.Source.ChatMessages
import Nek0.Source.NotifierFrames
import Nek0.Source.SystemEffects

/-!
# Nicknames in the sessions

Who the user is on a server, for the app and for the server: `connect`, `setNickname`,
`sendPrivateMessage` and the events of `_handleEvent` in `lib/models/ts_state.dart` that write the
nickname or the messages of a session, with `ts_set_nickname` of `native/src/api.rs`. Every connect
makes a new session, a reconnect with the nickname of the last request. The server answers the
renames of a session in their order. The sessions do what those of the session table do.
-/

namespace Nek0.Source.Nicknames

open Chat

/-- The operations of Dart texts that follow tables of Unicode. -/
structure DartText where
  toLowerCase : String → String
  trim : String → String

/-- `text.contains(part)` -/
def contains (text part : String) : Bool := decide (part.toList <:+: text.toList)

structure TsClient where
  id : Int
  nickname : String
  deriving DecidableEq, Repr

/-- What the contact book says of the sender of a message. -/
structure ContactFlags where
  ignorePublicChat : Bool
  ignorePrivateChat : Bool
  deriving DecidableEq, Repr

structure TsConnectionState where
  connected : Bool := false
  connecting : Bool := false
  nickname : String := ""
  ownClientId : Int := 0
  clients : List TsClient := []
  messages : List Chat.ChatMessage := []
  error : Option String := none
  deriving DecidableEq

/-- The user on a server, with the renames that it has not answered. -/
structure OnServer where
  nickname : String
  renames : List String
  /-- The last rename that was answered was accepted. -/
  accepted : Bool
  deriving DecidableEq, Repr

/-- A message that was stored, and the nickname that the user had on the server. -/
structure Stored where
  message : Chat.ChatMessage
  incoming : Bool
  borne : String
  deriving DecidableEq

structure App where
  /-- The next connection id. -/
  next : Nat
  sessions : Nat → TsConnectionState
  /-- The nickname of `lastRequest`. -/
  requests : Nat → String
  servers : Nat → Option OnServer
  stored : List Stored

def App.start : App := ⟨1, fun _ => {}, fun _ => "", fun _ => none, []⟩

def NICKNAME_MIN : Nat := 3

def NICKNAME_MAX : Nat := 30

/-- A `text_message` event, with the contact of its sender and the time. -/
structure TextMessage where
  fromClientId : Int
  fromClient : String
  targetMode : Int
  message : String
  contact : Option ContactFlags
  now : DateTime
  deriving DecidableEq

namespace App

variable (text : DartText) (s : App) (cid : Nat)

def setSession (st : TsConnectionState) : App :=
  { s with sessions := Function.update s.sessions cid st }

def setServer (user : Option OnServer) : App :=
  { s with servers := Function.update s.servers cid user }

def record (stored : List Stored) : App := { s with stored := s.stored ++ stored }

/-- A new session. -/
def connect (nickname : String) : App :=
  let cid := s.next
  let s := { s with next := cid + 1, requests := Function.update s.requests cid nickname }
  s.setSession cid { s.sessions cid with connecting := true, error := none }

/-- The retry of `_maybeScheduleReconnect`, and `reconnect`. -/
def reconnect : App := s.connect (s.requests cid)

/-- The server has given the user a nickname, and the event comes with the roster. -/
def connected (granted : String) (ownClientId : Int) (clients : List TsClient) : Option App :=
  if cid < s.next ∧ s.servers cid = none then
    some <| (s.setServer cid (some ⟨granted, [], false⟩)).setSession cid
      { s.sessions cid with
        connecting := false, connected := true, ownClientId, clients, error := none }
  else none

/-- Whether the message is dropped for the flags of its sender. -/
def isIgnored (m : TextMessage) : Bool :=
  m.contact.any fun contact =>
    m.targetMode = 1 && contact.ignorePrivateChat ||
      (m.targetMode = 2 || m.targetMode = 3) && contact.ignorePublicChat

/-- `flagged` -/
def mentions (message nickname : String) : Bool :=
  message ≠ "" && nickname ≠ "" && contains (text.toLowerCase message) (text.toLowerCase nickname)

def storedMessage (st : TsConnectionState) (m : TextMessage) : Chat.ChatMessage where
  id := st.messages.length
  fromClient := m.fromClient
  fromClientId := m.fromClientId
  targetMode := m.targetMode
  message := m.message
  timestamp := m.now
  peerId := if m.targetMode = 1 then some m.fromClientId else none
  peerName := if m.targetMode = 1 then some m.fromClient else none
  serverGenerated := m.message = ""
  highlighted := mentions text m.message st.nickname

def textMessage (m : TextMessage) : Option App :=
  (s.servers cid).map fun user =>
    if isIgnored m then s
    else
      let st := s.sessions cid
      let message := storedMessage text st m
      (s.record [⟨message, true, user.nickname⟩]).setSession cid
        { st with messages := st.messages ++ [message], error := none }

/-- `TsNative.setNickname`: the length is checked, and the command may find no room. -/
def nativeSetNickname (nickname : String) (room : Bool) : Bool :=
  (s.servers cid).isSome && NICKNAME_MIN ≤ nickname.length && nickname.length ≤ NICKNAME_MAX && room

def setNickname (nickname : String) (room : Bool) : App :=
  let st := s.sessions cid
  if !st.connected then s
  else
    let trimmed := text.trim nickname
    if !s.nativeSetNickname cid trimmed room then
      s.setSession cid { st with error := some "Nickname must be 3 to 30 characters" }
    else
      let user := (s.servers cid).map fun user => { user with renames := user.renames ++ [trimmed] }
      (s.setServer cid user).setSession cid { st with nickname := trimmed, error := none }

/-- The server answers the oldest rename. A refusal comes as a `command_error`. -/
def answerRename (accepts : Bool) (refusal : String) : Option App :=
  match s.servers cid with
  | some ⟨nickname, renamed :: renames, _⟩ =>
    let user : OnServer := ⟨if accepts then renamed else nickname, renames, accepts⟩
    let s := s.setServer cid (some user)
    some <| if accepts then s else s.setSession cid { s.sessions cid with error := some refusal }
  | _ => none

def sendPrivateMessage (clientId : Int) (message : String) (queued : Bool) (now : DateTime) : App :=
  let st := s.sessions cid
  if !st.connected || message = "" then s
  else if !queued then
    s.setSession cid { st with error := some "Unable to queue the private message" }
  else
    let peer := st.clients.find? (·.id = clientId)
    let msg : Chat.ChatMessage :=
      { id := st.messages.length
        fromClient := st.nickname
        fromClientId := st.ownClientId
        targetMode := 1
        message
        timestamp := now
        peerId := some clientId
        peerName := peer.map (·.nickname) }
    let stored := (s.servers cid).map fun user => (⟨msg, false, user.nickname⟩ : Stored)
    (s.record stored.toList).setSession cid
      { st with messages := st.messages ++ [msg], error := none }

/-- `disconnect`, up to what the engine reports. -/
def disconnect : App :=
  let st := s.sessions cid
  s.setSession cid { st with connecting := false, error := none }

/-- The `disconnected` event: the user is not on the server any more. -/
def disconnected (expected : Bool) (reason : String) : App :=
  let s := s.setServer cid none
  if (s.sessions cid).connecting then s
  else s.setSession cid { error := if expected then none else some reason }

end App

inductive Action where
  | connect (nickname : String)
  | reconnect (cid : Nat)
  | connected (cid : Nat) (granted : String) (ownClientId : Int) (clients : List TsClient)
  | textMessage (cid : Nat) (m : TextMessage)
  | setNickname (cid : Nat) (nickname : String) (room : Bool)
  | answerRename (cid : Nat) (accepts : Bool) (refusal : String)
  | sendPrivateMessage (cid : Nat) (clientId : Int) (message : String) (queued : Bool)
    (now : DateTime)
  | disconnect (cid : Nat)
  | disconnected (cid : Nat) (expected : Bool) (reason : String)
  deriving DecidableEq

def App.step (text : DartText) (s : App) : Action → Option App
  | .connect nickname => some (s.connect nickname)
  | .reconnect cid => some (s.reconnect cid)
  | .connected cid granted ownClientId clients => s.connected cid granted ownClientId clients
  | .textMessage cid m => s.textMessage text cid m
  | .setNickname cid nickname room => some (s.setNickname text cid nickname room)
  | .answerRename cid accepts refusal => s.answerRename cid accepts refusal
  | .sendPrivateMessage cid clientId message queued now =>
    some (s.sendPrivateMessage cid clientId message queued now)
  | .disconnect cid => some (s.disconnect cid)
  | .disconnected cid expected reason => some (s.disconnected cid expected reason)

section Table

open Nek0.Library

variable {s : App} {n n' : Notifier}

/-- A session is one of the session table, and the user is on the server while it is connected. -/
structure Agree (st : TsConnectionState) (user : Option OnServer) (view : Notifier.View) :
    Prop where
  connected : st.connected = view.connected
  connecting : st.connecting = view.connecting
  ownClientId : view.connected = true → st.ownClientId = view.ownClientId
  server : user.isSome = view.connected

/-- The sessions are those of the table, with its requests. No session has the id 0. -/
structure Follows (s : App) (n : Notifier) : Prop where
  session : ∀ cid, cid ≠ 0 → Agree (s.sessions cid) (s.servers cid) (n.view cid)
  request : ∀ cid rt request, n.rt.find cid = some rt → rt.lastRequest = some request →
    s.requests cid = request.nickname
  known : ∀ cid, n.rt.find cid ≠ none → cid < s.next
  fresh : ∀ cid, s.next ≤ cid → n.view cid = {}
  positive : 0 < s.next

/-- A session connects once. -/
def Once (n : Notifier) (a : Notifier.Action) : Prop :=
  ∀ cid data, cid ≠ 0 → n.change cid a = .connected data → (n.view cid).connected = false

/-- No session is new. Where one has become what the table has of it, all have. -/
theorem Follows.of_session {s' : App} {a : Notifier.Action} (follows : Follows s n)
    (cid : ConnectionId) (taken : n.step a = some n')
    (opens : ∀ call opened, a ≠ .completeConnect call (some opened))
    (others : ∀ other, other ≠ cid → n'.view other = n.view other)
    (next : s'.next = s.next) (requests : s'.requests = s.requests)
    (apart : ∀ other, other ≠ cid →
      s'.sessions other = s.sessions other ∧ s'.servers other = s.servers other)
    (agree : cid ≠ 0 → Agree (s'.sessions cid) (s'.servers cid) (n'.view cid)) :
    Follows s' n' where
  session other valid := by
    by_cases own : other = cid
    · subst own
      exact agree valid
    · rw [(apart other own).1, (apart other own).2, others other own]
      exact follows.session other valid
  request other rt request found last := by
    rw [requests]
    rcases Notifier.request_step taken found with ⟨before, foundBefore, same⟩ | ⟨call, opened, -⟩
    · exact follows.request other before request foundBefore (same ▸ last)
    · exact absurd opened (opens call other)
  known other there := by
    obtain ⟨rt, found⟩ := Option.ne_none_iff_exists'.mp there
    rw [next]
    rcases Notifier.request_step taken found with ⟨before, foundBefore, -⟩ | ⟨call, opened, -⟩
    · exact follows.known other (by simp [foundBefore])
    · exact absurd opened (opens call other)
  fresh other later := by
    rw [next] at later
    have valid : other ≠ 0 := Nat.ne_of_gt (Nat.lt_of_lt_of_le follows.positive later)
    have absent : n.rt.find other = none := by
      by_contra there
      exact Nat.not_lt.mpr later (follows.known other there)
    rw [Notifier.view_step taken, follows.fresh other later]
    exact n.change_of_absent valid absent fun call => opens call other
  positive := next ▸ follows.positive

/-- A call that has reached the engine makes the next session. -/
theorem follows_connect {call : ConnectCall} (follows : Follows s n)
    (taken : n.step (.completeConnect call (some s.next)) = some n') :
    Follows (s.connect call.request.nickname) n' := by
  have views (cid : ConnectionId) : n'.view cid =
      if cid = s.next then { n.view cid with connecting := true } else n.view cid := by
    rw [Notifier.view_step taken, Notifier.change]
    by_cases own : cid = s.next
    · have valid : cid ≠ 0 := own ▸ Nat.ne_of_gt follows.positive
      rw [if_pos own, if_pos ⟨congrArg some own.symm, valid⟩]
      rfl
    · rw [if_neg own, if_neg fun found => own (Option.some.inj found.1).symm]
      rfl
  have next : (s.connect call.request.nickname).next = s.next + 1 := rfl
  have requests (cid : ConnectionId) : (s.connect call.request.nickname).requests cid =
      if cid = s.next then call.request.nickname else s.requests cid :=
    Function.update_apply ..
  constructor
  · intro cid valid
    have agree := follows.session cid valid
    rw [views]
    by_cases own : cid = s.next
    · have opened : (s.connect call.request.nickname).sessions cid =
          { s.sessions cid with connecting := true, error := none } := by
        rw [own]
        exact Function.update_self ..
      rw [opened, if_pos own]
      exact ⟨agree.connected, rfl, agree.ownClientId, agree.server⟩
    · have kept : (s.connect call.request.nickname).sessions cid = s.sessions cid :=
        Function.update_of_ne own ..
      rw [kept, if_neg own]
      exact agree
  · intro cid rt request found last
    rw [requests]
    rcases Notifier.request_step taken found with
      ⟨before, foundBefore, same⟩ | ⟨opening, opened, made⟩
    · have older : cid < s.next := follows.known cid (by simp [foundBefore])
      rw [if_neg (Nat.ne_of_lt older)]
      exact follows.request cid before request foundBefore (same ▸ last)
    · cases opened
      rw [made] at last
      rw [if_pos rfl, Option.some.inj last]
  · intro cid there
    obtain ⟨rt, found⟩ := Option.ne_none_iff_exists'.mp there
    rw [next]
    rcases Notifier.request_step taken found with ⟨before, foundBefore, -⟩ | ⟨opening, opened, -⟩
    · exact Nat.lt_succ_of_lt (follows.known cid (by simp [foundBefore]))
    · cases opened
      exact Nat.lt_succ_self _
  · intro cid later
    rw [next] at later
    rw [views, if_neg (Nat.ne_of_gt later)]
    exact follows.fresh cid (Nat.le_of_succ_le later)
  · exact Nat.succ_pos _

/-- A session that is given up is as good as new. -/
theorem disconnected_disconnect (s : App) (cid : ConnectionId) :
    (s.disconnect cid).disconnected cid true "" =
      ((s.disconnect cid).setServer cid none).setSession cid {} := by
  have idle : ((s.disconnect cid).sessions cid).connecting = false := by
    simp [App.disconnect, App.setSession]
  exact if_neg (by simpa [App.setServer] using idle)

/-- What a step of the table does to the sessions that it has is a run here. -/
theorem follows_step (text : DartText) {a : Notifier.Action} (follows : Follows s n)
    (once : Once n a) (opens : ∀ call opened, a ≠ .completeConnect call (some opened))
    (taken : n.step a = some n') :
    ∃ actions s', Run (App.step text) anyStep s actions s' ∧ Follows s' n' ∧ s'.next = s.next := by
  have unchanged (cid : ConnectionId) (others : ∀ other, other ≠ cid → n'.view other = n.view other)
      (agree : cid ≠ 0 → Agree (s.sessions cid) (s.servers cid) (n'.view cid)) :
      ∃ actions s', Run (App.step text) anyStep s actions s' ∧ Follows s' n' ∧ s'.next = s.next :=
    ⟨[], s, .start, follows.of_session cid taken opens others rfl rfl (fun _ _ => ⟨rfl, rfl⟩) agree,
      rfl⟩
  cases own : a.session with
  | none =>
    exact unchanged 0 (fun other _ => Notifier.view_of_ne taken (by simp [own]))
      fun valid => absurd rfl valid
  | some cid =>
    have others : ∀ other, other ≠ cid → n'.view other = n.view other := fun other different =>
      Notifier.view_of_ne taken (by simpa [own] using different.symm)
    by_cases zero : cid = 0
    · exact unchanged cid others fun valid => absurd zero valid
    have agree := follows.session cid zero
    have here := Notifier.view_step taken cid
    cases change : n.change cid a with
    | keep =>
      rw [change] at here
      exact unchanged cid others fun _ => here ▸ agree
    | starts =>
      obtain ⟨call, opened⟩ := n.opens_of_starts change
      exact absurd opened (opens call cid)
    | idle =>
      rw [change] at here
      refine ⟨[.disconnect cid], _, .single trivial rfl, ?_, rfl⟩
      refine follows.of_session cid taken opens others rfl rfl (fun other different => ?_)
        fun _ => ?_
      · exact ⟨Function.update_of_ne different .., rfl⟩
      · have closed : (s.disconnect cid).sessions cid =
            { s.sessions cid with connecting := false, error := none } := Function.update_self ..
        rw [closed, here]
        exact ⟨agree.connected, rfl, agree.ownClientId, agree.server⟩
    | roster clients =>
      rw [change] at here
      refine unchanged cid others fun _ => ?_
      rw [here]
      exact ⟨agree.connected, agree.connecting, agree.ownClientId, agree.server⟩
    | failed | gone =>
      rw [change] at here
      refine ⟨[.disconnect cid, .disconnected cid true ""], _,
        .cons trivial rfl (.single trivial rfl), ?_⟩
      rw [disconnected_disconnect]
      refine ⟨?_, rfl⟩
      refine follows.of_session cid taken opens others rfl rfl (fun other different => ?_)
        fun _ => ?_
      · simp [App.setSession, App.setServer, App.disconnect, different]
      · rw [here]
        simp only [App.setSession, App.setServer, Function.update_self]
        exact ⟨rfl, rfl, fun on => (Bool.false_ne_true on).elim, rfl⟩
    | connected data =>
      rw [change] at here
      have alone : s.servers cid = none := by
        simpa [once cid data zero change] using agree.server
      have there := (n.event_of_connected change).2.resolve_left zero
      have entered : App.step text s (.connected cid "" (data.clientId.getD
          (n.view cid).ownClientId) []) = _ := if_pos ⟨follows.known cid there, alone⟩
      refine ⟨[.connected cid _ _ _], _, .single trivial entered, ?_, rfl⟩
      refine follows.of_session cid taken opens others rfl rfl (fun other different => ?_)
        fun _ => ?_
      · simp [App.setSession, App.setServer, different]
      · rw [here]
        simp only [App.setSession, App.setServer, Function.update_self]
        exact ⟨rfl, rfl, fun _ => rfl, rfl⟩

theorem Follows.settled (follows : Follows s n) : Follows s { n with native := [] } :=
  ⟨follows.session, follows.request, follows.known, follows.fresh, follows.positive⟩

theorem follows_start : Follows .start .build where
  session _ _ := ⟨rfl, rfl, fun _ => rfl, rfl⟩
  request _ _ _ found := by cases found
  known _ there := absurd rfl there
  fresh _ _ := rfl
  positive := Nat.one_pos

/-- What a step of the app and its engine does to the sessions is a run here. -/
theorem follows_system (text : DartText) {sys sys' : System} {a : System.Action}
    (follows : Follows s sys.app) (next : s.next = sys.engine.nextConnectionId)
    (once : ∀ b, sys.atApp a = some b → Once sys.app b) (taken : sys.step a = some sys') :
    ∃ actions s', Run (App.step text) anyStep s actions s' ∧ Follows s' sys'.app ∧
      s'.next = sys'.engine.nextConnectionId := by
  cases own : sys.atApp a with
  | none =>
    obtain ⟨same, ids⟩ := System.step_atApp_none taken own
    exact ⟨[], s, .start, same ▸ follows, next.trans ids.symm⟩
  | some b =>
    obtain ⟨app, moved, executed, counted⟩ := System.step_atApp taken own
    rcases counted with ⟨⟨call, rfl⟩, ids⟩ | ⟨opens, ids⟩
    · rw [← next] at moved
      have opened := follows_connect follows moved
      refine ⟨[.connect call.request.nickname], _, .single trivial rfl,
        executed ▸ opened.settled, ?_⟩
      rw [ids, ← next]
      rfl
    · obtain ⟨actions, s', reached, later, same⟩ :=
        follows_step text follows (once b own) opens moved
      exact ⟨actions, s', reached, executed ▸ later.settled, same.trans (next.trans ids.symm)⟩

end Table

end Nek0.Source.Nicknames
