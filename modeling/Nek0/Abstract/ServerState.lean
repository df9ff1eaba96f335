import Mathlib.Data.Finset.Insert
import Mathlib.Logic.Function.Basic
import Nek0.Library.Coalesce
import Nek0.Source.Command

/-!
# What commands mean to the server

An abstract server state and the update that each command makes to it, keyed by
the ids the command carries. It says what a session asks the server for and is
independent of the queue: nothing here mentions how commands are paced or merged.

Commands whose effect is not tracked cell by cell (bans by address, groups,
files, channel edits, pokes, ...) are recorded in issue order in `audit`, the
finest meaning a command can be given.
-/

namespace Nek0.Abstract

open Nek0.Source Nek0.Library

/-- Where a text message arrived. A channel message goes to the channel its
sender is in, which is no channel for a client that has left. -/
inductive Delivery where
  | channel (id : Option UInt64) (text : String)
  | client (id : UInt16) (text : String)
  | server (text : String)
  deriving DecidableEq, Repr

structure ServerState where
  /-- The channel of each client, `none` for one that is not on the server. -/
  clientChannel : UInt16 → Option UInt64
  subscribed : UInt64 → Bool
  talker : UInt16 → Bool
  muted : Bool × Bool
  away : Bool × String
  nickname : String
  commander : Bool
  /-- Directory listings, file information and ban tables the server has answered. -/
  listed : Finset (UInt64 × String)
  described : Finset (UInt64 × String)
  bansListed : Bool
  delivered : List Delivery
  audit : List Command

/-- The session's own client and the channel that kicked clients fall back to. -/
structure Setting where
  own : UInt16
  defaultChannel : UInt64

namespace ServerState

/-- A server on which every client is in one channel and nothing has happened. -/
def idle (channel : UInt64) : ServerState where
  clientChannel := fun _ => some channel
  subscribed := fun _ => false
  talker := fun _ => false
  muted := (false, false)
  away := (false, "")
  nickname := ""
  commander := false
  listed := ∅
  described := ∅
  bansListed := false
  delivered := []
  audit := []

def moveClient (s : ServerState) (client : UInt16) (dest : Option UInt64) : ServerState :=
  { s with
    clientChannel :=
      Function.update s.clientChannel client ((s.clientChannel client).bind fun _ => dest) }

def note (s : ServerState) (command : Command) : ServerState :=
  { s with audit := s.audit ++ [command] }

def deliver (s : ServerState) (message : Delivery) : ServerState :=
  { s with delivered := s.delivered ++ [message] }

/-- Clients of a channel that is deleted by force fall back to the default one. -/
def evacuate (s : ServerState) (channel fallback : UInt64) : ServerState :=
  { s with
    clientChannel := fun client =>
      if s.clientChannel client = some channel then some fallback else s.clientChannel client }

end ServerState

/-- The update a command makes to the server. -/
def apply (setting : Setting) (command : Command) (s : ServerState) : ServerState :=
  match command with
  | .sendMessage mode target text =>
    if mode = 1 then s.deliver (.client target.toUInt16 text)
    else if mode = 3 then s.deliver (.server text)
    else s.deliver (.channel (s.clientChannel setting.own) text)
  | .moveChannel client channel _ => s.moveClient client (some channel)
  | .setMuted input output => { s with muted := (input, output) }
  | .setAway away message => { s with away := (away, if away then message.getD "" else "") }
  | .setNickname name => { s with nickname := name }
  | .setChannelCommander enabled => { s with commander := enabled }
  | .kickClient client fromServer _ =>
    (s.moveClient client (if fromServer then none else some setting.defaultChannel)).note command
  | .banClient client _ _ => (s.moveClient client none).note command
  | .deleteChannel channel force =>
    (if force then s.evacuate channel setting.defaultChannel else s).note command
  | .subscribeChannel channel unsubscribe =>
    { s with subscribed := Function.update s.subscribed channel !unsubscribe }
  | .setTalker client granted => { s with talker := Function.update s.talker client granted }
  | .requestFileList _ channel _ path => { s with listed := insert (channel, path) s.listed }
  | .fileInfoRequest _ channel _ name => { s with described := insert (channel, name) s.described }
  | .listBans => { s with bansListed := true }
  | _ => s.note command

/-- The cell of the server state that a superseding command writes: commands of
one kind with one target overwrite each other, those with two do not. -/
inductive Target where
  | own
  | client (id : UInt16)
  | channel (id : UInt64)
  | file (channel : UInt64) (path : String)
  deriving DecidableEq, Repr

def target : Command → Target
  | .moveChannel client _ _ => .client client
  | .setTalker client _ => .client client
  | .subscribeChannel channel _ => .channel channel
  | .requestFileList _ channel _ path => .file channel path
  | .fileInfoRequest _ channel _ name => .file channel name
  | _ => .own

/-- The two commands move one client to one channel. -/
def repeatsMove : Command → Command → Bool
  | .moveChannel client channel _, .moveChannel other dest _ => client == other && channel == dest
  | _, _ => false

/-- Whether a queued command stands in the way of `newer` when it replaces
`older`: `newer` may not be executed before it. Only channel moves meet such
commands. The client moved is kicked to the default channel, or the channel it is
moved to is deleted under it, or the own client writes to the channel it is in
and the two moves lead to two channels. -/
def standsInTheWay (setting : Setting) (older newer queued : Command) : Bool :=
  newer.supersedes queued ||
    match newer, queued with
    | .moveChannel client channel _, .kickClient other fromServer _ =>
      client == other && !fromServer && channel != setting.defaultChannel
    | .moveChannel _ channel _, .deleteChannel other force =>
      force && channel == other && channel != setting.defaultChannel
    | .moveChannel client _ _, .sendMessage mode _ _ =>
      client == setting.own && mode != 1 && mode != 3 && !repeatsMove older newer
    | _, _ => false

/-- A newer command with the same target makes the older one redundant. -/
theorem absorbs_of_target (setting : Setting) {newer older : Command}
    (supersedes : newer.supersedes older = true) (same : target newer = target older) :
    Absorbs (apply setting) newer older := by
  intro s
  unfold Command.supersedes at supersedes
  split at supersedes
  case h_1 client _ _ _ _ _ =>
    simp only [target, Target.client.injEq] at same
    subst same
    cases h : s.clientChannel client <;> simp [apply, ServerState.moveClient, h]
  all_goals simp_all [target, apply]

/-- A repeated move does what the first one did. -/
theorem apply_of_repeatsMove (setting : Setting) {older newer : Command}
    (repeated : repeatsMove older newer = true) (s : ServerState) :
    apply setting newer s = apply setting older s := by
  unfold repeatsMove at repeated
  split at repeated
  · simp only [Bool.and_eq_true, beq_iff_eq] at repeated
    simp only [apply, repeated]
  · cases repeated

theorem moveClient_note (s : ServerState) (client : UInt16) (dest : Option UInt64)
    (command : Command) :
    (s.note command).moveClient client dest = (s.moveClient client dest).note command := rfl

theorem moveClient_comm (s : ServerState) {client other : UInt16} (dest₁ dest₂ : Option UInt64)
    (different : client ≠ other) :
    (s.moveClient other dest₂).moveClient client dest₁ =
      (s.moveClient client dest₁).moveClient other dest₂ := by
  simp only [ServerState.moveClient, Function.update_of_ne different,
    Function.update_of_ne different.symm]
  rw [Function.update_comm different]

/-- A client that leaves the server is in no channel, whether it was moved
before or is moved after. -/
theorem moveClient_leave (s : ServerState) (client other : UInt16) (dest : Option UInt64) :
    (s.moveClient other none).moveClient client dest =
      (s.moveClient client dest).moveClient other none := by
  by_cases same : client = other
  · subst same
    cases h : s.clientChannel client <;> simp [ServerState.moveClient, h]
  · exact moveClient_comm s _ _ same

theorem moveClient_evacuate (s : ServerState) (client : UInt16) {channel other fallback : UInt64}
    (apart : channel ≠ other ∨ channel = fallback) :
    (s.evacuate other fallback).moveClient client (some channel) =
      (s.moveClient client (some channel)).evacuate other fallback := by
  simp only [ServerState.moveClient, ServerState.evacuate]
  congr 1
  funext queried
  by_cases same : queried = client
  · subst same
    simp only [Function.update_self]
    cases h : s.clientChannel queried with
    | none => simp
    | some current => by_cases gone : current = other <;> rcases apart with apart | apart <;> simp_all
  · simp [same]

theorem moveClient_kick (s : ServerState) {client other : UInt16} (fromServer : Bool)
    {channel fallback : UInt64}
    (apart : client ≠ other ∨ fromServer = true ∨ channel = fallback) :
    (s.moveClient other (if fromServer then none else some fallback)).moveClient client
        (some channel) =
      (s.moveClient client (some channel)).moveClient other
        (if fromServer then none else some fallback) := by
  cases fromServer with
  | true => exact moveClient_leave s client other _
  | false =>
    by_cases same : client = other
    · have home : channel = fallback := by simpa [same] using apart
      rw [same, home]
      rfl
    · exact moveClient_comm s _ _ same

/-- A move commutes with every command that does not stand in its way, apart
from a message to the own channel that a repeated move passes. -/
theorem move_commutes (setting : Setting) (older : Command) {client : UInt16} {channel : UInt64}
    {password : Option String} {queued : Command}
    (moves : repeatsMove older (.moveChannel client channel password) = false)
    (free : standsInTheWay setting older (.moveChannel client channel password) queued = false) :
    Commutes (apply setting) (.moveChannel client channel password) queued := by
  intro s
  cases queued
  case sendMessage mode _ _ =>
    simp only [standsInTheWay, Command.supersedes, moves, Bool.false_or, Bool.not_false,
      Bool.and_true, Bool.and_eq_false_imp, bne_eq_false_iff_eq] at free
    simp only [apply]
    split
    · rfl
    · split
      · rfl
      · have other : client ≠ setting.own := fun same => by simp_all
        simp [ServerState.deliver, ServerState.moveClient, other.symm]
  case kickClient other fromServer _ =>
    have apart : client ≠ other ∨ fromServer = true ∨ channel = setting.defaultChannel := by
      simp only [standsInTheWay, Command.supersedes] at free
      grind
    simp only [apply, moveClient_note, moveClient_kick _ _ apart]
  case banClient other _ _ =>
    simp only [apply, moveClient_note, moveClient_leave]
  case deleteChannel other force =>
    cases force
    · rfl
    · have apart : channel ≠ other ∨ channel = setting.defaultChannel := by
        simp only [standsInTheWay, Command.supersedes] at free
        grind
      simp only [apply, if_true, moveClient_note, moveClient_evacuate _ _ apart]
  all_goals first
    | rfl
    | simp [standsInTheWay, Command.supersedes] at free

/-- A superseding command that is not a repeated move commutes with every
command that does not stand in its way. -/
theorem commutes_of_free (setting : Setting) {older newer queued : Command}
    (supersedes : newer.supersedes older = true) (moves : repeatsMove older newer = false)
    (free : standsInTheWay setting older newer queued = false) :
    Commutes (apply setting) newer queued := by
  unfold Command.supersedes at supersedes
  split at supersedes
  case h_1 => exact move_commutes setting _ moves free
  case h_11 => cases supersedes
  all_goals
    intro s
    cases queued
    case sendMessage mode _ _ =>
      simp only [apply]
      split
      · rfl
      · split <;> rfl
    case deleteChannel other force => cases force <;> rfl
    all_goals first
      | rfl
      | simp [standsInTheWay, Command.supersedes] at free

/-- A client that is where a move leads stays there while messages are sent and
while commands that are not in the way are executed. -/
theorem keeps_of_free (setting : Setting) {older newer queued : Command}
    (repeated : repeatsMove older newer = true)
    (free : standsInTheWay setting older newer queued = false) :
    Keeps (apply setting) newer queued := by
  obtain ⟨client, channel, password, rfl⟩ :
      ∃ client channel password, newer = .moveChannel client channel password := by
    unfold repeatsMove at repeated
    split at repeated
    · exact ⟨_, _, _, rfl⟩
    · cases repeated
  cases queued
  case sendMessage mode _ _ =>
    intro s settled
    have there : (apply setting (.moveChannel client channel password) s).clientChannel =
      s.clientChannel := by rw [settled]
    simp only [apply, ServerState.moveClient] at there
    simp only [apply]
    split
    · simp [ServerState.deliver, ServerState.moveClient, there]
    · split <;> simp [ServerState.deliver, ServerState.moveClient, there]
  all_goals
    refine (move_commutes setting .listBans rfl ?_).keeps
    simpa [standsInTheWay] using free

/-- Replacing `older` by `newer` in place means what issuing `newer` last does,
when the two have one target and nothing between them stands in the way. -/
theorem merge_preserves (setting : Setting) {older newer : Command} {before between : List Command}
    (supersedes : newer.supersedes older = true) (same : target newer = target older)
    (free : ∀ queued ∈ between, standsInTheWay setting older newer queued = false)
    (s : ServerState) :
    runAll (apply setting) (before ++ newer :: between) s =
      runAll (apply setting) (before ++ older :: between ++ [newer]) s := by
  have redundant := absorbs_of_target setting supersedes same
  cases moves : repeatsMove older newer with
  | true =>
    exact runAll_repeat _ (apply_of_repeatsMove setting moves) redundant
      (fun queued behind => keeps_of_free setting moves (free queued behind)) s
  | false =>
    exact runAll_overwrite _ redundant
      (fun queued behind => commutes_of_free setting supersedes moves (free queued behind)) s

end Nek0.Abstract
