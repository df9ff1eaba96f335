import Mathlib.Data.List.Basic

/-!
# Chat messages, their threads and their history

`lib/models/chat_message.dart` and the pure part of `lib/services/chat_history_service.dart`.
What only colours a message (`serverGenerated`, `censored`, `highlighted`) is left out.
Times are milliseconds. A private message knows here with whom it was exchanged.
-/

namespace Nek0.Source

inductive ChatThreadKey where
  | channel
  | server
  | client (peerId : Nat)
  deriving DecidableEq, Repr

namespace ChatThreadKey

def isPrivate : ChatThreadKey → Bool
  | .client _ => true
  | _ => false

def peerId : ChatThreadKey → Option Nat
  | .client peerId => some peerId
  | _ => none

end ChatThreadKey

structure ChatMessage where
  id : Nat
  fromClient : String
  fromClientId : Nat
  /-- 1 private, 2 channel, 3 server -/
  targetMode : Nat
  message : String
  timestamp : Nat
  peerId : Option Nat
  peerName : Option String
  /-- The unique id of who sent a private message or got it. -/
  partner : Option String
  deriving DecidableEq, Repr

namespace ChatMessage

def threadKey (m : ChatMessage) : ChatThreadKey :=
  match m.targetMode with
  | 1 => .client (m.peerId.getD m.fromClientId)
  | 3 => .server
  | _ => .channel

end ChatMessage

structure ChatThread where
  key : ChatThreadKey
  title : Option String
  messages : List ChatMessage
  unread : Nat
  deriving DecidableEq, Repr

namespace ChatThread

/-- The last name that a private thread was given. -/
def titleOf (messages : List ChatMessage) : Option String :=
  ((messages.map fun m => m.peerName.getD m.fromClient).filter (· ≠ "")).getLast?

def ofKey (messages : List ChatMessage) (unreadByThread : ChatThreadKey → Nat)
    (key : ChatThreadKey) : ChatThread :=
  let messages := messages.filter (·.threadKey = key)
  { key
    title := if key.isPrivate then titleOf messages else none
    messages
    unread := unreadByThread key }

/-- When the last message of a thread was written. -/
def lastTime (messages : List ChatMessage) (key : ChatThreadKey) : Nat :=
  ((messages.filter (·.threadKey = key)).getLast?.map (·.timestamp)).getD 0

/-- Channel and server first, then the private threads, the most recent one first. -/
def keys (messages : List ChatMessage) : List ChatThreadKey :=
  let privateKeys := ((messages.map (·.threadKey)).filter (·.isPrivate)).eraseDups
  .channel :: .server :: privateKeys.mergeSort fun left right =>
    decide (lastTime messages right ≤ lastTime messages left)

def group (messages : List ChatMessage) (unreadByThread : ChatThreadKey → Nat) :
    List ChatThread :=
  (keys messages).map (ofKey messages unreadByThread)

/-- What the chat panel shows for the selected key. -/
def active (messages : List ChatMessage) (unreadByThread : ChatThreadKey → Nat)
    (current : ChatThreadKey) : ChatThread :=
  ((group messages unreadByThread).find? (·.key = current)).getD
    (ofKey messages unreadByThread .channel)

end ChatThread

inductive HistoryRetention where
  | sevenDays
  | thirtyDays
  | ninetyDays
  deriving DecidableEq, Repr

def HistoryRetention.days : HistoryRetention → Nat
  | .sevenDays => 7
  | .thirtyDays => 30
  | .ninetyDays => 90

namespace ChatHistoryService

def maxEntriesPerServer : Nat := 500

/-- The characters that a file name keeps. Others become one `_` for each UTF-16 unit. -/
def safeName (c : Char) : List Char :=
  if c.isAlphanum || c == '_' || c == '-' then [c]
  else if c.toNat < 0x10000 then ['_']
  else ['_', '_']

def fileNameFor (serverUid : String) : String :=
  let safe := serverUid.toList.flatMap safeName
  let trimmed := if safe = [] then "unknown".toList else safe
  "chat_" ++ String.ofList (trimmed.take 96) ++ ".json"

def prune (messages : List ChatMessage) (retention : HistoryRetention) (now : Nat) :
    List ChatMessage :=
  let kept := messages.filter fun m => now < m.timestamp + retention.days * 86400000
  kept.drop (kept.length - maxEntriesPerServer)

end ChatHistoryService

section Threads

variable {messages : List ChatMessage} {unreadByThread : ChatThreadKey → Nat}

/-- There is a tab for the channel, for the server and for every key with messages. -/
theorem mem_keys {key : ChatThreadKey} :
    key ∈ ChatThread.keys messages ↔
      key.isPrivate = false ∨ ∃ m ∈ messages, m.threadKey = key := by
  simp only [ChatThread.keys, List.mem_cons, List.mem_mergeSort, List.mem_eraseDups,
    List.mem_filter, List.mem_map]
  cases key with
  | channel => simp [ChatThreadKey.isPrivate]
  | server => simp [ChatThreadKey.isPrivate]
  | client peerId => simp [ChatThreadKey.isPrivate]

/-- The thread that is shown is the one of some tab. -/
theorem active_cases (messages : List ChatMessage) (unreadByThread : ChatThreadKey → Nat)
    (current : ChatThreadKey) :
    (current ∈ ChatThread.keys messages ∧ ChatThread.active messages unreadByThread current =
        ChatThread.ofKey messages unreadByThread current) ∨
      current ∉ ChatThread.keys messages ∧ ChatThread.active messages unreadByThread current =
        ChatThread.ofKey messages unreadByThread .channel := by
  unfold ChatThread.active
  cases found : (ChatThread.group messages unreadByThread).find? (·.key = current) with
  | some thread =>
    obtain ⟨key, tab, rfl⟩ := List.mem_map.mp (List.mem_of_find?_eq_some found)
    have same : key = current := by
      have matched := List.find?_some found
      exact of_decide_eq_true matched
    exact .inl ⟨same ▸ tab, by rw [same]; rfl⟩
  | none =>
    refine .inr ⟨fun tab => ?_, rfl⟩
    have missing := List.find?_eq_none.mp found _ (List.mem_map_of_mem tab)
    simp [ChatThread.ofKey] at missing

/-- The thread that is shown is the selected one exactly if there is a tab for it. -/
theorem active_key {current : ChatThreadKey} :
    (ChatThread.active messages unreadByThread current).key = current ↔
      current ∈ ChatThread.keys messages := by
  rcases active_cases messages unreadByThread current with ⟨tab, shown⟩ | ⟨none, shown⟩
  · rw [shown]
    exact ⟨fun _ => tab, fun _ => rfl⟩
  · rw [shown]
    refine ⟨fun same => ?_, fun tab => absurd tab none⟩
    have channel : ChatThreadKey.channel = current := same
    exact channel ▸ mem_keys.mpr (.inl rfl)

theorem prune_sublist (retention : HistoryRetention) (now : Nat) :
    (ChatHistoryService.prune messages retention now).Sublist messages :=
  (List.drop_sublist _ _).trans List.filter_sublist

end Threads

end Nek0.Source
