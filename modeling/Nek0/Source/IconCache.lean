import Nek0.Library.LinkedMap
import Nek0.Source.ChatThreads
import Nek0.Source.Notifier

/-!
# Icon and avatar cache

`lib/services/icon_cache.dart`, the `file_transfer` event of `lib/models/ts_state.dart`, and
the transfer ids that the engine gives out: each session counts for itself, and icons,
avatars and the user's own files share the count. Icons and avatars have tables of their
own, which are used alike. What the engine does with a transfer until it reports the end is
left out.
-/

namespace Nek0.Source

open Nek0.Library

namespace IconCache

inductive Kind where
  | icon
  | avatar
  deriving DecidableEq, Repr

/-- The arguments of `TsNative.downloadFile`, with where they are asked for. -/
structure Request where
  kind : Kind
  connectionId : ConnectionId
  scopeKey : String
  remotePath : String
  file : String
  maxBytes : Nat
  deriving DecidableEq, Repr

/-- `_PendingIcon` and `_PendingAvatar`. Completers are counted. -/
structure Pending where
  scopeKey : String
  file : String
  completer : Nat
  deriving DecidableEq, Repr

/-- `_failed`, `_inFlight` and `_pending`, and their counterparts for avatars. -/
structure Table where
  failed : List String
  inFlight : LinkedMap String Nat
  pending : LinkedMap UInt16 Pending

/-- Why a completer was completed: the engine took no transfer, `reset` gave it up, or the
end of a transfer was reported, which is the one of some completer or another file. -/
inductive Cause where
  | refused
  | reset
  | event (transfer : Option Nat)
  deriving DecidableEq, Repr

structure Completion where
  completer : Nat
  value : Option String
  cause : Cause
  deriving DecidableEq, Repr

/-- A transfer whose end the engine has not reported. -/
structure Transfer where
  connectionId : ConnectionId
  transferId : UInt16
  completer : Option Nat
  deriving DecidableEq, Repr

/-- What `ts_download_file` does with a call. -/
inductive Answer where
  | refused
  | notQueued
  | queued
  deriving DecidableEq, Repr

def maxIconBytes : Nat := 512 * 1024
def maxAvatarBytes : Nat := 1024 * 1024

def safe (uid : String) : String :=
  String.ofList (uid.toList.flatMap ChatHistoryService.safeName)

/-- `_fileName` -/
def fileName (serverUid : String) (iconId : Int) : String :=
  safe serverUid ++ "_" ++ toString iconId

/-- The name under which `avatar` stores an avatar. -/
def avatarName (serverUid clientUid : String) : String :=
  "avatar_" ++ safe serverUid ++ "_" ++ safe clientUid

def key (serverUid id : String) : String := serverUid ++ "\u0000" ++ id

end IconCache

structure IconCache where
  icons : IconCache.Table
  avatars : IconCache.Table
  /-- Calls that wait for the cache directory. -/
  waiting : List IconCache.Request
  /-- The file of each completer. -/
  created : List String
  completions : List IconCache.Completion
  /-- `next_transfer_id` of each session. -/
  nextTransferId : ConnectionId → Nat
  running : List IconCache.Transfer
  /-- The sessions that the app has. -/
  tabs : List ConnectionId
  /-- The completers whose transfer has been reported to be over. -/
  reported : List Nat

namespace IconCache

def Table.empty : Table := ⟨[], .empty, .empty⟩

/-- The completers that wait, oldest first. -/
def Table.completers (table : Table) : List Nat := table.pending.values.map (·.completer)

def initial : IconCache where
  icons := .empty
  avatars := .empty
  waiting := []
  created := []
  completions := []
  nextTransferId := fun _ => 1
  running := []
  tabs := []
  reported := []

variable (s : IconCache)

def table : Kind → Table
  | .icon => s.icons
  | .avatar => s.avatars

def setTable (kind : Kind) (table : Table) : IconCache :=
  match kind with
  | .icon => { s with icons := table }
  | .avatar => { s with avatars := table }

def complete (completer : Nat) (value : Option String) (cause : Cause) : IconCache :=
  { s with completions := s.completions ++ [⟨completer, value, cause⟩] }

section Engine

def freshTransferId (cid : ConnectionId) : UInt16 :=
  .ofNat (max (s.nextTransferId cid % 65535) 1)

def count (cid : ConnectionId) : IconCache :=
  { s with
    nextTransferId := Function.update s.nextTransferId cid ((s.nextTransferId cid + 1) % 2 ^ 32) }

/-- A transfer of the session begins. -/
def start (cid : ConnectionId) (completer : Option Nat) : IconCache :=
  { s.count cid with running := s.running ++ [⟨cid, s.freshTransferId cid, completer⟩] }

/-- The user transfers a file of his own. -/
def startOther (cid : ConnectionId) : IconCache := s.start cid none

end Engine

section Requests

/-- `avatar` and `get` up to the cache directory. -/
def ask (request : Request) : IconCache :=
  if request.scopeKey ∈ (s.table request.kind).failed then s
  else { s with waiting := s.waiting ++ [request] }

def avatar (serverUid clientUid root : String) (connectionId : ConnectionId) : IconCache :=
  if clientUid = "" then s
  else
    s.ask
      { kind := .avatar
        connectionId
        scopeKey := key serverUid clientUid
        remotePath := "/avatar_" ++ clientUid
        file := root ++ "/" ++ avatarName serverUid clientUid
        maxBytes := maxAvatarBytes }

def get (serverUid : String) (iconId : Int) (root : String) (connectionId : ConnectionId) :
    IconCache :=
  if iconId = 0 then s
  else
    let unsigned := if iconId < 0 then iconId + 4294967296 else iconId
    s.ask
      { kind := .icon
        connectionId
        scopeKey := key serverUid (toString iconId)
        remotePath := "/icon_" ++ toString unsigned
        file := root ++ "/" ++ fileName serverUid iconId
        maxBytes := maxIconBytes }

/-- The rest of a call. `cached` says that the file is there and fresh, or that there is no
directory for it. -/
def proceed (i : Nat) (cached : Bool) (answer : Answer) : Option IconCache :=
  s.waiting[i]?.map fun request =>
    let s := { s with waiting := s.waiting.eraseIdx i }
    let table := s.table request.kind
    if cached then s
    -- a call for the same file is under way, and its future is returned
    else if (table.inFlight.find request.scopeKey).isSome then s
    else
      let completer := s.created.length
      let s := { s with created := s.created ++ [request.file] }
      match answer with
      | .queued =>
        let pending : Pending := ⟨request.scopeKey, request.file, completer⟩
        let table := { table with
          inFlight := table.inFlight.insert request.scopeKey completer
          pending := table.pending.insert (s.freshTransferId request.connectionId) pending }
        (s.setTable request.kind table).start request.connectionId (some completer)
      | answer =>
        let s := if answer = .notQueued then s.count request.connectionId else s
        let table := { table with failed := request.scopeKey :: table.failed }
        (s.setTable request.kind table).complete completer none .refused

end Requests

section Events

/-- The entry of a table that a `file_transfer` event finds under its id. -/
def settle (kind : Kind) (transferId : UInt16) (pending : Pending) (ok : Bool) (localPath : String)
    (transfer : Option Nat) : IconCache :=
  let table := s.table kind
  let table := { table with
    pending := table.pending.erase transferId
    inFlight := table.inFlight.erase pending.scopeKey }
  if !ok || localPath = "" then
    (s.setTable kind { table with failed := pending.scopeKey :: table.failed }).complete
      pending.completer none (.event transfer)
  else (s.setTable kind table).complete pending.completer (some pending.file) (.event transfer)

/-- `onTransferEvent` of an event that is due to `transfer`. -/
def onTransferEvent (transferId : UInt16) (ok : Bool) (localPath : String)
    (transfer : Option Nat) : IconCache :=
  match s.avatars.pending.find transferId with
  | some pending => s.settle .avatar transferId pending ok localPath transfer
  | none =>
    match s.icons.pending.find transferId with
    | some pending => s.settle .icon transferId pending ok localPath transfer
    | none => s

/-- The engine reports the end of a transfer. Without a tab the event is dropped. -/
def report (i : Nat) (ok : Bool) (localPath : String) : Option IconCache :=
  s.running[i]?.map fun transfer =>
    let s := { s with
      running := s.running.eraseIdx i
      reported := s.reported ++ transfer.completer.toList }
    if transfer.connectionId ∈ s.tabs then
      s.onTransferEvent transfer.transferId ok localPath transfer.completer
    else s

def reset : IconCache :=
  { s with
    icons := .empty
    avatars := .empty
    completions := s.completions ++
      (s.avatars.completers ++ s.icons.completers).map fun completer =>
        ⟨completer, none, .reset⟩ }

def addTab (cid : ConnectionId) : IconCache := { s with tabs := cid :: s.tabs }

def removeTab (cid : ConnectionId) : IconCache := { s with tabs := s.tabs.filter (· ≠ cid) }

end Events

inductive Action where
  | avatar (serverUid clientUid root : String) (connectionId : ConnectionId)
  | get (serverUid : String) (iconId : Int) (root : String) (connectionId : ConnectionId)
  | proceed (i : Nat) (cached : Bool) (answer : Answer)
  | startOther (cid : ConnectionId)
  | report (i : Nat) (ok : Bool) (localPath : String)
  | reset
  | addTab (cid : ConnectionId)
  | removeTab (cid : ConnectionId)

def step : Action → Option IconCache
  | .avatar serverUid clientUid root cid => some (s.avatar serverUid clientUid root cid)
  | .get serverUid iconId root cid => some (s.get serverUid iconId root cid)
  | .proceed i cached answer => s.proceed i cached answer
  | .startOther cid => some (s.startOther cid)
  | .report i ok localPath => s.report i ok localPath
  | .reset => some s.reset
  | .addTab cid => some (s.addTab cid)
  | .removeTab cid => some (s.removeTab cid)

section Effects

variable {s : IconCache}

theorem table_setTable (kind other : Kind) (table : Table) :
    (s.setTable kind table).table other = if other = kind then table else s.table other := by
  cases kind <;> cases other <;> rfl

/-- The completers that were completed. -/
def completed (s : IconCache) : List Nat := s.completions.map (·.completer)

/-- All completers, done or waiting. -/
def accounted (s : IconCache) : List Nat :=
  s.completed ++ s.avatars.completers ++ s.icons.completers

theorem mem_completers {table : Table} {completer : Nat} :
    completer ∈ table.completers ↔
      ∃ transferId pending, table.pending.find transferId = some pending ∧
        pending.completer = completer := by
  simp only [Table.completers, List.mem_map, LinkedMap.mem_values]
  constructor
  · rintro ⟨pending, ⟨transferId, found⟩, same⟩
    exact ⟨transferId, pending, found, same⟩
  · rintro ⟨transferId, pending, found, same⟩
    exact ⟨pending, ⟨transferId, found⟩, same⟩

theorem mem_accounted {completer : Nat} :
    completer ∈ s.accounted ↔ completer ∈ s.completed ∨
      ∃ kind transferId pending, (s.table kind).pending.find transferId = some pending ∧
        pending.completer = completer := by
  simp only [accounted, List.mem_append, mem_completers, or_assoc]
  refine or_congr_right ⟨?_, ?_⟩
  · rintro (found | found)
    · exact ⟨.avatar, found⟩
    · exact ⟨.icon, found⟩
  · rintro ⟨kind, found⟩
    cases kind with
    | icon => exact .inr found
    | avatar => exact .inl found

theorem completers_erase {table : Table} {transferId : UInt16} {pending : Pending}
    (found : table.pending.find transferId = some pending) {failed : List String}
    {inFlight : LinkedMap String Nat} :
    table.completers.Perm
      (pending.completer :: Table.completers ⟨failed, inFlight, table.pending.erase transferId⟩) :=
  (LinkedMap.values_erase table.pending found).map Pending.completer

theorem completers_insert {table : Table} {transferId : UInt16}
    (absent : table.pending.find transferId = none) (pending : Pending) {failed : List String}
    {inFlight : LinkedMap String Nat} :
    Table.completers ⟨failed, inFlight, table.pending.insert transferId pending⟩ =
      table.completers ++ [pending.completer] := by
  simp [Table.completers, LinkedMap.values_insert _ _ absent]

/-- An entry that is found leaves its table, and its completer is completed with its file
or without one. -/
theorem settle_eq (s : IconCache) (kind : Kind) (transferId : UInt16) (pending : Pending)
    (ok : Bool) (localPath : String) (transfer : Option Nat) :
    ∃ failed value, (value = none ∨ value = some pending.file) ∧
      s.settle kind transferId pending ok localPath transfer =
        (s.setTable kind ⟨failed, (s.table kind).inFlight.erase pending.scopeKey,
          (s.table kind).pending.erase transferId⟩).complete pending.completer value
            (.event transfer) := by
  unfold settle
  dsimp only
  split
  · exact ⟨_, none, .inl rfl, rfl⟩
  · exact ⟨_, some pending.file, .inr rfl, rfl⟩

/-- Taking an entry out and completing it accounts for the same completers. -/
theorem accounted_settled {kind : Kind} {transferId : UInt16} {pending : Pending}
    (found : (s.table kind).pending.find transferId = some pending) (failed : List String)
    (inFlight : LinkedMap String Nat) (value : Option String) (cause : Cause) :
    s.accounted.Perm ((s.setTable kind
      ⟨failed, inFlight, (s.table kind).pending.erase transferId⟩).complete pending.completer value
        cause).accounted := by
  let rest : Table := ⟨failed, inFlight, (s.table kind).pending.erase transferId⟩
  have split : (s.table kind).completers.Perm (pending.completer :: rest.completers) :=
    completers_erase found
  cases kind with
  | icon =>
    have taken : s.accounted.Perm
        (s.completed ++ s.avatars.completers ++ (pending.completer :: rest.completers)) :=
      split.append_left _
    have moved :
        (s.completed ++ s.avatars.completers ++ (pending.completer :: rest.completers)).Perm
        (s.completed ++ pending.completer :: (s.avatars.completers ++ rest.completers)) := by
      refine List.perm_middle.trans ?_
      rw [List.append_assoc]
      exact List.perm_middle.symm
    refine (taken.trans moved).trans (.of_eq ?_)
    simp [accounted, completed, setTable, complete, rest]
  | avatar =>
    have taken : s.accounted.Perm
        (s.completed ++ (pending.completer :: rest.completers) ++ s.icons.completers) :=
      (split.append_left _).append_right _
    refine taken.trans (.of_eq ?_)
    simp [accounted, completed, setTable, complete, rest]

/-- A new entry accounts for its completer. -/
theorem accounted_waiting {kind : Kind} {transferId : UInt16} (pending : Pending)
    (absent : (s.table kind).pending.find transferId = none) (failed : List String)
    (inFlight : LinkedMap String Nat) :
    (s.setTable kind ⟨failed, inFlight,
      (s.table kind).pending.insert transferId pending⟩).accounted.Perm
        (pending.completer :: s.accounted) := by
  have added :
      Table.completers ⟨failed, inFlight, (s.table kind).pending.insert transferId pending⟩ =
      (s.table kind).completers ++ [pending.completer] := completers_insert absent pending
  cases kind with
  | icon =>
    refine (List.Perm.of_eq ?_).trans (List.perm_append_singleton pending.completer s.accounted)
    exact (congrArg (s.completed ++ s.avatars.completers ++ ·) added).trans
      (List.append_assoc ..).symm
  | avatar =>
    have moved : (s.completed ++ (s.avatars.completers ++ [pending.completer]) ++
        s.icons.completers).Perm (pending.completer :: s.accounted) := by
      simp only [accounted, List.append_assoc, List.singleton_append]
      rw [← List.append_assoc, ← List.append_assoc]
      exact List.perm_middle
    refine (List.Perm.of_eq ?_).trans moved
    exact congrArg (s.completed ++ · ++ s.icons.completers) added

end Effects

end IconCache

end Nek0.Source
