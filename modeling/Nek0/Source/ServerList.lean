import Mathlib.Data.List.Perm.Basic
import Mathlib.Logic.Function.Basic

/-!
# The list of bookmarks

`ServerListNotifier` of `lib/models/ts_state.dart` with `sortServers` and `moveServer` of
`lib/models/server_order.dart`. Every operation that changes the list saves it as a whole, after
a wait for the preferences, and most of them wait for the secure storage before. The storage calls
for one bookmark are one step here, since what comes between them cannot touch the list
otherwise; a call that fails throws, which ends its operation.
-/

namespace Nek0.Source

structure Server where
  id : String
  name : String
  address : String
  nickname : String
  channel : Option String
  password : Option String
  channelPassword : Option String
  deriving DecidableEq, Repr

/-- A bookmark in the preferences: what `toJson` writes, and the passwords that older versions
have written with it. -/
structure ServerJson where
  id : String
  name : String
  address : String
  nickname : String
  channel : Option String
  password : Option String
  channelPassword : Option String
  deriving DecidableEq, Repr

/-- An entry of the stored list, as `Server.fromJson` reads it. -/
inductive StoredServer where
  | bookmark (json : ServerJson)
  | malformed (text : String)
  deriving DecidableEq, Repr

def StoredServer.id? : StoredServer → Option String
  | .bookmark json => some json.id
  | .malformed _ => none

def Server.toJson (server : Server) : ServerJson where
  id := server.id
  name := server.name
  address := server.address
  nickname := server.nickname
  channel := server.channel
  password := none
  channelPassword := none

def sortServers (servers : List Server) (favoriteIds : List String) : List Server :=
  servers.filter (·.id ∈ favoriteIds) ++ servers.filter (·.id ∉ favoriteIds)

/-- The input unchanged where the move is out of range. -/
def moveServer (servers : List Server) (favoriteIds : List String) (serverId : String)
    (delta : Int) : List Server :=
  match servers.findIdx? (·.id = serverId) with
  | none => servers
  | some idx =>
    let target : Int := idx + delta
    if target < 0 || servers.length ≤ target then servers
    else
      match servers[idx]? with
      | none => servers
      | some item => sortServers ((servers.eraseIdx idx).insertIdx target.toNat item) favoriteIds

theorem sortServers_perm (servers : List Server) (favoriteIds : List String) :
    (sortServers servers favoriteIds).Perm servers := by
  have parts := List.filter_append_perm (fun s : Server => decide (s.id ∈ favoriteIds)) servers
  simpa only [sortServers, decide_not] using parts

theorem moveServer_perm (servers : List Server) (favoriteIds : List String) (serverId : String)
    (delta : Int) : (moveServer servers favoriteIds serverId delta).Perm servers := by
  unfold moveServer
  split
  · exact .refl _
  next idx found =>
    dsimp only
    split
    · exact .refl _
    next inRange =>
      split
      · exact .refl _
      next item at_ =>
        obtain ⟨bound, rfl⟩ := List.getElem?_eq_some_iff.mp at_
        simp only [Bool.or_eq_true, decide_eq_true_eq, not_or, Int.not_lt, Int.not_le] at inRange
        have fits : (idx + delta).toNat ≤ (servers.eraseIdx idx).length := by
          rw [List.length_eraseIdx_of_lt bound]
          omega
        have moved := (List.perm_insertIdx servers[idx] (servers.eraseIdx idx) fits).trans
          (List.getElem_cons_eraseIdx_perm bound)
        exact (sortServers_perm ..).trans moved

structure ServerListState where
  servers : List Server
  favoriteIds : List String
  loading : Bool
  deriving DecidableEq, Repr

def ServerListState.new : ServerListState := ⟨[], [], true⟩

/-- How far `_loadFromDisk` is. -/
inductive ServerListLoad where
  /-- It waits for the preferences. -/
  | starting
  /-- It has read the list; `rest` is still to be decoded. -/
  | decoding (rest : List StoredServer) (servers : List Server) (migrated : Bool)
  /-- The list is there; a save without the migrated passwords comes next. -/
  | migrating
  | over
  deriving DecidableEq, Repr

/-- An operation that waits. -/
inductive ServerListTask where
  /-- `addServer`, for `_saveServerPasswords`. -/
  | add (server : Server)
  /-- `updateServer`, for `_saveServerPasswords`, with the index that it has found. -/
  | update (server : Server) (idx : Nat)
  /-- `removeServer`, for the deletion of its passwords. -/
  | remove (serverId : String)
  /-- `eraseAllSecrets`, with the bookmarks whose passwords are still to be deleted. -/
  | eraseSecrets (rest : List Server)
  /-- `_saveFavorites`, for the preferences. -/
  | saveFavorites
  /-- `_saveToDisk`, for the preferences. -/
  | save
  deriving DecidableEq, Repr

/-- A write of the list, and the bookmarks that it owes. -/
structure ServerListWrite where
  owed : List String
  written : List String
  deriving DecidableEq, Repr

structure ServerListNotifier where
  state : ServerListState
  load : ServerListLoad
  tasks : List ServerListTask
  /-- The preference `servers`. -/
  disk : List StoredServer
  /-- The preference `server_favorites`. -/
  favoritesOnDisk : List String
  /-- The secure storage. -/
  secrets : String → Option String
  /-- The bookmarks that were persisted or added, and not removed since. -/
  owed : List String
  /-- All writes of the list so far. -/
  writes : List ServerListWrite

namespace ServerListNotifier

def serverPasswordKey (serverId : String) : String := "server_password_" ++ serverId

def channelPasswordKey (serverId : String) : String := "channel_password_" ++ serverId

def idsOf (servers : List Server) : List String := servers.map (·.id)

/-- The start of the app, with what it has stored. -/
def build (disk : List StoredServer) (favoritesOnDisk : List String)
    (secrets : String → Option String) : ServerListNotifier where
  state := .new
  load := .starting
  tasks := []
  disk
  favoritesOnDisk
  secrets
  owed := disk.filterMap StoredServer.id?
  writes := []

section Storage

variable (s : ServerListNotifier)

def putSecret (key : String) (value : Option String) : ServerListNotifier :=
  { s with secrets := Function.update s.secrets key value }

/-- A text that is neither missing nor empty. -/
def present (text : Option String) : Option String := text.filter (· ≠ "")

def saveServerPasswords (server : Server) : ServerListNotifier :=
  (s.putSecret (serverPasswordKey server.id) (present server.password)).putSecret
    (channelPasswordKey server.id) (present server.channelPassword)

def deletePasswords (serverId : String) : ServerListNotifier :=
  (s.putSecret (serverPasswordKey serverId) none).putSecret (channelPasswordKey serverId) none

/-- A password that is not in the secure storage yet. -/
def isLegacy (key : String) (legacy : Option String) : Bool :=
  s.secrets key = none && (present legacy).isSome

def migrateSecret (key : String) (legacy : Option String) : ServerListNotifier :=
  if s.isLegacy key legacy then s.putSecret key legacy else s

theorem migrateSecret_eq (key : String) (legacy : Option String) :
    ∃ secrets, s.migrateSecret key legacy = { s with secrets } := by
  unfold migrateSecret
  split <;> exact ⟨_, rfl⟩

/-- `_saveToDisk` after its wait. -/
def writeList : ServerListNotifier :=
  { s with
    disk := s.state.servers.map fun server => .bookmark server.toJson
    writes := s.writes ++ [⟨s.owed, idsOf s.state.servers⟩] }

def setServers (servers : List Server) : ServerListNotifier :=
  { s with state := { s.state with servers } }

end Storage

section Load

variable (s : ServerListNotifier)

def beginLoad : Option ServerListNotifier :=
  if s.load = .starting then some { s with load := .decoding s.disk [] false } else none

/-- The `catch` of `_loadFromDisk`. -/
def failLoad : ServerListNotifier :=
  { s with load := .over, state := { s.state with servers := [], loading := false } }

/-- The next entry is decoded, and its passwords are read and migrated, if nothing fails. -/
def loadEntry (failed : Bool) : Option ServerListNotifier :=
  match s.load with
  | .decoding (.malformed _ :: _) _ _ => some s.failLoad
  | .decoding (.bookmark json :: rest) servers migrated =>
    if failed then some s.failLoad
    else
      let serverSecretKey := serverPasswordKey json.id
      let channelSecretKey := channelPasswordKey json.id
      let t := (s.migrateSecret serverSecretKey json.password).migrateSecret channelSecretKey
        json.channelPassword
      let server : Server :=
        { id := json.id
          name := json.name
          address := json.address
          nickname := json.nickname
          channel := json.channel
          password := t.secrets serverSecretKey
          channelPassword := t.secrets channelSecretKey }
      let moved := s.isLegacy serverSecretKey json.password ||
        s.isLegacy channelSecretKey json.channelPassword
      some { t with load := .decoding rest (servers ++ [server]) (migrated || moved) }
  | _ => none

/-- The load ends with an entry, or goes on without a change to the list that is shown. -/
theorem loadEntry_cases {failed : Bool} {t : ServerListNotifier}
    (taken : s.loadEntry failed = some t) :
    (t = s.failLoad ∧ (failed = true ∨ ∃ text rest servers migrated,
      s.load = .decoding (.malformed text :: rest) servers migrated)) ∨
    ∃ rest servers migrated secrets,
      t = { s with load := .decoding rest servers migrated, secrets } := by
  unfold loadEntry at taken
  split at taken
  next at_ =>
    obtain rfl := Option.some.inj taken
    exact .inl ⟨rfl, .inr ⟨_, _, _, _, at_⟩⟩
  · split at taken
    next fails =>
      obtain rfl := Option.some.inj taken
      exact .inl ⟨rfl, .inl fails⟩
    · obtain rfl := Option.some.inj taken
      obtain ⟨first, server⟩ := s.migrateSecret_eq (serverPasswordKey _) _
      rw [server]
      obtain ⟨second, channel⟩ :=
        { s with secrets := first }.migrateSecret_eq (channelPasswordKey _) _
      rw [channel]
      exact .inr ⟨_, _, _, second, rfl⟩
  · cases taken

/-- All entries are decoded. -/
def finishLoad : Option ServerListNotifier :=
  match s.load with
  | .decoding [] servers migrated =>
    some
      { s with
        load := if migrated then .migrating else .over
        state :=
          { servers, favoriteIds := s.favoritesOnDisk.eraseDups, loading := false } }
  | _ => none

/-- The save after a migration, which is under the same `catch`. -/
def saveMigrated (failed : Bool) : Option ServerListNotifier :=
  if s.load = .migrating then
    some (if failed then s.failLoad else { s.writeList with load := .over })
  else none

end Load

section Operations

variable (s : ServerListNotifier)

/-- Where an operation goes on next. -/
def wait (task : ServerListTask) : ServerListNotifier := { s with tasks := s.tasks ++ [task] }

def addServer (server : Server) : ServerListNotifier := s.wait (.add server)

def updateServer (server : Server) : ServerListNotifier :=
  match s.state.servers.findIdx? (·.id = server.id) with
  | none => s
  | some idx => s.wait (.update server idx)

def removeServer (serverId : String) : ServerListNotifier := s.wait (.remove serverId)

def eraseAllSecrets : ServerListNotifier := s.wait (.eraseSecrets s.state.servers)

def toggleFavorite (serverId : String) : ServerListNotifier :=
  let favs := s.state.favoriteIds
  let favs := if serverId ∈ favs then favs.filter (· ≠ serverId) else favs ++ [serverId]
  let state := { s.state with favoriteIds := favs }
  { s with state := { state with servers := sortServers state.servers favs } }.wait .saveFavorites

/-- `moveUp` and `moveDown` -/
def move (serverId : String) (delta : Int) : ServerListNotifier :=
  (s.setServers (moveServer s.state.servers s.state.favoriteIds serverId delta)).wait .save

/-- A task goes on, where its wait has not failed. An index out of range throws. -/
def resume : ServerListTask → ServerListNotifier
  | .add server =>
    let s := s.saveServerPasswords server
    { s.setServers (s.state.servers ++ [server]) with owed := s.owed ++ [server.id] }.wait .save
  | .update server idx =>
    let s := s.saveServerPasswords server
    if idx < s.state.servers.length then (s.setServers (s.state.servers.set idx server)).wait .save
    else s
  | .remove serverId =>
    let s := s.deletePasswords serverId
    { s.setServers (s.state.servers.filter (·.id ≠ serverId)) with
      owed := s.owed.filter (· ≠ serverId) }.wait .save
  | .eraseSecrets [] =>
    s.setServers (s.state.servers.map fun server =>
      { server with password := none, channelPassword := none })
  | .eraseSecrets (server :: rest) => (s.deletePasswords server.id).wait (.eraseSecrets rest)
  | .saveFavorites => { s with favoritesOnDisk := s.state.favoriteIds }.wait .save
  | .save => s.writeList

/-- A failed wait ends an operation; only `eraseAllSecrets` goes on with the next bookmark. -/
def failTask : ServerListTask → ServerListNotifier
  | .eraseSecrets (_ :: rest) => s.wait (.eraseSecrets rest)
  | _ => s

def resumeAt (i : Nat) (failed : Bool) : Option ServerListNotifier :=
  s.tasks[i]?.map fun task =>
    let s := { s with tasks := s.tasks.eraseIdx i }
    if failed then s.failTask task else s.resume task

/-- The process ends, and the app starts again. What was not persisted is not there any more. -/
def restart : ServerListNotifier :=
  { build s.disk s.favoritesOnDisk s.secrets with
    owed := s.owed.filter (some · ∈ s.disk.map StoredServer.id?)
    writes := s.writes }

end Operations

inductive Action where
  | beginLoad
  | loadEntry (failed : Bool)
  | finishLoad
  | saveMigrated (failed : Bool)
  | addServer (server : Server)
  | updateServer (server : Server)
  | removeServer (serverId : String)
  | eraseAllSecrets
  | toggleFavorite (serverId : String)
  | moveUp (serverId : String)
  | moveDown (serverId : String)
  | resume (i : Nat) (failed : Bool)
  | restart
  deriving DecidableEq, Repr

def step (s : ServerListNotifier) : Action → Option ServerListNotifier
  | .beginLoad => s.beginLoad
  | .loadEntry failed => s.loadEntry failed
  | .finishLoad => s.finishLoad
  | .saveMigrated failed => s.saveMigrated failed
  | .addServer server => some (s.addServer server)
  | .updateServer server => some (s.updateServer server)
  | .removeServer serverId => some (s.removeServer serverId)
  | .eraseAllSecrets => some s.eraseAllSecrets
  | .toggleFavorite serverId => some (s.toggleFavorite serverId)
  | .moveUp serverId => some (s.move serverId (-1))
  | .moveDown serverId => some (s.move serverId 1)
  | .resume i failed => s.resumeAt i failed
  | .restart => some s.restart

end ServerListNotifier

end Nek0.Source
