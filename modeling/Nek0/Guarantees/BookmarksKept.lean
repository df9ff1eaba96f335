import Nek0.Library.Run
import Nek0.Source.ServerList

/-!
# Bookmarks are kept

Every save writes the list that is in memory. So no bookmark gets lost on disk as long as the
list in memory has all of them from the end of the load on: the load must not fail and must not
put an older list in the place of newer bookmarks, an update must still find its bookmark where
it was, and nothing may be saved before the list is there.
-/

namespace Nek0.Guarantees

open Nek0.Library Nek0.Source Nek0.Source.ServerListNotifier

/-- No write of the list has left out a bookmark. -/
def NothingLost (s : ServerListNotifier) : Prop := ∀ w ∈ s.writes, ∀ id ∈ w.owed, id ∈ w.written

/-- A list has all bookmarks that were persisted or added. -/
def hasOwed (s : ServerListNotifier) (servers : List Server) : Bool :=
  s.owed.all (· ∈ idsOf servers)

def isLoaded : ServerListLoad → Bool
  | .migrating | .over => true
  | .starting | .decoding .. => false

/-- The load fails only where there is no bookmark, and ends with all that were added meanwhile;
before that only a list with all bookmarks is saved. An update comes back to the bookmark that
it has found. -/
def keepsBookmarks (s : ServerListNotifier) : Action → Bool
  | .loadEntry failed =>
    match s.load with
    | .decoding (.malformed _ :: _) _ _ => s.owed = []
    | _ => !failed || s.owed = []
  | .finishLoad =>
    match s.load with
    | .decoding _ servers _ => hasOwed s servers
    | _ => true
  | .saveMigrated failed => !failed || s.owed = []
  | .resume i failed =>
    failed ||
      match s.tasks[i]? with
      | some .save => isLoaded s.load || hasOwed s s.state.servers
      | some (.update server idx) =>
        !isLoaded s.load || (s.state.servers[idx]?).all (·.id = server.id)
      | _ => true
  | _ => true

/-- Once the list is loaded, it has all bookmarks. -/
structure InMemory (s : ServerListNotifier) : Prop where
  held : isLoaded s.load = true → ∀ id ∈ s.owed, id ∈ idsOf s.state.servers
  written : NothingLost s

section Operations

variable {s t : ServerListNotifier}

theorem hasOwed_iff {servers : List Server} :
    hasOwed s servers = true ↔ ∀ id ∈ s.owed, id ∈ idsOf servers := by
  simp [hasOwed]

/-- Whatever keeps the bookmarks in memory and writes nothing. -/
theorem InMemory.frame (kept : InMemory s) (load : t.load = s.load) (writes : t.writes = s.writes)
    (held : (∀ id ∈ s.owed, id ∈ idsOf s.state.servers) → ∀ id ∈ t.owed,
      id ∈ idsOf t.state.servers) : InMemory t := by
  refine ⟨?_, ?_⟩
  · rw [load]
    exact fun loaded => held (kept.held loaded)
  · rw [NothingLost, writes]
    exact kept.written

theorem InMemory.wait (kept : InMemory s) (task : ServerListTask) : InMemory (s.wait task) :=
  kept.frame rfl rfl id

/-- Sorting, moving and clearing passwords leave the same bookmarks. -/
theorem InMemory.setServers (kept : InMemory s) {servers : List Server}
    (same : ∀ id ∈ idsOf s.state.servers, id ∈ idsOf servers) : InMemory (s.setServers servers) :=
  kept.frame rfl rfl fun held id owed => same id (held id owed)

theorem idsOf_perm {servers more : List Server} (perm : more.Perm servers) :
    ∀ id ∈ idsOf servers, id ∈ idsOf more :=
  fun _ listed => (perm.map (·.id)).symm.subset listed

theorem kept_writeList (kept : InMemory s) (all : ∀ id ∈ s.owed, id ∈ idsOf s.state.servers) :
    InMemory s.writeList := by
  refine ⟨kept.held, fun w listed => ?_⟩
  rcases List.mem_append.mp listed with old | new
  · exact kept.written w old
  · obtain rfl := List.mem_singleton.mp new
    exact all

/-- After a failure the list is empty. -/
theorem kept_failLoad (kept : InMemory s) (none : s.owed = []) : InMemory s.failLoad := by
  refine ⟨fun _ id listed => ?_, kept.written⟩
  have listed : id ∈ s.owed := listed
  rw [none] at listed
  cases listed

theorem kept_loadEntry (kept : InMemory s) {failed : Bool}
    (met : keepsBookmarks s (.loadEntry failed) = true) (taken : s.loadEntry failed = some t) :
    InMemory t := by
  rcases loadEntry_cases s taken with ⟨rfl, why⟩ | ⟨rest, servers, migrated, secrets, rfl⟩
  · have none : s.owed = [] := by
      simp only [keepsBookmarks] at met
      rcases why with fails | ⟨text, rest, servers, migrated, at_⟩
      · split at met <;> simpa [fails] using met
      · simpa [at_] using met
    exact kept_failLoad kept none
  · exact ⟨fun loaded => (nomatch loaded), kept.written⟩

theorem kept_finishLoad (kept : InMemory s) (met : keepsBookmarks s .finishLoad = true)
    (taken : s.finishLoad = some t) : InMemory t := by
  simp only [keepsBookmarks] at met
  unfold finishLoad at taken
  split at taken
  next servers migrated at_ =>
    obtain rfl := Option.some.inj taken
    simp only [at_] at met
    exact ⟨fun _ => hasOwed_iff.mp met, kept.written⟩
  · cases taken

theorem kept_saveMigrated (kept : InMemory s) {failed : Bool}
    (met : keepsBookmarks s (.saveMigrated failed) = true)
    (taken : s.saveMigrated failed = some t) : InMemory t := by
  simp only [saveMigrated, Option.ite_none_right_eq_some, Option.some.injEq] at taken
  obtain ⟨migrates, rfl⟩ := taken
  have held := kept.held (by rw [migrates]; rfl)
  simp only [keepsBookmarks, Bool.or_eq_true, Bool.not_eq_true', decide_eq_true_eq] at met
  split
  next fails => exact kept_failLoad kept (met.resolve_left (by simp [fails]))
  · exact ⟨fun _ => held, (kept_writeList kept held).written⟩

/-- An update that finds its bookmark where it was leaves the same bookmarks. -/
theorem idsOf_set {servers : List Server} {server : Server} {idx : Nat}
    (there : (servers[idx]?).all (·.id = server.id) = true) :
    idsOf (servers.set idx server) = idsOf servers := by
  by_cases bound : idx < servers.length
  · rw [List.getElem?_eq_getElem bound, Option.all_some, decide_eq_true_eq] at there
    have listed : idx < (idsOf servers).length := by simpa [idsOf] using bound
    have own : server.id = (idsOf servers)[idx] := by
      simpa [idsOf] using there.symm
    rw [idsOf, List.map_set, own]
    exact List.set_getElem_self _
  · rw [List.set_eq_of_length_le (Nat.le_of_not_lt bound)]

/-- A task that was taken out. -/
theorem kept_taken (kept : InMemory s) (i : Nat) :
    InMemory { s with tasks := s.tasks.eraseIdx i } :=
  kept.frame rfl rfl id

theorem kept_failTask (kept : InMemory s) (task : ServerListTask) : InMemory (s.failTask task) := by
  unfold failTask
  split
  · exact kept.wait _
  · exact kept

theorem kept_resume (kept : InMemory s) {task : ServerListTask}
    (saves : task = .save → isLoaded s.load = true ∨ hasOwed s s.state.servers = true)
    (finds : ∀ server idx, task = .update server idx → isLoaded s.load = true →
      (s.state.servers[idx]?).all (·.id = server.id) = true) : InMemory (s.resume task) := by
  cases task with
  | add server =>
    have added : InMemory { (s.saveServerPasswords server).setServers (s.state.servers ++ [server])
        with owed := s.owed ++ [server.id] } := by
      refine kept.frame rfl rfl fun held id owed => ?_
      simp only [setServers, idsOf, List.map_append, List.mem_append] at owed ⊢
      exact owed.imp (held id) fun last => by simpa using last
    exact added.wait .save
  | update server idx =>
    have saved : InMemory (s.saveServerPasswords server) := kept.frame rfl rfl id
    simp only [resume]
    split
    · have updated : InMemory
          ((s.saveServerPasswords server).setServers (s.state.servers.set idx server)) := by
        refine ⟨fun loaded id owed => ?_, kept.written⟩
        have same := idsOf_set (finds server idx rfl loaded)
        exact same.symm ▸ kept.held loaded id owed
      exact updated.wait .save
    · exact saved
  | remove serverId =>
    have removed : InMemory { (s.deletePasswords serverId).setServers
        (s.state.servers.filter (·.id ≠ serverId)) with owed := s.owed.filter (· ≠ serverId) } := by
      refine kept.frame rfl rfl fun held id owed => ?_
      obtain ⟨before, other⟩ := List.mem_filter.mp owed
      obtain ⟨server, listed, rfl⟩ := List.mem_map.mp (held id before)
      exact List.mem_map.mpr ⟨server, List.mem_filter.mpr ⟨listed, other⟩, rfl⟩
    exact removed.wait .save
  | eraseSecrets rest =>
    cases rest with
    | nil =>
      refine kept.setServers fun id listed => ?_
      obtain ⟨server, there, rfl⟩ := List.mem_map.mp listed
      exact List.mem_map.mpr ⟨_, List.mem_map_of_mem there, rfl⟩
    | cons server rest =>
      have deleted : InMemory (s.deletePasswords server.id) := kept.frame rfl rfl id
      exact deleted.wait _
  | saveFavorites =>
    have saved : InMemory { s with favoritesOnDisk := s.state.favoriteIds } := kept.frame rfl rfl id
    exact saved.wait .save
  | save => exact kept_writeList kept ((saves rfl).elim kept.held hasOwed_iff.mp)

theorem kept_resumeAt (kept : InMemory s) {i : Nat} {failed : Bool}
    (met : keepsBookmarks s (.resume i failed) = true) (taken : s.resumeAt i failed = some t) :
    InMemory t := by
  obtain ⟨task, at_, rfl⟩ := Option.map_eq_some_iff.mp taken
  dsimp only
  split
  · exact kept_failTask (kept_taken kept i) task
  next goesOn =>
    simp only [keepsBookmarks, at_, goesOn, Bool.false_or] at met
    refine kept_resume (kept_taken kept i) ?_ ?_
    · rintro rfl
      exact Bool.or_eq_true_iff.mp met
    · rintro server idx rfl loaded
      simpa [show isLoaded s.load = true from loaded] using met

theorem kept_toggleFavorite (kept : InMemory s) (serverId : String) :
    InMemory (s.toggleFavorite serverId) := by
  have sorted : ∀ favoriteIds, InMemory { s with
      state := { s.state with favoriteIds, servers := sortServers s.state.servers favoriteIds } } :=
    fun _ => kept.frame rfl rfl fun held id owed =>
      idsOf_perm (sortServers_perm ..) id (held id owed)
  exact (sorted _).wait .saveFavorites

theorem kept_move (kept : InMemory s) (serverId : String) (delta : Int) :
    InMemory (s.move serverId delta) := by
  have moved := kept.setServers
    (idsOf_perm (moveServer_perm s.state.servers s.state.favoriteIds serverId delta))
  exact moved.wait .save

end Operations

theorem kept_bookmarkStep {s t : ServerListNotifier} {action : Action} (kept : InMemory s)
    (met : keepsBookmarks s action = true) (taken : s.step action = some t) : InMemory t := by
  cases action with
  | beginLoad =>
    simp only [step, beginLoad, Option.ite_none_right_eq_some, Option.some.injEq] at taken
    obtain ⟨-, rfl⟩ := taken
    exact ⟨fun loaded => (nomatch loaded), kept.written⟩
  | loadEntry failed => exact kept_loadEntry kept met taken
  | finishLoad => exact kept_finishLoad kept met taken
  | saveMigrated failed => exact kept_saveMigrated kept met taken
  | addServer server =>
    obtain rfl := Option.some.inj taken
    exact kept.wait _
  | updateServer server =>
    obtain rfl := Option.some.inj taken
    unfold updateServer
    split
    · exact kept
    · exact kept.wait _
  | removeServer serverId =>
    obtain rfl := Option.some.inj taken
    exact kept.wait _
  | eraseAllSecrets =>
    obtain rfl := Option.some.inj taken
    exact kept.wait _
  | toggleFavorite serverId =>
    obtain rfl := Option.some.inj taken
    exact kept_toggleFavorite kept serverId
  | moveUp serverId | moveDown serverId =>
    obtain rfl := Option.some.inj taken
    exact kept_move kept serverId _
  | resume i failed => exact kept_resumeAt kept met taken
  | restart =>
    obtain rfl := Option.some.inj taken
    exact ⟨fun loaded => (nomatch loaded), kept.written⟩

/-- In a run whose steps all meet the condition, every write of the list has all bookmarks that
were persisted or added and not removed. -/
theorem bookmarks_kept {disk : List StoredServer} {favorites : List String}
    {secrets : String → Option String} {actions : List Action} {s : ServerListNotifier}
    (run : Run step (fun t action => keepsBookmarks t action = true) (build disk favorites secrets)
      actions s) : NothingLost s := by
  have kept : InMemory s := by
    refine run.invariant InMemory ⟨fun loaded => (nomatch loaded), fun w listed => ?_⟩
      fun _ _ _ kept met taken => kept_bookmarkStep kept met taken
    exact nomatch listed
  exact kept.written

/-- Two bookmarks, the first one with its password beside it as older versions stored it. -/
def home : ServerJson := ⟨"1", "Home", "home", "me", none, some "secret", none⟩

def work : ServerJson := ⟨"2", "Work", "work", "me", none, none, none⟩

def club : Server := ⟨"3", "Club", "club", "me", none, none, none⟩

/-- The list is loaded, which migrates a password; then the user adds a bookmark, pins it, moves
one and edits the first. -/
def keptBookmarks : List Action :=
  [.beginLoad, .loadEntry false, .loadEntry false, .finishLoad, .saveMigrated false,
    .addServer club, .resume 0 false, .toggleFavorite "3", .moveDown "1",
    .updateServer ⟨"1", "Home", "home.example", "me", none, none, none⟩,
    .resume 0 false, .resume 2 false, .resume 1 false, .resume 0 false]

theorem bookmarks_kept_edited : ∃ s : ServerListNotifier,
    Run step (fun t action => keepsBookmarks t action = true)
        (build [.bookmark home, .bookmark work] [] fun _ => none) keptBookmarks s ∧
      s.disk.map StoredServer.id? = [some "3", some "2", some "1"] ∧ s.writes.length = 3 ∧
        NothingLost s := by
  obtain ⟨s, run, shown⟩ := reaches_of_guarded keepsBookmarks
    (show (exec (guarded keepsBookmarks step)
        (build [.bookmark home, .bookmark work] [] fun _ => none) keptBookmarks).any
      (fun s : ServerListNotifier => s.disk.map StoredServer.id? = [some "3", some "2", some "1"] ∧
        s.writes.length = 3) = true by decide +kernel)
  obtain ⟨stored, count⟩ := of_decide_eq_true shown
  exact ⟨s, run, stored, count, bookmarks_kept run⟩

/-- One entry of the stored list cannot be decoded: the list is empty, and the next bookmark that
is added replaces all of them. -/
theorem malformed_entry_loses_all : ¬ ∀ (disk : List StoredServer) (favorites : List String)
    (secrets : String → Option String) (actions : List Action) (s : ServerListNotifier),
    Run step anyStep (build disk favorites secrets) actions s → NothingLost s := by
  intro kept
  obtain ⟨s, run, lost⟩ := reaches_of_exec anyStep (fun _ _ _ => trivial)
    (show (exec step (build [.bookmark work, .malformed "2,Work"] [] fun _ => none)
        [.beginLoad, .loadEntry false, .loadEntry false, .addServer club, .resume 0 false,
          .resume 0 false]).any
      (fun s : ServerListNotifier => s.writes.any fun w => w.owed.any (· ∉ w.written)) = true by
        decide +kernel)
  simp only [List.any_eq_true, decide_eq_true_eq] at lost
  obtain ⟨w, listed, id, owed, gone⟩ := lost
  exact gone (kept _ _ _ _ s run w listed id owed)

end Nek0.Guarantees
