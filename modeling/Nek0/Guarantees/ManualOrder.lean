import Nek0.Library.FrontGroup
import Nek0.Library.Run
import Nek0.Source.ServerList

/-!
# The order of the bookmarks

A move exchanges two neighbours and sorts the pinned servers to the front again. The sort undoes an
exchange across the border of the two groups and leaves any other alone, so a move is right on
every list in the form that the sort produces. The operations that neither move nor pin do not
sort: a new bookmark goes to the end even where its id is pinned, since a removal leaves the pin of
its bookmark behind and ids are given out again, and an update writes to the place that its
bookmark had before the wait.
-/

namespace Nek0.Guarantees

open Nek0.Library Nek0.Library.FrontGroup Nek0.Source Nek0.Source.ServerListNotifier

def isFavorite (favoriteIds : List String) (server : Server) : Bool := server.id ∈ favoriteIds

/-- The form that `sortServers` produces, in which the list is shown as it is stored. -/
def Sorted (servers : List Server) (favoriteIds : List String) : Prop :=
  ∃ arbitrary, servers = sortServers arbitrary favoriteIds

inductive Direction where
  | up
  | down
  deriving DecidableEq, Repr

/-- As `moveUp` and `moveDown` pass it on. -/
def Direction.delta : Direction → Int
  | .up => -1
  | .down => 1

/-- The first server with an id changes places with its neighbour in a direction. -/
inductive Swapped (serverId : String) (server neighbour : Server) :
    Direction → List Server → List Server → Prop where
  | up {before after : List Server} (own : server.id = serverId)
      (first : serverId ∉ idsOf (before ++ [neighbour])) :
      Swapped serverId server neighbour .up (before ++ neighbour :: server :: after)
        (before ++ server :: neighbour :: after)
  | down {before after : List Server} (own : server.id = serverId)
      (first : serverId ∉ idsOf before) :
      Swapped serverId server neighbour .down (before ++ server :: neighbour :: after)
        (before ++ neighbour :: server :: after)

/-- What a move by one place makes of a list. -/
structure MovesByOne (servers : List Server) (favoriteIds : List String) (serverId : String)
    (direction : Direction) (moved : List Server) : Prop where
  perm : moved.Perm servers
  favoritesFirst : moved.Pairwise fun a b => b.id ∈ favoriteIds → a.id ∈ favoriteIds
  /-- Without the moved server, the lists are the same. -/
  others : ∀ i, servers.findIdx? (·.id = serverId) = some i →
    ∃ j, moved[j]? = servers[i]? ∧ moved.eraseIdx j = servers.eraseIdx i
  exchanged : ∀ server neighbour swapped,
    Swapped serverId server neighbour direction servers swapped →
    (server.id ∈ favoriteIds ↔ neighbour.id ∈ favoriteIds) → moved = swapped
  /-- At an end of the list, at the border of the groups, and for an unknown id. -/
  unchanged : (∀ server neighbour swapped,
    Swapped serverId server neighbour direction servers swapped →
    ¬(server.id ∈ favoriteIds ↔ neighbour.id ∈ favoriteIds)) → moved = servers

section Moves

variable {servers swapped before after : List Server} {favoriteIds : List String}
  {serverId : String} {direction : Direction} {server neighbour : Server}

theorem sortServers_eq_front (servers : List Server) (favoriteIds : List String) :
    sortServers servers favoriteIds = front (isFavorite favoriteIds) servers := by
  simp only [sortServers, decide_not]
  rfl

theorem sorted_iff : Sorted servers favoriteIds ↔ Grouped (isFavorite favoriteIds) servers := by
  simp only [Sorted, sortServers_eq_front, exists_front_iff]

theorem grouped_iff : Grouped (isFavorite favoriteIds) servers ↔
    servers.Pairwise fun a b => b.id ∈ favoriteIds → a.id ∈ favoriteIds := by
  simp only [Grouped, isFavorite, decide_eq_true_eq]

theorem findIdx_first (own : server.id = serverId) (first : serverId ∉ idsOf before)
    (after : List Server) :
    (before ++ server :: after).findIdx? (·.id = serverId) = some before.length := by
  have none : before.findIdx? (·.id = serverId) = none := by
    rw [List.findIdx?_eq_none_iff]
    intro other listed
    rw [decide_eq_false_iff_not]
    rintro rfl
    exact first (List.mem_map_of_mem listed)
  simp [List.findIdx?_append, none, List.findIdx?_cons, own]

/-- Every listed id has a first server. -/
theorem exists_first (listed : serverId ∈ idsOf servers) : ∃ before server after,
    servers = before ++ server :: after ∧ server.id = serverId ∧ serverId ∉ idsOf before := by
  obtain ⟨ids, rest, split, first⟩ := List.eq_append_cons_of_mem listed
  obtain ⟨before, others, rfl, rfl, behind⟩ := List.map_eq_append_iff.mp split
  obtain ⟨server, after, rfl, own, -⟩ := List.map_eq_cons_iff.mp behind
  exact ⟨before, server, after, rfl, own, first⟩

theorem insertIdx_between (before after : List Server) (server : Server) :
    (before ++ after).insertIdx before.length server = before ++ server :: after := by
  induction before with
  | nil => exact List.insertIdx_zero
  | cons other before ih =>
    rw [List.cons_append, List.length_cons, List.insertIdx_succ_cons, ih, List.cons_append]

theorem eraseIdx_between (before after : List Server) (server : Server) :
    (before ++ server :: after).eraseIdx before.length = before ++ after := by
  rw [List.eraseIdx_append_of_length_le (Nat.le_refl _), Nat.sub_self, List.eraseIdx_cons_zero]

/-- The moved server is taken out and put back at the target. -/
theorem moveServer_first (own : server.id = serverId) (first : serverId ∉ idsOf before)
    {delta : Int} {target : Nat} (there : before.length + delta = target) (after : List Server)
    (favoriteIds : List String) :
    moveServer (before ++ server :: after) favoriteIds serverId delta =
      if target ≤ (before ++ after).length then
        sortServers ((before ++ after).insertIdx target server) favoriteIds
      else before ++ server :: after := by
  have erased := eraseIdx_between before after server
  have taken : (before ++ server :: after)[before.length]? = some server := by simp
  have length : (before ++ server :: after).length = (before ++ after).length + 1 := by
    simp [Nat.add_assoc]
  simp only [moveServer, findIdx_first own first after, there, erased, taken, length,
    Int.toNat_natCast]
  by_cases inRange : target ≤ (before ++ after).length
  · rw [if_neg, if_pos inRange]
    simp only [Bool.or_eq_true, decide_eq_true_eq]
    omega
  · rw [if_pos, if_neg inRange]
    simp only [Bool.or_eq_true, decide_eq_true_eq]
    omega

/-- An exchange of neighbours is all that a move does before it sorts. -/
theorem moveServer_swapped
    (swap : Swapped serverId server neighbour direction servers swapped) :
    moveServer servers favoriteIds serverId direction.delta = sortServers swapped favoriteIds := by
  cases swap with
  | @up before after own first =>
    have target : ((before ++ [neighbour]).length : Int) + Direction.up.delta = before.length := by
      simp only [Direction.delta, List.length_append, List.length_singleton]
      omega
    have put := insertIdx_between before (neighbour :: after) server
    simpa [put] using moveServer_first own first target after favoriteIds
  | @down before after own first =>
    have target : (before.length : Int) + Direction.down.delta =
        (before ++ [neighbour]).length := by
      simp [Direction.delta]
    have put := insertIdx_between (before ++ [neighbour]) after server
    simp only [List.append_assoc, List.singleton_append] at put
    rw [moveServer_first own first target, if_pos, put]
    simp

/-- Without a neighbour in its direction, nothing moves. -/
theorem moveServer_of_alone
    (alone : ∀ server neighbour swapped,
      ¬Swapped serverId server neighbour direction servers swapped) :
    moveServer servers favoriteIds serverId direction.delta = servers := by
  by_cases listed : serverId ∈ idsOf servers
  · obtain ⟨before, server, after, rfl, own, first⟩ := exists_first listed
    cases direction with
    | up =>
      rcases List.eq_nil_or_concat' before with rfl | ⟨before, neighbour, rfl⟩
      · simp [moveServer, List.findIdx?_cons, own, Direction.delta]
      · rw [List.append_assoc] at alone
        exact absurd (.up own first) (alone server neighbour _)
    | down =>
      cases after with
      | nil =>
        have target : (before.length : Int) + Direction.down.delta = (before.length + 1 : Nat) :=
          rfl
        rw [moveServer_first own first target, if_neg]
        simp
      | cons neighbour after => exact absurd (.down own first) (alone server neighbour _)
  · have unknown : servers.findIdx? (·.id = serverId) = none := by
      simpa [idsOf] using listed
    simp [moveServer, unknown]

theorem isFavorite_eq_iff : isFavorite favoriteIds server = isFavorite favoriteIds neighbour ↔
    (server.id ∈ favoriteIds ↔ neighbour.id ∈ favoriteIds) := decide_eq_decide

/-- Within a group, an exchange keeps the form. -/
theorem sortServers_swapped (swap : Swapped serverId server neighbour direction servers swapped)
    (sorted : Sorted servers favoriteIds)
    (together : server.id ∈ favoriteIds ↔ neighbour.id ∈ favoriteIds) :
    sortServers swapped favoriteIds = swapped := by
  have same := isFavorite_eq_iff.mpr together
  have grouped := sorted_iff.mp sorted
  rw [sortServers_eq_front]
  apply front_eq_self
  cases swap with
  | up => exact grouped_swap same.symm grouped
  | down => exact grouped_swap same grouped

/-- Across the border, the sort takes an exchange back. -/
theorem sortServers_swapped_back
    (swap : Swapped serverId server neighbour direction servers swapped)
    (sorted : Sorted servers favoriteIds)
    (apart : ¬(server.id ∈ favoriteIds ↔ neighbour.id ∈ favoriteIds)) :
    sortServers swapped favoriteIds = servers := by
  have differs : isFavorite favoriteIds server ≠ isFavorite favoriteIds neighbour :=
    mt isFavorite_eq_iff.mp apart
  have back : front (isFavorite favoriteIds) swapped = front (isFavorite favoriteIds) servers := by
    cases swap with
    | up => exact front_swap differs
    | down => exact front_swap differs.symm
  rw [sortServers_eq_front, back, front_eq_self (sorted_iff.mp sorted)]

/-- An exchange leaves the others as they are. -/
theorem swapped_others (swap : Swapped serverId server neighbour direction servers swapped) :
    ∃ i j, servers.findIdx? (·.id = serverId) = some i ∧ swapped[j]? = servers[i]? ∧
      swapped.eraseIdx j = servers.eraseIdx i := by
  cases swap with
  | @up before after own first =>
    have found := findIdx_first own first after
    rw [List.append_assoc, List.singleton_append] at found
    refine ⟨_, before.length, found, ?_, ?_⟩
    · simp
    · have taken := eraseIdx_between (before ++ [neighbour]) after server
      rw [List.append_assoc, List.singleton_append] at taken
      rw [eraseIdx_between, taken, List.append_assoc, List.singleton_append]
  | @down before after own first =>
    refine ⟨_, (before ++ [neighbour]).length, findIdx_first own first (neighbour :: after), ?_, ?_⟩
    · simp
    · have taken := eraseIdx_between (before ++ [neighbour]) after server
      rw [List.append_assoc, List.singleton_append] at taken
      rw [eraseIdx_between, taken, List.append_assoc, List.singleton_append]

/-- On a list in the form, a move does what it says. -/
theorem moves_moveServer (sorted : Sorted servers favoriteIds) (serverId : String)
    (direction : Direction) :
    MovesByOne servers favoriteIds serverId direction
      (moveServer servers favoriteIds serverId direction.delta) := by
  have exchanged {server neighbour : Server} {swapped : List Server}
      (swap : Swapped serverId server neighbour direction servers swapped)
      (together : server.id ∈ favoriteIds ↔ neighbour.id ∈ favoriteIds) :
      moveServer servers favoriteIds serverId direction.delta = swapped :=
    (moveServer_swapped swap).trans (sortServers_swapped swap sorted together)
  have unchanged (apart : ∀ server neighbour swapped,
      Swapped serverId server neighbour direction servers swapped →
      ¬(server.id ∈ favoriteIds ↔ neighbour.id ∈ favoriteIds)) :
      moveServer servers favoriteIds serverId direction.delta = servers := by
    by_cases alone : ∃ server neighbour swapped,
        Swapped serverId server neighbour direction servers swapped
    · obtain ⟨server, neighbour, swapped, swap⟩ := alone
      have back := sortServers_swapped_back swap sorted (apart server neighbour swapped swap)
      exact (moveServer_swapped swap).trans back
    · simp only [not_exists] at alone
      exact moveServer_of_alone alone
  -- Either two neighbours of a group have changed places, or nothing has changed.
  have outcome : (∃ server neighbour swapped,
      Swapped serverId server neighbour direction servers swapped ∧
      (server.id ∈ favoriteIds ↔ neighbour.id ∈ favoriteIds)) ∨
      moveServer servers favoriteIds serverId direction.delta = servers := by
    by_cases together : ∃ server neighbour swapped,
        Swapped serverId server neighbour direction servers swapped ∧
        (server.id ∈ favoriteIds ↔ neighbour.id ∈ favoriteIds)
    · exact .inl together
    · refine .inr (unchanged fun server neighbour swapped swap same => ?_)
      exact together ⟨server, neighbour, swapped, swap, same⟩
  refine ⟨moveServer_perm .., ?_, ?_, fun _ _ _ => exchanged, unchanged⟩
  · rw [← grouped_iff, ← sorted_iff]
    rcases outcome with ⟨server, neighbour, swapped, swap, together⟩ | same
    · rw [moveServer_swapped swap]
      exact ⟨swapped, rfl⟩
    · rwa [same]
  · intro i found
    rcases outcome with ⟨server, neighbour, swapped, swap, together⟩ | same
    · obtain ⟨i', j, found', kept⟩ := swapped_others swap
      obtain rfl := Option.some.inj (found.symm.trans found')
      exact ⟨j, exchanged swap together ▸ kept⟩
    · exact ⟨i, by rw [same], by rw [same]⟩

end Moves

def PinnedFirst (s : ServerListNotifier) : Prop := Sorted s.state.servers s.state.favoriteIds

/-- A bookmark with a pinned id is added only behind pinned ones, and an update comes back to a
place in the group of its bookmark or next to it. The list on disk was saved with the pins on
disk. -/
def keepsOrder (s : ServerListNotifier) : Action → Bool
  | .finishLoad =>
    match s.load with
    | .decoding _ servers _ => Grouped (isFavorite s.favoritesOnDisk) servers
    | _ => true
  | .resume i failed =>
    let servers := s.state.servers
    let favoriteIds := s.state.favoriteIds
    let favorites := servers.countP (isFavorite favoriteIds)
    failed ||
      match s.tasks[i]? with
      | some (.add server) =>
        !isFavorite favoriteIds server || servers.all (isFavorite favoriteIds)
      | some (.update server idx) =>
        servers.length ≤ idx ||
          if isFavorite favoriteIds server then idx ≤ favorites else favorites ≤ idx + 1
      | _ => true
  | _ => true

section Operations

variable {s t : ServerListNotifier}

theorem pinnedFirst_iff :
    PinnedFirst s ↔ Grouped (isFavorite s.state.favoriteIds) s.state.servers := sorted_iff

/-- Whatever leaves the list and the pins alone. -/
theorem PinnedFirst.frame (order : PinnedFirst s) (same : t.state = s.state) : PinnedFirst t := by
  rw [PinnedFirst, same]
  exact order

theorem pinnedFirst_of_empty (empty : t.state.servers = []) : PinnedFirst t := by
  rw [pinnedFirst_iff, empty]
  exact .nil

theorem pinnedFirst_loadEntry (order : PinnedFirst s) {failed : Bool}
    (taken : s.loadEntry failed = some t) : PinnedFirst t := by
  rcases loadEntry_cases s taken with ⟨rfl, -⟩ | ⟨rest, servers, migrated, secrets, rfl⟩
  · exact pinnedFirst_of_empty rfl
  · exact order.frame rfl

theorem pinnedFirst_finishLoad_iff (taken : s.finishLoad = some t) :
    PinnedFirst t ↔ keepsOrder s .finishLoad = true := by
  unfold finishLoad at taken
  split at taken
  next servers migrated at_ =>
    obtain rfl := Option.some.inj taken
    have same : isFavorite s.favoritesOnDisk.eraseDups = isFavorite s.favoritesOnDisk := by
      funext server
      simp [isFavorite]
    simp [pinnedFirst_iff, keepsOrder, at_, same]
  · cases taken

theorem pinnedFirst_saveMigrated (order : PinnedFirst s) {failed : Bool}
    (taken : s.saveMigrated failed = some t) : PinnedFirst t := by
  simp only [saveMigrated, Option.ite_none_right_eq_some, Option.some.injEq] at taken
  obtain ⟨-, rfl⟩ := taken
  split
  · exact pinnedFirst_of_empty rfl
  · exact order.frame rfl

theorem pinnedFirst_toggleFavorite (s : ServerListNotifier) (serverId : String) :
    PinnedFirst (s.toggleFavorite serverId) := ⟨s.state.servers, rfl⟩

theorem pinnedFirst_move (order : PinnedFirst s) (serverId : String) (direction : Direction) :
    PinnedFirst (s.move serverId direction.delta) := by
  have moved := moves_moveServer order serverId direction
  rw [pinnedFirst_iff, grouped_iff]
  exact moved.favoritesFirst

theorem pinnedFirst_remove (order : PinnedFirst s) (serverId : String) :
    PinnedFirst (s.resume (.remove serverId)) := by
  rw [pinnedFirst_iff] at order ⊢
  exact List.Pairwise.filter _ order

/-- Clearing the passwords leaves every id in its place. -/
theorem pinnedFirst_eraseSecrets (order : PinnedFirst s) (rest : List Server) :
    PinnedFirst (s.resume (.eraseSecrets rest)) := by
  cases rest with
  | nil =>
    rw [pinnedFirst_iff] at order ⊢
    exact List.pairwise_map.mpr order
  | cons server rest => exact order.frame rfl

theorem pinnedFirst_add_iff (order : PinnedFirst s) (server : Server) :
    PinnedFirst (s.resume (.add server)) ↔ (!isFavorite s.state.favoriteIds server ||
      s.state.servers.all (isFavorite s.state.favoriteIds)) = true := by
  have appended := grouped_append_singleton_iff (a := server) (pinnedFirst_iff.mp order)
  refine pinnedFirst_iff.trans (appended.trans ?_)
  simp [imp_iff_not_or]

theorem pinnedFirst_update_iff (order : PinnedFirst s) (server : Server) (idx : Nat) :
    PinnedFirst (s.resume (.update server idx)) ↔ (decide (s.state.servers.length ≤ idx) ||
      if isFavorite s.state.favoriteIds server then
        decide (idx ≤ s.state.servers.countP (isFavorite s.state.favoriteIds))
      else decide (s.state.servers.countP (isFavorite s.state.favoriteIds) ≤ idx + 1)) = true := by
  by_cases bound : idx < s.state.servers.length
  · have placed := grouped_set_iff (a := server) (pinnedFirst_iff.mp order) bound
    have updated : s.resume (.update server idx) =
        ((s.saveServerPasswords server).setServers (s.state.servers.set idx server)).wait .save :=
      if_pos bound
    rw [pinnedFirst_iff, updated]
    refine placed.trans ?_
    split <;> simp [Nat.not_le.mpr bound]
  · have thrown : s.resume (.update server idx) = s.saveServerPasswords server := if_neg bound
    have same : PinnedFirst (s.saveServerPasswords server) := order.frame rfl
    simp [thrown, same, Nat.le_of_not_lt bound]

theorem pinnedFirst_resumeAt_iff (order : PinnedFirst s) {i : Nat} {failed : Bool}
    (taken : s.resumeAt i failed = some t) :
    PinnedFirst t ↔ keepsOrder s (.resume i failed) = true := by
  obtain ⟨task, at_, rfl⟩ := Option.map_eq_some_iff.mp taken
  have order' : PinnedFirst { s with tasks := s.tasks.eraseIdx i } := order.frame rfl
  dsimp only
  split
  next fails =>
    have ended : PinnedFirst ({ s with tasks := s.tasks.eraseIdx i }.failTask task) := by
      unfold failTask
      split <;> exact order.frame rfl
    simp [keepsOrder, fails, ended]
  next goesOn =>
    simp only [keepsOrder, goesOn, Bool.false_or, at_]
    cases task with
    | add server => exact pinnedFirst_add_iff order' server
    | update server idx => exact pinnedFirst_update_iff order' server idx
    | remove serverId => exact iff_of_true (pinnedFirst_remove order' serverId) rfl
    | eraseSecrets rest => exact iff_of_true (pinnedFirst_eraseSecrets order' rest) rfl
    | saveFavorites => exact iff_of_true (order'.frame rfl) rfl
    | save => exact iff_of_true (order'.frame rfl) rfl

theorem pinnedFirst_step_iff {action : Action} (order : PinnedFirst s)
    (taken : s.step action = some t) :
    PinnedFirst t ↔ keepsOrder s action = true := by
  cases action with
  | beginLoad =>
    simp only [step, beginLoad, Option.ite_none_right_eq_some, Option.some.injEq] at taken
    obtain ⟨-, rfl⟩ := taken
    exact iff_of_true (order.frame rfl) rfl
  | loadEntry failed => exact iff_of_true (pinnedFirst_loadEntry order taken) rfl
  | finishLoad => exact pinnedFirst_finishLoad_iff taken
  | saveMigrated failed => exact iff_of_true (pinnedFirst_saveMigrated order taken) rfl
  | addServer server =>
    obtain rfl := Option.some.inj taken
    exact iff_of_true (order.frame rfl) rfl
  | updateServer server =>
    obtain rfl := Option.some.inj taken
    refine iff_of_true (order.frame ?_) rfl
    unfold updateServer
    split <;> rfl
  | removeServer serverId =>
    obtain rfl := Option.some.inj taken
    exact iff_of_true (order.frame rfl) rfl
  | eraseAllSecrets =>
    obtain rfl := Option.some.inj taken
    exact iff_of_true (order.frame rfl) rfl
  | toggleFavorite serverId =>
    obtain rfl := Option.some.inj taken
    exact iff_of_true (pinnedFirst_toggleFavorite s serverId) rfl
  | moveUp serverId =>
    obtain rfl := Option.some.inj taken
    exact iff_of_true (pinnedFirst_move order serverId .up) rfl
  | moveDown serverId =>
    obtain rfl := Option.some.inj taken
    exact iff_of_true (pinnedFirst_move order serverId .down) rfl
  | resume i failed => exact pinnedFirst_resumeAt_iff order taken
  | restart =>
    obtain rfl := Option.some.inj taken
    exact iff_of_true (pinnedFirst_of_empty rfl) rfl

end Operations

/-- A move does what it says on every list in the form, and the list stays in the form exactly if
every other operation meets the condition. -/
theorem manual_order_iff (s₀ : ServerListNotifier) (order : PinnedFirst s₀) (actions : List Action)
    (s : ServerListNotifier) (run : Run step anyStep s₀ actions s) :
    (∀ servers favoriteIds serverId direction, Sorted servers favoriteIds →
      MovesByOne servers favoriteIds serverId direction
        (moveServer servers favoriteIds serverId direction.delta)) ∧
    ((∀ before t, before <+: actions → Run step anyStep s₀ before t → PinnedFirst t) ↔
      Run step (fun t action => keepsOrder t action = true) s₀ actions s) := by
  refine ⟨fun _ _ serverId direction sorted => moves_moveServer sorted serverId direction, ?_⟩
  refine run.always_iff (fun _ => True) trivial order (fun _ _ _ _ _ => trivial) ?_
  exact fun _ _ _ _ order taken => pinnedFirst_step_iff order taken

def plainServer (id : String) : Server := ⟨id, "Server", "host" ++ id, "nick", none, none, none⟩

/-- An app with two bookmarks, before it has read them. -/
def twoBookmarks : ServerListNotifier :=
  build [.bookmark (plainServer "1").toJson, .bookmark (plainServer "2").toJson] []
    fun _ => none

/-- The second bookmark is pinned. -/
def secondPinned : List Action :=
  [.beginLoad, .loadEntry false, .loadEntry false, .finishLoad, .toggleFavorite "2"]

/-- A third one is added and moved, the first is edited, and the third is removed. -/
def editedList : List Action :=
  secondPinned ++ [.addServer (plainServer "3"), .resume 1 false, .moveUp "3",
    .updateServer (plainServer "1"), .resume 3 false, .moveDown "2", .removeServer "3",
    .resume 5 false]

theorem order_after_edits : ∃ s, Run step anyStep twoBookmarks editedList s ∧
    idsOf s.state.servers = ["2", "1"] ∧
    (∀ before t, before <+: editedList → Run step anyStep twoBookmarks before t →
      PinnedFirst t) := by
  obtain ⟨s, run, shown⟩ := reaches_of_guarded keepsOrder (show
    (exec (guarded keepsOrder step) twoBookmarks editedList).any (fun s =>
      idsOf s.state.servers == ["2", "1"]) = true by decide +kernel)
  have plain : Run step anyStep twoBookmarks editedList s := run.weaken fun _ _ _ => trivial
  have order : PinnedFirst twoBookmarks := pinnedFirst_of_empty rfl
  have always := (manual_order_iff twoBookmarks order editedList s plain).2.mpr run
  exact ⟨s, plain, beq_iff_eq.mp shown, always⟩

/-- The pinned bookmark is removed, and the next one gets its id. -/
theorem pinned_id_given_out_again : ∃ s t, Run step anyStep twoBookmarks
      (secondPinned ++ [.removeServer "2", .resume 1 false, .addServer (plainServer "2")]) s ∧
    PinnedFirst s ∧ "2" ∉ idsOf s.state.servers ∧ s.tasks[2]? = some (.add (plainServer "2")) ∧
    s.step (.resume 2 false) = some t ∧ ¬PinnedFirst t := by
  obtain ⟨s, run, shown⟩ := reaches_of_exec anyStep (fun _ _ _ => trivial) (show
    (exec step twoBookmarks (secondPinned ++ [.removeServer "2", .resume 1 false,
      .addServer (plainServer "2")])).any (fun s =>
        (s.state.servers, s.state.favoriteIds, s.tasks[2]?) ==
          ([plainServer "1"], ["2"], some (.add (plainServer "2")))) = true by decide +kernel)
  simp only [beq_iff_eq, Prod.mk.injEq] at shown
  obtain ⟨servers, favoriteIds, waits⟩ := shown
  have order : PinnedFirst s := by
    rw [pinnedFirst_iff, servers]
    exact List.pairwise_singleton _ _
  obtain ⟨t, taken⟩ : ∃ t, s.step (.resume 2 false) = some t :=
    ⟨_, congrArg (Option.map _) waits⟩
  refine ⟨s, t, run, order, ?_, waits, taken, fun kept => ?_⟩
  · rw [servers]
    decide +kernel
  · have met := (pinnedFirst_step_iff order taken).mp kept
    simp only [keepsOrder, waits, servers, favoriteIds] at met
    revert met
    decide +kernel

end Nek0.Guarantees
