import Nek0.Source.ChannelTree

/-!
# Walks over the channels

Nothing in the channels keeps a walk from coming back to a channel: the paths follow the parents of
the first channel with an id, and the rows follow the expanded channels down. Both end exactly if
the links that they follow make no circle, and the rows name every channel once exactly if, as far
as they are shown, the links are a tree.
-/

namespace Nek0.Guarantees

open Relation Nek0.Library Nek0.Source Nek0.Source.ChannelTree

/-- The paths of all channels and the rows come to an end, and no row names a channel again. -/
structure WalksEnd {byName : Comparator String} {t : ChannelTree}
    (sorted : ListSort (order byName t)) : Prop where
  search : ∀ id, ∃ calls path, channelPath t.channels calls id = some path
  tree : ∀ name parentId, ∃ calls path, pathOf t.channels calls name parentId = some path
  rows : ∃ calls rows, flatten sorted calls = some rows ∧ (rows.map fun row => row.1.id).Nodup

/-- The parents below which rows are shown. -/
inductive ShownBelow (t : ChannelTree) : UInt32 → Prop where
  | top : ShownBelow t 0
  | inside {ch : TsChannel} (shown : ShownBelow t ch.parentId) (listed : ch ∈ t.channels)
      (expanded : ch.id ∈ t.expanded) : ShownBelow t ch.id

/-- No parents above a channel make a circle, no two shown channels have one id, and no expanded
one has the id of the root. -/
structure Walkable (t : ChannelTree) : Prop where
  upward : ∀ id, ¬ TransGen (Above t.channels) id id
  apart : t.channels.Pairwise fun a b =>
    ShownBelow t a.parentId → ShownBelow t b.parentId → a.id ≠ b.id
  root : ∀ ch ∈ t.channels, ShownBelow t ch.parentId → ch.id ∈ t.expanded → ch.id ≠ 0

theorem paths_end_iff (channels : List TsChannel) :
    (∀ id, Acc (Function.swap (Above channels)) id) ↔ ∀ id, ¬ TransGen (Above channels) id id := by
  constructor
  · exact fun ends id => not_transGen_self_of_acc (ends id)
  · exact fun acyclic id => (acc_iff_no_cycle (finite_above id)).mpr fun above _ => acyclic above

section Rows

variable {byName : Comparator String} {t : ChannelTree} {sorted : ListSort (order byName t)}
  {parentId : UInt32}

theorem mem_children {ch : TsChannel} :
    ch ∈ (forest sorted).children parentId ↔ ch ∈ t.channels ∧ ch.parentId = parentId := by
  have listed := (sorted.perm (t.byParent parentId)).mem_iff (a := ch)
  rw [byParent, List.mem_filter, decide_eq_true_eq] at listed
  exact listed

theorem descends_iff {ch : TsChannel} :
    (forest sorted).descends ch = true ↔ ch.id ∈ t.expanded := decide_eq_true_iff

theorem shows_iff : (forest sorted).Shows 0 parentId ↔ ShownBelow t parentId := by
  constructor
  · intro shown
    induction shown with
    | refl => exact .top
    | tail _ link ih =>
      obtain ⟨ch, child, opened, rfl⟩ := link
      obtain ⟨listed, rfl⟩ := mem_children.mp child
      exact .inside ih listed (descends_iff.mp opened)
  · intro shown
    induction shown with
    | top => exact .refl
    | inside _ listed expanded ih =>
      exact ReflTransGen.tail ih
        ⟨_, mem_children.mpr ⟨listed, rfl⟩, descends_iff.mpr expanded, rfl⟩

theorem finite_shown : {parentId | (forest sorted).Shows 0 parentId}.Finite := by
  refine (((t.channels.map (·.id)).toFinset ∪ {0}).finite_toSet).subset ?_
  intro parentId shown
  rcases shows_iff.mp shown with _ | ⟨_, listed, _⟩
  · simp
  · simpa using .inr ⟨_, listed, rfl⟩

theorem children_nodup_iff :
    (((forest sorted).children parentId).map TsChannel.id).Nodup ↔
      ((t.byParent parentId).map TsChannel.id).Nodup :=
  ((sorted.perm _).map _).nodup_iff

theorem tree_iff : (forest sorted).Tree 0 ↔
    (t.channels.Pairwise fun a b =>
      ShownBelow t a.parentId → ShownBelow t b.parentId → a.id ≠ b.id) ∧
    ∀ ch ∈ t.channels, ShownBelow t ch.parentId → ch.id ∈ t.expanded → ch.id ≠ 0 := by
  constructor
  · intro tree
    refine ⟨List.pairwise_iff_forall_sublist.mpr ?_, ?_⟩
    · intro a b both shown shown' same
      have listed : a ∈ t.channels := both.subset (by simp)
      have listed' : b ∈ t.channels := both.subset (by simp)
      have together := tree.parents _ _ a b (shows_iff.mpr shown) (shows_iff.mpr shown')
        (mem_children.mpr ⟨listed, rfl⟩) (mem_children.mpr ⟨listed', rfl⟩) same
      have siblings := children_nodup_iff.mp (tree.siblings _ (shows_iff.mpr shown))
      have both' : [a, b].Sublist (t.byParent a.parentId) := by
        have kept := both.filter fun ch => decide (ch.parentId = a.parentId)
        simpa [byParent, together] using kept
      have apart := siblings.sublist (both'.map TsChannel.id)
      simp [same] at apart
    · intro ch listed shown expanded
      exact tree.root _ (shows_iff.mpr shown) ch (mem_children.mpr ⟨listed, rfl⟩)
        (descends_iff.mpr expanded)
  · rintro ⟨apart, root⟩
    have apart' : ∀ {a b : TsChannel}, [a, b].Sublist t.channels → ShownBelow t a.parentId →
        ShownBelow t b.parentId → a.id ≠ b.id := List.pairwise_iff_forall_sublist.mp apart
    refine ⟨?_, ?_, ?_⟩
    · intro parentId shown
      refine children_nodup_iff.mpr (List.pairwise_map.mpr ?_)
      refine List.pairwise_iff_forall_sublist.mpr fun {a b} both => ?_
      have listed : a ∈ t.byParent parentId := both.subset (by simp)
      have listed' : b ∈ t.byParent parentId := both.subset (by simp)
      simp only [byParent, List.mem_filter, decide_eq_true_eq] at listed listed'
      refine apart' (both.trans List.filter_sublist) ?_ ?_
      · exact listed.2 ▸ shows_iff.mp shown
      · exact listed'.2 ▸ shows_iff.mp shown
    · intro q r a b shown shown' child child' same
      obtain ⟨listed, rfl⟩ := mem_children.mp child
      obtain ⟨listed', rfl⟩ := mem_children.mp child'
      by_contra different
      have distinct : a ≠ b := fun equal => different (congrArg _ equal)
      have symmetric : Std.Symm fun a b : TsChannel =>
          ShownBelow t a.parentId → ShownBelow t b.parentId → a.id ≠ b.id :=
        ⟨fun _ _ apart shown shown' => (apart shown' shown).symm⟩
      exact apart.forall listed listed' distinct (shows_iff.mp shown) (shows_iff.mp shown') same
    · intro parentId shown ch child opened
      obtain ⟨listed, rfl⟩ := mem_children.mp child
      exact root ch listed (shows_iff.mp shown) (descends_iff.mp opened)

end Rows

/-- The searches for paths and the flattening of the tree end, and no row comes twice, if and only
if no id is above itself and the shown channels have ids of their own. -/
theorem channel_walks_end_iff (byName : Comparator String) (t : ChannelTree)
    (sorted : ListSort (order byName t)) : WalksEnd sorted ↔ Walkable t := by
  have rows_iff : (∃ calls rows, flatten sorted calls = some rows ∧
      (rows.map fun row => row.1.id).Nodup) ↔ (forest sorted).Tree 0 := by
    rw [← Forest.lists_once_iff finite_shown 0]
    simp only [← flatten_returns_iff]
    constructor
    · rintro ⟨calls, rows, returned, once⟩
      exact ⟨rows, ⟨calls, returned⟩, once⟩
    · rintro ⟨rows, ⟨calls, returned⟩, once⟩
      exact ⟨calls, rows, returned, once⟩
  constructor
  · rintro ⟨search, _, rows⟩
    have upward := (paths_end_iff t.channels).mp fun id =>
      (channelPath_returns_iff id).mp (search id)
    obtain ⟨apart, root⟩ := tree_iff.mp (rows_iff.mp rows)
    exact ⟨upward, apart, root⟩
  · rintro ⟨upward, apart, root⟩
    have ends := (paths_end_iff t.channels).mpr upward
    refine ⟨fun id => ?_, fun name parentId => ?_, ?_⟩
    · exact (channelPath_returns_iff id).mpr (ends id)
    · exact (pathOf_returns_iff name parentId).mpr (ends parentId)
    · exact rows_iff.mpr (tree_iff.mpr ⟨apart, root⟩)

/-- On the server "Games" is below "Lobby"; in 32 bits both have the id 5. -/
def truncatedBook : List BookChannel :=
  [⟨0x100000005, "Games", 5, 0⟩, ⟨5, "Lobby", 0, 0⟩]

/-- Its channels, with "Lobby" expanded. -/
def truncatedTree : ChannelTree where
  channels := refreshFromBook truncatedBook
  favoriteChannelIds := ∅
  sortAlphabetically := false
  expanded := {5}

example : refreshFromBook truncatedBook = [⟨5, "Games", 5, 0⟩, ⟨5, "Lobby", 0, 0⟩] := by decide

theorem truncated_walks_run_on :
    (∀ calls, channelPath truncatedTree.channels calls 5 = none) ∧
      ∀ (byName : Comparator String) (sorted : ListSort (order byName truncatedTree)),
        (∀ calls, flatten sorted calls = none) ∧ ¬ WalksEnd sorted := by
  have circle : Above truncatedTree.channels 5 5 := ⟨by decide, ⟨5, "Games", 5, 0⟩, rfl, rfl⟩
  have no_path : ∀ calls, channelPath truncatedTree.channels calls 5 = none := by
    intro calls
    refine Option.eq_none_iff_forall_ne_some.mpr fun path returned => ?_
    exact not_transGen_self_of_acc ((channelPath_returns_iff 5).mp ⟨calls, path, returned⟩)
      (.single circle)
  refine ⟨no_path, fun byName sorted => ⟨fun calls => ?_, fun ends => ?_⟩⟩
  · have lobby : ShownBelow truncatedTree (⟨5, "Lobby", 0, 0⟩ : TsChannel).id :=
      .inside .top (by decide) (by decide)
    have link : (forest sorted).Link 5 5 :=
      ⟨⟨5, "Games", 5, 0⟩, mem_children.mpr ⟨by decide, rfl⟩, descends_iff.mpr (by decide), rfl⟩
    refine Option.eq_none_iff_forall_ne_some.mpr fun rows returned => ?_
    have ends := Forest.exists_visited_iff.mp ⟨rows, flatten_returns_iff.mp ⟨calls, returned⟩⟩
    exact not_transGen_self_of_acc (acc_of_reachable ends (shows_iff.mpr lobby)) (.single link)
  · obtain ⟨calls, path, returned⟩ := ends.search 5
    simp [no_path calls] at returned

end Nek0.Guarantees
