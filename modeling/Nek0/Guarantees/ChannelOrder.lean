import Nek0.Source.ChannelTree

/-!
# The order of the channel tree

A channel names the sibling directly above it, and the tree sorts siblings by that number. So it
shows the order of the server exactly if in every chain the numbers increase, and if no two
parents have one number in 32 bits.
-/

namespace Nek0.Guarantees

open Relation Nek0.Library Nek0.Source Nek0.Source.ChannelTree

/-- Each channel names the one directly before it, the first one what is above it. -/
def Linked : UInt64 → List BookChannel → Prop
  | _, [] => True
  | above, c :: rest => c.order = above ∧ Linked c.id rest

/-- The channels of a server, with the chains of siblings. The root has the id 0, and the first of
a chain names 0. -/
structure ServerChannels where
  channels : List BookChannel
  chain : UInt64 → List BookChannel
  ids : (channels.map (·.id)).Nodup
  inside : ∀ c ∈ channels, c.id ≠ 0
  siblings : ∀ p, (chain p).Perm (channels.filter (·.parent = p))
  linked : ∀ p, Linked 0 (chain p)

namespace ServerChannels

variable (s : ServerChannels)

/-- The root and the channels below it. -/
inductive Reached : UInt64 → Prop where
  | root : Reached 0
  | child {c : BookChannel} (parent : Reached c.parent) (listed : c ∈ s.channels) : Reached c.id

theorem mem_chain {p : UInt64} {c : BookChannel} :
    c ∈ s.chain p ↔ c ∈ s.channels ∧ c.parent = p := by
  rw [(s.siblings p).mem_iff, List.mem_filter, decide_eq_true_eq]

/-- The tree of the server, all of it open. -/
def tree : Forest UInt64 BookChannel where
  children := s.chain
  parent := BookChannel.parent
  key := BookChannel.id
  descends _ := true
  parent_eq listed := ((s.mem_chain).mp listed).2

variable {s} {p : UInt64}

theorem shows_iff : s.tree.Shows 0 p ↔ s.Reached p := by
  constructor
  · intro shown
    induction shown with
    | refl => exact .root
    | tail _ link ih =>
      obtain ⟨c, child, _, rfl⟩ := link
      obtain ⟨listed, rfl⟩ := s.mem_chain.mp child
      exact .child ih listed
  · intro reached
    induction reached with
    | root => exact .refl
    | child _ listed ih => exact ReflTransGen.tail ih ⟨_, s.mem_chain.mpr ⟨listed, rfl⟩, rfl, rfl⟩

variable (s) in
theorem tree_tree : s.tree.Tree 0 where
  siblings q _ := by
    refine ((s.siblings q).map BookChannel.id).nodup_iff.mpr ?_
    exact s.ids.sublist (List.filter_sublist.map BookChannel.id)
  parents q r a b _ _ child child' same := by
    obtain ⟨listed, rfl⟩ := s.mem_chain.mp child
    obtain ⟨listed', rfl⟩ := s.mem_chain.mp child'
    exact congrArg _ (List.inj_on_of_nodup_map s.ids listed listed' same)
  root q _ c child _ := s.inside c (s.mem_chain.mp child).1

theorem finite_reached : {p | s.tree.Shows 0 p}.Finite := by
  refine (((s.channels.map (·.id)).toFinset ∪ {0}).finite_toSet).subset ?_
  intro p shown
  rcases shows_iff.mp shown with _ | ⟨_, listed⟩
  · simp
  · simpa using .inr ⟨_, listed, rfl⟩

end ServerChannels

/-- The widget without favourites, sorted as on the server. -/
def plainTree (listing : List BookChannel) (expanded : Finset UInt32) : ChannelTree where
  channels := refreshFromBook listing
  favoriteChannelIds := ∅
  sortAlphabetically := false
  expanded

/-- Siblings are shown in the order of their chain, and the rows are the channels below the root,
each once, every one directly before those below it. -/
structure ShowsServerOrder (s : ServerChannels) {byName : Comparator String} {t : ChannelTree}
    (sorted : ListSort (order byName t)) : Prop where
  siblings : ∀ p, s.Reached p →
    sorted.sort (t.byParent p.toUInt32) = (s.chain p).map tsChannel
  rows : ∃ calls rows, s.tree.Visited (s.chain 0) 0 rows ∧
    flatten sorted calls = some (rows.map fun row => (tsChannel row.1, row.2)) ∧
    (rows.map Prod.fst).Nodup ∧
    ∀ c, c ∈ rows.map Prod.fst ↔ c ∈ s.channels ∧ s.Reached c.parent

/-- In whatever order the channels come, the fully expanded tree shows them as the server has
them. -/
def InServerOrder (s : ServerChannels) : Prop :=
  ∀ (byName : Comparator String) (listing : List BookChannel) (expanded : Finset UInt32)
    (sorted : ListSort (order byName (plainTree listing expanded))),
    listing.Perm s.channels → (∀ c ∈ listing, (tsChannel c).id ∈ expanded) →
    ShowsServerOrder s sorted

/-- No other parent has that number in 32 bits, and along the chain the numbers of the channels
above increase, channels that are the same to the app aside. -/
structure KeepsOrder (s : ServerChannels) (p : UInt64) : Prop where
  alone : ∀ c ∈ s.channels, c.parent.toUInt32 = p.toUInt32 → c.parent = p
  increasing : (s.chain p).Pairwise fun a b =>
    tsChannel a = tsChannel b ∨ (tsChannel a).order < (tsChannel b).order

section Siblings

variable {s : ServerChannels} {byName : Comparator String} {listing : List BookChannel}
  {expanded : Finset UInt32} {p : UInt64}

theorem byParent_plainTree (p : UInt32) : (plainTree listing expanded).byParent p =
    (listing.filter (·.parent.toUInt32 = p)).map tsChannel := by
  rw [byParent, plainTree, refreshFromBook, List.filter_map]
  congr 2
  funext c
  simp [tsChannel_parentId]

theorem before_plainTree {a b : TsChannel} :
    (order byName (plainTree listing expanded)).Before a b ↔ a = b ∨ a.order < b.order := by
  simp only [Comparator.Before, order, compareChannels, plainTree, compareTo]
  grind

theorem perm_byParent_iff (perm : listing.Perm s.channels) :
    ((s.chain p).map tsChannel).Perm ((plainTree listing expanded).byParent p.toUInt32) ↔
      ∀ c ∈ s.channels, c.parent.toUInt32 = p.toUInt32 → c.parent = p := by
  have chain := ((s.siblings p).map tsChannel).trans
    ((perm.symm.filter (·.parent = p)).map tsChannel)
  rw [byParent_plainTree]
  constructor
  · intro same c listed together
    have part : (listing.filter (·.parent = p)).Sublist
        (listing.filter (·.parent.toUInt32 = p.toUInt32)) := by
      refine List.monotone_filter_right listing fun c at_ => ?_
      simp only [decide_eq_true_eq] at at_ ⊢
      rw [at_]
    have equal := part.eq_of_length (by simpa using (chain.symm.trans same).length_eq)
    have member : c ∈ listing.filter (·.parent.toUInt32 = p.toUInt32) :=
      List.mem_filter.mpr ⟨perm.mem_iff.mpr listed, by simpa using together⟩
    rw [← equal] at member
    simpa using (List.mem_filter.mp member).2
  · intro alone
    have equal : listing.filter (·.parent.toUInt32 = p.toUInt32) =
        listing.filter (·.parent = p) := by
      refine List.filter_congr fun c listed => ?_
      refine decide_eq_decide.mpr ⟨alone c (perm.mem_iff.mp listed), fun at_ => ?_⟩
      rw [at_]
    rw [equal]
    exact chain

theorem keepsOrder_iff (perm : listing.Perm s.channels) : KeepsOrder s p ↔
    ∀ sorted : ListSort (order byName (plainTree listing expanded)),
      sorted.sort ((plainTree listing expanded).byParent p.toUInt32) =
        (s.chain p).map tsChannel := by
  rw [ListSort.forall_sort_eq_iff, perm_byParent_iff perm, List.pairwise_map]
  simp only [before_plainTree]
  exact ⟨fun keeps => ⟨keeps.alone, keeps.increasing⟩, fun keeps => ⟨keeps.1, keeps.2⟩⟩

end Siblings

/-- The tree shows the channels in the order of the server, whatever the names and the sort, exactly
if every reached chain of siblings keeps its order. -/
theorem shown_in_server_order_iff (s : ServerChannels) :
    InServerOrder s ↔ ∀ p, s.Reached p → KeepsOrder s p := by
  constructor
  · intro shown p reached
    let expanded := (s.channels.map fun c => (tsChannel c).id).toFinset
    let byName : Comparator String := ⟨fun _ _ => 0, by simp, by simp⟩
    refine (keepsOrder_iff (.refl _)).mpr
      fun (sorted : ListSort (order byName (plainTree s.channels expanded))) => ?_
    refine (shown byName s.channels expanded sorted (.refl _) ?_).siblings p reached
    exact fun c listed => List.mem_toFinset.mpr (List.mem_map_of_mem listed)
  · intro keeps byName listing expanded sorted perm opened
    have siblings : ∀ p, s.Reached p →
        sorted.sort ((plainTree listing expanded).byParent p.toUInt32) =
          (s.chain p).map tsChannel :=
      fun p reached => (keepsOrder_iff perm).mp (keeps p reached) sorted
    refine ⟨siblings, ?_⟩
    have tree := s.tree_tree
    obtain ⟨rows, visited⟩ : ∃ rows, s.tree.Visited (s.chain 0) 0 rows :=
      tree.exists_visited ServerChannels.finite_reached
    have once := tree.nodup .refl visited (.refl _)
    have shown : (forest sorted).Visited ((forest sorted).children 0) 0
        (rows.map fun row => (tsChannel row.1, row.2)) := by
      rw [show (forest sorted).children 0 = (s.chain 0).map tsChannel from siblings 0 .root]
      refine visited.translate (f := UInt64.toUInt32) (fun _ => rfl) ?_ ?_ .refl (.refl _)
      · exact fun q shown => siblings q (ServerChannels.shows_iff.mp shown)
      · intro q _ c child
        have listed := perm.mem_iff.mpr (s.mem_chain.mp child).1
        exact decide_eq_true (opened c listed)
    obtain ⟨calls, returned⟩ := flatten_returns_iff.mpr shown
    refine ⟨calls, rows, visited, returned, ?_, fun c => ?_⟩
    · exact List.Nodup.of_map BookChannel.id (by rwa [List.map_map])
    · rw [visited.mem_children_iff]
      constructor
      · rintro ⟨q, shown, child⟩
        obtain ⟨listed, rfl⟩ := s.mem_chain.mp child
        exact ⟨listed, ServerChannels.shows_iff.mp shown⟩
      · rintro ⟨listed, reached⟩
        exact ⟨c.parent, ServerChannels.shows_iff.mpr reached, s.mem_chain.mpr ⟨listed, rfl⟩⟩

/-- "Games" has been moved to between "Lobby" and "Music". -/
def movedChannels : ServerChannels where
  channels := [⟨5, "Lobby", 0, 0⟩, ⟨2, "Games", 0, 5⟩, ⟨9, "Music", 0, 2⟩]
  chain p := if p = 0 then [⟨5, "Lobby", 0, 0⟩, ⟨2, "Games", 0, 5⟩, ⟨9, "Music", 0, 2⟩] else []
  ids := by decide
  inside := by decide
  siblings p := by
    by_cases root : p = 0
    · subst root
      decide
    · have elsewhere : ¬ 0 = p := fun same => root same.symm
      simp [root, elsewhere]
  linked p := by
    split
    · exact ⟨rfl, rfl, rfl, trivial⟩
    · trivial

theorem moved_channels_misplaced :
    (∀ (byName : Comparator String) (expanded : Finset UInt32)
      (sorted : ListSort (order byName (plainTree movedChannels.channels expanded))),
      (sorted.sort ((plainTree movedChannels.channels expanded).byParent 0)).map TsChannel.name =
        ["Lobby", "Music", "Games"]) ∧ ¬ InServerOrder movedChannels := by
  have misplaced : ∀ (byName : Comparator String) (expanded : Finset UInt32)
      (sorted : ListSort (order byName (plainTree movedChannels.channels expanded))),
      (sorted.sort ((plainTree movedChannels.channels expanded).byParent 0)).map TsChannel.name =
        ["Lobby", "Music", "Games"] := by
    intro byName expanded sorted
    have sent : sorted.sort ((plainTree movedChannels.channels expanded).byParent 0) =
        [⟨5, "Lobby", 0, 0⟩, ⟨9, "Music", 0, 2⟩, ⟨2, "Games", 0, 5⟩] := by
      apply sorted.sort_eq
      · rw [byParent_plainTree]
        decide
      · refine List.Pairwise.imp before_plainTree.mpr ?_
        decide
    rw [sent]
    rfl
  refine ⟨misplaced, fun shown => ?_⟩
  let byName : Comparator String := ⟨fun _ _ => 0, by simp, by simp⟩
  have all := shown byName movedChannels.channels {5, 2, 9} (ListSort.stable _) (.refl _)
    (by decide)
  have placed := misplaced byName {5, 2, 9} (ListSort.stable _)
  rw [show (0 : UInt32) = (0 : UInt64).toUInt32 from rfl, all.siblings 0 .root] at placed
  exact absurd placed (by decide)

end Nek0.Guarantees
