import Mathlib.Data.Fintype.Card
import Mathlib.Data.List.Nodup
import Mathlib.Data.Set.Finite.Basic
import Mathlib.Logic.Relation

/-!
# Listing a forest depth first

A forest gives the children of every position and says into which of them a listing descends. What
a recursive listing returns is an inductive relation, so a listing that never returns has no rows.
Whether it returns, what it lists and whether anything is listed twice are read off the links
alone.
-/

namespace Nek0.Library

open Relation

section Cycles

variable {α : Type*} {r : α → α → Prop} {a : α}

theorem not_transGen_self_of_acc (ends : Acc (Function.swap r) a) : ¬ TransGen r a a := by
  intro cycle
  have ends' := ends.transGen
  have cycle' : TransGen (Function.swap r) a a := transGen_swap.mpr cycle
  clear ends cycle
  induction ends' with
  | intro a _ ih => exact ih a cycle' cycle'

theorem acc_of_reachable (ends : Acc (Function.swap r) a) {b : α} (path : ReflTransGen r a b) :
    Acc (Function.swap r) b := by
  induction path with
  | refl => exact ends
  | tail _ link ih => exact ih.inv link

/-- Where finitely many points are reachable, following the links ends unless a cycle is. -/
theorem acc_iff_no_cycle (finite : {b | ReflTransGen r a b}.Finite) :
    Acc (Function.swap r) a ↔ ∀ b, ReflTransGen r a b → ¬ TransGen r b b := by
  constructor
  · intro ends b path
    exact not_transGen_self_of_acc (acc_of_reachable ends path)
  · intro acyclic
    have := finite.to_subtype
    let later (x y : {b | ReflTransGen r a b}) : Prop := TransGen r y.1 x.1
    have trans : IsTrans _ later := ⟨fun _ _ _ first second => second.trans first⟩
    have irrefl : Std.Irrefl later := ⟨fun x => acyclic x.1 x.2⟩
    have wellFounded := Finite.wellFounded_of_trans_of_irrefl later
    have ends : ∀ x : {b | ReflTransGen r a b}, Acc (Function.swap r) x.1 := by
      intro x
      induction x using wellFounded.induction with
      | _ x ih => exact .intro _ fun y link => ih ⟨y, x.2.tail link⟩ (.single link)
    exact ends ⟨a, .refl⟩

end Cycles

structure Forest (ι α : Type*) where
  children : ι → List α
  parent : α → ι
  key : α → ι
  descends : α → Bool
  parent_eq : ∀ {p a}, a ∈ children p → parent a = p

namespace Forest

variable {ι α : Type*} (forest : Forest ι α)

/-- The rows that listing these siblings at that depth returns. -/
inductive Visited : List α → Nat → List (α × Nat) → Prop where
  | nil (depth : Nat) : Visited [] depth []
  | stay {a : α} {rest : List α} {depth : Nat} {rows : List (α × Nat)}
      (closed : forest.descends a = false) (after : Visited rest depth rows) :
      Visited (a :: rest) depth ((a, depth) :: rows)
  | descend {a : α} {rest : List α} {depth : Nat} {below rows : List (α × Nat)}
      (opened : forest.descends a = true)
      (inside : Visited (forest.children (forest.key a)) (depth + 1) below)
      (after : Visited rest depth rows) :
      Visited (a :: rest) depth ((a, depth) :: (below ++ rows))

def Link (p q : ι) : Prop :=
  ∃ a ∈ forest.children p, forest.descends a = true ∧ forest.key a = q

/-- A listing that starts at `p` comes to `q`. -/
def Shows (p q : ι) : Prop := ReflTransGen forest.Link p q

variable {forest} {p q : ι} {a b : α} {l : List α} {depth : Nat} {rows : List (α × Nat)}

theorem Visited.unique (visited : forest.Visited l depth rows) {rows' : List (α × Nat)}
    (visited' : forest.Visited l depth rows') : rows = rows' := by
  induction visited generalizing rows' with
  | nil => cases visited' with | nil => rfl
  | stay closed after ih =>
    cases visited' with
    | stay _ after' => rw [ih after']
    | descend opened => simp [closed] at opened
  | descend opened inside after ih ih' =>
    cases visited' with
    | stay closed => simp [closed] at opened
    | descend _ inside' after' => rw [ih inside', ih' after']

theorem exists_visited_of_inside
    (inside : ∀ a ∈ l, forest.descends a = true → ∀ depth,
      ∃ rows, forest.Visited (forest.children (forest.key a)) depth rows) :
    ∃ rows, forest.Visited l depth rows := by
  induction l with
  | nil => exact ⟨[], .nil depth⟩
  | cons a rest ih =>
    obtain ⟨rows, after⟩ := ih fun b listed => inside b (List.mem_cons_of_mem _ listed)
    cases opened : forest.descends a with
    | false => exact ⟨_, .stay opened after⟩
    | true =>
      obtain ⟨below, inside⟩ := inside a List.mem_cons_self opened (depth + 1)
      exact ⟨_, .descend opened inside after⟩

theorem Visited.acc (visited : forest.Visited l depth rows) (listed : a ∈ l)
    (opened : forest.descends a = true) : Acc (Function.swap forest.Link) (forest.key a) := by
  induction visited generalizing a with
  | nil => cases listed
  | stay closed _ ih =>
    rcases List.mem_cons.mp listed with rfl | listed
    · simp [closed] at opened
    · exact ih listed opened
  | descend _ _ _ ih ih' =>
    rcases List.mem_cons.mp listed with rfl | listed
    · refine .intro _ ?_
      rintro q ⟨b, listed, opened, rfl⟩
      exact ih listed opened
    · exact ih' listed opened

/-- A listing returns exactly if it cannot descend for ever. -/
theorem exists_visited_iff :
    (∃ rows, forest.Visited (forest.children p) depth rows) ↔
      Acc (Function.swap forest.Link) p := by
  constructor
  · rintro ⟨rows, visited⟩
    refine .intro _ ?_
    rintro q ⟨a, listed, opened, rfl⟩
    exact visited.acc listed opened
  · intro ends
    induction ends generalizing depth with
    | intro p _ ih =>
      exact exists_visited_of_inside fun a listed opened _ => ih _ ⟨a, listed, opened, rfl⟩

/-- What can be shown from a position: its children, and what can be shown from one of them. -/
theorem exists_shows_iff :
    (∃ q, forest.Shows p q ∧ a ∈ forest.children q) ↔
      a ∈ forest.children p ∨ ∃ b ∈ forest.children p, forest.descends b = true ∧
        ∃ q, forest.Shows (forest.key b) q ∧ a ∈ forest.children q := by
  constructor
  · rintro ⟨q, path, listed⟩
    rcases ReflTransGen.cases_head path with rfl | ⟨r, ⟨b, listed', opened, rfl⟩, path⟩
    · exact .inl listed
    · exact .inr ⟨b, listed', opened, q, path, listed⟩
  · rintro (listed | ⟨b, listed, opened, q, path, listed'⟩)
    · exact ⟨p, .refl, listed⟩
    · exact ⟨q, .head ⟨b, listed, opened, rfl⟩ path, listed'⟩

theorem Visited.mem_iff (visited : forest.Visited l depth rows) :
    a ∈ rows.map Prod.fst ↔ a ∈ l ∨ ∃ b ∈ l, forest.descends b = true ∧
      ∃ q, forest.Shows (forest.key b) q ∧ a ∈ forest.children q := by
  induction visited with
  | nil => simp
  | stay closed _ ih => simp [ih, closed, or_assoc]
  | descend opened _ _ ih ih' =>
    rw [← exists_shows_iff] at ih
    rw [List.map_cons, List.map_append, List.mem_cons, List.mem_append, ih, ih']
    simp only [List.mem_cons, exists_eq_or_imp, opened, true_and, or_assoc]
    exact or_congr_right or_left_comm

theorem Visited.mem_children_iff (visited : forest.Visited (forest.children p) depth rows) :
    a ∈ rows.map Prod.fst ↔ ∃ q, forest.Shows p q ∧ a ∈ forest.children q :=
  visited.mem_iff.trans exists_shows_iff.symm

variable (forest) in
/-- Below `p` the links form a tree: no two children that are shown have one key, and `p` is the
child of none of them. -/
structure Tree (p : ι) : Prop where
  siblings : ∀ q, forest.Shows p q → ((forest.children q).map forest.key).Nodup
  parents : ∀ q r a b, forest.Shows p q → forest.Shows p r → a ∈ forest.children q →
    b ∈ forest.children r → forest.key a = forest.key b → q = r
  root : ∀ q, forest.Shows p q → ∀ a ∈ forest.children q, forest.descends a = true →
    forest.key a ≠ p

namespace Tree

variable {r r' s s' t : ι}

theorem link_unique (tree : forest.Tree p) (shown : forest.Shows p q) (shown' : forest.Shows p r)
    (link : forest.Link q s) (link' : forest.Link r s) : q = r := by
  obtain ⟨a, listed, _, rfl⟩ := link
  obtain ⟨b, listed', _, same⟩ := link'
  exact tree.parents q r a b shown shown' listed listed' same.symm

theorem no_cycle (tree : forest.Tree p) (shown : forest.Shows p q) :
    ¬ TransGen forest.Link q q := by
  induction shown with
  | refl =>
    intro cycle
    obtain ⟨r, path, a, listed, opened, same⟩ := TransGen.tail'_iff.mp cycle
    exact tree.root r path a listed opened same
  | @tail q r shown link ih =>
    intro cycle
    obtain ⟨s, path, link'⟩ := TransGen.tail'_iff.mp cycle
    have shown' : forest.Shows p s := (ReflTransGen.tail shown link).trans path
    obtain rfl := tree.link_unique shown shown' link link'
    exact ih (TransGen.head' link path)

/-- Of two positions above a third one, one is above the other. -/
theorem above_total (tree : forest.Tree p) (shown : forest.Shows p q) (shown' : forest.Shows p r)
    (path : forest.Shows q s) (path' : forest.Shows r s) :
    forest.Shows q r ∨ forest.Shows r q := by
  induction path with
  | refl => exact .inr path'
  | @tail s t path link ih =>
    rcases ReflTransGen.cases_tail path' with rfl | ⟨s', path', link'⟩
    · exact .inl (path.tail link)
    · obtain rfl := tree.link_unique (ReflTransGen.trans shown path)
        (ReflTransGen.trans shown' path') link link'
      exact ih path'

/-- A child is not above its siblings or their parent. -/
theorem not_shows_parent (tree : forest.Tree p) (shown : forest.Shows p q)
    (link : forest.Link q r) : ¬ forest.Shows r q :=
  fun path => tree.no_cycle shown (TransGen.head' link path)

theorem not_shows_sibling (tree : forest.Tree p) (shown : forest.Shows p q)
    (link : forest.Link q r) (link' : forest.Link q s) (apart : r ≠ s) : ¬ forest.Shows r s := by
  intro path
  rcases ReflTransGen.cases_tail path with same | ⟨t, path, link''⟩
  · exact apart same.symm
  · have shown' : forest.Shows p t := (ReflTransGen.tail shown link).trans path
    obtain rfl := tree.link_unique shown shown' link' link''
    exact tree.not_shows_parent shown link path

/-- No key of a child is shown below the child or its siblings. -/
theorem ne_of_below (tree : forest.Tree p) (shown : forest.Shows p q)
    (listed : a ∈ forest.children q) (link : forest.Link q r) (path : forest.Shows r s)
    (listed' : b ∈ forest.children s) : forest.key a ≠ forest.key b := by
  intro same
  have shown' : forest.Shows p s := (ReflTransGen.tail shown link).trans path
  obtain rfl := tree.parents q s a b shown shown' listed listed' same
  exact tree.not_shows_parent shown link path

theorem ne_of_apart (tree : forest.Tree p) (shown : forest.Shows p q) (link : forest.Link q r)
    (link' : forest.Link q r') (apart : r ≠ r') (path : forest.Shows r s)
    (path' : forest.Shows r' s') (listed : a ∈ forest.children s)
    (listed' : b ∈ forest.children s') : forest.key a ≠ forest.key b := by
  intro same
  have shown₁ : forest.Shows p r := ReflTransGen.tail shown link
  have shown₂ : forest.Shows p r' := ReflTransGen.tail shown link'
  obtain rfl := tree.parents s s' a b (shown₁.trans path) (shown₂.trans path') listed listed' same
  rcases tree.above_total shown₁ shown₂ path path' with above | above
  · exact tree.not_shows_sibling shown link link' apart above
  · exact tree.not_shows_sibling shown link' link apart.symm above

theorem not_mem_after (tree : forest.Tree p) (shown : forest.Shows p q) {rest : List α}
    (after : forest.Visited rest depth rows) (part : (a :: rest).Sublist (forest.children q))
    (apart : forest.key a ∉ rest.map forest.key) :
    forest.key a ∉ rows.map fun row => forest.key row.1 := by
  intro member
  obtain ⟨row, member, same⟩ := List.mem_map.mp member
  rcases after.mem_iff.mp (List.mem_map_of_mem member) with
    beside | ⟨b, beside, opened, s, path, below⟩
  · exact apart (same ▸ List.mem_map_of_mem beside)
  · have beside' := part.subset (List.mem_cons_of_mem a beside)
    exact tree.ne_of_below shown (part.subset List.mem_cons_self) ⟨b, beside', opened, rfl⟩ path
      below same.symm

theorem nodup (tree : forest.Tree p) (shown : forest.Shows p q)
    (visited : forest.Visited l depth rows) (part : l.Sublist (forest.children q)) :
    (rows.map fun row => forest.key row.1).Nodup := by
  induction visited generalizing q with
  | nil => simp
  | @stay a rest depth rows closed after ih =>
    have part' := (List.sublist_cons_self a rest).trans part
    have apart := List.nodup_cons.mp ((tree.siblings q shown).sublist (part.map forest.key))
    refine List.nodup_cons.mpr ⟨?_, ih shown part'⟩
    exact tree.not_mem_after shown after part apart.1
  | @descend a rest depth below rows opened inside after ih ih' =>
    have part' := (List.sublist_cons_self a rest).trans part
    have listed : a ∈ forest.children q := part.subset List.mem_cons_self
    have link : forest.Link q (forest.key a) := ⟨a, listed, opened, rfl⟩
    have apart := List.nodup_cons.mp ((tree.siblings q shown).sublist (part.map forest.key))
    have below_key : ∀ row ∈ below, ∃ r, forest.Shows (forest.key a) r ∧
        row.1 ∈ forest.children r := fun row member =>
      inside.mem_children_iff.mp (List.mem_map_of_mem member)
    rw [List.map_cons, List.map_append, List.nodup_cons, List.nodup_append', List.mem_append]
    refine ⟨?_, ih (ReflTransGen.tail shown link) (.refl _), ih' shown part', ?_⟩
    · rintro (member | member)
      · obtain ⟨row, member, same⟩ := List.mem_map.mp member
        obtain ⟨r, path, listed'⟩ := below_key row member
        exact tree.ne_of_below shown listed link path listed' same.symm
      · exact tree.not_mem_after shown after part apart.1 member
    · intro key first second
      obtain ⟨row, member, rfl⟩ := List.mem_map.mp first
      obtain ⟨r, path, listed'⟩ := below_key row member
      obtain ⟨row', member', same⟩ := List.mem_map.mp second
      rcases after.mem_iff.mp (List.mem_map_of_mem member') with
        beside | ⟨b, beside, opened', s, path', listed''⟩
      · exact tree.ne_of_below shown (part'.subset beside) link path listed' same
      · have apart' : forest.key a ≠ forest.key b := by
          intro equal
          exact apart.1 (equal ▸ List.mem_map_of_mem beside)
        exact tree.ne_of_apart shown link ⟨b, part'.subset beside, opened', rfl⟩ apart' path path'
          listed' listed'' same.symm

theorem exists_visited (tree : forest.Tree p) (finite : {q | forest.Shows p q}.Finite) :
    ∃ rows, forest.Visited (forest.children p) depth rows :=
  exists_visited_iff.mpr ((acc_iff_no_cycle finite).mpr fun _ shown => tree.no_cycle shown)

end Tree

theorem Visited.siblings_sublist (visited : forest.Visited l depth rows) :
    l.Sublist (rows.map Prod.fst) := by
  induction visited with
  | nil => exact .slnil
  | stay _ _ ih => exact ih.cons_cons _
  | descend _ _ _ _ ih =>
    rw [List.map_cons, List.map_append]
    exact (ih.trans (List.sublist_append_right _ _)).cons_cons _

theorem Visited.below_sublist (visited : forest.Visited l depth rows) (listed : a ∈ l)
    (opened : forest.descends a = true) (shown : forest.Shows (forest.key a) q) :
    (forest.children q).Sublist (rows.map Prod.fst) := by
  induction visited generalizing a with
  | nil => cases listed
  | stay closed _ ih =>
    rcases List.mem_cons.mp listed with rfl | listed
    · simp [closed] at opened
    · exact (ih listed opened shown).cons _
  | descend _ inside _ ih ih' =>
    rw [List.map_cons, List.map_append]
    rcases List.mem_cons.mp listed with rfl | listed
    · refine List.Sublist.cons _ (List.Sublist.trans ?_ (List.sublist_append_left _ _))
      rcases ReflTransGen.cases_head shown with rfl | ⟨r, ⟨b, listed, opened, rfl⟩, path⟩
      · exact inside.siblings_sublist
      · exact ih listed opened path
    · exact ((ih' listed opened shown).trans (List.sublist_append_right _ _)).cons _

/-- The children of every position to which a listing comes stand in it in their order. -/
theorem Visited.sublist_of_shows (visited : forest.Visited (forest.children p) depth rows)
    (shown : forest.Shows p q) : (forest.children q).Sublist (rows.map Prod.fst) := by
  rcases ReflTransGen.cases_head shown with rfl | ⟨r, ⟨a, listed, opened, rfl⟩, path⟩
  · exact visited.siblings_sublist
  · exact visited.below_sublist listed opened path

theorem Visited.tree (visited : forest.Visited (forest.children p) depth rows)
    (once : (rows.map fun row => forest.key row.1).Nodup) : forest.Tree p := by
  have once' : ((rows.map Prod.fst).map forest.key).Nodup := by rwa [List.map_map]
  have ends := exists_visited_iff.mp ⟨rows, visited⟩
  refine ⟨?_, ?_, ?_⟩
  · intro q shown
    exact once'.sublist ((visited.sublist_of_shows shown).map forest.key)
  · intro q r a b shown shown' listed listed' same
    have member := visited.mem_children_iff.mpr ⟨q, shown, listed⟩
    have member' := visited.mem_children_iff.mpr ⟨r, shown', listed'⟩
    obtain rfl := List.inj_on_of_nodup_map once' member member' same
    exact (forest.parent_eq listed).symm.trans (forest.parent_eq listed')
  · rintro q shown a listed opened rfl
    exact not_transGen_self_of_acc ends (TransGen.tail' shown ⟨a, listed, opened, rfl⟩)

/-- A listing returns and names no key twice exactly if what it shows is a tree. -/
theorem lists_once_iff (finite : {q | forest.Shows p q}.Finite) (depth : Nat) :
    (∃ rows, forest.Visited (forest.children p) depth rows ∧
      (rows.map fun row => forest.key row.1).Nodup) ↔ forest.Tree p := by
  constructor
  · rintro ⟨rows, visited, once⟩
    exact visited.tree once
  · intro tree
    obtain ⟨rows, visited⟩ : ∃ rows, forest.Visited (forest.children p) depth rows :=
      tree.exists_visited finite
    exact ⟨rows, visited, tree.nodup .refl visited (.refl _)⟩

/-- A forest whose positions and children are those of another one under a translation is listed
as the other one, translated. -/
theorem Visited.translate {ι' α' : Type*} {image : Forest ι' α'} {f : ι → ι'} {g : α → α'}
    (key : ∀ a, image.key (g a) = f (forest.key a))
    (children : ∀ q, forest.Shows p q → image.children (f q) = (forest.children q).map g)
    (descends : ∀ q, forest.Shows p q → ∀ a ∈ forest.children q,
      image.descends (g a) = forest.descends a)
    (visited : forest.Visited l depth rows) (shown : forest.Shows p q)
    (part : l ⊆ forest.children q) :
    image.Visited (l.map g) depth (rows.map fun row => (g row.1, row.2)) := by
  induction visited generalizing q with
  | nil depth => exact .nil depth
  | stay closed after ih =>
    refine .stay ?_ (ih shown fun b listed => part (List.mem_cons_of_mem _ listed))
    rw [descends q shown _ (part List.mem_cons_self), closed]
  | @descend a rest depth below rows opened inside after ih ih' =>
    have listed := part List.mem_cons_self
    have inner : forest.Shows p (forest.key a) := ReflTransGen.tail shown ⟨a, listed, opened, rfl⟩
    rw [List.map_cons, List.map_cons, List.map_append]
    refine .descend ?_ ?_ (ih' shown fun b listed => part (List.mem_cons_of_mem _ listed))
    · rw [descends q shown _ listed, opened]
    · rw [key, children _ inner]
      exact ih inner (List.Subset.refl _)

end Forest

end Nek0.Library
