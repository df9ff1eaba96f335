import Mathlib.Data.List.Nodup

/-!
# Channel tree

The channels of a server: each has a parent or is at the top, and no two siblings have one name.
A path of names from the top therefore leads to at most one channel, and which one does not
depend on the order in which the channels are listed.
-/

namespace Nek0.Abstract

structure Channel where
  id : Nat
  name : String
  parent : Option Nat
  deriving DecidableEq, Repr

structure ChannelTree where
  channels : List Channel
  ids : (channels.map (·.id)).Nodup
  siblings : ∀ a ∈ channels, ∀ b ∈ channels, a.parent = b.parent → a.name = b.name → a = b

namespace ChannelTree

variable (tree : ChannelTree)

def Has (id : Nat) : Prop := ∃ channel ∈ tree.channels, channel.id = id

/-- The channel of that name under a parent. -/
def child (parent : Option Nat) (name : String) : Option Channel :=
  tree.channels.find? fun channel => channel.parent = parent ∧ channel.name = name

/-- Follows a path of names. -/
def resolve : Option Nat → List String → Option Nat
  | _, [] => none
  | parent, [name] => (tree.child parent name).map (·.id)
  | parent, name :: names =>
    (tree.child parent name).bind fun channel => resolve (some channel.id) names

/-- The names of the channels from below a parent down to a channel. -/
inductive PathTo : Option Nat → List String → Nat → Prop where
  | here {channel : Channel} (listed : channel ∈ tree.channels) :
      PathTo channel.parent [channel.name] channel.id
  | under {channel : Channel} {names : List String} {id : Nat} (listed : channel ∈ tree.channels)
      (rest : PathTo (some channel.id) names id) : PathTo channel.parent (channel.name :: names) id

variable {tree}

theorem eq_of_id {a b : Channel} (first : a ∈ tree.channels) (second : b ∈ tree.channels)
    (same : a.id = b.id) : a = b :=
  List.inj_on_of_nodup_map tree.ids first second same

theorem child_eq_some_iff {parent : Option Nat} {name : String} {channel : Channel} :
    tree.child parent name = some channel ↔
      channel ∈ tree.channels ∧ channel.parent = parent ∧ channel.name = name := by
  constructor
  · intro found
    have named := List.find?_some found
    exact ⟨List.mem_of_find?_eq_some found, by simpa using named⟩
  · rintro ⟨listed, rfl, rfl⟩
    cases found : tree.child channel.parent channel.name with
    | none =>
      have absent := List.find?_eq_none.mp found channel listed
      simp at absent
    | some other =>
      have named : other.parent = channel.parent ∧ other.name = channel.name := by
        simpa using List.find?_some found
      have listed' := List.mem_of_find?_eq_some found
      rw [tree.siblings other listed' channel listed named.1 named.2]

theorem PathTo.ne_nil {parent : Option Nat} {names : List String} {id : Nat}
    (path : tree.PathTo parent names id) : names ≠ [] := by
  cases path <;> simp

/-- Following names finds the channel to which they are the path. -/
theorem resolve_eq_some_iff {parent : Option Nat} {names : List String} {id : Nat} :
    tree.resolve parent names = some id ↔ tree.PathTo parent names id := by
  induction names generalizing parent with
  | nil =>
    constructor
    · intro found
      cases found
    · intro path
      exact absurd rfl path.ne_nil
  | cons name names ih =>
    cases names with
    | nil =>
      simp only [resolve, Option.map_eq_some_iff, child_eq_some_iff]
      constructor
      · rintro ⟨channel, ⟨listed, rfl, rfl⟩, rfl⟩
        exact .here listed
      · intro path
        cases path with
        | here listed => exact ⟨_, ⟨listed, rfl, rfl⟩, rfl⟩
        | under listed rest => exact absurd rfl rest.ne_nil
    | cons next names =>
      simp only [resolve, Option.bind_eq_some_iff, child_eq_some_iff, ih]
      constructor
      · rintro ⟨channel, ⟨listed, rfl, rfl⟩, rest⟩
        exact .under listed rest
      · intro path
        cases path with
        | under listed rest => exact ⟨_, ⟨listed, rfl, rfl⟩, rest⟩

theorem PathTo.has {parent : Option Nat} {names : List String} {id : Nat}
    (path : tree.PathTo parent names id) : tree.Has id := by
  induction path with
  | here listed => exact ⟨_, listed, rfl⟩
  | under _ _ ih => exact ih

/-- A path ends with the name of its channel. -/
theorem PathTo.name_mem {parent : Option Nat} {names : List String} {id : Nat}
    (path : tree.PathTo parent names id) {channel : Channel} (listed : channel ∈ tree.channels)
    (same : channel.id = id) : channel.name ∈ names := by
  induction path with
  | here listed' =>
    obtain rfl := eq_of_id listed listed' same
    exact List.mem_singleton_self _
  | under _ _ ih => exact List.mem_cons_of_mem _ (ih same)

/-- Where a reading that contains the whole name is the name alone, a channel is found under its
own name exactly if it is at the top and its name is not read as a longer path. -/
theorem pathTo_own_name_iff {segments : String → List String}
    (whole : ∀ name, name ∈ segments name → segments name = [name]) {channel : Channel}
    (listed : channel ∈ tree.channels) :
    tree.PathTo none (segments channel.name) channel.id ↔
      channel.parent = none ∧ segments channel.name = [channel.name] := by
  constructor
  · intro path
    have plain := whole _ (path.name_mem listed rfl)
    refine ⟨?_, plain⟩
    have found := resolve_eq_some_iff.mpr path
    simp only [plain, resolve, Option.map_eq_some_iff, child_eq_some_iff] at found
    obtain ⟨other, ⟨listed', top, -⟩, same⟩ := found
    rw [eq_of_id listed listed' same.symm, top]
  · rintro ⟨top, plain⟩
    rw [plain, ← top]
    exact .here listed

end ChannelTree

end Nek0.Abstract
