import Mathlib.Data.Finset.Basic
import Mathlib.Data.UInt
import Nek0.Library.DepthFirst
import Nek0.Library.ListSort

/-!
# The channel tree

The channels that `refresh_from_book` in `native/src/api.rs` makes of the book, the rows of the
widget in `lib/widgets/channel_tree.dart`, and the paths of channels there and in
`lib/models/server_search.dart`. A recursion that the source leaves to the call stack gets the
number of nested calls that it may make; it returns if some number is enough. Of a channel only
the fields that place it are here.
-/

namespace Nek0.Source

open Nek0.Library Relation

/-- `data::Channel` -/
structure BookChannel where
  id : UInt64
  name : String
  parent : UInt64
  order : UInt64
  deriving DecidableEq, Repr

namespace ChannelTree

structure TsChannel where
  id : UInt32
  name : String
  parentId : UInt32
  order : UInt32
  deriving DecidableEq, Repr

def tsChannel (c : BookChannel) : TsChannel where
  id := c.id.toUInt32
  name := c.name
  parentId := if c.parent = 0 then 0 else c.parent.toUInt32
  order := c.order.toUInt32

/-- The channels of `refresh_from_book`, in the order in which the book is iterated over. -/
def refreshFromBook (channels : List BookChannel) : List TsChannel := channels.map tsChannel

theorem tsChannel_parentId (c : BookChannel) : (tsChannel c).parentId = c.parent.toUInt32 := by
  rw [tsChannel]
  split
  next top => rw [top]; rfl
  · rfl

section Paths

variable (channels : List TsChannel)

/-- `channelPath` -/
def channelPath : Nat → UInt32 → Option String
  | 0, _ => none
  | calls + 1, channelId =>
    if channelId = 0 then some ""
    else
      match channels.find? (·.id = channelId) with
      | none => some ""
      | some channel =>
        (channelPath calls channel.parentId).map fun parent =>
          if parent = "" then channel.name else parent ++ " › " ++ channel.name

/-- `_pathOf` -/
def pathOf : Nat → String → UInt32 → Option String
  | 0, _, _ => none
  | calls + 1, name, parentId =>
    if parentId = 0 then some ""
    else
      match channels.find? (·.id = parentId) with
      | none => some name
      | some parent =>
        (pathOf calls parent.name parent.parentId).map fun above =>
          if above = "" then parent.name else above ++ " / " ++ parent.name

/-- A walk up comes from an id to the parent of the first channel that has it. -/
def Above (id above : UInt32) : Prop :=
  id ≠ 0 ∧ ∃ channel, channels.find? (·.id = id) = some channel ∧ channel.parentId = above

variable {channels}

theorem finite_above (id : UInt32) : {above | ReflTransGen (Above channels) id above}.Finite := by
  refine (((channels.map (·.parentId)).toFinset ∪ {id}).finite_toSet).subset ?_
  intro above path
  rcases ReflTransGen.cases_tail path with rfl | ⟨_, _, _, channel, found, rfl⟩
  · simp
  · have listed := List.mem_of_find?_eq_some found
    simpa using .inr ⟨channel, listed, rfl⟩

theorem channelPath_returns_iff (id : UInt32) :
    (∃ calls path, channelPath channels calls id = some path) ↔
      Acc (Function.swap (Above channels)) id := by
  constructor
  · rintro ⟨calls, path, returned⟩
    induction calls generalizing id path with
    | zero => cases returned
    | succ calls ih =>
      refine .intro _ ?_
      rintro above ⟨inside, channel, found, rfl⟩
      simp only [channelPath, if_neg inside, found, Option.map_eq_some_iff] at returned
      obtain ⟨path, returned, -⟩ := returned
      exact ih _ path returned
  · intro ends
    induction ends with
    | intro id _ ih =>
      by_cases top : id = 0
      · exact ⟨1, "", by simp [channelPath, top]⟩
      cases found : channels.find? (·.id = id) with
      | none => exact ⟨1, "", by simp [channelPath, top, found]⟩
      | some channel =>
        obtain ⟨calls, path, returned⟩ := ih _ ⟨top, channel, found, rfl⟩
        refine ⟨calls + 1, if path = "" then channel.name else path ++ " › " ++ channel.name, ?_⟩
        simp [channelPath, top, found, returned]

/-- Both walks make the same calls. -/
theorem isSome_pathOf (calls : Nat) (name : String) (parentId : UInt32) :
    (pathOf channels calls name parentId).isSome = (channelPath channels calls parentId).isSome := by
  induction calls generalizing name parentId with
  | zero => rfl
  | succ calls ih =>
    simp only [pathOf, channelPath]
    split
    · rfl
    · split
      · rfl
      · simp [ih]

theorem pathOf_returns_iff (name : String) (parentId : UInt32) :
    (∃ calls path, pathOf channels calls name parentId = some path) ↔
      Acc (Function.swap (Above channels)) parentId := by
  simp only [← channelPath_returns_iff, ← Option.isSome_iff_exists, isSome_pathOf]

end Paths

/-- `int.compareTo` -/
def compareTo (a b : UInt32) : Int := if a < b then -1 else if a = b then 0 else 1

end ChannelTree

open ChannelTree

/-- The widget and its state, as far as the rows depend on them. -/
structure ChannelTree where
  channels : List TsChannel
  favoriteChannelIds : Finset UInt32
  sortAlphabetically : Bool
  expanded : Finset UInt32

namespace ChannelTree

/-- A row of the flattened tree, with its depth. -/
abbrev ChannelRow := TsChannel × Nat

section Flatten

variable (byName : Comparator String) (t : ChannelTree)

/-- The comparison of `_sort`; `byName` compares two names without regard to case. -/
def compareChannels (a b : TsChannel) : Int :=
  let af : Int := if a.id ∈ t.favoriteChannelIds then 0 else 1
  let bf : Int := if b.id ∈ t.favoriteChannelIds then 0 else 1
  if af ≠ bf then af - bf
  else if t.sortAlphabetically then byName.compare a.name b.name
  else compareTo a.order b.order

def order : Comparator TsChannel where
  compare := compareChannels byName t
  lt_iff_gt a b := by
    have names := byName.lt_iff_gt a.name b.name
    simp only [compareChannels, compareTo]
    grind
  trans a b c := by
    have names := byName.trans a.name b.name c.name
    simp only [compareChannels, compareTo]
    grind

variable {byName t}

variable (t) in
def byParent (parentId : UInt32) : List TsChannel := t.channels.filter (·.parentId = parentId)

variable (sorted : ListSort (order byName t))

/-- The nested function `visit` of `_flatten`, which adds to `rows`. -/
def visit : Nat → UInt32 → Nat → List ChannelRow → Option (List ChannelRow)
  | 0, _, _, _ => none
  | calls + 1, parentId, depth, rows =>
    let children := sorted.sort (t.byParent parentId)
    children.foldlM (fun rows ch =>
      let rows := rows ++ [(ch, depth)]
      if ch.id ∈ t.expanded then visit calls ch.id (depth + 1) rows else some rows) rows

/-- `_flatten` -/
def flatten (calls : Nat) : Option (List ChannelRow) := visit sorted calls 0 0 []

/-- The links along which the rows are listed. -/
def forest : Forest UInt32 TsChannel where
  children parentId := sorted.sort (t.byParent parentId)
  parent := TsChannel.parentId
  key := TsChannel.id
  descends ch := decide (ch.id ∈ t.expanded)
  parent_eq listed := by
    have listed := (sorted.perm _).mem_iff.mp listed
    simpa using (List.mem_filter.mp listed).2

variable {sorted} {calls depth : Nat} {parentId : UInt32} {rows rows' : List ChannelRow}

theorem visited_of_visit (returned : visit sorted calls parentId depth rows = some rows') :
    ∃ new, rows' = rows ++ new ∧
      (forest sorted).Visited ((forest sorted).children parentId) depth new := by
  induction calls generalizing parentId depth rows rows' with
  | zero => cases returned
  | succ calls ih =>
    simp only [visit] at returned
    change List.foldlM _ _ ((forest sorted).children parentId) = _ at returned
    generalize (forest sorted).children parentId = children at returned ⊢
    induction children generalizing rows with
    | nil =>
      obtain rfl := Option.some.inj returned
      exact ⟨[], by simp, .nil depth⟩
    | cons ch rest ih' =>
      rw [List.foldlM_cons] at returned
      obtain ⟨between, first, after⟩ := Option.bind_eq_some_iff.mp returned
      obtain ⟨last, rfl, visited⟩ := ih' after
      split at first
      next opened =>
        obtain ⟨below, rfl, inside⟩ := ih first
        exact ⟨_, by simp, .descend (by simpa [forest] using opened) inside visited⟩
      next closed =>
        obtain rfl := Option.some.inj first
        exact ⟨_, by simp, .stay (by simpa [forest] using closed) visited⟩

/-- Enough calls list what the links give. -/
theorem foldlM_of_visited {children : List TsChannel} {new : List ChannelRow}
    (visited : (forest sorted).Visited children depth new) :
    ∃ enough, ∀ calls, enough ≤ calls → ∀ rows,
      children.foldlM (fun rows ch =>
        let rows := rows ++ [(ch, depth)]
        if ch.id ∈ t.expanded then visit sorted calls ch.id (depth + 1) rows else some rows) rows =
      some (rows ++ new) := by
  induction visited with
  | nil depth => exact ⟨0, by simp⟩
  | @stay ch rest depth new closed after ih =>
    obtain ⟨enough, returns⟩ := ih
    refine ⟨enough, fun calls le rows => ?_⟩
    have shut : ch.id ∉ t.expanded := by simpa [forest] using closed
    rw [List.foldlM_cons, if_neg shut]
    change List.foldlM _ (rows ++ [(ch, depth)]) rest = _
    rw [returns calls le, List.append_assoc, List.singleton_append]
  | @descend ch rest depth below new opened inside after ih ih' =>
    obtain ⟨enough, returns⟩ := ih
    obtain ⟨enough', returns'⟩ := ih'
    refine ⟨max (enough + 1) enough', fun calls le rows => ?_⟩
    have unfolded : ch.id ∈ t.expanded := by simpa [forest] using opened
    obtain ⟨fewer, rfl⟩ : ∃ fewer, calls = fewer + 1 := ⟨calls - 1, by omega⟩
    have inner : visit sorted (fewer + 1) ch.id (depth + 1) (rows ++ [(ch, depth)]) =
        some (rows ++ [(ch, depth)] ++ below) := returns fewer (by omega) _
    rw [List.foldlM_cons, if_pos unfolded, inner]
    change List.foldlM _ (rows ++ [(ch, depth)] ++ below) rest = _
    rw [returns' _ (by omega)]
    simp

theorem flatten_returns_iff :
    (∃ calls, flatten sorted calls = some rows) ↔
      (forest sorted).Visited ((forest sorted).children 0) 0 rows := by
  constructor
  · rintro ⟨calls, returned⟩
    obtain ⟨new, rfl, visited⟩ := visited_of_visit returned
    exact visited
  · intro visited
    obtain ⟨enough, returns⟩ := foldlM_of_visited visited
    exact ⟨enough + 1, returns enough le_rfl []⟩

end Flatten

end ChannelTree

end Nek0.Source
