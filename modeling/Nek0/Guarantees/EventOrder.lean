import Mathlib.Data.List.Nodup
import Nek0.Source.EventLoop

/-!
# Order of control items

A turn hands the drained items to `handle_control_item` before the item it polled
first. The items of a turn keep their order exactly when one of the two groups
holds no control item. Items are numbered by their position in the stream here,
so that order, loss and repetition are told apart even for equal items.
-/

namespace Nek0.Guarantees

open Nek0.Source

/-- An item with its position in the stream. -/
abbrev Numbered := StreamItem × ℕ

namespace Numbered

def isAudio (item : Numbered) : Bool := item.1.isAudio

/-- The item carries a part of the listing of `path` in `channel`. -/
def listsPartOf (channel : UInt64) (path : String) (item : Numbered) : Bool :=
  match item.1 with
  | .messageEvent (.fileList entries) =>
    entries.any fun entry => entry.channelId == channel && entry.path == path
  | _ => false

/-- The item ends the listing of `path` in `channel`. -/
def finishesListing (channel : UInt64) (path : String) (item : Numbered) : Bool :=
  match item.1 with
  | .messageEvent (.fileListFinished finished) =>
    finished.any fun entry => entry.channelId == channel && entry.path == path
  | _ => false

theorem control_of_part {channel : UInt64} {path : String} {item : Numbered}
    (part : item.listsPartOf channel path = true) : item.isAudio = false := by
  unfold listsPartOf at part
  split at part
  next h => simp [isAudio, h, StreamItem.isAudio]
  next => cases part

theorem control_of_finished {channel : UInt64} {path : String} {item : Numbered}
    (finishes : item.finishesListing channel path = true) : item.isAudio = false := by
  unfold finishesListing at finishes
  split at finishes
  next h => simp [isAudio, h, StreamItem.isAudio]
  next => cases finishes

end Numbered

/-- Numbers the items of a turn that begins at a position of the stream. -/
def numberTurn (start : ℕ) : Turn StreamItem → Turn Numbered
  | .exits error => .exits error
  | .polled first drained stop =>
    .polled (first.map (·, start)) (drained.zipIdx (start + first.toList.length)) stop

def number (start : ℕ) : List (Turn StreamItem) → List (Turn Numbered)
  | [] => []
  | turn :: rest => numberTurn start turn :: number (start + turn.yielded.length) rest

def handled (turns : List (Turn StreamItem)) : List Numbered :=
  handledItems (eventLoop Numbered.isAudio (number 0 turns))

def yielded (turns : List (Turn StreamItem)) : List Numbered := yieldedItems (number 0 turns)

/-- The control items are handled in the order they were yielded, none lost or
repeated, and every part of a listing before the end of that listing. -/
structure EventOrder (turns : List (Turn StreamItem)) : Prop where
  sameOrder : handled turns = Turn.deferred Numbered.isAudio (yielded turns)
  listingOrder : ∀ channel path, ∀ part finished : Numbered,
    [part, finished].Sublist (yielded turns) → part.listsPartOf channel path = true →
    finished.finishesListing channel path = true → [part, finished].Sublist (handled turns)

/-- A turn that polled a control item first drains audio only. -/
def controlAlone : Turn StreamItem → Prop
  | .exits _ => True
  | .polled first drained _ =>
    first.any (fun item => !item.isAudio) = true → ∀ item ∈ drained, item.isAudio = true

instance : DecidablePred controlAlone
  | .exits _ => .isTrue trivial
  | .polled first _ _ =>
    inferInstanceAs (Decidable (first.any (fun item => !item.isAudio) = true → _))

section Turns

variable {Item : Type*} (isAudio : Item → Bool)

@[simp] theorem handledItems_append (calls more : List (LoopCall Item)) :
    handledItems (calls ++ more) = handledItems calls ++ handledItems more :=
  List.filterMap_append

@[simp] theorem handledItems_decoded (items : List Item) :
    handledItems (Turn.decoded isAudio items) = [] := by
  simp [handledItems, Turn.decoded, List.filterMap_map]

@[simp] theorem handledItems_handle (items : List Item) :
    handledItems (items.map .handleControlItem) = items := by
  simp [handledItems, List.filterMap_map]

@[simp] theorem handledItems_stop (stop : PollEnd) :
    handledItems (Turn.stopCalls stop : List (LoopCall Item)) = [] := by
  cases stop <;> rfl

theorem handledItems_polled (first : Option Item) (drained : List Item) (stop : PollEnd) :
    handledItems (Turn.calls isAudio (.polled first drained stop)) =
      Turn.deferred isAudio drained ++ Turn.deferred isAudio first.toList := by
  simp [Turn.calls]

theorem handledItems_exits (error : Option String) :
    handledItems (Turn.calls isAudio (.exits error)) = [] := by
  cases error <;> rfl

end Turns

/-- Moving one item behind others that do not contain it changes their order,
unless there are none. -/
theorem append_singleton_eq_cons {α : Type*} {item : α} {items : List α} (fresh : item ∉ items) :
    items ++ [item] = item :: items ↔ items = [] := by
  cases items with
  | nil => simp
  | cons head tail =>
    simp only [List.cons_append, List.cons.injEq, reduceCtorEq, iff_false, not_and]
    intro same
    simp [same] at fresh

theorem deferred_zipIdx_eq_nil (drained : List StreamItem) (start : ℕ) :
    Turn.deferred Numbered.isAudio (drained.zipIdx start) = [] ↔
      ∀ item ∈ drained, item.isAudio = true := by
  induction drained generalizing start with
  | nil => simp [Turn.deferred]
  | cons item rest ih =>
    have head : Numbered.isAudio (item, start) = item.isAudio := rfl
    cases audio : item.isAudio <;>
      simp_all [Turn.deferred, List.zipIdx_cons]

theorem processed_number (start : ℕ) (turns : List (Turn StreamItem)) :
    processed (number start turns) = number start (processed turns) := by
  induction turns generalizing start with
  | nil => rfl
  | cons turn rest ih =>
    cases turn with
    | exits _ => rfl
    | polled _ _ _ => simp [number, numberTurn, processed, ih]

/-- A turn hands over as many items as control items it took. -/
theorem turn_length (turn : Turn Numbered) :
    (handledItems (turn.calls Numbered.isAudio)).length =
      (Turn.deferred Numbered.isAudio turn.yielded).length := by
  cases turn with
  | exits error => rw [handledItems_exits]; rfl
  | polled first drained stop =>
    rw [handledItems_polled]
    simp [Turn.deferred, Turn.yielded, Nat.add_comm]

/-- One turn keeps the order of its items exactly when its first item, if it is
a control item, comes alone. -/
theorem turn_inOrder (start : ℕ) (turn : Turn StreamItem) :
    handledItems ((numberTurn start turn).calls Numbered.isAudio) =
        Turn.deferred Numbered.isAudio (numberTurn start turn).yielded ↔
      controlAlone turn := by
  cases turn with
  | exits error => simp [numberTurn, handledItems_exits, Turn.yielded, Turn.deferred, controlAlone]
  | polled first drained stop =>
    simp only [numberTurn, handledItems_polled, Turn.yielded]
    cases first with
    | none => simp [Turn.deferred, controlAlone]
    | some item =>
      cases audio : item.isAudio with
      | true =>
        have head : Numbered.isAudio (item, start) = true := audio
        simp [Turn.deferred, controlAlone, head, audio]
      | false =>
        have head : Numbered.isAudio (item, start) = false := audio
        have fresh : (item, start) ∉
            Turn.deferred Numbered.isAudio (drained.zipIdx (start + 1)) := by
          intro inside
          have := List.le_snd_of_mem_zipIdx (List.mem_of_mem_filter inside)
          omega
        have split : Turn.deferred Numbered.isAudio
              ((item, start) :: drained.zipIdx (start + 1)) =
            (item, start) :: Turn.deferred Numbered.isAudio (drained.zipIdx (start + 1)) := by
          simp [Turn.deferred, head]
        have single : Turn.deferred Numbered.isAudio [(item, start)] = [(item, start)] := by
          simp [Turn.deferred, head]
        simp only [Option.map_some, Option.toList_some, List.length_singleton,
          List.singleton_append, split, single, append_singleton_eq_cons fresh,
          deferred_zipIdx_eq_nil]
        simp [controlAlone, audio]

/-- A run of turns keeps the order exactly when each of its turns does. -/
theorem turns_inOrder (start : ℕ) (turns : List (Turn StreamItem)) :
    handledItems ((number start turns).flatMap (Turn.calls Numbered.isAudio)) =
        Turn.deferred Numbered.isAudio ((number start turns).flatMap Turn.yielded) ↔
      ∀ turn ∈ turns, controlAlone turn := by
  induction turns generalizing start with
  | nil => simp [number, handledItems, Turn.deferred]
  | cons turn rest ih =>
    have split : ∀ items more : List Numbered, Turn.deferred Numbered.isAudio (items ++ more) =
        Turn.deferred Numbered.isAudio items ++ Turn.deferred Numbered.isAudio more :=
      fun _ _ => List.filter_append ..
    rw [List.forall_mem_cons, ← turn_inOrder start turn, ← ih (start + turn.yielded.length)]
    simp only [number, List.flatMap_cons, handledItems_append, split]
    constructor
    · exact fun same => List.append_inj same (turn_length _)
    · rintro ⟨head, tail⟩
      rw [head, tail]

/-- The loop keeps the order of events exactly when in every turn it processes
the first item, if it is a control item, comes with audio only. -/
theorem event_order_iff (turns : List (Turn StreamItem)) :
    EventOrder turns ↔ ∀ turn ∈ processed turns, controlAlone turn := by
  rw [← turns_inOrder 0, ← processed_number]
  constructor
  · exact fun order => order.sameOrder
  · intro same
    refine ⟨same, fun channel path part finished inStream isPart finishes => ?_⟩
    have both := inStream.filter fun item => !item.isAudio
    rw [List.filter_cons_of_pos (by simp [Numbered.control_of_part isPart]),
      List.filter_cons_of_pos (by simp [Numbered.control_of_finished finishes])] at both
    rw [show handled turns = _ from same]
    exact both

/-- A part of a listing is polled first and the end of the listing is drained
right after it: the listing is finished before its part is handled. -/
theorem listing_finished_before_part :
    ¬ ∀ turns : List (Turn StreamItem), EventOrder turns := by
  intro claimed
  have order := (claimed
    [.polled (some (.messageEvent (.fileList [⟨1, "/", "a", 3, 0, false⟩])))
      [.messageEvent (.fileListFinished [⟨1, "/"⟩])] .elapsed]).listingOrder 1 "/"
    (.messageEvent (.fileList [⟨1, "/", "a", 3, 0, false⟩]), 0)
    (.messageEvent (.fileListFinished [⟨1, "/"⟩]), 1) (by decide) (by decide) (by decide)
  revert order
  decide

end Nek0.Guarantees
