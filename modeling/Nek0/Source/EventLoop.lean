import Mathlib.Data.List.Basic

/-!
# Polling in the event loop

Sections 2 to 2c of `event_loop` in `native/src/api.rs`: one turn polls the
connection once with a long timeout, drains whatever else is ready with a short
one, and hands the collected control items to `handle_control_item`. How the
timeouts fall decides how the yielded items are grouped into turns, so the turns
are the input here.

The commands and the user's disconnect that a turn looks at before it polls are
not part of this file. A disconnect ends the loop between two turns.
-/

namespace Nek0.Source

/-- One file or directory of a requested listing. -/
structure FileListPart where
  channelId : UInt64
  path : String
  name : String
  size : UInt64
  dateTime : Int
  isFile : Bool
  deriving DecidableEq, Repr

/-- End of the listing of one directory. -/
structure FileListFinishedPart where
  channelId : UInt64
  path : String
  deriving DecidableEq, Repr

/-- Messages that are not related to the book. The kinds that the loop treats
alike are told apart by their name only. -/
inductive InMessage where
  | fileList (entries : List FileListPart)
  | fileListFinished (finished : List FileListFinishedPart)
  | other (name : String)
  deriving DecidableEq, Repr

/-- What `con.events()` yields. -/
inductive StreamItem where
  | bookEvents
  | messageEvent (msg : InMessage)
  | audio (packet : List UInt8)
  | identityLevelIncreasing (level : UInt8)
  | identityLevelIncreased
  | disconnectedTemporarily
  | messageResult (ok : Bool)
  | fileDownload (handle : UInt16)
  | fileUpload (handle : UInt16)
  | filetransferFailed (handle : UInt16)
  | networkStatsUpdated
  | audioChange
  deriving DecidableEq, Repr

def StreamItem.isAudio : StreamItem → Bool
  | .audio _ => true
  | _ => false

/-- Why a poll gave no item. -/
inductive PollEnd where
  | error (message : String)
  | ended
  | elapsed
  deriving DecidableEq, Repr

/-- What one turn of the loop polls. -/
inductive Turn (Item : Type*) where
  /-- The first poll failed or the stream was over, which ends the loop. -/
  | exits (error : Option String)
  /-- The first poll gave an item or ran into its timeout, then `drained` was
  collected until a poll gave no item. -/
  | polled (first : Option Item) (drained : List Item) (stop : PollEnd)
  deriving DecidableEq, Repr

/-- What the loop does with the items it polls. -/
inductive LoopCall (Item : Type*) where
  | decodeToClientBuffer (item : Item)
  | handleControlItem (item : Item)
  | pushError (message : String)
  deriving DecidableEq, Repr

namespace Turn

variable {Item : Type*} (isAudio : Item → Bool)

/-- The items a turn takes from the stream, oldest first. -/
def yielded : Turn Item → List Item
  | .exits _ => []
  | .polled first drained _ => first.toList ++ drained

/-- An audio item is decoded at once, a control item is deferred. -/
def decoded (items : List Item) : List (LoopCall Item) :=
  (items.filter isAudio).map .decodeToClientBuffer

def deferred (items : List Item) : List Item := items.filter fun item => !isAudio item

def stopCalls : PollEnd → List (LoopCall Item)
  | .error message => [.pushError message]
  | _ => []

/-- The calls of one turn in their order: audio while polling, then the deferred
items that were drained, and last the one that was polled first. -/
def calls : Turn Item → List (LoopCall Item)
  | .exits error => error.toList.map .pushError
  | .polled first drained stop =>
    decoded isAudio first.toList ++ decoded isAudio drained ++ stopCalls stop ++
      (deferred isAudio drained).map .handleControlItem ++
      (deferred isAudio first.toList).map .handleControlItem

end Turn

section Loop

variable {Item : Type*} (isAudio : Item → Bool)

/-- The turns up to the one that ends the loop. -/
def processed : List (Turn Item) → List (Turn Item)
  | [] => []
  | .exits error :: _ => [.exits error]
  | turn :: rest => turn :: processed rest

/-- All calls of the loop on the given turns. -/
def eventLoop (turns : List (Turn Item)) : List (LoopCall Item) :=
  (processed turns).flatMap (Turn.calls isAudio)

/-- All items the loop takes from the stream. -/
def yieldedItems (turns : List (Turn Item)) : List Item :=
  (processed turns).flatMap Turn.yielded

/-- The items that reach `handle_control_item`. -/
def handledItems (calls : List (LoopCall Item)) : List Item :=
  calls.filterMap fun
    | .handleControlItem item => some item
    | _ => none

end Loop

end Nek0.Source
