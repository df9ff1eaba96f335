import Nek0.Source.EventBatch

/-!
# One bad event in a batch

The batch of a poll is read as a whole and handled in one loop, both inside one `try`. So the
events that could be handled are handled, in order and once, exactly if none of them follows one
that throws, and the whole batch can be read.
-/

namespace Nek0.Guarantees

open Nek0.Library Nek0.Source.Poll
open Nek0.Source.Voice (VoiceApp)

/-- Every event that can be read is handled unless it throws, each in the state that the ones
before it leave. -/
def othersHandled (env : Env) (s : VoiceApp) (batch : List Value) :
    List TsEngineEvent × VoiceApp :=
  isolating (handleEvent env) s (batch.filterMap decodeEvent)

/-- The batch can be read and no event that could be handled follows one that throws, or there is
no event that could be handled at all. -/
def sparesOthers (env : Env) (s : VoiceApp) (batch : List Value) : Bool :=
  if batch.all fun raw => (decodeEvent raw).isSome then
    endsAtRefusal (handleEvent env) s (batch.filterMap decodeEvent)
  else (othersHandled env s batch).1.isEmpty

theorem pollEvents_eq (batch : List Value) :
    pollEvents batch =
      if batch.all fun raw => (decodeEvent raw).isSome then some (batch.filterMap decodeEvent)
      else none := by
  induction batch with
  | nil => rfl
  | cons raw batch ih =>
    have rest : List.mapM decodeEvent batch = _ := ih
    rw [pollEvents, List.mapM_cons, rest]
    cases decoded : decodeEvent raw with
    | none => simp [decoded]
    | some event =>
      by_cases all : (batch.all fun raw => (decodeEvent raw).isSome) = true
      · simp [decoded, all]
      · simp [decoded, all]

/-- For every batch, a poll handles every event that does not throw, in order and once, exactly if
no such event comes after one that throws or shares the batch with one that cannot be read. -/
theorem others_handled_iff (env : Env) (s : VoiceApp) (batch : List Value) :
    pollHandled env s batch = othersHandled env s batch ↔ sparesOthers env s batch = true := by
  rw [pollHandled, pollEvents_eq, sparesOthers]
  by_cases all : (batch.all fun raw => (decodeEvent raw).isSome) = true
  · rw [if_pos all, if_pos all]
    exact stopping_eq_isolating_iff
  · rw [if_neg all, if_neg all, List.isEmpty_iff, Prod.ext_iff]
    refine ⟨fun same => same.1.symm, fun idle => ⟨idle.symm, ?_⟩⟩
    exact (isolating_idle idle).symm

/-- One session is connected. -/
def oneSession : VoiceApp :=
  (VoiceApp.build.openSession none).handleEvent 1 (.connected ⟨some 5, "", 0, [], []⟩)

/-- A client whose channel group has a number that is no `int`. -/
def largeGroup : Env where
  channels := fun _ => .list []
  clients := fun _ => .list
    [.map [("id", .int 7), ("nickname", .string "guest"), ("channel_id", .int 1),
      ("channel_group_id", .ofU64 9223372036854775808)]]
  retries := fun _ => false
  ignored := fun _ => false

/-- The channels have changed, and then the connection is lost. -/
def lostConnection : List Value :=
  [.map [("connection_id", .int 1), ("type", .string "channels_updated")],
    .map [("connection_id", .int 1), ("type", .string "disconnected"),
      ("reason", .string "timeout"), ("expected", .bool false)]]

/-- The app goes on as if the session were connected. -/
theorem lost_connection_goes_unnoticed :
    ((pollHandled largeGroup oneSession lostConnection).2.stateOf 1).connected = true ∧
      ¬ ∀ env s batch, pollHandled env s batch = othersHandled env s batch := by
  have stays : ((pollHandled largeGroup oneSession lostConnection).2.stateOf 1).connected = true :=
    by decide +kernel
  refine ⟨stays, fun handled => ?_⟩
  rw [handled] at stays
  have ends : ((othersHandled largeGroup oneSession lostConnection).2.stateOf 1).connected =
      false := by decide +kernel
  rw [ends] at stays
  cases stays

end Nek0.Guarantees
