import Nek0.Library.Run
import Nek0.Source.MicCapture

/-!
# Captured audio

The capture thread sends its whole array after every read, and Dart takes the number of samples
from the size of the array. A full read has overwritten all of it. After a short read the rest
of the array is sent once more, with the samples of earlier reads in it.
-/

namespace Nek0.Guarantees

open Nek0.Library Nek0.Source.MicCapture Nek0.Source.MicCapture.MicPath

/-- The samples that were read for the engine are those that it got. -/
def ForwardedExactly (s : MicPath) : Prop := s.sent = s.captured

/-- An event that is handled while transmitting comes from a read of a full frame. -/
def wholeFrames (s : MicPath) : Action → Bool
  | .deliver =>
    match s.events with
    | event :: _ => !(s.subscribed && s.transmits) || event.read.length = micFrameSize
    | [] => true
  | _ => true

/-- The arrays keep their sizes, and an event of a full read holds exactly its samples. -/
structure FixedFrames (s : MicPath) : Prop where
  frame : s.micFrame.length = micFrameSize
  bytes : ∀ bytes ∈ s.thread, bytes.length = micFrameSize * 4
  size : ∀ event ∈ s.events, event.data.length = micFrameSize * 4
  short : ∀ event ∈ s.events, event.read.length ≤ micFrameSize
  whole : ∀ event ∈ s.events, event.read.length = micFrameSize →
    LittleEndian.decode event.data = event.read
  behind : s.captured.length ≤ s.sent.length

section Steps

variable {s t : MicPath}

theorem length_put {α : Type} {array values : List α} (fits : values.length ≤ array.length) :
    (put array values).length = array.length := by
  rw [put, List.length_append, List.length_drop]
  omega

theorem put_of_length {α : Type} {array values : List α} (same : values.length = array.length) :
    put array values = values := by
  rw [put, same, List.drop_length, List.append_nil]

theorem take_put {α : Type} {array values : List α} :
    (put array values).take values.length = values := by
  rw [put, List.take_left]

/-- A read hands on what it has stored. -/
theorem readMicBuffer_cases (frame : s.micFrame.length = micFrameSize) {result : ReadResult}
    (possible : result.possible = true) : ∃ micFrame, micFrame.length = micFrameSize ∧
      (result.stored = [] ∧ s.readMicBuffer result = (micFrame, none) ∨
        s.readMicBuffer result = (micFrame, some result.stored)) := by
  cases result with
  | error code => exact ⟨s.micFrame, frame, .inl ⟨rfl, rfl⟩⟩
  | samples l =>
    have fits : l.length ≤ s.micFrame.length := by
      rw [frame]
      exact of_decide_eq_true possible
    refine ⟨put s.micFrame l, (length_put fits).trans frame, ?_⟩
    simp only [readMicBuffer]
    split
    next none_read => exact .inl ⟨List.length_eq_zero_iff.mp none_read, rfl⟩
    · refine .inr ?_
      split
      · rw [take_put]
        rfl
      next whole =>
        rw [length_put fits] at whole
        rw [put_of_length (by omega)]
        rfl

/-- The event of a read: the whole array, with the samples at its front. -/
theorem fixed_event {bytes : List UInt8} (size : bytes.length = micFrameSize * 4)
    {l : List Sample} (short : l.length ≤ micFrameSize) :
    (put bytes (LittleEndian.encode l)).length = micFrameSize * 4 ∧
      (l.length = micFrameSize → LittleEndian.decode (put bytes (LittleEndian.encode l)) = l) := by
  have length := LittleEndian.length_encode l
  constructor
  · exact (length_put (by omega)).trans size
  · intro full
    rw [put_of_length (by omega)]
    simpa [LittleEndian.decode] using LittleEndian.decode_encode_append l []

theorem fixed_captureRound (fixed : FixedFrames s) {bytes : List UInt8} {result : ReadResult}
    (there : s.thread = some bytes) (possible : result.possible = true) :
    FixedFrames (s.captureRound bytes result) := by
  have short : result.stored.length ≤ micFrameSize := by
    cases result with
    | error code => exact Nat.zero_le _
    | samples l => exact of_decide_eq_true possible
  obtain ⟨length, whole⟩ := fixed_event (fixed.bytes bytes there) short
  have thread : ∀ own ∈ some (put bytes (LittleEndian.encode result.stored)),
      own.length = micFrameSize * 4 := by
    rintro _ ⟨⟩
    exact length
  unfold captureRound
  obtain ⟨micFrame, frame, ⟨-, nothing⟩ | handed⟩ := readMicBuffer_cases fixed.frame possible
  · rw [nothing]
    exact { fixed with frame }
  · rw [handed]
    dsimp only
    split
    · refine { fixed with frame, bytes := thread, size := ?_, short := ?_, whole := ?_ } <;>
        intro event listed <;> rcases List.mem_append.mp listed with old | new
      · exact fixed.size event old
      · obtain rfl := List.mem_singleton.mp new
        exact length
      · exact fixed.short event old
      · obtain rfl := List.mem_singleton.mp new
        exact short
      · exact fixed.whole event old
      · obtain rfl := List.mem_singleton.mp new
        exact whole
    · exact { fixed with frame, bytes := thread }

/-- An event is passed on as a whole frame. -/
theorem handleMicData_eq {bytes : List UInt8} (size : bytes.length = micFrameSize * 4) :
    (s.handleMicData bytes).sent =
        s.sent ++ (if s.transmits then LittleEndian.decode bytes else []) ∧
      ∃ sent micPtr, s.handleMicData bytes = { s with sent, micPtr } := by
  have count : bytes.length / 4 = 960 := by
    rw [size]
    rfl
  have decoded : (LittleEndian.decode bytes).length = 960 :=
    (LittleEndian.length_decode bytes).trans count
  unfold handleMicData
  rw [count]
  dsimp only
  rw [if_neg (by decide), if_neg (by decide)]
  split
  · refine ⟨?_, _, _, rfl⟩
    dsimp only
    rw [← decoded, take_put]
  · exact ⟨(List.append_nil _).symm, s.sent, s.micPtr, rfl⟩

/-- What a handled event adds to the samples that were sent and to those that were read. -/
theorem deliver_eq (fixed : FixedFrames s) {event : MicEvent} {rest : List MicEvent}
    (oldest : s.events = event :: rest) :
    (s.deliver event rest).sent = s.sent ++
        (if s.subscribed && s.transmits then LittleEndian.decode event.data else []) ∧
      (s.deliver event rest).captured = s.captured ++
        (if s.subscribed && s.transmits then event.read else []) ∧
      ∃ sent captured micPtr,
        s.deliver event rest = { s with events := rest, sent, captured, micPtr } := by
  have size := fixed.size event (oldest ▸ List.mem_cons_self)
  let t : MicPath := { s with events := rest }
  obtain ⟨sent, after, micPtr, changed⟩ := handleMicData_eq (s := t) size
  unfold deliver
  by_cases heard : (s.subscribed && s.running) = true
  · have same : (s.subscribed && s.transmits) = s.transmits := by
      rw [Bool.and_eq_true] at heard
      rw [heard.1, Bool.true_and]
    dsimp only
    rw [if_pos heard, same]
    let captured := s.captured ++ if s.transmits then event.read else []
    refine ⟨sent, rfl, after, captured, micPtr, ?_⟩
    exact congrArg (fun u : MicPath => { u with captured }) changed
  · have silent : (s.subscribed && s.transmits) = false := by
      rw [transmits, ← Bool.and_assoc, Bool.eq_false_iff.mpr heard, Bool.false_and]
    dsimp only
    rw [if_neg heard, silent]
    exact ⟨(List.append_nil _).symm, (List.append_nil _).symm, s.sent, s.captured, s.micPtr, rfl⟩

theorem fixed_start : FixedFrames .start where
  frame := List.length_replicate
  bytes := nofun
  size := nofun
  short := nofun
  whole := nofun
  behind := Nat.le_refl _

/-- A frame sends at least what its read has stored. -/
theorem fixed_deliver (fixed : FixedFrames s) {event : MicEvent} {rest : List MicEvent}
    (oldest : s.events = event :: rest) : FixedFrames (s.deliver event rest) := by
  obtain ⟨sent, captured, after, read, micPtr, changed⟩ := deliver_eq fixed oldest
  have listed : ∀ other ∈ rest, other ∈ s.events := fun other there =>
    oldest ▸ List.mem_cons_of_mem _ there
  have own : event ∈ s.events := oldest ▸ List.mem_cons_self
  have behind : (s.deliver event rest).captured.length ≤ (s.deliver event rest).sent.length := by
    have decoded := LittleEndian.length_decode event.data
    have size := fixed.size event own
    have short := fixed.short event own
    have before := fixed.behind
    rw [sent, captured, List.length_append, List.length_append]
    split
    · omega
    · exact Nat.add_le_add_right before _
  rw [changed] at behind ⊢
  exact { fixed with
    size := fun other there => fixed.size other (listed other there)
    short := fun other there => fixed.short other (listed other there)
    whole := fun other there => fixed.whole other (listed other there)
    behind }

theorem fixed_step {action : Action} (fixed : FixedFrames s) (taken : s.step action = some t) :
    FixedFrames t := by
  cases action with
  | onListen opened =>
    simp only [step, Option.ite_none_right_eq_some, Option.some.injEq] at taken
    obtain ⟨-, rfl⟩ := taken
    unfold onListen
    dsimp only
    split
    · refine { fixed with bytes := ?_ }
      rintro _ ⟨⟩
      exact List.length_replicate
    · exact { fixed with }
  | onCancel =>
    obtain rfl := Option.some.inj taken
    exact { fixed with }
  | endThread =>
    simp only [step, Option.ite_none_left_eq_some, Option.some.injEq] at taken
    obtain ⟨-, rfl⟩ := taken
    exact { fixed with bytes := nofun }
  | read result =>
    simp only [step, Option.ite_none_right_eq_some, Option.map_eq_some_iff] at taken
    obtain ⟨possible, bytes, there, rfl⟩ := taken
    exact fixed_captureRound fixed there possible
  | deliver =>
    simp only [step] at taken
    split at taken
    · cases taken
    next oldest =>
      obtain rfl := Option.some.inj taken
      exact fixed_deliver fixed oldest
  | start started =>
    obtain rfl := Option.some.inj taken
    unfold startService
    split
    · exact fixed
    · split
      · exact { fixed with }
      · split
        · exact { fixed with }
        · exact fixed
  | stop =>
    obtain rfl := Option.some.inj taken
    unfold stopService
    split
    · exact { fixed with }
    · exact fixed
  | startMic | stopMic | attach =>
    obtain rfl := Option.some.inj taken
    exact { fixed with }

/-- A frame that is sent is exact if and only if its read was full. -/
theorem exactly_deliver_iff (fixed : FixedFrames s) {event : MicEvent} {rest : List MicEvent}
    (oldest : s.events = event :: rest) : ForwardedExactly (s.deliver event rest) ↔
      ForwardedExactly s ∧ wholeFrames s .deliver = true := by
  obtain ⟨sent, captured, -⟩ := deliver_eq fixed oldest
  have own : event ∈ s.events := oldest ▸ List.mem_cons_self
  simp only [wholeFrames, oldest]
  by_cases transmitted : (s.subscribed && s.transmits) = true
  · rw [if_pos transmitted] at sent captured
    simp only [ForwardedExactly, sent, captured, transmitted, Bool.not_true, Bool.false_or,
      decide_eq_true_eq]
    constructor
    · intro same
      have decoded := LittleEndian.length_decode event.data
      have size := fixed.size event own
      have short := fixed.short event own
      have behind := fixed.behind
      have lengths := congrArg List.length same
      rw [List.length_append, List.length_append] at lengths
      exact ⟨(List.append_inj same (by omega)).1, by omega⟩
    · rintro ⟨before, full⟩
      rw [before, fixed.whole event own full]
  · rw [if_neg transmitted, List.append_nil] at sent captured
    rw [ForwardedExactly, sent, captured, Bool.eq_false_iff.mpr transmitted]
    exact (and_iff_left rfl).symm

theorem captureRound_frame (bytes : List UInt8) (result : ReadResult) :
    (s.captureRound bytes result).sent = s.sent ∧
      (s.captureRound bytes result).captured = s.captured := by
  unfold captureRound
  obtain ⟨micFrame, data⟩ := s.readMicBuffer result
  cases data with
  | none => exact ⟨rfl, rfl⟩
  | some data =>
    dsimp only
    split <;> exact ⟨rfl, rfl⟩

/-- Only Dart's listener passes samples on. -/
theorem step_frame {action : Action} (other : action ≠ .deliver) (taken : s.step action = some t) :
    t.sent = s.sent ∧ t.captured = s.captured := by
  cases action with
  | deliver => exact absurd rfl other
  | onListen opened =>
    simp only [step, Option.ite_none_right_eq_some, Option.some.injEq] at taken
    obtain ⟨-, rfl⟩ := taken
    unfold onListen
    dsimp only
    split <;> exact ⟨rfl, rfl⟩
  | endThread =>
    simp only [step, Option.ite_none_left_eq_some, Option.some.injEq] at taken
    obtain ⟨-, rfl⟩ := taken
    exact ⟨rfl, rfl⟩
  | read result =>
    simp only [step, Option.ite_none_right_eq_some, Option.map_eq_some_iff] at taken
    obtain ⟨-, bytes, -, rfl⟩ := taken
    exact captureRound_frame bytes result
  | start started =>
    obtain rfl := Option.some.inj taken
    unfold startService
    split
    · exact ⟨rfl, rfl⟩
    · split
      · exact ⟨rfl, rfl⟩
      · split <;> exact ⟨rfl, rfl⟩
  | stop =>
    obtain rfl := Option.some.inj taken
    unfold stopService
    split <;> exact ⟨rfl, rfl⟩
  | onCancel | startMic | stopMic | attach =>
    obtain rfl := Option.some.inj taken
    exact ⟨rfl, rfl⟩

theorem exactly_step_iff {action : Action} (fixed : FixedFrames s)
    (taken : s.step action = some t) :
    ForwardedExactly t ↔ ForwardedExactly s ∧ wholeFrames s action = true := by
  by_cases delivers : action = .deliver
  · subst delivers
    simp only [step] at taken
    split at taken
    · cases taken
    next oldest =>
      obtain rfl := Option.some.inj taken
      exact exactly_deliver_iff fixed oldest
  · obtain ⟨sent, captured⟩ := step_frame delivers taken
    have free : wholeFrames s action = true := by
      cases action <;> first | rfl | exact absurd rfl delivers
    rw [and_iff_left free, ForwardedExactly, sent, captured, ForwardedExactly]

end Steps

/-- The engine gets exactly what was read for it if and only if every frame that is handled while
transmitting comes from a full read. -/
theorem captured_exactly_iff (actions : List Action) (s : MicPath)
    (run : Run step anyStep .start actions s) :
    ForwardedExactly s ↔ Run step (fun t action => wholeFrames t action = true) .start actions
      s := by
  refine run.holds_iff FixedFrames fixed_start rfl ?_ ?_
  · exact fun _ _ _ fixed taken => fixed_step fixed taken
  · exact fun _ _ _ fixed taken => exactly_step_iff fixed taken

/-- A session is attached, and capture begins. -/
def capturing : List Action := [.attach 1, .start true, .startMic, .onListen true]

/-- A frame that is read whole, an error, and a short read while nothing is transmitted. -/
def wholeFrame : List Action :=
  capturing ++ [.read (.samples (.replicate 960 7)), .deliver, .read (.error (-1)), .attach 0,
    .read (.samples [8]), .deliver]

theorem whole_frame_captured : ∃ s, Run step anyStep .start wholeFrame s ∧
    s.sent = .replicate 960 7 ∧ ForwardedExactly s := by
  obtain ⟨s, run, sent⟩ := reaches_of_guarded wholeFrames (show
    (exec (guarded wholeFrames step) .start wholeFrame).any (fun s =>
      s.sent == .replicate 960 7) = true by decide +kernel)
  have plain : Run step anyStep .start wholeFrame s := run.weaken fun _ _ _ => trivial
  exact ⟨s, plain, beq_iff_eq.mp sent, (captured_exactly_iff wholeFrame s plain).mpr run⟩

/-- One sample is read after a full frame, and 959 samples of that frame are sent once more. -/
theorem short_read_replays_frame : ∃ s, Run step anyStep .start
      (capturing ++ [.read (.samples (.replicate 960 7)), .deliver, .read (.samples [8]),
        .deliver]) s ∧
    s.captured = .replicate 960 7 ++ [8] ∧
    s.sent = .replicate 960 7 ++ 8 :: .replicate 959 7 ∧ ¬ForwardedExactly s := by
  obtain ⟨s, run, passed⟩ := reaches_of_exec anyStep (fun _ _ _ => trivial) (show
    (exec step .start (capturing ++ [.read (.samples (.replicate 960 7)), .deliver,
      .read (.samples [8]), .deliver])).any (fun s =>
        (s.captured, s.sent) ==
          (.replicate 960 7 ++ [8], .replicate 960 7 ++ 8 :: .replicate 959 7)) = true by
    decide +kernel)
  simp only [beq_iff_eq, Prod.mk.injEq] at passed
  obtain ⟨captured, sent⟩ := passed
  refine ⟨s, run, captured, sent, fun same => ?_⟩
  rw [ForwardedExactly, sent, captured] at same
  have lengths := congrArg List.length (List.append_cancel_left same)
  rw [List.length_cons, List.length_replicate] at lengths
  exact absurd lengths (by decide)

end Nek0.Guarantees
