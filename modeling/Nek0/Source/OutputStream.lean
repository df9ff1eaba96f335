import Mathlib.Algebra.GroupWithZero.Nat
import Mathlib.Data.List.Range

/-!
# Output callback

The callback of `build_output_stream` in `native/src/api.rs`: it cuts the mixed frames
of consecutive logical slots into buffers of whatever length the device asks for, and
keeps the last mixed frame between two callbacks. What is in a mixed frame is left to
a parameter. The sample counter is a natural number first, and a `u64` that wraps in
`CountedStream`.
-/

namespace Nek0.Source

/-- Samples of one frame, 20 ms at 48 kHz. -/
def frameSize : Nat := 960

abbrev MixFrame (α : Type*) := Vector α frameSize

variable {α : Type*}

/-- What one output stream keeps between two callbacks. -/
structure OutputStream (α : Type*) where
  /-- `PLAYED_SAMPLES` -/
  played : Nat
  /-- `current_mix_slot` and `current_mix_buf`, nothing before the first frame. -/
  current : Option (Nat × MixFrame α)

namespace OutputStream

/-- A stream that starts at a sample position. -/
def starting (played : Nat) : OutputStream α := ⟨played, none⟩

/-- What a callback has written and which slots it has mixed. -/
structure Filled (α : Type*) where
  data : List α
  mixed : List Nat
  current : Option (Nat × MixFrame α)

/-- The mixed frame of a slot, and the slot if it had to be mixed now. -/
def frameOf (mix : Nat → MixFrame α) (current : Option (Nat × MixFrame α)) (slot : Nat) :
    MixFrame α × List Nat :=
  match current with
  | some (cached, frame) => if slot = cached then (frame, []) else (mix slot, [slot])
  | none => (mix slot, [slot])

/-- The loop of the callback, which still has to write `remaining` samples. -/
def fill (mix : Nat → MixFrame α) (current : Option (Nat × MixFrame α)) (slot : Nat)
    (offset : Fin frameSize) (remaining : Nat) : Filled α :=
  if remaining = 0 then ⟨[], [], current⟩
  else
    let (frame, mixed) := frameOf mix current slot
    let copy := min remaining (frameSize - offset)
    let copied := (frame.toList.drop offset).take copy
    let rest :=
      if inside : offset + copy < frameSize then
        fill mix (some (slot, frame)) slot ⟨offset + copy, inside⟩ (remaining - copy)
      else fill mix (some (slot, frame)) (slot + 1) ⟨0, by decide⟩ (remaining - copy)
    ⟨copied ++ rest.data, mixed ++ rest.mixed, rest.current⟩
termination_by remaining
decreasing_by
  all_goals
    have := offset.isLt
    omega

theorem offset_lt (played : Nat) : played % frameSize < frameSize := Nat.mod_lt _ (by decide)

/-- What a callback writes from a position on. -/
def write (mix : Nat → MixFrame α) (current : Option (Nat × MixFrame α)) (played length : Nat) :
    Filled α :=
  fill mix current (played / frameSize) ⟨played % frameSize, offset_lt played⟩ length

/-- One callback with a buffer of the given length. -/
def callback (mix : Nat → MixFrame α) (s : OutputStream α) (length : Nat) :
    Filled α × OutputStream α :=
  let filled := write mix s.current s.played length
  (filled, ⟨s.played + length, filled.current⟩)

/-- The samples and the mixed slots of a sequence of callbacks. -/
def play (mix : Nat → MixFrame α) : OutputStream α → List Nat → List α × List Nat
  | _, [] => ([], [])
  | s, length :: lengths =>
    let (filled, s) := s.callback mix length
    let (data, mixed) := play mix s lengths
    (filled.data ++ data, filled.mixed ++ mixed)

end OutputStream

/-- The stream with the counter of the source. -/
structure CountedStream (α : Type*) where
  played : UInt64
  current : Option (Nat × MixFrame α)

namespace CountedStream

def starting (played : UInt64) : CountedStream α := ⟨played, none⟩

def callback (mix : Nat → MixFrame α) (s : CountedStream α) (length : Nat) :
    OutputStream.Filled α × CountedStream α :=
  let filled := OutputStream.write mix s.current s.played.toNat length
  (filled, ⟨s.played + .ofNat length, filled.current⟩)

def play (mix : Nat → MixFrame α) : CountedStream α → List Nat → List α × List Nat
  | _, [] => ([], [])
  | s, length :: lengths =>
    let (filled, s) := s.callback mix length
    let (data, mixed) := play mix s lengths
    (filled.data ++ data, filled.mixed ++ mixed)

/-- Until the counter wraps, it makes no difference. -/
theorem play_eq (mix : Nat → MixFrame α) (lengths : List Nat) (s : CountedStream α)
    (fits : s.played.toNat + lengths.sum < 2 ^ 64) :
    s.play mix lengths = OutputStream.play mix ⟨s.played.toNat, s.current⟩ lengths := by
  induction lengths generalizing s with
  | nil => rfl
  | cons length lengths ih =>
    rw [List.sum_cons] at fits
    have counted : (s.played + .ofNat length).toNat = s.played.toNat + length := by
      rw [UInt64.toNat_add, UInt64.toNat_ofNat', Nat.mod_eq_of_lt (a := length) (by omega),
        Nat.mod_eq_of_lt (by omega)]
    have rest := ih (s.callback mix length).2 (by
      simp only [callback, counted]
      omega)
    simp only [callback, counted] at rest
    simp only [play, OutputStream.play, callback, OutputStream.callback, rest]

end CountedStream

end Nek0.Source
