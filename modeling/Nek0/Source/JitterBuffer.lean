import Mathlib.Algebra.Group.Int.Defs
import Mathlib.Algebra.Group.Nat.Defs
import Mathlib.Algebra.GroupWithZero.Nat
import Mathlib.Data.Nat.Basic
import Mathlib.Logic.Function.Basic

/-!
# Jitter buffer of one talker

The sequence arithmetic of `decode_to_client_buffer` in `native/src/api.rs` and the way
the output callback takes frames out of the ring. Decoding is left out: a packet comes
with its frame. `u16`, `u32` and `u64` values are natural numbers that wrap where the
source says so; the slots of the sample counter do not reach the end of `u64`. The
receiving of a packet and the mixing of a slot are one step each, although the source
makes them of several atomic operations.
-/

namespace Nek0.Source

/-- An integer as a `u32`. -/
def wrap32 (x : Int) : Nat := (x % 2 ^ 32).toNat

/-- An integer as a `u64`. -/
def wrap64 (x : Int) : Nat := (x % 2 ^ 64).toNat

/-- Maps a packet id to the number space of the base id. -/
def unwrapSeq (seq base : Nat) : Nat :=
  let forward : Nat := (seq + 2 ^ 16 - base) % 2 ^ 16
  -- The difference as an `i16`.
  let delta : Int := if forward < 2 ^ 15 then forward else (forward : Int) - 2 ^ 16
  if 0 ≤ delta then wrap32 (base + delta)
  else if -32768 < delta then wrap32 (base + wrap32 (65536 + delta))
  else wrap32 (base + delta)

theorem unwrapSeq_of_near {seq base : Nat} (small : base < 2 ^ 16)
    (near : (seq + 2 ^ 16 - base) % 2 ^ 16 ≠ 2 ^ 15) :
    unwrapSeq seq base = base + (seq + 2 ^ 16 - base) % 2 ^ 16 := by
  have bound : (seq + 2 ^ 16 - base) % 2 ^ 16 < 2 ^ 16 := Nat.mod_lt _ (by decide)
  simp only [unwrapSeq, wrap32]
  generalize (seq + 2 ^ 16 - base) % 2 ^ 16 = forward at *
  by_cases half : forward < 2 ^ 15
  · have ahead : (0 : Int) ≤ forward := by omega
    simp only [half, if_true, ahead]
    omega
  · have behind : ¬ (0 : Int) ≤ (forward : Int) - 2 ^ 16 := by omega
    have wraps : (-32768 : Int) < (forward : Int) - 2 ^ 16 := by omega
    simp only [half, if_false, behind, wraps, if_true]
    omega

/-- Half the id space ahead counts as behind. -/
theorem unwrapSeq_half {seq base : Nat} (half : (seq + 2 ^ 16 - base) % 2 ^ 16 = 2 ^ 15) :
    unwrapSeq seq base = wrap32 ((base : Int) - 2 ^ 15) := by
  have whole : ¬ 2 ^ 15 < 2 ^ 15 := by decide
  have behind : ¬ (0 : Int) ≤ ((2 ^ 15 : Nat) : Int) - 2 ^ 16 := by decide
  have stale : ¬ (-32768 : Int) < ((2 ^ 15 : Nat) : Int) - 2 ^ 16 := by decide
  simp only [unwrapSeq, half, whole, if_false, behind, stale]
  congr 1

def baseDelayFrames : Nat := 2
def jitterToFramesDivisor : Nat := 20
def maxDelayFrames : Nat := 8

def adaptiveDelayFrames (jitterMs : Nat) : Nat :=
  min (baseDelayFrames + jitterMs / jitterToFramesDivisor) maxDelayFrames

def ringSize : Nat := 32

@[instance] theorem neZero_seq : NeZero (2 ^ 16) := ⟨by decide⟩

/-- What a packet brings besides its frame, and what is read when it arrives. -/
structure Packet where
  seq : Fin (2 ^ 16)
  /-- The slot that `PLAYED_SAMPLES` has come to. -/
  currentSlot : Nat
  /-- The jitter of the session in milliseconds. -/
  jitter : Nat
  deriving DecidableEq, Repr

/-- `ClientJitterBuffer`, with frames of any kind. -/
structure JitterBuffer (φ : Type*) where
  slots : Fin ringSize → Option φ
  writeSeq : Nat
  baseSeq : Nat
  baseSlot : Nat

namespace JitterBuffer

variable {φ : Type*}

def new : JitterBuffer φ := ⟨fun _ => none, 0, 0, 0⟩

def ringIndex (n : Nat) : Fin ringSize := ⟨n % ringSize, Nat.mod_lt _ (by decide)⟩

/-- The first packet sets the base. -/
def init (b : JitterBuffer φ) (packet : Packet) : JitterBuffer φ :=
  if b.baseSeq = 0 then
    { b with
      baseSeq := unwrapSeq packet.seq 0
      baseSlot := packet.currentSlot + adaptiveDelayFrames packet.jitter }
  else b

/-- The number of a packet in a buffer whose base is set. -/
def globalSeq (b : JitterBuffer φ) (packet : Packet) : Nat :=
  unwrapSeq packet.seq (b.baseSeq % 2 ^ 16)

/-- More than 1000 frames from the last accepted one. -/
def tooFar (b : JitterBuffer φ) (global : Nat) : Bool :=
  b.writeSeq ≠ 0 && 1000 < min (wrap32 (global - b.writeSeq)) (wrap32 (b.writeSeq - global))

/-- The number that belongs to a slot. -/
def expectedSeq (b : JitterBuffer φ) (slot : Nat) : Nat :=
  wrap64 ((slot : Int) - b.baseSlot + b.baseSeq)

/-- The reader has passed the position of a forward frame. -/
def overrun (b : JitterBuffer φ) (global currentSlot : Nat) : Bool :=
  b.writeSeq ≠ 0 && b.writeSeq < global && global < b.expectedSeq currentSlot

/-- Realigns the base with a frame and clears the slots of the old mapping. -/
def rebase (b : JitterBuffer φ) (global : Nat) (packet : Packet) : JitterBuffer φ :=
  if b.overrun global packet.currentSlot then
    { b with
      slots := fun _ => none
      baseSeq := global
      baseSlot := packet.currentSlot + adaptiveDelayFrames packet.jitter }
  else b

/-- Writes a frame to its slot, over whatever is there. -/
def store (b : JitterBuffer φ) (global : Nat) (frame : φ) : JitterBuffer φ :=
  { b with
    slots := Function.update b.slots (ringIndex (wrap32 (global - b.baseSeq))) (some frame)
    writeSeq := global }

/-- `decode_to_client_buffer` from the base on; `none` means that the packet is
discarded. -/
def receive (b : JitterBuffer φ) (packet : Packet) (frame : φ) : JitterBuffer φ × Option Nat :=
  let b := b.init packet
  let global := b.globalSeq packet
  if b.tooFar global then (b, none)
  else ((b.rebase global packet).store global frame, some global)

/-- The frame that the callback takes for a slot. -/
def mix (b : JitterBuffer φ) (slot : Nat) : JitterBuffer φ × Option φ :=
  if b.baseSeq = 0 then (b, none)
  else
    let expected := b.expectedSeq slot
    if expected ≤ b.writeSeq then
      let index := ringIndex (wrap64 (expected - b.baseSeq))
      ({ b with slots := Function.update b.slots index none }, b.slots index)
    else (b, none)

end JitterBuffer

end Nek0.Source
