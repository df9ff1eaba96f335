import Mathlib.Data.List.FinRange
import Nek0.Source.JitterBuffer

/-!
# Writer and reader of a jitter buffer

The two threads that share a `ClientJitterBuffer`: the event loop in
`decode_to_client_buffer` and the output callback. Each store of the writer and each
load or swap of the reader is a step of its own. What the writer loads from the buffer
it has stored itself, so a packet fixes all its stores when it comes in; the slot that
it reads from `PLAYED_SAMPLES` is an input. The frames that the pool recycles are left
out, and so is the order in which relaxed stores become visible.
-/

namespace Nek0.Source

/-- One store of the writer to the buffer. -/
inductive BufferStore (φ : Type*) where
  | baseSeq (number : Nat)
  | baseSlot (slot : Nat)
  | clear (index : Fin ringSize)
  | put (index : Fin ringSize) (frame : φ)
  | writeSeq (number : Nat)

variable {φ : Type*}

/-- The store moves the base. -/
def BufferStore.realigns : BufferStore φ → Bool
  | .baseSeq _ => true
  | .baseSlot _ => true
  | _ => false

namespace JitterBuffer

def apply (b : JitterBuffer φ) : BufferStore φ → JitterBuffer φ
  | .baseSeq number => { b with baseSeq := number }
  | .baseSlot slot => { b with baseSlot := slot }
  | .clear index => { b with slots := Function.update b.slots index none }
  | .put index frame => { b with slots := Function.update b.slots index (some frame) }
  | .writeSeq number => { b with writeSeq := number }

/-- The stores of a new base. -/
def baseStores (number : Nat) (packet : Packet) : List (BufferStore φ) :=
  [.baseSeq number, .baseSlot (packet.currentSlot + adaptiveDelayFrames packet.jitter)]

def initStores (b : JitterBuffer φ) (packet : Packet) : List (BufferStore φ) :=
  if b.baseSeq = 0 then baseStores (unwrapSeq packet.seq 0) packet else []

def rebaseStores (b : JitterBuffer φ) (global : Nat) (packet : Packet) : List (BufferStore φ) :=
  if b.overrun global packet.currentSlot then
    baseStores global packet ++ (List.finRange ringSize).map .clear
  else []

/-- The old frame is taken out before the new one is put in. -/
def frameStores (b : JitterBuffer φ) (global : Nat) (frame : φ) : List (BufferStore φ) :=
  let index := ringIndex (wrap32 (global - b.baseSeq))
  [.clear index, .put index frame, .writeSeq global]

/-- The stores of `decode_to_client_buffer` for one packet. -/
def stores (b : JitterBuffer φ) (packet : Packet) (frame : φ) : List (BufferStore φ) :=
  let based := b.init packet
  let global := based.globalSeq packet
  b.initStores packet ++
    if based.tooFar global then []
    else based.rebaseStores global packet ++
      (based.rebase global packet).frameStores global frame

theorem apply_baseStores (b : JitterBuffer φ) (number : Nat) (packet : Packet) :
    (baseStores number packet).foldl apply b =
      { b with
        baseSeq := number
        baseSlot := packet.currentSlot + adaptiveDelayFrames packet.jitter } := rfl

theorem apply_initStores (b : JitterBuffer φ) (packet : Packet) :
    (b.initStores packet).foldl apply b = b.init packet := by
  by_cases unset : b.baseSeq = 0
  · rw [initStores, init, if_pos unset, if_pos unset, apply_baseStores]
  · rw [initStores, init, if_neg unset, if_neg unset]
    rfl

theorem apply_clears (indices : List (Fin ringSize)) (b : JitterBuffer φ) :
    (indices.map .clear).foldl apply b =
      { b with slots := fun i => if i ∈ indices then none else b.slots i } := by
  induction indices generalizing b with
  | nil => simp
  | cons index indices ih =>
    simp only [List.map_cons, List.foldl_cons, ih, apply, JitterBuffer.mk.injEq, and_self, and_true]
    funext i
    by_cases same : i = index <;> simp [same]

theorem apply_rebaseStores (b : JitterBuffer φ) (global : Nat) (packet : Packet) :
    (b.rebaseStores global packet).foldl apply b = b.rebase global packet := by
  simp only [rebaseStores, rebase]
  split
  · simp [apply_baseStores, apply_clears]
  · rfl

/-- Undisturbed, the stores of a packet receive it. -/
theorem apply_stores (b : JitterBuffer φ) (packet : Packet) (frame : φ) :
    (b.stores packet frame).foldl apply b = (b.receive packet frame).1 := by
  simp only [stores, receive, List.foldl_append, apply_initStores]
  split
  · rfl
  · simp [apply_rebaseStores, frameStores, apply, store]

end JitterBuffer

/-- What the callback has read for the slot that it mixes. -/
inductive Reading where
  | idle
  | based (baseSeq : Nat)
  | placed (baseSeq baseSlot : Nat)
  /-- `write_seq` has let the slot through. -/
  | ready (baseSeq baseSlot : Nat)
  deriving DecidableEq, Repr

/-- The jitter buffer of one talker between its two threads. -/
structure Talker (φ : Type*) where
  buffer : JitterBuffer φ
  /-- The stores that are left of the packet in hand. -/
  stores : List (BufferStore φ)
  /-- The slot that the callback mixes or mixes next. -/
  slot : Nat
  reading : Reading

inductive TalkerStep (φ : Type*) where
  | arrive (packet : Packet) (frame : φ)
  | store
  /-- The next load or swap of the callback; `listed` is read when it starts a slot. -/
  | mix (listed : Bool)

namespace Talker

open JitterBuffer

def silent : Talker φ := ⟨.new, [], 0, .idle⟩

/-- The ring index that the callback computes from the base it has read. -/
def readIndex (slot baseSeq baseSlot : Nat) : Fin ringSize :=
  ringIndex (wrap64 ((wrap64 ((slot : Int) - baseSlot + baseSeq) : Int) - baseSeq))

/-- The next step of the callback, and the frame it takes. -/
def mixStep (t : Talker φ) (listed : Bool) : Talker φ × Option φ :=
  match t.reading with
  | .idle =>
    if !listed || t.buffer.baseSeq = 0 then ({ t with slot := t.slot + 1 }, none)
    else ({ t with reading := .based t.buffer.baseSeq }, none)
  | .based baseSeq => ({ t with reading := .placed baseSeq t.buffer.baseSlot }, none)
  | .placed baseSeq baseSlot =>
    if wrap64 ((t.slot : Int) - baseSlot + baseSeq) ≤ t.buffer.writeSeq then
      ({ t with reading := .ready baseSeq baseSlot }, none)
    else ({ t with slot := t.slot + 1, reading := .idle }, none)
  | .ready baseSeq baseSlot =>
    let index := readIndex t.slot baseSeq baseSlot
    ({ t with
        buffer := t.buffer.apply (.clear index)
        slot := t.slot + 1
        reading := .idle },
      t.buffer.slots index)

/-- A step of either thread, and the frame that the callback takes in it. -/
def step (t : Talker φ) : TalkerStep φ → Option (Talker φ × Option φ)
  | .arrive packet frame =>
    if t.stores.isEmpty then
      some ({ t with stores := t.buffer.stores packet frame }, none)
    else none
  | .store =>
    match t.stores with
    | [] => none
    | store :: stores =>
      some ({ t with buffer := t.buffer.apply store, stores := stores }, none)
  | .mix listed => some (t.mixStep listed)

/-- The callback mixes a slot without the writer. -/
def mixSlot (t : Talker φ) : Talker φ × Option φ :=
  let (t, frame) := t.mixStep true
  if t.reading = .idle then (t, frame)
  else
    let (t, _) := t.mixStep true
    let (t, frame) := t.mixStep true
    if t.reading = .idle then (t, frame) else t.mixStep true

/-- Undisturbed, the loads and the swap of the callback mix the slot. -/
theorem mixSlot_eq (t : Talker φ) (idle : t.reading = .idle) :
    t.mixSlot =
      ({ t with buffer := (t.buffer.mix t.slot).1, slot := t.slot + 1 },
        (t.buffer.mix t.slot).2) := by
  obtain ⟨b, stores, slot, reading⟩ := t
  cases idle
  by_cases unset : b.baseSeq = 0
  · simp [mixSlot, mixStep, mix, unset]
  · by_cases through : b.expectedSeq slot ≤ b.writeSeq
    · have gate : wrap64 ((slot : Int) - b.baseSlot + b.baseSeq) ≤ b.writeSeq := through
      simp [mixSlot, mixStep, mix, unset, gate, readIndex, apply, expectedSeq]
    · have gate : ¬ wrap64 ((slot : Int) - b.baseSlot + b.baseSeq) ≤ b.writeSeq := through
      simp [mixSlot, mixStep, mix, unset, through, gate]

end Talker

end Nek0.Source
