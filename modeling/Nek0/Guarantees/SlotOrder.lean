import Mathlib.Data.Int.Order.Basic
import Nek0.Library.Run
import Nek0.Source.JitterThreads

/-!
# Frames and their slots

Every frame of a talker is mixed in its own slot and only there, as long as no slot is
reached whose ring index still holds a frame of another one, no slot is given up whose
frame has arrived, and the base moves only when no frame waits.
-/

namespace Nek0.Guarantees

open Nek0.Library Nek0.Source Nek0.Source.JitterBuffer

/-- A frame with the number and the base under which its packet was filed. -/
structure Sent where
  seq : Nat
  /-- How often the base had been stored. -/
  epoch : Nat
  baseSeq : Nat
  baseSlot : Nat
  /-- The slot of the mixer when the packet came in. -/
  arrivedAt : Nat
  deriving DecidableEq, Repr

/-- The slot that belongs to the number. -/
def Sent.slot (frame : Sent) : Int := (frame.seq : Int) - frame.baseSeq + frame.baseSlot

def Sent.index (frame : Sent) : Fin ringSize := ringIndex (wrap32 (frame.seq - frame.baseSeq))

/-- A frame that the mixer took for a slot, with the base in force. -/
structure Mixed where
  slot : Nat
  baseSeq : Nat
  baseSlot : Nat
  frame : Sent
  deriving DecidableEq, Repr

/-- A talker and what has happened to its frames. -/
structure Observed where
  talker : Talker Sent
  epoch : Nat
  /-- The frame of the last packet. -/
  inHand : Sent
  /-- The frames that were filed before the mixer came to their slots. -/
  arrived : List Sent
  mixed : List Mixed

inductive Step where
  | arrive (packet : Packet)
  | store
  | mix (listed : Bool)
  deriving DecidableEq, Repr

namespace Observed

def start : Observed := ⟨.silent, 0, ⟨0, 0, 0, 0, 0⟩, [], []⟩

def buffer (o : Observed) : JitterBuffer Sent := o.talker.buffer

def tag (o : Observed) (packet : Packet) : Sent :=
  let received := o.buffer.receive packet o.inHand
  { seq := received.2.getD 0
    epoch := o.epoch + (o.buffer.stores packet o.inHand).countP BufferStore.realigns
    baseSeq := received.1.baseSeq
    baseSlot := received.1.baseSlot
    arrivedAt := o.talker.slot }

/-- The mixer has not begun with the slot of the frame. -/
def inTime (o : Observed) (frame : Sent) : Bool :=
  o.talker.slot < frame.slot || (o.talker.slot = frame.slot && o.talker.reading = .idle)

/-- What a store changes in the records. -/
def record (o : Observed) : BufferStore Sent → Observed
  | .baseSeq _ => { o with epoch := o.epoch + 1 }
  | .baseSlot _ => { o with epoch := o.epoch + 1 }
  | .writeSeq _ => if o.inTime o.inHand then { o with arrived := o.inHand :: o.arrived } else o
  | _ => o

def take (o : Observed) : Option Sent → List Mixed
  | none => o.mixed
  | some frame => ⟨o.talker.slot, o.buffer.baseSeq, o.buffer.baseSlot, frame⟩ :: o.mixed

def step (o : Observed) : Step → Option Observed
  | .arrive packet =>
    (o.talker.step (.arrive packet (o.tag packet))).map fun (talker, _) =>
      { o with talker := talker, inHand := o.tag packet }
  | .store =>
    (o.talker.step .store).map fun (talker, _) =>
      { (o.talker.stores.head?.elim o o.record) with talker := talker }
  | .mix listed =>
    (o.talker.step (.mix listed)).map fun (talker, taken) =>
      { o with talker := talker, mixed := o.take taken }

/-- No frame has arrived for the slot of the mixer. -/
def noneDue (o : Observed) : Bool := o.arrived.all (·.slot ≠ o.talker.slot)

def hasMixed (o : Observed) (number : Nat) : Bool := o.mixed.any (·.frame.seq = number)

/-- The base that the callback has read is still in force. -/
def inForce (o : Observed) (baseSeq baseSlot : Nat) : Bool :=
  baseSeq = o.buffer.baseSeq && baseSlot = o.buffer.baseSlot

/-- The writer has emptied the slot and not filled it yet. -/
def refilling (o : Observed) (index : Fin ringSize) : Bool :=
  match o.talker.stores with
  | .put filled _ :: _ => filled = index
  | _ => false

/-- The frame was filed under the base in force, and its slot is neither over nor a
whole ring or more ahead. -/
def current (o : Observed) (frame : Sent) : Bool :=
  frame.epoch = o.epoch && o.talker.slot ≤ frame.slot && frame.slot < o.talker.slot + ringSize

/-- A store moves the base only when no frame waits, does not replace a waiting frame
by one of another number, and does not file a frame again that was mixed before the
base moved. -/
def storesCalmly (o : Observed) : Bool :=
  match o.talker.stores with
  | .baseSeq _ :: _ => o.arrived.all (·.slot < o.talker.slot)
  | .baseSlot _ :: _ => o.arrived.all (·.slot < o.talker.slot)
  | .clear index :: .put _ _ :: _ => o.arrived.all fun frame =>
      frame.slot < o.talker.slot || frame.index ≠ index || frame.seq = o.inHand.seq
  | .clear index :: _ => o.arrived.all fun frame =>
      frame.slot < o.talker.slot || frame.index ≠ index
  | .put _ _ :: _ => !o.hasMixed o.inHand.seq || o.inHand.slot < o.talker.slot
  | _ => true

/-- The callback does not give up a slot whose frame has arrived, and finds no frame
of another slot in the ring. -/
def mixesCalmly (o : Observed) (listed : Bool) : Bool :=
  match o.talker.reading with
  | .idle => (listed && o.buffer.baseSeq ≠ 0) || o.noneDue
  | .based _ => true
  | .placed baseSeq baseSlot =>
    wrap64 ((o.talker.slot : Int) - baseSlot + baseSeq) ≤ o.buffer.writeSeq || o.noneDue
  | .ready baseSeq baseSlot =>
    let index := Talker.readIndex o.talker.slot baseSeq baseSlot
    (o.noneDue || (o.inForce baseSeq baseSlot && !o.refilling index)) &&
      (o.buffer.slots index).all fun frame => o.inForce baseSeq baseSlot && o.current frame

def calmly (o : Observed) : Step → Bool
  | .arrive _ => true
  | .store => o.storesCalmly
  | .mix listed => o.mixesCalmly listed

end Observed

/-- The mixer took the frame whose number belongs to the slot, its packet came in before
the slot was mixed, and every frame that arrived in time has been mixed once. -/
structure InOrder (o : Observed) : Prop where
  numbers : ∀ m ∈ o.mixed, (m.frame.seq : Int) = m.baseSeq + ((m.slot : Int) - m.baseSlot)
  late : ∀ m ∈ o.mixed, (m.frame.arrivedAt : Int) ≤ m.frame.slot
  once : ∀ frame ∈ o.arrived, frame.slot < o.talker.slot →
    o.mixed.countP (·.frame.seq = frame.seq) = 1

theorem readIndex_val (slot baseSeq baseSlot : Nat) :
    (Talker.readIndex slot baseSeq baseSlot).val = (((slot : Int) - baseSlot) % 32).toNat := by
  simp only [Talker.readIndex, ringIndex, ringSize, wrap64]
  omega

theorem Sent.index_val (frame : Sent) :
    frame.index.val = (((frame.seq : Int) - frame.baseSeq) % 32).toNat := by
  simp only [Sent.index, ringIndex, ringSize, wrap32]
  omega

/-- A frame of the next 32 slots has the ring index of its own slot only. -/
theorem Sent.slot_eq_iff {frame : Sent} {slot : Nat} (begun : (slot : Int) ≤ frame.slot)
    (near : frame.slot < slot + ringSize) :
    frame.slot = slot ↔ frame.index = Talker.readIndex slot frame.baseSeq frame.baseSlot := by
  rw [Fin.ext_iff, readIndex_val, Sent.index_val]
  simp only [Sent.slot, ringSize] at *
  omega

/-- The frame of a number has the same slot and index wherever it was filed under the
same base. -/
theorem Sent.slot_congr {frame other : Sent} (number : frame.seq = other.seq)
    (baseSeq : frame.baseSeq = other.baseSeq) (baseSlot : frame.baseSlot = other.baseSlot) :
    frame.slot = other.slot ∧ frame.index = other.index := by
  simp only [Sent.slot, Sent.index, number, baseSeq, baseSlot, and_self]

/-- The next store, if any, moves the base or empties a slot. -/
def Opening (stores : List (BufferStore Sent)) : Prop :=
  ∀ head ∈ stores.head?, head.realigns = true ∨ ∃ index, head = .clear index

theorem Opening.not_put {stores : List (BufferStore Sent)} (opening : Opening stores)
    {index : Fin ringSize} {frame : Sent} : stores.head? ≠ some (.put index frame) := by
  intro head
  obtain moves | ⟨_, clears⟩ := opening _ head
  · cases moves
  · cases clears

theorem Opening.not_writeSeq {stores : List (BufferStore Sent)} (opening : Opening stores)
    {number : Nat} : stores.head? ≠ some (.writeSeq number) := by
  intro head
  obtain moves | ⟨_, clears⟩ := opening _ head
  · cases moves
  · cases clears

theorem opening_nil : Opening [] := fun _ head => nomatch head

theorem opening_clear {index : Fin ringSize} {stores : List (BufferStore Sent)} :
    Opening (.clear index :: stores) := by
  rintro _ ⟨⟩
  exact .inr ⟨index, rfl⟩

theorem opening_base {number : Nat} {packet : Packet} {stores : List (BufferStore Sent)} :
    Opening (baseStores number packet ++ stores) := by
  rintro _ ⟨⟩
  exact .inl rfl

theorem opening_rebase {b : JitterBuffer Sent} {global : Nat} {packet : Packet}
    {stores : List (BufferStore Sent)} (opening : Opening stores) :
    Opening (b.rebaseStores global packet ++ stores) := by
  simp only [rebaseStores]
  split
  · rw [List.append_assoc]
    exact opening_base
  · exact opening

theorem opening_init {b : JitterBuffer Sent} {packet : Packet}
    {stores : List (BufferStore Sent)} (opening : Opening stores) :
    Opening (b.initStores packet ++ stores) := by
  simp only [initStores]
  split
  · exact opening_base
  · exact opening

theorem opening_frame {b : JitterBuffer Sent} {global : Nat} {packet : Packet} {frame : Sent}
    {discarded : Bool} :
    Opening (if discarded then [] else b.rebaseStores global packet ++
      (b.rebase global packet).frameStores global frame) := by
  split
  · exact opening_nil
  · exact opening_rebase opening_clear

theorem opening_stores {b : JitterBuffer Sent} {packet : Packet} {frame : Sent} :
    Opening (b.stores packet frame) :=
  opening_init opening_frame

/-- The stores left of a packet that end with filing the frame under the base which they
leave behind. -/
inductive Filing (frame : Sent) : Nat → Nat → Nat → List (BufferStore Sent) → Prop where
  | done {epoch baseSeq baseSlot : Nat} : Filing frame epoch baseSeq baseSlot []
  | baseSeq {epoch baseSeq baseSlot number : Nat} {stores : List (BufferStore Sent)}
      (left : Filing frame (epoch + 1) number baseSlot stores) (opening : Opening stores) :
      Filing frame epoch baseSeq baseSlot (.baseSeq number :: stores)
  | baseSlot {epoch baseSeq baseSlot slot : Nat} {stores : List (BufferStore Sent)}
      (left : Filing frame (epoch + 1) baseSeq slot stores) (opening : Opening stores) :
      Filing frame epoch baseSeq baseSlot (.baseSlot slot :: stores)
  | clear {epoch baseSeq baseSlot : Nat} {index : Fin ringSize}
      {stores : List (BufferStore Sent)} (left : Filing frame epoch baseSeq baseSlot stores)
      (opening : Opening stores) : Filing frame epoch baseSeq baseSlot (.clear index :: stores)
  | evict : Filing frame frame.epoch frame.baseSeq frame.baseSlot
      [.clear frame.index, .put frame.index frame, .writeSeq frame.seq]
  | put : Filing frame frame.epoch frame.baseSeq frame.baseSlot
      [.put frame.index frame, .writeSeq frame.seq]
  | writeSeq : Filing frame frame.epoch frame.baseSeq frame.baseSlot [.writeSeq frame.seq]

theorem Filing.baseStores {frame : Sent} {epoch baseSeq baseSlot number : Nat} {packet : Packet}
    {stores : List (BufferStore Sent)}
    (left : Filing frame (epoch + 2) number
      (packet.currentSlot + adaptiveDelayFrames packet.jitter) stores) (opening : Opening stores) :
    Filing frame epoch baseSeq baseSlot (JitterBuffer.baseStores number packet ++ stores) := by
  refine .baseSeq (.baseSlot left opening) ?_
  rintro _ ⟨⟩
  exact .inl rfl

theorem Filing.clears {frame : Sent} {epoch baseSeq baseSlot : Nat}
    {stores : List (BufferStore Sent)} (indices : List (Fin ringSize))
    (left : Filing frame epoch baseSeq baseSlot stores) (opening : Opening stores) :
    Filing frame epoch baseSeq baseSlot (indices.map .clear ++ stores) ∧
      Opening (indices.map .clear ++ stores) := by
  induction indices with
  | nil => exact ⟨left, opening⟩
  | cons index indices ih => exact ⟨.clear ih.1 ih.2, opening_clear⟩

theorem Filing.frameStores {frame : Sent} {epoch : Nat} {b : JitterBuffer Sent}
    (stamped : frame.epoch = epoch) (baseSeq : frame.baseSeq = b.baseSeq)
    (baseSlot : frame.baseSlot = b.baseSlot) :
    Filing frame epoch b.baseSeq b.baseSlot (b.frameStores frame.seq frame) := by
  have index : ringIndex (wrap32 (frame.seq - b.baseSeq)) = frame.index := by
    rw [Sent.index, baseSeq]
  rw [JitterBuffer.frameStores, index, ← stamped, ← baseSeq, ← baseSlot]
  exact .evict

theorem Filing.rebaseStores {frame : Sent} {epoch : Nat} {b : JitterBuffer Sent} {packet : Packet}
    (stamped : frame.epoch =
      epoch + (b.rebaseStores frame.seq packet).countP BufferStore.realigns)
    (baseSeq : frame.baseSeq = (b.rebase frame.seq packet).baseSeq)
    (baseSlot : frame.baseSlot = (b.rebase frame.seq packet).baseSlot) :
    Filing frame epoch b.baseSeq b.baseSlot
      (b.rebaseStores frame.seq packet ++
        (b.rebase frame.seq packet).frameStores frame.seq frame) := by
  by_cases overrun : b.overrun frame.seq packet.currentSlot
  · have counted : (b.rebaseStores frame.seq packet).countP BufferStore.realigns = 2 := by
      simp only [JitterBuffer.rebaseStores, overrun, if_true]
      rfl
    have last := Filing.frameStores (stamped.trans (by rw [counted])) baseSeq baseSlot
    have cleared := Filing.clears (List.finRange ringSize) last opening_clear
    simp only [JitterBuffer.rebaseStores, rebase, overrun, if_true, List.append_assoc] at cleared ⊢
    exact .baseStores cleared.1 cleared.2
  · have last := Filing.frameStores (b := b.rebase frame.seq packet) stamped baseSeq baseSlot
    simpa [JitterBuffer.rebaseStores, rebase, overrun] using last

theorem Filing.initStores {frame : Sent} {epoch : Nat} {b : JitterBuffer Sent} {packet : Packet}
    {stores : List (BufferStore Sent)}
    (left : Filing frame (epoch + (b.initStores packet).countP BufferStore.realigns)
      (b.init packet).baseSeq (b.init packet).baseSlot stores) (opening : Opening stores) :
    Filing frame epoch b.baseSeq b.baseSlot (b.initStores packet ++ stores) := by
  by_cases unset : b.baseSeq = 0
  · have counted : (b.initStores packet).countP BufferStore.realigns = 2 := by
      simp only [JitterBuffer.initStores, unset, if_true]
      rfl
    rw [counted] at left
    simp only [JitterBuffer.initStores, init, unset, if_true] at left ⊢
    exact .baseStores left opening
  · simpa [JitterBuffer.initStores, init, unset] using left

theorem Observed.tag_filing (o : Observed) (packet : Packet) :
    Filing (o.tag packet) o.epoch o.buffer.baseSeq o.buffer.baseSlot
      (o.buffer.stores packet (o.tag packet)) := by
  refine Filing.initStores ?_ opening_frame
  by_cases far : (o.buffer.init packet).tooFar ((o.buffer.init packet).globalSeq packet)
  · simp only [far, if_true]
    exact .done
  · simp only [far, if_false, Bool.false_eq_true]
    have seq : (o.tag packet).seq = (o.buffer.init packet).globalSeq packet := by
      simp [tag, receive, far]
    rw [← seq]
    apply Filing.rebaseStores
    · simp [tag, JitterBuffer.stores, receive, far, frameStores, BufferStore.realigns,
        Nat.add_assoc]
    · simp [tag, receive, far, store]
    · simp [tag, receive, far, store]

section Inversion

variable {frame : Sent} {epoch baseSeq baseSlot : Nat} {stores : List (BufferStore Sent)}

theorem Filing.of_baseSeq {number : Nat}
    (filing : Filing frame epoch baseSeq baseSlot (.baseSeq number :: stores)) :
    Filing frame (epoch + 1) number baseSlot stores ∧ Opening stores := by
  cases filing with
  | baseSeq left opening => exact ⟨left, opening⟩

theorem Filing.of_baseSlot {slot : Nat}
    (filing : Filing frame epoch baseSeq baseSlot (.baseSlot slot :: stores)) :
    Filing frame (epoch + 1) baseSeq slot stores ∧ Opening stores := by
  cases filing with
  | baseSlot left opening => exact ⟨left, opening⟩

theorem Filing.of_clear {index : Fin ringSize}
    (filing : Filing frame epoch baseSeq baseSlot (.clear index :: stores)) :
    Filing frame epoch baseSeq baseSlot stores ∧
      (Opening stores ∨ stores = [.put frame.index frame, .writeSeq frame.seq] ∧
        frame.index = index ∧ frame.epoch = epoch) := by
  cases filing with
  | clear left opening => exact ⟨left, .inl opening⟩
  | evict => exact ⟨.put, .inr ⟨rfl, rfl, rfl⟩⟩

theorem Filing.of_put {index : Fin ringSize} {filed : Sent}
    (filing : Filing frame epoch baseSeq baseSlot (.put index filed :: stores)) :
    index = frame.index ∧ filed = frame ∧ stores = [.writeSeq frame.seq] ∧
      frame.epoch = epoch ∧ frame.baseSeq = baseSeq ∧ frame.baseSlot = baseSlot := by
  cases filing with
  | put => exact ⟨rfl, rfl, rfl, rfl, rfl, rfl⟩

theorem Filing.of_writeSeq {number : Nat}
    (filing : Filing frame epoch baseSeq baseSlot (.writeSeq number :: stores)) :
    stores = [] ∧ frame.epoch = epoch ∧ frame.baseSeq = baseSeq ∧ frame.baseSlot = baseSlot := by
  cases filing with
  | writeSeq => exact ⟨rfl, rfl, rfl, rfl⟩

end Inversion

/-- A frame in the ring, while the base in force, the slot of the mixer, the epoch and the
mixed frames are these. -/
structure InRing (baseSeq baseSlot slot epoch : Nat) (mixed : List Mixed)
    (index : Fin ringSize) (frame : Sent) : Prop where
  index : frame.index = index
  arrivedAt : frame.arrivedAt ≤ slot
  filed : frame.epoch ≤ epoch
  base : frame.epoch = epoch → frame.baseSeq = baseSeq ∧ frame.baseSlot = baseSlot
  fresh : frame.epoch = epoch → slot ≤ frame.slot → ∀ m ∈ mixed, m.frame.seq ≠ frame.seq

/-- A frame that has arrived in time and waits for its slot: it or a frame of the same
number is in the ring or goes there with the next store. -/
structure Waiting (b : JitterBuffer Sent) (epoch : Nat) (stores : List (BufferStore Sent))
    (frame : Sent) : Prop where
  filed : frame.epoch = epoch
  base : frame.baseSeq = b.baseSeq ∧ frame.baseSlot = b.baseSlot
  kept : ∃ copy, copy.seq = frame.seq ∧ copy.epoch = epoch ∧
    (b.slots frame.index = some copy ∨ stores.head? = some (.put frame.index copy))

structure RingSound (o : Observed) : Prop where
  filing : Filing o.inHand o.epoch o.buffer.baseSeq o.buffer.baseSlot o.talker.stores
  hand : o.inHand.arrivedAt ≤ o.talker.slot
  ring : ∀ index frame, o.buffer.slots index = some frame →
    InRing o.buffer.baseSeq o.buffer.baseSlot o.talker.slot o.epoch o.mixed index frame
  emptied : ∀ index frame, o.talker.stores.head? = some (.put index frame) →
    o.buffer.slots index = none
  published : ∀ number, o.talker.stores.head? = some (.writeSeq number) →
    o.talker.slot ≤ o.inHand.slot → o.buffer.slots o.inHand.index = some o.inHand
  waiting : ∀ frame ∈ o.arrived, o.talker.slot ≤ frame.slot →
    Waiting o.buffer o.epoch o.talker.stores frame
  past : ∀ frame ∈ o.arrived, frame.slot < o.talker.slot → ∃ m ∈ o.mixed, m.frame.seq = frame.seq
  numbers : ∀ m ∈ o.mixed, (m.frame.seq : Int) = m.baseSeq + ((m.slot : Int) - m.baseSlot)
  late : ∀ m ∈ o.mixed, (m.frame.arrivedAt : Int) ≤ m.frame.slot
  distinct : (o.mixed.map (·.frame.seq)).Nodup

theorem ring_start : RingSound .start where
  filing := .done
  hand := Nat.zero_le _
  ring _ _ held := nomatch held
  emptied _ _ head := nomatch head
  published _ head := nomatch head
  waiting _ held := nomatch held
  past _ held := nomatch held
  numbers _ held := nomatch held
  late _ held := nomatch held
  distinct := List.nodup_nil

theorem ring_arrive {o after : Observed} {packet : Packet} (sound : RingSound o)
    (taken : o.step (.arrive packet) = some after) : RingSound after := by
  simp only [Observed.step, Talker.step, Option.map_eq_some_iff, Option.ite_none_right_eq_some,
    List.isEmpty_iff, Option.some.injEq] at taken
  obtain ⟨_, ⟨idle, rfl⟩, rfl⟩ := taken
  constructor
  · exact o.tag_filing packet
  · exact le_rfl
  · exact sound.ring
  · exact fun _ _ head => absurd head opening_stores.not_put
  · exact fun _ head => absurd head opening_stores.not_writeSeq
  · intro frame held begun
    obtain ⟨epoch, base, copy, number, filed, kept⟩ := sound.waiting frame held begun
    have slots : o.buffer.slots frame.index = some copy := by simpa [idle] using kept
    exact ⟨epoch, base, copy, number, filed, .inl slots⟩
  · exact sound.past
  · exact sound.numbers
  · exact sound.late
  · exact sound.distinct

theorem step_store {o after : Observed} (taken : o.step .store = some after) :
    ∃ store stores, o.talker.stores = store :: stores ∧
      after = { o.record store with
        talker := { o.talker with buffer := o.buffer.apply store, stores := stores } } := by
  simp only [Observed.step, Talker.step] at taken
  cases left : o.talker.stores with
  | nil => simp [left] at taken
  | cons store stores =>
    simp only [left, Option.map_some, List.head?_cons, Option.elim_some, Option.some.injEq] at taken
    exact ⟨store, stores, rfl, taken.symm⟩

/-- A store of the base leaves every frame in the ring behind. -/
theorem ring_realign {o : Observed} {store : BufferStore Sent}
    {stores : List (BufferStore Sent)} (sound : RingSound o)
    (kept : (o.buffer.apply store).slots = o.buffer.slots)
    (left : Filing o.inHand (o.epoch + 1) (o.buffer.apply store).baseSeq
      (o.buffer.apply store).baseSlot stores)
    (opening : Opening stores)
    (calm : ∀ frame ∈ o.arrived, frame.slot < o.talker.slot) :
    RingSound { o with
      epoch := o.epoch + 1
      talker := { o.talker with buffer := o.buffer.apply store, stores := stores } } := by
  constructor
  · exact left
  · exact sound.hand
  · intro index frame held
    obtain ⟨index, arrivedAt, epoch, -, -⟩ :=
      sound.ring index frame ((congrFun kept index).symm.trans held)
    refine ⟨index, arrivedAt, epoch.trans (Nat.le_succ _), ?_, ?_⟩
    · exact fun same => absurd (same ▸ epoch) (Nat.not_succ_le_self _)
    · exact fun same => absurd (same ▸ epoch) (Nat.not_succ_le_self _)
  · exact fun _ _ head => absurd head opening.not_put
  · exact fun _ head => absurd head opening.not_writeSeq
  · intro frame held begun
    exact absurd (calm frame held) (not_lt.mpr begun)
  · exact sound.past
  · exact sound.numbers
  · exact sound.late
  · exact sound.distinct

/-- Emptying a slot loses no waiting frame that is not filed again at once. -/
theorem ring_clear {o : Observed} {index : Fin ringSize}
    {stores : List (BufferStore Sent)} (sound : RingSound o)
    (head : o.talker.stores.head? = some (.clear index))
    (left : Filing o.inHand o.epoch o.buffer.baseSeq o.buffer.baseSlot stores)
    (emptied : ∀ next frame, stores.head? = some (.put next frame) → next = index)
    (pending : ∀ number, stores.head? ≠ some (.writeSeq number))
    (calm : ∀ frame ∈ o.arrived, o.talker.slot ≤ frame.slot → frame.index = index →
      frame.seq = o.inHand.seq ∧ stores.head? = some (.put o.inHand.index o.inHand) ∧
        o.inHand.epoch = o.epoch) :
    RingSound { o with
      talker := { o.talker with buffer := o.buffer.apply (.clear index), stores := stores } } := by
  have slots (other : Fin ringSize) : (o.buffer.apply (.clear index)).slots other =
      if other = index then none else o.buffer.slots other := by
    simp [apply, Function.update_apply]
  constructor
  · exact left
  · exact sound.hand
  · intro other frame held
    have kept : o.buffer.slots other = some frame := by
      have cleared := (slots other).symm.trans held
      split at cleared
      · cases cleared
      · exact cleared
    exact sound.ring other frame kept
  · intro next frame filled
    exact (slots next).trans (if_pos (emptied next frame filled))
  · exact fun number filled => absurd filled (pending number)
  · intro frame held begun
    obtain ⟨epoch, base, copy, number, filed, kept⟩ := sound.waiting frame held begun
    by_cases here : frame.index = index
    · obtain ⟨same, put, stamped⟩ := calm frame held begun here
      have filled : o.inHand.index = frame.index := (emptied _ _ put).trans here.symm
      exact ⟨epoch, base, o.inHand, same.symm, stamped, .inr (filled ▸ put)⟩
    · refine ⟨epoch, base, copy, number, filed, .inl ((slots _).trans ?_)⟩
      rw [if_neg here]
      obtain kept | kept := kept
      · exact kept
      · rw [head] at kept
        cases kept
  · exact sound.past
  · exact sound.numbers
  · exact sound.late
  · exact sound.distinct

theorem hasMixed_iff {o : Observed} {number : Nat} :
    o.hasMixed number = true ↔ ∃ m ∈ o.mixed, m.frame.seq = number := by
  simp [Observed.hasMixed]

/-- The frame in hand goes into a slot that is empty. -/
theorem ring_put {o : Observed} {stores : List (BufferStore Sent)} (sound : RingSound o)
    (head : o.talker.stores.head? = some (.put o.inHand.index o.inHand))
    (left : stores = [.writeSeq o.inHand.seq]) (stamped : o.inHand.epoch = o.epoch)
    (base : o.inHand.baseSeq = o.buffer.baseSeq ∧ o.inHand.baseSlot = o.buffer.baseSlot)
    (calm : o.talker.slot ≤ o.inHand.slot → ∀ m ∈ o.mixed, m.frame.seq ≠ o.inHand.seq) :
    RingSound { o with
      talker := { o.talker with
        buffer := o.buffer.apply (.put o.inHand.index o.inHand), stores := stores } } := by
  subst left
  have slots (other : Fin ringSize) :
      (o.buffer.apply (.put o.inHand.index o.inHand)).slots other =
        if other = o.inHand.index then some o.inHand else o.buffer.slots other := by
    simp [apply, Function.update_apply]
  constructor
  · have published : Filing o.inHand o.epoch o.buffer.baseSeq o.buffer.baseSlot
        [.writeSeq o.inHand.seq] := by
      rw [← stamped, ← base.1, ← base.2]
      exact .writeSeq
    exact published
  · exact sound.hand
  · intro index frame held
    have placed := (slots index).symm.trans held
    split at placed
    · cases placed
      rename_i here
      exact ⟨here.symm, sound.hand, stamped.le, fun _ => base, fun _ => calm⟩
    · exact sound.ring index frame placed
  · intro _ _ filled
    cases filled
  · exact fun _ _ _ => (slots _).trans (if_pos rfl)
  · intro frame held begun
    obtain ⟨epoch, base, copy, number, filed, kept⟩ := sound.waiting frame held begun
    refine ⟨epoch, base, copy, number, filed, .inl ((slots _).trans ?_)⟩
    obtain kept | kept := kept
    · -- The slot in hand has been emptied, so this frame lies in another one.
      split
      · rename_i here
        rw [here, sound.emptied _ _ head] at kept
        cases kept
      · exact kept
    · simp only [head, Option.some.injEq, BufferStore.put.injEq] at kept
      rw [if_pos kept.1.symm, kept.2]
  · exact sound.past
  · exact sound.numbers
  · exact sound.late
  · exact sound.distinct

/-- A frame in the ring has arrived in time if its slot is still to come. -/
theorem ring_arrived {o : Observed} {frame : Sent} (sound : RingSound o)
    (stamped : frame.epoch = o.epoch)
    (base : frame.baseSeq = o.buffer.baseSeq ∧ frame.baseSlot = o.buffer.baseSlot)
    (begun : o.talker.slot ≤ frame.slot) (held : o.buffer.slots frame.index = some frame) :
    RingSound { o with arrived := frame :: o.arrived } := by
  refine { sound with waiting := ?_, past := ?_ }
  · simp only [List.forall_mem_cons]
    exact ⟨fun _ => ⟨stamped, base, frame, rfl, stamped, .inl held⟩, sound.waiting⟩
  · simp only [List.forall_mem_cons]
    exact ⟨fun gone => absurd gone (not_lt.mpr begun), sound.past⟩

theorem ring_writeSeq {o : Observed} {number : Nat} (sound : RingSound o)
    (head : o.talker.stores.head? = some (.writeSeq number))
    (stamped : o.inHand.epoch = o.epoch)
    (base : o.inHand.baseSeq = o.buffer.baseSeq ∧ o.inHand.baseSlot = o.buffer.baseSlot) :
    RingSound { o.record (.writeSeq number) with
      talker := { o.talker with buffer := o.buffer.apply (.writeSeq number), stores := [] } } := by
  have unchanged : RingSound { o with
      talker := { o.talker with buffer := o.buffer.apply (.writeSeq number), stores := [] } } := by
    constructor
    · exact .done
    · exact sound.hand
    · exact sound.ring
    · exact fun _ _ filled => nomatch filled
    · exact fun _ filled => nomatch filled
    · intro frame held begun
      obtain ⟨epoch, base, copy, number, filed, kept⟩ := sound.waiting frame held begun
      rw [head] at kept
      exact ⟨epoch, base, copy, number, filed, .inl (kept.resolve_right (nomatch ·))⟩
    · exact sound.past
    · exact sound.numbers
    · exact sound.late
    · exact sound.distinct
  simp only [Observed.record]
  split
  · rename_i inTime
    have begun : (o.talker.slot : Int) ≤ o.inHand.slot := by
      simp only [Observed.inTime, Bool.or_eq_true, Bool.and_eq_true, decide_eq_true_eq] at inTime
      omega
    exact ring_arrived unchanged stamped base begun (sound.published _ head begun)
  · exact unchanged

theorem ring_reading {o : Observed} (sound : RingSound o) (reading : Reading) :
    RingSound { o with talker := { o.talker with reading := reading } } :=
  ⟨sound.filing, sound.hand, sound.ring, sound.emptied, sound.published, sound.waiting,
    sound.past, sound.numbers, sound.late, sound.distinct⟩

theorem noneDue_iff {o : Observed} :
    o.noneDue = true ↔ ∀ frame ∈ o.arrived, frame.slot ≠ o.talker.slot := by
  simp [Observed.noneDue]

/-- A slot without a frame is over. -/
theorem ring_skip {o : Observed} (sound : RingSound o) (calm : o.noneDue = true) :
    RingSound
      { o with talker := { o.talker with slot := o.talker.slot + 1, reading := .idle } } := by
  rw [noneDue_iff] at calm
  constructor
  · exact sound.filing
  · exact sound.hand.trans (Nat.le_succ _)
  · intro index frame held
    obtain ⟨index, arrivedAt, filed, base, fresh⟩ := sound.ring index frame held
    refine ⟨index, arrivedAt.trans (Nat.le_succ _), filed, base, fun same begun => ?_⟩
    exact fresh same (by push_cast at begun; omega)
  · exact sound.emptied
  · intro number head begun
    exact sound.published number head (by push_cast at begun; omega)
  · intro frame held begun
    exact sound.waiting frame held (by push_cast at begun; omega)
  · intro frame held gone
    have elsewhere := calm frame held
    exact sound.past frame held (by push_cast at gone; omega)
  · exact sound.numbers
  · exact sound.late
  · exact sound.distinct

/-- A frame of the slot that has arrived lies where the callback reads. -/
theorem due_in_ring {o : Observed} {frame : Sent} {baseSeq baseSlot : Nat} (sound : RingSound o)
    (held : frame ∈ o.arrived) (due : frame.slot = o.talker.slot)
    (inForce : o.inForce baseSeq baseSlot = true)
    (filled : o.refilling (Talker.readIndex o.talker.slot baseSeq baseSlot) = false) :
    ∃ copy, o.buffer.slots (Talker.readIndex o.talker.slot baseSeq baseSlot) = some copy ∧
      copy.seq = frame.seq := by
  simp only [Observed.inForce, Bool.and_eq_true, decide_eq_true_eq] at inForce
  obtain ⟨filed, base, copy, number, -, kept⟩ := sound.waiting frame held due.ge
  have here : frame.index = Talker.readIndex o.talker.slot baseSeq baseSlot := by
    rw [inForce.1, inForce.2, ← base.1, ← base.2]
    exact (Sent.slot_eq_iff due.ge (by rw [due, ringSize]; omega)).mp due
  rw [here] at kept
  obtain kept | head := kept
  · exact ⟨copy, kept, number⟩
  · simp only [Observed.refilling] at filled
    cases left : o.talker.stores with
    | nil => simp [left] at head
    | cons store stores =>
      simp only [left, List.head?_cons, Option.some.injEq] at head
      simp [left, head] at filled

/-- The frame that the callback takes is the one of the slot. -/
theorem ring_take {o : Observed} {frame : Sent} {index : Fin ringSize} (sound : RingSound o)
    (taken : o.buffer.slots index = some frame) (filed : frame.epoch = o.epoch)
    (own : frame.slot = o.talker.slot)
    (due : ∀ other ∈ o.arrived, other.slot = o.talker.slot → frame.seq = other.seq) :
    RingSound { o with
      talker := { o.talker with
        buffer := o.buffer.apply (.clear index)
        slot := o.talker.slot + 1
        reading := .idle }
      mixed := o.take (some frame) } := by
  obtain ⟨-, arrivedAt, -, base, fresh⟩ := sound.ring index frame taken
  have slots (other : Fin ringSize) : (o.buffer.apply (.clear index)).slots other =
      if other = index then none else o.buffer.slots other := by
    simp [apply, Function.update_apply]
  -- A frame of a later slot lies elsewhere in the ring and has another number.
  have apart {other : Sent} (baseSeq : other.baseSeq = o.buffer.baseSeq)
      (baseSlot : other.baseSlot = o.buffer.baseSlot) (later : (o.talker.slot : Int) < other.slot) :
      frame.seq ≠ other.seq := by
    intro number
    have same := Sent.slot_congr number ((base filed).1.trans baseSeq.symm)
      ((base filed).2.trans baseSlot.symm)
    omega
  constructor
  · exact sound.filing
  · exact sound.hand.trans (Nat.le_succ _)
  · intro other held kept
    have kept : o.buffer.slots other = some held := by
      have cleared := (slots other).symm.trans kept
      split at cleared
      · cases cleared
      · exact cleared
    obtain ⟨place, arrivedAt, filed, base, fresh⟩ := sound.ring other held kept
    refine ⟨place, arrivedAt.trans (Nat.le_succ _), filed, base, fun same begun => ?_⟩
    have later : (o.talker.slot : Int) < held.slot := by push_cast at begun; omega
    simp only [Observed.take, List.forall_mem_cons]
    exact ⟨apart (base same).1 (base same).2 later, fresh same later.le⟩
  · intro other held head
    refine (slots other).trans ?_
    split
    · rfl
    · exact sound.emptied other held head
  · intro number head begun
    have later : (o.talker.slot : Int) < o.inHand.slot := by push_cast at begun; omega
    have kept := sound.published number head later.le
    refine (slots _).trans ((if_neg ?_).trans kept)
    intro here
    rw [here, taken, Option.some.injEq] at kept
    rw [kept] at own
    omega
  · intro other held begun
    have later : (o.talker.slot : Int) < other.slot := by push_cast at begun; omega
    obtain ⟨stamped, place, copy, number, copied, kept⟩ := sound.waiting other held later.le
    refine ⟨stamped, place, copy, number, copied, kept.imp_left fun kept => ?_⟩
    refine (slots _).trans ((if_neg ?_).trans kept)
    intro here
    rw [here, taken, Option.some.injEq] at kept
    exact apart place.1 place.2 later (kept ▸ number)
  · intro other held gone
    by_cases now : other.slot = o.talker.slot
    · exact ⟨_, List.mem_cons_self, due other held now⟩
    · obtain ⟨m, mixed, same⟩ := sound.past other held (by push_cast at gone; omega)
      exact ⟨m, List.mem_cons_of_mem _ mixed, same⟩
  · simp only [Observed.take, List.forall_mem_cons]
    refine ⟨?_, sound.numbers⟩
    simp only [Sent.slot, base filed] at own
    omega
  · simp only [Observed.take, List.forall_mem_cons]
    exact ⟨by omega, sound.late⟩
  · simp only [Observed.take, List.map_cons, List.nodup_cons, List.mem_map, not_exists, not_and]
    exact ⟨fresh filed own.ge, sound.distinct⟩

/-- A slot that is emptied for a new base holds no waiting frame. -/
theorem calm_clear {o : Observed} {index : Fin ringSize} {stores : List (BufferStore Sent)}
    (left : o.talker.stores = .clear index :: stores) (opening : Opening stores)
    (calm : o.storesCalmly = true) :
    ∀ frame ∈ o.arrived, o.talker.slot ≤ frame.slot → frame.index ≠ index := by
  intro frame held begun place
  simp only [Observed.storesCalmly, left] at calm
  cases stores with
  | nil =>
    simp only [List.all_eq_true, Bool.or_eq_true, decide_eq_true_eq] at calm
    exact (calm frame held).elim (not_lt.mpr begun) (· place)
  | cons next rest =>
    cases next with
    | put other filed => exact opening.not_put rfl
    | baseSeq | baseSlot | clear | writeSeq =>
      simp only [List.all_eq_true, Bool.or_eq_true, decide_eq_true_eq] at calm
      exact (calm frame held).elim (not_lt.mpr begun) (· place)

theorem ring_store {o after : Observed} (sound : RingSound o) (calm : o.storesCalmly = true)
    (taken : o.step .store = some after) : RingSound after := by
  obtain ⟨store, stores, left, rfl⟩ := step_store taken
  have head : o.talker.stores.head? = some store := by rw [left]; rfl
  have filing := sound.filing
  rw [left] at filing
  cases store with
  | baseSeq number =>
    simp only [Observed.storesCalmly, left, List.all_eq_true, decide_eq_true_eq] at calm
    obtain ⟨rest, opening⟩ := filing.of_baseSeq
    exact ring_realign sound rfl rest opening calm
  | baseSlot slot =>
    simp only [Observed.storesCalmly, left, List.all_eq_true, decide_eq_true_eq] at calm
    obtain ⟨rest, opening⟩ := filing.of_baseSlot
    exact ring_realign sound rfl rest opening calm
  | clear index =>
    obtain ⟨rest, opening | ⟨rfl, here, stamped⟩⟩ := filing.of_clear
    · have waits := calm_clear left opening calm
      exact ring_clear sound head rest (fun _ _ put => absurd put opening.not_put)
        (fun _ => opening.not_writeSeq)
        fun frame held begun place => absurd place (waits frame held begun)
    · simp only [Observed.storesCalmly, left, List.all_eq_true, Bool.or_eq_true,
        decide_eq_true_eq] at calm
      refine ring_clear sound head rest ?_ (fun _ => nomatch ·) fun frame held begun place => ?_
      · rintro _ _ ⟨⟩
        exact here
      · have number : frame.seq = o.inHand.seq :=
          (calm frame held).resolve_left (by
            simp only [not_or, not_lt, not_not]
            exact ⟨begun, place⟩)
        exact ⟨number, rfl, stamped⟩
  | put index frame =>
    obtain ⟨rfl, rfl, rest, stamped, base⟩ := filing.of_put
    refine ring_put sound head rest stamped base fun begun m mixed same => ?_
    have again : o.hasMixed o.inHand.seq = true := hasMixed_iff.mpr ⟨m, mixed, same⟩
    simp only [Observed.storesCalmly, left, again, Bool.not_true, Bool.false_or,
      decide_eq_true_eq] at calm
    exact absurd calm (not_lt.mpr begun)
  | writeSeq number =>
    obtain ⟨rfl, stamped, base⟩ := filing.of_writeSeq
    exact ring_writeSeq sound head stamped base

theorem ring_ready {o : Observed} {baseSeq baseSlot : Nat} {index : Fin ringSize}
    (sound : RingSound o) (read : index = Talker.readIndex o.talker.slot baseSeq baseSlot)
    (present : o.noneDue = true ∨ o.inForce baseSeq baseSlot = true ∧ o.refilling index = false)
    (found : ∀ frame, o.buffer.slots index = some frame →
      o.inForce baseSeq baseSlot = true ∧ o.current frame = true) :
    RingSound { o with
      talker := { o.talker with
        buffer := o.buffer.apply (.clear index)
        slot := o.talker.slot + 1
        reading := .idle }
      mixed := o.take (o.buffer.slots index) } := by
  have due (other : Sent) (held : other ∈ o.arrived) (now : other.slot = o.talker.slot) :
      ∃ copy, o.buffer.slots index = some copy ∧ copy.seq = other.seq := by
    obtain none | ⟨inForce, filled⟩ := present
    · exact absurd now (noneDue_iff.mp none other held)
    · rw [read] at filled ⊢
      exact due_in_ring sound held now inForce filled
  cases taken : o.buffer.slots index with
  | none =>
    have kept : o.buffer.apply (.clear index) = o.buffer := by
      rw [apply, ← taken, Function.update_eq_self]
    rw [kept]
    refine ring_skip sound (noneDue_iff.mpr fun other held now => ?_)
    obtain ⟨copy, lies, -⟩ := due other held now
    rw [taken] at lies
    cases lies
  | some frame =>
    obtain ⟨inForce, current⟩ := found frame taken
    simp only [Observed.inForce, Observed.current, Bool.and_eq_true, decide_eq_true_eq]
      at inForce current
    obtain ⟨place, -, -, base, -⟩ := sound.ring index frame taken
    have own : frame.slot = o.talker.slot := by
      rw [Sent.slot_eq_iff current.1.2 current.2, place, read, inForce.1, inForce.2,
        (base current.1.1).1, (base current.1.1).2]
    refine ring_take sound taken current.1.1 own fun other held now => ?_
    obtain ⟨copy, lies, number⟩ := due other held now
    rw [taken, Option.some.injEq] at lies
    exact lies ▸ number

theorem ring_mix {o after : Observed} {listed : Bool} (sound : RingSound o)
    (calm : o.mixesCalmly listed = true) (taken : o.step (.mix listed) = some after) :
    RingSound after := by
  simp only [Observed.step, Talker.step, Option.map_some, Option.some.injEq] at taken
  subst taken
  simp only [Observed.mixesCalmly] at calm
  simp only [Talker.mixStep]
  cases reading : o.talker.reading with
  | idle =>
    simp only [reading] at calm ⊢
    split
    · rename_i skipped
      refine ring_skip sound ?_
      cases listed with
      | false => simpa using calm
      | true =>
        have unset : o.buffer.baseSeq = 0 := by simpa [Observed.buffer] using skipped
        simpa [unset] using calm
    · exact ring_reading sound _
  | based baseSeq => exact ring_reading sound _
  | placed baseSeq baseSlot =>
    simp only [reading, Bool.or_eq_true, decide_eq_true_eq] at calm ⊢
    split
    · exact ring_reading sound _
    · rename_i shut
      exact ring_skip sound (calm.resolve_left shut)
  | ready baseSeq baseSlot =>
    simp only [reading, Bool.and_eq_true, Bool.or_eq_true] at calm ⊢
    obtain ⟨present, found⟩ := calm
    refine ring_ready sound rfl ?_ fun frame taken => ?_
    · simpa using present
    · simpa [taken] using found

theorem ring_step {o after : Observed} {step : Step} (sound : RingSound o)
    (calm : o.calmly step = true) (taken : o.step step = some after) : RingSound after := by
  cases step with
  | arrive packet => exact ring_arrive sound taken
  | store => exact ring_store sound calm taken
  | mix listed => exact ring_mix sound calm taken

/-- In every run whose steps are calm, each frame that arrives in time is mixed once and
in its own slot, and no other frame is mixed. -/
theorem frames_in_order (steps : List Step) (o : Observed)
    (run : Run Observed.step (fun o step => o.calmly step = true) .start steps o) :
    InOrder o := by
  have sound : RingSound o :=
    run.invariant RingSound ring_start fun _ _ _ sound calm taken => ring_step sound calm taken
  refine ⟨sound.numbers, sound.late, fun frame held gone => ?_⟩
  obtain ⟨m, mixed, number⟩ := sound.past frame held gone
  have member : frame.seq ∈ o.mixed.map (·.frame.seq) := List.mem_map.mpr ⟨m, mixed, number⟩
  have counted := List.count_eq_one_of_mem sound.distinct member
  rw [List.count, List.countP_map] at counted
  rw [← counted]
  congr 1

def packet (seq : Fin (2 ^ 16)) : Packet := ⟨seq, 0, 0⟩

/-- A packet of an unbroken stream and all its stores. -/
def filed (seq : Fin (2 ^ 16)) (stores : Nat) : List Step :=
  .arrive (packet seq) :: List.replicate stores .store

/-- Three packets, then the slots 0 to 4. -/
def orderedHistory : List Step :=
  filed 100 5 ++ filed 101 3 ++ filed 102 3 ++ List.replicate 20 (.mix true)

theorem ordered_frames_in_order :
    ∃ o, o.mixed.map (·.frame.seq) = [102, 101, 100] ∧ InOrder o := by
  obtain ⟨o, run, mixed⟩ := reaches_of_guarded Observed.calmly (show
    (exec (guarded Observed.calmly Observed.step) .start orderedHistory).any
      (fun o => o.mixed.map (·.frame.seq) == [102, 101, 100]) = true by
    decide +kernel)
  exact ⟨o, by simpa using mixed, frames_in_order orderedHistory o run⟩

/-- The last two packets change places on the way. -/
def reorderedHistory : List Step :=
  filed 100 5 ++ filed 102 3 ++ filed 101 3 ++ List.replicate 19 (.mix true)

/-- All three arrive before slot 2. Packet 101 takes the write position back, so slot 4
is given up although its frame lies in the ring. -/
theorem reordered_frame_lost :
    ∃ o, Run Observed.step anyStep .start reorderedHistory o ∧ ¬ InOrder o := by
  obtain ⟨o, run, lost⟩ := reaches_of_exec anyStep (fun _ _ _ => trivial) (show
    (exec Observed.step .start reorderedHistory).any (fun o => o.arrived.any fun frame =>
      frame.slot < o.talker.slot && o.mixed.countP (·.frame.seq = frame.seq) == 0) = true by
    decide +kernel)
  refine ⟨o, run, fun inOrder => ?_⟩
  simp only [List.any_eq_true, Bool.and_eq_true, decide_eq_true_eq, beq_iff_eq] at lost
  obtain ⟨frame, held, gone, never⟩ := lost
  rw [inOrder.once frame held gone] at never
  cases never

end Nek0.Guarantees
