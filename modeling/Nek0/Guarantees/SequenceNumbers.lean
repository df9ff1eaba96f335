import Nek0.Source.JitterBuffer

/-!
# Sequence numbers of an unbroken stream

The packets of one talker get consecutive numbers exactly as long as no packet is
32768 or more past the base, which is the first id or the last rebase, cut to 16
bits. One rebase past id 65535 is enough to lose the rest of the stream.
-/

namespace Nek0.Guarantees

open Nek0.Source Nek0.Source.JitterBuffer

/-- What is read when a packet arrives. -/
structure Arrival where
  currentSlot : Nat
  jitter : Nat
  deriving DecidableEq, Repr

/-- The packet with the `n`-th id, counted modulo 65536. -/
def packetAt (n : Nat) (arrival : Arrival) : Packet :=
  ⟨⟨n % 2 ^ 16, Nat.mod_lt _ (by decide)⟩, arrival.currentSlot, arrival.jitter⟩

/-- The numbers of consecutive packets, `none` for a discarded one. -/
def numbers (b : JitterBuffer Unit) (n : Nat) : List Arrival → List (Option Nat)
  | [] => []
  | arrival :: arrivals =>
    (b.receive (packetAt n arrival) ()).2 ::
      numbers (b.receive (packetAt n arrival) ()).1 (n + 1) arrivals

/-- The buffer before each of these packets. -/
def buffersBefore (b : JitterBuffer Unit) (n : Nat) : List Arrival → List (JitterBuffer Unit)
  | [] => []
  | arrival :: arrivals =>
    b :: buffersBefore (b.receive (packetAt n arrival) ()).1 (n + 1) arrivals

/-- No packet is discarded, and the numbers increase by one. -/
def Unbroken (numbers : List (Option Nat)) : Prop :=
  ∃ first, numbers = (List.range' first numbers.length).map some

/-- The next number is fewer than 32768 past the base id. -/
def NearBase (b : JitterBuffer Unit) : Prop := b.writeSeq + 1 < b.baseSeq % 2 ^ 16 + 2 ^ 15

/-- A buffer whose last number was the one of the packet before the `n`-th. -/
structure Following (b : JitterBuffer Unit) (n : Nat) : Prop where
  last : (b.writeSeq + 1) % 2 ^ 16 = n % 2 ^ 16
  based : b.baseSeq ≠ 0 ∧ b.writeSeq ≠ 0
  base : b.baseSeq % 2 ^ 16 ≤ b.writeSeq
  reach : b.writeSeq < b.baseSeq % 2 ^ 16 + 2 ^ 15 ∨ b.writeSeq = b.baseSeq % 2 ^ 16 + 2 ^ 16

/-- Counted from the base, the next packet is as far ahead as its number. -/
theorem forward_of_last {base written n : Nat} (small : base < 2 ^ 16) (passed : base ≤ written)
    (last : (written + 1) % 2 ^ 16 = n % 2 ^ 16) (near : written + 1 < base + 2 ^ 16) :
    (n % 2 ^ 16 + 2 ^ 16 - base) % 2 ^ 16 = written + 1 - base := by
  rw [← last]
  by_cases wrapped : written + 1 < 2 ^ 16
  · rw [Nat.mod_eq_of_lt wrapped]
    omega
  · have once : (written + 1) % 2 ^ 16 = written + 1 - 2 ^ 16 := by omega
    rw [once]
    omega

theorem globalSeq_near {b : JitterBuffer Unit} {n : Nat} (following : Following b n)
    (near : NearBase b) (arrival : Arrival) :
    b.globalSeq (packetAt n arrival) = b.writeSeq + 1 := by
  obtain ⟨last, -, base, -⟩ := following
  simp only [NearBase] at near
  have small : b.baseSeq % 2 ^ 16 < 2 ^ 16 := Nat.mod_lt _ (by decide)
  have forward := forward_of_last small base last (by omega)
  have unwrapped : unwrapSeq (n % 2 ^ 16) (b.baseSeq % 2 ^ 16) = _ :=
    unwrapSeq_of_near small (by rw [forward]; omega)
  rw [forward] at unwrapped
  exact unwrapped.trans (by omega)

theorem following_near {b : JitterBuffer Unit} {n : Nat} (following : Following b n)
    (near : NearBase b) (arrival : Arrival) :
    (b.receive (packetAt n arrival) ()).2 = some (b.writeSeq + 1) ∧
      Following (b.receive (packetAt n arrival) ()).1 (n + 1) ∧
      (b.receive (packetAt n arrival) ()).1.writeSeq = b.writeSeq + 1 := by
  have global := globalSeq_near following near arrival
  obtain ⟨last, ⟨based, written⟩, base, reach⟩ := following
  simp only [NearBase] at near
  have small : b.baseSeq % 2 ^ 16 < 2 ^ 16 := Nat.mod_lt _ (by decide)
  have close : b.tooFar (b.writeSeq + 1) = false := by
    have ahead : wrap32 ((b.writeSeq + 1 : Nat) - (b.writeSeq : Int)) = 1 := by
      simp only [wrap32]
      omega
    simp only [tooFar, ahead, Bool.and_eq_false_iff, decide_eq_false_iff_not]
    right
    omega
  have next : (b.writeSeq + 1 + 1) % 2 ^ 16 = (n + 1) % 2 ^ 16 := by
    rw [Nat.add_mod, last, ← Nat.add_mod]
  simp only [receive, init, based, if_false, global, close, Bool.false_eq_true]
  refine ⟨trivial, ?_, rfl⟩
  simp only [rebase]
  split
  · constructor
    · exact next
    · simp only [store]
      omega
    · exact Nat.mod_le _ _
    · simp only [store]
      omega
  · constructor
    · exact next
    · exact ⟨based, Nat.succ_ne_zero _⟩
    · exact Nat.le_succ_of_le base
    · exact .inl near

/-- Past the reach of the base the packet gets a number far from the last one. -/
theorem following_far {b : JitterBuffer Unit} {n : Nat} (following : Following b n)
    (far : ¬ NearBase b) (arrival : Arrival) :
    (b.receive (packetAt n arrival) ()).2 = none := by
  obtain ⟨last, ⟨based, written⟩, base, reach⟩ := following
  simp only [NearBase] at far
  have small : b.baseSeq % 2 ^ 16 < 2 ^ 16 := Nat.mod_lt _ (by decide)
  have distant : b.tooFar (b.globalSeq (packetAt n arrival)) = true := by
    rcases reach with reach | reach
    · have half : (n % 2 ^ 16 + 2 ^ 16 - b.baseSeq % 2 ^ 16) % 2 ^ 16 = 2 ^ 15 := by omega
      have global : b.globalSeq (packetAt n arrival) =
          wrap32 ((b.baseSeq % 2 ^ 16 : Nat) - 2 ^ 15) := unwrapSeq_half half
      simp only [tooFar, global, wrap32, Bool.and_eq_true, decide_eq_true_eq]
      omega
    · have forward : (n % 2 ^ 16 + 2 ^ 16 - b.baseSeq % 2 ^ 16) % 2 ^ 16 = 1 := by omega
      have unwrapped : unwrapSeq (n % 2 ^ 16) (b.baseSeq % 2 ^ 16) = _ :=
        unwrapSeq_of_near small (by rw [forward]; decide)
      have global : b.globalSeq (packetAt n arrival) = b.baseSeq % 2 ^ 16 + 1 :=
        unwrapped.trans (by rw [forward])
      simp only [tooFar, global, wrap32, Bool.and_eq_true, decide_eq_true_eq]
      omega
  simp only [receive, init, based, if_false, distant, if_true]

theorem unbroken_cons {number : Nat} {rest : List (Option Nat)} :
    Unbroken (some number :: rest) ↔ rest = (List.range' (number + 1) rest.length).map some := by
  constructor
  · rintro ⟨first, eq⟩
    simp only [List.length_cons, List.range'_succ, List.map_cons, List.cons.injEq,
      Option.some.injEq] at eq
    exact eq.1 ▸ eq.2
  · intro eq
    exact ⟨number, by simpa [List.range'_succ] using eq⟩

theorem numbers_following (arrivals : List Arrival) {b : JitterBuffer Unit} {n : Nat}
    (following : Following b n) :
    numbers b n arrivals =
        (List.range' (b.writeSeq + 1) (numbers b n arrivals).length).map some ↔
      ∀ before ∈ buffersBefore b n arrivals, NearBase before := by
  induction arrivals generalizing b n with
  | nil => simp [numbers, buffersBefore]
  | cons arrival arrivals ih =>
    simp only [numbers, buffersBefore, List.forall_mem_cons]
    by_cases near : NearBase b
    · obtain ⟨number, next, written⟩ := following_near following near arrival
      have rest := ih next
      rw [written] at rest
      simp only [near, true_and, number, List.length_cons, List.range'_succ, List.map_cons,
        List.cons.injEq]
      exact rest
    · simp [near, following_far following near arrival, List.range'_succ]

theorem nearBase_new : NearBase .new := by
  simp [NearBase, JitterBuffer.new]

/-- The first packet of a buffer whose base is not set, when its id is not 0. -/
theorem following_init {b : JitterBuffer Unit} (unset : b.baseSeq = 0) (fresh : b.writeSeq = 0)
    {n : Nat} (positive : 0 < n) (small : n < 2 ^ 16) (arrival : Arrival) :
    (b.receive (packetAt n arrival) ()).2 = some n ∧
      Following (b.receive (packetAt n arrival) ()).1 (n + 1) ∧
      (b.receive (packetAt n arrival) ()).1.writeSeq = n := by
  have seq : (packetAt n arrival).seq.val = n := Nat.mod_eq_of_lt small
  have base : unwrapSeq n 0 ≠ 0 ∧ unwrapSeq n 0 % 2 ^ 16 = n := by
    by_cases half : (n + 2 ^ 16 - 0) % 2 ^ 16 = 2 ^ 15
    · rw [unwrapSeq_half half]
      simp only [wrap32]
      omega
    · rw [unwrapSeq_of_near (by decide) half]
      omega
  have global : unwrapSeq n n = n := by
    rw [unwrapSeq_of_near small (by omega)]
    omega
  have numbered : (b.init (packetAt n arrival)).globalSeq (packetAt n arrival) = n := by
    simp only [init, unset, if_true, globalSeq, seq, base.2, global]
  have written : (b.init (packetAt n arrival)).writeSeq = 0 := by
    simp only [init, unset, if_true, fresh]
  have close : (b.init (packetAt n arrival)).tooFar n = false := by simp [tooFar, written]
  have kept : (b.init (packetAt n arrival)).rebase n (packetAt n arrival) =
      b.init (packetAt n arrival) := by
    simp [rebase, overrun, written]
  have based : (b.init (packetAt n arrival)).baseSeq = unwrapSeq n 0 := by
    simp only [init, unset, if_true, seq]
  simp only [receive, numbered, close, kept, Bool.false_eq_true, if_false]
  refine ⟨trivial, ?_, rfl⟩
  constructor
  · rfl
  · simp only [store, based]
    exact ⟨base.1, Nat.ne_of_gt positive⟩
  · simp only [store, based, base.2]
    exact le_rfl
  · simp only [store, based, base.2]
    omega

/-- Packet 0 leaves the base unset. -/
theorem init_zero (arrival : Arrival) :
    (JitterBuffer.new.receive (packetAt 0 arrival) ()).2 = some 0 ∧
      (JitterBuffer.new.receive (packetAt 0 arrival) ()).1.baseSeq = 0 ∧
      (JitterBuffer.new.receive (packetAt 0 arrival) ()).1.writeSeq = 0 := by
  have unwrapped : unwrapSeq 0 0 = 0 := by decide
  simp [receive, init, JitterBuffer.new, globalSeq, packetAt, unwrapped, tooFar, rebase, overrun,
    store]

/-- No packet is discarded and the numbers increase by one, exactly as long as the next
number stays near the base id. -/
theorem numbering_unbroken_iff (first : Fin (2 ^ 16)) (arrivals : List Arrival) :
    Unbroken (numbers .new first arrivals) ↔
      ∀ before ∈ buffersBefore .new first arrivals, NearBase before := by
  cases arrivals with
  | nil => simp [numbers, buffersBefore, Unbroken]
  | cons arrival arrivals =>
    simp only [numbers, buffersBefore, List.forall_mem_cons, nearBase_new, true_and]
    by_cases zero : first.val = 0
    · -- Packet 1 sets the base again.
      obtain ⟨number, unset⟩ := init_zero arrival
      rw [zero, number, unbroken_cons]
      generalize (JitterBuffer.new.receive (packetAt 0 arrival) ()).1 = b at *
      cases arrivals with
      | nil => simp [numbers, buffersBefore]
      | cons arrival arrivals =>
        obtain ⟨next, following, written⟩ :=
          following_init unset.1 unset.2 Nat.one_pos (by decide) arrival
        have near : NearBase b := by simp [NearBase, unset]
        have rest := numbers_following arrivals following
        rw [written] at rest
        simp only [numbers, buffersBefore, next, near, true_and, List.forall_mem_cons,
          List.length_cons, List.range'_succ, List.map_cons, List.cons.injEq]
        exact rest
    · obtain ⟨number, following, written⟩ :=
        following_init (b := .new) rfl rfl (Nat.pos_of_ne_zero zero) first.isLt arrival
      have rest := numbers_following arrivals following
      rw [written] at rest
      rw [number, unbroken_cons]
      exact rest

/-- The reader overtakes packet 65536, so the base is realigned there; packet 65537 is
then unwrapped against base 0 and discarded. -/
theorem rebase_past_65535_breaks :
    numbers .new (65535 : Fin (2 ^ 16)) [⟨0, 0⟩, ⟨100, 0⟩, ⟨100, 0⟩] =
        [some 65535, some 65536, none] ∧
      ¬ Unbroken (numbers .new (65535 : Fin (2 ^ 16)) [⟨0, 0⟩, ⟨100, 0⟩, ⟨100, 0⟩]) := by
  have run : numbers .new (65535 : Fin (2 ^ 16)) [⟨0, 0⟩, ⟨100, 0⟩, ⟨100, 0⟩] =
      [some 65535, some 65536, none] := by
    decide
  refine ⟨run, ?_⟩
  rw [run]
  rintro ⟨first, broken⟩
  simp [List.range'_succ] at broken

end Nek0.Guarantees
