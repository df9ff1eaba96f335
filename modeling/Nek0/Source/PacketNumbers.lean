import Mathlib.Order.Lattice
import Nek0.Source.Packets

/-!
# Packet numbers of the protocol library

`PartialPacketId` of `resend.rs` and `in_receive_window` of `connection.rs`. A packet carries the
lower 16 bits of its number; the rest, its generation, is counted on both sides. Overflow wraps, as
it does in a release build.
-/

namespace Nek0.Source.Tsproto

@[ext] structure PartialPacketId where
  generationId : UInt32
  packetId : UInt16
  deriving DecidableEq, Repr

namespace PartialPacketId

/-- `Add<u16>`. -/
def add (p : PartialPacketId) (rhs : UInt16) : PartialPacketId :=
  let nextGen := 2 ^ 16 ≤ p.packetId.toNat + rhs.toNat
  { generationId := if nextGen then p.generationId + 1 else p.generationId
    packetId := p.packetId + rhs }

/-- `Sub<u16>`. -/
def sub (p : PartialPacketId) (rhs : UInt16) : PartialPacketId :=
  let lastGen := p.packetId.toNat < rhs.toNat
  { generationId := if lastGen then p.generationId - 1 else p.generationId
    packetId := p.packetId - rhs }

/-- `Ord` compares the generations first. -/
def lt (p q : PartialPacketId) : Bool :=
  p.generationId < q.generationId || (p.generationId == q.generationId && p.packetId < q.packetId)

/-- The number in the order of sending. -/
def number (p : PartialPacketId) : Nat := p.generationId.toNat * 2 ^ 16 + p.packetId.toNat

/-- The packet with a number. -/
def ofNumber (n : Nat) : PartialPacketId := ⟨.ofNat (n / 2 ^ 16), .ofNat n⟩

theorem number_lt (p : PartialPacketId) : p.number < 2 ^ 48 := by
  have generation := p.generationId.toNat_lt
  have id := p.packetId.toNat_lt
  simp only [number]
  omega

theorem number_mod (p : PartialPacketId) : p.number % 2 ^ 16 = p.packetId.toNat := by
  have id := p.packetId.toNat_lt
  simp only [number]
  omega

theorem number_div (p : PartialPacketId) : p.number / 2 ^ 16 = p.generationId.toNat := by
  have id := p.packetId.toNat_lt
  simp only [number]
  omega

theorem number_inj {p q : PartialPacketId} : p.number = q.number ↔ p = q := by
  constructor
  · intro same
    have generation := congrArg (· / 2 ^ 16) same
    have id := congrArg (· % 2 ^ 16) same
    simp only [number_div, number_mod] at generation id
    exact PartialPacketId.ext (UInt32.toNat_inj.mp generation) (UInt16.toNat_inj.mp id)
  · intro same
    rw [same]

theorem number_ofNumber {n : Nat} (small : n < 2 ^ 48) : (ofNumber n).number = n := by
  simp only [ofNumber, number, UInt32.toNat_ofNat', UInt16.toNat_ofNat']
  omega

theorem ofNumber_number (p : PartialPacketId) : ofNumber p.number = p := by
  apply number_inj.mp
  exact number_ofNumber p.number_lt

/-- The numbers after the last one start again. -/
theorem number_add (p : PartialPacketId) (rhs : UInt16) :
    (p.add rhs).number = (p.number + rhs.toNat) % 2 ^ 48 := by
  have generation := p.generationId.toNat_lt
  have id := p.packetId.toNat_lt
  have step := rhs.toNat_lt
  simp only [add, number]
  split <;> simp only [UInt32.toNat_add, UInt16.toNat_add, UInt32.toNat_one] <;> omega

theorem number_add_of_lt {p : PartialPacketId} {rhs : UInt16}
    (room : p.number + rhs.toNat < 2 ^ 48) : (p.add rhs).number = p.number + rhs.toNat := by
  rw [number_add, Nat.mod_eq_of_lt room]

theorem lt_iff {p q : PartialPacketId} : p.lt q = true ↔ p.number < q.number := by
  have own := p.packetId.toNat_lt
  have other := q.packetId.toNat_lt
  simp only [lt, number, Bool.or_eq_true, Bool.and_eq_true, decide_eq_true_eq, beq_iff_eq,
    UInt32.lt_iff_toNat_lt, UInt16.lt_iff_toNat_lt, ← UInt32.toNat_inj]
  omega

theorem number_injective : Function.Injective number := fun _ _ same => number_inj.mp same

/-- `Ord`, by `lt_iff`. -/
instance linearOrder : LinearOrder PartialPacketId := LinearOrder.lift' number number_injective

theorem lt_iff_number {p q : PartialPacketId} : p < q ↔ p.number < q.number := Iff.rfl

theorem le_iff_number {p q : PartialPacketId} : p ≤ q ↔ p.number ≤ q.number := Iff.rfl

end PartialPacketId

/-- What `in_receive_window` returns. -/
structure ReceiveWindow where
  inRecvWin : Bool
  genId : UInt32
  curNext : UInt16
  limit : UInt16
  deriving DecidableEq, Repr

/-- `in_receive_window`, for the id that is expected next. -/
def inReceiveWindow (next : PartialPacketId) (pType : PacketType) (pId : UInt16) :
    ReceiveWindow :=
  if pType = .init then ⟨true, 0, 0, 0⟩
  else
    -- Receive window is the next half of ids.
    let curNext := next.packetId
    let limit := curNext + 32767
    let nextGen := decide (2 ^ 16 ≤ curNext.toNat + 32767)
    let gen := next.generationId
    let inRecvWin := (!nextGen && decide (curNext ≤ pId) && decide (pId < limit)) ||
      (nextGen && (decide (curNext ≤ pId) || decide (pId < limit)))
    let genId :=
      if inRecvWin then if nextGen && decide (pId < limit) then gen + 1 else gen
      else if pId < curNext then gen
      else gen - 1
    ⟨inRecvWin, genId, curNext, limit⟩

/-- How far an id is ahead of the expected one. -/
def ahead (next : PartialPacketId) (pId : UInt16) : Nat := (pId - next.packetId).toNat

theorem ahead_lt (next : PartialPacketId) (pId : UInt16) : ahead next pId < 2 ^ 16 :=
  (pId - next.packetId).toNat_lt

theorem ahead_eq_zero_iff {next : PartialPacketId} {pId : UInt16} :
    ahead next pId = 0 ↔ next.packetId = pId := by
  have own := next.packetId.toNat_lt
  have id := pId.toNat_lt
  rw [ahead, UInt16.toNat_sub, ← UInt16.toNat_inj]
  omega

section Window

variable {next : PartialPacketId} {pType : PacketType} {pId : UInt16}

theorem inRecvWin_iff (other : pType ≠ .init) :
    (inReceiveWindow next pType pId).inRecvWin = true ↔ ahead next pId < 32767 := by
  have own := next.packetId.toNat_lt
  have id := pId.toNat_lt
  simp only [inReceiveWindow, if_neg other, ahead, Bool.or_eq_true, Bool.and_eq_true,
    Bool.not_eq_true', decide_eq_true_eq, decide_eq_false_iff_not, UInt16.le_iff_toNat_le,
    UInt16.lt_iff_toNat_lt, UInt16.toNat_add, UInt16.toNat_sub]
  have literal : (32767 : UInt16).toNat = 32767 := rfl
  rw [literal]
  omega

/-- The number that an id in the window is taken for. -/
theorem number_of_inRecvWin (other : pType ≠ .init)
    (inside : (inReceiveWindow next pType pId).inRecvWin = true)
    (room : next.number + 2 ^ 16 ≤ 2 ^ 48) :
    PartialPacketId.number ⟨(inReceiveWindow next pType pId).genId, pId⟩ =
      next.number + ahead next pId := by
  have near := (inRecvWin_iff other).mp inside
  have own := next.packetId.toNat_lt
  have id := pId.toNat_lt
  have generation : (inReceiveWindow next pType pId).genId =
      if pId.toNat < next.packetId.toNat then next.generationId + 1 else next.generationId := by
    have taken : (inReceiveWindow next pType pId).genId =
        if decide (2 ^ 16 ≤ next.packetId.toNat + 32767) && decide (pId < next.packetId + 32767)
          then next.generationId + 1 else next.generationId := by
      simp only [inReceiveWindow, if_neg other] at inside ⊢
      rw [if_pos inside]
    rw [taken]
    have literal : (32767 : UInt16).toNat = 32767 := rfl
    congr 1
    simp only [Bool.and_eq_true, decide_eq_true_eq, UInt16.lt_iff_toNat_lt, UInt16.toNat_add,
      literal, ahead, UInt16.toNat_sub] at near ⊢
    apply propext
    omega
  have most := next.generationId.toNat_lt
  rw [generation]
  simp only [ahead, UInt16.toNat_sub, PartialPacketId.number] at near room ⊢
  split
  · simp only [UInt32.toNat_add, UInt32.toNat_one]
    omega
  · omega

/-- The number that an id outside the window is taken for is an earlier one, unless the counter has
not come that far. -/
theorem number_of_not_inRecvWin (other : pType ≠ .init)
    (outside : (inReceiveWindow next pType pId).inRecvWin = false)
    (sane : PartialPacketId.number ⟨(inReceiveWindow next pType pId).genId, pId⟩ <
      2 ^ 48 - 2 ^ 16) :
    PartialPacketId.number ⟨(inReceiveWindow next pType pId).genId, pId⟩ + 2 ^ 16 =
      next.number + ahead next pId := by
  have far : ¬ ahead next pId < 32767 := by
    intro near
    have inside := (inRecvWin_iff other).mpr near
    rw [outside] at inside
    cases inside
  have own := next.packetId.toNat_lt
  have id := pId.toNat_lt
  have generation : (inReceiveWindow next pType pId).genId =
      if pId.toNat < next.packetId.toNat then next.generationId else next.generationId - 1 := by
    simp only [inReceiveWindow, if_neg other] at outside ⊢
    rw [if_neg (by rw [outside]; decide)]
    simp only [UInt16.lt_iff_toNat_lt]
  have most := next.generationId.toNat_lt
  rw [generation] at sane ⊢
  simp only [ahead, UInt16.toNat_sub, PartialPacketId.number] at far sane ⊢
  split at sane <;> rename_i before <;> simp only [before, if_true, if_false] at sane ⊢
  · omega
  · simp only [UInt32.toNat_sub, UInt32.toNat_one] at sane ⊢
    omega

end Window

end Nek0.Source.Tsproto
