import Nek0.Source.OutputStream

/-!
# Playback does not depend on the callback sizes

However the device cuts its buffers, the samples are those of the mixed frames of
consecutive slots, and every slot is mixed once.
-/

namespace Nek0.Guarantees

open Nek0.Source Nek0.Source.OutputStream

variable {α : Type*} (mix : Nat → MixFrame α)

/-- The sample that belongs at a position. -/
def sampleAt (position : Nat) : α :=
  (mix (position / frameSize)).get ⟨position % frameSize, Nat.mod_lt _ (by decide)⟩

/-- The slots of `count` samples from a position on. -/
def slotsOf (position count : Nat) : List Nat :=
  if count = 0 then []
  else List.range' (position / frameSize)
    ((position + count - 1) / frameSize + 1 - position / frameSize)

/-- The cached frame is the mixed frame of its slot. -/
def Cached (current : Option (Nat × MixFrame α)) : Prop :=
  ∀ slot frame, current = some (slot, frame) → frame = mix slot

theorem frameOf_of_cached {current : Option (Nat × MixFrame α)} (cached : Cached mix current)
    (slot : Nat) : (frameOf mix current slot).1 = mix slot := by
  rcases current with _ | ⟨held, frame⟩
  · rfl
  · simp only [frameOf]
    split
    next same => exact same ▸ cached held frame rfl
    next => rfl

theorem slot_of_position {slot offset : Nat} (inside : offset < frameSize) :
    (slot * frameSize + offset) / frameSize = slot := by
  have positive : 0 < frameSize := by decide
  rw [Nat.mul_comm, Nat.mul_add_div positive, Nat.div_eq_of_lt inside, Nat.add_zero]

theorem sampleAt_slot {slot offset : Nat} (inside : offset < frameSize) :
    sampleAt mix (slot * frameSize + offset) = (mix slot).get ⟨offset, inside⟩ := by
  have within : (slot * frameSize + offset) % frameSize = offset := by
    rw [Nat.mul_comm, Nat.mul_add_mod, Nat.mod_eq_of_lt inside]
  simp only [sampleAt, slot_of_position inside, within]

/-- A piece of a frame is a piece of the samples. -/
theorem copied_eq (slot offset copy : Nat) (inside : offset + copy ≤ frameSize) :
    ((mix slot).toList.drop offset).take copy =
      (List.range' (slot * frameSize + offset) copy).map (sampleAt mix) := by
  apply List.ext_getElem
  · simp
    omega
  · intro i left right
    simp only [List.length_map, List.length_range'] at right
    have bound : offset + i < frameSize := by omega
    simp only [List.getElem_take, List.getElem_drop, List.getElem_map, List.getElem_range',
      Nat.one_mul, Nat.add_assoc]
    rw [sampleAt_slot mix bound]
    rfl

theorem fill_data (current : Option (Nat × MixFrame α)) (slot : Nat) (offset : Fin frameSize)
    (remaining : Nat) (cached : Cached mix current) :
    (fill mix current slot offset remaining).data =
        (List.range' (slot * frameSize + offset) remaining).map (sampleAt mix) ∧
      Cached mix (fill mix current slot offset remaining).current := by
  induction remaining using Nat.strong_induction_on generalizing current slot offset with
  | _ remaining ih =>
    rw [fill]
    by_cases done : remaining = 0
    · simpa [done] using cached
    have bound := offset.isLt
    have frame := frameOf_of_cached mix cached slot
    have refreshed : Cached mix (some (slot, (frameOf mix current slot).1)) := by
      rintro held kept ⟨⟩
      exact frame
    obtain ⟨copy, copyEq⟩ : ∃ copy, copy = min remaining (frameSize - offset) := ⟨_, rfl⟩
    have less : remaining - copy < remaining := by omega
    have copied := copied_eq mix slot offset copy (by omega)
    have joined : List.range' (slot * frameSize + offset) remaining =
        List.range' (slot * frameSize + offset) copy ++
          List.range' (slot * frameSize + offset + copy) (remaining - copy) := by
      rw [List.range'_append_1]
      congr 1
      omega
    simp only [done, if_false, ← copyEq]
    by_cases inside : offset + copy < frameSize
    · have rest := ih _ less (some (slot, (frameOf mix current slot).1)) slot
        ⟨offset + copy, inside⟩ refreshed
      simp only [dif_pos inside]
      refine ⟨?_, rest.2⟩
      rw [rest.1, frame, copied, joined, List.map_append]
      simp only [Nat.add_assoc]
    · have rest := ih _ less (some (slot, (frameOf mix current slot).1)) (slot + 1)
        ⟨0, by decide⟩ refreshed
      have next : (slot + 1) * frameSize + 0 = slot * frameSize + offset + copy := by
        rw [Nat.succ_mul]
        omega
      simp only [dif_neg inside]
      refine ⟨?_, rest.2⟩
      rw [rest.1, frame, copied, joined, List.map_append, next]

/-- The first slot that a stream standing in a slot has not mixed. -/
def unmixed (current : Option (Nat × MixFrame α)) (slot : Nat) : Nat :=
  match current with
  | some (cached, _) => if slot = cached then slot + 1 else slot
  | none => slot

/-- The slot of the last of `count` samples, and the first one after it. -/
def slotAfter (position count : Nat) : Nat := (position + count - 1) / frameSize + 1

theorem range_split {first middle last : Nat} (early : first ≤ middle) (late : middle ≤ last) :
    List.range' first (middle - first) ++ List.range' middle (last - middle) =
      List.range' first (last - first) := by
  have joined := List.range'_append_1 (s := first) (m := middle - first) (n := last - middle)
  rwa [Nat.add_sub_cancel' early, show middle - first + (last - middle) = last - first by omega]
    at joined

theorem frameOf_mixed (current : Option (Nat × MixFrame α)) (slot : Nat) :
    (frameOf mix current slot).2 =
        List.range' (unmixed current slot) (slot + 1 - unmixed current slot) ∧
      unmixed current slot ≤ slot + 1 := by
  rcases current with _ | ⟨cached, frame⟩
  · simp [frameOf, unmixed]
  · by_cases same : slot = cached
    · simp [frameOf, unmixed, same]
    · simp [frameOf, unmixed, same]

/-- Within a slot, the slot after the last sample is the next one. -/
theorem slotAfter_within (slot : Nat) {offset count : Nat} (positive : count ≠ 0)
    (inside : offset + count ≤ frameSize) :
    slotAfter (slot * frameSize + offset) count = slot + 1 := by
  have place : slot * frameSize + offset + count - 1 = slot * frameSize + (offset + count - 1) := by
    omega
  rw [slotAfter, place, slot_of_position (by omega)]

theorem fill_zero (current : Option (Nat × MixFrame α)) (slot : Nat) (offset : Fin frameSize) :
    fill mix current slot offset 0 = ⟨[], [], current⟩ := by
  rw [fill]
  rfl

theorem fill_mixed (current : Option (Nat × MixFrame α)) (slot : Nat) (offset : Fin frameSize)
    (remaining : Nat) (positive : remaining ≠ 0) :
    (fill mix current slot offset remaining).mixed =
        List.range' (unmixed current slot)
          (slotAfter (slot * frameSize + offset) remaining - unmixed current slot) ∧
      (fill mix current slot offset remaining).current.map Prod.fst =
        some (slotAfter (slot * frameSize + offset) remaining - 1) := by
  induction remaining using Nat.strong_induction_on generalizing current slot offset with
  | _ remaining ih =>
    have bound := offset.isLt
    obtain ⟨mixed, early⟩ := frameOf_mixed mix current slot
    rw [fill]
    by_cases within : remaining ≤ frameSize - offset
    · -- The buffer ends in this frame.
      have after := slotAfter_within slot positive
        (show offset + remaining ≤ frameSize by omega)
      simp only [positive, if_false, Nat.min_eq_left within, Nat.sub_self, fill_zero, dite_eq_ite,
        ite_self, after, mixed, List.append_nil]
      exact ⟨trivial, rfl⟩
    · have place : slot * frameSize + offset + remaining =
          (slot + 1) * frameSize + 0 + (remaining - (frameSize - offset)) := by
        rw [Nat.succ_mul]
        omega
      have after : slotAfter (slot * frameSize + offset) remaining =
          slotAfter ((slot + 1) * frameSize + 0) (remaining - (frameSize - offset)) := by
        simp only [slotAfter, place]
      have later : slot + 1 ≤ slotAfter (slot * frameSize + offset) remaining := by
        have reached : slot * frameSize ≤ slot * frameSize + offset + remaining - 1 := by omega
        have divided := Nat.div_le_div_right (c := frameSize) reached
        rw [Nat.mul_div_cancel _ (by decide)] at divided
        exact Nat.succ_le_succ divided
      have cut : min remaining (frameSize - offset) = frameSize - offset := by omega
      have full : ¬ offset + (frameSize - offset) < frameSize := by omega
      obtain ⟨rest, kept⟩ := ih (remaining - (frameSize - offset)) (by omega)
        (some (slot, (frameOf mix current slot).1)) (slot + 1) ⟨0, by decide⟩ (by omega)
      have fresh : unmixed (some (slot, (frameOf mix current slot).1)) (slot + 1) = slot + 1 := by
        simp [unmixed]
      simp only [positive, if_false, cut, dif_neg full]
      rw [fresh] at rest
      refine ⟨?_, by rw [kept, after]⟩
      rw [rest, mixed, ← after]
      exact range_split early later

/-- After `position` samples the frame of the last one is cached. -/
theorem unmixed_of_last {current : Option (Nat × MixFrame α)} {position : Nat}
    (last : current.map Prod.fst = some ((position - 1) / frameSize)) :
    unmixed current (position / frameSize) = (position - 1) / frameSize + 1 := by
  obtain ⟨⟨cached, frame⟩, rfl, held⟩ := Option.map_eq_some_iff.mp last
  simp only [frameSize] at held ⊢
  by_cases same : position / 960 = cached
  · simp only [unmixed, same, if_true]
    omega
  · simp only [unmixed, same, if_false]
    omega

/-- The position of a stream, as slot and offset. -/
theorem position_eq (position : Nat) :
    position / frameSize * frameSize + position % frameSize = position :=
  Nat.div_add_mod' ..

theorem play_data (lengths : List Nat) (s : OutputStream α) (cached : Cached mix s.current) :
    (s.play mix lengths).1 = (List.range' s.played lengths.sum).map (sampleAt mix) := by
  induction lengths generalizing s with
  | nil => rfl
  | cons length lengths ih =>
    obtain ⟨data, kept⟩ := fill_data mix s.current (s.played / frameSize)
      ⟨s.played % frameSize, Nat.mod_lt _ (by decide)⟩ length cached
    simp only [position_eq] at data
    simp only [play, callback, write, List.sum_cons]
    rw [ih _ kept, data, ← List.map_append, List.range'_append_1]

theorem slotAfter_pos {position count : Nat} (positive : count ≠ 0) :
    position / frameSize + 1 ≤ slotAfter position count :=
  Nat.succ_le_succ (Nat.div_le_div_right (by omega))

theorem play_silent {lengths : List Nat} (silent : lengths.sum = 0) (s : OutputStream α) :
    (s.play mix lengths).2 = [] := by
  induction lengths generalizing s with
  | nil => rfl
  | cons length lengths ih =>
    obtain ⟨rfl, rest⟩ : length = 0 ∧ lengths.sum = 0 := by simpa using silent
    simp only [play, callback, write, fill_zero, ih rest, List.nil_append]

theorem play_mixed (lengths : List Nat) (s : OutputStream α) (positive : lengths.sum ≠ 0) :
    (s.play mix lengths).2 = List.range' (unmixed s.current (s.played / frameSize))
      (slotAfter s.played lengths.sum - unmixed s.current (s.played / frameSize)) := by
  induction lengths generalizing s with
  | nil => exact absurd rfl positive
  | cons length lengths ih =>
    simp only [play, callback, write, List.sum_cons]
    by_cases empty : length = 0
    · subst empty
      simp only [fill_zero, List.nil_append, Nat.zero_add]
      exact ih s (by simpa using positive)
    obtain ⟨mixed, last⟩ := fill_mixed mix s.current (s.played / frameSize)
      ⟨s.played % frameSize, Nat.mod_lt _ (by decide)⟩ length empty
    simp only [position_eq] at mixed last
    have started := (frameOf_mixed mix s.current (s.played / frameSize)).2.trans
      (slotAfter_pos empty)
    rw [mixed]
    by_cases ended : lengths.sum = 0
    · rw [play_silent mix ended, ended, List.append_nil, Nat.add_zero]
    · rw [ih _ ended, unmixed_of_last last]
      have joined : slotAfter s.played (length + lengths.sum) =
          slotAfter (s.played + length) lengths.sum := by
        simp only [slotAfter, Nat.add_assoc]
      rw [joined]
      refine range_split started ?_
      have later : s.played + length - 1 ≤ s.played + length + lengths.sum - 1 := by omega
      exact Nat.succ_le_succ (Nat.div_le_div_right later)

/-- However the samples are cut into buffers, they are those of consecutive slots from the
position on, and each slot is mixed once. The counter of the source does the same until it
wraps. -/
theorem playback_independent (lengths : List Nat) (played : Nat) :
    ((starting played).play mix lengths).1 =
        (List.range' played lengths.sum).map (sampleAt mix) ∧
      ((starting played).play mix lengths).2 = slotsOf played lengths.sum ∧
      ((starting played).play mix lengths).2.Nodup ∧
      (played + lengths.sum < 2 ^ 64 →
        (CountedStream.starting (.ofNat played)).play mix lengths =
          (starting played).play mix lengths) := by
  have mixed : ((starting played).play mix lengths).2 = slotsOf played lengths.sum := by
    by_cases silent : lengths.sum = 0
    · rw [play_silent mix silent, slotsOf, if_pos silent]
    · rw [play_mixed mix lengths _ silent, slotsOf, if_neg silent]
      rfl
  refine ⟨play_data mix lengths _ fun _ _ kept => (nomatch kept), mixed, ?_, fun fits => ?_⟩
  · rw [mixed, slotsOf]
    split
    · exact List.nodup_nil
    · exact List.nodup_range'
  · have counted : (UInt64.ofNat played).toNat = played := by
      rw [UInt64.toNat_ofNat', Nat.mod_eq_of_lt (by omega)]
    rw [CountedStream.play_eq mix lengths _ (by rwa [CountedStream.starting, counted])]
    simp only [CountedStream.starting, starting, counted]

end Nek0.Guarantees
