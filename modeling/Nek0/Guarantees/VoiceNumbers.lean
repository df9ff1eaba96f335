import Mathlib.Data.List.Chain
import Nek0.Source.VoiceRounds

/-!
# The numbers of outgoing voice

The packets of a kind of stream, normal voice or whispers, are numbered upwards for a receiver that
puts them in order as long as fewer than half of all numbers are passed over between two of them.
A packet that is not sent passes over its number; a restart of the microphone passes over all
numbers up to the next 0, but for normal voice only.
-/

namespace Nek0.Guarantees

open Library Source Source.VoiceRounds

/-- The numbers of the packets of a kind. -/
def packetIds (whisper : Bool) (packets : List VoicePacket) : List UInt16 :=
  (packets.filter (·.addressing.isSome = whisper)).map (·.id)

/-- A receiver takes the later packet for the newer one. -/
def Ahead (first later : UInt16) : Prop :=
  0 < (later - first).toNat ∧ (later - first).toNat < 32768

def Onward (s : VoiceSender) : Prop := ∀ whisper, (packetIds whisper s.packets).IsChain Ahead

/-- The numbers that were passed over since the last packet of each kind. -/
structure PassedOver where
  rounds : VoiceRounds
  passed : Bool → Nat

namespace PassedOver

def start (ownClientId : UInt32) : PassedOver := ⟨.new ownClientId, fun _ => 0⟩

/-- Numbers between the next one and the 0 after it. -/
def upToZero (s : VoiceSender) : Nat := 65536 - s.audioSeq.toNat

def record (k : PassedOver) (action : Action) : Bool → Nat :=
  match makes k.rounds action with
  | some made =>
    let whisper := made.packet.addressing.isSome
    Function.update k.passed whisper (if made.sent then 0 else k.passed whisper + 1)
  | none =>
    if action = .startAudio then
      Function.update k.passed false (k.passed false + upToZero k.rounds.sender)
    else k.passed

def step (k : PassedOver) (action : Action) : Option PassedOver :=
  (k.rounds.step action).map fun rounds => ⟨rounds, k.record action⟩

/-- A packet that is sent is the first of its kind, or fewer than 32767 numbers were passed over
since the one before it, whole turns of the counter apart. -/
def staysAhead (k : PassedOver) (action : Action) : Bool :=
  match makes k.rounds action with
  | some made =>
    let whisper := made.packet.addressing.isSome
    !made.sent || (packetIds whisper k.rounds.sender.packets).isEmpty ||
      k.passed whisper % 65536 < 32767
  | none => true

/-- The records do not restrict the runs. -/
theorem run_of_rounds {ownClientId : UInt32} {actions : List Action} {r : VoiceRounds}
    (run : Run VoiceRounds.step anyStep (.new ownClientId) actions r) :
    ∃ passed, Run step anyStep (start ownClientId) actions ⟨r, passed⟩ := by
  obtain ⟨⟨_, passed⟩, recorded, rfl⟩ := run.lockstep step anyStep (fun r k => k.rounds = r)
    (t := start ownClientId) rfl
    fun _ _ _ k same _ taken => ⟨_, trivial, by rw [step, same, taken]; rfl, rfl⟩
  exact ⟨passed, recorded⟩

end PassedOver

open PassedOver (start staysAhead)

/-- The next number of a kind follows its last packet and what was passed over. -/
def NextFollows (k : PassedOver) : Prop :=
  ∀ whisper, ∀ last ∈ (packetIds whisper k.rounds.sender.packets).getLast?,
    k.rounds.sender.nextId whisper = last + 1 + UInt16.ofNat (k.passed whisper)

theorem ahead_iff (last : UInt16) (passed : Nat) :
    Ahead last (last + 1 + UInt16.ofNat passed) ↔ passed % 65536 < 32767 := by
  have difference : (last + 1 + UInt16.ofNat passed - last).toNat = (1 + passed) % 65536 := by
    have one : (1 : UInt16).toNat = 1 := rfl
    rw [UInt16.add_assoc, UInt16.add_comm, UInt16.add_sub_cancel, UInt16.toNat_add,
      UInt16.toNat_ofNat', one, Nat.add_mod_mod]
  rw [Ahead, difference]
  omega

theorem add_upToZero (s : VoiceSender) :
    s.audioSeq + UInt16.ofNat (PassedOver.upToZero s) = 0 := by
  have small := s.audioSeq.toNat_lt
  apply UInt16.toNat_inj.mp
  rw [UInt16.toNat_add, UInt16.toNat_ofNat', PassedOver.upToZero, Nat.add_mod_mod]
  have turn : s.audioSeq.toNat + (65536 - s.audioSeq.toNat) = 65536 := by omega
  rw [turn]
  rfl

@[simp] theorem packetIds_nil (whisper : Bool) : packetIds whisper [] = [] := rfl

theorem packetIds_append (whisper : Bool) (packets more : List VoicePacket) :
    packetIds whisper (packets ++ more) = packetIds whisper packets ++ packetIds whisper more := by
  simp [packetIds]

theorem packetIds_single (whisper : Bool) (packet : VoicePacket) :
    packetIds whisper [packet] =
      if packet.addressing.isSome = whisper then [packet.id] else [] := by
  by_cases kind : packet.addressing.isSome = whisper <;> simp [packetIds, kind]

theorem isChain_packetIds_append (whisper : Bool) (packets : List VoicePacket)
    (packet : VoicePacket) :
    (packetIds whisper (packets ++ [packet])).IsChain Ahead ↔
      (packetIds whisper packets).IsChain Ahead ∧ (packet.addressing.isSome = whisper →
        ∀ last ∈ (packetIds whisper packets).getLast?, Ahead last packet.id) := by
  rw [packetIds_append, packetIds_single]
  by_cases kind : packet.addressing.isSome = whisper
  · rw [if_pos kind, List.isChain_append]
    simp [kind]
  · rw [if_neg kind, List.append_nil]
    simp [kind]

section Steps

variable {k t : PassedOver} {action : Action}

/-- What a step leaves, from the packet that it makes. -/
theorem passedOver_effect (taken : k.step action = some t) :
    Effect k.rounds.sender action (makes k.rounds action) t.rounds.sender ∧
      t.passed = k.record action := by
  obtain ⟨rounds, moved, rfl⟩ := Option.map_eq_some_iff.mp taken
  exact ⟨step_effect moved, rfl⟩

/-- A step without a packet passes over numbers only where normal voice begins anew. -/
theorem follows_unmade (follows : NextFollows k) (taken : k.step action = some t)
    (unmade : makes k.rounds action = none) : NextFollows t := by
  obtain ⟨⟨packets, numbers⟩, passed⟩ := passedOver_effect taken
  rw [unmade] at packets numbers
  intro whisper last ends
  rw [packets, Made.packets_none, List.append_nil] at ends
  have before := follows whisper last ends
  rw [numbers, passed, PassedOver.record, unmade]
  simp only [numbered]
  by_cases restart : action = .startAudio
  · cases whisper with
    | false =>
      have zero := add_upToZero k.rounds.sender
      have next : k.rounds.sender.nextId false = k.rounds.sender.audioSeq := rfl
      rw [← next, before] at zero
      simp only [restart, and_self, if_true, Function.update_self]
      rw [UInt16.ofNat_add, ← UInt16.add_assoc, zero]
    | true => simpa [restart] using before
  · simpa [restart] using before

theorem follows_made {made : Made} (follows : NextFollows k) (taken : k.step action = some t)
    (made_eq : makes k.rounds action = some made) : NextFollows t := by
  obtain ⟨⟨packets, numbers⟩, passed⟩ := passedOver_effect taken
  have id := makes_id made_eq
  rw [made_eq] at packets numbers
  intro whisper last ends
  rw [packets, packetIds_append] at ends
  rw [numbers, passed, PassedOver.record, made_eq]
  simp only [numbered]
  obtain ⟨packet, sent⟩ := made
  by_cases kind : packet.addressing.isSome = whisper
  · simp only [kind, if_true, Function.update_self]
    cases sent with
    | true =>
      rw [Made.packets_sent, packetIds_single, if_pos kind, List.getLast?_concat] at ends
      obtain rfl : packet.id = last := Option.some.inj ends
      rw [id, kind]
      exact (UInt16.add_zero _).symm
    | false =>
      rw [Made.packets_lost, packetIds_nil, List.append_nil] at ends
      rw [follows whisper last ends]
      simp only [Bool.false_eq_true, if_false, UInt16.ofNat_add, ← UInt16.add_assoc]
      rfl
  · -- The other kind keeps its packets, its next number and what it passed over.
    have none : packetIds whisper (Made.packets (some ⟨packet, sent⟩)) = [] := by
      cases sent with
      | true => rw [Made.packets_sent, packetIds_single, if_neg kind]
      | false => rfl
    rw [none, List.append_nil] at ends
    simp only
    rw [if_neg kind, Function.update_of_ne (Ne.symm kind)]
    exact follows whisper last ends

theorem follows_step (follows : NextFollows k) (taken : k.step action = some t) :
    NextFollows t := by
  cases made_eq : makes k.rounds action with
  | none => exact follows_unmade follows taken made_eq
  | some made => exact follows_made follows taken made_eq

/-- A step keeps the order exactly if its packet does. -/
theorem onward_step (follows : NextFollows k) (taken : k.step action = some t) :
    Onward t.rounds.sender ↔ Onward k.rounds.sender ∧ staysAhead k action = true := by
  obtain ⟨⟨packets, -⟩, -⟩ := passedOver_effect taken
  rw [Onward, packets, staysAhead]
  cases makes_eq : makes k.rounds action with
  | none => simp [Onward]
  | some made =>
    obtain ⟨packet, sent⟩ := made
    cases sent with
    | false => simp [Onward]
    | true =>
      have id : packet.id = k.rounds.sender.nextId packet.addressing.isSome := makes_id makes_eq
      rw [Made.packets_sent]
      simp only [isChain_packetIds_append, forall_and, forall_eq', Onward]
      refine and_congr_right fun _ => ?_
      have following := follows packet.addressing.isSome
      rw [id]
      cases ends : (packetIds packet.addressing.isSome k.rounds.sender.packets).getLast? with
      | none => simp [List.getLast?_eq_none_iff.mp ends]
      | some last =>
        have filled : packetIds packet.addressing.isSome k.rounds.sender.packets ≠ [] := by
          intro empty
          rw [empty] at ends
          cases ends
        rw [following last ends]
        simp [ahead_iff, filled]

end Steps

/-- In every run the numbers of both kinds advance by less than half of all numbers if and only if
each packet was sent before that many were passed over. -/
theorem ids_stay_ahead {ownClientId : UInt32} {actions : List Action} {k : PassedOver}
    (run : Run PassedOver.step anyStep (start ownClientId) actions k) :
    Onward k.rounds.sender ↔
      Run PassedOver.step (fun t action => staysAhead t action = true) (start ownClientId) actions
        k :=
  run.holds_iff NextFollows (fun _ _ ends => by cases ends) (fun _ => .nil)
    (fun _ _ _ follows taken => follows_step follows taken)
    fun _ _ _ follows taken => onward_step follows taken

/-- A command that completes one frame. -/
def frameRounds (encoded delivered : Bool) : List Action :=
  [.snapshot (List.replicate 960 0), .switchStream true, .extend, .drain true,
    .encode encoded delivered, .finish]

/-- A frame that cannot be encoded between two that are sent. -/
def gapHistory : List Action :=
  .startAudio :: frameRounds true true ++ frameRounds false true ++ frameRounds true true

theorem ids_stay_ahead_of_gap : ∃ k, Run PassedOver.step anyStep (start 1) gapHistory k ∧
    packetIds false k.rounds.sender.packets = [0, 2] ∧ Onward k.rounds.sender := by
  obtain ⟨k, met, test⟩ := reaches_of_guarded staysAhead
    (show (exec (guarded staysAhead PassedOver.step) (start 1) gapHistory).any
      (fun k => packetIds false k.rounds.sender.packets == [0, 2]) = true by decide +kernel)
  have run : Run PassedOver.step anyStep (start 1) gapHistory k := met.weaken fun _ _ _ => trivial
  exact ⟨k, run, by simpa using test, (ids_stay_ahead run).mpr met⟩

/-- The microphone is restarted between two frames. -/
def restartHistory : List Action :=
  .startAudio :: frameRounds true true ++ frameRounds true true ++
    .startAudio :: frameRounds true true

/-- The packet after the restart has number 0 again. -/
theorem restart_goes_back : ¬ ∀ (ownClientId : UInt32) (actions : List Action) (r : VoiceRounds),
    Run VoiceRounds.step anyStep (.new ownClientId) actions r → Onward r.sender := by
  intro onward
  obtain ⟨r, run, again⟩ := reaches_of_exec anyStep (fun _ _ _ => trivial)
    (show (exec VoiceRounds.step (.new 1) restartHistory).any
      (fun r => packetIds false r.sender.packets == [0, 1, 0]) = true by decide +kernel)
  have chain := onward 1 restartHistory r run false
  have ids : packetIds false r.sender.packets = [0, 1, 0] := by simpa using again
  rw [ids] at chain
  simp [Ahead] at chain

end Nek0.Guarantees
