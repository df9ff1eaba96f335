import Mathlib.Data.List.Destutter
import Mathlib.Data.List.Sort

/-!
# Outgoing voice of a session

The `SendAudio` branch of `event_loop` in `native/src/api.rs` with the calls that decide
where voice goes: `ts_set_whisper_targets`, `ts_set_whisper_active`, `ts_start_audio` and
`ts_stop_audio`. Microphone gain and codec change a frame and not which samples it
holds; what voice detection, encoder and network make of a frame is up to the
environment. A sample keeps the addressing that was in force when its command was
processed.
-/

namespace Nek0.Source

/-- Samples in a voice frame. -/
def FRAME : Nat := 960

def WHISPER_MAX_TARGETS : Nat := 100

structure WhisperTargets where
  channels : List UInt64
  clients : List UInt16
  deriving DecidableEq, Repr

/-- Where voice goes: to the targets of a whisper, or to the own channel. -/
abbrev Addressing := Option WhisperTargets

structure PcmSample where
  value : UInt32
  meant : Addressing
  deriving DecidableEq, Repr

/-- `C2SWhisper` or `C2S`. A packet without samples ends a stream. -/
structure VoicePacket where
  id : UInt16
  addressing : Addressing
  samples : List PcmSample
  deriving DecidableEq, Repr

/-- What becomes of a frame. -/
inductive FrameFate where
  /-- Voice detection drops it. -/
  | silent
  | encodeFailed
  | sendFailed
  | sent
  deriving DecidableEq, Repr

structure VoiceSender where
  ownClientId : UInt32
  whisperActive : Bool
  whisperTargetClients : List UInt16
  whisperTargetChannels : List UInt64
  whisperWasActive : Bool
  whisperSeq : UInt16
  audioSeq : UInt16
  /-- There is an encoder. -/
  audioEncoder : Bool
  pcmIn : List PcmSample
  /-- All packets so far. -/
  packets : List VoicePacket
  deriving DecidableEq, Repr

namespace VoiceSender

def new (ownClientId : UInt32) : VoiceSender where
  ownClientId
  whisperActive := false
  whisperTargetClients := []
  whisperTargetChannels := []
  whisperWasActive := false
  whisperSeq := 0
  audioSeq := 0
  audioEncoder := false
  pcmIn := []
  packets := []

/-- Ascending, without repetition, at most `WHISPER_MAX_TARGETS`. -/
def normalizeTargets {α : Type} [LE α] [DecidableLE α] [DecidableEq α] (ids : List α) : List α :=
  ((ids.mergeSort fun a b => decide (a ≤ b)).destutter (· ≠ ·)).take WHISPER_MAX_TARGETS

def sanitizeWhisperTargets (clients : List UInt32) (channels : List UInt64)
    (ownClientId : UInt32) : List UInt16 × List UInt64 :=
  let valid := clients.filter fun id => id ≠ 0 ∧ id ≠ ownClientId ∧ id ≤ 65535
  (normalizeTargets (valid.map (·.toUInt16)), normalizeTargets (channels.filter (· ≠ 0)))

def hasTarget (s : VoiceSender) : Bool :=
  !s.whisperTargetClients.isEmpty || !s.whisperTargetChannels.isEmpty

/-- `ts_set_whisper_targets` -/
def setWhisperTargets (s : VoiceSender) (clients : List UInt32) (channels : List UInt64) :
    VoiceSender :=
  let (clients, channels) := sanitizeWhisperTargets clients channels s.ownClientId
  { s with whisperTargetClients := clients, whisperTargetChannels := channels }

/-- `ts_set_whisper_active` -/
def setWhisperActive (s : VoiceSender) (active : Bool) : VoiceSender × Bool :=
  if active && !s.hasTarget then ({ s with whisperActive := false }, false)
  else ({ s with whisperActive := active }, true)

def startAudio (s : VoiceSender) : VoiceSender :=
  { s with audioEncoder := true, pcmIn := [], audioSeq := 0 }

def stopAudio (s : VoiceSender) : VoiceSender := { s with audioEncoder := false, pcmIn := [] }

/-- The snapshot that a command takes. -/
def addressing (s : VoiceSender) : Addressing :=
  if s.whisperActive && s.hasTarget then
    some ⟨s.whisperTargetChannels, s.whisperTargetClients⟩
  else none

/-- The number of the next packet of a stream. -/
def countPacket (s : VoiceSender) (whisper : Bool) : UInt16 × VoiceSender :=
  if whisper then (s.whisperSeq, { s with whisperSeq := s.whisperSeq + 1 })
  else (s.audioSeq, { s with audioSeq := s.audioSeq + 1 })

/-- The number of the next packet of a kind. -/
def nextId (s : VoiceSender) (whisper : Bool) : UInt16 :=
  if whisper then s.whisperSeq else s.audioSeq

/-- Ends the previous stream where the kind of stream changes; `delivered` says whether the
packet could be sent. -/
def switchStream (s : VoiceSender) (whisper delivered : Bool) : VoiceSender :=
  if s.whisperWasActive = whisper then s
  else
    let (id, t) := s.countPacket s.whisperWasActive
    let previous : Addressing :=
      if s.whisperWasActive then some ⟨s.whisperTargetChannels, s.whisperTargetClients⟩ else none
    { t with
      whisperWasActive := whisper
      packets := if delivered then t.packets ++ [⟨id, previous, []⟩] else t.packets }

/-- One round of the loop: a frame leaves the buffer. -/
def encodeFrame (s : VoiceSender) (addressing : Addressing) (fate : FrameFate) : VoiceSender :=
  if s.pcmIn.length < FRAME then s
  else
    let frame := s.pcmIn.take FRAME
    let s := { s with pcmIn := s.pcmIn.drop FRAME }
    if fate = .silent then s
    else
      let (id, s) := s.countPacket addressing.isSome
      if !s.audioEncoder then { s with pcmIn := [] }
      else if fate = .sent then { s with packets := s.packets ++ [⟨id, addressing, frame⟩] }
      else s

/-- The loop over the frames that are in the buffer. -/
def encodeFrames (addressing : Addressing) : Nat → (Nat → FrameFate) → VoiceSender → VoiceSender
  | 0, _, s => s
  | n + 1, fates, s =>
    encodeFrames addressing n (fun i => fates (i + 1)) (s.encodeFrame addressing (fates 0))

/-- `Command::SendAudio` -/
def sendAudio (s : VoiceSender) (data : List UInt32) (delivered : Bool) (fates : Nat → FrameFate) :
    VoiceSender :=
  let addressing := s.addressing
  let s := s.switchStream addressing.isSome delivered
  let s := { s with pcmIn := s.pcmIn ++ data.map fun value => PcmSample.mk value addressing }
  encodeFrames addressing (s.pcmIn.length / FRAME) fates s

inductive Action where
  | setWhisperTargets (clients : List UInt32) (channels : List UInt64)
  | setWhisperActive (active : Bool)
  | startAudio
  | stopAudio
  | sendAudio (data : List UInt32) (delivered : Bool) (fates : Nat → FrameFate)

def step (s : VoiceSender) : Action → Option VoiceSender
  | .setWhisperTargets clients channels => some (s.setWhisperTargets clients channels)
  | .setWhisperActive active => some (s.setWhisperActive active).1
  | .startAudio => some s.startAudio
  | .stopAudio => some s.stopAudio
  | .sendAudio data delivered fates => some (s.sendAudio data delivered fates)

section Effects

variable {s : VoiceSender}

theorem countPacket_fst (s : VoiceSender) (whisper : Bool) :
    (s.countPacket whisper).1 = nextId s whisper := by
  cases whisper <;> rfl

theorem nextId_countPacket (s : VoiceSender) (whisper : Bool) :
    nextId (s.countPacket whisper).2 whisper = nextId s whisper + 1 := by
  cases whisper <;> rfl

theorem countPacket_packets (s : VoiceSender) (whisper : Bool) :
    (s.countPacket whisper).2.packets = s.packets := by
  unfold countPacket
  split <;> rfl

theorem countPacket_pcmIn (s : VoiceSender) (whisper : Bool) :
    (s.countPacket whisper).2.pcmIn = s.pcmIn := by
  unfold countPacket
  split <;> rfl

theorem countPacket_audioEncoder (s : VoiceSender) (whisper : Bool) :
    (s.countPacket whisper).2.audioEncoder = s.audioEncoder := by
  unfold countPacket
  split <;> rfl

/-- Without a full frame there is nothing to do. -/
theorem encodeFrame_short (short : s.pcmIn.length < FRAME)
    (addressing : Addressing) (fate : FrameFate) : s.encodeFrame addressing fate = s := by
  simp [encodeFrame, short]

theorem switchStream_pcmIn (s : VoiceSender) (whisper delivered : Bool) :
    (s.switchStream whisper delivered).pcmIn = s.pcmIn := by
  unfold switchStream
  split
  · rfl
  · exact countPacket_pcmIn _ _

/-- The packet that ends a stream takes a number of the other kind. -/
theorem nextId_switchStream (s : VoiceSender) (whisper delivered : Bool) :
    nextId (s.switchStream whisper delivered) whisper = nextId s whisper := by
  unfold switchStream
  split
  · rfl
  next changed =>
    cases whisper <;> cases was : s.whisperWasActive <;>
      first | exact absurd was changed | simp [countPacket, nextId]

theorem mem_normalizeTargets {α : Type} [LE α] [DecidableLE α] [DecidableEq α] {id : α}
    {ids : List α} (listed : id ∈ normalizeTargets ids) : id ∈ ids := by
  have sorted := (List.destutter_sublist _ _).mem (List.mem_of_mem_take listed)
  exact List.mem_mergeSort.mp sorted

theorem toUInt16_toUInt32 {id : UInt32} (small : id ≤ 65535) : id.toUInt16.toUInt32 = id := by
  have bound : id.toNat ≤ 65535 := UInt32.le_iff_toNat_le.mp small
  rw [UInt32.toUInt32_toUInt16]
  apply UInt32.toNat_inj.mp
  rw [UInt32.toNat_mod]
  exact Nat.mod_eq_of_lt (Nat.lt_succ_of_le bound)

/-- A client that is a target was named, is not the own one and has an id of 16 bits. -/
theorem mem_sanitizeWhisperTargets {clients : List UInt32} {channels : List UInt64}
    {ownClientId : UInt32} {target : UInt16}
    (listed : target ∈ (sanitizeWhisperTargets clients channels ownClientId).1) :
    ∃ id ∈ clients, id ≠ ownClientId ∧ id ≤ 65535 ∧ id.toUInt16 = target := by
  have valid := mem_normalizeTargets listed
  simp only [List.mem_map, List.mem_filter, decide_eq_true_eq] at valid
  obtain ⟨id, ⟨named, -, other, small⟩, same⟩ := valid
  exact ⟨id, named, other, small, same⟩

theorem mem_setWhisperTargets {s : VoiceSender} {clients : List UInt32} {channels : List UInt64}
    {target : UInt16}
    (selected : target ∈ (s.setWhisperTargets clients channels).whisperTargetClients) :
    ∃ id ∈ clients, id ≠ s.ownClientId ∧ id ≤ 65535 ∧ id.toUInt16 = target :=
  have listed : target ∈ (sanitizeWhisperTargets clients channels s.ownClientId).1 := selected
  mem_sanitizeWhisperTargets listed

theorem setWhisperActive_targets (s : VoiceSender) (active : Bool) :
    (s.setWhisperActive active).1.ownClientId = s.ownClientId ∧
      (s.setWhisperActive active).1.whisperTargetClients = s.whisperTargetClients := by
  unfold setWhisperActive
  split <;> exact ⟨rfl, rfl⟩

/-- A change that leaves alone where voice goes. -/
structure SameRouting (s t : VoiceSender) : Prop where
  ownClientId : t.ownClientId = s.ownClientId
  active : t.whisperActive = s.whisperActive
  clients : t.whisperTargetClients = s.whisperTargetClients
  channels : t.whisperTargetChannels = s.whisperTargetChannels

namespace SameRouting

variable {t u : VoiceSender}

theorem refl (s : VoiceSender) : SameRouting s s := ⟨rfl, rfl, rfl, rfl⟩

theorem trans (first : SameRouting s t) (second : SameRouting t u) : SameRouting s u :=
  ⟨second.ownClientId.trans first.ownClientId, second.active.trans first.active,
    second.clients.trans first.clients, second.channels.trans first.channels⟩

theorem addressing (same : SameRouting s t) : t.addressing = s.addressing := by
  unfold VoiceSender.addressing hasTarget
  rw [same.active, same.clients, same.channels]

end SameRouting

theorem sameRouting_countPacket (s : VoiceSender) (whisper : Bool) :
    SameRouting s (s.countPacket whisper).2 := by
  unfold countPacket
  split <;> exact ⟨rfl, rfl, rfl, rfl⟩

theorem sameRouting_switchStream (s : VoiceSender) (whisper delivered : Bool) :
    SameRouting s (s.switchStream whisper delivered) := by
  unfold switchStream
  split
  · exact .refl s
  · obtain ⟨own, active, clients, channels⟩ := sameRouting_countPacket s s.whisperWasActive
    exact ⟨own, active, clients, channels⟩

theorem sameRouting_encodeFrame (s : VoiceSender) (addressing : Addressing) (fate : FrameFate) :
    SameRouting s (s.encodeFrame addressing fate) := by
  by_cases short : s.pcmIn.length < FRAME
  · rw [encodeFrame_short short]
    exact .refl s
  let t : VoiceSender := { s with pcmIn := s.pcmIn.drop FRAME }
  have counted : SameRouting t (t.countPacket addressing.isSome).2 := sameRouting_countPacket t _
  have drained : SameRouting s t := ⟨rfl, rfl, rfl, rfl⟩
  obtain ⟨own, active, clients, channels⟩ := drained.trans counted
  simp only [encodeFrame, short, if_false]
  split
  · exact ⟨rfl, rfl, rfl, rfl⟩
  split
  · exact ⟨own, active, clients, channels⟩
  split <;> exact ⟨own, active, clients, channels⟩

theorem sameRouting_encodeFrames (addressing : Addressing) (n : Nat) (fates : Nat → FrameFate)
    (s : VoiceSender) : SameRouting s (encodeFrames addressing n fates s) := by
  induction n generalizing fates s with
  | zero => exact .refl s
  | succ n ih => exact (sameRouting_encodeFrame s addressing (fates 0)).trans (ih _ _)

/-- A command of the microphone sends voice and does not change where it goes. -/
theorem sameRouting_sendAudio (s : VoiceSender) (data : List UInt32) (delivered : Bool)
    (fates : Nat → FrameFate) : SameRouting s (s.sendAudio data delivered fates) := by
  obtain ⟨own, active, clients, channels⟩ :=
    sameRouting_switchStream s s.addressing.isSome delivered
  refine .trans ?_ (sameRouting_encodeFrames _ _ _ _)
  exact ⟨own, active, clients, channels⟩

/-- What waits after a round waited before it, behind the frame. -/
theorem encodeFrame_pcmIn (s : VoiceSender) (addressing : Addressing) (fate : FrameFate) :
    (s.encodeFrame addressing fate).pcmIn = s.pcmIn ∧ s.pcmIn.length < FRAME ∨
      (s.encodeFrame addressing fate).pcmIn = s.pcmIn.drop FRAME ∨
      (s.encodeFrame addressing fate).pcmIn = [] := by
  by_cases short : s.pcmIn.length < FRAME
  · exact .inl ⟨by rw [encodeFrame_short short], short⟩
  right
  simp only [encodeFrame, short, if_false, Bool.not_eq_true', countPacket_audioEncoder]
  split
  · exact .inl rfl
  split
  · exact .inr rfl
  split <;> exact .inl (countPacket_pcmIn _ _)

/-- The loop leaves less than a frame. -/
theorem encodeFrames_short {addressing : Addressing} (n : Nat) {fates : Nat → FrameFate}
    {s : VoiceSender} (enough : s.pcmIn.length < (n + 1) * FRAME) :
    (encodeFrames addressing n fates s).pcmIn.length < FRAME := by
  induction n generalizing fates s with
  | zero =>
    unfold encodeFrames
    omega
  | succ n ih =>
    unfold encodeFrames
    apply ih
    have frame : 0 < FRAME := by decide
    rw [Nat.succ_mul] at enough
    rcases encodeFrame_pcmIn s addressing (fates 0) with ⟨same, short⟩ | dropped | cleared
    · have one : FRAME ≤ (n + 1) * FRAME := Nat.le_mul_of_pos_left _ (by omega)
      rw [same]
      omega
    · have one : FRAME ≤ (n + 1) * FRAME := Nat.le_mul_of_pos_left _ (by omega)
      rw [dropped, List.length_drop]
      omega
    · rw [cleared]
      exact Nat.mul_pos (by omega) frame

theorem switchStream_audioEncoder (s : VoiceSender) (whisper delivered : Bool) :
    (s.switchStream whisper delivered).audioEncoder = s.audioEncoder := by
  unfold switchStream
  split
  · rfl
  · exact countPacket_audioEncoder _ _

/-- Less than a frame waits between two actions. -/
theorem short_step {s t : VoiceSender} {action : Action} (short : s.pcmIn.length < FRAME)
    (taken : step s action = some t) : t.pcmIn.length < FRAME := by
  cases action with
  | setWhisperTargets clients channels =>
    obtain rfl := Option.some.inj taken
    exact short
  | setWhisperActive active =>
    simp only [step, setWhisperActive, Option.some.injEq] at taken
    split at taken <;> subst taken <;> exact short
  | startAudio =>
    obtain rfl := Option.some.inj taken
    exact (show 0 < FRAME by decide)
  | stopAudio =>
    obtain rfl := Option.some.inj taken
    exact (show 0 < FRAME by decide)
  | sendAudio data delivered fates =>
    obtain rfl := Option.some.inj taken
    refine encodeFrames_short _ ?_
    exact Nat.lt_mul_of_div_lt (Nat.lt_succ_self _) (by decide)

/-- The packets that are added are of one kind. -/
def Adds (kind : VoicePacket → Prop) (s t : VoiceSender) : Prop :=
  ∃ added, t.packets = s.packets ++ added ∧ ∀ packet ∈ added, kind packet

namespace Adds

variable {kind : VoicePacket → Prop} {t u : VoiceSender}

theorem none (same : t.packets = s.packets) : Adds kind s t := ⟨[], by simp [same]⟩

theorem one {packet : VoicePacket} (added : t.packets = s.packets ++ [packet])
    (holds : kind packet) : Adds kind s t := ⟨[packet], added, by simpa using holds⟩

theorem trans (first : Adds kind s t) (second : Adds kind t u) : Adds kind s u := by
  obtain ⟨before, same, kept⟩ := first
  obtain ⟨after, more, held⟩ := second
  refine ⟨before ++ after, by rw [more, same, List.append_assoc], ?_⟩
  exact List.forall_mem_append.mpr ⟨kept, held⟩

end Adds

theorem adds_encodeFrame {kind : VoicePacket → Prop} {addressing : Addressing}
    (kept : ∀ packet : VoicePacket, packet.addressing = addressing → kind packet)
    (fate : FrameFate) : Adds kind s (s.encodeFrame addressing fate) := by
  by_cases short : s.pcmIn.length < FRAME
  · rw [encodeFrame_short short]
    exact .none rfl
  simp only [encodeFrame, short, if_false]
  split
  · exact .none rfl
  split
  · exact .none (countPacket_packets _ _)
  split
  · exact .one (congrArg (· ++ _) (countPacket_packets _ _)) (kept _ rfl)
  · exact .none (countPacket_packets _ _)

theorem adds_encodeFrames {kind : VoicePacket → Prop} {addressing : Addressing}
    (kept : ∀ packet : VoicePacket, packet.addressing = addressing → kind packet) (n : Nat)
    (fates : Nat → FrameFate) (s : VoiceSender) :
    Adds kind s (encodeFrames addressing n fates s) := by
  induction n generalizing fates s with
  | zero => exact .none rfl
  | succ n ih => exact (adds_encodeFrame kept (fates 0)).trans (ih _ _)

/-- A command may send a whisper packet: it ends a whisper or completes a whispered frame. -/
def whispers (s : VoiceSender) (data : List UInt32) : Bool :=
  s.whisperWasActive && !s.addressing.isSome ||
    s.addressing.isSome && FRAME ≤ s.pcmIn.length + data.length

/-- The packet is no whisper, or a whisper to the selected clients. -/
def ToSelected (s : VoiceSender) (data : List UInt32) (packet : VoicePacket) : Prop :=
  ∀ targets, packet.addressing = some targets →
    targets.clients = s.whisperTargetClients ∧ s.whispers data = true

theorem adds_switchStream (s : VoiceSender) (data : List UInt32) (delivered : Bool) :
    Adds (s.ToSelected data) s (s.switchStream s.addressing.isSome delivered) := by
  unfold switchStream
  split
  · exact .none rfl
  next changed =>
    cases delivered with
    | false => exact .none (countPacket_packets _ _)
    | true =>
      refine .one (congrArg (· ++ _) (countPacket_packets _ _)) fun targets whispered => ?_
      simp only [Option.ite_none_right_eq_some, Option.some.injEq] at whispered
      obtain ⟨was, rfl⟩ := whispered
      have stopped : s.addressing.isSome = false := by simpa [was] using changed
      exact ⟨rfl, by simp [whispers, was, stopped]⟩

/-- All whisper packets of a command go to the selected clients. -/
theorem adds_sendAudio (s : VoiceSender) (data : List UInt32) (delivered : Bool)
    (fates : Nat → FrameFate) :
    Adds (s.ToSelected data) s (s.sendAudio data delivered fates) := by
  refine (adds_switchStream s data delivered).trans ?_
  let ready := s.switchStream s.addressing.isSome delivered
  let arrived := data.map fun value => PcmSample.mk value s.addressing
  have waits : (ready.pcmIn ++ arrived).length = s.pcmIn.length + data.length := by
    simp only [ready, arrived, switchStream_pcmIn, List.length_append, List.length_map]
  let t : VoiceSender := { ready with pcmIn := ready.pcmIn ++ arrived }
  have appended : Adds (s.ToSelected data) ready t := .none rfl
  refine appended.trans ?_
  show Adds (s.ToSelected data) t
    (encodeFrames s.addressing ((ready.pcmIn ++ arrived).length / FRAME) fates t)
  rw [waits]
  by_cases few : s.pcmIn.length + data.length < FRAME
  · rw [Nat.div_eq_of_lt few]
    exact .none rfl
  · refine adds_encodeFrames (fun packet same targets whispered => ?_) _ _ _
    rw [same] at whispered
    have whispering : s.addressing.isSome = true := by rw [whispered]; rfl
    refine ⟨?_, by simp [whispers, whispering, Nat.le_of_not_lt few]⟩
    simp only [addressing, Option.ite_none_right_eq_some, Option.some.injEq] at whispered
    obtain ⟨-, rfl⟩ := whispered
    rfl

end Effects

end VoiceSender

end Nek0.Source
