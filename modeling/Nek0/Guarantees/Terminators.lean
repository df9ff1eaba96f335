import Nek0.Source.VoiceRounds

/-!
# Terminators of voice streams

A command ends the previous stream where the kind of stream differs from the one of the command
before, with the whisper targets that are selected then. So the listeners of a burst hear its end
exactly if, up to the next frame that is sent elsewhere, one such command left the kind of the burst
with its targets still selected and could send the packet. A change of targets during a whisper ends
nothing.
-/

namespace Nek0.Guarantees

open Library Source Source.VoiceRounds

/-- Between two voice packets of different streams there is one packet that ends the first. -/
def Terminated (packets : List VoicePacket) : Prop :=
  ∀ before first between next after,
    packets = before ++ first :: (between ++ next :: after) →
    first.samples ≠ [] → next.samples ≠ [] → (∀ packet ∈ between, packet.samples = []) →
    first.addressing ≠ next.addressing →
      between.countP (fun packet => packet.addressing = first.addressing) = 1

/-- The stream of the last voice packet, and how often it was ended since. -/
structure Burst where
  addressing : Addressing
  ended : Nat
  deriving DecidableEq, Repr

namespace Burst

/-- The burst after one more packet. -/
def follow (burst : Option Burst) (packet : VoicePacket) : Option Burst :=
  if packet.samples = [] then
    burst.map fun b =>
      if packet.addressing = b.addressing then { b with ended := b.ended + 1 } else b
  else some ⟨packet.addressing, 0⟩

def ofPackets (packets : List VoicePacket) : Option Burst := packets.foldl follow none

variable {packets before between : List VoicePacket} {first : VoicePacket}

theorem ofPackets_concat (packets : List VoicePacket) (packet : VoicePacket) :
    ofPackets (packets ++ [packet]) = follow (ofPackets packets) packet := by
  rw [ofPackets, List.foldl_append]
  rfl

/-- Packets without samples only end the burst. -/
theorem foldl_silent {b : Burst} (silent : ∀ packet ∈ between, packet.samples = []) :
    between.foldl follow (some b) =
      some ⟨b.addressing,
        b.ended + between.countP (fun packet => packet.addressing = b.addressing)⟩ := by
  induction between generalizing b with
  | nil => rfl
  | cons packet between ih =>
    rw [List.forall_mem_cons] at silent
    rw [List.foldl_cons, follow, if_pos silent.1, Option.map_some, List.countP_cons]
    split
    next ends =>
      rw [ih silent.2]
      simp only [ends, decide_true, if_true]
      congr 2
      omega
    next other =>
      rw [ih silent.2]
      simp [other]

theorem ofPackets_split (voice : first.samples ≠ [])
    (silent : ∀ packet ∈ between, packet.samples = []) :
    ofPackets (before ++ first :: between) =
      some ⟨first.addressing,
        between.countP (fun packet => packet.addressing = first.addressing)⟩ := by
  rw [ofPackets, List.foldl_append, List.foldl_cons]
  have began : follow (before.foldl follow none) first = some ⟨first.addressing, 0⟩ := if_neg voice
  rw [began, foldl_silent silent, Nat.zero_add]

/-- A burst comes from the last voice packet. -/
theorem split_of_ofPackets {b : Burst} (burst : ofPackets packets = some b) :
    ∃ before first between, packets = before ++ first :: between ∧ first.samples ≠ [] ∧
      ∀ packet ∈ between, packet.samples = [] := by
  induction packets using List.reverseRecOn generalizing b with
  | nil => cases burst
  | append_singleton packets packet ih =>
    by_cases silent : packet.samples = []
    · rw [ofPackets_concat, follow, if_pos silent] at burst
      obtain ⟨previous, came, -⟩ := Option.map_eq_some_iff.mp burst
      obtain ⟨before, first, between, rfl, voice, others⟩ := ih came
      refine ⟨before, first, between ++ [packet], by simp, voice, ?_⟩
      exact List.forall_mem_append.mpr ⟨others, by simpa using silent⟩
    · exact ⟨packets, packet, [], rfl, silent, by simp⟩

end Burst

/-- Only a voice packet needs that the stream before it was ended. -/
theorem terminated_concat (packets : List VoicePacket) (packet : VoicePacket) :
    Terminated (packets ++ [packet]) ↔ Terminated packets ∧ (packet.samples ≠ [] →
      ∀ b ∈ Burst.ofPackets packets, b.addressing ≠ packet.addressing → b.ended = 1) := by
  constructor
  · intro terminated
    refine ⟨fun before first between next after split => ?_, fun voice b burst elsewhere => ?_⟩
    · refine terminated before first between next (after ++ [packet]) ?_
      rw [split]
      simp
    · obtain ⟨before, first, between, rfl, began, silent⟩ := Burst.split_of_ofPackets burst
      rw [Burst.ofPackets_split began silent] at burst
      obtain rfl := Option.some.inj burst
      exact terminated before first between packet [] (by simp) began voice silent elsewhere
  · rintro ⟨terminated, last⟩ before first between next after split began voice silent elsewhere
    obtain rfl | ⟨others, final, rfl⟩ := List.eq_nil_or_concat after
    · have parts : packets ++ [packet] = (before ++ first :: between) ++ [next] := by simp [split]
      obtain ⟨rfl, same⟩ := List.append_inj' parts rfl
      obtain rfl := List.singleton_inj.mp same
      exact last voice _ (Burst.ofPackets_split began silent) elsewhere
    · have parts : packets ++ [packet] =
          (before ++ first :: (between ++ next :: others)) ++ [final] := by simp [split]
      obtain ⟨rfl, -⟩ := List.append_inj' parts rfl
      exact terminated before first between next others rfl began voice silent elsewhere

/-- A voice packet is sent in a step; where it goes. -/
def sendsVoice (r : VoiceRounds) (action : Action) : Option Addressing :=
  match action, r.round with
  | .encode encoded delivered, .encoding addressing _ =>
    if r.sender.audioEncoder && (encoded && delivered) then some addressing else none
  | _, _ => none

/-- The kind of the addressing is the one of the last command, and its targets are selected. -/
def stillSelected (s : VoiceSender) : Addressing → Bool
  | some targets =>
    s.whisperWasActive && targets = ⟨s.whisperTargetChannels, s.whisperTargetClients⟩
  | none => !s.whisperWasActive

/-- A command endsBurst the kind of an addressing that is in force, and the network takes its
packet. -/
def endsBurst (r : VoiceRounds) (action : Action) (addressing : Addressing) : Bool :=
  match action, r.round with
  | .switchStream delivered, .switching next _ =>
    delivered && next.isSome != r.sender.whisperWasActive && stillSelected r.sender addressing
  | _, _ => false

/-- The last addressing that voice was sent to, and how often it was left since. -/
structure Talk where
  rounds : VoiceRounds
  burst : Option Burst

namespace Talk

def start (ownClientId : UInt32) : Talk := ⟨.new ownClientId, none⟩

def record (k : Talk) (action : Action) : Option Burst :=
  match sendsVoice k.rounds action with
  | some addressing => some ⟨addressing, 0⟩
  | none => k.burst.map fun b =>
      if endsBurst k.rounds action b.addressing then { b with ended := b.ended + 1 } else b

def step (k : Talk) (action : Action) : Option Talk :=
  (k.rounds.step action).map fun rounds => ⟨rounds, k.record action⟩

/-- Voice goes on to the same listeners, or these were left exactly once. -/
def leftOnce (k : Talk) (action : Action) : Bool :=
  (sendsVoice k.rounds action).all fun addressing =>
    k.burst.all fun b => b.addressing = addressing || b.ended = 1

/-- The records do not restrict the runs. -/
theorem run_of_rounds {ownClientId : UInt32} {actions : List Action} {r : VoiceRounds}
    (run : Run VoiceRounds.step anyStep (.new ownClientId) actions r) :
    ∃ burst, Run step anyStep (start ownClientId) actions ⟨r, burst⟩ := by
  obtain ⟨⟨_, burst⟩, recorded, rfl⟩ := run.lockstep step anyStep (fun r k => k.rounds = r)
    (t := start ownClientId) rfl
    fun _ _ _ k same _ taken => ⟨_, trivial, by rw [step, same, taken]; rfl, rfl⟩
  exact ⟨burst, recorded⟩

end Talk

theorem stillSelected_iff (s : VoiceSender) (addressing : Addressing) :
    stillSelected s addressing = true ↔ previous s = addressing := by
  unfold previous
  cases was : s.whisperWasActive <;> cases addressing <;> simp [stillSelected, was, eq_comm]

/-- A step sends a frame, or a packet that ends what is in force, or nothing. -/
theorem sends_cases (r : VoiceRounds) (action : Action) :
    (∃ id addressing frame, r.round = .encoding addressing frame ∧
      sendsVoice r action = some addressing ∧
      Made.packets (makes r action) = [⟨id, addressing, frame⟩]) ∨
    (∃ id, sendsVoice r action = none ∧
      Made.packets (makes r action) = [⟨id, previous r.sender, []⟩] ∧
      ∀ addressing, endsBurst r action addressing = stillSelected r.sender addressing) ∨
    (sendsVoice r action = none ∧ Made.packets (makes r action) = [] ∧
      ∀ addressing, endsBurst r action addressing = false) := by
  obtain ⟨s, round⟩ := r
  cases action with
  | switchStream delivered =>
    cases round with
    | switching next data =>
      right
      by_cases same : s.whisperWasActive = next.isSome
      · refine .inr ⟨rfl, by simp [makes, same], fun addressing => ?_⟩
        simp [endsBurst, same]
      · have changed : (next.isSome != s.whisperWasActive) = true := by
          simpa [bne_iff_ne] using Ne.symm same
        cases delivered with
        | false => exact .inr ⟨rfl, by simp [makes, same], fun addressing => by simp [endsBurst]⟩
        | true =>
          refine .inl ⟨s.nextId s.whisperWasActive, rfl, by simp [makes, same], ?_⟩
          intro addressing
          simp [endsBurst, changed]
    | _ => exact .inr (.inr ⟨rfl, rfl, fun _ => rfl⟩)
  | encode encoded delivered =>
    cases round with
    | encoding addressing frame =>
      cases sent : (s.audioEncoder && (encoded && delivered)) with
      | true =>
        refine .inl ⟨s.nextId addressing.isSome, addressing, frame, rfl, ?_, ?_⟩
        · simp [sendsVoice, sent]
        · simp [makes, sent]
      | false => exact .inr (.inr ⟨by simp [sendsVoice, sent], by simp [makes, sent], fun _ => rfl⟩)
    | _ => exact .inr (.inr ⟨rfl, rfl, fun _ => rfl⟩)
  | _ => exact .inr (.inr ⟨rfl, rfl, fun _ => rfl⟩)

/-- The burst is the one of the packets. -/
structure Tracks (k : Talk) : Prop where
  burst : Burst.ofPackets k.rounds.sender.packets = k.burst
  frame : ∀ addressing frame, k.rounds.round = .encoding addressing frame → frame ≠ []

section Steps

variable {k t : Talk} {action : Action}

/-- The frame that waits for the encoder came from a full buffer. -/
theorem frame_filled_step {r u : VoiceRounds}
    (filled : ∀ addressing frame, r.round = .encoding addressing frame → frame ≠ [])
    (taken : r.step action = some u) :
    ∀ addressing frame, u.round = .encoding addressing frame → frame ≠ [] := by
  obtain ⟨s, round⟩ := r
  cases action with
  | setWhisperTargets | setWhisperActive | startAudio | stopAudio =>
    obtain rfl := Option.some.inj taken
    exact filled
  | drain passed =>
    cases round with
    | draining drained =>
      simp only [VoiceRounds.step, Option.ite_none_left_eq_some, Option.some.injEq] at taken
      obtain ⟨enough, rfl⟩ := taken
      intro addressing frame waits
      cases passed with
      | false => cases waits
      | true =>
        obtain ⟨-, rfl⟩ := Round.encoding.inj waits
        intro empty
        have length := congrArg List.length empty
        rw [List.length_take, List.length_nil] at length
        have size : FRAME = 960 := rfl
        omega
    | _ => cases taken
  | finish =>
    cases round with
    | draining drained =>
      simp only [VoiceRounds.step, Option.ite_none_right_eq_some, Option.some.injEq] at taken
      obtain ⟨-, rfl⟩ := taken
      intro addressing frame waits
      cases waits
    | _ => cases taken
  | snapshot | switchStream | extend | encode =>
    -- The loop goes on to a round without a frame.
    cases round <;> cases taken
    intro addressing frame waits
    cases waits

theorem talk_effect (taken : k.step action = some t) :
    t.rounds.sender.packets =
        k.rounds.sender.packets ++ Made.packets (makes k.rounds action) ∧
      t.burst = k.record action := by
  obtain ⟨rounds, moved, rfl⟩ := Option.map_eq_some_iff.mp taken
  exact ⟨(step_effect moved).packets, rfl⟩

theorem tracks_step (tracks : Tracks k) (taken : k.step action = some t) : Tracks t := by
  obtain ⟨packets, burst⟩ := talk_effect taken
  constructor
  · rw [packets, burst, Talk.record]
    obtain ⟨id, addressing, frame, waits, voice_eq, sent⟩ | ⟨id, voice_eq, sent, left⟩ |
      ⟨voice_eq, sent, left⟩ := sends_cases k.rounds action
    · rw [sent, voice_eq, Burst.ofPackets_concat, Burst.follow,
        if_neg (tracks.frame addressing frame waits)]
    · rw [sent, voice_eq, Burst.ofPackets_concat, Burst.follow, if_pos rfl, tracks.burst]
      simp only [left, stillSelected_iff]
    · rw [sent, voice_eq, List.append_nil, tracks.burst]
      simp [left]
  · obtain ⟨rounds, moved, rfl⟩ := Option.map_eq_some_iff.mp taken
    exact frame_filled_step tracks.frame moved

/-- A step keeps all streams ended exactly if its frame goes to the same listeners or to others
after the last ones were left once. -/
theorem terminated_step (tracks : Tracks k) (taken : k.step action = some t) :
    Terminated t.rounds.sender.packets ↔
      Terminated k.rounds.sender.packets ∧ k.leftOnce action = true := by
  obtain ⟨packets, -⟩ := talk_effect taken
  rw [packets, Talk.leftOnce]
  obtain ⟨id, addressing, frame, waits, voice_eq, sent⟩ | ⟨id, voice_eq, sent, -⟩ |
    ⟨voice_eq, sent, -⟩ := sends_cases k.rounds action
  · have filled := tracks.frame addressing frame waits
    rw [sent, voice_eq, terminated_concat, tracks.burst]
    refine and_congr_right fun _ => ?_
    cases k.burst with
    | none => simp
    | some b => simp [filled, or_iff_not_imp_left]
  · rw [sent, voice_eq, terminated_concat]
    simp
  · rw [sent, voice_eq, List.append_nil]
    simp

end Steps

/-- In every run all streams are ended for their listeners if and only if voice was sent elsewhere
only after the last listeners were left exactly once. -/
theorem streams_are_ended {ownClientId : UInt32} {actions : List Action} {k : Talk}
    (run : Run Talk.step anyStep (.start ownClientId) actions k) :
    Terminated k.rounds.sender.packets ↔
      Run Talk.step (fun t action => t.leftOnce action = true) (.start ownClientId) actions k :=
  have initial : Tracks (.start ownClientId) := ⟨rfl, fun _ _ waits => nomatch waits⟩
  have silent : Terminated [] := by
    intro before first between next after split
    simp at split
  run.holds_iff Tracks initial silent (fun _ _ _ tracks taken => tracks_step tracks taken)
    fun _ _ _ tracks taken => terminated_step tracks taken

/-- A command that completes one frame, all of which is sent. -/
def spokenFrame : List Action :=
  [.snapshot (List.replicate 960 0), .switchStream true, .extend, .drain true, .encode true true,
    .finish]

/-- A whisper between normal voice. -/
def whisperHistory : List Action :=
  .startAudio :: spokenFrame ++ [.setWhisperTargets [7] [], .setWhisperActive true] ++
    spokenFrame ++ .setWhisperActive false :: spokenFrame

theorem whisper_is_ended : ∃ k, Run Talk.step anyStep (.start 1) whisperHistory k ∧
    k.rounds.sender.packets.length = 5 ∧ Terminated k.rounds.sender.packets := by
  obtain ⟨k, met, test⟩ := reaches_of_guarded Talk.leftOnce
    (show (exec (guarded Talk.leftOnce Talk.step) (.start 1) whisperHistory).any
      (fun k => k.rounds.sender.packets.length == 5) = true by decide +kernel)
  have run : Run Talk.step anyStep (.start 1) whisperHistory k := met.weaken fun _ _ _ => trivial
  exact ⟨k, run, by simpa using test, (streams_are_ended run).mpr met⟩

/-- The targets are changed during a whisper. -/
def retargetHistory : List Action :=
  [.startAudio, .setWhisperTargets [7] [], .setWhisperActive true] ++ spokenFrame ++
    .setWhisperTargets [8] [] :: spokenFrame

/-- The second packet and the third carry voice to different listeners. -/
def changesListeners (r : VoiceRounds) : Bool :=
  match r.sender.packets with
  | [_, first, next] => first.samples != [] && next.samples != [] &&
      first.addressing != next.addressing
  | _ => false

/-- The first listeners hear no end. -/
theorem retarget_ends_nothing : ¬ ∀ (ownClientId : UInt32) (actions : List Action)
    (r : VoiceRounds), Run VoiceRounds.step anyStep (.new ownClientId) actions r →
      Terminated r.sender.packets := by
  intro terminated
  obtain ⟨r, run, heard⟩ := reaches_of_exec anyStep (fun _ _ _ => trivial)
    (show (exec VoiceRounds.step (.new 1) retargetHistory).any changesListeners = true by
      decide +kernel)
  have ended := terminated 1 retargetHistory r run
  unfold changesListeners at heard
  split at heard
  next opening first next packets =>
    simp only [Bool.and_eq_true, bne_iff_ne] at heard
    have once := ended [opening] first [] next [] packets heard.1.1 heard.1.2 (by simp) heard.2
    cases once
  · cases heard

end Nek0.Guarantees
