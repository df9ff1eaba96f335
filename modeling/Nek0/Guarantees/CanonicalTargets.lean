import Nek0.Library.Run
import Nek0.Library.Smallest
import Nek0.Source.WhisperConfig

/-!
# Canonical whisper targets

The lists are the smallest valid targets of the last input, always. The own client is left out as
it was known when the call was made, and nobody looks at the list again when that changes.
-/

namespace Nek0.Guarantees

open Nek0.Library Nek0.Source Nek0.Source.WhisperConfig
open Nek0.Source.VoiceSender (normalizeTargets sanitizeWhisperTargets)

/-- The list consists of the smallest targets that are valid, in ascending order. -/
structure SmallestOf {α : Type} [LT α] (valid : α → Prop) (list : List α) : Prop where
  ascending : list.Pairwise (· < ·)
  capped : list.length ≤ WHISPER_MAX_TARGETS
  named : ∀ id ∈ list, valid id
  smallest : ∀ id, valid id → id ∉ list →
    list.length = WHISPER_MAX_TARGETS ∧ ∀ listed ∈ list, listed < id

/-- A client other than the own one, which the input names by a number of 16 bits. -/
def ValidClient (input : WhisperTargetsInput) (ownClientId : UInt32) (id : UInt16) : Prop :=
  id ≠ 0 ∧ id.toUInt32 ∈ input.clients ∧ id.toUInt32 ≠ ownClientId

def ValidChannel (input : WhisperTargetsInput) (id : UInt64) : Prop := id ≠ 0 ∧ id ∈ input.channels

/-- What is stored comes from the last accepted input. -/
def Canonical (s : WhisperConfig) : Prop :=
  match s.lastInput with
  | none => s.voice.whisperTargetClients = [] ∧ s.voice.whisperTargetChannels = []
  | some (input, ownClientId) =>
    SmallestOf (ValidClient input ownClientId) s.voice.whisperTargetClients ∧
      SmallestOf (ValidChannel input) s.voice.whisperTargetChannels

/-- A connected session does not whisper to itself, neither by the id that it has stored nor by the
one that it has. -/
def SelfExcluded (s : WhisperConfig) : Prop :=
  ∀ own ∈ s.ownClient, own ∉ s.voice.whisperTargetClients ∧
    ∀ id ∈ s.voice.whisperTargetClients, id.toUInt32 ≠ s.voice.ownClientId

/-- The valid clients of an input, as often as it has them. -/
def validClients (clients : List UInt32) (ownClientId : UInt32) : List UInt16 :=
  (clients.filter fun id => id ≠ 0 ∧ id ≠ ownClientId ∧ id ≤ 65535).map (·.toUInt16)

/-- Among the smallest valid clients of an input. -/
def isNamed (input : WhisperTargetsInput) (ownClientId : UInt32) (id : UInt16) : Bool :=
  let valid := validClients input.clients ownClientId
  valid.contains id && below valid id < WHISPER_MAX_TARGETS

/-- A new own id is not in the list, and a call does not name an own id that is not stored. -/
def sparesSelf (s : WhisperConfig) : Action → Bool
  | .connect ownClient | .reconnect ownClient => ownClient ∉ s.voice.whisperTargetClients
  | .setWhisperTargets (some input) =>
    s.ownClient.all fun own => !isNamed input s.voice.ownClientId own
  | _ => true

theorem smallestOf_normalizeTargets {α : Type} [LE α] [LT α] [DecidableLE α] [DecidableEq α]
    [Std.IsLinearOrder α] [Std.LawfulOrderLT α] {valid : α → Prop} {ids : List α}
    (same : ∀ id, id ∈ ids ↔ valid id) : SmallestOf valid (normalizeTargets ids) where
  ascending := pairwise_smallest _ ids
  capped := length_smallest_le _ ids
  named id listed := (same id).mp (mem_of_mem_smallest listed)
  smallest id known missing := smallest_full ((same id).mpr known) missing

theorem mem_validClients {clients : List UInt32} {ownClientId : UInt32} {id : UInt16} :
    id ∈ validClients clients ownClientId ↔
      id ≠ 0 ∧ id.toUInt32 ∈ clients ∧ id.toUInt32 ≠ ownClientId := by
  simp only [validClients, List.mem_map, List.mem_filter, decide_eq_true_eq]
  constructor
  · rintro ⟨named, ⟨listed, some, other, small⟩, rfl⟩
    have same := VoiceSender.toUInt16_toUInt32 small
    refine ⟨fun zero => some ?_, same.symm ▸ listed, same.symm ▸ other⟩
    rw [← same, zero]
    rfl
  · rintro ⟨some, listed, other⟩
    refine ⟨id.toUInt32, ⟨listed, fun zero => some ?_, other, ?_⟩, UInt16.toUInt16_toUInt32 id⟩
    · rw [← UInt16.toUInt16_toUInt32 id, zero]
      rfl
    · rw [UInt32.le_iff_toNat_le, UInt16.toNat_toUInt32]
      exact Nat.le_of_lt_succ id.toNat_lt

theorem canonical_setWhisperTargets (s : WhisperConfig) (input : WhisperTargetsInput) :
    Canonical (s.setWhisperTargets (some input)) := by
  refine ⟨smallestOf_normalizeTargets fun id => mem_validClients, ?_⟩
  refine smallestOf_normalizeTargets fun id => ?_
  simp [ValidChannel, and_comm]

/-- The commands of the microphone leave the configuration alone. -/
structure SameConfig (s t : WhisperConfig) : Prop where
  ownClientId : t.voice.ownClientId = s.voice.ownClientId
  clients : t.voice.whisperTargetClients = s.voice.whisperTargetClients
  channels : t.voice.whisperTargetChannels = s.voice.whisperTargetChannels
  ownClient : t.ownClient = s.ownClient
  lastInput : t.lastInput = s.lastInput

section Steps

variable {s t : WhisperConfig} {action : Action}

theorem SameConfig.canonical (same : SameConfig s t) (canonical : Canonical s) : Canonical t := by
  unfold Canonical
  rw [same.lastInput, same.clients, same.channels]
  exact canonical

theorem SameConfig.selfExcluded_iff (same : SameConfig s t) :
    SelfExcluded t ↔ SelfExcluded s := by
  rw [SelfExcluded, SelfExcluded, same.ownClient, same.clients, same.ownClientId]

theorem sameConfig_setWhisperActive (s : WhisperConfig) (active : Bool) :
    SameConfig s { s with voice := (s.voice.setWhisperActive active).1 } := by
  unfold VoiceSender.setWhisperActive
  split <;> exact ⟨rfl, rfl, rfl, rfl, rfl⟩

theorem sameConfig_sendAudio (s : WhisperConfig) (data : List UInt32) (delivered : Bool)
    (fates : Nat → FrameFate) :
    SameConfig s { s with voice := s.voice.sendAudio data delivered fates } := by
  have same := VoiceSender.sameRouting_sendAudio s.voice data delivered fates
  exact ⟨same.ownClientId, same.clients, same.channels, rfl, rfl⟩

theorem canonical_step (canonical : Canonical s) (taken : s.step action = some t) :
    Canonical t := by
  cases action with
  | setWhisperTargets input =>
    obtain rfl := Option.some.inj taken
    cases input with
    | none => exact canonical
    | some input => exact canonical_setWhisperTargets s input
  | connect ownClient =>
    simp only [step, Option.ite_none_left_eq_some, Option.some.injEq] at taken
    obtain ⟨-, rfl⟩ := taken
    exact canonical
  | reconnect ownClient =>
    obtain ⟨_, -, rfl⟩ := Option.map_eq_some_iff.mp taken
    exact canonical
  | disconnect | startAudio | stopAudio =>
    obtain rfl := Option.some.inj taken
    exact canonical
  | setWhisperActive active =>
    obtain rfl := Option.some.inj taken
    exact (sameConfig_setWhisperActive s active).canonical canonical
  | sendAudio data delivered fates =>
    obtain rfl := Option.some.inj taken
    exact (sameConfig_sendAudio s data delivered fates).canonical canonical

/-- A call leaves the stored own id out, and the one that the server gave unless it is named. -/
theorem selfExcluded_setWhisperTargets_iff (s : WhisperConfig) (input : WhisperTargetsInput) :
    SelfExcluded (s.setWhisperTargets (some input)) ↔
      sparesSelf s (.setWhisperTargets (some input)) = true := by
  have listed (id : UInt16) :
      id ∈ (s.setWhisperTargets (some input)).voice.whisperTargetClients ↔
        isNamed input s.voice.ownClientId id = true := by
    rw [isNamed, Bool.and_eq_true, List.contains_iff_mem, decide_eq_true_eq]
    exact mem_smallest_iff WHISPER_MAX_TARGETS _ id
  have stored (id : UInt16)
      (named : id ∈ (s.setWhisperTargets (some input)).voice.whisperTargetClients) :
      id.toUInt32 ≠ s.voice.ownClientId :=
    ((canonical_setWhisperTargets s input).1.named id named).2.2
  simp only [sparesSelf, Option.all_eq_true, Bool.not_eq_true']
  constructor
  · intro excluded own same
    have missing := (excluded own same).1
    rw [listed] at missing
    exact Bool.eq_false_iff.mpr missing
  · intro spared own same
    refine ⟨?_, stored⟩
    rw [listed]
    exact Bool.eq_false_iff.mp (spared own same)

theorem selfExcluded_step_iff (excluded : SelfExcluded s) (taken : s.step action = some t) :
    SelfExcluded t ↔ sparesSelf s action = true := by
  cases action with
  | setWhisperTargets input =>
    obtain rfl := Option.some.inj taken
    cases input with
    | none => exact ⟨fun _ => rfl, fun _ => excluded⟩
    | some input => exact selfExcluded_setWhisperTargets_iff s input
  | connect ownClient =>
    simp only [step, Option.ite_none_left_eq_some, Option.some.injEq] at taken
    obtain ⟨-, rfl⟩ := taken
    simp only [sparesSelf, decide_eq_true_eq]
    refine ⟨fun after => (after ownClient rfl).1, fun missing own given => ?_⟩
    obtain rfl := Option.some.inj given
    exact ⟨missing, fun id listed same => missing (UInt16.toUInt32_inj.mp same ▸ listed)⟩
  | reconnect ownClient =>
    obtain ⟨own, known, rfl⟩ := Option.map_eq_some_iff.mp taken
    simp only [sparesSelf, decide_eq_true_eq]
    refine ⟨fun after => (after ownClient rfl).1, fun missing own given => ?_⟩
    obtain rfl := Option.some.inj given
    exact ⟨missing, (excluded _ known).2⟩
  | disconnect =>
    obtain rfl := Option.some.inj taken
    exact ⟨fun _ => rfl, fun _ own none => nomatch none⟩
  | startAudio | stopAudio =>
    obtain rfl := Option.some.inj taken
    exact ⟨fun _ => rfl, fun _ => excluded⟩
  | setWhisperActive active =>
    obtain rfl := Option.some.inj taken
    have same := sameConfig_setWhisperActive s active
    exact ⟨fun _ => rfl, fun _ => same.selfExcluded_iff.mpr excluded⟩
  | sendAudio data delivered fates =>
    obtain rfl := Option.some.inj taken
    have same := sameConfig_sendAudio s data delivered fates
    exact ⟨fun _ => rfl, fun _ => same.selfExcluded_iff.mpr excluded⟩

end Steps

/-- In every run the stored lists are canonical, and no connected session that was reached ever
whispered to itself exactly if every step spared it. -/
theorem targets_canonical_iff {actions : List Action} {s : WhisperConfig}
    (run : Run WhisperConfig.step anyStep .new actions s) :
    Canonical s ∧
      ((∀ earlier t, earlier <+: actions → Run WhisperConfig.step anyStep .new earlier t →
          SelfExcluded t) ↔
        Run WhisperConfig.step (fun t action => sparesSelf t action = true) .new actions s) := by
  refine ⟨run.invariant Canonical ⟨rfl, rfl⟩ fun _ _ _ canonical _ taken =>
    canonical_step canonical taken, ?_⟩
  exact run.always_iff (fun _ => True) trivial (fun own none => nomatch none)
    (fun _ _ _ _ _ => trivial) fun t action u _ excluded taken =>
      selfExcluded_step_iff excluded taken

/-- The own id is among the clients that are named, and is known by then. -/
def targetsWhileConnected : List Action :=
  [.connect 7, .setWhisperTargets (some ⟨[9, 7, 0, 70000], [40, 0]⟩)]

theorem targets_while_connected : ∃ s : WhisperConfig,
    s.voice.whisperTargetClients = [9] ∧ s.voice.whisperTargetChannels = [40] ∧
      Canonical s ∧ SelfExcluded s := by
  obtain ⟨s, run, reached⟩ := reaches_of_guarded sparesSelf (show
    (exec (guarded sparesSelf WhisperConfig.step) .new targetsWhileConnected).any (fun s =>
      s.voice.whisperTargetClients == [9] && s.voice.whisperTargetChannels == [40]) = true by
    decide +kernel)
  simp only [Bool.and_eq_true, beq_iff_eq] at reached
  have every : Run WhisperConfig.step anyStep .new targetsWhileConnected s :=
    run.weaken fun _ _ _ => trivial
  obtain ⟨canonical, iff⟩ := targets_canonical_iff every
  exact ⟨s, reached.1, reached.2, canonical, iff.mpr run _ s List.prefix_rfl every⟩

/-- The own client is chosen while the session connects. -/
def targetsWhileConnecting : List Action := [.setWhisperTargets (some ⟨[7], []⟩), .connect 7]

theorem whispers_to_itself : ∃ s : WhisperConfig,
    Run WhisperConfig.step anyStep .new targetsWhileConnecting s ∧ s.voice.ownClientId = 7 ∧
      s.voice.whisperTargetClients = [7] ∧ ¬SelfExcluded s := by
  obtain ⟨s, run, reached⟩ := reaches_of_exec anyStep (fun _ _ _ => trivial) (show
    (exec WhisperConfig.step .new targetsWhileConnecting).any (fun s => s.ownClient == some 7 &&
      s.voice.ownClientId == 7 && s.voice.whisperTargetClients == [7]) = true by decide +kernel)
  simp only [Bool.and_eq_true, beq_iff_eq] at reached
  obtain ⟨⟨own, stored⟩, targets⟩ := reached
  refine ⟨s, run, stored, targets, fun excluded => ?_⟩
  exact (excluded 7 own).1 (by simp [targets])

end Nek0.Guarantees
