import Nek0.Library.Run
import Nek0.Source.AudioTables

/-!
# What a session leaves behind in the audio tables

A decoder is made before it is known whether a packet can be decoded, a buffer after that, and the
clean-ups go by the buffers. A client of whom no packet could be decoded keeps its decoders.
-/

namespace Nek0.Guarantees

open Nek0.Library Nek0.Source Nek0.Source.AudioTables
open Nek0.Source.ClientVolumes (AudioKey)

variable {φ δ γ μ σ : Type*} {loudness : Loudness δ γ} {opus : Opus μ σ φ}

/-- Nothing of the connection is left, and what is there of the others is as it was. -/
structure DropsAll (t : AudioTables φ δ γ μ σ) (id : ConnectionId) : Prop where
  own : ∀ key : AudioKey, key.1 = id →
    (t.dropSessionAudio id).volumes.buffers.find key = none ∧
      (t.dropSessionAudio id).decoders key = none ∧
      (t.dropSessionAudio id).stereoDecoders key = none ∧
      key ∉ (t.dropSessionAudio id).activeClientIds
  others : ∀ key : AudioKey, key.1 ≠ id →
    (t.dropSessionAudio id).volumes.buffers.find key = t.volumes.buffers.find key ∧
      (t.dropSessionAudio id).decoders key = t.decoders key ∧
      (t.dropSessionAudio id).stereoDecoders key = t.stereoDecoders key
  snapshot : ∀ key, key ∈ (t.dropSessionAudio id).activeClientIds ↔
    key.1 ≠ id ∧ key ∈ t.volumes.buffers.keys

structure HeardTables (φ δ γ μ σ : Type*) where
  tables : AudioTables φ δ γ μ σ
  /-- The packets of a client since its buffer was removed, latest first: whether each could be
  decoded. -/
  heard : AudioKey → List Bool

namespace HeardTables

def new : HeardTables φ δ γ μ σ := ⟨.new, fun _ => []⟩

def heardAfter (opus : Opus μ σ φ) (h : HeardTables φ δ γ μ σ) :
    AudioTables.Action δ → AudioKey → List Bool
  | .audio cid audio =>
    if h.tables.admits cid audio then
      let key := (cid, audio.fromId)
      Function.update h.heard key
        ((h.tables.decode opus key audio.data).1.isSome :: h.heard key)
    else h.heard
  | .cleanup now => fun key => if key ∈ h.tables.stale now then [] else h.heard key
  | .snapshotTick => if h.tables.restarts then fun _ => [] else h.heard
  | .finalizeDisconnect cid => fun key =>
    if key ∈ h.tables.sessionKeys cid then [] else h.heard key
  | _ => h.heard

def step (loudness : Loudness δ γ) (opus : Opus μ σ φ) (h : HeardTables φ δ γ μ σ)
    (action : AudioTables.Action δ) : Option (HeardTables φ δ γ μ σ) :=
  (h.tables.step loudness opus action).map fun after => ⟨after, h.heardAfter opus action⟩

end HeardTables

/-- A client has a decoder once it was heard, and a buffer once a packet could be decoded. -/
structure TablesTold (h : HeardTables φ δ γ μ σ) : Prop where
  buffers : ∀ key, (h.tables.volumes.buffers.find key).isSome = true ↔ true ∈ h.heard key
  decoders : ∀ key, (h.tables.decoders key).isSome = true ↔ h.heard key ≠ []
  stereo : ∀ key, (h.tables.stereoDecoders key).isSome = true → h.heard key ≠ []

section Drop

variable {t : AudioTables φ δ γ μ σ} {id : ConnectionId}

theorem mem_sessionKeys {key : AudioKey} :
    key ∈ t.sessionKeys id ↔ (t.volumes.buffers.find key).isSome = true ∧ key.1 = id := by
  rw [← t.volumes.buffers.mem_keys key, sessionKeys, List.mem_filter, decide_eq_true_eq]

/-- A drop takes the buffers of the collected keys. -/
theorem find_dropSessionAudio (key : AudioKey) :
    (t.volumes.dropSessionAudio id).buffers.find key =
      if key ∈ t.sessionKeys id then none else t.volumes.buffers.find key := by
  unfold ClientVolumes.dropSessionAudio LinkedMap.filter
  cases found : t.volumes.buffers.find key with
  | none => simp [found]
  | some buffer => by_cases own : key.1 = id <;> simp [mem_sessionKeys, found, own]

theorem find_dropSessionAudio_of_own {key : AudioKey} (own : key.1 = id) :
    (t.volumes.dropSessionAudio id).buffers.find key = none := by
  rw [find_dropSessionAudio]
  split
  · rfl
  next kept =>
    rw [mem_sessionKeys, and_iff_left own] at kept
    exact Option.not_isSome_iff_eq_none.mp kept

theorem not_mem_sessionKeys {key : AudioKey} (other : key.1 ≠ id) : key ∉ t.sessionKeys id :=
  fun own => other (mem_sessionKeys.mp own).2

theorem removeAll_eq_none_iff {α : Type*} {table : AudioKey → Option α} {keys : List AudioKey}
    {key : AudioKey} : removeAll table keys key = none ↔ key ∉ keys → table key = none := by
  unfold removeAll
  split <;> simp [*]

theorem mem_snapshot {key : AudioKey} :
    key ∈ (t.dropSessionAudio id).activeClientIds ↔
      key.1 ≠ id ∧ key ∈ t.volumes.buffers.keys := by
  have kept : key ∈ (t.dropSessionAudio id).activeClientIds ↔
      ((t.volumes.dropSessionAudio id).buffers.find key).isSome = true :=
    LinkedMap.mem_keys ..
  rw [kept, t.volumes.buffers.mem_keys key]
  by_cases own : key.1 = id
  · simp [find_dropSessionAudio_of_own own, own]
  · simp [find_dropSessionAudio, not_mem_sessionKeys own, own]

/-- A drop is complete if the session has no decoders but those of clients with a buffer. -/
theorem dropsAll_iff : DropsAll t id ↔ ∀ client : UInt16,
    t.volumes.buffers.find (id, client) = none →
      t.decoders (id, client) = none ∧ t.stereoDecoders (id, client) = none := by
  constructor
  · intro complete client absent
    have kept : (id, client) ∉ t.sessionKeys id := by simp [mem_sessionKeys, absent]
    obtain ⟨-, mono, stereo, -⟩ := complete.own (id, client) rfl
    exact ⟨removeAll_eq_none_iff.mp mono kept, removeAll_eq_none_iff.mp stereo kept⟩
  · intro none
    have gone : ∀ client, (id, client) ∉ t.sessionKeys id →
        t.decoders (id, client) = .none ∧ t.stereoDecoders (id, client) = .none := by
      intro client kept
      rw [mem_sessionKeys, and_iff_left rfl, Option.not_isSome_iff_eq_none] at kept
      exact none client kept
    constructor
    · rintro ⟨_, client⟩ rfl
      refine ⟨find_dropSessionAudio_of_own rfl, removeAll_eq_none_iff.mpr fun kept => ?_,
        removeAll_eq_none_iff.mpr fun kept => ?_, fun listed => (mem_snapshot.mp listed).1 rfl⟩
      · exact (gone client kept).1
      · exact (gone client kept).2
    · intro key other
      have kept := not_mem_sessionKeys (t := t) other
      refine ⟨?_, if_neg kept, if_neg kept⟩
      exact (find_dropSessionAudio key).trans (if_neg kept)
    · intro key
      exact mem_snapshot

end Drop

section Heard

variable {t u : AudioTables φ δ γ μ σ} {heard : AudioKey → List Bool}

theorem told_new : TablesTold (HeardTables.new : HeardTables φ δ γ μ σ) := by
  constructor <;> simp [HeardTables.new, AudioTables.new, ClientVolumes.new]

/-- What keeps the clients with a buffer and the decoders keeps what is told of them. -/
theorem TablesTold.of_volumes (told : TablesTold ⟨t, heard⟩) {volumes : ClientVolumes φ δ γ}
    (same : ∀ key, (volumes.buffers.find key).isSome = (t.volumes.buffers.find key).isSome) :
    TablesTold ⟨{ t with volumes }, heard⟩ where
  buffers key := by rw [← told.buffers key, ← same key]
  decoders := told.decoders
  stereo := told.stereo

/-- What takes the buffers and the decoders of the same clients forgets what was heard of them. -/
theorem TablesTold.removed (told : TablesTold ⟨t, heard⟩) (keys : List AudioKey)
    (buffers : ∀ key, u.volumes.buffers.find key =
      if key ∈ keys then none else t.volumes.buffers.find key)
    (decoders : u.decoders = removeAll t.decoders keys)
    (stereo : u.stereoDecoders = removeAll t.stereoDecoders keys) :
    TablesTold ⟨u, fun key => if key ∈ keys then [] else heard key⟩ := by
  constructor <;> intro key
  · dsimp only
    rw [buffers key]
    split
    · simp
    · exact told.buffers key
  · dsimp only
    rw [decoders, removeAll]
    split
    · simp
    · exact told.decoders key
  · dsimp only
    rw [stereo, removeAll]
    split
    · simp
    · exact told.stereo key

theorem find_cleanup (now : Nat) (key : AudioKey) :
    (t.cleanup now).volumes.buffers.find key =
      if key ∈ t.stale now then none else t.volumes.buffers.find key := by
  have listed := t.volumes.buffers.mem_keys key
  unfold cleanup ClientVolumes.cleanup LinkedMap.filter stale
  dsimp only
  cases found : t.volumes.buffers.find key with
  | none => simp
  | some buffer =>
    rw [found] at listed
    cases old : buffer.lastPacket.any fun last => decide (10000 < now - last) <;>
      simp [listed, found, old]

theorem admits_eq_true {cid : ConnectionId} {audio : AudioPacket}
    (admitted : t.admits cid audio = true) : ∃ session, t.volumes.sessions cid = some session ∧
      session.connected = true ∧
      (audio.isWhisper && !session.whisperIsAllowed audio.fromId) = false := by
  unfold admits at admitted
  cases there : t.volumes.sessions cid with
  | none => simp [there] at admitted
  | some session =>
    rw [there, Option.any_some, Bool.and_eq_true, Bool.not_eq_true'] at admitted
    exact ⟨session, rfl, admitted⟩

/-- What becomes of a packet that is not decoded. -/
theorem decodeToClientBuffer_of_refused {cid : ConnectionId} {audio : AudioPacket}
    (refused : t.admits cid audio = false)
    (taken : t.decodeToClientBuffer loudness opus cid audio = some u) : u = t := by
  simp only [AudioTables.decodeToClientBuffer, refused, Bool.false_eq_true, if_false,
    Option.map_eq_some_iff, ClientVolumes.decodeToClientBuffer] at taken
  obtain ⟨volumes, taken, rfl⟩ := taken
  split at taken
  · cases taken
  split_ifs at taken <;> obtain rfl := Option.some.inj taken <;> rfl

/-- Decoding makes a decoder of the client, and leaves the buffers to what follows. -/
theorem decode_spec (opus : Opus μ σ φ) (key : AudioKey) (data : List UInt8) :
    (t.decode opus key data).2.volumes = t.volumes ∧
      (∃ mono, (t.decode opus key data).2.decoders =
        Function.update t.decoders key (some mono)) ∧
      ∀ queried, queried ≠ key →
        (t.decode opus key data).2.stereoDecoders queried = t.stereoDecoders queried := by
  unfold decode
  dsimp only
  split
  · exact ⟨rfl, ⟨_, rfl⟩, fun _ _ => rfl⟩
  · exact ⟨rfl, ⟨_, rfl⟩, fun queried other => Function.update_of_ne other ..⟩

/-- A decodable packet makes a buffer where there is none. -/
theorem buffered_decodeToClientBuffer {cid : ConnectionId} {audio : AudioPacket}
    (admitted : t.admits cid audio = true)
    (taken : t.decodeToClientBuffer loudness opus cid audio = some u) (queried : AudioKey) :
    (u.volumes.buffers.find queried).isSome = true ↔
      (t.volumes.buffers.find queried).isSome = true ∨ queried = (cid, audio.fromId) ∧
        (t.decode opus (cid, audio.fromId) audio.data).1.isSome = true := by
  obtain ⟨session, there, connected, allowed⟩ := admits_eq_true admitted
  obtain ⟨same, -, -⟩ := decode_spec (t := t) opus (cid, audio.fromId) audio.data
  simp only [AudioTables.decodeToClientBuffer, admitted, if_true, Option.map_eq_some_iff] at taken
  obtain ⟨volumes, taken, rfl⟩ := taken
  simp only [ClientVolumes.decodeToClientBuffer, same, there, connected, allowed, Bool.not_true,
    Bool.false_eq_true, if_false] at taken
  cases decoded : (t.decode opus (cid, audio.fromId) audio.data).1 with
  | none =>
    rw [decoded] at taken
    obtain rfl := Option.some.inj taken
    simp
  | some frame =>
    rw [decoded] at taken
    obtain rfl := Option.some.inj taken
    rw [LinkedMap.find_insert]
    split <;> simp [*]

theorem decoders_decodeToClientBuffer {cid : ConnectionId} {audio : AudioPacket}
    (admitted : t.admits cid audio = true)
    (taken : t.decodeToClientBuffer loudness opus cid audio = some u) :
    u.decoders = (t.decode opus (cid, audio.fromId) audio.data).2.decoders ∧
      u.stereoDecoders = (t.decode opus (cid, audio.fromId) audio.data).2.stereoDecoders := by
  simp only [AudioTables.decodeToClientBuffer, admitted, if_true, Option.map_eq_some_iff] at taken
  obtain ⟨volumes, -, rfl⟩ := taken
  exact ⟨rfl, rfl⟩

/-- A packet is heard whether or not it can be decoded. -/
theorem TablesTold.audio (told : TablesTold ⟨t, heard⟩) {cid : ConnectionId} {audio : AudioPacket}
    (taken : t.decodeToClientBuffer loudness opus cid audio = some u) :
    TablesTold ⟨u, HeardTables.heardAfter (δ := δ) opus ⟨t, heard⟩ (.audio cid audio)⟩ := by
  unfold HeardTables.heardAfter
  dsimp only
  split
  next admitted =>
    obtain ⟨mono, stereo⟩ := decoders_decodeToClientBuffer admitted taken
    obtain ⟨-, ⟨made, mono'⟩, others⟩ :=
      decode_spec (t := t) opus (cid, audio.fromId) audio.data
    constructor <;> intro key
    · dsimp only
      rw [buffered_decodeToClientBuffer admitted taken key, told.buffers key]
      by_cases same : key = (cid, audio.fromId)
      · subst same
        rw [Function.update_self, List.mem_cons, or_comm, and_iff_right rfl, eq_comm]
      · simp [same]
    · dsimp only
      rw [mono, mono']
      by_cases same : key = (cid, audio.fromId)
      · simp [same]
      · rw [Function.update_of_ne same, Function.update_of_ne same]
        exact told.decoders key
    · dsimp only
      intro there
      by_cases same : key = (cid, audio.fromId)
      · simp [same]
      · rw [stereo, others key same] at there
        rw [Function.update_of_ne same]
        exact told.stereo key there
  next refused =>
    rw [decodeToClientBuffer_of_refused (Bool.eq_false_iff.mpr refused) taken]
    exact told

theorem TablesTold.snapshotTick (told : TablesTold ⟨t, heard⟩) :
    TablesTold ⟨t.snapshotTick, if t.restarts then fun _ => [] else heard⟩ := by
  unfold AudioTables.snapshotTick restarts
  split
  next restarted =>
    simp only [ClientVolumes.snapshotTick, restarted, if_true]
    constructor <;> simp [ClientVolumes.restartOutputStream]
  · exact ⟨told.buffers, told.decoders, told.stereo⟩

theorem told_step {h after : HeardTables φ δ γ μ σ} {action : AudioTables.Action δ}
    (told : TablesTold h) (taken : h.step loudness opus action = some after) :
    TablesTold after := by
  obtain ⟨t, heard⟩ := h
  obtain ⟨u, made, rfl⟩ := Option.map_eq_some_iff.mp taken
  cases action with
  | connect | refresh | requestRestart | setWhisperAllowlist =>
    obtain rfl := Option.some.inj made
    exact told.of_volumes fun _ => rfl
  | setWhisperAllowMode =>
    obtain rfl := Option.some.inj made
    refine told.of_volumes fun _ => ?_
    unfold ClientVolumes.setWhisperAllowMode
    split <;> rfl
  | setClientVolume cid clientId volumeDb =>
    obtain rfl := Option.some.inj made
    refine told.of_volumes fun key => ?_
    dsimp only [ClientVolumes.setClientVolume]
    rw [LinkedMap.find_modify]
    split
    · exact Option.isSome_map
    · rfl
  | audio cid audio => exact told.audio made
  | cleanup now =>
    obtain rfl := Option.some.inj made
    exact told.removed (t.stale now) (find_cleanup now) rfl rfl
  | snapshotTick =>
    obtain rfl := Option.some.inj made
    exact told.snapshotTick
  | finalizeDisconnect cid =>
    obtain rfl := Option.some.inj made
    exact told.removed (t.sessionKeys cid) find_dropSessionAudio rfl rfl

end Heard

/-- At any moment a drop leaves nothing of a session and does not touch the others if and only if
of each client of the session that was heard since its buffer was removed a packet could be
decoded. -/
theorem drop_complete_iff (loudness : Loudness δ γ) (opus : Opus μ σ φ)
    (actions : List (AudioTables.Action δ)) (h : HeardTables φ δ γ μ σ)
    (run : Run (HeardTables.step loudness opus) anyStep .new actions h) (id : ConnectionId) :
    DropsAll h.tables id ↔
      ∀ client : UInt16, h.heard (id, client) = [] ∨ true ∈ h.heard (id, client) := by
  have told : TablesTold h :=
    run.invariant TablesTold told_new fun _ _ _ told _ taken => told_step told taken
  rw [dropsAll_iff]
  refine forall_congr' fun client => ?_
  have buffer := told.buffers (id, client)
  have mono := told.decoders (id, client)
  have stereo := told.stereo (id, client)
  rw [Option.isSome_iff_ne_none] at buffer mono stereo
  constructor
  · intro complete
    by_cases decoded : true ∈ h.heard (id, client)
    · exact .inr decoded
    · have absent := not_not.mp (mt buffer.mp decoded)
      exact .inl (not_not.mp (mt mono.mpr (not_not.mpr (complete absent).1)))
  · rintro (silent | decoded) absent
    · exact ⟨not_not.mp (mt mono.mp (not_not.mpr silent)),
        not_not.mp (mt stereo (not_not.mpr silent))⟩
    · exact absurd absent (buffer.mpr decoded)

/-- Decoders that count their packets: a 1 is of one channel, a 2 of two, and nothing else can be
decoded. -/
def countingOpus : Opus Nat Nat (List UInt8) where
  mono := 0
  stereo := 0
  decodeMono count data := (count + 1, if data.head? = some 1 then some data else none)
  decodeStereo count data := (count + 1, if data.head? = some 2 then some data else none)

def flat : Loudness Unit Unit := ⟨id, id, ()⟩

/-- A client sends a packet. -/
def sends (cid : ConnectionId) (fromId : UInt16) (seq : Fin (2 ^ 16)) (data : List UInt8) :
    AudioTables.Action Unit :=
  .audio cid ⟨fromId, false, ⟨seq, 0, 0⟩, data, 0⟩

/-- Client 5 can be heard at once and client 6 later, and there is somebody on another server. -/
def heardAll : List (AudioTables.Action Unit) :=
  [.connect, .connect, .refresh 1 [], .refresh 2 [], sends 1 5 1 [1], sends 1 6 1 [0],
    .snapshotTick, sends 1 6 2 [2], sends 2 5 1 [1]]

theorem heard_all_dropped : ∃ h : HeardTables (List UInt8) Unit Unit Nat Nat,
    h.tables.volumes.buffers.keys = [(1, 5), (1, 6), (2, 5)] ∧
      h.tables.stereoDecoders (1, 6) = some 2 ∧ DropsAll h.tables 1 := by
  obtain ⟨h, computed, keys, stereo, heard⟩ : ∃ h : HeardTables (List UInt8) Unit Unit Nat Nat,
      exec (HeardTables.step flat countingOpus) .new heardAll = some h ∧
        h.tables.volumes.buffers.keys = [(1, 5), (1, 6), (2, 5)] ∧
        h.tables.stereoDecoders (1, 6) = some 2 ∧
        h.heard = Function.update (Function.update (Function.update (Function.update
          (fun _ => []) (1, 5) [true]) (1, 6) [false]) (1, 6) [true, false]) (2, 5) [true] :=
    ⟨_, rfl, rfl, rfl, rfl⟩
  have run : Run (HeardTables.step flat countingOpus) anyStep .new heardAll h :=
    run_of_exec (fun _ _ _ => trivial) computed
  refine ⟨h, keys, stereo, (drop_complete_iff flat countingOpus heardAll h run 1).mpr ?_⟩
  intro client
  rw [heard]
  by_cases five : client = 5
  · simp [five]
  · by_cases six : client = 6 <;> simp [five, six]

/-- Nothing of client 5 can be decoded. -/
def neverHeard : List (AudioTables.Action Unit) :=
  [.connect, .refresh 1 [], sends 1 5 1 [0]]

/-- Its decoders outlive the session. -/
theorem decoders_left_behind : ∃ h : HeardTables (List UInt8) Unit Unit Nat Nat,
    Run (HeardTables.step flat countingOpus) anyStep .new neverHeard h ∧
      (h.tables.finalizeDisconnect 1).volumes.sessions 1 = none ∧
      (h.tables.finalizeDisconnect 1).decoders (1, 5) = some 1 ∧
      (h.tables.finalizeDisconnect 1).stereoDecoders (1, 5) = some 1 ∧ ¬DropsAll h.tables 1 := by
  obtain ⟨h, computed, gone, mono, stereo⟩ : ∃ h : HeardTables (List UInt8) Unit Unit Nat Nat,
      exec (HeardTables.step flat countingOpus) .new neverHeard = some h ∧
        (h.tables.finalizeDisconnect 1).volumes.sessions 1 = none ∧
        (h.tables.finalizeDisconnect 1).decoders (1, 5) = some 1 ∧
        (h.tables.finalizeDisconnect 1).stereoDecoders (1, 5) = some 1 :=
    ⟨_, rfl, rfl, rfl, rfl⟩
  have run : Run (HeardTables.step flat countingOpus) anyStep .new neverHeard h :=
    run_of_exec (fun _ _ _ => trivial) computed
  refine ⟨h, run, gone, mono, stereo, fun complete => ?_⟩
  have dropped := (complete.own (1, 5) rfl).2.1
  exact absurd (mono.symm.trans dropped) (by decide)

end Nek0.Guarantees
