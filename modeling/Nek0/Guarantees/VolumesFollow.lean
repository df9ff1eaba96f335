import Mathlib.Data.List.Find
import Nek0.Library.Run
import Nek0.Source.ClientVolumes

/-!
# A volume follows its person

The volume of a person is stored once and copied to playback buffers: to a new one when it is
created, and to the one that is named when the volume is set. All other buffers keep the copy
they have, so the copies stay right exactly as long as a volume is set while the person has no
other buffer and a client id with a buffer does not pass to somebody with another volume.
-/

namespace Nek0.Guarantees

open Nek0.Library Nek0.Source Nek0.Source.ClientVolumes

variable {φ δ γ : Type*} {loudness : Loudness δ γ} {e f : ClientVolumes φ δ γ}

/-- The gain of a person: of the stored volume, or unity. -/
def personGain (loudness : Loudness δ γ) (e : ClientVolumes φ δ γ) (uid : String) : γ :=
  (e.volumes uid).elim loudness.unity loudness.gain

/-- Every live buffer of a known person plays at the gain of the person. -/
def VolumesFollow (loudness : Loudness δ γ) (e : ClientVolumes φ δ γ) : Prop :=
  ∀ key buffer uid, e.buffers.find key = some buffer → e.uidOf key = some uid →
    buffer.volume = personGain loudness e uid

/-- The unique id that a new roster will have for a client id. -/
def knownAs (clients : List BookClient) (id : UInt16) : Option String :=
  (clients.find? fun client => client.id = id).bind (·.uid)

section Condition

variable [DecidableEq γ]

def playsAt (e : ClientVolumes φ δ γ) (key : AudioKey) (gain : γ) : Bool :=
  (e.buffers.find key).all fun buffer => buffer.volume = gain

/-- A volume is set while the person has no other buffer, and a refresh gives no client id with
a buffer to another person, unless the buffer plays at the right gain already. -/
def keepsVolumes (loudness : Loudness δ γ) (e : ClientVolumes φ δ γ) :
    ClientVolumes.Action φ δ → Bool
  | .setClientVolume cid clientId volumeDb =>
    (e.uidOf (cid, clientId)).all fun uid => e.buffers.keys.all fun key =>
      key = (cid, clientId) || e.uidOf key ≠ some uid ||
        playsAt e key (loudness.gain (loudness.clamp volumeDb))
  | .refresh cid clients =>
    (e.sessions cid).isNone || e.buffers.keys.all fun key =>
      key.1 ≠ cid || (knownAs clients key.2).all fun uid =>
        e.uidOf key = some uid || playsAt e key (personGain loudness e uid)
  | _ => true

end Condition

theorem uidOf_refresh {cid : ConnectionId} {clients : List BookClient} {id : UInt16} :
    (e.refresh cid clients).uidOf (cid, id) =
      if (e.sessions cid).isSome then knownAs clients id else none := by
  have roster : (refreshFromBook clients).find? (fun client => client.id.toUInt16 = id) =
      (clients.find? fun client => client.id = id).map
        fun client => ⟨client.id.toUInt32, client.uid⟩ := by
    simp [refreshFromBook, List.find?_map]
  rw [refresh, uidOf_setSession, if_pos rfl]
  cases e.sessions cid with
  | none => rfl
  | some session => simp [ClientVolumes.TsConnection.uidOf, roster, knownAs, Option.bind_map]

/-- Buffers may go and persons may become unknown. -/
theorem VolumesFollow.shrink (follow : VolumesFollow loudness e) (volumes : f.volumes = e.volumes)
    (buffers : ∀ key buffer, f.buffers.find key = some buffer → e.buffers.find key = some buffer)
    (uids : ∀ key uid, f.uidOf key = some uid → e.uidOf key = some uid) :
    VolumesFollow loudness f := by
  intro key buffer uid live known
  have same : personGain loudness f uid = personGain loudness e uid := by
    unfold personGain
    rw [volumes]
  rw [same]
  exact follow key buffer uid (buffers key buffer live) (uids key uid known)

theorem newBuffer_volume {key : AudioKey} {uid : String} (known : e.uidOf key = some uid) :
    (e.newBuffer loudness key).volume = personGain loudness e uid := by
  simp [newBuffer, personGain, known]

theorem follow_audio {cid : ConnectionId} {audio : InAudio φ}
    (follow : VolumesFollow loudness e)
    (taken : e.decodeToClientBuffer loudness cid audio = some f) : VolumesFollow loudness f := by
  simp only [decodeToClientBuffer] at taken
  split at taken
  · cases taken
  split at taken
  · cases taken
  split at taken
  · obtain rfl := Option.some.inj taken
    exact follow
  split at taken
  · obtain rfl := Option.some.inj taken
    exact follow
  obtain rfl := Option.some.inj taken
  intro key buffer uid live known
  have known : e.uidOf key = some uid := known
  by_cases same : key = (cid, audio.fromId)
  · subst same
    simp only [LinkedMap.find_insert_self, Option.some.injEq] at live
    subst live
    -- The buffer that was there follows already, a new one is made to.
    cases there : e.buffers.find (cid, audio.fromId) with
    | none => exact newBuffer_volume known
    | some buffer => exact follow _ buffer uid there known
  · simp only [LinkedMap.find_insert_of_ne _ _ same] at live
    exact follow key buffer uid live known

/-- Setting a volume keeps the buffers in step if and only if no other one is left behind. -/
theorem follow_setClientVolume [DecidableEq γ] (follow : VolumesFollow loudness e)
    (cid : ConnectionId) (clientId : UInt16) (volumeDb : δ) :
    VolumesFollow loudness (e.setClientVolume loudness cid clientId volumeDb) ↔
      keepsVolumes loudness e (.setClientVolume cid clientId volumeDb) = true := by
  have buffers : ∀ key, (e.setClientVolume loudness cid clientId volumeDb).buffers.find key =
      if key = (cid, clientId) then
        (e.buffers.find key).map ({ · with volume := loudness.gain (loudness.clamp volumeDb) })
      else e.buffers.find key := fun key => LinkedMap.find_modify ..
  have roster : ∀ key, (e.setClientVolume loudness cid clientId volumeDb).uidOf key =
      e.uidOf key := fun _ => rfl
  simp only [keepsVolumes]
  cases known : e.uidOf (cid, clientId) with
  | none =>
    -- Nothing is stored, and nobody is known to own the buffer.
    have volumes : (e.setClientVolume loudness cid clientId volumeDb).volumes = e.volumes := by
      simp [setClientVolume, known]
    simp only [Option.all_none, iff_true]
    intro key buffer uid live named
    rw [roster] at named
    have other : key ≠ (cid, clientId) := by
      rintro rfl
      cases known.symm.trans named
    rw [buffers, if_neg other] at live
    have kept := follow key buffer uid live named
    unfold personGain at kept ⊢
    rwa [volumes]
  | some person =>
    have gains : ∀ uid, personGain loudness (e.setClientVolume loudness cid clientId volumeDb) uid =
        if uid = person then loudness.gain (loudness.clamp volumeDb)
        else personGain loudness e uid := by
      intro uid
      by_cases same : uid = person
      · simp [personGain, setClientVolume, known, same]
      · simp [personGain, setClientVolume, known, same]
    simp only [Option.all_some, List.all_eq_true, Bool.or_eq_true, decide_eq_true_eq]
    constructor
    · intro after key _
      by_cases same : key = (cid, clientId)
      · exact .inl (.inl same)
      by_cases named : e.uidOf key = some person
      · right
        simp only [playsAt, Option.all_eq_true, decide_eq_true_eq]
        intro buffer live
        have played := after key buffer person (by rw [buffers, if_neg same, live]) named
        rwa [gains, if_pos rfl] at played
      · exact .inl (.inr named)
    · intro met key buffer uid live named
      rw [roster] at named
      rw [buffers] at live
      rw [gains]
      by_cases same : key = (cid, clientId)
      · subst same
        simp only [if_true, Option.map_eq_some_iff] at live
        obtain ⟨before, -, rfl⟩ := live
        obtain rfl := Option.some.inj (known.symm.trans named)
        rw [if_pos rfl]
      · rw [if_neg same] at live
        split
        · next mine =>
          subst mine
          have listed : key ∈ e.buffers.keys := (e.buffers.mem_keys key).mpr (by rw [live]; rfl)
          rcases met key listed with (equal | stranger) | plays
          · exact absurd equal same
          · exact absurd named stranger
          · simpa [playsAt, live] using plays
        · exact follow key buffer uid live named

/-- A refresh keeps them in step if and only if no buffer passes to somebody else. -/
theorem follow_refresh [DecidableEq γ] (follow : VolumesFollow loudness e)
    (cid : ConnectionId) (clients : List BookClient) :
    VolumesFollow loudness (e.refresh cid clients) ↔
      keepsVolumes loudness e (.refresh cid clients) = true := by
  have gains : ∀ uid, personGain loudness (e.refresh cid clients) uid =
      personGain loudness e uid := fun _ => rfl
  have buffers : (e.refresh cid clients).buffers = e.buffers := rfl
  simp only [keepsVolumes, Bool.or_eq_true, Option.isNone_iff_eq_none, List.all_eq_true,
    decide_eq_true_eq, Option.all_eq_true]
  constructor
  · intro after
    cases opened : e.sessions cid with
    | none => exact .inl rfl
    | some _ =>
      right
      rintro ⟨session, id⟩ _
      by_cases mine : session = cid
      · subst mine
        refine .inr fun uid named => .inr ?_
        simp only [playsAt, Option.all_eq_true, decide_eq_true_eq]
        intro buffer live
        refine after (session, id) buffer uid live ?_
        rw [uidOf_refresh, opened]
        exact named
      · exact .inl mine
  · rintro met ⟨session, id⟩ buffer uid live named
    rw [gains]
    rw [buffers] at live
    by_cases mine : session = cid
    · subst mine
      rw [uidOf_refresh] at named
      split at named
      · next opened =>
        have listed : (session, id) ∈ e.buffers.keys :=
          (e.buffers.mem_keys _).mpr (by rw [live]; rfl)
        rcases met with closed | met
        · simp [closed] at opened
        rcases met _ listed with other | right
        · exact absurd rfl other
        rcases right uid named with kept | plays
        · exact follow _ buffer uid live kept
        · simpa [playsAt, live] using plays
      · cases named
    · rw [uidOf_refresh_other clients mine] at named
      exact follow (session, id) buffer uid live named

theorem follow_step [DecidableEq γ] {action : ClientVolumes.Action φ δ}
    (follow : VolumesFollow loudness e)
    (taken : e.step loudness action = some f) :
    VolumesFollow loudness f ↔ keepsVolumes loudness e action = true := by
  cases action with
  | connect =>
    obtain rfl := Option.some.inj taken
    refine iff_of_true (follow.shrink rfl (fun _ _ live => live) fun key uid named => ?_) rfl
    rw [uidOf_connect] at named
    split at named
    · cases named
    · exact named
  | refresh cid clients =>
    obtain rfl := Option.some.inj taken
    exact follow_refresh follow cid clients
  | finalizeDisconnect cid =>
    obtain rfl := Option.some.inj taken
    refine iff_of_true (follow.shrink rfl (fun key buffer live => ?_) fun key uid named => ?_) rfl
    · exact (LinkedMap.find_filter_eq_some.mp live).1
    · rw [uidOf_finalizeDisconnect] at named
      split at named
      · cases named
      · exact named
  | setWhisperAllowMode cid mode =>
    obtain rfl := Option.some.inj taken
    refine iff_of_true ?_ rfl
    have audio := audio_setWhisperAllowMode (e := e) cid mode
    refine follow.shrink audio.1 (fun key buffer live => audio.2 ▸ live) fun key uid named => ?_
    rwa [uidOf_setWhisperAllowMode] at named
  | setWhisperAllowlist cid uids =>
    obtain rfl := Option.some.inj taken
    refine iff_of_true (follow.shrink rfl (fun _ _ live => live) fun key uid named => ?_) rfl
    rwa [uidOf_setWhisperAllowlist] at named
  | audio cid audio => exact iff_of_true (follow_audio follow taken) rfl
  | setClientVolume cid clientId volumeDb =>
    obtain rfl := Option.some.inj taken
    exact follow_setClientVolume follow cid clientId volumeDb
  | cleanup now =>
    obtain rfl := Option.some.inj taken
    refine iff_of_true (follow.shrink rfl (fun key buffer live => ?_) fun _ _ named => named) rfl
    exact (LinkedMap.find_filter_eq_some.mp live).1
  | requestRestart forced =>
    obtain rfl := Option.some.inj taken
    exact iff_of_true follow rfl
  | snapshotTick =>
    obtain rfl := Option.some.inj taken
    refine iff_of_true ?_ rfl
    unfold snapshotTick
    split
    · rintro key buffer uid ⟨⟩
    · exact follow

/-- The volumes follow the persons in all states of a run if and only if every step of the run
leaves no buffer of theirs behind. -/
theorem volumes_follow_persons [DecidableEq γ] {actions : List (ClientVolumes.Action φ δ)}
    (run : Run (step loudness) anyStep .new actions e) :
    (∀ past t, past <+: actions → Run (step loudness) anyStep .new past t →
      VolumesFollow loudness t) ↔
    Run (step loudness) (fun t action => keepsVolumes loudness t action = true) .new actions e := by
  refine run.always_iff (fun _ => True) trivial ?_ (fun _ _ _ _ _ => trivial)
    fun t action u _ follow taken => follow_step follow taken
  rintro key buffer uid ⟨⟩

/-- Whole decibels, and a gain that tells them apart. -/
def decibels : Loudness Int Int where
  clamp db := max (-20) (min db 20)
  gain db := 100 + db
  unity := 100

/-- Client 5 speaks. -/
def speaks (cid : ConnectionId) (seq : Fin (2 ^ 16)) (now : Nat) : ClientVolumes.Action Unit Int :=
  .audio cid ⟨5, false, ⟨seq, 0, 0⟩, some (), now⟩

/-- Anna is turned down, is silent for long and speaks again. -/
def silenceHistory : List (ClientVolumes.Action Unit Int) :=
  [.connect, .refresh 1 [⟨5, some "anna"⟩], speaks 1 1 0, .setClientVolume 1 5 (-6), .cleanup 20000,
    speaks 1 2 30000]

theorem volumes_follow_persons_kept : ∃ e,
    Run (step decibels) anyStep .new silenceHistory e ∧
      ∀ past t, past <+: silenceHistory → Run (step decibels) anyStep .new past t →
        VolumesFollow decibels t := by
  obtain ⟨e, run, -⟩ := reaches_of_guarded (keepsVolumes decibels)
    (show (exec (guarded (keepsVolumes decibels) (step decibels)) .new silenceHistory).any
      (fun e => playsAt e (1, 5) 94 && e.buffers.keys == [(1, 5)]) = true by decide +kernel)
  have plain : Run (step decibels) anyStep .new silenceHistory e :=
    run.weaken fun _ _ _ => trivial
  exact ⟨e, plain, (volumes_follow_persons plain).mpr run⟩

/-- Anna is on two servers and speaks on both. -/
def twoServersHistory : List (ClientVolumes.Action Unit Int) :=
  [.connect, .connect, .refresh 1 [⟨5, some "anna"⟩], .refresh 2 [⟨5, some "anna"⟩],
    speaks 1 1 0, speaks 2 1 0, .setClientVolume 1 5 (-6)]

/-- She stays as loud as before on the server where she was not turned down. -/
theorem volume_left_behind : ¬ ∀ (actions : List (ClientVolumes.Action Unit Int))
    (e : ClientVolumes Unit Int Int), Run (step decibels) anyStep .new actions e →
      VolumesFollow decibels e := by
  intro follow
  obtain ⟨e, run, left⟩ := reaches_of_exec anyStep (fun _ _ _ => trivial)
    (show (exec (step decibels) .new twoServersHistory).any (fun e =>
      (e.buffers.find (2, 5)).any (·.volume == 100) && e.uidOf (2, 5) == some "anna" &&
        e.volumes "anna" == some (-6)) = true by decide +kernel)
  simp only [Bool.and_eq_true, beq_iff_eq, Option.any_eq_true] at left
  obtain ⟨⟨⟨buffer, live, unity⟩, known⟩, stored⟩ := left
  have right := follow _ e run (2, 5) buffer "anna" live known
  rw [unity, personGain, stored] at right
  exact absurd right (by decide)

/-- Anna's id passes to Bert while her buffer is still there. -/
example : (exec (step decibels) .new
    [.connect, .refresh 1 [⟨5, some "anna"⟩], speaks 1 1 0, .setClientVolume 1 5 (-6),
      .refresh 1 [], .refresh 1 [⟨5, some "bert"⟩], speaks 1 2 9000]).any
      (fun e => (e.buffers.find (1, 5)).any (·.volume == 94) &&
        e.uidOf (1, 5) == some "bert") = true := by
  decide +kernel

end Nek0.Guarantees
