import Mathlib.Data.List.Find
import Mathlib.Algebra.Order.Field.Rat
import Mathlib.Tactic.NormNum
import Nek0.Library.Run
import Nek0.Source.PersonVolumes

/-!
# Whether the volume of a person stays

A reconciliation sets the saved volumes and then the volumes of the contact records, which are
saved in their turn. So a volume stays as long as every record of the person asks for the same one,
and one that is not muted and was never given a volume asks for 0 dB.
-/

namespace Nek0.Guarantees

open Nek0.Library Nek0.Source.PersonVolumes

variable {δ : Type*}

/-- The volume at which a person is played. -/
def played (decibels : Decibels δ) (s : App δ) (uid : String) : δ :=
  (s.clientVolumes uid).getD decibels.zero

/-- What the user has set last for a person is saved, and after a reconciliation everybody in the
roster is played at it. -/
structure VolumesStay (decibels : Decibels δ) (s : App δ) : Prop where
  saved : ∀ uid volume, s.chosen uid = some volume → s.volumes uid = some volume
  applied : ∀ cid, s.reconciled = some cid → ∀ client ∈ s.clients cid, ∀ uid volume,
    client.person = some uid → s.chosen uid = some volume →
      played decibels s uid = decibels.stored volume

/-- The clients that a reconciliation goes through. -/
def rosterOf (s : App δ) (cid : Nat) : List (TsClient δ) :=
  if s.native cid ≠ [] then s.getClients cid else s.clients cid

section Condition

variable [DecidableEq δ] (decibels : Decibels δ) (s : App δ) (cid : Nat)

/-- The person is played at the volume already, or the roster shows another one. -/
def appliesVolume (uid : String) (volume : δ) : Bool :=
  played decibels s uid = decibels.stored volume ||
    s.native cid ≠ [] && (rosterOf s cid).any fun client =>
      client.person = some uid && decibels.far volume client.volume

/-- There is no record of the person on this server, or it asks for what the client has once the
saved volume has been applied. -/
def contactAgrees (uid : String) (volume : δ) (client : TsClient δ) : Bool :=
  !(s.sessions cid).connected || (s.sessions cid).serverUid = "" ||
    (s.contacts (s.sessions cid).serverUid uid).all fun json =>
      !decibels.far ((ContactSettings.fromJson decibels json).volumeDb decibels)
        (if decibels.far volume client.volume then volume else client.volume)

/-- In a reconciliation every person in the roster gets the volume that the user has set. -/
def keepsVolume : Action δ → Bool
  | .reconcile cid => (rosterOf s cid).all fun client => client.person.all fun uid =>
      (s.chosen uid).all fun volume =>
        appliesVolume decibels s cid uid volume && contactAgrees decibels s cid uid volume client
  | _ => true

end Condition

variable {decibels : Decibels δ} {s t : App δ} {cid : Nat}

section Writes

variable {ω : Type*} {writes : List ω} {key : ω → Option String} {value : ω → δ}
  {table : String → Option δ} {uid : String} {volume : δ}

theorem write_of_ne {other : Option String} (differs : other ≠ some uid) :
    App.write table other volume uid = table uid := by
  cases other with
  | none => rfl
  | some other => exact Function.update_of_ne (fun same => differs (congrArg some same.symm)) ..

theorem writes_of_ne (others : ∀ w ∈ writes, key w ≠ some uid) :
    writes.foldl (fun table w => App.write table (key w) (value w)) table uid = table uid := by
  induction writes generalizing table with
  | nil => rfl
  | cons w writes ih =>
    rw [List.forall_mem_cons] at others
    rw [List.foldl_cons, ih others.2, write_of_ne others.1]

/-- Writes that agree on an entry write it. -/
theorem writes_of_agree (listed : ∃ w ∈ writes, key w = some uid)
    (agree : ∀ w ∈ writes, key w = some uid → value w = volume) :
    writes.foldl (fun table w => App.write table (key w) (value w)) table uid = some volume := by
  induction writes generalizing table with
  | nil => simp at listed
  | cons w writes ih =>
    rw [List.forall_mem_cons] at agree
    rw [List.foldl_cons]
    by_cases later : ∃ w ∈ writes, key w = some uid
    · exact ih later agree.2
    · have own : key w = some uid := by simpa [later] using listed
      have others : ∀ w ∈ writes, key w ≠ some uid := fun w there same => later ⟨w, there, same⟩
      rw [writes_of_ne others, own, agree.1 own]
      exact Function.update_self ..

end Writes

section Rosters

/-- Who has a unique id is the first with his client id. -/
def FirstKnown (clients : List (TsClient δ)) : Prop :=
  clients.Pairwise fun a b => a.id = b.id → b.person = none

theorem find?_id_eq {clients : List (TsClient δ)} {client : TsClient δ}
    (first : clients.Pairwise fun a b => a.id = b.id → b ≠ client) (listed : client ∈ clients) :
    clients.find? (·.id = client.id) = some client := by
  induction clients with
  | nil => cases listed
  | cons other clients ih =>
    obtain ⟨before, rest⟩ := List.pairwise_cons.mp first
    rcases List.mem_cons.mp listed with rfl | listed
    · simp
    · have differs : other.id ≠ client.id := fun same => before client listed same rfl
      rw [List.find?_cons_of_neg (by simpa using differs)]
      exact ih rest listed

theorem FirstKnown.find?_eq {clients : List (TsClient δ)} (first : FirstKnown clients)
    {client : TsClient δ} (listed : client ∈ clients) {uid : String}
    (known : client.person = some uid) : clients.find? (·.id = client.id) = some client := by
  refine find?_id_eq (first.imp fun {a b} unknown same equal => ?_) listed
  rw [← equal, unknown same] at known
  cases known

theorem FirstKnown.eq {clients : List (TsClient δ)} (first : FirstKnown clients)
    {a b : TsClient δ} (listedA : a ∈ clients) (listedB : b ∈ clients) {uidA uidB : String}
    (knownA : a.person = some uidA) (knownB : b.person = some uidB) (same : a.id = b.id) :
    a = b := by
  have found := first.find?_eq listedA knownA
  rw [same, first.find?_eq listedB knownB] at found
  exact (Option.some.inj found).symm

/-- The unique ids of the clients of the app and of the engine are in order. -/
structure Rosters (s : App δ) : Prop where
  app : ∀ cid, FirstKnown (s.clients cid)
  native : ∀ cid, ((s.native cid).map (·.id)).Nodup

end Rosters

section SetVolume

/-- A client after volumes have been set by client ids. -/
def withVolumes (writes : List (Int × δ)) (client : TsClient δ) : TsClient δ :=
  writes.foldl (fun client w =>
    if client.id = w.1 then { client with volume := w.2 } else client) client

theorem withVolumes_same (writes : List (Int × δ)) (client : TsClient δ) :
    (withVolumes writes client).id = client.id ∧ (withVolumes writes client).uid = client.uid := by
  induction writes generalizing client with
  | nil => exact ⟨rfl, rfl⟩
  | cons w writes ih =>
    rw [withVolumes, List.foldl_cons]
    refine ⟨(ih _).1.trans ?_, (ih _).2.trans ?_⟩ <;> split <;> rfl

@[simp] theorem person_withVolumes (writes : List (Int × δ)) (client : TsClient δ) :
    (withVolumes writes client).person = client.person := by
  rw [TsClient.person, (withVolumes_same writes client).2]
  rfl

/-- Setting volumes of one session, one after the other. -/
def setVolumes (decibels : Decibels δ) (s : App δ) (cid : Nat) (writes : List (Int × δ)) : App δ :=
  writes.foldl (fun s w => s.setClientVolume decibels cid w.1 w.2) s

/-- What setting volumes leaves alone, and what it changes. -/
structure VolumesSet (decibels : Decibels δ) (s : App δ) (cid : Nat) (writes : List (Int × δ))
    (t : App δ) : Prop where
  contacts : t.contacts = s.contacts
  native : t.native = s.native
  chosen : t.chosen = s.chosen
  connected : (t.sessions cid).connected = (s.sessions cid).connected
  serverUid : (t.sessions cid).serverUid = (s.sessions cid).serverUid
  others : ∀ other, other ≠ cid → t.clients other = s.clients other
  clients : t.clients cid = (s.clients cid).map (withVolumes writes)
  volumes : t.volumes =
    writes.foldl (fun table w => App.write table (s.personOf cid w.1) w.2) s.volumes
  clientVolumes : t.clientVolumes =
    writes.foldl (fun table w => App.write table (s.nativeUid cid w.1) (decibels.stored w.2))
      s.clientVolumes

theorem personOf_map {change : TsClient δ → TsClient δ}
    (same : ∀ client, (change client).id = client.id ∧ (change client).uid = client.uid)
    (clients : t.clients cid = (s.clients cid).map change) (clientId : Int) :
    t.personOf cid clientId = s.personOf cid clientId := by
  have persons (client : TsClient δ) : (change client).person = client.person := by
    rw [TsClient.person, (same client).2]
    rfl
  rw [App.personOf, App.personOf, clients, List.find?_map]
  simp [(same _).1, Option.bind_map, persons]

theorem VolumesSet.personOf {writes : List (Int × δ)} (set : VolumesSet decibels s cid writes t)
    (clientId : Int) : t.personOf cid clientId = s.personOf cid clientId :=
  personOf_map (withVolumes_same writes) set.clients clientId

theorem VolumesSet.nativeUid {writes : List (Int × δ)} (set : VolumesSet decibels s cid writes t)
    (clientId : Int) : t.nativeUid cid clientId = s.nativeUid cid clientId := by
  rw [App.nativeUid, set.native]
  rfl

theorem volumesSet_one (clientId : Int) (volume : δ) :
    VolumesSet decibels s cid [(clientId, volume)]
      (s.setClientVolume decibels cid clientId volume) := by
  have clients : (s.setClientVolume decibels cid clientId volume).clients cid =
      (s.clients cid).map (withVolumes [(clientId, volume)]) := by
    simp [App.setClientVolume, App.setClients, App.clients, App.nativeSetClientVolume, withVolumes]
  constructor
  case clients => exact clients
  case volumes =>
    have person := personOf_map (withVolumes_same [(clientId, volume)]) clients clientId
    rw [List.foldl_cons, List.foldl_nil, ← person]
    rfl
  case others =>
    intro other differs
    simp [App.setClientVolume, App.setClients, App.clients, App.nativeSetClientVolume, differs]
  all_goals simp [App.setClientVolume, App.setClients, App.nativeSetClientVolume]

theorem volumesSet (writes : List (Int × δ)) :
    VolumesSet decibels s cid writes (setVolumes decibels s cid writes) := by
  induction writes generalizing s with
  | nil => exact ⟨rfl, rfl, rfl, rfl, rfl, fun _ _ => rfl, (List.map_id _).symm, rfl, rfl⟩
  | cons w writes ih =>
    have one : VolumesSet decibels s cid [w] (s.setClientVolume decibels cid w.1 w.2) :=
      volumesSet_one w.1 w.2
    have rest := ih (s := s.setClientVolume decibels cid w.1 w.2)
    have persons := one.personOf
    have uids := one.nativeUid
    exact
      { contacts := rest.contacts.trans one.contacts
        native := rest.native.trans one.native
        chosen := rest.chosen.trans one.chosen
        connected := rest.connected.trans one.connected
        serverUid := rest.serverUid.trans one.serverUid
        others := fun other differs => (rest.others other differs).trans (one.others other differs)
        clients := by
          rw [setVolumes, List.foldl_cons]
          refine rest.clients.trans ?_
          rw [one.clients, List.map_map]
          rfl
        volumes := by
          rw [setVolumes, List.foldl_cons]
          refine rest.volumes.trans ?_
          simp only [persons, one.volumes]
          rfl
        clientVolumes := by
          rw [setVolumes, List.foldl_cons]
          refine rest.clientVolumes.trans ?_
          simp only [uids, one.clientVolumes]
          rfl }

end SetVolume

section Passes

/-- The volumes that a pass through the clients sets. -/
def passWrites (decide : TsClient δ → Option δ) (clients : List (TsClient δ)) : List (Int × δ) :=
  clients.filterMap fun client => (decide client).map fun volume => (client.id, volume)

/-- What `applySavedVolume` sets for a client. -/
def savedWrite (decibels : Decibels δ) (volumes : String → Option δ) (client : TsClient δ) :
    Option δ :=
  client.person.bind fun uid => (volumes uid).filter (decibels.far · client.volume)

/-- What `applyContactToClient` sets for a client. -/
def contactWrite (decibels : Decibels δ) (contacts : String → Option (ContactJson δ))
    (client : TsClient δ) : Option δ :=
  client.person.bind fun uid =>
    ((contacts uid).map fun json =>
      (ContactSettings.fromJson decibels json).volumeDb decibels).filter
        (decibels.far · client.volume)

theorem applySavedVolume_eq (client : TsClient δ) :
    s.applySavedVolume decibels cid client =
      match savedWrite decibels s.volumes client with
      | some volume => s.setClientVolume decibels cid client.id volume
      | none => s := by
  unfold App.applySavedVolume savedWrite
  cases client.person with
  | none => rfl
  | some uid =>
    cases saved : s.volumes uid with
    | none => simp [saved]
    | some volume =>
      simp only [Option.bind_some, saved, Option.filter_some]
      split <;> rfl

theorem applyContactToClient_eq (serverUid : String) (client : TsClient δ) :
    s.applyContactToClient decibels cid serverUid client =
      match contactWrite decibels (s.contacts serverUid) client with
      | some volume => s.setClientVolume decibels cid client.id volume
      | none => s := by
  unfold App.applyContactToClient contactWrite
  cases client.person with
  | none => rfl
  | some uid =>
    cases record : s.contacts serverUid uid with
    | none => simp [record]
    | some json =>
      simp only [Option.bind_some, record, Option.map_some, Option.filter_some]
      split <;> rfl

theorem setVolumes_cons (w : Int × δ) (writes : List (Int × δ)) :
    setVolumes decibels s cid (w :: writes) =
      setVolumes decibels (s.setClientVolume decibels cid w.1 w.2) cid writes := rfl

/-- The second pass sets what the records ask for. -/
theorem foldl_applyContactToClient (serverUid : String) (clients : List (TsClient δ)) :
    clients.foldl (App.applyContactToClient decibels · cid serverUid) s =
      setVolumes decibels s cid
        (passWrites (contactWrite decibels (s.contacts serverUid)) clients) := by
  induction clients generalizing s with
  | nil => rfl
  | cons client clients ih =>
    rw [List.foldl_cons, applyContactToClient_eq, passWrites, List.filterMap_cons]
    cases contactWrite decibels (s.contacts serverUid) client with
    | none => exact ih
    | some volume =>
      have one : VolumesSet decibels s cid [(client.id, volume)]
        (s.setClientVolume decibels cid client.id volume) := volumesSet_one client.id volume
      dsimp only [Option.map_some]
      rw [ih, one.contacts, setVolumes_cons]
      rfl

/-- The first pass sets what is saved, and saves it again. -/
theorem foldl_applySavedVolume (clients : List (TsClient δ))
    (known : ∀ client ∈ clients, ∀ uid, client.person = some uid →
      s.personOf cid client.id = some uid) :
    clients.foldl (App.applySavedVolume decibels · cid) s =
      setVolumes decibels s cid (passWrites (savedWrite decibels s.volumes) clients) := by
  induction clients generalizing s with
  | nil => rfl
  | cons client clients ih =>
    rw [List.forall_mem_cons] at known
    rw [List.foldl_cons, applySavedVolume_eq, passWrites, List.filterMap_cons]
    cases writes : savedWrite decibels s.volumes client with
    | none => exact ih known.2
    | some volume =>
      have one : VolumesSet decibels s cid [(client.id, volume)]
        (s.setClientVolume decibels cid client.id volume) := volumesSet_one client.id volume
      obtain ⟨uid, own, saved⟩ := Option.bind_eq_some_iff.mp writes
      have unchanged : (s.setClientVolume decibels cid client.id volume).volumes = s.volumes := by
        rw [one.volumes, List.foldl_cons, List.foldl_nil, known.1 uid own]
        have same := (Option.filter_eq_some_iff.mp saved).1
        rw [App.write, ← same, Function.update_eq_self]
      dsimp only [Option.map_some]
      rw [ih (by simpa only [one.personOf] using known.2), unchanged, setVolumes_cons]
      rfl

theorem mem_passWrites {decide : TsClient δ → Option δ} {clients : List (TsClient δ)}
    {w : Int × δ} : w ∈ passWrites decide clients ↔
      ∃ client ∈ clients, decide client = some w.2 ∧ client.id = w.1 := by
  simp only [passWrites, List.mem_filterMap, Option.map_eq_some_iff, Prod.ext_iff]
  constructor
  · rintro ⟨client, listed, volume, writes, id, rfl⟩
    exact ⟨client, listed, writes, id⟩
  · rintro ⟨client, listed, writes, id⟩
    exact ⟨client, listed, w.2, writes, id, rfl⟩

theorem withVolumes_of_ne {writes : List (Int × δ)} {client : TsClient δ}
    (others : ∀ w ∈ writes, client.id ≠ w.1) : withVolumes writes client = client := by
  induction writes with
  | nil => rfl
  | cons w writes ih =>
    rw [List.forall_mem_cons] at others
    rw [withVolumes, List.foldl_cons, if_neg others.1]
    exact ih others.2

theorem withVolumes_of_agree {writes : List (Int × δ)} {client : TsClient δ} {volume : δ}
    (listed : ∃ w ∈ writes, client.id = w.1)
    (agree : ∀ w ∈ writes, client.id = w.1 → w.2 = volume) :
    withVolumes writes client = { client with volume } := by
  induction writes generalizing client with
  | nil => simp at listed
  | cons w writes ih =>
    rw [List.forall_mem_cons] at agree
    rw [withVolumes, List.foldl_cons]
    by_cases own : client.id = w.1
    · rw [if_pos own, agree.1 own]
      by_cases later : ∃ w ∈ writes, client.id = w.1
      · exact @ih { client with volume } later agree.2
      · exact withVolumes_of_ne fun w there same => later ⟨w, there, same⟩
    · rw [if_neg own]
      exact ih (by simpa [own] using listed) agree.2

/-- A pass that sets volumes of known clients only gives each of them its own. -/
theorem withVolumes_passWrites {decide : TsClient δ → Option δ} {clients : List (TsClient δ)}
    (first : FirstKnown clients)
    (known : ∀ client volume, decide client = some volume → ∃ uid, client.person = some uid)
    {client : TsClient δ} (listed : client ∈ clients) {uid : String}
    (own : client.person = some uid) :
    withVolumes (passWrites decide clients) client =
      { client with volume := (decide client).getD client.volume } := by
  have mine : ∀ w ∈ passWrites decide clients, client.id = w.1 → decide client = some w.2 := by
    intro w there same
    obtain ⟨other, listed', writes, id⟩ := mem_passWrites.mp there
    obtain ⟨uid', own'⟩ := known other w.2 writes
    rw [first.eq listed listed' own own' (same.trans id.symm)]
    exact writes
  cases writes : decide client with
  | none =>
    refine withVolumes_of_ne fun w there same => ?_
    rw [mine w there same] at writes
    cases writes
  | some volume =>
    refine withVolumes_of_agree ⟨(client.id, volume), ?_, rfl⟩ fun w there same => ?_
    · exact mem_passWrites.mpr ⟨client, listed, writes, rfl⟩
    · rw [mine w there same] at writes
      exact Option.some.inj writes

theorem savedWrite_eq_some_iff {volumes : String → Option δ} {client : TsClient δ} {volume : δ} :
    savedWrite decibels volumes client = some volume ↔
      ∃ uid, client.person = some uid ∧ volumes uid = some volume ∧
        decibels.far volume client.volume = true := by
  simp [savedWrite, Option.bind_eq_some_iff, Option.filter_eq_some_iff]

theorem contactWrite_eq_some_iff {contacts : String → Option (ContactJson δ)}
    {client : TsClient δ} {volume : δ} :
    contactWrite decibels contacts client = some volume ↔
      ∃ uid, client.person = some uid ∧
        (∃ json, contacts uid = some json ∧
          (ContactSettings.fromJson decibels json).volumeDb decibels = volume) ∧
        decibels.far volume client.volume = true := by
  simp [contactWrite, Option.bind_eq_some_iff, Option.filter_eq_some_iff,
    Option.map_eq_some_iff]

end Passes

section Reconcile

/-- The app with the roster that the reconciliation goes through. -/
def withRoster (s : App δ) (cid : Nat) : App δ := s.setClients cid (rosterOf s cid)

theorem setClients_clients (s : App δ) (cid : Nat) : s.setClients cid (s.clients cid) = s := by
  simp [App.setClients, App.clients]

theorem withRoster_eq (s : App δ) (cid : Nat) :
    (if s.getClients cid ≠ [] then s.setClients cid (s.getClients cid) else s) =
      withRoster s cid := by
  unfold withRoster rosterOf
  by_cases empty : s.native cid = []
  · rw [if_neg (by simp [App.getClients, empty]), if_neg (by simp [empty]), setClients_clients]
  · rw [if_pos (by simpa [App.getClients] using empty), if_pos empty]

/-- What the first pass sets. -/
def firstWrites (decibels : Decibels δ) (s : App δ) (cid : Nat) : List (Int × δ) :=
  passWrites (savedWrite decibels s.volumes) (rosterOf s cid)

/-- What the second pass sets, in the roster that the first one leaves. -/
def secondWrites (decibels : Decibels δ) (s : App δ) (cid : Nat) : List (Int × δ) :=
  if (s.sessions cid).connected && (s.sessions cid).serverUid ≠ "" then
    passWrites (contactWrite decibels (s.contacts (s.sessions cid).serverUid))
      ((rosterOf s cid).map (withVolumes (firstWrites decibels s cid)))
  else []

variable (rosters : Rosters s)

include rosters

theorem firstKnown_rosterOf : FirstKnown (rosterOf s cid) := by
  unfold rosterOf
  split
  · have distinct := List.pairwise_map.mp (rosters.native cid)
    refine List.pairwise_map.mpr (distinct.imp fun differs same => absurd same differs)
  · exact rosters.app cid

theorem personOf_withRoster {client : TsClient δ} (listed : client ∈ rosterOf s cid)
    {uid : String} (known : client.person = some uid) :
    (withRoster s cid).personOf cid client.id = some uid := by
  have roster : (withRoster s cid).clients cid = rosterOf s cid := by
    simp [withRoster, App.setClients, App.clients]
  rw [App.personOf, roster, (firstKnown_rosterOf rosters).find?_eq listed known]
  exact known

theorem reconcile_eq : s.reconcile decibels cid =
    { setVolumes decibels (setVolumes decibels (withRoster s cid) cid (firstWrites decibels s cid))
        cid (secondWrites decibels s cid) with reconciled := some cid } := by
  have roster : (withRoster s cid).clients cid = rosterOf s cid := by
    simp [withRoster, App.setClients, App.clients]
  have first : ((withRoster s cid).clients cid).foldl (App.applySavedVolume decibels · cid)
      (withRoster s cid) =
      setVolumes decibels (withRoster s cid) cid (firstWrites decibels s cid) := by
    rw [roster]
    refine foldl_applySavedVolume (s := withRoster s cid) (rosterOf s cid) ?_
    exact fun client listed uid known => personOf_withRoster rosters listed known
  have after : VolumesSet decibels (withRoster s cid) cid (firstWrites decibels s cid)
      (setVolumes decibels (withRoster s cid) cid (firstWrites decibels s cid)) := volumesSet _
  have connected : ((withRoster s cid).sessions cid).connected = (s.sessions cid).connected := by
    simp [withRoster, App.setClients]
  have serverUid : ((withRoster s cid).sessions cid).serverUid = (s.sessions cid).serverUid := by
    simp [withRoster, App.setClients]
  unfold App.reconcile App.applySavedClientVolumes
  dsimp only
  rw [withRoster_eq, first, after.connected, after.serverUid, connected, serverUid,
    foldl_applyContactToClient, after.clients, roster, after.contacts]
  unfold secondWrites
  cases (s.sessions cid).connected with
  | false => rfl
  | true =>
    by_cases unnamed : (s.sessions cid).serverUid = ""
    · simp [unnamed, setVolumes]
    · simp [unnamed, withRoster, App.setClients]

/-- A reconciliation is two passes that set volumes. -/
theorem reconcile_passes (decibels : Decibels δ) (cid : Nat) : ∃ between after,
    VolumesSet decibels (withRoster s cid) cid (firstWrites decibels s cid) between ∧
    VolumesSet decibels between cid (secondWrites decibels s cid) after ∧
    s.reconcile decibels cid = { after with reconciled := some cid } :=
  ⟨_, _, volumesSet _, volumesSet _, reconcile_eq rosters⟩

omit rosters in
/-- A first write is for somebody whose saved volume the roster does not show. -/
theorem mem_firstWrites {w : Int × δ} : w ∈ firstWrites decibels s cid ↔
    ∃ client ∈ rosterOf s cid, client.id = w.1 ∧ ∃ uid, client.person = some uid ∧
      s.volumes uid = some w.2 ∧ decibels.far w.2 client.volume = true := by
  simp only [firstWrites, mem_passWrites, savedWrite_eq_some_iff]
  constructor
  · rintro ⟨client, listed, writes, id⟩
    exact ⟨client, listed, id, writes⟩
  · rintro ⟨client, listed, id, writes⟩
    exact ⟨client, listed, writes, id⟩

/-- A client between the two passes. -/
theorem withVolumes_firstWrites {client : TsClient δ} (listed : client ∈ rosterOf s cid)
    {uid : String} {volume : δ} (known : client.person = some uid)
    (saved : s.volumes uid = some volume) :
    withVolumes (firstWrites decibels s cid) client =
      { client with
        volume := if decibels.far volume client.volume then volume else client.volume } := by
  have knows : ∀ client volume, savedWrite decibels s.volumes client = some volume →
      ∃ uid, client.person = some uid := fun client volume writes =>
    let ⟨uid, own, _⟩ := savedWrite_eq_some_iff.mp writes
    ⟨uid, own⟩
  rw [firstWrites, withVolumes_passWrites (firstKnown_rosterOf rosters) knows listed known]
  have write : savedWrite decibels s.volumes client =
      if decibels.far volume client.volume then some volume else none := by
    simp [savedWrite, known, saved, Option.filter_some]
  rw [write]
  split <;> rfl

/-- A second write for a person is what his record asks for, and somebody with his unique id does
not have it. -/
theorem contact_of_secondWrites [DecidableEq δ] {w : Int × δ}
    (listed : w ∈ secondWrites decibels s cid) {uid : String} {volume : δ}
    (own : (withRoster s cid).personOf cid w.1 = some uid) (saved : s.volumes uid = some volume) :
    (∃ json, s.contacts (s.sessions cid).serverUid uid = some json ∧
      (ContactSettings.fromJson decibels json).volumeDb decibels = w.2) ∧ w.2 ≠ volume ∧
    ∃ client ∈ rosterOf s cid, client.person = some uid ∧
      contactAgrees decibels s cid uid volume client = false := by
  unfold secondWrites at listed
  split at listed
  next there =>
    obtain ⟨between, passed, writes, id⟩ := mem_passWrites.mp listed
    obtain ⟨client, there', rfl⟩ := List.mem_map.mp passed
    obtain ⟨uid', known, ⟨json, record, asks⟩, far⟩ := contactWrite_eq_some_iff.mp writes
    rw [person_withVolumes] at known
    rw [(withVolumes_same _ client).1] at id
    have same := personOf_withRoster rosters there' known
    rw [id, own] at same
    obtain rfl := Option.some.inj same
    rw [withVolumes_firstWrites rosters there' known saved] at far
    dsimp only at far
    refine ⟨⟨json, record, asks⟩, ?_, client, there', known, ?_⟩
    · rintro rfl
      split at far
      · rw [decibels.far_self] at far
        cases far
      next near => exact near far
    · simp only [Bool.and_eq_true, decide_eq_true_eq] at there
      simp [contactAgrees, there, record, asks, far]
  · cases listed

theorem secondWrites_of_contact [DecidableEq δ] {client : TsClient δ}
    (listed : client ∈ rosterOf s cid) {uid : String} {volume : δ}
    (known : client.person = some uid) (saved : s.volumes uid = some volume)
    (disagrees : contactAgrees decibels s cid uid volume client = false) :
    ∃ w ∈ secondWrites decibels s cid, (withRoster s cid).personOf cid w.1 = some uid := by
  simp only [contactAgrees, Bool.or_eq_false_iff, Bool.not_eq_false', decide_eq_false_iff_not]
    at disagrees
  obtain ⟨⟨connected, named⟩, disagrees⟩ := disagrees
  cases record : s.contacts (s.sessions cid).serverUid uid with
  | none => simp [record] at disagrees
  | some json =>
    simp only [record, Option.all_some, Bool.not_eq_false'] at disagrees
    refine ⟨(client.id, (ContactSettings.fromJson decibels json).volumeDb decibels), ?_,
      personOf_withRoster rosters listed known⟩
    rw [secondWrites, if_pos (by simp [connected, named])]
    refine mem_passWrites.mpr ⟨_, List.mem_map_of_mem listed, ?_, (withVolumes_same _ client).1⟩
    rw [contactWrite_eq_some_iff]
    refine ⟨uid, by rwa [person_withVolumes], ⟨json, record, rfl⟩, ?_⟩
    rw [withVolumes_firstWrites rosters listed known saved]
    exact disagrees

/-- What is saved after the first pass is what was saved before. -/
theorem volumes_firstWrites
    (first : VolumesSet decibels (withRoster s cid) cid (firstWrites decibels s cid) t) :
    t.volumes = s.volumes := by
  rw [first.volumes]
  funext uid
  by_cases listed : ∃ w ∈ firstWrites decibels s cid,
    (withRoster s cid).personOf cid w.1 = some uid
  · have agree : ∀ w ∈ firstWrites decibels s cid,
        (withRoster s cid).personOf cid w.1 = some uid → s.volumes uid = some w.2 := by
      intro w there own
      obtain ⟨client, present, id, uid', known, saved, -⟩ := mem_firstWrites.mp there
      rw [← id, personOf_withRoster rosters present known] at own
      exact Option.some.inj own ▸ saved
    obtain ⟨w, there, own⟩ := listed
    have saved := agree w there own
    rw [saved]
    refine writes_of_agree ⟨w, there, own⟩ fun other there' own' => ?_
    exact Option.some.inj ((agree other there' own').symm.trans saved)
  · exact writes_of_ne fun w there own => listed ⟨w, there, own⟩

/-- The saved volume of a person survives exactly if no record of a client with his unique id asks
for another one. -/
theorem volumes_reconcile_iff [DecidableEq δ] {uid : String} {volume : δ}
    (saved : s.volumes uid = some volume) :
    (s.reconcile decibels cid).volumes uid = some volume ↔
      ∀ client ∈ rosterOf s cid, client.person = some uid →
        contactAgrees decibels s cid uid volume client = true := by
  obtain ⟨between, after, first, second, reconciled⟩ := reconcile_passes rosters decibels cid
  rw [reconciled]
  dsimp only
  rw [second.volumes, volumes_firstWrites rosters first]
  simp only [first.personOf]
  constructor
  · intro kept client listed known
    by_contra disagrees
    rw [Bool.not_eq_true] at disagrees
    obtain ⟨w, there, own⟩ := secondWrites_of_contact rosters listed known saved disagrees
    obtain ⟨⟨json, record, asks⟩, differs, -⟩ := contact_of_secondWrites rosters there own saved
    refine differs (Option.some.inj (Eq.trans (Eq.symm ?_) kept))
    refine writes_of_agree ⟨w, there, own⟩ fun other there' own' => ?_
    obtain ⟨⟨json', record', asks'⟩, -⟩ := contact_of_secondWrites rosters there' own' saved
    rw [record] at record'
    rw [← asks, ← asks', Option.some.inj record']
  · intro agree
    rw [writes_of_ne, saved]
    intro w there own
    obtain ⟨-, -, client, listed, known, disagrees⟩ :=
      contact_of_secondWrites rosters there own saved
    rw [agree client listed known] at disagrees
    cases disagrees

omit rosters in
theorem exists_of_secondWrites {w : Int × δ} (listed : w ∈ secondWrites decibels s cid) :
    ∃ client ∈ rosterOf s cid, client.id = w.1 ∧ ∃ uid, client.person = some uid := by
  unfold secondWrites at listed
  split at listed
  · obtain ⟨between, passed, writes, id⟩ := mem_passWrites.mp listed
    obtain ⟨client, there, rfl⟩ := List.mem_map.mp passed
    obtain ⟨uid, known, -⟩ := contactWrite_eq_some_iff.mp writes
    rw [person_withVolumes] at known
    rw [(withVolumes_same _ client).1] at id
    exact ⟨client, there, id, uid, known⟩
  · cases listed

/-- The engine knows everybody in a roster that came from it. -/
theorem nativeUid_eq {client : TsClient δ} (listed : client ∈ rosterOf s cid) {uid : String}
    (known : client.person = some uid) :
    s.nativeUid cid client.id = if s.native cid = [] then none else some uid := by
  by_cases empty : s.native cid = []
  · simp [App.nativeUid, empty]
  · rw [if_neg empty]
    rw [rosterOf, if_pos empty] at listed
    obtain ⟨own, there, rfl⟩ := List.mem_map.mp listed
    have distinct := List.pairwise_map.mp (rosters.native cid)
    rw [App.nativeUid, find?_id_eq (distinct.imp fun differs same => absurd same differs) there]
    exact (Option.filter_eq_some_iff.mp known).1

theorem played_reconcile_iff [DecidableEq δ] {uid : String} {volume : δ}
    (saved : s.volumes uid = some volume)
    (agree : ∀ client ∈ rosterOf s cid, client.person = some uid →
      contactAgrees decibels s cid uid volume client = true) :
    played decibels (s.reconcile decibels cid) uid = decibels.stored volume ↔
      appliesVolume decibels s cid uid volume = true := by
  obtain ⟨between, after, first, second, reconciled⟩ := reconcile_passes rosters decibels cid
  have uids (clientId : Int) : between.nativeUid cid clientId = s.nativeUid cid clientId :=
    first.nativeUid clientId
  have quiet : ∀ w ∈ secondWrites decibels s cid, s.nativeUid cid w.1 ≠ some uid := by
    intro w there own
    obtain ⟨client, listed, id, uid', known⟩ := exists_of_secondWrites there
    rw [← id, nativeUid_eq rosters listed known, Option.ite_none_left_eq_some] at own
    have person := personOf_withRoster rosters listed known
    rw [id, Option.some.inj own.2] at person
    obtain ⟨-, -, other, listed', known', disagrees⟩ :=
      contact_of_secondWrites rosters there person saved
    rw [agree other listed' known'] at disagrees
    cases disagrees
  have same : (s.reconcile decibels cid).clientVolumes uid =
      (firstWrites decibels s cid).foldl (fun table w =>
        App.write table (s.nativeUid cid w.1) (decibels.stored w.2)) s.clientVolumes uid := by
    rw [reconciled]
    dsimp only
    rw [second.clientVolumes]
    simp only [uids]
    rw [writes_of_ne quiet, first.clientVolumes]
    rfl
  have written : (∃ w ∈ firstWrites decibels s cid, s.nativeUid cid w.1 = some uid) ↔
      s.native cid ≠ [] ∧ ∃ client ∈ rosterOf s cid, client.person = some uid ∧
        decibels.far volume client.volume = true := by
    constructor
    · rintro ⟨w, there, own⟩
      obtain ⟨client, listed, id, uid', known, saved', far⟩ := mem_firstWrites.mp there
      rw [← id, nativeUid_eq rosters listed known, Option.ite_none_left_eq_some] at own
      obtain ⟨nonempty, equal⟩ := own
      obtain rfl := Option.some.inj equal
      obtain rfl := Option.some.inj (saved.symm.trans saved')
      exact ⟨nonempty, client, listed, known, far⟩
    · rintro ⟨nonempty, client, listed, known, far⟩
      refine ⟨(client.id, volume), mem_firstWrites.mpr ?_, ?_⟩
      · exact ⟨client, listed, rfl, uid, known, saved, far⟩
      · rw [nativeUid_eq rosters listed known, if_neg nonempty]
  have applies : appliesVolume decibels s cid uid volume = true ↔
      played decibels s uid = decibels.stored volume ∨
        ∃ w ∈ firstWrites decibels s cid, s.nativeUid cid w.1 = some uid := by
    rw [written]
    simp [appliesVolume]
  rw [applies, played, same]
  by_cases listed : ∃ w ∈ firstWrites decibels s cid, s.nativeUid cid w.1 = some uid
  · refine iff_of_true ?_ (.inr listed)
    refine congrArg (·.getD decibels.zero) (writes_of_agree listed fun w there own => ?_)
    obtain ⟨client, listed', id, uid', known, saved', -⟩ := mem_firstWrites.mp there
    rw [← id, nativeUid_eq rosters listed' known, Option.ite_none_left_eq_some] at own
    obtain rfl := Option.some.inj own.2
    rw [Option.some.inj (saved.symm.trans saved')]
  · rw [writes_of_ne fun w there own => listed ⟨w, there, own⟩, or_iff_left listed]
    rfl

end Reconcile

section Steps

theorem firstKnown_map {clients : List (TsClient δ)} (first : FirstKnown clients)
    {change : TsClient δ → TsClient δ}
    (same : ∀ client, (change client).id = client.id ∧ (change client).uid = client.uid) :
    FirstKnown (clients.map change) := by
  refine List.pairwise_map.mpr (first.imp fun {a b} unknown equal => ?_)
  rw [(same a).1, (same b).1] at equal
  rw [TsClient.person, (same b).2]
  exact unknown equal

/-- The clients of one session change, and all that the engine has stays. -/
theorem rosters_of_change (cid : Nat) (rosters : Rosters s) (native : t.native = s.native)
    (others : ∀ other, other ≠ cid → t.clients other = s.clients other)
    (own : FirstKnown (t.clients cid)) : Rosters t := by
  refine ⟨fun other => ?_, native ▸ rosters.native⟩
  by_cases same : other = cid
  · exact same ▸ own
  · exact others other same ▸ rosters.app other

theorem VolumesSet.rosters {writes : List (Int × δ)} (set : VolumesSet decibels s cid writes t)
    (rosters : Rosters s) : Rosters t := by
  refine rosters_of_change cid rosters set.native set.others ?_
  rw [set.clients]
  exact firstKnown_map (rosters.app cid) (withVolumes_same writes)

theorem rosters_setClients (rosters : Rosters s) {clients : List (TsClient δ)}
    (first : FirstKnown clients) : Rosters (s.setClients cid clients) := by
  refine rosters_of_change cid rosters rfl (fun other differs => ?_) ?_
  · simp [App.setClients, App.clients, differs]
  · simpa [App.setClients, App.clients] using first

theorem firstKnown_getClients (rosters : Rosters s) (cid : Nat) :
    FirstKnown (s.getClients cid) := by
  have distinct := List.pairwise_map.mp (rosters.native cid)
  exact List.pairwise_map.mpr (distinct.imp fun differs same => absurd same differs)

theorem rosters_step {action : Action δ} (rosters : Rosters s)
    (taken : s.step decibels action = some t) : Rosters t := by
  have unmarked : Rosters { s with reconciled := none } := ⟨rosters.app, rosters.native⟩
  cases action with
  | slide cid clientId volumeDb =>
    obtain rfl := Option.some.inj taken
    have one : VolumesSet decibels { s with reconciled := none } cid [(clientId, volumeDb)] _ :=
      volumesSet_one clientId volumeDb
    have set := one.rosters unmarked
    exact ⟨set.app, set.native⟩
  | reconcile cid =>
    obtain rfl := Option.some.inj taken
    obtain ⟨between, after, first, second, reconciled⟩ := reconcile_passes unmarked decibels cid
    have roster : Rosters (withRoster { s with reconciled := none } cid) :=
      rosters_setClients unmarked (firstKnown_rosterOf unmarked)
    have set := second.rosters (first.rosters roster)
    rw [reconciled]
    exact ⟨set.app, set.native⟩
  | saveContact c =>
    simp only [App.step, App.act, Option.ite_none_left_eq_some, Option.some.injEq] at taken
    obtain ⟨-, rfl⟩ := taken
    exact ⟨rosters.app, rosters.native⟩
  | refreshNative cid clients =>
    simp only [App.step, App.act, App.refreshNative, Option.ite_none_right_eq_some,
      Option.some.injEq] at taken
    obtain ⟨distinct, rfl⟩ := taken
    refine ⟨rosters.app, fun other => ?_⟩
    by_cases same : other = cid
    · subst same
      simpa using distinct
    · simpa [same] using rosters.native other
  | connected cid serverUid =>
    obtain rfl := Option.some.inj taken
    refine rosters_of_change cid rosters rfl (fun other differs => ?_) ?_
    · simp [App.connected, App.clients, differs]
    · simpa [App.connected, App.clients] using firstKnown_getClients unmarked cid
  | channelsUpdated cid =>
    obtain rfl := Option.some.inj taken
    exact rosters_setClients unmarked (firstKnown_getClients unmarked cid)
  | clientJoined cid clientId =>
    obtain rfl := Option.some.inj taken
    refine rosters_setClients unmarked (List.pairwise_append.mpr ⟨rosters.app cid, by simp, ?_⟩)
    intro client _ joined new _
    rw [List.mem_singleton.mp new]
    rfl
  | clientLeft cid clientId =>
    obtain rfl := Option.some.inj taken
    exact rosters_setClients unmarked ((rosters.app cid).filter _)
  | disconnected cid =>
    obtain rfl := Option.some.inj taken
    refine rosters_of_change cid rosters rfl (fun other differs => ?_) ?_
    · simp [App.disconnected, App.clients, differs]
    · simp [App.disconnected, App.clients, FirstKnown]
  | restart =>
    obtain rfl := Option.some.inj taken
    exact ⟨fun _ => .nil, fun _ => List.nodup_nil⟩

theorem chosen_reconcile (rosters : Rosters s) :
    (s.reconcile decibels cid).chosen = s.chosen := by
  obtain ⟨between, after, first, second, reconciled⟩ := reconcile_passes rosters decibels cid
  rw [reconciled]
  exact second.chosen.trans first.chosen

/-- A reconciliation changes volumes only. -/
theorem exists_client_reconcile (rosters : Rosters s) {uid : String} :
    (∃ client ∈ (s.reconcile decibels cid).clients cid, client.person = some uid) ↔
      ∃ client ∈ rosterOf s cid, client.person = some uid := by
  obtain ⟨between, after, first, second, reconciled⟩ := reconcile_passes rosters decibels cid
  have roster : (withRoster s cid).clients cid = rosterOf s cid := by
    simp [withRoster, App.setClients, App.clients]
  have clients : (s.reconcile decibels cid).clients cid = ((rosterOf s cid).map
      (withVolumes (firstWrites decibels s cid))).map
        (withVolumes (secondWrites decibels s cid)) := by
    rw [reconciled, ← roster, ← first.clients, ← second.clients]
    rfl
  simp [clients]

theorem stay_reconcile_iff [DecidableEq δ] (rosters : Rosters s) (stay : VolumesStay decibels s) :
    VolumesStay decibels (s.reconcile decibels cid) ↔
      keepsVolume decibels s (.reconcile cid) = true := by
  simp only [keepsVolume, List.all_eq_true, Option.all_eq_true, Bool.and_eq_true]
  have chosen : (s.reconcile decibels cid).chosen = s.chosen := chosen_reconcile rosters
  constructor
  · intro after client listed uid known volume set
    have saved := stay.saved uid volume set
    have agree := (volumes_reconcile_iff rosters saved).mp
      (after.saved uid volume (by rwa [chosen]))
    obtain ⟨there, listed', known'⟩ :
        ∃ there ∈ (s.reconcile decibels cid).clients cid, there.person = some uid :=
      (exists_client_reconcile rosters).mpr ⟨client, listed, known⟩
    refine ⟨(played_reconcile_iff rosters saved agree).mp ?_, agree client listed known⟩
    exact after.applied cid rfl there listed' uid volume known' (by rwa [chosen])
  · intro keeps
    have agree {uid : String} {volume : δ} (set : s.chosen uid = some volume) :
        ∀ client ∈ rosterOf s cid, client.person = some uid →
          contactAgrees decibels s cid uid volume client = true :=
      fun client listed known => (keeps client listed uid known volume set).2
    constructor
    · intro uid volume set
      rw [chosen] at set
      exact (volumes_reconcile_iff rosters (stay.saved uid volume set)).mpr (agree set)
    · rintro _ ⟨⟩ client listed uid volume known set
      rw [chosen] at set
      obtain ⟨there, listed', known'⟩ :=
        (exists_client_reconcile rosters).mp ⟨client, listed, known⟩
      refine (played_reconcile_iff rosters (stay.saved uid volume set) (agree set)).mpr ?_
      exact (keeps there listed' uid known' volume set).1

/-- Between two reconciliations only the user changes a saved volume. -/
theorem stay_of_saved (marked : t.reconciled = none)
    (saved : ∀ uid volume, t.chosen uid = some volume → t.volumes uid = some volume) :
    VolumesStay decibels t := by
  refine ⟨saved, fun cid reconciled => ?_⟩
  rw [marked] at reconciled
  cases reconciled

theorem stay_step_iff [DecidableEq δ] {action : Action δ} (rosters : Rosters s)
    (stay : VolumesStay decibels s) (taken : s.step decibels action = some t) :
    VolumesStay decibels t ↔ keepsVolume decibels s action = true := by
  have unmarked : Rosters { s with reconciled := none } := ⟨rosters.app, rosters.native⟩
  cases action with
  | reconcile cid =>
    obtain rfl := Option.some.inj taken
    exact stay_reconcile_iff unmarked (stay_of_saved rfl stay.saved)
  | slide cid clientId volumeDb =>
    obtain rfl := Option.some.inj taken
    refine iff_of_true (stay_of_saved rfl ?_) rfl
    have one : VolumesSet decibels { s with reconciled := none } cid [(clientId, volumeDb)] _ :=
      volumesSet_one clientId volumeDb
    have person := one.personOf clientId
    simp only [App.slide, one.volumes, one.chosen, person, List.foldl_cons, List.foldl_nil]
    intro uid volume set
    by_cases own : App.personOf { s with reconciled := none } cid clientId = some uid
    · simpa [own, App.write] using set
    · rw [write_of_ne own] at set ⊢
      exact stay.saved uid volume set
  | saveContact c =>
    simp only [App.step, App.act, Option.ite_none_left_eq_some, Option.some.injEq] at taken
    obtain ⟨-, rfl⟩ := taken
    exact iff_of_true (stay_of_saved rfl stay.saved) rfl
  | refreshNative cid clients =>
    simp only [App.step, App.act, App.refreshNative, Option.ite_none_right_eq_some,
      Option.some.injEq] at taken
    obtain ⟨-, rfl⟩ := taken
    exact iff_of_true (stay_of_saved rfl stay.saved) rfl
  | connected | channelsUpdated | clientJoined | clientLeft | disconnected | restart =>
    obtain rfl := Option.some.inj taken
    exact iff_of_true (stay_of_saved rfl stay.saved) rfl

end Steps

/-- In every state of a run what the user has set last for a person is saved, and everybody in a
reconciled roster is played at it, if and only if in every reconciliation each person in the roster
whose volume the user has set is played at it or shown with another one, and no contact record on
that server asks for anything else. -/
theorem volumes_stay_iff [DecidableEq δ] (decibels : Decibels δ) (actions : List (Action δ))
    (s : App δ) (run : Run (App.step decibels) anyStep .start actions s) :
    (∀ past t, past <+: actions → Run (App.step decibels) anyStep .start past t →
      VolumesStay decibels t) ↔
    Run (App.step decibels) (fun t action => keepsVolume decibels t action = true) .start
      actions s := by
  refine run.always_iff Rosters ⟨fun _ => .nil, fun _ => List.nodup_nil⟩ ⟨nofun, nofun⟩ ?_ ?_
  · exact fun _ _ _ rosters taken => rosters_step rosters taken
  · exact fun _ _ _ rosters stay taken => stay_step_iff rosters stay taken

def plainDecibels : Decibels ℚ where
  zero := 0
  minimum := -20
  far a b := decide (1 / 1000 < a - b ∨ 1 / 1000 < b - a)
  far_self a := by norm_num
  stored volume := if volume < -20 then -20 else if 20 < volume then 20 else volume

/-- Anna is on the server, and the volume is set for her. -/
def annaAtFive : List (Action ℚ) :=
  [.refreshNative 1 [⟨7, some "me", 0⟩, ⟨9, some "anna", 0⟩], .connected 1 "server", .slide 1 9 5,
    .reconcile 1]

/-- A record in which only the name is set. -/
def namedContact (uid : String) : ContactSettings ℚ :=
  { ContactSettings.fromJson plainDecibels {} with serverUid := "server", uid, customName := "A." }

/-- The app is started again and comes back to the server. -/
def nextDay : List (Action ℚ) :=
  [.restart, .refreshNative 1 [⟨3, some "anna", 0⟩], .connected 1 "server", .reconcile 1]

theorem volume_after_restart : ∃ s, Run (App.step plainDecibels) anyStep .start
      (annaAtFive ++ .saveContact (namedContact "bert") :: nextDay) s ∧
    (s.volumes "anna", played plainDecibels s "anna") = (some 5, 5) ∧
    VolumesStay plainDecibels s := by
  obtain ⟨s, run, shown⟩ := reaches_of_guarded (keepsVolume plainDecibels) (show
    (exec (guarded (keepsVolume plainDecibels) (App.step plainDecibels)) .start
      (annaAtFive ++ .saveContact (namedContact "bert") :: nextDay)).any (fun s =>
        (s.volumes "anna", played plainDecibels s "anna") == (some 5, 5)) = true by decide +kernel)
  have plain : Run (App.step plainDecibels) anyStep .start
      (annaAtFive ++ .saveContact (namedContact "bert") :: nextDay) s :=
    run.weaken fun _ _ _ => trivial
  have always := (volumes_stay_iff plainDecibels _ s plain).mpr run
  exact ⟨s, plain, beq_iff_eq.mp shown, always _ s List.prefix_rfl plain⟩

/-- Anna gets a name in the contact book, and her volume is saved as 0 dB. -/
theorem volume_after_contact : ∃ s, Run (App.step plainDecibels) anyStep .start
      (annaAtFive ++ [.saveContact (namedContact "anna"), .reconcile 1]) s ∧
    (s.chosen "anna", s.volumes "anna", played plainDecibels s "anna") = (some 5, some 0, 0) ∧
    ¬VolumesStay plainDecibels s := by
  obtain ⟨s, run, shown⟩ := reaches_of_exec anyStep (fun _ _ _ => trivial) (show
    (exec (App.step plainDecibels) .start
      (annaAtFive ++ [.saveContact (namedContact "anna"), .reconcile 1])).any (fun s =>
        (s.chosen "anna", s.volumes "anna", played plainDecibels s "anna") ==
          (some 5, some 0, 0)) = true by decide +kernel)
  have shown := beq_iff_eq.mp shown
  refine ⟨s, run, shown, fun stay => ?_⟩
  simp only [Prod.mk.injEq] at shown
  obtain ⟨chosen, saved, -⟩ := shown
  have kept := stay.saved "anna" 5 chosen
  rw [saved] at kept
  exact absurd (Option.some.inj kept) (by norm_num)

end Nek0.Guarantees
