import Nek0.Source.ChatMessages

/-!
# Encoding and decoding a history

The encoding leaves out the flags that decide how a message is shown, and writes a local time
without its offset. So a history comes back as it was exactly if no message has a flag and every
time is the one that its clock reading stands for.
-/

namespace Nek0.Guarantees

open Nek0.Library Nek0.Source Nek0.Source.Chat Nek0.Source.Chat.ChatHistoryService
open Nek0.Source.Poll (Value)

/-- No part of a message is left out or read differently. -/
structure Storable (zone : TimeZone) (m : Chat.ChatMessage) : Prop where
  serverGenerated : m.serverGenerated = false
  censored : m.censored = false
  highlighted : m.highlighted = false
  timestamp : m.timestamp.isUtc = true ∨
    zone.ofLocal (zone.toLocal m.timestamp.microsecondsSinceEpoch) =
      m.timestamp.microsecondsSinceEpoch

/-- What a message is after it was stored, at the time that was read for it. -/
def storedAt (m : Chat.ChatMessage) (timestamp : DateTime) : Chat.ChatMessage :=
  { m with timestamp, serverGenerated := false, censored := false, highlighted := false }

def restored (zone : TimeZone) (m : Chat.ChatMessage) : Option Chat.ChatMessage :=
  (DateTime.tryParse zone (m.timestamp.toIso8601String zone)).map (storedAt m)

theorem restored_eq_some_iff {zone : TimeZone} {m : Chat.ChatMessage} :
    restored zone m = some m ↔ Storable zone m := by
  rw [restored, Option.map_eq_some_iff]
  obtain ⟨id, fromClient, fromClientId, targetMode, message, written, peerId, peerName,
    serverGenerated, censored, highlighted⟩ := m
  simp only [storedAt, Chat.ChatMessage.mk.injEq, true_and]
  constructor
  · rintro ⟨timestamp, parsed, rfl, generated, censored, highlighted⟩
    exact ⟨generated.symm, censored.symm, highlighted.symm,
      (DateTime.tryParse_eq_some_iff timestamp).mp parsed⟩
  · rintro ⟨rfl, rfl, rfl, readable⟩
    exact ⟨written, (DateTime.tryParse_eq_some_iff written).mpr readable, rfl, rfl, rfl, rfl⟩

theorem get_toJson (zone : TimeZone) (m : Chat.ChatMessage) :
    ((toJson zone m).get "id" = .int m.id ∧ (toJson zone m).get "from" = .string m.fromClient ∧
      (toJson zone m).get "from_id" = .int m.fromClientId ∧
      (toJson zone m).get "target" = .int m.targetMode ∧
      (toJson zone m).get "text" = .string m.message ∧
      (toJson zone m).get "ts" = .string (m.timestamp.toIso8601String zone)) ∧
    asInt ((toJson zone m).get "peer") = some m.peerId ∧
    asString ((toJson zone m).get "peer_name") = some m.peerName := by
  refine ⟨⟨rfl, rfl, rfl, rfl, rfl, rfl⟩, ?_, ?_⟩
  · cases peer : m.peerId <;> cases name : m.peerName <;>
      simp [toJson, Value.get, peer, name, List.lookup_cons, asInt]
  · cases peer : m.peerId <;> cases name : m.peerName <;>
      simp [toJson, Value.get, peer, name, List.lookup_cons, asString]

theorem messageFromJson_toJson (zone : TimeZone) (m : Chat.ChatMessage) :
    messageFromJson zone (toJson zone m) = some (restored zone m) := by
  obtain ⟨⟨number, sender, senderId, target, text, ts⟩, peer, peerName⟩ := get_toJson zone m
  obtain ⟨fields, same⟩ : ∃ fields, toJson zone m = .map fields := ⟨_, rfl⟩
  rw [same] at number sender senderId target text ts peer peerName ⊢
  simp only [messageFromJson, number, sender, senderId, target, text, ts, asInt, asString, restored,
    Option.bind_eq_bind, Option.bind_some, Option.getD_some]
  cases DateTime.tryParse zone (m.timestamp.toIso8601String zone) with
  | none => rfl
  | some timestamp =>
    simp only [asInt, asString] at peer peerName
    simp only [peer, peerName]
    rfl

theorem decode_encode (zone : TimeZone) (l : List Chat.ChatMessage) :
    decode zone (some (encode zone l)) = l.filterMap (restored zone) := by
  have each : (l.map (toJson zone)).mapM (messageFromJson zone) = some (l.map (restored zone)) := by
    induction l with
    | nil => rfl
    | cons m rest ih => simp [messageFromJson_toJson, ih]
  simp only [encode, decode, each, Option.getD_some, List.filterMap_map, Function.id_comp]

/-- A stored history comes back unchanged if and only if every message of it can be stored. -/
theorem history_round_trip_iff (zone : TimeZone) (l : List Chat.ChatMessage) :
    decode zone (some (encode zone l)) = l ↔ ∀ m ∈ l, Storable zone m := by
  have unchanged := List.filterMap_eq_map_iff_forall_eq_some (f := restored zone) (g := id) (l := l)
  rw [List.map_id] at unchanged
  rw [decode_encode, unchanged]
  exact forall₂_congr fun _ _ => restored_eq_some_iff

/-- A welcome message, as `_maybeHydrateServerMessages` adds it. -/
def welcome : Chat.ChatMessage where
  id := 0
  fromClient := ""
  fromClientId := 0
  targetMode := 3
  message := "Welcome"
  timestamp := ⟨1787479200000000, true, by decide⟩
  serverGenerated := true
  highlighted := true

theorem near_setBack (t : Int) : t - microsecondsPerDay ≤ (if t < 0 then t + 3600000000 else t) ∧
    (if t < 0 then t + 3600000000 else t) ≤ t + microsecondsPerDay := by
  simp only [microsecondsPerDay]
  split <;> omega

/-- A zone in which the clock is set back by an hour at the instant 0. -/
def setBack : TimeZone where
  toLocal t := if t < 0 then t + 3600000000 else t
  ofLocal reading := if reading < 3600000000 then reading - 3600000000 else reading
  near := near_setBack

/-- A message of the first second after that. -/
def justAfter : Chat.ChatMessage where
  id := 0
  fromClient := "Anna"
  fromClientId := 7
  targetMode := 2
  message := "hello"
  timestamp := ⟨1000000, false, by decide⟩

theorem history_changes_messages :
    decode setBack (some (encode setBack [welcome])) ≠ [welcome] ∧
      decode setBack (some (encode setBack [justAfter])) ≠ [justAfter] := by
  have flags : ¬ Storable setBack welcome := fun storable =>
    absurd storable.serverGenerated (by decide)
  have time : ¬ Storable setBack justAfter := fun storable =>
    absurd storable.timestamp (by decide)
  have unchanged : ∀ m, restored setBack m ≠ some m →
      decode setBack (some (encode setBack [m])) ≠ [m] := by
    intro m changed same
    rw [decode_encode] at same
    cases image : restored setBack m with
    | none => simp [image] at same
    | some other => simp_all
  exact ⟨unchanged _ fun same => flags (restored_eq_some_iff.mp same),
    unchanged _ fun same => time (restored_eq_some_iff.mp same)⟩

end Nek0.Guarantees
