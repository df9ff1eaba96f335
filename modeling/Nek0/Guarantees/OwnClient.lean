import Nek0.Library.Run
import Nek0.Source.LiveSession

/-!
# The own client id

`do_connect` copies the id that the first connection was given, and nothing writes the copy
again. It stays right exactly as long as the client library gets the same id whenever it
rebuilds the connection.
-/

namespace Nek0.Guarantees

open Nek0.Library Nek0.Source Nek0.Source.LiveSession

/-- The stored id, and with it every use of it, means the own client of the book. -/
structure OwnIdCurrent (s : LiveSession) (book : Book) : Prop where
  stored : s.voice.ownClientId = book.ownClient.toUInt32
  moved : s.moveToChannel = book.ownClient
  guarded : s.kickClient book.ownClient = false
  filtered : ∀ clients channels, book.ownClient ∉
    (VoiceSender.sanitizeWhisperTargets clients channels s.voice.ownClientId).1

/-- What holds after every `BookEvents` item that is handled. -/
def RefreshesOwnId (s : LiveSession) : Prop :=
  ∀ i t book, s.items[i]? = some .bookEvents → s.step (.handleItem i) = some t →
    t.book = some book → OwnIdCurrent t book

/-- A new connection is given the id that is stored. -/
def keepsOwnId (s : LiveSession) : Action → Bool
  | .reconnect ownClient => ownClient.toUInt32 = s.voice.ownClientId
  | _ => true

/-- The id that is stored is the one of the book, if there is a book. -/
def StoredOwnId (s : LiveSession) : Prop :=
  ∀ book, s.book = some book → s.voice.ownClientId = book.ownClient.toUInt32

theorem ownIdCurrent_of_stored {s : LiveSession} {book : Book}
    (stored : s.voice.ownClientId = book.ownClient.toUInt32) : OwnIdCurrent s book where
  stored
  moved := by rw [moveToChannel, stored]; simp
  guarded := by simp [kickClient, stored]
  filtered := by
    intro clients channels listed
    have named := VoiceSender.mem_sanitizeWhisperTargets listed
    obtain ⟨id, -, other, small, same⟩ := named
    refine other ?_
    rw [stored, ← same, VoiceSender.toUInt16_toUInt32 small]

/-- What the app does leaves both ids alone. -/
theorem stored_inApp {s t : LiveSession} (stored : StoredOwnId s) (app : InApp s t) :
    StoredOwnId t := by
  intro book current
  rw [app.ownClientId]
  exact stored book (app.book ▸ current)

theorem stored_commit {s : LiveSession} (stored : StoredOwnId s) (panel : WhisperPanel) :
    StoredOwnId (s.commit panel) := by
  have opened : StoredOwnId { s with panel := some panel } := stored
  exact stored_inApp opened (inApp_commit panel)

theorem stored_step {s t : LiveSession} {action : Action} (stored : StoredOwnId s)
    (met : keepsOwnId s action = true) (taken : s.step action = some t) : StoredOwnId t := by
  cases action with
  | enters client =>
    simp only [step, enters, Option.ite_none_left_eq_some, Option.some.injEq] at taken
    obtain ⟨-, rfl⟩ := taken
    exact stored
  | leaves id =>
    obtain rfl := Option.some.inj taken
    exact stored
  | deliver =>
    simp only [step, deliver] at taken
    split at taken
    · next book message wire current _ =>
      obtain rfl := Option.some.inj taken
      rintro - ⟨⟩
      rw [handleCommand_ownClient]
      exact stored book current
    · cases taken
  | changeChannels channels =>
    simp only [step, changeChannels, Option.map_eq_some_iff] at taken
    obtain ⟨book, current, rfl⟩ := taken
    rintro - ⟨⟩
    exact stored book current
  | receiveItem item =>
    simp only [step, receiveItem, Option.ite_none_left_eq_some, Option.some.injEq] at taken
    obtain ⟨-, rfl⟩ := taken
    exact stored
  | loseConnection =>
    simp only [step, loseConnection, Option.map_eq_some_iff] at taken
    obtain ⟨_, -, rfl⟩ := taken
    rintro book ⟨⟩
  | reconnect ownClient =>
    simp only [step, reconnect, Option.ite_none_left_eq_some, Option.some.injEq] at taken
    obtain ⟨-, rfl⟩ := taken
    rintro - ⟨⟩
    have same : ownClient.toUInt32 = s.voice.ownClientId := by simpa [keepsOwnId] using met
    exact same.symm
  | handleItem i =>
    simp only [step, handleItem, Option.map_eq_some_iff] at taken
    obtain ⟨item, -, rfl⟩ := taken
    exact stored_inApp (s := { s with items := s.items.eraseIdx i }) stored
      (inApp_handleControlItem item)
  | startAudio =>
    obtain rfl := Option.some.inj taken
    exact stored
  | stopAudio =>
    obtain rfl := Option.some.inj taken
    exact stored
  | sendAudio data delivered fates =>
    obtain rfl := Option.some.inj taken
    intro book current
    have routing := VoiceSender.sameRouting_sendAudio s.voice data (delivered && s.book.isSome)
      fun i => if fates i = .sent ∧ s.book = none then .sendFailed else fates i
    exact routing.ownClientId.trans (stored book current)
  | pollEvents due =>
    obtain rfl := Option.some.inj taken
    exact stored_inApp stored (inApp_pollEvents due)
  | setForeground foreground =>
    obtain rfl := Option.some.inj taken
    exact stored
  | openPanel =>
    obtain rfl := Option.some.inj taken
    exact stored
  | closePanel =>
    obtain rfl := Option.some.inj taken
    exact stored
  | tapClient row =>
    simp only [step, tapClient] at taken
    split at taken
    · cases taken
    split at taken
    · cases taken
    split at taken <;> obtain rfl := Option.some.inj taken
    · exact stored_commit stored _
    · exact stored_commit (s := { s with
        chosen := Function.update s.chosen row.id.toUInt16 (some row.uid)
        departed := s.departed.filter (· ≠ row.id.toUInt16) }) stored _
  | tapChannel id =>
    simp only [step, tapChannel] at taken
    split at taken
    · cases taken
    split at taken
    · cases taken
    split at taken <;> obtain rfl := Option.some.inj taken <;>
      exact stored_commit stored _
  | clearPanel =>
    simp only [step, clearPanel, Option.map_eq_some_iff] at taken
    obtain ⟨_, -, rfl⟩ := taken
    exact stored_commit stored _
  | toggleWhisperActive =>
    obtain rfl := Option.some.inj taken
    exact stored_inApp stored (inApp_setWhisperActive _)

/-- In every run in which the library always gets the stored id, every use of the own id
means the own client of the book after every `BookEvents` item. -/
theorem own_client_is_current {ownUid : String} {people : List ServerClient}
    {wire : List ServerMessage} {book : Book} {actions : List Action} {s : LiveSession}
    (run : Run step (fun t action => keepsOwnId t action = true) (.new ownUid people wire book)
      actions s) : RefreshesOwnId s := by
  have stored : StoredOwnId s := by
    refine run.invariant StoredOwnId ?_ fun _ _ _ inv met taken => stored_step inv met taken
    rintro - ⟨⟩
    rfl
  intro i t current _ taken after
  exact ownIdCurrent_of_stored (stored_step stored rfl taken current after)

/-- The connection times out, and the server still has, or has given away, the old id. -/
def renumberedHistory (ownClient : UInt16) : List Action :=
  [.loseConnection, .handleItem 0, .leaves 5, .reconnect ownClient]

theorem own_client_is_current_kept : ∃ s,
    Run step (fun t action => keepsOwnId t action = true) (.new "me" [⟨5, "me"⟩] [] ⟨5, [], []⟩)
      (renumberedHistory 5) s ∧ s.items = [.bookEvents] ∧ RefreshesOwnId s := by
  obtain ⟨s, run, test⟩ := reaches_of_guarded keepsOwnId
    (show (exec (guarded keepsOwnId step) (.new "me" [⟨5, "me"⟩] [] ⟨5, [], []⟩)
      (renumberedHistory 5)).any (fun s => s.items == [.bookEvents]) = true by decide +kernel)
  exact ⟨s, run, by simpa using test, own_client_is_current run⟩

/-- With another id the stored one is somebody else's or nobody's. -/
theorem own_client_goes_stale : ¬ ∀ (ownUid : String) (people : List ServerClient)
    (wire : List ServerMessage) (book : Book) (actions : List Action) (s : LiveSession),
    Run step anyStep (.new ownUid people wire book) actions s → RefreshesOwnId s := by
  intro current
  obtain ⟨s, run, stale⟩ := reaches_of_exec anyStep (fun _ _ _ => trivial)
    (show (exec step (.new "me" [⟨5, "me"⟩] [] ⟨5, [], []⟩) (renumberedHistory 9)).any
      (fun s => s.items[0]? == some .bookEvents &&
        (s.step (.handleItem 0)).any fun t =>
          t.book == some ⟨9, [], []⟩ && t.voice.ownClientId == 5) = true by decide +kernel)
  simp only [Bool.and_eq_true, beq_iff_eq, Option.any_eq_true] at stale
  obtain ⟨waits, t, taken, book, stored⟩ := stale
  have right := current "me" _ [] _ _ s run 0 t _ waits taken book
  exact absurd (stored ▸ right.stored) (by decide)

end Nek0.Guarantees
