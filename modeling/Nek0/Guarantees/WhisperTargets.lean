import Nek0.Library.Run
import Nek0.Source.LiveSession

/-!
# Whom a whisper reaches

The engine addresses whispers to client ids, and the app takes an id out again when it polls
in the foreground and finds nobody under it. Whispers reach the people that were ticked as
long as no whisper is sent while an id is selected whose client has left since.
-/

namespace Nek0.Guarantees

open Nek0.Library Nek0.Source Nek0.Source.LiveSession

/-- The person that was ticked under an id has it. -/
def Reached (people : List ServerClient) (chosen : UInt16 → Option String) (id : UInt16) : Prop :=
  ∃ uid, chosen id = some uid ∧ (⟨id, uid⟩ : ServerClient) ∈ people

/-- Every whisper packet was addressed to people that the user had ticked. -/
def WhispersReach (s : LiveSession) : Prop :=
  ∀ sending ∈ s.sent, ∀ targets, sending.packet.addressing = some targets →
    ∀ id ∈ targets.clients, Reached sending.people sending.chosen id

/-- A row is ticked while the person it shows still has the id, and a command that may send
a whisper finds no target selected whose client has left. -/
def targetsPresent (s : LiveSession) : Action → Bool
  | .tapClient row =>
    s.panel.any (row.id ∈ ·.clients) || s.people.contains ⟨row.id.toUInt16, row.uid⟩
  | .sendAudio data _ _ =>
    !s.voice.whispers data || s.voice.whisperTargetClients.all (· ∉ s.departed)
  | _ => true

/-- Ids of which each was ticked at some time. -/
def Ticked (s : LiveSession) (ids : List UInt32) : Prop :=
  ∀ id ∈ ids, (s.chosen id.toUInt16).isSome

/-- What the user ticked bounds what is selected anywhere, and who was ticked is there
until he leaves. -/
structure Selected (s : LiveSession) : Prop where
  panel : ∀ panel, s.panel = some panel → Ticked s panel.clients
  app : Ticked s s.app.whisperTargetClientIds
  voice : ∀ id ∈ s.voice.whisperTargetClients, (s.chosen id).isSome
  present : ∀ id uid, s.chosen id = some uid → id ∉ s.departed →
    (⟨id, uid⟩ : ServerClient) ∈ s.people
  reached : WhispersReach s

theorem selected_setWhisperTargets {s : LiveSession} (selected : Selected s)
    {clientIds : List UInt32} (ticked : Ticked s clientIds) (channelIds : List UInt32) :
    Selected (s.setWhisperTargets clientIds channelIds) := by
  have app := inApp_setWhisperTargets (s := s) clientIds channelIds
  obtain ⟨shown, addressed⟩ := setWhisperTargets_clients (s := s) clientIds channelIds
  refine ⟨?_, ?_, ?_, ?_, ?_⟩
  · intro panel opened id ticks
    rw [app.chosen]
    exact selected.panel panel (app.panel ▸ opened) id ticks
  · intro id listed
    rw [app.chosen]
    exact ticked id (shown id listed)
  · intro target listed
    obtain ⟨id, named, rfl⟩ := addressed target listed
    rw [app.chosen]
    exact ticked id named
  · intro id uid chose stays
    rw [app.people]
    exact selected.present id uid (app.chosen ▸ chose) (app.departed ▸ stays)
  · rw [WhispersReach, app.sent]
    exact selected.reached

/-- A change of the app that selects nobody new. -/
theorem selected_inApp {s t : LiveSession} (selected : Selected s) (app : InApp s t)
    (same : t.app.whisperTargetClientIds = s.app.whisperTargetClientIds)
    (addressed : t.voice.whisperTargetClients = s.voice.whisperTargetClients) : Selected t := by
  refine ⟨?_, ?_, ?_, ?_, ?_⟩
  · intro panel opened id ticks
    rw [app.chosen]
    exact selected.panel panel (app.panel ▸ opened) id ticks
  · intro id listed
    rw [app.chosen]
    exact selected.app id (same ▸ listed)
  · intro id listed
    rw [app.chosen]
    exact selected.voice id (addressed ▸ listed)
  · intro id uid chose stays
    rw [app.people]
    exact selected.present id uid (app.chosen ▸ chose) (app.departed ▸ stays)
  · rw [WhispersReach, app.sent]
    exact selected.reached

theorem selected_commit {s : LiveSession} (selected : Selected s) {panel : WhisperPanel}
    (ticked : Ticked s panel.clients) : Selected (s.commit panel) := by
  have opened : Selected { s with panel := some panel } :=
    { selected with
      panel := by
        intro shown same
        obtain rfl := Option.some.inj same
        exact ticked }
  exact selected_setWhisperTargets opened ticked panel.channels

theorem selected_pruneWhisperTargets {s : LiveSession} (selected : Selected s) :
    Selected s.pruneWhisperTargets := by
  unfold pruneWhisperTargets
  dsimp only
  split
  · exact selected
  · exact selected_setWhisperTargets selected
      (fun id kept => selected.app id (List.mem_of_mem_filter kept)) _

theorem selected_handleEvents {s : LiveSession} (selected : Selected s) (events : List TsEvent) :
    Selected (events.foldl handleEvent s) := by
  induction events generalizing s with
  | nil => exact selected
  | cons event events ih =>
    refine ih (selected_inApp selected (inApp_handleEvent event) ?_ ?_) <;> cases event <;> rfl

theorem selected_pollEvents {s : LiveSession} (selected : Selected s) (due : Bool) :
    Selected (s.pollEvents due) := by
  have begun : Selected { s with events := [] } := { selected with }
  have handled := selected_handleEvents begun s.events
  unfold pollEvents
  dsimp only
  split
  · exact selected_pruneWhisperTargets { handled with }
  · exact handled

/-- A tick forgets nobody. -/
theorem ticked_update {s t : LiveSession} {id : UInt16} {uid : String}
    (chosen : t.chosen = Function.update s.chosen id (some uid)) (other : UInt16)
    (before : (s.chosen other).isSome) : (t.chosen other).isSome := by
  rw [chosen, Function.update_apply]
  split
  · rfl
  · exact before

/-- Ticking a row adds the person it shows. -/
theorem selected_tick {s : LiveSession} (selected : Selected s) {row : LiveSession.TsClient}
    {panel : WhisperPanel} (opened : s.panel = some panel)
    (current : (⟨row.id.toUInt16, row.uid⟩ : ServerClient) ∈ s.people) :
    Selected ({ s with
        chosen := Function.update s.chosen row.id.toUInt16 (some row.uid)
        departed := s.departed.filter (· ≠ row.id.toUInt16) }.commit
      { panel with clients := panel.clients ++ [row.id] }) := by
  let t : LiveSession := { s with
    chosen := Function.update s.chosen row.id.toUInt16 (some row.uid)
    departed := s.departed.filter (· ≠ row.id.toUInt16) }
  have kept : ∀ id, (s.chosen id).isSome → (t.chosen id).isSome :=
    fun id before => ticked_update (s := s) (t := t) rfl id before
  have ticks : Selected t := by
    refine ⟨?_, ?_, ?_, ?_, selected.reached⟩
    · exact fun shown same id listed => kept _ (selected.panel shown same id listed)
    · exact fun id listed => kept _ (selected.app id listed)
    · exact fun id listed => kept _ (selected.voice id listed)
    · intro id uid chose stays
      simp only [t, Function.update_apply] at chose
      split at chose
      · next same =>
        obtain rfl := Option.some.inj chose
        exact same ▸ current
      · next other =>
        refine selected.present id uid chose fun left => stays ?_
        simpa [t, other] using left
  refine selected_commit ticks fun id listed => ?_
  rcases List.mem_append.mp listed with before | new
  · exact kept _ (selected.panel panel opened id before)
  · obtain rfl := List.mem_singleton.mp new
    simp [t]

theorem selected_sendAudio {s : LiveSession} (selected : Selected s) {data : List UInt32}
    {delivered : Bool} {fates : Nat → FrameFate}
    (met : targetsPresent s (.sendAudio data delivered fates) = true) :
    Selected (s.sendAudio data delivered fates) := by
  let outcomes := fun i => if fates i = .sent ∧ s.book = none then .sendFailed else fates i
  obtain ⟨added, packets, addressed⟩ :=
    s.voice.adds_sendAudio data (delivered && s.book.isSome) outcomes
  have routing := s.voice.sameRouting_sendAudio data (delivered && s.book.isSome) outcomes
  refine ⟨selected.panel, selected.app, ?_, selected.present, ?_⟩
  · intro id listed
    exact selected.voice id (routing.clients ▸ listed)
  · have appended : (s.sendAudio data delivered fates).sent =
        s.sent ++ added.map (⟨·, s.people, s.chosen⟩) := by
      unfold sendAudio
      dsimp only
      rw [packets, List.drop_left]
    rw [WhispersReach, appended]
    refine List.forall_mem_append.mpr ⟨selected.reached, ?_⟩
    intro sending new targets whispered id listed
    obtain ⟨packet, sends, rfl⟩ := List.mem_map.mp new
    obtain ⟨same, whispering⟩ := addressed packet sends targets whispered
    rw [same] at listed
    have stays : id ∉ s.departed := by
      simp only [targetsPresent, whispering, Bool.not_true, Bool.false_or, List.all_eq_true,
        decide_eq_true_eq] at met
      exact met id listed
    obtain ⟨uid, chose⟩ := Option.isSome_iff_exists.mp (selected.voice id listed)
    exact ⟨uid, chose, selected.present id uid chose stays⟩

theorem selected_step {s t : LiveSession} {action : Action} (selected : Selected s)
    (met : targetsPresent s action = true) (taken : s.step action = some t) : Selected t := by
  cases action with
  | enters client =>
    simp only [step, enters, Option.ite_none_left_eq_some, Option.some.injEq] at taken
    obtain ⟨-, rfl⟩ := taken
    exact { selected with
      present := fun id uid chose stays =>
        List.mem_cons_of_mem _ (selected.present id uid chose stays) }
  | leaves id =>
    obtain rfl := Option.some.inj taken
    refine { selected with present := fun other uid chose stays => ?_ }
    obtain ⟨different, stayed⟩ := not_or.mp (mt List.mem_cons.mpr stays)
    exact List.mem_filter.mpr ⟨selected.present other uid chose stayed, by simpa using different⟩
  | deliver =>
    simp only [step, deliver] at taken
    split at taken
    · obtain rfl := Option.some.inj taken
      exact { selected with }
    · cases taken
  | changeChannels channels =>
    simp only [step, changeChannels, Option.map_eq_some_iff] at taken
    obtain ⟨_, -, rfl⟩ := taken
    exact { selected with }
  | receiveItem item =>
    simp only [step, receiveItem, Option.ite_none_left_eq_some, Option.some.injEq] at taken
    obtain ⟨-, rfl⟩ := taken
    exact { selected with }
  | loseConnection =>
    simp only [step, loseConnection, Option.map_eq_some_iff] at taken
    obtain ⟨_, -, rfl⟩ := taken
    exact { selected with }
  | reconnect ownClient =>
    simp only [step, reconnect, Option.ite_none_left_eq_some, Option.some.injEq] at taken
    obtain ⟨-, rfl⟩ := taken
    exact { selected with
      present := fun id uid chose stays =>
        List.mem_cons_of_mem _ (selected.present id uid chose stays) }
  | handleItem i =>
    simp only [step, handleItem, Option.map_eq_some_iff] at taken
    obtain ⟨item, -, rfl⟩ := taken
    have removed : Selected { s with items := s.items.eraseIdx i } := { selected with }
    refine selected_inApp removed (inApp_handleControlItem item) ?_ ?_ <;>
      unfold handleControlItem <;> split <;> first | rfl | (split <;> rfl)
  | startAudio =>
    obtain rfl := Option.some.inj taken
    exact { selected with }
  | stopAudio =>
    obtain rfl := Option.some.inj taken
    exact { selected with }
  | sendAudio data delivered fates =>
    obtain rfl := Option.some.inj taken
    exact selected_sendAudio selected met
  | pollEvents due =>
    obtain rfl := Option.some.inj taken
    exact selected_pollEvents selected due
  | setForeground foreground =>
    obtain rfl := Option.some.inj taken
    exact { selected with }
  | openPanel =>
    obtain rfl := Option.some.inj taken
    refine { selected with panel := fun shown same => ?_ }
    obtain rfl := Option.some.inj same
    exact selected.app
  | closePanel =>
    obtain rfl := Option.some.inj taken
    exact { selected with panel := fun _ same => nomatch same }
  | tapClient row =>
    simp only [step, tapClient] at taken
    split at taken
    · cases taken
    next panel opened =>
      split at taken
      · cases taken
      split at taken <;> obtain rfl := Option.some.inj taken
      · exact selected_commit selected fun id kept =>
          selected.panel panel opened id (List.mem_of_mem_filter kept)
      · next untapped =>
        refine selected_tick selected opened ?_
        simpa [targetsPresent, opened, untapped] using met
  | tapChannel id =>
    simp only [step, tapChannel] at taken
    split at taken
    · cases taken
    next panel opened =>
      split at taken
      · cases taken
      split at taken <;> obtain rfl := Option.some.inj taken <;>
        exact selected_commit selected (selected.panel panel opened)
  | clearPanel =>
    simp only [step, clearPanel, Option.map_eq_some_iff] at taken
    obtain ⟨_, -, rfl⟩ := taken
    exact selected_commit selected fun _ listed => nomatch listed
  | toggleWhisperActive =>
    obtain rfl := Option.some.inj taken
    have same := (s.voice.setWhisperActive_targets (!s.app.whisperActive)).2
    refine selected_inApp selected (inApp_setWhisperActive _) ?_ ?_ <;>
      unfold setWhisperActive <;> dsimp only
    · split
      · rfl
      split <;> rfl
    · split
      · rfl
      split <;> exact same

/-- In every run that ticks current rows and whispers only while no target has left, every
whisper packet was addressed to the people that the user had ticked. -/
theorem whispers_reach_the_chosen {ownUid : String} {people : List ServerClient}
    {wire : List ServerMessage} {book : Book} {actions : List Action} {s : LiveSession}
    (run : Run step (fun t action => targetsPresent t action = true)
      (.new ownUid people wire book) actions s) : WhispersReach s := by
  have selected : Selected s := by
    refine run.invariant Selected ?_ fun _ _ _ inv met taken => selected_step inv met taken
    exact ⟨fun _ same => (nomatch same), fun _ listed => (nomatch listed),
      fun _ listed => (nomatch listed), fun _ _ chose => (nomatch chose),
      fun _ sends => (nomatch sends)⟩
  exact selected.reached

/-- A whisper to one of two clients; he leaves, and another client gets his id. -/
def reusedHistory (polls : List Action) : List Action :=
  [.openPanel, .tapClient ⟨7, "anna"⟩, .closePanel, .toggleWhisperActive, .startAudio,
    .sendAudio (List.replicate 960 0) true fun _ => .sent,
    .leaves 7, .deliver, .handleItem 0] ++ polls ++
  [.enters ⟨7, "berta"⟩, .deliver, .handleItem 0, .pollEvents true,
    .sendAudio (List.replicate 960 0) true fun _ => .sent]

def annaOnline : LiveSession :=
  .new "me" [⟨5, "me"⟩, ⟨7, "anna"⟩] [] ⟨5, [⟨5, "me"⟩, ⟨7, "anna"⟩], []⟩

/-- The app polls before the id is given away, and speech goes to the channel again. -/
theorem whispers_reach_the_chosen_pruned : ∃ s,
    Run step (fun t action => targetsPresent t action = true) annaOnline
      (reusedHistory [.pollEvents true]) s ∧ s.sent.length = 4 ∧ WhispersReach s := by
  obtain ⟨s, run, test⟩ := reaches_of_guarded targetsPresent
    (show (exec (guarded targetsPresent step) annaOnline (reusedHistory [.pollEvents true])).any
      (fun s => s.sent.length == 4) = true by decide +kernel)
  exact ⟨s, run, by simpa using test, whispers_reach_the_chosen run⟩

/-- Without a poll in between the whisper reaches the other client. -/
theorem whisper_reaches_another : ¬ ∀ (ownUid : String) (people : List ServerClient)
    (wire : List ServerMessage) (book : Book) (actions : List Action) (s : LiveSession),
    Run step anyStep (.new ownUid people wire book) actions s → WhispersReach s := by
  intro reach
  obtain ⟨s, run, misled⟩ := reaches_of_exec anyStep (fun _ _ _ => trivial)
    (show (exec step annaOnline (reusedHistory [])).any (fun s => s.sent.any fun sending =>
      sending.packet.addressing == some ⟨[], [7]⟩ && sending.chosen 7 == some "anna" &&
        !sending.people.contains ⟨7, "anna"⟩) = true by decide +kernel)
  simp only [List.any_eq_true, Bool.and_eq_true, beq_iff_eq, Bool.not_eq_true',
    List.contains_eq_mem, decide_eq_false_iff_not] at misled
  obtain ⟨sending, sends, ⟨whispered, chose⟩, gone⟩ := misled
  obtain ⟨uid, same, there⟩ := reach "me" _ [] _ _ s run sending sends _ whispered 7 (by decide)
  obtain rfl := Option.some.inj (chose.symm.trans same)
  exact gone there

end Nek0.Guarantees
