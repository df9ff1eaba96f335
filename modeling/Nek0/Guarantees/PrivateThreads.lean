import Nek0.Library.Run
import Nek0.Source.ChatApp

/-!
# Private conversations

A private thread is the messages of one client id, in the session and in what is restored
from the history. It is the conversation with one person as long as no further private
message under its id is exchanged with somebody else, and the panel sends to the thread it
shows as long as there is a tab for the selected one.
-/

namespace Nek0.Guarantees

open Nek0.Library Nek0.Source Nek0.Source.ChatApp

/-- Not two different people. Nobody is the partner of a message that was not delivered. -/
def SamePerson (p q : Option String) : Prop := ∀ u v, p = some u → q = some v → u = v

/-- The messages of a thread were exchanged with one person. -/
def OnePartner (messages : List ChatMessage) : Prop :=
  ∀ a ∈ messages, ∀ b ∈ messages, a.threadKey = b.threadKey → SamePerson a.partner b.partner

/-- What was sent from the panel went to the thread that was shown, and to nobody else. -/
def WentWhereShown (x : PanelSend) : Prop :=
  x.shown.key = x.destination ∧ ∀ m ∈ x.shown.messages, SamePerson m.partner x.partner

structure StaysPrivate (s : ChatApp) : Prop where
  threads : ∀ cid, OnePartner (s.sessions cid).st.messages
  sends : ∀ x ∈ s.sent, WentWhereShown x

/-- No message of the thread was exchanged with anybody else. -/
def fitsThread (messages : List ChatMessage) (key : ChatThreadKey) (partner : Option String) :
    Bool :=
  messages.all fun m => m.threadKey ≠ key || m.partner = none || partner = none ||
    m.partner = partner

/-- A private message that comes in, goes out or is restored fits the messages that the
session has under its client id, and the thread that is selected in the panel has a tab
when something is sent. -/
def keepsPartners (s : ChatApp) : Action → Bool
  | .textMessage cid _ fromClientId targetMode _ _ ignored partner =>
    ignored || targetMode ≠ 1 ||
      fitsThread (s.sessions cid).st.messages (.client fromClientId) partner
  | .finishRestore cid i =>
    match (s.sessions cid).restores[i]? with
    | some ⟨st, some stored⟩ => stored.all fun m => fitsThread st.messages m.threadKey m.partner
    | _ => true
  | .sendMessage text queued _ partner =>
    match s.panel with
    | none => true
    | some ⟨cid, current⟩ =>
      let st := (s.sessions cid).st
      text = "" || !st.connected || !queued ||
        current ∈ ChatThread.keys st.messages &&
          (!current.isPrivate || fitsThread st.messages current partner)
  | _ => true

section Messages

variable {messages : List ChatMessage}

theorem samePerson_of_fits {key : ChatThreadKey} {partner : Option String}
    (fits : fitsThread messages key partner = true) {m : ChatMessage} (listed : m ∈ messages)
    (same : m.threadKey = key) : SamePerson m.partner partner := by
  intro u v first second
  have checked := List.all_eq_true.mp fits m listed
  simpa [same, first, second] using checked

theorem SamePerson.symm {p q : Option String} (same : SamePerson p q) : SamePerson q p :=
  fun u v first second => (same v u second first).symm

theorem onePartner_sublist {kept : List ChatMessage} (one : OnePartner messages)
    (sub : kept.Sublist messages) : OnePartner kept :=
  fun a first b second => one a (sub.subset first) b (sub.subset second)

theorem onePartner_nil : OnePartner [] := by
  intro a listed
  cases listed

theorem onePartner_append {stored : List ChatMessage} (first : OnePartner stored)
    (second : OnePartner messages)
    (across : ∀ a ∈ stored, ∀ b ∈ messages, a.threadKey = b.threadKey →
      SamePerson a.partner b.partner) : OnePartner (stored ++ messages) := by
  intro a listed b other same
  rcases List.mem_append.mp listed with early | late <;>
    rcases List.mem_append.mp other with early' | late'
  · exact first a early b early' same
  · exact across a early b late' same
  · exact (across b early' a late same.symm).symm
  · exact second a late b late' same

/-- A further message keeps a thread with one person if it fits. -/
theorem onePartner_snoc {m : ChatMessage} (one : OnePartner messages)
    (fits : fitsThread messages m.threadKey m.partner = true) : OnePartner (messages ++ [m]) := by
  refine onePartner_append one (fun a listed b other _ => ?_) fun a listed b new same => ?_
  · obtain rfl := List.mem_singleton.mp listed
    obtain rfl := List.mem_singleton.mp other
    intro u v first second
    exact Option.some.inj (first.symm.trans second)
  · obtain rfl := List.mem_singleton.mp new
    exact samePerson_of_fits fits listed same

/-- A message without a partner fits everywhere. -/
theorem fits_nobody (key : ChatThreadKey) : fitsThread messages key none = true := by
  simp [fitsThread]

end Messages

section Sessions

/-- All copies of messages that a session has are of this kind. -/
structure SessionKept (session : ChatSession) : Prop where
  messages : OnePartner session.st.messages
  timer : ∀ st, session.historySaveTimer = some st → OnePartner st.messages
  restores : ∀ restore ∈ session.restores, OnePartner restore.st.messages ∧
    ∀ stored, restore.stored = some stored → OnePartner stored

structure ThreadsKept (s : ChatApp) : Prop where
  sessions : ∀ cid, SessionKept (s.sessions cid)
  files : ∀ name, OnePartner (s.files name)
  sends : ∀ x ∈ s.sent, WentWhereShown x

variable {s : ChatApp} {cid : ConnectionId}

theorem sessionKept_initial {st : ChatState} (none : st.messages = []) :
    SessionKept { ChatSession.new with st } where
  messages := none ▸ onePartner_nil
  timer _ same := nomatch same
  restores _ listed := nomatch listed

theorem kept_setSession (kept : ThreadsKept s) {session : ChatSession}
    (fine : SessionKept session) : ThreadsKept (s.setSession cid session) where
  sessions other := by
    simp only [setSession, Function.update_apply]
    split
    · exact fine
    · exact kept.sessions other
  files := kept.files
  sends := kept.sends

theorem kept_setState (kept : ThreadsKept s) {st : ChatState} (one : OnePartner st.messages) :
    ThreadsKept (s.setState cid st) :=
  kept_setSession kept { kept.sessions cid with messages := one }

theorem kept_save (kept : ThreadsKept s) {st : ChatState} (one : OnePartner st.messages)
    (now : Nat) : ThreadsKept (s.save st now) := by
  unfold save
  split
  · exact kept
  · refine { kept with files := fun name => ?_ }
    simp only [Function.update_apply]
    split
    · exact onePartner_sublist one (prune_sublist st.chatRetention now)
    · exact kept.files name

theorem kept_scheduleHistorySave (kept : ThreadsKept s) :
    ThreadsKept (s.scheduleHistorySave cid) := by
  unfold scheduleHistorySave
  dsimp only
  split
  · refine kept_setSession kept { kept.sessions cid with timer := fun st same => ?_ }
    obtain rfl := Option.some.inj same
    exact (kept.sessions cid).messages
  · exact kept

theorem kept_markUnread (kept : ThreadsKept s) (key : ChatThreadKey) :
    ThreadsKept (s.markUnread cid key) := by
  unfold markUnread
  dsimp only
  split
  · exact kept
  · exact kept_setState kept (kept.sessions cid).messages

theorem kept_showThread (kept : ThreadsKept s) (key : ChatThreadKey) :
    ThreadsKept (s.showThread cid key) :=
  kept_setSession kept { kept.sessions cid with messages := (kept.sessions cid).messages }

/-- A change of all sessions that keeps the messages of each. -/
theorem kept_sessions (kept : ThreadsKept s) {sessions : ConnectionId → ChatSession}
    (fine : ∀ cid, SessionKept (sessions cid)) : ThreadsKept { s with sessions } :=
  { kept with sessions := fine }

theorem kept_clearChatHistory (kept : ThreadsKept s) : ThreadsKept s.clearChatHistory := by
  refine { kept with sessions := fun cid => ?_, files := fun _ => onePartner_nil }
  simp only [clearChatHistory, cancelSaves]
  split
  · exact { kept.sessions cid with timer := fun _ same => nomatch same }
  · exact kept.sessions cid

theorem kept_setChatHistoryEnabled (kept : ThreadsKept s) (enabled : Bool) :
    ThreadsKept (s.setChatHistoryEnabled enabled) := by
  have switched : ThreadsKept { s with
      sessions := fun cid =>
        if cid ∈ s.keys then
          { s.sessions cid with st := { (s.sessions cid).st with chatHistoryEnabled := enabled } }
        else s.sessions cid } := by
    refine kept_sessions kept fun cid => ?_
    split
    · exact { kept.sessions cid with messages := (kept.sessions cid).messages }
    · exact kept.sessions cid
  unfold setChatHistoryEnabled
  dsimp only
  split
  · exact switched
  · exact kept_clearChatHistory switched

theorem kept_setChatRetention (kept : ThreadsKept s) (retention : HistoryRetention) :
    ThreadsKept (s.setChatRetention retention) := by
  unfold setChatRetention
  generalize s.keys = keys
  induction keys generalizing s with
  | nil => exact kept
  | cons cid keys ih =>
    exact ih (kept_scheduleHistorySave (kept_setState kept (kept.sessions cid).messages))

theorem kept_handleConnected (kept : ThreadsKept s) (serverUid : String) (ownClientId : Nat)
    (clients : List ChatClient) :
    ThreadsKept (s.handleConnected cid serverUid ownClientId clients) := by
  unfold handleConnected
  refine kept_setSession kept ?_
  have before := kept.sessions cid
  dsimp only
  split
  · refine { before with messages := before.messages, restores := fun restore listed => ?_ }
    rcases List.mem_append.mp listed with old | new
    · exact before.restores restore old
    · obtain rfl := List.mem_singleton.mp new
      exact ⟨before.messages, fun _ same => nomatch same⟩
  · exact { before with messages := before.messages }

theorem kept_handleDisconnected (kept : ThreadsKept s) (now : Nat) :
    ThreadsKept (s.handleDisconnected cid now) := by
  unfold handleDisconnected
  refine kept_setSession ?_ { kept.sessions cid with messages := onePartner_nil }
  split
  · exact kept_save kept (kept.sessions cid).messages now
  · exact kept

/-- An incoming message joins the thread of its sender. -/
theorem kept_handleTextMessage (kept : ThreadsKept s) {fromClient message : String}
    {fromClientId targetMode now : Nat} {ignored : Bool} {partner : Option String}
    (met : keepsPartners s (.textMessage cid fromClient fromClientId targetMode message now
      ignored partner) = true) :
    ThreadsKept (s.handleTextMessage cid fromClient fromClientId targetMode message now ignored
      partner) := by
  unfold handleTextMessage
  dsimp only
  split
  · exact kept
  next heard =>
    refine kept_scheduleHistorySave ?_
    have joined : OnePartner ((s.sessions cid).st.messages ++
        [{ id := (s.sessions cid).st.messages.length
           fromClient, fromClientId, targetMode, message
           timestamp := now
           peerId := if targetMode = 1 then some fromClientId else none
           peerName := if targetMode = 1 then some fromClient else none
           partner := if targetMode = 1 then partner else none }]) := by
      refine onePartner_snoc (kept.sessions cid).messages ?_
      by_cases toUs : targetMode = 1
      · subst toUs
        simpa [keepsPartners, heard, ChatMessage.threadKey] using met
      · simp only [toUs, if_false]
        exact fits_nobody _
    split
    · exact kept_setState kept joined
    · exact kept_markUnread (kept_setState kept joined) _

theorem kept_fireSaveTimer {t : ChatApp} (kept : ThreadsKept s) {now : Nat}
    (taken : s.fireSaveTimer cid now = some t) : ThreadsKept t := by
  simp only [fireSaveTimer, Option.map_eq_some_iff] at taken
  obtain ⟨st, waiting, rfl⟩ := taken
  refine kept_save (kept_setSession kept ?_) ((kept.sessions cid).timer st waiting) now
  exact { kept.sessions cid with timer := fun _ same => nomatch same }

theorem kept_loadHistory {t : ChatApp} (kept : ThreadsKept s) {i now : Nat}
    (taken : s.loadHistory cid i now = some t) : ThreadsKept t := by
  simp only [loadHistory, Option.map_eq_some_iff] at taken
  obtain ⟨restore, begun, rfl⟩ := taken
  have before := kept.sessions cid
  refine kept_setSession kept { before with restores := fun other listed => ?_ }
  rcases List.mem_or_eq_of_mem_set listed with old | rfl
  · exact before.restores other old
  · refine ⟨(before.restores restore (List.mem_of_getElem? begun)).1, fun stored same => ?_⟩
    obtain rfl := Option.some.inj same
    exact onePartner_sublist (kept.files _) (prune_sublist _ now)

/-- What is restored joins the messages that the session had when the restore began. -/
theorem kept_finishRestore {t : ChatApp} (kept : ThreadsKept s) {i : Nat}
    (met : keepsPartners s (.finishRestore cid i) = true)
    (taken : s.finishRestore cid i = some t) : ThreadsKept t := by
  have before := kept.sessions cid
  simp only [finishRestore] at taken
  split at taken
  next st stored begun =>
    have fine : SessionKept
        { s.sessions cid with restores := (s.sessions cid).restores.eraseIdx i } :=
      { before with
        restores := fun restore listed =>
          before.restores restore (List.mem_of_mem_eraseIdx listed) }
    obtain ⟨captured, read⟩ := before.restores _ (List.mem_of_getElem? begun)
    simp only [Option.some.injEq] at taken
    split at taken <;> subst taken
    · exact kept_setSession kept fine
    · refine kept_setSession kept { fine with messages := ?_ }
      refine onePartner_append (read stored rfl) captured fun a first b second same => ?_
      simp only [keepsPartners, begun, List.all_eq_true] at met
      exact (samePerson_of_fits (met a first) second same.symm).symm
  · cases taken

/-- A private message that the user sends joins the thread of its recipient. -/
theorem kept_sendPrivateMessage (kept : ThreadsKept s) {clientId : Nat} {text : String}
    {queued : Bool} {now : Nat} {partner : Option String}
    (fits : text = "" ∨ (s.sessions cid).st.connected = false ∨ queued = false ∨
      fitsThread (s.sessions cid).st.messages (.client clientId) partner = true) :
    ThreadsKept (s.sendPrivateMessage cid clientId text queued now partner) := by
  unfold sendPrivateMessage
  dsimp only
  split
  · exact kept
  next sends =>
    simp only [Bool.or_eq_true, Bool.not_eq_true', decide_eq_true_eq, not_or] at sends
    obtain ⟨⟨connected, text⟩, queues⟩ := sends
    refine kept_setState kept (onePartner_snoc (kept.sessions cid).messages ?_)
    exact ((fits.resolve_left text).resolve_left connected).resolve_left queues

theorem sendPrivateMessage_sent (s : ChatApp) (cid : ConnectionId) (clientId : Nat)
    (text : String) (queued : Bool) (now : Nat) (partner : Option String) :
    (s.sendPrivateMessage cid clientId text queued now partner).sent = s.sent := by
  unfold sendPrivateMessage
  dsimp only
  split <;> rfl

/-- The messages under a key that is shown fit what is sent to it. -/
theorem wentWhereShown {messages : List ChatMessage} {unreadByThread : ChatThreadKey → Nat}
    {current : ChatThreadKey} {partner : Option String}
    (tab : current ∈ ChatThread.keys messages)
    (fits : current.isPrivate = false ∨ fitsThread messages current partner = true) :
    WentWhereShown ⟨ChatThread.active messages unreadByThread current, current,
      if current.isPrivate then partner else none⟩ := by
  refine ⟨active_key.mpr tab, fun m listed => ?_⟩
  rcases active_cases messages unreadByThread current with ⟨-, shown⟩ | ⟨none, -⟩
  · simp only [shown, ChatThread.ofKey, List.mem_filter, decide_eq_true_eq] at listed
    obtain ⟨written, same⟩ := listed
    rcases fits with shared | fits
    · rintro _ _ - second
      simp [shared] at second
    · split
      · exact samePerson_of_fits fits written same
      · rintro _ _ - ⟨⟩
  · exact absurd tab none

/-- A private message that is sent from the panel is stored in its thread. -/
theorem kept_stored (kept : ThreadsKept s) {cid : ConnectionId} {current : ChatThreadKey}
    {text : String} {queued : Bool} {now : Nat} {partner : Option String}
    (met : ∀ peerId, current = .client peerId → (text = "" ∨ (s.sessions cid).st.connected = false ∨
      queued = false ∨ fitsThread (s.sessions cid).st.messages current partner = true)) :
    ∀ u, u = (match current.peerId with
        | some peerId => s.sendPrivateMessage cid peerId text queued now partner
        | none => s) → ThreadsKept u ∧ u.sent = s.sent := by
  rintro u rfl
  cases current with
  | channel => exact ⟨kept, rfl⟩
  | server => exact ⟨kept, rfl⟩
  | client peerId =>
    exact ⟨kept_sendPrivateMessage kept (met peerId rfl), sendPrivateMessage_sent _ _ _ _ _ _ _⟩

/-- What the user sends from the panel goes where he sees it go. -/
theorem kept_sendMessage {t : ChatApp} (kept : ThreadsKept s) {text : String} {queued : Bool}
    {now : Nat} {partner : Option String}
    (met : keepsPartners s (.sendMessage text queued now partner) = true)
    (taken : s.sendMessage text queued now partner = some t) : ThreadsKept t := by
  simp only [sendMessage] at taken
  split at taken
  · cases taken
  next cid current opened =>
    simp only [keepsPartners, opened, Bool.or_eq_true, Bool.and_eq_true, Bool.not_eq_true',
      decide_eq_true_eq, or_assoc] at met
    have fits : ∀ peerId, current = .client peerId → (text = "" ∨
        (s.sessions cid).st.connected = false ∨ queued = false ∨
          fitsThread (s.sessions cid).st.messages current partner = true) := by
      rintro peerId rfl
      simpa [ChatThreadKey.isPrivate] using met.imp_right (Or.imp_right (Or.imp_right And.right))
    obtain ⟨kept', same⟩ := kept_stored kept fits _ rfl
    by_cases sends : (decide (text = "") || !(s.sessions cid).st.connected || !queued) = true
    · rw [if_pos sends] at taken
      obtain rfl := Option.some.inj taken
      exact kept'
    · rw [if_neg sends] at taken
      obtain rfl := Option.some.inj taken
      simp only [Bool.or_eq_true, Bool.not_eq_true', decide_eq_true_eq, not_or] at sends
      obtain ⟨⟨written, connected⟩, queues⟩ := sends
      obtain ⟨tab, fits⟩ := ((met.resolve_left written).resolve_left connected).resolve_left queues
      refine { kept' with sends := List.forall_mem_append.mpr ⟨same ▸ kept.sends, ?_⟩ }
      exact List.forall_mem_singleton.mpr (wentWhereShown tab fits)

end Sessions

theorem kept_step {s t : ChatApp} {action : Action} (kept : ThreadsKept s)
    (met : keepsPartners s action = true) (taken : s.step action = some t) : ThreadsKept t := by
  cases action with
  | connect cid =>
    simp only [step, connect, Option.ite_none_left_eq_some, Option.some.injEq] at taken
    obtain ⟨-, rfl⟩ := taken
    have listed : ThreadsKept (s.setSession cid .new) :=
      kept_setSession kept (sessionKept_initial rfl)
    exact { listed with }
  | setNickname cid nickname queued =>
    obtain rfl := Option.some.inj taken
    simp only [setNickname]
    split
    · exact kept
    · exact kept_setState kept (kept.sessions cid).messages
  | connected cid serverUid ownClientId clients =>
    obtain rfl := Option.some.inj taken
    exact kept_handleConnected kept serverUid ownClientId clients
  | roster cid clients =>
    obtain rfl := Option.some.inj taken
    exact kept_setState kept (kept.sessions cid).messages
  | textMessage cid fromClient fromClientId targetMode message now ignored partner =>
    obtain rfl := Option.some.inj taken
    exact kept_handleTextMessage kept met
  | disconnected cid now =>
    obtain rfl := Option.some.inj taken
    exact kept_handleDisconnected kept now
  | fireSaveTimer cid now => exact kept_fireSaveTimer kept taken
  | loadHistory cid i now => exact kept_loadHistory kept taken
  | finishRestore cid i => exact kept_finishRestore kept met taken
  | loadHistoryPreferences enabled retention =>
    obtain rfl := Option.some.inj taken
    refine kept_sessions kept fun cid => ?_
    split
    · exact { kept.sessions cid with messages := (kept.sessions cid).messages }
    · exact kept.sessions cid
  | setChatHistoryEnabled enabled =>
    obtain rfl := Option.some.inj taken
    exact kept_setChatHistoryEnabled kept enabled
  | setChatRetention retention =>
    obtain rfl := Option.some.inj taken
    exact kept_setChatRetention kept retention
  | clearChatHistory =>
    obtain rfl := Option.some.inj taken
    exact kept_clearChatHistory kept
  | openPanel cid initialThread =>
    obtain rfl := Option.some.inj taken
    have shown : ThreadsKept (s.showThread cid (initialThread.getD .channel)) :=
      kept_showThread kept _
    exact { shown with }
  | selectThread key =>
    simp only [step, selectThread] at taken
    split at taken
    · cases taken
    split at taken
    · obtain rfl := Option.some.inj taken
      exact { kept_showThread kept key with }
    · cases taken
  | closePanel =>
    simp only [step, closePanel, Option.map_eq_some_iff] at taken
    obtain ⟨panel, -, rfl⟩ := taken
    have before := kept.sessions panel.connectionId
    have closed : SessionKept { s.sessions panel.connectionId with openThread := none } :=
      { before with messages := before.messages }
    have left : ThreadsKept (s.setSession panel.connectionId _) := kept_setSession kept closed
    exact { left with }
  | sendMessage text queued now partner => exact kept_sendMessage kept met taken

/-- In every run in which private messages fit the threads they join and the panel has a tab
for the selected thread, each thread is with one person and gets what is sent from it. -/
theorem conversations_stay_private {actions : List Action} {s : ChatApp}
    (run : Run step (fun t action => keepsPartners t action = true) .initial actions s) :
    StaysPrivate s := by
  have kept : ThreadsKept s := by
    refine run.invariant ThreadsKept ?_ fun _ _ _ inv met taken => kept_step inv met taken
    exact ⟨fun _ => sessionKept_initial rfl, fun _ => onePartner_nil, fun _ sends => nomatch sends⟩
  exact ⟨fun cid => (kept.sessions cid).messages, kept.sends⟩

/-- A private message, a disconnect and a new session that restores it. The user opens the
restored thread and answers; the server gives the answer to whoever has the id now. -/
def restoredHistory (holder : String) : List Action :=
  [.connect 1, .loadHistoryPreferences true .thirtyDays, .connected 1 "server" 5 [],
    .textMessage 1 "Anna" 7 1 "hello" 1000 false (some "anna"), .disconnected 1 2000,
    .connect 2, .loadHistoryPreferences true .thirtyDays, .connected 2 "server" 9 [],
    .loadHistory 2 0 3000, .finishRestore 2 0,
    .openPanel 2 none, .selectThread (.client 7), .sendMessage "hi" true 4000 (some holder)]

/-- Whom the private messages of a session were exchanged with. -/
def partnersOf (s : ChatApp) (cid : ConnectionId) : List (ChatThreadKey × Option String) :=
  (s.sessions cid).st.messages.map fun m => (m.threadKey, m.partner)

theorem conversations_stay_private_restored : ∃ s,
    Run step (fun t action => keepsPartners t action = true) .initial (restoredHistory "anna") s ∧
      partnersOf s 2 = [(.client 7, some "anna"), (.client 7, some "anna")] ∧
      s.sent.length = 1 ∧ StaysPrivate s := by
  obtain ⟨s, run, test⟩ := reaches_of_guarded keepsPartners
    (show (exec (guarded keepsPartners step) .initial (restoredHistory "anna")).any
      (fun s => partnersOf s 2 == [(.client 7, some "anna"), (.client 7, some "anna")] &&
        s.sent.length == 1) = true by decide +kernel)
  simp only [Bool.and_eq_true, beq_iff_eq] at test
  exact ⟨s, run, test.1, test.2, conversations_stay_private run⟩

/-- Another person has the id in the new session, and the answer to the first goes to him. -/
theorem answer_reaches_another : ¬ ∀ (actions : List Action) (s : ChatApp),
    Run step anyStep .initial actions s → StaysPrivate s := by
  intro separate
  obtain ⟨s, run, answered⟩ := reaches_of_exec anyStep (fun _ _ _ => trivial)
    (show (exec step .initial (restoredHistory "berta")).any (fun s => s.sent.any fun x =>
      x.partner == some "berta" && x.shown.messages.any (·.partner == some "anna")) = true
      by decide +kernel)
  simp only [List.any_eq_true, Bool.and_eq_true, beq_iff_eq] at answered
  obtain ⟨x, sends, toBerta, m, listed, fromAnna⟩ := answered
  have same := ((separate _ s run).sends x sends).2 m listed "anna" "berta" fromAnna toBerta
  exact absurd same (by decide)

end Nek0.Guarantees
