import Nek0.Guarantees.OrderlySessions
import Nek0.Library.Run
import Nek0.Source.Nicknames

/-!
# Which messages are highlighted

A session knows the nickname of its user only from the rename that it asked for last. Messages are
highlighted right, and own messages carry the right author, wherever the server has accepted that
rename or the difference does not show in the message.
-/

namespace Nek0.Guarantees

open Nek0.Library Nek0.Source.Nicknames

/-- The text contains the nickname, whatever the case of its letters. -/
def names (text : DartText) (message nickname : String) : Bool :=
  contains (text.toLowerCase message) (text.toLowerCase nickname)

/-- An incoming message is highlighted if it names the user, and an outgoing one is by him. -/
def Attributed (text : DartText) (stored : Stored) : Prop :=
  if stored.incoming then
    stored.message.highlighted = true ↔
      stored.message.message ≠ "" ∧ names text stored.message.message stored.borne = true
  else stored.message.fromClient = stored.borne

def MentionsHighlighted (text : DartText) (s : App) : Prop :=
  ∀ stored ∈ s.stored, Attributed text stored

/-- The server has accepted the last rename of this session. -/
def Settled (user : OnServer) : Prop := user.renames = [] ∧ user.accepted = true

/-- The text names the user under both nicknames or under neither; a session that has asked for
no rename has none. -/
def Unmistakable (text : DartText) (message known borne : String) : Prop :=
  message = "" ∨ (known ≠ "" ∧ names text message known = true ↔ names text message borne = true)

instance (user : OnServer) : Decidable (Settled user) := inferInstanceAs (Decidable (_ ∧ _))

instance (text : DartText) (message known borne : String) :
    Decidable (Unmistakable text message known borne) := inferInstanceAs (Decidable (_ ∨ _))

/-- A message is stored where the session knows the nickname, or where it makes no difference. -/
def knowsNickname (text : DartText) (s : App) : Action → Bool
  | .textMessage cid m =>
    (s.servers cid).all fun user => App.isIgnored m || Settled user ||
      Unmistakable text m.message (s.sessions cid).nickname user.nickname
  | .sendPrivateMessage cid _ message queued _ =>
    (s.servers cid).all fun user => !(s.sessions cid).connected || message = "" || !queued ||
      Settled user || (s.sessions cid).nickname = user.nickname
  | _ => true

/-- The nickname of a session is that of its last rename. -/
structure Knows (known : String) (user : OnServer) : Prop where
  pending : user.renames ≠ [] → user.renames.getLast? = some known
  settled : Settled user → known = user.nickname
  renamed : user.renames ≠ [] ∨ user.accepted = true → known ≠ ""

def Known (s : App) : Prop :=
  ∀ cid user, s.servers cid = some user → Knows (s.sessions cid).nickname user

variable {text : DartText} {s t : App} {cid : Nat}

section Known

theorem known_start : Known .start := nofun

theorem known_record (known : Known s) (stored : List Stored) : Known (s.record stored) := known

/-- A session and its user are changed together. -/
theorem known_change (known : Known s) {st : TsConnectionState} {user : Option OnServer}
    (own : ∀ on ∈ user, Knows st.nickname on) :
    Known ((s.setServer cid user).setSession cid st) := by
  intro other on there
  by_cases same : other = cid
  · subst same
    simp only [App.setSession, App.setServer, Function.update_self] at there ⊢
    exact own on there
  · simp only [App.setSession, App.setServer, Function.update_of_ne same] at there ⊢
    exact known other on there

/-- Everything of a session is changed but the nickname. -/
theorem known_setSession (known : Known s) {st : TsConnectionState}
    (same : st.nickname = (s.sessions cid).nickname) : Known (s.setSession cid st) := by
  have own : ∀ on ∈ s.servers cid, Knows st.nickname on :=
    fun on there => same ▸ known cid on there
  have changed : Known ((s.setServer cid (s.servers cid)).setSession cid st) :=
    known_change known own
  simpa [App.setServer] using changed

theorem known_setServer (known : Known s) {user : Option OnServer}
    (own : ∀ on ∈ user, Knows (s.sessions cid).nickname on) : Known (s.setServer cid user) := by
  have changed : Known ((s.setServer cid user).setSession cid (s.sessions cid)) :=
    known_change known own
  simpa [App.setSession, App.setServer] using changed

theorem known_connect (known : Known s) (nickname : String) : Known (s.connect nickname) :=
  known_setSession (s := { s with next := s.next + 1, requests := _ }) known rfl

theorem known_connected {granted : String} {ownClientId : Int} {clients : List TsClient}
    (known : Known s) (taken : s.connected cid granted ownClientId clients = some t) :
    Known t := by
  simp only [App.connected, Option.ite_none_right_eq_some, Option.some.injEq] at taken
  obtain ⟨-, rfl⟩ := taken
  refine known_change known ?_
  rintro _ ⟨⟩
  exact ⟨nofun, nofun, nofun⟩

theorem known_setNickname (known : Known s) (nickname : String) (room : Bool) :
    Known (s.setNickname text cid nickname room) := by
  unfold App.setNickname
  dsimp only
  split
  · exact known
  · split
    · exact known_setSession known rfl
    next accepted =>
      refine known_change known fun on there => ?_
      obtain ⟨user, -, rfl⟩ := Option.map_eq_some_iff.mp there
      have long : text.trim nickname ≠ "" := by
        intro empty
        simp [App.nativeSetNickname, empty, NICKNAME_MIN] at accepted
      exact ⟨fun _ => by simp, fun ⟨nothing, _⟩ => by simp at nothing, fun _ => long⟩

theorem known_answerRename {accepts : Bool} {refusal : String} (known : Known s)
    (taken : s.answerRename cid accepts refusal = some t) : Known t := by
  unfold App.answerRename at taken
  split at taken
  next nickname renamed renames accepted there =>
    have before := known cid _ there
    have own : Knows (s.sessions cid).nickname
        ⟨if accepts then renamed else nickname, renames, accepts⟩ := by
      have last := before.pending (by simp)
      refine ⟨fun left => ?_, ?_, fun _ => before.renamed (.inl (by simp))⟩
      · rw [← last]
        exact (List.getLast?_cons_of_ne_nil left).symm
      · rintro ⟨rfl, rfl⟩
        exact (Option.some.inj last).symm
    have changed : Known (s.setServer cid
        (some ⟨if accepts then renamed else nickname, renames, accepts⟩)) := by
      refine known_setServer known ?_
      rintro _ ⟨⟩
      exact own
    obtain rfl := Option.some.inj taken
    cases accepts with
    | true => exact changed
    | false => exact known_setSession changed rfl
  · cases taken

theorem known_step {action : Action} (known : Known s) (taken : s.step text action = some t) :
    Known t := by
  cases action with
  | connect nickname =>
    obtain rfl := Option.some.inj taken
    exact known_connect known nickname
  | reconnect cid =>
    obtain rfl := Option.some.inj taken
    exact known_connect known _
  | connected cid granted ownClientId clients => exact known_connected known taken
  | textMessage cid m =>
    obtain ⟨user, -, rfl⟩ := Option.map_eq_some_iff.mp taken
    split
    · exact known
    · exact known_setSession (known_record known _) rfl
  | setNickname cid nickname room =>
    obtain rfl := Option.some.inj taken
    exact known_setNickname known nickname room
  | answerRename cid accepts refusal => exact known_answerRename known taken
  | sendPrivateMessage cid clientId message queued now =>
    obtain rfl := Option.some.inj taken
    unfold App.sendPrivateMessage
    dsimp only
    split
    · exact known
    · split
      · exact known_setSession known rfl
      · exact known_setSession (known_record known _) rfl
  | disconnect cid =>
    obtain rfl := Option.some.inj taken
    exact known_setSession known rfl
  | disconnected cid expected reason =>
    obtain rfl := Option.some.inj taken
    unfold App.disconnected
    dsimp only
    split
    · exact known_setServer known nofun
    · exact known_change known nofun

end Known

section Stored

/-- What a step stores, under a condition on the step for it to be attributed right. -/
def Stores (text : DartText) (s t : App) (right : Prop) : Prop :=
  ∃ new, t.stored = s.stored ++ new ∧ ((∀ stored ∈ new, Attributed text stored) ↔ right)

theorem stores_nothing {right : Prop} (same : t.stored = s.stored) (holds : right) :
    Stores text s t right :=
  ⟨[], by simpa using same, by simpa using holds⟩

theorem stores_one {right : Prop} {stored : Stored} (one : t.stored = s.stored ++ [stored])
    (iff : Attributed text stored ↔ right) : Stores text s t right :=
  ⟨[stored], one, by simpa using iff⟩

theorem attributed_storedMessage_iff {st : TsConnectionState} {m : TextMessage}
    {user : OnServer} (knows : Knows st.nickname user) :
    Attributed text ⟨App.storedMessage text st m, true, user.nickname⟩ ↔
      Settled user ∨ Unmistakable text m.message st.nickname user.nickname := by
  have compared : Attributed text ⟨App.storedMessage text st m, true, user.nickname⟩ ↔
      Unmistakable text m.message st.nickname user.nickname := by
    by_cases empty : m.message = ""
    · simp [Attributed, Unmistakable, App.storedMessage, App.mentions, empty]
    · simp [Attributed, Unmistakable, App.storedMessage, App.mentions, names, empty]
  refine compared.trans ⟨.inr, ?_⟩
  rintro (settled | unmistakable)
  · have named := knows.renamed (.inr settled.2)
    right
    rw [← knows.settled settled]
    simp [named]
  · exact unmistakable

theorem textMessage_stores {m : TextMessage} (known : Known s)
    (taken : s.textMessage text cid m = some t) :
    Stores text s t (knowsNickname text s (.textMessage cid m) = true) := by
  obtain ⟨user, there, rfl⟩ := Option.map_eq_some_iff.mp taken
  simp only [knowsNickname, there, Option.all_some, Bool.or_eq_true, decide_eq_true_eq, or_assoc]
  split
  next ignored => exact stores_nothing rfl (.inl ignored)
  next kept =>
    refine stores_one rfl ?_
    rw [attributed_storedMessage_iff (known cid user there)]
    simp [kept]

theorem sendPrivateMessage_stores {clientId : Int} {message : String} {queued : Bool}
    {now : Source.DateTime} (known : Known s) :
    Stores text s (s.sendPrivateMessage cid clientId message queued now)
      (knowsNickname text s (.sendPrivateMessage cid clientId message queued now) = true) := by
  unfold App.sendPrivateMessage knowsNickname
  dsimp only
  split
  next refused =>
    refine stores_nothing rfl ((Option.all_eq_true ..).mpr fun user _ => ?_)
    simp only [Bool.or_eq_true, or_assoc] at refused ⊢
    exact refused.imp_right .inl
  next sent =>
    split
    next full => exact stores_nothing rfl ((Option.all_eq_true ..).mpr fun user _ => by simp [full])
    next queued =>
      cases there : s.servers cid with
      | none => exact stores_nothing (by simp [App.record, App.setSession]) rfl
      | some user =>
        refine stores_one rfl ?_
        have knows := known cid user there
        simpa [sent, queued, Attributed] using knows.settled

theorem step_stores {action : Action} (known : Known s) (taken : s.step text action = some t) :
    Stores text s t (knowsNickname text s action = true) := by
  cases action with
  | textMessage cid m => exact textMessage_stores known taken
  | sendPrivateMessage cid clientId message queued now =>
    obtain rfl := Option.some.inj taken
    exact sendPrivateMessage_stores known
  | connected cid granted ownClientId clients =>
    simp only [App.step, App.connected, Option.ite_none_right_eq_some, Option.some.injEq] at taken
    obtain ⟨-, rfl⟩ := taken
    exact stores_nothing rfl rfl
  | setNickname cid nickname room =>
    obtain rfl := Option.some.inj taken
    refine stores_nothing ?_ rfl
    unfold App.setNickname
    dsimp only
    split
    · rfl
    · split <;> rfl
  | answerRename cid accepts refusal =>
    simp only [App.step, App.answerRename] at taken
    split at taken
    · obtain rfl := Option.some.inj taken
      exact stores_nothing (by cases accepts <;> rfl) rfl
    · cases taken
  | disconnected cid expected reason =>
    obtain rfl := Option.some.inj taken
    refine stores_nothing ?_ rfl
    unfold App.disconnected
    dsimp only
    split <;> rfl
  | connect | reconnect | disconnect =>
    obtain rfl := Option.some.inj taken
    exact stores_nothing rfl rfl

end Stored

/-- In a run every incoming message is highlighted exactly if it names the user by the nickname
that he has on the server, and every private message of his is filed under that nickname, if and
only if each of them came while the server had accepted the last rename of the session, or was one
for which the difference does not count. -/
theorem mentions_highlighted_iff (text : DartText) (actions : List Action) (s : App)
    (run : Run (App.step text) anyStep .start actions s) :
    MentionsHighlighted text s ↔
      Run (App.step text) (fun t action => knowsNickname text t action = true) .start actions
        s := by
  refine run.holds_iff Known known_start ?_ (fun _ _ _ known => known_step known) ?_
  · rintro stored ⟨⟩
  · intro t action u known taken
    obtain ⟨new, stored, right⟩ := step_stores known taken
    rw [MentionsHighlighted, stored, ← right, List.forall_mem_append]
    rfl

def plainText : DartText := ⟨fun text => String.ofList (text.toList.map Char.toLower), id⟩

def noon : Source.DateTime := ⟨1767355200000000, false, by decide⟩

/-- Anna connects and somebody writes to her. -/
def annaJoins (message : String) : List Action :=
  [.connect "Anna", .connected 1 "Anna" 7 [⟨7, "Anna"⟩, ⟨9, "bert"⟩],
    .textMessage 1 ⟨9, "bert", 2, message, none, noon⟩]

/-- She renames herself, the server accepts it, and she answers the next message. -/
def annaRenames (message : String) : List Action :=
  [.setNickname 1 "Anna2" true, .answerRename 1 true "",
    .textMessage 1 ⟨9, "bert", 2, message, none, noon⟩,
    .sendPrivateMessage 1 9 "yes?" true noon]

def attributions (s : App) : List (String × Bool) :=
  s.stored.map fun stored => (stored.message.fromClient, stored.message.highlighted)

theorem mention_after_rename : ∃ s,
    Run (App.step plainText) anyStep .start (annaJoins "hello" ++ annaRenames "hi ANNA2") s ∧
    attributions s = [("bert", false), ("bert", true), ("Anna2", false)] ∧
    MentionsHighlighted plainText s := by
  obtain ⟨s, run, shown⟩ := reaches_of_guarded (knowsNickname plainText) (show
    (exec (guarded (knowsNickname plainText) (App.step plainText)) .start
      (annaJoins "hello" ++ annaRenames "hi ANNA2")).any (fun s =>
        attributions s == [("bert", false), ("bert", true), ("Anna2", false)]) = true by
    decide +kernel)
  have plain : Run (App.step plainText) anyStep .start
      (annaJoins "hello" ++ annaRenames "hi ANNA2") s := run.weaken fun _ _ _ => trivial
  exact ⟨s, plain, beq_iff_eq.mp shown, (mentions_highlighted_iff plainText _ s plain).mpr run⟩

/-- Before her first rename nothing that names Anna is highlighted. -/
theorem mention_overlooked : ∃ s,
    Run (App.step plainText) anyStep .start (annaJoins "hi Anna") s ∧
    attributions s = [("bert", false)] ∧ ¬MentionsHighlighted plainText s := by
  obtain ⟨s, run, shown⟩ := reaches_of_exec anyStep (fun _ _ _ => trivial) (show
    (exec (App.step plainText) .start (annaJoins "hi Anna")).any (fun s =>
      attributions s == [("bert", false)] && s.stored.any fun stored =>
        stored.incoming && !stored.message.highlighted && stored.message.message ≠ "" &&
          names plainText stored.message.message stored.borne) = true by decide +kernel)
  simp only [Bool.and_eq_true, beq_iff_eq, List.any_eq_true, Bool.not_eq_true',
    decide_eq_true_eq] at shown
  obtain ⟨shown, stored, listed, ⟨⟨incoming, plain⟩, text⟩, named⟩ := shown
  refine ⟨s, run, shown, fun right => ?_⟩
  have highlighted := right stored listed
  rw [Attributed, if_pos incoming, plain] at highlighted
  exact absurd (highlighted.mpr ⟨text, named⟩) Bool.false_ne_true

/-- In a reachable state a session that is connected greets no more. -/
theorem once_of_tidy {sys sys' : Source.System} {a : Source.System.Action}
    {b : Source.Notifier.Action} (tidy : Tidy sys) (taken : sys.step a = some sys')
    (own : sys.atApp a = some b) : Once sys.app b := by
  intro cid data valid change
  obtain ⟨⟨env, rfl⟩, there⟩ := Source.Notifier.event_of_connected _ change
  cases a with
  | app action reported =>
    obtain rfl := Option.some.inj own
    cases taken
  | deliver polled =>
    obtain ⟨session, event, rest, queue, -⟩ := Source.System.step_deliver taken
    have same : session = cid ∧ event = .connected data := by
      simp only [Source.System.atApp, queue, List.head?_cons, Option.map_some, Option.some.injEq,
        Source.Notifier.Action.event.injEq] at own
      exact ⟨own.1, own.2.1⟩
    obtain ⟨rfl, rfl⟩ := same
    have present : (sys.app.rt.find session).isSome = true :=
      Option.isSome_iff_ne_none.mpr (there.resolve_left valid)
    obtain ⟨voice, continues, settled⟩ := tidy.heard session present
    obtain ⟨next, spoken, -⟩ := continues.pop queue
    cases connected : (sys.app.view session).connected with
    | false => rfl
    | true =>
      cases voice with
      | greeting => exact absurd rfl (settled connected).1
      | talking | silent => cases spoken
  | accept call => cases own
  | engine action => cases own

/-- Whatever the app and its engine do to the sessions is a run of these. -/
theorem sessions_of_system (text : DartText) {actions : List Source.System.Action}
    {sys : Source.System} (run : Run Source.System.step anyStep .start actions sys) :
    ∃ actions s, Run (App.step text) anyStep .start actions s ∧ Follows s sys.app := by
  obtain ⟨actions, s, reached, follows, -, -⟩ := run.simulate (App.step text) anyStep
    (fun sys s => Follows s sys.app ∧ s.next = sys.engine.nextConnectionId ∧ Tidy sys)
    ⟨follows_start, rfl, tidy_start⟩ fun sys a sys' s both _ taken => by
      obtain ⟨follows, next, tidy⟩ := both
      obtain ⟨actions, s', more, later, ids⟩ := follows_system text follows next
        (fun b own => once_of_tidy tidy taken own) taken
      exact ⟨actions, s', more, later, ids, tidy_step tidy taken⟩
  exact ⟨actions, s, reached, follows⟩

end Nek0.Guarantees
