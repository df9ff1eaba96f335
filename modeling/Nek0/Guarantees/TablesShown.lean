import Mathlib.Data.List.Sort
import Nek0.Library.KeyedTable
import Nek0.Library.Run
import Nek0.Source.BanTables

/-!
# Whether the tables shown are the server's

A reply comes as one event an entry, and nothing says where it begins. What the app has of an
earlier reply stays unless an entry with the same id replaces it, and a complaint always stays.
-/

namespace Nek0.Guarantees

open Nek0.Library Nek0.Source.BanTables

/-- A ban as the app shows it. -/
def entry (item : InBanListPart) : ServerBan :=
  ⟨item.banId.toNat, item.ip, item.name, item.uid, item.lastNickname, max item.created 0,
    max item.duration 0, item.invokerName⟩

def complaint (item : InComplainListPart) : ServerComplain :=
  ⟨toInt item.targetClientDbId, item.targetName, toInt item.fromClientDbId, item.fromName,
    item.message, max item.timestamp 0⟩

/-- The session after the events that wait. -/
def afterEvents (sorted : ListSort byBanId) (s : Tables) : TsConnectionState :=
  s.events.foldl (TsConnectionState.handleEvent sorted) s.session

/-- After the events that wait, the tables hold the entries of the last replies, each once. -/
structure TablesShown (sorted : ListSort byBanId) (s : Tables) : Prop where
  bans : ∀ reply, s.banReply = some reply → (afterEvents sorted s).bans.Perm (reply.map entry)
  complains : ∀ reply, s.complainReply = some reply →
    (afterEvents sorted s).complains.Perm (reply.map complaint)

/-- A reply has an entry for every ban that is shown or on its way, and comes while no complaint
is. The user deletes no ban while the rest of the reply is on its way, unless it is part of the
rest or not shown. -/
def keepsTables (s : Tables) : Action → Bool
  | .answerBans => (s.session.bans ++ s.comingBans).all fun ban =>
      s.bans.any fun item => item.banId.toNat = ban.banId
  | .answerComplains => s.session.complains ++ s.comingComplains = []
  | .banDelete banId =>
    !s.session.connected || s.banReply = none || s.comingBans = [] ||
      s.comingBans.any (·.banId = banId) || s.session.bans.all (·.banId ≠ banId)
  | _ => true

variable {sorted : ListSort byBanId} {s t : Tables}

section Handled

@[simp] theorem ban?_event (item : InBanListPart) : item.event.ban? = some (entry item) := by
  simp [InBanListPart.event, TsEvent.ban?, entry]

@[simp] theorem complain?_event (item : InBanListPart) : item.event.complain? = none := rfl

@[simp] theorem ban?_complaint_event (item : InComplainListPart) : item.event.ban? = none := rfl

@[simp] theorem complain?_complaint_event (item : InComplainListPart) :
    item.event.complain? = some (complaint item) := by
  simp [InComplainListPart.event, TsEvent.complain?, complaint]

theorem puts_putBan : KeyedTable.Puts ServerBan.banId (TsConnectionState.putBan sorted) :=
  fun _ _ => sorted.perm _

theorem bans_handleEvents (events : List TsEvent) (st : TsConnectionState) :
    (events.foldl (TsConnectionState.handleEvent sorted) st).bans =
      (events.filterMap TsEvent.ban?).foldl (TsConnectionState.putBan sorted) st.bans := by
  induction events generalizing st with
  | nil => rfl
  | cons event events ih =>
    rw [List.foldl_cons, ih]
    cases event <;> rfl

theorem complains_handleEvents (events : List TsEvent) (st : TsConnectionState) :
    (events.foldl (TsConnectionState.handleEvent sorted) st).complains =
      st.complains ++ events.filterMap TsEvent.complain? := by
  induction events generalizing st with
  | nil => simp
  | cons event events ih =>
    rw [List.foldl_cons, ih, List.filterMap_cons]
    cases event <;> simp [TsConnectionState.handleEvent, TsEvent.ban?, TsEvent.complain?]

theorem bans_afterEvents (s : Tables) :
    (afterEvents sorted s).bans =
      s.comingBans.foldl (TsConnectionState.putBan sorted) s.session.bans :=
  bans_handleEvents s.events s.session

theorem complains_afterEvents (s : Tables) :
    (afterEvents sorted s).complains = s.session.complains ++ s.comingComplains :=
  complains_handleEvents s.events s.session

/-- An answer comes after everything that waits. -/
theorem afterEvents_answer {answer : List TsEvent} (events : t.events = s.events ++ answer)
    (session : t.session = s.session) :
    afterEvents sorted t =
      answer.foldl (TsConnectionState.handleEvent sorted) (afterEvents sorted s) := by
  rw [afterEvents, events, session, List.foldl_append]
  rfl

theorem afterEvents_answer_bans (sorted : ListSort byBanId) (items : List InBanListPart)
    (events : t.events = s.events ++ items.map InBanListPart.event)
    (session : t.session = s.session) :
    (afterEvents sorted t).bans =
        (items.map entry).foldl (TsConnectionState.putBan sorted) (afterEvents sorted s).bans ∧
      (afterEvents sorted t).complains = (afterEvents sorted s).complains := by
  rw [afterEvents_answer events session, bans_handleEvents, complains_handleEvents]
  simp [List.filterMap_map, Function.comp_def]

theorem afterEvents_answer_complains (sorted : ListSort byBanId) (items : List InComplainListPart)
    (events : t.events = s.events ++ items.map InComplainListPart.event)
    (session : t.session = s.session) :
    (afterEvents sorted t).bans = (afterEvents sorted s).bans ∧
      (afterEvents sorted t).complains =
        (afterEvents sorted s).complains ++ items.map complaint := by
  rw [afterEvents_answer events session, bans_handleEvents, complains_handleEvents]
  simp [List.filterMap_map, Function.comp_def]

/-- The ids in the table once the events that wait have been handled. -/
theorem exists_ban_afterEvents (banId : Int) :
    (∃ ban ∈ (afterEvents sorted s).bans, ban.banId = banId) ↔
      ∃ ban ∈ s.session.bans ++ s.comingBans, ban.banId = banId := by
  rw [afterEvents, bans_handleEvents, puts_putBan.exists_key_foldl]
  simp [Tables.comingBans, or_and_right, exists_or]


end Handled

/-- The server gives no id twice. -/
def DistinctBans (s : Tables) : Prop := (s.bans.map (·.banId)).Nodup

theorem nodup_entries (distinct : DistinctBans s) :
    ((s.bans.map entry).map ServerBan.banId).Nodup := by
  have injective : Function.Injective fun id : UInt32 => (id.toNat : Int) :=
    fun _ _ same => UInt32.toNat_inj.mp (Int.ofNat_inj.mp same)
  have mapped := distinct.map injective
  rwa [List.map_map] at mapped ⊢

theorem distinctBans_step {action : Action} (distinct : DistinctBans s)
    (taken : s.step sorted action = some t) : DistinctBans t := by
  cases action with
  | ban item =>
    simp only [Tables.step, Tables.ban, Option.ite_none_right_eq_some, Option.some.injEq] at taken
    obtain ⟨fresh, rfl⟩ := taken
    unfold DistinctBans at distinct ⊢
    rw [List.map_append, List.nodup_append]
    refine ⟨distinct, by simp, ?_⟩
    simpa [List.mem_map] using fresh
  | unban banId =>
    obtain rfl := Option.some.inj taken
    exact distinct.sublist (List.filter_sublist.map _)
  | listBans =>
    obtain rfl := Option.some.inj taken
    unfold Tables.listBans
    split <;> exact distinct
  | handleEvent =>
    simp only [Tables.step, Tables.handleEvent] at taken
    split at taken
    · obtain rfl := Option.some.inj taken
      exact distinct
    · cases taken
  | banDelete | complain | withdraw =>
    obtain rfl := Option.some.inj taken
    exact distinct
  | connect | answerBans | answerComplains =>
    simp only [Tables.step, Tables.connect, Tables.answerBans, Tables.answerComplains,
      Option.ite_none_left_eq_some, Option.some.injEq] at taken
    obtain ⟨-, rfl⟩ := taken
    exact distinct
  | disconnect | dropRequest =>
    simp only [Tables.step, Tables.disconnect, Tables.dropRequest,
      Option.ite_none_right_eq_some, Option.some.injEq] at taken
    obtain ⟨-, rfl⟩ := taken
    exact distinct

section Shown

/-- Nothing that counts has changed. -/
theorem tablesShown_of_same (shown : TablesShown sorted s)
    (same : afterEvents sorted t = afterEvents sorted s) (bans : t.banReply = s.banReply)
    (complains : t.complainReply = s.complainReply) : TablesShown sorted t := by
  constructor
  · rw [same, bans]
    exact shown.bans
  · rw [same, complains]
    exact shown.complains

theorem shown_answerBans_iff (distinct : DistinctBans s) (shown : TablesShown sorted s)
    (taken : s.answerBans = some t) :
    TablesShown sorted t ↔ keepsTables s .answerBans = true := by
  simp only [Tables.answerBans, Option.ite_none_left_eq_some, Option.some.injEq] at taken
  obtain ⟨-, after⟩ := taken
  have events : t.events = s.events ++ s.bans.map InBanListPart.event := by rw [← after]
  have answer : t.banReply = some s.bans := by rw [← after]
  have unasked : t.complainReply = s.complainReply := by rw [← after]
  obtain ⟨bans, complains⟩ :=
    afterEvents_answer_bans sorted s.bans events (by rw [← after])
  have shownIff : TablesShown sorted t ↔
      (afterEvents sorted t).bans.Perm (s.bans.map entry) := by
    constructor
    · intro right
      exact right.bans s.bans answer
    · intro all
      refine ⟨fun reply last => ?_, ?_⟩
      · obtain rfl := Option.some.inj (answer.symm.trans last)
        exact all
      · rw [complains, unasked]
        exact shown.complains
  rw [shownIff, bans, puts_putBan.foldl_perm_self_iff (nodup_entries distinct)]
  have replaced (banId : Int) : banId ∈ (s.bans.map entry).map ServerBan.banId ↔
      s.bans.any (fun item => item.banId.toNat = banId) = true := by
    simp [entry]
  simp only [keepsTables, List.all_eq_true, replaced]
  constructor
  · intro all ban there
    obtain ⟨same, listed, own⟩ := (exists_ban_afterEvents ban.banId).mpr ⟨ban, there, rfl⟩
    exact own ▸ all same listed
  · intro all ban there
    obtain ⟨same, listed, own⟩ := (exists_ban_afterEvents ban.banId).mp ⟨ban, there, rfl⟩
    exact own ▸ all same listed

theorem shown_answerComplains_iff (shown : TablesShown sorted s)
    (taken : s.answerComplains = some t) :
    TablesShown sorted t ↔ keepsTables s .answerComplains = true := by
  simp only [Tables.answerComplains, Option.ite_none_left_eq_some, Option.some.injEq] at taken
  obtain ⟨-, after⟩ := taken
  have events : t.events = s.events ++ s.complaints.map InComplainListPart.event := by rw [← after]
  have answer : t.complainReply = some s.complaints := by rw [← after]
  have unasked : t.banReply = s.banReply := by rw [← after]
  obtain ⟨bans, complains⟩ :=
    afterEvents_answer_complains sorted s.complaints events (by rw [← after])
  rw [complains_afterEvents s] at complains
  have nothing : keepsTables s .answerComplains = true ↔
      s.session.complains ++ s.comingComplains = [] := by simp [keepsTables]
  rw [nothing]
  constructor
  · intro right
    have length := (right.complains s.complaints answer).length_eq
    rw [complains, List.length_append, List.length_map] at length
    exact List.length_eq_zero_iff.mp (by omega)
  · intro none_before
    refine ⟨?_, fun reply last => ?_⟩
    · rw [bans, unasked]
      exact shown.bans
    · obtain rfl := Option.some.inj (answer.symm.trans last)
      rw [complains, none_before, List.nil_append]

theorem shown_banDelete_iff (shown : TablesShown sorted s) (banId : Int) :
    TablesShown sorted (s.banDelete banId) ↔ keepsTables s (.banDelete banId) = true := by
  have complains : ∀ reply, s.complainReply = some reply →
      (afterEvents sorted (s.banDelete banId)).complains.Perm (reply.map complaint) := by
    have same : (afterEvents sorted (s.banDelete banId)).complains =
        (afterEvents sorted s).complains := by
      rw [complains_afterEvents, complains_afterEvents]
      unfold Tables.banDelete TsConnectionState.banDelete
      dsimp only
      split <;> rfl
    rw [same]
    exact shown.complains
  unfold keepsTables
  cases connected : s.session.connected with
  | false =>
    refine iff_of_true ⟨?_, complains⟩ (by simp)
    have same : (afterEvents sorted (s.banDelete banId)).bans = (afterEvents sorted s).bans := by
      simp [afterEvents, Tables.banDelete, TsConnectionState.banDelete, connected]
    have reply : (s.banDelete banId).banReply = s.banReply := by
      simp [Tables.banDelete, connected]
    rw [same, reply]
    exact shown.bans
  | true =>
    have deleted : (afterEvents sorted (s.banDelete banId)).bans =
        s.comingBans.foldl (TsConnectionState.putBan sorted)
          (KeyedTable.delete ServerBan.banId s.session.bans banId) := by
      rw [bans_afterEvents]
      simp [Tables.banDelete, TsConnectionState.banDelete, connected, Tables.comingBans,
        KeyedTable.delete]
    by_cases rest : s.comingBans = []
    · have reply : (s.banDelete banId).banReply = none := by
        simp [Tables.banDelete, connected, rest]
      refine iff_of_true ⟨fun _ there => ?_, complains⟩ (by simp [rest])
      rw [reply] at there
      cases there
    · have reply : (s.banDelete banId).banReply = s.banReply := by
        simp [Tables.banDelete, rest]
      cases last : s.banReply with
      | none =>
        refine iff_of_true ⟨fun _ there => ?_, complains⟩ (by simp)
        rw [reply, last] at there
        cases there
      | some answer =>
        have before := shown.bans answer last
        rw [bans_afterEvents] at before
        have exact := puts_putBan.foldl_delete_iff (k := banId) before
        rw [← deleted] at exact
        have shownIff : TablesShown sorted (s.banDelete banId) ↔
            (afterEvents sorted (s.banDelete banId)).bans.Perm (answer.map entry) := by
          constructor
          · exact fun right => right.bans answer (reply.trans last)
          · refine fun all => ⟨fun other there => ?_, complains⟩
            rw [reply, last] at there
            obtain rfl := Option.some.inj there
            exact all
        rw [shownIff, exact]
        simp [rest]

theorem shown_step_iff {action : Action} (distinct : DistinctBans s)
    (shown : TablesShown sorted s) (taken : s.step sorted action = some t) :
    TablesShown sorted t ↔ keepsTables s action = true := by
  cases action with
  | answerBans => exact shown_answerBans_iff distinct shown taken
  | answerComplains => exact shown_answerComplains_iff shown taken
  | banDelete banId =>
    obtain rfl := Option.some.inj taken
    exact shown_banDelete_iff shown banId
  | disconnect =>
    simp only [Tables.step, Tables.disconnect, Option.ite_none_right_eq_some,
      Option.some.injEq] at taken
    obtain ⟨-, rfl⟩ := taken
    refine iff_of_true ⟨?_, ?_⟩ rfl
    · intro reply absent
      cases absent
    · intro reply absent
      cases absent
  | handleEvent =>
    simp only [Tables.step, Tables.handleEvent] at taken
    split at taken
    next event events waits =>
      obtain rfl := Option.some.inj taken
      refine iff_of_true (tablesShown_of_same shown ?_ rfl rfl) rfl
      rw [afterEvents, afterEvents, waits]
      rfl
    · cases taken
  | connect =>
    simp only [Tables.step, Tables.connect, Option.ite_none_left_eq_some,
      Option.some.injEq] at taken
    obtain ⟨-, rfl⟩ := taken
    refine iff_of_true ⟨?_, ?_⟩ rfl
    · rw [bans_afterEvents]
      have before := shown.bans
      rwa [bans_afterEvents] at before
    · rw [complains_afterEvents]
      have before := shown.complains
      rwa [complains_afterEvents] at before
  | listBans =>
    obtain rfl := Option.some.inj taken
    unfold Tables.listBans
    split <;> exact iff_of_true (tablesShown_of_same shown rfl rfl rfl) rfl
  | dropRequest | ban =>
    simp only [Tables.step, Tables.dropRequest, Tables.ban, Option.ite_none_right_eq_some,
      Option.some.injEq] at taken
    obtain ⟨-, rfl⟩ := taken
    exact iff_of_true (tablesShown_of_same shown rfl rfl rfl) rfl
  | unban | complain | withdraw =>
    obtain rfl := Option.some.inj taken
    exact iff_of_true (tablesShown_of_same shown rfl rfl rfl) rfl

end Shown

/-- In every state of a run the tables are, once the events that wait have been handled, those of
the last replies if and only if every reply had entries for all bans that the app still had, came
while it had no complaint, and no deletion cut a reply short. -/
theorem tables_shown_iff (sorted : ListSort byBanId) (actions : List Action) (s : Tables)
    (run : Run (Tables.step sorted) anyStep .start actions s) :
    (∀ past t, past <+: actions → Run (Tables.step sorted) anyStep .start past t →
      TablesShown sorted t) ↔
    Run (Tables.step sorted) (fun t action => keepsTables t action = true) .start actions s := by
  refine run.always_iff DistinctBans List.nodup_nil ⟨nofun, nofun⟩ ?_ ?_
  · exact fun _ _ _ distinct taken => distinctBans_step distinct taken
  · exact fun _ _ _ distinct shown taken => shown_step_iff distinct shown taken

def byInsertion : ListSort byBanId where
  sort := List.insertionSort fun a b => byBanId.compare a b ≤ 0
  perm l := List.perm_insertionSort _ l
  ordered l := by
    have : Std.Total fun a b => byBanId.compare a b ≤ 0 := ⟨byBanId.total⟩
    have : IsTrans ServerBan fun a b => byBanId.compare a b ≤ 0 := ⟨byBanId.trans⟩
    exact List.pairwise_insertionSort _ l

def banned (banId : UInt32) (nickname : String) : InBanListPart :=
  ⟨banId, "", "", "", nickname, 1700000000, 0, "anna"⟩

/-- Bert is banned, the table is asked for, `between` happens, and it is asked for again. -/
def askTwice (between : List Action) : List Action :=
  [.connect, .ban (banned 4 "bert"), .listBans, .answerBans, .handleEvent] ++ between ++
    [.listBans, .answerBans]

theorem added_ban_shown : ∃ s,
    Run (Tables.step byInsertion) anyStep .start
      (askTwice [.ban (banned 3 "carl")] ++ [.handleEvent, .handleEvent]) s ∧
    s.session.bans.map (·.banId) = [3, 4] ∧ TablesShown byInsertion s := by
  obtain ⟨s, run, shown⟩ := reaches_of_guarded keepsTables (show
    (exec (guarded keepsTables (Tables.step byInsertion)) .start
      (askTwice [.ban (banned 3 "carl")] ++ [.handleEvent, .handleEvent])).any (fun s =>
        s.session.bans.map (·.banId) == [3, 4]) = true by decide +kernel)
  have plain : Run (Tables.step byInsertion) anyStep .start
      (askTwice [.ban (banned 3 "carl")] ++ [.handleEvent, .handleEvent]) s :=
    run.weaken fun _ _ _ => trivial
  have always := (tables_shown_iff byInsertion _ s plain).mpr run
  exact ⟨s, plain, beq_iff_eq.mp shown, always _ s List.prefix_rfl plain⟩

/-- The ban is deleted on the server, and the empty reply leaves it in the table. -/
theorem deleted_ban_shown : ∃ s,
    Run (Tables.step byInsertion) anyStep .start (askTwice [.unban 4]) s ∧
    s.events = [] ∧ s.banReply = some [] ∧ s.session.bans.map (·.banId) = [4] ∧
    ¬TablesShown byInsertion s := by
  obtain ⟨s, run, shown⟩ := reaches_of_exec anyStep (fun _ _ _ => trivial) (show
    (exec (Tables.step byInsertion) .start (askTwice [.unban 4])).any (fun s =>
      s.events = [] ∧ s.banReply = some [] ∧ s.session.bans.map (·.banId) = [4]) = true by
    decide +kernel)
  obtain ⟨events, reply, bans⟩ := of_decide_eq_true shown
  refine ⟨s, run, events, reply, bans, fun right => ?_⟩
  have nothing := right.bans [] reply
  rw [afterEvents, events, List.foldl_nil, List.map_nil, List.perm_nil] at nothing
  simp [nothing] at bans

end Nek0.Guarantees
