import Mathlib.Data.List.Forall2
import Nek0.Library.Run
import Nek0.Source.PermissionHints

/-!
# Whose permission hints a roster shows

A hint is kept under the id of its client after he has left. The roster shows nobody the hints of
somebody else as long as no id is taken again under which a hint is kept or still on its way.
-/

namespace Nek0.Guarantees

open Nek0.Library Nek0.Source Nek0.Source.HintSession

/-- What is reported of a client is the flags of a hint about his visit, or nothing. -/
structure OfVisit (row : Row) (client : Roster.TsClient) : Prop where
  flags : client.permissionHints = (row.hint.map (·.flags)).getD 0
  visit : ∀ hint, row.hint = some hint →
    hint.clientId.toUInt32 = client.id ∧ hint.visit = row.visit

/-- The roster, and the one that the next event of the book makes. -/
structure HintsOfVisit (s : HintSession) : Prop where
  reported : ∀ now, List.Forall₂ OfVisit s.clients (s.tsGetClients now)
  next : ∀ book now, s.book = some book →
    ∀ row ∈ s.refreshFromBook book now, OfVisit row row.client

/-- A client comes into the book under an id under which no hint about another visit is kept, and
a hint is handled while nobody else in the book has its id. -/
def keepsHints (s : HintSession) : Action → Bool
  | .deliver =>
    match s.book, s.wire with
    | some _, .clientEnterView visitor :: _ =>
      (s.permissionHints visitor.client.id).all (·.visit = visitor.visit)
    | _, _ => true
  | .handleItem i _ =>
    match s.items[i]?, s.book with
    | some (.clientPermissionHints hints), some book =>
      hints.all fun hint => book.visitors.all fun visitor =>
        visitor.client.id ≠ hint.clientId || visitor.visit = hint.visit
    | _, _ => true
  | _ => true

/-- One message says about one id only what is about one visit. -/
def OneVisit (hints : List Hint) : Prop :=
  ∀ hint ∈ hints, ∀ other ∈ hints, hint.clientId = other.clientId → hint.visit = other.visit

/-- Hints that have not been handled. -/
def UnderWay (s : HintSession) (hints : List Hint) : Prop :=
  .clientPermissionHints hints ∈ s.wire ∨ .clientPermissionHints hints ∈ s.items

/-- Hints are kept under their ids, and the roster shows what was kept. -/
structure HintsKept (s : HintSession) : Prop where
  messages : ∀ hints, UnderWay s hints → OneVisit hints
  stored : ∀ id hint, s.permissionHints id = some hint → hint.clientId = id
  rows : ∀ row ∈ s.clients, row.client.permissionHints = (row.hint.map (·.flags)).getD 0 ∧
    ∀ hint, row.hint = some hint → hint.clientId.toUInt32 = row.client.id

/-- The hints that the roster shows are about the right visits. -/
def RowsRight (s : HintSession) : Prop :=
  ∀ row ∈ s.clients, ∀ hint, row.hint = some hint → hint.visit = row.visit

/-- The hints that are kept for the clients in the book are. -/
def BookRight (s : HintSession) : Prop :=
  ∀ book, s.book = some book → ∀ visitor ∈ book.visitors, ∀ hint,
    s.permissionHints visitor.client.id = some hint → hint.visit = visitor.visit

variable {s t : HintSession}

theorem hintsOfVisit_iff (kept : HintsKept s) :
    HintsOfVisit s ↔ RowsRight s ∧ BookRight s := by
  constructor
  · intro right
    constructor
    · intro row listed hint shown
      have reported := right.reported 0
      rw [tsGetClients, List.forall₂_map_right_iff, List.forall₂_same] at reported
      exact ((reported row listed).visit hint shown).2
    · intro book there visitor listed hint stored
      have next := right.next book 0 there _ (List.mem_map_of_mem listed)
      exact (next.visit hint stored).2
  · rintro ⟨rows, inBook⟩
    constructor
    · intro now
      rw [tsGetClients, List.forall₂_map_right_iff, List.forall₂_same]
      intro row listed
      obtain ⟨flags, own⟩ := kept.rows row listed
      exact ⟨flags, fun hint shown => ⟨own hint shown, rows row listed hint shown⟩⟩
    · rintro book now there row listed
      obtain ⟨visitor, entered, rfl⟩ := List.mem_map.mp listed
      refine ⟨rfl, fun hint stored => ⟨?_, inBook book there visitor entered hint stored⟩⟩
      exact congrArg UInt16.toUInt32 (kept.stored _ hint stored)

section Messages

/-- What the server says at once is about one visit for each id. -/
theorem oneVisit_hintAbout (about : List (UInt16 × UInt64)) :
    OneVisit (about.filterMap s.hintAbout) := by
  intro hint listed other listed' same
  obtain ⟨⟨id, flags⟩, -, found⟩ := List.mem_filterMap.mp listed
  obtain ⟨⟨id', flags'⟩, -, found'⟩ := List.mem_filterMap.mp listed'
  obtain ⟨visitor, there, rfl⟩ := Option.map_eq_some_iff.mp found
  obtain ⟨visitor', there', rfl⟩ := Option.map_eq_some_iff.mp found'
  obtain rfl : id = id' := same
  exact congrArg Visitor.visit (Option.some.inj (there.symm.trans there'))

theorem mem_send {message sent : HintSession.ServerMessage} (listed : message ∈ s.send sent) :
    message ∈ s.wire ∨ message = sent := by
  unfold send at listed
  split at listed
  · simpa using listed
  · exact .inl listed

/-- The hint that is kept under an id after a message: the last one of the message, or the one from
before. -/
theorem insertHints_spec (hints : List Hint) (id : UInt16) :
    (∃ hint ∈ hints, hint.clientId = id ∧ (s.insertHints hints).permissionHints id = some hint) ∨
      (∀ hint ∈ hints, hint.clientId ≠ id) ∧
        (s.insertHints hints).permissionHints id = s.permissionHints id := by
  unfold insertHints
  dsimp only
  generalize s.permissionHints = stored
  induction hints generalizing stored with
  | nil => exact .inr ⟨fun _ none => absurd none List.not_mem_nil, rfl⟩
  | cons first hints ih =>
    rw [List.foldl_cons]
    rcases ih (Function.update stored first.clientId (some first)) with
      ⟨hint, listed, same, last⟩ | ⟨others, last⟩
    · exact .inl ⟨hint, List.mem_cons_of_mem first listed, same, last⟩
    · by_cases same : first.clientId = id
      · subst same
        rw [Function.update_self] at last
        exact .inl ⟨first, List.mem_cons_self, rfl, last⟩
      · rw [Function.update_of_ne (Ne.symm same)] at last
        exact .inr ⟨List.forall_mem_cons.mpr ⟨same, others⟩, last⟩

/-- What the handling of an item can do. -/
theorem handleItem_cases {i now : Nat} (taken : s.handleItem i now = some t) :
    (∃ book, s.book = some book ∧ s.items[i]? = some .bookEvents ∧
      t = { s with items := s.items.eraseIdx i, clients := s.refreshFromBook book now }) ∨
    (∃ hints, s.items[i]? = some (.clientPermissionHints hints) ∧
      t = { s.insertHints hints with items := s.items.eraseIdx i }) ∨
    (∀ hints, s.items[i]? ≠ some (.clientPermissionHints hints)) ∧
      t = { s with items := s.items.eraseIdx i } := by
  obtain ⟨item, next, rfl⟩ := Option.map_eq_some_iff.mp taken
  cases item with
  | bookEvents =>
    cases there : s.book with
    | some book => exact .inl ⟨book, rfl, next, rfl⟩
    | none => exact .inr (.inr ⟨by simp [next], rfl⟩)
  | clientPermissionHints hints => exact .inr (.inl ⟨hints, next, rfl⟩)
  | other => exact .inr (.inr ⟨by simp [next], rfl⟩)

end Messages

/-- The visit of a client in a book was in the book before. -/
def WasInBook (s : HintSession) (visitor : Visitor) : Prop :=
  ∃ old, s.book = some old ∧
    ∃ same ∈ old.visitors, same.client.id = visitor.client.id ∧ same.visit = visitor.visit

/-- What happens outside of the engine: hints are sent and clients come into the book, but nothing
is kept or shown. -/
structure Outside (s : HintSession) (action : Action) (t : HintSession) : Prop where
  hints : t.permissionHints = s.permissionHints
  clients : t.clients = s.clients
  messages : ∀ hints, UnderWay t hints →
    UnderWay s hints ∨ ∃ about : List (UInt16 × UInt64), hints = about.filterMap s.hintAbout
  visitors : action ≠ .deliver → ∀ book, t.book = some book → ∀ visitor ∈ book.visitors,
    WasInBook s visitor

theorem wasInBook_of_same {book : HintSession.Book} (there : s.book = some book) {visitor : Visitor}
    (entered : visitor ∈ book.visitors) : WasInBook s visitor :=
  ⟨book, there, visitor, entered, rfl, rfl⟩

/-- Sending anything else puts no hint under way. -/
theorem underWay_of_send {message : HintSession.ServerMessage} {hints : List Hint}
    (underWay : UnderWay t hints) (wire : t.wire = s.send message) (items : t.items = s.items)
    (other : message ≠ .clientPermissionHints hints) : UnderWay s hints := by
  unfold UnderWay at underWay
  rw [wire, items] at underWay
  exact underWay.imp_left fun sent => (mem_send sent).resolve_right (Ne.symm other)

theorem outside_step {action : Action} (taken : s.step action = some t)
    (outside : ∀ i now, action ≠ .handleItem i now) : Outside s action t := by
  cases action with
  | enters client =>
    simp only [HintSession.step, enters, Option.ite_none_left_eq_some] at taken
    obtain rfl := Option.some.inj taken.2
    exact ⟨rfl, rfl, fun _ underWay => .inl (underWay_of_send underWay rfl rfl nofun),
      fun _ _ there _ => wasInBook_of_same there⟩
  | leaves id =>
    obtain rfl := Option.some.inj taken
    exact ⟨rfl, rfl, fun _ underWay => .inl (underWay_of_send underWay rfl rfl nofun),
      fun _ _ there _ => wasInBook_of_same there⟩
  | sendHints about =>
    obtain rfl := Option.some.inj taken
    refine ⟨rfl, rfl, fun hints underWay => ?_, fun _ _ there _ => wasInBook_of_same there⟩
    by_cases sent : hints = about.filterMap s.hintAbout
    · exact .inr ⟨about, sent⟩
    · refine .inl (underWay_of_send underWay rfl rfl fun same => sent ?_)
      exact (HintSession.ServerMessage.clientPermissionHints.inj same).symm
  | deliver =>
    simp only [HintSession.step, deliver] at taken
    split at taken
    next book message wire there next =>
      have messages : ∀ hints, UnderWay t hints → UnderWay s hints := by
        intro hints underWay
        cases message <;> obtain rfl := Option.some.inj taken <;>
          simpa [UnderWay, next, or_assoc, or_comm, or_left_comm] using underWay
      cases message <;> obtain rfl := Option.some.inj taken <;>
        exact ⟨rfl, rfl, fun hints underWay => .inl (messages hints underWay),
          fun other => absurd rfl other⟩
    · cases taken
  | changeBook changed =>
    simp only [HintSession.step, changeBook, Option.bind_eq_some_iff,
      Option.ite_none_right_eq_some] at taken
    obtain ⟨book, there, same, taken⟩ := taken
    obtain rfl := Option.some.inj taken
    refine ⟨rfl, rfl, fun hints underWay => .inl (by simpa [UnderWay] using underWay), ?_⟩
    rintro - _ ⟨⟩ visitor entered
    have listed := List.mem_map_of_mem
      (f := fun visitor : Visitor => (visitor.client.id, visitor.visit)) entered
    rw [same] at listed
    obtain ⟨old, before, equal⟩ := List.mem_map.mp listed
    exact ⟨book, there, old, before, (Prod.mk.inj equal).1, (Prod.mk.inj equal).2⟩
  | receiveOther =>
    obtain rfl := Option.some.inj taken
    exact ⟨rfl, rfl, fun _ underWay => .inl (by simpa [UnderWay, receiveOther] using underWay),
      fun _ _ there _ => wasInBook_of_same there⟩
  | loseConnection =>
    obtain ⟨book, -, rfl⟩ := Option.map_eq_some_iff.mp taken
    refine ⟨rfl, rfl, fun _ underWay => .inl (.inr (by simpa [UnderWay] using underWay)), ?_⟩
    rintro - _ ⟨⟩
  | connects own serverGroups channelGroups =>
    simp only [HintSession.step, connects, Option.ite_none_left_eq_some] at taken
    obtain rfl := Option.some.inj taken.2
    refine ⟨rfl, rfl, fun _ underWay => .inl (.inr (by simpa [UnderWay] using underWay)), ?_⟩
    rintro - _ ⟨⟩ visitor ⟨⟩
  | handleItem i now => exact absurd rfl (outside i now)
  | hears | beginTurn =>
    obtain rfl := Option.some.inj taken
    exact ⟨rfl, rfl, fun _ => .inl, fun _ _ there _ => wasInBook_of_same there⟩

theorem hintsKept_step {action : Action} (kept : HintsKept s)
    (taken : s.step action = some t) : HintsKept t := by
  by_cases outside : ∀ i now, action ≠ .handleItem i now
  · obtain ⟨hints, clients, messages, -⟩ := outside_step taken outside
    refine ⟨fun hints underWay => ?_, ?_, ?_⟩
    · rcases messages hints underWay with underWay | ⟨about, rfl⟩
      · exact kept.messages hints underWay
      · exact oneVisit_hintAbout about
    · rw [hints]
      exact kept.stored
    · rw [clients]
      exact kept.rows
  · push Not at outside
    obtain ⟨i, now, rfl⟩ := outside
    have fewer : ∀ hints, .clientPermissionHints hints ∈ s.wire ∨
        .clientPermissionHints hints ∈ s.items.eraseIdx i → OneVisit hints :=
      fun hints left => kept.messages hints (left.imp_right List.mem_of_mem_eraseIdx)
    rcases handleItem_cases taken with ⟨book, -, -, rfl⟩ | ⟨hints, -, rfl⟩ | ⟨-, rfl⟩
    · refine ⟨fewer, kept.stored, fun row listed => ?_⟩
      obtain ⟨visitor, -, rfl⟩ := List.mem_map.mp listed
      exact ⟨rfl, fun hint stored => congrArg UInt16.toUInt32 (kept.stored _ hint stored)⟩
    · refine ⟨fewer, fun id hint stored => ?_, kept.rows⟩
      rcases insertHints_spec (s := s) hints id with ⟨last, -, same, found⟩ | ⟨-, found⟩
      · obtain rfl := Option.some.inj (stored.symm.trans found)
        exact same
      · exact kept.stored id hint (found.symm.trans stored)
    · exact ⟨fewer, kept.stored, kept.rows⟩

section Right

/-- What brings no visit into the book and changes neither the roster nor what is kept. -/
theorem right_of_less (rows : RowsRight s) (inBook : BookRight s)
    (hints : t.permissionHints = s.permissionHints) (clients : t.clients = s.clients)
    (less : ∀ book, t.book = some book → ∀ visitor ∈ book.visitors, WasInBook s visitor) :
    RowsRight t ∧ BookRight t := by
  constructor
  · unfold RowsRight
    rwa [clients]
  · intro book there visitor entered hint stored
    obtain ⟨old, before, same, listed, id, visit⟩ := less book there visitor entered
    rw [hints, ← id] at stored
    rw [← visit]
    exact inBook old before same listed hint stored

/-- The next message keeps the hints right unless it brings somebody under whose id a hint about
somebody else is kept. -/
theorem right_deliver_iff (rows : RowsRight s) (inBook : BookRight s)
    (taken : s.deliver = some t) :
    (RowsRight t ∧ BookRight t) ↔ keepsHints s .deliver = true := by
  unfold deliver at taken
  split at taken
  next book message wire there next =>
    unfold keepsHints
    rw [there, next]
    cases message with
    | clientEnterView visitor =>
      obtain rfl := Option.some.inj taken
      simp only [Option.all_eq_true, decide_eq_true_eq]
      constructor
      · rintro ⟨-, right⟩ hint stored
        exact right _ rfl visitor List.mem_cons_self hint stored
      · intro own
        refine ⟨rows, ?_⟩
        rintro _ ⟨⟩ entered listed hint stored
        rcases List.mem_cons.mp listed with rfl | before
        · exact own hint stored
        · exact inBook book there entered (List.mem_of_mem_filter before) hint stored
    | clientLeftView id =>
      obtain rfl := Option.some.inj taken
      refine iff_of_true (right_of_less rows inBook rfl rfl ?_) rfl
      rintro _ ⟨⟩ entered listed
      exact ⟨book, there, entered, List.mem_of_mem_filter listed, rfl, rfl⟩
    | clientPermissionHints hints =>
      obtain rfl := Option.some.inj taken
      refine iff_of_true (right_of_less rows inBook rfl rfl ?_) rfl
      exact fun _ there _ => wasInBook_of_same there
  · cases taken

/-- Hints keep the hints right unless somebody else has come under an id of theirs. -/
theorem right_insertHints_iff (rows : RowsRight s) (inBook : BookRight s) {hints : List Hint}
    (single : OneVisit hints) :
    (RowsRight (s.insertHints hints) ∧ BookRight (s.insertHints hints)) ↔
      ∀ book, s.book = some book → ∀ hint ∈ hints, ∀ visitor ∈ book.visitors,
        visitor.client.id = hint.clientId → visitor.visit = hint.visit := by
  constructor
  · rintro ⟨-, right⟩ book there hint listed visitor entered own
    rcases insertHints_spec (s := s) hints visitor.client.id with
      ⟨last, listed', same, stored⟩ | ⟨others, -⟩
    · have visit := right book there visitor entered last stored
      rw [← visit]
      exact single last listed' hint listed (same.trans own)
    · exact absurd own.symm (others hint listed)
  · intro own
    refine ⟨rows, fun book there visitor entered hint stored => ?_⟩
    rcases insertHints_spec (s := s) hints visitor.client.id with
      ⟨last, listed, same, found⟩ | ⟨-, found⟩
    · obtain rfl := Option.some.inj (stored.symm.trans found)
      exact (own book there hint listed visitor entered same.symm).symm
    · exact inBook book there visitor entered hint (found.symm.trans stored)

theorem right_handleItem_iff (kept : HintsKept s) (rows : RowsRight s) (inBook : BookRight s)
    {i now : Nat} (taken : s.handleItem i now = some t) :
    (RowsRight t ∧ BookRight t) ↔ keepsHints s (.handleItem i now) = true := by
  rcases handleItem_cases taken with ⟨book, there, next, rfl⟩ | ⟨hints, next, rfl⟩ | ⟨quiet, rfl⟩
  · refine iff_of_true ⟨fun row listed hint shown => ?_, inBook⟩ (by simp [keepsHints, next])
    obtain ⟨visitor, entered, rfl⟩ := List.mem_map.mp listed
    exact inBook book there visitor entered hint shown
  · unfold keepsHints
    dsimp only
    rw [next]
    have single := kept.messages hints (.inr (List.mem_of_getElem? next))
    refine (right_insertHints_iff rows inBook single).trans ?_
    cases s.book with
    | none => simp
    | some book => simp [or_iff_not_imp_left]
  · have same : ∀ book, s.book = some book → ∀ visitor ∈ book.visitors, WasInBook s visitor :=
      fun _ there _ => wasInBook_of_same there
    refine iff_of_true (right_of_less rows inBook rfl rfl same) ?_
    unfold keepsHints
    dsimp only
    split
    next next _ => exact absurd next (quiet _)
    · rfl

theorem right_step_iff {action : Action} (kept : HintsKept s)
    (right : RowsRight s ∧ BookRight s) (taken : s.step action = some t) :
    (RowsRight t ∧ BookRight t) ↔ keepsHints s action = true := by
  obtain ⟨rows, inBook⟩ := right
  cases action with
  | deliver => exact right_deliver_iff rows inBook taken
  | handleItem i now => exact right_handleItem_iff kept rows inBook taken
  | _ =>
    obtain ⟨hints, clients, -, visitors⟩ := outside_step taken nofun
    exact iff_of_true (right_of_less rows inBook hints clients (visitors nofun)) rfl

end Right

theorem hintsKept_new : HintsKept .new := by
  constructor <;> simp [UnderWay, HintSession.new]

/-- All that is shown in a run, and all that the next event of the book would show, is about the
visits of the clients with whom it is shown if and only if no client came into the book under an
id with the hints of another visit, and no hint was handled after its id had gone to another. -/
theorem hints_of_visit_iff (actions : List Action) (s : HintSession)
    (run : Run HintSession.step anyStep .new actions s) :
    (∀ past t, past <+: actions → Run HintSession.step anyStep .new past t → HintsOfVisit t) ↔
    Run HintSession.step (fun t action => keepsHints t action = true) .new actions s := by
  have kept : ∀ t action u, HintsKept t → HintSession.step t action = some u → HintsKept u :=
    fun _ _ _ kept taken => hintsKept_step kept taken
  refine run.always_iff HintsKept hintsKept_new ?_ kept ?_
  · rw [hintsOfVisit_iff hintsKept_new]
    constructor
    · rintro row ⟨⟩
    · rintro book ⟨⟩
  · intro t action u holds right taken
    rw [hintsOfVisit_iff holds] at right
    rw [hintsOfVisit_iff (kept t action u holds taken)]
    exact right_step_iff holds right taken

def person (id : UInt16) (name : String) : Roster.BookClient :=
  ⟨id, name, 1, 1, 8, [], some name, none, false⟩

/-- Anna may be moved and kicked, is heard and leaves, and Bert comes. -/
def annaThenBert (id : UInt16) : List Action :=
  [.enters (person 5 "anna"), .connects (person 1 "me") (fun _ => none) (fun _ => none), .deliver,
    .deliver, .sendHints [(5, 3)], .deliver, .hears 5 false 0, .handleItem 3 0, .handleItem 0 0,
    .leaves 5, .deliver, .beginTurn 100, .enters (person id "bert"), .deliver, .handleItem 0 100]

/-- What a roster says of the permissions. -/
def permissions (s : HintSession) : List (UInt32 × Option String × UInt64) :=
  (s.tsGetClients 100).map fun client => (client.id, client.uid, client.permissionHints)

theorem new_id_without_hints : ∃ s, Run HintSession.step anyStep .new (annaThenBert 6) s ∧
    permissions s = [(6, some "bert", 0), (1, some "me", 0)] ∧
    ∀ past t, past <+: annaThenBert 6 → Run HintSession.step anyStep .new past t →
      HintsOfVisit t := by
  obtain ⟨s, run, shown⟩ := reaches_of_guarded keepsHints (show
    (exec (guarded keepsHints HintSession.step) .new (annaThenBert 6)).any (fun s =>
      permissions s == [(6, some "bert", 0), (1, some "me", 0)]) = true by decide +kernel)
  have plain : Run HintSession.step anyStep .new (annaThenBert 6) s :=
    run.weaken fun _ _ _ => trivial
  exact ⟨s, plain, beq_iff_eq.mp shown, (hints_of_visit_iff _ s plain).mpr run⟩

/-- Bert gets Anna's id and is shown with what may be done to her. -/
theorem hints_of_former_holder : ∃ s, Run HintSession.step anyStep .new (annaThenBert 5) s ∧
    permissions s = [(5, some "bert", 3), (1, some "me", 0)] ∧ ¬HintsOfVisit s := by
  obtain ⟨s, run, shown⟩ := reaches_of_exec anyStep (fun _ _ _ => trivial) (show
    (exec HintSession.step .new (annaThenBert 5)).any (fun s =>
      permissions s == [(5, some "bert", 3), (1, some "me", 0)] &&
        s.clients.any fun row => row.hint.any (·.visit != row.visit)) = true by decide +kernel)
  simp only [Bool.and_eq_true, beq_iff_eq, List.any_eq_true, Option.any_eq_true, bne_iff_ne]
    at shown
  obtain ⟨permissions, row, listed, hint, stored, differs⟩ := shown
  refine ⟨s, run, permissions, fun right => ?_⟩
  have reported := right.reported 0
  rw [tsGetClients, List.forall₂_map_right_iff, List.forall₂_same] at reported
  exact differs ((reported row listed).visit hint stored).2

end Nek0.Guarantees
