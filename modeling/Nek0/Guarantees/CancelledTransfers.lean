import Mathlib.Data.List.Nodup
import Nek0.Guarantees.TransferIds
import Nek0.Source.VoiceSender

/-!
# Cancelling file transfers

A cancel looks up both tables under the id of the app, but the uploads are kept under numbers of
the library, and only once their command has run.
-/

namespace Nek0.Guarantees

open Nek0.Library Nek0.Source Nek0.Source.TransferSession

structure CancelSession where
  session : TransferSession
  /-- The ids that were cancelled with success since they were given out last. -/
  withdrawn : UInt16 → Bool

namespace CancelSession

def new (now : Instant) : CancelSession := ⟨.new now, fun _ => false⟩

def withdrawnAfter (c : CancelSession) (action : Action) : UInt16 → Bool :=
  match action with
  | .cancelFileTransfer id =>
    if (c.session.cancelFileTransfer id).2 then Function.update c.withdrawn id.toUInt16 true
    else c.withdrawn
  | _ =>
    if starts c.session action then
      Function.update c.withdrawn c.session.freshTransferId false
    else c.withdrawn

def step (c : CancelSession) (action : Action) : Option CancelSession :=
  (c.session.step action).map fun after => ⟨after, c.withdrawnAfter action⟩

end CancelSession

/-- The transfer with this id is queued or waits for the server, and was not cancelled. -/
def Underway (c : CancelSession) (id : UInt32) : Prop :=
  ∃ ticket ∈ begun c.session, ticket.transferId.toUInt32 = id ∧
    c.withdrawn ticket.transferId = false

/-- What is kept of other transfers stays, and all the rest of the session. -/
structure Untouched (s t : TransferSession) (id : UInt32) : Prop where
  pending : ∀ other, other.toUInt32 ≠ id → t.pendingTransfers other = s.pendingTransfers other
  jobs : ∀ number, (∀ job, s.uploadJobs number = some job → job.transferId.toUInt32 ≠ id) →
    t.uploadJobs number = s.uploadJobs number
  rest : t = { s with pendingTransfers := t.pendingTransfers, uploadJobs := t.uploadJobs }

structure ExactCancel (c : CancelSession) (id : UInt32) : Prop where
  answer : (c.session.cancelFileTransfer id).2 = true ↔ Underway c id
  others : Untouched c.session (c.session.cancelFileTransfer id).1 id

/-- No stream moves the file of a cancelled transfer or was opened by its request. -/
def NeverStreams (c : CancelSession) : Prop :=
  ∀ stream ∈ c.session.streams,
    c.withdrawn stream.transferId = false ∧ c.withdrawn stream.cause = false

/-- The ids of the transfers that are queued, wait for the server or stream. -/
def ways (s : TransferSession) : List UInt16 :=
  (begun s).map (·.transferId) ++ s.streams.map (·.cause)

/-- A cancel finds a download that is underway, or the job of the transfer that it names, or
neither and there is no such upload. No id is given out while a transfer underway has it, and no
upload is sent under the number of another that waits for the server. -/
def cancelsRight (c : CancelSession) : Action → Bool
  | .cancelFileTransfer id =>
    let key := id.toUInt16
    id = 0 || 65535 < id.toNat ||
      if (c.session.pendingTransfers key).isSome then ⟨false, key⟩ ∈ begun c.session
      else
        match c.session.uploadJobs key with
        | some job => job.transferId = key
        | none => c.withdrawn key || ⟨true, key⟩ ∉ begun c.session
  | .execute sent =>
    match c.session.ready with
    | .uploadFile .. :: _ =>
      !sent || c.session.requests.all fun request =>
        !request.upload || request.number ≠ c.session.curFiletransferId
    | _ => true
  | action => !allocates c.session action || c.session.freshTransferId ∉ ways c.session

/-- Every transfer is in one place, and the tables have what its answer will find. -/
structure Cancellable (c : CancelSession) : Prop where
  nodup : (ways c.session).Nodup
  nonzero : ∀ id ∈ ways c.session, id ≠ 0
  downloads : ∀ r ∈ c.session.requests, r.upload = false → r.number = r.transferId
  distinct : c.session.requests.Pairwise fun r q =>
    r.upload = true → q.upload = true → r.number ≠ q.number
  jobs : ∀ number job, c.session.uploadJobs number = some job →
    ∃ r ∈ c.session.requests, r.upload = true ∧ r.number = number ∧ r.transferId = job.transferId
  queued : ∀ ticket ∈ waiting c.session, ticket.upload = true →
    c.withdrawn ticket.transferId = false
  pending : ∀ ticket ∈ begun c.session, ticket.upload = false →
    (c.session.pendingTransfers ticket.transferId).isSome = !c.withdrawn ticket.transferId
  removed : ∀ r ∈ c.session.requests, r.upload = true → c.withdrawn r.transferId = true →
    c.session.uploadJobs r.number = none
  streams : ∀ stream ∈ c.session.streams,
    stream.transferId = stream.cause ∧ c.withdrawn stream.cause = false

theorem Cancellable.neverStreams {c : CancelSession} (account : Cancellable c) :
    NeverStreams c := by
  intro stream listed
  obtain ⟨own, live⟩ := account.streams stream listed
  exact ⟨own ▸ live, live⟩

theorem cancellable_new (now : Instant) : Cancellable (.new now) := by
  constructor <;>
    simp [ways, begun, waiting, CancelSession.new, TransferSession.new, CommandBudget.new]

section Cancel

variable {c : CancelSession} {id : UInt32}

/-- What is underway is told by its id. -/
theorem Cancellable.unique (account : Cancellable c) {first second : Ticket}
    (one : first ∈ begun c.session) (two : second ∈ begun c.session)
    (same : first.transferId = second.transferId) : first = second :=
  List.inj_on_of_nodup_map (List.nodup_append.mp account.nodup).1 one two same

theorem underway_iff {ticket : Ticket} (named : ticket.transferId.toUInt32 = id)
    (listed : ticket ∈ begun c.session) :
    Underway c id ↔ c.withdrawn ticket.transferId = false := by
  constructor
  · rintro ⟨other, there, same, live⟩
    rwa [← UInt16.toUInt32_inj.mp (same.trans named.symm)]
  · exact fun live => ⟨ticket, listed, named, live⟩

theorem ticket_mem_begun {r : TransferRequest} (listed : r ∈ c.session.requests) :
    ticket r ∈ begun c.session :=
  List.mem_append_right _ (List.mem_map_of_mem listed)

/-- What a cancel does. -/
theorem cancel_cases (s : TransferSession) (id : UInt32) :
    ((id = 0 ∨ 65535 < id.toNat) ∧ s.cancelFileTransfer id = (s, false)) ∨
    (id ≠ 0 ∧ id.toUInt16.toUInt32 = id ∧
      (((s.pendingTransfers id.toUInt16).isSome = true ∧ s.cancelFileTransfer id =
          ({ s with pendingTransfers := Function.update s.pendingTransfers id.toUInt16 none },
            true)) ∨
      ((s.pendingTransfers id.toUInt16).isSome = false ∧
        ((∃ job, s.uploadJobs id.toUInt16 = some job ∧ s.cancelFileTransfer id =
            ({ s with uploadJobs := Function.update s.uploadJobs id.toUInt16 none }, true)) ∨
        (s.uploadJobs id.toUInt16 = none ∧ s.cancelFileTransfer id = (s, false)))))) := by
  unfold cancelFileTransfer
  by_cases invalid : id = 0 ∨ 65535 < id.toNat
  · exact .inl ⟨invalid, by rw [if_pos invalid]⟩
  · obtain ⟨some, small⟩ := not_or.mp invalid
    have narrow : id ≤ 65535 := UInt32.le_iff_toNat_le.mpr (Nat.not_lt.mp small)
    refine .inr ⟨some, VoiceSender.toUInt16_toUInt32 narrow, ?_⟩
    rw [if_neg invalid]
    dsimp only
    cases (s.pendingTransfers id.toUInt16).isSome with
    | true => exact .inl ⟨rfl, rfl⟩
    | false =>
      cases s.uploadJobs id.toUInt16 with
      | some job => exact .inr ⟨rfl, .inl ⟨job, rfl, rfl⟩⟩
      | none => exact .inr ⟨rfl, .inr ⟨rfl, rfl⟩⟩

theorem not_lt_toNat {id : UInt32} (narrow : id.toUInt16.toUInt32 = id) : ¬65535 < id.toNat := by
  have small := id.toUInt16.toNat_lt
  rw [← narrow, UInt16.toNat_toUInt32]
  omega

/-- The cancel of an id that no transfer underway has. -/
theorem exactCancel_of_not_found (called : c.session.cancelFileTransfer id = (c.session, false))
    (none : ¬Underway c id) : ExactCancel c id := by
  constructor
  · rw [called]
    exact ⟨fun found => Bool.noConfusion found, fun underway => absurd underway none⟩
  · rw [called]
    exact ⟨fun _ _ => rfl, fun _ _ => rfl, rfl⟩

/-- Nothing is underway under an id that is refused. -/
theorem not_underway_of_invalid (account : Cancellable c) (invalid : id = 0 ∨ 65535 < id.toNat) :
    ¬Underway c id := by
  rintro ⟨ticket, listed, rfl, -⟩
  have there : ticket.transferId ∈ ways c.session :=
    List.mem_append_left _ (List.mem_map_of_mem listed)
  rcases invalid with zero | large
  · exact account.nonzero _ there (UInt16.toUInt32_inj.mp zero)
  · have small := ticket.transferId.toNat_lt
    rw [UInt16.toNat_toUInt32] at large
    omega

/-- The cancel of a download that is underway. -/
theorem exactCancel_of_pending (account : Cancellable c) (narrow : id.toUInt16.toUInt32 = id)
    (isPending : (c.session.pendingTransfers id.toUInt16).isSome = true)
    (underway : ⟨false, id.toUInt16⟩ ∈ begun c.session)
    (called : c.session.cancelFileTransfer id = ({ c.session with
      pendingTransfers := Function.update c.session.pendingTransfers id.toUInt16 none }, true)) :
    ExactCancel c id := by
  have live := account.pending _ underway rfl
  constructor
  · rw [called, underway_iff narrow underway]
    exact ⟨fun _ => by simpa [isPending] using live, fun _ => rfl⟩
  · rw [called]
    refine ⟨fun other different => ?_, fun _ _ => rfl, rfl⟩
    refine Function.update_of_ne ?_ _ _
    rintro rfl
    exact different narrow

/-- The cancel of an upload that waits under its own id. -/
theorem exactCancel_of_job (account : Cancellable c) (narrow : id.toUInt16.toUInt32 = id)
    {job : UploadJob} (stored : c.session.uploadJobs id.toUInt16 = some job)
    (own : job.transferId = id.toUInt16)
    (called : c.session.cancelFileTransfer id = ({ c.session with
      uploadJobs := Function.update c.session.uploadJobs id.toUInt16 none }, true)) :
    ExactCancel c id := by
  obtain ⟨r, listed, upload, number, same⟩ := account.jobs _ _ stored
  have named : (ticket r).transferId.toUInt32 = id := by
    rw [ticket, same, own, narrow]
  constructor
  · rw [called, underway_iff named (ticket_mem_begun listed)]
    refine ⟨fun _ => ?_, fun _ => rfl⟩
    by_contra withdrawn
    have gone := account.removed r listed upload (by simpa [ticket] using withdrawn)
    rw [number, stored] at gone
    cases gone
  · rw [called]
    refine ⟨fun _ _ => rfl, fun other different => ?_, rfl⟩
    refine Function.update_of_ne ?_ _ _
    rintro rfl
    exact different job stored (own ▸ narrow)

/-- Nothing is underway under an id that neither table has, if no upload is. -/
theorem not_underway_of_absent (account : Cancellable c)
    (notPending : (c.session.pendingTransfers id.toUInt16).isSome = false)
    (noUpload : c.withdrawn id.toUInt16 = true ∨ ⟨true, id.toUInt16⟩ ∉ begun c.session) :
    ¬Underway c id := by
  rintro ⟨ticket, listed, rfl, live⟩
  rw [UInt16.toUInt16_toUInt32] at noUpload notPending
  cases upload : ticket.upload with
  | true =>
    have same : ticket = ⟨true, ticket.transferId⟩ := by rw [← upload]
    rcases noUpload with withdrawn | absent
    · rw [live] at withdrawn
      cases withdrawn
    · exact absent (same ▸ listed)
  | false =>
    have held := account.pending ticket listed upload
    rw [notPending, live] at held
    cases held

theorem exactCancel (account : Cancellable c)
    (met : cancelsRight c (.cancelFileTransfer id) = true) : ExactCancel c id := by
  rcases cancel_cases c.session id with ⟨invalid, called⟩ | ⟨some, narrow, held⟩
  · exact exactCancel_of_not_found called (not_underway_of_invalid account invalid)
  simp only [cancelsRight, some, not_lt_toNat narrow, decide_false, Bool.false_or] at met
  rcases held with ⟨isPending, called⟩ | ⟨notPending, ⟨job, stored, called⟩ | ⟨noJob, called⟩⟩
  · rw [if_pos isPending, decide_eq_true_eq] at met
    exact exactCancel_of_pending account narrow isPending met called
  · simp only [notPending, Bool.false_eq_true, if_false, stored, decide_eq_true_eq] at met
    exact exactCancel_of_job account narrow stored met called
  · simp only [notPending, Bool.false_eq_true, if_false, noJob, Bool.or_eq_true,
      decide_eq_true_eq] at met
    exact exactCancel_of_not_found called (not_underway_of_absent account notPending met)

end Cancel

section Steps

variable {c : CancelSession} {t : TransferSession}

theorem count_ways (s : TransferSession) (id : UInt16) :
    (ways s).count id = ((waiting s).map (·.transferId)).count id +
      (s.requests.map (·.transferId)).count id + (s.streams.map (·.cause)).count id := by
  simp [ways, begun, ticket, Function.comp_def, Nat.add_assoc]

/-- No transfer is in more places than before. -/
theorem Cancellable.fewer (account : Cancellable c)
    (fewer : ∀ id, (ways t).count id ≤ (ways c.session).count id) :
    (ways t).Nodup ∧ ∀ id ∈ ways t, id ≠ 0 := by
  constructor
  · rw [List.nodup_iff_count]
    intro id
    exact (fewer id).trans (List.nodup_iff_count.mp account.nodup id)
  · intro id there
    refine account.nonzero id (List.count_pos_iff.mp ?_)
    exact Nat.lt_of_lt_of_le (List.count_pos_iff.mpr there) (fewer id)

theorem cancellable_movedOn (account : Cancellable c) (moved : MovedOn c.session t) :
    Cancellable ⟨t, c.withdrawn⟩ := by
  obtain ⟨lost, same⟩ := moved.waits
  have begun' : begun t ⊆ begun c.session := by
    unfold begun
    rw [moved.requests]
    exact List.append_subset.mpr
      ⟨fun _ listed => List.mem_append_left _ (moved.subset listed), List.subset_append_right _ _⟩
  have fewer : ∀ id, (ways t).count id ≤ (ways c.session).count id := by
    intro id
    have waits := (same.map (·.transferId)).count_eq id
    rw [List.map_append, List.count_append] at waits
    rw [count_ways, count_ways, moved.requests, moved.streams]
    omega
  refine ⟨(account.fewer fewer).1, (account.fewer fewer).2, ?_, ?_, ?_, ?_, ?_, ?_, ?_⟩
  · exact moved.requests ▸ account.downloads
  · exact moved.requests ▸ account.distinct
  · dsimp only
    rw [moved.uploadJobs, moved.requests]
    exact account.jobs
  · exact fun ticket listed => account.queued ticket (moved.subset listed)
  · intro ticket listed
    dsimp only
    rw [moved.pendingTransfers]
    exact account.pending ticket (begun' listed)
  · dsimp only
    rw [moved.uploadJobs, moved.requests]
    exact account.removed
  · exact moved.streams ▸ account.streams

/-- Only the entry of an id that no transfer underway has changes. -/
theorem cancellable_entry (account : Cancellable c) {fresh : UInt16} (new : fresh ∉ ways c.session)
    (counter : Nat) (pending : Option PendingTransfer) :
    Cancellable ⟨{ c.session with
      nextTransferId := counter
      pendingTransfers := Function.update c.session.pendingTransfers fresh pending },
      c.withdrawn⟩ := by
  refine { account with pending := ?_ }
  intro ticket listed download
  have different : ticket.transferId ≠ fresh := by
    rintro rfl
    exact new (List.mem_append_left _ (List.mem_map_of_mem listed))
  dsimp only
  rw [Function.update_of_ne different]
  exact account.pending ticket listed download

/-- A transfer whose id no other has enters the channel. -/
theorem cancellable_begin (account : Cancellable c) (command : Command) (ticket : Ticket)
    (carries : ticketOf command = some ticket) (new : ticket.transferId ∉ ways c.session)
    (some : ticket.transferId ≠ 0)
    (held : ticket.upload = false →
      (c.session.pendingTransfers ticket.transferId).isSome = true) :
    Cancellable ⟨{ c.session with channel := c.session.channel ++ [command] },
      Function.update c.withdrawn ticket.transferId false⟩ := by
  have moved : (waiting { c.session with channel := c.session.channel ++ [command] }).Perm
      (ticket :: waiting c.session) := by
    simp only [waiting, List.append_assoc, List.filterMap_append, List.filterMap_cons, carries,
      List.singleton_append]
    exact List.perm_middle
  have perm : (ways { c.session with channel := c.session.channel ++ [command] }).Perm
      (ticket.transferId :: ways c.session) := by
    rw [List.perm_iff_count]
    intro id
    have same := (moved.map (·.transferId)).count_eq id
    simp only [count_ways, List.count_cons, List.map_cons] at same ⊢
    omega
  have live {id : UInt16} (there : id ∈ ways c.session) :
      Function.update c.withdrawn ticket.transferId false id = c.withdrawn id := by
    refine Function.update_of_ne ?_ _ _
    rintro rfl
    exact new there
  have onWay {other : Ticket} (listed : other ∈ begun c.session) :
      other.transferId ∈ ways c.session :=
    List.mem_append_left _ (List.mem_map_of_mem listed)
  refine { account with
    nodup := ?_, nonzero := ?_, queued := ?_, pending := ?_, removed := ?_, streams := ?_ }
  · exact perm.nodup_iff.mpr (List.nodup_cons.mpr ⟨new, account.nodup⟩)
  · intro id there
    rcases List.mem_cons.mp (perm.mem_iff.mp there) with rfl | there
    · exact some
    · exact account.nonzero id there
  · intro other listed upload
    rcases List.mem_cons.mp (moved.mem_iff.mp listed) with rfl | listed
    · exact Function.update_self _ _ _
    · exact (live (onWay (List.mem_append_left _ listed))).trans
        (account.queued other listed upload)
  · intro other listed download
    dsimp only
    simp only [begun, List.mem_append, moved.mem_iff, List.mem_cons] at listed
    rcases listed with (rfl | listed) | listed
    · rw [Function.update_self, held download]
      rfl
    · rw [live (onWay (List.mem_append_left _ listed))]
      exact account.pending other (List.mem_append_left _ listed) download
    · rw [live (onWay (List.mem_append_right _ listed))]
      exact account.pending other (List.mem_append_right _ listed) download
  · intro r listed upload withdrawn
    have same := live (onWay (ticket_mem_begun listed))
    exact account.removed r listed upload (same.symm.trans withdrawn)
  · intro stream listed
    obtain ⟨own, open'⟩ := account.streams stream listed
    have same := live (List.mem_append_right _ (List.mem_map_of_mem listed))
    exact ⟨own, same.trans open'⟩

/-- What waits for the server and what is queued are different transfers. -/
theorem Cancellable.queued_ne (account : Cancellable c) {first : Ticket} {r : TransferRequest}
    (one : first ∈ waiting c.session) (two : r ∈ c.session.requests) :
    first.transferId ≠ r.transferId := by
  have nodup := (List.nodup_append.mp account.nodup).1
  rw [begun, List.map_append] at nodup
  exact (List.nodup_append.mp nodup).2.2 _ (List.mem_map_of_mem one) _
    (List.mem_map_of_mem (List.mem_map_of_mem two))

theorem Cancellable.stream_ne (account : Cancellable c) {first : Ticket} {stream : TransferStream}
    (one : first ∈ begun c.session) (two : stream ∈ c.session.streams) :
    stream.cause ≠ first.transferId := by
  intro same
  exact (List.nodup_append.mp account.nodup).2.2 _ (List.mem_map_of_mem one) _
    (List.mem_map_of_mem two) same.symm

theorem Cancellable.request_unique (account : Cancellable c) {r q : TransferRequest}
    (one : r ∈ c.session.requests) (two : q ∈ c.session.requests)
    (same : r.transferId = q.transferId) : r = q := by
  have nodup := (List.nodup_append.mp account.nodup).1
  rw [begun, List.map_append, List.map_map] at nodup
  exact List.inj_on_of_nodup_map (List.nodup_append.mp nodup).2.1 one two same

/-- The entry of a download that is underway is taken away. -/
theorem cancellable_cancelDownload (account : Cancellable c) {key : UInt16}
    (listed : ⟨false, key⟩ ∈ begun c.session) :
    Cancellable ⟨{ c.session with
      pendingTransfers := Function.update c.session.pendingTransfers key none },
      Function.update c.withdrawn key true⟩ := by
  have uploads {other : Ticket} (there : other ∈ begun c.session) (upload : other.upload = true) :
      other.transferId ≠ key := by
    intro same
    have equal : other = ⟨false, key⟩ := account.unique there listed same
    rw [equal] at upload
    cases upload
  refine { account with queued := ?_, pending := ?_, removed := ?_, streams := ?_ }
  · intro other there upload
    have different := uploads (List.mem_append_left _ there) upload
    exact (Function.update_of_ne different _ _).trans (account.queued other there upload)
  · intro other there download
    dsimp only
    by_cases same : other.transferId = key
    · rw [same, Function.update_self, Function.update_self]
      rfl
    · rw [Function.update_of_ne same, Function.update_of_ne same]
      exact account.pending other there download
  · intro r there upload withdrawn
    have different := uploads (ticket_mem_begun there) upload
    exact account.removed r there upload
      ((Function.update_of_ne different _ _).symm.trans withdrawn)
  · intro stream there
    obtain ⟨own, live⟩ := account.streams stream there
    exact ⟨own, (Function.update_of_ne (account.stream_ne listed there) _ _).trans live⟩

/-- The job of an upload that waits for the server is taken away. -/
theorem cancellable_cancelUpload (account : Cancellable c) {r : TransferRequest}
    (listed : r ∈ c.session.requests) (upload : r.upload = true) :
    Cancellable ⟨{ c.session with
      uploadJobs := Function.update c.session.uploadJobs r.number none },
      Function.update c.withdrawn r.transferId true⟩ := by
  refine { account with
    jobs := ?_, queued := ?_, pending := ?_, removed := ?_, streams := ?_ }
  · intro number job kept
    exact account.jobs number job (eq_some_of_update_none kept)
  · intro other there isUpload
    have different := account.queued_ne there listed
    exact (Function.update_of_ne different _ _).trans (account.queued other there isUpload)
  · intro other there download
    dsimp only
    have different : other.transferId ≠ r.transferId := by
      intro same
      have equal : other = ticket r := account.unique there (ticket_mem_begun listed) same
      rw [equal, ticket, upload] at download
      cases download
    rw [Function.update_of_ne different]
    exact account.pending other there download
  · intro q there isUpload withdrawn
    dsimp only at withdrawn ⊢
    by_cases same : q.number = r.number
    · rw [same, Function.update_self]
    · have different : q.transferId ≠ r.transferId := by
        intro equal
        exact same (by rw [account.request_unique there listed equal])
      rw [Function.update_of_ne different] at withdrawn
      rw [Function.update_of_ne same]
      exact account.removed q there isUpload withdrawn
  · intro stream there
    obtain ⟨own, live⟩ := account.streams stream there
    exact ⟨own, (Function.update_of_ne
      (account.stream_ne (ticket_mem_begun listed) there) _ _).trans live⟩

/-- A command goes out as a request. -/
theorem cancellable_request (account : Cancellable c) (r : TransferRequest) {ready : List Command}
    (left : (waiting c.session).Perm (ticket r :: waiting { c.session with ready }))
    (jobs : UInt16 → Option UploadJob) (next : UInt16)
    (download : r.upload = false → r.number = r.transferId)
    (new : r.upload = true → ∀ q ∈ c.session.requests, q.upload = true → q.number ≠ r.number)
    (own : r.upload = true → ∃ job, jobs r.number = some job ∧ job.transferId = r.transferId)
    (same : ∀ number, (r.upload = true → number ≠ r.number) →
      jobs number = c.session.uploadJobs number) :
    Cancellable ⟨{ c.session with
      ready
      uploadJobs := jobs
      curFiletransferId := next
      requests := c.session.requests ++ [r] }, c.withdrawn⟩ := by
  have queuedR : ticket r ∈ waiting c.session := left.mem_iff.mpr List.mem_cons_self
  have fewer : ∀ id, (ways { c.session with
      ready
      uploadJobs := jobs
      curFiletransferId := next
      requests := c.session.requests ++ [r] }).count id ≤ (ways c.session).count id := by
    intro id
    have waits := (left.map (·.transferId)).count_eq id
    simp only [count_ways, List.map_cons, List.map_append, List.map_nil, List.count_append,
      List.count_cons, List.count_nil] at waits ⊢
    rw [show (ticket r).transferId = r.transferId from rfl] at waits
    simp only [waiting] at waits ⊢
    omega
  refine { account with
    nodup := (account.fewer fewer).1, nonzero := (account.fewer fewer).2
    downloads := ?_, distinct := ?_, jobs := ?_, queued := ?_, pending := ?_, removed := ?_ }
  · simp only [List.forall_mem_append, List.forall_mem_singleton]
    exact ⟨account.downloads, download⟩
  · dsimp only
    rw [List.pairwise_append]
    refine ⟨account.distinct, List.pairwise_singleton _ _, ?_⟩
    simp only [List.forall_mem_singleton]
    exact fun q listed isUpload last => new last q listed isUpload
  · intro number job stored
    dsimp only at stored ⊢
    by_cases mine : r.upload = true ∧ number = r.number
    · obtain ⟨isUpload, rfl⟩ := mine
      obtain ⟨held, found, known⟩ := own isUpload
      rw [found] at stored
      obtain rfl := Option.some.inj stored
      exact ⟨r, by simp, isUpload, rfl, known.symm⟩
    · rw [same number fun isUpload equal => mine ⟨isUpload, equal⟩] at stored
      obtain ⟨q, listed, rest⟩ := account.jobs number job stored
      exact ⟨q, List.mem_append_left _ listed, rest⟩
  · exact fun other listed =>
      account.queued other (left.mem_iff.mpr (List.mem_cons_of_mem _ listed))
  · intro other listed
    refine account.pending other ?_
    simp only [begun, List.mem_append, List.map_append, List.map_cons, List.map_nil,
      List.mem_singleton] at listed ⊢
    rcases listed with waits | requested | rfl
    · exact .inl (left.mem_iff.mpr (List.mem_cons_of_mem _ waits))
    · exact .inr requested
    · exact .inl queuedR
  · simp only [List.forall_mem_append, List.forall_mem_singleton]
    refine ⟨fun q listed isUpload withdrawn => ?_, fun isUpload withdrawn => ?_⟩
    · rw [same q.number fun last => new last q listed isUpload]
      exact account.removed q listed isUpload withdrawn
    · have live := account.queued (ticket r) queuedR isUpload
      rw [ticket, withdrawn] at live
      cases live

theorem cancellable_execute {sent : Bool} (account : Cancellable c)
    (met : cancelsRight c (.execute sent) = true) (executed : c.session.execute sent = some t) :
    Cancellable ⟨t, c.withdrawn⟩ := by
  obtain ⟨command, ready, listed, cases⟩ := execute_cases executed
  have left := waiting_ready listed
  have lost : MovedOn c.session { c.session with ready } :=
    ⟨rfl, rfl, rfl, rfl, rfl, (ticketOf command).toList, left⟩
  rcases cases with ⟨-, rfl⟩ | ⟨id, carries, rfl⟩ | ⟨id, remotePath, sourcePath, carries, rfl⟩
  · exact cancellable_movedOn account lost
  · rw [carries] at left
    have left : (waiting c.session).Perm (⟨false, id⟩ :: waiting { c.session with ready }) := left
    unfold TransferSession.sendDownload
    split
    · exact cancellable_request account ⟨false, id, id⟩ left c.session.uploadJobs
        c.session.curFiletransferId (fun _ => rfl) (by simp) (by simp) (fun _ _ => rfl)
    · exact cancellable_movedOn account { lost with }
  · rw [carries] at left
    have left : (waiting c.session).Perm (⟨true, id⟩ :: waiting { c.session with ready }) := left
    unfold TransferSession.sendUpload
    dsimp only
    split
    next sent =>
      have free : ∀ q ∈ c.session.requests, q.upload = true →
          q.number ≠ c.session.curFiletransferId := by
        intro q there upload
        cases command with
        | uploadFile =>
          simp only [cancelsRight, listed, sent, Bool.not_true, Bool.false_or, List.all_eq_true,
            Bool.or_eq_true, Bool.not_eq_true', decide_eq_true_eq] at met
          exact (met q there).resolve_left (by simp [upload])
        | _ => cases carries
      exact cancellable_request account ⟨true, c.session.curFiletransferId, id⟩ left _ _ (by simp)
        (fun _ => free) (fun _ => ⟨_, Function.update_self _ _ _, rfl⟩)
        (fun number other => Function.update_of_ne (other rfl) _ _)
    · exact cancellable_movedOn account { lost with }

/-- A request is answered, and a stream may open for it. -/
theorem cancellable_answered (account : Cancellable c) {position : Nat} {r : TransferRequest}
    (found : c.session.requests[position]? = some r)
    (pendings : UInt16 → Option PendingTransfer) (jobs : UInt16 → Option UploadJob)
    (opened : List TransferStream) (events : List FileTransferEvent) (settled : List UInt16)
    (same : ∀ id, id ≠ r.transferId → pendings id = c.session.pendingTransfers id)
    (less : ∀ number job, jobs number = some job → c.session.uploadJobs number = some job)
    (gone : r.upload = true → jobs r.number = none) (one : opened.length ≤ 1)
    (own : ∀ stream ∈ opened, stream.transferId = r.transferId ∧ stream.cause = r.transferId ∧
      c.withdrawn r.transferId = false) :
    Cancellable ⟨{ c.session with
      requests := c.session.requests.eraseIdx position
      pendingTransfers := pendings
      uploadJobs := jobs
      streams := c.session.streams ++ opened
      events, settled }, c.withdrawn⟩ := by
  have listed : r ∈ c.session.requests := List.mem_of_getElem? found
  have perm := erased_perm found
  have fewer : ∀ id, (ways { c.session with
      requests := c.session.requests.eraseIdx position
      pendingTransfers := pendings
      uploadJobs := jobs
      streams := c.session.streams ++ opened
      events, settled }).count id ≤ (ways c.session).count id := by
    intro id
    have erased := (perm.map (·.transferId)).count_eq id
    have openedOnce : (opened.map (·.cause)).count id ≤ if r.transferId = id then 1 else 0 := by
      split
      · exact List.count_le_length.trans (by simpa using one)
      next different =>
        rw [Nat.le_zero, List.count_eq_zero, List.mem_map]
        rintro ⟨stream, there, rfl⟩
        exact different (own stream there).2.1.symm
    simp only [count_ways, List.map_append, List.count_append, List.map_cons,
      List.count_cons, beq_iff_eq] at erased ⊢
    simp only [waiting] at erased ⊢
    omega
  -- The answered request was the only one with its id.
  have others {q : TransferRequest} (there : q ∈ c.session.requests.eraseIdx position) :
      q ∈ c.session.requests ∧ q.transferId ≠ r.transferId := by
    have nodup := (List.nodup_append.mp account.nodup).1
    rw [begun, List.map_append, List.map_map] at nodup
    have nodup := (perm.map _).nodup_iff.mp (List.nodup_append.mp nodup).2.1
    rw [List.map_cons, List.nodup_cons] at nodup
    refine ⟨List.mem_of_mem_eraseIdx there, fun equal => nodup.1 ?_⟩
    exact List.mem_map.mpr ⟨q, there, equal⟩
  refine { account with
    nodup := (account.fewer fewer).1, nonzero := (account.fewer fewer).2
    downloads := ?_, distinct := ?_, jobs := ?_, pending := ?_, removed := ?_, streams := ?_ }
  · exact fun q there => account.downloads q (others there).1
  · exact account.distinct.sublist (List.eraseIdx_sublist _ _)
  · intro number job stored
    obtain ⟨q, there, isUpload, rfl, known⟩ := account.jobs number job (less number job stored)
    rcases List.mem_cons.mp (perm.mem_iff.mp there) with rfl | there
    · exact absurd (stored.symm.trans (gone isUpload)) (by simp)
    · exact ⟨q, there, isUpload, rfl, known⟩
  · intro other there download
    dsimp only
    have different : other ∈ begun c.session ∧ other.transferId ≠ r.transferId := by
      rcases List.mem_append.mp there with waits | requested
      · exact ⟨List.mem_append_left _ waits, account.queued_ne waits listed⟩
      · obtain ⟨q, remains, rfl⟩ := List.mem_map.mp requested
        exact ⟨ticket_mem_begun (others remains).1, (others remains).2⟩
    rw [same _ different.2]
    exact account.pending other different.1 download
  · intro q there isUpload withdrawn
    have removed := account.removed q (others there).1 isUpload withdrawn
    rw [Option.eq_none_iff_forall_ne_some] at removed ⊢
    exact fun job stored => removed job (less _ _ stored)
  · simp only [List.forall_mem_append]
    refine ⟨account.streams, fun stream there => ?_⟩
    obtain ⟨transferId, cause, live⟩ := own stream there
    exact ⟨transferId.trans cause.symm, cause ▸ live⟩

/-- The job that a request finds is its own. -/
theorem Cancellable.job_own (account : Cancellable c) {r : TransferRequest} {job : UploadJob}
    (listed : r ∈ c.session.requests) (upload : r.upload = true)
    (stored : c.session.uploadJobs r.number = some job) :
    job.transferId = r.transferId ∧ c.withdrawn r.transferId = false := by
  constructor
  · obtain ⟨q, there, isUpload, number, own⟩ := account.jobs _ _ stored
    have same : q = r := by
      by_contra different
      have symmetric : Std.Symm fun r q : TransferRequest =>
          r.upload = true → q.upload = true → r.number ≠ q.number :=
        ⟨fun _ _ apart one two => (apart two one).symm⟩
      exact account.distinct.forall there listed different isUpload upload number
    rw [← own, same]
  · by_contra withdrawn
    have gone := account.removed r listed upload (by simpa using withdrawn)
    rw [stored] at gone
    cases gone

theorem cancellable_answer {position : Nat} {ok : Bool} (account : Cancellable c)
    (answered : c.session.answer position ok = some t) : Cancellable ⟨t, c.withdrawn⟩ := by
  obtain ⟨r, found, rfl⟩ := Option.map_eq_some_iff.mp answered
  have listed : r ∈ c.session.requests := List.mem_of_getElem? found
  have closes (jobs : UInt16 → Option UploadJob) (events : List FileTransferEvent)
      (less : ∀ number job, jobs number = some job → c.session.uploadJobs number = some job)
      (gone : r.upload = true → jobs r.number = none) :
      Cancellable ⟨{ c.session with
        requests := c.session.requests.eraseIdx position
        uploadJobs := jobs
        events
        settled := c.session.settled ++ [r.transferId] }, c.withdrawn⟩ := by
    have closed := cancellable_answered account found c.session.pendingTransfers jobs [] events
      (c.session.settled ++ [r.transferId]) (fun _ _ => rfl) less gone (by simp) (by simp)
    rwa [List.append_nil] at closed
  dsimp only
  split
  · unfold handleFiletransferFailed
    dsimp only
    split
    next job stored =>
      exact closes _ _ (fun _ _ => eq_some_of_update_none) fun _ => Function.update_self _ _ _
    next noJob => exact closes _ _ (fun _ _ => id) fun _ => noJob
  split
  next upload =>
    unfold handleFileUpload
    dsimp only
    split
    next job stored =>
      obtain ⟨own, live⟩ := account.job_own listed upload stored
      exact cancellable_answered account found _ _ [_] _ _ (fun _ _ => rfl)
        (fun _ _ => eq_some_of_update_none) (fun _ => Function.update_self _ _ _) le_rfl
        (List.forall_mem_singleton.mpr ⟨own, rfl, live⟩)
    next noJob => exact closes _ _ (fun _ _ => id) fun _ => noJob
  next download =>
    have download : r.upload = false := by simpa using download
    have number := account.downloads r listed download
    unfold handleFileDownload
    dsimp only
    split
    next job stored =>
      have live : c.withdrawn r.transferId = false := by
        have held := account.pending (ticket r) (ticket_mem_begun listed) download
        rw [ticket, ← number, stored] at held
        simpa [number] using held.symm
      exact cancellable_answered account found _ _ [_] _ _
        (fun id other => Function.update_of_ne (number ▸ other) _ _) (fun _ _ => id)
        (by simp [download]) le_rfl (List.forall_mem_singleton.mpr ⟨number, rfl, live⟩)
    next => exact closes _ _ (fun _ _ => id) (by simp [download])

theorem cancellable_endStream {position : Nat} {result : Except String Nat}
    (account : Cancellable c) (ended : c.session.endStream position result = some t) :
    Cancellable ⟨t, c.withdrawn⟩ := by
  obtain ⟨stream, -, rfl⟩ := Option.map_eq_some_iff.mp ended
  have sublist := List.eraseIdx_sublist c.session.streams position
  refine { account with nodup := ?_, nonzero := ?_, streams := ?_ }
  · exact account.nodup.sublist (List.Sublist.append_left (sublist.map _) _)
  · intro id there
    exact account.nonzero id ((List.Sublist.append_left (sublist.map _) _).subset there)
  · exact fun other there => account.streams other (sublist.subset there)

theorem cancellable_hand {returned : TransferSession × UInt16} {withdrawn : UInt16 → Bool}
    (account : Cancellable ⟨returned.1, withdrawn⟩) : Cancellable ⟨hand returned, withdrawn⟩ := by
  unfold hand
  split
  · exact account
  · exact { account with }

theorem cancellable_downloadFile {call : DownloadCall} {queued : Bool} (account : Cancellable c)
    (met : cancelsRight c (.downloadFile call queued) = true) :
    Cancellable ⟨(c.session.downloadFile call queued).1,
      c.withdrawnAfter (.downloadFile call queued)⟩ := by
  generalize after : c.withdrawnAfter (.downloadFile call queued) = withdrawn
  simp only [CancelSession.withdrawnAfter, starts] at after
  unfold downloadFile
  split
  next refused =>
    obtain rfl : c.withdrawn = withdrawn := by simpa [refused] using after
    exact account
  next remote target accepted =>
    have new : c.session.freshTransferId ∉ ways c.session := by
      simpa [cancelsRight, allocates, accepted] using met
    have entry := cancellable_entry account new ((c.session.nextTransferId + 1) % 2 ^ 32)
    cases queued with
    | false =>
      subst after
      exact entry none
    | true =>
      simp only [accepted, Bool.true_and, Option.isSome_some, if_true] at after
      subst after
      refine cancellable_begin (entry (some ⟨target, call.maxBytes.toNat, remote⟩)) _
        ⟨false, c.session.freshTransferId⟩ rfl new (transferIdOf_ne_zero _) fun _ => ?_
      simp

theorem cancellable_uploadFile {call : UploadCall} {queued : Bool} (account : Cancellable c)
    (met : cancelsRight c (.uploadFile call queued) = true) :
    Cancellable ⟨(c.session.uploadFile call queued).1,
      c.withdrawnAfter (.uploadFile call queued)⟩ := by
  generalize after : c.withdrawnAfter (.uploadFile call queued) = withdrawn
  simp only [CancelSession.withdrawnAfter, starts] at after
  unfold uploadFile
  split
  next refused =>
    obtain rfl : c.withdrawn = withdrawn := by simpa [refused] using after
    exact account
  next remote source size accepted =>
    have new : c.session.freshTransferId ∉ ways c.session := by
      simpa [cancelsRight, allocates, accepted] using met
    have counted : Cancellable ⟨c.session.count, c.withdrawn⟩ := { account with }
    cases queued with
    | false =>
      subst after
      exact counted
    | true =>
      simp only [accepted, Bool.true_and, Option.isSome_some, if_true] at after
      subst after
      exact cancellable_begin counted _ ⟨true, c.session.freshTransferId⟩ rfl new
        (transferIdOf_ne_zero _) (by simp)

/-- A cancel that is admitted keeps the account, whatever the id. -/
theorem cancellable_cancel {id : UInt32} (account : Cancellable c)
    (met : cancelsRight c (.cancelFileTransfer id) = true) :
    Cancellable
      ⟨(c.session.cancelFileTransfer id).1, c.withdrawnAfter (.cancelFileTransfer id)⟩ := by
  have after : c.withdrawnAfter (.cancelFileTransfer id) =
      if (c.session.cancelFileTransfer id).2 then Function.update c.withdrawn id.toUInt16 true
      else c.withdrawn := rfl
  rw [after]
  rcases cancel_cases c.session id with ⟨-, called⟩ | ⟨some, narrow, held⟩
  · rw [called]
    exact account
  simp only [cancelsRight, some, not_lt_toNat narrow, decide_false, Bool.false_or] at met
  rcases held with ⟨isPending, called⟩ | ⟨notPending, ⟨job, stored, called⟩ | ⟨noJob, called⟩⟩
  · rw [if_pos isPending, decide_eq_true_eq] at met
    rw [called]
    exact cancellable_cancelDownload account met
  · simp only [notPending, Bool.false_eq_true, if_false, stored, decide_eq_true_eq] at met
    obtain ⟨r, listed, upload, number, own⟩ := account.jobs _ _ stored
    have cancelled := cancellable_cancelUpload account listed upload
    rw [number, own, met] at cancelled
    rw [called]
    exact cancelled
  · rw [called]
    exact account

theorem cancellable_step {d : CancelSession} {action : Action} (account : Cancellable c)
    (met : cancelsRight c action = true) (taken : c.step action = some d) : Cancellable d := by
  obtain ⟨after, moved, rfl⟩ := Option.map_eq_some_iff.mp taken
  cases action with
  | downloadFile call queued =>
    obtain rfl := Option.some.inj moved
    exact cancellable_hand (cancellable_downloadFile account met)
  | uploadFile call queued =>
    obtain rfl := Option.some.inj moved
    exact cancellable_hand (cancellable_uploadFile account met)
  | cancelFileTransfer id =>
    simp only [TransferSession.step, Option.some.injEq] at moved
    have cancelled := cancellable_cancel account met
    split at moved <;> subst moved
    · exact { cancelled with }
    · exact cancelled
  | queueCommand | setConnected | receive | take | enterDegraded =>
    exact cancellable_movedOn account (movedOn_step rfl moved)
  | execute sent => exact cancellable_execute account met moved
  | answer position ok => exact cancellable_answer account moved
  | endStream position result => exact cancellable_endStream account moved

end Steps

/-- In a run that meets the condition, every cancel is exact, and no stream is that of a cancelled
transfer. -/
theorem cancels_exact (now : Instant) (actions : List Action) (c : CancelSession)
    (run : Run CancelSession.step (fun d action => cancelsRight d action = true) (.new now)
      actions c) :
    NeverStreams c ∧ ∀ id, cancelsRight c (.cancelFileTransfer id) = true → ExactCancel c id := by
  have account : Cancellable c := run.invariant Cancellable (cancellable_new now)
    fun _ _ _ account met taken => cancellable_step account met taken
  exact ⟨account.neverStreams, fun _ met => exactCancel account met⟩

/-- The first of two downloads is cancelled in the queue, and the server answers it later. -/
def queuedCancel : List Action :=
  [.downloadFile iconCall true, .downloadFile iconCall true, .cancelFileTransfer 1,
    .receive, .receive, .take 0, .take 0, .execute true, .execute true, .answer 0 true]

theorem queued_cancel_exact : ∃ c : CancelSession, c.session.settled = [1] ∧
    c.session.requests.map (·.transferId) = [2] ∧ NeverStreams c ∧ ExactCancel c 2 := by
  obtain ⟨c, run, reached⟩ := reaches_of_guarded cancelsRight (show
    (exec (guarded cancelsRight CancelSession.step) (.new 0) queuedCancel).any (fun c =>
      c.session.settled == [1] && c.session.requests.map (·.transferId) == [2] &&
        cancelsRight c (.cancelFileTransfer 2)) = true by
    decide +kernel)
  simp only [Bool.and_eq_true, beq_iff_eq] at reached
  obtain ⟨never, exact⟩ := cancels_exact 0 queuedCancel c run
  exact ⟨c, reached.1.1, reached.1.2, never, exact 2 reached.2⟩

/-- Two uploads wait for the server, the second under the number that is the id of the first. -/
def twoUploads : List Action :=
  [.uploadFile ⟨5, some "/a", none, some "/tmp/a", some 512, false⟩ true,
    .uploadFile ⟨5, some "/b", none, some "/tmp/b", some 512, false⟩ true,
    .receive, .receive, .take 0, .take 0, .execute true, .execute true]

/-- Cancelling the first upload takes away the second, and the first is streamed. -/
theorem cancel_hits_other :
    (∃ c : CancelSession, Run CancelSession.step anyStep (.new 0) twoUploads c ∧
      ¬ExactCancel c 1) ∧
    ∃ c : CancelSession, Run CancelSession.step anyStep (.new 0)
      (twoUploads ++ [.cancelFileTransfer 1, .answer 0 true]) c ∧ c.withdrawn 1 = true ∧
      c.session.streams.map (·.transferId) = [1] ∧ ¬NeverStreams c := by
  constructor
  · obtain ⟨c, run, reached⟩ := reaches_of_exec anyStep (fun _ _ _ => trivial) (show
      (exec CancelSession.step (.new 0) twoUploads).any (fun c =>
        (c.session.uploadJobs 1).any (·.transferId == 2) &&
          (c.session.cancelFileTransfer 1).1.uploadJobs 1 == none) = true by decide +kernel)
    simp only [Bool.and_eq_true, beq_iff_eq, Option.any_eq_true] at reached
    obtain ⟨⟨job, stored, other⟩, gone⟩ := reached
    refine ⟨c, run, fun exact => ?_⟩
    have kept := exact.others.jobs 1 fun found same => by
      rw [stored] at same
      obtain rfl := Option.some.inj same
      rw [other]
      decide
    rw [gone, stored] at kept
    cases kept
  · obtain ⟨c, run, reached⟩ := reaches_of_exec anyStep (fun _ _ _ => trivial) (show
      (exec CancelSession.step (.new 0)
        (twoUploads ++ [.cancelFileTransfer 1, .answer 0 true])).any (fun c =>
          c.withdrawn 1 && c.session.streams.map (·.transferId) == [1]) = true by decide +kernel)
    simp only [Bool.and_eq_true, beq_iff_eq] at reached
    refine ⟨c, run, reached.1, reached.2, fun never => ?_⟩
    have there : (1 : UInt16) ∈ c.session.streams.map (·.transferId) := by
      rw [reached.2]
      exact List.mem_singleton_self 1
    obtain ⟨stream, listed, same⟩ := List.mem_map.mp there
    have live := (never stream listed).1
    rw [same, reached.1] at live
    cases live

end Nek0.Guarantees
