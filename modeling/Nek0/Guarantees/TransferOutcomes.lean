import Nek0.Library.Coalesce
import Nek0.Library.Run
import Nek0.Source.FileTransfers

/-!
# Outcomes of file transfers

A transfer that is over has been reported once, by an event of its own, in the runs in
which no command is dropped, no download fails before its stream is open, no cancel hits
a foreign upload, and the ids are not used up.
-/

namespace Nek0.Guarantees

open Nek0.Library Nek0.Source Nek0.Source.TransferSession

/-- Every transfer of the app that was not cancelled has an event exactly if it is over,
at most one, and that is about the transfer that it is due to. -/
structure OneOutcome (s : TransferSession) : Prop where
  once : ∀ id ∈ s.returned, id ∉ s.cancelled →
    (s.events.filter (·.transferId = id)).length = s.settled.count id ∧
      s.settled.count id ≤ 1
  own : ∀ event ∈ s.events, event.transferId ∈ s.returned → event.transferId ∉ s.cancelled →
    event.cause = event.transferId

/-- No id is given out again, a cancel finds the download or an upload of that id, a full
queue drops no transfer, and no download fails before its stream is open, unless it was
cancelled and no upload has its number. -/
def orderly (s : TransferSession) : Action → Bool
  | .downloadFile call _ => (s.acceptedDownload call).isNone || s.nextTransferId < 65535
  | .uploadFile call _ => (s.acceptedUpload call).isNone || s.nextTransferId < 65535
  | .cancelFileTransfer id =>
    id = 0 || 65535 < id.toNat || (s.pendingTransfers id.toUInt16).isSome ||
      (s.uploadJobs id.toUInt16).all (·.transferId = id.toUInt16)
  | .receive =>
    match s.channel with
    | [] | .sendAudio _ :: _ | .disconnect :: _ => true
    | command :: _ => ((droppedBy s.commandBudget command).bind transferOf).all (· ∈ s.cancelled)
  | .execute sent =>
    match s.ready with
    | .downloadFile id .. :: _ => sent || id ∈ s.cancelled
    | _ => true
  | .answer position ok =>
    ok || s.requests[position]?.all fun request =>
      request.upload ||
        (request.transferId ∈ s.cancelled && (s.uploadJobs request.number).isNone)
  | _ => true

/-- A transfer whose outcome is open. -/
structure Ticket where
  upload : Bool
  transferId : UInt16
  deriving DecidableEq, Repr

def ticketOf : Command → Option Ticket
  | .downloadFile transferId .. => some ⟨false, transferId⟩
  | .uploadFile transferId .. => some ⟨true, transferId⟩
  | _ => none

def ticket (request : TransferRequest) : Ticket := ⟨request.upload, request.transferId⟩

/-- The transfers whose command waits. -/
def waiting (s : TransferSession) : List Ticket :=
  (s.channel ++ s.commandBudget.queue ++ s.ready).filterMap ticketOf

/-- The transfers that wait for their command or for the server. -/
def begun (s : TransferSession) : List Ticket := waiting s ++ s.requests.map ticket

/-- Where a transfer can be. -/
def placed (s : TransferSession) : List UInt16 :=
  (begun s).map (·.transferId) ++ s.streams.map (·.cause) ++ s.settled

/-- Every transfer is in one place and has what its answer will need. -/
structure Accounted (s : TransferSession) : Prop where
  counter : 1 ≤ s.nextTransferId ∧ s.nextTransferId ≤ 65535
  known : ∀ id ∈ placed s, id.toNat < s.nextTransferId
  nodup : (placed s).Nodup
  handles : s.curFiletransferId.toNat + (waiting s).countP (·.upload) < s.nextTransferId
  numbers : ∀ r ∈ s.requests, r.upload = true → r.number.toNat < s.curFiletransferId.toNat
  distinct : s.requests.Pairwise fun r q =>
    r.upload = true → q.upload = true → r.number ≠ q.number
  downloads : ∀ r ∈ s.requests, r.upload = false → r.number = r.transferId
  jobs : ∀ r ∈ s.requests, r.upload = true → ∀ job, s.uploadJobs r.number = some job →
    job.transferId = r.transferId
  kept : ∀ r ∈ s.requests, r.upload = true → r.transferId ∉ s.cancelled →
    (s.uploadJobs r.number).isSome = true
  pending : ∀ ticket ∈ begun s, ticket.upload = false → ticket.transferId ∉ s.cancelled →
    (s.pendingTransfers ticket.transferId).isSome = true
  streams : ∀ stream ∈ s.streams, stream.transferId = stream.cause
  own : ∀ event ∈ s.events, event.transferId = event.cause
  told : ∀ id, id ∉ s.cancelled → (s.events.map (·.transferId)).count id = s.settled.count id

theorem Accounted.oneOutcome {s : TransferSession} (accounted : Accounted s) : OneOutcome s := by
  constructor
  · intro id _ live
    have told := accounted.told id live
    have once : s.settled.count id ≤ 1 :=
      List.nodup_iff_count.mp (accounted.nodup.sublist (List.sublist_append_right _ _)) id
    refine ⟨?_, once⟩
    rw [← told, List.count_eq_countP, List.countP_map, List.countP_eq_length_filter]
    congr 1
  · intro event listed _ _
    exact (accounted.own event listed).symm

section Accounted

variable {s : TransferSession}

theorem count_placed (s : TransferSession) (id : UInt16) :
    (placed s).count id = ((waiting s).map (·.transferId)).count id +
      (s.requests.map (·.transferId)).count id + (s.streams.map (·.cause)).count id +
      s.settled.count id := by
  simp [placed, begun, ticket, Function.comp_def, Nat.add_assoc]

/-- Commands move on, and those of cancelled transfers may be lost. -/
theorem accounted_lost (accounted : Accounted s) (lost : List Ticket) (connected : Bool)
    (channel ready : List Command) (budget : CommandBudget)
    (moved : (waiting s).Perm
      (lost ++ (channel ++ budget.queue ++ ready).filterMap ticketOf))
    (given : ∀ ticket ∈ lost, ticket.transferId ∈ s.cancelled) :
    Accounted { s with
      connected, channel, ready
      commandBudget := budget
      settled := s.settled ++ lost.map (·.transferId) } := by
  have perm : (placed { s with
      connected, channel, ready
      commandBudget := budget
      settled := s.settled ++ lost.map (·.transferId) }).Perm (placed s) := by
    rw [List.perm_iff_count]
    intro id
    have same := (moved.map (·.transferId)).count_eq id
    simp only [count_placed, List.map_append, List.count_append] at same ⊢
    simp only [waiting] at same ⊢
    omega
  refine { accounted with known := ?_, nodup := ?_, handles := ?_, pending := ?_, told := ?_ }
  · intro id there
    exact accounted.known id (perm.mem_iff.mp there)
  · exact perm.nodup_iff.mpr accounted.nodup
  · have fewer := moved.countP_eq (·.upload)
    have handles := accounted.handles
    rw [List.countP_append] at fewer
    simp only [waiting] at fewer handles ⊢
    omega
  · intro ticket there
    refine accounted.pending ticket ?_
    simp only [begun, List.mem_append] at there ⊢
    exact there.imp_left fun waits => moved.mem_iff.mpr (List.mem_append_right _ waits)
  · intro id live
    have absent : (lost.map (·.transferId)).count id = 0 := by
      rw [List.count_eq_zero, List.mem_map]
      rintro ⟨ticket, listed, rfl⟩
      exact live (given ticket listed)
    simpa [absent] using accounted.told id live

/-- Commands move on. -/
theorem accounted_moved (accounted : Accounted s) (connected : Bool)
    (channel ready : List Command) (budget : CommandBudget)
    (moved : (waiting s).Perm ((channel ++ budget.queue ++ ready).filterMap ticketOf)) :
    Accounted { s with connected, channel, ready, commandBudget := budget } := by
  have lost := accounted_lost accounted [] connected channel ready budget moved (by simp)
  simpa using lost

/-- Below the end of the counter, the fresh id is the value of the counter. -/
theorem freshTransferId_toNat (counter : 1 ≤ s.nextTransferId ∧ s.nextTransferId < 65535) :
    s.freshTransferId.toNat = s.nextTransferId := by
  unfold freshTransferId
  rw [UInt16.toNat_ofNat']
  omega

theorem freshTransferId_notMem (accounted : Accounted s) (below : s.nextTransferId < 65535) :
    s.freshTransferId ∉ placed s := by
  intro there
  have known := accounted.known s.freshTransferId there
  have fresh := freshTransferId_toNat ⟨accounted.counter.1, below⟩
  omega

theorem count_eq (below : s.nextTransferId < 65535) :
    s.count = { s with nextTransferId := s.nextTransferId + 1 } := by
  have small : (s.nextTransferId + 1) % 2 ^ 32 = s.nextTransferId + 1 := by omega
  unfold TransferSession.count
  rw [small]

/-- An id is used up; only what was pending under it may change. -/
theorem accounted_count (accounted : Accounted s) (below : s.nextTransferId < 65535)
    (pending : Option PendingTransfer) :
    Accounted { s with
      nextTransferId := s.nextTransferId + 1
      pendingTransfers := Function.update s.pendingTransfers s.freshTransferId pending } := by
  refine { accounted with counter := ?_, known := ?_, handles := ?_, pending := ?_ }
  · have counter := accounted.counter
    dsimp only
    omega
  · intro id there
    have known := accounted.known id there
    dsimp only
    omega
  · have handles := accounted.handles
    simp only [waiting] at handles ⊢
    omega
  · intro ticket there download live
    have begun : ticket.transferId ∈ placed s := by
      simp only [placed, List.mem_append, List.mem_map]
      exact .inl (.inl ⟨ticket, there, rfl⟩)
    have different : ticket.transferId ≠ s.freshTransferId := by
      intro same
      exact freshTransferId_notMem accounted below (same ▸ begun)
    dsimp only
    rw [Function.update_of_ne different]
    exact accounted.pending ticket there download live

/-- A command of a transfer whose id is new enters the channel. -/
theorem accounted_begin (accounted : Accounted s) (command : Command) (ticket : Ticket)
    (carries : ticketOf command = some ticket) (fresh : ticket.transferId ∉ placed s)
    (below : ticket.transferId.toNat < s.nextTransferId)
    (room : s.curFiletransferId.toNat + (waiting s).countP (·.upload) + 1 < s.nextTransferId)
    (registered : ticket.upload = false → (s.pendingTransfers ticket.transferId).isSome = true) :
    Accounted { s with channel := s.channel ++ [command] } := by
  have moved : (waiting { s with channel := s.channel ++ [command] }).Perm
      (ticket :: waiting s) := by
    simp only [waiting, List.append_assoc, List.filterMap_append, List.filterMap_cons, carries,
      List.singleton_append]
    exact List.perm_middle
  have perm : (placed { s with channel := s.channel ++ [command] }).Perm
      (ticket.transferId :: placed s) := by
    rw [List.perm_iff_count]
    intro id
    have same := (moved.map (·.transferId)).count_eq id
    simp only [count_placed, List.count_cons, List.map_cons] at same ⊢
    omega
  refine { accounted with known := ?_, nodup := ?_, handles := ?_, pending := ?_ }
  · intro id there
    rcases List.mem_cons.mp (perm.mem_iff.mp there) with rfl | there
    · exact below
    · exact accounted.known id there
  · exact perm.nodup_iff.mpr (List.nodup_cons.mpr ⟨fresh, accounted.nodup⟩)
  · have more := moved.countP_eq (·.upload)
    rw [List.countP_cons] at more
    dsimp only at more ⊢
    split at more <;> omega
  · intro other there download live
    simp only [begun, List.mem_append, moved.mem_iff, List.mem_cons] at there
    rcases there with (rfl | there) | there
    · exact registered download
    · exact accounted.pending other (List.mem_append_left _ there) download live
    · exact accounted.pending other (List.mem_append_right _ there) download live

/-- What the app is given is no part of the account. -/
theorem accounted_hand {returned : TransferSession × UInt16} (accounted : Accounted returned.1) :
    Accounted (hand returned) := by
  unfold hand
  split
  · exact accounted
  · exact { accounted with }

theorem accounted_downloadFile (accounted : Accounted s) (call : DownloadCall) (queued : Bool)
    (below : (s.acceptedDownload call).isNone = true ∨ s.nextTransferId < 65535) :
    Accounted (s.downloadFile call queued).1 := by
  unfold downloadFile
  split
  next refused => exact accounted
  next remote target accepted =>
    have below : s.nextTransferId < 65535 := by simpa [accepted] using below
    have fresh := freshTransferId_toNat ⟨accounted.counter.1, below⟩
    have handles := accounted.handles
    rw [count_eq below]
    dsimp only
    split
    · have counted := accounted_count accounted below
        (some ⟨target, call.maxBytes.toNat, remote⟩)
      refine accounted_begin counted _ ⟨false, s.freshTransferId⟩ rfl
        (freshTransferId_notMem accounted below) ?_ ?_ ?_
      · dsimp only
        omega
      · simp only [waiting] at handles ⊢
        omega
      · intro _
        simp
    · exact accounted_count accounted below none

theorem accounted_uploadFile (accounted : Accounted s) (call : UploadCall) (queued : Bool)
    (below : (s.acceptedUpload call).isNone = true ∨ s.nextTransferId < 65535) :
    Accounted (s.uploadFile call queued).1 := by
  unfold uploadFile
  split
  next refused => exact accounted
  next remote source size accepted =>
    have below : s.nextTransferId < 65535 := by simpa [accepted] using below
    have fresh := freshTransferId_toNat ⟨accounted.counter.1, below⟩
    have handles := accounted.handles
    have counted := accounted_count accounted below (s.pendingTransfers s.freshTransferId)
    rw [Function.update_eq_self] at counted
    rw [count_eq below]
    dsimp only
    split
    · refine accounted_begin counted _ ⟨true, s.freshTransferId⟩ rfl
        (freshTransferId_notMem accounted below) ?_ ?_ ?_
      · dsimp only
        omega
      · simp only [waiting] at handles ⊢
        omega
      · intro download
        cases download
    · exact counted

theorem cancelFileTransfer_cancelled (s : TransferSession) (id : UInt32) :
    (s.cancelFileTransfer id).1.cancelled = s.cancelled := by
  unfold cancelFileTransfer
  dsimp only
  split_ifs <;> rfl

theorem cancelFileTransfer_of_not_found {id : UInt32}
    (notFound : ¬(s.cancelFileTransfer id).2 = true) : (s.cancelFileTransfer id).1 = s := by
  unfold cancelFileTransfer at notFound ⊢
  dsimp only at notFound ⊢
  split_ifs at notFound ⊢ <;> first | rfl | exact absurd rfl notFound

theorem valid_of_found {id : UInt32} (found : (s.cancelFileTransfer id).2 = true) :
    id ≠ 0 ∧ ¬65535 < id.toNat := by
  unfold cancelFileTransfer at found
  split at found
  · cases found
  next valid => exact not_or.mp valid

/-- A cancel takes away what only its own transfer needs. -/
theorem accounted_cancel (accounted : Accounted s) (id : UInt32)
    (found : (s.cancelFileTransfer id).2 = true)
    (own : (s.pendingTransfers id.toUInt16).isSome = true ∨
      ∀ job, s.uploadJobs id.toUInt16 = some job → job.transferId = id.toUInt16) :
    Accounted { (s.cancelFileTransfer id).1 with
      cancelled := s.cancelled ++ [id.toUInt16] } := by
  unfold cancelFileTransfer at found ⊢
  split at found
  · cases found
  next valid =>
  rw [if_neg valid]
  dsimp only at found ⊢
  split at found
  next isPending =>
    rw [if_pos isPending]
    refine { accounted with kept := ?_, pending := ?_, told := ?_ }
    · intro r listed upload live
      exact accounted.kept r listed upload (by simp_all)
    · intro ticket there download live
      have different : ticket.transferId ≠ id.toUInt16 := by simp_all
      dsimp only
      rw [Function.update_of_ne different]
      exact accounted.pending ticket there download (by simp_all)
    · intro other live
      exact accounted.told other (by simp_all)
  next notPending =>
    rw [if_neg notPending]
    split at found
    next hasJob =>
      rw [if_pos hasJob]
      obtain ⟨job, stored⟩ := Option.isSome_iff_exists.mp hasJob
      have mine : job.transferId = id.toUInt16 := by
        rcases own with isPending | own
        · exact absurd isPending notPending
        · exact own job stored
      have others : ∀ number, (∀ found, s.uploadJobs number = some found →
          found.transferId ≠ id.toUInt16) →
          Function.update s.uploadJobs id.toUInt16 none number = s.uploadJobs number := by
        intro number free
        refine Function.update_of_ne ?_ _ _
        rintro rfl
        exact free job stored mine
      refine { accounted with jobs := ?_, kept := ?_, pending := ?_, told := ?_ }
      · intro r listed upload found kept
        dsimp only at kept
        by_cases same : r.number = id.toUInt16
        · simp [same] at kept
        · rw [Function.update_of_ne same] at kept
          exact accounted.jobs r listed upload found kept
      · intro r listed upload live
        have alive : r.transferId ≠ id.toUInt16 := by simp_all
        dsimp only
        rw [others r.number]
        · exact accounted.kept r listed upload (by simp_all)
        · intro found kept
          rw [accounted.jobs r listed upload found kept]
          exact alive
      · intro ticket there download live
        exact accounted.pending ticket there download (by simp_all)
      · intro other live
        exact accounted.told other (by simp_all)
    · cases found

/-- No command of a transfer replaces another or is replaced. -/
theorem ticketOf_of_supersedes {newer older : Command}
    (supersedes : newer.supersedes older = true) :
    ticketOf newer = none ∧ ticketOf older = none := by
  cases newer <;> cases older <;> simp_all [Command.supersedes, ticketOf]

theorem transferOf_eq (command : Command) :
    transferOf command = (ticketOf command).map (·.transferId) := by
  cases command <;> rfl

theorem toList_ticketOf (command : Command) :
    (ticketOf command).toList = [command].filterMap ticketOf := by
  cases command <;> rfl

/-- What enters the queue and what a full queue loses. -/
theorem enqueue_tickets (budget : CommandBudget) (command : Command) :
    ((command :: budget.queue).filterMap ticketOf).Perm
      (((droppedBy budget command).bind ticketOf).toList ++
        (budget.enqueue command).queue.filterMap ticketOf) := by
  rcases budget.enqueue_cases command with
    ⟨older, old, between, queue, supersedes, found, enqueued⟩ | ⟨found, full, enqueued⟩ |
    ⟨found, room, enqueued⟩
  · obtain ⟨new, gone⟩ := ticketOf_of_supersedes supersedes
    have dropped : droppedBy budget command = none := by simp [droppedBy, found]
    rw [dropped, enqueued, queue]
    simp [new, gone]
  · have dropped : droppedBy budget command = budget.queue.head? := by
      unfold droppedBy
      rw [found]
      simp [full]
    rw [dropped, enqueued]
    cases queue : budget.queue with
    | nil => simp [queue, CommandBudget.MAX_QUEUE] at full
    | cons head rest =>
      simp only [List.head?_cons, Option.bind_some, List.tail_cons]
      rw [toList_ticketOf, ← List.filterMap_append]
      exact (List.perm_append_singleton command (head :: rest)).symm.filterMap ticketOf
  · have dropped : droppedBy budget command = none := by simp [droppedBy, room]
    rw [dropped, enqueued]
    exact (List.perm_append_singleton command budget.queue).symm.filterMap ticketOf

/-- A command moves from the channel to the queue. -/
theorem waiting_enqueue {command : Command} {channel : List Command}
    (listed : s.channel = command :: channel) : (waiting s).Perm
      (((droppedBy s.commandBudget command).bind ticketOf).toList ++
        (channel ++ (s.commandBudget.enqueue command).queue ++ s.ready).filterMap ticketOf) := by
  have moved := enqueue_tickets s.commandBudget command
  rw [← List.singleton_append, List.perm_iff_count] at moved
  rw [← List.singleton_append] at listed
  rw [List.perm_iff_count]
  intro ticket
  have same := moved ticket
  simp only [waiting, listed, List.filterMap_append, List.count_append] at same ⊢
  omega

theorem accounted_receive {t : TransferSession} (accounted : Accounted s)
    (spared : orderly s .receive = true) (received : s.receive = some t) : Accounted t := by
  unfold receive at received
  simp only [orderly] at spared
  split at received
  · cases received
  next command channel listed =>
  simp only [listed] at spared received
  split at received
  next samples =>
    obtain rfl := Option.some.inj received
    refine accounted_moved accounted _ _ _ _ ?_
    simp [waiting, listed, List.filterMap_cons, ticketOf]
  next =>
    obtain rfl := Option.some.inj received
    refine accounted_moved accounted _ _ _ _ ?_
    simp [waiting, listed, List.filterMap_cons, ticketOf]
  next notAudio notDisconnect =>
    obtain rfl := Option.some.inj received
    have lost : (((droppedBy s.commandBudget command).bind ticketOf).toList).map (·.transferId) =
        ((droppedBy s.commandBudget command).bind transferOf).toList := by
      cases droppedBy s.commandBudget command with
      | none => rfl
      | some head =>
        simp only [Option.bind_some, transferOf_eq]
        cases ticketOf head <;> rfl
    rw [← lost]
    refine accounted_lost accounted _ _ channel s.ready (s.commandBudget.enqueue command) ?_ ?_
    · exact waiting_enqueue listed
    · intro ticket listed
      have dropped : (droppedBy s.commandBudget command).bind transferOf =
          some ticket.transferId := by
        rw [← Option.mem_toList, ← lost]
        exact List.mem_map_of_mem listed
      split at spared
      next nothing => cases nothing
      next audio => exact absurd (List.cons.inj audio).1 (notAudio _)
      next disconnect => exact absurd (List.cons.inj disconnect).1 notDisconnect
      next same =>
        obtain ⟨rfl, rfl⟩ := List.cons.inj same
        simpa [dropped] using spared

theorem accounted_take (accounted : Accounted s) (now : Instant) : Accounted (s.take now) := by
  refine accounted_moved accounted s.connected s.channel _ _ ?_
  have queue := s.commandBudget.takeReady_queue now
  simp only [waiting, queue, List.append_assoc, List.filterMap_append]
  refine List.Perm.append_left _ ?_
  rw [← List.append_assoc _ (s.ready.filterMap ticketOf)]
  exact List.perm_append_comm

/-- The command that the loop runs next. -/
theorem waiting_ready {command : Command} {ready : List Command}
    (listed : s.ready = command :: ready) :
    (waiting s).Perm ((ticketOf command).toList ++
      (s.channel ++ s.commandBudget.queue ++ ready).filterMap ticketOf) := by
  simp only [waiting, listed]
  rw [toList_ticketOf, ← List.filterMap_append]
  exact List.perm_middle.filterMap ticketOf

/-- A command goes out as a request: a download under its own id, an upload under the
next number of the library. -/
theorem accounted_request (accounted : Accounted s) (r : TransferRequest) {ready : List Command}
    (left : (waiting s).Perm
      (ticket r :: (s.channel ++ s.commandBudget.queue ++ ready).filterMap ticketOf))
    (jobs : UInt16 → Option UploadJob) (next : UInt16)
    (counted : next.toNat = s.curFiletransferId.toNat + if r.upload then 1 else 0)
    (download : r.upload = false → r.number = r.transferId)
    (upload : r.upload = true → r.number = s.curFiletransferId ∧
      ∃ job, jobs r.number = some job ∧ job.transferId = r.transferId)
    (same : ∀ number, number.toNat < s.curFiletransferId.toNat →
      jobs number = s.uploadJobs number) :
    Accounted { s with
      ready
      uploadJobs := jobs
      curFiletransferId := next
      requests := s.requests ++ [r] } := by
  have perm : (placed { s with
      ready
      uploadJobs := jobs
      curFiletransferId := next
      requests := s.requests ++ [r] }).Perm (placed s) := by
    rw [List.perm_iff_count]
    intro other
    have same := (left.map (·.transferId)).count_eq other
    simp only [count_placed, List.map_cons, List.map_append, List.map_nil, List.count_append,
      List.count_cons, List.count_nil] at same ⊢
    rw [show (ticket r).transferId = r.transferId from rfl] at same
    simp only [waiting] at same ⊢
    omega
  refine { accounted with
    known := ?_, nodup := ?_, handles := ?_, numbers := ?_, distinct := ?_, downloads := ?_,
    jobs := ?_, kept := ?_, pending := ?_ }
  · intro other there
    exact accounted.known other (perm.mem_iff.mp there)
  · exact perm.nodup_iff.mpr accounted.nodup
  · have fewer := left.countP_eq (·.upload)
    have handles := accounted.handles
    simp only [waiting, ticket, List.countP_cons] at fewer handles ⊢
    omega
  · simp only [List.forall_mem_append, List.forall_mem_singleton]
    refine ⟨fun q listed isUpload => ?_, fun isUpload => ?_⟩
    · have below := accounted.numbers q listed isUpload
      omega
    · rw [(upload isUpload).1, counted, if_pos isUpload]
      omega
  · dsimp only
    rw [List.pairwise_append]
    refine ⟨accounted.distinct, List.pairwise_singleton _ _, ?_⟩
    simp only [List.forall_mem_singleton]
    intro q listed isUpload last
    have below := accounted.numbers q listed isUpload
    rw [(upload last).1]
    rintro equal
    rw [equal] at below
    omega
  · simp only [List.forall_mem_append, List.forall_mem_singleton]
    exact ⟨accounted.downloads, download⟩
  · simp only [List.forall_mem_append, List.forall_mem_singleton]
    refine ⟨fun q listed isUpload => ?_, fun isUpload job stored => ?_⟩
    · rw [same q.number (accounted.numbers q listed isUpload)]
      exact accounted.jobs q listed isUpload
    · obtain ⟨mine, held, own⟩ := (upload isUpload).2
      rw [held] at stored
      exact Option.some.inj stored ▸ own
  · simp only [List.forall_mem_append, List.forall_mem_singleton]
    refine ⟨fun q listed isUpload => ?_, fun isUpload _ => ?_⟩
    · rw [same q.number (accounted.numbers q listed isUpload)]
      exact accounted.kept q listed isUpload
    · obtain ⟨mine, held, own⟩ := (upload isUpload).2
      rw [held]
      rfl
  · intro begunTicket there
    refine accounted.pending begunTicket ?_
    simp only [begun, List.mem_append, List.map_append, List.map_cons, List.map_nil,
      List.mem_singleton] at there ⊢
    rcases there with waits | requested | rfl
    · exact .inl (left.mem_iff.mpr (List.mem_cons_of_mem _ waits))
    · exact .inr requested
    · exact .inl (left.mem_iff.mpr List.mem_cons_self)

/-- An upload that could not be sent is over and told. -/
theorem accounted_refusedUpload (accounted : Accounted s) (event : FileTransferEvent)
    {ready : List Command} (own : event.transferId = event.cause)
    (left : (waiting s).Perm (⟨true, event.transferId⟩ ::
      (s.channel ++ s.commandBudget.queue ++ ready).filterMap ticketOf))
    (counted : (s.curFiletransferId + 1).toNat = s.curFiletransferId.toNat + 1) :
    Accounted { s with
      ready
      curFiletransferId := s.curFiletransferId + 1
      events := s.events ++ [event]
      settled := s.settled ++ [event.transferId] } := by
  have perm : (placed { s with
      ready
      curFiletransferId := s.curFiletransferId + 1
      events := s.events ++ [event]
      settled := s.settled ++ [event.transferId] }).Perm (placed s) := by
    rw [List.perm_iff_count]
    intro other
    have same := (left.map (·.transferId)).count_eq other
    simp only [count_placed, List.map_cons, List.count_append, List.count_cons,
      List.count_nil] at same ⊢
    simp only [waiting] at same ⊢
    omega
  refine { accounted with
    known := ?_, nodup := ?_, handles := ?_, numbers := ?_, pending := ?_, own := ?_, told := ?_ }
  · intro other there
    exact accounted.known other (perm.mem_iff.mp there)
  · exact perm.nodup_iff.mpr accounted.nodup
  · have fewer := left.countP_eq (·.upload)
    have handles := accounted.handles
    simp only [waiting, List.countP_cons, if_true] at fewer handles ⊢
    omega
  · intro r listed upload
    have below := accounted.numbers r listed upload
    dsimp only
    omega
  · intro ticket there
    refine accounted.pending ticket ?_
    simp only [begun, List.mem_append] at there ⊢
    exact there.imp_left fun waits => left.mem_iff.mpr (List.mem_cons_of_mem _ waits)
  · simp only [List.forall_mem_append, List.forall_mem_singleton]
    exact ⟨accounted.own, own⟩
  · intro id live
    have told := accounted.told id live
    simp [told]

theorem accounted_execute {t : TransferSession} (accounted : Accounted s) {sent : Bool}
    (met : orderly s (.execute sent) = true) (executed : s.execute sent = some t) :
    Accounted t := by
  unfold execute at executed
  simp only [orderly] at met
  split at executed
  · cases executed
  next command ready listed =>
  simp only [listed] at met executed
  have left := waiting_ready listed
  split at executed
  next id channelId password remotePath =>
    obtain rfl := Option.some.inj executed
    unfold sendDownload
    split
    next went =>
      exact accounted_request accounted ⟨false, id, id⟩ left s.uploadJobs s.curFiletransferId rfl
        (fun _ => rfl) (by simp) (fun _ _ => rfl)
    next failed =>
      refine accounted_lost accounted [⟨false, id⟩] _ _ _ _ left ?_
      simpa [failed] using met
  next id channelId password remotePath sourcePath size overwrite =>
    obtain rfl := Option.some.inj executed
    have room : s.curFiletransferId.toNat + 1 < 65536 := by
      have more := left.countP_eq (·.upload)
      have handles := accounted.handles
      have counter := accounted.counter
      simp only [ticketOf, Option.toList_some, List.singleton_append, List.countP_cons,
        if_true] at more
      omega
    have counted : (s.curFiletransferId + 1).toNat = s.curFiletransferId.toNat + 1 := by
      rw [UInt16.toNat_add]
      exact Nat.mod_eq_of_lt room
    unfold sendUpload
    dsimp only
    split
    next went =>
      refine accounted_request accounted ⟨true, s.curFiletransferId, id⟩ left _ _ counted
        (by simp) (fun _ => ⟨rfl, ⟨id, sourcePath, remotePath⟩, by simp, rfl⟩) ?_
      intro number below
      refine Function.update_of_ne ?_ _ _
      rintro rfl
      omega
    next failed =>
      exact accounted_refusedUpload accounted (refused id remotePath id) rfl left counted
  next notDownload notUpload =>
    obtain rfl := Option.some.inj executed
    have nothing : ticketOf command = none := by
      cases command with
      | downloadFile => exact absurd rfl (notDownload _ _ _ _)
      | uploadFile => exact absurd rfl (notUpload _ _ _ _ _ _ _)
      | _ => rfl
    rw [nothing] at left
    exact accounted_moved accounted _ _ _ _ left

/-- No other upload has the number of this one. -/
theorem Accounted.number_ne (accounted : Accounted s) {position : Nat} {r : TransferRequest}
    (found : s.requests[position]? = some r) (upload : r.upload = true) :
    ∀ q ∈ s.requests.eraseIdx position, q.upload = true → q.number ≠ r.number := by
  have perm := erased_perm found
  have distinct := (perm.pairwise_iff (fun differ first second =>
    (differ second first).symm)).mp accounted.distinct
  intro q listed isUpload
  exact (List.rel_of_pairwise_cons distinct listed upload isUpload).symm

/-- No other transfer that waits has the id of this one. -/
theorem Accounted.transferId_ne (accounted : Accounted s) {position : Nat} {r : TransferRequest}
    (found : s.requests[position]? = some r) :
    ∀ other ∈ waiting s ++ (s.requests.eraseIdx position).map ticket,
      other.transferId ≠ r.transferId := by
  have perm := ((erased_perm found).map (·.transferId)).count_eq r.transferId
  have once := List.nodup_iff_count.mp accounted.nodup r.transferId
  simp only [count_placed, List.map_cons, List.count_cons_self] at once perm
  have absent : ((waiting s ++ (s.requests.eraseIdx position).map ticket).map
      (·.transferId)).count r.transferId = 0 := by
    rw [List.map_append, List.count_append, List.map_map]
    have requested : (s.requests.eraseIdx position).map ((·.transferId) ∘ ticket) =
        (s.requests.eraseIdx position).map (·.transferId) := rfl
    rw [requested]
    omega
  intro other there same
  exact List.count_eq_zero.mp absent (List.mem_map.mpr ⟨other, there, same⟩)

/-- A request is answered: its stream opens, or it is over. -/
theorem accounted_answered (accounted : Accounted s) {position : Nat} {r : TransferRequest}
    (found : s.requests[position]? = some r) (jobs : UInt16 → Option UploadJob)
    (pending : UInt16 → Option PendingTransfer) (opened : List TransferStream)
    (told : List FileTransferEvent) (closed : List UInt16)
    (placedOnce : opened.map (·.cause) ++ closed = [r.transferId])
    (sameJobs : ∀ q ∈ s.requests.eraseIdx position, q.upload = true →
      jobs q.number = s.uploadJobs q.number)
    (samePending : ∀ id, id ≠ r.transferId → pending id = s.pendingTransfers id)
    (ownStreams : ∀ stream ∈ opened, stream.transferId = stream.cause)
    (ownEvents : ∀ event ∈ told, event.transferId = event.cause)
    (settled : ∀ id, id ∉ s.cancelled → (told.map (·.transferId)).count id = closed.count id) :
    Accounted { s with
      pendingTransfers := pending
      uploadJobs := jobs
      requests := s.requests.eraseIdx position
      streams := s.streams ++ opened
      events := s.events ++ told
      settled := s.settled ++ closed } := by
  have answered := erased_perm found
  have remains : ∀ q ∈ s.requests.eraseIdx position, q ∈ s.requests :=
    fun q listed => List.mem_of_mem_eraseIdx listed
  have perm : (placed { s with
      pendingTransfers := pending
      uploadJobs := jobs
      requests := s.requests.eraseIdx position
      streams := s.streams ++ opened
      events := s.events ++ told
      settled := s.settled ++ closed }).Perm (placed s) := by
    rw [List.perm_iff_count]
    intro other
    have same := (answered.map (·.transferId)).count_eq other
    have moved := congrArg (List.count other) placedOnce
    simp only [count_placed, List.map_append, List.map_cons, List.count_append, List.count_cons,
      List.count_nil] at same moved ⊢
    simp only [waiting]
    omega
  refine { accounted with
    known := ?_, nodup := ?_, numbers := ?_, distinct := ?_, downloads := ?_, jobs := ?_,
    kept := ?_, pending := ?_, streams := ?_, own := ?_, told := ?_ }
  · intro other there
    exact accounted.known other (perm.mem_iff.mp there)
  · exact perm.nodup_iff.mpr accounted.nodup
  · intro q listed
    exact accounted.numbers q (remains q listed)
  · exact accounted.distinct.sublist (List.eraseIdx_sublist _ _)
  · intro q listed
    exact accounted.downloads q (remains q listed)
  · intro q listed upload
    dsimp only
    rw [sameJobs q listed upload]
    exact accounted.jobs q (remains q listed) upload
  · intro q listed upload
    dsimp only
    rw [sameJobs q listed upload]
    exact accounted.kept q (remains q listed) upload
  · intro other there
    dsimp only
    rw [samePending _ (accounted.transferId_ne found other there)]
    refine accounted.pending other ?_
    simp only [begun, List.mem_append, List.mem_map] at there ⊢
    refine there.imp_right ?_
    rintro ⟨q, listed, rfl⟩
    exact ⟨q, remains q listed, rfl⟩
  · simp only [List.forall_mem_append]
    exact ⟨accounted.streams, ownStreams⟩
  · simp only [List.forall_mem_append]
    exact ⟨accounted.own, ownEvents⟩
  · intro id live
    simp only [List.map_append, List.count_append]
    rw [accounted.told id live, settled id live]

/-- A cancelled transfer is over without an event. -/
theorem accounted_forgotten (accounted : Accounted s) {position : Nat} {r : TransferRequest}
    (found : s.requests[position]? = some r) (cancelled : r.transferId ∈ s.cancelled) :
    Accounted { s with
      requests := s.requests.eraseIdx position
      settled := s.settled ++ [r.transferId] } := by
  have answered := accounted_answered accounted found s.uploadJobs s.pendingTransfers [] []
    [r.transferId] rfl (fun _ _ _ => rfl) (fun _ _ => rfl) (by simp) (by simp) ?_
  · simpa using answered
  · intro id live
    have different : r.transferId ≠ id := by
      rintro rfl
      exact live cancelled
    simp [different]

theorem accounted_failed (accounted : Accounted s) {position : Nat} {r : TransferRequest}
    (found : s.requests[position]? = some r)
    (met : r.upload = true ∨ r.transferId ∈ s.cancelled ∧ (s.uploadJobs r.number).isNone = true) :
    Accounted ({ s with
      requests := s.requests.eraseIdx position }.handleFiletransferFailed r) := by
  have listed : r ∈ s.requests := List.mem_of_getElem? found
  unfold handleFiletransferFailed
  dsimp only
  split
  next job stored =>
    have upload : r.upload = true := by simpa [stored] using met
    have own := accounted.jobs r listed upload job stored
    have answered := accounted_answered accounted found
      (Function.update s.uploadJobs r.number none) s.pendingTransfers []
      [refused job.transferId "" r.transferId] [r.transferId] rfl ?_ (fun _ _ => rfl) (by simp)
      (by simpa [refused] using own) (by simp [refused, own])
    · simpa using answered
    · intro q remains isUpload
      exact Function.update_of_ne (accounted.number_ne found upload q remains isUpload) _ _
  next nothing =>
    refine accounted_forgotten accounted found ?_
    rcases met with upload | ⟨cancelled, _⟩
    · by_contra live
      have kept := accounted.kept r listed upload live
      simp [nothing] at kept
    · exact cancelled

theorem accounted_fileDownload (accounted : Accounted s) {position : Nat} {r : TransferRequest}
    (found : s.requests[position]? = some r) (download : r.upload = false) :
    Accounted ({ s with
      requests := s.requests.eraseIdx position }.handleFileDownload r) := by
  have listed : r ∈ s.requests := List.mem_of_getElem? found
  have number := accounted.downloads r listed download
  unfold handleFileDownload
  dsimp only
  split
  next job stored =>
    have answered := accounted_answered accounted found s.uploadJobs
      (Function.update s.pendingTransfers r.number none)
      [⟨r.number, job.remotePath, job.targetPath, r.transferId⟩] [] [] rfl (fun _ _ _ => rfl)
      (fun id different => Function.update_of_ne (number ▸ different) _ _)
      (by simpa using number) (by simp) (by simp)
    simpa using answered
  next nothing =>
    refine accounted_forgotten accounted found ?_
    by_contra live
    have waits : ticket r ∈ begun s := List.mem_append_right _ (List.mem_map_of_mem listed)
    have pending := accounted.pending (ticket r) waits download live
    simp [ticket, ← number, nothing] at pending

theorem accounted_fileUpload (accounted : Accounted s) {position : Nat} {r : TransferRequest}
    (found : s.requests[position]? = some r) (upload : r.upload = true) :
    Accounted ({ s with
      requests := s.requests.eraseIdx position }.handleFileUpload r) := by
  have listed : r ∈ s.requests := List.mem_of_getElem? found
  unfold handleFileUpload
  dsimp only
  split
  next job stored =>
    have own := accounted.jobs r listed upload job stored
    have answered := accounted_answered accounted found
      (Function.update s.uploadJobs r.number none) s.pendingTransfers
      [⟨job.transferId, job.remotePath, job.sourcePath, r.transferId⟩] [] [] rfl ?_
      (fun _ _ => rfl) (by simpa using own) (by simp) (by simp)
    · simpa using answered
    · intro q remains isUpload
      exact Function.update_of_ne (accounted.number_ne found upload q remains isUpload) _ _
  next nothing =>
    refine accounted_forgotten accounted found ?_
    by_contra live
    have kept := accounted.kept r listed upload live
    simp [nothing] at kept

theorem accounted_answer {t : TransferSession} (accounted : Accounted s) {position : Nat}
    {ok : Bool} (met : orderly s (.answer position ok) = true)
    (answered : s.answer position ok = some t) : Accounted t := by
  unfold answer at answered
  obtain ⟨r, found, rfl⟩ := Option.map_eq_some_iff.mp answered
  cases ok with
  | false =>
    refine accounted_failed accounted found ?_
    simpa [orderly, found] using met
  | true =>
    simp only [Bool.not_true, Bool.false_eq_true, if_false]
    split
    next upload => exact accounted_fileUpload accounted found upload
    next download => exact accounted_fileDownload accounted found (by simpa using download)

theorem accounted_streamEnded (accounted : Accounted s) {position : Nat}
    {stream : TransferStream} (found : s.streams[position]? = some stream)
    (event : FileTransferEvent) (about : event.transferId = stream.transferId)
    (due : event.cause = stream.cause) :
    Accounted { s with
      streams := s.streams.eraseIdx position
      events := s.events ++ [event]
      settled := s.settled ++ [stream.cause] } := by
  have own := accounted.streams stream (List.mem_of_getElem? found)
  have perm : (placed { s with
      streams := s.streams.eraseIdx position
      events := s.events ++ [event]
      settled := s.settled ++ [stream.cause] }).Perm (placed s) := by
    rw [List.perm_iff_count]
    intro other
    have same := ((erased_perm found).map (·.cause)).count_eq other
    simp only [count_placed, List.map_cons, List.count_append, List.count_cons,
      List.count_nil] at same ⊢
    simp only [waiting]
    omega
  refine { accounted with known := ?_, nodup := ?_, streams := ?_, own := ?_, told := ?_ }
  · intro other there
    exact accounted.known other (perm.mem_iff.mp there)
  · exact perm.nodup_iff.mpr accounted.nodup
  · intro other listed
    exact accounted.streams other (List.mem_of_mem_eraseIdx listed)
  · simp only [List.forall_mem_append, List.forall_mem_singleton]
    exact ⟨accounted.own, by rw [about, due, own]⟩
  · intro id live
    have told := accounted.told id live
    simp [told, about, own]

theorem accounted_endStream {t : TransferSession} (accounted : Accounted s) {position : Nat}
    {result : Except String Nat} (ended : s.endStream position result = some t) :
    Accounted t := by
  unfold endStream at ended
  obtain ⟨stream, found, rfl⟩ := Option.map_eq_some_iff.mp ended
  cases result with
  | ok bytes => exact accounted_streamEnded accounted found _ rfl rfl
  | error reason => exact accounted_streamEnded accounted found _ rfl rfl

theorem accounted_step {t : TransferSession} {action : Action} (accounted : Accounted s)
    (met : orderly s action = true) (taken : s.step action = some t) : Accounted t := by
  cases action with
  | downloadFile call queued =>
    obtain rfl := Option.some.inj taken
    refine accounted_hand (accounted_downloadFile accounted call queued ?_)
    simpa [orderly] using met
  | uploadFile call queued =>
    obtain rfl := Option.some.inj taken
    refine accounted_hand (accounted_uploadFile accounted call queued ?_)
    simpa [orderly] using met
  | cancelFileTransfer id =>
    simp only [TransferSession.step, Option.some.injEq] at taken
    split at taken <;> subst taken
    next found =>
      rw [cancelFileTransfer_cancelled]
      refine accounted_cancel accounted id found ?_
      obtain ⟨notZero, small⟩ := valid_of_found found
      simpa [orderly, notZero, small, Option.all_eq_true] using met
    next notFound =>
      rw [cancelFileTransfer_of_not_found notFound]
      exact accounted
  | queueCommand command =>
    simp only [TransferSession.step, Option.ite_none_left_eq_some, Option.some.injEq] at taken
    obtain ⟨notTransfer, rfl⟩ := taken
    have nothing : ticketOf command = none := by
      simpa [transferOf_eq] using notTransfer
    refine accounted_moved accounted _ _ _ _ ?_
    simp [waiting, nothing]
  | setConnected connected =>
    obtain rfl := Option.some.inj taken
    exact { accounted with }
  | receive => exact accounted_receive accounted met taken
  | take now =>
    obtain rfl := Option.some.inj taken
    exact accounted_take accounted now
  | enterDegraded now =>
    obtain rfl := Option.some.inj taken
    exact { accounted with }
  | execute sent => exact accounted_execute accounted met taken
  | answer position ok => exact accounted_answer accounted met taken
  | endStream position result => exact accounted_endStream accounted taken

theorem accounted_new (now : Instant) : Accounted (TransferSession.new now) where
  counter := by simp [TransferSession.new]
  known := by simp [placed, begun, waiting, TransferSession.new, CommandBudget.new]
  nodup := by simp [placed, begun, waiting, TransferSession.new, CommandBudget.new]
  handles := by simp [waiting, TransferSession.new, CommandBudget.new]
  numbers := by simp [TransferSession.new]
  distinct := by simp [TransferSession.new]
  downloads := by simp [TransferSession.new]
  jobs := by simp [TransferSession.new]
  kept := by simp [TransferSession.new]
  pending := by simp [begun, waiting, TransferSession.new, CommandBudget.new]
  streams := by simp [TransferSession.new]
  own := by simp [TransferSession.new]
  told := by simp [TransferSession.new]

end Accounted

/-- The transfers of a session that stays orderly have the outcome that they should have. -/
theorem transfers_have_one_outcome (now : Instant) (actions : List Action) (s : TransferSession)
    (run : Run TransferSession.step (fun t action => orderly t action = true)
      (.new now) actions s) : OneOutcome s := by
  have accounted : Accounted s := run.invariant Accounted (accounted_new now)
    (fun t action u accounted met taken => accounted_step accounted met taken)
  exact accounted.oneOutcome

/-- A download and an upload that both succeed. -/
def bothHistory : List Action :=
  [.downloadFile ⟨5, some "/a", none, some "/tmp/a", 1024⟩ true,
    .uploadFile ⟨5, some "/b", none, some "/tmp/b", some 512, false⟩ true,
    .receive, .receive, .take 0, .take 0, .execute true, .execute true,
    .answer 1 true, .answer 0 true, .endStream 0 (.ok 512), .endStream 0 (.ok 700)]

theorem both_transfers_have_one_outcome :
    ∃ s : TransferSession, s.returned = [1, 2] ∧ s.settled = [2, 1] ∧
      s.events.map (·.ok) = [true, true] ∧ OneOutcome s := by
  obtain ⟨s, run, reached⟩ := reaches_of_guarded orderly (show
    (exec (guarded orderly TransferSession.step) (.new 0) bothHistory).any (fun s =>
      s.returned == [1, 2] && s.settled == [2, 1] && s.events.map (·.ok) == [true, true]) = true by
    decide +kernel)
  simp only [Bool.and_eq_true, beq_iff_eq] at reached
  exact ⟨s, reached.1.1, reached.1.2, reached.2,
    transfers_have_one_outcome 0 bothHistory s run⟩

/-- The server refuses a download. -/
def refusedHistory : List Action :=
  [.downloadFile ⟨5, some "/a", none, some "/tmp/a", 1024⟩ true,
    .receive, .take 0, .execute true, .answer 0 false]

theorem refused_download_untold :
    ∃ s : TransferSession, Run TransferSession.step anyStep (.new 0) refusedHistory s ∧
      s.returned = [1] ∧ s.cancelled = [] ∧ s.events = [] ∧ ¬OneOutcome s := by
  obtain ⟨s, run, reached⟩ := reaches_of_exec anyStep (fun _ _ _ => trivial) (show
    (exec TransferSession.step (.new 0) refusedHistory).any (fun s =>
      s.returned == [1] && s.cancelled == [] && s.events == [] && s.settled == [1]) = true by
    decide +kernel)
  simp only [Bool.and_eq_true, beq_iff_eq] at reached
  obtain ⟨⟨⟨returned, cancelled⟩, events⟩, settled⟩ := reached
  refine ⟨s, run, returned, cancelled, events, fun outcome => ?_⟩
  have told := (outcome.once 1 (by simp [returned]) (by simp [cancelled])).1
  simp [events, settled] at told

end Nek0.Guarantees
