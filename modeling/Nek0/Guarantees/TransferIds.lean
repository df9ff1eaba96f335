import Nek0.Guarantees.TransferOutcomes

/-!
# Ids of transfers in flight

An id is the counter modulo 65535, with 1 in place of 0. A transfer may be in flight for as long as
it likes, so what counts is the value of the counter that it was started with.
-/

namespace Nek0.Guarantees

open Nek0.Library Nek0.Source Nek0.Source.TransferSession

section Moves

variable {s t : TransferSession} {action : Action}

/-- Commands move on, some are lost, and no more. -/
structure MovedOn (s t : TransferSession) : Prop where
  nextTransferId : t.nextTransferId = s.nextTransferId
  pendingTransfers : t.pendingTransfers = s.pendingTransfers
  uploadJobs : t.uploadJobs = s.uploadJobs
  requests : t.requests = s.requests
  streams : t.streams = s.streams
  waits : ∃ lost, (waiting s).Perm (lost ++ waiting t)

def movesOn : Action → Bool
  | .queueCommand _ | .setConnected _ | .receive | .take _ | .enterDegraded _ => true
  | _ => false

theorem MovedOn.subset (moved : MovedOn s t) : waiting t ⊆ waiting s := by
  obtain ⟨lost, same⟩ := moved.waits
  intro ticket listed
  exact same.mem_iff.mpr (List.mem_append_right lost listed)

theorem movedOn_receive (received : s.receive = some t) : MovedOn s t := by
  unfold receive at received
  split at received
  · cases received
  next command channel listed =>
  simp only at received
  split at received
  next samples =>
    obtain rfl := Option.some.inj received
    refine ⟨rfl, rfl, rfl, rfl, rfl, [], ?_⟩
    simp [waiting, listed, List.filterMap_cons, ticketOf]
  next =>
    obtain rfl := Option.some.inj received
    refine ⟨rfl, rfl, rfl, rfl, rfl, [], ?_⟩
    simp [waiting, listed, List.filterMap_cons, ticketOf]
  next =>
    obtain rfl := Option.some.inj received
    refine ⟨rfl, rfl, rfl, rfl, rfl,
      ((droppedBy s.commandBudget command).bind ticketOf).toList, ?_⟩
    exact waiting_enqueue listed

theorem movedOn_take (s : TransferSession) (now : Instant) : MovedOn s (s.take now) := by
  refine ⟨rfl, rfl, rfl, rfl, rfl, [], ?_⟩
  have queue := s.commandBudget.takeReady_queue now
  simp only [waiting, TransferSession.take, queue, List.append_assoc, List.filterMap_append,
    List.nil_append]
  refine List.Perm.append_left _ ?_
  rw [← List.append_assoc _ (s.ready.filterMap ticketOf)]
  exact List.perm_append_comm

theorem movedOn_step (only : movesOn action = true) (taken : s.step action = some t) :
    MovedOn s t := by
  cases action with
  | queueCommand command =>
    simp only [TransferSession.step, Option.ite_none_left_eq_some, Option.some.injEq] at taken
    obtain ⟨notTransfer, rfl⟩ := taken
    have nothing : ticketOf command = none := by
      simpa [transferOf_eq] using notTransfer
    refine ⟨rfl, rfl, rfl, rfl, rfl, [], ?_⟩
    simp [waiting, nothing]
  | setConnected connected =>
    obtain rfl := Option.some.inj taken
    exact ⟨rfl, rfl, rfl, rfl, rfl, [], .refl _⟩
  | receive => exact movedOn_receive taken
  | take now =>
    obtain rfl := Option.some.inj taken
    exact movedOn_take s now
  | enterDegraded now =>
    obtain rfl := Option.some.inj taken
    exact ⟨rfl, rfl, rfl, rfl, rfl, [], .refl _⟩
  | downloadFile | uploadFile | cancelFileTransfer | execute | answer | endStream => cases only

/-- What the loop runs. -/
theorem execute_cases {sent : Bool} (executed : s.execute sent = some t) :
    ∃ command ready, s.ready = command :: ready ∧
      ((ticketOf command = none ∧ t = { s with ready }) ∨
      (∃ id, ticketOf command = some ⟨false, id⟩ ∧
        t = TransferSession.sendDownload { s with ready } id sent) ∨
      ∃ id remotePath sourcePath, ticketOf command = some ⟨true, id⟩ ∧
        t = TransferSession.sendUpload { s with ready } id remotePath sourcePath sent) := by
  unfold execute at executed
  split at executed
  · cases executed
  next command ready listed =>
  refine ⟨command, ready, listed, ?_⟩
  simp only at executed
  split at executed
  next id channelId password remotePath =>
    exact .inr (.inl ⟨id, rfl, (Option.some.inj executed).symm⟩)
  next id channelId password remotePath sourcePath size overwrite =>
    exact .inr (.inr ⟨id, remotePath, sourcePath, rfl, (Option.some.inj executed).symm⟩)
  next noDownload noUpload =>
    refine .inl ⟨?_, (Option.some.inj executed).symm⟩
    cases command with
    | downloadFile => exact absurd rfl (noDownload _ _ _ _)
    | uploadFile => exact absurd rfl (noUpload _ _ _ _ _ _ _)
    | _ => rfl

end Moves

/-- The id of a value of the counter. -/
def transferIdOf (counter : Nat) : UInt16 := .ofNat (max (counter % 65535) 1)

/-- Both values give the same id. -/
def clash (a b : Nat) : Bool := a % 65535 = b % 65535 || (a % 65535 ≤ 1 && b % 65535 ≤ 1)

theorem toNat_transferIdOf (counter : Nat) :
    (transferIdOf counter).toNat = max (counter % 65535) 1 := by
  rw [transferIdOf, UInt16.toNat_ofNat']
  omega

theorem transferIdOf_ne_zero (counter : Nat) : transferIdOf counter ≠ 0 := by
  intro zero
  have positive := toNat_transferIdOf counter
  rw [zero, UInt16.toNat_zero] at positive
  omega

theorem transferIdOf_eq_iff (a b : Nat) : transferIdOf a = transferIdOf b ↔ clash a b = true := by
  rw [← UInt16.toNat_inj, toNat_transferIdOf, toNat_transferIdOf]
  simp only [clash, Bool.or_eq_true, Bool.and_eq_true, decide_eq_true_eq]
  omega

/-- A download that is pending, an upload whose command waits or whose job is kept, or a stream. -/
def InFlight (s : TransferSession) (id : UInt16) : Prop :=
  (s.pendingTransfers id).isSome = true ∨ ⟨true, id⟩ ∈ waiting s ∨
    (∃ number job, s.uploadJobs number = some job ∧ job.transferId = id) ∨
    ∃ stream ∈ s.streams, stream.transferId = id

/-- The call is not refused. -/
def allocates (s : TransferSession) : Action → Bool
  | .downloadFile call _ => (s.acceptedDownload call).isSome
  | .uploadFile call _ => (s.acceptedUpload call).isSome
  | _ => false

/-- And the command is queued. -/
def starts (s : TransferSession) : Action → Bool
  | .downloadFile call queued => queued && (s.acceptedDownload call).isSome
  | .uploadFile call queued => queued && (s.acceptedUpload call).isSome
  | _ => false

/-- An id that is allocated is not zero, and no transfer in flight has it. -/
def AllocatesNew (s : TransferSession) (action : Action) : Prop :=
  allocates s action = true → s.freshTransferId ≠ 0 ∧ ¬InFlight s s.freshTransferId

structure NumberedSession where
  session : TransferSession
  /-- The value of the counter when a transfer was last started under an id. -/
  startedAt : UInt16 → Nat

namespace NumberedSession

def new (now : Instant) : NumberedSession := ⟨.new now, fun _ => 0⟩

def step (n : NumberedSession) (action : Action) : Option NumberedSession :=
  (n.session.step action).map fun after =>
    ⟨after,
      if starts n.session action then
        Function.update n.startedAt n.session.freshTransferId n.session.nextTransferId
      else n.startedAt⟩

theorem step_session {n : NumberedSession} {action : Action} {t : TransferSession}
    (taken : n.session.step action = some t) : ∃ m, n.step action = some m ∧ m.session = t := by
  rw [step, taken]
  exact ⟨_, rfl, rfl⟩

end NumberedSession

/-- No transfer in flight was started with a value of the counter that gives the same id as the
value it has now. -/
def Apart (n : NumberedSession) (action : Action) : Prop :=
  allocates n.session action = true →
    ∀ id, InFlight n.session id → clash (n.startedAt id) n.session.nextTransferId = false

section Steps

variable {s t : TransferSession} {action : Action} {id : UInt16}

/-- What is still in a table after a removal was there before. -/
theorem eq_some_of_update_none {α β : Type} [DecidableEq α] {table : α → Option β} {key a : α}
    {b : β} (kept : Function.update table key none a = some b) : table a = some b := by
  by_cases same : a = key
  · simp [same] at kept
  · rwa [Function.update_of_ne same] at kept

theorem isSome_of_update_none {α β : Type} [DecidableEq α] {table : α → Option β} {key a : α}
    (kept : (Function.update table key none a).isSome = true) : (table a).isSome = true := by
  obtain ⟨b, kept⟩ := Option.isSome_iff_exists.mp kept
  exact Option.isSome_iff_exists.mpr ⟨b, eq_some_of_update_none kept⟩

theorem MovedOn.inFlight (moved : MovedOn s t) (later : InFlight t id) : InFlight s id := by
  unfold InFlight at later ⊢
  rw [moved.pendingTransfers, moved.uploadJobs, moved.streams] at later
  exact later.imp_right fun rest => rest.imp_left fun waits => moved.subset waits

theorem inFlight_hand {returned : TransferSession × UInt16} :
    InFlight (hand returned) id ↔ InFlight returned.1 id := by
  unfold hand
  split <;> rfl

/-- A command enters the channel. -/
theorem mem_waiting_sent (counter : Nat) (pending : UInt16 → Option PendingTransfer)
    (command : Command) (ticket : Ticket) :
    ticket ∈ waiting { s with
        nextTransferId := counter
        pendingTransfers := pending
        channel := s.channel ++ [command] } ↔
      ticket ∈ waiting s ∨ ticketOf command = some ticket := by
  simp only [waiting, List.mem_filterMap, List.mem_append, List.mem_singleton]
  constructor
  · rintro ⟨other, ((listed | rfl) | listed) | listed, carries⟩
    · exact .inl ⟨other, .inl (.inl listed), carries⟩
    · exact .inr carries
    · exact .inl ⟨other, .inl (.inr listed), carries⟩
    · exact .inl ⟨other, .inr listed, carries⟩
  · rintro (⟨other, (listed | listed) | listed, carries⟩ | carries)
    · exact ⟨other, .inl (.inl (.inl listed)), carries⟩
    · exact ⟨other, .inl (.inr listed), carries⟩
    · exact ⟨other, .inr listed, carries⟩
    · exact ⟨command, .inl (.inl (.inr rfl)), carries⟩

theorem inFlight_downloadFile {call : DownloadCall} {queued : Bool}
    (later : InFlight (s.downloadFile call queued).1 id) :
    InFlight s id ∨ starts s (.downloadFile call queued) = true ∧ id = s.freshTransferId := by
  unfold downloadFile at later
  split at later
  · exact .inl later
  next remote target accepted =>
  dsimp only [TransferSession.count] at later
  split at later
  next queued =>
    by_cases same : id = s.freshTransferId
    · exact .inr ⟨by simp [starts, queued, accepted], same⟩
    · refine .inl (later.imp ?_ fun rest => rest.imp_left fun waits => ?_)
      · simp [Function.update_of_ne same]
      · exact ((mem_waiting_sent _ _ _ _).mp waits).resolve_right (by simp [ticketOf])
  next =>
    exact .inl (later.imp_left isSome_of_update_none)

theorem inFlight_uploadFile {call : UploadCall} {queued : Bool}
    (later : InFlight (s.uploadFile call queued).1 id) :
    InFlight s id ∨ starts s (.uploadFile call queued) = true ∧ id = s.freshTransferId := by
  unfold uploadFile at later
  split at later
  · exact .inl later
  next remote source size accepted =>
  dsimp only [TransferSession.count] at later
  split at later
  next queued =>
    by_cases same : id = s.freshTransferId
    · exact .inr ⟨by simp [starts, queued, accepted], same⟩
    · refine .inl (later.imp_right fun rest => rest.imp_left fun waits => ?_)
      refine ((mem_waiting_sent _ _ _ _).mp waits).resolve_right ?_
      simpa [ticketOf] using fun fresh => same fresh.symm
  next => exact .inl later

theorem inFlight_cancel {cancelled : UInt32}
    (later : InFlight (s.cancelFileTransfer cancelled).1 id) : InFlight s id := by
  unfold cancelFileTransfer at later
  dsimp only at later
  split at later
  · exact later
  split at later
  · exact later.imp_left isSome_of_update_none
  split at later
  · refine later.imp_right fun rest => rest.imp_right fun rest => rest.imp_left ?_
    rintro ⟨number, job, kept, mine⟩
    exact ⟨number, job, eq_some_of_update_none kept, mine⟩
  · exact later

theorem inFlight_execute {sent : Bool} (executed : s.execute sent = some t)
    (later : InFlight t id) : InFlight s id := by
  obtain ⟨command, ready, listed, cases⟩ := execute_cases executed
  have left := waiting_ready listed
  have waits {ticket : Ticket} (still : ticket ∈ waiting { s with ready }) :
      ticket ∈ waiting s := left.mem_iff.mpr (List.mem_append_right _ still)
  rcases cases with ⟨-, rfl⟩ | ⟨other, -, rfl⟩ | ⟨other, remotePath, sourcePath, carries, rfl⟩
  · exact later.imp_right fun rest => rest.imp_left waits
  · unfold TransferSession.sendDownload at later
    split at later <;> exact later.imp_right fun rest => rest.imp_left waits
  · unfold TransferSession.sendUpload at later
    dsimp only at later
    split at later
    · rcases later with held | still | ⟨number, job, kept, rfl⟩ | streams
      · exact .inl held
      · exact .inr (.inl (waits still))
      · dsimp only at kept
        by_cases same : number = s.curFiletransferId
        · subst same
          rw [Function.update_self] at kept
          obtain rfl := Option.some.inj kept
          refine .inr (.inl (left.mem_iff.mpr (List.mem_append_left _ ?_)))
          rw [carries]
          exact List.mem_singleton_self _
        · rw [Function.update_of_ne same] at kept
          exact .inr (.inr (.inl ⟨number, job, kept, rfl⟩))
      · exact .inr (.inr (.inr streams))
    · exact later.imp_right fun rest => rest.imp_left waits

theorem inFlight_answer {position : Nat} {ok : Bool} (answered : s.answer position ok = some t)
    (later : InFlight t id) : InFlight s id := by
  obtain ⟨request, -, rfl⟩ := Option.map_eq_some_iff.mp answered
  dsimp only at later
  split at later
  · unfold handleFiletransferFailed at later
    dsimp only at later
    split at later
    · refine later.imp_right fun rest => rest.imp_right fun rest => rest.imp_left ?_
      rintro ⟨number, job, kept, mine⟩
      exact ⟨number, job, eq_some_of_update_none kept, mine⟩
    · exact later
  split at later
  · unfold handleFileUpload at later
    dsimp only at later
    split at later
    next job stored =>
      rcases later with held | waits | ⟨number, other, kept, mine⟩ | ⟨stream, listed, mine⟩
      · exact .inl held
      · exact .inr (.inl waits)
      · exact .inr (.inr (.inl ⟨number, other, eq_some_of_update_none kept, mine⟩))
      · rcases List.mem_append.mp listed with old | new
        · exact .inr (.inr (.inr ⟨stream, old, mine⟩))
        · obtain rfl := List.mem_singleton.mp new
          exact .inr (.inr (.inl ⟨request.number, job, stored, mine⟩))
    · exact later
  · unfold handleFileDownload at later
    dsimp only at later
    split at later
    next job stored =>
      rcases later with held | waits | jobs | ⟨stream, listed, rfl⟩
      · exact .inl (isSome_of_update_none held)
      · exact .inr (.inl waits)
      · exact .inr (.inr (.inl jobs))
      · rcases List.mem_append.mp listed with old | new
        · exact .inr (.inr (.inr ⟨stream, old, rfl⟩))
        · obtain rfl := List.mem_singleton.mp new
          exact .inl (Option.isSome_of_mem stored)
    · exact later

theorem inFlight_endStream {position : Nat} {result : Except String Nat}
    (ended : s.endStream position result = some t) (later : InFlight t id) : InFlight s id := by
  obtain ⟨stream, -, rfl⟩ := Option.map_eq_some_iff.mp ended
  refine later.imp_right fun rest => rest.imp_right fun rest => rest.imp_right ?_
  rintro ⟨other, listed, mine⟩
  exact ⟨other, List.mem_of_mem_eraseIdx listed, mine⟩

/-- A transfer in flight was in flight before, or the step has started it. -/
theorem inFlight_step (taken : s.step action = some t) (later : InFlight t id) :
    InFlight s id ∨ starts s action = true ∧ id = s.freshTransferId := by
  cases action with
  | downloadFile call queued =>
    obtain rfl := Option.some.inj taken
    exact inFlight_downloadFile (inFlight_hand.mp later)
  | uploadFile call queued =>
    obtain rfl := Option.some.inj taken
    exact inFlight_uploadFile (inFlight_hand.mp later)
  | cancelFileTransfer cancelled =>
    simp only [TransferSession.step, Option.some.injEq] at taken
    split at taken <;> subst taken <;> exact .inl (inFlight_cancel later)
  | queueCommand | setConnected | receive | take | enterDegraded =>
    exact .inl ((movedOn_step rfl taken).inFlight later)
  | execute sent => exact .inl (inFlight_execute taken later)
  | answer position ok => exact .inl (inFlight_answer taken later)
  | endStream position result => exact .inl (inFlight_endStream taken later)

end Steps

/-- Every transfer in flight has the id of the value that it was started with. -/
def CounterKept (n : NumberedSession) : Prop :=
  ∀ id, InFlight n.session id → transferIdOf (n.startedAt id) = id

theorem counterKept_step {n m : NumberedSession} {action : Action} (kept : CounterKept n)
    (taken : n.step action = some m) : CounterKept m := by
  obtain ⟨after, moved, rfl⟩ := Option.map_eq_some_iff.mp taken
  intro id later
  dsimp only
  split
  next started =>
    by_cases same : id = n.session.freshTransferId
    · subst same
      rw [Function.update_self]
      rfl
    · rw [Function.update_of_ne same]
      exact kept id ((inFlight_step moved later).resolve_right fun new => same new.2)
  next quiet => exact kept id ((inFlight_step moved later).resolve_right fun new => quiet new.1)

theorem allocatesNew_iff {n : NumberedSession} {action : Action} (kept : CounterKept n) :
    AllocatesNew n.session action ↔ Apart n action := by
  refine imp_congr_right fun _ => ?_
  have fresh : n.session.freshTransferId = transferIdOf n.session.nextTransferId := rfl
  constructor
  · rintro ⟨-, new⟩ id flying
    rw [Bool.eq_false_iff, ne_eq, ← transferIdOf_eq_iff, kept id flying, ← fresh]
    exact fun same => new (same ▸ flying)
  · intro apart
    refine ⟨fresh ▸ transferIdOf_ne_zero _, fun flying => ?_⟩
    have different := apart _ flying
    rw [Bool.eq_false_iff, ne_eq, ← transferIdOf_eq_iff, kept _ flying, fresh] at different
    exact different rfl

theorem counterKept_new (now : Instant) : CounterKept (.new now) := by
  intro id flying
  simp [InFlight, NumberedSession.new, TransferSession.new, waiting, CommandBudget.new] at flying

/-- In every run, every call allocates a new id exactly if the counter was apart each time. -/
theorem transfer_ids_new_iff {now : Instant} {actions : List Action} {n : NumberedSession}
    (run : Run NumberedSession.step anyStep (.new now) actions n) :
    (∀ earlier m action, earlier ++ [action] <+: actions →
        Run NumberedSession.step anyStep (.new now) earlier m → AllocatesNew m.session action) ↔
      Run NumberedSession.step Apart (.new now) actions n :=
  run.each_iff CounterKept (counterKept_new now) (fun _ _ _ => counterKept_step)
    fun _ _ _ kept _ => allocatesNew_iff kept

def iconCall : DownloadCall := ⟨0, some "/icon_7", none, some "/tmp/icon_7", 1024⟩

/-- A download and an upload, both in flight. -/
def bothStarts : List Action :=
  [.downloadFile iconCall true,
    .uploadFile ⟨5, some "/b", none, some "/tmp/b", some 512, false⟩ true]

theorem both_starts_new : ∃ n : NumberedSession, n.session.returned = [1, 2] ∧
    ∀ earlier m action, earlier ++ [action] <+: bothStarts →
      Run NumberedSession.step anyStep (.new 0) earlier m → AllocatesNew m.session action := by
  obtain ⟨first, taken⟩ : ∃ first, NumberedSession.step (.new 0) (.downloadFile iconCall true) =
      some first := ⟨_, rfl⟩
  obtain ⟨last, taken'⟩ : ∃ last, first.step bothStarts[1] = some last := by
    obtain rfl := Option.some.inj taken
    exact ⟨_, rfl⟩
  have nothing (id : UInt16) : ¬InFlight (NumberedSession.new 0).session id := by
    simp [InFlight, NumberedSession.new, TransferSession.new, waiting, CommandBudget.new]
  have apart : Apart (.new 0) (.downloadFile iconCall true) :=
    fun _ id flying => absurd flying (nothing id)
  have apart' : Apart first bothStarts[1] := by
    intro _ id flying
    obtain rfl := Option.some.inj taken
    have moved : TransferSession.step (.new 0) (.downloadFile iconCall true) = some _ := rfl
    obtain ⟨-, rfl⟩ := (inFlight_step moved flying).resolve_left (nothing id)
    decide +kernel
  have run : Run NumberedSession.step Apart (.new 0) bothStarts last :=
    .cons apart taken (.single apart' taken')
  refine ⟨last, ?_, (transfer_ids_new_iff (run.weaken fun _ _ _ => trivial)).mpr run⟩
  obtain rfl := Option.some.inj taken
  obtain rfl := Option.some.inj taken'
  decide +kernel

/-- A connected session without a pending download. -/
structure Idle (n : NumberedSession) (counter : Nat) : Prop where
  connected : n.session.connected = true
  counter : n.session.nextTransferId = counter
  pending : ∀ id, n.session.pendingTransfers id = none

theorem acceptedDownload_iconCall {s : TransferSession} (connected : s.connected = true) :
    s.acceptedDownload iconCall = some ("/icon_7", "/tmp/icon_7") := by
  unfold acceptedDownload iconCall
  rw [connected]
  decide +kernel

theorem started_iconCall {s : TransferSession} (connected : s.connected = true) :
    ∃ t pending, s.step (.downloadFile iconCall true) = some t ∧ t.connected = true ∧
      t.nextTransferId = (s.nextTransferId + 1) % 2 ^ 32 ∧
      t.pendingTransfers = Function.update s.pendingTransfers s.freshTransferId (some pending) := by
  have called : s.downloadFile iconCall true = ({ s.count with
      pendingTransfers := Function.update s.pendingTransfers s.freshTransferId
        (some ⟨"/tmp/icon_7", 1024, "/icon_7"⟩)
      channel := s.channel ++ [.downloadFile s.freshTransferId 0 "" "/icon_7"] },
      s.freshTransferId) := by
    unfold downloadFile
    rw [acceptedDownload_iconCall connected]
    rfl
  refine ⟨hand (s.downloadFile iconCall true), ⟨"/tmp/icon_7", 1024, "/icon_7"⟩, rfl, ?_⟩
  rw [called, hand]
  split
  next zero => exact absurd zero (transferIdOf_ne_zero s.nextTransferId)
  next => exact ⟨connected, rfl, rfl⟩

theorem cancelled_pending (s : TransferSession) (id : UInt16) (some : id ≠ 0)
    (held : (s.pendingTransfers id).isSome = true) :
    ∃ t, s.step (.cancelFileTransfer id.toUInt32) = Option.some t ∧
      t.connected = s.connected ∧ t.nextTransferId = s.nextTransferId ∧
      t.pendingTransfers = Function.update s.pendingTransfers id none := by
  have valid : ¬(id.toUInt32 = 0 ∨ 65535 < id.toUInt32.toNat) := by
    rintro (zero | large)
    · exact some (UInt16.toUInt32_inj.mp zero)
    · have small := id.toNat_lt
      rw [UInt16.toNat_toUInt32] at large
      omega
  have called : s.cancelFileTransfer id.toUInt32 =
      ({ s with pendingTransfers := Function.update s.pendingTransfers id none }, true) := by
    unfold cancelFileTransfer
    rw [if_neg valid, UInt16.toUInt16_toUInt32]
    simp only [held, if_true]
  refine ⟨{ s with
    pendingTransfers := Function.update s.pendingTransfers id none
    cancelled := s.cancelled ++ [id.toUInt32.toUInt16] }, ?_, rfl, rfl, rfl⟩
  simp only [TransferSession.step, called, if_true]

/-- A download that is started and cancelled uses an id up. -/
theorem idle_cycle {n : NumberedSession} {counter : Nat} (idle : Idle n counter)
    (small : counter < 65535) : ∃ actions m, Run NumberedSession.step anyStep n actions m ∧
      Idle m (counter + 1) := by
  obtain ⟨t, pending, taken, connected, counted, held⟩ := started_iconCall idle.connected
  obtain ⟨u, taken', connected', counted', held'⟩ :=
    cancelled_pending t n.session.freshTransferId (transferIdOf_ne_zero _)
      (by rw [held, Function.update_self]; rfl)
  obtain ⟨m, first, rfl⟩ := NumberedSession.step_session taken
  obtain ⟨last, second, rfl⟩ := NumberedSession.step_session taken'
  refine ⟨_, last, .cons trivial first (.single trivial second), connected'.trans connected, ?_, ?_⟩
  · rw [counted', counted, idle.counter]
    omega
  · intro id
    rw [held', held, Function.update_idem]
    by_cases same : id = n.session.freshTransferId
    · rw [same, Function.update_self]
    · rw [Function.update_of_ne same, idle.pending id]

theorem idle_reached (more : Nat) (small : more ≤ 65534) :
    ∃ actions n, Run NumberedSession.step anyStep (.new 0) actions n ∧ Idle n (more + 1) := by
  induction more with
  | zero => exact ⟨[], _, .start, rfl, rfl, fun _ => rfl⟩
  | succ more ih =>
    obtain ⟨actions, n, run, idle⟩ := ih (by omega)
    obtain ⟨cycle, m, further, still⟩ := idle_cycle idle (by omega)
    exact ⟨actions ++ cycle, m, run.append further, still⟩

/-- After 65534 transfers that are over, two downloads in a row get the id 1, and the second takes
the place of the first. -/
theorem ids_repeat : ∃ actions n, Run NumberedSession.step anyStep (.new 0) actions n ∧
    n.session.freshTransferId = 1 ∧ (n.session.pendingTransfers 1).isSome = true ∧
    allocates n.session (.downloadFile iconCall true) = true ∧
    ¬AllocatesNew n.session (.downloadFile iconCall true) := by
  obtain ⟨actions, n, run, idle⟩ := idle_reached 65534 le_rfl
  obtain ⟨t, pending, taken, connected, counted, held⟩ := started_iconCall idle.connected
  have fresh : n.session.freshTransferId = 1 := by
    rw [freshTransferId, idle.counter]
    rfl
  obtain ⟨last, first, rfl⟩ := NumberedSession.step_session taken
  have next : last.session.freshTransferId = 1 := by
    rw [freshTransferId, counted, idle.counter]
    rfl
  have kept : (last.session.pendingTransfers 1).isSome = true := by
    rw [held, fresh, Function.update_self]
    rfl
  have accepted : allocates last.session (.downloadFile iconCall true) = true := by
    rw [allocates, acceptedDownload_iconCall connected]
    rfl
  refine ⟨_, last, run.append (.single trivial first), next, kept, accepted, fun new => ?_⟩
  exact (new accepted).2 (.inl (by rw [next]; exact kept))

end Nek0.Guarantees
