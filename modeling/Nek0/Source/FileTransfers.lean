import Mathlib.Data.List.Infix
import Mathlib.Logic.Function.Basic
import Nek0.Source.CommandBudget

/-!
# File transfers of a session

`ts_download_file`, `ts_upload_file` and `ts_cancel_file_transfer` of
`native/src/api.rs`, the branches of `event_loop` and `handle_control_item` that run
their commands and answer them, and the two counters behind their ids. Downloads go out
with the id that the app has; `tsclientlib` numbers uploads by itself. The server answers
a request with the number that it carries. A stream is a task of its own, which ends
with the bytes it has moved or with a reason; the progress events in between are left
out.
-/

namespace Nek0.Source

/-- 8 MiB. -/
def TRANSFER_HARD_LIMIT : Nat := 8 * 1024 * 1024

structure PendingTransfer where
  targetPath : String
  maxBytes : Nat
  remotePath : String
  deriving DecidableEq, Repr

structure UploadJob where
  transferId : UInt16
  sourcePath : String
  remotePath : String
  deriving DecidableEq, Repr

/-- A `file_transfer` event, with the transfer that it is due to. -/
structure FileTransferEvent where
  transferId : UInt16
  remotePath : String
  localPath : String
  bytes : Nat
  ok : Bool
  error : Option String
  cause : UInt16
  deriving DecidableEq, Repr

/-- A request on its way to the server: the number that it carries, and the transfer that
it belongs to. -/
structure TransferRequest where
  upload : Bool
  number : UInt16
  transferId : UInt16
  deriving DecidableEq, Repr

/-- A stream that is open. `localPath` is told on success. -/
structure TransferStream where
  transferId : UInt16
  remotePath : String
  localPath : String
  cause : UInt16
  deriving DecidableEq, Repr

structure TransferSession where
  connected : Bool
  /-- `next_transfer_id` -/
  nextTransferId : Nat
  pendingTransfers : UInt16 → Option PendingTransfer
  uploadJobs : UInt16 → Option UploadJob
  /-- `cur_filetransfer_id` of the library. -/
  curFiletransferId : UInt16
  /-- Commands in the channel, oldest first. -/
  channel : List Command
  commandBudget : CommandBudget
  /-- Commands that the loop has taken for this turn. -/
  ready : List Command
  requests : List TransferRequest
  streams : List TransferStream
  events : List FileTransferEvent
  /-- The ids that the app was given and those that it cancelled. -/
  returned : List UInt16
  cancelled : List UInt16
  /-- The transfers that are over: their command was dropped or could not be sent, they
  were refused, or their stream has ended. -/
  settled : List UInt16

/-- What the app asks for; a null pointer is `none`. -/
structure DownloadCall where
  channelId : UInt64
  remotePath : Option String
  channelPassword : Option String
  targetPath : Option String
  maxBytes : UInt64
  deriving DecidableEq, Repr

/-- `size` is the length of the source file, if it can be read. -/
structure UploadCall where
  channelId : UInt64
  remotePath : Option String
  channelPassword : Option String
  sourcePath : Option String
  size : Option UInt64
  overwrite : Bool
  deriving DecidableEq, Repr

namespace TransferSession

def new (now : Instant) : TransferSession where
  connected := true
  nextTransferId := 1
  pendingTransfers := fun _ => none
  uploadJobs := fun _ => none
  curFiletransferId := 0
  channel := []
  commandBudget := .new now
  ready := []
  requests := []
  streams := []
  events := []
  returned := []
  cancelled := []
  settled := []

/-- `fetch_add` on the counter, folded into the ids of the protocol. -/
def freshTransferId (s : TransferSession) : UInt16 := .ofNat (max (s.nextTransferId % 65535) 1)

def count (s : TransferSession) : TransferSession :=
  { s with nextTransferId := (s.nextTransferId + 1) % 2 ^ 32 }

/-- The paths of a download that is not refused. -/
def acceptedDownload (s : TransferSession) (call : DownloadCall) : Option (String × String) :=
  match call.remotePath, call.targetPath with
  | some remote, some target =>
    if !s.connected then none
    else if remote = "" ∨ target = "" then none
    else if ['.', '.'] <:+: target.toList ∨ target.toList.head? ≠ some '/' then none
    else if call.maxBytes = 0 ∨ TRANSFER_HARD_LIMIT < call.maxBytes.toNat then none
    else some (remote, target)
  | _, _ => none

/-- `ts_download_file`; `queued` says whether the channel takes the command. -/
def downloadFile (s : TransferSession) (call : DownloadCall) (queued : Bool) :
    TransferSession × UInt16 :=
  match s.acceptedDownload call with
  | none => (s, 0)
  | some (remote, target) =>
    let transferId := s.freshTransferId
    let s := s.count
    let pending : PendingTransfer := ⟨target, call.maxBytes.toNat, remote⟩
    if queued then
      ({ s with
          pendingTransfers := Function.update s.pendingTransfers transferId (some pending)
          channel := s.channel ++
            [.downloadFile transferId call.channelId (call.channelPassword.getD "") remote] },
        transferId)
    else
      ({ s with pendingTransfers := Function.update s.pendingTransfers transferId none }, 0)

/-- The paths and the size of an upload that is not refused. -/
def acceptedUpload (s : TransferSession) (call : UploadCall) :
    Option (String × String × UInt64) :=
  match call.remotePath, call.sourcePath with
  | some remote, some source =>
    if !s.connected then none
    else if remote = "" ∨ source = "" ∨ remote.toList.head? ≠ some '/' then none
    else
      call.size.bind fun size =>
        if size = 0 ∨ TRANSFER_HARD_LIMIT < size.toNat then none
        else some (remote, source, size)
  | _, _ => none

/-- `ts_upload_file` -/
def uploadFile (s : TransferSession) (call : UploadCall) (queued : Bool) :
    TransferSession × UInt16 :=
  match s.acceptedUpload call with
  | none => (s, 0)
  | some (remote, source, size) =>
    let transferId := s.freshTransferId
    let s := s.count
    if queued then
      ({ s with
          channel := s.channel ++ [.uploadFile transferId call.channelId
            (call.channelPassword.getD "") remote source size call.overwrite] },
        transferId)
    else (s, 0)

/-- `ts_cancel_file_transfer`: the downloads are looked up first, and the uploads under
the same key. -/
def cancelFileTransfer (s : TransferSession) (transferId : UInt32) : TransferSession × Bool :=
  if transferId = 0 ∨ 65535 < transferId.toNat then (s, false)
  else
    let key := transferId.toUInt16
    if (s.pendingTransfers key).isSome then
      ({ s with pendingTransfers := Function.update s.pendingTransfers key none }, true)
    else if (s.uploadJobs key).isSome then
      ({ s with uploadJobs := Function.update s.uploadJobs key none }, true)
    else (s, false)

/-- The transfer of a command. -/
def transferOf : Command → Option UInt16
  | .downloadFile transferId .. => some transferId
  | .uploadFile transferId .. => some transferId
  | _ => none

/-- What `enqueue` drops because the queue is full. -/
def droppedBy (budget : CommandBudget) (command : Command) : Option Command :=
  if (budget.queue.findIdx? command.supersedes).isNone &&
      CommandBudget.MAX_QUEUE ≤ budget.queue.length then budget.queue.head?
  else none

/-- The loop takes the next command from the channel. -/
def receive (s : TransferSession) : Option TransferSession :=
  match s.channel with
  | [] => none
  | command :: channel =>
    let s := { s with channel := channel }
    match command with
    | .sendAudio _ | .disconnect => some { s with ready := s.ready ++ [command] }
    | _ =>
      some { s with
        commandBudget := s.commandBudget.enqueue command
        settled := s.settled ++ ((droppedBy s.commandBudget command).bind transferOf).toList }

/-- The loop takes the next command that the budget can afford. -/
def take (s : TransferSession) (now : Instant) : TransferSession :=
  let (command, budget) := s.commandBudget.takeReady now
  { s with commandBudget := budget, ready := s.ready ++ command.toList }

/-- The event of a transfer that was refused. -/
def refused (transferId : UInt16) (remotePath : String) (cause : UInt16) : FileTransferEvent :=
  ⟨transferId, remotePath, "", 0, false, some "refused", cause⟩

/-- `DownloadFile`: whether it could be sent is not looked at. -/
def sendDownload (s : TransferSession) (transferId : UInt16) (sent : Bool) : TransferSession :=
  if sent then { s with requests := s.requests ++ [⟨false, transferId, transferId⟩] }
  else { s with settled := s.settled ++ [transferId] }

/-- `UploadFile`: the job is kept under the number that the library gave out. -/
def sendUpload (s : TransferSession) (transferId : UInt16) (remotePath sourcePath : String)
    (sent : Bool) : TransferSession :=
  let handle := s.curFiletransferId
  let s := { s with curFiletransferId := handle + 1 }
  if sent then
    { s with
      uploadJobs := Function.update s.uploadJobs handle
        (some ⟨transferId, sourcePath, remotePath⟩)
      requests := s.requests ++ [⟨true, handle, transferId⟩] }
  else
    { s with
      events := s.events ++ [refused transferId remotePath transferId]
      settled := s.settled ++ [transferId] }

/-- The loop runs the next command it has taken; `sent` says whether the library could
send it. -/
def execute (s : TransferSession) (sent : Bool) : Option TransferSession :=
  match s.ready with
  | [] => none
  | command :: ready =>
    let s := { s with ready := ready }
    match command with
    | .downloadFile transferId .. => some (s.sendDownload transferId sent)
    | .uploadFile transferId _ _ remotePath sourcePath .. =>
      some (s.sendUpload transferId remotePath sourcePath sent)
    | _ => some s

/-- `StreamItem::FileDownload` -/
def handleFileDownload (s : TransferSession) (request : TransferRequest) : TransferSession :=
  match s.pendingTransfers request.number with
  | some job =>
    { s with
      pendingTransfers := Function.update s.pendingTransfers request.number none
      streams := s.streams ++
        [⟨request.number, job.remotePath, job.targetPath, request.transferId⟩] }
  | none => { s with settled := s.settled ++ [request.transferId] }

/-- `StreamItem::FileUpload` -/
def handleFileUpload (s : TransferSession) (request : TransferRequest) : TransferSession :=
  match s.uploadJobs request.number with
  | some job =>
    { s with
      uploadJobs := Function.update s.uploadJobs request.number none
      streams := s.streams ++
        [⟨job.transferId, job.remotePath, job.sourcePath, request.transferId⟩] }
  | none => { s with settled := s.settled ++ [request.transferId] }

/-- `StreamItem::FiletransferFailed`, for uploads and downloads alike. -/
def handleFiletransferFailed (s : TransferSession) (request : TransferRequest) :
    TransferSession :=
  let s := { s with settled := s.settled ++ [request.transferId] }
  match s.uploadJobs request.number with
  | some job =>
    { s with
      uploadJobs := Function.update s.uploadJobs request.number none
      events := s.events ++ [refused job.transferId "" request.transferId] }
  | none => s

/-- The server answers one of the requests. -/
def answer (s : TransferSession) (position : Nat) (ok : Bool) : Option TransferSession :=
  s.requests[position]?.map fun request =>
    let s := { s with requests := s.requests.eraseIdx position }
    if !ok then s.handleFiletransferFailed request
    else if request.upload then s.handleFileUpload request
    else s.handleFileDownload request

/-- A stream has moved its bytes or has failed. -/
def endStream (s : TransferSession) (position : Nat) (result : Except String Nat) :
    Option TransferSession :=
  s.streams[position]?.map fun stream =>
    let event : FileTransferEvent :=
      match result with
      | .ok bytes =>
        ⟨stream.transferId, stream.remotePath, stream.localPath, bytes, true, none, stream.cause⟩
      | .error reason =>
        ⟨stream.transferId, stream.remotePath, "", 0, false, some reason, stream.cause⟩
    { s with
      streams := s.streams.eraseIdx position
      events := s.events ++ [event]
      settled := s.settled ++ [stream.cause] }

/-- Everything that can happen to the transfers of a session. -/
inductive Action where
  | downloadFile (call : DownloadCall) (queued : Bool)
  | uploadFile (call : UploadCall) (queued : Bool)
  | cancelFileTransfer (transferId : UInt32)
  /-- The app queues a command that is no transfer. -/
  | queueCommand (command : Command)
  /-- The session connects or is lost. -/
  | setConnected (connected : Bool)
  | receive
  | take (now : Instant)
  | enterDegraded (now : Instant)
  | execute (sent : Bool)
  | answer (position : Nat) (ok : Bool)
  | endStream (position : Nat) (result : Except String Nat)

/-- The id that a call gives to the app. -/
def hand (returned : TransferSession × UInt16) : TransferSession :=
  if returned.2 = 0 then returned.1
  else { returned.1 with returned := returned.1.returned ++ [returned.2] }

def step (s : TransferSession) : Action → Option TransferSession
  | .downloadFile call queued => some (hand (s.downloadFile call queued))
  | .uploadFile call queued => some (hand (s.uploadFile call queued))
  | .cancelFileTransfer transferId =>
    let (t, found) := s.cancelFileTransfer transferId
    some (if found then { t with cancelled := t.cancelled ++ [transferId.toUInt16] } else t)
  | .queueCommand command =>
    if (transferOf command).isSome then none
    else some { s with channel := s.channel ++ [command] }
  | .setConnected connected => some { s with connected := connected }
  | .receive => s.receive
  | .take now => some (s.take now)
  | .enterDegraded now => some { s with commandBudget := s.commandBudget.enterDegraded now }
  | .execute sent => s.execute sent
  | .answer position ok => s.answer position ok
  | .endStream position result => s.endStream position result

end TransferSession

end Nek0.Source
