import Mathlib.Logic.Function.Basic
import Nek0.Source.CommandPipe

/-!
# File browser of a session

`ts_list_files` and `ts_file_info` of `native/src/api.rs`, the branches of `event_loop`
that send their commands, and the branches of `handle_control_item` that put the answers
together. A request is remembered under its channel and path, and the answers of the
server carry that key and no id. The server answers a listing with any number of parts
and an end, a question for one file with one message, or refuses either with an error
that names no request.
-/

namespace Nek0.Source

inductive FileRequestKind where
  | list
  | info
  deriving DecidableEq, Repr

/-- A channel, and a path or a file name. -/
abbrev FileKey := UInt64 × String

structure FileRequest where
  kind : FileRequestKind
  requestId : UInt32
  key : FileKey
  deriving DecidableEq, Repr

/-- A file or a directory, as the server reports it. -/
structure FileEntry where
  name : String
  size : UInt64
  dateTime : Int
  isFile : Bool
  deriving DecidableEq, Repr

structure TsServerFile where
  name : String
  size : UInt64
  modified : Nat
  isDirectory : Bool
  deriving DecidableEq, Repr

/-- The entry as it goes into the buffer. -/
def TsServerFile.ofEntry (entry : FileEntry) : TsServerFile :=
  ⟨entry.name, entry.size, entry.dateTime.toNat, entry.isFile⟩

inductive ServerFileEvent where
  | fileList (requestId channelId : UInt32) (path : String) (ok : Bool) (error : Option String)
      (files : List TsServerFile)
  | fileInfo (requestId channelId : UInt32) (path name : String) (size : UInt64) (modified : Nat)
      (ok : Bool)
  deriving DecidableEq, Repr

namespace ServerFileEvent

def requestId : ServerFileEvent → UInt32
  | .fileList requestId .. => requestId
  | .fileInfo requestId .. => requestId

def files : ServerFileEvent → List TsServerFile
  | .fileList _ _ _ _ _ files => files
  | .fileInfo .. => []

end ServerFileEvent

/-- An event with the request that it is due to and the entries that the server has sent
for that request. -/
structure FileAnswer where
  event : ServerFileEvent
  cause : UInt32
  sent : List FileEntry
  deriving DecidableEq, Repr

/-- A request that the server has got. -/
structure OpenRequest where
  request : FileRequest
  sent : List FileEntry
  deriving DecidableEq, Repr

/-- What the app asks for. `path` is trimmed; a null pointer is `none`. -/
structure FileCall where
  channelId : UInt64
  path : Option String
  channelPassword : Option String
  deriving DecidableEq, Repr

structure FileBrowser where
  connected : Bool
  nextRequestId : UInt32
  pendingFileRequests : FileKey → Option UInt32
  pendingFileInfoRequests : FileKey → Option UInt32
  fileListBuffers : FileKey → List TsServerFile
  pipe : CommandPipe
  wire : List OpenRequest
  events : List FileAnswer
  /-- The ids that the app was given. -/
  returned : List UInt32
  /-- The requests that are done: lost in the queue, not sent, or answered. -/
  settled : List UInt32

namespace FileBrowser

def new (now : Instant) : FileBrowser where
  connected := true
  nextRequestId := 1
  pendingFileRequests := fun _ => none
  pendingFileInfoRequests := fun _ => none
  fileListBuffers := fun _ => []
  pipe := .new now
  wire := []
  events := []
  returned := []
  settled := []

def pending (s : FileBrowser) : FileRequestKind → FileKey → Option UInt32
  | .list => s.pendingFileRequests
  | .info => s.pendingFileInfoRequests

def setPending (s : FileBrowser) (kind : FileRequestKind) (key : FileKey) (id : Option UInt32) :
    FileBrowser :=
  match kind with
  | .list => { s with pendingFileRequests := Function.update s.pendingFileRequests key id }
  | .info =>
    { s with pendingFileInfoRequests := Function.update s.pendingFileInfoRequests key id }

/-- `fetch_add`, a second time where the first one gives zero. -/
def freshRequestId (s : FileBrowser) : UInt32 :=
  if s.nextRequestId = 0 then 1 else s.nextRequestId

def command (request : FileRequest) (channelPassword : String) : Command :=
  match request.kind with
  | .list => .requestFileList request.requestId request.key.1 channelPassword request.key.2
  | .info => .fileInfoRequest request.requestId request.key.1 channelPassword request.key.2

/-- The request that a call makes, if it is not refused. -/
def requestOf (s : FileBrowser) (kind : FileRequestKind) (call : FileCall) : Option FileRequest :=
  match call.path with
  | none => none
  | some path =>
    if !s.connected || path = "" then none
    else some ⟨kind, s.freshRequestId, (call.channelId, path)⟩

/-- A call of either kind; `queued` says whether the channel takes the command. -/
def ask (s : FileBrowser) (kind : FileRequestKind) (call : FileCall) (queued : Bool) :
    FileBrowser × UInt32 :=
  match s.requestOf kind call with
  | none => (s, 0)
  | some request =>
    let s := { s with nextRequestId := request.requestId + 1 }
    if queued then
      let s := s.setPending kind request.key (some request.requestId)
      ({ s with pipe := s.pipe.queue (command request (call.channelPassword.getD "")) },
        request.requestId)
    else (s.setPending kind request.key none, 0)

/-- `ts_list_files` -/
def listFiles (s : FileBrowser) (call : FileCall) (queued : Bool) : FileBrowser × UInt32 :=
  s.ask .list call queued

/-- `ts_file_info` -/
def fileInfo (s : FileBrowser) (call : FileCall) (queued : Bool) : FileBrowser × UInt32 :=
  s.ask .info call queued

/-- The request of a command. -/
def fileRequest : Command → Option FileRequest
  | .requestFileList requestId channelId _ path => some ⟨.list, requestId, (channelId, path)⟩
  | .fileInfoRequest requestId channelId _ name => some ⟨.info, requestId, (channelId, name)⟩
  | _ => none

/-- The loop takes the next command from the channel; a request that is lost is done. -/
def receive (s : FileBrowser) : Option FileBrowser :=
  s.pipe.receive.map fun pipe =>
    { s with
      pipe
      settled := s.settled ++ ((s.pipe.lost.bind fileRequest).map (·.requestId)).toList }

/-- The event of a request that could not be sent. -/
def unsent (request : FileRequest) (reason : String) : ServerFileEvent :=
  match request.kind with
  | .list => .fileList request.requestId request.key.1.toUInt32 "" false
      (some ("list request failed: " ++ reason)) []
  | .info => .fileInfo request.requestId request.key.1.toUInt32 "" "" 0 0 false

/-- The loop runs the next command; `failure` says why the library could not send it. -/
def execute (s : FileBrowser) (failure : Option String) : Option FileBrowser :=
  s.pipe.pop.map fun (command, pipe) =>
    let s := { s with pipe }
    match fileRequest command with
    | none => s
    | some request =>
      match failure with
      | none => { s with wire := s.wire ++ [⟨request, []⟩] }
      | some reason =>
        { s with
          events := s.events ++ [⟨unsent request reason, request.requestId, []⟩]
          settled := s.settled ++ [request.requestId] }

/-- `InMessage::FileList`: entries of one listing. -/
def handleFileList (s : FileBrowser) (position : Nat) (entries : List FileEntry) :
    Option FileBrowser :=
  match s.wire[position]? with
  | some ⟨⟨.list, requestId, key⟩, sent⟩ =>
    some { s with
      fileListBuffers := Function.update s.fileListBuffers key
        (s.fileListBuffers key ++ entries.map .ofEntry)
      wire := s.wire.set position ⟨⟨.list, requestId, key⟩, sent ++ entries⟩ }
  | _ => none

/-- `InMessage::FileListFinished` -/
def handleFileListFinished (s : FileBrowser) (position : Nat) : Option FileBrowser :=
  match s.wire[position]? with
  | some ⟨⟨.list, cause, key⟩, sent⟩ =>
    let requestId := (s.pendingFileRequests key).getD 0
    let event : ServerFileEvent :=
      .fileList requestId key.1.toUInt32 key.2 true none (s.fileListBuffers key)
    let s := s.setPending .list key none
    some { s with
      fileListBuffers := Function.update s.fileListBuffers key []
      wire := s.wire.eraseIdx position
      events := s.events ++ [⟨event, cause, sent⟩]
      settled := s.settled ++ [cause] }
  | _ => none

/-- `InMessage::FileInfo` -/
def handleFileInfo (s : FileBrowser) (position : Nat) (path : String) (size : UInt64)
    (dateTime : Int) : Option FileBrowser :=
  match s.wire[position]? with
  | some ⟨⟨.info, cause, key⟩, _⟩ =>
    let requestId := (s.pendingFileInfoRequests key).getD 0
    let event : ServerFileEvent :=
      .fileInfo requestId key.1.toUInt32 path key.2 size dateTime.toNat true
    let s := s.setPending .info key none
    some { s with
      wire := s.wire.eraseIdx position
      events := s.events ++ [⟨event, cause, []⟩]
      settled := s.settled ++ [cause] }
  | _ => none

/-- The server refuses a request. Its error is passed on without an id. -/
def refuse (s : FileBrowser) (position : Nat) : Option FileBrowser :=
  s.wire[position]?.map fun r =>
    { s with
      wire := s.wire.eraseIdx position
      settled := s.settled ++ [r.request.requestId] }

/-- The id that a call gives to the app. -/
def hand (answer : FileBrowser × UInt32) : FileBrowser :=
  if answer.2 = 0 then answer.1
  else { answer.1 with returned := answer.1.returned ++ [answer.2] }

inductive Action where
  | listFiles (call : FileCall) (queued : Bool)
  | fileInfo (call : FileCall) (queued : Bool)
  /-- The app queues a command of another kind. -/
  | queueCommand (command : Command)
  /-- The session connects or is lost. -/
  | setConnected (connected : Bool)
  | receive
  | take (now : Instant)
  | enterDegraded (now : Instant)
  | execute (failure : Option String)
  | fileList (position : Nat) (entries : List FileEntry)
  | fileListFinished (position : Nat)
  | fileInfoAnswer (position : Nat) (path : String) (size : UInt64) (dateTime : Int)
  | refuse (position : Nat)

def step (s : FileBrowser) : Action → Option FileBrowser
  | .listFiles call queued => some (hand (s.listFiles call queued))
  | .fileInfo call queued => some (hand (s.fileInfo call queued))
  | .queueCommand command =>
    if (fileRequest command).isSome then none else some { s with pipe := s.pipe.queue command }
  | .setConnected connected => some { s with connected }
  | .receive => s.receive
  | .take now => some { s with pipe := s.pipe.take now }
  | .enterDegraded now => some { s with pipe := s.pipe.enterDegraded now }
  | .execute failure => s.execute failure
  | .fileList position entries => s.handleFileList position entries
  | .fileListFinished position => s.handleFileListFinished position
  | .fileInfoAnswer position path size dateTime => s.handleFileInfo position path size dateTime
  | .refuse position => s.refuse position

end FileBrowser

end Nek0.Source
