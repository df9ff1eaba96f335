import Nek0.Source.FileTransfers

/-!
# Downloading the bytes of a file

`run_file_download` and `spawn_download_stream` of `native/src/api.rs`: what either task makes of
the reads from its socket, and the event and the file that it leaves behind. The reads are an
input; which of them take too long is part of how they end.
-/

namespace Nek0.Source.Downloads

/-- The length of the buffer that is read into. -/
def BUFFER : Nat := 16 * 1024

/-- What comes after the last byte. -/
inductive StreamEnd where
  | closed
  /-- A read fails. -/
  | failed
  /-- Nothing comes within the timeout, or ever. -/
  | silent
  deriving DecidableEq, Repr

/-- The target path: the file there, whether it can be written, what a failed write leaves there,
and whether it can be removed. -/
structure Target where
  file : Option (List UInt8)
  writable : Bool
  left : Option (List UInt8)
  removable : Bool
  deriving DecidableEq, Repr

/-- What a task has come to, and the file that is there then. -/
structure Outcome where
  result : Except String Nat
  file : Option (List UInt8)

/-- A task that has ended. -/
structure Finished where
  event : FileTransferEvent
  file : Option (List UInt8)
  deriving DecidableEq, Repr

/-- `std::fs::write` and the number of bytes. -/
def write (target : Target) (payload : List UInt8) : Outcome :=
  if target.writable then ⟨.ok payload.length, some payload⟩ else ⟨.error "io", target.left⟩

/-- The event of a result; a failure removes the file. -/
def finish (transferId : UInt16) (job : PendingTransfer) (target : Target) (outcome : Outcome) :
    Finished :=
  match outcome.result with
  | .ok bytes =>
    ⟨⟨transferId, job.remotePath, job.targetPath, bytes, true, none, transferId⟩, outcome.file⟩
  | .error reason =>
    ⟨⟨transferId, job.remotePath, "", 0, false, some reason, transferId⟩,
      if target.removable then none else outcome.file⟩

section Answered

/-- The loop of `run_file_download`: the payload so far, and the reads to come. -/
def readPayload (limit announced : Nat) (ending : StreamEnd) (payload : List UInt8) :
    List (List UInt8) → Except String (List UInt8)
  | [] => if ending = .closed then .ok payload else .error "network"
  | read :: reads =>
    if limit < payload.length + read.length then .error "too_large"
    else if 0 < announced ∧ announced ≤ (payload ++ read).length then .ok (payload ++ read)
    else readPayload limit announced ending (payload ++ read) reads

/-- `reached` says whether the address was found, the connection built and the key sent. -/
def runFileDownload (job : PendingTransfer) (announced : Nat) (reached : Bool) (target : Target)
    (reads : List (List UInt8)) (ending : StreamEnd) : Outcome :=
  let limit := min job.maxBytes TRANSFER_HARD_LIMIT
  if limit < announced then ⟨.error "too_large", target.file⟩
  else if !reached then ⟨.error "network", target.file⟩
  else
    match readPayload limit announced ending [] reads with
    | .error reason => ⟨.error reason, target.file⟩
    | .ok payload =>
      if 0 < announced ∧ payload.length < announced then ⟨.error "network", target.file⟩
      else write target payload

def spawnFileDownload (transferId : UInt16) (job : PendingTransfer) (announced : Nat)
    (reached : Bool) (target : Target) (reads : List (List UInt8)) (ending : StreamEnd) :
    Finished :=
  finish transferId job target (runFileDownload job announced reached target reads ending)

end Answered

section Streamed

/-- The loop of `spawn_download_stream`, which has no timeout. -/
def readStream (maxBytes : Nat) (ending : StreamEnd) (payload : List UInt8) :
    List (List UInt8) → Option (Except String (List UInt8))
  | [] =>
    match ending with
    | .closed => some (.ok payload)
    | .failed => some (.error "network")
    | .silent => none
  | read :: reads =>
    if maxBytes < payload.length + read.length then some (.error "too_large")
    else readStream maxBytes ending (payload ++ read) reads

/-- Nothing while the task waits for the stream to go on. -/
def spawnDownloadStream (transferId : UInt16) (job : PendingTransfer) (target : Target)
    (reads : List (List UInt8)) (ending : StreamEnd) : Option Finished :=
  (readStream job.maxBytes ending [] reads).map fun
    | .error reason => finish transferId job target ⟨.error reason, target.file⟩
    | .ok payload => finish transferId job target (write target payload)

end Streamed

/-- A stream of the session ends with this event. -/
theorem endStream_finish (s : TransferSession) (position : Nat) (transferId : UInt16)
    (job : PendingTransfer) (target : Target) (outcome : Outcome)
    (started : s.streams[position]? =
      some ⟨transferId, job.remotePath, job.targetPath, transferId⟩) :
    (s.endStream position outcome.result).map (·.events) =
      some (s.events ++ [(finish transferId job target outcome).event]) := by
  unfold TransferSession.endStream finish
  rw [started]
  cases outcome.result <;> rfl

end Nek0.Source.Downloads
