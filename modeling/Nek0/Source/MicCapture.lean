import Nek0.Library.LittleEndian

/-!
# Capture of the microphone

`readMicBuffer` and `MicStreamHandler` of `MainActivity.kt` and the microphone part of
`lib/services/audio_service.dart`. A sample is a float of 32 bits, which is copied and not computed
with, so it is a word here. An event of the channel holds a copy of the bytes, since the codec
serializes them before `success` returns. The level of the microphone is left out, and a capture
begins after the thread of the last one has ended.
-/

namespace Nek0.Source.MicCapture

open Nek0.Library

abbrev Sample := UInt32

/-- The size of `micFrame`, 20 ms at 48 kHz. -/
def micFrameSize : Nat := 960

def maxMicSamples : Nat := 960

/-- What `AudioRecord.read` stores, or the error code that it returns. -/
inductive ReadResult where
  | samples (l : List Sample)
  | error (code : Int)
  deriving DecidableEq, Repr

def ReadResult.stored : ReadResult → List Sample
  | .samples l => l
  | .error _ => []

/-- A blocking read of one frame stores at most that many samples, and an error is negative. -/
def ReadResult.possible : ReadResult → Bool
  | .samples l => l.length ≤ micFrameSize
  | .error code => code < 0

/-- An event of the channel, with the samples that its read has stored. -/
structure MicEvent where
  data : List UInt8
  read : List Sample
  deriving DecidableEq, Repr

structure MicPath where
  micFrame : List Sample
  isRecording : Bool
  /-- The capture thread with its reused bytes. -/
  thread : Option (List UInt8)
  sink : Bool
  /-- The events that Dart has not handled yet. -/
  events : List MicEvent
  /-- `_micSubscription` -/
  subscribed : Bool
  running : Bool
  connectionId : Nat
  micPtr : Option (List Sample)
  /-- All that was passed to `ts_send_audio`. -/
  sent : List Sample
  /-- What was read for the events that were handled while transmitting. -/
  captured : List Sample
  deriving DecidableEq, Repr

namespace MicPath

def start : MicPath where
  micFrame := .replicate micFrameSize 0
  isRecording := false
  thread := none
  sink := false
  events := []
  subscribed := false
  running := false
  connectionId := 0
  micPtr := none
  sent := []
  captured := []

/-- Stores values at the front of an array. -/
def put {α : Type} (array values : List α) : List α := values ++ array.drop values.length

section Platform

variable (s : MicPath)

/-- `startMic` where the recorder can be opened, and the thread. -/
def onListen (opened : Bool) : MicPath :=
  let s := { s with sink := true }
  if s.isRecording || opened then
    { s with isRecording := true, thread := some (.replicate (micFrameSize * 4) 0) }
  else s

def onCancel : MicPath := { s with isRecording := false, sink := false }

/-- The loop of the thread sees that the capture has ended. -/
def endThread : MicPath := { s with thread := none }

/-- The reused frame after a read, and the samples that the read hands on. -/
def readMicBuffer : ReadResult → List Sample × Option (List Sample)
  | .error _ => (s.micFrame, none)
  | .samples l =>
    let micFrame := put s.micFrame l
    if l.length = 0 then (micFrame, none)
    else if l.length < micFrame.length then (micFrame, some (micFrame.take l.length))
    else (micFrame, some micFrame)

/-- A round of the loop of the capture thread. -/
def captureRound (bytes : List UInt8) (result : ReadResult) : MicPath :=
  let (micFrame, data) := s.readMicBuffer result
  let s := { s with micFrame }
  match data with
  | none => s
  | some data =>
    let bytes := put bytes (LittleEndian.encode data)
    let s := { s with thread := some bytes }
    if s.sink then { s with events := s.events ++ [⟨bytes, result.stored⟩] } else s

end Platform

section AudioService

variable (s : MicPath)

def transmits : Bool := s.running && s.connectionId ≠ 0

/-- `_handleMicData`. The memory of a new `_micPtr` is arbitrary, and none of it is passed on. -/
def handleMicData (bytes : List UInt8) : MicPath :=
  let floatCount := bytes.length / 4
  if floatCount = 0 then s
  else if maxMicSamples < floatCount then s
  else if s.transmits then
    let micPtr := put (s.micPtr.getD (.replicate maxMicSamples 0)) (LittleEndian.decode bytes)
    { s with micPtr := some micPtr, sent := s.sent ++ micPtr.take floatCount }
  else s

/-- The listener of the stream gets the oldest event. -/
def deliver (event : MicEvent) (rest : List MicEvent) : MicPath :=
  let s := { s with events := rest }
  if s.subscribed && s.running then
    let heard := if s.transmits then event.read else []
    { s.handleMicData event.data with captured := s.captured ++ heard }
  else s

/-- `start`, with the answer of `startAudio`. -/
def startService (started : Bool) : MicPath :=
  if s.running then s
  else if s.connectionId = 0 then { s with running := true }
  else if started then { s with running := true }
  else s

def stopService : MicPath :=
  if s.running then { s with running := false, subscribed := false, micPtr := none } else s

end AudioService

inductive Action where
  | onListen (opened : Bool)
  | onCancel
  | endThread
  | read (result : ReadResult)
  | deliver
  /-- `_startMic` -/
  | startMic
  /-- `_stopMic` -/
  | stopMic
  | start (started : Bool)
  | stop
  /-- The controller attaches another session. -/
  | attach (connectionId : Nat)
  deriving DecidableEq, Repr

def step (s : MicPath) : Action → Option MicPath
  | .onListen opened => if s.thread = none then some (s.onListen opened) else none
  | .onCancel => some s.onCancel
  | .endThread => if s.isRecording then none else some s.endThread
  | .read result =>
    if result.possible then s.thread.map fun bytes => s.captureRound bytes result else none
  | .deliver =>
    match s.events with
    | [] => none
    | event :: rest => some (s.deliver event rest)
  | .startMic => some { s with subscribed := true }
  | .stopMic => some { s with subscribed := false }
  | .start started => some (s.startService started)
  | .stop => some s.stopService
  | .attach connectionId => some { s with connectionId }

end MicPath

end Nek0.Source.MicCapture
