import Nek0.Library.SortedMap
import Nek0.Source.PacketNumbers

/-!
# Resending of packets

The queues of `resend.rs`: sent packets wait in `full_send_queue` until they are acknowledged, and
those inside the congestion window also wait in `send_queue` until they are sent again. Times are
natural numbers. The clock, the congestion window, the retransmission timeout and the answers of
the socket come from outside. The statistics, the round trip times and the pings are left out.
-/

namespace Nek0.Source.Tsproto

open Nek0.Library

structure PacketId where
  packetType : PacketType
  part : PartialPacketId
  deriving DecidableEq, Repr

structure OutUdpPacket where
  generationId : UInt32
  data : Packet
  deriving DecidableEq, Repr

namespace OutUdpPacket

def packetType (p : OutUdpPacket) : PacketType := p.data.header.packetType

/-- Init packets are identified by their step. -/
def packetId (p : OutUdpPacket) : UInt16 :=
  if p.packetType = .init then
    let step := match p.data.direction with
      | .s2c => p.data.content.getD 0 0
      | .c2s => p.data.content.getD 4 0
    step.toUInt16
  else p.data.header.packetId

def id (p : OutUdpPacket) : PacketId := ⟨p.packetType, ⟨p.generationId, p.packetId⟩⟩

end OutUdpPacket

structure SendRecordId where
  last : Nat
  tries : Nat
  id : PacketId
  deriving DecidableEq, Repr

namespace SendRecordId

/-- `Ord`: whether the second record has to be sent before the first one. -/
def lt (a b : SendRecordId) : Bool :=
  if b.tries = 0 ∧ a.tries ≠ 0 then true
  else if a.tries = 0 ∧ b.tries ≠ 0 then false
  else decide (b.last < a.last) || (a.last == b.last && b.id.part.lt a.id.part)

end SendRecordId

structure SendRecord where
  sent : Nat
  id : SendRecordId
  packet : OutUdpPacket
  deriving DecidableEq, Repr

/-- `send_queue` is a heap, here without its order. The arrays are indexed by the types `Init`,
`Command` and `CommandLow`. -/
structure Resender where
  sendQueue : List SendRecordId
  fullSendQueue : PacketType → SortedMap PartialPacketId SendRecord
  sendQueueIndices : PacketType → PartialPacketId

namespace Resender

def default : Resender := ⟨[], fun _ => .empty, fun _ => ⟨0, 0⟩⟩

/-- Packets of these types are kept until they are acknowledged. -/
def resendTypes : List PacketType := [PacketType.init, .command, .commandLow]

def setQueue (r : Resender) (t : PacketType) (queue : SortedMap PartialPacketId SendRecord) :
    Resender :=
  { r with fullSendQueue := Function.update r.fullSendQueue t queue }

/-- The packet after those that the first ack acknowledges: all until the next packet that waits,
or until the next packet to send. -/
def nextUnacked (outgoingPIds : PacketType → PartialPacketId) (pType : PacketType)
    (pId : UInt16) : List (PartialPacketId × SendRecord) → PartialPacketId
  | (_, rec2) :: _ => rec2.id.id.part
  | [] => if pType = .init then ⟨0, pId + 1⟩ else outgoingPIds pType

/-- `ack_packet`, with the packet id that it announces. -/
def ackPacket (r : Resender) (outgoingPIds : PacketType → PartialPacketId) (pType : PacketType)
    (pId : UInt16) : Resender × Option PacketId :=
  if pType = .ping then (r, none)
  else
    match (r.fullSendQueue pType).entries with
    | [] => (r, none)
    | (first, _) :: others =>
      if first.packetId = pId then
        (r.setQueue pType ((r.fullSendQueue pType).erase first),
          some ⟨pType, (nextUnacked outgoingPIds pType pId others).sub 1⟩)
      else
        let generationId :=
          if pId < first.packetId then first.generationId + 1 else first.generationId
        (r.setQueue pType ((r.fullSendQueue pType).erase ⟨generationId, pId⟩), none)

/-- The records that `fill_up_send_queue` has not come to yet. -/
def pending (r : Resender) (t : PacketType) : List SendRecord :=
  ((r.fullSendQueue t).entries.map Prod.snd).dropWhile fun rec =>
    rec.id.id.part.lt (r.sendQueueIndices t)

/-- The type whose next record is taken, with its time, after one iterator more. -/
def pickBetter (iters : PacketType → List SendRecord) (best : Option (PacketType × Nat))
    (t : PacketType) : Option (PacketType × Nat) :=
  match iters t with
  | [] => best
  | rec :: _ => match best with
    | none => some (t, rec.sent)
    | some (_, time) => if time < rec.sent then some (t, rec.sent) else best

/-- The iterator whose next record is taken. -/
def pickIter (iters : PacketType → List SendRecord) : Option PacketType :=
  (resendTypes.foldl (pickBetter iters) none).map Prod.fst

/-- The loop of `fill_up_send_queue`, for as many records as fit into the window. -/
def fill (iters : PacketType → List SendRecord) : Nat → Resender → Resender
  | 0, r => r
  | room + 1, r => match pickIter iters with
    | none => r
    | some t => match iters t with
      | [] => r
      | rec :: rest =>
        fill (Function.update iters t rest) room
          { r with
            sendQueue := rec.id :: r.sendQueue
            sendQueueIndices := Function.update r.sendQueueIndices t (rec.id.id.part.add 1) }

def fillUpSendQueue (r : Resender) (window : Nat) : Resender :=
  fill r.pending (window - r.sendQueue.length) r

def rebuildSendQueue (r : Resender) (window : Nat) : Resender :=
  fillUpSendQueue { r with sendQueue := [], sendQueueIndices := fun _ => ⟨0, 0⟩ } window

/-- `send_packet` at a time. -/
def sendPacket (r : Resender) (packet : OutUdpPacket) (now window : Nat) : Resender :=
  let rec_ : SendRecord := ⟨now, ⟨now, 0, packet.id⟩, packet⟩
  let i := packet.id.packetType
  let part := packet.id.part
  let indices :=
    if part.lt (r.sendQueueIndices i) then Function.update r.sendQueueIndices i part
    else r.sendQueueIndices
  fillUpSendQueue
    { r with
      sendQueueIndices := indices
      fullSendQueue := Function.update r.fullSendQueue i ((r.fullSendQueue i).insert part rec_) }
    window

/-- What one turn of `poll_resend` depends on. -/
structure PollEnv where
  now : Nat
  rto : Nat
  timeout : Nat
  window : Nat
  /-- The socket takes the packet. -/
  ready : Bool
  deriving DecidableEq, Repr

/-- The record at the top of the heap. -/
def IsTop (r : Resender) (top : SendRecordId) : Prop :=
  top ∈ r.sendQueue ∧ ∀ other ∈ r.sendQueue, SendRecordId.lt top other = false

instance (r : Resender) (top : SendRecordId) : Decidable (r.IsTop top) :=
  inferInstanceAs (Decidable (_ ∧ _))

/-- One turn of the loop of `poll_resend` with the record at the top of the heap; `none` is a
timeout of the connection. -/
def pollResend (r : Resender) (top : SendRecordId) (env : PollEnv) : Option Resender :=
  let t := top.id.packetType
  match (r.fullSendQueue t).lookup top.id.part with
  | none =>
    -- The packet was acknowledged.
    some (fillUpSendQueue { r with sendQueue := r.sendQueue.erase top } env.window)
  | some fullRec =>
    if top.tries ≠ 0 ∧ env.now - env.rto < top.last then some r
    else if env.timeout < env.now - fullRec.sent then none
    else if !env.ready then some r
    else
      let top' : SendRecordId := { top with last := env.now, tries := top.tries + 1 }
      let r' : Resender :=
        { r with
          sendQueue := top' :: r.sendQueue.erase top
          fullSendQueue := Function.update r.fullSendQueue t
            ((r.fullSendQueue t).insert top.id.part { fullRec with id := top' }) }
      if top'.tries ≠ 1 then some (rebuildSendQueue r' env.window) else some r'

end Resender

end Nek0.Source.Tsproto
