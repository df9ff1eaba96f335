import Nek0.Source.CodecEffects

/-!
# A client and a server of the protocol library

Two connections and the network between them. The network may hand any bytes to either side at any
time, so it loses, repeats, delays, reorders and forges packets as it likes. Everybody can encrypt
with the keys that are no secret.
-/

namespace Nek0.Source.Tsproto

open Nek0.Library

inductive Side where
  | client | server
  deriving DecidableEq, Repr

def Side.other : Side → Side
  | client => server
  | server => client

@[simp] theorem Side.other_other (side : Side) : side.other.other = side := by
  cases side <;> rfl

theorem Side.other_ne (side : Side) : side.other ≠ side := by
  cases side <;> decide

/-- An acknowledgement that was sent. -/
structure AckFlight where
  packet : Packet
  /-- The own number of the ack packet. -/
  number : Nat
  /-- The type and the number of the command that it acknowledges. -/
  ackedType : PacketType
  acked : Nat
  deriving DecidableEq, Repr

/-- A connection, with what has happened to it. -/
structure Party where
  con : Connection
  alive : Bool
  /-- The contents of the commands that were given to `send_packet`. -/
  sent : PacketType → List (List UInt8)
  /-- The number that was expected when the receive queue was empty for the last time. -/
  drained : PacketType → Nat
  acks : List AckFlight

structure Link where
  party : Side → Party
  /-- Everything that has been encrypted. -/
  log : List PacketSealing

/-- Notes that a receive queue is empty. -/
def Party.note (p : Party) : Party :=
  { p with drained := fun t =>
      if p.con.codec.receiveQueue t = [] then p.con.expected t else p.drained t }

namespace Link

inductive Action where
  | send (side : Side) (packet : Packet) (now window : Nat)
  | receive (side : Side) (data : List UInt8)
  | poll (side : Side) (top : SendRecordId) (env : Resender.PollEnv)
  | forge (sealing : PacketSealing)
  deriving DecidableEq, Repr

def setParty (s : Link) (side : Side) (p : Party) : Link :=
  { s with party := Function.update s.party side p }

/-- The acks among the packets that a datagram was answered with. -/
def ackFlights (con : Connection) (data : List UInt8) (packets : List OutUdpPacket) :
    List AckFlight :=
  match InPacket.tryNew con.dir data with
  | .error _ => []
  | .ok p =>
    let t := p.header.packetType
    let window := inReceiveWindow (con.codec.incomingPIds t) t p.header.packetId
    packets.map fun out =>
      ⟨out.data, con.outgoing out.packetType, t,
        PartialPacketId.number ⟨window.genId, p.header.packetId⟩⟩

def step (tools : Tools) (s : Link) : Action → Option Link
  | .send side packet now window =>
    let p := s.party side
    if p.alive ∧ packet.direction = p.con.dir.reverse then
      let encoded := sendPacket tools p.con packet now window
      let t := packet.header.packetType
      some
        { s.setParty side
            { p with
              con := encoded.con
              sent := Function.update p.sent t (p.sent t ++ [packet.content]) } with
          log := s.log ++ encoded.sealed }
    else none
  | .receive side data =>
    let p := s.party side
    if p.alive then
      match handleUdpPacket tools s.log p.con data with
      | .error _ => some (s.setParty side { p with alive := false })
      | .ok encoded => some
          { s.setParty side
              { p with
                con := encoded.con
                acks := p.acks ++ ackFlights p.con data encoded.packets }.note with
            log := s.log ++ encoded.sealed }
    else none
  | .poll side top env =>
    let p := s.party side
    if p.alive ∧ p.con.resender.IsTop top then
      match p.con.resender.pollResend top env with
      | none => some (s.setParty side { p with alive := false })
      | some resender => some (s.setParty side { p with con := { p.con with resender } })
    else none
  | .forge sealing =>
    match sealing.key with
    | .fake | .mixed .zero _ => some { s with log := s.log ++ [sealing] }
    | .mixed (.digest ..) _ => none

end Link

end Nek0.Source.Tsproto
