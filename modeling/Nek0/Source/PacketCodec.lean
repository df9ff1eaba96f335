import Nek0.Source.PacketKeys
import Nek0.Source.Resender

/-!
# Packet codec of the protocol library

`packet_codec.rs`, with the functions of `algorithms.rs` and `connection.rs` that it calls, for a
connection whose handshake is over (`params` is `Some`). The packets that a function hands to the
socket or to the queue in front of it are part of its result, and so is what it encrypts. Stream
items stay in their list. The cipher and the compression are parameters; so is the log of what has
been encrypted, which stands for the keys. Audio packets are handed on as they are.
-/

namespace Nek0.Source.Tsproto

open Nek0.Library

structure Tools where
  aead : PacketAead
  compress : List UInt8 → List UInt8
  /-- `quicklz::decompress` with `MAX_DECOMPRESSED_SIZE`. -/
  decompress : List UInt8 → Option (List UInt8)

structure ConnectedParams where
  cId : UInt16
  voiceEncryption : Bool
  sharedMac : Mac
  keyCache : KeyCache

/-- The arrays are indexed by the packet type. Only `Command` and `CommandLow` have queues. -/
structure PacketCodec where
  outgoingPIds : PacketType → PartialPacketId
  receiveQueue : PacketType → List Packet
  fragmentedQueue : PacketType → Option Packet
  incomingPIds : PacketType → PartialPacketId

inductive StreamError where
  | packetParse (e : ParseError)
  | createAck (e : ParseError)
  | unexpectedInitPacket
  | wrongClientId (cId : UInt16)
  | wrongMac (pType : PacketType) (generationId : UInt32) (packetId : UInt16)
  | unallowedUnencryptedPacket
  | notInReceiveWindow (id next limit : UInt16) (pType : PacketType)
  deriving DecidableEq, Repr

inductive StreamItem where
  | command (p : Packet)
  | audio (p : Packet)
  | ackPacket (id : PacketId)
  | error (e : StreamError)
  deriving DecidableEq, Repr

/-- An error that ends the connection. -/
inductive FatalError where
  | decompressPacket
  | maxLengthExceeded (what : String)
  deriving DecidableEq, Repr

structure Connection where
  isClient : Bool
  params : ConnectedParams
  codec : PacketCodec
  resender : Resender
  streamItems : List StreamItem

namespace Connection

/-- The direction of the packets that arrive. -/
def dir (con : Connection) : Direction := if con.isClient then .s2c else .c2s

def push (con : Connection) (item : StreamItem) : Connection :=
  { con with streamItems := con.streamItems ++ [item] }

end Connection

def maxFragmentsLength : Nat := 40960
def maxQueueLen : UInt16 := 200

def mustEncrypt (t : PacketType) : Bool := t.isCommand

def shouldEncrypt (t : PacketType) (voiceEncryption : Bool) : Bool :=
  mustEncrypt t || t == .ack || t == .ackLow || (voiceEncryption && t.isVoice)

/-- The bytes of a text literal. -/
def ascii (s : String) : List UInt8 := s.toList.map fun c => .ofNat c.toNat

section Split

/-- Pieces of the greatest length, and the rest. -/
def splitData (maxSize : Nat) : Nat → List UInt8 → List (List UInt8)
  | 0, data => [data]
  | fuel + 1, data =>
    if maxSize < data.length then data.take maxSize :: splitData maxSize fuel (data.drop maxSize)
    else [data]

/-- The flags of the fragment with an index. -/
def fragmentFlags (flags : Flags) (compressed : Bool) (index count : Nat) : Flags :=
  { flags with
    compressed := flags.compressed || (index == 0 && compressed)
    fragmented := flags.fragmented || (decide (1 < count) && (index == 0 || index == count - 1)) }

def fragments (header : Header) (compressed : Bool) (datas : List (List UInt8)) : List Packet :=
  datas.mapIdx fun i d =>
    ⟨{ header with flags := fragmentFlags header.flags compressed i datas.length }, d⟩

/-- The data, compressed only if that is efficient. -/
def packData (tools : Tools) (data : List UInt8) : Bool × List UInt8 :=
  let cdata := tools.compress data
  if data.length < cdata.length then (false, data) else (true, cdata)

/-- The maximum packet size (including header) is 500 bytes. -/
def maxSize (isClient : Bool) : Nat :=
  500 - (if isClient then Direction.c2s.headerLen else Direction.s2c.headerLen)

/-- `compress_and_split` for commands. -/
def compressAndSplit (tools : Tools) (isClient : Bool) (packet : Packet) : List Packet :=
  if maxSize isClient < packet.content.length then
    let packed := packData tools packet.content
    fragments packet.header packed.1 (splitData (maxSize isClient) packed.2.length packed.2)
  else [packet]

end Split

/-- What encoding has produced so far. -/
structure Encoded where
  con : Connection
  packets : List OutUdpPacket
  sealed : List PacketSealing

/-- The number of the next packet of a type. -/
def Connection.nextPId (con : Connection) (t : PacketType) : PartialPacketId :=
  if t = .init then ⟨0, 0⟩ else con.codec.outgoingPIds t

def Connection.setOutgoing (con : Connection) (t : PacketType) (id : PartialPacketId) :
    Connection :=
  { con with codec.outgoingPIds := Function.update con.codec.outgoingPIds t id }

def Connection.setKeyCache (con : Connection) (keyCache : KeyCache) : Connection :=
  { con with params.keyCache := keyCache }

/-- The key of a packet, if it is encrypted, and the cache after that. -/
def packetKey (fakeEncrypt encrypt : Bool) (packet : Packet) (generationId : UInt32)
    (cache : KeyCache) : Option KeyNonce × KeyCache :=
  if fakeEncrypt then (some .fake, cache)
  else if encrypt then
    let keyed := createKeyNonce packet.header.packetType packet.header.clientId
      packet.header.packetId generationId cache
    (some keyed.1, keyed.2)
  else (none, cache)

def encryptWith (aead : PacketAead) (key : Option KeyNonce) (packet : Packet) : Packet :=
  match key with
  | none => packet
  | some key => encryptKeyNonce aead key packet

/-- Init packets have no number. -/
def Packet.withNumber (packet : Packet) (pId : PartialPacketId) : Packet :=
  if packet.header.packetType = .init then packet else packet.setPacketId pId.packetId

/-- Numbers and encrypts one packet. -/
def encodeOne (tools : Tools) (fakeEncrypt encrypt : Bool) (done : Encoded) (packet : Packet) :
    Encoded :=
  let pType := packet.header.packetType
  let pId := done.con.nextPId pType
  let packet := packet.withNumber pId
  let keyed := packetKey fakeEncrypt encrypt packet pId.generationId done.con.params.keyCache
  -- Increment outgoing_p_ids.
  let next := pId.add 1
  let con := done.con.setKeyCache keyed.2
  { con := if pType = .init then con else con.setOutgoing pType next
    packets := done.packets ++ [⟨next.generationId, encryptWith tools.aead keyed.1 packet⟩]
    sealed := done.sealed ++ (keyed.1.map fun key => sealing key packet).toList }

/-- The first command of a server, the `clientek` of a client and the first ack of a client are
encrypted with a key that everybody knows. -/
def fakeEncrypts (isClient : Bool) (pType : PacketType) (pId : PartialPacketId)
    (content : List UInt8) : Bool :=
  (pType == .command && pId.generationId == 0 &&
    ((!isClient && pId.packetId == 0) ||
      (isClient && pId.packetId == 1 && (ascii "clientek").isPrefixOf content))) ||
  (isClient && pType == .ack && pId.generationId == 0 && pId.packetId == 0)

/-- The packet with the flags and the ids that all its fragments share. -/
def prepare (con : Connection) (packet : Packet) : Packet :=
  let pType := packet.header.packetType
  let packet := if pType.isCommand && con.isClient then
      packet.setFlags { packet.header.flags with newprotocol := true } else packet
  -- The caller makes sure that a packet of a client goes to the server.
  let packet := if con.isClient then { packet with header.clientId := some con.params.cId }
    else packet
  if !shouldEncrypt pType con.params.voiceEncryption &&
      !fakeEncrypts con.isClient pType (con.nextPId pType) packet.content then
    (packet.setFlags { packet.header.flags with unencrypted := true }).setMac con.params.sharedMac
  else packet

/-- The packets that a packet is sent as, before they get their numbers. -/
def plainPackets (tools : Tools) (con : Connection) (packet : Packet) : List Packet :=
  let pType := packet.header.packetType
  let prepared := prepare con packet
  if pType.isCommand then compressAndSplit tools con.isClient prepared
  -- Set the inner packet id for voice packets.
  else if con.isClient && pType.isVoice then
    [{ prepared with
      content := writeU16 (con.nextPId pType).packetId ++ prepared.content.drop 2 }]
  else [prepared]

def encodePacket (tools : Tools) (con : Connection) (packet : Packet) : Encoded :=
  let pType := packet.header.packetType
  (plainPackets tools con packet).foldl
    (encodeOne tools (fakeEncrypts con.isClient pType (con.nextPId pType) packet.content)
      (shouldEncrypt pType con.params.voiceEncryption))
    ⟨con, [], []⟩

section Receive

/-- `decompress` of the content. -/
def Packet.decompress (tools : Tools) (p : Packet) : Except FatalError Packet :=
  match tools.decompress p.content with
  | none => .error .decompressPacket
  | some content => .ok { p with content }

/-- What a packet in order does to the fragments before it: the new fragments, and the packet that
is complete. -/
def reassemble (tools : Tools) (fragments : Option Packet) (packet : Packet) :
    Except FatalError (Option Packet × Option Packet) :=
  if packet.header.flags.fragmented then
    match fragments with
    | some queue =>
      -- Last fragmented packet.
      let whole := queue.extend packet.content
      if whole.header.flags.compressed then
        (whole.decompress tools).map fun p => (none, some p)
      else .ok (none, some whole)
    | none => .ok (some packet, none)
  else
    match fragments with
    | some queue =>
      -- The packet is fragmented.
      if queue.bytes.length < maxFragmentsLength then
        .ok (some (queue.extend packet.content), none)
      else .error (.maxLengthExceeded "fragment queue")
    | none =>
      if packet.header.flags.compressed then
        (packet.decompress tools).map fun p => (none, some p)
      else .ok (none, some packet)

/-- What `handle_command_packet` keeps of a command type. -/
structure CommandState where
  next : PartialPacketId
  queue : List Packet
  fragments : Option Packet
  deriving DecidableEq, Repr

/-- The loop over a packet in order and those that follow it in the receive queue. Each turn after
the first takes a packet out of the queue, and there are as many turns as it has packets. -/
def handleInOrder (tools : Tools) : Nat → CommandState → Packet → List Packet →
    Except FatalError (CommandState × List Packet)
  | fuel, s, packet, packets =>
    match reassemble tools s.fragments packet with
    | .error e => .error e
    | .ok (fragments, complete) =>
      let s := { s with next := s.next.add 1, fragments }
      let packets := packets ++ complete.toList
      -- Check if there are following packets in the receive queue.
      let follows := fun p : Packet => p.header.packetId == packet.header.packetId + 1
      match fuel, s.queue.find? follows with
      | fuel + 1, some p =>
        handleInOrder tools fuel { s with queue := s.queue.eraseP follows } p packets
      | _, _ => .ok (s, packets)

def handleCommandState (tools : Tools) (s : CommandState) (packet : Packet) :
    Except FatalError (CommandState × List Packet) :=
  let id := packet.header.packetId
  let curNext := s.next.packetId
  if curNext = id then handleInOrder tools s.queue.length s packet []
  else
    -- Out of order.
    let limit := curNext + maxQueueLen
    let nextGen := decide (2 ^ 16 ≤ curNext.toNat + maxQueueLen.toNat)
    if (!nextGen && decide (curNext ≤ id) && decide (id < limit)) ||
        (nextGen && (decide (curNext ≤ id) || decide (id < limit))) then
      .ok ({ s with queue := s.queue ++ [packet] }, [])
    else .error (.maxLengthExceeded "command queue")

def PacketCodec.commandState (codec : PacketCodec) (t : PacketType) : CommandState :=
  ⟨codec.incomingPIds t, codec.receiveQueue t, codec.fragmentedQueue t⟩

def PacketCodec.setCommandState (codec : PacketCodec) (t : PacketType) (s : CommandState) :
    PacketCodec :=
  { codec with
    incomingPIds := Function.update codec.incomingPIds t s.next
    receiveQueue := Function.update codec.receiveQueue t s.queue
    fragmentedQueue := Function.update codec.fragmentedQueue t s.fragments }

def handleCommandPacket (tools : Tools) (codec : PacketCodec) (packet : Packet) :
    Except FatalError (PacketCodec × List Packet) :=
  let t := packet.header.packetType
  (handleCommandState tools (codec.commandState t) packet).map fun r =>
    (codec.setCommandState t r.1, r.2)

def Connection.ackPacket (con : Connection) (pType : PacketType) (pId : UInt16) : Connection :=
  let r := con.resender.ackPacket con.codec.outgoingPIds pType pId
  { con with
    resender := r.1
    streamItems := con.streamItems ++ (r.2.map StreamItem.ackPacket).toList }

/-- A command that is complete. Some commands of the handshake acknowledge packets. -/
def Connection.receiveCommand (con : Connection) (c : Packet) : Connection :=
  let con :=
    if con.isClient && (ascii "initivexpand2 ").isPrefixOf c.content then con.ackPacket .init 4
    else if con.isClient && (ascii "initserver ").isPrefixOf c.content then con.ackPacket .command 2
    else if !con.isClient && (ascii "clientek ").isPrefixOf c.content then con.ackPacket .command 0
    else con
  con.push (.command c)

/-- The decrypted packet with the state of the key cache, or the item for the error. -/
def decryptPacket (tools : Tools) (log : List PacketSealing) (con : Connection) (packet : Packet)
    (genId : UInt32) : Except StreamError Packet × KeyCache :=
  let pType := packet.header.packetType
  let id := packet.header.packetId
  let keyed := createKeyNonce pType packet.header.clientId id genId con.params.keyCache
  let real : Except StreamError Packet × KeyCache :=
    (match decryptKeyNonce tools.aead log keyed.1 packet with
      | some content => .ok { packet with content }
      | none => .error (.wrongMac pType genId id), keyed.2)
  -- If it is the first ack packet of a client, try to fake decrypt it.
  if pType == .ack && decide (id ≤ 1) && con.isClient then
    match decryptKeyNonce tools.aead log .fake packet with
    | some content => (.ok { packet with content }, con.params.keyCache)
    | none => real
  else real

/-- The packet type whose packets a packet of this type acknowledges. -/
def ackedType (t : PacketType) : PacketType :=
  match t with
  | .ack => .command
  | .ackLow => .commandLow
  | .pong => .ping
  | t => t

/-- Packets that are no commands. -/
def receiveOther (con : Connection) (packet : Packet) (genId : UInt32) : Connection :=
  let pType := packet.header.packetType
  let next := PartialPacketId.add ⟨genId, packet.header.packetId⟩ 1
  let con := { con with codec.incomingPIds := Function.update con.codec.incomingPIds pType next }
  match packet.ackPacket with
  | .error e => con.push (.error (.createAck e))
  | .ok acked =>
    let con := match acked with
      | some ackId => con.ackPacket (ackedType pType) ackId
      | none => con
    if pType.isVoice then con.push (.audio packet) else con

/-- A decrypted packet; the flag says whether it is acknowledged. -/
def receivePacket (tools : Tools) (con : Connection) (packet : Packet) (genId : UInt32) :
    Except FatalError (Connection × Bool) :=
  let pType := packet.header.packetType
  if pType.isCommand then
    (handleCommandPacket tools con.codec packet).map fun r =>
      (r.2.foldl Connection.receiveCommand { con with codec := r.1 }, true)
  else
    -- A ping whose ack cannot be made does not occur: a ping is no ack packet.
    .ok (receiveOther con packet genId, pType == .ping)

/-- Whether the receive window does not matter. -/
def ignoresRange (t : PacketType) : Bool := t == .ack || t == .ackLow || t.isVoice

/-- `PacketCodec::handle_udp_packet` up to the sending of the ack. -/
def handlePacket (tools : Tools) (log : List PacketSealing) (con : Connection) (packet : Packet) :
    Except FatalError (Connection × Bool) :=
  let pType := packet.header.packetType
  let id := packet.header.packetId
  let window := inReceiveWindow (con.codec.incomingPIds pType) pType id
  -- Accept any client id for the first few acks.
  let isFirstAck := window.genId == 0 && decide (id ≤ 3) && pType == .ack
  if pType = .init then .ok (con.push (.error .unexpectedInitPacket), false)
  else if !con.isClient && packet.header.clientId != some con.params.cId && !isFirstAck then
    .ok (con.push (.error (.wrongClientId (packet.header.clientId.getD 0))), false)
  else if ignoresRange pType || window.inRecvWin then
    if !packet.header.flags.unencrypted then
      if pType == .ack && id == 1 && con.isClient then
        -- This is the ack packet for the clientinit.
        .ok (con, false)
      else
        match decryptPacket tools log con packet window.genId with
        | (.error e, cache) => .ok ((con.setKeyCache cache).push (.error e), false)
        | (.ok p, cache) => receivePacket tools (con.setKeyCache cache) p window.genId
    else if mustEncrypt pType then .ok (con.push (.error .unallowedUnencryptedPacket), false)
    else receivePacket tools con packet window.genId
  else
    -- Send an ack for the case when it was lost.
    .ok (con.push (.error (.notInReceiveWindow id window.curNext window.limit pType)),
      pType.isCommand)

/-- Sends the ack for a packet if it is acknowledged. -/
def answer (tools : Tools) (dir : Direction) (packet : Packet) (r : Connection × Bool) : Encoded :=
  if r.2 then
    match OutAck.new dir.reverse packet.header.packetType packet.header.packetId with
    | some ack => encodePacket tools r.1 ack
    | none => ⟨r.1, [], []⟩
  else ⟨r.1, [], []⟩

/-- `Connection::handle_udp_packet` for a datagram from the address of the other side. -/
def handleUdpPacket (tools : Tools) (log : List PacketSealing) (con : Connection)
    (data : List UInt8) : Except FatalError Encoded :=
  match InPacket.tryNew con.dir data with
  | .error e => .ok ⟨con.push (.error (.packetParse e)), [], []⟩
  | .ok packet => (handlePacket tools log con packet).map (answer tools con.dir packet)

end Receive

/-- Packets of some types wait in the resender. -/
def Resender.keep (now window : Nat) (r : Resender) (p : OutUdpPacket) : Resender :=
  if p.packetType ∈ resendTypes then r.sendPacket p now window else r

/-- `Connection::send_packet` at a time. -/
def sendPacket (tools : Tools) (con : Connection) (packet : Packet) (now window : Nat) : Encoded :=
  let encoded := encodePacket tools con packet
  let resender := encoded.packets.foldl (Resender.keep now window) encoded.con.resender
  { encoded with con := { encoded.con with resender } }

end Nek0.Source.Tsproto
