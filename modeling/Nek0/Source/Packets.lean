import Mathlib.Data.List.Basic
import Nek0.Library.BigEndian

/-!
# Packets of the protocol library

`packets.rs` of `tsproto-packets`: packet types, flags and the packet header. The source keeps a
packet as its bytes, which `OutPacket` writes to and `InHeader` reads from. `Packet` holds the
fields of the header and the content instead, and the theorems say that both are the same. The
rest of the library is about `Packet`.
-/

namespace Nek0.Source.Tsproto

open Nek0.Library

inductive PacketType where
  | voice | voiceWhisper | command | commandLow | ping | pong | ack | ackLow | init
  deriving DecidableEq, Repr

inductive Direction where
  | s2c | c2s
  deriving DecidableEq, Repr

structure Flags where
  unencrypted : Bool
  compressed : Bool
  newprotocol : Bool
  fragmented : Bool
  deriving DecidableEq, Repr

namespace PacketType

def toU8 : PacketType → UInt8
  | voice => 0
  | voiceWhisper => 1
  | command => 2
  | commandLow => 3
  | ping => 4
  | pong => 5
  | ack => 6
  | ackLow => 7
  | init => 8

def fromU8 (b : UInt8) : Option PacketType :=
  if b = 0 then some voice
  else if b = 1 then some voiceWhisper
  else if b = 2 then some command
  else if b = 3 then some commandLow
  else if b = 4 then some ping
  else if b = 5 then some pong
  else if b = 6 then some ack
  else if b = 7 then some ackLow
  else if b = 8 then some init
  else none

def isCommand (t : PacketType) : Bool := t == command || t == commandLow
def isAck (t : PacketType) : Bool := t == ack || t == ackLow || t == pong
def isVoice (t : PacketType) : Bool := t == voice || t == voiceWhisper

def all : List PacketType :=
  [voice, voiceWhisper, command, commandLow, ping, pong, ack, ackLow, init]

theorem forall_mem_all_iff {p : PacketType → Prop} : (∀ t ∈ all, p t) ↔ ∀ t, p t := by
  constructor
  · intro each t
    exact each t (by cases t <;> decide)
  · exact fun each t _ => each t

instance decidableForall (p : PacketType → Prop) [DecidablePred p] : Decidable (∀ t, p t) :=
  decidable_of_iff (∀ t ∈ all, p t) forall_mem_all_iff

@[simp] theorem fromU8_toU8 (t : PacketType) : fromU8 t.toU8 = some t := by
  cases t <;> rfl

theorem toU8_of_fromU8 {b : UInt8} {t : PacketType} (read : fromU8 b = some t) : t.toU8 = b := by
  simp only [fromU8] at read
  split_ifs at read <;> (obtain rfl := Option.some.inj read; symm; assumption)

end PacketType

namespace Direction

def reverse : Direction → Direction
  | s2c => c2s
  | c2s => s2c

/-- `S2C_HEADER_LEN` and `C2S_HEADER_LEN`. -/
def headerLen : Direction → Nat
  | s2c => 11
  | c2s => 13

/-- The offset to the packet type. -/
def getOff : Direction → Nat
  | s2c => 10
  | c2s => 12

end Direction

namespace Flags

def empty : Flags := ⟨false, false, false, false⟩

def bits (f : Flags) : UInt8 :=
  (if f.unencrypted then 0x80 else 0) ||| (if f.compressed then 0x40 else 0) |||
    (if f.newprotocol then 0x20 else 0) ||| (if f.fragmented then 0x10 else 0)

def fromBits (b : UInt8) : Flags :=
  ⟨b &&& 0x80 != 0, b &&& 0x40 != 0, b &&& 0x20 != 0, b &&& 0x10 != 0⟩

end Flags

/-- The byte of the header that holds the flags and the type. -/
def typeByte (f : Flags) (t : PacketType) : UInt8 := f.bits ||| t.toU8

theorem typeByte_and_low (f : Flags) (t : PacketType) : typeByte f t &&& 0x0f = t.toU8 := by
  obtain ⟨u, c, n, r⟩ := f
  cases t <;> cases u <;> cases c <;> cases n <;> cases r <;> rfl

theorem typeByte_and_high (f : Flags) (t : PacketType) : typeByte f t &&& 0xf0 = f.bits := by
  obtain ⟨u, c, n, r⟩ := f
  cases t <;> cases u <;> cases c <;> cases n <;> cases r <;> rfl

theorem fromBits_typeByte (f : Flags) (t : PacketType) :
    Flags.fromBits (typeByte f t &&& 0xf0) = f := by
  rw [typeByte_and_high]
  obtain ⟨u, c, n, r⟩ := f
  cases u <;> cases c <;> cases n <;> cases r <;> rfl

theorem bits_fromBits (b : UInt8) :
    (Flags.fromBits (b &&& 0xf0)).bits ||| (b &&& 0x0f) = b := by
  have each : ∀ i : Fin 256, (Flags.fromBits (UInt8.ofFin i &&& 0xf0)).bits |||
      (UInt8.ofFin i &&& 0x0f) = UInt8.ofFin i := by
    decide +kernel
  exact each b.toFin

/-- The eight bytes of a message authentication code. -/
structure Mac where
  bytes : List UInt8
  length : bytes.length = 8
  deriving DecidableEq, Repr

theorem Mac.length_zero : (List.replicate 8 (0 : UInt8)).length = 8 := by
  rw [List.length_replicate]

def Mac.zero : Mac := ⟨List.replicate 8 0, Mac.length_zero⟩

/-- What `InHeader` reads. Only packets to the server have a client id. -/
structure Header where
  mac : Mac
  packetId : UInt16
  clientId : Option UInt16
  flags : Flags
  packetType : PacketType
  deriving DecidableEq, Repr

structure Packet where
  header : Header
  content : List UInt8
  deriving DecidableEq, Repr

/-- `write_be` of a `u16`. -/
def writeU16 (n : UInt16) : List UInt8 := BigEndian.bytes 2 n.toNat

/-- `read_be` of a `u16`. -/
def readU16 (l : List UInt8) : UInt16 := .ofNat (BigEndian.value (l.take 2))

@[simp] theorem length_writeU16 (n : UInt16) : (writeU16 n).length = 2 := BigEndian.length_bytes 2 _

theorem readU16_writeU16 (n : UInt16) (l : List UInt8) : readU16 (writeU16 n ++ l) = n := by
  have taken : (writeU16 n ++ l).take 2 = writeU16 n := List.take_left' (length_writeU16 n)
  have small : n.toNat < 256 ^ 2 := n.toNat_lt
  rw [readU16, taken, writeU16, BigEndian.value_bytes_of_lt small, UInt16.ofNat_toNat]

theorem writeU16_readU16 {l : List UInt8} (long : 2 ≤ l.length) :
    writeU16 (readU16 l) = l.take 2 := by
  have two : (l.take 2).length = 2 := by rw [List.length_take]; omega
  have small : BigEndian.value (l.take 2) < 2 ^ 16 := by
    have bound := BigEndian.value_lt (l.take 2)
    rwa [two] at bound
  have whole := BigEndian.bytes_value (l.take 2)
  rw [two] at whole
  rw [writeU16, readU16, UInt16.toNat_ofNat', Nat.mod_eq_of_lt small, whole]

namespace Header

def direction (h : Header) : Direction := if h.clientId.isSome then .c2s else .s2c

/-- What follows the mac. It is authenticated, but it is not encrypted. -/
def getMeta (h : Header) : List UInt8 :=
  writeU16 h.packetId ++ h.clientId.elim [] writeU16 ++ [typeByte h.flags h.packetType]

def bytes (h : Header) : List UInt8 := h.mac.bytes ++ h.getMeta

end Header

namespace Packet

def direction (p : Packet) : Direction := p.header.direction

def bytes (p : Packet) : List UInt8 := p.header.bytes ++ p.content

end Packet

inductive ParseError where
  | packetTooShort (length : Nat)
  | packetContentTooShort (length : Nat)
  | unknownPacketType (t : UInt8)
  | invalidInitStep (step : UInt8)
  deriving DecidableEq, Repr

theorem length_take_mac {dir : Direction} {data : List UInt8}
    (long : ¬ data.length < dir.headerLen) : (data.take 8).length = 8 := by
  have least : 8 ≤ dir.headerLen := by cases dir <;> decide
  rw [List.length_take]
  omega

namespace InHeader

def packetId (data : List UInt8) : UInt16 := readU16 (data.drop 8)

def clientId : Direction → List UInt8 → Option UInt16
  | .s2c, _ => none
  | .c2s, data => some (readU16 (data.drop 10))

def flags (dir : Direction) (data : List UInt8) : Flags :=
  .fromBits (data.getD dir.getOff 0 &&& 0xf0)

end InHeader

/-- `InPacket::try_new` with the fields that the methods of `InHeader` read. -/
def InPacket.tryNew (dir : Direction) (data : List UInt8) : Except ParseError Packet :=
  if short : data.length < dir.headerLen then .error (.packetTooShort data.length)
  else
    let pType := data.getD (dir.headerLen - 1) 0 &&& 0x0f
    match PacketType.fromU8 pType with
    | none => .error (.unknownPacketType pType)
    | some packetType => .ok
      { header :=
        { mac := ⟨data.take 8, length_take_mac short⟩
          packetId := InHeader.packetId data
          clientId := InHeader.clientId dir data
          flags := InHeader.flags dir data
          packetType }
        content := data.drop dir.headerLen }

theorem Header.getMeta_s2c (mac : Mac) (id : UInt16) (f : Flags) (t : PacketType) :
    Header.getMeta ⟨mac, id, none, f, t⟩ = writeU16 id ++ [typeByte f t] := by
  simp [getMeta]

theorem Header.getMeta_c2s (mac : Mac) (id client : UInt16) (f : Flags) (t : PacketType) :
    Header.getMeta ⟨mac, id, some client, f, t⟩ =
      writeU16 id ++ (writeU16 client ++ [typeByte f t]) := by
  simp [getMeta]

theorem exists_writeU16 (n : UInt16) : ∃ a b, writeU16 n = [a, b] :=
  List.length_eq_two.mp (length_writeU16 n)

/-- What the parser finds behind the mac. -/
theorem Mac.reads (mac : Mac) (l : List UInt8) :
    (mac.bytes ++ l).take 8 = mac.bytes ∧ (∀ k, (mac.bytes ++ l).drop (8 + k) = l.drop k) ∧
      ∀ k, (mac.bytes ++ l).getD (8 + k) 0 = l.getD k 0 := by
  refine ⟨List.take_left' mac.length, fun k => ?_, fun k => ?_⟩
  · rw [← List.drop_drop, List.drop_left' mac.length]
  · rw [List.getD_eq_getElem?_getD, List.getD_eq_getElem?_getD,
      List.getElem?_append_right (by rw [mac.length]; omega), mac.length, Nat.add_sub_cancel_left]

theorem readU16_cons (n : UInt16) {a b : UInt8} (two : writeU16 n = [a, b]) (l : List UInt8) :
    readU16 (a :: b :: l) = n := by
  rw [← readU16_writeU16 n l, two]
  rfl

/-- A packet is read back from its bytes. -/
theorem InPacket.tryNew_bytes (p : Packet) : tryNew p.direction p.bytes = .ok p := by
  obtain ⟨⟨mac, id, client, flags, packetType⟩, content⟩ := p
  have eight := mac.length
  have low := typeByte_and_low flags packetType
  have high := fromBits_typeByte flags packetType
  have known := packetType.fromU8_toU8
  obtain ⟨a, b, two⟩ := exists_writeU16 id
  have own := readU16_cons id two
  cases client with
  | none =>
    have shape : Packet.bytes ⟨⟨mac, id, none, flags, packetType⟩, content⟩ =
        mac.bytes ++ (a :: b :: typeByte flags packetType :: content) := by
      simp [Packet.bytes, Header.bytes, Header.getMeta_s2c, two]
    obtain ⟨taken, dropped, got⟩ := mac.reads (a :: b :: typeByte flags packetType :: content)
    have long : ¬ (mac.bytes ++ a :: b :: typeByte flags packetType :: content).length < 11 := by
      rw [List.length_append, eight]
      simp only [List.length_cons]
      omega
    have dir : Packet.direction ⟨⟨mac, id, none, flags, packetType⟩, content⟩ = .s2c := rfl
    simp only [tryNew, InHeader.packetId, InHeader.clientId, InHeader.flags, shape, dir,
      Direction.headerLen, Direction.getOff, long, dif_neg, not_false_eq_true, taken, dropped 0,
      dropped 3, got 2, List.drop_zero, List.drop_succ_cons, List.getD_cons_succ,
      List.getD_cons_zero, low, high, known, own]
  | some client =>
    obtain ⟨c, d, two'⟩ := exists_writeU16 client
    have theirs := readU16_cons client two'
    have shape : Packet.bytes ⟨⟨mac, id, some client, flags, packetType⟩, content⟩ =
        mac.bytes ++ (a :: b :: c :: d :: typeByte flags packetType :: content) := by
      simp [Packet.bytes, Header.bytes, Header.getMeta_c2s, two, two']
    obtain ⟨taken, dropped, got⟩ :=
      mac.reads (a :: b :: c :: d :: typeByte flags packetType :: content)
    have long : ¬ (mac.bytes ++ a :: b :: c :: d :: typeByte flags packetType :: content).length
        < 13 := by
      rw [List.length_append, eight]
      simp only [List.length_cons]
      omega
    have dir : Packet.direction ⟨⟨mac, id, some client, flags, packetType⟩, content⟩ = .c2s := rfl
    simp only [tryNew, InHeader.packetId, InHeader.clientId, InHeader.flags, shape, dir,
      Direction.headerLen, Direction.getOff, long, dif_neg, not_false_eq_true, taken, dropped 0,
      dropped 2, dropped 5, got 4, List.drop_zero, List.drop_succ_cons, List.getD_cons_succ,
      List.getD_cons_zero, low, high, known, own, theirs]

theorem PacketType.fromU8_and_low {b : UInt8} {t : PacketType}
    (read : PacketType.fromU8 (b &&& 0x0f) = some t) : typeByte (.fromBits (b &&& 0xf0)) t = b := by
  rw [typeByte, PacketType.toU8_of_fromU8 read, bits_fromBits]

/-- A list from some offset on is its next entries and the list from behind these. -/
theorem take_drop_append (l : List UInt8) (n k : Nat) :
    (l.drop n).take k ++ l.drop (n + k) = l.drop n := by
  rw [← List.drop_drop]
  exact List.take_append_drop k (l.drop n)

theorem singleton_getD {l : List UInt8} {n : Nat} (inside : n < l.length) :
    [l.getD n 0] = (l.drop n).take 1 := by
  rw [List.drop_eq_getElem_cons inside, List.getD_eq_getElem?_getD,
    List.getElem?_eq_getElem inside]
  rfl

/-- What is accepted is the bytes of the packet that is read. -/
theorem InPacket.bytes_of_tryNew {dir : Direction} {data : List UInt8} {p : Packet}
    (read : tryNew dir data = .ok p) : p.direction = dir ∧ p.bytes = data := by
  rw [tryNew] at read
  split_ifs at read with short
  simp only at read
  split at read
  next => cases read
  next packetType known =>
    obtain rfl := Except.ok.inj read
    have last : typeByte (InHeader.flags dir data) packetType = data.getD dir.getOff 0 := by
      have offset : dir.headerLen - 1 = dir.getOff := by cases dir <;> rfl
      rw [offset] at known
      exact PacketType.fromU8_and_low known
    have id : writeU16 (InHeader.packetId data) = (data.drop 8).take 2 := by
      apply writeU16_readU16
      have least : 10 ≤ dir.headerLen := by cases dir <;> decide
      rw [List.length_drop]
      omega
    cases dir with
    | s2c =>
      refine ⟨rfl, ?_⟩
      have inside : 10 < data.length := by
        simp only [Direction.headerLen] at short
        omega
      simp only [Packet.bytes, Header.bytes, InHeader.clientId, Header.getMeta_s2c, last, id,
        Direction.getOff, Direction.headerLen, singleton_getD inside, List.append_assoc]
      rw [take_drop_append data 10 1, take_drop_append data 8 2, List.take_append_drop]
    | c2s =>
      refine ⟨rfl, ?_⟩
      have inside : 12 < data.length := by
        simp only [Direction.headerLen] at short
        omega
      have client : writeU16 (readU16 (data.drop 10)) = (data.drop 10).take 2 := by
        apply writeU16_readU16
        rw [List.length_drop]
        omega
      simp only [Packet.bytes, Header.bytes, InHeader.clientId, Header.getMeta_c2s, last, id,
        client, Direction.getOff, Direction.headerLen, singleton_getD inside, List.append_assoc]
      rw [take_drop_append data 12 1, take_drop_append data 10 2, take_drop_append data 8 2,
        List.take_append_drop]

/-- The parser accepts exactly the bytes of packets of its direction, and reads these. -/
theorem InPacket.tryNew_eq_ok_iff {dir : Direction} {data : List UInt8} {p : Packet} :
    tryNew dir data = .ok p ↔ p.direction = dir ∧ p.bytes = data := by
  constructor
  · exact bytes_of_tryNew
  · intro both
    obtain ⟨rfl, rfl⟩ := both
    exact tryNew_bytes p

/-- A packet that is being written: its bytes. -/
structure OutPacket where
  dir : Direction
  data : List UInt8
  deriving DecidableEq, Repr

/-- Bytes from an offset on are replaced by new ones. -/
def overwrite (data : List UInt8) (off : Nat) (new : List UInt8) : List UInt8 :=
  data.take off ++ new ++ data.drop (off + new.length)

namespace OutPacket

def setMac (p : OutPacket) (mac : Mac) : OutPacket := { p with data := overwrite p.data 0 mac.bytes }

def setPacketId (p : OutPacket) (id : UInt16) : OutPacket :=
  { p with data := overwrite p.data 8 (writeU16 id) }

/-- Fails where the source asserts that the packet goes to the server. -/
def setClientId (p : OutPacket) (id : UInt16) : Option OutPacket :=
  if p.dir = .c2s then some { p with data := overwrite p.data 10 (writeU16 id) } else none

def setFlags (p : OutPacket) (f : Flags) : OutPacket :=
  { p with data := p.data.set p.dir.getOff ((p.data.getD p.dir.getOff 0 &&& 0x0f) ||| f.bits) }

def setPacketType (p : OutPacket) (t : PacketType) : OutPacket :=
  { p with data := p.data.set p.dir.getOff ((p.data.getD p.dir.getOff 0 &&& 0xf0) ||| t.toU8) }

/-- `data_mut().extend_from_slice`. -/
def extend (p : OutPacket) (l : List UInt8) : OutPacket := { p with data := p.data ++ l }

def newWithDir (dir : Direction) (f : Flags) (t : PacketType) : OutPacket :=
  ((⟨dir, List.replicate dir.headerLen 0⟩ : OutPacket).setFlags f).setPacketType t

end OutPacket

namespace Packet

def setMac (p : Packet) (mac : Mac) : Packet := { p with header.mac := mac }
def setPacketId (p : Packet) (id : UInt16) : Packet := { p with header.packetId := id }

def setClientId (p : Packet) (id : UInt16) : Option Packet :=
  if p.direction = .c2s then some { p with header.clientId := some id } else none

def setFlags (p : Packet) (f : Flags) : Packet := { p with header.flags := f }
def setPacketType (p : Packet) (t : PacketType) : Packet := { p with header.packetType := t }
def extend (p : Packet) (l : List UInt8) : Packet := { p with content := p.content ++ l }

def newWithDir (dir : Direction) (f : Flags) (t : PacketType) : Packet :=
  let clientId := match dir with
    | .s2c => none
    | .c2s => some 0
  ⟨⟨.zero, 0, clientId, f, t⟩, []⟩

/-- The bytes that the source keeps of a packet. -/
def out (p : Packet) : OutPacket := ⟨p.direction, p.bytes⟩

end Packet

theorem overwrite_append (a l : List UInt8) (k : Nat) (new : List UInt8) :
    overwrite (a ++ l) (a.length + k) new = a ++ overwrite l k new := by
  simp only [overwrite, List.take_length_add_append, Nat.add_assoc, List.drop_length_add_append,
    List.append_assoc]

theorem overwrite_front {a new : List UInt8} (same : new.length = a.length) (l : List UInt8) :
    overwrite (a ++ l) 0 new = new ++ l := by
  simp [overwrite, same]

theorem Packet.out_setMac (p : Packet) (mac : Mac) : p.out.setMac mac = (p.setMac mac).out := by
  have same : mac.bytes.length = p.header.mac.bytes.length :=
    mac.length.trans p.header.mac.length.symm
  simp only [out, OutPacket.setMac, setMac, bytes, Header.bytes, List.append_assoc,
    overwrite_front same]
  rfl

theorem Packet.out_setPacketId (p : Packet) (id : UInt16) :
    p.out.setPacketId id = (p.setPacketId id).out := by
  have eight : 8 = p.header.mac.bytes.length + 0 := p.header.mac.length.symm
  have same : (writeU16 id).length = (writeU16 p.header.packetId).length := by simp
  simp only [out, OutPacket.setPacketId, setPacketId, bytes, Header.bytes, Header.getMeta,
    List.append_assoc]
  rw [eight, overwrite_append, overwrite_front same]
  rfl

theorem Packet.out_setClientId (p : Packet) (id : UInt16) :
    p.out.setClientId id = (p.setClientId id).map out := by
  obtain ⟨⟨mac, own, client, flags, packetType⟩, content⟩ := p
  cases client with
  | none => rfl
  | some client =>
    have ten : 10 = (mac.bytes ++ writeU16 own).length + 0 := by simp [mac.length]
    have same : (writeU16 id).length = (writeU16 client).length := by simp
    have shape : (Packet.out ⟨⟨mac, own, some client, flags, packetType⟩, content⟩).data =
        (mac.bytes ++ writeU16 own) ++ (writeU16 client ++ ([typeByte flags packetType] ++ content)) := by
      simp [out, bytes, Header.bytes, Header.getMeta_c2s]
    have toServer : (Packet.out ⟨⟨mac, own, some client, flags, packetType⟩, content⟩).dir = .c2s :=
      rfl
    simp only [OutPacket.setClientId, toServer, if_true]
    rw [shape, ten, overwrite_append, overwrite_front same]
    simp [setClientId, out, direction, Header.direction, bytes, Header.bytes, Header.getMeta_c2s]

/-- The header up to the flags. -/
def Header.front (h : Header) : List UInt8 :=
  h.mac.bytes ++ (writeU16 h.packetId ++ h.clientId.elim [] writeU16)

theorem Header.length_front (h : Header) : h.front.length = h.direction.getOff := by
  obtain ⟨mac, packetId, clientId, flags, packetType⟩ := h
  cases clientId <;> simp [front, direction, Direction.getOff, mac.length]

theorem Packet.bytes_eq (p : Packet) :
    p.bytes = p.header.front ++ (typeByte p.header.flags p.header.packetType :: p.content) := by
  simp [bytes, Header.bytes, Header.getMeta, Header.front]

theorem Packet.getD_out (p : Packet) :
    p.out.data.getD p.out.dir.getOff 0 = typeByte p.header.flags p.header.packetType := by
  have off : p.direction.getOff = p.header.front.length := p.header.length_front.symm
  simp [out, bytes_eq, off]

theorem Packet.set_out (p : Packet) (b : UInt8) :
    p.out.data.set p.out.dir.getOff b = p.header.front ++ (b :: p.content) := by
  have off : p.direction.getOff = p.header.front.length := p.header.length_front.symm
  simp [out, bytes_eq, off]

theorem Packet.out_setFlags (p : Packet) (f : Flags) :
    p.out.setFlags f = (p.setFlags f).out := by
  have byte : p.header.packetType.toU8 ||| f.bits = typeByte f p.header.packetType := by
    rw [typeByte, UInt8.or_comm]
  simp only [OutPacket.setFlags, getD_out, set_out, typeByte_and_low, byte]
  simp only [out, bytes_eq]
  rfl

theorem Packet.out_setPacketType (p : Packet) (t : PacketType) :
    p.out.setPacketType t = (p.setPacketType t).out := by
  have byte : p.header.flags.bits ||| t.toU8 = typeByte p.header.flags t := rfl
  simp only [OutPacket.setPacketType, getD_out, set_out, typeByte_and_high, byte]
  simp only [out, bytes_eq]
  rfl

theorem Packet.out_extend (p : Packet) (l : List UInt8) : p.out.extend l = (p.extend l).out := by
  simp [OutPacket.extend, extend, out, bytes, direction]

theorem Packet.out_newWithDir (dir : Direction) (f : Flags) (t : PacketType) :
    OutPacket.newWithDir dir f t = (newWithDir dir f t).out := by
  have blank : (⟨dir, List.replicate dir.headerLen 0⟩ : OutPacket) =
      (newWithDir dir .empty .voice).out := by
    cases dir <;> rfl
  rw [OutPacket.newWithDir, blank, out_setFlags, out_setPacketType]
  cases dir <;> rfl

/-- A call that writes to a packet. -/
inductive Write where
  | mac (mac : Mac)
  | packetId (id : UInt16)
  | clientId (id : UInt16)
  | flags (f : Flags)
  | packetType (t : PacketType)
  | content (l : List UInt8)
  deriving DecidableEq, Repr

def OutPacket.write (p : OutPacket) : Write → Option OutPacket
  | .mac mac => some (p.setMac mac)
  | .packetId id => some (p.setPacketId id)
  | .clientId id => p.setClientId id
  | .flags f => some (p.setFlags f)
  | .packetType t => some (p.setPacketType t)
  | .content l => some (p.extend l)

def Packet.write (p : Packet) : Write → Option Packet
  | .mac mac => some (p.setMac mac)
  | .packetId id => some (p.setPacketId id)
  | .clientId id => p.setClientId id
  | .flags f => some (p.setFlags f)
  | .packetType t => some (p.setPacketType t)
  | .content l => some (p.extend l)

/-- A write to the bytes is a write to the fields. -/
theorem Packet.out_write (p : Packet) (w : Write) : p.out.write w = (p.write w).map out := by
  cases w with
  | mac mac => exact congrArg some (p.out_setMac mac)
  | packetId id => exact congrArg some (p.out_setPacketId id)
  | clientId id => exact p.out_setClientId id
  | flags f => exact congrArg some (p.out_setFlags f)
  | packetType t => exact congrArg some (p.out_setPacketType t)
  | content l => exact congrArg some (p.out_extend l)

theorem Packet.foldlM_out_write (p : Packet) (ws : List Write) :
    ws.foldlM OutPacket.write p.out = (ws.foldlM Packet.write p).map out := by
  induction ws generalizing p with
  | nil => rfl
  | cons w ws ih =>
    rw [List.foldlM_cons, List.foldlM_cons, out_write]
    cases p.write w with
    | none => rfl
    | some q => exact ih q

/-- `OutAck::new`. The source panics for types that are not acknowledged. -/
def OutAck.new (dir : Direction) (forType : PacketType) (packetId : UInt16) : Option Packet :=
  let pType := match forType with
    | .command => some PacketType.ack
    | .commandLow => some .ackLow
    | .ping => some .pong
    | _ => none
  pType.map fun t => (Packet.newWithDir dir .empty t).extend (writeU16 packetId)

/-- `InPacket::ack_packet`: the acknowledged packet id. -/
def Packet.ackPacket (p : Packet) : Except ParseError (Option UInt16) :=
  if p.header.packetType.isAck then
    if p.content.length < 2 then .error (.packetContentTooShort p.content.length)
    else .ok (some (readU16 p.content))
  else if p.header.packetType = .init then
    match p.direction with
    | .s2c => match p.content with
      | [] => .error (.packetContentTooShort p.content.length)
      | step :: _ =>
        if step = 1 then .ok (some 0)
        else if step = 3 then .ok (some 2)
        else if step = 127 then .ok (some 2)
        else .error (.invalidInitStep step)
    | .c2s => match p.content[4]? with
      | none => .error (.packetContentTooShort p.content.length)
      | some step =>
        if step = 0 then .ok none
        else if step = 2 then .ok (some 1)
        else if step = 4 then .ok (some 3)
        else .error (.invalidInitStep step)
  else .ok none

end Nek0.Source.Tsproto
