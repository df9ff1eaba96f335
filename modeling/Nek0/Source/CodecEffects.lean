import Nek0.Source.PacketCodec

/-!
# What encoding and decoding change

One lemma for each function of the packet codec: the fields of a connection that it leaves alone,
the numbers that it takes and the keys that it encrypts with.
-/

namespace Nek0.Source.Tsproto

open Nek0.Library

/-- The key of a packet with a number. -/
def secretKey (toServer : Bool) (t : PacketType) (id : PartialPacketId) : KeyNonce :=
  .mixed (.digest toServer t id.generationId) id.packetId

theorem secretKey_inj {d d' : Bool} {t t' : PacketType} {id id' : PartialPacketId} :
    secretKey d t id = secretKey d' t' id' ↔ d = d' ∧ t = t' ∧ id = id' := by
  constructor
  · intro same
    injection same with materials ids
    injection materials with dirs types generations
    exact ⟨dirs, types, PartialPacketId.ext generations ids⟩
  · intro same
    obtain ⟨rfl, rfl, rfl⟩ := same
    rfl

/-- The number of the packet that is expected next, and of the one that is sent next. -/
def Connection.expected (con : Connection) (t : PacketType) : Nat := (con.codec.incomingPIds t).number
def Connection.outgoing (con : Connection) (t : PacketType) : Nat := (con.codec.outgoingPIds t).number

/-- The content of a stream item that is a command of a type. -/
def StreamItem.commandContent (t : PacketType) : StreamItem → Option (List UInt8)
  | .command p => if p.header.packetType = t then some p.content else none
  | _ => none

/-- The contents of the commands that were handed on. -/
def Connection.delivered (con : Connection) (t : PacketType) : List (List UInt8) :=
  con.streamItems.filterMap (StreamItem.commandContent t)

/-- The numbers before the last generation. -/
def lastNumber : Nat := 2 ^ 48 - 2 ^ 16

theorem generation_ne_last {id : PartialPacketId} (early : id.number < lastNumber) :
    id.generationId ≠ 0xffffffff := by
  intro last
  have value := congrArg UInt32.toNat last
  have literal : (0xffffffff : UInt32).toNat = 4294967295 := rfl
  simp only [PartialPacketId.number, lastNumber] at early
  omega

theorem createKeyNonce_early {cache : KeyCache} (sound : cache.Sound) {t : PacketType}
    {cId : Option UInt16} {id : PartialPacketId} (early : id.number < lastNumber) :
    (createKeyNonce t cId id.packetId id.generationId cache).1 = secretKey cId.isSome t id :=
  createKeyNonce_eq sound (generation_ne_last early)

/-- The fields of a connection that sending leaves alone. -/
structure SentOnly (con con' : Connection) : Prop where
  isClient : con'.isClient = con.isClient
  cId : con'.params.cId = con.params.cId
  voiceEncryption : con'.params.voiceEncryption = con.params.voiceEncryption
  receiveQueue : con'.codec.receiveQueue = con.codec.receiveQueue
  fragmentedQueue : con'.codec.fragmentedQueue = con.codec.fragmentedQueue
  incomingPIds : con'.codec.incomingPIds = con.codec.incomingPIds
  resender : con'.resender = con.resender
  streamItems : con'.streamItems = con.streamItems

namespace SentOnly

theorem refl (con : Connection) : SentOnly con con := ⟨rfl, rfl, rfl, rfl, rfl, rfl, rfl, rfl⟩

theorem trans {a b c : Connection} (first : SentOnly a b) (second : SentOnly b c) :
    SentOnly a c :=
  ⟨second.isClient.trans first.isClient, second.cId.trans first.cId,
    second.voiceEncryption.trans first.voiceEncryption,
    second.receiveQueue.trans first.receiveQueue,
    second.fragmentedQueue.trans first.fragmentedQueue,
    second.incomingPIds.trans first.incomingPIds, second.resender.trans first.resender,
    second.streamItems.trans first.streamItems⟩

end SentOnly

section EncodeOne

variable {tools : Tools} {fake encrypt : Bool} {p : Packet} {done : Encoded}

theorem packetKey_sound {g : UInt32} {cache : KeyCache} (sound : cache.Sound) :
    (packetKey fake encrypt p g cache).2.Sound := by
  simp only [packetKey]
  split
  · exact sound
  · split
    · exact sound.createKeyNonce p.header.packetType p.header.clientId p.header.packetId g
    · exact sound

/-- The keys that a packet with a number can be encrypted with. -/
theorem packetKey_early {id : PartialPacketId} {cache : KeyCache} (sound : cache.Sound)
    (early : id.number < lastNumber) (own : p.header.packetId = id.packetId) :
    (packetKey fake encrypt p id.generationId cache).1 =
      if fake then some .fake
      else if encrypt then some (secretKey p.header.clientId.isSome p.header.packetType id)
      else none := by
  simp only [packetKey]
  split
  · rfl
  · split
    · rw [own, createKeyNonce_early sound early]
    · rfl

@[simp] theorem Packet.withNumber_packetType (id : PartialPacketId) :
    (p.withNumber id).header.packetType = p.header.packetType := by
  simp only [withNumber]
  split <;> rfl

@[simp] theorem Packet.withNumber_clientId (id : PartialPacketId) :
    (p.withNumber id).header.clientId = p.header.clientId := by
  simp only [withNumber]
  split <;> rfl

@[simp] theorem Packet.withNumber_content (id : PartialPacketId) :
    (p.withNumber id).content = p.content := by
  simp only [withNumber]
  split <;> rfl

@[simp] theorem Packet.withNumber_flags (id : PartialPacketId) :
    (p.withNumber id).header.flags = p.header.flags := by
  simp only [withNumber]
  split <;> rfl

theorem Packet.withNumber_packetId (other : p.header.packetType ≠ .init) (id : PartialPacketId) :
    (p.withNumber id).header.packetId = id.packetId := by
  rw [withNumber, if_neg other]
  rfl

theorem encodeOne_sentOnly : SentOnly done.con (encodeOne tools fake encrypt done p).con := by
  simp only [encodeOne]
  split <;> exact ⟨rfl, rfl, rfl, rfl, rfl, rfl, rfl, rfl⟩

theorem encodeOne_sound (sound : done.con.params.keyCache.Sound) :
    (encodeOne tools fake encrypt done p).con.params.keyCache.Sound := by
  simp only [encodeOne]
  split <;> exact packetKey_sound sound

/-- A packet takes the next number of its type. -/
theorem encodeOne_outgoingPIds (tools : Tools) (fake encrypt : Bool) (done : Encoded) {p : Packet}
    (other : p.header.packetType ≠ .init) :
    (encodeOne tools fake encrypt done p).con.codec.outgoingPIds =
      Function.update done.con.codec.outgoingPIds p.header.packetType
        ((done.con.codec.outgoingPIds p.header.packetType).add 1) := by
  simp only [encodeOne, if_neg other, Connection.nextPId]
  rfl

theorem encodeOne_outgoingPIds_init (own : p.header.packetType = .init) :
    (encodeOne tools fake encrypt done p).con.codec.outgoingPIds = done.con.codec.outgoingPIds := by
  simp only [encodeOne, if_pos own]
  rfl

end EncodeOne

section Encode

variable {tools : Tools} {fake encrypt : Bool} {t : PacketType} {ps : List Packet} {done : Encoded}

theorem foldl_encodeOne_sentOnly (ps : List Packet) (done : Encoded) :
    SentOnly done.con (ps.foldl (encodeOne tools fake encrypt) done).con := by
  induction ps generalizing done with
  | nil => exact .refl _
  | cons p ps ih => exact encodeOne_sentOnly.trans (ih _)

theorem foldl_encodeOne_sound (ps : List Packet) (sound : done.con.params.keyCache.Sound) :
    (ps.foldl (encodeOne tools fake encrypt) done).con.params.keyCache.Sound := by
  induction ps generalizing done with
  | nil => exact sound
  | cons p ps ih => exact ih (encodeOne_sound sound)

theorem encodeOne_outgoing (tools : Tools) (fake encrypt : Bool) (done : Encoded) {p : Packet}
    (other : p.header.packetType ≠ .init)
    (room : done.con.outgoing p.header.packetType < lastNumber) (t : PacketType) :
    (encodeOne tools fake encrypt done p).con.outgoing t =
      if t = p.header.packetType then done.con.outgoing t + 1 else done.con.outgoing t := by
  rw [Connection.outgoing, encodeOne_outgoingPIds tools fake encrypt done other,
    Function.update_apply]
  split
  next own =>
    rw [own, PartialPacketId.number_add_of_lt]
    · rfl
    · have one : (1 : UInt16).toNat = 1 := rfl
      simp only [Connection.outgoing, lastNumber] at room
      omega
  next => rfl

/-- Packets of one type take as many numbers of their type, and of no other. -/
theorem foldl_encodeOne_outgoing (other : t ≠ .init) (same : ∀ p ∈ ps, p.header.packetType = t)
    (room : done.con.outgoing t + ps.length ≤ lastNumber) (t' : PacketType) :
    (ps.foldl (encodeOne tools fake encrypt) done).con.outgoing t' =
      if t' = t then done.con.outgoing t' + ps.length else done.con.outgoing t' := by
  induction ps generalizing done with
  | nil => simp
  | cons p ps ih =>
    obtain ⟨own, rest⟩ := List.forall_mem_cons.mp same
    rw [List.length_cons] at room
    have first := encodeOne_outgoing tools fake encrypt done (own ▸ other) (by rw [own]; omega)
    rw [own] at first
    rw [List.foldl_cons, ih rest (by rw [first, if_pos rfl]; omega), first]
    split
    · rw [List.length_cons]
      omega
    · rfl

theorem compressAndSplit_header {isClient : Bool} {p q : Packet}
    (piece : q ∈ compressAndSplit tools isClient p) :
    q.header.packetType = p.header.packetType ∧ q.header.clientId = p.header.clientId := by
  simp only [compressAndSplit] at piece
  split at piece
  · rw [fragments, List.mem_mapIdx] at piece
    obtain ⟨i, inside, rfl⟩ := piece
    exact ⟨rfl, rfl⟩
  · rw [List.mem_singleton] at piece
    rw [piece]
    exact ⟨rfl, rfl⟩

variable {con : Connection} {p q : Packet}

theorem prepare_packetType : (prepare con p).header.packetType = p.header.packetType := by
  simp only [prepare]
  split_ifs <;> rfl

theorem prepare_content : (prepare con p).content = p.content := by
  simp only [prepare]
  split_ifs <;> rfl

theorem Packet.isSome_clientId_iff : p.header.clientId.isSome = true ↔ p.direction = .c2s := by
  simp only [direction, Header.direction]
  split
  next some => simp [some]
  next none => simp [none]

/-- A packet that goes the way of its connection says so. -/
theorem prepare_clientId (own : p.direction = con.dir.reverse) :
    (prepare con p).header.clientId.isSome = con.isClient := by
  cases side : con.isClient with
  | true =>
    simp only [prepare, side]
    split_ifs <;> rfl
  | false =>
    have toClient : con.dir.reverse = .s2c := by simp [Connection.dir, side, Direction.reverse]
    have none : p.header.clientId.isSome = false := by
      apply Bool.eq_false_iff.mpr
      intro some
      have toServer := Packet.isSome_clientId_iff.mp some
      rw [own, toClient] at toServer
      cases toServer
    simp only [prepare, side, Bool.and_false, Bool.false_eq_true, if_false]
    split_ifs <;> exact none

theorem plainPackets_header (own : p.direction = con.dir.reverse)
    (piece : q ∈ plainPackets tools con p) :
    q.header.packetType = p.header.packetType ∧ q.header.clientId.isSome = con.isClient := by
  have whole : (prepare con p).header.packetType = p.header.packetType ∧
      (prepare con p).header.clientId.isSome = con.isClient :=
    ⟨prepare_packetType, prepare_clientId own⟩
  simp only [plainPackets] at piece
  split_ifs at piece
  · obtain ⟨types, ids⟩ := compressAndSplit_header piece
    rw [types, ids]
    exact whole
  · rw [List.mem_singleton.mp piece]
    exact whole
  · rw [List.mem_singleton.mp piece]
    exact whole

/-- Packets with the numbers from a number on. -/
def numbered : PartialPacketId → List Packet → List (PartialPacketId × Packet)
  | _, [] => []
  | id, p :: ps => (id, p.withNumber id) :: numbered (id.add 1) ps

@[simp] theorem length_numbered (id : PartialPacketId) (ps : List Packet) :
    (numbered id ps).length = ps.length := by
  induction ps generalizing id with
  | nil => rfl
  | cons p ps ih => rw [numbered, List.length_cons, List.length_cons, ih]

/-- The key of the packet with a number. -/
def keyFor (fake encrypt toServer : Bool) (t : PacketType) (id : PartialPacketId) :
    Option KeyNonce :=
  if fake then some .fake else if encrypt then some (secretKey toServer t id) else none

/-- What is encrypted of a numbered packet. -/
def sealingFor (fake encrypt toServer : Bool) (t : PacketType) (n : PartialPacketId × Packet) :
    Option PacketSealing :=
  (keyFor fake encrypt toServer t n.1).map fun key => sealing key n.2

/-- What is sent of a numbered packet. -/
def sentFor (tools : Tools) (fake encrypt toServer : Bool) (t : PacketType)
    (n : PartialPacketId × Packet) : OutUdpPacket :=
  ⟨(n.1.add 1).generationId, encryptWith tools.aead (keyFor fake encrypt toServer t n.1) n.2⟩

variable {toServer : Bool}

theorem encodeOne_key (fake encrypt : Bool) (sound : done.con.params.keyCache.Sound)
    (other : t ≠ .init)
    (own : p.header.packetType = t) (way : p.header.clientId.isSome = toServer)
    (room : done.con.outgoing t < lastNumber) :
    (packetKey fake encrypt (p.withNumber (done.con.nextPId t)) (done.con.nextPId t).generationId
      done.con.params.keyCache).1 =
      keyFor fake encrypt toServer t (done.con.codec.outgoingPIds t) := by
  subst own way
  have next : done.con.nextPId p.header.packetType =
      done.con.codec.outgoingPIds p.header.packetType := by rw [Connection.nextPId, if_neg other]
  have early : (done.con.nextPId p.header.packetType).number < lastNumber := by
    rw [next]
    exact room
  rw [packetKey_early sound early (Packet.withNumber_packetId other _), keyFor, next,
    Packet.withNumber_clientId, Packet.withNumber_packetType]

/-- What is sent and encrypted when packets of one type are encoded one after the other. -/
theorem foldl_encodeOne_eq (tools : Tools) (fake encrypt : Bool)
    (sound : done.con.params.keyCache.Sound) (other : t ≠ .init)
    (same : ∀ p ∈ ps, p.header.packetType = t ∧ p.header.clientId.isSome = toServer)
    (room : done.con.outgoing t + ps.length ≤ lastNumber) :
    (ps.foldl (encodeOne tools fake encrypt) done).sealed = done.sealed ++
        (numbered (done.con.codec.outgoingPIds t) ps).filterMap
          (sealingFor fake encrypt toServer t) ∧
      (ps.foldl (encodeOne tools fake encrypt) done).packets = done.packets ++
        (numbered (done.con.codec.outgoingPIds t) ps).map
          (sentFor tools fake encrypt toServer t) := by
  induction ps generalizing done with
  | nil => simp [numbered]
  | cons p ps ih =>
    obtain ⟨⟨own, way⟩, rest⟩ := List.forall_mem_cons.mp same
    rw [List.length_cons] at room
    have key := encodeOne_key fake encrypt sound other own way (by omega)
    have next : done.con.nextPId t = done.con.codec.outgoingPIds t := by
      rw [Connection.nextPId, if_neg other]
    have counted := encodeOne_outgoing tools fake encrypt done (own ▸ other)
      (by rw [own]; omega) t
    rw [own, if_pos rfl] at counted
    have ids := encodeOne_outgoingPIds tools fake encrypt done (own ▸ other)
    rw [own] at ids
    obtain ⟨tailSealed, tailSent⟩ := ih (encodeOne_sound sound) rest (by rw [counted]; omega)
    rw [ids, Function.update_self] at tailSealed tailSent
    have headSealed : (encodeOne tools fake encrypt done p).sealed = done.sealed ++
        (sealingFor fake encrypt toServer t
          (done.con.codec.outgoingPIds t, p.withNumber (done.con.codec.outgoingPIds t))).toList := by
      simp only [encodeOne, own, key, sealingFor]
      rw [next]
    have headSent : (encodeOne tools fake encrypt done p).packets = done.packets ++
        [sentFor tools fake encrypt toServer t
          (done.con.codec.outgoingPIds t, p.withNumber (done.con.codec.outgoingPIds t))] := by
      simp only [encodeOne, own, key, sentFor]
      rw [next]
    constructor
    · rw [List.foldl_cons, tailSealed, headSealed, numbered, List.filterMap_cons,
        List.append_assoc]
      cases sealingFor fake encrypt toServer t
        (done.con.codec.outgoingPIds t, p.withNumber (done.con.codec.outgoingPIds t)) <;> rfl
    · rw [List.foldl_cons, tailSent, headSent, numbered, List.map_cons, List.append_assoc]
      rfl

theorem getElem?_numbered {id : PartialPacketId} (room : id.number + ps.length ≤ lastNumber)
    (k : Nat) : (numbered id ps)[k]? = ps[k]?.map fun p =>
      (.ofNumber (id.number + k), p.withNumber (.ofNumber (id.number + k))) := by
  induction ps generalizing id k with
  | nil => rfl
  | cons p ps ih =>
    rw [List.length_cons] at room
    cases k with
    | zero =>
      rw [numbered, List.getElem?_cons_zero, List.getElem?_cons_zero, Nat.add_zero,
        PartialPacketId.ofNumber_number]
      rfl
    | succ k =>
      have one : (1 : UInt16).toNat = 1 := rfl
      have next : (id.add 1).number = id.number + 1 := by
        apply PartialPacketId.number_add_of_lt
        simp only [lastNumber] at room
        omega
      have order : id.number + 1 + k = id.number + (k + 1) := by omega
      rw [numbered, List.getElem?_cons_succ, List.getElem?_cons_succ, ih (by rw [next]; omega),
        next, order]

/-- The numbers of packets are those from the first one on. -/
theorem mem_numbered {id : PartialPacketId} (room : id.number + ps.length ≤ lastNumber)
    {n : PartialPacketId × Packet} (there : n ∈ numbered id ps) :
    ∃ k p, ps[k]? = some p ∧ n.1.number = id.number + k ∧ k < ps.length ∧ n.2 = p.withNumber n.1 := by
  obtain ⟨k, inside, rfl⟩ := List.mem_iff_getElem.mp there
  rw [length_numbered] at inside
  have at_ := getElem?_numbered room k
  rw [List.getElem?_eq_getElem (by rw [length_numbered]; exact inside),
    List.getElem?_eq_getElem inside, Option.map_some, Option.some.injEq] at at_
  have small : id.number + k < 2 ^ 48 := by
    simp only [lastNumber] at room
    omega
  refine ⟨k, ps[k], List.getElem?_eq_getElem inside, ?_, inside, ?_⟩
  · rw [at_]
    exact PartialPacketId.number_ofNumber small
  · rw [at_]

theorem numbered_ascending {id : PartialPacketId} (room : id.number + ps.length ≤ lastNumber) :
    (numbered id ps).Pairwise fun a b => a.1.number < b.1.number := by
  rw [List.pairwise_iff_getElem]
  intro i j hi hj before
  have first := getElem?_numbered room i
  have second := getElem?_numbered room j
  rw [length_numbered] at hi hj
  rw [List.getElem?_eq_getElem (by rw [length_numbered]; exact hi),
    List.getElem?_eq_getElem hi, Option.map_some, Option.some.injEq] at first
  rw [List.getElem?_eq_getElem (by rw [length_numbered]; exact hj),
    List.getElem?_eq_getElem hj, Option.map_some, Option.some.injEq] at second
  rw [first, second]
  simp only [lastNumber] at room
  rw [PartialPacketId.number_ofNumber (by omega), PartialPacketId.number_ofNumber (by omega)]
  omega

/-- Whether a connection encrypts a packet with the key that is no secret. -/
def Connection.fakes (con : Connection) (p : Packet) : Bool :=
  fakeEncrypts con.isClient p.header.packetType (con.nextPId p.header.packetType) p.content

def Connection.encrypts (con : Connection) (p : Packet) : Bool :=
  shouldEncrypt p.header.packetType con.params.voiceEncryption

/-- What encoding a packet does. -/
structure Encodes (tools : Tools) (con : Connection) (p : Packet) (e : Encoded) : Prop where
  sentOnly : SentOnly con e.con
  sound : e.con.params.keyCache.Sound
  outgoing : ∀ t, e.con.outgoing t =
    if t = p.header.packetType then con.outgoing t + (plainPackets tools con p).length
    else con.outgoing t
  sealed : e.sealed = (numbered (con.codec.outgoingPIds p.header.packetType)
    (plainPackets tools con p)).filterMap
      (sealingFor (con.fakes p) (con.encrypts p) con.isClient p.header.packetType)
  packets : e.packets = (numbered (con.codec.outgoingPIds p.header.packetType)
    (plainPackets tools con p)).map
      (sentFor tools (con.fakes p) (con.encrypts p) con.isClient p.header.packetType)

theorem encodes (tools : Tools) (sound : con.params.keyCache.Sound)
    (other : p.header.packetType ≠ .init) (own : p.direction = con.dir.reverse)
    (room : con.outgoing p.header.packetType + (plainPackets tools con p).length ≤ lastNumber) :
    Encodes tools con p (encodePacket tools con p) := by
  have same : ∀ q ∈ plainPackets tools con p, q.header.packetType = p.header.packetType ∧
      q.header.clientId.isSome = con.isClient := fun q piece => plainPackets_header own piece
  have start : KeyCache.Sound (Encoded.con ⟨con, [], []⟩).params.keyCache := sound
  have fold : encodePacket tools con p = (plainPackets tools con p).foldl
      (encodeOne tools (con.fakes p) (con.encrypts p)) ⟨con, [], []⟩ := rfl
  have made := foldl_encodeOne_eq tools (con.fakes p) (con.encrypts p) start other same room
  rw [fold]
  exact
    { sentOnly := foldl_encodeOne_sentOnly _ ⟨con, [], []⟩
      sound := foldl_encodeOne_sound _ start
      outgoing := foldl_encodeOne_outgoing other (fun q piece => (same q piece).1) room
      sealed := made.1
      packets := made.2 }

/-- Init packets have no number and no key. -/
theorem encodePacket_init (tools : Tools) (sound : con.params.keyCache.Sound)
    (init : p.header.packetType = .init) :
    SentOnly con (encodePacket tools con p).con ∧
      (encodePacket tools con p).con.params.keyCache.Sound ∧
      (∀ t, (encodePacket tools con p).con.outgoing t = con.outgoing t) ∧
      (encodePacket tools con p).sealed = [] := by
  have single : plainPackets tools con p = [prepare con p] := by
    simp [plainPackets, init, PacketType.isCommand, PacketType.isVoice]
  have own : (prepare con p).header.packetType = .init := prepare_packetType.trans init
  have fakes : fakeEncrypts con.isClient .init (con.nextPId .init) p.content = false := by
    simp [fakeEncrypts]
  have encrypts : shouldEncrypt .init con.params.voiceEncryption = false := by
    simp [shouldEncrypt, mustEncrypt, PacketType.isCommand, PacketType.isVoice]
  have one : encodePacket tools con p =
      encodeOne tools false false ⟨con, [], []⟩ (prepare con p) := by
    rw [encodePacket, single, init, fakes, encrypts]
    rfl
  have start : KeyCache.Sound (Encoded.con ⟨con, [], []⟩).params.keyCache := sound
  have only : SentOnly (Encoded.con ⟨con, [], []⟩)
      (encodeOne tools false false ⟨con, [], []⟩ (prepare con p)).con := encodeOne_sentOnly
  rw [one]
  refine ⟨only, encodeOne_sound start, fun t => ?_, rfl⟩
  rw [Connection.outgoing, encodeOne_outgoingPIds_init own]
  rfl

end Encode

/-- The fields of a connection that receiving leaves alone. -/
structure ReceivesOnly (con con' : Connection) : Prop where
  isClient : con'.isClient = con.isClient
  cId : con'.params.cId = con.params.cId
  voiceEncryption : con'.params.voiceEncryption = con.params.voiceEncryption
  outgoingPIds : con'.codec.outgoingPIds = con.codec.outgoingPIds
  sound : con.params.keyCache.Sound → con'.params.keyCache.Sound

namespace ReceivesOnly

variable {a b c : Connection}

theorem refl (con : Connection) : ReceivesOnly con con := ⟨rfl, rfl, rfl, rfl, id⟩

theorem trans (first : ReceivesOnly a b) (second : ReceivesOnly b c) : ReceivesOnly a c :=
  ⟨second.isClient.trans first.isClient, second.cId.trans first.cId,
    second.voiceEncryption.trans first.voiceEncryption,
    second.outgoingPIds.trans first.outgoingPIds, second.sound ∘ first.sound⟩

end ReceivesOnly

section Receive

variable {tools : Tools} {log : List PacketSealing} {con : Connection} {packet : Packet}

theorem Connection.push_receivesOnly (con : Connection) (item : StreamItem) :
    ReceivesOnly con (con.push item) := ⟨rfl, rfl, rfl, rfl, id⟩

theorem Connection.ackPacket_receivesOnly (con : Connection) (t : PacketType) (pId : UInt16) :
    ReceivesOnly con (con.ackPacket t pId) := ⟨rfl, rfl, rfl, rfl, id⟩

theorem Connection.setKeyCache_receivesOnly {cache : KeyCache} (sound : cache.Sound) :
    ReceivesOnly con (con.setKeyCache cache) := ⟨rfl, rfl, rfl, rfl, fun _ => sound⟩

theorem Connection.receiveCommand_receivesOnly (con : Connection) (c : Packet) :
    ReceivesOnly con (con.receiveCommand c) := by
  simp only [receiveCommand]
  split_ifs
  · exact (con.ackPacket_receivesOnly _ _).trans (push_receivesOnly _ _)
  · exact (con.ackPacket_receivesOnly _ _).trans (push_receivesOnly _ _)
  · exact (con.ackPacket_receivesOnly _ _).trans (push_receivesOnly _ _)
  · exact con.push_receivesOnly _

theorem foldl_receiveCommand_receivesOnly (cs : List Packet) (con : Connection) :
    ReceivesOnly con (cs.foldl Connection.receiveCommand con) := by
  induction cs generalizing con with
  | nil => exact .refl con
  | cons c cs ih => exact (con.receiveCommand_receivesOnly c).trans (ih _)

theorem receiveOther_receivesOnly (con : Connection) (packet : Packet) (genId : UInt32) :
    ReceivesOnly con (receiveOther con packet genId) := by
  have ids : ∀ incomingPIds, ReceivesOnly con { con with codec.incomingPIds := incomingPIds } :=
    fun _ => ⟨rfl, rfl, rfl, rfl, id⟩
  simp only [receiveOther]
  split
  · exact (ids _).trans (Connection.push_receivesOnly _ _)
  next acked _ =>
    have after : ∀ con' : Connection, ReceivesOnly con con' →
        ReceivesOnly con (if packet.header.packetType.isVoice then con'.push (.audio packet)
          else con') := by
      intro con' before
      split
      · exact before.trans (con'.push_receivesOnly _)
      · exact before
    apply after
    cases acked with
    | none => exact ids _
    | some id => exact (ids _).trans (Connection.ackPacket_receivesOnly _ _ _)

theorem receivePacket_receivesOnly {genId : UInt32} {r : Connection × Bool}
    (done : receivePacket tools con packet genId = .ok r) : ReceivesOnly con r.1 := by
  simp only [receivePacket] at done
  split at done
  · cases handled : handleCommandPacket tools con.codec packet with
    | error e =>
      rw [handled] at done
      cases done
    | ok handledCodec =>
      rw [handled] at done
      obtain rfl := Except.ok.inj done
      have codec : handledCodec.1.outgoingPIds = con.codec.outgoingPIds := by
        simp only [handleCommandPacket] at handled
        cases state : handleCommandState tools (con.codec.commandState packet.header.packetType)
            packet with
        | error e =>
          rw [state] at handled
          cases handled
        | ok s =>
          rw [state] at handled
          obtain rfl := Except.ok.inj handled
          rfl
      have set : ReceivesOnly con { con with codec := handledCodec.1 } :=
        ⟨rfl, rfl, rfl, codec, id⟩
      exact set.trans (foldl_receiveCommand_receivesOnly _ _)
  · obtain rfl := Except.ok.inj done
    exact receiveOther_receivesOnly con packet genId

theorem decryptPacket_sound (tools : Tools) (log : List PacketSealing) (packet : Packet)
    (genId : UInt32) (sound : con.params.keyCache.Sound) :
    (decryptPacket tools log con packet genId).2.Sound := by
  have real := sound.createKeyNonce packet.header.packetType packet.header.clientId
    packet.header.packetId genId
  simp only [decryptPacket]
  split_ifs
  · split
    · exact sound
    · exact real
  · exact real

theorem handlePacket_receivesOnly {r : Connection × Bool}
    (done : handlePacket tools log con packet = .ok r) (sound : con.params.keyCache.Sound) :
    ReceivesOnly con r.1 := by
  simp only [handlePacket] at done
  split_ifs at done
  · obtain rfl := Except.ok.inj done
    exact con.push_receivesOnly _
  · obtain rfl := Except.ok.inj done
    exact con.push_receivesOnly _
  · obtain rfl := Except.ok.inj done
    exact .refl con
  · have cached := decryptPacket_sound tools log packet
      (inReceiveWindow (con.codec.incomingPIds packet.header.packetType) packet.header.packetType
        packet.header.packetId).genId sound
    split at done
    next e cache decrypted =>
      rw [decrypted] at cached
      obtain rfl := Except.ok.inj done
      exact (Connection.setKeyCache_receivesOnly cached).trans (Connection.push_receivesOnly _ _)
    next p cache decrypted =>
      rw [decrypted] at cached
      exact (Connection.setKeyCache_receivesOnly cached).trans (receivePacket_receivesOnly done)
  · obtain rfl := Except.ok.inj done
    exact con.push_receivesOnly _
  · exact receivePacket_receivesOnly done
  · obtain rfl := Except.ok.inj done
    exact con.push_receivesOnly _

/-- An ack goes back, with the id of the packet. -/
theorem outAck_new {dir : Direction} {t : PacketType} {pId : UInt16} {ack : Packet}
    (made : OutAck.new dir t pId = some ack) :
    ackedType ack.header.packetType = t ∧ ack.header.packetType.isAck = true ∧
      ack.direction = dir ∧ ack.content = writeU16 pId ∧ ack.header.flags = .empty := by
  cases t <;> simp only [OutAck.new, Option.map_some, Option.map_none, Option.some.injEq,
    reduceCtorEq] at made <;> (subst made; cases dir <;> exact ⟨rfl, rfl, rfl, rfl, rfl⟩)

/-- A datagram is no packet, or its packet is handled and answered. -/
inductive Arrival (tools : Tools) (log : List PacketSealing) (con : Connection)
    (data : List UInt8) (e : Encoded) : Prop
  | unread (error : ParseError) (read : InPacket.tryNew con.dir data = .error error)
      (same : e = ⟨con.push (.error (.packetParse error)), [], []⟩)
  | read (packet : Packet) (read : InPacket.tryNew con.dir data = .ok packet)
      (r : Connection × Bool) (handled : handlePacket tools log con packet = .ok r)
      (same : e = answer tools con.dir packet r)

theorem handleUdpPacket_cases {data : List UInt8} {e : Encoded}
    (done : handleUdpPacket tools log con data = .ok e) : Arrival tools log con data e := by
  simp only [handleUdpPacket] at done
  split at done
  next error read => exact .unread error read (Except.ok.inj done).symm
  next packet read =>
    cases handled : handlePacket tools log con packet with
    | error e =>
      rw [handled] at done
      cases done
    | ok r =>
      rw [handled] at done
      exact .read packet read r handled (Except.ok.inj done).symm

/-- A datagram is answered with nothing or with the ack for its packet. -/
inductive Answers (tools : Tools) (con mid : Connection) (data : List UInt8) (e : Encoded) : Prop
  | silent (same : e = ⟨mid, [], []⟩)
  | ack (packet ack : Packet) (read : InPacket.tryNew con.dir data = .ok packet)
      (made : OutAck.new con.dir.reverse packet.header.packetType packet.header.packetId = some ack)
      (same : e = encodePacket tools mid ack)

theorem answers_answer (tools : Tools) {data : List UInt8}
    (read : InPacket.tryNew con.dir data = .ok packet) (r : Connection × Bool) :
    Answers tools con r.1 data (answer tools con.dir packet r) := by
  simp only [answer]
  split
  · split
    next ack made => exact .ack packet ack read made rfl
    next => exact .silent rfl
  · exact .silent rfl

theorem handleUdpPacket_answers {data : List UInt8} {e : Encoded}
    (done : handleUdpPacket tools log con data = .ok e) (sound : con.params.keyCache.Sound) :
    ∃ mid, ReceivesOnly con mid ∧ Answers tools con mid data e := by
  cases handleUdpPacket_cases done with
  | unread error read same => exact ⟨_, con.push_receivesOnly _, .silent same⟩
  | read packet read r handled same =>
    rw [same]
    exact ⟨r.1, handlePacket_receivesOnly handled sound, answers_answer tools read r⟩

end Receive

end Nek0.Source.Tsproto
