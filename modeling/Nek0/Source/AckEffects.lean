import Nek0.Source.CommandChannel
import Nek0.Source.ResendEffects

/-!
# Acknowledgements on their way

Which packets a datagram takes out of the queues of its receiver, and why; the ack that a datagram
is answered with; and the keys that sent packets are kept under. The last packet of a generation is
kept under the next generation.
-/

namespace Nek0.Source.Tsproto

open Nek0.Library

/-- The resender after acks that came one after the other. -/
def Resender.ackAll (outgoingPIds : PacketType → PartialPacketId)
    (acks : List (PacketType × UInt16)) (r : Resender) : Resender :=
  acks.foldl (fun r a => (r.ackPacket outgoingPIds a.1 a.2).1) r

theorem Resender.Consistent.ackAll {r : Resender} (consistent : r.Consistent)
    (outgoingPIds : PacketType → PartialPacketId) (acks : List (PacketType × UInt16)) :
    (Resender.ackAll outgoingPIds acks r).Consistent := by
  induction acks generalizing r with
  | nil => exact consistent
  | cons a acks ih => exact ih (consistent.ackPacket outgoingPIds a.1 a.2)

/-- A connection after acks. -/
structure Acknowledges (con con' : Connection) (acks : List (PacketType × UInt16)) : Prop where
  outgoingPIds : con'.codec.outgoingPIds = con.codec.outgoingPIds
  resender : con'.resender = Resender.ackAll con.codec.outgoingPIds acks con.resender

section Steps

variable {tools : Tools} {log : List PacketSealing} {con con' : Connection} {packet : Packet}
  {acks : List (PacketType × UInt16)}

theorem Acknowledges.refl (con : Connection) : Acknowledges con con [] := ⟨rfl, rfl⟩

theorem Acknowledges.trans {a b c : Connection} {as bs : List (PacketType × UInt16)}
    (first : Acknowledges a b as) (second : Acknowledges b c bs) :
    Acknowledges a c (as ++ bs) := by
  refine ⟨second.outgoingPIds.trans first.outgoingPIds, ?_⟩
  rw [second.resender, first.resender, first.outgoingPIds, Resender.ackAll, Resender.ackAll,
    Resender.ackAll, List.foldl_append]

theorem Connection.push_acknowledges (con : Connection) (item : StreamItem) :
    Acknowledges con (con.push item) [] := ⟨rfl, rfl⟩

theorem Connection.ackPacket_acknowledges (con : Connection) (t : PacketType) (pId : UInt16) :
    Acknowledges con (con.ackPacket t pId) [(t, pId)] := ⟨rfl, rfl⟩

/-- The packet of the handshake that a command acknowledges. -/
def handshakeAck (isClient : Bool) (content : List UInt8) : Option (PacketType × UInt16) :=
  if isClient && (ascii "initivexpand2 ").isPrefixOf content then some (.init, 4)
  else if isClient && (ascii "initserver ").isPrefixOf content then some (.command, 2)
  else if !isClient && (ascii "clientek ").isPrefixOf content then some (.command, 0)
  else none

/-- Why a packet takes packets out of the queues of its receiver. -/
inductive AckCause (tools : Tools) (log : List PacketSealing) (con : Connection)
    (packet : Packet) (after : Connection) : PacketType × UInt16 → Prop
  /-- It is an ack, without encryption. -/
  | plain (own : packet.header.packetType.isAck = true)
      (unencrypted : packet.header.flags.unencrypted = true) (long : 2 ≤ packet.content.length) :
      AckCause tools log con packet after
        (ackedType packet.header.packetType, readU16 packet.content)
  /-- It is an encrypted ack. -/
  | opened (own : packet.header.packetType.isAck = true) (p : Packet) (cache : KeyCache)
      (open_ : decryptPacket tools log con packet
        (inReceiveWindow (con.codec.incomingPIds packet.header.packetType)
          packet.header.packetType packet.header.packetId).genId = (.ok p, cache))
      (long : 2 ≤ p.content.length) :
      AckCause tools log con packet after
        (ackedType packet.header.packetType, readU16 p.content)
  /-- It completes a command that acknowledges a packet of the handshake. -/
  | handshake (t : PacketType) (command : t.isCommand = true) (new : List (List UInt8))
      (delivered : after.delivered t = con.delivered t ++ new) (content : List UInt8)
      (there : content ∈ new) (a : PacketType × UInt16)
      (special : handshakeAck con.isClient content = some a) :
      AckCause tools log con packet after a

theorem Connection.receiveCommand_acknowledges (con : Connection) (c : Packet) :
    Acknowledges con (con.receiveCommand c) (handshakeAck con.isClient c.content).toList := by
  have pushed : ∀ mid : Connection, ∀ acks, Acknowledges con mid acks →
      Acknowledges con (mid.push (.command c)) acks := by
    intro mid acks before
    have pushed : Acknowledges mid (mid.push (.command c)) [] := mid.push_acknowledges _
    have more := before.trans pushed
    rwa [List.append_nil] at more
  simp only [receiveCommand, handshakeAck]
  split_ifs with expand server client
  · exact pushed _ _ (con.ackPacket_acknowledges _ _)
  · exact pushed _ _ (con.ackPacket_acknowledges _ _)
  · exact pushed _ _ (con.ackPacket_acknowledges _ _)
  · exact pushed _ _ (.refl con)

theorem foldl_receiveCommand_acknowledges (cs : List Packet) (con : Connection) :
    Acknowledges con (cs.foldl Connection.receiveCommand con)
      (cs.flatMap fun c => (handshakeAck con.isClient c.content).toList) := by
  induction cs generalizing con with
  | nil => exact .refl con
  | cons c cs ih =>
    have rest := ih (con.receiveCommand c)
    rw [(con.receiveCommand_receivesOnly c).isClient] at rest
    exact (con.receiveCommand_acknowledges c).trans rest

theorem receiveOther_acknowledges (con : Connection) (packet : Packet) (genId : UInt32)
    (notInit : packet.header.packetType ≠ .init) :
    ∃ acks, Acknowledges con (receiveOther con packet genId) acks ∧
      ∀ a ∈ acks, packet.header.packetType.isAck = true ∧ 2 ≤ packet.content.length ∧
        a = (ackedType packet.header.packetType, readU16 packet.content) := by
  have ids : ∀ incomingPIds, Acknowledges con { con with codec.incomingPIds := incomingPIds } [] :=
    fun _ => ⟨rfl, rfl⟩
  simp only [receiveOther]
  split
  next e _ =>
    refine ⟨[], ?_, fun a there => absurd there List.not_mem_nil⟩
    exact (ids _).trans (Connection.push_acknowledges _ _)
  next acked made =>
    have after : ∀ (mid : Connection) (acks : List (PacketType × UInt16)),
        Acknowledges con mid acks → Acknowledges con
          (if packet.header.packetType.isVoice then mid.push (.audio packet) else mid) acks := by
      intro mid acks before
      split
      · have pushed : Acknowledges mid (mid.push (.audio packet)) [] := mid.push_acknowledges _
        have more := before.trans pushed
        rwa [List.append_nil] at more
      · exact before
    cases acked with
    | none => exact ⟨[], after _ _ (ids _), fun a there => absurd there List.not_mem_nil⟩
    | some id =>
      refine ⟨_, after _ _ ((ids _).trans (Connection.ackPacket_acknowledges _ _ _)), ?_⟩
      intro a there
      rw [List.nil_append, List.mem_singleton] at there
      simp only [Packet.ackPacket, if_neg notInit] at made
      split_ifs at made with isAck short
      · obtain rfl := Option.some.inj (Except.ok.inj made)
        exact ⟨isAck, not_lt.mp short, there⟩
      · cases made

theorem receivePacket_acknowledges {genId : UInt32} {done : Connection × Bool}
    (notInit : packet.header.packetType ≠ .init)
    (received : receivePacket tools con packet genId = .ok done) :
    ∃ acks, Acknowledges con done.1 acks ∧ (con.Typed → ∀ a ∈ acks,
      (packet.header.packetType.isAck = true ∧ 2 ≤ packet.content.length ∧
        a = (ackedType packet.header.packetType, readU16 packet.content)) ∨
      ∃ t new content, t.isCommand = true ∧ done.1.delivered t = con.delivered t ++ new ∧
        content ∈ new ∧ handshakeAck con.isClient content = some a) := by
  simp only [receivePacket] at received
  split at received
  next command =>
    cases handled : handleCommandPacket tools con.codec packet with
    | error e =>
      rw [handled] at received
      cases received
    | ok after =>
      rw [handled] at received
      obtain rfl := Except.ok.inj received
      simp only [handleCommandPacket] at handled
      cases state : handleCommandState tools (con.codec.commandState packet.header.packetType)
          packet with
      | error e =>
        rw [state] at handled
        cases handled
      | ok r =>
        rw [state] at handled
        obtain rfl := Except.ok.inj handled
        have acknowledges := foldl_receiveCommand_acknowledges r.2
          { con with codec := con.codec.setCommandState packet.header.packetType r.1 }
        have set : Acknowledges con
            { con with codec := con.codec.setCommandState packet.header.packetType r.1 } [] :=
          ⟨rfl, rfl⟩
        refine ⟨_, set.trans acknowledges, fun typed a there => .inr ?_⟩
        rw [List.nil_append, List.mem_flatMap] at there
        obtain ⟨c, complete, special⟩ := there
        have own := (handleCommandState_typed (typed _ command) rfl state).2
        refine ⟨packet.header.packetType, r.2.map Packet.content, c.content, command, ?_,
          List.mem_map_of_mem complete, Option.mem_toList.mp special⟩
        rw [(foldl_receiveCommand_effect r.2 _ packet.header.packetType).2,
          filterMap_contentOf own]
        rfl
  next =>
    obtain rfl := Except.ok.inj received
    obtain ⟨acks, acknowledges, cause⟩ := receiveOther_acknowledges con packet genId notInit
    exact ⟨acks, acknowledges, fun _ a there => .inl (cause a there)⟩

theorem handlePacket_acknowledges {done : Connection × Bool}
    (received : handlePacket tools log con packet = .ok done) :
    ∃ acks, Acknowledges con done.1 acks ∧
      (con.Typed → ∀ a ∈ acks, AckCause tools log con packet done.1 a) := by
  have nothing : Acknowledges con done.1 [] → ∃ acks, Acknowledges con done.1 acks ∧
      (con.Typed → ∀ a ∈ acks, AckCause tools log con packet done.1 a) :=
    fun same => ⟨[], same, fun _ a there => absurd there List.not_mem_nil⟩
  have cached : ∀ cache : KeyCache, Acknowledges con (con.setKeyCache cache) [] :=
    fun cache => ⟨rfl, rfl⟩
  simp only [handlePacket] at received
  split_ifs at received with init client near encrypted ack must
  · obtain rfl := Except.ok.inj received
    exact nothing (con.push_acknowledges _)
  · obtain rfl := Except.ok.inj received
    exact nothing (con.push_acknowledges _)
  · obtain rfl := Except.ok.inj received
    exact nothing (.refl con)
  · split at received
    next e cache _ =>
      obtain rfl := Except.ok.inj received
      exact nothing ((cached cache).trans (Connection.push_acknowledges _ _))
    next p cache opened =>
      have header := decryptPacket_header opened
      obtain ⟨acks, acknowledges, cause⟩ := receivePacket_acknowledges
        (by rw [header]; exact init) received
      refine ⟨acks, (cached cache).trans acknowledges, fun typed a there => ?_⟩
      have set : (con.setKeyCache cache).Typed :=
        typed.of_untroubled fun t command => con.setKeyCache_untroubled cache
      rcases cause set a there with
        ⟨own, long, rfl⟩ | ⟨t, new, content, command, delivered, complete, special⟩
      · rw [header] at own ⊢
        exact .opened own p cache opened long
      · have appended : done.1.delivered t = con.delivered t ++ new := delivered
        have own : handshakeAck con.isClient content = some a := special
        exact .handshake t command new appended content complete a own
  · obtain rfl := Except.ok.inj received
    exact nothing (con.push_acknowledges _)
  · obtain ⟨acks, acknowledges, cause⟩ := receivePacket_acknowledges init received
    refine ⟨acks, acknowledges, fun typed a there => ?_⟩
    rcases cause typed a there with
      ⟨own, long, rfl⟩ | ⟨t, new, content, command, delivered, complete, special⟩
    · have unencrypted : packet.header.flags.unencrypted = true := by simpa using encrypted
      exact .plain own unencrypted long
    · exact .handshake t command new delivered content complete a special
  · obtain rfl := Except.ok.inj received
    exact nothing (con.push_acknowledges _)

theorem Answers.sentOnly {mid : Connection} {data : List UInt8} {e : Encoded}
    (answers : Answers tools con mid data e) : SentOnly mid e.con := by
  cases answers with
  | silent same =>
    rw [same]
    exact .refl mid
  | ack packet ack read made same =>
    rw [same]
    exact foldl_encodeOne_sentOnly _ ⟨mid, [], []⟩

theorem handleUdpPacket_typed {data : List UInt8} {e : Encoded} (typed : con.Typed)
    (done : handleUdpPacket tools log con data = .ok e) : e.con.Typed := by
  cases handleUdpPacket_cases done with
  | unread error read same =>
    rw [same]
    exact typed.of_untroubled fun t _ => con.push_untroubled rfl
  | read packet read r handled same =>
    rw [same]
    have sent : SentOnly r.1 (answer tools con.dir packet r).con :=
      (answers_answer tools read r).sentOnly
    exact (handlePacket_typed typed handled).of_untroubled fun t _ => sent.untroubled t

end Steps

section Queues

variable {r : Resender} {t : PacketType} {outgoingPIds : PacketType → PartialPacketId}
  {acks : List (PacketType × UInt16)} {now window : Nat}

/-- An ack takes only packets with its id. -/
theorem Resender.ackPacket_removed (r : Resender) (outgoingPIds : PacketType → PartialPacketId)
    (t' : PacketType) (pId : UInt16) {e : PartialPacketId × SendRecord}
    (there : e ∈ (r.fullSendQueue t).entries) :
    e ∈ ((r.ackPacket outgoingPIds t' pId).1.fullSendQueue t).entries ∨
      t' = t ∧ pId = e.1.packetId := by
  have erased : ∀ key : PartialPacketId, key.packetId = pId →
      e ∈ ((r.setQueue t' ((r.fullSendQueue t').erase key)).fullSendQueue t).entries ∨
        t' = t ∧ pId = e.1.packetId := by
    intro key own
    by_cases same : t = t'
    · subst same
      by_cases first : e.1 = key
      · rw [first]
        exact .inr ⟨rfl, own.symm⟩
      · simp only [setQueue, Function.update_self]
        exact .inl (SortedMap.mem_erase.mpr ⟨there, first⟩)
    · simp only [setQueue, Function.update_of_ne same]
      exact .inl there
  rcases r.ackPacket_cases outgoingPIds t' pId with
    same | ⟨first, rec, others, entries, ⟨own, same⟩ | ⟨other, generationId, same⟩⟩
  · rw [same]
    exact .inl there
  · rw [same]
    exact erased first own
  · rw [same]
    exact erased ⟨generationId, pId⟩ rfl

theorem Resender.ackPacket_subset (r : Resender) (outgoingPIds : PacketType → PartialPacketId)
    (t' : PacketType) (pId : UInt16) {e : PartialPacketId × SendRecord}
    (there : e ∈ ((r.ackPacket outgoingPIds t' pId).1.fullSendQueue t).entries) :
    e ∈ (r.fullSendQueue t).entries := by
  rcases r.ackPacket_cases outgoingPIds t' pId with
    same | ⟨first, rec, others, entries, ⟨own, same⟩ | ⟨other, generationId, same⟩⟩
  · rwa [same] at there
  · rw [same] at there
    exact setQueue_erase_subset r t' _ t e there
  · rw [same] at there
    exact setQueue_erase_subset r t' _ t e there

theorem Resender.ackAll_subset {e : PartialPacketId × SendRecord}
    (there : e ∈ ((ackAll outgoingPIds acks r).fullSendQueue t).entries) :
    e ∈ (r.fullSendQueue t).entries := by
  induction acks generalizing r with
  | nil => exact there
  | cons a acks ih => exact r.ackPacket_subset outgoingPIds a.1 a.2 (ih there)

theorem Resender.ackAll_removed {e : PartialPacketId × SendRecord}
    (there : e ∈ (r.fullSendQueue t).entries) :
    e ∈ ((ackAll outgoingPIds acks r).fullSendQueue t).entries ∨
      ∃ a ∈ acks, a.1 = t ∧ a.2 = e.1.packetId := by
  induction acks generalizing r with
  | nil => exact .inl there
  | cons a acks ih =>
    rcases r.ackPacket_removed outgoingPIds a.1 a.2 there with kept | gone
    · refine (ih kept).imp_right fun later => ?_
      obtain ⟨b, listed, own⟩ := later
      exact ⟨b, List.mem_cons_of_mem a listed, own⟩
    · exact .inr ⟨a, List.mem_cons_self, gone⟩

/-- The record of a packet that was sent at a time. -/
def Resender.recordOf (now : Nat) (p : OutUdpPacket) : PartialPacketId × SendRecord :=
  (p.id.part, ⟨now, ⟨now, 0, p.id⟩, p⟩)

theorem Resender.keep_fullSendQueue_of_ne {p : OutUdpPacket} (other : p.packetType ≠ t) :
    (r.keep now window p).fullSendQueue t = r.fullSendQueue t := by
  simp only [keep]
  split
  · simp only [sendPacket, fillUpSendQueue_fullSendQueue]
    exact Function.update_of_ne (Ne.symm other) _ _
  · rfl

theorem Resender.foldl_keep_of_ne {ps : List OutUdpPacket} (others : ∀ p ∈ ps, p.packetType ≠ t) :
    (ps.foldl (keep now window) r).fullSendQueue t = r.fullSendQueue t := by
  induction ps generalizing r with
  | nil => rfl
  | cons p ps ih =>
    obtain ⟨first, rest⟩ := List.forall_mem_cons.mp others
    rw [List.foldl_cons, ih rest, keep_fullSendQueue_of_ne first]

theorem Resender.mem_keep {p : OutUdpPacket} (kept : p.packetType ∈ resendTypes)
    {e : PartialPacketId × SendRecord} :
    e ∈ ((r.keep now window p).fullSendQueue p.packetType).entries ↔
      e = recordOf now p ∨ (e ∈ (r.fullSendQueue p.packetType).entries ∧ e.1 ≠ p.id.part) := by
  have type : p.id.packetType = p.packetType := rfl
  simp only [keep, if_pos kept, sendPacket, fillUpSendQueue_fullSendQueue, type,
    Function.update_self, SortedMap.mem_insert]
  rfl

/-- Packets with different ids all get their records, and those before keep theirs. -/
theorem Resender.mem_foldl_keep {ps : List OutUdpPacket} (kept : t ∈ resendTypes)
    (own : ∀ p ∈ ps, p.packetType = t) (distinct : ps.Pairwise fun p q => p.id.part ≠ q.id.part)
    {e : PartialPacketId × SendRecord} :
    e ∈ ((ps.foldl (keep now window) r).fullSendQueue t).entries ↔
      (∃ p ∈ ps, e = recordOf now p) ∨
        (e ∈ (r.fullSendQueue t).entries ∧ ∀ p ∈ ps, e.1 ≠ p.id.part) := by
  induction ps generalizing r with
  | nil => simp
  | cons p ps ih =>
    obtain ⟨first, rest⟩ := List.forall_mem_cons.mp own
    obtain ⟨differs, distinct'⟩ := List.pairwise_cons.mp distinct
    have one : e ∈ ((r.keep now window p).fullSendQueue p.packetType).entries ↔
        e = recordOf now p ∨ (e ∈ (r.fullSendQueue p.packetType).entries ∧ e.1 ≠ p.id.part) :=
      mem_keep (by rw [first]; exact kept)
    rw [first] at one
    rw [List.foldl_cons, ih rest distinct', one]
    constructor
    · intro either
      rcases either with ⟨q, there, same⟩ | ⟨here | ⟨old, other⟩, others⟩
      · exact .inl ⟨q, List.mem_cons_of_mem p there, same⟩
      · exact .inl ⟨p, List.mem_cons_self, here⟩
      · exact .inr ⟨old, List.forall_mem_cons.mpr ⟨other, others⟩⟩
    · intro either
      rcases either with ⟨q, there, same⟩ | ⟨old, others⟩
      · rcases List.mem_cons.mp there with rfl | later
        · refine .inr ⟨.inl same, fun q' there' => ?_⟩
          rw [same]
          exact differs q' there'
        · exact .inl ⟨q, later, same⟩
      · obtain ⟨other, others⟩ := List.forall_mem_cons.mp others
        exact .inr ⟨.inr ⟨old, other⟩, others⟩

/-- A record that is polled keeps its packet, and so do all others. -/
theorem Resender.pollResend_queue {r' : Resender} {top : SendRecordId} {env : PollEnv}
    (polled : r.pollResend top env = some r') {key : PartialPacketId} {rec : SendRecord} :
    ((key, rec) ∈ (r.fullSendQueue t).entries →
      ∃ rec', (key, rec') ∈ (r'.fullSendQueue t).entries ∧ rec'.packet = rec.packet) ∧
    ((key, rec) ∈ (r'.fullSendQueue t).entries →
      ∃ rec', (key, rec') ∈ (r.fullSendQueue t).entries) := by
  have same : r'.fullSendQueue = r.fullSendQueue →
      ((key, rec) ∈ (r.fullSendQueue t).entries →
        ∃ rec', (key, rec') ∈ (r'.fullSendQueue t).entries ∧ rec'.packet = rec.packet) ∧
      ((key, rec) ∈ (r'.fullSendQueue t).entries →
        ∃ rec', (key, rec') ∈ (r.fullSendQueue t).entries) := by
    intro same
    rw [same]
    exact ⟨fun there => ⟨rec, there, rfl⟩, fun there => ⟨rec, there⟩⟩
  simp only [pollResend] at polled
  split at polled
  next =>
    obtain rfl := Option.some.inj polled
    exact same (fillUpSendQueue_fullSendQueue _ _)
  next found lookup =>
    have listed := SortedMap.lookup_eq_some_iff.mp lookup
    have updated : ∀ id : SendRecordId, r'.fullSendQueue = Function.update r.fullSendQueue
        top.id.packetType ((r.fullSendQueue top.id.packetType).insert top.id.part
          { found with id }) →
        ((key, rec) ∈ (r.fullSendQueue t).entries →
          ∃ rec', (key, rec') ∈ (r'.fullSendQueue t).entries ∧ rec'.packet = rec.packet) ∧
        ((key, rec) ∈ (r'.fullSendQueue t).entries →
          ∃ rec', (key, rec') ∈ (r.fullSendQueue t).entries) := by
      intro id queue
      by_cases own : t = top.id.packetType
      · subst own
        rw [queue, Function.update_self]
        constructor
        · intro there
          by_cases first : key = top.id.part
          · subst first
            obtain rfl := SortedMap.eq_of_mem there listed
            exact ⟨_, SortedMap.mem_insert.mpr (.inl rfl), rfl⟩
          · exact ⟨rec, SortedMap.mem_insert.mpr (.inr ⟨there, first⟩), rfl⟩
        · intro there
          rcases SortedMap.mem_insert.mp there with here | ⟨old, -⟩
          · rw [(Prod.mk.inj here).1]
            exact ⟨found, listed⟩
          · exact ⟨rec, old⟩
      · rw [queue, Function.update_of_ne own]
        exact ⟨fun there => ⟨rec, there, rfl⟩, fun there => ⟨rec, there⟩⟩
    split_ifs at polled
    · exact same (congrArg fullSendQueue (Option.some.inj polled).symm)
    · exact same (congrArg fullSendQueue (Option.some.inj polled).symm)
    · obtain rfl := Option.some.inj polled
      exact updated _ (rebuildSendQueue_fullSendQueue _ _)
    · obtain rfl := Option.some.inj polled
      exact updated _ rfl

end Queues

/-- The key of a packet with a number in `full_send_queue`. -/
def recordKey (n : Nat) : PartialPacketId :=
  ⟨(PartialPacketId.ofNumber (n + 1)).generationId, (PartialPacketId.ofNumber n).packetId⟩

theorem recordKey_inj {n m : Nat} (small : n + 1 < 2 ^ 48) (small' : m + 1 < 2 ^ 48)
    (same : recordKey n = recordKey m) : n = m := by
  simp only [recordKey, PartialPacketId.mk.injEq] at same
  have generations := congrArg UInt32.toNat same.1
  have ids := congrArg UInt16.toNat same.2
  simp only [PartialPacketId.ofNumber, UInt32.toNat_ofNat', UInt16.toNat_ofNat'] at generations ids
  omega

section Encode

variable {tools : Tools} {aead : PacketAead} {key : Option KeyNonce} {p : Packet}
  {fake encrypt d : Bool} {t : PacketType}

@[simp] theorem encryptWith_packetType :
    (encryptWith aead key p).header.packetType = p.header.packetType := by
  cases key <;> rfl

@[simp] theorem encryptWith_packetId :
    (encryptWith aead key p).header.packetId = p.header.packetId := by
  cases key <;> rfl

@[simp] theorem encryptWith_flags : (encryptWith aead key p).header.flags = p.header.flags := by
  cases key <;> rfl

/-- A packet is kept under the key of its number. -/
theorem part_sentFor {n : PartialPacketId × Packet} (own : n.2.header.packetId = n.1.packetId)
    (other : n.2.header.packetType ≠ .init) (small : n.1.number + 1 < 2 ^ 48) :
    (sentFor tools fake encrypt d t n).id.part = recordKey n.1.number := by
  have one : (1 : UInt16).toNat = 1 := rfl
  have next : (n.1.add 1).number = n.1.number + 1 :=
    PartialPacketId.number_add_of_lt (by rw [one]; exact small)
  have generation : (n.1.add 1).generationId =
      (PartialPacketId.ofNumber (n.1.number + 1)).generationId := by
    rw [← next, PartialPacketId.ofNumber_number]
  have type : (sentFor tools fake encrypt d t n).packetType = n.2.header.packetType :=
    encryptWith_packetType
  have id : (sentFor tools fake encrypt d t n).packetId = n.1.packetId := by
    rw [OutUdpPacket.packetId, type, if_neg other, ← own]
    exact encryptWith_packetId
  have generation' : (sentFor tools fake encrypt d t n).generationId =
      (n.1.add 1).generationId := rfl
  simp only [OutUdpPacket.id, recordKey, id, generation', generation,
    PartialPacketId.ofNumber_number]

end Encode

section Flights

variable {tools : Tools} {con mid : Connection} {packet : Packet} {data : List UInt8}
  {e : Encoded} {f : AckFlight}

/-- The flight of the ack for a packet. -/
structure FlightOf (con : Connection) (packet : Packet) (e : Encoded) (f : AckFlight) : Prop where
  acks : f.ackedType = packet.header.packetType
  acked : f.acked = PartialPacketId.number
    ⟨(inReceiveWindow (con.codec.incomingPIds packet.header.packetType) packet.header.packetType
      packet.header.packetId).genId, packet.header.packetId⟩
  kind : ackedType f.packet.header.packetType = packet.header.packetType
  number : f.number = con.outgoing f.packet.header.packetType
  next : e.con.outgoing f.packet.header.packetType = f.number + 1
  encrypted : shouldEncrypt f.packet.header.packetType con.params.voiceEncryption = true →
    f.packet.header.flags.unencrypted = false
  texts : ∀ a ∈ e.sealed, a.text = writeU16 packet.header.packetId

/-- A datagram is answered with one ack at most. -/
theorem Answers.flight (answers : Answers tools con mid data e) (receives : ReceivesOnly con mid)
    (sound : con.params.keyCache.Sound) (room : ∀ t, con.outgoing t < lastNumber) :
    (Link.ackFlights con data e.packets = [] ∧ e.sealed = []) ∨
      ∃ packet, InPacket.tryNew con.dir data = .ok packet ∧ e.packets ≠ [] ∧
        ∃ f, Link.ackFlights con data e.packets = [f] ∧ FlightOf con packet e f := by
  cases answers with
  | silent same =>
    rw [same]
    refine .inl ⟨?_, rfl⟩
    simp only [Link.ackFlights]
    split <;> rfl
  | ack packet ack read made same =>
    obtain ⟨kind, isAck, dir, content, flags⟩ := outAck_new made
    have way : ack.direction = mid.dir.reverse := by
      rw [dir, Connection.dir, Connection.dir, receives.isClient]
    have others : ack.header.packetType ≠ .init ∧ ack.header.packetType.isCommand = false ∧
        ack.header.packetType.isVoice = false := by
      generalize ack.header.packetType = t at isAck
      cases t <;> first | exact ⟨by decide, rfl, rfl⟩ | cases isAck
    obtain ⟨notInit, notCommand, notVoice⟩ := others
    have single : plainPackets tools mid ack = [prepare mid ack] := by
      simp [plainPackets, notCommand, notVoice]
    have before : ∀ t, mid.outgoing t = con.outgoing t := by
      intro t
      simp only [Connection.outgoing, receives.outgoingPIds]
    have fits : mid.outgoing ack.header.packetType + (plainPackets tools mid ack).length ≤
        lastNumber := by
      rw [single, before]
      exact room _
    have encoded := encodes tools (receives.sound sound) notInit way fits
    rw [← same] at encoded
    have packets := encoded.packets
    simp only [single, numbered, List.map_cons, List.map_nil] at packets
    generalize sent : sentFor tools (mid.fakes ack) (mid.encrypts ack) mid.isClient
      ack.header.packetType (mid.codec.outgoingPIds ack.header.packetType,
        (prepare mid ack).withNumber (mid.codec.outgoingPIds ack.header.packetType)) = out at packets
    have type : out.data.header.packetType = ack.header.packetType := by
      rw [← sent, sentFor, encryptWith_packetType, Packet.withNumber_packetType,
        prepare_packetType]
    have flights : Link.ackFlights con data e.packets = [⟨out.data, con.outgoing out.packetType,
        packet.header.packetType, PartialPacketId.number
          ⟨(inReceiveWindow (con.codec.incomingPIds packet.header.packetType)
            packet.header.packetType packet.header.packetId).genId, packet.header.packetId⟩⟩] := by
      rw [packets]
      simp only [Link.ackFlights, read, List.map_cons, List.map_nil]
    refine .inr ⟨packet, read, packets ▸ List.cons_ne_nil _ _, _, flights,
      ⟨rfl, rfl, ?_, rfl, ?_, ?_, ?_⟩⟩
    · simp only [type]
      exact kind
    · simp only [OutUdpPacket.packetType, type]
      rw [encoded.outgoing, if_pos rfl, single, before]
      rfl
    · simp only [type]
      intro must
      rw [← sent, sentFor, encryptWith_flags, Packet.withNumber_flags]
      have voice := receives.voiceEncryption
      simp only [prepare, voice, must, notCommand, flags, Bool.false_and, Bool.false_eq_true,
        if_false, Bool.not_true]
      split
      · rfl
      · exact congrArg Flags.unencrypted flags
    · intro a there
      rw [encoded.sealed, single] at there
      obtain ⟨n, listed, sealed⟩ := List.mem_filterMap.mp there
      rw [numbered, numbered, List.mem_singleton] at listed
      obtain ⟨key, -, rfl⟩ := Option.map_eq_some_iff.mp sealed
      simp only [sealing, listed, Packet.withNumber_content, prepare_content, content]

end Flights

end Nek0.Source.Tsproto
