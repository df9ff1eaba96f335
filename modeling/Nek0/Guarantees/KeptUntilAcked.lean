import Nek0.Guarantees.KeysNeverReused
import Nek0.Source.AckEffects

/-!
# Sent packets wait for their acknowledgement

Every packet of a command stays in the send queue of its side, from where it is sent again, until
the side receives a datagram that acknowledges it: an ack with the id of the packet, or the end of a
command of the handshake. As long as no counter comes to the last generation, the keys of the queue
are never used twice, so no later packet takes the place of one that waits.
-/

namespace Nek0.Guarantees.UntilAcked

open Nek0.Library
open Nek0.Source.Tsproto

/-- The packets that wait have numbers that were used. -/
def Below (con : Connection) (t : PacketType) : Prop :=
  ∀ e ∈ (con.resender.fullSendQueue t).entries, ∃ n < con.outgoing t, e.1 = recordKey n

/-- A packet waits for its acknowledgement. -/
def Waits (con : Connection) (p : OutUdpPacket) : Prop :=
  ∃ rec, (p.id.part, rec) ∈ (con.resender.fullSendQueue p.packetType).entries ∧ rec.packet = p

/-- A datagram acknowledges a packet of its receiver. -/
inductive AckedBy (tools : Tools) (log : List PacketSealing) (con : Connection) (data : List UInt8)
    (p : OutUdpPacket) : Prop
  | intro (packet : Packet) (read : InPacket.tryNew con.dir data = .ok packet)
      (done : Connection × Bool) (handled : handlePacket tools log con packet = .ok done)
      (cause : AckCause tools log con packet done.1 (p.packetType, p.packetId))

section Send

variable {tools : Tools} {con : Connection} {packet : Packet} {e : Encoded}

theorem foldl_encodeOne_packetType {fake encrypt : Bool} {t : PacketType} {ps : List Packet}
    {done : Encoded} (own : ∀ p ∈ ps, p.header.packetType = t)
    (before : ∀ q ∈ done.packets, q.packetType = t) :
    ∀ q ∈ (ps.foldl (encodeOne tools fake encrypt) done).packets, q.packetType = t := by
  induction ps generalizing done with
  | nil => exact before
  | cons p ps ih =>
    obtain ⟨first, rest⟩ := List.forall_mem_cons.mp own
    apply ih rest
    intro q there
    rcases List.mem_append.mp there with old | new
    · exact before q old
    · rw [List.mem_singleton.mp new, OutUdpPacket.packetType, encryptWith_packetType,
        Packet.withNumber_packetType, first]

theorem packetType_of_mem_packets (way : packet.direction = con.dir.reverse) :
    ∀ q ∈ (encodePacket tools con packet).packets, q.packetType = packet.header.packetType :=
  foldl_encodeOne_packetType (fun _ piece => (plainPackets_header way piece).1)
    fun _ there => absurd there List.not_mem_nil

/-- The packets of a command are kept under the keys of their numbers. -/
theorem part_of_numbered (other : packet.header.packetType ≠ .init)
    (way : packet.direction = con.dir.reverse)
    (room : con.outgoing packet.header.packetType + (plainPackets tools con packet).length ≤
      lastNumber) {n : PartialPacketId × Packet}
    (there : n ∈ numbered (con.codec.outgoingPIds packet.header.packetType)
      (plainPackets tools con packet)) (fake encrypt d : Bool) :
    (sentFor tools fake encrypt d packet.header.packetType n).id.part = recordKey n.1.number ∧
      con.outgoing packet.header.packetType ≤ n.1.number ∧
      n.1.number < con.outgoing packet.header.packetType +
        (plainPackets tools con packet).length := by
  obtain ⟨k, q, found, number, inside, same⟩ := mem_numbered room there
  have piece := (plainPackets_header way (List.mem_of_getElem? found)).1
  have number' : n.1.number = con.outgoing packet.header.packetType + k := number
  refine ⟨part_sentFor ?_ ?_ ?_, by omega, by omega⟩
  · rw [same]
    exact Packet.withNumber_packetId (by rw [piece]; exact other) n.1
  · rw [same, Packet.withNumber_packetType, piece]
    exact other
  · simp only [lastNumber] at room
    omega

/-- What sending does to the packets of a type that wait. -/
structure Sends (con : Connection) (e : Encoded) (now : Nat) (t : PacketType) : Prop where
  below : Below e.con t
  kept : ∀ x ∈ (con.resender.fullSendQueue t).entries,
    x ∈ (e.con.resender.fullSendQueue t).entries
  waits : ∀ p ∈ e.packets, p.packetType = t →
    Resender.recordOf now p ∈ (e.con.resender.fullSendQueue t).entries

theorem sends_sendPacket (sound : con.params.keyCache.Sound)
    (way : packet.direction = con.dir.reverse)
    (fits : con.outgoing packet.header.packetType + (plainPackets tools con packet).length ≤
      lastNumber)
    (now window : Nat) {t : PacketType} (command : t.isCommand = true) (below : Below con t) :
    Sends con (sendPacket tools con packet now window) now t := by
  have takes := takes_encodePacket tools sound way fits
  have types : ∀ q ∈ (encodePacket tools con packet).packets,
      q.packetType = packet.header.packetType := packetType_of_mem_packets way
  have queue : (sendPacket tools con packet now window).con.resender =
      (encodePacket tools con packet).packets.foldl (Resender.keep now window) con.resender := by
    rw [← takes.sentOnly.resender]
    rfl
  have outgoing : (sendPacket tools con packet now window).con.outgoing t =
      (encodePacket tools con packet).con.outgoing t := rfl
  have old : ∀ x ∈ (con.resender.fullSendQueue t).entries,
      ∃ n < (sendPacket tools con packet now window).con.outgoing t, x.1 = recordKey n := by
    intro x there
    obtain ⟨n, small, key⟩ := below x there
    rw [outgoing]
    exact ⟨n, small.trans_le (takes.grows t), key⟩
  by_cases own : packet.header.packetType = t
  · subst own
    have encoded := encodes tools sound (packetType_ne_init command) way fits
    have grown := encoded.outgoing packet.header.packetType
    rw [if_pos rfl] at grown
    have parts : ∀ n ∈ numbered (con.codec.outgoingPIds packet.header.packetType)
        (plainPackets tools con packet),
        (sentFor tools (con.fakes packet) (con.encrypts packet) con.isClient
          packet.header.packetType n).id.part = recordKey n.1.number ∧
        con.outgoing packet.header.packetType ≤ n.1.number ∧
        n.1.number < con.outgoing packet.header.packetType +
          (plainPackets tools con packet).length :=
      fun n there => part_of_numbered (packetType_ne_init command) way fits there _ _ _
    have limit := fits
    simp only [lastNumber] at limit
    have distinct : (encodePacket tools con packet).packets.Pairwise
        fun p q => p.id.part ≠ q.id.part := by
      rw [encoded.packets, List.pairwise_map]
      apply (numbered_ascending fits).imp_of_mem
      intro a b first second before same
      obtain ⟨part, -, most⟩ := parts a first
      obtain ⟨part', -, most'⟩ := parts b second
      rw [part, part'] at same
      have number := recordKey_inj (by omega) (by omega) same
      omega
    have kept : packet.header.packetType ∈ Resender.resendTypes := by
      generalize packet.header.packetType = t at command
      cases t <;> first | decide | cases command
    have entries : ∀ x, x ∈ ((sendPacket tools con packet now window).con.resender.fullSendQueue
        packet.header.packetType).entries ↔
        (∃ p ∈ (encodePacket tools con packet).packets, x = Resender.recordOf now p) ∨
          (x ∈ (con.resender.fullSendQueue packet.header.packetType).entries ∧
            ∀ p ∈ (encodePacket tools con packet).packets, x.1 ≠ p.id.part) := by
      intro x
      rw [queue]
      exact Resender.mem_foldl_keep kept types distinct
    constructor
    · intro x there
      rcases (entries x).mp there with ⟨p, sent, rfl⟩ | ⟨before, -⟩
      · rw [encoded.packets, List.mem_map] at sent
        obtain ⟨n, listed, rfl⟩ := sent
        obtain ⟨part, -, most⟩ := parts n listed
        refine ⟨n.1.number, ?_, part⟩
        rw [outgoing, grown]
        exact most
      · exact old x before
    · intro x there
      refine (entries x).mpr (.inr ⟨there, fun p sent same => ?_⟩)
      rw [encoded.packets, List.mem_map] at sent
      obtain ⟨n, listed, rfl⟩ := sent
      obtain ⟨part, least, most⟩ := parts n listed
      obtain ⟨m, small, key⟩ := below x there
      rw [key, part] at same
      have number := recordKey_inj (by omega) (by omega) same
      omega
    · intro p sent _
      exact (entries _).mpr (.inl ⟨p, sent, rfl⟩)
  · have same : (sendPacket tools con packet now window).con.resender.fullSendQueue t =
        con.resender.fullSendQueue t := by
      rw [queue]
      exact Resender.foldl_keep_of_ne fun p sent => by
        rw [types p sent]
        exact own
    refine ⟨?_, ?_, fun p sent type => ?_⟩
    · intro x there
      rw [same] at there
      exact old x there
    · rw [same]
      exact fun x there => there
    · exact absurd ((types p sent).symm.trans type) own

end Send

/-- A packet that waits either still waits after a datagram, or is acknowledged by it. -/
theorem waits_handleUdpPacket {tools : Tools} {log : List PacketSealing} {con : Connection}
    {data : List UInt8} {e : Encoded} (typed : con.Typed)
    (done : handleUdpPacket tools log con data = .ok e) :
    (∀ t, ∀ x ∈ (e.con.resender.fullSendQueue t).entries,
      x ∈ (con.resender.fullSendQueue t).entries) ∧
    ∀ p, Waits con p → Waits e.con p ∨ AckedBy tools log con data p := by
  cases handleUdpPacket_cases done with
  | unread error read same =>
    rw [same]
    exact ⟨fun t x there => there, fun p waits => .inl waits⟩
  | read packet read r handled same =>
    obtain ⟨acks, acknowledges, cause⟩ := handlePacket_acknowledges handled
    have queue : e.con.resender = Resender.ackAll con.codec.outgoingPIds acks con.resender := by
      rw [same, (answers_answer tools read r).sentOnly.resender, acknowledges.resender]
    constructor
    · intro t x there
      rw [queue] at there
      exact Resender.ackAll_subset there
    · intro p waits
      obtain ⟨rec, there, own⟩ := waits
      have removed : (p.id.part, rec) ∈ ((Resender.ackAll con.codec.outgoingPIds acks
          con.resender).fullSendQueue p.packetType).entries ∨
          ∃ a ∈ acks, a.1 = p.packetType ∧ a.2 = p.packetId := Resender.ackAll_removed there
      rcases removed with kept | ⟨a, listed, type, id⟩
      · refine .inl ⟨rec, ?_, own⟩
        rw [queue]
        exact kept
      · refine .inr ⟨packet, read, r, handled, ?_⟩
        have one := cause typed a listed
        have pair : a = (p.packetType, p.packetId) := Prod.ext type id
        rwa [pair] at one

/-- The state after a handshake, as far as the keys and the packets that wait are concerned. -/
structure Settled (s : Link) : Prop extends PacketKeys.Established s where
  typed : ∀ side, (s.party side).con.Typed
  queues : ∀ side t, t.isCommand = true → Below (s.party side).con t

/-- A step in which a side receives a datagram that acknowledges its packet. -/
def AckStep (tools : Tools) (s : Link) (side : Side) (p : OutUdpPacket) : Link.Action → Prop
  | .receive side' data => side' = side ∧ AckedBy tools s.log (s.party side).con data p
  | _ => False

/-- What a step does to the packets that wait. -/
structure Keeps (tools : Tools) (s s' : Link) (a : Link.Action) : Prop where
  settled : Settled s'
  waits : ∀ side p, p.packetType.isCommand = true → Waits (s.party side).con p →
    Waits (s'.party side).con p ∨ AckStep tools s side p a

section Steps

variable {tools : Tools} {s s' : Link} {side : Side} {a : Link.Action}

/-- Only the queues of the side that does the step matter. -/
theorem Keeps.of_side (inv : Settled s) (keys : PacketKeys.Established s')
    (others : s'.party side.other = s.party side.other) (typed : (s'.party side).con.Typed)
    (below : ∀ t, t.isCommand = true → Below (s'.party side).con t)
    (waits : ∀ p, p.packetType.isCommand = true → Waits (s.party side).con p →
      Waits (s'.party side).con p ∨ AckStep tools s side p a) : Keeps tools s s' a := by
  have either : ∀ side', side' = side ∨ side' = side.other := by
    intro side'
    cases side <;> cases side' <;> simp [Side.other]
  refine ⟨⟨keys, fun side' => ?_, fun side' t command => ?_⟩, fun side' p command before => ?_⟩
  · rcases either side' with rfl | rfl
    · exact typed
    · rw [others]
      exact inv.typed _
  · rcases either side' with rfl | rfl
    · exact below t command
    · rw [others]
      exact inv.queues _ t command
  · rcases either side' with rfl | rfl
    · exact waits p command before
    · rw [others]
      exact .inl before

theorem keeps_step (inv : Settled s) (room : PacketKeys.Room tools s a)
    (taken : Link.step tools s a = some s') : Keeps tools s s' a := by
  have keys := PacketKeys.established_step inv.toEstablished room taken
  cases Link.step_cases taken with
  | send side packet now window way =>
    obtain ⟨own, others⟩ := Link.setParty_party s side _ _
    have sends : ∀ t, t.isCommand = true → Sends (s.party side).con
        (sendPacket tools (s.party side).con packet now window) now t :=
      fun t command => sends_sendPacket (inv.sound side) way room now window command
        (inv.queues side t command)
    apply Keeps.of_side inv keys others
    · have only : SentOnly (s.party side).con
          (encodePacket tools (s.party side).con packet).con :=
        foldl_encodeOne_sentOnly _ ⟨(s.party side).con, [], []⟩
      rw [own]
      exact (inv.typed side).of_untroubled fun t _ =>
        ⟨(only.untroubled t).state, (only.untroubled t).delivered⟩
    · intro t command
      rw [own]
      exact (sends t command).below
    · intro p command waits
      obtain ⟨rec, there, same⟩ := waits
      refine .inl ⟨rec, ?_, same⟩
      rw [own]
      exact (sends _ command).kept _ there
  | receive side data encoded handled =>
    obtain ⟨own, others⟩ := Link.setParty_party s side _ _
    obtain ⟨mid, receives, answers⟩ := handleUdpPacket_answers handled (inv.sound side)
    obtain ⟨subset, waits⟩ := waits_handleUdpPacket (inv.typed side) handled
    apply Keeps.of_side inv keys others
    · rw [own]
      exact handleUdpPacket_typed (inv.typed side) handled
    · intro t command x there
      rw [own] at there ⊢
      obtain ⟨n, small, key⟩ := inv.queues side t command x (subset t x there)
      refine ⟨n, ?_, key⟩
      exact small.trans_eq (answers.outgoing receives (inv.sound side) room command).symm
    · intro p command before
      rw [own]
      exact (waits p before).imp_right fun acked => ⟨rfl, acked⟩
  | poll side top env resender isTop polled =>
    apply Keeps.of_side inv keys (Link.setParty_party s side _ s.log).2
    · rw [Link.setParty_own]
      exact (inv.typed side).of_untroubled fun t _ => ⟨rfl, rfl⟩
    · rintro t command ⟨key, rec⟩ there
      rw [Link.setParty_own] at there ⊢
      obtain ⟨rec', before⟩ := (Resender.pollResend_queue polled).2 there
      exact inv.queues side t command (key, rec') before
    · intro p command waits
      obtain ⟨rec, there, same⟩ := waits
      obtain ⟨rec', there', same'⟩ := (Resender.pollResend_queue polled).1 there
      rw [Link.setParty_own]
      exact .inl ⟨rec', there', same'.trans same⟩
  | die side a =>
    apply Keeps.of_side inv keys (Link.setParty_party s side _ s.log).2
    · rw [Link.setParty_own]
      exact inv.typed side
    · intro t command
      rw [Link.setParty_own]
      exact inv.queues side t command
    · intro p command waits
      rw [Link.setParty_own]
      exact .inl waits
  | forge sealing known =>
    exact ⟨⟨keys, inv.typed, inv.queues⟩, fun side p command waits => .inl waits⟩

end Steps

section Runs

variable {tools : Tools} {s t : Link} {as : List Link.Action}

theorem waits_run (inv : Settled s) (run : Run (Link.step tools) (PacketKeys.Room tools) s as t) :
    Settled t ∧ ∀ side p, p.packetType.isCommand = true →
      Waits (s.party side).con p → Waits (t.party side).con p ∨
        ∃ bs a cs u, as = bs ++ a :: cs ∧
          Run (Link.step tools) (PacketKeys.Room tools) s bs u ∧ AckStep tools u side p a := by
  induction run with
  | start => exact ⟨inv, fun side p command waits => .inl waits⟩
  | @next as t u b before meets taken ih =>
    obtain ⟨settled, kept⟩ := ih
    have keeps := keeps_step settled meets taken
    refine ⟨keeps.settled, ?_⟩
    intro side p command waits
    rcases kept side p command waits with still | ⟨bs, a, cs, w, split, first, acked⟩
    · rcases keeps.waits side p command still with later | acked
      · exact .inl later
      · exact .inr ⟨as, b, [], t, rfl, before, acked⟩
    · refine .inr ⟨bs, a, cs ++ [b], w, ?_, first, acked⟩
      rw [split, List.append_assoc, List.cons_append]

/-- Over every run from a settled connection, against any network, as long as no counter comes to
the last generation: each packet of a command that was sent waits, to be sent again, until its side
receives a datagram that acknowledges it. -/
theorem waits_until_acked (settled : Settled s) {u v : Link}
    (before : Run (Link.step tools) (PacketKeys.Room tools) s as u) {side : Side} {packet : Packet}
    {now window : Nat} (room : PacketKeys.Room tools u (.send side packet now window))
    (sent : Link.step tools u (.send side packet now window) = some v) {bs : List Link.Action}
    (after : Run (Link.step tools) (PacketKeys.Room tools) v bs t) {p : OutUdpPacket}
    (made : p ∈ (sendPacket tools (u.party side).con packet now window).packets)
    (command : p.packetType.isCommand = true) :
    Waits (t.party side).con p ∨ ∃ cs a ds w, bs = cs ++ a :: ds ∧
      Run (Link.step tools) (PacketKeys.Room tools) v cs w ∧ AckStep tools w side p a := by
  have settled := (waits_run settled before).1
  have keeps := keeps_step settled room sent
  apply (waits_run keeps.settled after).2 side p command
  simp only [Link.step] at sent
  split_ifs at sent with enabled
  obtain rfl := Option.some.inj sent
  have sends : Sends (u.party side).con (sendPacket tools (u.party side).con packet now window) now
      p.packetType := sends_sendPacket (settled.sound side) enabled.2 room now window command
    (settled.queues side _ command)
  refine ⟨⟨now, ⟨now, 0, p.id⟩, p⟩, ?_, rfl⟩
  rw [(Link.setParty_party u side _ _).1]
  exact sends.waits p made rfl

end Runs

theorem settled_newLink : Settled PacketKeys.newLink where
  toEstablished := PacketKeys.established_newLink
  typed _ _ _ := ⟨fun _ there => absurd there List.not_mem_nil, fun _ found => by cases found⟩
  queues _ _ _ _ there := absurd there List.not_mem_nil

theorem not_waits {con : Connection} {p : OutUdpPacket}
    (absent : ∀ e ∈ (con.resender.fullSendQueue p.packetType).entries, e.1 ≠ p.id.part) :
    ¬ Waits con p := by
  rintro ⟨rec, there, -⟩
  exact absent _ there rfl

/-- The packet of the farewell has left the queue, and it was acknowledged before. -/
theorem waits_until_acked_farewell : ∃ u v t,
    Run (Link.step PacketKeys.plainTools) (PacketKeys.Room PacketKeys.plainTools)
      PacketKeys.newLink (PacketKeys.exchange.take 2) u ∧
    Link.step PacketKeys.plainTools u (.send .client PacketKeys.farewell 5 4) = some v ∧
    Run (Link.step PacketKeys.plainTools) (PacketKeys.Room PacketKeys.plainTools) v
      (PacketKeys.exchange.drop 3) t ∧
    ∃ p ∈ (sendPacket PacketKeys.plainTools (u.party .client).con PacketKeys.farewell 5 4).packets,
      ¬ Waits (t.party .client).con p ∧
      ∃ cs a ds w, PacketKeys.exchange.drop 3 = cs ++ a :: ds ∧
        Run (Link.step PacketKeys.plainTools) (PacketKeys.Room PacketKeys.plainTools) v cs w ∧
        AckStep PacketKeys.plainTools w .client p a := by
  have computed : (exec (guarded (fun u a => decide (PacketKeys.Room PacketKeys.plainTools u a))
        (Link.step PacketKeys.plainTools)) PacketKeys.newLink (PacketKeys.exchange.take 2)).any
      (fun u => decide (PacketKeys.Room PacketKeys.plainTools u
          (.send .client PacketKeys.farewell 5 4)) &&
        (Link.step PacketKeys.plainTools u (.send .client PacketKeys.farewell 5 4)).any fun v =>
          (exec (guarded (fun u a => decide (PacketKeys.Room PacketKeys.plainTools u a))
            (Link.step PacketKeys.plainTools)) v (PacketKeys.exchange.drop 3)).any fun t =>
              (sendPacket PacketKeys.plainTools (u.party .client).con PacketKeys.farewell 5
                4).packets.any fun p => p.packetType.isCommand &&
                  decide (∀ e ∈ ((t.party .client).con.resender.fullSendQueue
                    p.packetType).entries, e.1 ≠ p.id.part)) = true := by
    decide +kernel
  obtain ⟨u, first, rest⟩ := reaches_of_guarded _ computed
  obtain ⟨room, sent⟩ := Bool.and_eq_true_iff.mp rest
  obtain ⟨v, taken, later⟩ := (Option.any_eq_true ..).mp sent
  obtain ⟨t, last, left⟩ := reaches_of_guarded _ later
  obtain ⟨p, made, out⟩ := List.any_eq_true.mp left
  obtain ⟨command, absent⟩ := Bool.and_eq_true_iff.mp out
  have before : Run (Link.step PacketKeys.plainTools) (PacketKeys.Room PacketKeys.plainTools)
      PacketKeys.newLink (PacketKeys.exchange.take 2) u :=
    first.weaken fun _ _ met => of_decide_eq_true met
  have after : Run (Link.step PacketKeys.plainTools) (PacketKeys.Room PacketKeys.plainTools)
      v (PacketKeys.exchange.drop 3) t := last.weaken fun _ _ met => of_decide_eq_true met
  have gone : ¬ Waits (t.party .client).con p := not_waits (of_decide_eq_true absent)
  refine ⟨u, v, t, before, taken, after, p, made, gone, ?_⟩
  have either := waits_until_acked settled_newLink before (of_decide_eq_true room) taken after made
    command
  exact either.resolve_left gone

end Nek0.Guarantees.UntilAcked
