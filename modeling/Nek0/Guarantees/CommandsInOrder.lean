import Nek0.Guarantees.KeysNeverReused
import Nek0.Source.CommandChannel

/-!
# Commands arrive in order

Whatever the network does, the commands that one side hands on are the first ones that the other
side has sent, each of them once and unchanged. A packet that came twice while it was early stays in
the receive queue for good, so the result holds as long as the queue has been empty less than a
generation ago; and no counter may come to the last generation.
-/

namespace Nek0.Guarantees.Commands

open Nek0.Library
open Nek0.Source.Tsproto

/-- The packets of the commands that were sent, from the number `start` on. -/
structure Sent (tools : Tools) (log : List PacketSealing) (d : Bool) (t : PacketType)
    (start : Nat) (frags : List Packet) (p : Party) : Prop where
  count : start + frags.length = p.con.outgoing t
  numbered : Consecutive start frags
  types : ∀ q ∈ frags, q.header.packetType = t
  sealedBy : ∀ e ∈ log, ∀ id, e.key = secretKey d t id → start ≤ id.number →
    ∃ q, frags[id.number - start]? = some q ∧ e = sealing e.key q ∧
      q.header.mac = (tools.aead.ciphertext e).1
  composed : Composed tools frags (p.sent t)

/-- What has been taken of these packets. -/
structure Received (tools : Tools) (t : PacketType) (start : Nat) (frags : List Packet)
    (p : Party) : Prop where
  least : start ≤ p.con.expected t
  most : p.con.expected t ≤ start + frags.length
  taken : ∃ outs, assemble tools (none, []) (frags.take (p.con.expected t - start)) =
    .ok (p.con.codec.fragmentedQueue t, outs) ∧ outs.map Packet.content = p.con.delivered t
  queued : ∀ q ∈ p.con.codec.receiveQueue t, ∃ n, p.drained t < start + n ∧
    start + n < p.con.expected t + 200 ∧ frags[n]? = some q
  waiting : ∀ q ∈ p.con.codec.receiveQueue t,
    q.header.packetId ≠ (p.con.codec.incomingPIds t).packetId
  drained : start ≤ p.drained t ∧ p.drained t ≤ p.con.expected t

theorem getElem?_append_of_eq_some {α : Type*} {l : List α} {n : Nat} {a : α}
    (found : l[n]? = some a) (l' : List α) : (l ++ l')[n]? = some a := by
  rw [List.getElem?_append_left (List.getElem?_eq_some_iff.mp found).1, found]

section Sender

variable {tools : Tools} {log more : List PacketSealing} {d : Bool} {t : PacketType} {start : Nat}
  {frags g : List Packet} {p p' : Party}

/-- Other keys do not matter. -/
theorem Sent.quiet (sent : Sent tools log d t start frags p)
    (outgoing : p'.con.outgoing t = p.con.outgoing t) (same : p'.sent t = p.sent t)
    (logged : ∀ a ∈ more, a ∈ log ∨ ∀ id, a.key ≠ secretKey d t id) :
    Sent tools more d t start frags p' where
  count := by rw [sent.count, outgoing]
  numbered := sent.numbered
  types := sent.types
  sealedBy e there id key later := by
    rcases logged e there with old | other
    · exact sent.sealedBy e old id key later
    · exact absurd key (other id)
  composed := by
    rw [same]
    exact sent.composed

/-- The packets of one more command. -/
theorem Sent.grow {content : List UInt8} (sent : Sent tools log d t start frags p)
    (group : Group tools g content) (numbers : Consecutive (p.con.outgoing t) g)
    (types : ∀ q ∈ g, q.header.packetType = t)
    (outgoing : p'.con.outgoing t = p.con.outgoing t + g.length)
    (sealedBy : ∀ a ∈ more, ∃ id, a.key = secretKey d t id ∧ p.con.outgoing t ≤ id.number ∧
      ∃ q, g[id.number - p.con.outgoing t]? = some q ∧ a = sealing a.key q ∧
        q.header.mac = (tools.aead.ciphertext a).1)
    (commands : p'.sent t = p.sent t ++ [content]) :
    Sent tools (log ++ more) d t start (frags ++ g) p' where
  count := by
    rw [outgoing, ← sent.count, List.length_append, Nat.add_assoc]
  numbered n q found := by
    rw [List.getElem?_append] at found
    split at found
    next => exact sent.numbered n q found
    next later =>
      have own := numbers _ q found
      have order : p.con.outgoing t + (n - frags.length) = start + n := by
        have count := sent.count
        omega
      rwa [order] at own
  types := List.forall_mem_append.mpr ⟨sent.types, types⟩
  sealedBy e there id key later := by
    rcases List.mem_append.mp there with old | new
    · obtain ⟨q, found, rest⟩ := sent.sealedBy e old id key later
      exact ⟨q, getElem?_append_of_eq_some found g, rest⟩
    · obtain ⟨id', key', least, q, found, rest⟩ := sealedBy e new
      rw [key] at key'
      obtain ⟨-, -, rfl⟩ := secretKey_inj.mp key'
      have count := sent.count
      have index : id.number - start = frags.length + (id.number - p.con.outgoing t) := by omega
      refine ⟨q, ?_, rest⟩
      rw [index, List.getElem?_append_right (Nat.le_add_right _ _), Nat.add_sub_cancel_left]
      exact found
  composed := by
    rw [commands]
    exact .snoc sent.composed group

end Sender

section Receiver

variable {tools : Tools} {log : List PacketSealing} {d : Bool} {t : PacketType} {start : Nat}
  {frags g : List Packet} {p p' : Party} {con : Connection}

theorem Received.extend (received : Received tools t start frags p) (g : List Packet) :
    Received tools t start (frags ++ g) p where
  least := received.least
  most := by
    rw [List.length_append]
    exact received.most.trans (by omega)
  taken := by
    have inside : p.con.expected t - start ≤ frags.length := by
      have most := received.most
      omega
    rw [List.take_append_of_le_length inside]
    exact received.taken
  queued q there := by
    obtain ⟨n, after, near, found⟩ := received.queued q there
    exact ⟨n, after, near, getElem?_append_of_eq_some found g⟩
  waiting := received.waiting
  drained := received.drained

theorem Received.untroubled (received : Received tools t start frags p)
    (same : Untroubled t p.con p'.con) (drained : p'.drained t = p.drained t) :
    Received tools t start frags p' := by
  have state := same.state
  simp only [PacketCodec.commandState, CommandState.mk.injEq] at state
  obtain ⟨next, queue, fragments⟩ := state
  have expected : p'.con.expected t = p.con.expected t := by
    simp only [Connection.expected, next]
  constructor
  · rw [expected]
    exact received.least
  · rw [expected]
    exact received.most
  · rw [expected, fragments, same.delivered]
    exact received.taken
  · rw [queue, expected, drained]
    exact received.queued
  · rw [queue, next]
    exact received.waiting
  · rw [expected, drained]
    exact received.drained

/-- An empty receive queue is noted. -/
theorem Received.note (received : Received tools t start frags p) :
    Received tools t start frags p.note where
  least := received.least
  most := received.most
  taken := received.taken
  queued q there := by
    have filled : p.con.codec.receiveQueue t ≠ [] := List.ne_nil_of_mem there
    have same : p.note.drained t = p.drained t := by
      simp [Party.note, filled]
    rw [same]
    exact received.queued q there
  waiting := received.waiting
  drained := by
    simp only [Party.note]
    split
    · exact ⟨received.least, le_rfl⟩
    · exact received.drained

/-- What a datagram opens to is the packet with its number. -/
theorem Sent.opened (sent : Sent tools log d t start frags p) {id : PartialPacketId}
    (later : start ≤ id.number) {packet : Packet} {text : List UInt8}
    (opened : decryptKeyNonce tools.aead log (secretKey d t id) packet = some text) :
    frags[id.number - start]? = some { packet with content := text } := by
  obtain ⟨logged, cipher⟩ := decryptKeyNonce_eq_some_iff.mp opened
  obtain ⟨q, found, same, mac⟩ := sent.sealedBy _ logged id rfl later
  injection same with _ _ metas texts
  obtain ⟨ids, clients, flags, types⟩ := Header.getMeta_inj metas
  rw [Aead.ciphertext, cipher] at mac
  have whole : q = { packet with content := text } := by
    obtain ⟨⟨mac', id', client', flags', type'⟩, content'⟩ := q
    obtain ⟨⟨mac'', id'', client'', flags'', type''⟩, content''⟩ := packet
    simp only at ids clients flags types texts mac
    subst ids clients flags types texts mac
    rfl
  rw [found, whole]

/-- The packet with the number that is expected, and those that follow it in the queue. -/
theorem Received.advance (received : Received tools t start frags p) {m : Nat}
    {r : CommandState × List Packet}
    (advanced : Advanced tools frags start (p.con.expected t - start) m
      (p.con.codec.commandState t) [] r)
    (waits : ∀ q ∈ r.1.queue, q.header.packetId ≠ r.1.next.packetId)
    (state : con.codec.commandState t = r.1)
    (delivered : con.delivered t = p.con.delivered t ++ r.2.map Packet.content) :
    Received tools t start frags { p with con } := by
  have least := received.least
  obtain ⟨next, queue, fragments⟩ := CommandState.mk.injEq .. ▸ state
  have expected : con.expected t = p.con.expected t + m := by
    have number := advanced.next
    rw [← next] at number
    rw [Connection.expected, number]
    omega
  constructor
  · change start ≤ con.expected t
    omega
  · change con.expected t ≤ start + frags.length
    have inside := advanced.inside
    omega
  · change ∃ outs, assemble tools (none, []) (frags.take (con.expected t - start)) =
      .ok (con.codec.fragmentedQueue t, outs) ∧ outs.map Packet.content = con.delivered t
    obtain ⟨outs, before, contents⟩ := received.taken
    have whole : con.expected t - start = (p.con.expected t - start) + m := by omega
    refine ⟨outs ++ r.2, ?_, ?_⟩
    · rw [whole, List.take_add, fragments]
      apply assemble_append_eq_ok_iff.mpr
      refine ⟨_, before, ?_⟩
      apply assemble_eq_ok_iff.mpr
      exact ⟨_, advanced.assembled, rfl⟩
    · rw [List.map_append, contents, delivered]
  · intro q there
    change q ∈ con.codec.receiveQueue t at there
    rw [queue] at there
    obtain ⟨n, after, near, found⟩ := received.queued q (advanced.kept q there)
    refine ⟨n, after, ?_, found⟩
    change start + n < con.expected t + 200
    omega
  · rw [← queue, ← next] at waits
    exact waits
  · change start ≤ p.drained t ∧ p.drained t ≤ con.expected t
    have drained := received.drained
    omega

/-- An early packet waits in the queue. -/
theorem Received.enqueue (received : Received tools t start frags p) {n : Nat} {q : Packet}
    (found : frags[n]? = some q) (early : p.con.expected t < start + n)
    (near : start + n < p.con.expected t + 200)
    (differs : q.header.packetId ≠ (p.con.codec.incomingPIds t).packetId)
    (state : con.codec.commandState t = { p.con.codec.commandState t with
      queue := (p.con.codec.commandState t).queue ++ [q] })
    (delivered : con.delivered t = p.con.delivered t) :
    Received tools t start frags { p with con } := by
  have drained := received.drained
  obtain ⟨next, queue, fragments⟩ := CommandState.mk.injEq .. ▸ state
  have expected : con.expected t = p.con.expected t := by
    simp only [Connection.expected, next]
    rfl
  constructor
  · change start ≤ con.expected t
    rw [expected]
    exact received.least
  · change con.expected t ≤ start + frags.length
    rw [expected]
    exact received.most
  · change ∃ outs, assemble tools (none, []) (frags.take (con.expected t - start)) =
      .ok (con.codec.fragmentedQueue t, outs) ∧ outs.map Packet.content = con.delivered t
    rw [expected, fragments, delivered]
    exact received.taken
  · intro q' queued
    change q' ∈ con.codec.receiveQueue t at queued
    change ∃ n, p.drained t < start + n ∧ start + n < con.expected t + 200 ∧ frags[n]? = some q'
    rw [queue, List.mem_append] at queued
    rw [expected]
    rcases queued with old | new
    · exact received.queued q' old
    · rw [List.mem_singleton.mp new]
      exact ⟨n, by omega, near, found⟩
  · intro q' queued
    change q' ∈ con.codec.receiveQueue t at queued
    change q'.header.packetId ≠ (con.codec.incomingPIds t).packetId
    rw [next]
    rw [queue, List.mem_append] at queued
    rcases queued with old | new
    · exact received.waiting q' old
    · rw [List.mem_singleton.mp new]
      exact differs
  · change start ≤ p.drained t ∧ p.drained t ≤ con.expected t
    omega

/-- A packet with its number is the next one, or it is early. -/
theorem Received.outcome (received : Received tools t start frags p)
    (numbered : Consecutive start frags) (room : start + frags.length < 2 ^ 48)
    (near : p.con.expected t + 200 ≤ p.drained t + 2 ^ 16) {n : Nat} {q : Packet}
    (found : frags[n]? = some q)
    (number : start + n =
      p.con.expected t + ahead (p.con.codec.incomingPIds t) q.header.packetId)
    {r : CommandState × List Packet}
    (done : handleCommandState tools (p.con.codec.commandState t) q = .ok r) :
    (start + n = p.con.expected t ∧
      ∃ m, Advanced tools frags start (p.con.expected t - start) m (p.con.codec.commandState t) []
        r ∧ ∀ q ∈ r.1.queue, q.header.packetId ≠ r.1.next.packetId) ∨
    (p.con.expected t < start + n ∧ start + n < p.con.expected t + 200 ∧
      q.header.packetId ≠ (p.con.codec.incomingPIds t).packetId ∧
      r = ({ p.con.codec.commandState t with
        queue := (p.con.codec.commandState t).queue ++ [q] }, [])) := by
  have least := received.least
  have drained := received.drained
  rcases handleCommandState_cases done with ⟨same, inOrder⟩ | ⟨differs, early, rfl⟩
  · have zero : ahead (p.con.codec.incomingPIds t) q.header.packetId = 0 :=
      ahead_eq_zero_iff.mpr same
    have next : (p.con.codec.commandState t).next.number =
        start + (p.con.expected t - start) := by
      rw [Nat.add_sub_of_le least]
      rfl
    have index : n = p.con.expected t - start := by omega
    rw [index] at found
    obtain ⟨m, advanced⟩ := handleInOrder_advances numbered room
      (p.drained t - start) (p.con.expected t - start + 200) (by omega)
      (fun q queued => by
        obtain ⟨n, after, before, found⟩ := received.queued q queued
        exact ⟨n, by omega, by omega, found⟩) ⟨by omega, by omega⟩ next found inOrder
    exact .inl ⟨by omega, m, advanced, handleInOrder_waits le_rfl same inOrder⟩
  · have positive : ahead (p.con.codec.incomingPIds t) q.header.packetId ≠ 0 :=
      fun zero => differs (ahead_eq_zero_iff.mp zero)
    have early' : ahead (p.con.codec.incomingPIds t) q.header.packetId < 200 := early
    exact .inr ⟨by omega, by omega, Ne.symm differs, rfl⟩

theorem Sent.room (sent : Sent tools log d t start frags p) : start + frags.length < 2 ^ 48 := by
  rw [sent.count]
  exact PartialPacketId.number_lt _

theorem Received.handled (received : Received tools t start frags p)
    (sent : Sent tools log d t start frags p') (own : d = !p.con.isClient)
    (near : p.con.expected t + 200 ≤ p.drained t + 2 ^ 16) {data : List UInt8} {acked : Bool}
    (handled : Handled tools log p.con data t con acked) :
    Received tools t start frags { p with con } := by
  cases handled with
  | untroubled same => exact received.untroubled same rfl
  | command packet read type close id part number text opened r done state delivered =>
    have least := received.least
    rw [← own] at opened
    have there := sent.opened (by omega) opened
    rcases received.outcome sent.numbered sent.room near there
      (by simp only; omega) done with ⟨-, m, advanced, waits⟩ | ⟨early, soon, differs, rfl⟩
    · exact received.advance advanced waits state delivered
    · apply received.enqueue there early soon differs state
      rw [delivered, List.map_nil, List.append_nil]

end Receiver

/-- The state after a handshake: both sides agree on the numbers, and nothing is on its way. -/
structure Fresh (s : Link) : Prop extends PacketKeys.Established s where
  numbers : ∀ side t, t.isCommand = true →
    (s.party side).con.expected t = (s.party side.other).con.outgoing t
  handshake : ∀ side, 2 ≤ (s.party side).con.outgoing .command
  waiting : ∀ side t, t.isCommand = true → (s.party side).con.codec.receiveQueue t = [] ∧
    (s.party side).con.codec.fragmentedQueue t = none
  drained : ∀ side t, t.isCommand = true →
    (s.party side).drained t = (s.party side).con.expected t
  sent : ∀ side t, t.isCommand = true → (s.party side).sent t = []
  delivered : ∀ side t, t.isCommand = true → (s.party side).con.delivered t = []

/-- Commands are sent without the flags that `compress_and_split` sets, and the receive queue of a
side that receives was empty less than a generation ago. -/
def Orderly (s : Link) : Link.Action → Prop
  | .send _ packet _ _ =>
    packet.header.flags.compressed = false ∧ packet.header.flags.fragmented = false
  | .receive side _ => ∀ t, t.isCommand = true →
    (s.party side).con.expected t + 2 ^ 16 ≤ lastNumber ∧
      (s.party side).con.expected t + 200 ≤ (s.party side).drained t + 2 ^ 16
  | _ => True

instance decidableOrderly (s : Link) : DecidablePred (Orderly s)
  | .send .. => inferInstanceAs (Decidable (_ ∧ _))
  | .receive .. => inferInstanceAs (Decidable (∀ _, _ → _ ∧ _))
  | .poll .. => inferInstanceAs (Decidable True)
  | .forge _ => inferInstanceAs (Decidable True)

/-- What holds of both sides in every state of a run. -/
structure Flowing (s : Link) : Prop where
  keys : PacketKeys.Established s
  typed : ∀ side, (s.party side).con.Typed
  handshake : ∀ side, 2 ≤ (s.party side).con.outgoing .command

/-- The commands of a type on their way to a side. -/
structure Channel (tools : Tools) (s : Link) (receiver : Side) (t : PacketType) (start : Nat)
    (frags : List Packet) : Prop where
  sent : Sent tools s.log (receiver.other == .client) t start frags (s.party receiver.other)
  received : Received tools t start frags (s.party receiver)

section Steps

variable {tools : Tools} {s s' : Link} {side receiver : Side} {t : PacketType} {start : Nat}
  {frags : List Packet}

theorem Fresh.flowing (fresh : Fresh s) : Flowing s where
  keys := fresh.toEstablished
  typed side t command := by
    obtain ⟨queue, fragments⟩ := fresh.waiting side t command
    constructor
    · intro q there
      change q ∈ (s.party side).con.codec.receiveQueue t at there
      rw [queue] at there
      cases there
    · intro q there
      change (s.party side).con.codec.fragmentedQueue t = some q at there
      rw [fragments] at there
      cases there
  handshake := fresh.handshake

theorem Fresh.channel (fresh : Fresh s) (command : t.isCommand = true) :
    Channel tools s receiver t ((s.party receiver).con.expected t) [] := by
  obtain ⟨queue, fragments⟩ := fresh.waiting receiver t command
  have drained := fresh.drained receiver t command
  constructor
  · constructor
    · rw [List.length_nil, Nat.add_zero]
      exact fresh.numbers receiver t command
    · intro n q found
      cases found
    · intro q there
      cases there
    · intro e there id key later
      have small := fresh.below e there receiver.other t id key
      rw [fresh.numbers receiver t command] at later
      omega
    · rw [fresh.sent receiver.other t command]
      exact .nil
  · constructor
    · exact le_rfl
    · exact Nat.le_add_right _ _
    · refine ⟨[], ?_, ?_⟩
      · rw [List.take_nil, fragments]
        rfl
      · rw [fresh.delivered receiver t command]
        rfl
    · intro q there
      rw [queue] at there
      cases there
    · intro q there
      rw [queue] at there
      cases there
    · omega

theorem Side.eq_or_other (side side' : Side) : side' = side ∨ side' = side.other := by
  cases side <;> cases side' <;> simp [Side.other]

/-- A step of one side leaves the other side alone. -/
theorem Flowing.update (inv : Flowing s) (keys : PacketKeys.Established s')
    (others : s'.party side.other = s.party side.other)
    (typed : (s'.party side).con.Typed) (handshake : 2 ≤ (s'.party side).con.outgoing .command) :
    Flowing s' := by
  refine ⟨keys, fun side' => ?_, fun side' => ?_⟩
  · rcases Side.eq_or_other side side' with rfl | rfl
    · exact typed
    · rw [others]
      exact inv.typed _
  · rcases Side.eq_or_other side side' with rfl | rfl
    · exact handshake
    · rw [others]
      exact inv.handshake _

/-- What a step of one side does to the channels in both directions. -/
structure Moves (tools : Tools) (s s' : Link) (side : Side) (t : PacketType) : Prop where
  others : s'.party side.other = s.party side.other
  out : ∀ start frags, Sent tools s.log (side == .client) t start frags (s.party side) →
    ∃ g, Sent tools s'.log (side == .client) t start (frags ++ g) (s'.party side)
  into : ∀ start frags,
    Sent tools s.log (side.other == .client) t start frags (s.party side.other) →
      Received tools t start frags (s.party side) → Received tools t start frags (s'.party side)
  logged : ∀ a ∈ s'.log, a ∈ s.log ∨ ∀ id, a.key ≠ secretKey (side.other == .client) t id

theorem Moves.channel (moves : Moves tools s s' side t)
    (channel : Channel tools s receiver t start frags) :
    ∃ g, Channel tools s' receiver t start (frags ++ g) := by
  obtain ⟨sent, received⟩ := channel
  rcases Side.eq_or_other side receiver with rfl | rfl
  · refine ⟨[], ?_, ?_⟩
    · rw [moves.others, List.append_nil]
      exact sent.quiet rfl rfl moves.logged
    · rw [List.append_nil]
      exact moves.into start frags sent received
  · rw [Side.other_other] at sent
    obtain ⟨g, more⟩ := moves.out start frags sent
    refine ⟨g, ?_, ?_⟩
    · rw [Side.other_other]
      exact more
    · rw [moves.others]
      exact received.extend g

theorem other_ne (side : Side) : (side.other == .client) ≠ (side == .client) := by
  cases side <;> decide

theorem other_eq_not (side : Side) : (side.other == .client) = !(side == .client) := by
  cases side <;> rfl

/-- The state after a step of one side. -/
structure After (tools : Tools) (s s' : Link) (side : Side) : Prop where
  flowing : Flowing s'
  moves : ∀ t, t.isCommand = true → Moves tools s s' side t

theorem after_send
    (faithful : ∀ d out, tools.decompress (tools.compress d) = some out → out = d)
    (inv : Flowing s) (keys : PacketKeys.Established s') {packet : Packet} {e : Encoded}
    (way : packet.direction = (s.party side).con.dir.reverse)
    (clean : packet.header.flags.compressed = false ∧ packet.header.flags.fragmented = false)
    (fits : (s.party side).con.outgoing packet.header.packetType +
      (plainPackets tools (s.party side).con packet).length ≤ lastNumber)
    (encoded : e = encodePacket tools (s.party side).con packet) {resender : Resender}
    (own : s'.party side = { s.party side with
      con := { e.con with resender }
      sent := Function.update (s.party side).sent packet.header.packetType
        ((s.party side).sent packet.header.packetType ++ [packet.content]) })
    (others : s'.party side.other = s.party side.other) (log : s'.log = s.log ++ e.sealed) :
    After tools s s' side := by
  have takes : Takes (s.party side).con e := by
    rw [encoded]
    exact takes_encodePacket tools (inv.keys.sound side) way fits
  have client := inv.keys.isClient side
  have untroubled : ∀ t, Untroubled t (s.party side).con (s'.party side).con := by
    intro t
    rw [own]
    have only := takes.sentOnly.untroubled t
    exact ⟨only.state, only.delivered⟩
  have outgoing : ∀ t, (s'.party side).con.outgoing t = e.con.outgoing t := by
    intro t
    rw [own]
    rfl
  constructor
  · apply inv.update keys others
    · exact (inv.typed side).of_untroubled fun t command => untroubled t
    · rw [outgoing]
      exact (inv.handshake side).trans (takes.grows _)
  intro t command
  refine ⟨others, fun start frags sent => ?_, fun start frags sent received => ?_, fun a there => ?_⟩
  · by_cases same : t = packet.header.packetType
    · subst same
      obtain ⟨g, group, numbers, types, counted, sealedBy⟩ := encodes_command faithful command
        (fun _ => inv.handshake side) clean way fits
        (encodes tools (inv.keys.sound side) (packetType_ne_init command) way fits)
      rw [← encoded] at counted sealedBy
      rw [client] at sealedBy
      refine ⟨g, ?_⟩
      rw [log]
      apply sent.grow group numbers types _ sealedBy
      · rw [own]
        exact Function.update_self _ _ _
      · rw [outgoing, counted]
    · refine ⟨[], ?_⟩
      have quiet : e.con.outgoing t = (s.party side).con.outgoing t := by
        by_cases init : packet.header.packetType = .init
        · rw [encoded]
          exact (encodePacket_init tools (inv.keys.sound side) init).2.2.1 t
        · rw [encoded, (encodes tools (inv.keys.sound side) init way fits).outgoing, if_neg same]
      rw [List.append_nil, log]
      apply sent.quiet
      · rw [outgoing, quiet]
      · rw [own]
        exact Function.update_of_ne same _ _
      · intro a there
        exact (List.mem_append.mp there).imp_right fun new => takes.others (.inr quiet) a new
  · apply received.untroubled (untroubled t)
    rw [own]
  · rw [log] at there
    refine (List.mem_append.mp there).imp_right fun new => ?_
    exact takes.others (.inl (client ▸ other_ne side)) a new

theorem after_receive (inv : Flowing s) (keys : PacketKeys.Established s')
    (room : ∀ t, (s.party side).con.outgoing t < lastNumber) {data : List UInt8}
    (orderly : Orderly s (.receive side data)) {e : Encoded}
    (handled : handleUdpPacket tools s.log (s.party side).con data = .ok e)
    {acks : List AckFlight}
    (own : s'.party side = Party.note { s.party side with con := e.con, acks })
    (others : s'.party side.other = s.party side.other) (log : s'.log = s.log ++ e.sealed) :
    After tools s s' side := by
  have sound := inv.keys.sound side
  have client := inv.keys.isClient side
  obtain ⟨mid, acked, receives, typed, kinds, answers, -⟩ := handleUdpPacket_command
    (inv.typed side) sound (fun t command => (orderly t command).1) handled
  have takes : Takes mid e := answers.takes receives sound room
  have outgoing : ∀ t, t.isCommand = true →
      e.con.outgoing t = (s.party side).con.outgoing t :=
    fun t command => answers.outgoing receives sound room command
  have before : ∀ t, mid.outgoing t = (s.party side).con.outgoing t := by
    intro t
    simp only [Connection.outgoing, receives.outgoingPIds]
  have way : mid.isClient = (side == .client) := receives.isClient.trans client
  have con : (s'.party side).con = e.con := by
    rw [own]
    rfl
  constructor
  · apply inv.update keys others
    · rw [con]
      exact typed.of_untroubled fun t command => takes.sentOnly.untroubled t
    · rw [con, outgoing _ rfl]
      exact inv.handshake side
  intro t command
  refine ⟨others, fun start frags sent => ⟨[], ?_⟩, fun start frags sent received => ?_,
    fun a there => ?_⟩
  · rw [List.append_nil, log]
    apply sent.quiet
    · rw [con, outgoing t command]
    · rw [own]
      rfl
    · intro a there
      refine (List.mem_append.mp there).imp_right fun new => ?_
      exact takes.others (.inr ((outgoing t command).trans (before t).symm)) a new
  · have opened := received.handled sent (client ▸ other_eq_not side) (orderly t command).2
      (kinds t command)
    rw [own]
    apply Received.note
    exact opened.untroubled (takes.sentOnly.untroubled t) rfl
  · rw [log] at there
    refine (List.mem_append.mp there).imp_right fun new => ?_
    exact takes.others (.inl (way ▸ other_ne side)) a new

/-- Steps that neither encrypt nor open anything. -/
theorem after_idle (inv : Flowing s) (keys : PacketKeys.Established s') {p : Party}
    (own : s'.party side = p) (others : s'.party side.other = s.party side.other)
    (log : s'.log = s.log) (codec : p.con.codec = (s.party side).con.codec)
    (items : p.con.streamItems = (s.party side).con.streamItems)
    (sent : p.sent = (s.party side).sent) (drained : p.drained = (s.party side).drained) :
    After tools s s' side := by
  have untroubled : ∀ t, Untroubled t (s.party side).con p.con := by
    intro t
    exact ⟨by rw [codec], by simp only [Connection.delivered, items]⟩
  have numbers : ∀ t, p.con.outgoing t = (s.party side).con.outgoing t := by
    intro t
    simp only [Connection.outgoing, codec]
  constructor
  · apply inv.update keys others
    · rw [own]
      exact (inv.typed side).of_untroubled fun t command => untroubled t
    · rw [own, numbers]
      exact inv.handshake side
  intro t command
  refine ⟨others, fun start frags before => ⟨[], ?_⟩, fun start frags before received => ?_,
    fun a there => ?_⟩
  · rw [List.append_nil, log]
    apply before.quiet
    · rw [own, numbers]
    · rw [own, sent]
    · exact fun a there => .inl there
  · apply received.untroubled
    · rw [own]
      exact untroubled t
    · rw [own, drained]
  · rw [log] at there
    exact .inl there

/-- A forged packet has no key of a channel. -/
theorem Channel.forge (channel : Channel tools s receiver t start frags) {sealing : PacketSealing}
    (known : isSecret sealing.key = false) :
    Channel tools { s with log := s.log ++ [sealing] } receiver t start frags := by
  refine ⟨channel.sent.quiet rfl rfl fun a there => ?_, channel.received⟩
  refine (List.mem_append.mp there).imp_right fun new id key => ?_
  rw [List.mem_singleton.mp new] at key
  rw [key, isSecret_secretKey] at known
  cases known

/-- One step: both sides stay as they should, and the channels grow at their ends only. -/
theorem flowing_step {a : Link.Action}
    (faithful : ∀ d out, tools.decompress (tools.compress d) = some out → out = d)
    (inv : Flowing s) (room : PacketKeys.Room tools s a) (orderly : Orderly s a)
    (taken : Link.step tools s a = some s') :
    Flowing s' ∧ ∀ receiver t start frags, t.isCommand = true →
      Channel tools s receiver t start frags →
        ∃ g, Channel tools s' receiver t start (frags ++ g) := by
  have keys := PacketKeys.established_step inv.keys room taken
  have moved : ∀ side, After tools s s' side → Flowing s' ∧
      ∀ receiver t start frags, t.isCommand = true → Channel tools s receiver t start frags →
        ∃ g, Channel tools s' receiver t start (frags ++ g) :=
    fun side after => ⟨after.flowing,
      fun receiver t start frags command channel => (after.moves t command).channel channel⟩
  cases Link.step_cases taken with
  | send side packet now window way =>
    obtain ⟨own, others⟩ := Link.setParty_party s side
      { s.party side with
        con := (sendPacket tools (s.party side).con packet now window).con
        sent := Function.update (s.party side).sent packet.header.packetType
          ((s.party side).sent packet.header.packetType ++ [packet.content]) }
      (s.log ++ (sendPacket tools (s.party side).con packet now window).sealed)
    exact moved side (after_send faithful inv keys way orderly room rfl own others rfl)
  | receive side data encoded handled =>
    obtain ⟨own, others⟩ := Link.setParty_party s side
      (Party.note { s.party side with
        con := encoded.con
        acks := (s.party side).acks ++
          Link.ackFlights (s.party side).con data encoded.packets })
      (s.log ++ encoded.sealed)
    exact moved side (after_receive inv keys room orderly handled own others rfl)
  | poll side top env resender isTop polled =>
    obtain ⟨own, others⟩ := Link.setParty_party s side
      { s.party side with con := { (s.party side).con with resender } } s.log
    exact moved side (after_idle inv keys own others rfl rfl rfl rfl rfl)
  | die side a =>
    obtain ⟨own, others⟩ := Link.setParty_party s side { s.party side with alive := false } s.log
    exact moved side (after_idle inv keys own others rfl rfl rfl rfl rfl)
  | forge sealing known =>
    refine ⟨⟨keys, inv.typed, inv.handshake⟩, fun receiver t start frags _ channel => ⟨[], ?_⟩⟩
    rw [List.append_nil]
    exact channel.forge known

/-- The packets of a channel show what was sent and what was handed on. -/
theorem Channel.delivered (channel : Channel tools s receiver t start frags) :
    (s.party receiver).con.delivered t <+: (s.party receiver.other).sent t := by
  obtain ⟨outs, assembled, contents⟩ := channel.received.taken
  rw [← contents]
  exact channel.sent.composed.first (List.take_prefix _ frags) assembled

/-- Over every run from a fresh connection, against any network: the commands of a type that one
side has handed on are the first ones that the other side has sent. -/
theorem in_order {t : Link} {as : List Link.Action}
    (faithful : ∀ d out, tools.decompress (tools.compress d) = some out → out = d)
    (fresh : Fresh s)
    (run : Run (Link.step tools) (fun u a => PacketKeys.Room tools u a ∧ Orderly u a) s as t)
    (side : Side) {kind : PacketType} (command : kind.isCommand = true) :
    (t.party side).con.delivered kind <+: (t.party side.other).sent kind := by
  have inv := run.invariant
    (fun u => Flowing u ∧ ∃ start frags, Channel tools u side kind start frags)
    ⟨fresh.flowing, _, [], fresh.channel command⟩ fun u a v holds ok taken => by
      obtain ⟨flowing, start, frags, channel⟩ := holds
      obtain ⟨after, channels⟩ := flowing_step faithful flowing ok.1 ok.2 taken
      obtain ⟨g, more⟩ := channels side kind start frags command channel
      exact ⟨after, start, frags ++ g, more⟩
  obtain ⟨-, start, frags, channel⟩ := inv
  exact channel.delivered

end Steps

theorem fresh_newLink : Fresh PacketKeys.newLink where
  toEstablished := PacketKeys.established_newLink
  numbers side t command := by
    cases side <;> cases t <;> rfl
  handshake side := by
    cases side <;> decide
  waiting _ _ _ := ⟨rfl, rfl⟩
  drained side t command := by
    cases side <;> cases t <;> decide
  sent _ _ _ := rfl
  delivered _ _ _ := rfl

theorem run_exchange (test : Link → Bool)
    (passes : (exec (guarded (fun u a => decide (PacketKeys.Room PacketKeys.plainTools u a) &&
      decide (Orderly u a)) (Link.step PacketKeys.plainTools)) PacketKeys.newLink
      PacketKeys.exchange).any test = true) :
    ∃ t, Run (Link.step PacketKeys.plainTools)
      (fun u a => PacketKeys.Room PacketKeys.plainTools u a ∧ Orderly u a) PacketKeys.newLink
      PacketKeys.exchange t ∧ test t = true := by
  obtain ⟨t, checked, passed⟩ := reaches_of_guarded _ passes
  refine ⟨t, checked.weaken fun u a met => ?_, passed⟩
  obtain ⟨room, orderly⟩ := Bool.and_eq_true_iff.mp met
  exact ⟨of_decide_eq_true room, of_decide_eq_true orderly⟩

/-- Both commands of the client are handed on. -/
theorem in_order_exchange : ∃ t, Run (Link.step PacketKeys.plainTools)
      (fun u a => PacketKeys.Room PacketKeys.plainTools u a ∧ Orderly u a) PacketKeys.newLink
      PacketKeys.exchange t ∧
    (t.party .server).con.delivered .command = [[104, 105], [98, 121, 101]] ∧
    (t.party .server).con.delivered .command <+: (t.party .client).sent .command := by
  obtain ⟨t, run, delivered⟩ := run_exchange (fun t =>
    (t.party .server).con.delivered .command = [[104, 105], [98, 121, 101]]) (by decide +kernel)
  exact ⟨t, run, of_decide_eq_true delivered,
    in_order (fun d out same => (Option.some.inj same).symm) fresh_newLink run .server rfl⟩

end Nek0.Guarantees.Commands
