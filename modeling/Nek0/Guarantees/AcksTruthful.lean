import Nek0.Guarantees.CommandsInOrder
import Nek0.Source.AckEffects

/-!
# What is acknowledged has arrived

A side acknowledges a packet of a command when it takes it, when the packet is early and waits in
the receive queue, and again when it comes once more. So an ack names a packet that the side has
taken or that waits, on the conditions of `in_order`: a packet that has stayed in the receive queue
for a whole generation is taken in the place of another one, which is acknowledged when it comes. An
id that is behind the window of a counter that has not come so far stands for a number of the last
generation, and such acks are left out.
-/

namespace Nek0.Guarantees.AckTruth

open Nek0.Library
open Nek0.Source.Tsproto
open Nek0.Guarantees.Commands

/-- The packet with a number was taken, or it waits for those before it. -/
def Arrived (con : Connection) (t : PacketType) (start : Nat) (frags : List Packet) (n : Nat) :
    Prop :=
  n < con.expected t ∨ ∃ q ∈ con.codec.receiveQueue t, ∃ k, n = start + k ∧
    n < con.expected t + 200 ∧ frags[k]? = some q

/-- The acks of a side for the commands of a type name packets that have arrived. -/
def Truthful (p : Party) (t : PacketType) (start : Nat) (frags : List Packet) : Prop :=
  ∀ f ∈ p.acks, f.ackedType = t → f.acked < lastNumber → Arrived p.con t start frags f.acked

section Arrivals

variable {tools : Tools} {con con' : Connection} {t : PacketType} {start n : Nat}
  {frags : List Packet}

theorem Arrived.extend (arrived : Arrived con t start frags n) (g : List Packet) :
    Arrived con t start (frags ++ g) n := by
  rcases arrived with before | ⟨q, there, k, index, near, found⟩
  · exact .inl before
  · exact .inr ⟨q, there, k, index, near, getElem?_append_of_eq_some found g⟩

theorem Arrived.untroubled (arrived : Arrived con t start frags n)
    (same : Untroubled t con con') : Arrived con' t start frags n := by
  have state := same.state
  simp only [PacketCodec.commandState, CommandState.mk.injEq] at state
  obtain ⟨next, queue, -⟩ := state
  have expected : con'.expected t = con.expected t := by
    simp only [Connection.expected, next]
  rw [Arrived, expected, queue]
  exact arrived

/-- A packet that leaves the receive queue is taken. -/
theorem Arrived.advance (arrived : Arrived con t start frags n)
    (numbered : Consecutive start frags) (least : start ≤ con.expected t) {m : Nat}
    {r : CommandState × List Packet}
    (advanced : Advanced tools frags start (con.expected t - start) m (con.codec.commandState t) []
      r)
    (state : con'.codec.commandState t = r.1) : Arrived con' t start frags n := by
  obtain ⟨next, queue, fragments⟩ := CommandState.mk.injEq .. ▸ state
  have expected : con'.expected t = con.expected t + m := by
    have number := advanced.next
    rw [← next] at number
    rw [Connection.expected, number]
    omega
  rw [Arrived, expected, queue]
  rcases arrived with before | ⟨q, there, k, index, near, found⟩
  · exact .inl (by omega)
  · by_cases taken : n < con.expected t + m
    · exact .inl taken
    · rcases advanced.gone q there with kept | ⟨j, later, before, found'⟩
      · exact .inr ⟨q, kept, k, index, by omega, found⟩
      · -- The packet that left has the id of another number within less than a generation.
        have same : k = j := numbered.eq_of_id found
          (show con.expected t - start + 200 ≤ con.expected t - start + 2 ^ 16 by omega)
          ⟨by omega, by omega⟩ ⟨later, by omega⟩ (numbered j q found')
        omega

end Arrivals

section Steps

variable {tools : Tools} {s s' : Link} {side receiver : Side} {t : PacketType} {start : Nat}
  {frags : List Packet}

theorem Truthful.untroubled {p p' : Party} (truth : Truthful p t start frags)
    (same : Untroubled t p.con p'.con) (acks : p'.acks = p.acks) :
    Truthful p' t start frags := by
  intro f there type small
  rw [acks] at there
  exact (truth f there type small).untroubled same

/-- The acks that a datagram is answered with. -/
theorem answered {con mid : Connection} {data : List UInt8} {e : Encoded} {acked : Bool}
    (answers : Answers tools con mid data e) (receives : ReceivesOnly con mid)
    (sound : con.params.keyCache.Sound) (room : ∀ t, con.outgoing t < lastNumber)
    (silent : acked = false → e.packets = []) :
    ∀ f ∈ Link.ackFlights con data e.packets, acked = true ∧
      ∃ packet, InPacket.tryNew con.dir data = .ok packet ∧
        f.ackedType = packet.header.packetType ∧ f.acked = PartialPacketId.number
          ⟨(inReceiveWindow (con.codec.incomingPIds packet.header.packetType)
            packet.header.packetType packet.header.packetId).genId, packet.header.packetId⟩ := by
  intro f there
  rcases answers.flight receives sound room with ⟨none, -⟩ | ⟨packet, read, some', f', only, flight⟩
  · rw [none] at there
    cases there
  · rw [only, List.mem_singleton] at there
    subst there
    refine ⟨?_, packet, read, flight.acks, flight.acked⟩
    cases acked with
    | true => rfl
    | false => exact absurd (silent rfl) some'

theorem truthful_receive (inv : Flowing s) (command : t.isCommand = true)
    (room : ∀ t, (s.party side).con.outgoing t < lastNumber) {data : List UInt8}
    (orderly : Orderly s (.receive side data)) {e : Encoded}
    (handled : handleUdpPacket tools s.log (s.party side).con data = .ok e)
    (sent : Commands.Sent tools s.log (side.other == .client) t start frags (s.party side.other))
    (received : Received tools t start frags (s.party side))
    (truth : Truthful (s.party side) t start frags) :
    Truthful { s.party side with
      con := e.con
      acks := (s.party side).acks ++ Link.ackFlights (s.party side).con data e.packets }
      t start frags := by
  have sound := inv.keys.sound side
  have client := inv.keys.isClient side
  have other := packetType_ne_init command
  have least := received.least
  obtain ⟨mid, acked, receives, typed, kinds, answers, silent⟩ := handleUdpPacket_command
    (inv.typed side) sound (fun t command => (orderly t command).1) handled
  have takes : Takes mid e := answers.takes receives sound room
  have after : ∀ n, Arrived mid t start frags n → Arrived e.con t start frags n :=
    fun n arrived => arrived.untroubled (takes.sentOnly.untroubled t)
  have flights := answered answers receives sound room silent
  have bound := ahead_lt ((s.party side).con.codec.incomingPIds t)
  intro f there type small
  apply after
  cases kinds t command with
  | untroubled same outside =>
    rcases List.mem_append.mp there with old | new
    · exact (truth f old type small).untroubled same
    · obtain ⟨wasAcked, packet, read, acks, number⟩ := flights f new
      have own : packet.header.packetType = t := acks.symm.trans type
      rw [own] at number
      have earlier := number_of_not_inRecvWin other (outside wasAcked packet read own)
        (by rw [← number]; exact small)
      have behind : f.acked < (s.party side).con.expected t := by
        have before := bound packet.header.packetId
        rw [← number] at earlier
        simp only [Connection.expected]
        omega
      have arrived : Arrived (s.party side).con t start frags f.acked := .inl behind
      exact arrived.untroubled same
  | command packet read own near id part number text opened r done state delivered =>
    have sides : (side.other == .client) = !(s.party side).con.isClient :=
      client ▸ other_eq_not side
    rw [← sides] at opened
    have there' := sent.opened (by omega) opened
    -- The number in the ack is that of the packet that was opened.
    have acks : ∀ f ∈ Link.ackFlights (s.party side).con data e.packets, f.acked = id.number := by
      intro f new
      obtain ⟨-, packet', read', -, number'⟩ := flights f new
      obtain rfl := Except.ok.inj (read.symm.trans read')
      rw [own] at number'
      have inside : (inReceiveWindow ((s.party side).con.codec.incomingPIds t) t
          packet.header.packetId).inRecvWin = true := (inRecvWin_iff other).mpr near
      have limit := (orderly t command).1
      have space : ((s.party side).con.codec.incomingPIds t).number + 2 ^ 16 ≤ 2 ^ 48 := by
        simp only [Connection.expected, lastNumber] at limit
        omega
      rw [number', number_of_inRecvWin other inside space, number]
      rfl
    rcases received.outcome sent.numbered sent.room (orderly t command).2 there'
      (by simp only; omega) done with ⟨first, m, advanced, -⟩ | ⟨early, soon, -, rfl⟩
    · rcases List.mem_append.mp there with old | new
      · exact (truth f old type small).advance sent.numbered least advanced state
      · have next := advanced.next
        have positive := advanced.positive
        have expected : mid.expected t = (s.party side).con.expected t + m := by
          obtain ⟨next', -, -⟩ := CommandState.mk.injEq .. ▸ state
          rw [← next'] at next
          rw [Connection.expected, next]
          omega
        rw [acks f new]
        refine .inl ?_
        rw [expected]
        omega
    · obtain ⟨next, queue, -⟩ := CommandState.mk.injEq .. ▸ state
      have expected : mid.expected t = (s.party side).con.expected t := by
        simp only [Connection.expected, next]
        rfl
      rw [Arrived, expected, queue]
      rcases List.mem_append.mp there with old | new
      · rcases truth f old type small with before | ⟨q, queued, k, index, limit, found⟩
        · exact .inl before
        · exact .inr ⟨q, List.mem_append_left _ queued, k, index, limit, found⟩
      · rw [acks f new]
        exact .inr ⟨_, List.mem_append_right _ (List.mem_singleton.mpr rfl), id.number - start,
          by omega, by omega, there'⟩

theorem truthful_step (inv : Flowing s) (command : t.isCommand = true) {a : Link.Action}
    (room : PacketKeys.Room tools s a) (orderly : Orderly s a)
    (channel : Channel tools s receiver t start frags)
    (truth : Truthful (s.party receiver) t start frags)
    (taken : Link.step tools s a = some s') : Truthful (s'.party receiver) t start frags := by
  cases Link.step_cases taken with
  | send side packet now window way =>
    obtain ⟨own, others⟩ := Link.setParty_party s side
      { s.party side with
        con := (sendPacket tools (s.party side).con packet now window).con
        sent := Function.update (s.party side).sent packet.header.packetType
          ((s.party side).sent packet.header.packetType ++ [packet.content]) }
      (s.log ++ (sendPacket tools (s.party side).con packet now window).sealed)
    rcases Side.eq_or_other side receiver with rfl | rfl
    · rw [own]
      have only : SentOnly (s.party receiver).con
          (encodePacket tools (s.party receiver).con packet).con :=
        foldl_encodeOne_sentOnly _ ⟨(s.party receiver).con, [], []⟩
      have same := only.untroubled t
      exact truth.untroubled ⟨same.state, same.delivered⟩ rfl
    · rw [others]
      exact truth
  | receive side data encoded handled =>
    obtain ⟨own, others⟩ := Link.setParty_party s side
      (Party.note { s.party side with
        con := encoded.con
        acks := (s.party side).acks ++
          Link.ackFlights (s.party side).con data encoded.packets })
      (s.log ++ encoded.sealed)
    rcases Side.eq_or_other side receiver with rfl | rfl
    · rw [own]
      exact truthful_receive inv command room orderly handled channel.sent channel.received truth
    · rw [others]
      exact truth
  | poll side top env resender isTop polled =>
    obtain ⟨own, others⟩ := Link.setParty_party s side
      { s.party side with con := { (s.party side).con with resender } } s.log
    rcases Side.eq_or_other side receiver with rfl | rfl
    · rw [own]
      exact truth.untroubled ⟨rfl, rfl⟩ rfl
    · rw [others]
      exact truth
  | die side a =>
    obtain ⟨own, others⟩ := Link.setParty_party s side { s.party side with alive := false } s.log
    rcases Side.eq_or_other side receiver with rfl | rfl
    · rw [own]
      exact truth
    · rw [others]
      exact truth
  | forge sealing known => exact truth

/-- Over every run from a fresh connection, against any network: a packet of a command that a side
has acknowledged was taken in its order, or it waits in the receive queue. As for `in_order`, the
receive queue of a side that receives was empty less than a generation ago, and the counters have
room. -/
theorem acked_has_arrived {u : Link} {as : List Link.Action}
    (faithful : ∀ d out, tools.decompress (tools.compress d) = some out → out = d)
    (fresh : Fresh s) (silent : ∀ side, (s.party side).acks = [])
    (run : Run (Link.step tools) (fun v a => PacketKeys.Room tools v a ∧ Orderly v a) s as u)
    (side : Side) {f : AckFlight} (there : f ∈ (u.party side).acks)
    (command : f.ackedType.isCommand = true) (small : f.acked < lastNumber) :
    f.acked < (u.party side).con.expected f.ackedType ∨
      ∃ q ∈ (u.party side).con.codec.receiveQueue f.ackedType,
        q.header.packetId = (PartialPacketId.ofNumber f.acked).packetId := by
  have inv := run.invariant
    (fun v => Flowing v ∧ ∃ start frags, Channel tools v side f.ackedType start frags ∧
      Truthful (v.party side) f.ackedType start frags)
    ⟨fresh.flowing, _, [], fresh.channel command, fun f' listed => by
      rw [silent] at listed
      cases listed⟩ fun v a w holds ok taken => by
      obtain ⟨flowing, start, frags, channel, truth⟩ := holds
      obtain ⟨after, channels⟩ := flowing_step faithful flowing ok.1 ok.2 taken
      obtain ⟨g, more⟩ := channels side _ start frags command channel
      have still := truthful_step flowing command ok.1 ok.2 channel truth taken
      exact ⟨after, start, frags ++ g, more,
        fun f' listed type small => (still f' listed type small).extend g⟩
  obtain ⟨-, start, frags, channel, truth⟩ := inv
  refine (truth f there rfl small).imp_right fun waits => ?_
  obtain ⟨q, queued, k, index, -, found⟩ := waits
  refine ⟨q, queued, ?_⟩
  rw [index]
  exact channel.sent.numbered k q found

end Steps

/-- The server has acknowledged the farewell. -/
theorem acked_has_arrived_exchange : ∃ u, Run (Link.step PacketKeys.plainTools)
      (fun v a => PacketKeys.Room PacketKeys.plainTools v a ∧ Orderly v a) PacketKeys.newLink
      PacketKeys.exchange u ∧
    ∃ f ∈ (u.party .server).acks, f.ackedType = .command ∧ f.acked = 3 ∧
      (f.acked < (u.party .server).con.expected f.ackedType ∨
        ∃ q ∈ (u.party .server).con.codec.receiveQueue f.ackedType,
          q.header.packetId = (PartialPacketId.ofNumber f.acked).packetId) := by
  obtain ⟨u, run, listed⟩ := run_exchange
    (fun u => (u.party .server).acks.any fun f => f.ackedType = .command ∧ f.acked = 3)
    (by decide +kernel)
  obtain ⟨f, there, own⟩ := List.any_eq_true.mp listed
  obtain ⟨type, number⟩ := of_decide_eq_true own
  refine ⟨u, run, f, there, type, number, ?_⟩
  exact acked_has_arrived (fun d out same => (Option.some.inj same).symm) fresh_newLink
    (fun _ => rfl) run .server there (by rw [type]; rfl) (by rw [number]; decide)

end Nek0.Guarantees.AckTruth
