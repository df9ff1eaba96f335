import Nek0.Source.PacketLink

/-!
# What a step of the two connections changes

The keys that a step encrypts with, and one case for each kind of step.
-/

namespace Nek0.Source.Tsproto

open Nek0.Library

def isSecret : KeyNonce → Bool
  | .mixed (.digest ..) _ => true
  | _ => false

/-- The keys that only the two sides know, in the order of their use. -/
def secretKeys (log : List PacketSealing) : List KeyNonce := (log.map Sealing.key).filter isSecret

section Sealings

variable {tools : Tools} {con : Connection} {p : Packet} {e : Encoded}

@[simp] theorem isSecret_secretKey (d : Bool) (t : PacketType) (id : PartialPacketId) :
    isSecret (secretKey d t id) = true := rfl

theorem secretKeys_append (log log' : List PacketSealing) :
    secretKeys (log ++ log') = secretKeys log ++ secretKeys log' := by
  simp [secretKeys]

theorem exists_of_mem_secretKeys {log : List PacketSealing} {k : KeyNonce}
    (there : k ∈ secretKeys log) : ∃ e ∈ log, e.key = k := by
  simp only [secretKeys, List.mem_filter, List.mem_map] at there
  exact there.1

/-- The secret keys of numbered packets are those of their numbers. -/
theorem secretKeys_numbered (fake encrypt d : Bool) (t : PacketType)
    (l : List (PartialPacketId × Packet)) :
    secretKeys (l.filterMap (sealingFor fake encrypt d t)) =
      if !fake && encrypt then l.map fun n => secretKey d t n.1 else [] := by
  induction l with
  | nil => simp [secretKeys]
  | cons n l ih =>
    have cons : ∀ (a : PacketSealing) (rest : List PacketSealing), secretKeys (a :: rest) =
        if isSecret a.key then a.key :: secretKeys rest else secretKeys rest := by
      intro a rest
      simp [secretKeys, List.filter_cons]
    rw [List.filterMap_cons]
    cases fake with
    | true =>
      have sealed : sealingFor true encrypt d t n = some (sealing .fake n.2) := rfl
      simp only [sealed, cons, sealing, isSecret, Bool.false_eq_true, if_false, ih]
      simp
    | false =>
      cases encrypt with
      | true =>
        have sealed : sealingFor false true d t n = some (sealing (secretKey d t n.1) n.2) := rfl
        simp only [sealed, cons, sealing, isSecret_secretKey, if_true, ih]
        simp
      | false =>
        have sealed : sealingFor false false d t n = none := rfl
        simp only [sealed, ih]
        rfl

/-- The keys that encoding a packet takes. -/
structure Takes (con : Connection) (e : Encoded) : Prop where
  sentOnly : SentOnly con e.con
  sound : e.con.params.keyCache.Sound
  grows : ∀ t, con.outgoing t ≤ e.con.outgoing t
  keys : ∀ a ∈ e.sealed, isSecret a.key = true → ∃ t id, a.key = secretKey con.isClient t id ∧
    con.outgoing t ≤ id.number ∧ id.number < e.con.outgoing t
  distinct : (secretKeys e.sealed).Nodup

theorem takes_of_encodes (encodes : Encodes tools con p e)
    (room : con.outgoing p.header.packetType + (plainPackets tools con p).length ≤ lastNumber) :
    Takes con e where
  sentOnly := encodes.sentOnly
  sound := encodes.sound
  grows t := by
    rw [encodes.outgoing t]
    split <;> omega
  keys a there secret := by
    rw [encodes.sealed, List.mem_filterMap] at there
    obtain ⟨n, numberedThere, sealed⟩ := there
    obtain ⟨k, q, -, number, inside, -⟩ := mem_numbered room numberedThere
    obtain ⟨key, keyed, rfl⟩ := Option.map_eq_some_iff.mp sealed
    simp only [keyFor] at keyed
    split_ifs at keyed
    · obtain rfl := Option.some.inj keyed
      simp [sealing, isSecret] at secret
    · obtain rfl := Option.some.inj keyed
      refine ⟨p.header.packetType, n.1, rfl, ?_, ?_⟩
      · rw [number]
        exact Nat.le_add_right _ _
      · rw [number, encodes.outgoing, if_pos rfl]
        exact Nat.add_lt_add_left inside _
  distinct := by
    rw [encodes.sealed, secretKeys_numbered]
    split
    · rw [List.Nodup, List.pairwise_map]
      apply (numbered_ascending room).imp
      intro a b before same
      rw [(secretKey_inj.mp same).2.2] at before
      exact absurd before (lt_irrefl _)
    · exact .nil

theorem takes_encodePacket (tools : Tools) (sound : con.params.keyCache.Sound)
    (own : p.direction = con.dir.reverse)
    (room : con.outgoing p.header.packetType + (plainPackets tools con p).length ≤ lastNumber) :
    Takes con (encodePacket tools con p) := by
  by_cases init : p.header.packetType = .init
  · obtain ⟨sentOnly, sound', outgoing, sealed⟩ := encodePacket_init tools sound init
    refine ⟨sentOnly, sound', fun t => (outgoing t).ge, fun a there => ?_, ?_⟩
    · rw [sealed] at there
      cases there
    · rw [sealed]
      exact .nil
  · exact takes_of_encodes (encodes tools sound init own room) room

theorem takes_nothing (sound : con.params.keyCache.Sound) : Takes con ⟨con, [], []⟩ :=
  ⟨.refl con, sound, fun _ => le_rfl, fun _ there => (List.not_mem_nil there).elim, .nil⟩

end Sealings

theorem outAck_not_command {ack : Packet} {con : Connection} {tools : Tools}
    (isAck : ack.header.packetType.isAck = true) : (plainPackets tools con ack).length = 1 := by
  have others : ack.header.packetType.isCommand = false ∧ ack.header.packetType.isVoice = false := by
    generalize ack.header.packetType = t at isAck
    cases t <;> first | exact ⟨rfl, rfl⟩ | cases isAck
  simp [plainPackets, others.1, others.2]

/-- The ack for a datagram takes the next number of its type. -/
theorem Answers.takes {tools : Tools} {con mid : Connection} {data : List UInt8} {e : Encoded}
    (answers : Answers tools con mid data e) (receives : ReceivesOnly con mid)
    (sound : con.params.keyCache.Sound) (room : ∀ t, con.outgoing t < lastNumber) :
    Takes mid e := by
  cases answers with
  | silent same =>
    rw [same]
    exact takes_nothing (receives.sound sound)
  | ack packet ack read made same =>
    obtain ⟨-, isAck, dir, -, -⟩ := outAck_new made
    have way : ack.direction = mid.dir.reverse := by
      rw [dir, Connection.dir, Connection.dir, receives.isClient]
    rw [same]
    apply takes_encodePacket tools (receives.sound sound) way
    have small := room ack.header.packetType
    rw [outAck_not_command isAck, Connection.outgoing, receives.outgoingPIds]
    exact small

/-- What is encrypted has no key of the other side, and none of a type that sends nothing. -/
theorem Takes.others {con : Connection} {e : Encoded} (takes : Takes con e) {d : Bool}
    {t : PacketType} (quiet : d ≠ con.isClient ∨ e.con.outgoing t = con.outgoing t) :
    ∀ a ∈ e.sealed, ∀ id, a.key ≠ secretKey d t id := by
  intro a there id key
  have secret : isSecret a.key = true := by rw [key, isSecret_secretKey]
  obtain ⟨t', id', key', least, most⟩ := takes.keys a there secret
  rw [key] at key'
  obtain ⟨sides, rfl, rfl⟩ := secretKey_inj.mp key'
  rcases quiet with differs | same
  · exact differs sides
  · omega

/-- Acks take no numbers of commands. -/
theorem Answers.outgoing {tools : Tools} {con mid : Connection} {data : List UInt8}
    {e : Encoded} (answers : Answers tools con mid data e) (receives : ReceivesOnly con mid)
    (sound : con.params.keyCache.Sound) (room : ∀ t, con.outgoing t < lastNumber)
    {t : PacketType} (command : t.isCommand = true) : e.con.outgoing t = con.outgoing t := by
  have before : ∀ t, mid.outgoing t = con.outgoing t := by
    intro t
    simp only [Connection.outgoing, receives.outgoingPIds]
  cases answers with
  | silent same =>
    rw [same]
    exact before t
  | ack packet ack read made same =>
    obtain ⟨-, isAck, dir, -, -⟩ := outAck_new made
    have way : ack.direction = mid.dir.reverse := by
      rw [dir, Connection.dir, Connection.dir, receives.isClient]
    have other : t ≠ ack.header.packetType := by
      intro type
      rw [← type] at isAck
      cases t <;> first | exact absurd isAck (by decide) | exact absurd command (by decide)
    have notInit : ack.header.packetType ≠ .init := by
      intro init
      rw [init] at isAck
      cases isAck
    have encoded := encodes tools (receives.sound sound) notInit way (by
      rw [outAck_not_command isAck, before]
      exact room _)
    rw [same, encoded.outgoing, if_neg other, before]

/-- The connection of a party in the state after a step. -/
theorem Link.setParty_party (s : Link) (side : Side) (p : Party) (log : List PacketSealing) :
    ({ s.setParty side p with log } : Link).party side = p ∧
      ({ s.setParty side p with log } : Link).party side.other = s.party side.other := by
  constructor
  · exact Function.update_self side p s.party
  · exact Function.update_of_ne (Side.other_ne side) p s.party

theorem Link.setParty_own (s : Link) (side : Side) (p : Party) :
    (s.setParty side p).party side = p := by
  simp only [setParty, Function.update_self]

/-- The kinds of steps. -/
inductive Stepped (tools : Tools) (s : Link) : Link.Action → Link → Prop
  | send (side : Side) (packet : Packet) (now window : Nat)
      (way : packet.direction = (s.party side).con.dir.reverse) :
      Stepped tools s (.send side packet now window)
        { s.setParty side
            { s.party side with
              con := (sendPacket tools (s.party side).con packet now window).con
              sent := Function.update (s.party side).sent packet.header.packetType
                ((s.party side).sent packet.header.packetType ++ [packet.content]) } with
          log := s.log ++ (sendPacket tools (s.party side).con packet now window).sealed }
  | receive (side : Side) (data : List UInt8) (encoded : Encoded)
      (handled : handleUdpPacket tools s.log (s.party side).con data = .ok encoded) :
      Stepped tools s (.receive side data)
        { s.setParty side (Party.note
            { s.party side with
              con := encoded.con
              acks := (s.party side).acks ++
                Link.ackFlights (s.party side).con data encoded.packets }) with
          log := s.log ++ encoded.sealed }
  | poll (side : Side) (top : SendRecordId) (env : Resender.PollEnv) (resender : Resender)
      (isTop : (s.party side).con.resender.IsTop top)
      (polled : (s.party side).con.resender.pollResend top env = some resender) :
      Stepped tools s (.poll side top env)
        (s.setParty side { s.party side with con := { (s.party side).con with resender } })
  | die (side : Side) (a : Link.Action) :
      Stepped tools s a (s.setParty side { s.party side with alive := false })
  | forge (sealing : PacketSealing) (known : isSecret sealing.key = false) :
      Stepped tools s (.forge sealing) { s with log := s.log ++ [sealing] }

theorem Link.step_cases {tools : Tools} {s s' : Link} {a : Link.Action}
    (taken : Link.step tools s a = some s') : Stepped tools s a s' := by
  cases a with
  | send side packet now window =>
    simp only [Link.step] at taken
    split_ifs at taken with enabled
    obtain rfl := Option.some.inj taken
    exact .send side packet now window enabled.2
  | receive side data =>
    simp only [Link.step] at taken
    split_ifs at taken with alive
    split at taken
    next =>
      obtain rfl := Option.some.inj taken
      exact .die side _
    next encoded done =>
      obtain rfl := Option.some.inj taken
      exact .receive side data encoded done
  | poll side top env =>
    simp only [Link.step] at taken
    split_ifs at taken with enabled
    split at taken
    next =>
      obtain rfl := Option.some.inj taken
      exact .die side _
    next resender polled =>
      obtain rfl := Option.some.inj taken
      exact .poll side top env resender enabled.2 polled
  | forge sealing =>
    simp only [Link.step] at taken
    split at taken
    next known =>
      obtain rfl := Option.some.inj taken
      apply Stepped.forge
      rw [known]
      rfl
    next known =>
      obtain rfl := Option.some.inj taken
      apply Stepped.forge
      rw [known]
      rfl
    next => cases taken

end Nek0.Source.Tsproto
