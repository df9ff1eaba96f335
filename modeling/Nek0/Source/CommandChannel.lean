import Nek0.Source.CommandFragments
import Nek0.Source.LinkEffects

/-!
# Commands on their way

What sending and receiving do to the commands of one type: the packets that a command is sent as,
and the packet that a datagram opens to, with its number.
-/

namespace Nek0.Source.Tsproto

open Nek0.Library

section Receive

variable {tools : Tools} {log : List PacketSealing} {con con' : Connection} {t : PacketType}
  {s : CommandState} {packet : Packet} {packets : List Packet} {r : CommandState × List Packet}

/-- The content of a packet if it has a type. -/
def contentOf (t : PacketType) (p : Packet) : Option (List UInt8) :=
  if p.header.packetType = t then some p.content else none

theorem filterMap_contentOf (own : ∀ p ∈ packets, p.header.packetType = t) :
    packets.filterMap (contentOf t) = packets.map Packet.content := by
  rw [← List.filterMap_eq_map]
  apply List.filterMap_congr
  intro p there
  simp [contentOf, own p there]

theorem filterMap_contentOf_of_ne {t' : PacketType} (other : t' ≠ t)
    (own : ∀ p ∈ packets, p.header.packetType = t') : packets.filterMap (contentOf t) = [] := by
  apply List.filterMap_eq_nil_iff.mpr
  intro p there
  simp [contentOf, own p there, other]

/-- The fields of a connection that the commands of a type depend on. -/
structure Untroubled (t : PacketType) (con con' : Connection) : Prop where
  state : con'.codec.commandState t = con.codec.commandState t
  delivered : con'.delivered t = con.delivered t

namespace Untroubled

theorem refl (t : PacketType) (con : Connection) : Untroubled t con con := ⟨rfl, rfl⟩

theorem trans {a b c : Connection} (first : Untroubled t a b) (second : Untroubled t b c) :
    Untroubled t a c :=
  ⟨second.state.trans first.state, second.delivered.trans first.delivered⟩

end Untroubled

theorem SentOnly.untroubled (only : SentOnly con con') (t : PacketType) : Untroubled t con con' where
  state := by
    simp only [PacketCodec.commandState, only.incomingPIds, only.receiveQueue, only.fragmentedQueue]
  delivered := by
    simp only [Connection.delivered, only.streamItems]

theorem Connection.push_untroubled (con : Connection) {item : StreamItem}
    (nothing : item.commandContent t = none) : Untroubled t con (con.push item) where
  state := rfl
  delivered := by simp [delivered, push, nothing]

theorem Connection.setKeyCache_untroubled (con : Connection) (cache : KeyCache) :
    Untroubled t con (con.setKeyCache cache) := ⟨rfl, rfl⟩

theorem Connection.ackPacket_untroubled (con : Connection) (pType : PacketType) (pId : UInt16) :
    Untroubled t con (con.ackPacket pType pId) where
  state := rfl
  delivered := by
    have none : ∀ o : Option PacketId,
        (o.map StreamItem.ackPacket).toList.filterMap (StreamItem.commandContent t) = [] := by
      intro o
      cases o <;> rfl
    simp only [delivered, ackPacket, List.filterMap_append, none, List.append_nil]

theorem Connection.receiveCommand_effect (con : Connection) (c : Packet) (t : PacketType) :
    (con.receiveCommand c).codec = con.codec ∧
      (con.receiveCommand c).delivered t = con.delivered t ++ (contentOf t c).toList := by
  have pushed : ∀ mid : Connection, mid.codec = con.codec → mid.delivered t = con.delivered t →
      (mid.push (.command c)).codec = con.codec ∧
        (mid.push (.command c)).delivered t = con.delivered t ++ (contentOf t c).toList := by
    intro mid codec same
    refine ⟨codec, ?_⟩
    rw [← same]
    simp only [delivered, push, List.filterMap_append, List.filterMap_cons, List.filterMap_nil,
      StreamItem.commandContent, contentOf]
    split_ifs <;> rfl
  simp only [receiveCommand]
  split_ifs
  · exact pushed _ rfl (con.ackPacket_untroubled _ _).delivered
  · exact pushed _ rfl (con.ackPacket_untroubled _ _).delivered
  · exact pushed _ rfl (con.ackPacket_untroubled _ _).delivered
  · exact pushed con rfl rfl

theorem foldl_receiveCommand_effect (cs : List Packet) (con : Connection) (t : PacketType) :
    (cs.foldl Connection.receiveCommand con).codec = con.codec ∧
      (cs.foldl Connection.receiveCommand con).delivered t =
        con.delivered t ++ cs.filterMap (contentOf t) := by
  induction cs generalizing con with
  | nil => simp
  | cons c cs ih =>
    obtain ⟨codec, delivered⟩ := con.receiveCommand_effect c t
    obtain ⟨codec', delivered'⟩ := ih (con.receiveCommand c)
    constructor
    · exact codec'.trans codec
    · rw [List.foldl_cons, delivered', delivered, List.filterMap_cons, List.append_assoc]
      cases contentOf t c <;> rfl

/-- The packets that are kept of a type have this type. -/
structure CommandState.Typed (t : PacketType) (s : CommandState) : Prop where
  queue : ∀ q ∈ s.queue, q.header.packetType = t
  fragments : ∀ q, s.fragments = some q → q.header.packetType = t

theorem reassemble_typed {fragments : Option Packet} {made : Option Packet × Option Packet}
    (waiting : ∀ q, fragments = some q → q.header.packetType = t)
    (own : packet.header.packetType = t) (done : reassemble tools fragments packet = .ok made) :
    (∀ q, made.1 = some q → q.header.packetType = t) ∧
      ∀ q ∈ made.2.toList, q.header.packetType = t := by
  have expanded : ∀ whole : Packet, whole.header.packetType = t →
      ∀ made : Option Packet × Option Packet,
        ((whole.decompress tools).map fun p => ((none : Option Packet), some p)) = .ok made →
        (∀ q, made.1 = some q → q.header.packetType = t) ∧
          ∀ q ∈ made.2.toList, q.header.packetType = t := by
    intro whole type made done
    simp only [Packet.decompress] at done
    split at done
    next => cases done
    next =>
      obtain rfl := Except.ok.inj done
      simp [type]
  simp only [reassemble] at done
  split at done
  · split at done
    next queue =>
      have type : (queue.extend packet.content).header.packetType = t := waiting queue rfl
      split at done
      · exact expanded _ type made done
      · obtain rfl := Except.ok.inj done
        simp [type]
    next =>
      obtain rfl := Except.ok.inj done
      simp [own]
  · split at done
    next queue =>
      have type : (queue.extend packet.content).header.packetType = t := waiting queue rfl
      split at done
      · obtain rfl := Except.ok.inj done
        simp [type]
      · cases done
    next =>
      split at done
      · exact expanded _ own made done
      · obtain rfl := Except.ok.inj done
        simp [own]

theorem handleInOrder_typed {fuel : Nat} (typed : s.Typed t) (own : packet.header.packetType = t)
    (before : ∀ q ∈ packets, q.header.packetType = t)
    (done : handleInOrder tools fuel s packet packets = .ok r) :
    r.1.Typed t ∧ ∀ q ∈ r.2, q.header.packetType = t := by
  induction fuel generalizing s packet packets with
  | zero =>
    rw [handleInOrder] at done
    split at done
    next => cases done
    next fragments complete one =>
      obtain ⟨kept, out⟩ := reassemble_typed typed.fragments own one
      obtain rfl := Except.ok.inj done
      exact ⟨⟨typed.queue, kept⟩, List.forall_mem_append.mpr ⟨before, out⟩⟩
  | succ fuel ih =>
    rw [handleInOrder] at done
    split at done
    next => cases done
    next fragments complete one =>
      obtain ⟨kept, out⟩ := reassemble_typed typed.fragments own one
      have after := List.forall_mem_append.mpr ⟨before, out⟩
      simp only at done
      split at done
      next fuel' p same found =>
        obtain rfl := Nat.succ.inj same
        have rest : ∀ q ∈ s.queue.eraseP fun p : Packet =>
            p.header.packetId == packet.header.packetId + 1, q.header.packetType = t :=
          fun q there => typed.queue q (List.mem_of_mem_eraseP there)
        generalize s.queue.eraseP (fun p : Packet =>
          p.header.packetId == packet.header.packetId + 1) = queue at rest done
        exact ih (s := ⟨s.next.add 1, queue, fragments⟩) ⟨rest, kept⟩
          (typed.queue p (List.mem_of_find?_eq_some found)) after done
      next =>
        obtain rfl := Except.ok.inj done
        exact ⟨⟨typed.queue, kept⟩, after⟩

/-- A command packet is in order, or it is at most 200 packets early. -/
theorem handleCommandState_cases (done : handleCommandState tools s packet = .ok r) :
    (s.next.packetId = packet.header.packetId ∧
      handleInOrder tools s.queue.length s packet [] = .ok r) ∨
    (s.next.packetId ≠ packet.header.packetId ∧ ahead s.next packet.header.packetId < 200 ∧
      r = ({ s with queue := s.queue ++ [packet] }, [])) := by
  have own := s.next.packetId.toNat_lt
  have id := packet.header.packetId.toNat_lt
  have literal : maxQueueLen.toNat = 200 := rfl
  simp only [handleCommandState] at done
  split_ifs at done with same inside
  · exact .inl ⟨same, done⟩
  · refine .inr ⟨same, ?_, (Except.ok.inj done).symm⟩
    simp only [Bool.or_eq_true, Bool.and_eq_true, Bool.not_eq_true', decide_eq_true_eq,
      decide_eq_false_iff_not, UInt16.le_iff_toNat_le, UInt16.lt_iff_toNat_lt, UInt16.toNat_add,
      literal] at inside
    simp only [ahead, UInt16.toNat_sub]
    omega

theorem handleCommandState_typed (typed : s.Typed t) (own : packet.header.packetType = t)
    (done : handleCommandState tools s packet = .ok r) :
    r.1.Typed t ∧ ∀ q ∈ r.2, q.header.packetType = t := by
  rcases handleCommandState_cases done with ⟨-, inOrder⟩ | ⟨-, -, rfl⟩
  · exact handleInOrder_typed typed own (fun q there => absurd there List.not_mem_nil) inOrder
  · refine ⟨⟨?_, typed.fragments⟩, fun q there => absurd there List.not_mem_nil⟩
    intro q there
    cases List.mem_append.mp there with
    | inl old => exact typed.queue q old
    | inr new => exact List.mem_singleton.mp new ▸ own

def Connection.Typed (con : Connection) : Prop :=
  ∀ t, t.isCommand = true → (con.codec.commandState t).Typed t

theorem Connection.Typed.of_untroubled (typed : con.Typed)
    (same : ∀ t, t.isCommand = true → Untroubled t con con') : con'.Typed := by
  intro t command
  rw [(same t command).state]
  exact typed t command

/-- The commands of a type after a datagram that may be acknowledged: nothing has happened to them,
or the datagram was opened with the key of the number that it stands for. -/
inductive Handled (tools : Tools) (log : List PacketSealing) (con : Connection)
    (data : List UInt8) (t : PacketType) (con' : Connection) (acked : Bool) : Prop
  | untroubled (same : Untroubled t con con')
      (outside : acked = true → ∀ packet, InPacket.tryNew con.dir data = .ok packet →
        packet.header.packetType = t →
          (inReceiveWindow (con.codec.incomingPIds t) t packet.header.packetId).inRecvWin = false)
  | command (packet : Packet) (read : InPacket.tryNew con.dir data = .ok packet)
      (own : packet.header.packetType = t)
      (near : ahead (con.codec.incomingPIds t) packet.header.packetId < 32767)
      (id : PartialPacketId) (part : id.packetId = packet.header.packetId)
      (number : id.number = con.expected t +
        ahead (con.codec.incomingPIds t) packet.header.packetId)
      (text : List UInt8)
      (opened : decryptKeyNonce tools.aead log (secretKey (!con.isClient) t id) packet = some text)
      (r : CommandState × List Packet)
      (handled : handleCommandState tools (con.codec.commandState t)
        { packet with content := text } = .ok r)
      (state : con'.codec.commandState t = r.1)
      (delivered : con'.delivered t = con.delivered t ++ r.2.map Packet.content)

/-- The command packets of a type that a packet completes. -/
theorem receivePacket_command {genId : UInt32} {done : Connection × Bool} (typed : con.Typed)
    (received : receivePacket tools con packet genId = .ok done) :
    done.1.Typed ∧ ∀ t, t.isCommand = true →
      Untroubled t con done.1 ∧ packet.header.packetType ≠ t ∨
      packet.header.packetType = t ∧ ∃ r,
        handleCommandState tools (con.codec.commandState t) packet = .ok r ∧
          done.1.codec.commandState t = r.1 ∧
          done.1.delivered t = con.delivered t ++ r.2.map Packet.content := by
  simp only [receivePacket] at received
  split at received
  next command =>
    cases handled : handleCommandPacket tools con.codec packet with
    | error e =>
      rw [handled] at received
      cases received
    | ok after =>
      rw [handled] at received
      obtain rfl := Except.ok.inj received
      simp only [handleCommandPacket] at handled
      cases state : handleCommandState tools (con.codec.commandState packet.header.packetType)
          packet with
      | error e =>
        rw [state] at handled
        cases handled
      | ok r =>
        rw [state] at handled
        obtain rfl := Except.ok.inj handled
        obtain ⟨kept, out⟩ := handleCommandState_typed (typed _ command) rfl state
        have effect := foldl_receiveCommand_effect r.2
          { con with codec := con.codec.setCommandState packet.header.packetType r.1 }
        have others : ∀ t, t ≠ packet.header.packetType → PacketCodec.commandState
            (con.codec.setCommandState packet.header.packetType r.1) t =
              con.codec.commandState t := by
          intro t other
          simp only [PacketCodec.commandState, PacketCodec.setCommandState,
            Function.update_of_ne other]
        have own : PacketCodec.commandState
            (con.codec.setCommandState packet.header.packetType r.1) packet.header.packetType =
              r.1 := by
          simp only [PacketCodec.commandState, PacketCodec.setCommandState, Function.update_self]
        constructor
        · intro t isCommand
          rw [(effect t).1]
          by_cases same : t = packet.header.packetType
          · rw [same, own]
            exact kept
          · rw [others t same]
            exact typed t isCommand
        · intro t isCommand
          by_cases same : t = packet.header.packetType
          · subst same
            refine .inr ⟨rfl, r, state, ?_, ?_⟩
            · rw [(effect packet.header.packetType).1, own]
            · rw [(effect packet.header.packetType).2, filterMap_contentOf out]
              rfl
          · refine .inl ⟨?_, Ne.symm same⟩
            constructor
            · rw [(effect t).1, others t same]
            · rw [(effect t).2, filterMap_contentOf_of_ne (Ne.symm same) out, List.append_nil]
              rfl
  next notCommand =>
    obtain rfl := Except.ok.inj received
    have untroubled : ∀ t, t.isCommand = true →
        Untroubled t con (receiveOther con packet genId) := by
      intro t isCommand
      have other : t ≠ packet.header.packetType := by
        intro same
        rw [same] at isCommand
        exact notCommand isCommand
      have ids : ∀ next : PartialPacketId, Untroubled t con { con with
          codec.incomingPIds :=
            Function.update con.codec.incomingPIds packet.header.packetType next } := by
        intro next
        refine ⟨?_, rfl⟩
        simp only [PacketCodec.commandState, Function.update_of_ne other]
      simp only [receiveOther]
      split
      · exact (ids _).trans (Connection.push_untroubled _ rfl)
      next acked _ =>
        have after : ∀ mid : Connection, Untroubled t con mid →
            Untroubled t con (if packet.header.packetType.isVoice then mid.push (.audio packet)
              else mid) := by
          intro mid before
          split
          · exact before.trans (mid.push_untroubled rfl)
          · exact before
        apply after
        cases acked with
        | none => exact ids _
        | some id => exact (ids _).trans (Connection.ackPacket_untroubled _ _ _)
    refine ⟨typed.of_untroubled untroubled, fun t isCommand => .inl ⟨untroubled t isCommand, ?_⟩⟩
    rintro rfl
    exact notCommand isCommand

theorem packetType_ne_init {t : PacketType} (command : t.isCommand = true) : t ≠ .init := by
  rintro rfl
  cases command

/-- Only the content is decrypted. -/
theorem decryptPacket_header {genId : UInt32} {p : Packet} {cache : KeyCache}
    (opened : decryptPacket tools log con packet genId = (.ok p, cache)) :
    p.header = packet.header := by
  simp only [decryptPacket] at opened
  split_ifs at opened
  · split at opened
    next =>
      injection opened with result
      rw [← Except.ok.inj result]
    next =>
      injection opened with result
      split at result
      next => rw [← Except.ok.inj result]
      next => cases result
  · injection opened with result
    split at result
    next => rw [← Except.ok.inj result]
    next => cases result

/-- Commands are opened with the real key only. -/
theorem decryptPacket_command {genId : UInt32} {text : Packet} {cache : KeyCache}
    (command : packet.header.packetType.isCommand = true)
    (opened : decryptPacket tools log con packet genId = (.ok text, cache)) :
    ∃ content, decryptKeyNonce tools.aead log (createKeyNonce packet.header.packetType
      packet.header.clientId packet.header.packetId genId con.params.keyCache).1 packet =
        some content ∧ text = { packet with content } := by
  have notAck : (packet.header.packetType == .ack && decide (packet.header.packetId ≤ 1) &&
      con.isClient) = false := by
    generalize packet.header.packetType = t at command
    cases t <;> first | rfl | cases command
  simp only [decryptPacket, notAck, Bool.false_eq_true, if_false] at opened
  injection opened with result
  split at result
  next content found => exact ⟨content, found, (Except.ok.inj result).symm⟩
  next => cases result

/-- The direction of a packet that was read. -/
theorem isSome_clientId_of_tryNew {data : List UInt8}
    (read : InPacket.tryNew con.dir data = .ok packet) :
    packet.header.clientId.isSome = !con.isClient := by
  have dir := (InPacket.bytes_of_tryNew read).1
  rw [Connection.dir] at dir
  cases side : con.isClient with
  | true =>
    apply Bool.eq_false_iff.mpr
    intro some
    rw [Packet.isSome_clientId_iff.mp some, side] at dir
    cases dir
  | false =>
    apply Packet.isSome_clientId_iff.mpr
    rw [dir, side]
    rfl

theorem handlePacket_typed {done : Connection × Bool} (typed : con.Typed)
    (received : handlePacket tools log con packet = .ok done) : done.1.Typed := by
  simp only [handlePacket] at received
  split_ifs at received with init client near encrypted ack must
  · obtain rfl := Except.ok.inj received
    exact typed.of_untroubled fun t _ => con.push_untroubled rfl
  · obtain rfl := Except.ok.inj received
    exact typed.of_untroubled fun t _ => con.push_untroubled rfl
  · obtain rfl := Except.ok.inj received
    exact typed
  · have set : ∀ cache, (con.setKeyCache cache).Typed :=
      fun cache => typed.of_untroubled fun t _ => con.setKeyCache_untroubled cache
    split at received
    next e cache _ =>
      obtain rfl := Except.ok.inj received
      exact (set cache).of_untroubled fun t _ => Connection.push_untroubled _ rfl
    next p cache _ => exact (receivePacket_command (set cache) received).1
  · obtain rfl := Except.ok.inj received
    exact typed.of_untroubled fun t _ => con.push_untroubled rfl
  · exact (receivePacket_command typed received).1
  · obtain rfl := Except.ok.inj received
    exact typed.of_untroubled fun t _ => con.push_untroubled rfl

theorem handlePacket_command {data : List UInt8} {done : Connection × Bool} (typed : con.Typed)
    (sound : con.params.keyCache.Sound)
    (room : ∀ t, t.isCommand = true → con.expected t + 2 ^ 16 ≤ lastNumber)
    (read : InPacket.tryNew con.dir data = .ok packet)
    (received : handlePacket tools log con packet = .ok done) (command : t.isCommand = true) :
    Handled tools log con data t done.1 done.2 := by
  have idle : Untroubled t con done.1 → done.2 = false →
      Handled tools log con data t done.1 done.2 := by
    intro same silent
    refine .untroubled same fun acked => ?_
    rw [silent] at acked
    cases acked
  simp only [handlePacket] at received
  split_ifs at received with init client near encrypted ack must
  · obtain rfl := Except.ok.inj received
    exact idle (con.push_untroubled rfl) rfl
  · obtain rfl := Except.ok.inj received
    exact idle (con.push_untroubled rfl) rfl
  · obtain rfl := Except.ok.inj received
    exact idle (.refl t con) rfl
  · split at received
    next e cache _ =>
      obtain rfl := Except.ok.inj received
      exact idle ((con.setKeyCache_untroubled cache).trans (Connection.push_untroubled _ rfl)) rfl
    next p cache opened =>
      have set : (con.setKeyCache cache).Typed :=
        typed.of_untroubled fun t command => con.setKeyCache_untroubled cache
      rcases (receivePacket_command set received).2 t command with
        ⟨same, other⟩ | ⟨own, r, handled, state, delivered⟩
      · refine .untroubled ((con.setKeyCache_untroubled cache).trans same)
          fun _ packet' read' type => ?_
        obtain rfl := Except.ok.inj (read.symm.trans read')
        rw [decryptPacket_header opened] at other
        exact absurd type other
      · have isCommand : packet.header.packetType.isCommand = true := by
          by_contra other
          rw [← decryptPacket_header opened, own] at other
          exact other command
        obtain ⟨content, open_, rfl⟩ := decryptPacket_command isCommand opened
        have type : packet.header.packetType = t := own
        have notInit := packetType_ne_init isCommand
        have inside : (inReceiveWindow (con.codec.incomingPIds packet.header.packetType)
            packet.header.packetType packet.header.packetId).inRecvWin = true := by
          have ranged : ignoresRange packet.header.packetType = false := by
            generalize packet.header.packetType = t at isCommand
            cases t <;> first | rfl | cases isCommand
          simpa [ranged] using near
        have small : (con.codec.incomingPIds packet.header.packetType).number + 2 ^ 16 ≤ lastNumber :=
          room _ isCommand
        have number := number_of_inRecvWin notInit inside (by
          simp only [lastNumber] at small
          omega)
        have close := (inRecvWin_iff notInit).mp inside
        generalize (inReceiveWindow (con.codec.incomingPIds packet.header.packetType)
          packet.header.packetType packet.header.packetId).genId = genId at number open_
        have early : PartialPacketId.number ⟨genId, packet.header.packetId⟩ < lastNumber := by
          rw [number]
          omega
        have key : (createKeyNonce packet.header.packetType packet.header.clientId
            packet.header.packetId genId con.params.keyCache).1 =
              secretKey packet.header.clientId.isSome packet.header.packetType
                ⟨genId, packet.header.packetId⟩ := createKeyNonce_early sound early
        rw [key, isSome_clientId_of_tryNew read, type] at open_
        rw [type] at number close
        exact .command packet read type close ⟨genId, packet.header.packetId⟩ rfl number content open_ r
          handled state delivered
  · obtain rfl := Except.ok.inj received
    exact idle (con.push_untroubled rfl) rfl
  · rcases (receivePacket_command typed received).2 t command with ⟨same, other⟩ | ⟨own, -⟩
    · refine .untroubled same fun _ packet' read' type => ?_
      obtain rfl := Except.ok.inj (read.symm.trans read')
      exact absurd type other
    · rw [mustEncrypt, own] at must
      exact absurd command must
  · obtain rfl := Except.ok.inj received
    refine .untroubled (con.push_untroubled rfl) fun _ packet' read' type => ?_
    obtain rfl := Except.ok.inj (read.symm.trans read')
    subst type
    rw [Bool.or_eq_true, not_or] at near
    exact Bool.eq_false_iff.mpr near.2

theorem handleUdpPacket_command {data : List UInt8} {e : Encoded} (typed : con.Typed)
    (sound : con.params.keyCache.Sound)
    (room : ∀ t, t.isCommand = true → con.expected t + 2 ^ 16 ≤ lastNumber)
    (received : handleUdpPacket tools log con data = .ok e) :
    ∃ mid acked, ReceivesOnly con mid ∧ mid.Typed ∧
      (∀ t, t.isCommand = true → Handled tools log con data t mid acked) ∧
      Answers tools con mid data e ∧ (acked = false → e.packets = []) := by
  cases handleUdpPacket_cases received with
  | unread error read same =>
    have untroubled : ∀ t, t.isCommand = true →
        Untroubled t con (con.push (.error (.packetParse error))) :=
      fun t command => con.push_untroubled rfl
    refine ⟨_, false, con.push_receivesOnly _, typed.of_untroubled untroubled,
      fun t command => .untroubled (untroubled t command) fun acked => ?_, .silent same, fun _ => ?_⟩
    · cases acked
    · rw [same]
  | read packet read r handled same =>
    rw [same]
    refine ⟨r.1, r.2, handlePacket_receivesOnly handled sound, handlePacket_typed typed handled,
      fun t command => handlePacket_command typed sound room read handled command,
      answers_answer tools read r, fun silent => ?_⟩
    simp [answer, silent]

end Receive

section Send

variable {tools : Tools} {con : Connection} {p q : Packet} {ps : List Packet} {t : PacketType}
  {d : Bool} {id : PartialPacketId}

/-- A numbered packet as it comes out at the other side: with the mac of its ciphertext. -/
def arrives (tools : Tools) (d : Bool) (t : PacketType) (n : PartialPacketId × Packet) : Packet :=
  n.2.setMac (tools.aead.ciphertext (sealing (secretKey d t n.1) n.2)).1

/-- The packets from a number on, as they come out at the other side. -/
def arrivals (tools : Tools) (d : Bool) (t : PacketType) (id : PartialPacketId)
    (ps : List Packet) : List Packet :=
  (numbered id ps).map (arrives tools d t)

@[simp] theorem length_arrivals : (arrivals tools d t id ps).length = ps.length := by
  rw [arrivals, List.length_map, length_numbered]

theorem getElem?_arrivals (room : id.number + ps.length ≤ lastNumber) (k : Nat) :
    (arrivals tools d t id ps)[k]? = ps[k]?.map fun p => arrives tools d t
      (.ofNumber (id.number + k), p.withNumber (.ofNumber (id.number + k))) := by
  rw [arrivals, List.getElem?_map, getElem?_numbered room, Option.map_map]
  rfl

theorem face_arrivals (room : id.number + ps.length ≤ lastNumber) :
    (arrivals tools d t id ps).map face = ps.map face := by
  apply List.ext_getElem?
  intro k
  rw [List.getElem?_map, getElem?_arrivals room, List.getElem?_map, Option.map_map]
  congr 1
  funext p
  simp [arrives, face, Packet.setMac]

theorem consecutive_arrivals (room : id.number + ps.length ≤ lastNumber)
    (own : ∀ p ∈ ps, p.header.packetType ≠ .init) :
    Consecutive id.number (arrivals tools d t id ps) := by
  intro k q found
  rw [getElem?_arrivals room, Option.map_eq_some_iff] at found
  obtain ⟨p, there, rfl⟩ := found
  exact Packet.withNumber_packetId (own p (List.mem_of_getElem? there)) _

theorem packetType_arrivals (room : id.number + ps.length ≤ lastNumber)
    (own : ∀ p ∈ ps, p.header.packetType = t) :
    ∀ q ∈ arrivals tools d t id ps, q.header.packetType = t := by
  intro q there
  obtain ⟨n, numberedThere, rfl⟩ := List.mem_map.mp there
  obtain ⟨k, p, found, -, -, same⟩ := mem_numbered room numberedThere
  have type : (arrives tools d t n).header.packetType = n.2.header.packetType := rfl
  rw [type, same, Packet.withNumber_packetType]
  exact own p (List.mem_of_getElem? found)

/-- What is encrypted with the key of a number is the packet that arrives with that number. -/
theorem sealed_arrivals (room : id.number + ps.length ≤ lastNumber) {e : PacketSealing}
    (there : e ∈ (numbered id ps).filterMap (sealingFor false true d t)) :
    ∃ id', e.key = secretKey d t id' ∧ id.number ≤ id'.number ∧
      ∃ q, (arrivals tools d t id ps)[id'.number - id.number]? = some q ∧
        e = sealing e.key q ∧ q.header.mac = (tools.aead.ciphertext e).1 := by
  obtain ⟨n, numberedThere, sealed⟩ := List.mem_filterMap.mp there
  obtain ⟨k, p, found, number, inside, same⟩ := mem_numbered room numberedThere
  have made : e = sealing (secretKey d t n.1) n.2 := (Option.some.inj sealed).symm
  have index : n.1.number - id.number = k := by omega
  have own : PartialPacketId.ofNumber (id.number + k) = n.1 := by
    rw [← number, PartialPacketId.ofNumber_number]
  refine ⟨n.1, by rw [made]; rfl, by omega, arrives tools d t n, ?_, ?_, ?_⟩
  · rw [index, getElem?_arrivals room, found, Option.map_some, own, ← same]
  · rw [made]
    rfl
  · rw [made]
    rfl

/-- A packet with a number from 2 on is not encrypted with the key that is no secret. -/
theorem fakes_command (command : p.header.packetType.isCommand = true)
    (later : p.header.packetType = .command → 2 ≤ con.outgoing .command) :
    con.fakes p = false := by
  have notInit := packetType_ne_init command
  simp only [Connection.fakes, fakeEncrypts, Connection.nextPId, if_neg notInit]
  cases kind : p.header.packetType with
  | command =>
    have least := later kind
    simp only [Connection.outgoing, PartialPacketId.number] at least
    rw [Bool.eq_false_iff]
    intro fake
    simp only [beq_self_eq_true, Bool.true_and, reduceCtorEq, beq_eq_false_iff_ne.mpr, ne_eq,
      not_false_eq_true, Bool.and_false, Bool.false_and, Bool.or_false, Bool.and_eq_true,
      Bool.or_eq_true, beq_iff_eq] at fake
    obtain ⟨generation, first | second⟩ := fake
    · rw [generation, first.2] at least
      simp at least
    · rw [generation, second.1.2] at least
      simp at least
  | commandLow => simp
  | _ =>
    rw [kind] at command
    cases command

theorem encrypts_command (command : p.header.packetType.isCommand = true) :
    con.encrypts p = true := by
  simp [Connection.encrypts, shouldEncrypt, mustEncrypt, command]

theorem prepare_flags :
    (prepare con p).header.flags.compressed = p.header.flags.compressed ∧
      (prepare con p).header.flags.fragmented = p.header.flags.fragmented := by
  simp only [prepare]
  split_ifs <;> exact ⟨rfl, rfl⟩

/-- What sending a command does: the packets that it is sent as follow those before. -/
theorem encodes_command
    (faithful : ∀ d out, tools.decompress (tools.compress d) = some out → out = d)
    (command : p.header.packetType.isCommand = true)
    (later : p.header.packetType = .command → 2 ≤ con.outgoing .command)
    (clean : p.header.flags.compressed = false ∧ p.header.flags.fragmented = false)
    (way : p.direction = con.dir.reverse)
    (room : con.outgoing p.header.packetType + (plainPackets tools con p).length ≤ lastNumber)
    {e : Encoded} (encodes : Encodes tools con p e) :
    ∃ g, Group tools g p.content ∧ Consecutive (con.outgoing p.header.packetType) g ∧
      (∀ q ∈ g, q.header.packetType = p.header.packetType) ∧
      e.con.outgoing p.header.packetType = con.outgoing p.header.packetType + g.length ∧
      ∀ a ∈ e.sealed, ∃ id, a.key = secretKey con.isClient p.header.packetType id ∧
        con.outgoing p.header.packetType ≤ id.number ∧
        ∃ q, g[id.number - con.outgoing p.header.packetType]? = some q ∧
          a = sealing a.key q ∧ q.header.mac = (tools.aead.ciphertext a).1 := by
  have types : ∀ q ∈ plainPackets tools con p, q.header.packetType = p.header.packetType :=
    fun q piece => (plainPackets_header way piece).1
  refine ⟨arrivals tools con.isClient p.header.packetType
    (con.codec.outgoingPIds p.header.packetType) (plainPackets tools con p), ?_, ?_, ?_, ?_, ?_⟩
  · have content : (prepare con p).content = p.content := prepare_content
    rw [← content]
    have split : plainPackets tools con p =
        compressAndSplit tools con.isClient (prepare con p) := by
      simp [plainPackets, command]
    apply group_compressAndSplit faithful con.isClient
    · rw [prepare_flags.1, prepare_flags.2]
      exact clean
    · rw [face_arrivals room, split]
  · apply consecutive_arrivals room
    intro q piece
    rw [types q piece]
    exact packetType_ne_init command
  · exact packetType_arrivals room types
  · rw [encodes.outgoing, if_pos rfl, length_arrivals]
  · intro a there
    rw [encodes.sealed, fakes_command command later, encrypts_command command] at there
    exact sealed_arrivals room there

end Send

end Nek0.Source.Tsproto
