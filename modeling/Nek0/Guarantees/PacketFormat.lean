import Nek0.Source.Packets

/-!
# The format of packets

What the parser accepts is what a sender can write: `InPacket::try_new` reads a datagram as a packet
exactly if `OutPacket::new_with_dir` and its setters make these bytes, and the fields that it reads
are the ones that were set last.
-/

namespace Nek0.Guarantees.PacketFormat

open Nek0.Source.Tsproto

/-- The calls that write a packet, after it has been made with its flags and its type. -/
def writesOf (p : Packet) : List Write :=
  [.mac p.header.mac, .packetId p.header.packetId] ++ p.header.clientId.toList.map .clientId ++
    [.content p.content]

theorem foldlM_writesOf (p : Packet) :
    (writesOf p).foldlM Packet.write
      (.newWithDir p.direction p.header.flags p.header.packetType) = some p := by
  obtain ⟨⟨mac, packetId, clientId, flags, packetType⟩, content⟩ := p
  cases clientId with
  | none => rfl
  | some clientId => rfl

/-- The fields that are left by the writes are the fields that the parser reads from the bytes. -/
theorem tryNew_of_writes {dir : Nek0.Source.Tsproto.Direction} {data : List UInt8} {f : Flags}
    {t : PacketType} {ws : List Write} {p : Packet}
    (fields : ws.foldlM Packet.write (.newWithDir dir f t) = some p)
    (bytes : ws.foldlM OutPacket.write (.newWithDir dir f t) = some ⟨dir, data⟩) :
    InPacket.tryNew dir data = .ok p := by
  rw [Packet.out_newWithDir, Packet.foldlM_out_write, fields] at bytes
  have same : p.out = ⟨dir, data⟩ := Option.some.inj bytes
  obtain ⟨direction, content⟩ := OutPacket.mk.inj same
  exact InPacket.tryNew_eq_ok_iff.mpr ⟨direction, content⟩

/-- Any order of any writes, also repeated ones, reads back, and nothing else is accepted. -/
theorem accepted_iff_written (dir : Nek0.Source.Tsproto.Direction) (data : List UInt8)
    (p : Packet) :
    InPacket.tryNew dir data = .ok p ↔ ∃ f t, ∃ ws : List Write,
      ws.foldlM OutPacket.write (.newWithDir dir f t) = some ⟨dir, data⟩ ∧
      ws.foldlM Packet.write (.newWithDir dir f t) = some p := by
  constructor
  · intro read
    obtain ⟨rfl, rfl⟩ := InPacket.bytes_of_tryNew read
    have fields := foldlM_writesOf p
    refine ⟨p.header.flags, p.header.packetType, writesOf p, ?_, fields⟩
    rw [Packet.out_newWithDir, Packet.foldlM_out_write, fields]
    rfl
  · intro written
    obtain ⟨f, t, ws, bytes, fields⟩ := written
    exact tryNew_of_writes fields bytes

end Nek0.Guarantees.PacketFormat
