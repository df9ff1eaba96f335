import Nek0.Guarantees.KeysNeverReused
import Nek0.Source.AckEffects

/-!
# No packet is forgotten by the send queue

Every packet that waits for an acknowledgement and is inside the window has a record in the send
queue, and the send queue is empty only if no packet waits, so `poll_resend` does not go to sleep
while something is left to send again.
-/

namespace Nek0.Guarantees.ResendQueue

open Nek0.Library
open Nek0.Source.Tsproto

/-- `get_window` returns at least 1. -/
def Windowed (_ : Link) : Link.Action → Prop
  | .send _ _ _ window => 0 < window
  | .poll _ _ env => 0 < env.window
  | _ => True

def AllConsistent (s : Link) : Prop := ∀ side, (s.party side).con.resender.Consistent

theorem AllConsistent.update {s s' : Link} {side : Side} (inv : AllConsistent s)
    (own : (s'.party side).con.resender.Consistent)
    (others : s'.party side.other = s.party side.other) : AllConsistent s' := by
  intro side'
  have either : side' = side ∨ side' = side.other := by
    cases side <;> cases side' <;> simp [Side.other]
  rcases either with rfl | rfl
  · exact own
  · rw [others]
    exact inv _

theorem consistent_sendPacket {tools : Tools} {con : Connection} {packet : Packet}
    (consistent : con.resender.Consistent) (now : Nat) {window : Nat} (positive : 0 < window) :
    (sendPacket tools con packet now window).con.resender.Consistent := by
  have encoded : (encodePacket tools con packet).con.resender = con.resender :=
    (foldl_encodeOne_sentOnly _ ⟨con, [], []⟩).resender
  have each : ∀ (ps : List OutUdpPacket) (r : Resender), r.Consistent →
      (ps.foldl (Resender.keep now window) r).Consistent := by
    intro ps
    induction ps with
    | nil => exact fun r holds => holds
    | cons p ps ih =>
      intro r holds
      apply ih
      rw [Resender.keep]
      split
      next kept => exact holds.sendPacket kept now positive
      next => exact holds
  apply each
  rw [encoded]
  exact consistent

theorem consistent_handleUdpPacket {tools : Tools} {log : List PacketSealing} {con : Connection}
    {data : List UInt8} {e : Encoded} (consistent : con.resender.Consistent)
    (done : handleUdpPacket tools log con data = .ok e) : e.con.resender.Consistent := by
  cases handleUdpPacket_cases done with
  | unread error read same =>
    rw [same]
    exact consistent
  | read packet read r handled same =>
    obtain ⟨acks, acknowledges, -⟩ := handlePacket_acknowledges handled
    rw [same, (answers_answer tools read r).sentOnly.resender, acknowledges.resender]
    exact consistent.ackAll _ acks

theorem consistent_step {tools : Tools} {s s' : Link} {a : Link.Action} (inv : AllConsistent s)
    (windowed : Windowed s a) (taken : Link.step tools s a = some s') : AllConsistent s' := by
  cases Link.step_cases taken with
  | send side packet now window way =>
    obtain ⟨own, others⟩ := Link.setParty_party s side _ _
    apply inv.update _ others
    rw [own]
    exact consistent_sendPacket (inv side) now windowed
  | receive side data encoded handled =>
    obtain ⟨own, others⟩ := Link.setParty_party s side _ _
    apply inv.update _ others
    rw [own]
    exact consistent_handleUdpPacket (inv side) handled
  | poll side top env resender isTop polled =>
    apply inv.update _ (Link.setParty_party s side _ s.log).2
    rw [Link.setParty_own]
    exact (inv side).pollResend windowed polled
  | die side a =>
    apply inv.update _ (Link.setParty_party s side _ s.log).2
    rw [Link.setParty_own]
    exact inv side
  | forge sealing known => exact inv

/-- Over every run, whatever the other side and the network do: a packet with an id below the index
of its type has a record in the send queue, and an empty send queue means that no packet waits. -/
theorem none_forgotten {tools : Tools} {s t : Link} {as : List Link.Action}
    (start : AllConsistent s) (run : Run (Link.step tools) Windowed s as t) (side : Side) :
    (∀ kind, ∀ e ∈ ((t.party side).con.resender.fullSendQueue kind).entries,
      e.1 < (t.party side).con.resender.sendQueueIndices kind →
        ∃ rid ∈ (t.party side).con.resender.sendQueue, rid.id = ⟨kind, e.1⟩) ∧
    ((t.party side).con.resender.sendQueue = [] →
      ∀ kind, ((t.party side).con.resender.fullSendQueue kind).entries = []) := by
  have inv := run.invariant AllConsistent start
    fun _ _ _ holds windowed taken => consistent_step holds windowed taken
  exact ⟨(inv side).indexed, (inv side).busy⟩

theorem consistent_newLink : AllConsistent PacketKeys.newLink := fun _ => Resender.consistent_default

/-- The greeting still waits, below the index, and has its record. -/
theorem none_forgotten_exchange : ∃ t, Run (Link.step PacketKeys.plainTools) Windowed
      PacketKeys.newLink PacketKeys.exchange t ∧
    ∃ e ∈ ((t.party .client).con.resender.fullSendQueue .command).entries,
      e.1 < (t.party .client).con.resender.sendQueueIndices .command ∧
      ∃ rid ∈ (t.party .client).con.resender.sendQueue, rid.id = ⟨.command, e.1⟩ := by
  have computed : (exec (Link.step PacketKeys.plainTools) PacketKeys.newLink
      PacketKeys.exchange).any (fun t =>
        ((t.party .client).con.resender.fullSendQueue .command).entries.any fun e =>
          e.1 < (t.party .client).con.resender.sendQueueIndices .command) = true := by
    decide +kernel
  have windowed : ∀ a ∈ PacketKeys.exchange, ∀ u, Windowed u a := by
    simp [PacketKeys.exchange, Windowed]
  obtain ⟨t, run, waits⟩ := reaches_of_exec Windowed windowed computed
  obtain ⟨e, there, below⟩ := List.any_eq_true.mp waits
  have below := of_decide_eq_true below
  exact ⟨t, run, e, there, below, (none_forgotten consistent_newLink run .client).1 _ e there below⟩

end Nek0.Guarantees.ResendQueue
