import Nek0.Library.Run
import Nek0.Source.LinkEffects

/-!
# No packet key is used twice

Over a whole connection, whatever the network does, no two packets are encrypted with the same
secret key and nonce, as long as no counter comes to the last generation.
-/

namespace Nek0.Guarantees.PacketKeys

open Nek0.Library
open Nek0.Source.Tsproto

/-- The state after a handshake, as far as the keys are concerned. -/
structure Established (s : Link) : Prop where
  isClient : ∀ side, (s.party side).con.isClient = (side == .client)
  sound : ∀ side, (s.party side).con.params.keyCache.Sound
  /-- What has been encrypted before has a smaller number. -/
  below : ∀ e ∈ s.log, ∀ side t id, e.key = secretKey (side == .client) t id →
    id.number < (s.party side).con.outgoing t
  distinct : (secretKeys s.log).Nodup

/-- The packets that a step sends have numbers before the last generation. -/
def Room (tools : Tools) (s : Link) : Link.Action → Prop
  | .send side packet _ _ =>
    (s.party side).con.outgoing packet.header.packetType +
      (plainPackets tools (s.party side).con packet).length ≤ lastNumber
  | .receive side _ => ∀ t, (s.party side).con.outgoing t < lastNumber
  | _ => True

instance decidableRoom (tools : Tools) (s : Link) : DecidablePred (Room tools s)
  | .send .. => inferInstanceAs (Decidable (_ ≤ _))
  | .receive .. => inferInstanceAs (Decidable (∀ _, _))
  | .poll .. => inferInstanceAs (Decidable True)
  | .forge _ => inferInstanceAs (Decidable True)

/-- What is encrypted at a step has new keys. -/
theorem Established.extend {s s' : Link} {side : Side} {mid : Connection} {e : Encoded}
    (inv : Established s) (receives : ReceivesOnly (s.party side).con mid) (takes : Takes mid e)
    (own : (s'.party side).con.isClient = e.con.isClient ∧
      (s'.party side).con.params.keyCache = e.con.params.keyCache ∧
      (s'.party side).con.codec.outgoingPIds = e.con.codec.outgoingPIds)
    (others : s'.party side.other = s.party side.other) (log : s'.log = s.log ++ e.sealed) :
    Established s' := by
  obtain ⟨client, cache, ids⟩ := own
  have isClient : mid.isClient = (side == .client) := receives.isClient.trans (inv.isClient side)
  have either : ∀ side', side' = side ∨ side' = side.other := by
    intro side'
    cases side <;> cases side' <;> simp [Side.other]
  have numbers : ∀ t, (s'.party side).con.outgoing t = e.con.outgoing t := by
    intro t
    simp only [Connection.outgoing, ids]
  have before : ∀ t, mid.outgoing t = (s.party side).con.outgoing t := by
    intro t
    simp only [Connection.outgoing, receives.outgoingPIds]
  refine ⟨fun side' => ?_, fun side' => ?_, fun a there side' t id keyed => ?_, ?_⟩
  · rcases either side' with rfl | rfl
    · rw [client, takes.sentOnly.isClient, isClient]
    · rw [others, inv.isClient]
  · rcases either side' with rfl | rfl
    · rw [cache]
      exact takes.sound
    · rw [others]
      exact inv.sound _
  · rw [log, List.mem_append] at there
    rcases there with old | new
    · have small := inv.below a old side' t id keyed
      rcases either side' with rfl | rfl
      · rw [numbers]
        have grown := takes.grows t
        rw [before] at grown
        omega
      · rwa [others]
    · have secret : isSecret a.key = true := by rw [keyed, isSecret_secretKey]
      obtain ⟨t', id', key, least, most⟩ := takes.keys a new secret
      rw [keyed, isClient] at key
      obtain ⟨sides, rfl, rfl⟩ := secretKey_inj.mp key
      have same : side' = side := by
        cases side <;> cases side' <;> first | rfl | cases sides
      rw [same, numbers]
      exact most
  · rw [log, secretKeys_append]
    apply List.nodup_append.mpr
    refine ⟨inv.distinct, takes.distinct, fun k old k' new same => ?_⟩
    subst same
    obtain ⟨a, oldThere, rfl⟩ := exists_of_mem_secretKeys old
    obtain ⟨b, newThere, keys⟩ := exists_of_mem_secretKeys new
    have secret : isSecret b.key = true := by
      rw [keys]
      exact (List.mem_filter.mp old).2
    obtain ⟨t, id, key, least, -⟩ := takes.keys b newThere secret
    rw [keys, isClient] at key
    have small := inv.below a oldThere side t id key
    rw [before] at least
    omega

/-- Steps that encrypt nothing leave the keys alone. -/
theorem Established.idle {s : Link} {side : Side} {p : Party} (inv : Established s)
    (receives : ReceivesOnly (s.party side).con p.con) : Established (s.setParty side p) := by
  have sound := receives.sound (inv.sound side)
  obtain ⟨own, others⟩ := Link.setParty_party s side p s.log
  have same : (s.setParty side p).party side = p := own
  apply inv.extend receives (takes_nothing sound) _ others
  · simp
  · rw [same]
    exact ⟨rfl, rfl, rfl⟩

/-- A forged packet has no secret key. -/
theorem Established.forge {s : Link} {sealing : PacketSealing} (inv : Established s)
    (known : isSecret sealing.key = false) :
    Established { s with log := s.log ++ [sealing] } where
  isClient := inv.isClient
  sound := inv.sound
  below a there side t id keyed := by
    rcases List.mem_append.mp there with old | new
    · exact inv.below a old side t id keyed
    · rw [List.mem_singleton.mp new] at keyed
      rw [keyed, isSecret_secretKey] at known
      cases known
  distinct := by
    have none : secretKeys [sealing] = [] := by simp [secretKeys, known]
    rw [secretKeys_append, none, List.append_nil]
    exact inv.distinct

theorem established_step {tools : Tools} {s s' : Link} {a : Link.Action} (inv : Established s)
    (room : Room tools s a) (taken : Link.step tools s a = some s') : Established s' := by
  cases Link.step_cases taken with
  | send side packet now window way =>
    have takes := takes_encodePacket tools (inv.sound side) way room
    obtain ⟨own, others⟩ := Link.setParty_party s side _ _
    apply inv.extend (.refl _) takes _ others rfl
    rw [own]
    exact ⟨rfl, rfl, rfl⟩
  | receive side data encoded handled =>
    obtain ⟨mid, receives, answers⟩ := handleUdpPacket_answers handled (inv.sound side)
    have takes : Takes mid encoded := answers.takes receives (inv.sound side) room
    obtain ⟨own, others⟩ := Link.setParty_party s side _ _
    apply inv.extend receives takes _ others rfl
    rw [own]
    exact ⟨rfl, rfl, rfl⟩
  | poll side top env resender isTop polled => exact inv.idle ⟨rfl, rfl, rfl, rfl, id⟩
  | die side a => exact inv.idle (.refl _)
  | forge sealing known => exact inv.forge known

/-- Over every run from an established connection, against any network, no secret key is used for
two packets. -/
theorem never_reused {tools : Tools} {s t : Link} {as : List Link.Action}
    (established : Established s) (run : Run (Link.step tools) (Room tools) s as t) :
    (secretKeys t.log).Nodup := by
  have inv := run.invariant Established established
    fun _ _ _ holds room taken => established_step holds room taken
  exact inv.distinct

/-- A cipher that shows its texts. -/
def plainCipher (_ : KeyNonce) (_ : Unit) (_ : List UInt8) (text : List UInt8) : Mac × List UInt8 :=
  (.zero, text)

theorem plainCipher_injective (key : KeyNonce) (nonce : Unit) (data : List UInt8) :
    Function.Injective (plainCipher key nonce data) := by
  intro a b same
  exact congrArg Prod.snd same

def plainTools : Tools where
  aead := ⟨plainCipher, plainCipher_injective⟩
  compress data := data
  decompress data := some data

/-- Both sides have sent two commands in the handshake. -/
def newConnection (isClient : Bool) : Connection where
  isClient
  params := ⟨7, false, .zero, fun _ _ => .default⟩
  codec := ⟨fun t => if t = .command then ⟨0, 2⟩ else ⟨0, 1⟩, fun _ => [], fun _ => none,
    fun t => if t = .command then ⟨0, 2⟩ else ⟨0, 1⟩⟩
  resender := .default
  streamItems := []

def newLink : Link where
  party side := ⟨newConnection (side == .client), true, fun _ => [],
    fun t => if t = .command then 2 else 1, []⟩
  log := []

theorem established_newLink : Established newLink where
  isClient _ := rfl
  sound _ := KeyCache.sound_default
  below _ there := absurd there List.not_mem_nil
  distinct := .nil

/-- Two commands of the client. -/
def greeting : Packet := (Packet.newWithDir .c2s .empty .command).extend [104, 105]

def farewell : Packet := (Packet.newWithDir .c2s .empty .command).extend [98, 121, 101]

/-- The datagrams that they are sent as, and the one that acknowledges the second. -/
def greetingData : List UInt8 := [0, 0, 0, 0, 0, 0, 0, 0, 0, 2, 0, 7, 0x22, 104, 105]

def farewellData : List UInt8 := [0, 0, 0, 0, 0, 0, 0, 0, 0, 3, 0, 7, 0x22, 98, 121, 101]

def farewellAck : List UInt8 := [0, 0, 0, 0, 0, 0, 0, 0, 0, 2, 6, 0, 3]

/-- The server takes both commands, and the client receives the ack for the second. -/
def exchange : List Link.Action :=
  [.send .client greeting 0 4, .receive .server greetingData, .send .client farewell 5 4,
    .receive .server farewellData, .receive .client farewellAck]

/-- The commands and the acks for them have four different keys. -/
theorem never_reused_exchange : ∃ t,
    Run (Link.step plainTools) (Room plainTools) newLink exchange t ∧
    (secretKeys t.log).length = 4 ∧ (secretKeys t.log).Nodup := by
  have computed : (exec (guarded (fun u a => decide (Room plainTools u a)) (Link.step plainTools))
      newLink exchange).any (fun t => (secretKeys t.log).length = 4) = true := by decide +kernel
  obtain ⟨t, checked, sealed⟩ := reaches_of_guarded _ computed
  have run : Run (Link.step plainTools) (Room plainTools) newLink exchange t :=
    checked.weaken fun u a met => of_decide_eq_true met
  exact ⟨t, run, of_decide_eq_true sealed, never_reused established_newLink run⟩

end Nek0.Guarantees.PacketKeys
