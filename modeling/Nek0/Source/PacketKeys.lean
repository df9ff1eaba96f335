import Nek0.Library.Aead
import Nek0.Source.PacketNumbers

/-!
# Packet keys of the protocol library

`create_key_nonce`, `encrypt` and `decrypt` of `algorithms.rs`. A digest is not computed: the key
material that SHA-256 makes of the direction, the type, the generation and the shared initialization
vector of the connection stands for itself. The cipher is ideal.
-/

namespace Nek0.Source.Tsproto

open Nek0.Library

/-- The key and the nonce before the packet id is mixed into the key. -/
inductive KeyMaterial where
  /-- What a cache entry holds before its first use. -/
  | zero
  | digest (toServer : Bool) (pType : PacketType) (generationId : UInt32)
  deriving DecidableEq, Repr

/-- The key and the nonce of a packet. -/
inductive KeyNonce where
  /-- `FAKE_KEY` and `FAKE_NONCE`. -/
  | fake
  | mixed (material : KeyMaterial) (pId : UInt16)
  deriving DecidableEq, Repr

structure CachedKey where
  generationId : UInt32
  material : KeyMaterial
  deriving DecidableEq, Repr

def CachedKey.default : CachedKey := ⟨0xffffffff, .zero⟩

/-- `key_cache`: an entry for each type and direction. -/
abbrev KeyCache := PacketType → Bool → CachedKey

def KeyCache.set (cache : KeyCache) (pType : PacketType) (toServer : Bool) (entry : CachedKey) :
    KeyCache :=
  fun t d => if t = pType ∧ d = toServer then entry else cache t d

/-- The entry after `create_key_nonce` has looked for a generation. -/
def CachedKey.refresh (entry : CachedKey) (pType : PacketType) (toServer : Bool)
    (generationId : UInt32) : CachedKey :=
  if entry.generationId ≠ generationId then ⟨generationId, .digest toServer pType generationId⟩
  else entry

def createKeyNonce (pType : PacketType) (cId : Option UInt16) (pId : UInt16)
    (generationId : UInt32) (cache : KeyCache) : KeyNonce × KeyCache :=
  let entry := (cache pType cId.isSome).refresh pType cId.isSome generationId
  (.mixed entry.material pId, cache.set pType cId.isSome entry)

/-- Every entry is unused or holds the material of its generation. -/
def KeyCache.Sound (cache : KeyCache) : Prop :=
  ∀ t d, cache t d = .default ∨ (cache t d).material = .digest d t (cache t d).generationId

theorem KeyCache.sound_default : KeyCache.Sound fun _ _ => .default := by
  intro t d
  exact Or.inl rfl

theorem KeyCache.Sound.createKeyNonce {cache : KeyCache} (sound : cache.Sound) (t : PacketType)
    (cId : Option UInt16) (pId : UInt16) (g : UInt32) :
    KeyCache.Sound (Tsproto.createKeyNonce t cId pId g cache).2 := by
  intro t' d
  simp only [Tsproto.createKeyNonce, KeyCache.set]
  split
  next own =>
    obtain ⟨rfl, rfl⟩ := own
    simp only [CachedKey.refresh]
    split
    · exact Or.inr rfl
    · exact sound t' cId.isSome
  next => exact sound t' d

/-- The material that is used without a cache. -/
def plainMaterial (t : PacketType) (cId : Option UInt16) (g : UInt32) : KeyMaterial :=
  .digest cId.isSome t g

/-- The cache makes a difference for the last generation only. -/
theorem createKeyNonce_eq {cache : KeyCache} (sound : cache.Sound) {t : PacketType}
    {cId : Option UInt16} {pId : UInt16} {g : UInt32} (early : g ≠ 0xffffffff) :
    (createKeyNonce t cId pId g cache).1 = .mixed (plainMaterial t cId g) pId := by
  simp only [createKeyNonce, CachedKey.refresh, plainMaterial]
  split
  · rfl
  next cached =>
    have same : (cache t cId.isSome).generationId = g := not_not.mp cached
    cases sound t cId.isSome with
    | inl unused =>
      rw [unused] at same
      exact absurd same.symm early
    | inr used => rw [used, same]

/-- In the last generation an unused entry counts as filled, and its key is made of zeros. -/
theorem createKeyNonce_zero {cache : KeyCache} {t : PacketType} {cId : Option UInt16}
    {pId : UInt16} (unused : cache t cId.isSome = .default) :
    (createKeyNonce t cId pId 0xffffffff cache).1 = .mixed .zero pId := by
  simp [createKeyNonce, CachedKey.refresh, unused, CachedKey.default]

/-- The ciphertext comes with its mac. -/
abbrev PacketAead := Aead KeyNonce Unit (List UInt8) (List UInt8) (Mac × List UInt8)

abbrev PacketSealing := Sealing KeyNonce Unit (List UInt8) (List UInt8)

/-- What `encrypt_key_nonce` hands to the cipher. -/
def sealing (key : KeyNonce) (p : Packet) : PacketSealing := ⟨key, (), p.header.getMeta, p.content⟩

def encryptKeyNonce (aead : PacketAead) (key : KeyNonce) (p : Packet) : Packet :=
  let cipher := aead.ciphertext (sealing key p)
  { header := { p.header with mac := cipher.1 }, content := cipher.2 }

/-- The decrypted content. `log` holds what has been encrypted so far. -/
def decryptKeyNonce (aead : PacketAead) (log : List PacketSealing) (key : KeyNonce) (p : Packet) :
    Option (List UInt8) :=
  aead.decrypt log key () p.header.getMeta (p.header.mac, p.content)

theorem decryptKeyNonce_eq_some_iff {aead : PacketAead} {log : List PacketSealing} {key : KeyNonce}
    {p : Packet} {text : List UInt8} :
    decryptKeyNonce aead log key p = some text ↔
      ⟨key, (), p.header.getMeta, text⟩ ∈ log ∧
        aead.encrypt key () p.header.getMeta text = (p.header.mac, p.content) :=
  Aead.decrypt_eq_some_iff

/-- What the metadata of two headers tells about them. -/
theorem Header.getMeta_inj {h h' : Header} (same : h.getMeta = h'.getMeta) :
    h.packetId = h'.packetId ∧ h.clientId = h'.clientId ∧ h.flags = h'.flags ∧
      h.packetType = h'.packetType := by
  obtain ⟨mac, id, client, flags, packetType⟩ := h
  obtain ⟨mac', id', client', flags', packetType'⟩ := h'
  have dir : Header.direction ⟨mac, id, client, flags, packetType⟩ =
      Header.direction ⟨mac', id', client', flags', packetType'⟩ := by
    have lengths := congrArg List.length same
    cases client <;> cases client' <;> simp [getMeta] at lengths <;> rfl
  -- Under one mac the headers are the same bytes, and these are read in one way.
  have read := InPacket.tryNew_bytes ⟨⟨mac, id, client, flags, packetType⟩, []⟩
  have read' := InPacket.tryNew_bytes ⟨⟨mac, id', client', flags', packetType'⟩, []⟩
  have bytes : Packet.bytes ⟨⟨mac, id, client, flags, packetType⟩, []⟩ =
      Packet.bytes ⟨⟨mac, id', client', flags', packetType'⟩, []⟩ := by
    have metas : Header.getMeta ⟨mac, id, client, flags, packetType⟩ =
        Header.getMeta ⟨mac, id', client', flags', packetType'⟩ := same
    simp only [Packet.bytes, Header.bytes, metas]
  have dirs : Packet.direction ⟨⟨mac, id, client, flags, packetType⟩, []⟩ =
      Packet.direction ⟨⟨mac, id', client', flags', packetType'⟩, []⟩ := dir
  rw [bytes, dirs, read'] at read
  injection read with packets
  injection packets with headers
  injection headers with _ ids clients flagss types
  exact ⟨ids.symm, clients.symm, flagss.symm, types.symm⟩

end Nek0.Source.Tsproto
