import Nek0.Library.Run
import Nek0.Source.IdentityBackup

/-!
# Identity backups

A backup that `encrypt` has made opens to its plaintext under its password, whatever is sealed
afterwards, and a blob that says anything else than a backup made under the password is refused.
-/

namespace Nek0.Guarantees

open Nek0.Library Nek0.Source.Utf16 Nek0.Source.KotlinText Nek0.Source.IdentityBackup

/-- `encrypt` takes the password. -/
def Accepted (password : Text) : Prop :=
  isBlank password = false ∧ password.length ≤ MAX_PASSWORD

/-- Key derivation without collisions, and ciphertexts with a tag behind the text. -/
structure IdealPlatform {Key : Type} (platform : Platform Key) : Prop where
  derived : ∀ password salt iterations password' salt' iterations',
    platform.pbkdf2 password salt iterations = platform.pbkdf2 password' salt' iterations' →
      password = password' ∧ salt = salt' ∧ iterations = iterations'
  tagged : ∀ sealing, (platform.gcm.ciphertext sealing).length =
    sealing.text.length + GCM_TAG_BYTES

/-- One of the calls made a backup under the password, and its blob says this. -/
def Produced {Key : Type} (platform : Platform Key) (calls : List Call) (password : Text)
    (envelope : Envelope) : Prop :=
  ∃ call ∈ calls, call.password = password ∧ ∃ sealing blob,
    platform.encrypt call = .ok (sealing, blob) ∧ platform.parse blob = .ok envelope

section Encoding

theorem mem_encode_ascii {bytes : List UInt8} :
    ∀ c ∈ Base64.encode bytes, c.toNat < 128 ∧ UInt16.ofNat c.toNat ≠ separator := by
  intro c listed
  have digits : ∀ d, (Base64.char d).toNat < 128 ∧
      UInt16.ofNat (Base64.char d).toNat ≠ separator := by decide +kernel
  obtain rfl | ⟨d, rfl⟩ := Base64.mem_encode listed
  · decide
  · exact digits d

/-- What is written in base64 is read back, and does not split the blob. -/
theorem decode_units (bytes : List UInt8) :
    Base64.decode (chars (units (Base64.encode bytes))) = some bytes ∧
      separator ∉ units (Base64.encode bytes) := by
  constructor
  · rw [chars_units fun c listed => (mem_encode_ascii c listed).1]
    exact Base64.decode_encode bytes
  · intro listed
    obtain ⟨c, own, same⟩ := List.mem_map.mp listed
    exact (mem_encode_ascii c own).2 same

end Encoding

section Calls

variable {Key : Type} {platform : Platform Key} {call : Call} {sealing : Sealed Key}
  {blob password : Text} {envelope : Envelope}

/-- The key specification of `encrypt` is a valid one. -/
theorem deriveKey_drawn (platform : Platform Key) (password : Text)
    (salt : Vector UInt8 SALT_BYTES) :
    platform.deriveKey password salt.toList ITERATIONS =
      .ok (platform.pbkdf2 password salt.toList 200000) := by
  have some : salt.toList ≠ [] := by
    intro none
    have length := congrArg List.length none
    rw [Vector.length_toList] at length
    exact absurd length (by decide)
  rw [Platform.deriveKey, if_neg some, if_neg (by decide)]
  rfl

/-- What an accepted call seals. -/
def sealingOf (platform : Platform Key) (call : Call) : Sealed Key :=
  ⟨platform.pbkdf2 call.password call.salt.toList 200000, call.nonce.toList, (),
    toByteArray call.plaintext⟩

/-- What the blob of an accepted call says. -/
def envelopeOf (platform : Platform Key) (call : Call) : Envelope :=
  ⟨ITERATIONS, call.salt.toList,
    call.nonce.toList ++ platform.gcm.ciphertext (sealingOf platform call)⟩

theorem encrypt_of_accepted (platform : Platform Key) (accepted : Accepted call.password) :
    platform.encrypt call = .ok (sealingOf platform call, [separator].intercalate [PREFIX,
      units (toString ITERATIONS).toList, units (Base64.encode (envelopeOf platform call).salt),
      units (Base64.encode (envelopeOf platform call).payload)]) := by
  obtain ⟨filled, short⟩ := accepted
  rw [Platform.encrypt, filled, if_neg Bool.false_ne_true, if_neg (by omega), deriveKey_drawn]
  rfl

theorem accepted_of_encrypt (made : platform.encrypt call = .ok (sealing, blob)) :
    Accepted call.password := by
  unfold Platform.encrypt at made
  split at made
  · cases made
  · split at made
    · cases made
    next filled short => exact ⟨Bool.eq_false_iff.mpr filled, by omega⟩

/-- The blob of a call says what the call has made. -/
theorem parse_encrypt (made : platform.encrypt call = .ok (sealing, blob)) :
    sealing = sealingOf platform call ∧ platform.parse blob = .ok (envelopeOf platform call) := by
  rw [encrypt_of_accepted platform (accepted_of_encrypt made)] at made
  obtain ⟨rfl, rfl⟩ := Prod.mk.inj (Except.ok.inj made)
  have salt := decode_units (envelopeOf platform call).salt
  have payload := decode_units (envelopeOf platform call).payload
  have plain : ∀ part ∈ [PREFIX, units (toString ITERATIONS).toList,
      units (Base64.encode (envelopeOf platform call).salt),
      units (Base64.encode (envelopeOf platform call).payload)], separator ∉ part := by
    have first : separator ∉ PREFIX := by decide
    have second : separator ∉ units (toString ITERATIONS).toList := by decide
    simp only [List.forall_mem_cons, first, second, salt.2, payload.2, not_false_eq_true,
      List.not_mem_nil, false_implies, implies_true, and_self]
  have number : platform.toIntOrNull (units (toString ITERATIONS).toList) = some ITERATIONS := by
    rfl
  refine ⟨rfl, ?_⟩
  rw [Platform.parse, List.splitOn_intercalate _ plain (List.cons_ne_nil _ _)]
  simp only [ne_eq, not_true_eq_false, if_false, number, salt.1, payload.1]
  rfl

/-- The keys do not collide, so what opens a payload is what the whole envelope says. -/
theorem envelope_eq_of_sealed (ideal : IdealPlatform platform) {plaintext : List UInt8}
    (sealed : ⟨platform.pbkdf2 password envelope.salt envelope.iterations.toNat,
      envelope.payload.take GCM_IV_BYTES, (), plaintext⟩ = sealingOf platform call)
    (same : platform.gcm.encrypt
      (platform.pbkdf2 password envelope.salt envelope.iterations.toNat)
      (envelope.payload.take GCM_IV_BYTES) () plaintext = envelope.payload.drop GCM_IV_BYTES) :
    call.password = password ∧ envelope = envelopeOf platform call := by
  obtain ⟨iterations, salt, payload⟩ := envelope
  have cipher : platform.gcm.ciphertext (sealingOf platform call) = payload.drop GCM_IV_BYTES := by
    rw [← sealed]
    exact same
  obtain ⟨key, nonce, -, -⟩ := Sealing.mk.inj sealed
  obtain ⟨password, salt, count⟩ := ideal.derived _ _ _ _ _ _ key
  have iterations : iterations = ITERATIONS := by
    have known : ITERATIONS = 200000 := rfl
    dsimp only at count
    omega
  subst iterations
  subst salt
  refine ⟨password.symm, ?_⟩
  rw [envelopeOf, cipher, ← nonce, List.take_append_drop]

variable [DecidableEq Key] {log : List (Sealed Key)} {text : String}

theorem exists_ok_of_bind {α β : Type} {result : Except BackupFailure α}
    {next : α → Except BackupFailure β} {value : β} (ok : (result >>= next) = .ok value) :
    ∃ a, result = .ok a ∧ next a = .ok value := by
  cases result with
  | error failure => cases ok
  | ok a => exact ⟨a, rfl, ok⟩

/-- What a successful `decrypt` has read and opened. -/
theorem decrypt_ok (opened : platform.decrypt log blob password = .ok text) :
    ∃ envelope plaintext, platform.parse blob = .ok envelope ∧
      ⟨platform.pbkdf2 password envelope.salt envelope.iterations.toNat,
        envelope.payload.take GCM_IV_BYTES, (), plaintext⟩ ∈ log ∧
      platform.gcm.encrypt (platform.pbkdf2 password envelope.salt envelope.iterations.toNat)
        (envelope.payload.take GCM_IV_BYTES) () plaintext =
          envelope.payload.drop GCM_IV_BYTES := by
  unfold Platform.decrypt at opened
  split at opened
  · cases opened
  · obtain ⟨⟨iterations, salt, payload⟩, parsed, opened⟩ := exists_ok_of_bind opened
    dsimp only at opened
    split at opened
    · cases opened
    · obtain ⟨key, derived, opened⟩ := exists_ok_of_bind opened
      have own : platform.pbkdf2 password salt iterations.toNat = key := by
        unfold Platform.deriveKey at derived
        split at derived
        · cases derived
        · split at derived
          · cases derived
          · exact Except.ok.inj derived
      split at opened
      · cases opened
      next plaintext found =>
        obtain ⟨logged, same⟩ := Aead.decrypt_eq_some_iff.mp found
        subst own
        exact ⟨⟨iterations, salt, payload⟩, plaintext, parsed, logged, same⟩

/-- A blob opens while the log holds what its call has sealed. -/
theorem decrypt_own (ideal : IdealPlatform platform) (accepted : Accepted call.password)
    (parsed : platform.parse blob = .ok (envelopeOf platform call))
    (logged : sealingOf platform call ∈ log) :
    platform.decrypt log blob call.password = .ok call.plaintext := by
  have nonce : call.nonce.toList.length = GCM_IV_BYTES := Vector.length_toList
  have taken : (envelopeOf platform call).payload.take GCM_IV_BYTES = call.nonce.toList :=
    List.take_left' nonce
  have rest : (envelopeOf platform call).payload.drop GCM_IV_BYTES =
      platform.gcm.ciphertext (sealingOf platform call) := List.drop_left' nonce
  have long : ¬(envelopeOf platform call).payload.length ≤ GCM_IV_BYTES := by
    have tagged := ideal.tagged (sealingOf platform call)
    rw [envelopeOf, List.length_append, nonce, tagged, GCM_TAG_BYTES]
    omega
  have derived := deriveKey_drawn platform call.password call.salt
  have opened : platform.gcm.decrypt log (platform.pbkdf2 call.password call.salt.toList 200000)
      call.nonce.toList () (platform.gcm.ciphertext (sealingOf platform call)) =
        some (toByteArray call.plaintext) := Aead.decrypt_ciphertext logged
  rw [Platform.decrypt, if_neg (by rw [accepted.1]; decide), parsed]
  simp only [bind, Except.bind, if_neg long]
  rw [taken, rest]
  simp only [envelopeOf, derived, opened, decodeUtf8_toByteArray]
  rfl

end Calls

section Runs

variable {Key : Type} {platform : Platform Key} {calls : List Call}
  {log log' : List (Sealed Key)}

/-- The log holds what it held, and what the accepted calls have sealed. -/
theorem mem_log_iff (run : Run platform.step anyStep log calls log') (sealing : Sealed Key) :
    sealing ∈ log' ↔ sealing ∈ log ∨
      ∃ call ∈ calls, ∃ blob, platform.encrypt call = .ok (sealing, blob) := by
  induction run with
  | start => simp
  | @next calls middle last call _ _ taken ih =>
    have added : sealing ∈ last ↔
        sealing ∈ middle ∨ ∃ blob, platform.encrypt call = .ok (sealing, blob) := by
      unfold Platform.step at taken
      split at taken
      next failed =>
        obtain rfl := Option.some.inj taken
        simp [failed]
      next own blob made =>
        obtain rfl := Option.some.inj taken
        simp [made, or_comm, eq_comm]
    rw [added, ih]
    simp only [List.mem_append, List.mem_singleton, or_and_right, exists_or, exists_eq_left,
      or_assoc]

end Runs

section

variable {Key : Type} [DecidableEq Key]

/-- A backup opens to its plaintext after any further calls, and what no call under the password
has made is refused. -/
theorem backup_round_trip (platform : Platform Key) (ideal : IdealPlatform platform)
    (calls : List Call) (log : List (Sealed Key)) (run : Run platform.step anyStep [] calls log) :
    (∀ call, Accepted call.password → ∃ sealing blob,
      platform.encrypt call = .ok (sealing, blob) ∧
        ∀ more log', Run platform.step anyStep log (call :: more) log' →
          platform.decrypt log' blob call.password = .ok call.plaintext) ∧
    (∀ blob password,
      (∀ envelope, platform.parse blob = .ok envelope →
        ¬Produced platform calls password envelope) →
      ∃ failure, platform.decrypt log blob password = .error failure) := by
  constructor
  · intro call accepted
    have made := encrypt_of_accepted platform accepted
    refine ⟨_, _, made, fun more log' further => ?_⟩
    apply decrypt_own ideal accepted (parse_encrypt made).2
    apply (mem_log_iff further _).mpr
    exact .inr ⟨call, List.mem_cons_self, _, made⟩
  · intro blob password foreign
    cases opened : platform.decrypt log blob password with
    | error failure => exact ⟨failure, rfl⟩
    | ok text =>
      exfalso
      obtain ⟨envelope, plaintext, parsed, logged, same⟩ := decrypt_ok opened
      apply foreign envelope parsed
      obtain none | ⟨call, called, own, made⟩ := (mem_log_iff run _).mp logged
      · cases none
      · obtain ⟨sealed, said⟩ := parse_encrypt made
        obtain ⟨rfl, rfl⟩ := envelope_eq_of_sealed ideal sealed same
        exact ⟨call, called, rfl, _, own, made, said⟩

end

/-- A key is what it is derived from, and a tag is sixteen zero bytes. -/
def plainPlatform : Platform (Text × List UInt8 × Nat) where
  gcm :=
    { encrypt := fun _ _ _ text => text ++ .replicate GCM_TAG_BYTES 0
      injective := fun _ _ _ _ _ same => List.append_cancel_right same }
  pbkdf2 := fun password salt iterations => (password, salt, iterations)
  digit := fun _ => none
  replaced := fun _ => "�"

theorem idealPlatform_plain : IdealPlatform plainPlatform where
  derived := fun _ _ _ _ _ _ same => by
    obtain ⟨password, rest⟩ := Prod.mk.inj same
    exact ⟨password, Prod.mk.inj rest⟩
  tagged := fun sealing => by
    rw [Aead.ciphertext, plainPlatform, List.length_append, List.length_replicate]

def firstBackup : Call where
  plaintext := "identity"
  password := units "hunter2".toList
  salt := .replicate SALT_BYTES 7
  nonce := .replicate GCM_IV_BYTES 9

/-- The backup opens under its password, and under no other. -/
theorem first_backup_opens : ∃ sealing blob,
    plainPlatform.encrypt firstBackup = .ok (sealing, blob) ∧
    plainPlatform.decrypt [sealing] blob firstBackup.password = .ok "identity" ∧
    ∃ failure, plainPlatform.decrypt [sealing] blob (units "hunter3".toList) =
      .error failure := by
  have accepted : Accepted firstBackup.password := ⟨by decide, by decide⟩
  have made := encrypt_of_accepted plainPlatform accepted
  have run : Run plainPlatform.step anyStep [] [firstBackup]
      [sealingOf plainPlatform firstBackup] := by
    apply Run.single trivial
    rw [Platform.step, made]
  obtain ⟨sealing, blob, same, opens⟩ :=
    (backup_round_trip plainPlatform idealPlatform_plain [] [] .start).1 firstBackup accepted
  have refused := (backup_round_trip plainPlatform idealPlatform_plain [firstBackup] _ run).2
    blob (units "hunter3".toList)
  obtain ⟨rfl, -⟩ := Prod.mk.inj (Except.ok.inj (made.symm.trans same))
  refine ⟨_, blob, same, opens [] _ run, refused ?_⟩
  rintro envelope - ⟨call, called, password, -⟩
  obtain rfl := List.mem_singleton.mp called
  exact absurd password (by decide)

end Nek0.Guarantees
