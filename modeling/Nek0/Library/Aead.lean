import Mathlib.Data.List.Basic

/-!
# Ideal authenticated encryption

A cipher together with the log of everything that has been sealed with it. A ciphertext opens only
to a text that the log holds for it, under the same key, nonce and associated data.
-/

namespace Nek0.Library

/-- For one key, nonce and associated data, different texts have different ciphertexts. -/
structure Aead (Key Nonce Data Text Cipher : Type*) where
  encrypt : Key → Nonce → Data → Text → Cipher
  injective : ∀ key nonce data, Function.Injective (encrypt key nonce data)

/-- What one call of the cipher has sealed. -/
structure Sealing (Key Nonce Data Text : Type*) where
  key : Key
  nonce : Nonce
  data : Data
  text : Text
  deriving DecidableEq, Repr

namespace Aead

variable {Key Nonce Data Text Cipher : Type*}

def ciphertext (aead : Aead Key Nonce Data Text Cipher) (sealing : Sealing Key Nonce Data Text) :
    Cipher :=
  aead.encrypt sealing.key sealing.nonce sealing.data sealing.text

variable [DecidableEq Key] [DecidableEq Nonce] [DecidableEq Data] [DecidableEq Cipher]

/-- The text that was sealed to the ciphertext, or nothing. -/
def decrypt (aead : Aead Key Nonce Data Text Cipher) (log : List (Sealing Key Nonce Data Text))
    (key : Key) (nonce : Nonce) (data : Data) (cipher : Cipher) : Option Text :=
  (log.find? fun sealing =>
    sealing.key = key ∧ sealing.nonce = nonce ∧ sealing.data = data ∧
      aead.ciphertext sealing = cipher).map Sealing.text

variable {aead : Aead Key Nonce Data Text Cipher} {log : List (Sealing Key Nonce Data Text)}
  {key : Key} {nonce : Nonce} {data : Data} {cipher : Cipher} {text : Text}

/-- A ciphertext opens to a text exactly if that text has been sealed to it. -/
theorem decrypt_eq_some_iff :
    aead.decrypt log key nonce data cipher = some text ↔
      ⟨key, nonce, data, text⟩ ∈ log ∧ aead.encrypt key nonce data text = cipher := by
  rw [decrypt, Option.map_eq_some_iff]
  constructor
  · intro opened
    obtain ⟨sealing, found, rfl⟩ := opened
    have logged := List.mem_of_find?_eq_some found
    have same := List.find?_some found
    obtain ⟨rfl, rfl, rfl, rfl⟩ := of_decide_eq_true same
    exact ⟨logged, rfl⟩
  · intro both
    obtain ⟨logged, rfl⟩ := both
    cases found : log.find? fun sealing =>
        sealing.key = key ∧ sealing.nonce = nonce ∧ sealing.data = data ∧
          aead.ciphertext sealing = aead.encrypt key nonce data text with
    | none =>
      have missed := List.find?_eq_none.mp found _ logged
      simp [ciphertext] at missed
    | some sealing =>
      have same := List.find?_some found
      obtain ⟨rfl, rfl, rfl, equal⟩ := of_decide_eq_true same
      exact ⟨sealing, rfl, aead.injective _ _ _ equal⟩

/-- Everything that has been sealed opens again. -/
theorem decrypt_ciphertext {sealing : Sealing Key Nonce Data Text} (logged : sealing ∈ log) :
    aead.decrypt log sealing.key sealing.nonce sealing.data (aead.ciphertext sealing) =
      some sealing.text := by
  apply decrypt_eq_some_iff.mpr
  exact ⟨logged, rfl⟩

end Aead

end Nek0.Library
