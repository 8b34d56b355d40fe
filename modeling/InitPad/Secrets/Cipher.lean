import Mathlib.Tactic.Common

/-!
# InitPad.Secrets.Cipher

Sensitive values in the database. The tag of AES-256-GCM identifies the key, so a stored value
opens under the key it was written with and under no other; a value without the marker is a legacy
plaintext, which is read as it is.
-/

namespace InitPad.Secrets

structure EncryptionKey where
  secret : String
  deriving DecidableEq

inductive StoredSecret where
  | legacy (plaintext : String)
  | encrypted (key : EncryptionKey) (iv : Nat) (plaintext : String)
  deriving DecidableEq

structure Keyring where
  /-- `INITPAD_ENCRYPTION_KEY` -/
  current : EncryptionKey
  /-- `INITPAD_ENCRYPTION_KEY_PREVIOUS` -/
  previous : List EncryptionKey
  deriving DecidableEq

def Keyring.keys (ring : Keyring) : List EncryptionKey := ring.current :: ring.previous

def StoredSecret.plaintext : StoredSecret → String
  | .legacy plaintext => plaintext
  | .encrypted _ _ plaintext => plaintext

variable (ring : Keyring)

def encryptSecret (iv : Nat) (plaintext : String) : StoredSecret :=
  .encrypted ring.current iv plaintext

/-- None stands for a `SecretDecryptionError`. -/
def decryptSecret : StoredSecret → Option String
  | .legacy plaintext => some plaintext
  | .encrypted key _ plaintext => if key ∈ ring.keys then some plaintext else none

def readableSecret (stored : StoredSecret) : Option String := decryptSecret ring stored

inductive Reencrypted where
  | current
  | replaced (value : StoredSecret)
  /-- A `SecretDecryptionError`. -/
  | unreadable
  deriving DecidableEq

def reencryptedSecret (iv : Nat) (stored : StoredSecret) : Reencrypted :=
  if stored = .legacy "" then .current
  else
    match stored with
    | .encrypted key _ _ =>
      if key = ring.current then .current
      else
        match decryptSecret ring stored with
        | some plaintext => .replaced (encryptSecret ring iv plaintext)
        | none => .unreadable
    | .legacy plaintext => .replaced (encryptSecret ring iv plaintext)

variable {ring}

theorem plaintext_of_decrypt {stored : StoredSecret} {plaintext : String}
    (h : decryptSecret ring stored = some plaintext) : plaintext = stored.plaintext := by
  cases stored with
  | legacy text =>
    cases h
    rfl
  | encrypted key iv text =>
    simp only [decryptSecret] at h
    split at h
    · cases h
      rfl
    · cases h

end InitPad.Secrets
