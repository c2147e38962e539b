import SmbBrowser.Qt.Json

/-!
# libsodium

The functions of libsodium that encrypt an export and the vault under a password, and
what is relied on of them.

Results:
* `Sodium.labelled_correct`: what is relied on can be had.
-/

namespace SmbBrowser.Crypto

open SmbBrowser.Qt

/-- `crypto_pwhash_SALTBYTES`. -/
def cryptoPwhashSaltBytes : ℕ := 16

/-- `crypto_secretbox_NONCEBYTES`. -/
def cryptoSecretboxNonceBytes : ℕ := 24

/-- `crypto_secretbox_MACBYTES`. -/
def cryptoSecretboxMacBytes : ℕ := 16

/-- The calls, with the parameters that are always the same left out. -/
structure Sodium where
  /-- `sodium_init() >= 0`. -/
  initialized : Bool
  /-- `crypto_pwhash` of a password and a salt: a key, if there is memory for it. -/
  pwhash : QByteArray → QByteArray → Option QByteArray
  /-- `crypto_secretbox_easy` of a plaintext, a nonce and a key. -/
  secretboxEasy : QByteArray → QByteArray → QByteArray → QByteArray
  /-- `crypto_secretbox_open_easy` of a ciphertext, a nonce and a key. -/
  secretboxOpenEasy : QByteArray → QByteArray → QByteArray → Option QByteArray

/-- The encryption under a password is correct: a ciphertext opens under its password,
    and fails to under another. -/
structure Sodium.Correct (sodium : Sodium) : Prop where
  initialized : sodium.initialized = true
  pwhash : ∀ password salt, (sodium.pwhash password salt).isSome
  length_secretboxEasy : ∀ plaintext nonce key,
    cryptoSecretboxMacBytes ≤ (sodium.secretboxEasy plaintext nonce key).length
  open_same : ∀ plaintext nonce key,
    sodium.secretboxOpenEasy (sodium.secretboxEasy plaintext nonce key) nonce key = some plaintext
  open_other : ∀ plaintext nonce salt password password' key key', password ≠ password' →
    sodium.pwhash password salt = some key → sodium.pwhash password' salt = some key' →
    sodium.secretboxOpenEasy (sodium.secretboxEasy plaintext nonce key) nonce key' = none

namespace Sodium

/-- The bytes of a key, and where they end. -/
def label : QByteArray → QByteArray
  | [] => [0]
  | b :: key => 1 :: b :: label key

/-- No label is the beginning of another. -/
theorem eq_of_label {key key' plaintext : QByteArray} (h : label key' <+: label key ++ plaintext) :
    key' = key := by
  induction key' generalizing key with
  | nil =>
    cases key with
    | nil => rfl
    | cons b key => exact absurd (List.cons_prefix_cons.1 h).1 (by decide)
  | cons b' key' ih =>
    cases key with
    | nil => exact absurd (List.cons_prefix_cons.1 h).1 (by decide)
    | cons b key =>
      obtain ⟨-, hrest⟩ := List.cons_prefix_cons.1 h
      obtain ⟨rfl, hlabel⟩ := List.cons_prefix_cons.1 hrest
      rw [ih hlabel]

/-- Ciphertexts that hide nothing, and begin with the key they open under. -/
def labelled : Sodium where
  initialized := true
  pwhash password _ := some password
  secretboxEasy plaintext _ key :=
    List.replicate cryptoSecretboxMacBytes 0 ++ (label key ++ plaintext)
  secretboxOpenEasy ciphertext _ key :=
    let body := ciphertext.drop cryptoSecretboxMacBytes
    if label key <+: body then some (body.drop (label key).length) else none

theorem labelled_correct : labelled.Correct where
  initialized := rfl
  pwhash _ _ := rfl
  length_secretboxEasy plaintext nonce key := by
    show _ ≤ (List.replicate cryptoSecretboxMacBytes (0 : UInt8) ++ _).length
    rw [List.length_append, List.length_replicate]
    omega
  open_same plaintext nonce key := by
    show (if label key <+: List.drop 16 (List.replicate 16 (0 : UInt8) ++ _) then _ else _) = _
    rw [List.drop_left' (List.length_replicate ..), if_pos (List.prefix_append _ _)]
    show some (List.drop _ (List.drop 16 (List.replicate 16 (0 : UInt8) ++ _))) = _
    rw [List.drop_left' (List.length_replicate ..), List.drop_left]
  open_other plaintext nonce salt password password' key key' hne hkey hkey' := by
    obtain rfl := Option.some.inj hkey
    obtain rfl := Option.some.inj hkey'
    show (if label password' <+: List.drop 16 (List.replicate 16 (0 : UInt8) ++ _) then _ else _) = _
    rw [List.drop_left' (List.length_replicate ..), if_neg]
    intro h
    exact hne (eq_of_label h).symm

end Sodium

end SmbBrowser.Crypto
