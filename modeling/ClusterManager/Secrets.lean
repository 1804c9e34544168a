import ClusterManager.Errors

/-!
# At-rest encryption of passwords

`encryptPassword`, `decryptPassword` and `isEncrypted` over the Fernet scheme of the
`cryptography` package, which is a parameter. Fernet draws a fresh initialisation vector for each
token: it is the `nonce` of the call.
-/

namespace ClusterManager

/-- A Fernet key: encryption under a nonce, and decryption, `none` for `InvalidToken`. -/
structure Fernet where
  encrypt : ℕ → String → String
  decrypt : String → Option String

/-- Decrypting what was encrypted gives it back. -/
def Fernet.Lawful (fernet : Fernet) : Prop :=
  ∀ nonce plaintext, fernet.decrypt (fernet.encrypt nonce plaintext) = some plaintext

/-- `_PREFIX_V1`. -/
def prefixV1 : String := "enc:v1:"

/-- `stored.startswith(_PREFIX_V1)`. -/
def hasPrefixV1 (stored : String) : Bool := prefixV1.toList.isPrefixOf stored.toList

/-- `encrypt_password`. -/
def encryptPassword (fernet : Fernet) (nonce : ℕ) (plaintext : String) : String :=
  if plaintext = "" then "" else prefixV1 ++ fernet.encrypt nonce plaintext

/-- `decrypt_password`. -/
def decryptPassword (fernet : Fernet) : Option String → Except Exc (Option String)
  | none => .ok none
  | some stored =>
      if stored = "" then .ok (some stored)
      else if hasPrefixV1 stored = false then .ok (some stored)
      else match fernet.decrypt (String.ofList (stored.toList.drop prefixV1.toList.length)) with
        | some plaintext => .ok (some plaintext)
        | none => .error .kekMismatch

/-- `is_encrypted`. -/
def isEncrypted (stored : String) : Bool := stored ≠ "" && hasPrefixV1 stored

/-- `encrypt_password(p) if p else p`: how a writer stores the password of a profile. -/
def storedPassword (fernet : Fernet) (nonce : ℕ) : Option String → Option String
  | none => none
  | some password =>
      some (if password = "" then password else encryptPassword fernet nonce password)

theorem hasPrefixV1_append (token : String) : hasPrefixV1 (prefixV1 ++ token) = true := by
  simp [hasPrefixV1, String.toList_append]

theorem prefixV1_ne : prefixV1 ≠ "" := by decide

/-- Reading back a stored password gives the password. -/
theorem decryptPassword_storedPassword {fernet : Fernet} (hf : fernet.Lawful) (nonce : ℕ)
    (password : Option String) :
    decryptPassword fernet (storedPassword fernet nonce password) = .ok password := by
  cases password with
  | none => rfl
  | some password =>
    by_cases h : password = ""
    · simp [storedPassword, decryptPassword, h]
    · simp [storedPassword, decryptPassword, encryptPassword, h, prefixV1_ne,
        hasPrefixV1_append, String.toList_append, hf nonce password]

end ClusterManager
