import Skolva.Basic

/-! # What the auth module takes from elsewhere

Stored texts, errors, and the functions of third-party packages. Those are
fields of one structure. The laws among the fields are the documented behaviour
the code relies on. Anything stronger, such as an ideal `bcrypt`, is a
hypothesis where it is used.
-/

namespace Skolva.Auth

/-- A Go string that is handed to `bcrypt` or `totp`, as its bytes. -/
abbrev Bytes := List UInt8

/-- The `[]byte(s)` of a Go string. -/
def bytesOf (text : String) : Bytes := text.toUTF8.data.toList

/-- `fmt.Sprintf("%0*d", count, value)` of a number with at most `count` digits. -/
def zeroPadded : (count : Nat) → (value : Nat) → Bytes
  | 0, _ => []
  | count + 1, value => zeroPadded count (value / 10) ++ [48 + UInt8.ofNat (value % 10)]

/-- The text in a column that the code fills with formatted values. The texts of
one form are never those of another, and every further text is `other`. -/
inductive Text where
  | rfc3339 (seconds : Nat)
  | decimal (value : Nat)
  | bcrypt (salt : Nat) (digest : Bytes)
  | other (content : String)
  deriving DecidableEq

/-- `t.UTC().Format(time.RFC3339)`, which drops the fraction of the second. -/
def formatRFC3339 (instant : Nat) : Text := .rfc3339 (instant / Time.second)

/-- `time.Parse(time.RFC3339, text)`. -/
def parseRFC3339 : Text → Option Nat
  | .rfc3339 seconds => some (seconds * Time.second)
  | _ => none

@[simp] theorem parseRFC3339_format (instant : Nat) :
    parseRFC3339 (formatRFC3339 instant) = some (Time.truncate instant) := rfl

/-- `strconv.Itoa`. The counters that are written stay small (`emailAttempts_le`), so an `int` has
no end here. -/
def itoa (value : Nat) : Text := .decimal value

/-- The number `strconv.Atoi` returns, which is zero beside an error. -/
def atoi : Text → Nat
  | .decimal value => value
  | _ => 0

@[simp] theorem atoi_itoa (value : Nat) : atoi (itoa value) = value := rfl

/-- The claims of a token. Numeric dates count seconds. -/
structure Claims where
  subject : String
  issuer : String
  issuedAt : Option Int
  notBefore : Option Int
  expiresAt : Option Int
  id : String
  email : String
  roles : List String
  permissions : List String
  kind : String
  deriving DecidableEq

/-- The functions of third-party packages. -/
structure External where
  /-- `uuid.UUID.String` -/
  uuidString : Uuid → String
  /-- `uuid.Parse` -/
  uuidParse : String → Option Uuid
  uuidParse_uuidString : ∀ id, uuidParse (uuidString id) = some id
  uuidString_length : ∀ id, (bytesOf (uuidString id)).length = 36
  /-- The serialized tokens of `golang-jwt`. -/
  Token : Type
  /-- `SignedString` under HS256 -/
  jwtSign : (secret : String) → Claims → Token
  /-- `ParseWithClaims` before validation: the claims, if the signature is valid. -/
  jwtParse : (secret : String) → Token → Option Claims
  jwtParse_jwtSign : ∀ secret claims, jwtParse secret (jwtSign secret claims) = some claims
  /-- `bcrypt.GenerateFromPassword` with the salt it draws -/
  bcryptGenerate : (salt : Nat) → Bytes → Option Text
  /-- `bcrypt.CompareHashAndPassword(hash, password) == nil` -/
  bcryptCompare : Text → Bytes → Bool
  /-- `totp.Generate` from a random seed: the secret and the provisioning URI. -/
  totpGenerate : (seed : Nat) → (issuer accountName : String) → Option (String × String)
  /-- `totp.Validate`, at the instant it reads from the clock -/
  totpValidate : Bytes → (secret : String) → (now : Nat) → Bool
  /-- `Cipher.Encrypt` with the nonce it draws -/
  encrypt : (nonce : Nat) → String → Option String
  /-- `Cipher.Decrypt` -/
  decrypt : String → Option String
  /-- PostgreSQL's `lower` -/
  lower : String → String

theorem External.uuidString_ne_empty (lib : External) (id : Uuid) : lib.uuidString id ≠ "" := by
  intro hempty
  have hlength := lib.uuidString_length id
  rw [hempty] at hlength
  exact absurd hlength (by decide)

/-- An ideal `bcrypt`: it takes every key of at most 72 bytes, and a hash matches
exactly the key it was made from. -/
structure External.IdealBcrypt (lib : External) : Prop where
  generate_isSome : ∀ salt key, (lib.bcryptGenerate salt key).isSome ↔ key.length ≤ 72
  compare_iff : ∀ salt key hash, lib.bcryptGenerate salt key = some hash →
    ∀ other, lib.bcryptCompare hash other = true ↔ other = key

/-- An ideal HMAC: the signature of a token is valid under one secret at most. That HMAC
fills short keys up with zeros is set aside. -/
structure External.IdealHMAC (lib : External) : Prop where
  secret_unique : ∀ {secret other token claims claims'},
    lib.jwtParse secret token = some claims → lib.jwtParse other token = some claims' →
      secret = other

/-- What a call to the database or the mail server can fail with. -/
inductive CallError where
  | noRows
  | constraint
  | unavailable
  deriving DecidableEq

/-- The errors of the service. The first five are those of the error package of
the core, with their messages. -/
inductive Err where
  | notFound (what : String)
  | unauthorized (message : String)
  | forbidden (message : String)
  | conflict (message : String)
  | validation (message : String)
  | call (cause : CallError)
  | invalidToken
  | notAccessToken
  | emptySecret
  | emptySubject
  | passwordEmpty
  | passwordTooLong
  | bcrypt
  | totp
  | cipher
  deriving DecidableEq

/-- `if errors.Is(err, pgx.ErrNoRows) { return NewNotFound(what) }; return err`. -/
def Err.notFoundOr (what : String) : CallError → Err
  | .noRows => .notFound what
  | cause => .call cause

/-- The first result of a Go call whose error is discarded. -/
def valueOr {α ε : Type} (zero : α) : Except ε α → α
  | .ok value => value
  | .error _ => zero

@[simp] theorem valueOr_ok {α ε : Type} (zero value : α) :
    valueOr zero (.ok value : Except ε α) = value := rfl

@[simp] theorem valueOr_error {α ε : Type} (zero : α) (cause : ε) :
    valueOr zero (.error cause : Except ε α) = zero := rfl

end Skolva.Auth
