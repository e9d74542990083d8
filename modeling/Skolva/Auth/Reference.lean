import Skolva.Auth.External
import Mathlib.Data.List.Basic

/-! # A computable instance of the third-party functions

Identifiers are written as RFC 4122 has them. Signatures, hashes, codes and
ciphers are symbolic: each result carries what it was made from.
-/

namespace Skolva.Auth.Reference

/-! ## Identifiers -/

/-- The last `count` hexadecimal digits of a number, most significant first. -/
def hexDigits : (count : Nat) → Nat → List Char
  | 0, _ => []
  | count + 1, value => hexDigits count (value / 16) ++ [Nat.digitChar (value % 16)]

def hexAlphabet : List Char := "0123456789abcdef".toList

def hexValue (digits : List Char) : Nat :=
  digits.foldl (fun value digit => value * 16 + hexAlphabet.idxOf digit) 0

theorem length_hexDigits (count value : Nat) : (hexDigits count value).length = count := by
  induction count generalizing value with
  | zero => rfl
  | succ count ih => simp [hexDigits, ih]

theorem digitChar_mem_hexAlphabet (value : Nat) (hvalue : value < 16) :
    Nat.digitChar value ∈ hexAlphabet ∧ hexAlphabet.idxOf (Nat.digitChar value) = value := by
  revert value
  decide

theorem mem_hexAlphabet_of_mem_hexDigits {count value : Nat} {digit : Char}
    (hdigit : digit ∈ hexDigits count value) : digit ∈ hexAlphabet := by
  induction count generalizing value with
  | zero => simp [hexDigits] at hdigit
  | succ count ih =>
      rcases List.mem_append.mp hdigit with hdigit | hdigit
      · exact ih hdigit
      · rw [List.mem_singleton.mp hdigit]
        exact (digitChar_mem_hexAlphabet _ (Nat.mod_lt _ (by decide))).1

theorem hexValue_hexDigits (count value : Nat) :
    hexValue (hexDigits count value) = value % 16 ^ count := by
  induction count generalizing value with
  | zero => simp [hexDigits, hexValue, Nat.mod_one]
  | succ count ih =>
      have hlast := (digitChar_mem_hexAlphabet (value % 16) (Nat.mod_lt _ (by decide))).2
      have hfront := ih (value / 16)
      unfold hexValue at hfront ⊢
      rw [hexDigits, List.foldl_append, hfront, List.foldl_cons, List.foldl_nil, hlast]
      rw [Nat.pow_succ, Nat.mul_comm (16 ^ count) 16, Nat.mod_mul]
      omega

/-- The digits in groups of 8, 4, 4, 4 and 12. -/
def uuidCharacters (id : Uuid) : List Char :=
  let digits := hexDigits 32 id.toNat
  digits.take 8 ++ '-' :: (digits.drop 8).take 4 ++ '-' :: (digits.drop 12).take 4 ++
    '-' :: (digits.drop 16).take 4 ++ '-' :: digits.drop 20

def uuidString (id : Uuid) : String := String.ofList (uuidCharacters id)

def uuidParse (text : String) : Option Uuid :=
  let digits := text.toList.filter (· ≠ '-')
  if digits.length = 32 ∧ digits.all (· ∈ hexAlphabet) then
    some (BitVec.ofNat 128 (hexValue digits))
  else none

/-- The groups put together are the digits. -/
theorem groups_append (digits : List Char) (hlength : digits.length = 32) :
    digits.take 8 ++ (digits.drop 8).take 4 ++ (digits.drop 12).take 4 ++
      (digits.drop 16).take 4 ++ digits.drop 20 = digits := by
  apply List.ext_getElem
  · simp [hlength]
  · intro index hleft hright
    simp only [List.getElem_append, List.getElem_take, List.getElem_drop, List.length_append,
      List.length_take, List.length_drop, hlength]
    grind

theorem filter_uuidCharacters (id : Uuid) :
    (uuidCharacters id).filter (· ≠ '-') = hexDigits 32 id.toNat := by
  have hkeep : ∀ part : List Char, part ⊆ hexDigits 32 id.toNat →
      part.filter (· ≠ '-') = part := by
    intro part hpart
    apply List.filter_eq_self.mpr
    intro digit hdigit
    have hmem := mem_hexAlphabet_of_mem_hexDigits (hpart hdigit)
    have hdash : '-' ∉ hexAlphabet := by decide
    exact decide_eq_true (fun heq => hdash (heq ▸ hmem))
  have hgroup : ∀ start count, ((hexDigits 32 id.toNat).drop start).take count ⊆
      hexDigits 32 id.toNat :=
    fun start count _ hdigit => List.mem_of_mem_drop (List.mem_of_mem_take hdigit)
  have hfirst := hkeep _ (List.take_subset 8 (hexDigits 32 id.toNat))
  have hlast := hkeep _ (List.drop_subset 20 (hexDigits 32 id.toNat))
  have hdash : ∀ part : List Char, ('-' :: part).filter (· ≠ '-') = part.filter (· ≠ '-') :=
    fun part => List.filter_cons_of_neg (by decide)
  simp only [uuidCharacters, List.filter_append, hdash, hfirst, hlast, hkeep _ (hgroup _ _)]
  simpa only [List.append_assoc] using
    groups_append (hexDigits 32 id.toNat) (length_hexDigits 32 id.toNat)

theorem uuidParse_uuidString (id : Uuid) : uuidParse (uuidString id) = some id := by
  have hdigits : ∀ digit ∈ hexDigits 32 id.toNat, digit ∈ hexAlphabet :=
    fun _ hdigit => mem_hexAlphabet_of_mem_hexDigits hdigit
  have hlt : id.toNat < 16 ^ 32 := by
    have hwidth : (16 : Nat) ^ 32 = 2 ^ 128 := by decide
    rw [hwidth]
    exact id.isLt
  have hvalue : BitVec.ofNat 128 (hexValue (hexDigits 32 id.toNat)) = id := by
    rw [hexValue_hexDigits, Nat.mod_eq_of_lt hlt, BitVec.ofNat_toNat, BitVec.setWidth_eq]
  unfold uuidParse uuidString
  rw [String.toList_ofList, filter_uuidCharacters]
  simpa [length_hexDigits, hvalue] using hdigits

/-- A text of ASCII characters has one byte for each of them. -/
theorem length_bytesOf_ofList (characters : List Char)
    (hascii : ∀ character ∈ characters, character.utf8Size = 1) :
    (bytesOf (String.ofList characters)).length = characters.length := by
  have hbytes : bytesOf (String.ofList characters) =
      characters.flatMap String.utf8EncodeChar := by
    simp [bytesOf, List.utf8Encode]
  rw [hbytes, List.length_flatMap, List.map_congr_left (g := fun _ => 1)]
  · simp
  · intro character hcharacter
    rw [String.length_utf8EncodeChar, hascii character hcharacter]

theorem uuidString_length (id : Uuid) : (bytesOf (uuidString id)).length = 36 := by
  have hlength := length_hexDigits 32 id.toNat
  have hascii : ∀ character ∈ uuidCharacters id, character.utf8Size = 1 := by
    intro character hcharacter
    by_cases hdash : character = '-'
    · subst hdash
      decide
    · have hmem : character ∈ (uuidCharacters id).filter (· ≠ '-') :=
        List.mem_filter.mpr ⟨hcharacter, decide_eq_true hdash⟩
      rw [filter_uuidCharacters] at hmem
      have hsize : hexAlphabet.all (fun digit => digit.utf8Size == 1) = true := by decide
      exact eq_of_beq (List.all_eq_true.mp hsize _ (mem_hexAlphabet_of_mem_hexDigits hmem))
  rw [uuidString, length_bytesOf_ofList _ hascii]
  simp [uuidCharacters, hlength]

/-! ## The instance -/

/-- The code of a secret in a period of 30 seconds. -/
def totpCode (secret : String) (period : Nat) : Bytes :=
  zeroPadded 6 (secret.toList.foldl (fun value letter => value * 31 + letter.toNat) period)

/-- The period of the instant is accepted, and so are those next to it. -/
def totpValidate (code : Bytes) (secret : String) (now : Nat) : Bool :=
  let period := now / (30 * Time.second)
  [period - 1, period, period + 1].any (fun near => totpCode secret near = code)

def bcryptCompare : Text → Bytes → Bool
  | .bcrypt _ digest, key => digest = key
  | _, _ => false

@[reducible] def external : External where
  uuidString := uuidString
  uuidParse := uuidParse
  uuidParse_uuidString := uuidParse_uuidString
  uuidString_length := uuidString_length
  Token := String × Claims
  jwtSign := Prod.mk
  jwtParse secret token := if token.1 = secret then some token.2 else none
  jwtParse_jwtSign _ _ := if_pos rfl
  bcryptGenerate salt key := if key.length ≤ 72 then some (.bcrypt salt key) else none
  bcryptCompare := bcryptCompare
  totpGenerate seed issuer accountName :=
    let secret := String.ofList (hexDigits 16 seed)
    some (secret, "otpauth://totp/" ++ issuer ++ ":" ++ accountName ++ "?secret=" ++ secret)
  totpValidate := totpValidate
  encrypt nonce text := some (String.ofList (hexDigits 24 nonce) ++ text)
  decrypt text := some (String.ofList (text.toList.drop 24))
  lower text := String.ofList (text.toList.map Char.toLower)

theorem external_idealHMAC : external.IdealHMAC where
  secret_unique := by
    intro secret other token claims claims' hparse hparse'
    change (if token.1 = secret then some token.2 else none) = some claims at hparse
    change (if token.1 = other then some token.2 else none) = some claims' at hparse'
    split at hparse
    next hsecret =>
        split at hparse'
        next hother => exact hsecret.symm.trans hother
        next => cases hparse'
    next => cases hparse

theorem external_idealBcrypt : external.IdealBcrypt where
  generate_isSome salt key := by
    change (if key.length ≤ 72 then some (Text.bcrypt salt key) else none).isSome ↔ _
    split <;> simp_all
  compare_iff salt key hash hgenerate other := by
    change (if key.length ≤ 72 then some (Text.bcrypt salt key) else none) = some hash at hgenerate
    change bcryptCompare hash other = true ↔ other = key
    split at hgenerate
    · rw [← Option.some.inj hgenerate, bcryptCompare, decide_eq_true_eq]
      exact eq_comm
    · exact nomatch hgenerate

end Skolva.Auth.Reference
