import Skolva.Auth.Credentials
import Skolva.Auth.Reference
import Mathlib.Data.List.GetD
import Mathlib.Data.Nat.Pairing

/-! # Passwords as keys of `bcrypt`

`bcrypt` ends a key with a zero byte, and reads 72 bytes of the endless repetition of that.
`HashPassword` rejects longer passwords; `VerifyPassword` does not.
-/

namespace Skolva.Auth

/-! ## The key that is read -/

/-- The byte at this place of the endless repetition of a text. -/
def cyclicByte (text : Bytes) (index : Nat) : UInt8 := text.getD (index % text.length) 0

/-- The 72 bytes that `bcrypt` reads of a key. -/
def bcryptKey (key : Bytes) : Bytes := (List.range 72).map (cyclicByte (key ++ [0]))

/-- The law of `bcrypt`: a hash tells the salt, the cost and the bytes that were read.
Only `GenerateFromPassword` rejects long keys. -/
structure External.HashesKey (lib : External) (digest : (salt cost : Nat) → Bytes → Text) :
    Prop where
  injective : ∀ {salt cost key salt' cost' key'}, digest salt cost key = digest salt' cost' key' →
    salt = salt' ∧ cost = cost' ∧ key = key'
  generate : ∀ salt key, lib.bcryptGenerate salt key =
    if key.length ≤ 72 then some (digest salt 10 (bcryptKey key)) else none
  compare : ∀ salt cost key other, lib.bcryptCompare (digest salt cost key) other = true ↔
    digest salt cost (bcryptKey other) = digest salt cost key

section Cyclic

variable {one other : Bytes} {index : Nat}

theorem cyclicByte_of_lt (hindex : index < one.length) (rest : Bytes) :
    cyclicByte (one ++ rest) index = one[index] := by
  have hlength : index < (one ++ rest).length := by
    rw [List.length_append]
    omega
  rw [cyclicByte, Nat.mod_eq_of_lt hlength, List.getD_append _ _ _ _ hindex,
    List.getD_eq_getElem _ _ hindex]

/-- Behind the key stands a zero. -/
theorem cyclicByte_length (key : Bytes) : cyclicByte (key ++ [0]) key.length = 0 := by
  rw [cyclicByte, List.length_append, List.length_singleton, Nat.mod_eq_of_lt (by omega),
    List.getD_append_right _ _ _ _ le_rfl]
  simp

/-- A text twice has the same repetition. -/
theorem cyclicByte_twice (text : Bytes) (index : Nat) :
    cyclicByte (text ++ text) index = cyclicByte text index := by
  rcases text.eq_nil_or_concat with rfl | hne
  · rfl
  · have hpositive : 0 < text.length := by
      obtain ⟨front, last, rfl⟩ := hne
      simp
    have hmod : index % (text.length + text.length) % text.length = index % text.length :=
      Nat.mod_mod_of_dvd _ ⟨2, by omega⟩
    have hlt : index % (text.length + text.length) < text.length + text.length :=
      Nat.mod_lt _ (by omega)
    unfold cyclicByte
    rw [List.length_append, ← hmod]
    generalize index % (text.length + text.length) = place at hlt
    by_cases hfirst : place < text.length
    · rw [List.getD_append _ _ _ _ hfirst, Nat.mod_eq_of_lt hfirst]
    · have hsecond : place % text.length = place - text.length := by
        rw [Nat.mod_eq_sub_mod (by omega), Nat.mod_eq_of_lt (by omega)]
      rw [List.getD_append_right _ _ _ _ (by omega), hsecond]

theorem bcryptKey_eq_iff : bcryptKey one = bcryptKey other ↔
    ∀ index < 72, cyclicByte (one ++ [0]) index = cyclicByte (other ++ [0]) index := by
  unfold bcryptKey
  rw [List.map_inj_left]
  simp

/-- Of two keys without a zero byte the shorter one ends where the other goes on. -/
theorem bcryptKey_ne_of_lt (hlong : one.length < 72) (hshorter : one.length < other.length)
    (hzero : 0 ∉ other) : bcryptKey one ≠ bcryptKey other := by
  intro hsame
  have hbyte := bcryptKey_eq_iff.mp hsame one.length hlong
  rw [cyclicByte_length, cyclicByte_of_lt hshorter] at hbyte
  exact hzero (hbyte ▸ List.getElem_mem hshorter)

/-- Keys without a zero byte are told apart by their 72 first bytes. -/
theorem bcryptKey_eq_iff_of_plain (hone : one.length ≤ 72) (hzero : 0 ∉ one) (hzero' : 0 ∉ other) :
    bcryptKey one = bcryptKey other ↔ one = other ∨ one.length = 72 ∧ one <+: other := by
  constructor
  · intro hsame
    have hbytes : ∀ index (hindex : index < one.length) (hindex' : index < other.length),
        one[index] = other[index] := by
      intro index hindex hindex'
      have hbyte := bcryptKey_eq_iff.mp hsame index (by omega)
      rwa [cyclicByte_of_lt hindex, cyclicByte_of_lt hindex'] at hbyte
    rcases Nat.lt_trichotomy one.length other.length with hlt | heq | hlt
    · have hfull : one.length = 72 := by
        by_contra hshort
        exact bcryptKey_ne_of_lt (by omega) hlt hzero' hsame
      refine Or.inr ⟨hfull, List.prefix_iff_eq_take.mpr ?_⟩
      refine List.ext_getElem (by simp; omega) fun index hindex hindex' => ?_
      rw [List.getElem_take]
      exact hbytes index hindex (by omega)
    · exact Or.inl (List.ext_getElem heq hbytes)
    · exact absurd hsame.symm (bcryptKey_ne_of_lt (by omega) hlt hzero)
  · rintro (rfl | ⟨hfull, rest, rfl⟩)
    · rfl
    · refine bcryptKey_eq_iff.mpr fun index hindex => ?_
      have hlt : index < one.length := by omega
      rw [List.append_assoc, cyclicByte_of_lt hlt, cyclicByte_of_lt hlt]

/-- A key with its own repetition behind a zero byte is read as the key. -/
theorem bcryptKey_repeated (key : Bytes) : bcryptKey (key ++ 0 :: key) = bcryptKey key := by
  refine bcryptKey_eq_iff.mpr fun index _ => ?_
  rw [show key ++ 0 :: key ++ [0] = (key ++ [0]) ++ (key ++ [0]) by simp, cyclicByte_twice]

end Cyclic

/-! ## Hashing and verification -/

section Verify

variable {lib : External} {digest : (salt cost : Nat) → Bytes → Text} {salt : Nat}
variable {password : Bytes} {hash : Text}

theorem hashPassword_eq (hbcrypt : lib.HashesKey digest)
    (hhash : hashPassword lib salt password = .ok hash) :
    password.length ≤ 72 ∧ hash = digest salt 10 (bcryptKey password) := by
  unfold hashPassword at hhash
  split_ifs at hhash with hempty hlong
  have hlength : password.length ≤ 72 := Nat.le_of_not_lt hlong
  rw [hbcrypt.generate, if_pos hlength] at hhash
  exact ⟨hlength, (Except.ok.inj hhash).symm⟩

/-- The passwords that are accepted are those whose keys read as the hashed one. -/
theorem verifyPassword_iff_bcryptKey (hbcrypt : lib.HashesKey digest)
    (hhash : hashPassword lib salt password = .ok hash) (other : Bytes) :
    verifyPassword lib hash other = true ↔ bcryptKey other = bcryptKey password := by
  obtain ⟨_, rfl⟩ := hashPassword_eq hbcrypt hhash
  rw [verifyPassword, hbcrypt.compare]
  constructor
  · intro hsame
    exact (hbcrypt.injective hsame).2.2
  · intro hkey
    rw [hkey]

/-- Among passwords without a zero byte, one of 72 bytes is accepted with anything behind it. -/
theorem verifyPassword_iff_of_plain (hbcrypt : lib.HashesKey digest)
    (hhash : hashPassword lib salt password = .ok hash) {other : Bytes} (hzero : 0 ∉ password)
    (hzero' : 0 ∉ other) :
    verifyPassword lib hash other = true ↔
      other = password ∨ password.length = 72 ∧ password <+: other := by
  have hlength := (hashPassword_eq hbcrypt hhash).1
  rw [verifyPassword_iff_bcryptKey hbcrypt hhash, eq_comm,
    bcryptKey_eq_iff_of_plain hlength hzero hzero', eq_comm (a := other)]

/-- For every hash there is another password. -/
theorem exists_verifyPassword (hbcrypt : lib.HashesKey digest)
    (hhash : hashPassword lib salt password = .ok hash) :
    ∃ other, other ≠ password ∧ verifyPassword lib hash other = true := by
  refine ⟨password ++ 0 :: password, fun heq => ?_,
    (verifyPassword_iff_bcryptKey hbcrypt hhash _).mpr (bcryptKey_repeated password)⟩
  have hlength := congrArg List.length heq
  simp at hlength

/-- A password is accepted exactly if it is the hashed one, unless it is another one whose
72 bytes are those of the hashed one. -/
theorem verifyPassword_iff_eq_iff (hbcrypt : lib.HashesKey digest)
    (hhash : hashPassword lib salt password = .ok hash) (other : Bytes) :
    (verifyPassword lib hash other = true ↔ other = password) ↔
      (other = password ∨ bcryptKey other ≠ bcryptKey password) := by
  rw [verifyPassword_iff_bcryptKey hbcrypt hhash]
  constructor
  · intro hexact
    by_cases hsame : other = password
    · exact Or.inl hsame
    · exact Or.inr fun hkey => hsame (hexact.mp hkey)
  · rintro (rfl | hkey)
    · exact iff_of_true rfl rfl
    · exact iff_of_false hkey fun heq => hkey (heq ▸ rfl)

end Verify

/-! ## A `bcrypt` on the first 72 bytes -/

namespace Sample

def digest (salt cost : Nat) (key : Bytes) : Text := .bcrypt (Nat.pair salt cost) key

@[reducible] def keyed : External where
  __ := Reference.external
  bcryptGenerate salt key := if key.length ≤ 72 then some (digest salt 10 (bcryptKey key)) else none
  bcryptCompare
    | .bcrypt _ key, other => bcryptKey other = key
    | _, _ => false

theorem keyed_hashesKey : keyed.HashesKey digest where
  injective := by
    intro salt cost key salt' cost' key' hsame
    obtain ⟨hpair, rfl⟩ := Text.bcrypt.inj hsame
    obtain ⟨rfl, rfl⟩ := Nat.pair_eq_pair.mp hpair
    exact ⟨rfl, rfl, rfl⟩
  generate _ _ := rfl
  compare salt cost key other := by
    simp [digest]

def letters (count : Nat) : Bytes := List.replicate count 97

/-- A password of 72 letters, and one more letter. -/
theorem verifyPassword_longer :
    hashPassword keyed 0 (letters 72) = .ok (digest 0 10 (bcryptKey (letters 72))) ∧
      ¬(verifyPassword keyed (digest 0 10 (bcryptKey (letters 72))) (letters 73) = true ↔
        letters 73 = letters 72) := by
  decide +kernel

/-- Eight letters are told from nine. -/
theorem verifyPassword_shorter :
    verifyPassword keyed (digest 0 10 (bcryptKey (letters 8))) (letters 9) = true ↔
      letters 9 = letters 8 :=
  (verifyPassword_iff_eq_iff keyed_hashesKey
    (show hashPassword keyed 0 (letters 8) = .ok (digest 0 10 (bcryptKey (letters 8))) by
      decide +kernel) (letters 9)).mpr (Or.inr (by decide +kernel))

end Sample

end Skolva.Auth
