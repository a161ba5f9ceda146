import Mathlib.Data.List.Basic

/-!
# Encrypted JWTs for internal use

State cookies, session cookies and encrypted cache values are JWEs under a key that is derived from
`OIDCCryptoPassphrase`, see `src/util/jwt.c`. During a rollover two passphrases are configured. New
values are encrypted with the first one and get a key identifier; on reading, the presence of a key
identifier decides which of the two is tried. The cryptography and the compression are parameters.
-/

namespace ModAuthOpenidc

namespace Util

/-- `oidc_crypto_passphrase_t`. -/
structure Passphrase where
  secret1 : Option String
  secret2 : Option String := none
  deriving DecidableEq, Repr

/-- The protected header of a JWE. -/
structure JweHeader where
  alg : Option String := none
  enc : Option String := none
  kid : Option String := none
  deriving DecidableEq, Repr

/-- The libraries below `src/util/jwt.c`, for keys and byte strings of certain types. -/
structure Cjose (κ β : Type) where
  /-- The key that `oidc_cfg_crypto_passphrase_derive_keys` has derived from a passphrase. -/
  derive : String → Option κ
  /-- `oidc_jose_compress`. -/
  compress : String → Option β
  /-- The bytes of a text. -/
  bytes : String → β
  /-- `oidc_jose_uncompress`. -/
  uncompress : β → Option String
  /-- `oidc_jwt_encrypt`. -/
  encrypt : JweHeader → κ → β → Option String
  /-- `oidc_proto_jwt_header_peek`. -/
  headerPeek : String → JweHeader
  /-- `cjose_jwe_import` and `cjose_jwe_decrypt`. -/
  decrypt : String → κ → Option β

section Source

variable {κ β : Type} (cjose : Cjose κ β)

/-- `oidc_util_jwt_key_from_derived`. -/
def jwtKeyFromDerived (secret : Option String) : Option κ := secret.bind cjose.derive

/-- The payload as it is encrypted, compressed unless `OIDC_JWT_INTERNAL_NO_COMPRESS` is set. -/
def jwtPack (compress : Bool) (payload : String) : Option β :=
  if compress then cjose.compress payload else some (cjose.bytes payload)

/-- The header of a new value, with a key identifier if there are two passphrases. -/
def jwtHeader (two : Bool) : JweHeader where
  alg := some "dir"
  enc := some "A256GCM"
  kid := if two then some "1" else none

/-- `oidc_util_jwt_create`. -/
def jwtCreate (compress : Bool) (passphrase : Passphrase) (payload : String) : Option String :=
  match jwtKeyFromDerived cjose passphrase.secret1 with
  | none => none
  | some key =>
      match jwtPack cjose compress payload with
      | none => none
      | some plain => cjose.encrypt (jwtHeader passphrase.secret2.isSome) key plain

/-- `oidc_jwe_decrypt`, for symmetric keys without a `use`. -/
def jweDecrypt (keys : List (String × κ)) (token : String) : Option β :=
  match (cjose.headerPeek token).kid with
  | some kid => (keys.lookup kid).bind (cjose.decrypt token)
  | none => keys.findSome? fun entry => cjose.decrypt token entry.2

/-- `oidc_util_jwt_verify`. -/
def jwtVerify (passphrase : Passphrase) (token : String) : Option String :=
  let header := cjose.headerPeek token
  if header.alg = some "dir" ∧ header.enc = some "A256GCM" then
    let secret := if passphrase.secret2.isSome ∧ header.kid = none then passphrase.secret2
      else passphrase.secret1
    match jwtKeyFromDerived cjose secret with
    | none => none
    | some key => (jweDecrypt cjose [("1", key)] token).bind cjose.uncompress
  else
    none

/-- Every passphrase has its own key, only the key that has encrypted a value decrypts it, and
reading a payload undoes its packing. -/
structure Cjose.Ideal (compress : Bool) : Prop where
  derives : ∀ secret, (cjose.derive secret).isSome = true
  separates : ∀ first second, cjose.derive first = cjose.derive second → first = second
  seals : ∀ two key plain, ∃ token, cjose.encrypt (jwtHeader two) key plain = some token ∧
    cjose.headerPeek token = jwtHeader two ∧ cjose.decrypt token key = some plain ∧
    ∀ other, other ≠ key → cjose.decrypt token other = none
  unpacks : ∀ payload, (jwtPack cjose compress payload).bind cjose.uncompress = some payload

end Source

/-! ## Two configurations -/

section Rollover

variable {κ β : Type} {cjose : Cjose κ β} {compress : Bool}

/-- The passphrase that a reader tries on what a writer has written. -/
def tried (writer reader : Passphrase) : Option String :=
  if writer.secret2 = none ∧ reader.secret2.isSome then reader.secret2 else reader.secret1

/-- A new value has a key identifier if the writer has two passphrases. -/
theorem tried_eq (writer reader : Passphrase) :
    (if reader.secret2.isSome = true ∧ (jwtHeader writer.secret2.isSome).kid = none then reader.secret2
      else reader.secret1) = tried writer reader := by
  unfold tried jwtHeader
  cases writer.secret2 with
  | none => simp
  | some secret => simp

/-- The only key is found under its identifier and without one. -/
theorem jweDecrypt_own {token : String} {two : Bool}
    (header : cjose.headerPeek token = jwtHeader two)
    (key : κ) : jweDecrypt cjose [("1", key)] token = cjose.decrypt token key := by
  rw [jweDecrypt, header]
  cases two with
  | true => rfl
  | false =>
      change [("1", key)].findSome? _ = _
      rw [List.findSome?_cons, List.findSome?_nil]
      cases cjose.decrypt token key <;> rfl

/-- What a writer has written can be read exactly if the reader tries the writer's first passphrase.
-/
theorem verify_create_tried (ideal : cjose.Ideal compress) (writer reader : Passphrase)
    (payload : String)
    {secret : String} (own : writer.secret1 = some secret) :
    (jwtCreate cjose compress writer payload).bind (jwtVerify cjose reader) = some payload ↔
      tried writer reader = some secret := by
  obtain ⟨key, derived⟩ := Option.isSome_iff_exists.mp (ideal.derives secret)
  obtain ⟨plain, packed, unpacked⟩ := Option.bind_eq_some_iff.mp (ideal.unpacks payload)
  obtain ⟨token, sealed, header, opens, only⟩ := ideal.seals writer.secret2.isSome key plain
  have created : jwtCreate cjose compress writer payload = some token := by
    simp only [jwtCreate, jwtKeyFromDerived, own, Option.bind_some, derived, packed, sealed]
  rw [created, Option.bind_some, jwtVerify, header]
  rw [if_pos ⟨rfl, rfl⟩, tried_eq]
  cases chosen : tried writer reader with
  | none => simp [jwtKeyFromDerived]
  | some other =>
      obtain ⟨key', derived'⟩ := Option.isSome_iff_exists.mp (ideal.derives other)
      simp only [jwtKeyFromDerived, Option.bind_some, derived', jweDecrypt_own header]
      by_cases same : other = secret
      · subst same
        cases derived.symm.trans derived'
        simp only [opens, Option.bind_some, unpacked]
      · have different : key' ≠ key := by
          intro equal
          exact same (ideal.separates _ _ (by rw [derived, derived', equal]))
        simp [only key' different, same]

/-- The reader has the passphrase as its first one, and no other one or a writer with two; or it has
the passphrase as its second one and a writer with one. -/
def Matching (writer reader : Passphrase) (secret : String) : Prop :=
  reader.secret1 = some secret ∧ (reader.secret2 = none ∨ writer.secret2.isSome = true) ∨
    reader.secret2 = some secret ∧ writer.secret2 = none

theorem tried_eq_some_iff (writer reader : Passphrase) (secret : String) :
    tried writer reader = some secret ↔ Matching writer reader secret := by
  unfold tried Matching
  cases second : reader.secret2 with
  | none => simp
  | some other =>
      cases writer.secret2 with
      | none => simp
      | some another => simp

/-- What a writer has encrypted with its first passphrase can be read exactly if the presence of a
key identifier leads the reader to this passphrase. -/
theorem verify_create_iff (ideal : cjose.Ideal compress) (writer reader : Passphrase)
    (payload : String)
    {secret : String} (own : writer.secret1 = some secret) :
    (jwtCreate cjose compress writer payload).bind (jwtVerify cjose reader) = some payload ↔
      Matching writer reader secret :=
  (verify_create_tried ideal writer reader payload own).trans
      (tried_eq_some_iff writer reader secret)

end Rollover

/-! ## A cipher for examples -/

namespace Sample

/-- The key and the plaintext behind the length of the key, with a mark for two passphrases. -/
def wrapped (two : Bool) (key plain : List Char) : List Char :=
  List.replicate key.length '1' ++ '0' :: (if two then 'k' else 'n') :: (key ++ plain)

/-- Take such a text apart. -/
def unwrap (text : List Char) : Option (Bool × List Char × List Char) :=
  let length := (text.takeWhile fun char => char = '1').length
  match text.drop length with
  | '0' :: mark :: rest => some (mark = 'k', rest.take length, rest.drop length)
  | _ => none

theorem unwrap_wrapped (two : Bool) (key plain : List Char) :
    unwrap (wrapped two key plain) = some (two, key, plain) := by
  have length (rest : List Char) : ((List.replicate key.length '1' ++ '0' :: rest).takeWhile
      fun char => char = '1').length = key.length := by
    rw [List.takeWhile_append_of_pos (by simp)]
    simp
  have rest (tail : List Char) :
      (List.replicate key.length '1' ++ tail).drop key.length = tail := by
    simp
  simp only [unwrap, wrapped, length, rest]
  cases two <;> simp

/-- Encryption that reveals everything but refuses every other key. -/
def cjose : Cjose String String where
  derive := some
  compress := some
  bytes := id
  uncompress := some
  encrypt header key plain :=
      some (String.ofList (wrapped header.kid.isSome key.toList plain.toList))
  headerPeek token := (unwrap token.toList).elim {} fun parts => jwtHeader parts.1
  decrypt token key := (unwrap token.toList).bind fun parts =>
    if parts.2.1 = key.toList then some (String.ofList parts.2.2) else none

theorem ideal (compress : Bool) : cjose.Ideal compress where
  derives _ := rfl
  separates _ _ := Option.some.inj
  seals two key plain := by
    have opened : unwrap (String.ofList (wrapped two key.toList plain.toList)).toList =
        some (two, key.toList, plain.toList) := by
      rw [String.toList_ofList, unwrap_wrapped]
    have marked : (jwtHeader two).kid.isSome = two := by cases two <;> rfl
    refine ⟨String.ofList (wrapped two key.toList plain.toList), ?_, ?_, ?_,
      fun other different => ?_⟩
    · simp only [cjose, marked]
    · simp only [cjose, opened, Option.elim_some]
    · simp only [cjose, opened, Option.bind_some, if_true, String.ofList_toList]
    · have apart : ¬key.toList = other.toList := fun same =>
        different (String.toList_inj.mp same).symm
      simp only [cjose, opened, Option.bind_some, apart, if_false]
  unpacks payload := by cases compress <;> rfl

end Sample

/-- A value from before a rollover can be read with the new passphrase in front. -/
theorem verify_create_iff_rollover :
    (jwtCreate Sample.cjose true ⟨some "old", none⟩ "payload").bind
        (jwtVerify Sample.cjose ⟨some "new", some "old"⟩) = some "payload" ↔
      Matching ⟨some "old", none⟩ ⟨some "new", some "old"⟩ "old" :=
  verify_create_iff (Sample.ideal true) ⟨some "old", none⟩ ⟨some "new", some "old"⟩ "payload" rfl

/-- A value from a rollover can not be read in the next one, and one from before a second passphrase
was added can not be read with it. -/
theorem configured_passphrase_refused :
    Sample.cjose.Ideal true ∧
      (jwtCreate Sample.cjose true ⟨some "second", some "first"⟩ "payload").isSome = true ∧
      (jwtCreate Sample.cjose true ⟨some "second", some "first"⟩ "payload").bind
        (jwtVerify Sample.cjose ⟨some "third", some "second"⟩) = none ∧
      (jwtCreate Sample.cjose true ⟨some "first", none⟩ "payload").isSome = true ∧
      (jwtCreate Sample.cjose true ⟨some "first", none⟩ "payload").bind
        (jwtVerify Sample.cjose ⟨some "first", some "other"⟩) = none :=
  ⟨Sample.ideal true, by decide +kernel, by decide +kernel, by decide +kernel, by decide +kernel⟩

end Util

end ModAuthOpenidc
