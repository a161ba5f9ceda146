import Mathlib.Data.List.Infix
import Mathlib.Tactic.Tauto

/-!
# Scrubbing request headers

The module passes the identity of the user to the application in request headers. A CGI application
gets them as environment variables, in whose names case and punctuation are lost, so that a client
must not be able to send a header whose name differs from the one the module sets in these respects
only. `oidc_scrub_headers` removes such headers. Names are strings of bytes here, without the final
null.
-/

namespace ModAuthOpenidc

namespace Scrub

/-! ## Names of environment variables -/

/-- `apr_isalnum` in the C locale. -/
def isAlnum (c : UInt8) : Bool :=
  (48 ≤ c && c ≤ 57) || (65 ≤ c && c ≤ 90) || (97 ≤ c && c ≤ 122)

/-- `apr_toupper` in the C locale. -/
def toUpper (c : UInt8) : UInt8 := if 97 ≤ c && c ≤ 122 then c - 32 else c

/-- `oidc_util_char_to_env`. -/
def charToEnv (c : UInt8) : UInt8 := if isAlnum c then toUpper c else 95

/-- `oidc_util_strnenvcmp`, where the first `i` characters have been compared. -/
def strnenvcmpFrom (len : Int) (i : Nat) (a b : List UInt8) : Int :=
  if 0 ≤ len ∧ len ≤ i then 0
  else
    match a, b with
    | [], [] => 0
    | _ :: _, [] => 1
    | [], _ :: _ => -1
    | x :: a, y :: b =>
        let d : Int := (charToEnv x).toNat - (charToEnv y).toNat
        if d ≠ 0 then d else strnenvcmpFrom len (i + 1) a b

/-- `oidc_util_strnenvcmp`. -/
def strnenvcmp (a b : List UInt8) (len : Int) : Int := strnenvcmpFrom len 0 a b

/-- A name as that of an environment variable. -/
def envName (name : List UInt8) : List UInt8 := name.map charToEnv

/-- Equal bytes have difference zero. -/
theorem sub_eq_zero_iff (x y : UInt8) : (x.toNat - y.toNat : Int) = 0 ↔ x = y := by
  rw [← UInt8.toNat_inj]
  omega

/-- Without a limit, whole names are compared. -/
theorem strnenvcmpFrom_unlimited {len : Int} (unlimited : len < 0) (i : Nat) (a b : List UInt8) :
    strnenvcmpFrom len i a b = 0 ↔ envName a = envName b := by
  have open_end : ∀ i : Nat, ¬(0 ≤ len ∧ len ≤ i) := by omega
  induction a generalizing i b with
  | nil =>
      cases b with
      | nil => simp [strnenvcmpFrom]
      | cons y b => simp [strnenvcmpFrom, open_end, envName]
  | cons x a ih =>
      cases b with
      | nil => simp [strnenvcmpFrom, open_end, envName]
      | cons y b =>
          rw [strnenvcmpFrom, if_neg (open_end i)]
          dsimp only
          by_cases same : charToEnv x = charToEnv y
          · rw [if_neg (not_not_intro ((sub_eq_zero_iff _ _).mpr same))]
            refine (ih (i + 1) b).trans ?_
            simp [envName, same]
          · have differs : ((charToEnv x).toNat - (charToEnv y).toNat : Int) ≠ 0 :=
              fun zero => same ((sub_eq_zero_iff _ _).mp zero)
            rw [if_pos differs]
            simp [envName, same, differs]

/-- With the length of the second name as a limit, a beginning is compared. -/
theorem strnenvcmpFrom_limited (i : Nat) (a b : List UInt8) :
    strnenvcmpFrom (i + b.length : Nat) i a b = 0 ↔ envName b <+: envName a := by
  induction b generalizing i a with
  | nil =>
      have full : (0 : Int) ≤ (i + ([] : List UInt8).length : Nat) ∧
          ((i + ([] : List UInt8).length : Nat) : Int) ≤ i := by simp
      rw [strnenvcmpFrom.eq_def, if_pos full]
      simp [envName]
  | cons y b ih =>
      have more : ¬((0 : Int) ≤ (i + (y :: b).length : Nat) ∧
          ((i + (y :: b).length : Nat) : Int) ≤ i) := by
        rw [List.length_cons]
        omega
      cases a with
      | nil =>
          rw [strnenvcmpFrom, if_neg more]
          simp [envName]
      | cons x a =>
          rw [strnenvcmpFrom, if_neg more]
          dsimp only
          by_cases same : charToEnv x = charToEnv y
          · have shift : i + (y :: b).length = i + 1 + b.length := by
              rw [List.length_cons]
              omega
            rw [if_neg (not_not_intro ((sub_eq_zero_iff _ _).mpr same)), shift, ih (i + 1) a]
            simp [envName, same, List.cons_prefix_cons]
          · have differs : ((charToEnv x).toNat - (charToEnv y).toNat : Int) ≠ 0 :=
              fun zero => same ((sub_eq_zero_iff _ _).mp zero)
            rw [if_pos differs]
            simp [envName, Ne.symm same, differs, List.cons_prefix_cons]

theorem strnenvcmp_whole (a b : List UInt8) : strnenvcmp a b (-1) = 0 ↔ envName a = envName b :=
  strnenvcmpFrom_unlimited (by decide) 0 a b

theorem strnenvcmp_front (a b : List UInt8) :
    strnenvcmp a b b.length = 0 ↔ envName b <+: envName a := by
  have limited := strnenvcmpFrom_limited 0 a b
  rwa [Nat.zero_add] at limited

/-! ## The headers -/

/-- A request header. -/
structure Header where
  name : List UInt8
  value : List UInt8
  deriving DecidableEq, Repr

/-- The settings that decide which headers are scrubbed. -/
structure Config where
  /-- `OIDCClaimPrefix`. -/
  claimPrefix : List UInt8
  /-- `OIDCWhiteListedClaims`, a hash table in which each claim is its own value. -/
  whiteListedClaims : List (List UInt8)
  /-- `OIDCAuthNHeader`. -/
  authnHeader : Option (List UInt8)

/-- `OIDC_DEFAULT_HEADER_PREFIX`. -/
def defaultHeaderPrefix : List UInt8 := [79, 73, 68, 67, 95]

/-- `OIDC_DEFAULT_CLAIM_PREFIX`. -/
def defaultClaimPrefix : List UInt8 := defaultHeaderPrefix ++ [67, 76, 65, 73, 77, 95]

/-- `oidc_scrub_request_headers`, for a hash table that may be `NULL`. -/
def scrubRequestHeaders (headers : List Header) (claimPrefix : List UInt8)
    (scrub : Option (List UInt8 → Option (List UInt8))) : List Header :=
  headers.filter fun header =>
    let headerMatches := match scrub.bind fun table => table header.name with
      | none => false
      | some hdr => strnenvcmp header.name hdr (-1) = 0
    let prefixMatches := claimPrefix.length ≠ 0 &&
      strnenvcmp header.name claimPrefix claimPrefix.length = 0
    !prefixMatches && !headerMatches

/-- The table of names that `oidc_scrub_headers` builds. -/
def scrubTable (config : Config) : List UInt8 → Option (List UInt8) :=
  let hdrs := fun name =>
    if config.claimPrefix = [] then config.whiteListedClaims.find? (· = name) else none
  match config.authnHeader with
  | none => hdrs
  | some authnHdr => Function.update hdrs authnHdr (some authnHdr)

/-- `oidc_scrub_headers`. -/
def scrubHeaders (config : Config) (headers : List Header) : List Header :=
  let clean := scrubRequestHeaders headers defaultHeaderPrefix (some (scrubTable config))
  if defaultHeaderPrefix <+: config.claimPrefix then clean
  else scrubRequestHeaders clean config.claimPrefix none

/-! ## Names that an application takes for an identity -/

/-- The name begins like those of the headers that the module sets. -/
def Prefixed (config : Config) (name : List UInt8) : Prop :=
  envName defaultHeaderPrefix <+: envName name ∨
    config.claimPrefix ≠ [] ∧ envName config.claimPrefix <+: envName name

/-- The name stands for a header that the module sets. -/
def Named (config : Config) (name : List UInt8) : Prop :=
  (∃ authnHdr ∈ config.authnHeader, envName name = envName authnHdr) ∨
    config.claimPrefix = [] ∧ ∃ claim ∈ config.whiteListedClaims, envName name = envName claim

/-- The name is that of a header that the module sets, to the letter. -/
def Spelled (config : Config) (name : List UInt8) : Prop :=
  config.authnHeader = some name ∨ config.claimPrefix = [] ∧ name ∈ config.whiteListedClaims

instance (config : Config) (name : List UInt8) : Decidable (Prefixed config name) :=
  inferInstanceAs (Decidable (_ ∨ _))

instance (config : Config) (name : List UInt8) : Decidable (Named config name) :=
  inferInstanceAs (Decidable (_ ∨ _))

instance (config : Config) (name : List UInt8) : Decidable (Spelled config name) :=
  inferInstanceAs (Decidable (_ ∨ _))

theorem Spelled.named {config : Config} {name : List UInt8} (spelled : Spelled config name) :
    Named config name := by
  rcases spelled with header | ⟨empty, listed⟩
  · exact .inl ⟨name, header, rfl⟩
  · exact .inr ⟨empty, name, listed, rfl⟩

theorem find?_eq_self (claims : List (List UInt8)) (name : List UInt8) :
    claims.find? (· = name) = if name ∈ claims then some name else none := by
  induction claims with
  | nil => rfl
  | cons claim claims ih =>
      by_cases same : claim = name
      · simp [same]
      · rw [List.find?_cons_of_neg (by simpa using same), ih]
        simp [Ne.symm same]

/-- The table has a name if it is spelled like the setting. -/
theorem scrubTable_eq (config : Config) (name : List UInt8) :
    scrubTable config name = if Spelled config name then some name else none := by
  obtain ⟨claimPrefix, whiteListedClaims, authnHeader⟩ := config
  cases authnHeader with
  | none =>
      simp only [scrubTable, Spelled, find?_eq_self, reduceCtorEq, false_or, ite_and]
  | some authnHdr =>
      by_cases same : name = authnHdr
      · simp [scrubTable, Spelled, same]
      · have apart : authnHdr ≠ name := fun equal => same equal.symm
        simp only [scrubTable, Spelled, Function.update_of_ne same, find?_eq_self,
          Option.some.injEq,
          apart, false_or, ite_and]

/-- The first pass removes what has the default prefix or is spelled like a setting. -/
theorem scrubRequestHeaders_table (config : Config) (headers : List Header) :
    scrubRequestHeaders headers defaultHeaderPrefix (some (scrubTable config)) =
      headers.filter fun header =>
        ¬(envName defaultHeaderPrefix <+: envName header.name) ∧ ¬Spelled config header.name := by
  refine List.filter_congr fun header _ => ?_
  have begins := strnenvcmp_front header.name defaultHeaderPrefix
  simp only [Option.bind_some, scrubTable_eq]
  by_cases spelled : Spelled config header.name
  · simp [spelled, (strnenvcmp_whole header.name header.name).mpr rfl]
  · have something : defaultHeaderPrefix.length ≠ 0 := by decide
    simp [spelled, begins, something]

/-- The second pass removes what has the prefix for claims. -/
theorem scrubRequestHeaders_unlisted (claimPrefix : List UInt8) (headers : List Header) :
    scrubRequestHeaders headers claimPrefix none =
      headers.filter fun header =>
        ¬(claimPrefix ≠ [] ∧ envName claimPrefix <+: envName header.name) := by
  refine List.filter_congr fun header _ => ?_
  have begins := strnenvcmp_front header.name claimPrefix
  by_cases empty : claimPrefix = []
  · simp [empty]
  · simp [empty, begins]

/-- What is left has no prefix of the module and is not spelled like a setting. -/
theorem scrubHeaders_eq_filter (config : Config) (headers : List Header) :
    scrubHeaders config headers = headers.filter fun header =>
      ¬Prefixed config header.name ∧ ¬Spelled config header.name := by
  unfold scrubHeaders
  rw [scrubRequestHeaders_table]
  dsimp only
  split
  · next default =>
      refine List.filter_congr fun header _ => ?_
      have longer : envName config.claimPrefix <+: envName header.name →
          envName defaultHeaderPrefix <+: envName header.name :=
        (default.map charToEnv).trans
      have same : Prefixed config header.name ↔
        envName defaultHeaderPrefix <+: envName header.name :=
        ⟨fun begins => begins.elim id fun claim => longer claim.2, .inl⟩
      simp only [same]
  · rw [scrubRequestHeaders_unlisted, List.filter_filter]
    refine List.filter_congr fun header _ => ?_
    rw [← Bool.decide_and, decide_eq_decide, Prefixed]
    tauto

/-- Scrubbing removes the headers that an application may take for an identity, and no others, if
and only if each header that stands for one that the module sets is spelled like it or begins with a
prefix of the module. -/
theorem scrubHeaders_iff (config : Config) (headers : List Header) :
    (scrubHeaders config headers = headers.filter fun header =>
        ¬(Prefixed config header.name ∨ Named config header.name)) ↔
      ∀ header ∈ headers, Named config header.name →
        Spelled config header.name ∨ Prefixed config header.name := by
  rw [scrubHeaders_eq_filter]
  constructor
  · intro same header member named
    by_contra neither
    rw [not_or] at neither
    have kept : header ∈ headers.filter fun header =>
        ¬(Prefixed config header.name ∨ Named config header.name) := by
      rw [← same]
      exact List.mem_filter.mpr ⟨member, decide_eq_true ⟨neither.2, neither.1⟩⟩
    exact of_decide_eq_true (List.mem_filter.mp kept).2 (.inr named)
  · intro spelled
    refine List.filter_congr fun header member => decide_eq_decide.mpr ?_
    have known := spelled header member
    have named : Spelled config header.name → Named config header.name := Spelled.named
    tauto

/-- The default prefix, and `X-User` for the remote user. -/
def userConfig : Config where
  claimPrefix := defaultClaimPrefix
  whiteListedClaims := []
  authnHeader := some [88, 45, 85, 115, 101, 114]

/-- `x-user: root`. -/
def forgedHeader : Header where
  name := [120, 45, 117, 115, 101, 114]
  value := [114, 111, 111, 116]

/-- The client sends the header in lower case, and it stays. -/
theorem forged_header_kept :
    Named userConfig forgedHeader.name ∧ scrubHeaders userConfig [forgedHeader] = [forgedHeader] ∧
      scrubHeaders userConfig [forgedHeader] ≠ [forgedHeader].filter fun header =>
        ¬(Prefixed userConfig header.name ∨ Named userConfig header.name) := by
  decide +kernel

end Scrub

end ModAuthOpenidc
