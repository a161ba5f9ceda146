import ModAuthOpenidc.CaseTable

/-!
# Form parameters

The query string of an authorization response and the body of a posted one are read into a table
with case-insensitive keys. Some parameters must not be repeated. This file determines for which
inputs the value in the table is the one of the parameter with exactly the given name. A `char` of
the source is a character here.
-/

namespace ModAuthOpenidc

namespace Http

/-! ## Decoding -/

/-- `oidc_http_url_decode_hex_digit`. -/
def urlDecodeHexDigit (c : Char) : Option Nat :=
  if '0' ≤ c ∧ c ≤ '9' then some (c.toNat - '0'.toNat)
  else if 'A' ≤ c ∧ c ≤ 'F' then some (c.toNat - 'A'.toNat + 10)
  else if 'a' ≤ c ∧ c ≤ 'f' then some (c.toNat - 'a'.toNat + 10)
  else none

/-- The character of a `%XX` sequence, if it is well formed. -/
def urlDecodeTriplet (first second : Char) : Option Char :=
  (urlDecodeHexDigit first).bind fun hi =>
    (urlDecodeHexDigit second).map fun lo => Char.ofNat (hi * 16 + lo)

/-- The loop of `oidc_http_url_decode`: a malformed or truncated sequence is copied. -/
def urlDecodeLoop : List Char → List Char
  | [] => []
  | '+' :: rest => ' ' :: urlDecodeLoop rest
  | '%' :: first :: second :: rest =>
      match urlDecodeTriplet first second with
      | some c => c :: urlDecodeLoop rest
      | none => '%' :: urlDecodeLoop (first :: second :: rest)
  | c :: rest => c :: urlDecodeLoop rest

/-- `oidc_http_url_decode`: the result ends at its first null. -/
def urlDecode (str : String) : String :=
  String.ofList ((urlDecodeLoop str.toList).takeWhile (· ≠ '\x00'))

/-! ## Splitting -/

/-- `ap_getword`: the text up to a character, and what follows its run. -/
def getword (stop : Char) (line : List Char) : List Char × List Char :=
  (line.takeWhile (· ≠ stop), (line.dropWhile (· ≠ stop)).dropWhile (· = stop))

/-- The words that repeated `ap_getword` takes off a text.  Every call takes a character off. -/
def getwords (stop : Char) : Nat → List Char → List (List Char)
  | 0, _ => []
  | _, [] => []
  | fuel + 1, line => (getword stop line).1 :: getwords stop fuel (getword stop line).2

/-- The name and the value of one word, decoded. -/
def formParam (word : List Char) : String × String :=
  let (key, val) := getword '=' word
  (urlDecode (String.ofList key), urlDecode (String.ofList val))

/-- The parameters of an input, in order. -/
def formParams (data : Option String) : List (String × String) :=
  match data with
  | none => []
  | some data => (getwords '&' data.length data.toList).map formParam

/-- The calls take the whole text, however many more there are. -/
theorem getwords_enough (stop : Char) {fuel : Nat} {line : List Char}
    (enough : line.length ≤ fuel) :
    getwords stop (fuel + 1) line = getwords stop fuel line := by
  induction fuel generalizing line with
  | zero =>
      obtain rfl : line = [] := List.length_eq_zero_iff.mp (Nat.le_zero.mp enough)
      rfl
  | succ fuel ih =>
      cases line with
      | nil => rfl
      | cons c line =>
          -- the stop character itself is dropped when it comes first
          have rest : (getword stop (c :: line)).2.length ≤ line.length := by
            rw [getword]
            dsimp only
            by_cases stops : c = stop
            · rw [List.dropWhile_cons_of_neg (by simpa using stops),
                List.dropWhile_cons_of_pos (by simpa using stops)]
              exact (List.dropWhile_sublist _).length_le
            · rw [List.dropWhile_cons_of_pos (by simpa using stops)]
              exact (List.dropWhile_sublist _).length_le.trans (List.dropWhile_sublist _).length_le
          rw [List.length_cons] at enough
          have later := ih (rest.trans (Nat.le_of_succ_le_succ enough))
          exact congrArg ((getword stop (c :: line)).1 :: ·) later

/-! ## Reading -/

/-- `oidc_util_param_must_not_repeat`. -/
def paramMustNotRepeat (noRepeat : Option (List String)) (key : String) : Bool :=
  noRepeat.any fun names => names.any (· = key)

/-- The loop of `oidc_util_read_form_encoded_params_impl`. -/
def readParams (noRepeat : Option (List String)) :
    List (String × String) → List (String × String) → List (String × String) × Bool
  | [], table => (table, true)
  | (key, val) :: rest, table =>
      if paramMustNotRepeat noRepeat key && (CaseTable.get table key).isSome then (table, false)
      else readParams noRepeat rest (CaseTable.set table key val)

/-- `oidc_util_read_form_encoded_params_impl`: the table afterwards and the result. -/
def readFormEncodedParamsImpl (table : List (String × String)) (data : Option String)
    (noRepeat : Option (List String)) : List (String × String) × Bool :=
  readParams noRepeat (formParams data) table

/-- `oidc_util_read_form_encoded_params_reject_dup`. -/
def readFormEncodedParamsRejectDup (table : List (String × String)) (data : Option String)
    (noRepeat : List String) : List (String × String) × Bool :=
  readFormEncodedParamsImpl table data (some noRepeat)

/-! ## Repeated parameters -/

/-- No parameter that must not be repeated comes after one whose name is the same up to case. -/
def Unrepeated (noRepeat : List String) (params : List (String × String)) : Prop :=
  params.Pairwise fun first second =>
    second.1 ∈ noRepeat → CaseTable.fold first.1 ≠ CaseTable.fold second.1

/-- The value of the first parameter with exactly a certain name. -/
def exactValue (params : List (String × String)) (name : String) : Option String :=
  (params.find? fun param => param.1 = name).map Prod.snd

/-- The value of the last parameter whose name is a certain one up to case. -/
def lastValue (params : List (String × String)) (name : String) : Option String :=
  (params.filter fun param => CaseTable.fold param.1 = CaseTable.fold name).getLast?.map Prod.snd

section Reading

variable {noRepeat : List String} {params : List (String × String)}

theorem paramMustNotRepeat_iff {name : String} :
    paramMustNotRepeat (some noRepeat) name = true ↔ name ∈ noRepeat := by
  simp [paramMustNotRepeat]

theorem lastValue_cons (param : String × String) (params : List (String × String)) (name : String) :
    lastValue (param :: params) name = (lastValue params name).or
      (if CaseTable.fold name = CaseTable.fold param.1 then some param.2 else none) := by
  rw [lastValue, List.filter_cons]
  by_cases same : CaseTable.fold param.1 = CaseTable.fold name
  · rw [if_pos (by simpa using same), if_pos same.symm, List.getLast?_cons, lastValue]
    cases (params.filter fun param => CaseTable.fold param.1 = CaseTable.fold name).getLast? with
    | none => rfl
    | some last => rfl
  · rw [if_neg (by simpa using same), if_neg fun equal =>
      same equal.symm, lastValue, Option.or_none]

/-- The table ends up with the last value of each name. -/
theorem get_readParams {table final : List (String × String)}
    (read : readParams (some noRepeat) params table = (final, true)) (name : String) :
    CaseTable.get final name = (lastValue params name).or (CaseTable.get table name) := by
  induction params generalizing table with
  | nil =>
      cases read
      rfl
  | cons param params ih =>
      rw [readParams] at read
      split at read
      · cases read
      · rw [ih read, CaseTable.get_set, lastValue_cons, Option.or_assoc]
        split <;> rfl

/-- Reading succeeds if nothing is repeated, also with respect to what is in the table already. -/
theorem readParams_snd_iff (table : List (String × String)) :
    (readParams (some noRepeat) params table).2 = true ↔
      (∀ param ∈ params, param.1 ∈ noRepeat → CaseTable.get table param.1 = none) ∧
        Unrepeated noRepeat params := by
  induction params generalizing table with
  | nil => simp [readParams, Unrepeated]
  | cons param params ih =>
      obtain ⟨key, val⟩ := param
      rw [readParams, Unrepeated, List.pairwise_cons]
      by_cases rejected : paramMustNotRepeat (some noRepeat) key &&
          (CaseTable.get table key).isSome
      · rw [if_pos rejected]
        rw [Bool.and_eq_true, paramMustNotRepeat_iff] at rejected
        obtain ⟨listed, present⟩ := rejected
        refine iff_of_false nofun fun accepted => ?_
        rw [accepted.1 (key, val) List.mem_cons_self listed] at present
        cases present
      · rw [if_neg rejected, ih]
        rw [Bool.and_eq_true, paramMustNotRepeat_iff, not_and] at rejected
        constructor
        · rintro ⟨absent, unrepeated⟩
          refine ⟨fun other member listed => ?_, fun other member listed same => ?_, unrepeated⟩
          · rcases List.mem_cons.mp member with rfl | later
            · exact Option.not_isSome_iff_eq_none.mp (rejected listed)
            · have unset := absent other later listed
              rw [CaseTable.get_set] at unset
              split at unset
              · cases unset
              · exact unset
          · have unset := absent other member listed
            rw [CaseTable.get_set, if_pos same.symm] at unset
            cases unset
        · rintro ⟨absent, apart, unrepeated⟩
          refine ⟨fun other member listed => ?_, unrepeated⟩
          rw [CaseTable.get_set, if_neg fun same => apart other member listed same.symm]
          exact absent other (List.mem_cons_of_mem _ member) listed

/-- A parameter that must not be repeated occurs once at most. -/
theorem Unrepeated.once (unrepeated : Unrepeated noRepeat params) {name : String}
    (listed : name ∈ noRepeat) : (params.filter fun param => param.1 = name).length ≤ 1 := by
  have apart := unrepeated.filter fun param => decide (param.1 = name)
  have named : ∀ param ∈ params.filter fun param => param.1 = name, param.1 = name :=
    fun param member => of_decide_eq_true (List.mem_filter.mp member).2
  cases found : params.filter fun param => param.1 = name with
  | nil => exact Nat.zero_le 1
  | cons first rest =>
      cases rest with
      | nil => exact Nat.le_refl 1
      | cons second rest =>
          rw [found] at apart named
          have one := named first List.mem_cons_self
          have two := named second (List.mem_cons_of_mem _ List.mem_cons_self)
          have differ := (List.pairwise_cons.mp apart).1 second List.mem_cons_self (two ▸ listed)
          exact absurd (congrArg CaseTable.fold (one.trans two.symm)) differ

/-- If the parameters are accepted, each of those that must not be repeated occurs once at most, and
the table has its value: this is so if and only if a parameter is repeated (and the input is
rejected), or the last parameter with such a name up to case has the value of the one with exactly
this name. -/
theorem readFormEncodedParamsRejectDup_iff (data : Option String) (noRepeat : List String) :
    (∀ table, readFormEncodedParamsRejectDup [] data noRepeat = (table, true) →
      ∀ name ∈ noRepeat, ((formParams data).filter fun param => param.1 = name).length ≤ 1 ∧
        CaseTable.get table name = exactValue (formParams data) name) ↔
      ¬Unrepeated noRepeat (formParams data) ∨
        ∀ name ∈ noRepeat, lastValue (formParams data) name = exactValue
            (formParams data) name := by
  have accepted : (readParams (some noRepeat) (formParams data) []).2 = true ↔
      Unrepeated noRepeat (formParams data) := by
    rw [readParams_snd_iff]
    exact and_iff_right fun param _ _ => CaseTable.get_nil param.1
  have value : ∀ {table}, readFormEncodedParamsRejectDup [] data noRepeat = (table, true) →
      ∀ name, CaseTable.get table name = lastValue (formParams data) name := by
    intro table read name
    rw [get_readParams read name, CaseTable.get_nil, Option.or_none]
  constructor
  · intro sound
    by_cases unrepeated : Unrepeated noRepeat (formParams data)
    · refine .inr fun name listed => ?_
      have read : readFormEncodedParamsRejectDup [] data noRepeat =
          ((readFormEncodedParamsRejectDup [] data noRepeat).1, true) :=
        Prod.ext rfl (accepted.mpr unrepeated)
      rw [← value read name]
      exact (sound _ read name listed).2
    · exact .inl unrepeated
  · rintro known table read name listed
    have unrepeated : Unrepeated noRepeat (formParams data) := accepted.mp (congrArg Prod.snd read)
    refine ⟨unrepeated.once listed, ?_⟩
    rw [value read name]
    exact known.resolve_left (not_not_intro unrepeated) name listed

end Reading

/-- `OIDC_RESPONSE_NO_REPEAT`. -/
def responseNoRepeat : List String := ["state", "code", "access_token", "id_token"]

/-- The state in capitals replaces the one that must not be repeated. -/
theorem capital_state_replaces :
    readFormEncodedParamsRejectDup [] (some "state=mine&STATE=other") responseNoRepeat =
        ([("state", "other")], true) ∧
      exactValue (formParams (some "state=mine&STATE=other")) "state" = some "mine" := by
  decide +kernel

end Http

end ModAuthOpenidc
