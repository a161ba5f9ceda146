import ModAuthOpenidc.CaseTable
import ModAuthOpenidc.Http.StripCookies
import ModAuthOpenidc.Proto.State
import ModAuthOpenidc.Util.Appinfo

/-!
# Passing claims in tables

The claims of a user are set as headers and as environment variables. One function collects the
values in scratch tables and merges them into the tables of the request at the end, and another sets
them one by one. A scratch table holds pointers: to texts that live as long as the request, or to an
array of a function that has returned when the table is read.
-/

namespace ModAuthOpenidc

namespace Util

namespace AppinfoTables

open CaseTable Appinfo

/-! ## Values -/

/-- A pointer to a text. -/
inductive CStr
  /-- A text in the pool of the request. -/
  | pool (text : String)
  /-- The array `s_int` of `oidc_util_appinfo_set_one`, and what it holds while that runs. -/
  | sInt (text : String)
  deriving DecidableEq

namespace CStr

/-- What is read while the claim is passed. -/
def text : CStr → String
  | pool text => text
  | sInt text => text

/-- What is read later, when something else is where the array was. -/
def later (dead : String) : CStr → String
  | pool text => text
  | sInt _ => dead

end CStr

/-- `oidc_appinfo_encoding_t`. -/
inductive Encoding
  | none
  | base64url
  | latin1
  deriving DecidableEq

/-- The flags of `oidc_appinfo_pass_in_t`. -/
structure PassIn where
  headers : Bool
  envvars : Bool

/-- The functions that print numbers and objects. -/
structure Library where
  /-- `oidc_json_encode`, which has no result if an object cannot be written. -/
  encode : Json → Option String
  /-- `apr_psprintf` with `%.8g`. -/
  formatReal : Rat → String

/-- `oidc_appinfo_ctx_t` without its tables. -/
structure Ctx where
  claimPrefix : String
  claimDelimiter : String
  passIn : PassIn
  encoding : Encoding

/-- The tables of a request. -/
structure Request where
  headersIn : List (String × String)
  subprocessEnv : List (String × Option CStr)

/-- The tables of a request, and the scratch tables of `oidc_appinfo_ctx_t`. -/
structure Tables extends Request where
  headers : Option (List (String × String)) := none
  env : Option (List (String × Option CStr)) := none

/-! ## Rendering -/

/-- The separators of `oidc_http_hdr_normalize_name`. -/
def separators : List Char := "()<>@,;:\\\"/[]?=\x7b\x7d \t".toList

/-- `oidc_http_hdr_normalize_name`, for characters with a sign. -/
def hdrNormalizeName (name : String) : String :=
  String.ofList (name.toList.map fun c =>
    if c.toNat < 32 ∨ 127 ≤ c.toNat ∨ c ∈ separators then '-' else c)

/-- The loop of `_oidc_util_appinfo_utf8_to_latin1`, with the code point so far. -/
def utf8ToLatin1Loop : Nat → List Char → List Char
  | _, [] => []
  | cp, c :: src =>
      let ch := c.toNat
      let cp :=
        if ch ≤ 0x7f then ch
        else if ch ≤ 0xbf then (cp <<< 6 ||| (ch &&& 0x3f)) % 2 ^ 32
        else if ch ≤ 0xdf then ch &&& 0x1f
        else if ch ≤ 0xef then ch &&& 0x0f
        else ch &&& 0x07
      if src.head?.all (fun c => c.toNat &&& 0xc0 ≠ 0x80) ∧ cp ≤ 0x10ffff then
        (if cp ≤ 255 then Char.ofNat cp else '?') :: utf8ToLatin1Loop cp src
      else utf8ToLatin1Loop cp src

/-- `_oidc_util_appinfo_utf8_to_latin1`. -/
def utf8ToLatin1 (src : String) : String :=
  String.ofList ((utf8ToLatin1Loop 0 src.toList).takeWhile fun c => c.toNat ≠ 0)

/-- The value that `oidc_util_appinfo_render` makes. -/
def renderValue (encoding : Encoding) (value : Option CStr) : Option CStr :=
  value.map fun value =>
    match encoding with
    | .none => value
    | .base64url =>
        ((State.base64urlEncode (value.text.toList.map fun c => UInt8.ofNat c.toNat)).map
          .pool).getD value
    | .latin1 => .pool (utf8ToLatin1 value.text)

/-- The name that `oidc_util_appinfo_render` makes. -/
def renderName (ctx : Ctx) (key : String) : String := ctx.claimPrefix ++ hdrNormalizeName key

/-! ## Passing one claim -/

/-- A header value without line breaks. -/
def hdrValue (value : CStr) : String := String.ofList (Http.hdrValueSanitize value.text.toList)

/-- `oidc_http_hdr_table_set`. -/
def hdrTableSet (table : List (String × String)) (name : String) (value : Option CStr) :
    List (String × String) :=
  match value with
  | some value => set table name (hdrValue value)
  | none => unset table name

/-- `oidc_http_hdr_table_add`. -/
def hdrTableAdd (table : List (String × String)) (name : String) (value : CStr) :
    List (String × String) :=
  table ++ [(name, hdrValue value)]

/-- `apr_table_set`, which copies the value. -/
def aprTableSet (table : List (String × Option CStr)) (name : String) (value : Option CStr) :
    List (String × Option CStr) :=
  set table name (value.map fun value => .pool value.text)

/-- `apr_table_addn`, which does not. -/
def aprTableAddn (table : List (String × Option CStr)) (name : String) (value : CStr) :
    List (String × Option CStr) :=
  table ++ [(name, some value)]

section Setting

variable (library : Library) (ctx : Ctx)

/-- `oidc_util_appinfo_pair_apply`. -/
def pairApply (name : String) (value : Option CStr) (tables : Tables) : Tables :=
  let scratch := tables.headers.isSome || tables.env.isSome
  let tables :=
    if ctx.passIn.headers then
      match value, scratch with
      | some value, true =>
          { tables with headers := tables.headers.map (hdrTableAdd · name value) }
      | value, _ => { tables with headersIn := hdrTableSet tables.headersIn name value }
    else tables
  if ctx.passIn.envvars then
    match value, scratch with
    | some value, true => { tables with env := tables.env.map (aprTableAddn · name value) }
    | value, _ => { tables with subprocessEnv := aprTableSet tables.subprocessEnv name value }
  else tables

/-- `oidc_util_appinfo_set_impl`. -/
def setImpl (key : String) (value : Option CStr) (tables : Tables) : Tables :=
  pairApply ctx (renderName ctx key) (renderValue ctx.encoding value) tables

/-- The text that `oidc_util_appinfo_set_one` makes of a claim; other values have none. -/
def claimValue : Json → Option (Option CStr)
  | .str value => some (some (.pool value))
  | .bool value => some (some (.pool (if value then "1" else "0")))
  | .int value => some (some (.sInt (toString value)))
  | .real value => some (some (.pool (library.formatReal value)))
  | .obj members => some ((library.encode (.obj members)).map .pool)
  | .arr elements => some (some (.pool (arrayConcat elements ctx.claimDelimiter)))
  | .null => none

/-- `oidc_util_appinfo_set_one`. -/
def setOne (tables : Tables) (member : String × Json) : Tables :=
  match claimValue library ctx member.2 with
  | none => tables
  | some value => setImpl ctx member.1 value tables

/-- `oidc_util_appinfo_set_all`. -/
def setAll (attrs : Option Object) (r : Request) : Request :=
  match attrs with
  | none => r
  | some attrs =>
      let tables := attrs.foldl (setOne library ctx)
        { r with
          headers := if ctx.passIn.headers then some [] else none
          env := if ctx.passIn.envvars then some [] else none }
      { headersIn := (tables.headers.map (overlapSet tables.headersIn)).getD tables.headersIn
        subprocessEnv :=
          (tables.env.map (overlapSet tables.subprocessEnv)).getD tables.subprocessEnv }

/-- The claims are set one by one, without scratch tables. -/
def setEach (attrs : Option Object) (r : Request) : Request :=
  match attrs with
  | none => r
  | some attrs => (attrs.foldl (setOne library ctx) { r with }).toRequest

end Setting

/-- The value of an environment variable when it is read later. -/
def lookup (dead : String) (env : List (String × Option CStr)) (key : String) : Option String :=
  (get env key).join.map (CStr.later dead)

/-! ## Claims and names -/

/-- An object that cannot be written. -/
def Unencodable (library : Library) (value : Json) : Prop :=
  value.isObject = true ∧ library.encode value = none

/-- A whole number. -/
def isInteger : Json → Bool
  | .int _ => true
  | _ => false

/-- A value that is passed. -/
def isHandled : Json → Bool
  | .null => false
  | _ => true

section Claims

variable (library : Library) (ctx : Ctx)

/-- The claims that are passed under a name. -/
def named (attrs : Object) (name : String) : Object :=
  attrs.filter fun member =>
    isHandled member.2 && fold (renderName ctx member.1) = fold name

/-- The value that is passed for a claim. -/
def rendered (member : String × Json) : Option CStr :=
  renderValue ctx.encoding (claimValue library ctx member.2).join

/-- The names and values of all claims that are passed. -/
def pairs (attrs : Object) : List (String × Option CStr) :=
  attrs.filterMap fun member =>
    (claimValue library ctx member.2).map fun value =>
      (renderName ctx member.1, renderValue ctx.encoding value)

end Claims

section Runs

variable {library : Library} {ctx : Ctx}

theorem setOne_eq (tables : Tables) (member : String × Json) :
    setOne library ctx tables member =
      (pairs library ctx [member]).foldl (fun tables pair => pairApply ctx pair.1 pair.2 tables)
        tables := by
  unfold setOne pairs
  cases found : claimValue library ctx member.2 with
  | none => simp [found]
  | some value => simp [found, setImpl]

/-- The claims are passed pair by pair. -/
theorem foldl_setOne (attrs : Object) (tables : Tables) :
    attrs.foldl (setOne library ctx) tables =
      (pairs library ctx attrs).foldl (fun tables pair => pairApply ctx pair.1 pair.2 tables)
        tables := by
  induction attrs generalizing tables with
  | nil => rfl
  | cons member attrs ih =>
      have parts : pairs library ctx (member :: attrs) =
          pairs library ctx [member] ++ pairs library ctx attrs := by
        rw [pairs, pairs, pairs, ← List.filterMap_append, List.singleton_append]
      rw [List.foldl_cons, ih, setOne_eq, parts, List.foldl_append]

theorem isSome_claimValue (value : Json) :
    (claimValue library ctx value).isSome = isHandled value := by
  cases value <;> rfl

/-- The values that are passed under a name. -/
theorem values_pairs (attrs : Object) (name : String) :
    values (pairs library ctx attrs) name =
      (named ctx attrs name).map (rendered library ctx) := by
  induction attrs with
  | nil => rfl
  | cons member attrs ih =>
      have handled : (claimValue library ctx member.2).isSome = isHandled member.2 :=
        isSome_claimValue member.2
      unfold pairs named at ih ⊢
      rw [List.filterMap_cons, List.filter_cons]
      cases found : claimValue library ctx member.2 with
      | none =>
          rw [found] at handled
          rw [← handled, Option.map_none, Option.isSome_none, Bool.false_and]
          exact ih
      | some value =>
          rw [found] at handled
          rw [← handled, Option.map_some, Option.isSome_some, Bool.true_and, values_cons, ih]
          by_cases same : fold (renderName ctx member.1) = fold name
          · rw [if_pos same, if_pos (decide_eq_true same), List.map_cons, rendered, found,
              Option.join_some]
          · rw [if_neg same, if_neg (by simpa using same)]

/-! ## Both ways of passing -/

/-- Pass pairs one after the other. -/
def applyAll (ctx : Ctx) (pairs : List (String × Option CStr)) (tables : Tables) : Tables :=
  pairs.foldl (fun tables pair => pairApply ctx pair.1 pair.2 tables) tables

theorem hdrTableSet_eq (table : List (String × String)) (name : String) (value : Option CStr) :
    hdrTableSet table name value = assign table name (value.map hdrValue) := by
  cases value <;> rfl

/-- Header values for pointers. -/
def hdrPairs (pairs : List (String × Option CStr)) : List (String × Option String) :=
  pairs.map fun pair => (pair.1, pair.2.map hdrValue)

/-- Copies for pointers. -/
def envPairs (pairs : List (String × Option CStr)) : List (String × Option CStr) :=
  pairs.map fun pair => (pair.1, pair.2.map fun value => .pool value.text)

/-- Without scratch tables the tables of the request are set. -/
theorem applyAll_direct (pairs : List (String × Option CStr)) (r : Request) :
    applyAll ctx pairs { r with } =
      { headersIn := if ctx.passIn.headers then
          (hdrPairs pairs).foldl (fun table pair => assign table pair.1 pair.2) r.headersIn
          else r.headersIn
        subprocessEnv := if ctx.passIn.envvars then
          (envPairs pairs).foldl (fun table pair => set table pair.1 pair.2) r.subprocessEnv
          else r.subprocessEnv } := by
  induction pairs generalizing r with
  | nil =>
      unfold applyAll
      simp [hdrPairs, envPairs]
  | cons pair pairs ih =>
      have step : pairApply ctx pair.1 pair.2 { r with } =
          { headersIn := if ctx.passIn.headers then
              assign r.headersIn pair.1 (pair.2.map hdrValue) else r.headersIn
            subprocessEnv := if ctx.passIn.envvars then
              set r.subprocessEnv pair.1 (pair.2.map fun value => .pool value.text)
              else r.subprocessEnv } := by
        unfold pairApply
        rw [← hdrTableSet_eq]
        cases ctx.passIn.headers <;> cases ctx.passIn.envvars <;> cases pair.2 <;> rfl
      have more := ih
        { headersIn := if ctx.passIn.headers then
              assign r.headersIn pair.1 (pair.2.map hdrValue) else r.headersIn
          subprocessEnv := if ctx.passIn.envvars then
              set r.subprocessEnv pair.1 (pair.2.map fun value => .pool value.text)
              else r.subprocessEnv }
      unfold applyAll at more ⊢
      rw [List.foldl_cons, step, more]
      cases ctx.passIn.headers <;> cases ctx.passIn.envvars <;> rfl

/-- With scratch tables, values are collected there, and the other names are unset at once. -/
theorem applyAll_batched (pairs : List (String × Option CStr)) (r : Request)
    (headers : List (String × String)) (env : List (String × Option CStr)) :
    applyAll ctx pairs
        { r with
          headers := if ctx.passIn.headers then some headers else none
          env := if ctx.passIn.envvars then some env else none } =
      { headersIn := if ctx.passIn.headers then (absent pairs).foldl unset r.headersIn
          else r.headersIn
        subprocessEnv := if ctx.passIn.envvars then
          (absent pairs).foldl (fun table name => set table name none) r.subprocessEnv
          else r.subprocessEnv
        headers := if ctx.passIn.headers then some (headers ++ present (hdrPairs pairs)) else none
        env := if ctx.passIn.envvars then
          some (env ++ (present pairs).map fun entry => (entry.1, some entry.2)) else none } := by
  induction pairs generalizing r headers env with
  | nil =>
      unfold applyAll
      simp [hdrPairs, absent, present]
  | cons pair pairs ih =>
      rcases pair with ⟨name, value⟩
      unfold applyAll at ih ⊢
      rw [List.foldl_cons]
      cases value with
      | none =>
          have step : pairApply ctx name none
              { r with
                headers := if ctx.passIn.headers then some headers else none
                env := if ctx.passIn.envvars then some env else none } =
              { headersIn := if ctx.passIn.headers then unset r.headersIn name else r.headersIn
                subprocessEnv := if ctx.passIn.envvars then set r.subprocessEnv name none
                  else r.subprocessEnv
                headers := if ctx.passIn.headers then some headers else none
                env := if ctx.passIn.envvars then some env else none } := by
            unfold pairApply
            cases ctx.passIn.headers <;> cases ctx.passIn.envvars <;> rfl
          have more := ih
            { headersIn := if ctx.passIn.headers then unset r.headersIn name else r.headersIn
              subprocessEnv := if ctx.passIn.envvars then set r.subprocessEnv name none
                else r.subprocessEnv } headers env
          rw [step, more]
          cases ctx.passIn.headers <;> cases ctx.passIn.envvars <;> rfl
      | some value =>
          have step : pairApply ctx name (some value)
              { r with
                headers := if ctx.passIn.headers then some headers else none
                env := if ctx.passIn.envvars then some env else none } =
              { r with
                headers := if ctx.passIn.headers then some (headers ++ [(name, hdrValue value)])
                  else none
                env := if ctx.passIn.envvars then some (env ++ [(name, some value)])
                  else none } := by
            unfold pairApply
            cases ctx.passIn.headers <;> cases ctx.passIn.envvars <;> rfl
          have more := ih r (headers ++ [(name, hdrValue value)]) (env ++ [(name, some value)])
          rw [step, more]
          cases ctx.passIn.headers <;> cases ctx.passIn.envvars <;>
            simp [hdrPairs, absent, present]

/-! ## What is found afterwards -/

/-- The texts that are passed under a name. -/
def passed (library : Library) (ctx : Ctx) (read : CStr → String) (attrs : Object)
    (name : String) : List (Option String) :=
  (named ctx attrs name).map fun member => (rendered library ctx member).map read

theorem values_hdrPairs (attrs : Object) (name : String) :
    values (hdrPairs (pairs library ctx attrs)) name = passed library ctx hdrValue attrs name := by
  rw [hdrPairs, values_map, values_pairs, List.map_map]
  rfl

theorem absent_hdrPairs (pairs : List (String × Option CStr)) :
    absent (hdrPairs pairs) = absent pairs := by
  rw [absent, absent, hdrPairs, List.filterMap_map]
  apply List.filterMap_congr
  intro pair _
  rw [Function.comp_apply, Option.isNone_map]

theorem get_setEach_headers (attrs : Object) (r : Request) (name : String) :
    get (setEach library ctx (some attrs) r).headersIn name =
      if ctx.passIn.headers then
        (passed library ctx hdrValue attrs name).getLast?.getD (get r.headersIn name)
      else get r.headersIn name := by
  have run := @applyAll_direct ctx (pairs library ctx attrs) r
  rw [applyAll, ← foldl_setOne] at run
  rw [setEach, run]
  dsimp only
  split
  · rw [get_foldl_assign, values_hdrPairs]
  · rfl

theorem get_setAll_headers {r : Request} (unique : Unique r.headersIn) (attrs : Object)
    (name : String) :
    get (setAll library ctx (some attrs) r).headersIn name =
      if ctx.passIn.headers then
        (passed library ctx hdrValue attrs name).reduceOption.getLast?.or
          (if (passed library ctx hdrValue attrs name).any Option.isNone then none
            else get r.headersIn name)
      else get r.headersIn name := by
  have run := @applyAll_batched ctx (pairs library ctx attrs) r [] []
  rw [applyAll, ← foldl_setOne] at run
  rw [setAll, run]
  dsimp only
  split
  · rw [Option.map_some, Option.getD_some, List.nil_append, ← absent_hdrPairs,
      get_overlapSet_unset unique, values_hdrPairs]
  · rfl

theorem lookup_setEach_env (attrs : Object) (r : Request) (dead name : String) :
    lookup dead (setEach library ctx (some attrs) r).subprocessEnv name =
      if ctx.passIn.envvars then
        (passed library ctx CStr.text attrs name).getLast?.getD (lookup dead r.subprocessEnv name)
      else lookup dead r.subprocessEnv name := by
  have run := @applyAll_direct ctx (pairs library ctx attrs) r
  rw [applyAll, ← foldl_setOne] at run
  rw [setEach, run, lookup]
  dsimp only
  split
  · rw [get_foldl_set, envPairs, values_map, values_pairs, passed, List.getLast?_map,
      List.getLast?_map, List.getLast?_map]
    cases (named ctx attrs name).getLast? with
    | none => rfl
    | some last =>
        simp only [Option.map_some, Option.getD_some]
        cases rendered library ctx last <;> rfl
  · rfl

theorem lookup_setAll_env {r : Request} (unique : Unique r.subprocessEnv) (attrs : Object)
    (dead name : String) :
    lookup dead (setAll library ctx (some attrs) r).subprocessEnv name =
      if ctx.passIn.envvars then
        (passed library ctx (CStr.later dead) attrs name).reduceOption.getLast?.or
          (if (passed library ctx (CStr.later dead) attrs name).any Option.isNone then none
            else lookup dead r.subprocessEnv name)
      else lookup dead r.subprocessEnv name := by
  have run := @applyAll_batched ctx (pairs library ctx attrs) r [] []
  rw [applyAll, ← foldl_setOne] at run
  rw [setAll, run, lookup]
  dsimp only
  split
  · have texts : passed library ctx (CStr.later dead) attrs name =
        (values (pairs library ctx attrs) name).map (Option.map (CStr.later dead)) := by
      rw [values_pairs, List.map_map]
      rfl
    have gone : (passed library ctx (CStr.later dead) attrs name).any Option.isNone =
        (values (pairs library ctx attrs) name).any Option.isNone := by
      rw [texts, List.any_map]
      congr 1
      funext value
      rw [Function.comp_apply, Option.isNone_map]
    rw [Option.map_some, Option.getD_some, List.nil_append, get_overlapSet_set unique, gone, texts,
      List.reduceOption_map, List.getLast?_map, Option.map_or,
      apply_ite (Option.map (CStr.later dead))]
    rfl
  · rfl

end Runs

/-! ## Agreement -/

/-- Claims that are passed alike in both ways. -/
structure Agrees (library : Library) (ctx : Ctx) (attrs : Object) (r : Request) : Prop where
  headers : ∀ name, get (setAll library ctx (some attrs) r).headersIn name =
    get (setEach library ctx (some attrs) r).headersIn name
  env : ∀ dead name, lookup dead (setAll library ctx (some attrs) r).subprocessEnv name =
    lookup dead (setEach library ctx (some attrs) r).subprocessEnv name
  /-- The last claim of a name wins. -/
  last : ∀ name member, (named ctx attrs name).getLast? = some member →
    (ctx.passIn.headers = true → get (setAll library ctx (some attrs) r).headersIn name =
      (rendered library ctx member).map hdrValue) ∧
    (ctx.passIn.envvars = true → ∀ dead,
      lookup dead (setAll library ctx (some attrs) r).subprocessEnv name =
        (rendered library ctx member).map CStr.text)
  /-- Other names keep their values. -/
  others : ∀ name, named ctx attrs name = [] →
    get (setAll library ctx (some attrs) r).headersIn name = get r.headersIn name ∧
    ∀ dead, lookup dead (setAll library ctx (some attrs) r).subprocessEnv name =
      lookup dead r.subprocessEnv name

/-- No name ends with a claim that is passed otherwise in a batch. -/
structure Settled (library : Library) (ctx : Ctx) (attrs : Object) : Prop where
  /-- If the last claim of a name cannot be written, then none of its claims can. -/
  written : ctx.passIn.headers = true ∨ ctx.passIn.envvars = true → ∀ name last,
    (named ctx attrs name).getLast? = some last → Unencodable library last.2 →
      ∀ member ∈ named ctx attrs name, Unencodable library member.2
  /-- The last claim of an environment variable is no whole number, unless it is encoded. -/
  lasting : ctx.passIn.envvars = true → ctx.encoding = .none → ∀ name last,
    (named ctx attrs name).getLast? = some last → isInteger last.2 = false

section Agreement

variable {library : Library} {ctx : Ctx}

theorem toString_ne_empty (value : Int) : toString value ≠ "" := by
  cases value <;> simp [Int.repr]

theorem isHandled_of_mem {attrs : Object} {name : String} {member : String × Json}
    (inside : member ∈ named ctx attrs name) : isHandled member.2 = true := by
  have kept := (List.mem_filter.mp inside).2
  rw [Bool.and_eq_true] at kept
  exact kept.1

/-- Nothing is passed for objects that cannot be written. -/
theorem rendered_eq_none_iff {member : String × Json} (handled : isHandled member.2 = true) :
    rendered library ctx member = none ↔ Unencodable library member.2 := by
  rcases member with ⟨key, value⟩
  rw [rendered, renderValue, Option.map_eq_none_iff]
  cases value with
  | null => cases handled
  | obj members => simp [claimValue, Unencodable, Json.isObject]
  | _ => simp [claimValue, Unencodable, Json.isObject]

/-- Only whole numbers are printed to the array. -/
theorem claimValue_sInt {value : Json} {text : String}
    (found : (claimValue library ctx value).join = some (.sInt text)) :
    isInteger value = true ∧ text ≠ "" := by
  cases value with
  | int n =>
      cases found
      exact ⟨rfl, toString_ne_empty n⟩
  | obj members =>
      rw [claimValue, Option.join_some, Option.map_eq_some_iff] at found
      obtain ⟨written, -, other⟩ := found
      cases other
  | _ => cases found

/-- The array is passed on for whole numbers that are not encoded. -/
theorem rendered_sInt_iff {member : String × Json} :
    (∃ text, rendered library ctx member = some (.sInt text)) ↔
      ctx.encoding = .none ∧ isInteger member.2 = true := by
  rw [rendered, renderValue]
  constructor
  · rintro ⟨text, found⟩
    obtain ⟨value, held, made⟩ := Option.map_eq_some_iff.mp found
    cases encoding : ctx.encoding with
    | none =>
        rw [encoding] at made
        dsimp only at made
        rw [made] at held
        exact ⟨rfl, (claimValue_sInt held).1⟩
    | latin1 =>
        rw [encoding] at made
        cases made
    | base64url =>
        rw [encoding] at made
        dsimp only at made
        unfold State.base64urlEncode at made
        split at made
        · next empty =>
            rw [Option.map_none, Option.getD_none] at made
            rw [made] at held empty
            exact absurd (String.toList_eq_nil_iff.mp (List.map_eq_nil_iff.mp empty))
              (claimValue_sInt held).2
        · cases made
  · rintro ⟨encoding, integer⟩
    rcases member with ⟨key, value⟩
    cases value with
    | int n => exact ⟨toString n, by rw [encoding]; rfl⟩
    | _ => cases integer

/-- A batch passes the last value of a name unless a claim that cannot be written comes last. -/
theorem batch_last_iff (read : CStr → String) (attrs : Object) (name : String)
    (old : Option String) :
    (passed library ctx read attrs name).reduceOption.getLast?.or
        (if (passed library ctx read attrs name).any Option.isNone then none else old) =
        (passed library ctx read attrs name).getLast?.getD old ↔
      ∀ last, (named ctx attrs name).getLast? = some last → Unencodable library last.2 →
        ∀ member ∈ named ctx attrs name, Unencodable library member.2 := by
  rw [batch_eq_iff, passed, List.getLast?_map, List.forall_mem_map]
  simp only [Option.map_eq_some_iff, Option.map_eq_none_iff]
  constructor
  · intro agree last ends lost member inside
    have handled := isHandled_of_mem (List.mem_of_getLast? ends)
    exact (rendered_eq_none_iff (isHandled_of_mem inside)).mp
      (agree ⟨last, ends, (rendered_eq_none_iff handled).mpr lost⟩ member inside)
  · rintro settled ⟨last, ends, lost⟩ member inside
    have handled := isHandled_of_mem (List.mem_of_getLast? ends)
    exact (rendered_eq_none_iff (isHandled_of_mem inside)).mpr
      (settled last ends ((rendered_eq_none_iff handled).mp lost) member inside)

theorem getLast?_passed {attrs : Object} {name : String} {last : String × Json}
    (ends : (named ctx attrs name).getLast? = some last) (read : CStr → String)
    (old : Option String) :
    (passed library ctx read attrs name).getLast?.getD old =
      (rendered library ctx last).map read := by
  rw [passed, List.getLast?_map, ends, Option.map_some, Option.getD_some]

/-- The values of an environment variable agree unless a claim that cannot be written or the array
comes last. -/
theorem env_agrees_iff (attrs : Object) (name : String) (old : String → Option String) :
    (∀ dead, (passed library ctx (CStr.later dead) attrs name).reduceOption.getLast?.or
        (if (passed library ctx (CStr.later dead) attrs name).any Option.isNone then none
          else old dead) =
        (passed library ctx CStr.text attrs name).getLast?.getD (old dead)) ↔
      ∀ last, (named ctx attrs name).getLast? = some last →
        (Unencodable library last.2 →
          ∀ member ∈ named ctx attrs name, Unencodable library member.2) ∧
        ¬∃ text, rendered library ctx last = some (.sInt text) := by
  cases ends : (named ctx attrs name).getLast? with
  | none =>
      rw [List.getLast?_eq_none_iff] at ends
      refine iff_of_true (fun dead => ?_) fun last found =>
        (Option.some_ne_none last found.symm).elim
      rw [passed, passed, ends]
      rfl
  | some last =>
      have handled := isHandled_of_mem (List.mem_of_getLast? ends)
      have batch := fun dead => @batch_last_iff library ctx (CStr.later dead) attrs name (old dead)
      simp only [getLast?_passed ends, ends, Option.some.injEq, forall_eq'] at batch ⊢
      cases held : rendered library ctx last with
      | none =>
          rw [held] at batch
          simp only [Option.map_none, reduceCtorEq, exists_false, not_false_eq_true,
            and_true] at batch ⊢
          exact ⟨fun agree => (batch "").mp (agree ""),
            fun settled dead => (batch dead).mpr settled⟩
      | some value =>
          have written : ¬Unencodable library last.2 := by
            rw [← @rendered_eq_none_iff library ctx last handled, held]
            exact Option.some_ne_none value
          have last_value := fun dead => (batch dead).mpr fun lost => absurd lost written
          simp only [last_value, held, Option.map_some, Option.some.injEq, written, false_implies,
            true_and]
          constructor
          · rintro agree ⟨text, rfl⟩
            have same : "0" = "" := (agree "0").trans (agree "").symm
            exact absurd same (by decide)
          · intro pooled dead
            cases value with
            | pool text => rfl
            | sInt text => exact absurd ⟨text, rfl⟩ pooled

end Agreement

/-! ## Two sets of claims -/

/-- A library that writes no objects. -/
def sampleLibrary : Library where
  encode := fun _ => none
  formatReal := fun _ => "0.5"

/-- Claims are passed as environment variables, as they are. -/
def sampleCtx : Ctx where
  claimPrefix := "OIDC_CLAIM_"
  claimDelimiter := ","
  passIn := { headers := true, envvars := true }
  encoding := .none

/-- A request with a header and a variable of the same name. -/
def sampleRequest : Request where
  headersIn := [("oidc_claim_sub", "someone")]
  subprocessEnv := [("OIDC_CLAIM_sub", some (.pool "someone"))]

/-- Two names that differ in case, and a list. -/
def sampleClaims : Object :=
  [("sub", .str "joe"), ("groups", .arr [.str "a", .str "b"]), ("SUB", .str "jane")]

end AppinfoTables

end Util

end ModAuthOpenidc
