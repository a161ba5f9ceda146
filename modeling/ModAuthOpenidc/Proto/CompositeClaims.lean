import ModAuthOpenidc.JsonMembers
import ModAuthOpenidc.Proto.Userinfo

/-!
# Aggregated and distributed claims

The members `_claim_names` and `_claim_sources` of a userinfo response tell which claims come from
other sources. The code goes through the names and stores what the sources say in the same object
that holds the names. If the source of the name `_claim_names` has a member of that name, the names
are released while the code still goes through them. All other names are resolved as they should be.
-/

namespace ModAuthOpenidc

namespace Proto

/-! ## The iteration -/

/-- The claims while the code goes through the names, and whether they still hold the names. -/
structure Iteration where
  claims : Object
  held : Bool := true
deriving DecidableEq

/-- `oidc_json_object_set`: the value that is replaced is released. -/
def Iteration.set (iteration : Iteration) (key : String) (value : Json) : Iteration where
  claims := iteration.claims.set key value
  held := iteration.held && key ≠ "_claim_names"

/-- One turn of the loop of `oidc_proto_userinfo_composite_apply_names`. -/
def compositeApplyName (decoded : Object) (name : String × Json) (iteration : Iteration) :
    Iteration :=
  match name with
  | (key, .str source) =>
      match decoded.get source with
      | some (.obj values) =>
          match Object.get values key with
          | none => iteration
          | some value => iteration.set key value
      | _ => iteration
  | _ => iteration

/-- The loop, nothing if it goes on with names that have been released. -/
def compositeIterate (decoded : Object) : Object → Iteration → Option Object
  | [], iteration => some iteration.claims
  | name :: names, iteration =>
      let iteration := compositeApplyName decoded name iteration
      if iteration.held then compositeIterate decoded names iteration else none

/-- `oidc_proto_userinfo_request_composite_claims`, nothing if it reads released memory. -/
def compositeRun (jwtParse : Option String → Option Jwt)
    (fetch : String → String → String → Option String) (claims : Object) : Option Object :=
  match claims.get "_claim_names", claims.get "_claim_sources" with
  | some (.obj names), some (.obj sources) =>
      (compositeIterate (compositeDecodeSources jwtParse fetch sources) names { claims }).map
        fun claims => (claims.del "_claim_names").del "_claim_sources"
  | _, _ => some claims

/-! ## What should come out -/

/-- The payload that the description of a source leads to. -/
def entryPayload (jwtParse : Option String → Option Jwt)
    (fetch : String → String → String → Option String) (source : String) (description : Json) :
    Option Object :=
  match description with
  | .obj value =>
      ((compositeSourcePayload (fetch source) value).filter fun text => text ≠ "").bind fun text =>
        (jwtParse (some text)).map Jwt.claims
  | _ => none

/-- The payload that a source resolves to. -/
def sourcePayload (jwtParse : Option String → Option Jwt)
    (fetch : String → String → String → Option String) (sources : Object) (source : String) :
    Option Object :=
  (sources.get source).bind (entryPayload jwtParse fetch source)

/-- What the source of a name says about it. -/
def sourceValue (payload : String → Option Object) (names : Object) (name : String) :
    Option Json :=
  ((names.getString name).bind payload).bind fun payload => payload.get name

/-- The member that a name should have at the end. -/
def resolvedMember (payload : String → Option Object) (names claims : Object) (name : String) :
    Option Json :=
  if name = "_claim_names" ∨ name = "_claim_sources" then none
  else (sourceValue payload names name).or (claims.get name)

/-! ## Decoding the sources -/

section Sources

variable {jwtParse : Option String → Option Jwt} {fetch : String → String → String → Option String}

/-- One turn of the loop of `oidc_proto_userinfo_composite_decode_sources`. -/
def compositeDecodeEntry (jwtParse : Option String → Option Jwt)
    (fetch : String → String → String → Option String) (decoded : Object)
    (source : String × Json) : Object :=
  match source with
  | (key, .obj value) =>
      match compositeSourcePayload (fetch key) value with
      | none => decoded
      | some text => if text = "" then decoded
          else compositeDecodeSource jwtParse key text decoded
  | _ => decoded

theorem compositeDecodeSources_eq (sources : Object) :
    compositeDecodeSources jwtParse fetch sources =
      sources.foldl (compositeDecodeEntry jwtParse fetch) [] := rfl

/-- A turn stores the payload of its source and nothing else. -/
theorem get_compositeDecodeEntry {decoded : Object} {key : String} (value : Json)
    (fresh : decoded.get key = none) (other : String) :
    (compositeDecodeEntry jwtParse fetch decoded (key, value)).get other =
      if other = key then
        (entryPayload jwtParse fetch key value).map fun payload => .obj (Object.merge payload [])
      else decoded.get other := by
  have unchanged : decoded.get other =
      if other = key then (none : Option Object).map fun payload => .obj (Object.merge payload [])
      else decoded.get other := by
    split
    · next same => rw [same, fresh]; rfl
    · rfl
  unfold compositeDecodeEntry entryPayload
  cases value with
  | obj value =>
      dsimp only
      cases compositeSourcePayload (fetch key) value with
      | none => exact unchanged
      | some text =>
          dsimp only
          by_cases empty : text = ""
          · have missing : (some text).filter (fun text => text ≠ "") = none := by simp [empty]
            rw [if_pos empty, missing]
            exact unchanged
          · have present : (some text).filter (fun text => text ≠ "") = some text := by
              simp [empty]
            rw [if_neg empty, present, Option.bind_some, compositeDecodeSource]
            cases jwtParse (some text) with
            | none => exact unchanged
            | some jwt =>
                dsimp only
                rw [fresh, Object.get_set]
                rfl
  | _ => exact unchanged

/-- The turns store the payloads of their sources. -/
theorem get_foldl_compositeDecodeEntry {sources : Object} (distinct : sources.Distinct)
    {decoded : Object} (fresh : ∀ name ∈ sources.map Prod.fst, decoded.get name = none)
    (name : String) :
    (sources.foldl (compositeDecodeEntry jwtParse fetch) decoded).get name =
      ((sourcePayload jwtParse fetch sources name).map fun payload =>
        .obj (Object.merge payload [])).or (decoded.get name) := by
  induction sources generalizing decoded with
  | nil => rfl
  | cons source sources ih =>
      obtain ⟨key, value⟩ := source
      obtain ⟨absent, distinct⟩ := List.nodup_cons.mp distinct
      obtain ⟨first, others⟩ := List.forall_mem_cons.mp fresh
      have turn := @get_compositeDecodeEntry jwtParse fetch decoded key value first
      have later : ∀ other ∈ sources.map Prod.fst,
          (compositeDecodeEntry jwtParse fetch decoded (key, value)).get other = none := by
        intro other member
        rw [turn, if_neg, others other member]
        rintro rfl
        exact absent member
      rw [List.foldl_cons, ih distinct later, turn, sourcePayload, sourcePayload, Object.get_cons]
      by_cases same : name = key
      · subst same
        rw [if_pos rfl, if_pos rfl, Object.get_of_notMem absent, first, Option.or_none]
        rfl
      · rw [if_neg same, if_neg (Ne.symm same)]

/-- What is decoded are the payloads of the sources. -/
theorem get_compositeDecodeSources {sources : Object} (distinct : sources.Distinct)
    (name : String) :
    (compositeDecodeSources jwtParse fetch sources).get name =
      (sourcePayload jwtParse fetch sources name).map fun payload =>
        .obj (Object.merge payload []) := by
  rw [compositeDecodeSources_eq,
    get_foldl_compositeDecodeEntry distinct fun _ _ => Object.get_nil _, Object.get_nil,
    Option.or_none]

end Sources

/-! ## Going through the names -/

/-- What the decoded sources say about a name. -/
def decodedValue (decoded : Object) (key : String) (value : Json) : Option Json :=
  match value with
  | .str source =>
      match decoded.get source with
      | some (.obj values) => Object.get values key
      | _ => none
  | _ => none

/-- The claims after the turn of a name. -/
def appliedName (decoded : Object) (key : String) (value : Json) (claims : Object) : Object :=
  ((decodedValue decoded key value).map (claims.set key)).getD claims

/-- The names are released if the sources say something about `_claim_names`. -/
def Released (decoded names : Object) : Prop :=
  ∃ value, names.get "_claim_names" = some value ∧
    (decodedValue decoded "_claim_names" value).isSome = true

theorem get_appliedName (decoded : Object) (key : String) (value : Json) (claims : Object)
    (name : String) :
    (appliedName decoded key value claims).get name =
      if name = key then (decodedValue decoded key value).or (claims.get name)
      else claims.get name := by
  unfold appliedName
  cases decodedValue decoded key value with
  | none => exact (ite_self _).symm
  | some found => exact Object.get_set claims key name found

theorem compositeApplyNames_cons (decoded : Object) (key : String) (value : Json)
    (names claims : Object) :
    compositeApplyNames ((key, value) :: names) decoded claims =
      compositeApplyNames names decoded (appliedName decoded key value claims) := by
  rw [compositeApplyNames, List.foldl_cons]
  change compositeApplyNames names decoded _ = _
  congr 1
  unfold appliedName decodedValue
  cases value with
  | str source =>
      dsimp only
      cases decoded.get source with
      | none => rfl
      | some found =>
          cases found with
          | obj values => dsimp only; cases Object.get values key <;> rfl
          | _ => rfl
  | _ => rfl

/-- A turn ends the iteration if it releases the names, and does its work otherwise. -/
theorem compositeIterate_cons (decoded : Object) (key : String) (value : Json)
    (names claims : Object) :
    compositeIterate decoded ((key, value) :: names) { claims } =
      if key = "_claim_names" ∧ (decodedValue decoded key value).isSome then none
      else compositeIterate decoded names { claims := appliedName decoded key value claims } := by
  have turn : compositeApplyName decoded (key, value) { claims } =
      ((decodedValue decoded key value).map (Iteration.set { claims } key)).getD { claims } := by
    unfold compositeApplyName decodedValue
    cases value with
    | str source =>
        dsimp only
        cases decoded.get source with
        | none => rfl
        | some found =>
            cases found with
            | obj values => dsimp only; cases Object.get values key <;> rfl
            | _ => rfl
    | _ => rfl
  rw [compositeIterate, turn, appliedName]
  cases decodedValue decoded key value with
  | none => simp
  | some found => by_cases reserved : key = "_claim_names" <;> simp [Iteration.set, reserved]

/-- Names that are released later are in the rest. -/
theorem released_cons_iff {decoded names : Object} {key : String} {value : Json}
    (absent : key ∉ names.map Prod.fst) :
    Released decoded ((key, value) :: names) ↔
      (key = "_claim_names" ∧ (decodedValue decoded key value).isSome) ∨
        Released decoded names := by
  unfold Released
  rw [Object.get_cons]
  by_cases same : key = "_claim_names"
  · subst same
    simp [Object.get_of_notMem absent]
  · simp [same]

/-- As long as the names are held, all of them are processed. -/
theorem compositeIterate_of_held {decoded names : Object} (distinct : names.Distinct)
    (held : ¬Released decoded names) (claims : Object) :
    compositeIterate decoded names { claims } =
      some (compositeApplyNames names decoded claims) := by
  induction names generalizing claims with
  | nil => rfl
  | cons name names ih =>
      obtain ⟨key, value⟩ := name
      obtain ⟨absent, distinct⟩ := List.nodup_cons.mp distinct
      rw [released_cons_iff absent, not_or] at held
      rw [compositeIterate_cons, if_neg held.1, ih distinct held.2, compositeApplyNames_cons]

/-- Released names are not processed to the end. -/
theorem compositeIterate_of_released {decoded names : Object} (distinct : names.Distinct)
    (released : Released decoded names) (claims : Object) :
    compositeIterate decoded names { claims } = none := by
  induction names generalizing claims with
  | nil =>
      obtain ⟨value, listed, -⟩ := released
      cases listed
  | cons name names ih =>
      obtain ⟨key, value⟩ := name
      obtain ⟨absent, distinct⟩ := List.nodup_cons.mp distinct
      rw [compositeIterate_cons]
      split
      · rfl
      · next stays =>
          rcases (released_cons_iff absent).mp released with now | later
          · exact absurd now stays
          · exact ih distinct later _

/-- Every name that the sources say something about gets its value. -/
theorem get_compositeApplyNames {decoded names : Object} (distinct : names.Distinct)
    (claims : Object) (name : String) :
    (compositeApplyNames names decoded claims).get name =
      ((names.get name).bind (decodedValue decoded name)).or (claims.get name) := by
  induction names generalizing claims with
  | nil => rfl
  | cons first names ih =>
      obtain ⟨key, value⟩ := first
      obtain ⟨absent, distinct⟩ := List.nodup_cons.mp distinct
      rw [compositeApplyNames_cons, ih distinct, get_appliedName, Object.get_cons]
      by_cases same : name = key
      · subst same
        rw [Object.get_of_notMem absent, if_pos rfl, if_pos rfl]
        rfl
      · rw [if_neg same, if_neg (Ne.symm same)]

/-! ## When the claims are resolved -/

/-- The payloads of a client have members of different names. -/
def ParsesObjects (jwtParse : Option String → Option Jwt) : Prop :=
  ∀ text jwt, jwtParse text = some jwt → jwt.claims.Distinct

theorem sourcePayload_distinct {jwtParse : Option String → Option Jwt}
    {fetch : String → String → String → Option String} (parses : ParsesObjects jwtParse)
    {sources : Object} {source : String} {payload : Object}
    (resolved : sourcePayload jwtParse fetch sources source = some payload) :
    payload.Distinct := by
  obtain ⟨description, -, entry⟩ := Option.bind_eq_some_iff.mp resolved
  cases description with
  | obj value =>
      obtain ⟨text, -, parsed⟩ := Option.bind_eq_some_iff.mp entry
      obtain ⟨jwt, accepted, rfl⟩ := Option.map_eq_some_iff.mp parsed
      exact parses _ jwt accepted
  | _ => cases entry

/-- What the decoded sources say about a name is what its source says. -/
theorem decodedValue_compositeDecodeSources {jwtParse : Option String → Option Jwt}
    {fetch : String → String → String → Option String} {sources : Object}
    (distinct : sources.Distinct) (parses : ParsesObjects jwtParse) (names : Object)
    (name : String) :
    (names.get name).bind (decodedValue (compositeDecodeSources jwtParse fetch sources) name) =
      sourceValue (sourcePayload jwtParse fetch sources) names name := by
  unfold sourceValue Object.getString
  cases names.get name with
  | none => rfl
  | some value =>
      rw [Option.bind_some, Option.bind_some]
      cases value with
      | str source =>
          rw [decodedValue, get_compositeDecodeSources distinct]
          cases resolved : sourcePayload jwtParse fetch sources source with
          | none => simp [Json.stringValue, resolved]
          | some payload =>
              simp [Json.stringValue, resolved,
                Object.get_merge (sourcePayload_distinct parses resolved)]
      | _ => rfl

/-- The claims are resolved as they should be, without reading released memory. -/
def CompositeResolved (jwtParse : Option String → Option Jwt)
    (fetch : String → String → String → Option String) (names sources claims : Object) : Prop :=
  ∃ result, compositeRun jwtParse fetch claims = some result ∧ ∀ name,
    result.get name =
      resolvedMember (sourcePayload jwtParse fetch sources) names claims name

section Resolved

variable {jwtParse : Option String → Option Jwt}
  {fetch : String → String → String → Option String} {names sources claims : Object}

/-- The names are released if the source of `_claim_names` has a member of that name. -/
theorem released_iff (distinct : sources.Distinct) (parses : ParsesObjects jwtParse) :
    Released (compositeDecodeSources jwtParse fetch sources) names ↔
      sourceValue (sourcePayload jwtParse fetch sources) names "_claim_names" ≠ none := by
  rw [← decodedValue_compositeDecodeSources distinct parses, ← Option.isSome_iff_ne_none]
  unfold Released
  cases names.get "_claim_names" with
  | none => simp
  | some value => simp

/-- A run that reads no released memory returns the claims of the plain function. -/
theorem compositeRun_of_held (named : claims.get "_claim_names" = some (.obj names))
    (sourced : claims.get "_claim_sources" = some (.obj sources)) (distinct : names.Distinct)
    (held : ¬Released (compositeDecodeSources jwtParse fetch sources) names) :
    compositeRun jwtParse fetch claims = some (compositeClaims jwtParse fetch claims) := by
  rw [compositeRun, compositeClaims, named, sourced]
  dsimp only
  rw [compositeIterate_of_held distinct held]
  rfl

/-- The claims are resolved as they should be unless `_claim_names` names a source whose payload has
a member `_claim_names`. -/
theorem compositeResolved_iff (named : claims.get "_claim_names" = some (.obj names))
    (sourced : claims.get "_claim_sources" = some (.obj sources))
    (distinct : names.Distinct) (distinct' : sources.Distinct)
    (parses : ParsesObjects jwtParse) :
    CompositeResolved jwtParse fetch names sources claims ↔
      sourceValue (sourcePayload jwtParse fetch sources) names "_claim_names" = none := by
  rw [← not_iff_not, ← ne_eq (sourceValue _ _ _), ← released_iff distinct' parses]
  constructor
  · intro unresolved
    by_contra held
    refine unresolved ⟨_, compositeRun_of_held named sourced distinct held, fun name => ?_⟩
    rw [compositeClaims, named, sourced]
    dsimp only
    rw [Object.get_del, Object.get_del, get_compositeApplyNames distinct,
      decodedValue_compositeDecodeSources distinct' parses, resolvedMember]
    by_cases reserved : name = "_claim_sources"
    · rw [if_pos reserved, if_pos (.inr reserved)]
    · rw [if_neg reserved]
      simp only [reserved, or_false]
  · rintro released ⟨result, ran, -⟩
    rw [compositeRun, named, sourced] at ran
    dsimp only at ran
    rw [compositeIterate_of_released distinct released] at ran
    cases ran

end Resolved

/-- The claims of an aggregated source. -/
def samplePayload : Object := [("_claim_names", .obj []), ("phone", .str "555")]

/-- One token can be parsed. -/
def sampleParse (text : Option String) : Option Jwt :=
  if text = some "e30.e30.c2ln" then some ⟨none, samplePayload⟩ else none

theorem sampleParse_objects : ParsesObjects sampleParse := by
  intro text jwt parsed
  unfold sampleParse at parsed
  split at parsed
  · obtain rfl := Option.some.inj parsed
    decide
  · cases parsed

/-- A source with that token. -/
def sampleSources : Object := [("src", .obj [("JWT", .str "e30.e30.c2ln")])]

/-- Claims with one name and the source. -/
def sampleClaims (name : String) : Object :=
  [("sub", .str "alice"), ("_claim_names", .obj [(name, .str "src")]),
    ("_claim_sources", .obj sampleSources)]

/-- The telephone number is taken from the source. -/
theorem phone_resolved :
    CompositeResolved sampleParse (fun _ _ _ => none) [("phone", .str "src")] sampleSources
      (sampleClaims "phone") :=
  (compositeResolved_iff (by decide +kernel) (by decide +kernel) (by decide) (by decide)
    sampleParse_objects).mpr (by decide +kernel)

/-- With `_claim_names` among the names they are released. -/
theorem claim_names_released :
    compositeRun sampleParse (fun _ _ _ => none) (sampleClaims "_claim_names") = none ∧
      ¬CompositeResolved sampleParse (fun _ _ _ => none) [("_claim_names", .str "src")]
        sampleSources (sampleClaims "_claim_names") := by
  have released : compositeRun sampleParse (fun _ _ _ => none) (sampleClaims "_claim_names") =
      none := by decide +kernel
  refine ⟨released, ?_⟩
  rintro ⟨result, ran, -⟩
  rw [released] at ran
  cases ran

end Proto

end ModAuthOpenidc
