import ModAuthOpenidc.Proto.Provenance

/-!
# Acceptance of id_tokens

Whichever flow a response goes through, the id_token it ends with has passed the same checks: its
signature or the exception for unsigned tokens of the token endpoint, the nonce, the standard
claims, and the hashes that bind the code and the access token of the browser to it. The one gap is
the claim `azp`, which is not looked at unless it is a string.
-/

namespace ModAuthOpenidc

namespace Proto

/-! ## The checks of one token -/

section Parsed

variable {jose : Jose} {env : Env} {provider : Provider} {jwt : Jwt} {cache cache' : NonceCache}

theorem idtokenValidateNonce_spec {nonce : String} {done : Unit}
    (ran : (idtokenValidateNonce env provider nonce jwt).exec cache = (some done, cache')) :
    jwt.claims.getString "nonce" = some nonce := by
  obtain ⟨_, _, -, ran⟩ := exec_bind ran
  obtain ⟨_, _, -, ran⟩ := exec_bind ran
  obtain ⟨_, _, checked, -⟩ := exec_bind ran
  exact of_decide_eq_true (exec_check checked).1

theorem validateIdtoken_spec {nonce : Option String} {done : Unit}
    (ran : (validateIdtoken env provider jwt nonce).exec cache = (some done, cache')) :
    (∀ text, nonce = some text → jwt.claims.getString "nonce" = some text) ∧
      jwtValidate env jwt (if provider.validateIssuer then some provider.issuer else none)
        provider.idtokenIatSlack = true ∧
      jwt.sub.isSome = true ∧ idtokenValidateAudAndAzp provider jwt.claims = true := by
  obtain ⟨_, _, nonced, ran⟩ := exec_bind ran
  obtain ⟨_, _, validated, ran⟩ := exec_bind ran
  obtain ⟨_, _, subject, audience⟩ := exec_bind ran
  refine ⟨?_, (exec_check validated).1, (exec_check subject).1, (exec_check audience).1⟩
  rintro text rfl
  exact idtokenValidateNonce_spec nonced

/-- What `oidc_proto_idtoken_parse` has checked of the token it returns. -/
theorem idtokenParse_spec {idToken nonce : Option String} {isCodeFlow : Bool}
    (ran : (idtokenParse jose env provider idToken nonce isCodeFlow).exec cache =
      (some jwt, cache')) :
    jose.jwtParse idToken = some jwt ∧
      (signatureExempt provider jwt isCodeFlow = true ∨
        jwtVerify jose jwt provider.idTokenSignedResponseAlg = true) ∧
      (∀ text, nonce = some text → jwt.claims.getString "nonce" = some text) ∧
      jwtValidate env jwt (if provider.validateIssuer then some provider.issuer else none)
        provider.idtokenIatSlack = true ∧
      jwt.sub.isSome = true ∧ idtokenValidateAudAndAzp provider jwt.claims = true := by
  obtain ⟨token, _, parsed, ran⟩ := exec_bind ran
  obtain ⟨_, _, signed, ran⟩ := exec_bind ran
  obtain ⟨_, _, validated, ran⟩ := exec_bind ran
  obtain ⟨rfl, -⟩ := exec_pure ran
  refine ⟨(exec_require parsed).1, ?_, validateIdtoken_spec validated⟩
  simpa using (exec_check signed).1

/-- The standard claims of a token that was validated. -/
theorem jwtValidate_spec
    (valid : jwtValidate env jwt (if provider.validateIssuer then some provider.issuer else none)
      provider.idtokenIatSlack = true) :
    (provider.validateIssuer = true → ∃ iss, jwt.iss = some iss ∧
      issuerMatch provider.issuer iss = true) ∧
      (env.second : Rat) ≤ jwt.exp ∧
      ((env.second - provider.idtokenIatSlack : Int) : Rat) ≤ jwt.iat ∧
      jwt.iat ≤ ((env.second + provider.idtokenIatSlack : Int) : Rat) := by
  simp only [jwtValidate, validateExp, validateIat, Bool.and_eq_true, Bool.or_eq_true,
    decide_eq_true_eq] at valid
  obtain ⟨⟨issued, -, unexpired⟩, -, window⟩ := valid
  have bounded : ¬provider.idtokenIatSlack < 0 := Int.not_lt.mpr provider.idtokenIatSlack_nonneg
  obtain ⟨lower, upper⟩ := window.resolve_left bounded
  refine ⟨?_, unexpired, lower, upper⟩
  intro wanted
  rw [if_pos wanted] at issued
  cases present : jwt.iss with
  | none => simp [present] at issued
  | some iss =>
      refine ⟨iss, rfl, ?_⟩
      simpa [present] using issued

end Parsed

/-! ## Accepted tokens -/

/-- What holds of an id_token that a response is accepted with. -/
structure Acceptance (ctx : Context) (params final : Params) (jwt : Jwt) : Prop where
  /-- The signature was verified, or the token is an unsigned one from the token endpoint. -/
  signature : jwtVerify ctx.jose jwt ctx.provider.idTokenSignedResponseAlg = true ∨
    (jwt.alg = some "none" ∧
      (ctx.provider.idTokenSignedResponseAlg = none ∨
        ctx.provider.idTokenSignedResponseAlg = some "none") ∧
      ∃ token, CaseTable.get final "id_token" = some token ∧ token.origin = .tokenEndpoint ∧
        ctx.jose.jwtParse (some token.value) = some jwt)
  nonce : ∀ nonce, ctx.protoState.getString "n" = some nonce →
    jwt.claims.getString "nonce" = some nonce
  issuer : ctx.provider.validateIssuer = true → ∃ iss, jwt.iss = some iss ∧
    issuerMatch ctx.provider.issuer iss = true
  exp : (ctx.env.second : Rat) ≤ jwt.exp
  iat : ((ctx.env.second - ctx.provider.idtokenIatSlack : Int) : Rat) ≤ jwt.iat ∧
    jwt.iat ≤ ((ctx.env.second + ctx.provider.idtokenIatSlack : Int) : Rat)
  sub : jwt.sub.isSome = true
  azp : ∀ azp, jwt.claims.get "azp" = some azp → azp = .str ctx.provider.clientId
  aud : idtokenValidateAud ctx.provider jwt.claims = true
  /-- The code that is resolved is bound to the token. -/
  codeHash : spacedStringEquals (ctx.protoState.getString "rt") (some "code id_token") = true ∨
      spacedStringEquals (ctx.protoState.getString "rt") (some "code id_token token") = true →
    ∃ hash response responseType, jwt.claims.getString "c_hash" = some hash ∧
      validateHash ctx.jose jwt.alg hash (params.text "code") = true ∧
      resolveCode ctx (params.text "code") = some response ∧
      final = mergeTokenResponse (stripParams params responseType) response
  /-- The access token of the browser is bound to the token. -/
  accessTokenHash : spacedStringEquals (ctx.protoState.getString "rt")
      (some "id_token token") = true ∨
      spacedStringEquals (ctx.protoState.getString "rt") (some "code id_token token") = true →
    ∃ hash token, jwt.claims.getString "at_hash" = some hash ∧
      CaseTable.get params "access_token" = some token ∧ token.origin = .browser ∧
      validateHash ctx.jose jwt.alg hash (some token.value) = true

section Accepted

variable {ctx : Context} {params final : Params} {jwt : Jwt} {responseType : String}

/-- The checks that every flow makes of its id_token. -/
theorem Parsed.spec {mustValidateCode : Bool}
    (parsed : Parsed ctx responseType params mustValidateCode jwt) :
    ctx.jose.jwtParse (params.text "id_token") = some jwt ∧
      (signatureExempt ctx.provider jwt (isCodeFlow responseType) = true ∨
        jwtVerify ctx.jose jwt ctx.provider.idTokenSignedResponseAlg = true) ∧
      (∀ nonce, ctx.protoState.getString "n" = some nonce →
        jwt.claims.getString "nonce" = some nonce) ∧
      jwtValidate ctx.env jwt
        (if ctx.provider.validateIssuer then some ctx.provider.issuer else none)
        ctx.provider.idtokenIatSlack = true ∧
      jwt.sub.isSome = true ∧ idtokenValidateAudAndAzp ctx.provider jwt.claims = true := by
  obtain ⟨_, _, ran⟩ := parsed
  obtain ⟨token, _, accepted, ran⟩ := exec_bind ran
  obtain ⟨_, _, -, ran⟩ := exec_bind ran
  obtain ⟨rfl, -⟩ := exec_pure ran
  exact idtokenParse_spec accepted

theorem Parsed.code (parsed : Parsed ctx responseType params true jwt) :
    idtokenValidateCode ctx.jose jwt responseType (params.text "code") = true := by
  obtain ⟨_, _, ran⟩ := parsed
  obtain ⟨token, _, accepted, ran⟩ := exec_bind ran
  obtain ⟨_, _, checked, ran⟩ := exec_bind ran
  obtain ⟨rfl, -⟩ := exec_pure ran
  simpa using (exec_check checked).1

/-- A hash that a flow requires is there and fits. -/
theorem validateHashValue_required {jose : Jose} {value : Option String} {key : String}
    {flows : List String} (valid : validateHashValue jose jwt responseType value key flows = true)
    (needed : ∃ flow ∈ flows, spacedStringEquals (some responseType) (some flow) = true) :
    ∃ hash, jwt.claims.getString key = some hash ∧ validateHash jose jwt.alg hash value = true := by
  unfold validateHashValue at valid
  split at valid
  · rw [List.any_eq_true.mpr needed] at valid
    cases valid
  · next hash present => exact ⟨hash, present, valid⟩

/-- The response of the token endpoint behind the parameters of a flow with a code. -/
theorem resolved_response {table : Params}
    (completed : resolveCodeAndValidateResponse ctx responseType table = some final) :
    ∃ response, resolveCode ctx (table.text "code") = some response ∧
      validateCodeResponse responseType response = true ∧
      final = mergeTokenResponse table response := by
  unfold resolveCodeAndValidateResponse at completed
  split at completed
  · cases completed
  · next response answered =>
      split at completed
      · next valid => exact ⟨response, answered, valid, (Option.some.inj completed).symm⟩
      · cases completed

/-- In the flows without an id_token in the front channel the token comes from the token endpoint.
-/
theorem idToken_of_codeFlow (kind : responseType = "code" ∨ responseType = "code token")
    (completed : resolveCodeAndValidateResponse ctx responseType (stripParams params responseType) =
      some final) :
    ∃ token, CaseTable.get final "id_token" = some token ∧ token.origin = .tokenEndpoint := by
  have facts : strips responseType "id_token" = true ∧
      spacedStringContains (some responseType) "id_token" = false := by
    rcases kind with rfl | rfl <;> decide
  obtain ⟨response, -, valid, rfl⟩ := resolved_response completed
  simp only [validateCodeResponse, facts.2, Bool.false_or, Bool.and_eq_true] at valid
  obtain ⟨text, text_eq⟩ := Option.isSome_iff_exists.mp valid.1
  obtain ⟨-, -, -, -, -, merged⟩ := get_merge (stripParams params responseType) response
  rw [get_stripParams, if_pos facts.1, Option.none_or, text_eq] at merged
  exact ⟨resolved text, merged, rfl⟩

/-- An unsigned token is accepted from the token endpoint only. -/
theorem Completed.signature (completed : Completed ctx params responseType final jwt) :
    jwtVerify ctx.jose jwt ctx.provider.idTokenSignedResponseAlg = true ∨
      (jwt.alg = some "none" ∧
        (ctx.provider.idTokenSignedResponseAlg = none ∨
          ctx.provider.idTokenSignedResponseAlg = some "none") ∧
        ∃ token, CaseTable.get final "id_token" = some token ∧ token.origin = .tokenEndpoint ∧
          ctx.jose.jwtParse (some token.value) = some jwt) := by
  have verified {table : Params} {must : Bool} (parsed : Parsed ctx responseType table must jwt)
      (front : isCodeFlow responseType = false) :
      jwtVerify ctx.jose jwt ctx.provider.idTokenSignedResponseAlg = true := by
    refine parsed.spec.2.1.resolve_left ?_
    simp [signatureExempt, front]
  cases completed with
  | implicit kind parsed hashed =>
      refine .inl (verified parsed ?_)
      rcases kind with rfl | rfl <;> decide
  | hybrid kind parsed hashed merged =>
      refine .inl (verified parsed ?_)
      rcases kind with rfl | rfl <;> decide
  | code kind merged parsed =>
      rcases parsed.spec.2.1 with exempt | signed
      · simp only [signatureExempt, Bool.and_eq_true, Bool.or_eq_true, decide_eq_true_eq,
          Option.isNone_iff_eq_none] at exempt
        obtain ⟨token, found, origin⟩ := idToken_of_codeFlow kind merged
        have read := parsed.spec.1
        rw [Params.text, found, Option.map_some] at read
        exact .inr ⟨exempt.1.2, exempt.2, token, found, origin, read⟩
      · exact .inl signed

theorem Completed.parsed (completed : Completed ctx params responseType final jwt) :
    ∃ table mustValidateCode, Parsed ctx responseType table mustValidateCode jwt := by
  cases completed with
  | implicit kind parsed hashed => exact ⟨_, _, parsed⟩
  | hybrid kind parsed hashed merged => exact ⟨_, _, parsed⟩
  | code kind merged parsed => exact ⟨_, _, parsed⟩

theorem Completed.codeHash (completed : Completed ctx params responseType final jwt)
    (front : spacedStringEquals (some responseType) (some "code id_token") = true ∨
      spacedStringEquals (some responseType) (some "code id_token token") = true) :
    ∃ hash response responseType, jwt.claims.getString "c_hash" = some hash ∧
      validateHash ctx.jose jwt.alg hash (params.text "code") = true ∧
      resolveCode ctx (params.text "code") = some response ∧
      final = mergeTokenResponse (stripParams params responseType) response := by
  cases completed with
  | implicit kind parsed hashed =>
      apply absurd front
      rcases kind with rfl | rfl <;> decide
  | hybrid kind parsed hashed merged =>
      obtain ⟨hash, present, fits⟩ := validateHashValue_required parsed.code (by simpa using front)
      obtain ⟨response, answered, -, rfl⟩ := resolved_response merged
      have kept : strips responseType "code" = false := by
        rcases kind with rfl | rfl <;> decide
      rw [text_stripParams kept] at answered
      exact ⟨hash, response, responseType, present, fits, answered, rfl⟩
  | code kind merged parsed =>
      apply absurd front
      rcases kind with rfl | rfl <;> decide

theorem Completed.accessTokenHash (completed : Completed ctx params responseType final jwt)
    (browser : FromBrowser params) (fits : Fits ctx params responseType)
    (front : spacedStringEquals (some responseType) (some "id_token token") = true ∨
      spacedStringEquals (some responseType) (some "code id_token token") = true) :
    ∃ hash token, jwt.claims.getString "at_hash" = some hash ∧
      CaseTable.get params "access_token" = some token ∧ token.origin = .browser ∧
      validateHash ctx.jose jwt.alg hash (some token.value) = true := by
  have valid : idtokenValidateAccessToken ctx.jose jwt responseType (params.text "access_token") =
      true ∧ spacedStringContains (some responseType) "token" = true := by
    cases completed with
    | implicit kind parsed hashed =>
        rcases kind with rfl | rfl
        · exact absurd front (by decide)
        · exact ⟨hashed rfl, by decide⟩
    | hybrid kind parsed hashed merged =>
        rcases kind with rfl | rfl
        · exact absurd front (by decide)
        · exact ⟨hashed rfl, by decide⟩
    | code kind merged parsed =>
        apply absurd front
        rcases kind with rfl | rfl <;> decide
  obtain ⟨hash, present, agrees⟩ := validateHashValue_required valid.1 (by simpa using front)
  obtain ⟨text, text_eq⟩ := Option.isSome_iff_exists.mp (fits.present.2.trans valid.2)
  obtain ⟨token, found, rfl⟩ := Option.map_eq_some_iff.mp text_eq
  rw [text_eq] at agrees
  exact ⟨hash, token, present, found, browser.get found, agrees⟩

/-- Every response that succeeds has an acceptable id_token, provided that the claim `azp` of the
token is absent or a string: otherwise it is ignored. -/
theorem accepted_iff {cache cache' : NonceCache} (browser : FromBrowser params)
    (ran : (responseFlows ctx params).exec cache = (some (final, jwt), cache')) :
    Acceptance ctx params final jwt ↔
      ∀ azp, jwt.claims.get "azp" = some azp → ∃ text, azp = .str text := by
  obtain ⟨responseType, requested, fits, completed⟩ := responseFlows_completed ran
  obtain ⟨table, mustValidateCode, parsed⟩ := completed.parsed
  obtain ⟨-, -, nonce, standard, sub, audience⟩ := parsed.spec
  obtain ⟨issuer, exp, iat⟩ := jwtValidate_spec standard
  rw [idtokenValidateAudAndAzp, Bool.and_eq_true] at audience
  constructor
  · intro acceptance azp present
    exact ⟨_, acceptance.azp azp present⟩
  · intro textual
    refine ⟨completed.signature, nonce, issuer, exp, iat, sub, ?_, audience.2, ?_, ?_⟩
    · intro azp present
      obtain ⟨text, rfl⟩ := textual azp present
      have read : jwt.claims.getString "azp" = some text := by
        rw [Object.getString, present]
        rfl
      have checked := audience.1
      rw [idtokenValidateAzp, read] at checked
      rw [Option.some.inj (of_decide_eq_true checked)]
    · rw [equals_congr requested, equals_congr requested]
      exact completed.codeHash
    · rw [equals_congr requested, equals_congr requested]
      exact completed.accessTokenHash browser fits

end Accepted

/-- A login with an id_token in the front channel. -/
theorem accepted_idtoken : ∃ final cache',
    (responseFlows (sampleContext sampleJwt "id_token" "fragment" fun _ => none)
      [("id_token", sent "signed")]).exec (fun _ => none) = (some (final, sampleJwt), cache') ∧
      Acceptance (sampleContext sampleJwt "id_token" "fragment" fun _ => none)
        [("id_token", sent "signed")] final sampleJwt := by
  have browser : FromBrowser [("id_token", sent "signed")] := by
    intro entry member
    rw [List.mem_singleton.mp member]
    rfl
  obtain ⟨final, cache', ran⟩ : ∃ final cache',
      (responseFlows (sampleContext sampleJwt "id_token" "fragment" fun _ => none)
        [("id_token", sent "signed")]).exec (fun _ => none) = (some (final, sampleJwt), cache') :=
    ⟨_, _, rfl⟩
  refine ⟨final, cache', ran, (accepted_iff browser ran).mpr ?_⟩
  intro azp present
  cases present

/-- The claims of a token that names its authorized party by a number. -/
def numberedJwt : Jwt where
  alg := some "RS256"
  claims := sampleJwt.claims ++ [("azp", .int 7)]

/-- The same login with that token. -/
theorem azp_number_ignored : ∃ final cache',
    (responseFlows (sampleContext numberedJwt "id_token" "fragment" fun _ => none)
      [("id_token", sent "signed")]).exec (fun _ => none) = (some (final, numberedJwt), cache') ∧
      ¬Acceptance (sampleContext numberedJwt "id_token" "fragment" fun _ => none)
        [("id_token", sent "signed")] final numberedJwt := by
  refine ⟨_, _, rfl, ?_⟩
  intro acceptance
  cases acceptance.azp (.int 7) rfl

end Proto

end ModAuthOpenidc
