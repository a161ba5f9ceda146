import ModAuthOpenidc.Http.FormEncode

/-!
# Posted parameters and the body behind them

Where an access token may come in a posted form, the module reads the body of a request before the
application does. It keeps the other parameters, and an input filter writes them behind what is left
of the body, which reaches the application in pieces of any size.
-/

namespace ModAuthOpenidc

namespace Http

namespace Post

/-! ## Reading -/

/-- A request with its body, and the sizes that the body is read off in: nothing for an error. -/
structure Input where
  /-- The method is `POST`. -/
  post : Bool := true
  contentType : Option String := some "application/x-www-form-urlencoded"
  /-- `ap_setup_client_block` is successful. -/
  setup : Bool := true
  /-- `ap_should_client_block`. -/
  shouldBlock : Bool := true
  /-- The field `remaining` of the request, as of its `Content-Length`. -/
  remaining : Nat
  body : List Char
  blocks : List (Option Nat)

/-- `OIDC_MAX_POST_DATA_LEN`. -/
def maxPostDataLen : Nat := 1024 * 1024

/-- The loop of `oidc_util_read`, with the number of bytes that are left to read. -/
def readBlocks : List (Option Nat) → Nat → List Char → Option (List Char)
  | _, 0, _ => some []
  | [], _ + 1, _ => some []
  | none :: _, _ + 1, _ => none
  | some size :: blocks, left + 1, body =>
      let block := body.take (min size (left + 1))
      if block = [] then some []
      else (readBlocks blocks (left + 1 - block.length) (body.drop block.length)).map (block ++ ·)

/-- `oidc_util_read`, as a C string. -/
def read (input : Input) : Option String :=
  if input.setup = false then none
  else
    let len := if input.shouldBlock then input.remaining else 0
    if maxPostDataLen < len then none
    else (readBlocks input.blocks len input.body).map fun data =>
      String.ofList (data.takeWhile (· ≠ '\x00'))

/-- The parameters that are kept for the application: all but one. -/
def propagated (stripParamName : Option String) (table : List (String × String)) :
    Option (List (String × String)) :=
  table.foldl (fun kept entry =>
    if some entry.1 = stripParamName then kept
    else some (CaseTable.set (kept.getD []) entry.1 entry.2)) none

/-- `oidc_util_read_post_params_impl`: the table, whether it was read, and what is kept for the
application. -/
def readPostParams (input : Input) (propagate : Bool) (stripParamName : Option String)
    (noRepeat : Option (List String)) :
    List (String × String) × Bool × Option (List (String × String)) :=
  if input.post = false ∨
      input.contentType.all (fun type =>
        ¬"application/x-www-form-urlencoded".toList <+: type.toList) then
    ([], false, none)
  else
    match read input with
    | none => ([], false, none)
    | some data =>
        let (table, done) := readFormEncodedParamsImpl [] (some data) noRepeat
        (table, done, if done ∧ propagate then propagated stripParamName table else none)

/-! ## The filter -/

/-- A piece of a body, or what stands between the pieces. -/
inductive Bucket
  | data (bytes : List Char)
  /-- Metadata other than the end of the stream. -/
  | flush
  | eos
  deriving DecidableEq, Repr

/-- The bytes of a bucket. -/
def Bucket.bytes : Bucket → List Char
  | .data bytes => bytes
  | .flush | .eos => []

/-- What the filter of a request works with. -/
structure FilterState where
  /-- Buckets that were got from the next filter, and not given away yet. -/
  tmp : List Bucket := []
  nbytes : Nat := 0
  /-- The parameters that are kept for the application. -/
  params : Option (List (String × String))
  contentLength : Option String

/-- `oidc_filter_in_insert_filter`: whether there is a filter. -/
def insertFilter (enabled initial : Bool) (params : Option (List (String × String))) : Bool :=
  enabled && initial && params.isSome

/-- The text that stands for parameters, behind some number of bytes. A table without entries would
have no text. -/
def postParamsText (nbytes : Nat) (params : List (String × String)) : List Char :=
  (if 0 < nbytes then ['&'] else []) ++ ((formEncodedData (some params)).getD "(null)").toList

/-- `oidc_filter_in_filter_append_post_params`: what comes in front of the end of the stream. -/
def appendPostParams (s : FilterState) : List Bucket × FilterState :=
  match s.params with
  | none => ([], s)
  | some params =>
      let text := postParamsText s.nbytes params
      let nbytes := s.nbytes + text.length
      ([.data text],
        { s with
          nbytes
          contentLength := s.contentLength.map fun _ => toString nbytes
          params := none })

/-- The loop of `oidc_filter_in_filter`: it passes buckets on up to the end of the stream. -/
def pass : List Bucket → FilterState → List Bucket × FilterState
  | [], s => ([], { s with tmp := [] })
  | .eos :: rest, s =>
      ((appendPostParams s).1 ++ [.eos], { (appendPostParams s).2 with tmp := rest })
  | bucket :: rest, s =>
      let (passed, s) := pass rest { s with nbytes := s.nbytes + bucket.bytes.length }
      (bucket :: passed, s)

/-- A call of the filter, with what the next filter gives if it is asked. -/
structure FilterCall where
  /-- `AP_MODE_EATCRLF`. -/
  eatCrlf : Bool := false
  success : Bool := true
  given : List Bucket

/-- What the filter gets in a call. -/
def FilterCall.got (call : FilterCall) (s : FilterState) : List Bucket :=
  if s.tmp = [] then call.given else []

/-- `oidc_filter_in_filter`: the brigade and the state afterwards. -/
def filter (call : FilterCall) (s : FilterState) : List Bucket × FilterState :=
  if s.tmp = [] then
    if call.eatCrlf ∨ call.success = false then ([], { s with tmp := call.given })
    else pass call.given s
  else pass s.tmp s

/-- The calls of a request: what the filter gets from the next one, and what it gives to the
application. -/
def calls : List FilterCall → FilterState → List Bucket × List Bucket × FilterState
  | [], s => ([], [], s)
  | call :: rest, s =>
      let (brigade, s') := filter call s
      let (got, given, s'') := calls rest s'
      (call.got s ++ got, brigade ++ given, s'')

/-- What the calls give to the application, and the state behind them. -/
def answered (requests : List FilterCall) (s : FilterState) : List Bucket × FilterState :=
  (calls requests s).2

/-- All bytes of a stream up to its end. -/
def content (buckets : List Bucket) : List Char :=
  (buckets.takeWhile (· ≠ .eos)).flatMap Bucket.bytes

/-! ## What the filter gives -/

section Filter

variable {params : List (String × String)} {length : Option String} {got given : List Bucket}
  {s : FilterState}

/-- The end of the stream has not been given yet, and everything was given as it was got. -/
structure Before (params : List (String × String)) (length : Option String)
    (done given : List Bucket) (s : FilterState) : Prop where
  same : given = done
  open' : Bucket.eos ∉ done
  nbytes : s.nbytes = (done.flatMap Bucket.bytes).length
  params : s.params = some params
  contentLength : s.contentLength = length

/-- The text of the parameters was given in front of the end of the stream. -/
structure After (params : List (String × String)) (length : Option String)
    (done given : List Bucket) (s : FilterState) : Prop where
  split : ∃ front back, done = front ++ .eos :: back ∧ .eos ∉ front ∧
    given = front ++ .data (postParamsText (front.flatMap Bucket.bytes).length params) ::
      .eos :: back ∧
    s.contentLength = length.map fun _ => toString ((front.flatMap Bucket.bytes).length +
      (postParamsText (front.flatMap Bucket.bytes).length params).length)
  params : s.params = none

/-- What was got is what is kept behind what was given. -/
def Passed (params : List (String × String)) (length : Option String) (got given tmp : List Bucket)
    (s : FilterState) : Prop :=
  ∃ done, got = done ++ tmp ∧
    (Before params length done given s ∨ After params length done given s)

/-- What is passed on is passed on faithfully, by induction on the buckets that are kept. -/
theorem Passed.pass {tmp : List Bucket} (passed : Passed params length got given tmp s) :
    Passed params length got (given ++ (Post.pass tmp s).1) (Post.pass tmp s).2.tmp
      (Post.pass tmp s).2 := by
  induction tmp generalizing given s with
  | nil =>
      obtain ⟨done, rfl, before | after⟩ := passed
      · refine ⟨done, rfl, .inl ⟨?_, before.open', before.nbytes, before.params,
          before.contentLength⟩⟩
        rw [Post.pass, List.append_nil]
        exact before.same
      · refine ⟨done, rfl, .inr ⟨?_, after.params⟩⟩
        rw [Post.pass, List.append_nil]
        exact after.split
  | cons bucket rest ih =>
      obtain ⟨done, rfl, state⟩ := passed
      have step (plain : bucket ≠ .eos) : Passed params length (done ++ bucket :: rest)
          (given ++ [bucket]) rest { s with nbytes := s.nbytes + bucket.bytes.length } := by
        refine ⟨done ++ [bucket], by simp, ?_⟩
        rcases state with before | after
        · refine .inl ⟨by rw [before.same], ?_, ?_, before.params, before.contentLength⟩
          · intro member
            rcases List.mem_append.mp member with member | member
            · exact before.open' member
            · exact plain (List.mem_singleton.mp member).symm
          · simp [before.nbytes]
        · obtain ⟨front, back, rfl, out, rfl, header⟩ := after.split
          exact .inr ⟨⟨front, back ++ [bucket], by simp, out, by simp, header⟩, after.params⟩
      have plain (other : bucket ≠ .eos)
          (passes : Post.pass (bucket :: rest) s =
            (bucket :: (Post.pass rest { s with nbytes := s.nbytes + bucket.bytes.length }).1,
              (Post.pass rest { s with nbytes := s.nbytes + bucket.bytes.length }).2)) :
          Passed params length (done ++ bucket :: rest)
            (given ++ (Post.pass (bucket :: rest) s).1) (Post.pass (bucket :: rest) s).2.tmp
            (Post.pass (bucket :: rest) s).2 := by
        have later := ih (step other)
        rw [List.append_assoc, List.singleton_append] at later
        rwa [passes]
      cases bucket with
      | data bytes => exact plain (by simp) rfl
      | flush => exact plain (by simp) rfl
      | eos =>
          rw [Post.pass]
          refine ⟨done ++ [.eos], by simp, .inr ?_⟩
          rcases state with before | after
          · rw [appendPostParams, before.params]
            refine ⟨⟨done, [], rfl, before.open', ?_, ?_⟩, rfl⟩
            · simp [before.same, before.nbytes]
            · simp [before.contentLength, before.nbytes]
          · obtain ⟨front, back, rfl, out, rfl, header⟩ := after.split
            rw [appendPostParams, after.params]
            exact ⟨⟨front, back ++ [.eos], by simp, out, by simp, header⟩, after.params⟩

theorem Passed.filter {call : FilterCall} (passed : Passed params length got given s.tmp s) :
    Passed params length (got ++ call.got s) (given ++ (Post.filter call s).1)
      (Post.filter call s).2.tmp (Post.filter call s).2 := by
  unfold FilterCall.got Post.filter
  by_cases empty : s.tmp = []
  · rw [if_pos empty, if_pos empty]
    obtain ⟨done, same, state⟩ := passed
    rw [empty, List.append_nil] at same
    subst same
    split
    · refine ⟨got, rfl, ?_⟩
      rw [List.append_nil]
      rcases state with before | after
      · exact .inl ⟨before.same, before.open', before.nbytes, before.params, before.contentLength⟩
      · exact .inr ⟨after.split, after.params⟩
    · exact Passed.pass ⟨got, rfl, state⟩
  · rw [if_neg empty, if_neg empty, List.append_nil]
    exact passed.pass

/-- A request with all calls of its filter. -/
theorem Passed.calls (requests : List FilterCall)
    (passed : Passed params length got given s.tmp s) :
    Passed params length (got ++ (Post.calls requests s).1) (given ++ (Post.calls requests s).2.1)
      (Post.calls requests s).2.2.tmp (Post.calls requests s).2.2 := by
  induction requests generalizing got given s with
  | nil =>
      rw [Post.calls, List.append_nil, List.append_nil]
      exact passed
  | cons call rest ih =>
      have next : Passed params length (got ++ call.got s) (given ++ (Post.filter call s).1)
          (Post.filter call s).2.tmp (Post.filter call s).2 := passed.filter
      have later := ih next
      rw [List.append_assoc, List.append_assoc] at later
      exact later

end Filter

theorem content_append {front back : List Bucket} (out : Bucket.eos ∉ front) :
    content (front ++ .eos :: back) = front.flatMap Bucket.bytes := by
  have plain : ∀ bucket ∈ front, decide (bucket ≠ Bucket.eos) = true := fun bucket member =>
    decide_eq_true fun same => out (same ▸ member)
  rw [content, List.takeWhile_append_of_pos plain, List.takeWhile_cons_of_neg (by simp),
    List.append_nil]

/-- What the application reads up to the end of the stream. -/
theorem Passed.content {params : List (String × String)} {length : Option String}
    {got given tmp : List Bucket} {s : FilterState} (passed : Passed params length got given tmp s)
    (ended : .eos ∈ given) :
    Post.content given =
        Post.content got ++ postParamsText (Post.content got).length params ∧
      s.contentLength = length.map fun _ => toString (Post.content given).length := by
  obtain ⟨done, rfl, before | after⟩ := passed
  · exact absurd (before.same ▸ ended) before.open'
  · obtain ⟨front, back, rfl, out, rfl, header⟩ := after.split
    have first : Post.content (front ++ .eos :: back ++ tmp) = front.flatMap Bucket.bytes := by
      rw [List.append_assoc, List.cons_append]
      exact content_append out
    have second := @content_append
      (front ++ [.data (postParamsText (front.flatMap Bucket.bytes).length params)]) back
        (by simp [out])
    rw [List.append_assoc, List.singleton_append] at second
    rw [first, second, header]
    simp [Bucket.bytes]

/-! ## What is read -/

/-- If every block has a byte at least, the whole body is read. -/
theorem readBlocks_of_pos {blocks : List (Option Nat)} {left : Nat} {body : List Char}
    (delivers : ∀ block ∈ blocks, ∃ size, block = some (size + 1)) (enough : left ≤ blocks.length) :
    readBlocks blocks left body = some (body.take left) := by
  induction blocks generalizing left body with
  | nil =>
      obtain rfl := Nat.le_zero.mp enough
      rfl
  | cons block blocks ih =>
      cases left with
      | zero => rfl
      | succ left =>
          obtain ⟨size, rfl⟩ := delivers block List.mem_cons_self
          rw [readBlocks]
          split
          · next empty =>
              have nothing : body = [] := by
                have lengths := congrArg List.length empty
                rw [List.length_take, List.length_nil] at lengths
                exact List.length_eq_zero_iff.mp (by omega)
              rw [nothing, List.take_nil]
          · next some =>
              have some : (body.take (min (size + 1) (left + 1))).length ≠ 0 :=
                fun empty => some (List.length_eq_zero_iff.mp empty)
              have part : body.take (min (size + 1) (left + 1)) =
                  body.take (body.take (min (size + 1) (left + 1))).length := by
                rw [List.length_take]
                exact List.take_eq_take_min
              have fits : (body.take (min (size + 1) (left + 1))).length ≤ left + 1 :=
                (List.length_take_le ..).trans (Nat.min_le_right ..)
              rw [List.length_cons] at enough
              rw [ih (fun other member =>
                delivers other (List.mem_cons_of_mem _ member)) (by omega),
                Option.map_some]
              nth_rewrite 1 [part]
              rw [← List.take_add, Nat.add_sub_cancel' fits]

/-! ## What is kept for the application -/

theorem toNat_urlDecodeHexDigit {c : Char} {digit : Nat}
    (decoded : urlDecodeHexDigit c = some digit) :
    digit < 16 := by
  unfold urlDecodeHexDigit at decoded
  split at decoded
  · next range =>
      obtain rfl := Option.some.inj decoded
      have low : '0'.toNat ≤ c.toNat := range.1
      have high : c.toNat ≤ '9'.toNat := range.2
      have zero : '0'.toNat = 48 := rfl
      have nine : '9'.toNat = 57 := rfl
      omega
  split at decoded
  · next range =>
      obtain rfl := Option.some.inj decoded
      have low : 'A'.toNat ≤ c.toNat := range.1
      have high : c.toNat ≤ 'F'.toNat := range.2
      have first : 'A'.toNat = 65 := rfl
      have last : 'F'.toNat = 70 := rfl
      omega
  split at decoded
  · next range =>
      obtain rfl := Option.some.inj decoded
      have low : 'a'.toNat ≤ c.toNat := range.1
      have high : c.toNat ≤ 'f'.toNat := range.2
      have first : 'a'.toNat = 97 := rfl
      have last : 'f'.toNat = 102 := rfl
      omega
  · cases decoded

theorem toNat_urlDecodeTriplet {first second c : Char}
    (decoded : urlDecodeTriplet first second = some c) : c.toNat < 256 := by
  obtain ⟨hi, high, found⟩ := Option.bind_eq_some_iff.mp decoded
  obtain ⟨lo, low, rfl⟩ := Option.map_eq_some_iff.mp found
  have high := toNat_urlDecodeHexDigit high
  have low := toNat_urlDecodeHexDigit low
  have valid : (hi * 16 + lo).isValidChar := .inl (by omega)
  rw [Char.ofNat, dif_pos valid]
  exact (by omega : hi * 16 + lo < 256)

/-- Bytes decode to bytes. -/
theorem toNat_urlDecodeLoop {text : List Char} (small : ∀ c ∈ text, c.toNat < 256) :
    ∀ c ∈ urlDecodeLoop text, c.toNat < 256 := by
  induction text using urlDecodeLoop.induct with
  | case1 => simp [urlDecodeLoop]
  | case2 rest ih =>
      rw [urlDecodeLoop]
      exact List.forall_mem_cons.mpr ⟨by decide, ih (List.forall_mem_cons.mp small).2⟩
  | case3 first second rest c decoded ih =>
      rw [urlDecodeLoop, decoded]
      have small := (List.forall_mem_cons.mp (List.forall_mem_cons.mp small).2).2
      exact List.forall_mem_cons.mpr
        ⟨toNat_urlDecodeTriplet decoded, ih (List.forall_mem_cons.mp small).2⟩
  | case4 first second rest malformed ih =>
      rw [urlDecodeLoop, malformed]
      exact List.forall_mem_cons.mpr ⟨by decide, ih (List.forall_mem_cons.mp small).2⟩
  | case5 c rest plus percent ih =>
      rw [urlDecodeLoop]
      · exact List.forall_mem_cons.mpr
          ⟨(List.forall_mem_cons.mp small).1, ih (List.forall_mem_cons.mp small).2⟩
      · exact plus
      · exact percent

theorem nulFree_urlDecode {text : List Char} (small : ∀ c ∈ text, c.toNat < 256) :
    NulFree (urlDecode (String.ofList text)) := by
  intro c member
  rw [urlDecode, String.toList_ofList, String.toList_ofList] at member
  refine ⟨?_, toNat_urlDecodeLoop small c ((List.takeWhile_sublist _).subset member)⟩
  simpa using List.mem_takeWhile_imp member

/-- The words of a text have no other characters. -/
theorem mem_getwords {stop : Char} {fuel : Nat} {line word : List Char}
    (member : word ∈ getwords stop fuel line) : ∀ c ∈ word, c ∈ line := by
  induction fuel generalizing line with
  | zero => cases member
  | succ fuel ih =>
      cases line with
      | nil => cases member
      | cons first line =>
          rw [getwords_of_ne_nil (List.cons_ne_nil first line)] at member
          rcases List.mem_cons.mp member with rfl | later
          · exact (List.takeWhile_sublist _).subset
          · intro c inside
            have rest := ih later c inside
            rw [getword] at rest
            exact (List.dropWhile_sublist _).subset ((List.dropWhile_sublist _).subset rest)

/-- The parameters of a text are texts. -/
theorem nulFree_formParams {data : String} (bytes : NulFree data) :
    ∀ param ∈ formParams (some data), NulFree param.1 ∧ NulFree param.2 := by
  intro param member
  obtain ⟨word, listed, rfl⟩ := List.mem_map.mp member
  have small : ∀ c ∈ word, c.toNat < 256 := fun c inside =>
    (bytes c (mem_getwords listed c inside)).2
  rw [formParam, getword]
  exact ⟨nulFree_urlDecode fun c inside => small c ((List.takeWhile_sublist _).subset inside),
    nulFree_urlDecode fun c inside => small c
      ((List.dropWhile_sublist _).subset ((List.dropWhile_sublist _).subset inside))⟩

/-- All entries of a table have names that differ. -/
abbrev Different (table : List (String × String)) : Prop :=
  table.Pairwise fun first second => CaseTable.fold first.1 ≠ CaseTable.fold second.1

theorem Different.set {table : List (String × String)} (different : Different table)
    (key value : String) : Different (CaseTable.set table key value) := by
  induction table with
  | nil => exact List.pairwise_singleton _ _
  | cons entry table ih =>
      obtain ⟨first, rest⟩ := List.pairwise_cons.mp different
      rw [CaseTable.set]
      split
      · exact List.pairwise_cons.mpr ⟨fun other member => first other (List.mem_filter.mp member).1,
          rest.sublist List.filter_sublist⟩
      · next other =>
          refine List.pairwise_cons.mpr ⟨fun entry' member => ?_, ih rest⟩
          rcases CaseTable.key_of_mem_set member with same | ⟨old, older, same⟩
          · exact same ▸ other
          · exact same ▸ first old older

/-- What is read is a table of texts whose names differ. -/
theorem readParams_table {noRepeat : Option (List String)} {params table : List (String × String)}
    (texts : ∀ param ∈ params, NulFree param.1 ∧ NulFree param.2)
    (texts' : ∀ entry ∈ table, NulFree entry.1 ∧ NulFree entry.2) (different : Different table) :
    (∀ entry ∈ (readParams noRepeat params table).1, NulFree entry.1 ∧ NulFree entry.2) ∧
      Different (readParams noRepeat params table).1 := by
  induction params generalizing table with
  | nil => exact ⟨texts', different⟩
  | cons param params ih =>
      obtain ⟨first, rest⟩ := List.forall_mem_cons.mp texts
      rw [readParams]
      split
      · exact ⟨texts', different⟩
      · refine ih rest (fun entry member => ⟨?_, ?_⟩) (different.set param.1 param.2)
        · rcases CaseTable.key_of_mem_set member with same | ⟨old, older, same⟩
          · exact same ▸ first.1
          · exact same ▸ (texts' old older).1
        · rcases CaseTable.mem_set member with same | old
          · exact same ▸ first.2
          · exact (texts' entry old).2

/-- Entries with other names than those that are kept are kept in their order. -/
theorem foldl_propagated (stripParamName : Option String) {table : List (String × String)}
    {kept : Option (List (String × String))} (different : Different (kept.getD [] ++ table)) :
    table.foldl (fun kept entry =>
        if some entry.1 = stripParamName then kept
        else some (CaseTable.set (kept.getD []) entry.1 entry.2)) kept =
      if table.filter (fun entry => some entry.1 ≠ stripParamName) = [] then kept
      else some (kept.getD [] ++ table.filter fun entry => some entry.1 ≠ stripParamName) := by
  induction table generalizing kept with
  | nil => rfl
  | cons entry table ih =>
      rw [List.foldl_cons]
      by_cases strip : some entry.1 = stripParamName
      · rw [if_pos strip, List.filter_cons_of_neg (by simpa using strip)]
        exact ih (different.sublist (List.Sublist.append_left (List.sublist_cons_self ..) _))
      · have new : ∀ other ∈ kept.getD [], CaseTable.fold other.1 ≠ CaseTable.fold entry.1 :=
          fun other member => (List.pairwise_append.mp different).2.2 other member entry
            List.mem_cons_self
        rw [if_neg strip, List.filter_cons_of_pos (by simpa using strip), if_neg (by simp),
          set_of_new new]
        have moved : kept.getD [] ++ entry :: table =
            (some (kept.getD [] ++ [(entry.1, entry.2)])).getD [] ++ table := by simp
        rw [moved] at different
        rw [ih different]
        split
        · next empty => rw [empty]
        · simp

/-- All entries but one are kept, if there are any. -/
theorem propagated_eq (stripParamName : Option String) {table : List (String × String)}
    (different : Different table) :
    propagated stripParamName table =
      if table.filter (fun entry => some entry.1 ≠ stripParamName) = [] then none
      else some (table.filter fun entry => some entry.1 ≠ stripParamName) :=
  foldl_propagated stripParamName different

/-! ## From the client to the application -/

/-- `OIDC_OAUTH_NO_REPEAT`. -/
def oauthNoRepeat : List String := ["access_token"]

/-- The body of a request comes as its header says, in blocks of any size. -/
structure Complete (input : Input) : Prop where
  post : input.post = true
  form : ∃ type, input.contentType = some type ∧
    "application/x-www-form-urlencoded".toList <+: type.toList
  setup : input.setup = true
  shouldBlock : input.shouldBlock = true
  remaining : input.remaining = input.body.length
  fits : input.remaining ≤ maxPostDataLen
  text : ∀ c ∈ input.body, c ≠ '\x00' ∧ c.toNat < 256
  delivers : ∀ block ∈ input.blocks, ∃ size, block = some (size + 1)
  enough : input.body.length ≤ input.blocks.length

theorem Complete.read_eq {input : Input} (complete : Complete input) :
    read input = some (String.ofList input.body) := by
  have fits : ¬maxPostDataLen < input.body.length := by
    rw [← complete.remaining]
    exact not_lt.mpr complete.fits
  have whole : input.body.takeWhile (· ≠ '\x00') = input.body :=
    List.takeWhile_eq_self_iff.mpr fun c member => decide_eq_true (complete.text c member).1
  rw [read, if_neg (by simp [complete.setup]), if_pos complete.shouldBlock, complete.remaining]
  dsimp only
  rw [if_neg fits, readBlocks_of_pos complete.delivers complete.enough, List.take_length,
    Option.map_some, whole]

/-- The parameters of a complete body. -/
theorem Complete.readPostParams_eq {input : Input} (complete : Complete input)
    (stripParamName : Option String) (noRepeat : Option (List String)) :
    readPostParams input true stripParamName noRepeat =
      let (table, done) := readFormEncodedParamsImpl [] (some (String.ofList input.body)) noRepeat
      (table, done, if done then propagated stripParamName table else none) := by
  obtain ⟨type, known, front⟩ := complete.form
  have form : ¬(input.post = false ∨ input.contentType.all (fun type =>
      ¬"application/x-www-form-urlencoded".toList <+: type.toList) = true) := by
    rintro (other | other)
    · rw [complete.post] at other
      cases other
    · rw [known] at other
      exact of_decide_eq_true other front
  rw [readPostParams, if_neg form, complete.read_eq]
  simp only [and_true]

/-- The other parameters of a posted form. -/
def others (table : List (String × String)) : List (String × String) :=
  table.filter fun entry => some entry.1 ≠ some "access_token"

theorem content_append_nil {first second : List Bucket} (empty : content first = [])
    (empty' : content second = []) : content (first ++ second) = [] := by
  induction first with
  | nil => exact empty'
  | cons bucket rest ih =>
      cases bucket with
      | eos => rfl
      | flush => exact ih empty
      | data bytes =>
          obtain ⟨rfl, empty⟩ := List.append_eq_nil_iff.mp empty
          exact ih empty

/-- If the next filter gives no bytes, the filter gets none. -/
theorem content_got {requests : List FilterCall}
    (consumed : ∀ call ∈ requests, content call.given = []) (s : FilterState) :
    content (calls requests s).1 = [] := by
  induction requests generalizing s with
  | nil => rfl
  | cons call rest ih =>
      obtain ⟨first, rest⟩ := List.forall_mem_cons.mp consumed
      rw [calls]
      apply content_append_nil ?_ (ih rest _)
      unfold FilterCall.got
      split
      · exact first
      · rfl

/-- The text of parameters behind nothing is read back as the parameters. -/
theorem read_postParamsText {params : List (String × String)} (some' : params ≠ [])
    (texts : ∀ param ∈ params, NulFree param.1 ∧ NulFree param.2) (different : Different params) :
    readFormEncodedParams [] (some (String.ofList (postParamsText 0 params))) = (params, true) := by
  obtain ⟨text, written⟩ : ∃ text, formEncodedData (some params) = some text := by
    cases params with
    | nil => exact absurd rfl some'
    | cons param params => exact ⟨_, rfl⟩
  rw [postParamsText, if_neg (lt_irrefl 0), List.nil_append, written, Option.getD_some,
    String.ofList_toList, ← written]
  exact form_round_trip.2 params texts different

/-- A form with a token and two other parameters, in blocks. -/
def tokenForm : Input where
  remaining := 25
  body := "a=1&access_token=t&b=%262".toList
  blocks := some 20 :: List.replicate 30 (some 3)

theorem complete_tokenForm : Complete tokenForm := by
  have text : NulFree "a=1&access_token=t&b=%262" := by decide
  have length : tokenForm.body.length = 25 := by decide
  refine ⟨rfl, ⟨_, rfl, List.prefix_refl _⟩, rfl, rfl, length.symm, ?_, text, ?_, ?_⟩
  · norm_num [tokenForm, maxPostDataLen]
  · intro block member
    rcases List.mem_cons.mp member with rfl | later
    · exact ⟨19, rfl⟩
    · exact ⟨2, List.eq_of_mem_replicate later⟩
  · rw [length]
    decide

/-- Nothing is left of its body. -/
def consumedCalls : List FilterCall := [{ given := [.flush] }, { given := [.eos] }]

/-- The filter behind it. -/
def tokenFormState : FilterState where
  params := some [("a", "1"), ("b", "&2")]
  contentLength := some "25"

end Post

end Http

end ModAuthOpenidc
