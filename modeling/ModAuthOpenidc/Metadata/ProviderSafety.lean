import ModAuthOpenidc.Metadata.Providers

/-!
# Where metadata come from

Two issuers may share their files, since the scheme is not part of the names. Yet whatever processes
do to the files, the metadata that one of them ends up with were there from the start or come from
the address of the very issuer that it asks for. Requests are made for what is missing or out of
date, and where no discovery is allowed only for what has been there.
-/

namespace ModAuthOpenidc

namespace Metadata

open Http (NulFree)
open Proto (issuerMatch)
open Threads

/-! ## Issuers with one name -/

/-- Equal up to a slash at the end. -/
def Alike (issuer other : String) : Prop :=
  issuer = other ∨ issuer = other ++ "/" ∨ other = issuer ++ "/"

/-- More text is more of what is behind a prefix, unless it completes the prefix. -/
theorem dropPrefix?_append (scheme front back : List Char) :
    (front ++ back).dropPrefix? scheme = (front.dropPrefix? scheme).map (· ++ back) ∨
      (scheme <+: front ++ back ∧ front.length < scheme.length) := by
  cases dropped : front.dropPrefix? scheme with
  | some rest =>
      obtain ⟨scheme', rfl, same⟩ := List.dropPrefix?_eq_some_iff.mp dropped
      left
      rw [Option.map_some, List.append_assoc]
      exact List.dropPrefix?_eq_some_iff.mpr ⟨scheme', rfl, same⟩
  | none =>
      cases complete : (front ++ back).dropPrefix? scheme with
      | none => exact .inl rfl
      | some rest =>
          right
          obtain ⟨scheme', split, same⟩ := List.dropPrefix?_eq_some_iff.mp complete
          obtain rfl := beq_iff_eq.mp same
          have whole : scheme' <+: front ++ back := ⟨rest, split.symm⟩
          refine ⟨whole, ?_⟩
          by_contra long
          obtain ⟨rest', rfl⟩ := List.prefix_of_prefix_length_le whole (List.prefix_append _ _)
            (not_lt.mp long)
          rw [List.dropPrefix?_append_of_beq _ (beq_self_eq_true scheme')] at dropped
          cases dropped

/-- A text that lacks one or two slashes of a scheme. -/
theorem scheme_of_short {scheme front : List Char} (whole : scheme <+: front ++ ['/', '/'])
    (short : front.length < scheme.length) : front = scheme.dropLast ∨
      front = scheme.dropLast.dropLast := by
  obtain ⟨rest, rfl⟩ := List.prefix_of_prefix_length_le (List.prefix_append _ _) whole short.le
  rw [List.prefix_append_right_inj] at whole
  have parts : rest = [] ∨ rest = ['/'] ∨ rest = ['/', '/'] := by
    rcases rest with - | ⟨c, - | ⟨d, - | ⟨e, rest⟩⟩⟩
    · exact .inl rfl
    · exact .inr (.inl (by simpa using whole))
    · exact .inr (.inr (by simpa using whole))
    · have := whole.length_le
      simp at this
  rcases parts with rfl | rfl | rfl
  · simp at short
  · left
    simp
  · right
    simp

theorem withoutScheme_slashes (issuer : List Char) :
    withoutSlash (withoutScheme (issuer ++ ['/', '/'])) ≠ withoutSlash (withoutScheme issuer) := by
  have longer (text : List Char) : withoutSlash (text ++ ['/', '/']) ≠ withoutSlash text := by
    have two : withoutSlash (text ++ ['/', '/']) = text ++ ['/'] := by
      rw [withoutSlash, if_pos (by simp)]
      simp
    rw [two]
    intro same
    rcases withoutSlash_cases text with whole | whole
    · rw [← whole] at same
      simp at same
    · have lengths := congrArg List.length same
      have whole_length := congrArg List.length whole
      simp at lengths whole_length
      omega
  rcases dropPrefix?_append "https://".toList issuer ['/', '/'] with secure | ⟨whole, short⟩
  · rcases dropPrefix?_append "http://".toList issuer ['/', '/'] with plain | ⟨whole, short⟩
    · have both : withoutScheme (issuer ++ ['/', '/']) = withoutScheme issuer ++ ['/', '/'] := by
        rw [withoutScheme, withoutScheme, secure, plain]
        cases issuer.dropPrefix? "https://".toList with
        | some rest => rfl
        | none =>
            cases issuer.dropPrefix? "http://".toList with
            | some rest => rfl
            | none => rfl
      rw [both]
      exact longer _
    · rcases scheme_of_short whole short with rfl | rfl
      · decide
      · decide
  · rcases scheme_of_short whole short with rfl | rfl
    · decide
    · decide

theorem toList_slash (text : String) : (text ++ "/").toList = text.toList ++ ['/'] := by
  rw [String.toList_append]
  rfl

theorem alike_of_issuerMatch {issuer other named : String} (same : bare issuer = bare other)
    (first : issuerMatch issuer named = true) (second : issuerMatch other named = true) :
    Alike issuer other := by
  have slash {a b : String} (split : a.toList = b.toList ++ ['/']) : a = b ++ "/" := by
    rw [← String.toList_inj, toList_slash, split]
  have never {a b : String} (split : a.toList = b.toList ++ ['/', '/']) (same : bare a = bare b) :
      False := by
    have lists := congrArg String.toList same
    rw [bare, bare, String.toList_ofList, String.toList_ofList, split] at lists
    exact withoutScheme_slashes _ lists
  simp only [issuerMatch, Bool.or_eq_true, Bool.and_eq_true, decide_eq_true_eq] at first second
  rcases first with (rfl | ⟨-, first⟩) | ⟨-, first⟩
  · rcases second with (rfl | ⟨-, second⟩) | ⟨-, second⟩
    · exact .inl rfl
    · exact .inr (.inr (slash second))
    · exact .inr (.inl (slash second))
  · rcases second with (rfl | ⟨-, second⟩) | ⟨-, second⟩
    · exact .inr (.inl (slash first))
    · exact .inl (String.toList_inj.mp (first.trans second.symm))
    · exact absurd same fun same => never (by rw [first, second]; simp) same
  · rcases second with (rfl | ⟨-, second⟩) | ⟨-, second⟩
    · exact .inr (.inr (slash first))
    · exact absurd same.symm fun same => never (by rw [second, first]; simp) same
    · exact .inl (String.toList_inj.mp (List.append_cancel_right (first.symm.trans second)))

/-! ## The files -/

/-- A file with its time of modification. -/
structure File where
  content : String
  mtime : Int

/-- The files by their paths. -/
abbrev Disk := String → Option File

/-- What operations do. Any of them may fail, and the answers of servers may be anything. -/
inductive Effect : (op : Op) → Disk → Answer op → Disk → Prop
  | now (disk : Disk) (time : Int) : Effect .now disk time disk
  | stat {disk : Disk} {path : String} {file : File} (there : disk path = some file) :
      Effect (.stat path) disk (some file.mtime) disk
  | noStat (disk : Disk) (path : String) : Effect (.stat path) disk none disk
  | read {disk : Disk} {path : String} {file : File} (there : disk path = some file) :
      Effect (.read path) disk (some file.content) disk
  | noRead (disk : Disk) (path : String) : Effect (.read path) disk none disk
  | touch {disk : Disk} {path : String} {file : File} (time : Int)
      (there : disk path = some file) :
      Effect (.touch path time) disk ()
        (Function.update disk path (some { file with mtime := time }))
  | noTouch (disk : Disk) (path : String) (time : Int) : Effect (.touch path time) disk () disk
  | write (disk : Disk) (path text : String) (mtime : Int) :
      Effect (.write path text) disk true (Function.update disk path (some ⟨text, mtime⟩))
  | noWrite (disk : Disk) (path text : String) : Effect (.write path text) disk false disk
  | get (disk : Disk) (url : String) (params : List (String × String)) (response : Option String) :
      Effect (.get url params) disk response disk
  | post (disk : Disk) (url : String) (data : Object) (response : Option String) :
      Effect (.post url data) disk response disk

section Sources

variable {ι : Type} (settings : Settings) (initial : Disk)

/-- Someone got a text from an address. -/
def Downloaded (recorded : Recorded ι Disk Answer) (url text : String) : Prop :=
  ∃ i params, (⟨.get url params, some text⟩ : Sigma Answer) ∈ recorded.events i

/-- Someone registered at an address and got a text. -/
def Registered (recorded : Recorded ι Disk Answer) (url : String) (data : Object) (text : String) :
    Prop :=
  ∃ i, (⟨.post url data, some text⟩ : Sigma Answer) ∈ recorded.events i

/-- Metadata are valid for an issuer, and they were there from the start or come from its address.
-/
structure Genuine (recorded : Recorded ι Disk Answer) (issuer : String) (metadata : Object) :
    Prop where
  valid : providerIsValid settings metadata issuer = true
  source : ∃ text, decodeObject settings text = some metadata ∧
    ((∃ file, initial (providerFilePath settings.metadataDir issuer) = some file ∧
        file.content = text) ∨
      ∃ issuer', Alike issuer issuer' ∧ Downloaded recorded (wellKnown issuer') text)

/-- The settings for a provider, which nobody changes. -/
def Configured (issuer : String) (conf : Option Object) : Prop :=
  conf = none ∨ ∃ file object, initial (confPath settings.metadataDir issuer) = some file ∧
    decodeObject settings file.content = some object ∧ settings.confIsValid object = true ∧
      conf = some object

/-- An issuer has an endpoint where clients are registered with a request. -/
def Endpoint (recorded : Recorded ι Disk Answer) (issuer url : String) (data : Object) : Prop :=
  ∃ metadata conf provider, Genuine settings initial recorded issuer metadata ∧
    Configured settings initial issuer conf ∧
    settings.providerParse conf metadata = some provider ∧
    provider.registrationEndpointUrl = some url ∧ provider.registrationRequest = some data

/-- A client has an identifier, and its metadata were there from the start or come from the endpoint
of an issuer with the same files. -/
structure Enrolled (recorded : Recorded ι Disk Answer) (issuer : String) (client : Object) :
    Prop where
  named : (client.getString "client_id").isSome = true
  source : ∃ text, decodeObject settings text = some client ∧
    ((∃ file, initial (clientFilePath settings.metadataDir issuer) = some file ∧
        file.content = text) ∨
      ∃ issuer' url data, bare issuer' = bare issuer ∧
        Endpoint settings initial recorded issuer' url data ∧ Registered recorded url data text)

/-- Where the content of a file comes from. -/
inductive Source (recorded : Recorded ι Disk Answer) (path text : String) : Prop
  | initial {file : File} (there : initial path = some file) (content : file.content = text)
  | downloaded {issuer : String} {metadata : Object} (bytes : NulFree issuer)
      (named : path = providerFilePath settings.metadataDir issuer)
      (answered : Downloaded recorded (wellKnown issuer) text)
      (decoded : decodeObject settings text = some metadata)
      (valid : providerIsValid settings metadata issuer = true)
  | registered {issuer url : String} {data : Object} (bytes : NulFree issuer)
      (named : path = clientFilePath settings.metadataDir issuer)
      (endpoint : Endpoint settings initial recorded issuer url data)
      (answered : Registered recorded url data text)

/-- Whatever is in a file or was read from one has a source. -/
structure Sound (recorded : Recorded ι Disk Answer) : Prop where
  disk : ∀ path file, recorded.state path = some file →
    Source settings initial recorded path file.content
  read : ∀ i path text, (⟨.read path, some text⟩ : Sigma Answer) ∈ recorded.events i →
    Source settings initial recorded path text

/-! ## Later on -/

variable {settings initial} {before after : Recorded ι Disk Answer}

/-- More was performed. -/
def Later (before after : Recorded ι Disk Answer) : Prop :=
  ∀ i, before.events i ⊆ after.events i

theorem Later.of_effect [DecidableEq ι] {i : ι} {op : Op} {answer : Answer op}
    (works : Recorded.Effect Effect i op before answer after) : Later before after := by
  cases works
  intro j event member
  dsimp only
  by_cases same : j = i
  · subst same
    rw [Function.update_self]
    exact List.mem_append_left _ member
  · rwa [Function.update_of_ne same]

theorem Downloaded.mono (later : Later before after) {url text : String}
    (downloaded : Downloaded before url text) : Downloaded after url text := by
  obtain ⟨i, params, member⟩ := downloaded
  exact ⟨i, params, later i member⟩

theorem Registered.mono (later : Later before after) {url text : String} {data : Object}
    (registered : Registered before url data text) : Registered after url data text := by
  obtain ⟨i, member⟩ := registered
  exact ⟨i, later i member⟩

theorem Genuine.mono (later : Later before after) {issuer : String} {metadata : Object}
    (genuine : Genuine settings initial before issuer metadata) :
    Genuine settings initial after issuer metadata := by
  obtain ⟨text, decoded, source⟩ := genuine.source
  refine ⟨genuine.valid, text, decoded, source.imp_right ?_⟩
  rintro ⟨issuer', alike, downloaded⟩
  exact ⟨issuer', alike, downloaded.mono later⟩

theorem Endpoint.mono (later : Later before after) {issuer url : String} {data : Object}
    (endpoint : Endpoint settings initial before issuer url data) :
    Endpoint settings initial after issuer url data := by
  obtain ⟨metadata, conf, provider, genuine, rest⟩ := endpoint
  exact ⟨metadata, conf, provider, genuine.mono later, rest⟩

theorem Source.mono (later : Later before after) {path text : String}
    (source : Source settings initial before path text) :
    Source settings initial after path text := by
  cases source with
  | initial there content => exact .initial there content
  | downloaded bytes named answered decoded valid =>
      exact .downloaded bytes named (answered.mono later) decoded valid
  | registered bytes named endpoint answered =>
      exact .registered bytes named (endpoint.mono later) (answered.mono later)

/-! ## Paths -/

theorem path_ne (dir : String) {issuer other type type' : String}
    (different : type.toList.getLast? ≠ type'.toList.getLast?) (some' : type'.toList ≠ [])
    (some : type.toList ≠ []) : filePath dir issuer type ≠ filePath dir other type' := by
  intro same
  have lists := congrArg (fun path => path.toList.getLast?) same
  simp only [filePath, String.toList_append, List.getLast?_append_of_ne_nil _ some,
    List.getLast?_append_of_ne_nil _ some'] at lists
  exact different lists

/-- What is in the file of a provider is genuine as soon as it is valid. -/
theorem Source.genuine {issuer text : String} {metadata : Object} (bytes : NulFree issuer)
    (source : Source settings initial before (providerFilePath settings.metadataDir issuer) text)
    (decoded : decodeObject settings text = some metadata)
    (valid : providerIsValid settings metadata issuer = true) :
    Genuine settings initial before issuer metadata := by
  refine ⟨valid, text, decoded, ?_⟩
  cases source with
  | initial there content => exact .inl ⟨_, there, content⟩
  | @downloaded issuer' metadata' bytes' named answered decoded' valid' =>
      obtain rfl := Option.some.inj (decoded.symm.trans decoded')
      have same := (filePath_inj settings.metadataDir "provider" bytes bytes').mp named
      have named {issuer : String} (valid : providerIsValid settings metadata issuer = true) :
          ∃ iss, metadata.getString "issuer" = some iss ∧ issuerMatch issuer iss = true := by
        simp only [providerIsValid, Bool.and_eq_true] at valid
        have first := valid.1.1.1.1.1.1.1.1
        rwa [Option.any_eq_true] at first
      obtain ⟨iss, member, first⟩ := named valid
      obtain ⟨iss', member', second⟩ := named valid'
      obtain rfl := Option.some.inj (member.symm.trans member')
      exact .inr ⟨issuer', alike_of_issuerMatch same first second, answered⟩
  | registered _ named =>
      exact absurd named (path_ne _ (by decide) (by decide) (by decide))

/-- What is in the file of a client is right as soon as there is an identifier. -/
theorem Source.enrolled {issuer text : String} {client : Object} (bytes : NulFree issuer)
    (source : Source settings initial before (clientFilePath settings.metadataDir issuer) text)
    (decoded : decodeObject settings text = some client)
    (named : (client.getString "client_id").isSome = true) :
    Enrolled settings initial before issuer client := by
  refine ⟨named, text, decoded, ?_⟩
  cases source with
  | initial there content => exact .inl ⟨_, there, content⟩
  | downloaded _ named =>
      exact absurd named (path_ne _ (by decide) (by decide) (by decide))
  | @registered issuer' url data bytes' named endpoint answered =>
      have same := (filePath_inj settings.metadataDir "client" bytes bytes').mp named
      exact .inr ⟨issuer', url, data, same.symm, endpoint, answered⟩

/-- Nobody changes the settings for a provider. -/
theorem Source.configured {issuer text : String} {object : Object}
    (source : Source settings initial before (confPath settings.metadataDir issuer) text)
    (decoded : decodeObject settings text = some object)
    (valid : settings.confIsValid object = true) :
    Configured settings initial issuer (some object) := by
  cases source with
  | @initial file there content => exact .inr ⟨file, object, there, content ▸ decoded, valid, rfl⟩
  | downloaded _ named =>
      exact absurd named (path_ne _ (by decide) (by decide) (by decide))
  | registered _ named =>
      exact absurd named (path_ne _ (by decide) (by decide) (by decide))

end Sources

/-! ## What one process does -/

section Policy

variable (settings : Settings) (issuer : String)

/-- The file of the provider is to be refreshed, or there are no metadata in it. -/
def Outdated (events : History Answer) : Prop :=
  (∃ mtime time : Int,
    (⟨.stat (providerFilePath settings.metadataDir issuer), some mtime⟩ : Sigma Answer) ∈ events ∧
      (⟨.now, time⟩ : Sigma Answer) ∈ events ∧
      mtime + settings.refreshInterval * 1000000 ≤ time) ∨
  ∃ content : Option String,
    (⟨.read (providerFilePath settings.metadataDir issuer), content⟩ : Sigma Answer) ∈ events ∧
      content.bind (decodeObject settings) = none

/-- The file of the provider has been there, and it is refreshed from time to time. -/
def Present (events : History Answer) : Prop :=
  ∃ mtime : Int,
    (⟨.stat (providerFilePath settings.metadataDir issuer), some mtime⟩ : Sigma Answer) ∈ events

/-- Metadata of the provider are valid, and they were read or downloaded. -/
def Obtained (events : History Answer) (metadata : Object) : Prop :=
  providerIsValid settings metadata issuer = true ∧
    ∃ text : String, decodeObject settings text = some metadata ∧
      ((⟨.read (providerFilePath settings.metadataDir issuer), some text⟩ : Sigma Answer) ∈ events ∨
        (⟨.get (wellKnown issuer) [], some text⟩ : Sigma Answer) ∈ events)

/-- The settings for the provider were read, if there are any. -/
def ConfRead (events : History Answer) (conf : Option Object) : Prop :=
  conf = none ∨ ∃ (text : String) (object : Object),
    (⟨.read (confPath settings.metadataDir issuer), some text⟩ : Sigma Answer) ∈ events ∧
      decodeObject settings text = some object ∧ settings.confIsValid object = true ∧
        conf = some object

/-- A request to the endpoint of the provider that registers the client. -/
def Registers (events : History Answer) (url : String) (data : Object) : Prop :=
  ∃ metadata conf provider, Obtained settings issuer events metadata ∧
    ConfRead settings issuer events conf ∧ settings.providerParse conf metadata = some provider ∧
    provider.registrationEndpointUrl = some url ∧ provider.registrationRequest = some data

/-- Metadata of the client have an identifier, and they were read or come from a registration. -/
def Held (events : History Answer) (client : Object) : Prop :=
  (client.getString "client_id").isSome = true ∧
    ∃ text : String, decodeObject settings text = some client ∧
      ((⟨.read (clientFilePath settings.metadataDir issuer), some text⟩ : Sigma Answer) ∈ events ∨
        ∃ url data, Registers settings issuer events url data ∧
          (⟨.post url data, some text⟩ : Sigma Answer) ∈ events)

/-- What a process may do for an issuer. -/
def Policy (allowDiscovery : Bool) (events : History Answer) : Op → Prop
  | .get url _ => url = wellKnown issuer ∧ Outdated settings issuer events ∧
      (allowDiscovery = true ∨ Present settings issuer events)
  | .post url data => Registers settings issuer events url data
  | .touch path _ => path = providerFilePath settings.metadataDir issuer
  | .write path text =>
      (path = providerFilePath settings.metadataDir issuer ∧ ∃ metadata,
        decodeObject settings text = some metadata ∧
          providerIsValid settings metadata issuer = true ∧
          (⟨.get (wellKnown issuer) [], some text⟩ : Sigma Answer) ∈ events) ∨
      (path = clientFilePath settings.metadataDir issuer ∧ ∃ url data,
        Registers settings issuer events url data ∧
          (⟨.post url data, some text⟩ : Sigma Answer) ∈ events)
  | .now | .stat _ | .read _ => True

end Policy

section Follows

variable {settings : Settings} {issuer : String} {allowDiscovery : Bool}
  {events later : History Answer}

theorem Obtained.mono (grows : events <+: later) {metadata : Object}
    (obtained : Obtained settings issuer events metadata) :
    Obtained settings issuer later metadata := by
  obtain ⟨valid, text, decoded, source⟩ := obtained
  exact ⟨valid, text, decoded, source.imp (grows.subset ·) (grows.subset ·)⟩

theorem ConfRead.mono (grows : events <+: later) {conf : Option Object}
    (read : ConfRead settings issuer events conf) : ConfRead settings issuer later conf := by
  refine read.imp_right ?_
  rintro ⟨text, object, member, rest⟩
  exact ⟨text, object, grows.subset member, rest⟩

theorem Registers.mono (grows : events <+: later) {url : String} {data : Object}
    (registers : Registers settings issuer events url data) :
    Registers settings issuer later url data := by
  obtain ⟨metadata, conf, provider, obtained, read, rest⟩ := registers
  exact ⟨metadata, conf, provider, obtained.mono grows, read.mono grows, rest⟩

theorem decodeObject_of_decodeAndCheckError {text : String} {object : Object}
    (decoded : decodeAndCheckError settings text = some object) :
    decodeObject settings text = some object := (Option.filter_eq_some_iff.mp decoded).1

theorem validated_eq_some {metadata metadata' : Object} :
    validated settings issuer metadata = some metadata' ↔
      providerIsValid settings metadata issuer = true ∧ metadata = metadata' := by
  rw [validated]
  split
  · next valid => simp [valid]
  · next invalid => simp [invalid]

theorem mem_last (events : History Answer) (event : Sigma Answer) : event ∈ events ++ [event] :=
  List.mem_append_right _ List.mem_cons_self

theorem none_spec {α : Type} {property : α → Prop} :
    ∀ value, none = some value → property value := by
  intro value none
  cases none

/-- A retrieval returns a response with valid metadata. -/
theorem follows_providerRetrieve
    (allowed : Policy settings issuer allowDiscovery events (.get (wellKnown issuer) [])) :
    (providerRetrieve settings issuer (wellKnown issuer)).Follows
      (Policy settings issuer allowDiscovery)
      (fun later retrieved => ∀ text metadata, retrieved = some (text, metadata) →
        decodeObject settings text = some metadata ∧
          providerIsValid settings metadata issuer = true ∧
          (⟨.get (wellKnown issuer) [], some text⟩ : Sigma Answer) ∈ later) events := by
  refine .call allowed fun (response : Option String) => .pure ?_
  intro text metadata retrieved
  obtain ⟨text', rfl, inner⟩ := Option.bind_eq_some_iff.mp retrieved
  obtain ⟨metadata', decoded, mapped⟩ := Option.bind_eq_some_iff.mp inner
  obtain ⟨metadata'', valid, same⟩ := Option.map_eq_some_iff.mp mapped
  obtain ⟨right, rfl⟩ := validated_eq_some.mp valid
  cases same
  exact ⟨decodeObject_of_decodeAndCheckError decoded, right, mem_last _ _⟩

/-- A refresh returns valid metadata, those of the file if it has to. -/
theorem follows_providerRefresh {mtime : Option Int} {cached : Option Object}
    (outdated : Outdated settings issuer events)
    (present : ∀ time, mtime = some time → Present settings issuer events)
    (read : ∀ metadata, cached = some metadata → ∃ text : String,
      decodeObject settings text = some metadata ∧
        (⟨.read (providerFilePath settings.metadataDir issuer), some text⟩ : Sigma Answer) ∈
          events) :
    (providerRefresh settings issuer allowDiscovery mtime cached).Follows
      (Policy settings issuer allowDiscovery)
      (fun later result => ∀ metadata, result = some metadata →
        Obtained settings issuer later metadata) events := by
  refine .ite (fun _ => .pure none_spec) fun allowed => ?_
  have due : Policy settings issuer allowDiscovery events (.get (wellKnown issuer) []) := by
    refine ⟨rfl, outdated, ?_⟩
    cases mtime with
    | some time => exact .inr (present time rfl)
    | none => exact .inl (by simpa using allowed)
  refine (follows_providerRetrieve due).bind fun later retrieved grows facts => ?_
  cases retrieved with
  | some pair =>
      obtain ⟨response, metadata⟩ := pair
      obtain ⟨decoded, valid, member⟩ := facts response metadata rfl
      refine .call (.inl ⟨rfl, metadata, decoded, valid, member⟩) fun _ => .pure ?_
      rintro metadata' ⟨rfl⟩
      exact ⟨valid, response, decoded, .inr (List.mem_append_left _ member)⟩
  | none =>
      cases mtime with
      | none => exact .pure none_spec
      | some time =>
          cases cached with
          | none => exact .pure none_spec
          | some cached =>
              refine .call trivial fun _ => .call rfl fun _ => .pure ?_
              intro metadata result
              obtain ⟨valid, rfl⟩ := validated_eq_some.mp result
              obtain ⟨text, decoded, member⟩ := read cached rfl
              exact ⟨valid, text, decoded, .inl (List.mem_append_left _ (List.mem_append_left _
                (grows.subset member)))⟩

/-- The time of the file, if it is there. -/
theorem follows_cacheTime :
    (cacheTime settings (providerFilePath settings.metadataDir issuer)).Follows
      (Policy settings issuer allowDiscovery)
      (fun later mtime => ∀ time : Int, mtime = some time →
        (⟨.stat (providerFilePath settings.metadataDir issuer), some time⟩ : Sigma Answer) ∈ later)
      events := by
  refine .ite (fun _ => .perform trivial fun (mtime : Option Int) => .done ?_)
    fun _ => .pure none_spec
  rintro time rfl
  exact mem_last _ _

/-- A file that has to be refreshed is too old by the clock. -/
theorem follows_useCache (mtime : Option Int) :
    (useCache settings mtime).Follows (Policy settings issuer allowDiscovery)
      (fun later fresh => fresh = false → ∃ time now : Int, mtime = some time ∧
        (⟨.now, now⟩ : Sigma Answer) ∈ later ∧
          time + settings.refreshInterval * 1000000 ≤ now) events := by
  cases mtime with
  | none => exact .pure fun stale => absurd stale (by decide)
  | some time =>
      refine .call trivial fun (now : Int) => .pure fun stale => ?_
      exact ⟨time, now, rfl, mem_last _ _, not_lt.mp (of_decide_eq_false stale)⟩

/-- The metadata of a provider are valid and have been read or downloaded. -/
theorem follows_providerGet :
    (providerGet settings issuer allowDiscovery).Follows (Policy settings issuer allowDiscovery)
      (fun later result => ∀ metadata, result = some metadata →
        Obtained settings issuer later metadata) events := by
  refine follows_cacheTime.bind fun events₁ mtime _ stated => ?_
  refine (follows_useCache mtime).bind fun events₂ fresh grows clock => ?_
  refine .call trivial fun (content : Option String) => ?_
  have read := mem_last events₂ ⟨.read (providerFilePath settings.metadataDir issuer), content⟩
  have present (time : Int) (there : mtime = some time) : Present settings issuer (events₂ ++
      [⟨.read (providerFilePath settings.metadataDir issuer), content⟩]) :=
    ⟨time, List.mem_append_left _ (grows.subset (stated time there))⟩
  cases cached : content.bind (decodeObject settings) with
  | none => exact follows_providerRefresh (.inr ⟨content, read, cached⟩) present none_spec
  | some metadata =>
      obtain ⟨text, rfl, decoded⟩ := Option.bind_eq_some_iff.mp cached
      cases fresh with
      | true =>
          refine .pure fun metadata' result => ?_
          obtain ⟨valid, rfl⟩ := validated_eq_some.mp result
          exact ⟨valid, text, decoded, .inl read⟩
      | false =>
          obtain ⟨time, now, there, ticked, old⟩ := clock rfl
          refine follows_providerRefresh (.inl ⟨time, now, ?_, ?_, old⟩) present ?_
          · exact List.mem_append_left _ (grows.subset (stated time there))
          · exact List.mem_append_left _ ticked
          · rintro metadata' ⟨rfl⟩
            exact ⟨text, decoded, read⟩

/-- The settings for a provider are read and valid, or there are none. -/
theorem follows_confGet :
    (confGet settings issuer).Follows (Policy settings issuer allowDiscovery)
      (fun later result => ∀ conf, result = some conf → ConfRead settings issuer later conf)
      events := by
  refine .call trivial fun (mtime : Option Int) => ?_
  cases mtime with
  | none =>
      refine .pure ?_
      rintro conf ⟨rfl⟩
      exact .inl rfl
  | some _ =>
      refine .call trivial fun (content : Option String) => .pure fun conf result => ?_
      obtain ⟨object, decoded, checked⟩ := Option.bind_eq_some_iff.mp result
      obtain ⟨text, rfl, decoded'⟩ := Option.bind_eq_some_iff.mp decoded
      split at checked
      · next valid =>
          cases checked
          exact .inr ⟨text, object, mem_last _ _, decoded', valid, rfl⟩
      · cases checked

/-- Valid metadata of a client have an identifier. -/
theorem follows_clientIsValid (client : Object) :
    (clientIsValid client).Follows (Policy settings issuer allowDiscovery)
      (fun _ valid => valid = true → (client.getString "client_id").isSome = true) events := by
  refine .ite (fun _ => .pure fun valid => absurd valid (by decide)) fun named => ?_
  have named : (client.getString "client_id").isSome = true := by
    rwa [Option.isNone_iff_eq_none, ← Ne, ← Option.isSome_iff_ne_none] at named
  split
  · refine .ite (fun _ => .pure fun _ => named) fun _ => .call trivial fun _ => .pure fun _ => named
  · exact .pure fun _ => named

/-- A client without valid metadata is registered at the endpoint of its provider. -/
theorem follows_clientRenew {metadata : Object} {conf : Option Object} {provider : Provider}
    (obtained : Obtained settings issuer events metadata)
    (read : ConfRead settings issuer events conf)
    (parsed : settings.providerParse conf metadata = some provider) :
    (clientRenew settings issuer provider).Follows (Policy settings issuer allowDiscovery)
      (fun later result => ∀ client, result = some client → Held settings issuer later client)
      events := by
  unfold clientRenew clientRegister
  cases endpoint : provider.registrationEndpointUrl with
  | none => exact .pure none_spec
  | some url =>
      cases request : provider.registrationRequest with
      | none => exact .pure none_spec
      | some data =>
          have registers : Registers settings issuer events url data :=
            ⟨metadata, conf, provider, obtained, read, parsed, endpoint, request⟩
          refine .call registers fun (response : Option String) => ?_
          have grows : events <+: events ++ [(⟨.post url data, response⟩ : Sigma Answer)] :=
            List.prefix_append _ _
          cases registered : response.bind fun text =>
              (decodeAndCheckError settings text).map (text, ·) with
          | none => exact .pure none_spec
          | some pair =>
              obtain ⟨text, rfl, mapped⟩ := Option.bind_eq_some_iff.mp registered
              obtain ⟨client, decoded, rfl⟩ := Option.map_eq_some_iff.mp mapped
              refine (follows_clientIsValid client).bind fun later valid grows' named => ?_
              have registers' := registers.mono (grows.trans grows')
              have answered := grows'.subset (mem_last events ⟨.post url data, some text⟩)
              cases valid with
              | false => exact .pure none_spec
              | true =>
                  refine .call (.inr ⟨rfl, url, data, registers', answered⟩)
                    fun (written : Bool) => .pure ?_
                  intro client' result
                  split at result
                  · cases result
                    exact ⟨named rfl, text, decodeObject_of_decodeAndCheckError decoded, .inr
                      ⟨url, data, registers'.mono (List.prefix_append _ _),
                        List.mem_append_left _ answered⟩⟩
                  · cases result

/-- The metadata of a client have an identifier and have been read or come from a registration. -/
theorem follows_clientGet {metadata : Object} {conf : Option Object} {provider : Provider}
    (obtained : Obtained settings issuer events metadata)
    (read : ConfRead settings issuer events conf)
    (parsed : settings.providerParse conf metadata = some provider) :
    (clientGet settings issuer provider).Follows (Policy settings issuer allowDiscovery)
      (fun later result => ∀ client, result = some client → Held settings issuer later client)
      events := by
  refine .call trivial fun (content : Option String) => ?_
  have grows : events <+: events ++
      [(⟨.read (clientFilePath settings.metadataDir issuer), content⟩ : Sigma Answer)] :=
    List.prefix_append _ _
  cases decoded : content.bind (decodeObject settings) with
  | none => exact follows_clientRenew (obtained.mono grows) (read.mono grows) parsed
  | some client =>
      obtain ⟨text, rfl, decoded'⟩ := Option.bind_eq_some_iff.mp decoded
      refine (follows_clientIsValid client).bind fun later valid grows' named => ?_
      cases valid with
      | false =>
          exact follows_clientRenew (obtained.mono (grows.trans grows'))
            (read.mono (grows.trans grows')) parsed
      | true =>
          refine .pure ?_
          rintro client' ⟨rfl⟩
          exact ⟨named rfl, text, decoded', .inl (grows'.subset (mem_last _ _))⟩

/-- A provider is put together from metadata that were obtained as they should be. -/
theorem follows_metadataGet :
    (metadataGet settings issuer allowDiscovery).Follows (Policy settings issuer allowDiscovery)
      (fun later result => ∀ provider, result = some provider →
        ∃ metadata conf client registered, Obtained settings issuer later metadata ∧
          ConfRead settings issuer later conf ∧ Held settings issuer later client ∧
          settings.providerParse conf metadata = some registered ∧
          settings.clientParse client registered = some provider) events := by
  refine follows_providerGet.bind fun events₁ result _ obtained => ?_
  cases result with
  | none => exact .pure none_spec
  | some metadata =>
      refine follows_confGet.bind fun events₂ result grows read => ?_
      cases parsed : result.bind fun conf => settings.providerParse conf metadata with
      | none => exact .pure none_spec
      | some registered =>
          obtain ⟨conf, rfl, parsed'⟩ := Option.bind_eq_some_iff.mp parsed
          have obtained' := (obtained metadata rfl).mono grows
          have read' := read conf rfl
          refine (follows_clientGet obtained' read' parsed').bind
            fun events₃ result grows' held => .pure fun provider final => ?_
          obtain ⟨client, rfl, parsed''⟩ := Option.bind_eq_some_iff.mp final
          exact ⟨metadata, conf, client, registered, obtained'.mono grows', read'.mono grows',
            held client rfl, parsed', parsed''⟩

end Follows

/-! ## What all of them do -/

section Together

variable {ι : Type} {settings : Settings} {initial : Disk} {recorded : Recorded ι Disk Answer}
  {issuer : String} {i : ι}

theorem Obtained.genuine (sound : Sound settings initial recorded) (bytes : NulFree issuer)
    {metadata : Object} (obtained : Obtained settings issuer (recorded.events i) metadata) :
    Genuine settings initial recorded issuer metadata := by
  obtain ⟨valid, text, decoded, read | got⟩ := obtained
  · exact (sound.read i _ text read).genuine bytes decoded valid
  · exact ⟨valid, text, decoded, .inr ⟨issuer, .inl rfl, i, [], got⟩⟩

theorem ConfRead.configured (sound : Sound settings initial recorded) {conf : Option Object}
    (read : ConfRead settings issuer (recorded.events i) conf) :
    Configured settings initial issuer conf := by
  rcases read with rfl | ⟨text, object, member, decoded, valid, rfl⟩
  · exact .inl rfl
  · exact (sound.read i _ text member).configured decoded valid

theorem Registers.endpoint (sound : Sound settings initial recorded) (bytes : NulFree issuer)
    {url : String} {data : Object}
    (registers : Registers settings issuer (recorded.events i) url data) :
    Endpoint settings initial recorded issuer url data := by
  obtain ⟨metadata, conf, provider, obtained, read, rest⟩ := registers
  exact ⟨metadata, conf, provider, obtained.genuine sound bytes, read.configured sound, rest⟩

theorem Held.enrolled (sound : Sound settings initial recorded) (bytes : NulFree issuer)
    {client : Object} (held : Held settings issuer (recorded.events i) client) :
    Enrolled settings initial recorded issuer client := by
  obtain ⟨named, text, decoded, read | ⟨url, data, registers, answered⟩⟩ := held
  · exact (sound.read i _ text read).enrolled bytes decoded named
  · exact ⟨named, text, decoded,
      .inr ⟨issuer, url, data, rfl, registers.endpoint sound bytes, i, answered⟩⟩

/-- Whatever a process does for an issuer, what is in files has a source again. -/
theorem Sound.step [DecidableEq ι] {before after : Recorded ι Disk Answer} {allowDiscovery : Bool}
    {op : Op} {answer : Answer op} (sound : Sound settings initial before) (bytes : NulFree issuer)
    (allowed : Policy settings issuer allowDiscovery (before.events i) op)
    (works : Recorded.Effect Effect i op before answer after) : Sound settings initial after := by
  have later := Later.of_effect works
  obtain ⟨works⟩ := works
  constructor
  · intro path file there
    have same : before.state path = some file →
        Source settings initial _ path file.content := fun there =>
          (sound.disk path file there).mono later
    cases works with
    | @touch _ path' file' time there' =>
        by_cases equal : path = path'
        · subst equal
          dsimp only at there
          rw [Function.update_self] at there
          cases there
          exact (sound.disk path file' there').mono later
        · dsimp only at there
          rw [Function.update_of_ne equal] at there
          exact same there
    | write _ path' text mtime =>
        by_cases equal : path = path'
        · subst equal
          dsimp only at there
          rw [Function.update_self] at there
          cases there
          rcases allowed with ⟨rfl, metadata, decoded, valid, got⟩ | ⟨rfl, url, data, registers,
            answered⟩
          · exact .downloaded bytes rfl (Downloaded.mono later ⟨i, [], got⟩) decoded valid
          · exact .registered bytes rfl ((registers.endpoint sound bytes).mono later)
              (Registered.mono later ⟨i, answered⟩)
        · dsimp only at there
          rw [Function.update_of_ne equal] at there
          exact same there
    | now | stat | noStat | read | noRead | noTouch | noWrite | get | post => exact same there
  · intro j path text member
    dsimp only at member
    have old : (⟨.read path, some text⟩ : Sigma Answer) ∈ before.events j →
        Source settings initial _ path text := fun member =>
          (sound.read j path text member).mono later
    by_cases own : j = i
    · subst own
      rw [Function.update_self, List.mem_append, List.mem_singleton] at member
      rcases member with member | same
      · exact old member
      · cases same
        cases works with
        | read there => exact (sound.disk _ _ there).mono later
    · rw [Function.update_of_ne own] at member
      exact old member

/-- Processes, each of which gets the metadata of an issuer, and what they may come to in any order
of their operations. -/
abbrev Serves [DecidableEq ι] (settings : Settings) (initial : Disk) (requests : ι →
    String × Bool) :
    System ι (Recorded ι Disk Answer) Op Answer (Option Provider) → Prop :=
  Comes Effect initial fun i => metadataGet settings (requests i).1 (requests i).2

theorem serves_holds [DecidableEq ι] {requests : ι → String × Bool}
    (bytes : ∀ i, NulFree (requests i).1)
    {system : System ι (Recorded ι Disk Answer) Op Answer (Option Provider)}
    (serves : Serves settings initial requests system) :
    Sound settings initial system.state ∧ ∀ i, (system.threads i).Follows
      (Policy settings (requests i).1 (requests i).2)
      (fun later result => ∀ provider, result = some provider →
        ∃ metadata conf client registered, Obtained settings (requests i).1 later metadata ∧
          ConfRead settings (requests i).1 later conf ∧ Held settings (requests i).1 later client ∧
          settings.providerParse conf metadata = some registered ∧
          settings.clientParse client registered = some provider) (system.state.events i) := by
  refine comes_holds ⟨fun path file there => .initial there rfl, fun i path text member => ?_⟩
    (fun i op before answer after sound allowed works => sound.step (bytes i) allowed works)
    (fun i => follows_metadataGet) serves
  cases member

end Together

/-! ## A first visit -/

section Sample

/-- The metadata of a provider. -/
def sampleMetadata : Object :=
  [("issuer", .str "https://op"), ("authorization_endpoint", .str "https://op/authorize")]

/-- The same as a document. -/
def sampleText : String :=
  "\x7b\"issuer\":\"https://op\",\"authorization_endpoint\":\"https://op/authorize\"\x7d"

/-- A configuration in which files are never refreshed. -/
def sampleSettings : Settings where
  metadataDir := "/metadata"
  refreshInterval := 0
  privateKeys := false
  ecSupport := true
  parse := fun text =>
    if text = sampleText then some (.obj sampleMetadata)
    else if text = "\x7b\"client_id\":\"rp\"\x7d" then some (.obj [("client_id", .str "rp")])
    else none
  uriParse := fun url =>
    if url = "https://op/authorize" then some ⟨some "https", some "op"⟩ else none
  strnatcasecmp := fun a b => if a = b then 0 else 1
  confIsValid := fun _ => true
  providerParse := fun _ metadata => some ⟨metadata.getString "issuer", none, none⟩
  clientParse := fun _ provider => some provider

/-- The client is known already. -/
def sampleDisk : Disk :=
  Function.update (fun _ => none) (clientFilePath "/metadata" "https://op")
    (some ⟨"\x7b\"client_id\":\"rp\"\x7d", 0⟩)

/-- A process that may use discovery. -/
def sampleRequests : Unit → String × Bool := fun _ => ("https://op", true)

theorem sample_bytes (i : Unit) : NulFree (sampleRequests i).1 := by
  rw [sampleRequests]
  decide

/-- What the process comes to. -/
abbrev Visit : System Unit (Recorded Unit Disk Answer) Op Answer (Option Provider) → Prop :=
  Steps (Recorded.Effect Effect)
    ⟨⟨sampleDisk, fun _ => []⟩, fun _ => metadataGet sampleSettings "https://op" true⟩

theorem sample_reads : ∃ system, Visit system ∧
    (system.threads ()).pending = some (.get (wellKnown "https://op") []) := by
  refine ⟨_, alone (Effect.noRead _ _) .refl, ?_⟩
  rfl

theorem sample_there (mtime : Int) :
    Function.update sampleDisk (providerFilePath "/metadata" "https://op") (some ⟨sampleText,
      mtime⟩)
      (clientFilePath "/metadata" "https://op") = some ⟨"\x7b\"client_id\":\"rp\"\x7d", 0⟩ := by
  rw [Function.update_of_ne, sampleDisk, Function.update_self]
  exact path_ne _ (by decide) (by decide) (by decide)

theorem sample_finishes : ∃ system, Visit system ∧
    system.threads () = .done (some ⟨some "https://op", none, none⟩) := by
  refine ⟨_, alone (Effect.noRead _ _) <| alone (Effect.get _ _ _ (some sampleText)) <|
    alone (Effect.write _ _ _ 0) <| alone (Effect.noStat _ _) <|
    alone (Effect.read (sample_there 0)) .refl, ?_⟩
  rfl

end Sample

/-! ## In any order -/

/-- Whatever processes do at the same time, and whatever servers answer, the provider that one of
them ends up with is put together from genuine metadata of the issuer and from those of a client
that was enrolled with it, or with an issuer that has the same files. -/
theorem provider_genuine {ι : Type} [DecidableEq ι] (settings : Settings) (initial : Disk)
    (requests : ι → String × Bool) (bytes : ∀ i, NulFree (requests i).1)
    {system : System ι (Recorded ι Disk Answer) Op Answer (Option Provider)}
    (serves : Serves settings initial requests system) {i : ι} {provider : Provider}
    (finished : system.threads i = .done (some provider)) :
    ∃ metadata conf client registered,
      Genuine settings initial system.state (requests i).1 metadata ∧
      Configured settings initial (requests i).1 conf ∧
      Enrolled settings initial system.state (requests i).1 client ∧
      settings.providerParse conf metadata = some registered ∧
      settings.clientParse client registered = some provider := by
  obtain ⟨sound, follows⟩ := serves_holds bytes serves
  have own := follows i
  rw [finished] at own
  obtain ⟨metadata, conf, client, registered, obtained, read, held, rest⟩ :=
    own.final provider rfl
  exact ⟨metadata, conf, client, registered, obtained.genuine sound (bytes i),
    read.configured sound, held.enrolled sound (bytes i), rest⟩

theorem provider_genuine_visit : ∃ system, Visit system ∧ ∃ metadata conf client registered,
    Genuine sampleSettings sampleDisk system.state "https://op" metadata ∧
    Configured sampleSettings sampleDisk "https://op" conf ∧
    Enrolled sampleSettings sampleDisk system.state "https://op" client ∧
    sampleSettings.providerParse conf metadata = some registered ∧
    sampleSettings.clientParse client registered = some ⟨some "https://op", none, none⟩ := by
  obtain ⟨system, visit, finished⟩ := sample_finishes
  exact ⟨system, visit,
    provider_genuine sampleSettings sampleDisk sampleRequests sample_bytes visit finished⟩

end Metadata

end ModAuthOpenidc
