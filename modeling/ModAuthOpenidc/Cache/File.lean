import ModAuthOpenidc.Cache.KeySize
import ModAuthOpenidc.FileTable

/-!
# The file cache

`src/cache/file.c` keeps every entry in a file of its own, named after the section and the key. A
writer fills a temporary file and renames it, so that readers see an entry as a whole. From time to
time a writer first cleans the directory: it opens each file, reads its header, compares the file
with the one that has the name now and removes the name.

Several processes work on the directory at once. Each operation on a file is one step here, and
between two steps of a process all others may take any number of steps. The locks are left out: a
cleaner opens its file for reading only, and a lock on a file keeps nobody from renaming or removing
it.
-/

namespace ModAuthOpenidc

namespace FileCache

/-! ## Names -/

/-- `OIDC_CACHE_FILE_PREFIX`. -/
def filePrefix : String := "mod-auth-openidc-"

/-- `OIDC_UTIL_FILE_SIZE_MAX`. -/
def fileSizeMax : Nat := 16 * 1024 * 1024

/-- A key with one of the sections of the cache. -/
structure Key where
  sectionName : String
  key : String
  known : sectionName ∈ Cache.cacheSections := by decide
  deriving DecidableEq

/-- Whether `oidc_http_url_encode` keeps a byte. -/
def unreserved (c : UInt8) : Bool :=
  (65 ≤ c ∧ c ≤ 90) ∨ (97 ≤ c ∧ c ≤ 122) ∨ (48 ≤ c ∧ c ≤ 57) ∨ c = 45 ∨ c = 46 ∨ c = 95 ∨ c = 126

/-- A hexadecimal digit. -/
def hexDigit (n : Nat) : Char := "0123456789ABCDEF".toList.getD n '0'

/-- The encoding of one byte. -/
def encodeByte (c : UInt8) : List Char :=
  if unreserved c then [Char.ofNat c.toNat]
  else ['%', hexDigit (c.toNat / 16), hexDigit (c.toNat % 16)]

/-- `oidc_http_url_encode`. -/
def urlEncode (text : String) : String :=
  String.ofList (text.toByteArray.data.toList.flatMap encodeByte)

/-- `oidc_cache_file_name`. -/
def cacheFileName (sectionName key : String) : String :=
  filePrefix ++ sectionName ++ "-" ++ urlEncode key

/-- The name of the file of an entry. -/
def Key.fileName (key : Key) : String := cacheFileName key.sectionName key.key

/-- The name of the file with the time of the last cleaning, `OIDC_CACHE_FILE_LAST_CLEANED`. -/
def metadataName : String := cacheFileName "cache-file" "last-cleaned"

/-! ## Files -/

/-- `oidc_cache_file_info_t`. -/
structure Info where
  len : Nat
  expire : Int
  deriving DecidableEq, Repr

/-- A cache file: its device and inode, and what has been written to it. -/
structure File where
  ident : Nat
  header : Option Info := none
  value : Option String := none
  deriving DecidableEq, Repr

/-- The number of bytes behind the header. -/
def File.valueSize (file : File) : Nat :=
  match file.value with
  | none => 0
  | some value => value.length + 1

/-- The checks of `oidc_cache_file_get` on an open file: an error, a miss, or the header. -/
def File.readHeader (file : File) (now : Int) : Option (Option Info) :=
  match file.header with
  | none => none
  | some info =>
      if fileSizeMax < file.valueSize then none
      else if info.expire ≤ now then some none
      else if info.len = 0 ∨ fileSizeMax < info.len ∨ file.valueSize < info.len then none
      else some (some info)

/-- The value read by `oidc_cache_file_get`. -/
def File.readValue (file : File) (info : Info) : Option String :=
  if file.valueSize < info.len then none
  else file.value.map fun value => String.ofList (value.toList.take info.len)

/-! ## Processes -/

/-- The arguments of `oidc_cache_file_set`, with its random string. -/
structure SetCall where
  key : Key
  value : Option String
  expiry : Int
  rnd : String

/-- The arguments of a call that stores a value. -/
structure Put where
  key : Key
  value : String
  expiry : Int
  rnd : String

/-- The name of the temporary file. -/
def Put.tempName (put : Put) : String := put.key.fileName ++ "." ++ put.rnd ++ ".tmp"

/-- What a call has returned. -/
inductive Result
  | set (ok : Bool)
  /-- A value comes with the time at which its expiry was checked. -/
  | get (key : Key) (ok : Bool) (value : Option (String × Int))

/-- Where a process is. -/
inductive Pc
  | idle
  /-- In `oidc_cache_file_clean_due`, before the look at the metadata file. -/
  | cleanDue (op : SetCall)
  /-- A cleaning is due. -/
  | touch (op : SetCall)
  /-- In the loop of `oidc_cache_file_clean`. -/
  | scanning (op : SetCall)
  /-- In `oidc_cache_file_clean_entry`, with the file open. -/
  | inspecting (op : SetCall) (name : String) (id : Nat)
  /-- The file has expired or is corrupted. -/
  | condemned (op : SetCall) (name : String) (id : Nat)
  /-- `oidc_cache_file_is_same` has agreed. -/
  | rechecked (op : SetCall) (name : String) (id : Nat)
  /-- Behind the cleaning. -/
  | storing (op : SetCall)
  /-- The temporary file is open and empty. -/
  | opened (put : Put) (id : Nat)
  /-- The header is written. -/
  | headed (put : Put) (id : Nat)
  /-- The value is written and the file is closed. -/
  | written (put : Put) (id : Nat)
  /-- In `oidc_cache_file_get`, before the look at the file. -/
  | lookup (key : Key)
  /-- The file is there. -/
  | opening (key : Key)
  /-- The file is open. -/
  | reading (key : Key) (id : Nat)
  /-- The header was read at a time. -/
  | header (key : Key) (id : Nat) (info : Info) (time : Int)
  | finished (result : Result)

/-- The directory and the processes, and what the cache should hold. -/
structure World (ι : Type) where
  fs : FileTable String File
  /-- The modification time of the metadata file. -/
  metadata : Option Int
  now : Int
  threads : ι → Pc
  /-- The value and expiry of the last completed set of each key. -/
  latest : Key → Option (String × Int)
  /-- All completed sets with a value. -/
  stored : List (Key × String × Int)

/-- What does not change. -/
structure Platform where
  /-- Whether `apr_stat` tells the device and the inode. -/
  haveIdent : Bool := true
  /-- `OIDCCacheFileCleanInterval` in seconds. -/
  cleanInterval : Int := 60

/-- What happens in a step. -/
inductive Choice
  /-- The operation is carried out. -/
  | next
  /-- The operation fails. -/
  | fault
  /-- The directory lists a name. -/
  | pick (name : String)
  /-- The directory lists no more names. -/
  | endOfDirectory
  /-- The file is created, if it has to be, with this device and inode. -/
  | create (ident : Nat)
  deriving DecidableEq, Repr

/-- A call. -/
inductive Call
  | set (op : SetCall)
  | get (key : Key)

/-- What the world does next. -/
inductive Action (ι : Type)
  /-- Time passes. -/
  | tick (duration : Nat)
  /-- A process calls the cache. -/
  | call (thread : ι) (call : Call)
  /-- A process takes a step. -/
  | go (thread : ι) (choice : Choice)

/-- Whether a process can start a call. -/
def Pc.free : Pc → Bool
  | idle => true
  | finished _ => true
  | _ => false

/-- The first step of a call. -/
def Call.start : Call → Pc
  | set op => .cleanDue op
  | get key => .lookup key

/-- `oidc_cache_file_clean_entry` leaves hidden files, files of others and the metadata file alone.
-/
def skipped (name : String) : Bool :=
  name.startsWith "." || !name.startsWith filePrefix || name = metadataName

namespace World

variable {ι : Type} [DecidableEq ι] (platform : Platform) (world : World ι)

/-- A process moves on. -/
def goto (thread : ι) (pc : Pc) : World ι :=
  { world with threads := Function.update world.threads thread pc }

/-- Whether `oidc_cache_file_clean_due` finds that a cleaning is due. -/
def cleanDue : Bool :=
  match world.metadata with
  | none => true
  | some mtime => mtime + platform.cleanInterval * 1000000 ≤ world.now

/-- Whether the cleaner keeps a file after a look at its header. -/
def keeps (id : Nat) : Bool :=
  match (world.fs.files id).header with
  | none => false
  | some info => world.now < info.expire

/-- `oidc_cache_file_is_same`. -/
def isSame (name : String) (id : Nat) : Bool :=
  if platform.haveIdent then
    match world.fs.dir name with
    | none => false
    | some current => (world.fs.files current).ident = (world.fs.files id).ident
  else true

/-- Open a temporary file, creating it if it does not exist, and truncate it. -/
def openTemp (thread : ι) (put : Put) (ident : Nat) : World ι :=
  match world.fs.dir put.tempName with
  | none =>
      { world with fs := world.fs.create put.tempName { ident } }.goto thread
          (.opened put world.fs.next)
  | some id =>
      { world with fs := world.fs.write id { ident := (world.fs.files id).ident } }.goto thread
        (.opened put id)

/-- Rename the temporary file over the file of the entry. -/
def publish (thread : ι) (put : Put) : World ι :=
  match world.fs.dir put.tempName with
  | none => world.goto thread (.finished (.set false))
  | some _ =>
      { world with
        fs := world.fs.rename put.tempName put.key.fileName
        latest := Function.update world.latest put.key (some (put.value, put.expiry))
        stored := (put.key, put.value, put.expiry) :: world.stored }.goto thread
            (.finished (.set true))

/-- Give up and remove the temporary file. -/
def discard (thread : ι) (put : Put) : World ι :=
  { world with fs := world.fs.unlink put.tempName }.goto thread (.finished (.set false))

/-- A step of a process. -/
def advance (thread : ι) : Pc → Choice → Option (World ι)
  | .cleanDue op, .next =>
      some (world.goto thread (if world.cleanDue platform then .touch op else .storing op))
  | .touch op, .next =>
      some ({ world with metadata := some world.now }.goto thread (.scanning op))
  | .touch op, .fault => some (world.goto thread (.storing op))
  | .scanning op, .pick name =>
      match if skipped name then none else world.fs.dir name with
      | none => some (world.goto thread (.scanning op))
      | some id => some (world.goto thread (.inspecting op name id))
  | .scanning op, .endOfDirectory => some (world.goto thread (.storing op))
  | .inspecting op name id, .next =>
      some (world.goto thread (if world.keeps id then .scanning op else .condemned op name id))
  | .condemned op name id, .next =>
      some (world.goto thread
        (if world.isSame platform name id then .rechecked op name id else .scanning op))
  | .rechecked op name _, .next =>
      some ({ world with fs := world.fs.unlink name }.goto thread (.scanning op))
  | .storing op, .next =>
      match op.value with
      | none =>
          some ({ world with
            fs := world.fs.unlink op.key.fileName
            latest := Function.update world.latest op.key none }.goto thread
                (.finished (.set true)))
      | some _ => none
  | .storing op, .create ident =>
      match op.value with
      | none => none
      | some value => some (world.openTemp thread ⟨op.key, value, op.expiry, op.rnd⟩ ident)
  | .storing op, .fault =>
      match op.value with
      | none => none
      | some _ => some (world.goto thread (.finished (.set false)))
  | .opened put id, .next =>
      some ({ world with
        fs := world.fs.write id
          { world.fs.files id with header := some ⟨put.value.length + 1, put.expiry⟩ } }.goto thread
            (.headed put id))
  | .opened put _, .fault => some (world.discard thread put)
  | .headed put id, .next =>
      some ({ world with
        fs := world.fs.write id { world.fs.files id with value := some put.value } }.goto thread
          (.written put id))
  | .headed put _, .fault => some (world.discard thread put)
  | .written put _, .next => some (world.publish thread put)
  | .written put _, .fault => some (world.discard thread put)
  | .lookup key, .next =>
      match world.fs.dir key.fileName with
      | none => some (world.goto thread (.finished (.get key true none)))
      | some _ => some (world.goto thread (.opening key))
  | .opening key, .next =>
      match world.fs.dir key.fileName with
      | none => some (world.goto thread (.finished (.get key true none)))
      | some id => some (world.goto thread (.reading key id))
  | .reading key id, .next =>
      match (world.fs.files id).readHeader world.now with
      | none => some (world.goto thread (.finished (.get key false none)))
      | some none => some (world.goto thread (.finished (.get key true none)))
      | some (some info) => some (world.goto thread (.header key id info world.now))
  | .header key id info time, .next =>
      match (world.fs.files id).readValue info with
      | none => some (world.goto thread (.finished (.get key false none)))
      | some value => some (world.goto thread (.finished (.get key true (some (value, time)))))
  | _, _ => none

/-- One step of the world. -/
def step : Action ι → Option (World ι)
  | .tick duration => some { world with now := world.now + duration }
  | .call thread call =>
      if (world.threads thread).free then some (world.goto thread call.start) else none
  | .go thread choice => world.advance platform thread (world.threads thread) choice

/-- What a get finds while nothing else happens. -/
def found (key : Key) : Option String :=
  match world.fs.dir key.fileName with
  | none => none
  | some id =>
      match (world.fs.files id).readHeader world.now with
      | some (some info) => (world.fs.files id).readValue info
      | _ => none

end World

/-- Steps of the world, one after the other. -/
def run {ι : Type} [DecidableEq ι] (platform : Platform) :
    List (Action ι) → World ι → Option (World ι)
  | [], world => some world
  | action :: actions, world =>
      match world.step platform action with
      | none => none
      | some world => run platform actions world

end FileCache

end ModAuthOpenidc
