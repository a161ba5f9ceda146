import ModAuthOpenidc.Cache.FileNames

/-!
# Runs of the file cache

A set is safe from the cleaners and an entry stays until it expires as long as no cleaner removes a
name that has come to another file since the cleaner looked, or that belongs to a file still being
written. The first happens when a writer renames its file between the comparison and the removal,
the second because the temporary file is empty when the cleaner finds it, which makes it look
corrupted.
-/

namespace ModAuthOpenidc

namespace FileCache

/-! ## The condition -/

/-- The name of the temporary file of a call. -/
def SetCall.tempName (op : SetCall) : String := op.key.fileName ++ "." ++ op.rnd ++ ".tmp"

/-- What a process is writing, and the temporary file. -/
def Pc.writing : Pc → Option (Put × Nat)
  | .opened put id => some (put, id)
  | .headed put id => some (put, id)
  | .written put id => some (put, id)
  | _ => none

variable {ι : Type}

/-- The file is the temporary file of a set that has not returned. -/
def World.InFlight (world : World ι) (id : Nat) : Prop :=
  ∃ thread, (world.threads thread).writing.map Prod.snd = some id

/-- A call uses one of the keys, its value can be read back, and its temporary file has not the name
of the file of a key. -/
def SetCall.Ok (keys : List Key) (op : SetCall) : Prop :=
  op.key ∈ keys ∧ (∀ value ∈ op.value, value.length + 1 ≤ fileSizeMax) ∧
    ∀ key ∈ keys, key.fileName ≠ op.tempName

/-- The condition on a step of a process. The name of a new temporary file is free, and a name that
a cleaner removes still belongs to the file it looked at, which is no temporary file. -/
def World.MayGo (world : World ι) : Pc → Prop
  | .storing op => op.value.isSome → world.fs.dir op.tempName = none
  | .rechecked _ name id => ∀ current ∈ world.fs.dir name, current = id ∧ ¬ world.InFlight id
  | _ => True

/-- The condition on a step of a run with the given keys. -/
def Meets (keys : List Key) (world : World ι) : Action ι → Prop
  | .tick _ => True
  | .call _ (.set op) => op.Ok keys
  | .call _ (.get key) => key ∈ keys
  | .go thread _ => world.MayGo (world.threads thread)

/-- All steps of a run meet the condition. -/
def AllMeet [DecidableEq ι] (platform : Platform) (keys : List Key) :
    List (Action ι) → World ι → Prop
  | [], _ => True
  | action :: actions, world =>
      Meets keys world action ∧
        match world.step platform action with
        | none => True
        | some world => AllMeet platform keys actions world

section Decidability

variable (keys : List Key) (world : World ι)

instance (op : SetCall) : Decidable (op.Ok keys) :=
  inferInstanceAs (Decidable (_ ∧ _ ∧ _))

instance [Fintype ι] (id : Nat) : Decidable (world.InFlight id) :=
  inferInstanceAs (Decidable (∃ _, _))

instance [Fintype ι] : DecidablePred world.MayGo
  | .storing _ => inferInstanceAs (Decidable (_ → _))
  | .rechecked _ _ _ => inferInstanceAs (Decidable (∀ current ∈ _, current = _ ∧ _))
  | .idle | .cleanDue _ | .touch _ | .scanning _ | .inspecting _ _ _ | .condemned _ _ _ |
    .opened _ _ | .headed _ _ | .written _ _ | .lookup _ | .opening _ | .reading _ _ |
    .header _ _ _ _ | .finished _ => isTrue trivial

instance [Fintype ι] : DecidablePred (Meets keys world)
  | .tick _ => isTrue trivial
  | .call _ (.set op) => inferInstanceAs (Decidable (op.Ok keys))
  | .call _ (.get key) => inferInstanceAs (Decidable (key ∈ keys))
  | .go thread _ => inferInstanceAs (Decidable (world.MayGo (world.threads thread)))

instance decidableAllMeet [Fintype ι] [DecidableEq ι] (platform : Platform) :
    ∀ actions (world : World ι), Decidable (AllMeet platform keys actions world)
  | [], _ => isTrue trivial
  | action :: actions, world =>
      match stepped : world.step platform action with
      | none => decidable_of_iff (Meets keys world action) (by rw [AllMeet, stepped, and_true])
      | some next =>
          have := decidableAllMeet platform actions next
          decidable_of_iff (Meets keys world action ∧ AllMeet platform keys actions next)
            (by rw [AllMeet, stepped])

end Decidability

/-- No calls are under way, and there are no entries. -/
structure Fresh (keys : List Key) (world : World ι) : Prop where
  idle : ∀ thread, world.threads thread = .idle
  latest : ∀ key, world.latest key = none
  bounded : world.fs.Bounded
  empty : ∀ key ∈ keys, world.fs.dir key.fileName = none

/-- What the cache promises. -/
structure Sound [DecidableEq ι] (keys : List Key) (world : World ι) : Prop where
  /-- An entry is found until it expires or another set of its key completes. -/
  found : ∀ key ∈ keys, ∀ value expiry, world.latest key = some (value, expiry) →
    world.now < expiry → world.found key = some value
  /-- The temporary file of a set that has not returned keeps its name. -/
  temp : ∀ thread put id, (world.threads thread).writing = some (put, id) →
    world.fs.dir put.tempName = some id
  /-- A set that has written its value does not fail at the last step. -/
  completes : ∀ thread put id, world.threads thread = .written put id →
    (world.publish thread put).threads thread = .finished (.set true)
  /-- A get returns the value of a completed set that has not expired at its time. -/
  returned : ∀ thread key ok value time,
    world.threads thread = .finished (.get key ok (some (value, time))) →
      ∃ expiry, (key, value, expiry) ∈ world.stored ∧ time < expiry

/-! ## Files -/

/-- The file holds a value as a whole. -/
structure File.IsEntry (file : File) (text : String) (expiry : Int) : Prop where
  header : file.header = some ⟨text.length + 1, expiry⟩
  value : file.value = some text
  small : text.length + 1 ≤ fileSizeMax

/-- Nothing keeps a cleaner from removing the file. -/
def File.Dead (file : File) (now : Int) : Prop := ∀ info ∈ file.header, info.expire ≤ now

theorem File.Dead.mono {file : File} {now later : Int} (dead : file.Dead now)
    (passed : now ≤ later) :
    file.Dead later := by
  intro info header
  exact (dead info header).trans passed

namespace File.IsEntry

variable {file : File} {text : String} {expiry : Int} (entry : file.IsEntry text expiry)

include entry

theorem valueSize : file.valueSize = text.length + 1 := by
  rw [File.valueSize, entry.value]

theorem readHeader (now : Int) :
    file.readHeader now =
      if expiry ≤ now then some none else some (some ⟨text.length + 1, expiry⟩) := by
  have small := entry.small
  rw [File.readHeader, entry.header]
  dsimp only
  rw [entry.valueSize, if_neg (Nat.not_lt.mpr small)]
  split
  · rfl
  · rw [if_neg]
    omega

theorem readValue : file.readValue ⟨text.length + 1, expiry⟩ = some text := by
  have whole : text.toList.take (text.length + 1) = text.toList := by
    apply List.take_of_length_le
    rw [String.length_toList]
    exact Nat.le_succ _
  rw [File.readValue, entry.valueSize, if_neg (lt_irrefl _), entry.value]
  dsimp only [Option.map_some]
  rw [whole, String.ofList_toList]

end File.IsEntry

/-! ## The invariant -/

namespace World

/-- A process is writing a value to a temporary file. -/
def Writes (world : World ι) (thread : ι) (put : Put) (id : Nat) : Prop :=
  (world.threads thread).writing = some (put, id)

/-- A file is there and not being written any more. -/
def Settled (world : World ι) (id : Nat) : Prop :=
  id < world.fs.next ∧ ∀ thread put, ¬ world.Writes thread put id

/-- The name is not the name that a file under way will have. -/
def Watched (world : World ι) (name : String) (id : Nat) : Prop :=
  id < world.fs.next ∧ ∀ thread put, world.Writes thread put id → put.key.fileName ≠ name

/-- While the name still belongs to the file, the file is under way or may be removed. -/
def Doomed (world : World ι) (name : String) (id : Nat) : Prop :=
  world.fs.dir name = some id →
    (∃ thread put, world.Writes thread put id) ∨ (world.fs.files id).Dead world.now

/-- A temporary file with what has been written to it. -/
structure Holds (keys : List Key) (world : World ι) (put : Put) (id : Nat) (header : Option Info)
    (value : Option String) : Prop where
  known : put.key ∈ keys
  small : put.value.length + 1 ≤ fileSizeMax
  apart : ∀ key ∈ keys, key.fileName ≠ put.tempName
  old : id < world.fs.next
  named : world.fs.dir put.tempName = some id
  alone : ∀ name, world.fs.dir name = some id → name = put.tempName
  header : (world.fs.files id).header = header
  value : (world.fs.files id).value = value

/-- What a process relies on. -/
def PcOk (keys : List Key) (world : World ι) : Pc → Prop
  | .idle => True
  | .cleanDue op => op.Ok keys
  | .touch op => op.Ok keys
  | .scanning op => op.Ok keys
  | .inspecting op name id => op.Ok keys ∧ world.Watched name id
  | .condemned op name id => op.Ok keys ∧ world.Watched name id ∧ world.Doomed name id
  | .rechecked op name id => op.Ok keys ∧ world.Watched name id ∧ world.Doomed name id
  | .storing op => op.Ok keys
  | .opened put id => world.Holds keys put id none none
  | .headed put id => world.Holds keys put id (some ⟨put.value.length + 1, put.expiry⟩) none
  | .written put id =>
      world.Holds keys put id (some ⟨put.value.length + 1, put.expiry⟩) (some put.value)
  | .lookup key => key ∈ keys
  | .opening key => key ∈ keys
  | .reading key id =>
      world.Settled id ∧ ∃ text expiry, (world.fs.files id).IsEntry text expiry ∧
        (key, text, expiry) ∈ world.stored
  | .header key id info time =>
      world.Settled id ∧ ∃ text expiry, (world.fs.files id).IsEntry text expiry ∧
        (key, text, expiry) ∈ world.stored ∧ info = ⟨text.length + 1, expiry⟩ ∧ time < expiry
  | .finished (.set _) => True
  | .finished (.get _ _ none) => True
  | .finished (.get key _ (some (text, time))) =>
      ∃ expiry, (key, text, expiry) ∈ world.stored ∧ time < expiry

/-- What holds between any two steps. -/
structure Invariant (world : World ι) (keys : List Key) : Prop where
  bounded : world.fs.Bounded
  threads : ∀ thread, world.PcOk keys (world.threads thread)
  distinct : ∀ thread other put put' id, world.Writes thread put id → world.Writes other put' id →
    thread = other
  entries : ∀ key ∈ keys, ∀ id, world.fs.dir key.fileName = some id →
    ∃ text expiry, (world.fs.files id).IsEntry text expiry ∧ (key, text, expiry) ∈ world.stored
  kept : ∀ key ∈ keys, ∀ text expiry, world.latest key = some (text, expiry) →
    world.now < expiry →
      ∃ id, world.fs.dir key.fileName = some id ∧ (world.fs.files id).IsEntry text expiry

variable {keys : List Key} {world after : World ι} {thread other : ι} {put put' : Put}
  {id : Nat} {name : String}

theorem inFlight_iff : world.InFlight id ↔ ∃ thread put, world.Writes thread put id := by
  simp only [InFlight, Writes, Option.map_eq_some_iff, Prod.exists, exists_eq_right]

/-- A process that writes has its temporary file. -/
theorem PcOk.holds {pc : Pc} (ok : world.PcOk keys pc) (writing : pc.writing = some (put, id)) :
    ∃ header value, world.Holds keys put id header value := by
  cases pc
  case opened =>
      cases writing
      exact ⟨_, _, ok⟩
  case headed =>
      cases writing
      exact ⟨_, _, ok⟩
  case written =>
      cases writing
      exact ⟨_, _, ok⟩
  all_goals cases writing

/-- What a step of a process leaves to the others. -/
structure Frame (thread : ι) (world after : World ι) : Prop where
  now : world.now ≤ after.now
  next : world.fs.next ≤ after.fs.next
  stored : world.stored ⊆ after.stored
  others : ∀ other ≠ thread, after.threads other = world.threads other
  files : ∀ id < world.fs.next, (∀ put, ¬ world.Writes thread put id) →
    after.fs.files id = world.fs.files id
  names : ∀ id < world.fs.next, (∀ put, ¬ world.Writes thread put id) → ∀ name,
    after.fs.dir name = some id → world.fs.dir name = some id
  temps : ∀ other ≠ thread, ∀ put id, world.Writes other put id →
    after.fs.dir put.tempName = world.fs.dir put.tempName
  writes : ∀ put id, after.Writes thread put id →
    world.Writes thread put id ∨ world.fs.next ≤ id
  /-- A file that is given up has at most its final name. -/
  released : ∀ put id, world.Writes thread put id → after.Writes thread put id ∨
    ∀ name, after.fs.dir name = some id → name = put.key.fileName

namespace Frame

variable (frame : Frame thread world after)

include frame

theorem writes_old (written : after.Writes other put id) (old : id < world.fs.next) :
    world.Writes other put id := by
  by_cases own : other = thread
  · rw [own] at written ⊢
    rcases frame.writes put id written with before | new
    · exact before
    · omega
  · rwa [Writes, ← frame.others other own]

theorem settled (settled : world.Settled id) : after.Settled id := by
  refine ⟨settled.1.trans_le frame.next, ?_⟩
  intro other put written
  exact settled.2 other put (frame.writes_old written settled.1)

theorem files_settled (settled : world.Settled id) : after.fs.files id = world.fs.files id :=
  frame.files id settled.1 (settled.2 thread)

theorem watched (watched : world.Watched name id) : after.Watched name id := by
  refine ⟨watched.1.trans_le frame.next, ?_⟩
  intro other put written
  exact watched.2 other put (frame.writes_old written watched.1)

theorem doomed (watched : world.Watched name id) (doomed : world.Doomed name id) :
    after.Doomed name id := by
  intro found
  by_cases own : ∃ put, world.Writes thread put id
  · obtain ⟨put, writes⟩ := own
    left
    rcases frame.released put id writes with still | released
    · exact ⟨thread, put, still⟩
    · exact absurd (released name found).symm (watched.2 thread put writes)
  · have free : ∀ put, ¬ world.Writes thread put id := not_exists.mp own
    rcases doomed (frame.names id watched.1 free name found) with underway | dead
    · obtain ⟨other, put, writes⟩ := underway
      have different : other ≠ thread := by
        rintro rfl
        exact free put writes
      left
      refine ⟨other, put, ?_⟩
      rwa [Writes, frame.others other different]
    · right
      rw [frame.files id watched.1 free]
      exact dead.mono frame.now

theorem holds {header : Option Info} {value : Option String}
    (free : ∀ put, ¬ world.Writes thread put id)
    (same : after.fs.dir put.tempName = world.fs.dir put.tempName)
    (holds : world.Holds keys put id header value) : after.Holds keys put id header value where
  known := holds.known
  small := holds.small
  apart := holds.apart
  old := holds.old.trans_le frame.next
  named := same.trans holds.named
  alone := fun name found => holds.alone name (frame.names id holds.old free name found)
  header := by rw [frame.files id holds.old free, holds.header]
  value := by rw [frame.files id holds.old free, holds.value]

/-- A process can go on relying on what it relied on, except for the file it writes itself. -/
theorem pcOk {pc : Pc} (ok : world.PcOk keys pc)
    (apart : ∀ put id header value, pc.writing = some (put, id) →
      world.Holds keys put id header value → after.Holds keys put id header value) :
    after.PcOk keys pc := by
  cases pc with
  | idle => trivial
  | cleanDue op => exact ok
  | touch op => exact ok
  | scanning op => exact ok
  | inspecting op name id => exact ⟨ok.1, frame.watched ok.2⟩
  | condemned op name id => exact ⟨ok.1, frame.watched ok.2.1, frame.doomed ok.2.1 ok.2.2⟩
  | rechecked op name id => exact ⟨ok.1, frame.watched ok.2.1, frame.doomed ok.2.1 ok.2.2⟩
  | storing op => exact ok
  | opened put id => exact apart put id _ _ rfl ok
  | headed put id => exact apart put id _ _ rfl ok
  | written put id => exact apart put id _ _ rfl ok
  | lookup key => exact ok
  | opening key => exact ok
  | reading key id =>
      obtain ⟨settled, text, expiry, entry, stored⟩ := ok
      refine ⟨frame.settled settled, text, expiry, ?_, frame.stored stored⟩
      rwa [frame.files_settled settled]
  | header key id info time =>
      obtain ⟨settled, text, expiry, entry, stored, rest⟩ := ok
      refine ⟨frame.settled settled, text, expiry, ?_, frame.stored stored, rest⟩
      rwa [frame.files_settled settled]
  | finished result =>
      cases result with
      | set => trivial
      | get key known found =>
          cases found with
          | none => trivial
          | some found =>
              obtain ⟨expiry, stored, rest⟩ := ok
              exact ⟨expiry, frame.stored stored, rest⟩

end Frame

namespace Invariant

variable (inv : world.Invariant keys)

include inv

theorem holds (writes : world.Writes thread put id) :
    ∃ header value, world.Holds keys put id header value :=
  (inv.threads thread).holds writes

/-- The file of an entry is not written any more. -/
theorem settled {key : Key} (known : key ∈ keys) (found : world.fs.dir key.fileName = some id) :
    world.Settled id := by
  refine ⟨inv.bounded _ _ found, ?_⟩
  intro thread put writes
  obtain ⟨header, value, holds⟩ := inv.holds writes
  exact holds.apart key known (holds.alone _ found)

/-- A step that keeps its own promises keeps the invariant. -/
theorem of_frame (frame : Frame thread world after) (bounded : after.fs.Bounded)
    (own : after.PcOk keys (after.threads thread))
    (entries : ∀ key ∈ keys, ∀ id, after.fs.dir key.fileName = some id →
      ∃ text expiry, (after.fs.files id).IsEntry text expiry ∧ (key, text, expiry) ∈ after.stored)
    (kept : ∀ key ∈ keys, ∀ text expiry, after.latest key = some (text, expiry) →
      after.now < expiry →
        ∃ id, after.fs.dir key.fileName = some id ∧ (after.fs.files id).IsEntry text expiry) :
    after.Invariant keys where
  bounded := bounded
  threads := by
    intro other
    by_cases same : other = thread
    · rw [same]
      exact own
    · rw [frame.others other same]
      refine frame.pcOk (inv.threads other) ?_
      intro put id header value writes holds
      refine frame.holds ?_ (frame.temps other same put id writes) holds
      intro put' both
      exact same (inv.distinct other thread put put' id writes both)
  distinct := by
    have before : ∀ other put id, other ≠ thread → after.Writes other put id →
        world.Writes other put id := by
      intro other put id different writes
      rwa [Writes, ← frame.others other different]
    have mixed : ∀ other put put' id, other ≠ thread → after.Writes other put id →
        ¬ after.Writes thread put' id := by
      intro other put put' id different writes both
      have old := before other put id different writes
      obtain ⟨header, value, holds⟩ := inv.holds old
      exact different (inv.distinct other thread put put' id old (frame.writes_old both holds.old))
    intro first second put put' id writes both
    by_cases one : first = thread
    · by_cases two : second = thread
      · rw [one, two]
      · rw [one] at writes
        exact absurd writes (mixed second put' put id two both)
    · by_cases two : second = thread
      · rw [two] at both
        exact absurd both (mixed first put put' id one writes)
      · exact inv.distinct first second put put' id (before first put id one writes)
          (before second put' id two both)
  entries := entries
  kept := kept

/-- An entry whose file keeps its name is still whole. -/
theorem entry_of_frame (frame : Frame thread world after) {key : Key} (known : key ∈ keys)
    (found : world.fs.dir key.fileName = some id) :
    ∃ text expiry, (after.fs.files id).IsEntry text expiry ∧
        (key, text, expiry) ∈ after.stored := by
  obtain ⟨text, expiry, entry, stored⟩ := inv.entries key known id found
  refine ⟨text, expiry, ?_, frame.stored stored⟩
  rwa [frame.files_settled (inv.settled known found)]

/-- The last entry of a key stays when its file keeps its name. -/
theorem kept_of_frame (frame : Frame thread world after) {key : Key} (known : key ∈ keys)
    (same : after.fs.dir key.fileName = world.fs.dir key.fileName) {text : String} {expiry : Int}
    (latest : world.latest key = some (text, expiry)) (live : after.now < expiry) :
    ∃ id, after.fs.dir key.fileName = some id ∧ (after.fs.files id).IsEntry text expiry := by
  obtain ⟨id, found, entry⟩ := inv.kept key known text expiry latest (frame.now.trans_lt live)
  refine ⟨id, same.trans found, ?_⟩
  rwa [frame.files_settled (inv.settled known found)]

/-- A step that touches no entry. -/
theorem of_frame_apart (frame : Frame thread world after) (bounded : after.fs.Bounded)
    (own : after.PcOk keys (after.threads thread)) (latest : after.latest = world.latest)
    (same : ∀ key ∈ keys, after.fs.dir key.fileName = world.fs.dir key.fileName) :
    after.Invariant keys := by
  refine inv.of_frame frame bounded own ?_ ?_
  · intro key known id found
    exact inv.entry_of_frame frame known ((same key known).symm.trans found)
  · intro key known text expiry last live
    rw [latest] at last
    exact inv.kept_of_frame frame known (same key known) last live

end Invariant

/-! ## The effects of a step -/

section Effects

variable [DecidableEq ι]

@[simp] theorem threads_goto (world : World ι) (pc : Pc) :
    (world.goto thread pc).threads thread = pc :=
  Function.update_self _ _ _

theorem threads_goto_of_ne (world : World ι) (pc : Pc) (different : other ≠ thread) :
    (world.goto thread pc).threads other = world.threads other :=
  Function.update_of_ne different _ _

theorem not_writes_goto {pc : Pc} (idle : pc.writing = none) :
    ¬ (world.goto thread pc).Writes thread put id := by
  rw [Writes, threads_goto, idle]
  exact Option.some_ne_none _ ∘ Eq.symm

omit [DecidableEq ι] in
theorem not_writes (idle : (world.threads thread).writing = none) :
    ¬ world.Writes thread put id := by
  rw [Writes, idle]
  exact Option.some_ne_none _ ∘ Eq.symm

namespace Invariant

variable (inv : world.Invariant keys)

include inv

/-- Moving on without a change to the directory. -/
theorem goto (pc : Pc) (idle : (world.threads thread).writing = none) (still : pc.writing = none)
    (ok : world.PcOk keys pc) (metadata : Option Int) :
    ({ world with metadata }.goto thread pc).Invariant keys := by
  have frame : Frame thread world ({ world with metadata }.goto thread pc) :=
    { now := le_refl _
      next := le_refl _
      stored := List.Subset.refl _
      others := fun other different => threads_goto_of_ne _ pc different
      files := fun _ _ _ => rfl
      names := fun _ _ _ _ found => found
      temps := fun _ _ _ _ _ => rfl
      writes := fun put id writes => absurd writes (not_writes_goto still)
      released := fun put id writes => absurd writes (not_writes idle) }
  refine inv.of_frame_apart frame inv.bounded ?_ rfl (fun _ _ => rfl)
  rw [threads_goto]
  apply frame.pcOk ok
  intro put id header value writing
  rw [still] at writing
  cases writing

/-- Creating a temporary file. -/
theorem create (put : Put) (idle : (world.threads thread).writing = none) (known : put.key ∈ keys)
    (small : put.value.length + 1 ≤ fileSizeMax) (apart : ∀ key ∈ keys, key.fileName ≠ put.tempName)
    (free : world.fs.dir put.tempName = none) (ident : Nat) :
    ({ world with fs := world.fs.create put.tempName { ident } }.goto thread
      (.opened put world.fs.next)).Invariant keys := by
  set after := { world with fs := world.fs.create put.tempName { ident } }.goto thread
    (.opened put world.fs.next)
  have dir : ∀ name, after.fs.dir name =
      if name = put.tempName then some world.fs.next else world.fs.dir name := by
    intro name
    exact FileTable.dir_create _ _ _ _
  have frame : Frame thread world after :=
    { now := le_refl _
      next := Nat.le_succ _
      stored := List.Subset.refl _
      others := fun other different => threads_goto_of_ne _ _ different
      files := fun id old _ => FileTable.files_create_of_lt _ _ _ _ old
      names := by
        intro id old _ name found
        rw [dir] at found
        split at found
        · cases found
          exact absurd old (lt_irrefl _)
        · exact found
      temps := by
        intro other _ put' id writes
        obtain ⟨header, value, holds⟩ := inv.holds writes
        rw [dir, if_neg]
        intro same
        have named := holds.named
        rw [same, free] at named
        cases named
      writes := by
        intro put' id writes
        right
        rw [Writes, threads_goto] at writes
        cases writes
        exact le_refl _
      released := fun put id writes => absurd writes (not_writes idle) }
  refine inv.of_frame_apart frame inv.bounded.create ?_ rfl ?_
  · rw [threads_goto]
    exact
      { known, small, apart
        old := Nat.lt_succ_self _
        named := by rw [dir, if_pos rfl]
        alone := by
          intro name found
          rw [dir] at found
          split at found
          · assumption
          · exact absurd (inv.bounded _ _ found) (lt_irrefl _)
        header := congrArg File.header (FileTable.files_create_self _ _ _)
        value := congrArg File.value (FileTable.files_create_self _ _ _) }
  · intro key member
    rw [dir, if_neg (apart key member)]

/-- Writing to the temporary file. -/
theorem write {pc : Pc} {header : Option Info} {value : Option String}
    (writes : world.Writes thread put id) (holds : world.Holds keys put id header value)
    (still : pc.writing = some (put, id)) (content : File)
    (ok : ∀ after : World ι, after.Holds keys put id content.header content.value →
      after.PcOk keys pc) :
    ({ world with fs := world.fs.write id content }.goto thread pc).Invariant keys := by
  set after := { world with fs := world.fs.write id content }.goto thread pc
  have frame : Frame thread world after :=
    { now := le_refl _
      next := le_refl _
      stored := List.Subset.refl _
      others := fun other different => threads_goto_of_ne _ _ different
      files := by
        intro held _ free
        apply FileTable.files_write_of_ne
        rintro rfl
        exact free put writes
      names := fun _ _ _ _ found => found
      temps := fun _ _ _ _ _ => rfl
      writes := by
        intro put' id' both
        left
        rw [Writes, threads_goto, still] at both
        rw [Writes, ← both]
        exact writes
      released := by
        intro put' id' both
        left
        rw [Writes, threads_goto, still, ← both]
        exact writes.symm }
  refine inv.of_frame_apart frame inv.bounded ?_ rfl (fun _ _ => rfl)
  rw [threads_goto]
  apply ok after
  exact
    { known := holds.known
      small := holds.small
      apart := holds.apart
      old := holds.old
      named := holds.named
      alone := holds.alone
      header := congrArg File.header (FileTable.files_write_self _ _ _)
      value := congrArg File.value (FileTable.files_write_self _ _ _) }

/-- Renaming a complete file over the file of its entry. -/
theorem publish (written : world.threads thread = .written put id) :
    (world.publish thread put).Invariant keys := by
  have writes : world.Writes thread put id := by rw [Writes, written, Pc.writing]
  have holds := inv.threads thread
  rw [written] at holds
  have holds : world.Holds keys put id (some ⟨put.value.length + 1, put.expiry⟩)
    (some put.value) := holds
  rw [World.publish, holds.named]
  dsimp only
  set after := World.goto _ thread _
  have dir : ∀ name, after.fs.dir name =
      if name = put.key.fileName then some id
      else if name = put.tempName then none else world.fs.dir name := by
    intro name
    rw [← holds.named]
    exact FileTable.dir_rename _ _ _ _
  have frame : Frame thread world after :=
    { now := le_refl _
      next := le_refl _
      stored := List.subset_cons_self _ _
      others := fun other different => threads_goto_of_ne _ _ different
      files := fun _ _ _ => rfl
      names := by
        intro held old free name found
        rw [dir] at found
        split at found
        · cases found
          exact absurd writes (free put)
        · split at found
          · cases found
          · exact found
      temps := by
        intro other different put' held both
        obtain ⟨header, value, others⟩ := inv.holds both
        rw [dir, if_neg (others.apart _ holds.known).symm, if_neg]
        intro same
        have named := others.named
        rw [same, holds.named] at named
        cases named
        exact different (inv.distinct _ _ _ _ _ both writes)
      writes := fun put id both => absurd both (not_writes_goto rfl)
      released := by
        intro put' held both
        obtain ⟨rfl, rfl⟩ := Prod.mk.inj (Option.some.inj (writes.symm.trans both))
        right
        intro name found
        rw [dir] at found
        split at found
        · assumption
        · split at found
          · cases found
          · exact absurd (holds.alone name found) (by assumption) }
  have entry : (after.fs.files id).IsEntry put.value put.expiry :=
    { header := holds.header
      value := holds.value
      small := holds.small }
  refine inv.of_frame frame inv.bounded.rename ?_ ?_ ?_
  · rw [threads_goto]
    trivial
  · intro key known held found
    by_cases same : key = put.key
    · rw [dir, same, if_pos rfl] at found
      cases found
      rw [same]
      exact ⟨put.value, put.expiry, entry, List.mem_cons_self⟩
    · rw [dir, if_neg (same ∘ Key.fileName_injective.eq_iff.mp),
        if_neg (holds.apart key known)] at found
      exact inv.entry_of_frame frame known found
  · intro key known text expiry latest live
    by_cases same : key = put.key
    · have updated : after.latest put.key = some (put.value, put.expiry) :=
        Function.update_self put.key _ world.latest
      rw [same, updated] at latest
      cases latest
      refine ⟨id, ?_, entry⟩
      rw [dir, same, if_pos rfl]
    · refine inv.kept_of_frame frame known ?_ ?_ live
      · rw [dir, if_neg (same ∘ Key.fileName_injective.eq_iff.mp), if_neg (holds.apart key known)]
      · have kept : after.latest key = world.latest key :=
          Function.update_of_ne same _ world.latest
        rw [← kept, latest]

/-- Removing a name. -/
theorem unlink {pc : Pc} {latest : Key → Option (String × Int)} (still : pc.writing = none)
    (ok : world.PcOk keys pc)
    (others : ∀ other ≠ thread, ∀ put id, world.Writes other put id → put.tempName ≠ name)
    (own : ∀ put id, world.Writes thread put id → put.tempName = name)
    (keeps : ∀ key ∈ keys, ∀ text expiry, latest key = some (text, expiry) → world.now < expiry →
      world.latest key = some (text, expiry) ∧ key.fileName ≠ name) :
    ({ world with fs := world.fs.unlink name, latest }.goto thread pc).Invariant keys := by
  set after := { world with fs := world.fs.unlink name, latest }.goto thread pc
  have dir : ∀ other, after.fs.dir other = if other = name then none else world.fs.dir other := by
    intro other
    exact FileTable.dir_unlink world.fs name other
  have frame : Frame thread world after :=
    { now := le_refl _
      next := le_refl _
      stored := List.Subset.refl _
      others := fun other different => threads_goto_of_ne _ _ different
      files := fun _ _ _ => rfl
      names := by
        intro id _ _ other found
        rw [dir] at found
        split at found
        · cases found
        · exact found
      temps := by
        intro other different put id writes
        rw [dir, if_neg (others other different put id writes)]
      writes := fun put id both => absurd both (not_writes_goto still)
      released := by
        intro put id writes
        right
        intro other found
        obtain ⟨header, value, holds⟩ := inv.holds writes
        rw [dir] at found
        split at found
        · cases found
        · rename_i different
          exact absurd ((holds.alone other found).trans (own put id writes)) different }
  refine inv.of_frame frame inv.bounded.unlink ?_ ?_ ?_
  · rw [threads_goto]
    apply frame.pcOk ok
    intro put id header value writing
    rw [still] at writing
    cases writing
  · intro key known id found
    rw [dir] at found
    split at found
    · cases found
    · exact inv.entry_of_frame frame known found
  · intro key known text expiry last live
    obtain ⟨before, different⟩ := keeps key known text expiry last live
    refine inv.kept_of_frame frame known ?_ before live
    rw [dir, if_neg different]

/-- Giving up a set. -/
theorem discard (writes : world.Writes thread put id) :
    (world.discard thread put).Invariant keys := by
  obtain ⟨header, value, holds⟩ := inv.holds writes
  refine inv.unlink rfl trivial ?_ ?_ ?_
  · intro other different put' held both same
    obtain ⟨header', value', others⟩ := inv.holds both
    have named := others.named
    rw [same, holds.named] at named
    cases named
    exact different (inv.distinct _ _ _ _ _ both writes)
  · intro put' held both
    obtain ⟨rfl, rfl⟩ := Prod.mk.inj (Option.some.inj (writes.symm.trans both))
    rfl
  · intro key known text expiry latest _
    exact ⟨latest, holds.apart key known⟩

/-- Deleting an entry. -/
theorem delete {key : Key} (idle : (world.threads thread).writing = none) (known : key ∈ keys) :
    ({ world with
      fs := world.fs.unlink key.fileName
      latest := Function.update world.latest key none }.goto thread
        (.finished (.set true))).Invariant keys := by
  refine inv.unlink rfl trivial ?_ ?_ ?_
  · intro other _ put id writes same
    obtain ⟨header, value, holds⟩ := inv.holds writes
    exact holds.apart key known same.symm
  · intro put id writes
    exact absurd writes (not_writes idle)
  · intro other _ text expiry latest _
    by_cases same : other = key
    · rw [same, Function.update_self] at latest
      cases latest
    · rw [Function.update_of_ne same] at latest
      exact ⟨latest, same ∘ Key.fileName_injective.eq_iff.mp⟩

/-- Removing the file that a cleaner has looked at. -/
theorem clean {op : SetCall} (rechecked : world.threads thread = .rechecked op name id)
    (same : ∀ current ∈ world.fs.dir name, current = id ∧ ¬ world.InFlight id) :
    ({ world with fs := world.fs.unlink name }.goto thread (.scanning op)).Invariant keys := by
  have idle : (world.threads thread).writing = none := by
    rw [rechecked]
    rfl
  have ok := inv.threads thread
  rw [rechecked] at ok
  obtain ⟨ok, -, doomed⟩ := ok
  refine inv.unlink rfl ok ?_ ?_ ?_
  · rintro other - put held writes rfl
    obtain ⟨header, value, holds⟩ := inv.holds writes
    obtain ⟨rfl, free⟩ := same held holds.named
    exact free (inFlight_iff.mpr ⟨other, put, writes⟩)
  · intro put held writes
    exact absurd writes (not_writes idle)
  · intro key known text expiry latest live
    refine ⟨latest, ?_⟩
    rintro rfl
    obtain ⟨held, found, entry⟩ := inv.kept key known text expiry latest live
    obtain ⟨rfl, free⟩ := same held found
    rcases doomed found with underway | dead
    · exact free (inFlight_iff.mpr underway)
    · exact absurd live (not_lt.mpr (dead _ entry.header))

end Invariant

omit [DecidableEq ι] in
theorem dead_of_keeps_eq_false (removes : world.keeps id = false) :
    (world.fs.files id).Dead world.now := by
  rintro info header
  rw [keeps, header] at removes
  exact not_lt.mp (of_decide_eq_false removes)

namespace Invariant

variable (inv : world.Invariant keys)

include inv

omit inv in
theorem openTemp_of_free (free : world.fs.dir put.tempName = none) (ident : Nat) :
    world.openTemp thread put ident =
      { world with fs := world.fs.create put.tempName { ident } }.goto thread
        (.opened put world.fs.next) := by
  rw [openTemp, free]

/-- One step of a set that removes or stores an entry. -/
theorem store {op : SetCall} {choice : Choice} (storing : world.threads thread = .storing op)
    (free : op.value.isSome → world.fs.dir op.tempName = none) {platform : Platform}
    (stepped : world.advance platform thread (.storing op) choice = some after) :
    after.Invariant keys := by
  have idle : (world.threads thread).writing = none := by
    rw [storing]
    rfl
  have ok := inv.threads thread
  rw [storing] at ok
  obtain ⟨known, small, apart⟩ := ok
  cases stored : op.value with
  | none =>
      cases choice
      case next =>
          rw [advance, stored] at stepped
          cases stepped
          exact inv.delete idle known
      case create =>
          rw [advance, stored] at stepped
          cases stepped
      case fault =>
          rw [advance, stored] at stepped
          cases stepped
      all_goals cases stepped
  | some value =>
      have free : world.fs.dir op.tempName = none := free (by rw [stored]; rfl)
      cases choice
      case next =>
          rw [advance, stored] at stepped
          cases stepped
      case create ident =>
          rw [advance, stored] at stepped
          cases stepped
          let put : Put := ⟨op.key, value, op.expiry, op.rnd⟩
          have free : world.fs.dir put.tempName = none := free
          rw [openTemp_of_free free]
          have small : value.length + 1 ≤ fileSizeMax := small value stored
          exact inv.create put idle known small apart free ident
      case fault =>
          rw [advance, stored] at stepped
          cases stepped
          exact inv.goto (.finished (.set false)) idle rfl trivial world.metadata
      all_goals cases stepped

/-- The cleaner opens a file that the directory lists. -/
theorem inspect {op : SetCall} (scanning : world.threads thread = .scanning op)
    (found : world.fs.dir name = some id) :
    (world.goto thread (.inspecting op name id)).Invariant keys := by
  have ok := inv.threads thread
  rw [scanning] at ok
  have idle : (world.threads thread).writing = none := by
    rw [scanning]
    rfl
  refine inv.goto (.inspecting op name id) idle rfl ⟨ok, inv.bounded _ _ found, ?_⟩ world.metadata
  rintro other put writes rfl
  obtain ⟨header, value, holds⟩ := inv.holds writes
  exact holds.apart _ holds.known (holds.alone _ found)

/-- A get opens the file of its entry. -/
theorem openEntry {key : Key} (opening : world.threads thread = .opening key)
    (found : world.fs.dir key.fileName = some id) :
    (world.goto thread (.reading key id)).Invariant keys := by
  have known := inv.threads thread
  rw [opening] at known
  have idle : (world.threads thread).writing = none := by
    rw [opening]
    rfl
  exact inv.goto (.reading key id) idle rfl
    ⟨inv.settled known found, inv.entries key known id found⟩ world.metadata

/-- A get reads the header. -/
theorem readHeader {key : Key} (reading : world.threads thread = .reading key id) {info : Info}
    (read : (world.fs.files id).readHeader world.now = some (some info)) :
    (world.goto thread (.header key id info world.now)).Invariant keys := by
  have ok := inv.threads thread
  rw [reading] at ok
  obtain ⟨settled, text, expiry, entry, stored⟩ := ok
  have idle : (world.threads thread).writing = none := by
    rw [reading]
    rfl
  rw [entry.readHeader] at read
  split at read
  · cases read
  · rename_i live
    cases read
    exact inv.goto (.header key id _ world.now) idle rfl
      ⟨settled, text, expiry, entry, stored, rfl, not_le.mp live⟩ world.metadata

/-- A get reads the value. -/
theorem readValue {key : Key} {info : Info} {time : Int}
    (read : world.threads thread = .header key id info time) {text : String}
    (found : (world.fs.files id).readValue info = some text) :
    (world.goto thread (.finished (.get key true (some (text, time))))).Invariant keys := by
  have ok := inv.threads thread
  rw [read] at ok
  obtain ⟨-, whole, expiry, entry, stored, rfl, live⟩ := ok
  have idle : (world.threads thread).writing = none := by
    rw [read]
    rfl
  rw [entry.readValue] at found
  cases found
  exact inv.goto (.finished (.get key true (some (text, time)))) idle rfl
    ⟨expiry, stored, live⟩ world.metadata

/-- One step of a process. -/
theorem advance {platform : Platform} {choice : Choice}
    (meets : Meets keys world (.go thread choice))
    (stepped : world.advance platform thread (world.threads thread) choice = some after) :
    after.Invariant keys := by
  have ok := inv.threads thread
  rw [Meets] at meets
  cases pc : world.threads thread with
  | idle =>
      rw [pc] at stepped
      cases choice <;> cases stepped
  | cleanDue op =>
      have idle : (world.threads thread).writing = none := by rw [pc]; rfl
      rw [pc] at stepped ok
      cases choice
      case next =>
          cases stepped
          split
          · exact inv.goto (.touch op) idle rfl ok world.metadata
          · exact inv.goto (.storing op) idle rfl ok world.metadata
      all_goals cases stepped
  | touch op =>
      have idle : (world.threads thread).writing = none := by rw [pc]; rfl
      rw [pc] at stepped ok
      cases choice
      case next =>
          cases stepped
          exact inv.goto (.scanning op) idle rfl ok (some world.now)
      case fault =>
          cases stepped
          exact inv.goto (.storing op) idle rfl ok world.metadata
      all_goals cases stepped
  | scanning op =>
      have idle : (world.threads thread).writing = none := by rw [pc]; rfl
      rw [pc] at stepped ok
      cases choice
      case pick name =>
          rw [World.advance] at stepped
          split at stepped
          · cases stepped
            exact inv.goto (.scanning op) idle rfl ok world.metadata
          · rename_i id listed
            cases stepped
            apply inv.inspect pc
            split at listed
            · cases listed
            · exact listed
      case endOfDirectory =>
          cases stepped
          exact inv.goto (.storing op) idle rfl ok world.metadata
      all_goals cases stepped
  | inspecting op name id =>
      have idle : (world.threads thread).writing = none := by rw [pc]; rfl
      rw [pc] at stepped ok
      cases choice
      case next =>
          cases stepped
          split
          · exact inv.goto (.scanning op) idle rfl ok.1 world.metadata
          · rename_i removes
            have dead := dead_of_keeps_eq_false (Bool.eq_false_of_not_eq_true removes)
            exact inv.goto (.condemned op name id) idle rfl ⟨ok.1, ok.2, fun _ => .inr dead⟩
              world.metadata
      all_goals cases stepped
  | condemned op name id =>
      have idle : (world.threads thread).writing = none := by rw [pc]; rfl
      rw [pc] at stepped ok
      cases choice
      case next =>
          cases stepped
          split
          · exact inv.goto (.rechecked op name id) idle rfl ok world.metadata
          · exact inv.goto (.scanning op) idle rfl ok.1 world.metadata
      all_goals cases stepped
  | rechecked op name id =>
      rw [pc] at stepped meets
      cases choice
      case next =>
          cases stepped
          exact inv.clean pc meets
      all_goals cases stepped
  | storing op =>
      rw [pc] at stepped meets
      exact inv.store pc meets stepped
  | opened put id =>
      have writes : world.Writes thread put id := by rw [Writes, pc]; rfl
      rw [pc] at stepped ok
      cases choice
      case next =>
          cases stepped
          apply inv.write writes ok rfl _
          intro after holds
          have empty : (world.fs.files id).value = none := World.Holds.value ok
          rw [empty] at holds
          exact holds
      case fault =>
          cases stepped
          exact inv.discard writes
      all_goals cases stepped
  | headed put id =>
      have writes : world.Writes thread put id := by rw [Writes, pc]; rfl
      rw [pc] at stepped ok
      cases choice
      case next =>
          cases stepped
          apply inv.write writes ok rfl _
          intro after holds
          have header := World.Holds.header ok
          rw [header] at holds
          exact holds
      case fault =>
          cases stepped
          exact inv.discard writes
      all_goals cases stepped
  | written put id =>
      have writes : world.Writes thread put id := by rw [Writes, pc]; rfl
      rw [pc] at stepped
      cases choice
      case next =>
          cases stepped
          exact inv.publish pc
      case fault =>
          cases stepped
          exact inv.discard writes
      all_goals cases stepped
  | lookup key =>
      have idle : (world.threads thread).writing = none := by rw [pc]; rfl
      rw [pc] at stepped ok
      cases choice
      case next =>
          rw [World.advance] at stepped
          split at stepped
          · cases stepped
            exact inv.goto (.finished (.get key true none)) idle rfl trivial world.metadata
          · cases stepped
            exact inv.goto (.opening key) idle rfl ok world.metadata
      all_goals cases stepped
  | opening key =>
      have idle : (world.threads thread).writing = none := by rw [pc]; rfl
      rw [pc] at stepped
      cases choice
      case next =>
          rw [World.advance] at stepped
          split at stepped
          · cases stepped
            exact inv.goto (.finished (.get key true none)) idle rfl trivial world.metadata
          · rename_i id found
            cases stepped
            exact inv.openEntry pc found
      all_goals cases stepped
  | reading key id =>
      have idle : (world.threads thread).writing = none := by rw [pc]; rfl
      rw [pc] at stepped
      cases choice
      case next =>
          rw [World.advance] at stepped
          split at stepped
          · cases stepped
            exact inv.goto (.finished (.get key false none)) idle rfl trivial world.metadata
          · cases stepped
            exact inv.goto (.finished (.get key true none)) idle rfl trivial world.metadata
          · rename_i info read
            cases stepped
            exact inv.readHeader pc read
      all_goals cases stepped
  | header key id info time =>
      have idle : (world.threads thread).writing = none := by rw [pc]; rfl
      rw [pc] at stepped
      cases choice
      case next =>
          rw [World.advance] at stepped
          split at stepped
          · cases stepped
            exact inv.goto (.finished (.get key false none)) idle rfl trivial world.metadata
          · rename_i text found
            cases stepped
            exact inv.readValue pc found
      all_goals cases stepped
  | finished result =>
      rw [pc] at stepped
      cases choice <;> cases stepped

omit [DecidableEq ι] in
/-- Time passing. -/
theorem tick (duration : Nat) :
    World.Invariant { world with now := world.now + duration } keys := by
  set after : World ι := { world with now := world.now + duration }
  have later : world.now ≤ after.now := Int.le_add_of_nonneg_right (Int.natCast_nonneg _)
  have frame : ∀ thread, Frame thread world after := fun thread =>
    { now := later
      next := le_refl _
      stored := List.Subset.refl _
      others := fun _ _ => rfl
      files := fun _ _ _ => rfl
      names := fun _ _ _ _ found => found
      temps := fun _ _ _ _ _ => rfl
      writes := fun _ _ writes => .inl writes
      released := fun _ _ writes => .inl writes }
  exact
    { bounded := inv.bounded
      threads := by
        intro thread
        refine (frame thread).pcOk (inv.threads thread) ?_
        intro put id header value _ holds
        exact ⟨holds.known, holds.small, holds.apart, holds.old, holds.named,
          holds.alone, holds.header,
          holds.value⟩
      distinct := inv.distinct
      entries := inv.entries
      kept := fun key known text expiry latest live =>
        inv.kept key known text expiry latest (later.trans_lt live) }

/-- A call. -/
theorem call {call : Call} (meets : Meets keys world (.call thread call))
    (free : (world.threads thread).free = true) :
    (world.goto thread call.start).Invariant keys := by
  have idle : (world.threads thread).writing = none := by
    cases pc : world.threads thread
    case idle => rfl
    case finished => rfl
    all_goals
      rw [pc] at free
      cases free
  cases call with
  | set op => exact inv.goto (.cleanDue op) idle rfl meets world.metadata
  | get key => exact inv.goto (.lookup key) idle rfl meets world.metadata

/-- One step of the world. -/
theorem step {platform : Platform} {action : Action ι} (meets : Meets keys world action)
    (stepped : world.step platform action = some after) : after.Invariant keys := by
  cases action with
  | tick duration =>
      cases stepped
      exact inv.tick duration
  | call thread call =>
      rw [World.step] at stepped
      split at stepped
      · rename_i free
        cases stepped
        exact inv.call meets free
      · cases stepped
  | go thread choice => exact inv.advance meets stepped

/-- Any number of steps. -/
theorem run {platform : Platform} {actions : List (Action ι)}
    (meets : AllMeet platform keys actions world)
    (ran : FileCache.run platform actions world = some after) : after.Invariant keys := by
  induction actions generalizing world with
  | nil =>
      cases ran
      exact inv
  | cons action actions ih =>
      obtain ⟨meets, rest⟩ := meets
      rw [FileCache.run] at ran
      split at ran
      · cases ran
      · rename_i next stepped
        rw [stepped] at rest
        exact ih (inv.step meets stepped) rest ran

end Invariant

/-! ## Results -/

omit [DecidableEq ι] in
theorem invariant_of_fresh (fresh : Fresh keys world) : world.Invariant keys where
  bounded := fresh.bounded
  threads := by
    intro thread
    rw [fresh.idle thread]
    trivial
  distinct := by
    intro thread other put put' id writes
    rw [Writes, fresh.idle thread] at writes
    cases writes
  entries := by
    intro key known id found
    rw [fresh.empty key known] at found
    cases found
  kept := by
    intro key known text expiry latest
    rw [fresh.latest key] at latest
    cases latest

omit [DecidableEq ι] in
theorem found_eq {key : Key} (found : world.fs.dir key.fileName = some id) {text : String}
    {expiry : Int} (entry : (world.fs.files id).IsEntry text expiry) (live : world.now < expiry) :
    world.found key = some text := by
  rw [World.found, found]
  dsimp only
  rw [entry.readHeader, if_neg (not_le.mpr live)]
  exact entry.readValue

theorem sound_of_invariant (inv : world.Invariant keys) : Sound keys world where
  found := by
    intro key known text expiry latest live
    obtain ⟨id, found, entry⟩ := inv.kept key known text expiry latest live
    exact found_eq found entry live
  temp := by
    intro thread put id writing
    obtain ⟨header, value, holds⟩ := inv.holds writing
    exact holds.named
  completes := by
    intro thread put id written
    have writes : world.Writes thread put id := by rw [Writes, written]; rfl
    obtain ⟨header, value, holds⟩ := inv.holds writes
    rw [World.publish, holds.named]
    exact threads_goto _ _
  returned := by
    intro thread key ok text time finished
    have result := inv.threads thread
    rw [finished] at result
    exact result

theorem run_go {platform : Platform} {choice : Choice} (actions : List (Action ι)) {pc : Pc}
    (here : world.threads thread = pc)
    (stepped : world.advance platform thread pc choice = some after) :
    FileCache.run platform (.go thread choice :: actions) world =
      FileCache.run platform actions after := by
  rw [FileCache.run, World.step, here, stepped]

/-- What is found is what a get returns when nothing else happens. -/
theorem run_get (platform : Platform) {key : Key} (lookup : world.threads thread = .lookup key)
    {text : String} (found : world.found key = some text) :
    ∃ after, FileCache.run platform (List.replicate 4 (.go thread .next)) world = some after ∧
      after.threads thread = .finished (.get key true (some (text, world.now))) := by
  rw [World.found] at found
  split at found
  · cases found
  · rename_i id named
    split at found
    · rename_i info read
      let opening := world.goto thread (.opening key)
      let reading := opening.goto thread (.reading key id)
      let header := reading.goto thread (.header key id info world.now)
      have first : world.advance platform thread (.lookup key) .next = some opening := by
        rw [advance, named]
      have second : opening.advance platform thread (.opening key) .next = some reading := by
        rw [advance, show opening.fs.dir key.fileName = some id from named]
      have third : reading.advance platform thread (.reading key id) .next = some header := by
        rw [advance, show (reading.fs.files id).readHeader reading.now = some (some info) from read]
        rfl
      have fourth : header.advance platform thread (.header key id info world.now) .next =
          some (header.goto thread (.finished (.get key true (some (text, world.now))))) := by
        rw [advance, show (header.fs.files id).readValue info = some text from found]
      refine ⟨_, ?_, threads_goto header _⟩
      simp only [List.replicate]
      rw [run_go _ lookup first, run_go _ (threads_goto world _) second,
        run_go _ (threads_goto opening _) third, run_go _ (threads_goto reading _) fourth]
      rfl
    · cases found

end Effects

end World

/-- A directory without cache files, before the first call. -/
def World.empty : World ι where
  fs := { dir := fun _ => none, files := fun _ => { ident := 0 }, next := 0 }
  metadata := none
  now := 0
  threads := fun _ => .idle
  latest := fun _ => none
  stored := []

theorem fresh_empty (keys : List Key) : Fresh keys (World.empty : World ι) where
  idle := fun _ => rfl
  latest := fun _ => rfl
  bounded := by
    intro name id found
    cases found
  empty := fun _ _ => rfl

theorem exists_of_run [DecidableEq ι] {platform : Platform} {actions : List (Action ι)}
    {world : World ι} {P : World ι → Prop} (runs : (run platform actions world).isSome = true)
    (result : ∀ after, run platform actions world = some after → P after) :
    ∃ after, run platform actions world = some after ∧ P after := by
  obtain ⟨after, ran⟩ := Option.isSome_iff_exists.mp runs
  exact ⟨after, ran, result after ran⟩

/-- The promises of the file cache hold after every run whose steps meet the condition. -/
theorem run_sound [DecidableEq ι] (platform : Platform) (keys : List Key)
    (actions : List (Action ι)) (world after : World ι) (fresh : Fresh keys world)
    (meets : AllMeet platform keys actions world)
    (ran : run platform actions world = some after) : Sound keys after :=
  World.sound_of_invariant ((World.invariant_of_fresh fresh).run meets ran)

/-- A set and then another one that removes the expired entry. -/
theorem run_sound_cleaned :
    ∃ after : World Bool, run {} [.call true (.set ⟨⟨"s", "k", by decide⟩, some "old", 1, "r1"⟩),
        .go true .next, .go true .next, .go true .endOfDirectory, .go true (.create 1),
        .go true .next, .go true .next, .go true .next, .tick 60000000,
        .call false (.set ⟨⟨"s", "k", by decide⟩, some "new", 90000000, "r2"⟩), .go false .next,
        .go false .next, .go false (.pick "mod-auth-openidc-s-k"), .go false .next,
        .go false .next, .go false .next, .go false .endOfDirectory, .go false (.create 2),
        .go false .next, .go false .next, .go false .next] World.empty = some after ∧
      Sound [⟨"s", "k", by decide⟩] after := by
  apply exists_of_run
  · decide +kernel
  · intro after ran
    exact run_sound {} _ _ World.empty after (fresh_empty _) (by decide +kernel) ran

/-- What a set has returned. -/
def Pc.setResult : Pc → Option Bool
  | .finished (.set ok) => some ok
  | _ => none

/-- A cleaner that has compared an expired file removes the entry that a set renames over it, and a
cleaner that finds a temporary file empty removes it, so that the set fails. -/
theorem cleaner_removes_live_files :
    (run {} [.call true (.set ⟨⟨"s", "k", by decide⟩, some "old", 1, "r1"⟩), .go true .next,
        .go true .next, .go true .endOfDirectory, .go true (.create 1), .go true .next,
        .go true .next, .go true .next, .tick 60000000,
        .call false (.set ⟨⟨"s", "other", by decide⟩, none, 0, "r2"⟩), .go false .next,
        .go false .next, .go false (.pick "mod-auth-openidc-s-k"), .go false .next, .go false .next,
        .call true (.set ⟨⟨"s", "k", by decide⟩, some "new", 90000000, "r3"⟩), .go true .next,
        .go true (.create 2), .go true .next, .go true .next, .go true .next,
        .go false .next] (World.empty : World Bool)).map
      (fun world => (world.latest ⟨"s", "k", by decide⟩, world.now,
        (world.threads true).setResult, world.found ⟨"s", "k", by decide⟩)) =
      some (some ("new", 90000000), 60000000, some true, none) ∧
    (run {} [.call true (.set ⟨⟨"s", "k", by decide⟩, some "new", 90000000, "r1"⟩),
        .call false (.set ⟨⟨"s", "other", by decide⟩, none, 0, "r2"⟩), .go true .next,
        .go false .next, .go true .next, .go false .next, .go true .endOfDirectory,
        .go true (.create 1), .go false (.pick "mod-auth-openidc-s-k.r1.tmp"), .go false .next,
        .go false .next, .go false .next, .go true .next, .go true .next, .go true .next]
        (World.empty : World Bool)).map
      (fun world => ((world.threads true).setResult, world.found ⟨"s", "k", by decide⟩)) =
      some (some false, none) := by
  decide +kernel

end FileCache

end ModAuthOpenidc
