import ModAuthOpenidc.Http.Curl

/-!
# Handles between requests

The threads of a process share the pool of curl handles. Each handle is in the pool, where it has no
options, or in the hands of one thread, whose request has set all the options that the handle has.
So no request performs with the credentials, the body or the buffers of another one.
-/

namespace ModAuthOpenidc

namespace Curl

open Threads

/-! ## What operations do -/

/-- The memory of a process, for the threads of some type. -/
structure World (ι : Type) where
  /-- The options of the handles that were made and not cleaned up. -/
  handles : Handle → Option Options := fun _ => none
  /-- The handles of the pool, the last one first. -/
  pool : List Handle := []
  mutex : Option ι := none

/-- Other options for a handle, or its end. -/
def World.update {ι : Type} (world : World ι) (handle : Handle) (options : Option Options) :
    World ι :=
  { world with handles := Function.update world.handles handle options }

@[simp] theorem World.update_self {ι : Type} (world : World ι) (handle : Handle)
    (options : Option Options) : (world.update handle options).handles handle = options :=
  Function.update_self ..

theorem World.update_of_ne {ι : Type} (world : World ι) {handle handle' : Handle}
    (other : handle' ≠ handle) (options : Option Options) :
    (world.update handle options).handles handle' = world.handles handle' :=
  Function.update_of_ne other ..

/-- The options that make curl call back for what it receives, with the variables of a call. -/
def Reaches (options : Options) (function data : Opt) (call : Call) : Prop :=
  options function = some .callback ∧ options data = some (.variable call.frame)

/-- The operations with the answers they may get. Options may fail to be set, and servers and the
network decide on the transfers. Only handles that were not cleaned up can be worked with. -/
inductive Effect {ι : Type} (i : ι) : (op : Op) → World ι → Answer op → World ι → Prop
  | lock {world : World ι} (unlocked : world.mutex = none) :
      Effect i .lock world () { world with mutex := some i }
  | unlock (world : World ι) : Effect i .unlock world () { world with mutex := none }
  | num (world : World ι) : Effect i .num world world.pool.length world
  | pop {world : World ι} {handle : Handle} {rest : List Handle}
      (last : world.pool = handle :: rest) :
      Effect i .pop world handle { world with pool := rest }
  | push (world : World ι) (handle : Handle) :
      Effect i (.push handle) world () { world with pool := handle :: world.pool }
  | noHandle (world : World ι) : Effect i .easyInit world none world
  | easyInit {world : World ι} {handle : Handle} (fresh : world.handles handle = none) :
      Effect i .easyInit world (some handle) (world.update handle (some .initial))
  | setopt {world : World ι} {handle : Handle} {options : Options} (option : Opt) (value : Value)
      (alive : world.handles handle = some options) :
      Effect i (.setopt handle option value) world true
        (world.update handle (some (options.set (option, value))))
  | setoptFails {world : World ι} {handle : Handle} {options : Options} (option : Opt)
      (value : Value) (alive : world.handles handle = some options) :
      Effect i (.setopt handle option value) world false world
  | perform {world : World ι} {handle : Handle} {options : Options} (call : Call)
      (transfer : Transfer) (alive : world.handles handle = some options)
      (body : Reaches options .writeFunction .writeData call ∨ transfer.body = [])
      (headers : Reaches options .headerFunction .headerData call ∨ transfer.headers = []) :
      Effect i (.perform handle call) world transfer world
  | responseCode {world : World ι} {handle : Handle} {options : Options} (code : Int)
      (alive : world.handles handle = some options) :
      Effect i (.responseCode handle) world code world
  | reset {world : World ι} {handle : Handle} {options : Options}
      (alive : world.handles handle = some options) :
      Effect i (.reset handle) world () (world.update handle (some .initial))
  | cleanup {world : World ι} {handle : Handle} {options : Options}
      (alive : world.handles handle = some options) :
      Effect i (.cleanup handle) world () (world.update handle none)
  | sleep (world : World ι) : Effect i .sleep world () world

/-! ## Accounts -/

/-- What a thread has in its hands. -/
structure Account where
  mutex : Bool := false
  /-- The number of handles in the pool, if it was read. -/
  number : Option Nat := none
  /-- A handle with its options. -/
  own : Option (Handle × Options) := none

/-- The options come from a call, some of whose options may have failed to be set. -/
def Own (call : Call) (options : Options) : Prop :=
  ∃ url set, call.url = some url ∧ List.Sublist set (settings call url) ∧
    options = set.foldl Options.set .initial

/-- What a thread may do. -/
def Allowed (account : Account) : Op → Prop
  | .lock | .sleep => account.mutex = false
  | .unlock | .num => account.mutex = true
  | .pop => account.mutex = true ∧ account.own = none ∧ ∃ n, account.number = some (n + 1)
  | .push handle => account.mutex = true ∧ account.own = some (handle, .initial) ∧
      ∃ n < poolMax, account.number = some n
  | .easyInit => account.own = none
  | .perform handle call => ∃ options, account.own = some (handle, options) ∧ Own call options
  | .setopt handle _ _ | .responseCode handle | .reset handle | .cleanup handle =>
      ∃ options, account.own = some (handle, options)

/-- How an answer changes what a thread has in its hands. -/
def Becomes (account : Account) : (op : Op) → Answer op → Account → Prop
  | .lock, _, after => after = { account with mutex := true, number := none }
  | .unlock, _, after => after = { account with mutex := false, number := none }
  | .num, n, after => after = { account with number := some n }
  | .pop, handle, after => after =
      { account with
        number := account.number.map (· - 1)
        own := some (handle, .initial) }
  | .push _, _, after => after =
      { account with
        number := account.number.map (· + 1)
        own := none }
  | .easyInit, none, after => after = account
  | .easyInit, some handle, after => after = { account with own := some (handle, .initial) }
  | .setopt _ option value, done, after =>
      after = { account with own := account.own.map fun held =>
        (held.1, if done then held.2.set (option, value) else held.2) }
  | .reset _, _, after =>
      after = { account with own := account.own.map fun held => (held.1, .initial) }
  | .cleanup _, _, after => after = { account with own := none }
  | .perform _ _, _, after | .responseCode _, _, after | .sleep, _, after => after = account

/-- Every handle is in the pool or in the hands of one thread, and the accounts are true. -/
structure Custody {ι : Type} (world : World ι) (accounts : ι → Account) : Prop where
  nodup : world.pool.Nodup
  room : world.pool.length ≤ poolMax
  clean : ∀ handle ∈ world.pool, world.handles handle = some .initial
  mutex : ∀ i, (accounts i).mutex = true ↔ world.mutex = some i
  number : ∀ i n, (accounts i).number = some n →
    (accounts i).mutex = true ∧ world.pool.length = n
  own : ∀ i handle options, (accounts i).own = some (handle, options) →
    world.handles handle = some options ∧ handle ∉ world.pool
  alone : ∀ i j handle options options', (accounts i).own = some (handle, options) →
    (accounts j).own = some (handle, options') → i = j
  kept : ∀ handle, world.handles handle ≠ none →
    handle ∈ world.pool ∨ ∃ i options, (accounts i).own = some (handle, options)

/-- The discipline of the handles. -/
def discipline (ι : Type) : Discipline ι (World ι) Account Op Answer where
  Allowed := Allowed
  Becomes := Becomes
  Agrees := Custody

section Sound

variable {ι : Type} [DecidableEq ι] {world after : World ι} {accounts : ι → Account} {i : ι}
  {account : Account}

/-- One thread has moved on: what it has now is true, and what the others have is as before. -/
theorem Custody.moved (custody : Custody world accounts) (nodup : after.pool.Nodup)
    (room : after.pool.length ≤ poolMax)
    (clean : ∀ handle ∈ after.pool, after.handles handle = some .initial)
    (mutex : account.mutex = true ↔ after.mutex = some i)
    (locked : ∀ j, j ≠ i → (after.mutex = some j ↔ world.mutex = some j))
    (number : ∀ n, account.number = some n → account.mutex = true ∧ after.pool.length = n)
    (pool : ∀ j, j ≠ i → world.mutex = some j → after.pool = world.pool)
    (own : ∀ handle options, account.own = some (handle, options) →
      after.handles handle = some options ∧ handle ∉ after.pool ∧
        ∀ j, j ≠ i → ∀ options', (accounts j).own ≠ some (handle, options'))
    (others : ∀ j, j ≠ i → ∀ handle options, (accounts j).own = some (handle, options) →
      after.handles handle = some options ∧ handle ∉ after.pool)
    (kept : ∀ handle, after.handles handle ≠ none → handle ∈ after.pool ∨
      (∃ options, account.own = some (handle, options)) ∨
        ∃ j, j ≠ i ∧ ∃ options, (accounts j).own = some (handle, options)) :
    Custody after (Function.update accounts i account) where
  nodup := nodup
  room := room
  clean := clean
  mutex j := by
    by_cases same : j = i
    · subst same
      rw [Function.update_self]
      exact mutex
    · rw [Function.update_of_ne same]
      exact (custody.mutex j).trans (locked j same).symm
  number j n read := by
    by_cases same : j = i
    · subst same
      rw [Function.update_self] at read ⊢
      exact number n read
    · rw [Function.update_of_ne same] at read ⊢
      obtain ⟨holds, length⟩ := custody.number j n read
      exact ⟨holds, pool j same ((custody.mutex j).mp holds) ▸ length⟩
  own j handle options owned := by
    by_cases same : j = i
    · subst same
      rw [Function.update_self] at owned
      exact ⟨(own handle options owned).1, (own handle options owned).2.1⟩
    · rw [Function.update_of_ne same] at owned
      exact others j same handle options owned
  alone j k handle options options' owned owned' := by
    by_cases first : j = i
    · by_cases second : k = i
      · exact first.trans second.symm
      · rw [first, Function.update_self] at owned
        rw [Function.update_of_ne second] at owned'
        exact absurd owned' ((own handle options owned).2.2 k second options')
    · rw [Function.update_of_ne first] at owned
      by_cases second : k = i
      · rw [second, Function.update_self] at owned'
        exact absurd owned ((own handle options' owned').2.2 j first options)
      · rw [Function.update_of_ne second] at owned'
        exact custody.alone j k handle options options' owned owned'
  kept handle alive := by
    rcases kept handle alive with pooled | ⟨options, owned⟩ | ⟨j, other, options, owned⟩
    · exact .inl pooled
    · refine .inr ⟨i, options, ?_⟩
      rwa [Function.update_self]
    · refine .inr ⟨j, options, ?_⟩
      rwa [Function.update_of_ne other]

omit [DecidableEq ι] in
/-- What a thread has in its hands, no other thread has. -/
theorem Custody.elsewhere (custody : Custody world accounts) {handle : Handle} {options : Options}
    (owned : (accounts i).own = some (handle, options)) (j : ι) (other : j ≠ i)
    (options' : Options) : (accounts j).own ≠ some (handle, options') := fun owned' =>
  other (custody.alone j i handle options' options owned' owned)

omit [DecidableEq ι] in
theorem Custody.placed (custody : Custody world accounts) (i : ι) {handle : Handle}
    (alive : world.handles handle ≠ none) : handle ∈ world.pool ∨
      (∃ options, (accounts i).own = some (handle, options)) ∨
        ∃ j, j ≠ i ∧ ∃ options, (accounts j).own = some (handle, options) := by
  rcases custody.kept handle alive with pooled | ⟨j, options, owned⟩
  · exact .inl pooled
  · by_cases same : j = i
    · exact .inr (.inl ⟨options, same ▸ owned⟩)
    · exact .inr (.inr ⟨j, same, options, owned⟩)

/-- A step that moves no handle and changes no options. -/
theorem Custody.still (custody : Custody world accounts) (mutex' : Option ι)
    (mutex : account.mutex = true ↔ mutex' = some i)
    (locked : ∀ j, j ≠ i → (mutex' = some j ↔ world.mutex = some j))
    (number : ∀ n, account.number = some n → account.mutex = true ∧ world.pool.length = n)
    (own : account.own = (accounts i).own) :
    Custody { world with mutex := mutex' } (Function.update accounts i account) := by
  refine custody.moved custody.nodup custody.room custody.clean mutex locked number
    (fun _ _ _ => rfl) ?_ (fun j _ => custody.own j) fun handle alive => ?_
  · intro handle options owned
    rw [own] at owned
    obtain ⟨alive, out⟩ := custody.own i handle options owned
    exact ⟨alive, out, custody.elsewhere owned⟩
  · rw [own]
    exact custody.placed i alive

/-- A step that changes the account of nothing but perhaps the number that was read. -/
theorem Custody.same (custody : Custody world accounts) :
    Custody world (Function.update accounts i (accounts i)) := by
  rwa [Function.update_eq_self]

omit [DecidableEq ι] in
/-- The options of a handle that others do not have are not seen by them. -/
theorem Custody.unseen (custody : Custody world accounts) {handle : Handle}
    {options' : Option Options}
    (out : ∀ j, j ≠ i → ∀ options, (accounts j).own ≠ some (handle, options)) (j : ι)
    (other : j ≠ i) (handle' : Handle) (options : Options)
    (owned : (accounts j).own = some (handle', options)) :
    (world.update handle options').handles handle' = some options ∧ handle' ∉ world.pool := by
  obtain ⟨alive, out'⟩ := custody.own j handle' options owned
  refine ⟨?_, out'⟩
  rw [world.update_of_ne]
  · exact alive
  · rintro rfl
    exact out j other options owned

omit [DecidableEq ι] in
theorem Custody.clean_update (custody : Custody world accounts) {handle : Handle}
    (out : handle ∉ world.pool) (options' : Option Options) (handle' : Handle)
    (pooled : handle' ∈ world.pool) :
    (world.update handle options').handles handle' = some .initial := by
  rw [world.update_of_ne]
  · exact custody.clean handle' pooled
  · rintro rfl
    exact out pooled

/-- A thread gives other options to the handle in its hands. -/
theorem Custody.changed (custody : Custody world accounts) {handle : Handle} {options : Options}
    (owned : (accounts i).own = some (handle, options)) (options' : Options)
    (mutex : account.mutex = (accounts i).mutex) (number : account.number = (accounts i).number)
    (own : account.own = some (handle, options')) :
    Custody (world.update handle (some options')) (Function.update accounts i account) := by
  have out := (custody.own i handle options owned).2
  have elsewhere := custody.elsewhere owned
  refine custody.moved custody.nodup custody.room (custody.clean_update out _) ?_
    (fun _ _ => Iff.rfl) ?_ (fun _ _ _ => rfl) ?_ (custody.unseen elsewhere) ?_
  · rw [mutex]
    exact custody.mutex i
  · rw [number, mutex]
    exact custody.number i
  · rintro handle' options'' same
    cases own.symm.trans same
    exact ⟨world.update_self .., out, elsewhere⟩
  · intro handle' alive
    by_cases same : handle' = handle
    · exact .inr (.inl ⟨options', same ▸ own⟩)
    · rw [world.update_of_ne same] at alive
      rcases custody.placed i alive with pooled | ⟨options'', owned'⟩ | others
      · exact .inl pooled
      · cases owned.symm.trans owned'
        exact absurd rfl same
      · exact .inr (.inr others)

/-- Every operation that a thread may perform leaves the accounts true. -/
theorem sound : (discipline ι).Sound Effect := by
  intro i op world answer after accounts custody allowed effect
  have custody : Custody world accounts := custody
  have held {handle : Handle} {options : Options}
      (owned : (accounts i).own = some (handle, options)) := custody.own i handle options owned
  cases effect with
  | lock unlocked =>
      refine ⟨_, rfl, custody.still _ (by simp) (fun j other => ?_) (by simp) rfl⟩
      rw [unlocked]
      simp [other.symm]
  | unlock =>
      refine ⟨_, rfl, custody.still _ (by simp) (fun j other => ?_) (by simp) rfl⟩
      rw [(custody.mutex i).mp allowed]
      simp [other.symm]
  | num =>
      refine ⟨_, rfl, custody.still _ (custody.mutex i) (fun j other => Iff.rfl) ?_ rfl⟩
      rintro n same
      exact ⟨allowed, Option.some.inj same⟩
  | @pop _ handle rest last =>
      obtain ⟨locked, empty, n, read⟩ := allowed
      have nodup := custody.nodup
      rw [last] at nodup
      obtain ⟨out, nodup⟩ := List.nodup_cons.mp nodup
      have pooled {handle' : Handle} (member : handle' ∈ rest) : handle' ∈ world.pool := by
        rw [last]
        exact List.mem_cons_of_mem handle member
      have first : handle ∈ world.pool := by
        rw [last]
        exact List.mem_cons_self
      have length : rest.length = n := by
        have length := (custody.number i _ read).2
        rw [last, List.length_cons] at length
        omega
      refine ⟨_, rfl, custody.moved nodup ?_ (fun _ member => custody.clean _ (pooled member))
        (custody.mutex i) (fun _ _ => Iff.rfl) ?_ ?_ ?_ ?_ ?_⟩
      · have room := custody.room
        rw [last, List.length_cons] at room
        exact Nat.le_of_succ_le room
      · intro m same
        rw [read] at same
        exact ⟨locked, length.trans (Option.some.inj same)⟩
      · intro j other holds
        exact absurd (Option.some.inj (holds.symm.trans ((custody.mutex i).mp locked))) other
      · rintro handle' options same
        cases same
        refine ⟨custody.clean handle first, out, fun j other options' owned => ?_⟩
        exact (custody.own j handle options' owned).2 first
      · intro j other handle' options owned
        obtain ⟨alive, out⟩ := custody.own j handle' options owned
        exact ⟨alive, fun member => out (pooled member)⟩
      · intro handle' alive
        rcases custody.placed i alive with member | ⟨options, owned⟩ | others
        · rw [last] at member
          rcases List.mem_cons.mp member with rfl | member
          · exact .inr (.inl ⟨_, rfl⟩)
          · exact .inl member
        · rw [empty] at owned
          cases owned
        · exact .inr (.inr others)
  | push _ handle =>
      obtain ⟨locked, owned, n, room, read⟩ := allowed
      obtain ⟨alive, out⟩ := held owned
      have length := (custody.number i n read).2
      refine ⟨_, rfl, custody.moved (List.nodup_cons.mpr ⟨out, custody.nodup⟩) ?_ ?_
        (custody.mutex i) (fun _ _ => Iff.rfl) ?_ ?_ (by simp) ?_ ?_⟩
      · rw [List.length_cons, length]
        exact room
      · intro handle' member
        rcases List.mem_cons.mp member with rfl | member
        · exact alive
        · exact custody.clean handle' member
      · intro m same
        rw [read] at same
        cases same
        exact ⟨locked, congrArg (· + 1) length⟩
      · intro j other holds
        exact absurd (Option.some.inj (holds.symm.trans ((custody.mutex i).mp locked))) other
      · intro j other handle' options owned'
        obtain ⟨alive', out'⟩ := custody.own j handle' options owned'
        refine ⟨alive', fun member => ?_⟩
        rcases List.mem_cons.mp member with rfl | member
        · exact custody.elsewhere owned j other options owned'
        · exact out' member
      · intro handle' alive'
        rcases custody.placed i alive' with member | ⟨options, owned'⟩ | others
        · exact .inl (List.mem_cons_of_mem handle member)
        · cases owned.symm.trans owned'
          exact .inl List.mem_cons_self
        · exact .inr (.inr others)
  | noHandle => exact ⟨_, rfl, custody.same⟩
  | @easyInit _ handle fresh =>
      have free (j : ι) (options : Options) : (accounts j).own ≠ some (handle, options) :=
        fun owned => absurd ((custody.own j handle options owned).1.symm.trans fresh) (by simp)
      have out : handle ∉ world.pool := fun member =>
        absurd ((custody.clean handle member).symm.trans fresh) (by simp)
      refine ⟨_, rfl, custody.moved custody.nodup custody.room (custody.clean_update out _)
        (custody.mutex i) (fun _ _ => Iff.rfl) (custody.number i) (fun _ _ _ => rfl) ?_
        (custody.unseen fun j _ => free j) ?_⟩
      · rintro handle' options same
        cases same
        exact ⟨world.update_self .., out, fun j _ => free j⟩
      · intro handle' alive
        by_cases same : handle' = handle
        · subst same
          exact .inr (.inl ⟨_, rfl⟩)
        · rw [world.update_of_ne same] at alive
          rcases custody.placed i alive with member | ⟨options, owned⟩ | others
          · exact .inl member
          · have empty : (accounts i).own = none := allowed
            rw [empty] at owned
            cases owned
          · exact .inr (.inr others)
  | @setopt _ handle options option value alive =>
      obtain ⟨options', owned⟩ := allowed
      cases (held owned).1.symm.trans alive
      refine ⟨_, rfl, custody.changed owned _ rfl rfl ?_⟩
      rw [owned]
      rfl
  | setoptFails option value alive =>
      refine ⟨_, rfl, custody.still _ (custody.mutex i) (fun _ _ => Iff.rfl) (custody.number i) ?_⟩
      exact Option.map_id'
  | perform => exact ⟨_, rfl, custody.same⟩
  | responseCode => exact ⟨_, rfl, custody.same⟩
  | reset alive =>
      obtain ⟨options', owned⟩ := allowed
      refine ⟨_, rfl, custody.changed owned _ rfl rfl ?_⟩
      rw [owned]
      rfl
  | @cleanup _ handle _ alive =>
      obtain ⟨options, owned⟩ := allowed
      obtain ⟨-, out⟩ := held owned
      refine ⟨_, rfl, custody.moved custody.nodup custody.room (custody.clean_update out _)
        (custody.mutex i) (fun _ _ => Iff.rfl) (custody.number i) (fun _ _ _ => rfl) (by simp)
        (custody.unseen (custody.elsewhere owned)) fun handle' alive' => ?_⟩
      by_cases same : handle' = handle
      · subst same
        exact absurd (world.update_self ..) alive'
      · rw [world.update_of_ne same] at alive'
        rcases custody.placed i alive' with member | ⟨options', owned'⟩ | others
        · exact .inl member
        · cases owned.symm.trans owned'
          exact absurd rfl same
        · exact .inr (.inr others)
  | sleep => exact ⟨_, rfl, custody.same⟩

end Sound

/-! ## Programs -/

section Programs

variable {ι : Type}

/-- A thread without the mutex that has something in its hands, or nothing. -/
def resting (own : Option (Handle × Options)) : Account := { own }

/-- A handle that was taken off the pool has no options. -/
def Taken (account : Account) (handle : Option Handle) : Prop :=
  account = resting (handle.map (·, .initial))

theorem keeps_takeOff : (discipline ι).Keeps Taken {} takeOff := by
  refine .call rfl ?_
  rintro _ _ rfl
  refine .bind (m := fun account handle => ∃ number, account =
    { mutex := true, number, own := handle.map (·, .initial) }) ?_ ?_
  · refine .call rfl ?_
    rintro number _ rfl
    split
    · next some =>
        obtain ⟨n, rfl⟩ := Nat.exists_eq_succ_of_ne_zero (Nat.pos_iff_ne_zero.mp some)
        refine .call ⟨rfl, rfl, n, rfl⟩ ?_
        rintro handle _ rfl
        exact .pure ⟨_, rfl⟩
    · exact .pure ⟨_, rfl⟩
  · rintro _ handle ⟨number, rfl⟩
    refine .call rfl ?_
    rintro _ _ rfl
    exact .pure rfl

theorem keeps_easyInit : (discipline ι).Keeps Taken {} (run .easyInit) := by
  refine .perform rfl fun handle account becomes => .done ?_
  cases handle with
  | none => exact becomes
  | some handle => exact becomes

theorem keeps_acquire (enabled : Bool) : (discipline ι).Keeps Taken {} (acquire enabled) := by
  unfold acquire
  split
  · exact keeps_easyInit
  · refine .bind keeps_takeOff ?_
    rintro _ handle rfl
    cases handle with
    | none => exact keeps_easyInit
    | some handle => exact .pure rfl

/-- A handle that is put back is reset before. -/
theorem keeps_putBack {handle : Handle} {options : Options} :
    (discipline ι).Keeps
      (fun account pooled => account = resting (if pooled then none else some (handle, .initial)))
      (resting (some (handle, options))) (putBack handle) := by
  refine .call ⟨options, rfl⟩ ?_
  rintro _ _ rfl
  refine .call rfl ?_
  rintro _ _ rfl
  refine .bind (m := fun account pooled => ∃ number, account =
    { mutex := true, number, own := if pooled then none else some (handle, .initial) }) ?_ ?_
  · refine .call rfl ?_
    rintro number _ rfl
    split
    · next room =>
        refine .call ⟨rfl, rfl, number, room, rfl⟩ ?_
        rintro _ _ rfl
        exact .pure ⟨_, rfl⟩
    · exact .pure ⟨_, rfl⟩
  · rintro _ pooled ⟨number, rfl⟩
    refine .call rfl ?_
    rintro _ _ rfl
    exact .pure rfl

/-- A handle that is released is in nobody's hands. -/
theorem keeps_release (enabled reuse : Bool) {handle : Handle} {options : Options} :
    (discipline ι).Keeps (fun account _ => account = {}) (resting (some (handle, options)))
      (release enabled handle reuse) := by
  refine .bind (m := fun account pooled => ∃ options, account =
    resting (if pooled then none else some (handle, options))) ?_ ?_
  · split
    · exact keeps_putBack.mono fun _ _ same => ⟨_, same⟩
    · exact .pure ⟨options, rfl⟩
  · rintro _ pooled ⟨options', rfl⟩
    cases pooled with
    | true => exact .pure rfl
    | false =>
        refine .perform ⟨options', rfl⟩ ?_
        rintro _ _ rfl
        exact .done rfl

/-- Some of the options are set, on top of those that the handle has. -/
theorem keeps_setOptions {handle : Handle} (settings : List (Opt × Value)) {options : Options} :
    (discipline ι).Keeps
      (fun account _ => ∃ set, List.Sublist set settings ∧
        account = resting (some (handle, set.foldl Options.set options)))
      (resting (some (handle, options))) (setOptions handle settings) := by
  induction settings generalizing options with
  | nil => exact .pure ⟨[], .slnil, rfl⟩
  | cons setting rest ih =>
      refine .call ⟨options, rfl⟩ ?_
      rintro works _ rfl
      cases works with
      | true =>
          refine (@ih (options.set setting)).mono ?_
          rintro _ _ ⟨set, some, rfl⟩
          exact ⟨setting :: set, some.cons_cons setting, rfl⟩
      | false =>
          refine (@ih options).mono ?_
          rintro _ _ ⟨set, some, rfl⟩
          exact ⟨set, some.cons setting, rfl⟩

/-- A request that tries, by induction on the number of tries, keeps its handle with its options. -/
theorem keeps_performWithRetries (sameName : String → String → Bool) {handle : Handle} {call : Call}
    {options : Options} (own : Own call options) (left : Nat) (received : Received) :
    (discipline ι).Keeps (fun account _ => account = resting (some (handle, options)))
      (resting (some (handle, options)))
      (performWithRetries sameName handle call left received) := by
  induction left generalizing received with
  | zero => exact .pure rfl
  | succ left ih =>
      refine .call ⟨options, rfl, own⟩ ?_
      rintro transfer _ rfl
      dsimp only
      rcases receive sameName transfer received with ⟨received', code⟩
      cases code with
      | ok => exact .pure rfl
      | timedOut => exact .pure rfl
      | other =>
          refine .bind (m := fun account _ => account = resting (some (handle, options))) ?_ ?_
          · split
            · exact .pure rfl
            · refine .perform rfl ?_
              rintro _ _ rfl
              exact .done rfl
          · rintro _ _ rfl
            exact ih received'

/-- A request has nothing in its hands before and after. -/
theorem keeps_request (sameName : String → String → Bool) (enabled : Bool) (call : Call) :
    (discipline ι).Keeps (fun account _ => account = {}) {} (request sameName enabled call) := by
  unfold request
  split
  · exact .pure rfl
  · next url known =>
      refine .bind (keeps_acquire enabled) ?_
      rintro _ handle rfl
      cases handle with
      | none => exact .pure rfl
      | some handle =>
          refine .bind (keeps_setOptions _) ?_
          rintro _ _ ⟨set, some, rfl⟩
          refine .bind (keeps_performWithRetries sameName ⟨url, set, known, some, rfl⟩ _ _) ?_
          rintro _ received rfl
          cases received with
          | none =>
              refine .bind (keeps_release enabled false) ?_
              rintro _ _ rfl
              exact .pure rfl
          | some received =>
              refine .call ⟨_, rfl⟩ ?_
              rintro code _ rfl
              refine .bind (keeps_release enabled true) ?_
              rintro _ _ rfl
              exact .pure rfl

/-- A thread keeps to what is allowed, by induction on its requests. -/
theorem keeps_serve (sameName : String → String → Bool) (enabled : Bool) (client : Client Unit) :
    (discipline ι).Keeps (fun account _ => account = {}) {} (serve sameName enabled client) := by
  induction client with
  | done => exact .pure rfl
  | perform call next ih =>
      refine .bind (keeps_request sameName enabled call) ?_
      rintro _ response rfl
      exact ih response

end Programs

/-! ## All threads of a process -/

section Reachable

variable {ι : Type} {sameName : String → String → Bool} {enabled : Bool}
  {clients : ι → Client Unit} {system : System ι (World ι) Op Answer Unit}

/-- The threads of a process that has just been made: `oidc_http_curl_pool_child_init` has left
nothing in the pool. -/
def start (sameName : String → String → Bool) (enabled : Bool) (clients : ι → Client Unit) :
    System ι (World ι) Op Answer Unit :=
  ⟨{}, fun i => serve sameName enabled (clients i)⟩

/-- What threads may come to, in any order of their operations. -/
def Reachable [DecidableEq ι] (sameName : String → String → Bool) (enabled : Bool)
    (clients : ι → Client Unit) : System ι (World ι) Op Answer Unit → Prop :=
  Steps Effect (start sameName enabled clients)

theorem Reachable.holds [DecidableEq ι] (reachable : Reachable sameName enabled clients system) :
    ∃ accounts, (discipline ι).Holds (fun account _ => account = {}) system accounts := by
  have first : (discipline ι).Holds (fun account _ => account = {}) (start sameName enabled clients)
      fun _ => {} := by
    refine ⟨?_, fun i => keeps_serve sameName enabled (clients i)⟩
    exact ⟨.nil, Nat.zero_le _, by simp [start], by simp [start], by simp, by simp, by simp,
      by simp [start]⟩
  exact first.steps sound reachable

/-- The handle that an operation works with. -/
def Op.handle : Op → Option Handle
  | .push handle | .setopt handle _ _ | .perform handle _ | .responseCode handle | .reset handle
  | .cleanup handle => some handle
  | .lock | .unlock | .num | .pop | .easyInit | .sleep => none

/-- What an operation needs: the array of the pool is kept within its bounds and used under the
mutex, which is locked once and not slept on, and what goes into the pool is not there and has no
options. What is worked with was not cleaned up, and what is performed with has its options from the
call. -/
def Safe (world : World ι) (i : ι) : Op → Prop
  | .lock | .sleep => world.mutex ≠ some i
  | .unlock | .num => world.mutex = some i
  | .pop => world.mutex = some i ∧ world.pool ≠ []
  | .push handle => world.mutex = some i ∧ world.pool.length < poolMax ∧ handle ∉ world.pool ∧
      world.handles handle = some .initial
  | .easyInit => True
  | .perform handle call => ∃ options, world.handles handle = some options ∧ Own call options
  | .setopt handle _ _ | .responseCode handle | .reset handle | .cleanup handle =>
      ∃ options, world.handles handle = some options

/-- What is allowed by a true account is safe. -/
theorem Custody.safe {world : World ι} {accounts : ι → Account} {i : ι}
    (custody : Custody world accounts) {op : Op} (allowed : Allowed (accounts i) op) :
    Safe world i op := by
  have unlocked (free : (accounts i).mutex = false) : world.mutex ≠ some i := by
    rw [Ne, ← custody.mutex i, free]
    simp
  have alive {handle : Handle} (owned : ∃ options, (accounts i).own = some (handle, options)) :
      ∃ options, world.handles handle = some options := by
    obtain ⟨options, owned⟩ := owned
    exact ⟨options, (custody.own i handle options owned).1⟩
  cases op with
  | lock => exact unlocked allowed
  | sleep => exact unlocked allowed
  | unlock => exact (custody.mutex i).mp allowed
  | num => exact (custody.mutex i).mp allowed
  | pop =>
      obtain ⟨locked, -, n, read⟩ := allowed
      refine ⟨(custody.mutex i).mp locked, fun empty => ?_⟩
      have length := (custody.number i _ read).2
      rw [empty] at length
      cases length
  | push handle =>
      obtain ⟨locked, owned, n, room, read⟩ := allowed
      obtain ⟨alive, out⟩ := custody.own i handle _ owned
      exact ⟨(custody.mutex i).mp locked, (custody.number i n read).2 ▸ room, out, alive⟩
  | easyInit => exact trivial
  | perform handle call =>
      obtain ⟨options, owned, own⟩ := allowed
      exact ⟨options, (custody.own i handle options owned).1, own⟩
  | setopt handle option value => exact alive allowed
  | responseCode handle => exact alive allowed
  | reset handle => exact alive allowed
  | cleanup handle => exact alive allowed

/-- What an operation works with is in hand. -/
theorem Allowed.hand {account : Account} {op : Op} {handle : Handle} (allowed : Allowed account op)
    (works : op.handle = some handle) : ∃ options, account.own = some (handle, options) := by
  cases op with
  | lock | unlock | num | pop | easyInit | sleep => cases works
  | push =>
      cases works
      exact ⟨_, allowed.2.1⟩
  | perform =>
      cases works
      obtain ⟨options, owned, -⟩ := allowed
      exact ⟨options, owned⟩
  | setopt | responseCode | reset | cleanup =>
      cases works
      exact allowed

/-! ## A run of one request -/

/-- A thread that sets options. -/
theorem solo_setOptions {handle : Handle} (settings : List (Opt × Value)) {options : Options}
    {world : World Unit} (alive : world.handles handle = some options) {rest : Unit → Prog Unit}
    {later : System Unit (World Unit) Op Answer Unit}
    (steps : Steps Effect ⟨world.update handle (some (settings.foldl Options.set options)),
      fun _ => rest ()⟩ later) :
    Steps Effect ⟨world, fun _ => setOptions handle settings >>= rest⟩ later := by
  induction settings generalizing options world with
  | nil =>
      have same : world.update handle (some options) = world := by
        rw [World.update, ← alive, Function.update_eq_self]
      rw [List.foldl_nil, same] at steps
      exact steps
  | cons setting settings ih =>
      refine solo (.setopt setting.1 setting.2 alive) (ih (world.update_self ..) ?_)
      rwa [World.update, World.update, Function.update_idem]

/-- A thread that gets one document. -/
def oneCall : Unit → Client Unit := fun _ => .perform plainCall fun _ => .done ()

/-- The options for the document. -/
def plainOptions : Options := (settings plainCall "u").foldl Options.set .initial

/-- Its thread comes to perform with a new handle, which has all options. -/
theorem oneCall_steps {later : System Unit (World Unit) Op Answer Unit}
    (steps : Steps Effect ⟨({} : World Unit).update 0 (some plainOptions), fun _ =>
      performWithRetries (· = ·) 0 plainCall 2 { hdrs := [] } >>= fun result =>
        finish true 0 result >>= fun _ => pure ()⟩ later) :
    Reachable (· = ·) true oneCall later := by
  refine solo (.lock rfl) <| solo (.num _) <| solo (.unlock _) <|
    solo (@Effect.easyInit _ _ _ 0 rfl) ?_
  have options : Steps Effect ⟨({} : World Unit).update 0 (some .initial), fun _ =>
      setOptions 0 (settings plainCall "u") >>= fun _ =>
        performWithRetries (· = ·) 0 plainCall 2 { hdrs := [] } >>= fun result =>
          finish true 0 result >>= fun _ => pure ()⟩ later := by
    refine solo_setOptions _ (World.update_self ..) ?_
    rwa [World.update, World.update, Function.update_idem]
  have same : (requestWith (· = ·) true 0 plainCall "u" >>= fun _ => pure () : Prog Unit) =
      setOptions 0 (settings plainCall "u") >>= fun _ =>
        performWithRetries (· = ·) 0 plainCall 2 { hdrs := [] } >>= fun result =>
          finish true 0 result >>= fun _ => pure () := by
    rw [requestWith, Program.bind_assoc]
    exact congrArg _ (funext fun _ => Program.bind_assoc ..)
  rw [← same] at options
  exact options

theorem oneCall_performs : ∃ system, Reachable (· = ·) true oneCall system ∧
    (system.threads ()).pending = some (.perform 0 plainCall) :=
  ⟨_, oneCall_steps .refl, rfl⟩

/-- In the end, its handle is in the pool. -/
theorem oneCall_finished : ∃ system, Reachable (· = ·) true oneCall system ∧
    (∀ i, (system.threads i).pending = none) ∧ system.state.pool = [0] := by
  refine ⟨_, oneCall_steps <| solo (.perform _ { code := .ok } rfl (.inr rfl) (.inr rfl)) <|
    solo (.responseCode 200 rfl) <| solo (.reset rfl) <| solo (.lock rfl) <| solo (.num _) <|
    solo (.push _ _) <| solo (.unlock _) <| .refl, fun _ => rfl, rfl⟩

/-! ## In any order -/

/-- The handles are cleaned up one after the other. -/
def cleanupAll (handles : List Handle) (world : World ι) : World ι :=
  handles.foldl (fun world handle => world.update handle none) world

/-- `oidc_http_curl_pool_cleanup`, at the end of the process. -/
def poolCleanup (world : World ι) : World ι :=
  { cleanupAll world.pool.reverse world with
    pool := []
    mutex := none }

theorem handles_cleanupAll (handles : List Handle) (world : World ι) (handle : Handle) :
    (cleanupAll handles world).handles handle =
      if handle ∈ handles then none else world.handles handle := by
  induction handles generalizing world with
  | nil => rfl
  | cons first rest ih =>
      have step := ih (world.update first none)
      rw [cleanupAll, List.foldl_cons]
      rw [cleanupAll] at step
      rw [step]
      by_cases same : handle = first
      · subst same
        simp
      · rw [world.update_of_ne same]
        simp [same]

/-- When all threads are done, the mutex is free, and the cleanup of the pool comes to each handle
that was not cleaned up once, when it is still there, and leaves none behind. -/
theorem finished_cleaned [DecidableEq ι] (sameName : String → String → Bool) (enabled : Bool)
    (clients : ι → Client Unit) {system : System ι (World ι) Op Answer Unit}
    (reachable : Reachable sameName enabled clients system)
    (finished : ∀ i, (system.threads i).pending = none) :
    system.state.mutex = none ∧ system.state.pool.length ≤ poolMax ∧
      (∀ before handle after, system.state.pool.reverse = before ++ handle :: after →
        (cleanupAll before system.state).handles handle = some .initial) ∧
      ∀ handle, (poolCleanup system.state).handles handle = none := by
  obtain ⟨accounts, holds⟩ := reachable.holds
  have custody : Custody system.state accounts := holds.agrees
  have empty (i : ι) : accounts i = {} := by
    cases program : system.threads i with
    | done result => exact holds.final program
    | perform op next =>
        have none := finished i
        rw [program] at none
        cases none
  refine ⟨?_, custody.room, fun before handle after same => ?_, fun handle => ?_⟩
  · cases holder : system.state.mutex with
    | none => rfl
    | some i =>
        have locked := (custody.mutex i).mpr holder
        rw [empty i] at locked
        cases locked
  · have nodup : (before ++ handle :: after).Nodup := same ▸ List.nodup_reverse.mpr custody.nodup
    have pooled : handle ∈ system.state.pool := by
      rw [← List.mem_reverse, same]
      simp
    rw [handles_cleanupAll, if_neg]
    · exact custody.clean handle pooled
    · exact fun member =>
        (List.nodup_append.mp nodup).2.2 handle member handle List.mem_cons_self rfl
  · rw [poolCleanup]
    dsimp only
    rw [handles_cleanupAll]
    split
    · rfl
    · next out =>
        by_contra alive
        rcases custody.kept handle alive with pooled | ⟨i, options, owned⟩
        · exact out (List.mem_reverse.mpr pooled)
        · rw [empty i] at owned
          cases owned

theorem finished_cleaned_call : ∃ system, Reachable (· = ·) true oneCall system ∧
    system.state.pool = [0] ∧ ∀ handle, (poolCleanup system.state).handles handle = none := by
  obtain ⟨system, reachable, finished, pool⟩ := oneCall_finished
  exact ⟨system, reachable, pool, (finished_cleaned (· = ·) true oneCall reachable finished).2.2.2⟩

end Reachable

end Curl

end ModAuthOpenidc
