import ModAuthOpenidc.Cache.RedisPool

/-!
# Custody of Redis connections

Requests of one process interleave their operations on the shared connection or on the pool. Each
connection that is open is in one place: in the pool, in the context, or in the hands of one
request. A request has at most one connection in its hands, and what it takes from the context while
it holds the mutex is in its hands as well, until it unlocks the mutex.
-/

namespace ModAuthOpenidc

namespace Redis

open Threads

/-! ## What operations do -/

/-- What the server still waits for, and the error flag. -/
structure Life where
  needsAuth : Bool
  needsSelect : Bool
  err : Bool
  deriving DecidableEq

/-- A connection over time. -/
inductive Status
  | fresh
  | live (life : Life)
  | freed
  deriving DecidableEq

/-- The memory of a process, for the threads of some type. -/
structure World (ι : Type) where
  conns : Conn → Status := fun _ => .fresh
  /-- The connections of the pool, the last one first. -/
  idle : List Conn := []
  rctx : Option Conn := none
  mutex : Option ι := none

/-- Another life of a connection. -/
def World.relive {ι : Type} (world : World ι) (conn : Conn) (status : Status) : World ι :=
  { world with conns := Function.update world.conns conn status }

/-- The operations with the answers they may get. The server and the network decide on replies and
on errors, and the mutex may fail to be locked. Only live connections can be worked with. -/
inductive Effect {ι : Type} (context : Context) (i : ι) :
    (op : Op) → World ι → Answer op → World ι → Prop
  | lock {world : World ι} (unlocked : world.mutex = none) :
      Effect context i .lock world true { world with mutex := some i }
  | lockFails (world : World ι) : Effect context i .lock world false world
  | unlock (world : World ι) : Effect context i .unlock world () { world with mutex := none }
  | idleNum (world : World ι) : Effect context i .idleNum world world.idle.length world
  | idlePop {world : World ι} {conn : Conn} {rest : List Conn}
      (last : world.idle = conn :: rest) :
      Effect context i .idlePop world conn { world with idle := rest }
  | idlePush (world : World ι) (conn : Conn) :
      Effect context i (.idlePush conn) world () { world with idle := conn :: world.idle }
  | shared (world : World ι) : Effect context i .shared world world.rctx world
  | setShared (world : World ι) (conn : Option Conn) :
      Effect context i (.setShared conn) world () { world with rctx := conn }
  | refused (world : World ι) : Effect context i .connect world none world
  | connected {world : World ι} {conn : Conn} (err : Bool) (fresh : world.conns conn = .fresh) :
      Effect context i .connect world (some conn)
        (world.relive conn (.live ⟨context.passwd.isSome, context.database ≠ -1, err⟩))
  | err {world : World ι} {conn : Conn} {life : Life} (live : world.conns conn = .live life) :
      Effect context i (.err conn) world life.err world
  | enableKeepAlive {world : World ι} {conn : Conn} {life : Life} (interval : Int)
      (works err : Bool) (live : world.conns conn = .live life) :
      Effect context i (.enableKeepAlive conn interval) world works
        (world.relive conn (.live { life with err }))
  | auth {world : World ι} {conn : Conn} {life : Life} (username : Option String)
      (password : String) (reply : Option Reply) (err : Bool)
      (live : world.conns conn = .live life) :
      Effect context i (.auth conn username password) world reply
        (world.relive conn (.live { life with needsAuth := life.needsAuth && !isGood reply, err }))
  | select {world : World ι} {conn : Conn} {life : Life} (database : Int) (reply : Option Reply)
      (err : Bool) (live : world.conns conn = .live life) :
      Effect context i (.select conn database) world reply
        (world.relive conn
          (.live { life with needsSelect := life.needsSelect && !isGood reply, err }))
  | command {world : World ι} {conn : Conn} {life : Life} (command : Command)
      (reply : Option Reply) (err : Bool) (live : world.conns conn = .live life) :
      Effect context i (.command conn command) world reply
        (world.relive conn (.live { life with err }))
  | free {world : World ι} {conn : Conn} {life : Life} (live : world.conns conn = .live life) :
      Effect context i (.free conn) world () (world.relive conn .freed)
  | sleep (world : World ι) : Effect context i .sleep world () world

/-! ## Accounts -/

/-- A connection in the hands of a thread, and what the thread knows about it. -/
structure Held where
  conn : Conn
  needsAuth : Bool
  needsSelect : Bool
  /-- The error flag, if it was read since the last operation. -/
  err : Option Bool

/-- A connection that commands may be sent on. -/
def Held.ready (conn : Conn) (err : Option Bool) : Held := ⟨conn, false, false, err⟩

/-- What a thread that holds the mutex knows about the connection in the context. -/
inductive Cell
  | unread
  | empty
  /-- It is the connection in the hands of the thread. -/
  | lent
  /-- It is one that was freed. -/
  | dangling
  deriving DecidableEq

/-- What a thread has in its hands. -/
structure Account where
  mutex : Bool := false
  /-- The number of idle connections, if it was read. -/
  number : Option Nat := none
  own : Option Held := none
  cell : Cell := .unread

/-- A connection is in the hands of the thread. -/
def Account.Has (account : Account) (conn : Conn) : Prop :=
  ∃ held, account.own = some held ∧ held.conn = conn

/-- What a thread may do. -/
def Allowed (context : Context) (account : Account) : Op → Prop
  | .lock => account.mutex = false ∧ account.cell = .unread
  | .unlock => account.mutex = true ∧ account.cell ≠ .dangling ∧
      (account.cell = .lent → ∃ conn err, account.own = some (.ready conn err))
  | .idleNum => account.mutex = true
  | .idlePop => account.mutex = true ∧ account.own = none ∧ ∃ n, account.number = some (n + 1)
  | .idlePush conn => account.mutex = true ∧ account.cell = .unread ∧
      (∃ n < poolMax, account.number = some n) ∧ account.own = some (.ready conn (some false))
  | .shared => account.mutex = true ∧ (account.cell = .unread → account.own = none) ∨
      context.requestScoped = true ∧ account.mutex = false
  | .setShared conn => account.mutex = true ∧ context.requestScoped = false ∧
      match conn with
      | some conn => account.cell = .empty ∧ account.Has conn
      | none => account.own = none ∧ (account.cell = .empty ∨ account.cell = .dangling)
  | .connect => account.own = none
  | .err conn | .enableKeepAlive conn _ | .auth conn _ _ | .select conn _ | .free conn =>
      account.Has conn
  | .command conn _ => ∃ err, account.own = some (.ready conn err)
  | .sleep => account.mutex = false

/-- How an answer changes what a thread has in its hands. -/
def Becomes (context : Context) (account : Account) :
    (op : Op) → Answer op → Account → Prop
  | .lock, locked, after => after = { account with mutex := locked, number := none }
  | .unlock, _, after => after =
      { account with
        mutex := false
        number := none
        own := if account.cell = .lent then none else account.own
        cell := .unread }
  | .idleNum, n, after => after = { account with number := some n }
  | .idlePop, conn, after => after =
      { account with
        number := account.number.map (· - 1)
        own := some (.ready conn (some false)) }
  | .idlePush _, _, after => after =
      { account with
        number := account.number.map (· + 1)
        own := none }
  | .shared, conn, after =>
      if account.mutex = true then
        match account.cell, conn with
        | .unread, none => after = { account with cell := .empty }
        | .unread, some conn => after =
            { account with
              own := some (.ready conn none)
              cell := .lent }
        | .empty, conn => conn = none ∧ after = account
        | .lent, conn => (∃ held, account.own = some held ∧ conn = some held.conn) ∧ after = account
        | .dangling, _ => after = account
      else conn = none ∧ after = account
  | .setShared conn, _, after =>
      after = { account with cell := if conn.isSome then .lent else .empty }
  | .connect, none, after => after = account
  | .connect, some conn, after =>
      after = { account with
        own := some ⟨conn, context.passwd.isSome, context.database ≠ -1, none⟩ }
  | .err _, err, after =>
      after = { account with own := account.own.map fun held => { held with err := some err } }
  | .enableKeepAlive _ _, _, after =>
      after = { account with own := account.own.map fun held => { held with err := none } }
  | .auth _ _ _, reply, after =>
      after = { account with own := account.own.map fun held =>
        { held with needsAuth := held.needsAuth && !isGood reply, err := none } }
  | .select _ _, reply, after =>
      after = { account with own := account.own.map fun held =>
        { held with needsSelect := held.needsSelect && !isGood reply, err := none } }
  | .command _ _, _, after =>
      after = { account with own := account.own.map fun held => { held with err := none } }
  | .free _, _, after => after =
      { account with
        own := none
        cell := if account.cell = .lent then .dangling else account.cell }
  | .sleep, _, after => after = account

/-! ## Places -/

/-- Where a connection is. -/
inductive Place (ι : Type)
  | nowhere
  | pool
  | context
  | hands (i : ι)

/-- What is known of a connection in hand is true. -/
def Held.True {ι : Type} (held : Held) (world : World ι) : Prop :=
  ∃ err, world.conns held.conn = .live ⟨held.needsAuth, held.needsSelect, err⟩ ∧
    ∀ known ∈ held.err, err = known

/-- The connection in the context is as the holder of the mutex knows it. -/
def Cell.True {ι : Type} (cell : Cell) (own : Option Held) (world : World ι)
    (place : Conn → Place ι) : Prop :=
  match cell with
  | .unread => ∀ conn, world.rctx = some conn → place conn = .context
  | .empty => world.rctx = none
  | .lent => ∃ held, own = some held ∧ world.rctx = some held.conn
  | .dangling => ∃ conn, world.rctx = some conn ∧ world.conns conn = .freed

/-- The account of a thread is true. -/
structure Trusted {ι : Type} (world : World ι) (place : Conn → Place ι) (i : ι)
    (account : Account) : Prop where
  mutex : account.mutex = true ↔ world.mutex = some i
  number : ∀ n, account.number = some n → account.mutex = true ∧ world.idle.length = n
  own : ∀ held, account.own = some held → place held.conn = .hands i ∧ held.True world
  hands : ∀ conn, place conn = .hands i → account.Has conn
  resting : account.mutex = false → account.cell = .unread
  cell : account.mutex = true → account.cell.True account.own world place

/-- Every live connection has its place, and the accounts are true. -/
structure Custody {ι : Type} (context : Context) (world : World ι) (accounts : ι → Account)
    (place : Conn → Place ι) : Prop where
  live : ∀ conn, (∃ life, world.conns conn = .live life) ↔ place conn ≠ .nowhere
  pool : ∀ conn, conn ∈ world.idle ↔ place conn = .pool
  nodup : world.idle.Nodup
  room : world.idle.length ≤ poolMax
  ready : ∀ conn ∈ world.idle, world.conns conn = .live ⟨false, false, false⟩
  alone : context.requestScoped = true → world.rctx = none
  shared : ∀ conn, place conn = .context →
    world.rctx = some conn ∧ ∃ err, world.conns conn = .live ⟨false, false, err⟩
  unlocked : world.mutex = none → Cell.unread.True none world place
  trusted : ∀ i, Trusted world place i (accounts i)

/-- The discipline of the connections. -/
def discipline (context : Context) (ι : Type) : Discipline ι (World ι) Account Op Answer where
  Allowed := Allowed context
  Becomes := Becomes context
  Agrees world accounts := ∃ place, Custody context world accounts place

section Sound

variable {ι : Type} {context : Context} {world after : World ι} {accounts : ι → Account}
  {place place' : Conn → Place ι} {i j : ι} {account : Account}

/-- What a thread does not see of a step leaves its account true. -/
theorem Trusted.frame (trusted : Trusted world place j account)
    (mutex : after.mutex = some j ↔ world.mutex = some j)
    (memory : world.mutex = some j → after.idle = world.idle ∧ after.rctx = world.rctx ∧
      ∀ conn, world.rctx = some conn → (place conn = .context → place' conn = .context) ∧
        (world.conns conn = .freed → after.conns conn = .freed))
    (hands : ∀ conn, place' conn = .hands j ↔ place conn = .hands j)
    (conns : ∀ conn, place conn = .hands j → after.conns conn = world.conns conn) :
    Trusted after place' j account where
  mutex := trusted.mutex.trans mutex.symm
  number n read := by
    obtain ⟨locked, length⟩ := trusted.number n read
    exact ⟨locked, (memory (trusted.mutex.mp locked)).1 ▸ length⟩
  own held owned := by
    obtain ⟨here, err, life, known⟩ := trusted.own held owned
    exact ⟨(hands _).mpr here, err, (conns _ here).trans life, known⟩
  hands conn here := trusted.hands conn ((hands conn).mp here)
  resting := trusted.resting
  cell locked := by
    obtain ⟨-, same, kept⟩ := memory (trusted.mutex.mp locked)
    have cell := trusted.cell locked
    unfold Cell.True at cell ⊢
    rw [same]
    split at cell
    · exact fun conn stored => (kept conn stored).1 (cell conn stored)
    · exact cell
    · exact cell
    · obtain ⟨conn, stored, freed⟩ := cell
      exact ⟨conn, stored, (kept conn stored).2 freed⟩

/-- A connection that moves is not seen by those who look at other places. -/
theorem moved_iff {conn : Conn} {old new seen : Place ι} (here : place conn = old)
    (before : old ≠ seen) (now : new ≠ seen) (other : Conn) :
    Function.update place conn new other = seen ↔ place other = seen := by
  by_cases same : other = conn
  · subst same
    rw [Function.update_self, here]
    exact ⟨fun equal => absurd equal now, fun equal => absurd equal before⟩
  · rw [Function.update_of_ne same]

/-- A place other than the one in hand. -/
theorem Custody.own_unique (custody : Custody context world accounts place) {held : Held}
    (owned : (accounts i).own = some held) {conn : Conn} (here : place conn = .hands i) :
    conn = held.conn := by
  obtain ⟨other, same, rfl⟩ := (custody.trusted i).hands conn here
  rw [owned] at same
  cases same
  rfl

/-- Who does not hold the mutex while another thread does. -/
theorem Custody.locked_other (custody : Custody context world accounts place)
    (locked : (accounts i).mutex = true) (other : j ≠ i) : world.mutex ≠ some j := by
  rw [(custody.trusted i).mutex.mp locked]
  exact fun same => other (Option.some.inj same).symm

/-- A connection that is not open has no place. -/
theorem Custody.nowhere (custody : Custody context world accounts place) {conn : Conn}
    (fresh : world.conns conn = .fresh) : place conn = .nowhere := by
  by_contra somewhere
  obtain ⟨life, live⟩ := (custody.live conn).mpr somewhere
  exact absurd (fresh.symm.trans live) (by simp)

variable [DecidableEq ι]

/-- One account changes, and the others are still true. -/
theorem trusted_update (own : Trusted after place' i account)
    (others : ∀ j, j ≠ i → Trusted after place' j (accounts j)) (j : ι) :
    Trusted after place' j (Function.update accounts i account j) := by
  by_cases same : j = i
  · subst same
    rw [Function.update_self]
    exact own
  · rw [Function.update_of_ne same]
    exact others j same

theorem Custody.lock (custody : Custody context world accounts place)
    (allowed : Allowed context (accounts i) .lock) (unlocked : world.mutex = none) :
    Custody context { world with mutex := some i }
      (Function.update accounts i { accounts i with mutex := true, number := none }) place := by
  have own := custody.trusted i
  refine { custody with unlocked := by simp, trusted := trusted_update ?_ ?_ }
  · refine ⟨by simp, by simp, own.own, own.hands, by simp, ?_⟩
    intro
    dsimp only
    rw [allowed.2]
    exact custody.unlocked unlocked
  · intro j other
    refine (custody.trusted j).frame ?_ ?_ (fun _ => .rfl) fun _ _ => rfl
    · rw [unlocked]
      simp [Ne.symm other]
    · simp [unlocked]

/-- A mutex that could not be locked, or was not held before, is not in the account. -/
theorem Custody.lockFails (custody : Custody context world accounts place)
    (allowed : Allowed context (accounts i) .lock) :
    Custody context world
      (Function.update accounts i { accounts i with mutex := false, number := none }) place := by
  have own := custody.trusted i
  refine { custody with trusted := trusted_update ?_ fun j _ => custody.trusted j }
  refine ⟨?_, by simp, own.own, own.hands, fun _ => allowed.2, by simp⟩
  rw [← own.mutex, allowed.1]

/-- With the mutex, a connection goes back to the context. -/
theorem Custody.unlock (custody : Custody context world accounts place)
    (allowed : Allowed context (accounts i) .unlock) :
    ∃ place', Custody context { world with mutex := none }
      (Function.update accounts i { accounts i with
        mutex := false
        number := none
        own := if (accounts i).cell = .lent then none else (accounts i).own
        cell := .unread }) place' := by
  obtain ⟨locked, sound, ready⟩ := allowed
  have own := custody.trusted i
  have cell := own.cell locked
  have others (j : ι) (other : j ≠ i) : world.mutex ≠ some j := custody.locked_other locked other
  by_cases lent : (accounts i).cell = .lent
  · rw [lent] at cell
    obtain ⟨conn, err, owned⟩ := ready lent
    obtain ⟨_, same, stored⟩ := cell
    rw [owned] at same
    cases same
    obtain ⟨here, life, live, -⟩ := own.own _ owned
    have moved {seen : Place ι} := @moved_iff ι place conn (.hands i) .context seen here
    refine ⟨Function.update place conn .context, ?_⟩
    refine
      { live := fun other => ?_, pool := fun other => ?_, nodup := custody.nodup,
        room := custody.room, ready := custody.ready, alone := custody.alone,
        shared := fun other stays => ?_, unlocked := fun _ other stays => ?_,
        trusted := trusted_update ?_ ?_ }
    · rw [custody.live, Ne, Ne, moved (by simp) (by simp)]
    · rw [custody.pool, moved (by simp) (by simp)]
    · by_cases same : other = conn
      · subst same
        exact ⟨stored, life, live⟩
      · rw [Function.update_of_ne same] at stays
        exact custody.shared other stays
    · obtain rfl : conn = other := Option.some.inj (stored.symm.trans stays)
      exact Function.update_self ..
    · rw [if_pos lent]
      refine ⟨by simp, by simp, by simp, fun other stays => ?_, by simp, by simp⟩
      by_cases same : other = conn
      · subst same
        rw [Function.update_self] at stays
        cases stays
      · rw [Function.update_of_ne same] at stays
        exact absurd (custody.own_unique owned stays) same
    · intro j other
      refine (custody.trusted j).frame ?_ (fun locked => absurd locked (others j other))
        (moved (fun same => other (Place.hands.inj same).symm) (by simp)) fun _ _ => rfl
      simp [others j other]
  · rw [if_neg lent]
    refine ⟨place, { custody with unlocked := fun _ => ?_, trusted := trusted_update ?_ ?_ }⟩
    · cases known : (accounts i).cell with
      | unread =>
          rw [known] at cell
          exact cell
      | empty =>
          rw [known] at cell
          exact fun conn stored => absurd (cell.symm.trans stored) (by simp)
      | lent => exact absurd known lent
      | dangling => exact absurd known sound
    · exact ⟨by simp, by simp, own.own, own.hands, by simp, by simp⟩
    · intro j other
      refine (custody.trusted j).frame ?_ (fun locked => absurd locked (others j other))
        (fun _ => .rfl) fun _ _ => rfl
      simp [others j other]

theorem Custody.idleNum (custody : Custody context world accounts place)
    (allowed : Allowed context (accounts i) .idleNum) :
    Custody context world
      (Function.update accounts i { accounts i with number := some world.idle.length }) place := by
  have own := custody.trusted i
  refine { custody with trusted := trusted_update ?_ fun j _ => custody.trusted j }
  refine ⟨own.mutex, fun n read => ⟨allowed, ?_⟩, own.own, own.hands, own.resting, own.cell⟩
  exact Option.some.inj read

/-- A connection comes out of the pool into the hands of a thread. -/
theorem Custody.idlePop (custody : Custody context world accounts place)
    (allowed : Allowed context (accounts i) .idlePop) {conn : Conn} {rest : List Conn}
    (last : world.idle = conn :: rest) :
    ∃ place', Custody context { world with idle := rest }
      (Function.update accounts i { accounts i with
        number := (accounts i).number.map (· - 1)
        own := some (.ready conn (some false)) }) place' := by
  obtain ⟨locked, empty, n, known⟩ := allowed
  have own := custody.trusted i
  have here : place conn = .pool := (custody.pool conn).mp (last ▸ List.mem_cons_self)
  have live := custody.ready conn (last ▸ List.mem_cons_self)
  obtain ⟨absent, nodup⟩ := List.nodup_cons.mp (last ▸ custody.nodup)
  have length : world.idle.length = rest.length + 1 := by rw [last, List.length_cons]
  have moved {seen : Place ι} := @moved_iff ι place conn .pool (.hands i) seen here
  refine ⟨Function.update place conn (.hands i), ?_⟩
  refine
    { live := fun other => ?_, pool := fun other => ?_, nodup, room := ?_,
      ready := fun other member => custody.ready other (last ▸ List.mem_cons_of_mem _ member),
      alone := custody.alone, shared := fun other stays => ?_,
      unlocked := fun free => ?_, trusted := trusted_update ?_ ?_ }
  · rw [custody.live, Ne, Ne, moved (by simp) (by simp)]
  · by_cases same : other = conn
    · subst same
      simp [absent]
    · have old := custody.pool other
      rw [last, List.mem_cons, or_iff_right same] at old
      rw [old, Function.update_of_ne same]
  · have room := custody.room
    dsimp only
    omega
  · exact custody.shared other ((moved (by simp) (by simp) other).mp stays)
  · exact absurd free (by simp [own.mutex.mp locked])
  · refine ⟨own.mutex, fun number read => ⟨locked, ?_⟩, fun held owned => ?_, fun other stays => ?_,
      own.resting, fun _ => ?_⟩
    · have old := (own.number _ known).2
      rw [known] at read
      have same := Option.some.inj read
      dsimp only at same ⊢
      omega
    · cases owned
      exact ⟨Function.update_self .., false, live, fun known same => Option.some.inj same⟩
    · by_cases same : other = conn
      · exact ⟨_, rfl, same.symm⟩
      · rw [Function.update_of_ne same] at stays
        obtain ⟨held, owned, -⟩ := own.hands other stays
        exact absurd (empty.symm.trans owned) (by simp)
    · have cell := own.cell locked
      dsimp only
      cases known : (accounts i).cell with
      | unread =>
          rw [known] at cell
          exact fun other stored => (moved (by simp) (by simp) other).mpr (cell other stored)
      | empty =>
          rw [known] at cell
          exact cell
      | lent =>
          rw [known] at cell
          obtain ⟨held, owned, -⟩ := cell
          exact absurd (empty.symm.trans owned) (by simp)
      | dangling =>
          rw [known] at cell
          exact cell
  · intro j other
    have unheld := custody.locked_other locked other
    exact (custody.trusted j).frame .rfl (fun held => absurd held unheld)
      (moved (by simp) fun same => other (Place.hands.inj same).symm) fun _ _ => rfl

/-- A connection goes from the hands of a thread into the pool. -/
theorem Custody.idlePush (custody : Custody context world accounts place) {conn : Conn}
    (allowed : Allowed context (accounts i) (.idlePush conn)) :
    ∃ place', Custody context { world with idle := conn :: world.idle }
      (Function.update accounts i { accounts i with
        number := (accounts i).number.map (· + 1)
        own := none }) place' := by
  obtain ⟨locked, unread, ⟨n, room, known⟩, owned⟩ := allowed
  have own := custody.trusted i
  obtain ⟨here, err, live, healthy⟩ := own.own _ owned
  obtain rfl := healthy false rfl
  have length := (own.number n known).2
  have here' : place conn = .hands i := here
  have moved {seen : Place ι} := @moved_iff ι place conn (.hands i) .pool seen here
  have absent : conn ∉ world.idle := by
    rw [custody.pool, here']
    simp
  refine ⟨Function.update place conn .pool, ?_⟩
  refine
    { live := fun other => ?_, pool := fun other => ?_,
      nodup := List.nodup_cons.mpr ⟨absent, custody.nodup⟩, room := ?_,
      ready := fun other member => ?_, alone := custody.alone,
      shared := fun other stays =>
        custody.shared other ((moved (by simp) (by simp) other).mp stays),
      unlocked := fun free => ?_, trusted := trusted_update ?_ ?_ }
  · rw [custody.live, Ne, Ne, moved (by simp) (by simp)]
  · rw [List.mem_cons, custody.pool]
    by_cases same : other = conn
    · subst same
      simp
    · rw [Function.update_of_ne same, or_iff_right same]
  · rw [List.length_cons]
    omega
  · rcases List.mem_cons.mp member with rfl | old
    · exact live
    · exact custody.ready other old
  · exact absurd free (by simp [own.mutex.mp locked])
  · refine ⟨own.mutex, fun number read => ⟨locked, ?_⟩, by simp, fun other stays => ?_,
      own.resting, fun _ => ?_⟩
    · rw [known] at read
      have same := Option.some.inj read
      dsimp only at same
      rw [List.length_cons]
      omega
    · by_cases same : other = conn
      · subst same
        rw [Function.update_self] at stays
        cases stays
      · rw [Function.update_of_ne same] at stays
        exact absurd (custody.own_unique owned stays) same
    · have cell := own.cell locked
      dsimp only
      rw [unread] at cell ⊢
      exact fun other stored => (moved (by simp) (by simp) other).mpr (cell other stored)
  · intro j other
    have unheld := custody.locked_other locked other
    exact (custody.trusted j).frame .rfl (fun held => absurd held unheld)
      (moved (fun same => other (Place.hands.inj same).symm) (by simp)) fun _ _ => rfl

/-- The holder of the mutex looks at the connection in the context, and what is there is in its
hands from then on. -/
theorem Custody.look (custody : Custody context world accounts place)
    (allowed : Allowed context (accounts i) .shared) :
    ∃ account, Becomes context (accounts i) .shared world.rctx account ∧
      ∃ place', Custody context world (Function.update accounts i account) place' := by
  have own := custody.trusted i
  have unchanged : Custody context world (Function.update accounts i (accounts i)) place := by
    rw [Function.update_eq_self]
    exact custody
  rcases allowed with ⟨locked, unread⟩ | ⟨perRequest, unlocked⟩
  · have cell := own.cell locked
    simp only [Becomes, locked, if_true]
    cases known : (accounts i).cell with
    | unread =>
        rw [known] at cell
        have empty := unread known
        cases stored : world.rctx with
        | none =>
            refine ⟨_, rfl, place,
              { custody with trusted := trusted_update ?_ fun j _ => custody.trusted j }⟩
            exact ⟨by simp [own.mutex.mp locked], fun n read => ⟨rfl, (own.number n read).2⟩,
              own.own,
              own.hands, fun free => absurd free (by simp), fun _ => stored⟩
        | some conn =>
            have here : place conn = .context := cell conn stored
            obtain ⟨-, err, live⟩ := custody.shared conn here
            have moved {seen : Place ι} := @moved_iff ι place conn .context (.hands i) seen here
            refine ⟨_, rfl, Function.update place conn (.hands i),
              { live := fun other => ?_, pool := fun other => ?_, nodup := custody.nodup,
                room := custody.room, ready := custody.ready, alone := custody.alone,
                shared := fun other stays => ?_, unlocked := fun free => ?_,
                trusted := trusted_update ?_ ?_ }⟩
            · rw [custody.live, Ne, Ne, moved (by simp) (by simp)]
            · rw [custody.pool, moved (by simp) (by simp)]
            · by_cases same : other = conn
              · subst same
                rw [Function.update_self] at stays
                cases stays
              · rw [Function.update_of_ne same] at stays
                exact custody.shared other stays
            · exact absurd free (by simp [own.mutex.mp locked])
            · refine ⟨by simp [own.mutex.mp locked], fun n read => ⟨rfl, (own.number n read).2⟩,
                fun held owned => ?_, fun other stays => ?_, fun free => absurd free (by simp),
                fun _ => ⟨_, rfl, stored⟩⟩
              · cases owned
                exact ⟨Function.update_self .., err, live, by simp [Held.ready]⟩
              · by_cases same : other = conn
                · exact ⟨_, rfl, same.symm⟩
                · rw [Function.update_of_ne same] at stays
                  obtain ⟨held, owned, -⟩ := own.hands other stays
                  exact absurd (empty.symm.trans owned) (by simp)
            · intro j other
              have unheld := custody.locked_other locked other
              exact (custody.trusted j).frame .rfl (fun held => absurd held unheld)
                (moved (by simp) fun same => other (Place.hands.inj same).symm) fun _ _ => rfl
    | empty =>
        rw [known] at cell
        exact ⟨_, ⟨cell, rfl⟩, place, unchanged⟩
    | lent =>
        rw [known] at cell
        exact ⟨_, ⟨cell, rfl⟩, place, unchanged⟩
    | dangling => exact ⟨_, rfl, place, unchanged⟩
  · simp only [Becomes, unlocked, Bool.false_eq_true, if_false]
    exact ⟨_, ⟨custody.alone perRequest, rfl⟩, place, unchanged⟩

/-- The holder of the mutex puts a connection of its own into the context, or clears it. -/
theorem Custody.setShared (custody : Custody context world accounts place) {conn : Option Conn}
    (allowed : Allowed context (accounts i) (.setShared conn)) :
    Custody context { world with rctx := conn } (Function.update accounts i
      { accounts i with cell := if conn.isSome then .lent else .empty }) place := by
  obtain ⟨locked, serialized, owned⟩ := allowed
  have own := custody.trusted i
  have cell := own.cell locked
  have absent (other : Conn) : place other ≠ .context := by
    intro stays
    obtain ⟨stored, err, live⟩ := custody.shared other stays
    have free : (accounts i).cell = .empty ∨ (accounts i).cell = .dangling := by
      cases conn with
      | none => exact owned.2
      | some conn => exact .inl owned.1
    rcases free with known | known
    · rw [known] at cell
      exact absurd (cell.symm.trans stored) (by simp)
    · rw [known] at cell
      obtain ⟨_, same, freed⟩ := cell
      obtain rfl := Option.some.inj (same.symm.trans stored)
      exact absurd (freed.symm.trans live) (by simp)
  refine
    { custody with
      alone := fun perRequest => absurd (serialized.symm.trans perRequest) (by simp),
      shared := fun other stays => absurd stays (absent other),
      unlocked := fun free => absurd free (by simp [own.mutex.mp locked]),
      trusted := trusted_update ?_ ?_ }
  · refine ⟨own.mutex, own.number, own.own, own.hands,
      fun free => absurd (locked.symm.trans free) (by simp), fun _ => ?_⟩
    cases conn with
    | none => exact rfl
    | some conn =>
        obtain ⟨-, held, owned, rfl⟩ := owned
        exact ⟨held, owned, rfl⟩
  · intro j other
    have unheld := custody.locked_other locked other
    exact (custody.trusted j).frame .rfl (fun held => absurd held unheld) (fun _ => .rfl)
      fun _ _ => rfl

/-- A new connection is in the hands of the thread that opened it. -/
theorem Custody.connected (custody : Custody context world accounts place)
    (allowed : Allowed context (accounts i) .connect) {conn : Conn}
    (fresh : world.conns conn = .fresh) (needsAuth needsSelect err : Bool) :
    ∃ place', Custody context (world.relive conn (.live ⟨needsAuth, needsSelect, err⟩))
      (Function.update accounts i
        { accounts i with own := some ⟨conn, needsAuth, needsSelect, none⟩ }) place' := by
  have own := custody.trusted i
  have empty : (accounts i).own = none := allowed
  have here := custody.nowhere fresh
  have moved {seen : Place ι} := @moved_iff ι place conn .nowhere (.hands i) seen here
  have elsewhere {other : Conn} {seen : Place ι} (there : place other = seen)
      (open' : seen ≠ .nowhere) : other ≠ conn := by
    rintro rfl
    exact open' (there.symm.trans here)
  have kept {other : Conn} (different : other ≠ conn) (status : Status) :
      (world.relive conn status).conns other = world.conns other :=
    Function.update_of_ne different ..
  refine ⟨Function.update place conn (.hands i),
    { live := fun other => ?_, pool := fun other => ?_, nodup := custody.nodup,
      room := custody.room, ready := fun other member => ?_, alone := custody.alone,
      shared := fun other stays => ?_, unlocked := fun free other stored => ?_,
      trusted := trusted_update ?_ ?_ }⟩
  · by_cases same : other = conn
    · subst same
      simp [World.relive]
    · rw [kept same, custody.live, Function.update_of_ne same]
  · exact (custody.pool other).trans (moved (by simp) (by simp) other).symm
  · rw [kept (elsewhere ((custody.pool other).mp member) (by simp))]
    exact custody.ready other member
  · have stays := (moved (by simp) (by simp) other).mp stays
    rw [kept (elsewhere stays (by simp))]
    exact custody.shared other stays
  · exact (moved (by simp) (by simp) other).mpr (custody.unlocked free other stored)
  · refine ⟨own.mutex, own.number, fun held owned => ?_, fun other stays => ?_, own.resting,
      fun locked => ?_⟩
    · cases owned
      exact ⟨Function.update_self .., err, Function.update_self .., by simp⟩
    · by_cases same : other = conn
      · exact ⟨_, rfl, same.symm⟩
      · rw [Function.update_of_ne same] at stays
        obtain ⟨held, owned, -⟩ := own.hands other stays
        exact absurd (empty.symm.trans owned) (by simp)
    · have cell := own.cell locked
      dsimp only
      cases known : (accounts i).cell with
      | unread =>
          rw [known] at cell
          exact fun other stored => (moved (by simp) (by simp) other).mpr (cell other stored)
      | empty =>
          rw [known] at cell
          exact cell
      | lent =>
          rw [known] at cell
          obtain ⟨held, owned, -⟩ := cell
          exact absurd (empty.symm.trans owned) (by simp)
      | dangling =>
          rw [known] at cell
          obtain ⟨other, stored, freed⟩ := cell
          refine ⟨other, stored, (kept ?_ _).trans freed⟩
          rintro rfl
          exact absurd (fresh.symm.trans freed) (by simp)
  · intro j other
    refine (custody.trusted j).frame .rfl (fun _ => ⟨rfl, rfl, fun _ _ => ⟨?_, fun freed => ?_⟩⟩)
      (moved (by simp) fun same => other (Place.hands.inj same).symm)
      fun _ there => kept (elsewhere there (by simp)) _
    · exact (moved (by simp) (by simp) _).mpr
    · refine (kept ?_ _).trans freed
      rintro rfl
      exact absurd (fresh.symm.trans freed) (by simp)

/-- What happens to a connection in hand is not seen by the others. -/
theorem Custody.rework (custody : Custody context world accounts place) {held held' : Held}
    {err : Bool} (owned : (accounts i).own = some held) (same : held'.conn = held.conn)
    (known : ∀ flag ∈ held'.err, err = flag) :
    Custody context
      (world.relive held.conn (.live ⟨held'.needsAuth, held'.needsSelect, err⟩))
      (Function.update accounts i { accounts i with own := some held' }) place := by
  have own := custody.trusted i
  obtain ⟨here, life, live, -⟩ := own.own _ owned
  have elsewhere {other : Conn} {seen : Place ι} (there : place other = seen)
      (different : seen ≠ .hands i) : other ≠ held.conn := by
    rintro rfl
    exact different (there.symm.trans here)
  have kept {other : Conn} (different : other ≠ held.conn) (status : Status) :
      (world.relive held.conn status).conns other = world.conns other :=
    Function.update_of_ne different ..
  refine
    { live := fun other => ?_, pool := custody.pool, nodup := custody.nodup,
      room := custody.room, ready := fun other member => ?_, alone := custody.alone,
      shared := fun other stays => ?_, unlocked := custody.unlocked,
      trusted := trusted_update ?_ ?_ }
  · by_cases equal : other = held.conn
    · subst equal
      simp [World.relive, here]
    · rw [kept equal, custody.live]
  · rw [kept (elsewhere ((custody.pool other).mp member) (by simp))]
    exact custody.ready other member
  · rw [kept (elsewhere stays (by simp))]
    exact custody.shared other stays
  · refine ⟨own.mutex, own.number, fun other owned' => ?_, fun other stays => ?_, own.resting,
      fun locked => ?_⟩
    · cases owned'
      refine ⟨same ▸ here, err, ?_, known⟩
      rw [same]
      exact Function.update_self ..
    · exact ⟨held', rfl, same.trans (custody.own_unique owned stays).symm⟩
    · have cell := own.cell locked
      dsimp only
      cases state : (accounts i).cell with
      | unread =>
          rw [state] at cell
          exact cell
      | empty =>
          rw [state] at cell
          exact cell
      | lent =>
          rw [state] at cell
          obtain ⟨_, owned', stored⟩ := cell
          rw [owned] at owned'
          cases owned'
          exact ⟨held', rfl, same ▸ stored⟩
      | dangling =>
          rw [state] at cell
          obtain ⟨other, stored, freed⟩ := cell
          refine ⟨other, stored, (kept ?_ _).trans freed⟩
          rintro rfl
          exact absurd (freed.symm.trans live) (by simp)
  · intro j other
    refine (custody.trusted j).frame .rfl (fun _ => ⟨rfl, rfl, fun _ _ => ⟨id, fun freed => ?_⟩⟩)
      (fun _ => .rfl) fun _ there =>
        kept (elsewhere there fun equal => other (Place.hands.inj equal)) _
    refine (kept ?_ _).trans freed
    rintro rfl
    exact absurd (freed.symm.trans live) (by simp)

/-- A connection in hand is freed. -/
theorem Custody.free (custody : Custody context world accounts place) {held : Held}
    (owned : (accounts i).own = some held) :
    ∃ place', Custody context (world.relive held.conn .freed)
      (Function.update accounts i { accounts i with
        own := none
        cell := if (accounts i).cell = .lent then .dangling else (accounts i).cell }) place' := by
  have own := custody.trusted i
  obtain ⟨here, life, live, -⟩ := own.own _ owned
  have moved {seen : Place ι} := @moved_iff ι place held.conn (.hands i) .nowhere seen here
  have elsewhere {other : Conn} {seen : Place ι} (there : place other = seen)
      (different : seen ≠ .hands i) : other ≠ held.conn := by
    rintro rfl
    exact different (there.symm.trans here)
  have kept {other : Conn} (different : other ≠ held.conn) :
      (world.relive held.conn .freed).conns other = world.conns other :=
    Function.update_of_ne different ..
  have freed {other : Conn} (before : world.conns other = .freed) :
      (world.relive held.conn .freed).conns other = .freed := by
    by_cases same : other = held.conn
    · subst same
      exact Function.update_self ..
    · rw [kept same, before]
  refine ⟨Function.update place held.conn .nowhere,
    { live := fun other => ?_, pool := fun other => ?_, nodup := custody.nodup,
      room := custody.room, ready := fun other member => ?_, alone := custody.alone,
      shared := fun other stays => ?_, unlocked := fun unlocked other stored => ?_,
      trusted := trusted_update ?_ ?_ }⟩
  · by_cases same : other = held.conn
    · subst same
      simp [World.relive]
    · rw [kept same, custody.live, Function.update_of_ne same]
  · exact (custody.pool other).trans (moved (by simp) (by simp) other).symm
  · rw [kept (elsewhere ((custody.pool other).mp member) (by simp))]
    exact custody.ready other member
  · have stays := (moved (by simp) (by simp) other).mp stays
    rw [kept (elsewhere stays (by simp))]
    exact custody.shared other stays
  · exact (moved (by simp) (by simp) other).mpr (custody.unlocked unlocked other stored)
  · refine ⟨own.mutex, own.number, by simp, fun other stays => ?_, fun unlocked => ?_,
      fun locked => ?_⟩
    · by_cases same : other = held.conn
      · subst same
        rw [Function.update_self] at stays
        cases stays
      · rw [Function.update_of_ne same] at stays
        exact absurd (custody.own_unique owned stays) same
    · dsimp only
      rw [own.resting unlocked]
      simp
    · have cell := own.cell locked
      dsimp only
      cases state : (accounts i).cell with
      | unread =>
          rw [state] at cell
          exact fun other stored => (moved (by simp) (by simp) other).mpr (cell other stored)
      | empty =>
          rw [state] at cell
          exact cell
      | lent =>
          rw [state] at cell
          obtain ⟨_, owned', stored⟩ := cell
          rw [owned] at owned'
          cases owned'
          exact ⟨held.conn, stored, Function.update_self ..⟩
      | dangling =>
          rw [state] at cell
          obtain ⟨other, stored, before⟩ := cell
          exact ⟨other, stored, freed before⟩
  · intro j other
    exact (custody.trusted j).frame .rfl
      (fun _ => ⟨rfl, rfl, fun _ _ => ⟨(moved (by simp) (by simp) _).mpr, freed⟩⟩)
      (moved (fun same => other (Place.hands.inj same).symm) (by simp))
      fun _ there => kept (elsewhere there fun equal => other (Place.hands.inj equal))

/-- What a thread does to a connection in its hands, with any new knowledge of it. -/
theorem Custody.worked (custody : Custody context world accounts place) {conn : Conn} {life : Life}
    (has : (accounts i).Has conn) (live : world.conns conn = .live life)
    (learn : Held → Held) (life' : Life) (same : ∀ held, (learn held).conn = held.conn)
    (learnt : ∀ held, held.conn = conn → held.needsAuth = life.needsAuth →
      held.needsSelect = life.needsSelect → (learn held).needsAuth = life'.needsAuth ∧
        (learn held).needsSelect = life'.needsSelect ∧
          ∀ flag ∈ (learn held).err, life'.err = flag) :
    Custody context (world.relive conn (.live life'))
      (Function.update accounts i { accounts i with own := (accounts i).own.map learn }) place := by
  obtain ⟨held, owned, rfl⟩ := has
  obtain ⟨-, err, live', -⟩ := (custody.trusted i).own held owned
  obtain rfl := Status.live.inj (live'.symm.trans live)
  obtain ⟨auth, select, known⟩ := learnt held rfl rfl rfl
  have worked := custody.rework owned (same held) known
  rw [auth, select] at worked
  rw [owned]
  exact worked

/-- Every operation that is allowed leaves all accounts true. -/
theorem sound (context : Context) : (discipline context ι).Sound (Effect context) := by
  intro i op world answer after accounts agrees allowed works
  obtain ⟨place, custody⟩ := agrees
  cases works with
  | lock unlocked => exact ⟨_, rfl, place, custody.lock allowed unlocked⟩
  | lockFails => exact ⟨_, rfl, place, custody.lockFails allowed⟩
  | unlock => exact ⟨_, rfl, custody.unlock allowed⟩
  | idleNum => exact ⟨_, rfl, place, custody.idleNum allowed⟩
  | idlePop last => exact ⟨_, rfl, custody.idlePop allowed last⟩
  | idlePush conn => exact ⟨_, rfl, custody.idlePush allowed⟩
  | shared => exact custody.look allowed
  | setShared conn => exact ⟨_, rfl, place, custody.setShared allowed⟩
  | refused =>
      refine ⟨_, rfl, place, ?_⟩
      rw [Function.update_eq_self]
      exact custody
  | connected err fresh => exact ⟨_, rfl, custody.connected allowed fresh _ _ err⟩
  | @err _ conn life live =>
      refine ⟨_, rfl, place, ?_⟩
      have worked := custody.worked allowed live
        (fun held => { held with err := some life.err }) life
        (fun _ => rfl) fun held _ auth select => ⟨auth, select, by simp⟩
      rw [World.relive, ← live, Function.update_eq_self] at worked
      exact worked
  | enableKeepAlive interval works err live =>
      refine ⟨_, rfl, place, custody.worked allowed live _ _ (fun _ => rfl) ?_⟩
      intro held _ auth select
      exact ⟨auth, select, by simp⟩
  | auth username password reply err live =>
      refine ⟨_, rfl, place, custody.worked allowed live _ _ (fun _ => rfl) ?_⟩
      intro held _ auth select
      exact ⟨by rw [auth], select, by simp⟩
  | select database reply err live =>
      refine ⟨_, rfl, place, custody.worked allowed live _ _ (fun _ => rfl) ?_⟩
      intro held _ auth select
      exact ⟨auth, by rw [select], by simp⟩
  | command command reply err live =>
      obtain ⟨flag, owned⟩ := allowed
      refine ⟨_, rfl, place, custody.worked ⟨_, owned, rfl⟩ live _ _ (fun _ => rfl) ?_⟩
      intro held _ auth select
      exact ⟨auth, select, by simp⟩
  | free live =>
      obtain ⟨held, owned, rfl⟩ := allowed
      exact ⟨_, rfl, custody.free owned⟩
  | sleep =>
      refine ⟨_, rfl, place, ?_⟩
      rw [Function.update_eq_self]
      exact custody

end Sound

end Redis

end ModAuthOpenidc
