import ModAuthOpenidc.Cache.Timeouts
import ModAuthOpenidc.Threads

/-!
# Connections to a Redis server

The Redis backend has two ways to use connections. In the serialized mode all requests of a process
share one connection, and a mutex is held around every command. In the request-scoped mode a request
takes a connection off a pool of idle ones, or opens one, and puts it back when the request ends;
the mutex guards only the pool. The functions of `src/cache/redis.c` are programs here, whose
operations are the calls of the hiredis library, the calls on the mutex, and the accesses to memory
that requests share. What `redisSetTimeout` returns is only logged, and it is left out.
-/

namespace ModAuthOpenidc

namespace Redis

open Threads

/-! ## Operations -/

/-- A connection, as the pointer to a `redisContext`. -/
abbrev Conn := Nat

/-- The settings of `oidc_cache_cfg_redis_t`. -/
structure Context where
  username : Option String := none
  passwd : Option String := none
  /-- `-1` for none. -/
  database : Int := -1
  /-- `0` for none, `-1` for the default interval. -/
  keepalive : Int := -1
  requestScoped : Bool := true

/-- What a server replies. -/
inductive Reply
  | string (text : String)
  | nil
  | error
  /-- Any other type. -/
  | other
  deriving DecidableEq, Repr

/-- A command about cached values. -/
inductive Command
  | get (key : String)
  | store (command : Cache.RedisCommand)
  deriving DecidableEq, Repr

/-- `OIDC_CACHE_REDIS_POOL_MAX`. -/
def poolMax : Nat := 16

/-- What a thread does on its way. -/
inductive Op
  /-- `oidc_cache_mutex_lock` on the mutex of the context. -/
  | lock
  /-- `oidc_cache_mutex_unlock`. -/
  | unlock
  /-- Read `idle_num`. -/
  | idleNum
  /-- `idle[--idle_num]`. -/
  | idlePop
  /-- `idle[idle_num++] = ...`. -/
  | idlePush (conn : Conn)
  /-- Read `rctx` of the context. -/
  | shared
  /-- Write `rctx` of the context. -/
  | setShared (conn : Option Conn)
  /-- `redisConnectWithTimeout`. -/
  | connect
  /-- Read `err` of a connection. -/
  | err (conn : Conn)
  /-- `redisEnableKeepAlive` and `redisEnableKeepAliveWithInterval`. -/
  | enableKeepAlive (conn : Conn) (interval : Int)
  /-- The command `AUTH`. -/
  | auth (conn : Conn) (username : Option String) (password : String)
  /-- The command `SELECT`. -/
  | select (conn : Conn) (database : Int)
  /-- Any other command. -/
  | command (conn : Conn) (command : Command)
  /-- `redisFree`. -/
  | free (conn : Conn)
  /-- `apr_sleep`. -/
  | sleep
  deriving DecidableEq

/-- What an operation returns. -/
abbrev Answer : Op → Type
  | .lock => Bool
  | .idleNum => Nat
  | .idlePop => Conn
  | .shared | .connect => Option Conn
  | .err _ | .enableKeepAlive _ _ => Bool
  | .auth _ _ _ | .select _ _ | .command _ _ => Option Reply
  | .unlock | .idlePush _ | .setShared _ | .free _ | .sleep => Unit

/-- Programs on connections. -/
abbrev Prog := Program Op Answer

/-- Perform one operation. -/
abbrev call (op : Op) : Prog (Answer op) := Program.call op

/-! ## Connecting -/

variable (context : Context)

/-- `oidc_cache_redis_set_keepalive`. -/
def setKeepalive (conn : Conn) : Prog Bool :=
  if context.keepalive = 0 then pure true
  else do
    let works ← call (.enableKeepAlive conn context.keepalive)
    pure works

/-- A reply that is there and no error. -/
def isGood (reply : Option Reply) : Bool := reply ≠ none && reply ≠ some .error

/-- `oidc_cache_redis_set_auth`. -/
def setAuth (conn : Conn) : Prog Bool :=
  match context.passwd with
  | none => pure true
  | some password => do
      let reply ← call (.auth conn context.username password)
      pure (isGood reply)

/-- `oidc_cache_redis_set_database`. -/
def setDatabase (conn : Conn) : Prog Bool :=
  if context.database = -1 then pure true
  else do
    let reply ← call (.select conn context.database)
    pure (isGood reply)

/-- `oidc_cache_redis_connect_with_timeout`. -/
def connectWithTimeout : Prog (Option Conn) := do
  match ← call .connect with
  | none => pure none
  | some conn =>
      if ← call (.err conn) then
        call (.free conn)
        pure none
      else pure (some conn)

/-- `oidc_cache_redis_rctx_connect`: the connection, once it is ready. -/
def rctxConnect : Prog (Option Conn) := do
  match ← connectWithTimeout with
  | none => pure none
  | some conn =>
      let kept ← setKeepalive context conn
      let authenticated ← (if kept then setAuth context conn else pure false)
      let selected ← (if authenticated then setDatabase context conn else pure false)
      if selected then pure (some conn)
      else
        call (.free conn)
        pure none

/-- Take a connection off the pool, if the mutex can be locked and the pool has one. -/
def checkOut : Prog (Option Conn) := do
  if ← call .lock then
    let number ← call .idleNum
    let conn ← (if 0 < number then (do pure (some (← call .idlePop))) else pure none)
    call .unlock
    pure conn
  else pure none

/-- A connection that has not failed, which is freed if it has. -/
def healthy : Option Conn → Prog (Option Conn)
  | none => pure none
  | some conn => do
      if ← call (.err conn) then
        call (.free conn)
        pure none
      else pure (some conn)

/-- `oidc_cache_redis_connect` in the request-scoped mode, for the connection that the request has
checked out. -/
def connectScoped (rctx : Option Conn) : Prog (Option Conn) := do
  match ← healthy rctx with
  | some conn => pure (some conn)
  | none =>
      match ← (do healthy (← checkOut)) with
      | some conn => pure (some conn)
      | none => rctxConnect context

/-- `oidc_cache_redis_connect`: whether there is a connection, and what the request has checked
out. In the serialized mode the connection goes to the context, under the mutex. -/
def connect (rctx : Option Conn) : Prog (Bool × Option Conn) := do
  if context.requestScoped then
    let rctx ← connectScoped context rctx
    pure (rctx.isSome, rctx)
  else
    match ← call .shared with
    | some _ => pure (true, rctx)
    | none =>
        let conn ← rctxConnect context
        call (.setShared conn)
        pure (conn.isSome, rctx)

/-! ## Commands -/

/-- Take all connections off the pool, which has some number of them, and free them. -/
def dropIdle : Nat → Prog Unit
  | 0 => pure ()
  | number + 1 => do
      let conn ← call .idlePop
      call (.free conn)
      dropIdle number

/-- `oidc_cache_redis_idle_flush`. -/
def idleFlush : Prog Unit := do
  if ← call .lock then
    dropIdle (← call .idleNum)
    call .unlock

/-- In the request-scoped mode, a connection on which a command failed is torn down with the pool.
-/
def tearDown (rctx : Option Conn) (conn : Conn) : Prog (Option Conn) := do
  if ← call (.err conn) then
    call (.free conn)
    idleFlush
    pure none
  else pure rctx

/-- `oidc_cache_redis_command`: the reply, and what the request has checked out. -/
def sendCommand (rctx : Option Conn) (command : Command) : Prog (Option Reply × Option Conn) := do
  let conn ← (if context.requestScoped then pure rctx else call .shared)
  match conn with
  | none => pure (none, rctx)
  | some conn =>
      let reply ← call (.command conn command)
      let rctx ← (if context.requestScoped then tearDown rctx conn else pure rctx)
      pure (reply, rctx)

/-- `oidc_cache_redis_disconnect`. -/
def disconnect : Prog Unit := do
  match ← call .shared with
  | none => pure ()
  | some conn =>
      call (.free conn)
      call (.setShared none)

/-- `oidc_cache_redis_backoff`: whether the mutex is held as it was before. -/
def backoff : Prog Bool := do
  if context.requestScoped then
    call .sleep
    pure true
  else
    call .unlock
    call .sleep
    call .lock

/-- What `oidc_cache_redis_exec` leaves behind. -/
structure Outcome where
  reply : Option Reply
  /-- Whether the mutex is still held that the caller holds in the serialized mode. -/
  mutexHeld : Bool
  /-- What the request has checked out. -/
  rctx : Option Conn

/-- The loop of `oidc_cache_redis_exec`, with some number of tries left. -/
def tries (command : Command) : Nat → Option Conn → Prog Outcome
  | 0, rctx => pure ⟨none, true, rctx⟩
  | left + 1, rctx => do
      let (connected, rctx) ← connect context rctx
      if connected then
        let (reply, rctx) ← sendCommand context rctx command
        if isGood reply then pure ⟨reply, true, rctx⟩
        else
          disconnect
          tries command left rctx
      else if left ≠ 0 then
        if ← backoff context then tries command left rctx else pure ⟨none, false, rctx⟩
      else pure ⟨none, true, rctx⟩

/-- `oidc_cache_redis_exec`, with what the environment says about the number of tries. -/
def exec (maxTries : Option String) (rctx : Option Conn) (command : Command) : Prog Outcome :=
  tries context command (strToInt maxTries 2).toNat rctx

/-! ## The operations of the cache -/

/-- What `oidc_cache_redis_get` makes of a reply: `none` if it fails, and no value for a miss. -/
def gotten : Option Reply → Option (Option String)
  | some .nil => some none
  | some (.string text) => if '\x00' ∈ text.toList then none else some (some text)
  | _ => none

/-- `oidc_cache_redis_get` and `oidc_cache_redis_set` around the command they send. -/
def exchange (maxTries : Option String) (rctx : Option Conn) (command : Command) :
    Prog (Option Reply × Option Conn) := do
  let entered ← (if context.requestScoped then pure true else call .lock)
  if entered then
    let outcome ← exec context maxTries rctx command
    (if context.requestScoped = false ∧ outcome.mutexHeld = true then call .unlock else pure ())
    pure (outcome.reply, outcome.rctx)
  else pure (none, rctx)

/-- `oidc_cache_redis_get`. -/
def get (maxTries : Option String) (sectionName key : String) (rctx : Option Conn) :
    Prog (Option (Option String) × Option Conn) := do
  let (reply, rctx) ← exchange context maxTries rctx
    (.get (Cache.Facade.sectionKey sectionName key))
  pure (gotten reply, rctx)

/-- `oidc_cache_redis_set`. -/
def set (maxTries : Option String) (now : Int) (sectionName key : String) (value : Option String)
    (expiry : Int) (rctx : Option Conn) : Prog (Bool × Option Conn) := do
  let (reply, rctx) ← exchange context maxTries rctx
    (.store (Cache.redisSet now sectionName key value expiry))
  pure (isGood reply, rctx)

/-- Put a healthy connection back into the pool, if it has room and the mutex can be locked: the
first half of `oidc_cache_redis_conn_return`. -/
def checkIn (conn : Conn) : Prog Bool := do
  if ← call (.err conn) then pure false
  else if ← call .lock then
    if (← call .idleNum) < poolMax then
      call (.idlePush conn)
      call .unlock
      pure true
    else
      call .unlock
      pure false
  else pure false

/-- `oidc_cache_redis_conn_return`: what a request has checked out goes back to the pool when the
request ends, or is freed. -/
def connReturn : Option Conn → Prog Unit
  | none => pure ()
  | some conn => do
      if ← checkIn conn then pure ()
      else call (.free conn)

/-! ## Requests -/

/-- An operation of the cache that a request asks for. -/
inductive Call
  | get (maxTries : Option String) (sectionName key : String)
  | set (maxTries : Option String) (now : Int) (sectionName key : String) (value : Option String)
      (expiry : Int)

/-- What a request does with the cache: it may depend on earlier results. -/
abbrev Request := Program Call fun
  | .get _ _ _ => Option (Option String)
  | .set _ _ _ _ _ _ => Bool

/-- A request from its start to the cleanup of its pool. -/
def serve : Request Unit → Option Conn → Prog Unit
  | .done _, rctx => connReturn rctx
  | .perform (.get maxTries sectionName key) next, rctx => do
      let (found, rctx) ← get context maxTries sectionName key rctx
      serve (next found) rctx
  | .perform (.set maxTries now sectionName key value expiry) next, rctx => do
      let (stored, rctx) ← set context maxTries now sectionName key value expiry rctx
      serve (next stored) rctx

/-! ## What is sent -/

/-- The command that is sent, with its reply. -/
def sentCommand : Sigma Answer → Option (Command × Option Reply)
  | ⟨.command _ command, reply⟩ => some (command, reply)
  | _ => none

/-- The commands of a run, with the replies. -/
def sent (events : List (Sigma Answer)) : List (Command × Option Reply) :=
  events.filterMap sentCommand

/-- A program that sends no command. -/
def Silent {α : Type} (program : Prog α) : Prop := program.Quiet sentCommand

section Silent

variable {α β : Type}

theorem Silent.sent_eq {program : Prog α} (silent : Silent program) {events : List (Sigma Answer)}
    {result : α} (run : program.Run events result) : sent events = [] := silent events result run

theorem silent_pure (value : α) : Silent (pure value : Prog α) := .pure value

theorem silent_call {op : Op} (other : ∀ conn command, op ≠ .command conn command) :
    Silent (call op) := by
  apply Program.Quiet.call
  intro answer
  cases op with
  | command conn command => exact absurd rfl (other conn command)
  | _ => rfl

theorem silent_bind {program : Prog α} {rest : α → Prog β} (first : Silent program)
    (second : ∀ value, Silent (rest value)) : Silent (program >>= rest) := first.bind second

theorem silent_ite {condition : Prop} [Decidable condition] {program other : Prog α}
    (first : Silent program) (second : Silent other) :
    Silent (if condition then program else other) := first.ite second

end Silent

theorem silent_healthy (rctx : Option Conn) : Silent (healthy rctx) := by
  cases rctx with
  | none => exact silent_pure none
  | some conn =>
      refine silent_bind (silent_call (by simp)) fun err => silent_ite ?_ (silent_pure _)
      exact silent_bind (silent_call (by simp)) fun _ => silent_pure _

theorem silent_rctxConnect : Silent (rctxConnect context) := by
  refine silent_bind (silent_bind (silent_call (by simp)) fun conn => ?_) fun conn => ?_
  · cases conn with
    | none => exact silent_pure none
    | some conn =>
        refine silent_bind (silent_call (by simp)) fun err => silent_ite ?_ (silent_pure _)
        exact silent_bind (silent_call (by simp)) fun _ => silent_pure _
  · cases conn with
    | none => exact silent_pure none
    | some conn =>
        refine silent_bind ?_ fun kept => silent_bind ?_ fun authenticated =>
          silent_bind ?_ fun selected => ?_
        · unfold setKeepalive
          apply silent_ite (silent_pure _)
          exact silent_bind (silent_call (by simp)) fun _ => silent_pure _
        · apply silent_ite ?_ (silent_pure _)
          unfold setAuth
          split
          · exact silent_pure _
          · exact silent_bind (silent_call (by simp)) fun _ => silent_pure _
        · apply silent_ite ?_ (silent_pure _)
          unfold setDatabase
          apply silent_ite (silent_pure _)
          exact silent_bind (silent_call (by simp)) fun _ => silent_pure _
        · apply silent_ite (silent_pure _)
          exact silent_bind (silent_call (by simp)) fun _ => silent_pure _

theorem silent_checkOut : Silent checkOut := by
  refine silent_bind (silent_call (by simp)) fun locked => silent_ite ?_ (silent_pure _)
  refine silent_bind (silent_call (by simp)) fun number => silent_bind ?_ fun conn => ?_
  · apply silent_ite ?_ (silent_pure _)
    exact silent_bind (silent_call (by simp)) fun _ => silent_pure _
  · exact silent_bind (silent_call (by simp)) fun _ => silent_pure _

theorem silent_connect (rctx : Option Conn) : Silent (connect context rctx) := by
  apply silent_ite
  · refine silent_bind (silent_bind (silent_healthy rctx) fun conn => ?_) fun _ => silent_pure _
    cases conn with
    | some conn => exact silent_pure _
    | none =>
        refine silent_bind (silent_bind silent_checkOut silent_healthy) fun conn => ?_
        cases conn with
        | some conn => exact silent_pure _
        | none => exact silent_rctxConnect context
  · refine silent_bind (silent_call (by simp)) fun conn => ?_
    cases conn with
    | some conn => exact silent_pure _
    | none =>
        refine silent_bind (silent_rctxConnect context) fun conn => ?_
        exact silent_bind (silent_call (by simp)) fun _ => silent_pure _

theorem silent_dropIdle (number : Nat) : Silent (dropIdle number) := by
  induction number with
  | zero => exact silent_pure ()
  | succ number ih =>
      refine silent_bind (silent_call (by simp)) fun conn => ?_
      exact silent_bind (silent_call (by simp)) fun _ => ih

theorem silent_idleFlush : Silent idleFlush := by
  refine silent_bind (silent_call (by simp)) fun locked => silent_ite ?_ (silent_pure _)
  refine silent_bind (silent_call (by simp)) fun number => ?_
  exact silent_bind (silent_dropIdle number) fun _ => silent_call (by simp)

theorem silent_disconnect : Silent disconnect := by
  refine silent_bind (silent_call (by simp)) fun conn => ?_
  cases conn with
  | none => exact silent_pure _
  | some conn => exact silent_bind (silent_call (by simp)) fun _ => silent_call (by simp)

theorem silent_backoff : Silent (backoff context) := by
  apply silent_ite
  · exact silent_bind (silent_call (by simp)) fun _ => silent_pure _
  · refine silent_bind (silent_call (by simp)) fun _ => ?_
    exact silent_bind (silent_call (by simp)) fun _ => silent_call (by simp)

theorem sent_append (first second : List (Sigma Answer)) :
    sent (first ++ second) = sent first ++ sent second := List.filterMap_append ..

theorem silent_tearDown (rctx : Option Conn) (conn : Conn) : Silent (tearDown rctx conn) := by
  refine silent_bind (silent_call (by simp)) fun err => silent_ite ?_ (silent_pure _)
  refine silent_bind (silent_call (by simp)) fun _ => ?_
  exact silent_bind silent_idleFlush fun _ => silent_pure _

/-- Either the command is sent and its reply is returned, or there is no connection. -/
theorem sendCommand_sent {rctx : Option Conn} {command : Command} {events : List (Sigma Answer)}
    {result : Option Reply × Option Conn}
    (run : (sendCommand context rctx command).Run events result) :
    sent events = [(command, result.1)] ∨ sent events = [] ∧ result.1 = none := by
  obtain ⟨before, conn, after, rfl, choosing, sending⟩ := Program.run_bind.mp run
  have silent : sent before = [] := by
    exact (silent_ite (silent_pure rctx) (@silent_call .shared (by simp))).sent_eq choosing
  rw [sent_append, silent, List.nil_append]
  cases conn with
  | none =>
      obtain ⟨rfl, rfl⟩ := Program.run_pure sending
      exact .inr ⟨rfl, rfl⟩
  | some conn =>
      obtain ⟨_, reply, later, rfl, call, closing⟩ := Program.run_bind.mp sending
      obtain rfl := Program.run_call call
      obtain ⟨teardown, rctx', last, rfl, tearing, ending⟩ := Program.run_bind.mp closing
      obtain ⟨rfl, rfl⟩ := Program.run_pure ending
      have quiet : sent teardown = [] :=
        (silent_ite (silent_tearDown rctx conn) (silent_pure _)).sent_eq tearing
      rw [sent_append, sent_append, quiet]
      exact .inl rfl

/-- A command was sent some number of times at most: again only after a reply that was not good, and
the outcome has the reply that was good. -/
def Tried (command : Command) (most : Nat) (events : List (Sigma Answer)) (outcome : Outcome) :
    Prop :=
  ∃ failed : List (Option Reply), (∀ reply ∈ failed, isGood reply = false) ∧
    sent events = failed.map (command, ·) ++
      (outcome.reply.map fun reply => (command, some reply)).toList ∧
    (∀ reply ∈ outcome.reply, isGood (some reply) = true) ∧
    failed.length + outcome.reply.toList.length ≤ most

/-- The tries of a command, by induction on their number. -/
theorem tries_sent (command : Command) (left : Nat) {rctx : Option Conn}
    {events : List (Sigma Answer)} {outcome : Outcome}
    (run : (tries context command left rctx).Run events outcome) :
    Tried command left events outcome := by
  have giveUp {most : Nat} {held : Bool} {rctx : Option Conn} {events : List (Sigma Answer)}
      (ending : (pure ⟨none, held, rctx⟩ : Prog Outcome).Run events outcome) :
      Tried command most events outcome := by
    obtain ⟨rfl, rfl⟩ := Program.run_pure ending
    exact ⟨[], by simp, rfl, by simp, Nat.zero_le _⟩
  induction left generalizing rctx events with
  | zero => exact giveUp run
  | succ left ih =>
      obtain ⟨connecting, ⟨connected, rctx⟩, after, rfl, first, second⟩ := Program.run_bind.mp run
      rw [Tried, sent_append, (silent_connect context _).sent_eq first, List.nil_append]
      dsimp only at second
      split at second
      · obtain ⟨sending, ⟨reply, rctx⟩, later, rfl, third, fourth⟩ := Program.run_bind.mp second
        have one := sendCommand_sent context third
        dsimp only at fourth one
        rw [sent_append]
        split at fourth
        · next good =>
            obtain ⟨rfl, rfl⟩ := Program.run_pure fourth
            rcases one with one | ⟨-, rfl⟩
            · rw [one]
              cases reply with
              | none => cases good
              | some reply =>
                  refine ⟨[], by simp, rfl, ?_, by simp⟩
                  intro found same
                  rwa [← Option.some.inj same]
            · cases good
        · next bad =>
            have bad : isGood reply = false := Bool.eq_false_iff.mpr bad
            obtain ⟨closing, _, again, rfl, fifth, sixth⟩ := Program.run_bind.mp fourth
            obtain ⟨failed, allBad, sends, good, bound⟩ := ih sixth
            rw [sent_append, silent_disconnect.sent_eq fifth, List.nil_append, sends]
            rcases one with one | ⟨one, -⟩
            · refine ⟨reply :: failed, ?_, by rw [one]; rfl, good, ?_⟩
              · exact List.forall_mem_cons.mpr ⟨bad, allBad⟩
              · rw [List.length_cons]
                omega
            · exact ⟨failed, allBad, by rw [one]; rfl, good, by omega⟩
      · split at second
        · obtain ⟨waiting, held, again, rfl, third, fourth⟩ := Program.run_bind.mp second
          rw [sent_append, (silent_backoff context).sent_eq third, List.nil_append]
          cases held with
          | false => exact giveUp fourth
          | true =>
              obtain ⟨failed, allBad, sends, good, bound⟩ := ih fourth
              exact ⟨failed, allBad, sends, good, by omega⟩
        · exact giveUp second

/-- A command is sent as often as the environment allows, and not more than once after a good reply.
-/
theorem exec_sent (maxTries : Option String) (command : Command) {rctx : Option Conn}
    {events : List (Sigma Answer)} {outcome : Outcome}
    (run : (exec context maxTries rctx command).Run events outcome) :
    Tried command (strToInt maxTries 2).toNat events outcome :=
  tries_sent context command _ run

theorem exec_sent_again : ∃ events outcome,
    (exec {} none none (.get "k")).Run events outcome ∧
    sent events = [(.get "k", none), (.get "k", some .nil)] ∧
    Tried (.get "k") (strToInt none 2).toNat events outcome := by
  have run : ∃ events outcome, (exec {} none none (.get "k")).Run events outcome ∧
      sent events = [(.get "k", none), (.get "k", some .nil)] := by
    have step (op : Op) (answer : Answer op) {next : Answer op → Prog Outcome}
        {events : List (Sigma Answer)} {outcome : Outcome}
        (run : (next answer).Run events outcome) :
        (Program.perform op next).Run (⟨op, answer⟩ :: events) outcome := .perform answer run
    exact ⟨_, _, step .lock true <| step .idleNum 0 <| step .unlock () <| step .connect (some 0) <|
      step (.err 0) false <| step (.enableKeepAlive 0 (-1)) true <| step (.command 0 _) none <|
      step (.err 0) true <| step (.free 0) () <| step .lock true <| step .idleNum 0 <|
      step .unlock () <| step .shared none <| step .lock true <| step .idleNum 0 <|
      step .unlock () <| step .connect (some 1) <| step (.err 1) false <|
      step (.enableKeepAlive 1 (-1)) true <| step (.command 1 _) (some .nil) <|
      step (.err 1) false <| .done _, rfl⟩
  obtain ⟨events, outcome, run, twice⟩ := run
  exact ⟨events, outcome, run, twice, exec_sent {} none (.get "k") run⟩

end Redis

end ModAuthOpenidc
