import ModAuthOpenidc.Cache.RedisCustody

/-!
# Safety of Redis connections

Requests of one process run at the same time, in any order of their operations, in either mode and
whatever the server, the network and the mutex do. They work with live connections only, they send
commands only on connections that are authenticated and have their database selected, no two of them
work with the same connection, the pool stays within its bounds, and in the end no connection is
lost.
-/

namespace ModAuthOpenidc

namespace Redis

open Threads

variable {ι : Type} {context : Context} {account : Account}

/-! ## Accounts on the way -/

/-- A thread that does not hold the mutex has what its request has checked out. -/
def Rests (rctx : Option Conn) (account : Account) : Prop :=
  ∃ err, account = { own := rctx.map fun conn => .ready conn err }

/-- In the serialized mode, a thread that holds the mutex has the connection of the context, or has
not looked at it. -/
inductive Serving : Account → Prop
  | unread (number : Option Nat) : Serving ⟨true, number, none, .unread⟩
  | empty (number : Option Nat) : Serving ⟨true, number, none, .empty⟩
  | lent (number : Option Nat) (conn : Conn) (err : Option Bool) :
      Serving ⟨true, number, some (.ready conn err), .lent⟩

/-- What a thread has while it executes a command. -/
def Works (context : Context) (rctx : Option Conn) (account : Account) : Prop :=
  if context.requestScoped then Rests rctx account else rctx = none ∧ Serving account

/-! ## Connecting -/

/-- Options are set on a connection in hand, which stays in hand. -/
theorem keeps_setKeepalive {held : Held} (owned : account.own = some held) :
    (discipline context ι).Keeps
      (fun account' _ => ∃ err, account' = { account with own := some { held with err } })
      account (setKeepalive context held.conn) := by
  unfold setKeepalive
  split
  · exact .pure ⟨held.err, by rw [← owned]⟩
  · refine .call ⟨held, owned, rfl⟩ ?_
    rintro works _ rfl
    exact .pure ⟨none, by rw [owned, Option.map_some]⟩

/-- A connection that was authenticated does not wait for it any more. -/
theorem keeps_setAuth {held : Held} (owned : account.own = some held)
    (needs : held.needsAuth = context.passwd.isSome) :
    (discipline context ι).Keeps
      (fun account' authenticated => ∃ needsAuth err,
        account' = { account with own := some { held with needsAuth, err } } ∧
          (authenticated = true → needsAuth = false))
      account (setAuth context held.conn) := by
  unfold setAuth
  split
  · next none =>
      apply Discipline.Keeps.pure
      rw [none] at needs
      exact ⟨held.needsAuth, held.err, by rw [← owned], fun _ => needs⟩
  · refine .call ⟨held, owned, rfl⟩ ?_
    rintro reply _ rfl
    apply Discipline.Keeps.pure
    refine ⟨_, none, by rw [owned, Option.map_some], fun good => ?_⟩
    rw [good, Bool.not_true, Bool.and_false]

/-- A connection whose database was selected does not wait for it any more. -/
theorem keeps_setDatabase {held : Held} (owned : account.own = some held)
    (needs : held.needsSelect = decide (context.database ≠ -1)) :
    (discipline context ι).Keeps
      (fun account' selected => ∃ needsSelect err,
        account' = { account with own := some { held with needsSelect, err } } ∧
          (selected = true → needsSelect = false))
      account (setDatabase context held.conn) := by
  unfold setDatabase
  split
  · next none =>
      apply Discipline.Keeps.pure
      refine ⟨held.needsSelect, held.err, by rw [← owned], fun _ => ?_⟩
      rw [needs, none]
      rfl
  · refine .call ⟨held, owned, rfl⟩ ?_
    rintro reply _ rfl
    apply Discipline.Keeps.pure
    refine ⟨_, none, by rw [owned, Option.map_some], fun good => ?_⟩
    rw [good, Bool.not_true, Bool.and_false]

/-- What is in the hands of a thread can be freed. -/
theorem keeps_free {α : Type} {ends : Account → α → Prop} {held : Held} {rest : Unit → Prog α}
    (owned : account.own = some held) (kept : account.cell ≠ .lent)
    (later : (discipline context ι).Keeps ends { account with own := none } (rest ())) :
    (discipline context ι).Keeps ends account (call (.free held.conn) >>= rest) := by
  refine .call ⟨held, owned, rfl⟩ ?_
  rintro _ _ rfl
  rw [if_neg kept]
  exact later

/-- Whoever reads the error flag knows it. -/
theorem keeps_err {α : Type} {ends : Account → α → Prop} {held : Held} {rest : Bool → Prog α}
    (owned : account.own = some held)
    (later : ∀ err, (discipline context ι).Keeps ends
      { account with own := some { held with err := some err } } (rest err)) :
    (discipline context ι).Keeps ends account (call (.err held.conn) >>= rest) := by
  refine .call ⟨held, owned, rfl⟩ ?_
  rintro err _ rfl
  rw [owned]
  exact later err

/-- A new connection without an error, or none. -/
theorem keeps_connectWithTimeout (empty : account.own = none) (kept : account.cell ≠ .lent) :
    (discipline context ι).Keeps
      (fun account' conn => ∃ err, account' = { account with own := conn.map fun conn =>
        ⟨conn, context.passwd.isSome, context.database ≠ -1, err⟩ })
      account connectWithTimeout := by
  unfold connectWithTimeout
  refine .call empty ?_
  intro conn account' becomes
  cases conn with
  | none =>
      obtain rfl : account' = account := becomes
      exact .pure ⟨none, by rw [Option.map_none, ← empty]⟩
  | some conn =>
      obtain rfl := becomes
      refine @keeps_err ι _ _ _ _ ⟨conn, _, _, _⟩ _ rfl fun err => ?_
      cases err with
      | false => exact .pure ⟨some false, rfl⟩
      | true => exact @keeps_free ι _ _ _ _ ⟨conn, _, _, _⟩ _ rfl kept (.pure ⟨none, rfl⟩)

/-- A new connection is ready for commands. -/
theorem keeps_rctxConnect (empty : account.own = none) (kept : account.cell ≠ .lent) :
    (discipline context ι).Keeps
      (fun account' conn => ∃ err,
        account' = { account with own := conn.map fun conn => .ready conn err })
      account (rctxConnect context) := by
  unfold rctxConnect
  apply Discipline.Keeps.bind (keeps_connectWithTimeout empty kept)
  rintro _ conn ⟨err, rfl⟩
  cases conn with
  | none => exact .pure ⟨none, rfl⟩
  | some conn =>
      apply Discipline.Keeps.bind (@keeps_setKeepalive ι _ _ ⟨conn, _, _, _⟩ rfl)
      rintro _ kept' ⟨err, rfl⟩
      refine .bind (m := fun account' authenticated => ∃ needsAuth err,
        account' = { account with
          own := some ⟨conn, needsAuth, context.database ≠ -1, err⟩ } ∧
            (authenticated = true → needsAuth = false)) ?_ ?_
      · cases kept' with
        | false => exact .pure ⟨_, _, rfl, by simp⟩
        | true =>
            apply (@keeps_setAuth ι _ _ ⟨conn, _, _, _⟩ rfl rfl).mono
            exact fun _ _ ends => ends
      rintro _ authenticated ⟨needsAuth, err, rfl, free⟩
      refine .bind (m := fun account' selected => ∃ needsAuth needsSelect err,
        account' = { account with own := some ⟨conn, needsAuth, needsSelect, err⟩ } ∧
          (selected = true → needsAuth = false ∧ needsSelect = false)) ?_ ?_
      · cases authenticated with
        | false => exact .pure ⟨_, _, _, rfl, by simp⟩
        | true =>
            apply (@keeps_setDatabase ι _ _ ⟨conn, _, _, _⟩ rfl rfl).mono
            rintro _ selected ⟨needsSelect, err, rfl, free'⟩
            exact ⟨_, _, _, rfl, fun done => ⟨free rfl, free' done⟩⟩
      rintro _ selected ⟨needsAuth, needsSelect, err, rfl, free⟩
      cases selected with
      | false => exact @keeps_free ι _ _ _ _ ⟨conn, _, _, _⟩ _ rfl kept (.pure ⟨none, rfl⟩)
      | true =>
          obtain ⟨rfl, rfl⟩ := free rfl
          exact .pure ⟨err, rfl⟩

/-! ## The request-scoped mode -/

/-- A connection that has failed is not in hand any more. -/
theorem keeps_healthy {rctx : Option Conn} (rests : Rests rctx account) :
    (discipline context ι).Keeps (fun account' conn => Rests conn account') account
      (healthy rctx) := by
  obtain ⟨err, rfl⟩ := rests
  cases rctx with
  | none => exact .pure ⟨err, rfl⟩
  | some conn =>
      refine @keeps_err ι _ _ _ _ (.ready conn err) _ rfl fun err => ?_
      cases err with
      | false => exact .pure ⟨some false, rfl⟩
      | true => exact @keeps_free ι _ _ _ _ (.ready conn _) _ rfl (by simp) (.pure ⟨none, rfl⟩)

/-- The mutex is locked, or it is not. -/
theorem keeps_lock {α : Type} {ends : Account → α → Prop} {rest : Bool → Prog α}
    {own : Option Held}
    (later : ∀ locked, (discipline context ι).Keeps ends { mutex := locked, own } (rest locked)) :
    (discipline context ι).Keeps ends { own } (call .lock >>= rest) := by
  refine .call ⟨rfl, rfl⟩ ?_
  rintro locked _ rfl
  exact later locked

/-- After the mutex is unlocked, what is in hand stays there unless it is that of the context. -/
theorem keeps_unlock {α : Type} {ends : Account → α → Prop} {rest : Unit → Prog α}
    (locked : account.mutex = true) (unread : account.cell = .unread)
    (later : (discipline context ι).Keeps ends { own := account.own } (rest ())) :
    (discipline context ι).Keeps ends account (call .unlock >>= rest) := by
  refine .call ⟨locked, by simp [unread], by simp [unread]⟩ ?_
  rintro _ _ rfl
  rw [unread, if_neg (by simp)]
  exact later

/-- The connection at the top of the pool comes into the hands of the holder of the mutex. -/
theorem keeps_idlePop {α : Type} {ends : Account → α → Prop} {rest : Conn → Prog α} {n : Nat}
    (later : ∀ conn, (discipline context ι).Keeps ends
      { mutex := true, number := some n, own := some (.ready conn (some false)) } (rest conn)) :
    (discipline context ι).Keeps ends { mutex := true, number := some (n + 1) }
      (call .idlePop >>= rest) := by
  refine .call ⟨rfl, rfl, n, rfl⟩ ?_
  rintro conn _ rfl
  exact later conn

/-- A connection comes out of the pool. -/
theorem keeps_checkOut :
    (discipline context ι).Keeps (fun account' conn => Rests conn account') {} checkOut := by
  apply keeps_lock
  intro locked
  cases locked with
  | false => exact .pure ⟨none, rfl⟩
  | true =>
      refine .call rfl ?_
      rintro number _ rfl
      refine .bind (m := fun account' conn => ∃ number err,
        account' = { mutex := true, number, own := conn.map fun conn => .ready conn err }) ?_ ?_
      · cases number with
        | zero => exact .pure ⟨some 0, none, rfl⟩
        | succ n => exact keeps_idlePop fun conn => .pure ⟨some n, some false, rfl⟩
      rintro _ conn ⟨number, err, rfl⟩
      exact keeps_unlock rfl rfl (.pure ⟨err, rfl⟩)

theorem keeps_connectScoped {rctx : Option Conn} (rests : Rests rctx account) :
    (discipline context ι).Keeps (fun account' conn => Rests conn account') account
      (connectScoped context rctx) := by
  apply Discipline.Keeps.bind (keeps_healthy rests)
  rintro account conn rests
  cases conn with
  | some conn => exact .pure rests
  | none =>
      obtain ⟨err, rfl⟩ := rests
      apply Discipline.Keeps.bind
      · exact .bind keeps_checkOut fun account' conn rests => keeps_healthy rests
      rintro account conn rests
      cases conn with
      | some conn => exact .pure rests
      | none =>
          obtain ⟨err, rfl⟩ := rests
          exact (keeps_rctxConnect rfl (by simp)).mono fun _ _ rests => rests

/-- The pool is emptied, by induction on the number of its connections. -/
theorem keeps_dropIdle (number : Nat) :
    (discipline context ι).Keeps (fun account' _ => account' = { mutex := true, number := some 0 })
      { mutex := true, number := some number } (dropIdle number) := by
  induction number with
  | zero => exact .pure rfl
  | succ n ih =>
      apply keeps_idlePop
      intro conn
      exact @keeps_free ι _ _ _ _ (.ready conn _) _ rfl (by simp) ih

theorem keeps_idleFlush :
    (discipline context ι).Keeps (fun account' _ => account' = {}) {} idleFlush := by
  apply keeps_lock
  intro locked
  cases locked with
  | false => exact .pure rfl
  | true =>
      refine .call rfl ?_
      rintro number _ rfl
      apply Discipline.Keeps.bind (keeps_dropIdle number)
      rintro _ _ rfl
      exact keeps_unlock rfl rfl (.pure rfl)

/-- A command on a connection in hand that is ready. -/
theorem keeps_command {α : Type} {ends : Account → α → Prop} {rest : Option Reply → Prog α}
    {conn : Conn} {err : Option Bool} {command : Command}
    (owned : account.own = some (.ready conn err))
    (later : ∀ reply, (discipline context ι).Keeps ends
      { account with own := some (.ready conn none) } (rest reply)) :
    (discipline context ι).Keeps ends account (call (.command conn command) >>= rest) := by
  refine .call ⟨err, owned⟩ ?_
  rintro reply _ rfl
  rw [owned]
  exact later reply

theorem keeps_tearDown (conn : Conn) (err : Option Bool) :
    (discipline context ι).Keeps (fun account' rctx => Rests rctx account')
      { own := some (.ready conn err) } (tearDown (some conn) conn) := by
  refine @keeps_err ι _ _ _ _ (.ready conn err) _ rfl fun err => ?_
  cases err with
  | false => exact .pure ⟨some false, rfl⟩
  | true =>
      apply @keeps_free ι _ _ _ _ (.ready conn _) _ rfl (by simp)
      apply Discipline.Keeps.bind keeps_idleFlush
      rintro _ _ rfl
      exact .pure ⟨none, rfl⟩

theorem keeps_sendCommand_scoped (perRequest : context.requestScoped = true)
    {rctx : Option Conn} (rests : Rests rctx account) (command : Command) :
    (discipline context ι).Keeps (fun account' result => Rests result.2 account') account
      (sendCommand context rctx command) := by
  obtain ⟨err, rfl⟩ := rests
  unfold sendCommand
  rw [if_pos perRequest]
  apply Discipline.Keeps.bind (m := fun account' conn => conn = rctx ∧ Rests rctx account')
  · exact .pure ⟨rfl, err, rfl⟩
  rintro _ _ ⟨rfl, err, rfl⟩
  rename_i rctx
  cases rctx with
  | none => exact .pure ⟨none, rfl⟩
  | some conn =>
      apply keeps_command rfl
      intro reply
      rw [if_pos perRequest]
      apply Discipline.Keeps.bind (keeps_tearDown conn none)
      exact fun account' rctx' rests => .pure rests

/-- In the request-scoped mode there is no connection in the context to disconnect. -/
theorem keeps_disconnect_scoped (perRequest : context.requestScoped = true) {rctx : Option Conn}
    (rests : Rests rctx account) :
    (discipline context ι).Keeps (fun account' _ => Rests rctx account') account disconnect := by
  obtain ⟨err, rfl⟩ := rests
  refine .call (.inr ⟨perRequest, rfl⟩) ?_
  rintro conn _ ⟨rfl, rfl⟩
  exact .pure ⟨err, rfl⟩

/-! ## The serialized mode -/

/-- Whoever serves has looked at the connection of the context, which is in its hands if it is
there. -/
theorem keeps_shared {α : Type} {ends : Account → α → Prop} {rest : Option Conn → Prog α}
    (serving : Serving account)
    (there : ∀ number conn err, (discipline context ι).Keeps ends
      ⟨true, number, some (.ready conn err), .lent⟩ (rest (some conn)))
    (absent : ∀ number, (discipline context ι).Keeps ends ⟨true, number, none, .empty⟩
      (rest none)) :
    (discipline context ι).Keeps ends account (call .shared >>= rest) := by
  cases serving with
  | unread number =>
      refine .call (.inl ⟨rfl, fun _ => rfl⟩) ?_
      intro conn account' becomes
      cases conn with
      | none =>
          obtain rfl := becomes
          exact absent number
      | some conn =>
          obtain rfl := becomes
          exact there number conn none
  | empty number =>
      refine .call (.inl ⟨rfl, by simp⟩) ?_
      rintro conn _ ⟨rfl, rfl⟩
      exact absent number
  | lent number conn err =>
      refine .call (.inl ⟨rfl, by simp⟩) ?_
      rintro _ _ ⟨⟨held, owned, rfl⟩, rfl⟩
      cases owned
      exact there number conn err

/-- After connecting, there is a connection in the context or not. -/
theorem keeps_connect_serialized (serialized : context.requestScoped = false)
    (serving : Serving account) :
    (discipline context ι).Keeps (fun account' result => result.2 = none ∧ Serving account') account
      (connect context none) := by
  unfold connect
  rw [if_neg (by simp [serialized])]
  apply keeps_shared serving
  · intro number conn err
    exact .pure ⟨rfl, .lent number conn err⟩
  · intro number
    apply Discipline.Keeps.bind (keeps_rctxConnect rfl (by simp))
    rintro _ conn ⟨err, rfl⟩
    cases conn with
    | none =>
        refine .call ⟨rfl, serialized, rfl, .inl rfl⟩ ?_
        rintro _ _ rfl
        exact .pure ⟨rfl, .empty number⟩
    | some conn =>
        refine .call ⟨rfl, serialized, rfl, _, rfl, rfl⟩ ?_
        rintro _ _ rfl
        exact .pure ⟨rfl, .lent number conn err⟩

theorem keeps_sendCommand_serialized (serialized : context.requestScoped = false)
    (serving : Serving account) (command : Command) :
    (discipline context ι).Keeps (fun account' result => result.2 = none ∧ Serving account') account
      (sendCommand context none command) := by
  unfold sendCommand
  rw [if_neg (by simp [serialized])]
  apply keeps_shared serving
  · intro number conn err
    apply keeps_command rfl
    intro reply
    rw [if_neg (by simp [serialized])]
    apply Discipline.Keeps.bind (m := fun account' rctx => rctx = none ∧ Serving account')
    · exact .pure ⟨rfl, .lent number conn none⟩
    rintro account' _ ⟨rfl, serving⟩
    exact .pure ⟨rfl, serving⟩
  · exact fun number => .pure ⟨rfl, .empty number⟩

/-- What is freed does not stay in the context. -/
theorem keeps_disconnect_serialized (serialized : context.requestScoped = false)
    (serving : Serving account) :
    (discipline context ι).Keeps (fun account' _ => Serving account') account disconnect := by
  apply keeps_shared serving
  · intro number conn err
    refine .call ⟨_, rfl, rfl⟩ ?_
    rintro _ _ rfl
    refine .perform ⟨rfl, serialized, rfl, .inr rfl⟩ ?_
    rintro _ _ rfl
    exact .done (.empty number)
  · exact fun number => .pure (.empty number)

/-- Whoever serves may unlock the mutex. -/
theorem keeps_unlock_serving {α : Type} {ends : Account → α → Prop} {rest : Unit → Prog α}
    (serving : Serving account) (later : (discipline context ι).Keeps ends {} (rest ())) :
    (discipline context ι).Keeps ends account (call .unlock >>= rest) := by
  refine .call ?_ ?_
  · cases serving with
    | unread number => exact ⟨rfl, by simp, by simp⟩
    | empty number => exact ⟨rfl, by simp, by simp⟩
    | lent number conn err => exact ⟨rfl, by simp, fun _ => ⟨conn, err, rfl⟩⟩
  · rintro _ _ rfl
    cases serving with
    | unread number => exact later
    | empty number => exact later
    | lent number conn err => exact later

/-- Between two tries the mutex is free. -/
theorem keeps_backoff_serialized (serialized : context.requestScoped = false)
    (serving : Serving account) :
    (discipline context ι).Keeps
      (fun account' held => if held then Serving account' else account' = {}) account
      (backoff context) := by
  unfold backoff
  rw [if_neg (by simp [serialized])]
  apply keeps_unlock_serving serving
  refine .call rfl ?_
  rintro _ _ rfl
  refine .perform ⟨rfl, rfl⟩ ?_
  rintro locked _ rfl
  cases locked with
  | false => exact .done rfl
  | true => exact .done (.unread none)

/-! ## Commands in either mode -/

theorem keeps_connect {rctx : Option Conn} (works : Works context rctx account) :
    (discipline context ι).Keeps (fun account' result => Works context result.2 account') account
      (connect context rctx) := by
  unfold Works at works ⊢
  split at works
  · next perRequest =>
      unfold connect
      simp only [perRequest, if_true]
      apply Discipline.Keeps.bind (keeps_connectScoped works)
      exact fun account' conn rests => .pure rests
  · next serialized =>
      obtain ⟨rfl, serving⟩ := works
      simp only [serialized]
      exact keeps_connect_serialized (by simpa using serialized) serving

theorem keeps_sendCommand {rctx : Option Conn} (works : Works context rctx account)
    (command : Command) :
    (discipline context ι).Keeps (fun account' result => Works context result.2 account') account
      (sendCommand context rctx command) := by
  unfold Works at works ⊢
  split at works
  · next perRequest =>
      simp only [perRequest, if_true]
      exact keeps_sendCommand_scoped perRequest works command
  · next serialized =>
      obtain ⟨rfl, serving⟩ := works
      simp only [serialized]
      exact keeps_sendCommand_serialized (by simpa using serialized) serving command

theorem keeps_disconnect {rctx : Option Conn} (works : Works context rctx account) :
    (discipline context ι).Keeps (fun account' _ => Works context rctx account') account
      disconnect := by
  unfold Works at works ⊢
  split at works
  · next perRequest =>
      simp only [perRequest, if_true]
      exact keeps_disconnect_scoped perRequest works
  · next serialized =>
      obtain ⟨rfl, serving⟩ := works
      simp only [serialized]
      apply (keeps_disconnect_serialized (by simpa using serialized) serving).mono
      exact fun _ _ serving => ⟨trivial, serving⟩

/-- What a thread has after a command: it works still, unless it lost the mutex. -/
def Worked (context : Context) (rctx : Option Conn) (held : Bool) (account : Account) : Prop :=
  if context.requestScoped = false ∧ held = false then rctx = none ∧ account = {}
  else Works context rctx account

theorem keeps_backoff {rctx : Option Conn} (works : Works context rctx account) :
    (discipline context ι).Keeps (fun account' held => Worked context rctx held account') account
      (backoff context) := by
  unfold Works at works
  split at works
  · next perRequest =>
      obtain ⟨err, rfl⟩ := works
      unfold backoff
      rw [if_pos perRequest]
      refine .call rfl ?_
      rintro _ _ rfl
      apply Discipline.Keeps.pure
      unfold Worked Works
      simp only [perRequest, if_true]
      exact ⟨err, rfl⟩
  · next serialized =>
      obtain ⟨rfl, serving⟩ := works
      have serialized : context.requestScoped = false := by simpa using serialized
      apply (keeps_backoff_serialized serialized serving).mono
      intro account' held ends
      cases held with
      | false => simpa [Worked, serialized] using ends
      | true => simpa [Worked, Works, serialized] using ends

/-- The tries of a command, by induction on their number. -/
theorem keeps_tries (command : Command) (left : Nat) {rctx : Option Conn}
    (works : Works context rctx account) :
    (discipline context ι).Keeps
      (fun account' outcome => Worked context outcome.rctx outcome.mutexHeld account') account
      (tries context command left rctx) := by
  have ends {rctx : Option Conn} {account : Account} (works : Works context rctx account) :
      Worked context rctx true account := by simpa [Worked] using works
  induction left generalizing account rctx with
  | zero => exact .pure (ends works)
  | succ left ih =>
      apply Discipline.Keeps.bind (keeps_connect works)
      rintro account ⟨connected, rctx⟩ works
      dsimp only at works ⊢
      split
      · apply Discipline.Keeps.bind (keeps_sendCommand works command)
        rintro account ⟨reply, rctx⟩ works
        dsimp only at works ⊢
        split
        · exact .pure (ends works)
        · apply Discipline.Keeps.bind (keeps_disconnect works)
          exact fun account' _ works => ih works
      · split
        · apply Discipline.Keeps.bind (keeps_backoff works)
          intro account' held worked
          cases held with
          | true => exact ih (by simpa [Worked] using worked)
          | false => exact .pure worked
        · exact .pure (ends works)

/-! ## Requests -/

/-- What a thread has between its commands. -/
def Between (context : Context) (rctx : Option Conn) (account : Account) : Prop :=
  Rests rctx account ∧ (context.requestScoped = false → rctx = none)

theorem keeps_exchange (maxTries : Option String) (command : Command) {rctx : Option Conn}
    (between : Between context rctx account) :
    (discipline context ι).Keeps (fun account' result => Between context result.2 account') account
      (exchange context maxTries rctx command) := by
  obtain ⟨⟨err, rfl⟩, alone⟩ := between
  cases mode : context.requestScoped with
  | true =>
      unfold exchange
      rw [if_pos mode]
      apply Discipline.Keeps.bind (m := fun account' entered => entered = true ∧
        account' = { own := rctx.map fun conn => .ready conn err })
      · exact .pure ⟨rfl, rfl⟩
      rintro _ _ ⟨rfl, rfl⟩
      rw [if_pos rfl]
      have works : Works context rctx { own := rctx.map fun conn => .ready conn err } := by
        rw [Works, if_pos mode]
        exact ⟨err, rfl⟩
      apply Discipline.Keeps.bind (keeps_tries command _ works)
      intro account outcome worked
      rw [if_neg (by simp [mode])]
      apply Discipline.Keeps.bind (m := fun account' _ => account' = account)
      · exact .pure rfl
      rintro _ _ rfl
      exact .pure ⟨by simpa [Worked, Works, mode] using worked, by simp [mode]⟩
  | false =>
      obtain rfl := alone mode
      unfold exchange
      rw [if_neg (by simp [mode])]
      apply keeps_lock
      intro locked
      cases locked with
      | false => exact .pure ⟨⟨err, rfl⟩, fun _ => rfl⟩
      | true =>
          apply Discipline.Keeps.bind
          · exact keeps_tries command _ (by simpa [Works, mode] using .unread _)
          rintro account ⟨reply, held, rctx⟩ worked
          cases held with
          | false =>
              obtain ⟨rfl, rfl⟩ : rctx = none ∧ account = {} := by simpa [Worked, mode] using worked
              rw [if_neg (by simp)]
              apply Discipline.Keeps.bind (m := fun account' _ => account' = {})
              · exact .pure rfl
              rintro _ _ rfl
              exact .pure ⟨⟨err, rfl⟩, fun _ => rfl⟩
          | true =>
              obtain ⟨rfl, serving⟩ : rctx = none ∧ Serving account := by
                simpa [Worked, Works, mode] using worked
              simp only [mode, and_self, if_true]
              apply keeps_unlock_serving serving
              exact .pure ⟨⟨err, rfl⟩, fun _ => rfl⟩

/-- A connection goes back to the pool, or stays in hand. -/
theorem keeps_checkIn (conn : Conn) (err : Option Bool) :
    (discipline context ι).Keeps
      (fun account' kept => if kept then account' = {} else Rests (some conn) account')
      { own := some (.ready conn err) } (checkIn conn) := by
  refine @keeps_err ι _ _ _ _ (.ready conn err) _ rfl fun err => ?_
  cases err with
  | true => exact .pure ⟨some true, rfl⟩
  | false =>
      apply keeps_lock
      intro locked
      cases locked with
      | false => exact .pure ⟨some false, rfl⟩
      | true =>
          refine .call rfl ?_
          rintro number _ rfl
          split
          · next room =>
              refine .call ⟨rfl, rfl, ⟨number, room, rfl⟩, rfl⟩ ?_
              rintro _ _ rfl
              exact keeps_unlock rfl rfl (.pure rfl)
          · exact keeps_unlock rfl rfl (.pure ⟨some false, rfl⟩)

theorem keeps_connReturn {rctx : Option Conn} (rests : Rests rctx account) :
    (discipline context ι).Keeps (fun account' _ => account' = {}) account (connReturn rctx) := by
  obtain ⟨err, rfl⟩ := rests
  cases rctx with
  | none => exact .pure rfl
  | some conn =>
      apply Discipline.Keeps.bind (keeps_checkIn conn err)
      intro account kept ends
      cases kept with
      | true =>
          obtain rfl : account = {} := ends
          exact .pure rfl
      | false =>
          obtain ⟨err, rfl⟩ : Rests (some conn) account := ends
          refine .perform ⟨_, rfl, rfl⟩ ?_
          rintro _ _ rfl
          exact .done rfl

theorem keeps_get (maxTries : Option String) (sectionName key : String) {rctx : Option Conn}
    (between : Between context rctx account) :
    (discipline context ι).Keeps (fun account' result => Between context result.2 account') account
      (get context maxTries sectionName key rctx) :=
  .bind (keeps_exchange maxTries _ between) fun _ _ between' => .pure between'

theorem keeps_set (maxTries : Option String) (now : Int) (sectionName key : String)
    (value : Option String) (expiry : Int) {rctx : Option Conn}
    (between : Between context rctx account) :
    (discipline context ι).Keeps (fun account' result => Between context result.2 account') account
      (set context maxTries now sectionName key value expiry rctx) :=
  .bind (keeps_exchange maxTries _ between) fun _ _ between' => .pure between'

/-- A request keeps to what is allowed, by induction on what it does with the cache, and has nothing
in its hands in the end. -/
theorem keeps_serve (request : Request Unit) {rctx : Option Conn}
    (between : Between context rctx account) :
    (discipline context ι).Keeps (fun account' _ => account' = {}) account
      (serve context request rctx) := by
  induction request generalizing account rctx with
  | done => exact keeps_connReturn between.1
  | perform op next ih =>
      cases op with
      | get maxTries sectionName key =>
          apply Discipline.Keeps.bind (keeps_get maxTries sectionName key between)
          exact fun account' result between' => ih _ between'
      | set maxTries now sectionName key value expiry =>
          apply Discipline.Keeps.bind (keeps_set maxTries now sectionName key value expiry between)
          exact fun account' result between' => ih _ between'

/-! ## All requests of a process -/

/-- The requests of a process, before any of them starts. -/
def start (context : Context) (requests : ι → Request Unit) : System ι (World ι) Op Answer Unit :=
  ⟨{}, fun i => serve context (requests i) none⟩

/-- What requests may come to, in any order of their operations. -/
def Reachable [DecidableEq ι] (context : Context) (requests : ι → Request Unit) :
    System ι (World ι) Op Answer Unit → Prop :=
  Steps (Effect context) (start context requests)

/-- At the start nobody has anything. -/
theorem holds_start (context : Context) (requests : ι → Request Unit) :
    (discipline context ι).Holds (fun account _ => account = {}) (start context requests)
      fun _ => {} := by
  refine ⟨⟨fun _ => .nowhere, ?_⟩, fun i => keeps_serve _ ⟨⟨none, rfl⟩, fun _ => rfl⟩⟩
  refine ⟨by simp [start], by simp [start], .nil, Nat.zero_le _, by simp [start], fun _ => rfl,
    by simp, fun _ => by simp [start, Cell.True], fun i => ?_⟩
  exact ⟨by simp [start], by simp, by simp, by simp, fun _ => rfl, by simp⟩

/-- The accounts are true of whatever is reached. -/
theorem Reachable.holds [DecidableEq ι] {requests : ι → Request Unit}
    {system : System ι (World ι) Op Answer Unit} (reachable : Reachable context requests system) :
    ∃ accounts, (discipline context ι).Holds (fun account _ => account = {}) system accounts :=
  (holds_start context requests).steps (sound context) reachable

/-- The connection that an operation works with. -/
def Op.conn : Op → Option Conn
  | .idlePush conn | .err conn | .enableKeepAlive conn _ | .auth conn _ _ | .select conn _
  | .command conn _ | .free conn => some conn
  | .lock | .unlock | .idleNum | .idlePop | .shared | .setShared _ | .connect | .sleep => none

/-- What an operation needs: connections are live and ready for commands, the array of the pool is
kept within its bounds, and shared memory is used under the mutex, which is locked once and not
slept on. -/
def Safe (context : Context) (world : World ι) (i : ι) : Op → Prop
  | .lock | .sleep => world.mutex ≠ some i
  | .unlock | .idleNum => world.mutex = some i
  | .idlePop => world.mutex = some i ∧ world.idle ≠ []
  | .idlePush conn => world.mutex = some i ∧ world.idle.length < poolMax ∧ conn ∉ world.idle ∧
      world.conns conn = .live ⟨false, false, false⟩
  | .shared => world.mutex = some i ∨ context.requestScoped = true
  | .setShared _ => world.mutex = some i ∧ context.requestScoped = false
  | .connect => True
  | .err conn | .enableKeepAlive conn _ | .auth conn _ _ | .select conn _ | .free conn =>
      ∃ life, world.conns conn = .live life
  | .command conn _ => ∃ err, world.conns conn = .live ⟨false, false, err⟩

/-- What is allowed by a true account is safe. -/
theorem Custody.safe {world : World ι} {accounts : ι → Account} {place : Conn → Place ι} {i : ι}
    (custody : Custody context world accounts place) {op : Op}
    (allowed : Allowed context (accounts i) op) : Safe context world i op := by
  have own := custody.trusted i
  have has {conn : Conn} (has : (accounts i).Has conn) : ∃ life, world.conns conn = .live life := by
    obtain ⟨held, owned, rfl⟩ := has
    obtain ⟨-, err, live, -⟩ := own.own held owned
    exact ⟨_, live⟩
  have unlocked (free : (accounts i).mutex = false) : world.mutex ≠ some i := by
    rw [Ne, ← own.mutex, free]
    simp
  cases op with
  | lock => exact unlocked allowed.1
  | sleep => exact unlocked allowed
  | unlock => exact own.mutex.mp allowed.1
  | idleNum => exact own.mutex.mp allowed
  | idlePop =>
      obtain ⟨locked, -, n, read⟩ := allowed
      refine ⟨own.mutex.mp locked, fun empty => ?_⟩
      have length := (own.number _ read).2
      rw [empty] at length
      cases length
  | idlePush conn =>
      obtain ⟨locked, -, ⟨n, room, read⟩, owned⟩ := allowed
      obtain ⟨here, err, live, known⟩ := own.own _ owned
      obtain rfl := known false rfl
      refine ⟨own.mutex.mp locked, (own.number n read).2 ▸ room, ?_, live⟩
      rw [custody.pool, show place conn = .hands i from here]
      simp
  | shared =>
      rcases allowed with ⟨locked, -⟩ | ⟨perRequest, -⟩
      · exact .inl (own.mutex.mp locked)
      · exact .inr perRequest
  | setShared conn => exact ⟨own.mutex.mp allowed.1, allowed.2.1⟩
  | connect => exact trivial
  | err conn => exact has allowed
  | enableKeepAlive conn interval => exact has allowed
  | auth conn username password => exact has allowed
  | select conn database => exact has allowed
  | free conn => exact has allowed
  | command conn command =>
      obtain ⟨err, owned⟩ := allowed
      obtain ⟨-, err, live, -⟩ := own.own _ owned
      exact ⟨err, live⟩

/-- What an operation works with is in hand. -/
theorem Custody.hands {world : World ι} {accounts : ι → Account} {place : Conn → Place ι} {i : ι}
    (custody : Custody context world accounts place) {op : Op} {conn : Conn}
    (allowed : Allowed context (accounts i) op) (works : op.conn = some conn) :
    place conn = .hands i := by
  have has (has : (accounts i).Has conn) : place conn = .hands i := by
    obtain ⟨held, owned, rfl⟩ := has
    exact ((custody.trusted i).own held owned).1
  cases op with
  | lock | unlock | idleNum | idlePop | shared | setShared | connect | sleep => cases works
  | err | enableKeepAlive | auth | select | free =>
      cases works
      exact has allowed
  | idlePush =>
      cases works
      exact has ⟨_, allowed.2.2.2, rfl⟩
  | command =>
      cases works
      obtain ⟨err, owned⟩ := allowed
      exact has ⟨_, owned, rfl⟩

/-- If the connection of the context is in the hands of a thread, that thread holds the mutex. -/
theorem Custody.lent {world : World ι} {accounts : ι → Account} {place : Conn → Place ι} {i : ι}
    (custody : Custody context world accounts place) {conn : Conn} (here : place conn = .hands i)
    (stored : world.rctx = some conn) : world.mutex = some i := by
  cases holder : world.mutex with
  | none =>
      have there := custody.unlocked holder conn stored
      exact absurd (here.symm.trans there) (by simp)
  | some j =>
      have own := custody.trusted j
      have cell := own.cell (own.mutex.mpr holder)
      cases known : (accounts j).cell with
      | unread =>
          rw [known] at cell
          exact absurd (here.symm.trans (cell conn stored)) (by simp)
      | empty =>
          rw [known] at cell
          exact absurd (cell.symm.trans stored) (by simp)
      | lent =>
          rw [known] at cell
          obtain ⟨held, owned, same⟩ := cell
          obtain rfl := Option.some.inj (same.symm.trans stored)
          obtain rfl := Place.hands.inj ((own.own held owned).1.symm.trans here)
          rfl
      | dangling =>
          rw [known] at cell
          obtain ⟨other, same, freed⟩ := cell
          obtain rfl : other = conn := Option.some.inj (same.symm.trans stored)
          obtain ⟨life, live⟩ := (custody.live other).mpr (by simp [here])
          exact absurd (freed.symm.trans live) (by simp)

/-! ## A run of one request -/

/-- A request that looks up one value. -/
def oneGet : Unit → Request Unit := fun _ => .perform (.get none "s" "k") fun _ => .done ()

/-- On its way, it is about to send its command on a new connection. -/
theorem oneGet_command : ∃ system, Reachable {} oneGet system ∧
    (system.threads ()).pending = some (.command 0 (.get (Cache.Facade.sectionKey "s" "k"))) := by
  refine ⟨_, solo (.lock rfl) <| solo (.idleNum _) <| solo (.unlock _) <|
    solo (@Effect.connected _ _ _ _ 0 false rfl) <| solo (.err rfl) <|
    solo (.enableKeepAlive _ true false rfl) <| .refl, ?_⟩
  rfl

/-- In the end, its connection is in the pool. -/
theorem oneGet_finished : ∃ system, Reachable {} oneGet system ∧
    (∀ i, (system.threads i).pending = none) ∧ system.state.idle = [0] := by
  refine ⟨_, solo (.lock rfl) <| solo (.idleNum _) <| solo (.unlock _) <|
    solo (@Effect.connected _ _ _ _ 0 false rfl) <| solo (.err rfl) <|
    solo (.enableKeepAlive _ true false rfl) <| solo (.command _ (some .nil) false rfl) <|
    solo (.err rfl) <| solo (.err rfl) <| solo (.lock rfl) <| solo (.idleNum _) <|
      solo (.idlePush _ _) <| solo (.unlock _) <| .refl,
    fun _ => rfl, rfl⟩

/-! ## In any order -/

/-- Between the requests, the mutex is free, and every connection that is live is ready for commands
and either in the context or, once and without an error, in the pool, which has not outgrown its
array. -/
theorem finished_accounted [DecidableEq ι] (context : Context) (requests : ι → Request Unit)
    {system : System ι (World ι) Op Answer Unit} (reachable : Reachable context requests system)
    (finished : ∀ i, (system.threads i).pending = none) :
    system.state.mutex = none ∧ system.state.idle.Nodup ∧ system.state.idle.length ≤ poolMax ∧
    (∀ conn ∈ system.state.idle, system.state.conns conn = .live ⟨false, false, false⟩) ∧
    (∀ conn, system.state.rctx = some conn → context.requestScoped = false ∧
      ∃ err, system.state.conns conn = .live ⟨false, false, err⟩) ∧
    ∀ conn life, system.state.conns conn = .live life →
      conn ∈ system.state.idle ∨ system.state.rctx = some conn := by
  obtain ⟨accounts, holds⟩ := reachable.holds
  obtain ⟨place, custody⟩ := holds.agrees
  have empty (i : ι) : accounts i = {} := by
    cases program : system.threads i with
    | done result => exact holds.final program
    | perform op next =>
        have none := finished i
        rw [program] at none
        cases none
  have unlocked : system.state.mutex = none := by
    cases holder : system.state.mutex with
    | none => rfl
    | some i =>
        have locked := (custody.trusted i).mutex.mpr holder
        rw [empty i] at locked
        cases locked
  have context' (conn : Conn) (stored : system.state.rctx = some conn) : place conn = .context :=
    custody.unlocked unlocked conn stored
  refine ⟨unlocked, custody.nodup, custody.room, custody.ready, fun conn stored => ⟨?_, ?_⟩,
    fun conn life live => ?_⟩
  · cases mode : context.requestScoped with
    | false => rfl
    | true => exact absurd (custody.alone mode ▸ stored) (by simp)
  · exact (custody.shared conn (context' conn stored)).2
  · have somewhere := (custody.live conn).mp ⟨life, live⟩
    cases there : place conn with
    | nowhere => exact absurd there somewhere
    | pool => exact .inl ((custody.pool conn).mpr there)
    | context => exact .inr (custody.shared conn there).1
    | hands i =>
        obtain ⟨held, owned, -⟩ := (custody.trusted i).hands conn there
        rw [empty i] at owned
        cases owned

theorem finished_accounted_get : ∃ system, Reachable {} oneGet system ∧ system.state.idle = [0] ∧
    ∀ conn life, system.state.conns conn = .live life →
      conn ∈ system.state.idle ∨ system.state.rctx = some conn := by
  obtain ⟨system, reachable, finished, idle⟩ := oneGet_finished
  have accounted := finished_accounted {} oneGet reachable finished
  exact ⟨system, reachable, idle, accounted.2.2.2.2.2⟩

/-- What is safe can be done, but for a mutex that another thread holds. -/
theorem Safe.enabled {world : World ι} {i : ι} {op : Op} (safe : Safe context world i op)
    (unlocked : op = .lock → world.mutex = none) :
    ∃ answer after, Effect context i op world answer after ∧
      (op = .lock → after.mutex = some i) := by
  have plain {op : Op} {answer : Answer op} {after : World ι} (other : op ≠ .lock)
      (works : Effect context i op world answer after) :
      ∃ answer after, Effect context i op world answer after ∧
        (op = .lock → after.mutex = some i) :=
    ⟨answer, after, works, fun same => absurd same other⟩
  cases op with
  | lock => exact ⟨true, _, .lock (unlocked rfl), fun _ => rfl⟩
  | unlock => exact plain (by simp) (.unlock world)
  | idleNum => exact plain (by simp) (.idleNum world)
  | idlePop =>
      obtain ⟨conn, rest, last⟩ := List.exists_cons_of_ne_nil safe.2
      exact plain (by simp) (.idlePop last)
  | idlePush conn => exact plain (by simp) (.idlePush world conn)
  | shared => exact plain (by simp) (.shared world)
  | setShared conn => exact plain (by simp) (.setShared world conn)
  | connect => exact plain (by simp) (.refused world)
  | err conn =>
      obtain ⟨life, live⟩ := safe
      exact plain (by simp) (.err live)
  | enableKeepAlive conn interval =>
      obtain ⟨life, live⟩ := safe
      exact plain (by simp) (.enableKeepAlive interval true false live)
  | auth conn username password =>
      obtain ⟨life, live⟩ := safe
      exact plain (by simp) (.auth username password none false live)
  | select conn database =>
      obtain ⟨life, live⟩ := safe
      exact plain (by simp) (.select database none false live)
  | command conn command =>
      obtain ⟨err, live⟩ := safe
      exact plain (by simp) (.command command none false live)
  | free conn =>
      obtain ⟨life, live⟩ := safe
      exact plain (by simp) (.free live)
  | sleep => exact plain (by simp) (.sleep world)

end Redis

end ModAuthOpenidc
