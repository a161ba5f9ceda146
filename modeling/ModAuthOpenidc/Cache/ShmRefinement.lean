import ModAuthOpenidc.Cache.ShmReachable
import ModAuthOpenidc.ExpiringMap

/-!
# The segment as a bounded map

A well-formed segment stands for the finite map from section keys to values and expiries.  Each call
is accounted for by a short list of events on that map: what it stored, deleted, purged or evicted.
Replaying the events of a run gives the contents of the segment, and therefore the answers of the
gets.
-/

namespace ModAuthOpenidc

namespace Shm

open ExpiringMap

variable {hash : String → UInt64} {cfg : Config} {shm shm' : Header}

/-- The value and the expiry stored under a section key. -/
def lookup (shm : Header) (sectionKey : String) : Option (String × Int) :=
  ((List.range' 1 shm.nslots).find? fun idx =>
    sectionKey ≠ "" ∧ (shm.slots idx).sectionKey = sectionKey).map
      fun idx => ((shm.slots idx).value, (shm.slots idx).expires)

/-- Every slot is occupied. -/
def full (shm : Header) : Bool :=
  (List.range' 1 shm.nslots).all fun idx => (shm.slots idx).sectionKey ≠ ""

/-! ## Looking up entries -/

theorem lookup_eq_none_iff {sectionKey : String} :
    lookup shm sectionKey = none ↔ sectionKey = "" ∨ ∀ idx, ¬Holds shm idx sectionKey := by
  simp only [lookup, Option.map_eq_none_iff, List.find?_eq_none, List.mem_range'_1,
    decide_eq_true_eq, not_and]
  constructor
  · intro unmatched
    by_cases empty : sectionKey = ""
    · exact .inl empty
    · refine .inr fun idx holds => ?_
      obtain ⟨⟨low, high⟩, name⟩ := holds
      exact unmatched idx ⟨low, by omega⟩ empty name
  · rintro (empty | absent) idx ⟨low, high⟩ nonempty name
    · exact nonempty empty
    · exact absent idx ⟨⟨low, by omega⟩, name⟩

/-- Two slots with one name are one slot. -/
theorem WellFormed.holds_unique (wellFormed : WellFormed hash shm) {sectionKey : String}
    (nonempty : sectionKey ≠ "") {idx idx' : Nat} (holds : Holds shm idx sectionKey)
    (holds' : Holds shm idx' sectionKey) : idx = idx' := by
  obtain ⟨chain, free, owned⟩ := wellFormed.owned
  obtain ⟨inside, rfl⟩ := holds
  obtain ⟨inside', name⟩ := holds'
  have member := owned.mem_chain_of_named inside.1 inside.2 nonempty
  have member' := owned.mem_chain_of_named inside'.1 inside'.2 (name ▸ nonempty)
  exact owned.distinct _ idx member _ idx' member' name.symm

theorem WellFormed.lookup_of_holds (wellFormed : WellFormed hash shm) {sectionKey : String}
    (nonempty : sectionKey ≠ "") {idx : Nat} (holds : Holds shm idx sectionKey) :
    lookup shm sectionKey = some ((shm.slots idx).value, (shm.slots idx).expires) := by
  cases found : (List.range' 1 shm.nslots).find? fun idx =>
      sectionKey ≠ "" ∧ (shm.slots idx).sectionKey = sectionKey with
  | none =>
      have missing : lookup shm sectionKey = none := by rw [lookup, found, Option.map_none]
      rcases lookup_eq_none_iff.mp missing with empty | absent
      · exact absurd empty nonempty
      · exact absurd holds (absent idx)
  | some idx' =>
      have matched := List.find?_some found
      have inside := List.mem_range'_1.mp (List.mem_of_find?_eq_some found)
      have name : (shm.slots idx').sectionKey = sectionKey := by simp_all
      have holds' : Holds shm idx' sectionKey := ⟨⟨inside.1, by omega⟩, name⟩
      rw [lookup, found, Option.map_some, wellFormed.holds_unique nonempty holds holds']

theorem exists_holds_of_lookup {sectionKey : String} {entry : String × Int}
    (found : lookup shm sectionKey = some entry) :
    sectionKey ≠ "" ∧ ∃ idx, Holds shm idx sectionKey := by
  have present : lookup shm sectionKey ≠ none := by simp [found]
  rw [ne_eq, lookup_eq_none_iff, not_or, not_forall] at present
  obtain ⟨nonempty, idx, holds⟩ := present
  exact ⟨nonempty, idx, not_not.mp holds⟩

theorem Edit.holds_iff {changed : Nat → Prop} (edit : Edit changed shm shm') {idx : Nat}
    (same : ¬changed idx) (sectionKey : String) :
    Holds shm' idx sectionKey ↔ Holds shm idx sectionKey := by
  simp only [Holds, InRange, edit.nslots, edit.sectionKey idx same]

/-- A key which neither the old nor the new contents of the edited slots carry keeps its entry. -/
theorem Edit.lookup_eq {changed : Nat → Prop} (edit : Edit changed shm shm')
    (wellFormed : WellFormed hash shm) (wellFormed' : WellFormed hash shm') {sectionKey : String}
    (before : ∀ idx, changed idx → (shm.slots idx).sectionKey ≠ sectionKey)
    (after : ∀ idx, changed idx → (shm'.slots idx).sectionKey ≠ sectionKey) :
    lookup shm' sectionKey = lookup shm sectionKey := by
  cases found : lookup shm sectionKey with
  | none =>
      rw [lookup_eq_none_iff] at found ⊢
      refine found.imp_right fun absent idx holds => ?_
      have same : ¬changed idx := fun change => after idx change holds.2
      exact absent idx ((edit.holds_iff same sectionKey).mp holds)
  | some entry =>
      obtain ⟨nonempty, idx, holds⟩ := exists_holds_of_lookup found
      have same : ¬changed idx := fun change => before idx change holds.2
      have holds' := (edit.holds_iff same sectionKey).mpr holds
      rw [wellFormed.lookup_of_holds nonempty holds] at found
      rw [wellFormed'.lookup_of_holds nonempty holds', edit.value idx same, edit.expires idx same,
        found]

theorem SameEntries.lookup_eq (same : SameEntries shm shm') (wellFormed : WellFormed hash shm)
    (wellFormed' : WellFormed hash shm') : lookup shm' = lookup shm := by
  funext sectionKey
  exact Edit.lookup_eq same wellFormed wellFormed' (by simp) (by simp)

/-- Renaming the slot of a key removes the key. -/
theorem Edit.lookup_eq_none {idx : Nat} (edit : Edit (· = idx) shm shm')
    (wellFormed : WellFormed hash shm) {sectionKey : String} (nonempty : sectionKey ≠ "")
    (holds : Holds shm idx sectionKey) (renamed : (shm'.slots idx).sectionKey ≠ sectionKey) :
    lookup shm' sectionKey = none := by
  refine lookup_eq_none_iff.mpr (.inr fun other holds' => ?_)
  by_cases same : other = idx
  · subst same
    exact renamed holds'.2
  · have older := (edit.holds_iff same sectionKey).mp holds'
    exact same (wellFormed.holds_unique nonempty older holds)

/-- An edit of one slot in terms of the map: the old name is removed and the new name is stored. -/
theorem Edit.lookup_update {idx : Nat} (edit : Edit (· = idx) shm shm')
    (wellFormed : WellFormed hash shm) (wellFormed' : WellFormed hash shm')
    (inside : InRange shm idx) {sectionKey : String} (nonempty : sectionKey ≠ "")
    (named : (shm'.slots idx).sectionKey = sectionKey) :
    lookup shm' = Function.update (if (shm.slots idx).sectionKey = "" then lookup shm
        else Function.update (lookup shm) (shm.slots idx).sectionKey none) sectionKey
      (some ((shm'.slots idx).value, (shm'.slots idx).expires)) := by
  have inside' : InRange shm' idx := by simpa [InRange, edit.nslots] using inside
  funext key
  by_cases stored : key = sectionKey
  · subst stored
    rw [Function.update_self]
    exact wellFormed'.lookup_of_holds nonempty ⟨inside', named⟩
  rw [Function.update_of_ne stored]
  have after : ∀ other, other = idx → (shm'.slots other).sectionKey ≠ key := by
    rintro other rfl name
    exact stored (name.symm.trans named)
  split
  · next blank =>
      by_cases empty : key = ""
      · rw [lookup_eq_none_iff.mpr (.inl empty), lookup_eq_none_iff.mpr (.inl empty)]
      · refine edit.lookup_eq wellFormed wellFormed' ?_ after
        rintro other rfl name
        exact empty (name.symm.trans blank)
  · next occupied =>
      by_cases removed : key = (shm.slots idx).sectionKey
      · subst removed
        rw [Function.update_self]
        exact edit.lookup_eq_none wellFormed occupied ⟨inside, rfl⟩ (after idx rfl)
      · rw [Function.update_of_ne removed]
        refine edit.lookup_eq wellFormed wellFormed' ?_ after
        rintro other rfl name
        exact removed name.symm

/-- Clearing the slot of a key deletes the key from the map. -/
theorem Edit.lookup_delete {idx : Nat} (edit : Edit (· = idx) shm shm')
    (wellFormed : WellFormed hash shm) (wellFormed' : WellFormed hash shm') {sectionKey : String}
    (nonempty : sectionKey ≠ "") (holds : Holds shm idx sectionKey)
    (cleared : (shm'.slots idx).sectionKey = "") :
    lookup shm' = Function.update (lookup shm) sectionKey none := by
  funext key
  by_cases here : key = sectionKey
  · subst here
    rw [Function.update_self]
    exact edit.lookup_eq_none wellFormed nonempty holds (by rw [cleared]; exact nonempty.symm)
  rw [Function.update_of_ne here]
  by_cases empty : key = ""
  · rw [lookup_eq_none_iff.mpr (.inl empty), lookup_eq_none_iff.mpr (.inl empty)]
  refine edit.lookup_eq wellFormed wellFormed' ?_ ?_
  · rintro other rfl name
    exact here (name.symm.trans holds.2)
  · rintro other rfl name
    exact empty (name.symm.trans cleared)

/-! ## Events of a call -/

/-- What an admitted call does to the map, judged from the segment before the call. -/
def callEvents (cfg : Config) (shm : Header) (call : Call) : List (Event String String Int) :=
  match admitted cfg call with
  | none => []
  | some sectionKey =>
      match call with
      | .get _ _ _ now =>
          if (lookup shm sectionKey).any fun entry => entry.2 ≤ now then [.purged sectionKey]
              else []
      | .set _ _ _ none _ _ => [.deleted sectionKey]
      | .set _ _ _ (some value) expiry now =>
          if (lookup shm sectionKey).isNone && full shm then
            [.evicted (shm.slots (victim shm now)).sectionKey, .stored sectionKey value expiry]
          else
            [.stored sectionKey value expiry]

/-- The events of a run. -/
def history (hash : String → UInt64) (cfg : Config) (shm : Header) :
    List Call → List (Event String String Int)
  | [] => []
  | call :: calls =>
      callEvents cfg shm call ++
        match step hash cfg shm call with
        | none => []
        | some (shm', _) => history hash cfg shm' calls

theorem full_iff : full shm = true ↔ ∀ idx, InRange shm idx → (shm.slots idx).sectionKey ≠ "" := by
  simp only [full, List.all_eq_true, List.mem_range'_1, decide_eq_true_eq, InRange]
  constructor
  · rintro occupied idx ⟨low, high⟩
    exact occupied idx ⟨low, by omega⟩
  · rintro occupied idx ⟨low, high⟩
    exact occupied idx ⟨low, by omega⟩

/-- The contents after an admitted get, and its answer. -/
theorem GetEffect.refines {sectionKey : String} {now : Int} {answer : Option String}
    (effect : GetEffect shm shm' sectionKey now answer) (nonempty : sectionKey ≠ "")
    (wellFormed : WellFormed hash shm) (wellFormed' : WellFormed hash shm')
    {past : List (Event String String Int)} (contents : lookup shm = latest past) :
    answer = live now (latest past sectionKey) ∧
      lookup shm' = latest (past ++
        if (lookup shm sectionKey).any fun entry => entry.2 ≤ now then [.purged sectionKey]
        else []) := by
  rw [← contents]
  cases effect with
  | miss absent same =>
      have missing := lookup_eq_none_iff.mpr (.inr absent)
      simp [missing, live, SameEntries.lookup_eq same wellFormed wellFormed', contents]
  | hit idx holds fresh same =>
      have found := wellFormed.lookup_of_holds nonempty holds
      simp [found, live, fresh, Int.not_le.mpr fresh,
        SameEntries.lookup_eq same wellFormed wellFormed', contents]
  | expired idx holds stale edit cleared =>
      have found := wellFormed.lookup_of_holds nonempty holds
      have deleted := edit.lookup_delete wellFormed wellFormed' nonempty holds cleared
      simp [found, live, stale, Int.not_lt.mpr stale, deleted, contents, latest_concat, Event.key,
        Event.entry]

/-- The contents after an admitted set. -/
theorem SetEffect.refines {sectionKey : String} {now expiry : Int} {value : Option String}
    (effect : SetEffect shm shm' sectionKey now expiry value) (nonempty : sectionKey ≠ "")
    (wellFormed : WellFormed hash shm) (wellFormed' : WellFormed hash shm')
    {past : List (Event String String Int)} (contents : lookup shm = latest past) :
    lookup shm' = latest (past ++
      match value with
      | none => [.deleted sectionKey]
      | some value =>
          if (lookup shm sectionKey).isNone && full shm then
            [.evicted (shm.slots (victim shm now)).sectionKey, .stored sectionKey value expiry]
          else
            [.stored sectionKey value expiry]) := by
  cases effect with
  | deleteAbsent absent same =>
      have missing : lookup shm sectionKey = none := lookup_eq_none_iff.mpr (.inr absent)
      rw [latest_concat, ← contents, SameEntries.lookup_eq same wellFormed wellFormed']
      exact (Function.update_eq_self_iff.mpr missing.symm).symm
  | delete idx holds edit cleared =>
      rw [latest_concat, ← contents]
      exact edit.lookup_delete wellFormed wellFormed' nonempty holds cleared
  | overwrite idx value holds edit named stored expires =>
      have found := wellFormed.lookup_of_holds nonempty holds
      have updated := edit.lookup_update wellFormed wellFormed' holds.1 nonempty named
      rw [holds.2, if_neg nonempty, Function.update_idem, stored, expires] at updated
      simp only [found, Option.isNone_some, Bool.false_and, Bool.false_eq_true, if_false]
      rw [latest_concat, ← contents, updated]
      rfl
  | insert idx value absent inside source edit named stored expires =>
      have missing : lookup shm sectionKey = none := lookup_eq_none_iff.mpr (.inr absent)
      have updated := edit.lookup_update wellFormed wellFormed' inside nonempty named
      rw [stored, expires] at updated
      rcases source with blank | ⟨rfl, occupied⟩
      · have vacancy : full shm = false := by
          rw [Bool.eq_false_iff, ne_eq, full_iff]
          exact fun occupied => occupied idx inside blank
        simp only [vacancy, Bool.and_false, Bool.false_eq_true, if_false]
        rw [latest_concat, ← contents, updated, if_pos blank]
        rfl
      · simp only [missing, full_iff.mpr occupied, Option.isNone_none, Bool.and_self, if_true]
        rw [updated, if_neg (occupied _ inside), ← List.singleton_append, ← List.append_assoc,
          latest_concat, latest_concat, ← contents]
        rfl

theorem admitted_ne_empty {call : Call} {sectionKey : String}
    (accepted : admitted cfg call = some sectionKey) : sectionKey ≠ "" := by
  cases call with
  | get mutex sectionName key now =>
      have checks : mutex.lock = true ∧ getKey sectionName key = some sectionKey := by
        simpa [admitted] using accepted
      exact getKey_ne_empty checks.2
  | set mutex sectionName key value expiry now =>
      have checks : (mutex.lock = true ∧ valueAccepted cfg value = true) ∧
          getKey sectionName key = some sectionKey := by
        simpa [admitted] using accepted
      exact getKey_ne_empty checks.2

/-- Replaying the events of a call gives the contents after it. -/
theorem Effect.refines {call : Call} {sectionKey : String} {answer : Option String}
    (accepted : admitted cfg call = some sectionKey)
    (effect : Effect shm shm' sectionKey call answer)
    (wellFormed : WellFormed hash shm) (wellFormed' : WellFormed hash shm')
    {past : List (Event String String Int)} (contents : lookup shm = latest past) :
    lookup shm' = latest (past ++ callEvents cfg shm call) := by
  have nonempty := admitted_ne_empty accepted
  simp only [callEvents, accepted]
  cases call with
  | get mutex sectionName key now =>
      exact (GetEffect.refines effect nonempty wellFormed wellFormed' contents).2
  | set mutex sectionName key value expiry now =>
      have replayed := effect.2.refines nonempty wellFormed wellFormed' contents
      cases value with
      | none => exact replayed
      | some value => exact replayed

theorem WellFormed.step_refines (cfg : Config) (wellFormed : WellFormed hash shm)
    {past : List (Event String String Int)} (contents : lookup shm = latest past) (call : Call) :
    ∃ shm' reply, Shm.step hash cfg shm call = some (shm', reply) ∧ WellFormed hash shm' ∧
      lookup shm' = latest (past ++ callEvents cfg shm call) := by
  cases accepted : admitted cfg call with
  | none =>
      refine ⟨shm, _, step_refused accepted, wellFormed, ?_⟩
      simp [callEvents, accepted, contents]
  | some sectionKey =>
      obtain ⟨shm', reply, stepped, wellFormed', -, effect⟩ := wellFormed.step_admitted accepted
      exact ⟨shm', reply, stepped, wellFormed',
        effect.refines accepted wellFormed wellFormed' contents⟩

/-- Replaying the history of a run gives the contents of the final segment. -/
theorem WellFormed.run_refines (cfg : Config) (wellFormed : WellFormed hash shm)
    {past : List (Event String String Int)} (contents : lookup shm = latest past)
    (calls : List Call) :
    ∃ final replies, Shm.run hash cfg shm calls = some (final, replies) ∧ WellFormed hash final ∧
      lookup final = latest (past ++ history hash cfg shm calls) := by
  induction calls generalizing shm past with
  | nil => exact ⟨shm, [], rfl, wellFormed, by simpa [history] using contents⟩
  | cons call calls ih =>
      obtain ⟨shm', reply, stepped, wellFormed', contents'⟩ :=
        wellFormed.step_refines cfg contents call
      obtain ⟨final, replies, ran, finished, replayed⟩ := ih wellFormed' contents'
      refine ⟨final, reply :: replies, by simp [Shm.run, stepped, ran], finished, ?_⟩
      simpa only [history, stepped, List.append_assoc] using replayed

theorem history_concat {final : Header} {replies : List Reply} {calls : List Call} (call : Call)
    (ran : run hash cfg shm calls = some (final, replies)) :
    history hash cfg shm (calls ++ [call]) =
      history hash cfg shm calls ++ callEvents cfg final call := by
  induction calls generalizing shm replies with
  | nil =>
      obtain ⟨rfl, rfl⟩ := Prod.mk.inj (Option.some.inj ran)
      simp only [List.nil_append, history]
      cases step hash cfg shm call <;> simp
  | cons first calls ih =>
      simp only [run] at ran
      cases stepped : step hash cfg shm first with
      | none => simp [stepped] at ran
      | some result =>
          obtain ⟨shm', reply⟩ := result
          simp only [stepped, Option.map_eq_some_iff, Prod.mk.injEq, Prod.exists] at ran
          obtain ⟨_, _, ran, rfl, -⟩ := ran
          simp only [List.cons_append, history, stepped, ih ran, List.append_assoc]

/-! ## Readers with a monotone clock -/

/-- The clock reading of a call. -/
def Call.now : Call → Int
  | .get _ _ _ now => now
  | .set _ _ _ _ _ now => now

/-- An entry that has expired is not live. -/
theorem live_eq_none_of_expired {entry : Option (String × Int)} {now : Int}
    (stale : entry.any (fun entry => entry.2 ≤ now) = true) : live now entry = none := by
  cases entry with
  | none => rfl
  | some entry =>
      have expired : ¬now < entry.2 := Int.not_lt.mpr (by simpa using stale)
      simp [live, expired]

/-- A call purges only what has expired by its own clock. -/
theorem purgesUnseen_callEvents (cfg : Config) {past : List (Event String String Int)}
    (contents : lookup shm = latest past) (call : Call)
    (unseen : PurgesUnseen past call.now) :
    PurgesUnseen (past ++ callEvents cfg shm call) call.now := by
  unfold callEvents
  cases accepted : admitted cfg call with
  | none => simpa using unseen
  | some sectionKey =>
      cases call with
      | get mutex sectionName key now =>
          dsimp only
          split
          · next stale =>
              refine unseen.concat fun _ => ?_
              rw [Event.key, ← contents]
              exact live_eq_none_of_expired stale
          · simpa using unseen
      | set mutex sectionName key value expiry now =>
          cases value with
          | none => exact unseen.concat (by simp [Event.isPurge])
          | some value =>
              dsimp only
              split
              · rw [← List.singleton_append, ← List.append_assoc]
                exact (unseen.concat (by simp [Event.isPurge])).concat (by simp [Event.isPurge])
              · exact unseen.concat (by simp [Event.isPurge])

/-- Along a run whose clock does not go backwards no reader misses a purged entry. -/
theorem WellFormed.purgesUnseen_run (cfg : Config) (wellFormed : WellFormed hash shm)
    {past : List (Event String String Int)} (contents : lookup shm = latest past)
    (calls : List Call) {bound : Int} (unseen : ∀ call ∈ calls, PurgesUnseen past call.now)
    (reached : PurgesUnseen past bound) (ordered : (calls.map Call.now).Pairwise (· ≤ ·))
    (ended : ∀ call ∈ calls, call.now ≤ bound) :
    PurgesUnseen (past ++ history hash cfg shm calls) bound := by
  induction calls generalizing shm past with
  | nil => simpa [history] using reached
  | cons call calls ih =>
      obtain ⟨shm', reply, stepped, wellFormed', contents'⟩ :=
        wellFormed.step_refines cfg contents call
      obtain ⟨first, ordered⟩ := List.pairwise_cons.mp ordered
      have stepUnseen := purgesUnseen_callEvents cfg contents call (unseen call List.mem_cons_self)
      have later : ∀ other ∈ calls, PurgesUnseen (past ++ callEvents cfg shm call) other.now :=
        fun other member => stepUnseen.later (first _ (List.mem_map_of_mem member))
      have finished := ih wellFormed' contents' later
        (stepUnseen.later (ended call List.mem_cons_self)) ordered
        fun other member => ended other (List.mem_cons_of_mem _ member)
      simpa only [history, stepped, List.append_assoc] using finished

/-! ## Refinement -/

/-- What one admitted call on `sectionKey` may do after the history `past`. -/
structure Accounted (past : List (Event String String Int)) (shm shm' : Header)
    (sectionKey : String) (call : Call) (reply : Reply) : Prop where
  /-- The call succeeds; in particular no set fails to obtain a slot. -/
  ok : reply.ok = call.unlocks
  /-- A get returns the most recently stored value of the same key, if it is still live. -/
  answer : ∀ mutex sectionName key now, call = .get mutex sectionName key now →
    reply.value = live now (latest past sectionKey)
  /-- A set stores its value and expiry. -/
  stored : ∀ mutex sectionName key value expiry now,
    call = .set mutex sectionName key (some value) expiry now →
    lookup shm' sectionKey = some (value, expiry)
  /-- A deletion removes its key. -/
  deleted : ∀ mutex sectionName key expiry now,
    call = .set mutex sectionName key none expiry now → lookup shm' sectionKey = none
  /-- Another key changes only by being the one victim of a set which finds every slot occupied by
  other keys. -/
  others : ∀ other, other ≠ sectionKey → lookup shm' other ≠ lookup shm other →
    (∃ mutex sectionName key value expiry now,
      call = .set mutex sectionName key (some value) expiry now) ∧
    other = (shm.slots (victim shm call.now)).sectionKey ∧ lookup shm' other = none ∧
    ∀ idx, InRange shm idx →
      (shm.slots idx).sectionKey ≠ "" ∧ (shm.slots idx).sectionKey ≠ sectionKey

theorem WellFormed.accounted (wellFormed : WellFormed hash shm) (wellFormed' : WellFormed hash shm')
    {past : List (Event String String Int)} (contents : lookup shm = latest past) {call : Call}
    {sectionKey : String} (accepted : admitted cfg call = some sectionKey) {reply : Reply}
    (ok : reply.ok = call.unlocks) (effect : Effect shm shm' sectionKey call reply.value) :
    Accounted past shm shm' sectionKey call reply := by
  have nonempty := admitted_ne_empty accepted
  have replayed := effect.refines accepted wellFormed wellFormed' contents
  simp only [callEvents, accepted] at replayed
  cases call with
  | get mutex sectionName key now =>
      refine ⟨ok, ?_, by simp, by simp, ?_⟩
      · rintro _ _ _ _ ⟨⟩
        exact (GetEffect.refines effect nonempty wellFormed wellFormed' contents).1
      · intro other different changed
        refine absurd ?_ changed
        rw [replayed, contents]
        dsimp only
        split
        · rw [latest_concat, Event.key, Function.update_of_ne different]
        · rw [List.append_nil]
  | set mutex sectionName key value expiry now =>
      cases value with
      | none =>
          rw [latest_concat, ← contents] at replayed
          refine ⟨ok, by simp, by simp, ?_, ?_⟩
          · rintro _ _ _ _ _ ⟨⟩
            rw [replayed, Event.key, Function.update_self, Event.entry]
          · intro other different changed
            refine absurd ?_ changed
            rw [replayed, Event.key, Function.update_of_ne different]
      | some value =>
          refine ⟨ok, by simp, ?_, by simp, ?_⟩
          · rintro _ _ _ _ _ _ ⟨⟩
            rw [replayed]
            dsimp only
            split
            · rw [← List.singleton_append, ← List.append_assoc, latest_concat]
              simp [Event.key, Event.entry]
            · rw [latest_concat]
              simp [Event.key, Event.entry]
          · intro other different changed
            refine ⟨⟨_, _, _, _, _, _, rfl⟩, ?_⟩
            dsimp only at replayed
            split at replayed
            · next evicting =>
                rw [Bool.and_eq_true, Option.isNone_iff_eq_none, full_iff] at evicting
                rw [← List.singleton_append, ← List.append_assoc, latest_concat, latest_concat,
                  ← contents] at replayed
                have occupied : ∀ idx, InRange shm idx → (shm.slots idx).sectionKey ≠ "" ∧
                    (shm.slots idx).sectionKey ≠ sectionKey := by
                  intro idx inside
                  have absent := (lookup_eq_none_iff.mp evicting.1).resolve_left nonempty
                  exact ⟨evicting.2 idx inside, fun name => absent idx ⟨inside, name⟩⟩
                by_cases hit : other = (shm.slots (victim shm now)).sectionKey
                · refine ⟨hit, ?_, occupied⟩
                  rw [replayed, Event.key, Function.update_of_ne different, hit, Event.key,
                    Function.update_self, Event.entry]
                · refine absurd ?_ changed
                  rw [replayed, Event.key, Function.update_of_ne different, Event.key,
                    Function.update_of_ne hit]
            · refine absurd ?_ changed
              rw [replayed, latest_concat, ← contents, Event.key, Function.update_of_ne different]

theorem postConfig_lookup {raw : Nat → Entry} {start : Header}
    (started : postConfig cfg raw = some start) : lookup start = latest [] := by
  funext sectionKey
  apply lookup_eq_none_iff.mpr
  by_cases empty : sectionKey = ""
  · exact .inl empty
  refine .inr fun idx holds => ?_
  obtain ⟨nslots, nbuckets, entrySize, -, -, rfl⟩ := postConfig_eq_initialSegment started
  obtain ⟨⟨low, high⟩, name⟩ := holds
  have inside : 1 ≤ idx ∧ idx ≤ nslots := ⟨low, high⟩
  simp only [initialSegment, inside, and_self, if_true] at name
  exact empty name.symm

end Shm

end ModAuthOpenidc
