import ModAuthOpenidc.TextSearch

/-!
# Paths and their segments

An absolute path is a slash and a segment, any number of times. Dot segments are removed as in URLs,
and a path matches that of a cookie if the cookie's is the path itself or leads to a directory above
it. Whether the dot segments behind such a directory lead out of it is told by counting.
-/

namespace ModAuthOpenidc

namespace PathSegments

/-- What stands between two slashes. -/
abbrev Segment := List Char

/-- The segments behind their slashes. -/
def render (segments : List Segment) : List Char := segments.flatMap ('/' :: ·)

/-- The segments of a path that begins with a slash. -/
def segments (path : List Char) : List Segment := (path.drop 1).splitOn '/'

/-- The path of a request matches the path of a cookie. -/
def Matches (request cookie : List Char) : Prop :=
  request = cookie ∨ cookie <+: request ∧
    (cookie.getLast? = some '/' ∨ (request.drop cookie.length).head? = some '/')

instance (request cookie : List Char) : Decidable (Matches request cookie) :=
  inferInstanceAs (Decidable (_ ∨ _))

/-! ## Dot segments -/

/-- The current directory. -/
def dot : Segment := ['.']

/-- The directory above. -/
def dotDot : Segment := ['.', '.']

/-- A segment that is a directory or a name of its own. -/
def Plain (segment : Segment) : Prop := segment ≠ dot ∧ segment ≠ dotDot

instance (segment : Segment) : Decidable (Plain segment) := inferInstanceAs (Decidable (_ ∧ _))

/-- Go on by one segment. -/
def step (stack : List Segment) (segment : Segment) : List Segment :=
  if segment = dot then stack
  else if segment = dotDot then stack.dropLast
  else stack ++ [segment]

/-- A dot segment at the end stands for a directory. -/
def ended (segments : List Segment) : List Segment :=
  if segments.getLast? = some dot ∨ segments.getLast? = some dotDot then segments ++ [[]]
  else segments

/-- The segments that are left when dot segments have been followed. -/
def resolve (segments : List Segment) : List Segment := (ended segments).foldl step []

/-- The path without dot segments. -/
def removeDotSegments (path : List Char) : List Char := render (resolve (segments path))

/-! ## Paths as texts -/

/-- No segment has a slash in it. -/
def Clean (segments : List Segment) : Prop := ∀ segment ∈ segments, '/' ∉ segment

@[simp] theorem render_nil : render [] = [] := rfl

theorem render_cons (segment : Segment) (rest : List Segment) :
    render (segment :: rest) = '/' :: (segment ++ render rest) := rfl

theorem render_append (front back : List Segment) :
    render (front ++ back) = render front ++ render back := List.flatMap_append

/-- The segments are read again. -/
theorem splitOn_render {segments : List Segment} (clean : Clean segments) :
    (render segments).splitOn '/' = [] :: segments := by
  induction segments with
  | nil => rfl
  | cons segment rest ih =>
      obtain ⟨first, others⟩ := List.forall_mem_cons.mp clean
      have behind : (segment ++ render rest).splitOn '/' = segment :: rest := by
        cases rest with
        | nil => rw [render_nil, List.append_nil, List.splitOn_eq_singleton first]
        | cons next rest =>
            have rendered := ih others
            rw [render_cons, List.splitOn_cons_eq_if_modifyHead, if_pos (beq_self_eq_true '/'),
              List.cons.injEq] at rendered
            rw [render_cons, List.splitOn_append_cons_self_of_not_mem first, rendered.2]
      rw [render_cons, List.splitOn_cons_eq_if_modifyHead, if_pos (beq_self_eq_true '/'), behind]

theorem segments_render {first : Segment} {rest : List Segment} (clean : Clean (first :: rest)) :
    segments (render (first :: rest)) = first :: rest := by
  have split := splitOn_render clean
  rw [render_cons, List.splitOn_cons_eq_if_modifyHead, if_pos (beq_self_eq_true '/'),
    List.cons.injEq] at split
  exact split.2

theorem clean_segments (path : List Char) : Clean (segments path) :=
  fun _ member => notMem_of_mem_splitOn member

/-- A path is the text of its segments. -/
theorem render_segments {path : List Char} (absolute : path.head? = some '/') :
    render (segments path) = path := by
  cases path with
  | nil => cases absolute
  | cons c rest =>
      cases absolute
      obtain ⟨first, others, parts⟩ := List.exists_cons_of_ne_nil (List.splitOn_ne_nil '/' rest)
      have joined := @List.intercalate_splitOn Char rest _ _ '/'
      rw [parts] at joined
      rw [intercalate_cons] at joined
      rw [segments, List.drop_one, List.tail_cons, parts, render_cons, render, joined]

/-! ## Cookie paths -/

/-- The directory of a cookie path: its segments without the slash at the end. -/
def base (cookie : List Char) : List Segment :=
  if cookie = [] then []
  else if (segments cookie).getLast? = some [] then (segments cookie).dropLast
  else segments cookie

/-- Whether a cookie path has a slash at the end. -/
def slashed (cookie : List Char) : Bool :=
  cookie ≠ [] && (segments cookie).getLast? = some []

/-- A cookie path is its directory, and the slash at the end if it has one. -/
theorem cookie_eq {cookie : List Char} (absolute : cookie = [] ∨ cookie.head? = some '/') :
    cookie = render (base cookie) ++ if slashed cookie then ['/'] else [] := by
  unfold base slashed
  by_cases empty : cookie = []
  · subst empty
    rfl
  · have path := render_segments (absolute.resolve_left empty)
    by_cases ends : (segments cookie).getLast? = some []
    · simp only [empty, ends, ne_eq, not_false_eq_true, decide_true, Bool.and_self, if_true,
        if_false]
      have parts := List.dropLast_append_getLast? [] ends
      conv_lhs => rw [← path, ← parts, render_append]
      rfl
    · simp only [empty, ends, ne_eq, not_false_eq_true, decide_true, decide_false, Bool.and_false,
        if_false, Bool.false_eq_true, List.append_nil]
      exact path.symm

theorem clean_base (cookie : List Char) : Clean (base cookie) := by
  unfold base
  split
  · exact List.forall_mem_nil _
  · split
    · exact fun segment member => clean_segments cookie segment (List.mem_of_mem_dropLast member)
    · exact clean_segments cookie

/-- A directory and a slash are the front of a path that leads below the directory. -/
theorem prefix_render_slash {front whole : List Segment} (cleanFront : Clean front)
    (clean : Clean whole) :
    render front ++ ['/'] <+: render whole ↔ front <+: whole ∧ front.length < whole.length := by
  constructor
  · rintro ⟨rest, parts⟩
    have split := congrArg (List.splitOn '/') parts
    rw [List.append_assoc, List.singleton_append, List.splitOn_append_cons_self,
      splitOn_render cleanFront, splitOn_render clean, List.cons_append, List.cons.injEq] at split
    refine ⟨⟨_, split.2⟩, ?_⟩
    have more := List.length_pos_of_ne_nil (List.splitOn_ne_nil '/' rest)
    rw [← split.2, List.length_append]
    omega
  · rintro ⟨⟨rest, rfl⟩, longer⟩
    cases rest with
    | nil =>
        rw [List.append_nil] at longer
        omega
    | cons segment rest =>
        rw [render_append, render_cons]
        exact ⟨segment ++ render rest, by simp⟩

theorem render_injective {first second : List Segment} (cleanFirst : Clean first)
    (cleanSecond : Clean second) (same : render first = render second) : first = second := by
  have split := congrArg (List.splitOn '/') same
  rw [splitOn_render cleanFirst, splitOn_render cleanSecond, List.cons.injEq] at split
  exact split.2

/-- Without a slash at the end, a cookie path does not end in one. -/
theorem getLast?_of_not_slashed {cookie : List Char}
    (absolute : cookie = [] ∨ cookie.head? = some '/') (plain : slashed cookie = false) :
    cookie.getLast? ≠ some '/' := by
  by_cases empty : cookie = []
  · rw [empty]
    exact nofun
  · intro ends
    have path := render_segments (absolute.resolve_left empty)
    have open_end : (segments cookie).getLast? ≠ some [] := by
      intro last
      rw [slashed, last] at plain
      simp [empty] at plain
    cases last : (segments cookie).getLast? with
    | none =>
        rw [List.getLast?_eq_none_iff.mp last] at path
        exact empty path.symm
    | some segment =>
        have parts := List.dropLast_append_getLast? segment last
        have nonempty : segment ≠ [] := fun none_left => open_end (none_left ▸ last)
        have clean := clean_segments cookie segment (List.mem_of_getLast? last)
        rw [← path, ← parts, render_append, render_cons, render_nil, List.append_nil,
          List.getLast?_append_of_ne_nil _ (List.cons_ne_nil _ _),
          List.getLast?_cons_of_ne_nil nonempty] at ends
        exact clean (List.mem_of_getLast? ends)

/-- A path matches a cookie path if it leads into the directory of the cookie path, and below it if
the cookie path has a slash at the end. -/
theorem matches_iff {whole : List Segment} (clean : Clean whole) {cookie : List Char}
    (absolute : cookie = [] ∨ cookie.head? = some '/') :
    Matches (render whole) cookie ↔
      base cookie <+: whole ∧ (slashed cookie = true → (base cookie).length < whole.length) := by
  have cookie_parts := cookie_eq absolute
  cases ends : slashed cookie with
  | true =>
      rw [ends, if_pos rfl] at cookie_parts
      have last : cookie.getLast? = some '/' := by
        rw [cookie_parts, List.getLast?_append_of_ne_nil _ (List.cons_ne_nil _ _)]
        rfl
      have front : Matches (render whole) cookie ↔ cookie <+: render whole := by
        constructor
        · rintro (same | ⟨front, -⟩)
          · rw [same]
          · exact front
        · exact fun front => .inr ⟨front, .inl last⟩
      rw [front, cookie_parts, prefix_render_slash (clean_base cookie) clean]
      simp only [forall_true_left]
      rw [← cookie_parts]
  | false =>
      rw [ends, if_neg Bool.false_ne_true, List.append_nil] at cookie_parts
      simp only [Bool.false_eq_true, false_implies, and_true]
      constructor
      · rintro (same | ⟨⟨rest, parts⟩, last | next⟩)
        · rw [cookie_parts] at same
          exact (render_injective clean (clean_base cookie) same) ▸ List.prefix_refl _
        · exact absurd last (getLast?_of_not_slashed absolute ends)
        · rw [← parts, List.drop_left] at next
          obtain ⟨tail, rfl⟩ := List.head?_eq_some_iff.mp next
          refine ((prefix_render_slash (clean_base cookie) clean).mp ⟨tail, ?_⟩).1
          rw [← parts, List.append_assoc, List.singleton_append, ← cookie_parts]
      · rintro ⟨rest, rfl⟩
        rw [render_append, ← cookie_parts]
        cases rest with
        | nil => exact .inl (List.append_nil _)
        | cons segment rest =>
            refine .inr ⟨List.prefix_append _ _, .inr ?_⟩
            rw [List.drop_left, render_cons]
            rfl

/-- A cookie path that an absolute path matches is absolute, or there is nothing of it. -/
theorem absolute_of_matches {path cookie : List Char} (absolute : path.head? = some '/')
    (fits : Matches path cookie) : cookie = [] ∨ cookie.head? = some '/' := by
  have front : cookie <+: path := by
    rcases fits with same | ⟨front, -⟩
    · rw [same]
    · exact front
  obtain ⟨rest, rfl⟩ := front
  cases cookie with
  | nil => exact .inl rfl
  | cons first cookie => exact .inr absolute

/-! ## Following dot segments -/

theorem mem_foldl_step {stack rest : List Segment} {segment : Segment}
    (member : segment ∈ rest.foldl step stack) :
    segment ∈ stack ∨ segment ∈ rest ∧ Plain segment := by
  induction rest generalizing stack with
  | nil => exact .inl member
  | cons next rest ih =>
      rw [List.foldl_cons] at member
      rcases ih member with held | ⟨later, plain⟩
      · unfold step at held
        split at held
        · exact .inl held
        · split at held
          · exact .inl (List.mem_of_mem_dropLast held)
          · next notDot notDotDot =>
              rcases List.mem_append.mp held with older | newer
              · exact .inl older
              · rw [List.mem_singleton] at newer
                subst newer
                exact .inr ⟨List.mem_cons_self, notDot, notDotDot⟩
      · exact .inr ⟨List.mem_cons_of_mem _ later, plain⟩

theorem mem_ended {whole : List Segment} {segment : Segment} (member : segment ∈ ended whole) :
    segment ∈ whole ∨ segment = [] := by
  unfold ended at member
  split at member
  · exact (List.mem_append.mp member).imp_right List.mem_singleton.mp
  · exact .inl member

/-- No dot segments are left. -/
theorem plain_resolve {whole : List Segment} {segment : Segment}
    (member : segment ∈ resolve whole) : Plain segment := by
  rcases mem_foldl_step member with empty | ⟨-, plain⟩
  · cases empty
  · exact plain

theorem clean_resolve {whole : List Segment} (clean : Clean whole) : Clean (resolve whole) := by
  intro segment member
  rcases mem_foldl_step member with empty | ⟨inside, -⟩
  · cases empty
  · rcases mem_ended inside with own | rfl
    · exact clean segment own
    · exact List.not_mem_nil

/-- A directory without dot segments is reached as it is. -/
theorem foldl_step_plain {front : List Segment} (plain : ∀ segment ∈ front, Plain segment)
    (stack : List Segment) : front.foldl step stack = stack ++ front := by
  induction front generalizing stack with
  | nil => rw [List.foldl_nil, List.append_nil]
  | cons segment front ih =>
      obtain ⟨⟨notDot, notDotDot⟩, rest⟩ := List.forall_mem_cons.mp plain
      rw [List.foldl_cons, step, if_neg notDot, if_neg notDotDot, ih rest, List.append_assoc,
        List.singleton_append]

/-- How many segments of a directory are left, and how many more there are below them. -/
def climb (directory : List Segment) (place : Nat × Nat) (segment : Segment) : Nat × Nat :=
  if segment = dot then place
  else if segment = dotDot then
    if place.2 = 0 then (place.1 - 1, 0) else (place.1, place.2 - 1)
  else if place.2 = 0 ∧ directory[place.1]? = some segment then (place.1 + 1, 0)
  else (place.1, place.2 + 1)

/-- A place stands for segments: some of the directory and others that lead elsewhere. -/
def Place (directory stack : List Segment) (place : Nat × Nat) : Prop :=
  ∃ others, stack = directory.take place.1 ++ others ∧ others.length = place.2 ∧
    place.1 ≤ directory.length ∧ ∀ first ∈ others.head?, directory[place.1]? ≠ some first

/-- Climbing keeps count. -/
theorem Place.climb {directory stack : List Segment} {place : Nat × Nat}
    (here : Place directory stack place) (segment : Segment) :
    Place directory (step stack segment) (climb directory place segment) := by
  obtain ⟨depth, below⟩ := place
  obtain ⟨others, rfl, rfl, inside, apart⟩ := here
  dsimp only at inside apart
  unfold step PathSegments.climb
  dsimp only
  split
  · exact ⟨others, rfl, rfl, inside, apart⟩
  · split
    · cases others with
      | nil =>
          rw [List.length_nil, if_pos rfl, List.append_nil]
          refine ⟨[], ?_, rfl, by omega, nofun⟩
          have fewer : min (min depth directory.length - 1) depth = depth - 1 := by omega
          rw [List.append_nil, List.dropLast_eq_take, List.take_take, List.length_take, fewer]
      | cons first others =>
          rw [List.length_cons, if_neg (Nat.succ_ne_zero _), List.dropLast_append_cons]
          refine ⟨(first :: others).dropLast, rfl, ?_, inside, fun other found => ?_⟩
          · rw [List.length_dropLast, List.length_cons]
          · cases others with
            | nil => cases found
            | cons second others => exact apart other found
    · split
      · next again =>
          obtain ⟨nothing, found⟩ := again
          rw [List.length_eq_zero_iff] at nothing
          subst nothing
          have longer := (List.getElem?_eq_some_iff.mp found).1
          refine ⟨[], ?_, rfl, longer, nofun⟩
          rw [List.append_nil, List.append_nil, List.take_add_one, found]
          rfl
      · next elsewhere =>
          refine ⟨others ++ [segment], (List.append_assoc _ _ _), ?_, inside, fun other found => ?_⟩
          · rw [List.length_append, List.length_singleton]
          · cases others with
            | nil =>
                cases found
                exact fun same => elsewhere ⟨rfl, same⟩
            | cons first others => exact apart other found

theorem Place.walk {directory stack : List Segment} {place : Nat × Nat}
    (here : Place directory stack place) (rest : List Segment) :
    Place directory (rest.foldl step stack) (rest.foldl (PathSegments.climb directory) place) := by
  induction rest generalizing stack place with
  | nil => exact here
  | cons segment rest ih => exact ih (here.climb segment)

/-- The directory is left unless all of its segments are there, and the rest is below it. -/
theorem Place.prefix_iff {directory stack : List Segment} {place : Nat × Nat}
    (here : Place directory stack place) :
    directory <+: stack ↔ place.1 = directory.length := by
  obtain ⟨others, rfl, -, inside, apart⟩ := here
  constructor
  · rintro ⟨rest, parts⟩
    by_contra less
    have shorter : place.1 < directory.length := by omega
    have next : directory[place.1]? = some directory[place.1] := List.getElem?_eq_getElem shorter
    have found := congrArg (fun stack : List Segment => stack[place.1]?) parts
    rw [List.getElem?_append_left shorter, List.getElem?_append_right (by simp), next,
      List.length_take, Nat.min_eq_left inside, Nat.sub_self, ← List.head?_eq_getElem?] at found
    exact apart _ found.symm next
  · intro whole
    rw [whole, List.take_length]
    exact List.prefix_append _ _

theorem Place.length_eq {directory stack : List Segment} {place : Nat × Nat}
    (here : Place directory stack place) : stack.length = place.1 + place.2 := by
  obtain ⟨others, rfl, length, inside, -⟩ := here
  rw [List.length_append, List.length_take, Nat.min_eq_left inside, length]

/-! ## Staying within a cookie path -/

/-- Where the segments of a path behind the directory of a cookie path lead. -/
def walk (path cookie : List Char) : Nat × Nat :=
  ((ended (segments path)).drop (base cookie).length).foldl (climb (base cookie))
    ((base cookie).length, 0)

/-- The segments behind the directory of a cookie path do not lead out of it, and below it if the
cookie path has a slash at the end. -/
structure Stays (path cookie : List Char) : Prop where
  plain : ∀ segment ∈ base cookie, Plain segment
  returns : (walk path cookie).1 = (base cookie).length
  below : slashed cookie = true → 0 < (walk path cookie).2

/-- If a path matches a cookie path, then the path without dot segments does so if and only if the
segments behind the directory stay within it. -/
theorem removeDotSegments_matches_iff {path cookie : List Char}
    (absolute : path.head? = some '/') (directory : cookie = [] ∨ cookie.head? = some '/')
    (fits : Matches path cookie) :
    Matches (removeDotSegments path) cookie ↔ Stays path cookie := by
  have clean := clean_segments path
  rw [← render_segments absolute, matches_iff clean directory] at fits
  rw [removeDotSegments, matches_iff (clean_resolve clean) directory]
  by_cases plain : ∀ segment ∈ base cookie, Plain segment
  · have front : base cookie <+: ended (segments path) := by
      refine fits.1.trans ?_
      unfold ended
      split
      · exact List.prefix_append _ _
      · exact List.prefix_refl _
    have start : Place (base cookie) (base cookie) ((base cookie).length, 0) :=
      ⟨[], by simp, rfl, le_rfl, nofun⟩
    have place := start.walk ((ended (segments path)).drop (base cookie).length)
    have resolved : resolve (segments path) =
        ((ended (segments path)).drop (base cookie).length).foldl step (base cookie) := by
      have whole := List.prefix_iff_eq_append.mp front
      rw [resolve, ← whole, List.foldl_append, foldl_step_plain plain, List.nil_append,
        List.drop_left]
    rw [resolved, place.prefix_iff, place.length_eq]
    constructor
    · rintro ⟨returns, below⟩
      refine ⟨plain, returns, fun slash => ?_⟩
      have longer := below slash
      rw [returns] at longer
      exact Nat.lt_add_right_iff_pos.mp longer
    · rintro ⟨-, returns, below⟩
      refine ⟨returns, fun slash => ?_⟩
      rw [walk] at returns below
      rw [returns]
      exact Nat.lt_add_right_iff_pos.mpr (below slash)
  · refine iff_of_false ?_ fun stays => plain stays.plain
    rintro ⟨front, -⟩
    exact plain fun segment member => plain_resolve (front.subset member)

end PathSegments

end ModAuthOpenidc
