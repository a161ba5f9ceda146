import ModAuthOpenidc.Http.Cookie

/-!
# How many cookies one call sets

A value is stored in at most `OIDC_HTTP_COOKIE_CHUNKS_MAX` chunks, and a reader accepts no more than
that. The chunks of an old value are cleared by a count that comes from the request.
-/

namespace ModAuthOpenidc

namespace Http

/-- A value is stored in one cookie, or removed, and the chunks of an older value are cleared. -/
def Clears (cookieValue : String) (chunkSize : Nat) : Prop :=
  chunkSize = 0 ∨ lengthInt cookieValue = 0 ∨
    (0 < lengthInt cookieValue ∧ lengthInt cookieValue < chunkSize)

instance (cookieValue : String) (chunkSize : Nat) : Decidable (Clears cookieValue chunkSize) :=
  inferInstanceAs (Decidable (_ ∨ _ ∨ _))

/-- The largest number of headers that is needed: all chunks, their count and the cookie itself. -/
def setCookieLimit : Int := chunksMax + 2

variable (context : CookieContext) (header : Option String) (cookieName : String)

/-- Clearing emits a header for each chunk that the request announces, and one for their count. -/
theorem length_clearChunkedCookie (expires : Int) (ext : Option String) :
    ((clearChunkedCookie context header cookieName expires ext).length : Int) =
      if 0 < getChunkedCount header cookieName then getChunkedCount header cookieName + 1
          else 0 := by
  rw [clearChunkedCookie]
  split
  · rename_i positive
    rw [List.length_append, List.length_map, List.length_range, List.length_singleton]
    omega
  · rfl

/-- When the old chunks are cleared, the headers are as many as the request says. -/
theorem length_of_clears {cookieValue : String} {chunkSize : Nat}
    (clears : Clears cookieValue chunkSize)
    (expires : Int) (ext : Option String) :
    ((setChunkedCookie context header cookieName cookieValue expires chunkSize ext).1.length :
        Int) =
      1 + if 0 < getChunkedCount header cookieName then getChunkedCount header cookieName + 1
          else 0 := by
  rw [← length_clearChunkedCookie context header cookieName expires ext, setChunkedCookie]
  dsimp only
  split
  · rw [List.length_cons]
    omega
  · rename_i notOne
    split
    · rw [List.length_cons]
      omega
    · rename_i notEmpty
      rcases clears with unchunked | empty | short
      · exact absurd (.inl unchunked) notOne
      · exact absurd empty notEmpty
      · exact absurd (.inr short) notOne

/-- When the value is stored in chunks, or refused, the headers stay within the limit. -/
theorem length_of_not_clears {cookieValue : String} {chunkSize : Nat}
    (stores : ¬Clears cookieValue chunkSize) (expires : Int) (ext : Option String) :
    ((setChunkedCookie context header cookieName cookieValue expires chunkSize ext).1.length :
        Int) ≤
      setCookieLimit := by
  rw [setChunkedCookie]
  dsimp only
  split
  · rename_i one
    exact absurd (one.imp_right .inr) stores
  · split
    · rename_i empty
      exact absurd (.inr (.inl empty)) stores
    · split
      · decide
      · rename_i small
        rw [List.length_append, List.length_map, List.length_range, setCookieLimit]
        dsimp only [List.length_cons, List.length_nil]
        have bound := not_lt.mp small
        have limit : (0 : Int) ≤ chunksMax := by decide
        omega

/-- One call sets no more cookies than the limit, unless it clears chunks for a count above the
maximum. -/
theorem setChunkedCookie_limit_iff (cookieValue : String) (expires : Int) (chunkSize : Nat)
    (ext : Option String) :
    ((setChunkedCookie context header cookieName cookieValue expires chunkSize ext).1.length :
        Int) ≤
        setCookieLimit ↔
      ¬Clears cookieValue chunkSize ∨ getChunkedCount header cookieName ≤ chunksMax := by
  by_cases clears : Clears cookieValue chunkSize
  · rw [length_of_clears context header cookieName clears, setCookieLimit]
    have limit : chunksMax = 99 := rfl
    constructor
    · intro within
      right
      split at within <;> omega
    · intro within
      have small := within.resolve_left (not_not_intro clears)
      split <;> omega
  · exact iff_of_true (length_of_not_clears context header cookieName clears expires ext)
      (.inl clears)

/-- A count of a hundred chunks in the request makes a hundred and two headers. -/
theorem setChunkedCookie_many :
    ((setChunkedCookie {} (some "c_chunks=100") "c" "" 0 0 none).1.length : Int) = 102 ∧
      ¬((setChunkedCookie {} (some "c_chunks=100") "c" "" 0 0 none).1.length : Int) ≤
        setCookieLimit := by
  decide +kernel

end Http

end ModAuthOpenidc
