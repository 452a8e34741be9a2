import YamlTidy.Proofs.Text.Rows

/-!
# Comment rows

A *comment row* is a row that shows a number sign in front of everything but spaces.
`Text.commentRows` are those of a text, without the spaces around them.  `Text.Tells s rs` says
that `rs` are the comment rows of `s` and that its last row is none of them, so that something
that does not begin one may be written behind `s`; a comment row is added at the beginning of a
row.
-/

namespace YamlTidy
namespace Text

/-- A text without the spaces at either end. -/
def trimSpaces (s : List Char) : List Char :=
  ((s.dropWhile (· == ' ')).reverse.dropWhile (· == ' ')).reverse

/-- A row without the spaces around it, if it is a comment row. -/
def commentRow? (row : List Char) : Option (List Char) :=
  if (row.dropWhile (· == ' ')).head? = some '#' then some (trimSpaces row) else none

/-- The comment rows of a text. -/
def commentRows (s : List Char) : List (List Char) :=
  (rows s).filterMap commentRow?

theorem trimSpaces_append_spaces (n : Nat) (s : List Char) :
    trimSpaces (List.replicate n ' ' ++ s) = trimSpaces s := by
  rw [trimSpaces, List.dropWhile_append_of_pos
    fun c hc => by rw [List.eq_of_mem_replicate hc]; rfl]
  rfl

theorem commentRow?_eq_none {row : List Char} :
    commentRow? row = none ↔ (row.dropWhile (· == ' ')).head? ≠ some '#' := by
  rw [commentRow?]
  split <;> simp_all

theorem commentRow?_of_notMem {row : List Char} (h : '#' ∉ row) : commentRow? row = none :=
  commentRow?_eq_none.mpr fun hhead =>
    h ((List.dropWhile_suffix _).mem (List.mem_of_mem_head? hhead))

/-- A row that begins with something else that can be seen is no comment row. -/
theorem commentRow?_cons {c : Char} {row : List Char} (hspace : c ≠ ' ') (hsign : c ≠ '#') :
    commentRow? (c :: row) = none := by
  rw [commentRow?_eq_none, List.dropWhile_cons_of_neg (by simpa using hspace)]
  simpa using hsign

theorem commentRow?_append {s t : List Char} (hs : commentRow? s = none)
    (ht : commentRow? t = none) : commentRow? (s ++ t) = none := by
  rw [commentRow?_eq_none] at hs ht ⊢
  cases hdrop : s.dropWhile (· == ' ') with
  | nil => rwa [List.dropWhile_append, hdrop, List.isEmpty_nil, if_pos rfl]
  | cons c rest =>
      rw [hdrop] at hs
      rwa [List.dropWhile_append, hdrop, if_neg (by simp)]

theorem commentRow?_sign (n : Nat) (s : List Char) :
    commentRow? (List.replicate n ' ' ++ '#' :: s) = some (trimSpaces ('#' :: s)) := by
  rw [commentRow?, trimSpaces_append_spaces, List.dropWhile_append_of_pos
    fun c hc => by rw [List.eq_of_mem_replicate hc]; rfl]
  exact if_pos rfl

theorem commentRows_of_notMem {s : List Char} (h : '#' ∉ s) : commentRows s = [] :=
  List.filterMap_eq_nil_iff.mpr fun _ hrow =>
    commentRow?_of_notMem fun hsign => h (mem_of_mem_rows hrow hsign)

theorem commentRows_append (s t : List Char) :
    commentRows (s ++ '\n' :: t) = commentRows s ++ commentRows t := by
  rw [commentRows, rows_append, List.filterMap_append]
  rfl

theorem commentRows_sign (n : Nat) {s : List Char} (hs : '\n' ∉ s) :
    commentRows (List.replicate n ' ' ++ '#' :: s) = [trimSpaces ('#' :: s)] := by
  have hrow : '\n' ∉ List.replicate n ' ' ++ '#' :: s := by simp [hs]
  rw [commentRows, rows_of_lineFeed_not_mem hrow, List.filterMap_cons, commentRow?_sign]
  rfl

/-- The comment rows of a text are the given ones, and its last row is none of them. -/
def Tells (s : List Char) (rs : List (List Char)) : Prop :=
  commentRows s = rs ∧ ∃ front tail, (s = tail ∨ s = front ++ '\n' :: tail) ∧
    '\n' ∉ tail ∧ commentRow? tail = none

/-- The next character begins a row. -/
def AtRowStart (s : List Char) : Prop :=
  s = [] ∨ ∃ front, s = front ++ ['\n']

theorem commentRows_inline {s : List Char} (h : '\n' ∉ s) (hs : commentRow? s = none) :
    commentRows s = [] := by
  rw [commentRows, rows_of_lineFeed_not_mem h, List.filterMap_cons, hs]
  rfl

/-- Behind a line feed a row begins that is no comment row yet. -/
theorem tells_feed {s : List Char} {rs : List (List Char)} (h : commentRows s = rs) :
    Tells (s ++ ['\n']) rs := by
  refine ⟨?_, s, [], .inr rfl, List.not_mem_nil, rfl⟩
  rw [commentRows_append, h]
  exact List.append_nil rs

namespace Tells

variable {s t : List Char} {rs : List (List Char)}

theorem nil : Tells [] [] :=
  ⟨rfl, [], [], .inl rfl, List.not_mem_nil, rfl⟩

/-- What begins no comment row may be written on in the last row. -/
theorem append_inline (h : Tells s rs) (hfeed : '\n' ∉ t) (ht : commentRow? t = none) :
    Tells (s ++ t) rs := by
  obtain ⟨hrows, front, tail, hs, htail, hnone⟩ := h
  have hfeed' : '\n' ∉ tail ++ t := by simp [htail, hfeed]
  have hnone' := commentRow?_append hnone ht
  rcases hs with rfl | rfl
  · rw [commentRows_inline htail hnone] at hrows
    exact ⟨by rw [commentRows_inline hfeed' hnone', hrows], [], _, .inl rfl, hfeed', hnone'⟩
  · rw [commentRows_append, commentRows_inline htail hnone] at hrows
    have happend : front ++ '\n' :: tail ++ t = front ++ '\n' :: (tail ++ t) := by simp
    refine ⟨?_, front, _, .inr happend, hfeed', hnone'⟩
    rw [happend, commentRows_append, commentRows_inline hfeed' hnone', hrows]

/-- What has no number signs changes nothing. -/
theorem append (h : Tells s rs) (ht : '#' ∉ t) : Tells (s ++ t) rs := by
  induction t generalizing s with
  | nil => rwa [List.append_nil]
  | cons c t ih =>
      obtain ⟨hc, ht⟩ := not_or.mp (List.mem_cons.not.mp ht)
      have hfirst : Tells (s ++ [c]) rs := by
        by_cases hfeed : c = '\n'
        · rw [hfeed]
          exact tells_feed h.1
        · exact h.append_inline (by simpa using Ne.symm hfeed)
            (commentRow?_of_notMem (by simpa using hc))
      rw [List.append_cons]
      exact ih hfirst ht

/-- A text that is told may be followed by another row. -/
theorem append_row {rs' : List (List Char)} (h : Tells s rs) (ht : Tells t rs') :
    Tells (s ++ '\n' :: t) (rs ++ rs') := by
  obtain ⟨hrows, front, tail, hs, htail⟩ := ht
  refine ⟨by rw [commentRows_append, h.1, hrows], ?_⟩
  rcases hs with rfl | rfl
  · exact ⟨s, t, .inr rfl, htail⟩
  · exact ⟨s ++ '\n' :: front, tail, .inr (by simp), htail⟩

/-- At the beginning of a row a comment row is written, and line feeds behind it. -/
theorem append_sign (h : Tells s rs) (hstart : AtRowStart s) (n k : Nat) (ht : '\n' ∉ t) :
    Tells (s ++ (List.replicate n ' ' ++ '#' :: (t ++ '\n' :: List.replicate k '\n')))
      (rs ++ [trimSpaces ('#' :: t)]) := by
  have hrows : commentRows (s ++ (List.replicate n ' ' ++ '#' :: t)) =
      rs ++ [trimSpaces ('#' :: t)] := by
    rcases hstart with rfl | ⟨front, rfl⟩
    · rw [← h.1, List.nil_append, commentRows_sign n ht]
      rfl
    · rw [List.append_assoc, List.singleton_append, commentRows_append, commentRows_sign n ht,
        ← h.1, commentRows_append]
      simp [commentRows_of_notMem]
  have hall := (tells_feed hrows).append (t := List.replicate k '\n') (by simp)
  simpa using hall

end Tells

theorem AtRowStart.lines {s : List Char} (t : List Char) (k : Nat) :
    AtRowStart (s ++ (t ++ '\n' :: List.replicate k '\n')) := by
  refine .inr ⟨s ++ (t ++ List.replicate k '\n'), ?_⟩
  rw [← List.replicate_succ, List.replicate_succ']
  simp

end Text
end YamlTidy
