/-
Cutting text at separators. A separator between two texts is a cut and
nothing else (`cutAt_append_cons`), so a text can be read piece by piece
(`words_append_cons`).
-/

namespace WriteBarrier.Text

/-- Cuts at every character that satisfies `p`. The pieces may be empty, and there is one more of
them than there are separators. -/
def cutAt (p : Char → Bool) : List Char → List (List Char)
  | [] => [[]]
  | c :: rest =>
    if p c then [] :: cutAt p rest
    else match cutAt p rest with
      | [] => [[c]]
      | piece :: pieces => (c :: piece) :: pieces

/-- The blanks of ASCII: space, tab, line feed, form feed and carriage return. Vertical tab and the
blanks beyond ASCII are not among them. -/
def isBlank (c : Char) : Bool :=
  c == ' ' || c == '\t' || c == '\n' || c == '\x0c' || c == '\x0d'

/-- The words between blanks. -/
def words (s : List Char) : List (List Char) := (cutAt isBlank s).filter fun w => !w.isEmpty

/-! ## Laws of the cut -/

theorem cutAt_ne_nil (p : Char → Bool) (s : List Char) : cutAt p s ≠ [] := by
  cases s with
  | nil => simp [cutAt]
  | cons c rest =>
    unfold cutAt
    split
    · simp
    · split <;> simp

/-- There is one more piece than there are separators. -/
theorem length_cutAt (p : Char → Bool) (s : List Char) :
    (cutAt p s).length = s.countP p + 1 := by
  induction s with
  | nil => rfl
  | cons c rest ih =>
    unfold cutAt
    split
    · next hc => simp [ih, hc]
    · next hc =>
      rw [List.countP_cons_of_neg hc, ← ih]
      split
      · next hnil => exact absurd hnil (cutAt_ne_nil p rest)
      · next hcons => rw [hcons]; rfl

theorem cutAt_of_all_not {p : Char → Bool} {s : List Char} (h : ∀ c ∈ s, p c = false) :
    cutAt p s = [s] := by
  induction s with
  | nil => rfl
  | cons c rest ih =>
    have hrest := ih fun d hd => h d (List.mem_cons_of_mem c hd)
    simp [cutAt, h c List.mem_cons_self, hrest]

/-- A separator between two texts is a cut. -/
theorem cutAt_append_cons {p : Char → Bool} {c : Char} (hc : p c = true) (s t : List Char) :
    cutAt p (s ++ c :: t) = cutAt p s ++ cutAt p t := by
  induction s with
  | nil => simp [cutAt, hc]
  | cons d s ih =>
    simp only [List.cons_append, cutAt, ih]
    split
    · rfl
    · have := cutAt_ne_nil p s
      split <;> split <;> simp_all

/-- A blank between two texts keeps their words apart, and adds none. -/
theorem words_append_cons {c : Char} (hc : isBlank c = true) (s t : List Char) :
    words (s ++ c :: t) = words s ++ words t := by
  simp [words, cutAt_append_cons hc]

end WriteBarrier.Text
