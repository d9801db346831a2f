/-
The words of a text, told from the side of the writer: a text spells a list of
words if it writes them in order, with blanks wherever it likes and at least one
between two words. Every text spells exactly one list, and cutting finds it
(`spells_iff`). So blanks before, after and between words are worth nothing beyond
keeping words apart, and a gap between two texts keeps all their words apart.
-/
import WriteBarrier.Text.Words

namespace WriteBarrier.Text

/-! ## Blanks and words -/

/-- The characters that stand between words. -/
def blanks : List Char := [' ', '\t', '\n', '\x0c', '\x0d']

theorem isBlank_iff_mem : isBlank c = true ↔ c ∈ blanks := by
  simp [isBlank, blanks, or_assoc]

/-- Blanks, one at least. -/
def IsGap (gap : List Char) : Prop := gap ≠ [] ∧ ∀ c ∈ gap, c ∈ blanks

instance (gap : List Char) : Decidable (IsGap gap) :=
  decidable_of_iff ((!gap.isEmpty && gap.all isBlank) = true) (by simp [IsGap, isBlank_iff_mem])

/-- Characters that are no blanks, one at least. -/
def IsWord (w : List Char) : Prop := w ≠ [] ∧ ∀ c ∈ w, c ∉ blanks

/-- The text spells the words, in their order. What follows a word starts with a blank, if anything
follows. -/
inductive Spells : List Char → List (List Char) → Prop
  | nil : Spells [] []
  | blank {c s ws} : c ∈ blanks → Spells s ws → Spells (c :: s) ws
  | word {w s ws} : IsWord w → (∀ c ∈ s.head?, c ∈ blanks) → Spells s ws → Spells (w ++ s) (w :: ws)

/-! ## What cutting finds -/

variable {c : Char} {s w gap : List Char} {ws : List (List Char)}

theorem words_nil : words [] = [] := rfl

theorem words_cons_of_mem (hc : c ∈ blanks) (s : List Char) : words (c :: s) = words s := by
  rw [← List.nil_append (c :: s), words_append_cons (isBlank_iff_mem.2 hc), words_nil, List.nil_append]

theorem words_append_of_forall_mem (hgap : ∀ c ∈ gap, c ∈ blanks) (s : List Char) :
    words (gap ++ s) = words s := by
  induction gap with
  | nil => rfl
  | cons c gap ih =>
    rw [List.cons_append, words_cons_of_mem (hgap c List.mem_cons_self)]
    exact ih fun d hd => hgap d (List.mem_cons_of_mem c hd)

/-- A gap between two texts keeps their words apart, and adds none. -/
theorem words_append_gap (hgap : IsGap gap) (s t : List Char) :
    words (s ++ gap ++ t) = words s ++ words t := by
  obtain ⟨hne, hblanks⟩ := hgap
  obtain ⟨c, gap, rfl⟩ := List.exists_cons_of_ne_nil hne
  obtain ⟨hc, hrest⟩ := List.forall_mem_cons.1 hblanks
  rw [List.append_assoc, List.cons_append, words_append_cons (isBlank_iff_mem.2 hc),
    words_append_of_forall_mem hrest]

theorem IsWord.words_eq (hw : IsWord w) : words w = [w] := by
  have hnone : ∀ c ∈ w, isBlank c = false := fun c hc =>
    Bool.eq_false_iff.2 fun h => hw.2 c hc (isBlank_iff_mem.1 h)
  rw [words, cutAt_of_all_not hnone]
  simp [hw.1]

theorem IsWord.words_append (hw : IsWord w) (hs : ∀ c ∈ s.head?, c ∈ blanks) :
    words (w ++ s) = w :: words s := by
  cases s with
  | nil => rw [List.append_nil, hw.words_eq, words_nil]
  | cons c s =>
    have hc : c ∈ blanks := hs c rfl
    rw [words_append_cons (isBlank_iff_mem.2 hc), hw.words_eq, words_cons_of_mem hc, List.singleton_append]

theorem Spells.words_eq (h : Spells s ws) : words s = ws := by
  induction h with
  | nil => exact words_nil
  | blank hc _ ih => rw [words_cons_of_mem hc, ih]
  | word hw hs _ ih => rw [hw.words_append hs, ih]

/-- A character more in front is a blank, a word of its own, or the first letter of the first word. -/
theorem exists_spells (s : List Char) : ∃ ws, Spells s ws := by
  induction s with
  | nil => exact ⟨[], .nil⟩
  | cons c s ih =>
    obtain ⟨ws, h⟩ := ih
    by_cases hc : c ∈ blanks
    · exact ⟨ws, h.blank hc⟩
    have hletter : IsWord [c] := ⟨List.cons_ne_nil c [], by simpa using hc⟩
    cases h with
    | nil => exact ⟨[[c]], .word hletter (fun d hd => nomatch hd) .nil⟩
    | @blank d s ws hd h =>
      have hnext : ∀ e ∈ (d :: s).head?, e ∈ blanks := by simpa using hd
      exact ⟨[c] :: ws, .word hletter hnext (h.blank hd)⟩
    | @word w s ws hw hs h =>
      have hlonger : IsWord (c :: w) :=
        ⟨List.cons_ne_nil c w, List.forall_mem_cons.2 ⟨hc, hw.2⟩⟩
      exact ⟨(c :: w) :: ws, .word hlonger hs h⟩

/-- **Cutting finds the words that a text spells.** -/
theorem spells_iff : Spells s ws ↔ words s = ws := by
  refine ⟨Spells.words_eq, ?_⟩
  rintro rfl
  obtain ⟨ws, h⟩ := exists_spells s
  exact h.words_eq ▸ h

end WriteBarrier.Text
