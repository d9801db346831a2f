/-
What lower-casing is, as far as ASCII words can tell. Which form a character
has is a matter of tables beyond ASCII, and may depend on where the character
stands; but only the Kelvin sign there has a form that is ASCII. So folding case
(`Text.foldCase`) finds the ASCII words that any lower-casing finds.
-/
import Mathlib
import WriteBarrier.Text.Reading

namespace WriteBarrier.Text

variable {c : Char} {form s word : List Char} {forms : List (List Char)}
  {lower : List Char → List Char}

/-- What the lower-case form of a character is: an ASCII character has its ASCII form, the Kelvin sign the
letter k, and any other character a form that is not all ASCII. -/
def LowersTo (c : Char) (form : List Char) : Prop :=
  if c.toNat < 128 then form = [c.toLower]
  else if c = '\u212a' then form = ['k']
  else ∃ d ∈ form, 128 ≤ d.toNat

/-- The function lower-cases a text, character by character. -/
def LowerCases (lower : List Char → List Char) : Prop :=
  ∀ s, ∃ forms, List.Forall₂ LowersTo s forms ∧ lower s = forms.flatten

/-! ## Folding -/

theorem foldCase_of_ascii (h : c.toNat < 128) : foldCase c = c.toLower := by
  have hall : ∀ n < 128, foldCase (Char.ofNat n) = (Char.ofNat n).toLower := by decide
  have hc := hall c.toNat h
  rwa [Char.ofNat_toNat] at hc

theorem foldCase_of_beyond (h : ¬ c.toNat < 128) (hkelvin : c ≠ '\u212a') : foldCase c = c := by
  have hcapital : ¬ ('A' ≤ c ∧ c ≤ 'Z') := by
    rintro ⟨-, hle⟩
    have hle' : c.toNat ≤ 90 := UInt32.le_iff_toNat_le.1 hle
    omega
  rw [foldCase, if_neg hcapital, if_neg hkelvin]

theorem lowersTo_foldCase (c : Char) : LowersTo c [foldCase c] := by
  unfold LowersTo
  split
  · next hascii => rw [foldCase_of_ascii hascii]
  · next hbeyond =>
    split
    · next hkelvin =>
      subst hkelvin
      decide
    · next hother =>
      rw [foldCase_of_beyond hbeyond hother]
      exact ⟨c, List.mem_cons_self, Nat.not_lt.1 hbeyond⟩

/-- Folding each character is a lower-casing, as far as ASCII is concerned. -/
theorem lowerCases_foldCase : LowerCases (·.map foldCase) := by
  intro s
  refine ⟨s.map fun c => [foldCase c], ?_, List.map_eq_flatMap⟩
  rw [List.forall₂_map_right_iff, List.forall₂_same]
  exact fun c _ => lowersTo_foldCase c

/-- The form of a character is what folding makes of it, or neither is ASCII. -/
theorem LowersTo.cases (h : LowersTo c form) :
    form = [foldCase c] ∨ (∃ d ∈ form, 128 ≤ d.toNat) ∧ 128 ≤ (foldCase c).toNat := by
  unfold LowersTo at h
  split at h
  · next hascii =>
    rw [foldCase_of_ascii hascii]
    exact .inl h
  · next hbeyond =>
    split at h
    · next hkelvin =>
      subst hkelvin
      exact .inl (h.trans (by decide))
    · next hother =>
      rw [foldCase_of_beyond hbeyond hother]
      exact .inr ⟨h, Nat.not_lt.1 hbeyond⟩

/-! ## ASCII words -/

theorem flatten_eq_iff (h : List.Forall₂ LowersTo s forms) (hword : ∀ c ∈ word, c.toNat < 128) :
    forms.flatten = word ↔ s.map foldCase = word := by
  induction h generalizing word with
  | nil => rfl
  | @cons c form s forms hform _ ih =>
    rw [List.flatten_cons, List.map_cons]
    obtain rfl | ⟨⟨d, hd, hdbeyond⟩, hbeyond⟩ := hform.cases
    · cases word with
      | nil => simp
      | cons x word =>
        have hrest := ih fun c hc => hword c (List.mem_cons_of_mem x hc)
        simp [hrest]
    · constructor
      · rintro rfl
        exact absurd (hword d (List.mem_append_left _ hd)) (Nat.not_lt.2 hdbeyond)
      · rintro rfl
        exact absurd (hword _ List.mem_cons_self) (Nat.not_lt.2 hbeyond)

/-- **Any lower-casing finds the ASCII words that folding finds.** -/
theorem LowerCases.eq_iff (h : LowerCases lower) (hword : ∀ c ∈ word, c.toNat < 128) :
    lower s = word ↔ s.map foldCase = word := by
  obtain ⟨forms, hforms, hlower⟩ := h s
  rw [hlower]
  exact flatten_eq_iff hforms hword

end WriteBarrier.Text
