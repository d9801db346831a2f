/-
Bulk texts as text: what a text sets is what its words set, one after the other, so
two texts with a gap between them set what the first and then the second sets.

Three facts carry this. A text is known by the words it spells (`Text.spells_iff`),
and a gap keeps the words of two texts apart (`Text.words_append_gap`). What a word
does, it does alone (`setWord`), and a word that is refused stops no other, so the
outcome of a list of words is put together from theirs (`run_settleAll`). And
whether a word is accepted does not depend on what the options hold.
-/
import WriteBarrier.Proofs.OptionHistory
import WriteBarrier.Proofs.Spacing

namespace WriteBarrier

theorem Assignment.ofWord?_eq_some_iff {word : List Char} {a : Assignment} :
    ofWord? word = some a ↔
      word = a.name.toList ++ '=' :: a.value.toList ∧ '=' ∉ a.name.toList ∧ '=' ∉ a.value.toList := by
  constructor
  · intro h
    by_cases hone : word.count '=' = 1
    · obtain ⟨name, value, rfl, hname, hvalue⟩ := exists_of_count_eq_one hone
      rw [ofWord?_append hname hvalue, Option.some.injEq] at h
      subst h
      simpa using ⟨hname, hvalue⟩
    · rw [ofWord?, if_neg hone] at h
      cases h
  · rintro ⟨rfl, hname, hvalue⟩
    rw [ofWord?_append hname hvalue]
    simp

namespace Options

open Assignment (ofWord?)

variable {o p : Options} {word : List Char} {ws : List (List Char)} {text : String}

/-! ## Words -/

/-- What a word of a bulk text does: with exactly one equals sign it sets the option that stands before
the sign, and otherwise it is reported. -/
def setWord (word : List Char) : Action Options Bool :=
  match ofWord? word with
  | some a => set a.name a.value
  | none => do
    Action.report (.malformedOption (String.ofList word))
    return false

/-- The word has exactly one equals sign, and setting the option before it to the value behind it is
accepted. -/
def Accepts (o : Options) (word : List Char) : Prop :=
  ∃ name value : String, word = name.toList ++ '=' :: value.toList ∧
    '=' ∉ name.toList ∧ '=' ∉ value.toList ∧ ((set name value).run o).answer = .ok true

theorem settle_ofToken (word : List Char) : settle (Setting.ofToken word) = setWord word := by
  rw [Assignment.ofToken_eq, setWord]
  cases ofWord? word <;> rfl

theorem answer_settle (x : Except Notice Setting) (o : Options) :
    ((settle x).run o).answer = .ok x.isOk := by
  cases x <;> rfl

theorem accepts_iff : o.Accepts word ↔ ((setWord word).run o).answer = .ok true := by
  rw [setWord]
  constructor
  · rintro ⟨name, value, hword, hname, hvalue, haccepted⟩
    rw [Assignment.ofWord?_eq_some_iff (a := ⟨name, value⟩) |>.2 ⟨hword, hname, hvalue⟩]
    exact haccepted
  · intro h
    cases hword : ofWord? word with
    | some a =>
      obtain ⟨heq, hname, hvalue⟩ := Assignment.ofWord?_eq_some_iff.1 hword
      rw [hword] at h
      exact ⟨a.name, a.value, heq, hname, hvalue, h⟩
    | none =>
      rw [hword] at h
      cases h

theorem isOk_ofToken_iff : (Setting.ofToken word).isOk = true ↔ o.Accepts word := by
  rw [accepts_iff, ← settle_ofToken, answer_settle, Except.ok.injEq]

instance (o : Options) (word : List Char) : Decidable (o.Accepts word) :=
  decidable_of_iff _ isOk_ofToken_iff

theorem state_setWord_of_not_accepts (h : ¬ p.Accepts word) (o : Options) :
    ((setWord word).run o).state = o := by
  rw [← settle_ofToken]
  cases hread : Setting.ofToken word with
  | ok s => exact absurd (isOk_ofToken_iff.1 (congrArg Except.isOk hread)) h
  | error warning => rfl

theorem foldl_filter_accepts (ws : List (List Char)) (o p : Options) :
    (ws.filter (p.Accepts ·)).foldl (fun o word => ((setWord word).run o).state) o =
      ws.foldl (fun o word => ((setWord word).run o).state) o := by
  rw [List.foldl_filter]
  refine congrArg (List.foldl · o ws) (funext₂ fun o word => ?_)
  by_cases h : p.Accepts word
  · simp [h]
  · simp [h, state_setWord_of_not_accepts h]

/-! ## Texts -/

/-- A bulk text is known by its words. -/
theorem setBulk_congr {s t : String} (h : Text.words s.toList = Text.words t.toList) :
    setBulk s = setBulk t := by
  rw [setBulk, setBulk, h]

theorem run_setBulk (h : Text.Spells text.toList ws) (o p : Options) :
    (setBulk text).run o =
      ⟨.ok (ws.all fun word => (Setting.ofToken word).isOk),
        ws.foldl (fun o word => ((setWord word).run o).state) o,
        ws.flatMap fun word => ((setWord word).run p).log⟩ := by
  rw [setBulk, h.words_eq, run_settleAll _ o p, List.all_map, List.foldl_map, List.flatMap_map]
  simp only [settle_ofToken, Function.comp_def]

/-- A text cut at a gap: first the words of the one part, then those of the other. -/
theorem run_setBulk_append {gap : String} (hgap : Text.IsGap gap.toList) (t₁ t₂ : String)
    (o : Options) : ∃ a b o₁ o₂ log₁ log₂, (setBulk t₁).run o = ⟨.ok a, o₁, log₁⟩ ∧
      (setBulk t₂).run o₁ = ⟨.ok b, o₂, log₂⟩ ∧
      (setBulk (t₁ ++ gap ++ t₂)).run o = ⟨.ok (a && b), o₂, log₁ ++ log₂⟩ := by
  refine ⟨_, _, _, _, _, _, run_settleAll _ o o, run_settleAll _ _ o, ?_⟩
  rw [setBulk, String.toList_append, String.toList_append, Text.words_append_gap hgap, List.map_append,
    run_settleAll _ o o, List.all_append, List.foldl_append, List.flatMap_append]

theorem setBulk_gap_append {gap : String} (hgap : Text.IsGap gap.toList) (text : String) :
    setBulk (gap ++ text) = setBulk text := by
  apply setBulk_congr
  rw [String.toList_append, Text.words_append_of_forall_mem hgap.2]

theorem setBulk_append_gap {gap : String} (hgap : Text.IsGap gap.toList) (text : String) :
    setBulk (text ++ gap) = setBulk text := by
  apply setBulk_congr
  rw [String.toList_append, ← List.append_nil (text.toList ++ gap.toList), Text.words_append_gap hgap,
    Text.words_nil, List.append_nil]

theorem setBulk_change_gap {gap gap' : String} (hgap : Text.IsGap gap.toList)
    (hgap' : Text.IsGap gap'.toList) (t₁ t₂ : String) :
    setBulk (t₁ ++ gap ++ t₂) = setBulk (t₁ ++ gap' ++ t₂) := by
  apply setBulk_congr
  simp only [String.toList_append, Text.words_append_gap hgap, Text.words_append_gap hgap']

/-- **Bulk texts are read piece by piece.** Two texts with a gap between them leave the options, and report,
what the first and then the second does, and are accepted if both are. A gap in front or at the end does
nothing, and a longer gap no more than a single space. So a text does what the words that it spells do, one
after the other, and it spells one list of words: those that are accepted are made, whatever the others are,
and the text is accepted if all of them are, each a name and a value with one equals sign between them that
can be set by name. A bulk text never ends in a fault. -/
theorem bulk_text_is_read_piecewise {gap : String} (hgap : Text.IsGap gap.toList) (t₁ t₂ : String)
    (o : Options) :
    (∃ a b o₁ o₂ log₁ log₂, (setBulk t₁).run o = ⟨.ok a, o₁, log₁⟩ ∧
      (setBulk t₂).run o₁ = ⟨.ok b, o₂, log₂⟩ ∧
      (setBulk (t₁ ++ gap ++ t₂)).run o = ⟨.ok (a && b), o₂, log₁ ++ log₂⟩) ∧
    (setBulk (gap ++ t₂) = setBulk t₂ ∧ setBulk (t₁ ++ gap) = setBulk t₁ ∧
      setBulk (t₁ ++ gap ++ t₂) = setBulk (t₁ ++ " " ++ t₂)) ∧
    ∀ text : String, (∃! ws, Text.Spells text.toList ws) ∧
      ∀ ws, Text.Spells text.toList ws → ∀ p, ∃ accepted,
        (setBulk text).run o =
          ⟨.ok accepted,
            (ws.filter (p.Accepts ·)).foldl (fun o word => ((setWord word).run o).state) o,
            ws.flatMap fun word => ((setWord word).run p).log⟩ ∧
        (accepted = true ↔ ∀ word ∈ ws, p.Accepts word) := by
  refine ⟨run_setBulk_append hgap t₁ t₂ o, ⟨setBulk_gap_append hgap t₂, setBulk_append_gap hgap t₁,
    setBulk_change_gap hgap (by decide) t₁ t₂⟩, fun text => ⟨?_, fun ws hws p => ?_⟩⟩
  · obtain ⟨ws, hws⟩ := Text.exists_spells text.toList
    exact ⟨ws, hws, fun other hother => hother.words_eq.symm.trans hws.words_eq⟩
  · rw [foldl_filter_accepts]
    refine ⟨_, run_setBulk hws o p, ?_⟩
    rw [List.all_eq_true]
    exact forall₂_congr fun word _ => isOk_ofToken_iff

/-- Words with no or two equals signs, and words that go on over a vertical tab and over a blank beyond
ASCII. -/
theorem bulk_text_is_read_piecewise_past_refused_words :
    let gap := "\t\x0d\n "
    let first := "\x0clog_bytes_in_card=10 bogus"
    let second := "barrier=No\x0bBarrier a=b=c concurrent_card_scanning=true\u00a0 log_bytes_in_card=+8\n"
    let words := ["log_bytes_in_card=10", "bogus", "barrier=No\x0bBarrier", "a=b=c",
      "concurrent_card_scanning=true\u00a0", "log_bytes_in_card=+8"].map String.toList
    Text.IsGap gap.toList ∧ Text.Spells (first ++ gap ++ second).toList words ∧
    (setBulk (first ++ gap ++ second)).run default = ⟨.ok false, { logBytesInCard := 8 },
      [.malformedOption "bogus", .unreadableValue "barrier" "No\x0bBarrier", .malformedOption "a=b=c",
        .unreadableValue "concurrent_card_scanning" "true\u00a0"]⟩ ∧
    setBulk (first ++ gap ++ second) = setBulk (first ++ " " ++ second) := by
  intro gap first second words
  have hgap : Text.IsGap gap.toList := by decide
  have hspells : Text.Spells (first ++ gap ++ second).toList words :=
    Text.spells_iff.2 (by decide +kernel)
  obtain ⟨-, ⟨-, -, hspace⟩, htext⟩ := bulk_text_is_read_piecewise hgap first second default
  obtain ⟨accepted, hrun, haccepted⟩ := (htext (first ++ gap ++ second)).2 words hspells default
  have hrefused : accepted = false := by
    refine Bool.eq_false_iff.2 fun h => ?_
    obtain ⟨name, value, hbogus, -⟩ := haccepted.1 h "bogus".toList (by simp [words])
    have hsign : '=' ∈ "bogus".toList := hbogus ▸ List.mem_append_right _ List.mem_cons_self
    exact absurd hsign (by decide)
  have hstate : (words.filter (default.Accepts ·)).foldl
      (fun o word => ((setWord word).run o).state) default = { logBytesInCard := 8 } := by
    decide +kernel
  have hlog : (words.flatMap fun word => ((setWord word).run default).log) =
      [.malformedOption "bogus", .unreadableValue "barrier" "No\x0bBarrier", .malformedOption "a=b=c",
        .unreadableValue "concurrent_card_scanning" "true\u00a0"] := by decide +kernel
  rw [hrefused, hstate, hlog] at hrun
  exact ⟨hgap, hspells, hrun, hspace⟩

end Options

end WriteBarrier
