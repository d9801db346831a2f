/-
What the options hold after any history of assignments: each what the last
assignment to it wrote that could be read and was admitted.

There are three ways to assign by name, with a rule each for what counts as an
assignment at all: any call does, a word of a bulk text that has one equals sign,
a variable whose key carries the mark and then, in lower case, the name of an
option. Past these rules the ways are one. A history of assignments is a list of
settings to make, with gaps where nothing could be read (`state_settleAll`), and
a setting touches its own option and no other.

Which lower-casing it is does not matter: the names of options are ASCII words,
and any lower-casing finds those that folding finds (`Text.LowerCases.eq_iff`).
-/
import WriteBarrier.Options
import WriteBarrier.Text.LowerCase

namespace WriteBarrier

/-! ## Settings and the values that write them -/

namespace Setting

variable {s : Setting} {o : OptionName} {name value : String}

/-- The value writes the setting, and the option admits it. -/
def WrittenAs (s : Setting) (value : String) : Prop :=
  match s with
  | barrier selector => value = selector.name
  | logBytesInCard log =>
    Text.readByte value.toList = some log ∧ minLogBytesInCard ≤ log ∧ log ≤ maxLogBytesInCard
  | reduceInitialCardMarks on => Text.readBool value = some on
  | concurrentCardScanning on => Text.readBool value = some on

theorem ofValue_option_eq_ok_iff : ofValue s.option value = .ok s ↔ s.WrittenAs value := by
  cases s with
  | barrier selector =>
    simp only [ofValue, option, WrittenAs, ← Selector.ofName?_eq_some_iff]
    cases Selector.ofName? value <;> simp
  | logBytesInCard log =>
    simp only [ofValue, option, WrittenAs]
    cases Text.readByte value.toList with
    | none => simp
    | some n =>
      by_cases hn : minLogBytesInCard ≤ n ∧ n ≤ maxLogBytesInCard
      · simp only [if_pos hn, Except.ok.injEq, logBytesInCard.injEq, Option.some.injEq]
        exact ⟨fun h => ⟨h, h ▸ hn⟩, And.left⟩
      · simp only [if_neg hn, Option.some.injEq, reduceCtorEq, false_iff]
        exact fun h => hn (h.1 ▸ h.2)
  | reduceInitialCardMarks on =>
    simp only [ofValue, option, WrittenAs]
    cases Text.readBool value <;> simp
  | concurrentCardScanning on =>
    simp only [ofValue, option, WrittenAs]
    cases Text.readBool value <;> simp

theorem ofValue_eq_ok_iff : ofValue o value = .ok s ↔ s.option = o ∧ s.WrittenAs value := by
  constructor
  · intro h
    have ho := option_ofValue h
    subst ho
    exact ⟨rfl, ofValue_option_eq_ok_iff.1 h⟩
  · rintro ⟨rfl, h⟩
    exact ofValue_option_eq_ok_iff.2 h

theorem read_eq_ok_iff : read name value = .ok s ↔ name = s.option.text ∧ s.WrittenAs value := by
  unfold read
  cases ho : OptionName.ofText? name with
  | none =>
    refine iff_of_false (nomatch ·) fun h => ?_
    rw [OptionName.ofText?_eq_some_iff.2 h.1] at ho
    cases ho
  | some o =>
    rw [OptionName.ofText?_eq_some_iff] at ho
    subst ho
    refine ofValue_eq_ok_iff.trans (and_congr_left fun _ => ?_)
    exact ⟨fun h => h ▸ rfl, fun h => (OptionName.text_injective h).symm⟩

theorem read_text (o : OptionName) (value : String) : read o.text value = ofValue o value := by
  rw [read, OptionName.ofText?_eq_some_iff.2 rfl]

end Setting

/-! ## Assignments -/

/-- The name of an option, or of none, with the value that it is to have. -/
structure Assignment where
  name : String
  value : String
  deriving DecidableEq

namespace Assignment

variable {a : Assignment} {s : Setting} {lower : List Char → List Char}

/-- The assignment makes the setting: it names the option, and its value writes what the option admits. -/
def Makes (a : Assignment) (s : Setting) : Prop := a.name = s.option.text ∧ s.WrittenAs a.value

def read (a : Assignment) : Except Notice Setting := Setting.read a.name a.value

/-- The setting that the assignment makes, if it makes one. -/
def setting? (a : Assignment) : Option Setting := a.read.toOption

theorem setting?_eq_some_iff : a.setting? = some s ↔ a.Makes s := by
  refine Iff.trans ?_ Setting.read_eq_ok_iff
  rw [setting?, read]
  cases Setting.read a.name a.value <;> simp [Except.toOption]

/-- A word of a bulk text is an assignment if it has exactly one equals sign. -/
def ofWord? (word : List Char) : Option Assignment :=
  if word.count '=' = 1 then
    some ⟨String.ofList (word.takeWhile (· != '=')), String.ofList ((word.dropWhile (· != '=')).drop 1)⟩
  else none

/-- A variable is an assignment if its key is the mark and then, in lower case, the name of an option. -/
def ofVariable? (lower : List Char → List Char) (entry : String × String) :
    Option Assignment := do
  let rest ← entry.1.toList.dropPrefix? Setting.environmentMark.toList
  let name := String.ofList (lower rest)
  if name ∈ OptionName.all.map OptionName.text then some ⟨name, entry.2⟩ else none

theorem ofWord?_append {name value : List Char} (hname : '=' ∉ name) (hvalue : '=' ∉ value) :
    ofWord? (name ++ '=' :: value) = some ⟨String.ofList name, String.ofList value⟩ := by
  have hone : (name ++ '=' :: value).count '=' = 1 := by
    rw [List.count_append, List.count_cons_self, List.count_eq_zero_of_not_mem hname,
      List.count_eq_zero_of_not_mem hvalue]
  have hbefore : ∀ c ∈ name, (c != '=') = true := fun c hc => bne_iff_ne.2 fun h => hname (h ▸ hc)
  rw [ofWord?, if_pos hone, List.takeWhile_append_of_pos hbefore, List.dropWhile_append_of_pos hbefore]
  simp

theorem exists_of_count_eq_one {word : List Char} (hone : word.count '=' = 1) :
    ∃ name value, word = name ++ '=' :: value ∧ '=' ∉ name ∧ '=' ∉ value := by
  obtain ⟨name, value, rfl, hname⟩ := List.eq_append_cons_of_mem
    (List.count_pos_iff.1 (hone ▸ Nat.one_pos))
  rw [List.count_append, List.count_cons_self, List.count_eq_zero_of_not_mem hname] at hone
  exact ⟨name, value, rfl, hname, List.count_eq_zero.1 (by omega)⟩

/-- A word without or with several equals signs is reported, and any other is read as an assignment. -/
theorem ofToken_eq (word : List Char) : Setting.ofToken word =
    match ofWord? word with
    | some a => a.read
    | none => .error (.malformedOption (String.ofList word)) := by
  by_cases hone : word.count '=' = 1
  · obtain ⟨name, value, rfl, hname, hvalue⟩ := exists_of_count_eq_one hone
    have hcut : Text.cutAt (· == '=') (name ++ '=' :: value) = [name, value] := by
      rw [Text.cutAt_append_cons (by decide), Text.cutAt_of_all_not, Text.cutAt_of_all_not]
      · rfl
      · exact fun c hc => beq_false_of_ne fun h => hvalue (h ▸ hc)
      · exact fun c hc => beq_false_of_ne fun h => hname (h ▸ hc)
    rw [ofWord?_append hname hvalue, Setting.ofToken, hcut]
    rfl
  · have hnone : ofWord? word = none := if_neg hone
    have hlength := Text.length_cutAt (· == '=') word
    rw [hnone, Setting.ofToken]
    split
    · next hcut =>
      rw [hcut] at hlength
      exact absurd (Nat.succ.inj hlength).symm hone
    · rfl

theorem optionOfKey?_eq_some_iff (hlower : Text.LowerCases lower) {key : String} {o : OptionName} :
    Setting.optionOfKey? key = some o ↔
      ∃ rest, key.toList.dropPrefix? Setting.environmentMark.toList = some rest ∧
        String.ofList (lower rest) = o.text := by
  have hascii : ∀ c ∈ o.text.toList, c.toNat < 128 := by
    have hall : o.text.toList.all (·.toNat < 128) = true := by cases o <;> decide +kernel
    simpa using hall
  have hname : ∀ rest, OptionName.ofText? (String.ofList (rest.map Text.foldCase)) = some o ↔
      String.ofList (lower rest) = o.text := by
    intro rest
    rw [OptionName.ofText?_eq_some_iff, ← String.toList_inj, ← String.toList_inj,
      String.toList_ofList, String.toList_ofList, hlower.eq_iff hascii]
  simp only [Setting.optionOfKey?, List.isPrefixOf_iff_prefix]
  by_cases hprefix : Setting.environmentMark.toList <+: key.toList
  · obtain ⟨rest, hrest⟩ := hprefix
    have hdrop : key.toList.dropPrefix? Setting.environmentMark.toList = some rest :=
      List.dropPrefix?_eq_some_iff.2 ⟨_, hrest.symm, beq_self_eq_true _⟩
    rw [if_pos ⟨rest, hrest⟩, hdrop, ← hrest, List.drop_left, hname]
    simp
  · rw [if_neg hprefix]
    refine iff_of_false (nomatch ·) fun ⟨rest, hdrop, _⟩ => hprefix ?_
    obtain ⟨mark, hkey, hmark⟩ := List.dropPrefix?_eq_some_iff.1 hdrop
    exact ⟨rest, by rw [hkey, eq_of_beq hmark]⟩

theorem mem_names_iff {name : String} :
    name ∈ OptionName.all.map OptionName.text ↔ ∃ o, name = OptionName.text o := by
  rw [List.mem_map]
  exact ⟨fun ⟨o, _, ho⟩ => ⟨o, ho.symm⟩, fun ⟨o, ho⟩ => ⟨o, o.mem_all, ho.symm⟩⟩

theorem ofVariable?_eq (hlower : Text.LowerCases lower) (key value : String) :
    ofVariable? lower (key, value) =
      (Setting.optionOfKey? key).map fun o => ⟨o.text, value⟩ := by
  cases ho : Setting.optionOfKey? key with
  | some o =>
    obtain ⟨rest, hdrop, hname⟩ := (optionOfKey?_eq_some_iff hlower).1 ho
    have hmem : o.text ∈ OptionName.all.map OptionName.text := mem_names_iff.2 ⟨o, rfl⟩
    simp only [ofVariable?, hdrop, Option.bind_eq_bind, Option.bind_some, hname, if_pos hmem,
      Option.map_some]
  | none =>
    cases hdrop : key.toList.dropPrefix? Setting.environmentMark.toList with
    | none => simp [ofVariable?, hdrop]
    | some rest =>
      have hmem : String.ofList (lower rest) ∉ OptionName.all.map OptionName.text := by
        intro hmem
        obtain ⟨o, hname⟩ := mem_names_iff.1 hmem
        rw [(optionOfKey?_eq_some_iff hlower).2 ⟨rest, hdrop, hname⟩] at ho
        cases ho
      simp only [ofVariable?, hdrop, Option.bind_eq_bind, Option.bind_some, if_neg hmem, Option.map_none]

end Assignment

/-! ## Options -/

namespace Options

open Assignment (ofWord? ofVariable?)

variable {o : Options} {s : Setting} {n : OptionName} {lower : List Char → List Char}

/-- What the options hold of option `n`, as a setting of it. -/
def get (o : Options) : OptionName → Setting
  | .barrier => .barrier o.barrier
  | .logBytesInCard => .logBytesInCard o.logBytesInCard
  | .reduceInitialCardMarks => .reduceInitialCardMarks o.reduceInitialCardMarks
  | .concurrentCardScanning => .concurrentCardScanning o.concurrentCardScanning

@[simp] theorem get_assign_self (o : Options) (s : Setting) : (o.assign s).get s.option = s := by
  cases s <;> rfl

theorem get_assign_of_ne (h : s.option ≠ n) : (o.assign s).get n = o.get n := by
  cases s <;> cases n <;> first | rfl | exact absurd rfl h

theorem get_foldl_assign (settings : List Setting) (o : Options) (n : OptionName) :
    (settings.foldl assign o).get n = (settings.reverse.find? (·.option = n)).getD (o.get n) := by
  induction settings generalizing o with
  | nil => rfl
  | cons s rest ih =>
    rw [List.foldl_cons, ih, List.reverse_cons, List.find?_append]
    cases rest.reverse.find? (·.option = n) with
    | some last => rfl
    | none =>
      by_cases hs : s.option = n
      · subst hs
        simp
      · simp [hs, get_assign_of_ne hs]

theorem settle_ok (s : Setting) (o : Options) :
    (settle (.ok s)).run o = ⟨.ok true, o.assign s, []⟩ := rfl

theorem settle_error (warning : Notice) (o : Options) :
    (settle (.error warning)).run o = ⟨.ok false, o, [warning]⟩ := rfl

/-- Each setting is made or reported on its own. What could not be read does not keep the others from
being made, and what is reported of it does not depend on the options. -/
theorem run_settleAll (xs : List (Except Notice Setting)) (o p : Options) :
    (settleAll xs).run o =
      ⟨.ok (xs.all Except.isOk), xs.foldl (fun o x => ((settle x).run o).state) o,
        xs.flatMap fun x => ((settle x).run p).log⟩ := by
  induction xs generalizing o with
  | nil => rfl
  | cons x rest ih =>
    cases x with
    | ok s =>
      rw [settleAll, Action.run_bind_ok (settle_ok s o), bind_pure_comp, Action.run_map, ih]
      rfl
    | error warning =>
      rw [settleAll, Action.run_bind_ok (settle_error warning o), bind_pure_comp, Action.run_map, ih]
      rfl

theorem state_settleAll (xs : List (Except Notice Setting)) (o : Options) :
    ((settleAll xs).run o).state = (xs.filterMap Except.toOption).foldl assign o := by
  rw [run_settleAll xs o o, List.foldl_filterMap]
  refine congrArg (List.foldl · o xs) (funext₂ fun p x => ?_)
  cases x <;> rfl

/-! ## Histories -/

/-- A call that sets options. -/
inductive Request where
  | set (name value : String)
  | setBulk (text : String)
  deriving DecidableEq

def serve : Request → Action Options Bool
  | .set name value => set name value
  | .setBulk text => setBulk text

/-- The assignments that a call makes, in order. -/
def Request.assignments : Request → List Assignment
  | set name value => [⟨name, value⟩]
  | setBulk text => (Text.words text.toList).filterMap ofWord?

/-- The options after a run of calls. -/
def run (o : Options) (requests : List Request) : Options :=
  requests.foldl (fun o q => ((serve q).run o).state) o

/-- Of the settings that a history of assignments makes of option `n`, the last. -/
def lastSetting? (history : List Assignment) (n : OptionName) : Option Setting :=
  (history.reverse.filterMap Assignment.setting?).find? (·.option = n)

theorem state_serve (q : Request) (o : Options) :
    ((serve q).run o).state = (q.assignments.filterMap Assignment.setting?).foldl assign o := by
  cases q with
  | set name value =>
    show ((settle (Setting.read name value)).run o).state = _
    cases hread : Setting.read name value with
    | ok s =>
      have hsetting : Assignment.setting? ⟨name, value⟩ = some s := congrArg Except.toOption hread
      rw [Request.assignments, List.filterMap_cons_some hsetting]
      rfl
    | error warning =>
      have hsetting : Assignment.setting? ⟨name, value⟩ = none := congrArg Except.toOption hread
      rw [Request.assignments, List.filterMap_cons_none hsetting]
      rfl
  | setBulk text =>
    have hword : ∀ word, (Setting.ofToken word).toOption = (ofWord? word).bind Assignment.setting? := by
      intro word
      rw [Assignment.ofToken_eq]
      cases ofWord? word <;> rfl
    show ((settleAll _).run o).state = _
    rw [state_settleAll, Request.assignments, List.filterMap_map, List.filterMap_filterMap]
    simp only [Function.comp_def, hword]

theorem state_readEnvironment (hlower : Text.LowerCases lower) (env : Environment) (o : Options) :
    ((readEnvironment env).run o).state =
      ((env.filterMap (ofVariable? lower)).filterMap Assignment.setting?).foldl assign o := by
  have hvariable : ∀ entry : String × String,
      ((Setting.optionOfKey? entry.1).map (Setting.ofValue · entry.2)).bind Except.toOption =
        (ofVariable? lower entry).bind Assignment.setting? := by
    rintro ⟨key, value⟩
    rw [Assignment.ofVariable?_eq hlower]
    cases Setting.optionOfKey? key with
    | none => rfl
    | some n =>
      show (Setting.ofValue n value).toOption = (Setting.read n.text value).toOption
      rw [Setting.read_text]
  have hstate : ((readEnvironment env).run o).state = ((settleAll _).run o).state :=
    congrArg Outcome.state (Action.run_map (fun _ => ()) _ o)
  rw [hstate, state_settleAll, List.filterMap_filterMap, List.filterMap_filterMap]
  simp only [hvariable]

/-- A run of calls makes the settings of their assignments, in order. -/
theorem run_eq (o : Options) (requests : List Request) :
    o.run requests =
      ((requests.flatMap Request.assignments).filterMap Assignment.setting?).foldl assign o := by
  induction requests generalizing o with
  | nil => rfl
  | cons q rest ih =>
    rw [List.flatMap_cons, List.filterMap_append, List.foldl_append, ← state_serve]
    exact ih _

/-- A call by name is decided by the name and the value, and what it answers and does with it. -/
theorem set_cases (name value : String) :
    (∃ s, Assignment.Makes ⟨name, value⟩ s ∧
      ∀ o, (set name value).run o = ⟨.ok true, o.assign s, []⟩) ∨
    (∀ s, ¬ Assignment.Makes ⟨name, value⟩ s) ∧
      ∃ warning, ∀ o, (set name value).run o = ⟨.ok false, o, [warning]⟩ := by
  cases hread : Setting.read name value with
  | ok s =>
    refine .inl ⟨s, Setting.read_eq_ok_iff.1 hread, fun o => ?_⟩
    rw [set, hread, settle_ok]
  | error warning =>
    refine .inr ⟨fun s hs => ?_, warning, fun o => ?_⟩
    · rw [Setting.read_eq_ok_iff.2 hs] at hread
      cases hread
    · rw [set, hread, settle_error]

/-- **The last valid assignment of an option wins.** Take any options, such as the built-in ones, any
environment, and any calls that set options by name or in bulk. The variables that carry the mark and, in
lower case, the name of an option, the calls by name and the words with one equals sign are the
assignments, in order; those whose value can be read and is admitted are made, and the others change
nothing. So every option holds what the last assignment to it made of it, or what it held before if there
is none. A setting touches no other option; and whether a call by name is accepted depends on the name and
the value only. -/
theorem last_valid_assignment_wins (hlower : Text.LowerCases lower) (env : Environment)
    (requests : List Request) (o : Options) :
    let history := env.filterMap (ofVariable? lower) ++ requests.flatMap Request.assignments
    let o' := ((readEnvironment env).run o).state.run requests
    (∀ (a : Assignment) s, a.setting? = some s ↔ a.name = s.option.text ∧ s.WrittenAs a.value) ∧
    o' = (history.filterMap Assignment.setting?).foldl assign o ∧
    (∀ n, o'.get n = (lastSetting? history n).getD (o.get n)) ∧
    (∀ (p : Options) s, (p.assign s).get s.option = s ∧
      ∀ n, s.option ≠ n → (p.assign s).get n = p.get n) ∧
    ∀ name value,
      (∃ s, Assignment.Makes ⟨name, value⟩ s ∧
        ∀ p, (set name value).run p = ⟨.ok true, p.assign s, []⟩) ∨
      (∀ s, ¬ Assignment.Makes ⟨name, value⟩ s) ∧
        ∃ warning, ∀ p, (set name value).run p = ⟨.ok false, p, [warning]⟩ := by
  intro history o'
  have hall : o' = (history.filterMap Assignment.setting?).foldl assign o := by
    rw [List.filterMap_append, List.foldl_append, ← state_readEnvironment hlower, ← run_eq]
  refine ⟨fun a s => Assignment.setting?_eq_some_iff, hall, fun n => ?_,
    fun p s => ⟨get_assign_self p s, fun n => get_assign_of_ne⟩, set_cases⟩
  rw [hall, get_foldl_assign, lastSetting?, List.filterMap_reverse]

/-- Keys in any case and with a Kelvin sign, values that cannot be read or are not admitted, words with no
or two equals signs, and options assigned more than once. -/
theorem last_valid_assignment_wins_over_refused :
    let env : Environment := [("CARDMARK_LOG_BYTES_IN_CARD", "10"), ("CARDMARK_barrier", "nobarrier"),
      ("CARDMARK_Concurrent_Card_Scanning", "true"), ("CARDMARK_REDUCE_INITIAL_CARD_MAR\u212aS", "false"),
      ("LOG_BYTES_IN_CARD", "7"), ("CARDMARK_log_bytes_in_card", "13")]
    let requests : List Request := [
      .setBulk "log_bytes_in_card=+011 log_bytes_in_card=8=9 concurrent_card_scanning barrier=NoBarrier",
      .set "log_bytes_in_card" "300", .set "LOG_BYTES_IN_CARD" "7"]
    let o := ((readEnvironment env).run default).state.run requests
    Text.LowerCases (·.map Text.foldCase) ∧
    o.get .barrier = .barrier .noBarrier ∧ o.get .logBytesInCard = .logBytesInCard 11 ∧
    o.get .reduceInitialCardMarks = .reduceInitialCardMarks false ∧
    o.get .concurrentCardScanning = .concurrentCardScanning true ∧
    ∃ warning, ∀ p, (set "LOG_BYTES_IN_CARD" "7").run p = ⟨.ok false, p, [warning]⟩ := by
  intro env requests o
  have hlower := Text.lowerCases_foldCase
  obtain ⟨-, -, hlast, -, hset⟩ := last_valid_assignment_wins hlower env requests default
  -- The settings that are made, the last one first.
  have hmade : (env.filterMap (ofVariable? (·.map Text.foldCase)) ++
        requests.flatMap Request.assignments).reverse.filterMap Assignment.setting? =
      [.barrier .noBarrier, .logBytesInCard 11, .reduceInitialCardMarks false,
        .concurrentCardScanning true, .logBytesInCard 10] := by decide +kernel
  simp only [lastSetting?, hmade] at hlast
  refine ⟨hlower, hlast .barrier, hlast .logBytesInCard, hlast .reduceInitialCardMarks,
    hlast .concurrentCardScanning, ?_⟩
  have hcase : ∀ n : OptionName, "LOG_BYTES_IN_CARD" ≠ n.text := by
    intro n
    cases n <;> decide
  obtain ⟨s, ⟨hname, -⟩, -⟩ | ⟨-, hrefused⟩ := hset "LOG_BYTES_IN_CARD" "7"
  · exact absurd hname (hcase s.option)
  · exact hrefused

end Options

end WriteBarrier
