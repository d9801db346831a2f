/-
Options that were only ever set by name are admissible, and admissible options
make a barrier set, on one condition that the caller can see: the heap starts at
a multiple of the card size.

There are three ways to set an option by name, and all of them come down to
settings that were read and found admissible (`Setting.Admissible`). The card
size decides whether building can go wrong in other ways: a table takes any size
below the width of a word, and shifts by it unchecked. What a set was built with
answers for it from then on, since neither the options of a set nor the way its
table is scanned ever changes.
-/
import WriteBarrier.Proofs.Permanence

namespace WriteBarrier

open WriteBarrier.Action (Keeps)

/-! ## Settings -/

namespace Setting

variable {s : Setting}

/-- The size of cards is between the smallest and the largest. -/
def Admissible : Setting → Prop
  | logBytesInCard log => minLogBytesInCard ≤ log ∧ log ≤ maxLogBytesInCard
  | _ => True

theorem admissible_of_ofValue {o : OptionName} {value : String} (h : ofValue o value = .ok s) :
    s.Admissible := by
  cases s with
  | logBytesInCard log =>
    have ho := option_ofValue h
    subst ho
    simp only [ofValue, option] at h
    split at h
    · split at h
      · next hrange => cases h; exact hrange
      · cases h
    · cases h
  | barrier | reduceInitialCardMarks | concurrentCardScanning => trivial

theorem admissible_of_read {name value : String} (h : read name value = .ok s) : s.Admissible := by
  unfold read at h
  split at h
  · exact admissible_of_ofValue h
  · cases h

theorem admissible_of_ofToken {token : List Char} (h : ofToken token = .ok s) : s.Admissible := by
  unfold ofToken at h
  split at h
  · exact admissible_of_read h
  · cases h

end Setting

/-! ## Options -/

namespace Options

variable {o : Options}

/-- A card has at least 128 bytes and at most 4096. -/
def Admissible (o : Options) : Prop :=
  Setting.minLogBytesInCard ≤ o.logBytesInCard ∧ o.logBytesInCard ≤ Setting.maxLogBytesInCard

theorem admissible_default : default.Admissible := ⟨by decide, by decide⟩

theorem Admissible.assign {s : Setting} (h : o.Admissible) (hs : s.Admissible) :
    (o.assign s).Admissible := by
  cases s with
  | logBytesInCard log => exact hs
  | barrier | reduceInitialCardMarks | concurrentCardScanning => exact h

theorem keeps_settle {x : Except Notice Setting} (hx : ∀ s, x = .ok s → s.Admissible) :
    Keeps Admissible (settle x) := by
  cases x with
  | ok s => exact Keeps.bind (Keeps.update fun o h => h.assign (hx s rfl)) fun _ => Keeps.answer _
  | error warning => exact Keeps.bind (Keeps.report _) fun _ => Keeps.answer _

theorem keeps_settleAll {xs : List (Except Notice Setting)}
    (hxs : ∀ x ∈ xs, ∀ s, x = .ok s → s.Admissible) : Keeps Admissible (settleAll xs) := by
  induction xs with
  | nil => exact Keeps.answer true
  | cons x rest ih =>
    refine Keeps.bind (keeps_settle (hxs x List.mem_cons_self)) fun made => ?_
    exact Keeps.bind (ih fun y hy => hxs y (List.mem_cons_of_mem _ hy)) fun others => Keeps.answer _

theorem keeps_set (name value : String) : Keeps Admissible (set name value) :=
  keeps_settle fun _ => Setting.admissible_of_read

theorem keeps_setBulk (text : String) : Keeps Admissible (setBulk text) :=
  keeps_settleAll (List.forall_mem_map.2 fun _ _ _ => Setting.admissible_of_ofToken)

theorem keeps_readEnvironment (env : Environment) : Keeps Admissible (readEnvironment env) := by
  refine Keeps.bind (keeps_settleAll fun x hx s hs => ?_) fun _ => Keeps.answer ()
  obtain ⟨⟨key, value⟩, -, hread⟩ := List.mem_filterMap.1 hx
  obtain ⟨o, -, rfl⟩ := Option.map_eq_some_iff.1 hread
  exact Setting.admissible_of_ofValue hs

end Options

/-! ## Barrier sets -/

namespace BarrierSet

variable {s : BarrierSet} {o options : Options} {covered : Region}

/-- The answers of a set agree with the options, and with each other. -/
structure Consistent (o : Options) (s : BarrierSet) : Prop where
  options_eq : s.options = o
  deferred_iff : s.policy = .deferred ↔ o.barrier = .cardTable ∧ o.reduceInitialCardMarks = true
  /-- Elision is granted exactly where marks are deferred. -/
  elides_iff : s.canElideFastPath = true ↔ s.policy = .deferred
  strict_iff : s.requiresStrictOrdering = true ↔
    o.barrier = .cardTable ∧ o.concurrentCardScanning = true

theorem Consistent.of_scanned (hoptions : s.options = o)
    (hscanned : s.table.scannedConcurrently = o.concurrentCardScanning) : Consistent o s := by
  subst hoptions
  refine ⟨rfl, ?_, Barrier.policy_eq_deferred_iff.symm, ?_⟩
  · cases hb : s.options.barrier <;> simp [policy, barrier, hb, Barrier.policy]
  · rw [← hscanned]
    cases hb : s.options.barrier <;>
      simp [requiresStrictOrdering, barrier, hb, Barrier.requiresStrictOrdering,
        Tracker.scannedConcurrently]

theorem keeps_options_step (e : Event) : Keeps (fun s => s.options = o) (step e) := by
  refine PartsKeep.step ?_
  exact {
    register := fun _ _ hs => hs
    unregister := fun _ _ hs => hs
    join := fun _ _ _ _ hs => hs
    leave := fun _ _ hs => hs
    flush := fun _ _ => Keeps.bind (Keeps.view _) fun _ _ hs => hs
    takeOn := fun _ _ _ => Keeps.bind (Keeps.bind (Keeps.view _) fun _ _ hs => hs) fun _ _ hs => hs
    flushAll := fun _ _ hs => hs
    perform := fun _ _ _ hs => hs
    table := fun _ _ _ hs => hs }

/-- Of admissible options only the start of the heap can keep a set from being built. -/
theorem create_of_dvd (ho : options.logBytesInCard < 64)
    (h : 2 ^ options.logBytesInCard ∣ covered.start.toNat) : ∃ s, create options covered = .ok s := by
  obtain ⟨l, hl⟩ := CardLayout.ofCovered_of_dvd ho h
  exact ⟨_, by rw [create, CardTable.create, hl]; rfl⟩

theorem create_of_not_dvd (ho : options.logBytesInCard < 64)
    (h : ¬ 2 ^ options.logBytesInCard ∣ covered.start.toNat) :
    create options covered =
      .error (.misalignedTable covered.start (Word.twoPow options.logBytesInCard)) := by
  rw [create, CardTable.create, CardLayout.ofCovered_of_not_dvd ho h]
  rfl

end BarrierSet

/-! ## Sessions -/

namespace Session

open BarrierSet (Consistent)

variable {α : Type} {P : Options → Prop} {o : Options} {S : Session} {e : Event} {events : List Event}
  {i : Nat}

theorem keeps_options_build (covered : Region) :
    Keeps (fun S : Session => P S.options) (build covered) := by
  intro S hS
  rcases state_build S covered with hsame | ⟨s, -, hpush⟩
  · rw [hsame]
    exact hS
  · rw [hpush]
    exact hS

theorem keeps_options_onSet? (j : Nat) (action : Action BarrierSet α) :
    Keeps (fun S : Session => P S.options) (onSet? j action) := by
  intro S hS
  simp only [onSet?]
  split <;> exact hS

theorem keeps_options_onMarks? (j k : Nat) (action : Barrier → Action (Registry × CardTable) α) :
    Keeps (fun S : Session => P S.options) (onMarks? j k action) := by
  intro S hS
  simp only [onMarks?]
  split <;> exact hS

theorem keeps_admissible_step (he : ∀ log, e ≠ .assignLogBytesInCard log) :
    Keeps (fun S : Session => S.options.Admissible) (step e) := by
  have honOptions : ∀ {α} {action : Action Options α}, Keeps Options.Admissible action →
      Keeps (fun S : Session => S.options.Admissible) (onOptions action) :=
    fun h S hS => h S.options hS
  cases e with
  | configure env =>
    refine Keeps.bind (Keeps.bind (Keeps.update fun _ _ => Options.admissible_default) fun _ => ?_)
      fun _ => Keeps.answer _
    exact honOptions (Options.keeps_readEnvironment env)
  | setOption name value =>
    exact (honOptions (Options.keeps_set name value)).bind fun _ => Keeps.answer _
  | setOptions text => exact (honOptions (Options.keeps_setBulk text)).bind fun _ => Keeps.answer _
  | assignLogBytesInCard log => exact absurd rfl (he log)
  | init covered =>
    refine Keeps.bind (Keeps.bind (Keeps.report _) fun _ => ?_) fun _ => Keeps.answer _
    exact keeps_options_build covered
  | build covered => exact (keeps_options_build covered).bind fun _ => Keeps.answer _
  | on | register | unregister => exact keeps_replyWith (keeps_options_onSet? _ _)
  | discharge | flushAll => exact keeps_replyWith (keeps_options_onMarks? _ _ _)

theorem admissible_run (hS : S.options.Admissible)
    (hevents : ∀ log, Event.assignLogBytesInCard log ∉ events) :
    (S.run events).options.Admissible := by
  induction events generalizing S with
  | nil => exact hS
  | cons e rest ih =>
    refine ih (keeps_admissible_step (fun log he => ?_) S hS) fun log hlog =>
      hevents log (List.mem_cons_of_mem _ hlog)
    exact hevents log (he ▸ List.mem_cons_self)

theorem keeps_at_options_step (e : Event) : Keeps (At i fun s => s.options = o) (step e) := by
  cases e with
  | configure | setOption | setOptions | assignLogBytesInCard | init | build =>
    exact keeps_step_of_prepares (fun _ _ hS => hS) keeps_at_build trivial
  | on set e => exact keeps_replyWith (keeps_at_onSet? fun _ => BarrierSet.keeps_options_step e)
  | register | unregister => exact keeps_replyWith (keeps_at_onSet? fun _ _ hs => hs)
  | discharge | flushAll =>
    exact keeps_replyWith (keeps_at_onMarks? (fun _ _ _ _ hs => hs) fun _ _ _ _ hs => hs)

theorem at_options_run (events : List Event) (hS : At i (fun s => s.options = o) S) :
    At i (fun s => s.options = o) (S.run events) := by
  induction events generalizing S with
  | nil => exact hS
  | cons e rest ih => exact ih (keeps_at_options_step e S hS)

/-- A set answers as it was built to, whatever happens in the session. -/
theorem consistent_run {s : BarrierSet} (hset : S.sets[i]? = some s)
    (hscanned : s.table.scannedConcurrently = s.options.concurrentCardScanning)
    (later : List Event) : ∃ s', (S.run later).sets[i]? = some s' ∧ Consistent s.options s' := by
  obtain ⟨s', hset', hoptions⟩ := at_options_run (o := s.options) later ⟨s, hset, rfl⟩
  have hlayout : At i _ (S.run later) :=
    at_run (CardTable.kept_layout s.table.toCardLayout s.table.scannedConcurrently)
      (fun _ _ _ => trivial) ⟨s, hset, rfl, rfl⟩
  obtain ⟨s'', hset'', -, hscanned'⟩ := hlayout
  rw [hset'] at hset''
  cases hset''
  exact ⟨s', hset', .of_scanned hoptions (hscanned'.trans hscanned)⟩

/-- **Options set by name make a barrier set.** Take any session in which nobody wrote the card size
directly, whatever was in the environment and whatever strings the options were set to. A card has
between 128 and 4096 bytes. Building is a fault exactly if the heap does not start at a multiple of that,
and it is this fault and no other, which leaves the session as it was. Otherwise a set is added, with
every card clean and no thread attached; and it answers consistently from then on, through any further
events. -/
theorem validated_options_build (hevents : ∀ log, Event.assignLogBytesInCard log ∉ events)
    (covered : Region) :
    let S := run {} events
    let log := S.options.logBytesInCard
    (7 ≤ log ∧ log ≤ 12) ∧
    (¬ 2 ^ log ∣ covered.start.toNat → (build covered).run S =
      ⟨.error (.misalignedTable covered.start (Word.twoPow log)), S, []⟩) ∧
    (2 ^ log ∣ covered.start.toNat → ∃ s,
      let built : Session := { S with sets := S.sets.push s }
      (build covered).run S = ⟨.ok S.sets.size, built,
        [.barrierInstalled s.barrierText, .tableReady s.table.text]⟩ ∧
      s.table.covered = covered ∧ s.table.logBytesInCard = log ∧
      (∀ card, s.table.hasDirty card = false) ∧ s.registry = .empty ∧ s.mutators = [] ∧
      ∀ later, ∃ s', (built.run later).sets[S.sets.size]? = some s' ∧ Consistent S.options s') := by
  intro S log
  have hrange : 7 ≤ log ∧ log ≤ 12 := admissible_run Options.admissible_default hevents
  have hlog : log < 64 := by omega
  refine ⟨hrange, fun h => build_error (BarrierSet.create_of_not_dvd hlog h), fun h => ?_⟩
  obtain ⟨s, hcreate⟩ := BarrierSet.create_of_dvd hlog h
  obtain ⟨htable, hoptions, hregistry, hmutators⟩ := BarrierSet.create_eq_ok hcreate
  obtain ⟨hlayout, hclean⟩ := CardTable.create_eq_ok htable
  obtain ⟨hcovered, hlogs⟩ := CardLayout.ofCovered_eq_ok hlayout
  refine ⟨s, build_ok hcreate, hcovered, hlogs, hclean, hregistry, hmutators, fun later => ?_⟩
  have hset : (S.sets.push s)[S.sets.size]? = some s := by simp
  rw [← hoptions]
  refine consistent_run hset ?_ later
  rw [CardTable.scannedConcurrently_of_create htable, hoptions]

/-- What the environment and the calls say is read where it can be, and passed over otherwise: a card has
128 bytes. A heap that starts at a multiple of that gets its set, and a heap that does not is refused.
The set answers to its options still when another card size is written into those of the session. -/
theorem validated_options_build_from_strings :
    let events : List Event := [.configure [("CARDMARK_LOG_BYTES_IN_CARD", "13"),
        ("CARDMARK_barrier", "CardTableBarrier"), ("LOG_BYTES_IN_CARD", "8")],
      .setOption "log_bytes_in_card" "+7", .setOption "log_bytes_in_card" "70",
      .setOptions "concurrent_card_scanning=true reduce_initial_card_marks=false no_such_option=1"]
    let S := run {} events
    let heap : Region := ⟨⟨0x1080⟩, ⟨0x1100⟩, by decide⟩
    let later : List Event := [.assignLogBytesInCard 70, .on 0 (.attach ⟨1⟩), .on 0 .safepoint]
    (∀ log, Event.assignLogBytesInCard log ∉ events) ∧ S.options.logBytesInCard = 7 ∧
      (build ⟨⟨0x1040⟩, ⟨0x1100⟩, by decide⟩).run S = ⟨.error (.misalignedTable ⟨0x1040⟩ 128), S, []⟩ ∧
      ((build heap).run S).answer = .ok 0 ∧
      ∃ s, (((build heap).run S).state.run later).sets[0]? = some s ∧
        s.requiresStrictOrdering = true ∧ s.policy ≠ .deferred := by
  intro events S heap later
  have hevents : ∀ log, Event.assignLogBytesInCard log ∉ events := by simp [events]
  have hlog : S.options.logBytesInCard = 7 := by decide +kernel
  have hempty : S.sets.size = 0 := by decide +kernel
  obtain ⟨-, hrefused, -⟩ := validated_options_build hevents ⟨⟨0x1040⟩, ⟨0x1100⟩, by decide⟩
  obtain ⟨-, -, hbuild⟩ := validated_options_build hevents heap
  rw [hlog] at hrefused hbuild
  obtain ⟨s, hrun, -, -, -, -, -, hlater⟩ := hbuild (by decide)
  obtain ⟨s', hset', hconsistent⟩ := hlater later
  rw [hempty] at hset'
  refine ⟨hevents, hlog, hrefused (by decide), ?_, s', ?_, ?_, ?_⟩
  · rw [hrun, ← hempty]
  · rw [hrun]
    exact hset'
  · exact hconsistent.strict_iff.2 ⟨by decide +kernel, by decide +kernel⟩
  · intro hdeferred
    exact absurd (hconsistent.deferred_iff.1 hdeferred).2 (by decide +kernel)

end Session

end WriteBarrier
