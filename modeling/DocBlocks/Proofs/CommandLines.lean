import DocBlocks.Proofs.WordReading

/-!
A whole line is read as the assignments of all its items in order, as long as they name the
source once at most. Since assignments to different arguments come to the same in any order,
the items can be written in any way and in any order; and a further item that assigns one of
the arguments again is refused, wherever it stands.
-/
namespace DocBlocks

open CommandLine

namespace Settings

variable {settings next : Settings} {waiting : Option Assignment}

/-- The settings as they are used, once nothing waits. -/
def conclude (settings : Settings) : Except Refusal Options :=
  match settings.source with
  | none => .error (.misuse .sourceRequired)
  | some source =>
      .ok ⟨source, settings.output, settings.tag.getD Options.defaultTag, settings.checkOnly,
        settings.verbose⟩

theorem finish_eq (settings : Settings) : settings.finish = settings.settle >>= conclude := rfl

/-- Whether letters and names still count makes no difference to what is assigned. -/
theorem foldlM_assign_positional (settings : Settings) (given : List Assignment) :
    given.foldlM assign { settings with positionalOnly := true } >>= conclude =
      given.foldlM assign settings >>= conclude := by
  induction given generalizing settings with
  | nil => rfl
  | cons first given ih =>
    have hhas : { settings with positionalOnly := true }.has first.argument =
        settings.has first.argument := by
      cases first.argument <;> rfl
    have hset : { settings with positionalOnly := true }.set first.argument first.value =
        { settings.set first.argument first.value with positionalOnly := true } := by
      cases first.argument <;> rfl
    rw [List.foldlM_cons, List.foldlM_cons, assign, assign, hhas, hset]
    split
    · rfl
    · exact ih _

theorem has_of_foldlM {given : List Assignment} {argument : Argument}
    (h : given.foldlM assign settings = .ok next) (hhas : next.has argument = true) :
    settings.has argument = true ∨ argument ∈ assigned given := by
  induction given generalizing settings with
  | nil =>
    obtain rfl := Except.ok.inj h
    exact Or.inl hhas
  | cons first given ih =>
    rw [List.foldlM_cons, bind_eq_ok_iff] at h
    obtain ⟨middle, hfirst, hrest⟩ := h
    rcases ih hrest with hmiddle | hmem
    · obtain rfl := assign_eq_ok hfirst
      rw [has_set, Bool.or_eq_true, Bool.and_eq_true, decide_eq_true_iff] at hmiddle
      rcases hmiddle with hold | ⟨-, rfl⟩
      · exact Or.inl hold
      · exact Or.inr List.mem_cons_self
    · exact Or.inr (List.mem_cons_of_mem _ hmem)

/-- What is still to be assigned names the source once at most, and not again. -/
structure NamesOnce (settings : Settings) (given : List Assignment) : Prop where
  once : (assigned given).count .source ≤ 1
  new : settings.has .source = true → .source ∉ assigned given

theorem NamesOnce.rest {front back : List Assignment} (h : settings.NamesOnce (front ++ back))
    (hfront : front.foldlM assign settings = .ok next) : next.NamesOnce back := by
  obtain ⟨honce, hnew⟩ := h
  rw [assigned_append] at honce hnew
  rw [List.count_append] at honce
  constructor
  · omega
  · intro hsource hback
    rcases has_of_foldlM hfront hsource with hold | hmem
    · exact hnew hold (List.mem_append_right _ hback)
    · have hone := List.count_pos_iff.mpr hmem
      have htwo := List.count_pos_iff.mpr hback
      omega

theorem namesSource_await (settings : Settings) (waiting : Option Assignment) :
    (settings.await waiting).namesSource =
      (settings.has .source || waiting.any (·.argument = .source)) := by
  cases waiting <;> rfl

theorem NamesOnce.not_named {back : List Assignment}
    (h : settings.NamesOnce (waiting.toList ++ back)) (hback : .source ∈ assigned back) :
    (settings.await waiting).namesSource = false := by
  obtain ⟨honce, hnew⟩ := h
  rw [assigned_append] at honce hnew
  rw [List.count_append] at honce
  have hsettings : settings.has .source = false := by
    rw [← Bool.not_eq_true]
    intro hsource
    exact hnew hsource (List.mem_append_right _ hback)
  have hone := List.count_pos_iff.mpr hback
  rw [namesSource_await, hsettings, Bool.false_or]
  cases waiting with
  | none => rfl
  | some given =>
    have hother : given.argument ≠ .source := by
      intro hsame
      have htwo : 0 < (assigned (some given).toList).count .source :=
        List.count_pos_iff.mpr (hsame ▸ List.mem_singleton_self given.argument)
      omega
    simp [hother]

/-- Behind two dashes the source is named by whatever word stands there. -/
theorem Plain.finish_behind (h : settings.Plain)
    (hwaiting : ∀ given ∈ waiting, given.value ≠ "")
    (hnamed : (settings.await waiting).namesSource = false) {path : String} (hpath : path ≠ "") :
    ["--", path].foldlM take (settings.await waiting) >>= finish =
      (waiting.toList ++ [Assignment.mk .source path]).foldlM assign settings >>= conclude := by
  have hdashes : (settings.await waiting).take "--" =
      .ok ({ settings with positionalOnly := true }.await waiting) := by
    have hreading : (settings.await waiting).positionalOnly = false := h.reading
    rw [take, hreading]
    rfl
  have hpositional : ({ settings with positionalOnly := true }.await waiting).take path =
      ({ settings with positionalOnly := true }.await waiting).takePositional path := rfl
  have hsettled : { settings with positionalOnly := true }.pending = none := h.settled
  rw [← foldlM_assign_positional, List.foldlM_append, List.foldlM_cons, hdashes]
  change ([path].foldlM take ({ settings with positionalOnly := true }.await waiting)) >>= _ = _
  rw [List.foldlM_cons, hpositional, takePositional_eq (by exact hnamed),
    settle_await hsettled hwaiting]
  simp only [bind_assoc]
  apply bind_congr_ok
  intro settled hgiven
  have hpending := (kept_of_foldlM hgiven).1.trans hsettled
  have hvalue : ∀ given ∈ some (Assignment.mk .source path), given.value ≠ "" := by
    intro given hmem
    obtain rfl := Option.some.inj hmem
    exact hpath
  change (settled.await (some ⟨.source, path⟩)).finish = _
  rw [finish_eq, settle_await hpending hvalue]
  rfl

end Settings

open Settings

theorem CommandLine.finish_words {settings : Settings} {waiting : Option Assignment}
    (h : settings.Plain) (hwaiting : ∀ given ∈ waiting, given.value ≠ "") (line : CommandLine)
    (honce : settings.NamesOnce (waiting.toList ++ line.given)) :
    line.words.foldlM take (settings.await waiting) >>= finish =
      (waiting.toList ++ line.given).foldlM assign settings >>= conclude := by
  obtain ⟨items, behind, nonempty⟩ := line
  -- an item settles what the one before it left waiting, so both vary with the item
  induction items generalizing settings waiting with
  | nil =>
    cases behind with
    | none =>
      have hgiven : (CommandLine.mk [] none nonempty).given = [] := rfl
      rw [hgiven, List.append_nil, ← settle_await h.settled hwaiting]
      rfl
    | some path =>
      have hgiven : (CommandLine.mk [] (some path) nonempty).given = [⟨.source, path⟩] := rfl
      have hnamed := honce.not_named (by rw [hgiven]; exact List.mem_singleton_self _)
      rw [hgiven]
      exact h.finish_behind hwaiting hnamed (nonempty path rfl)
  | cons item items ih =>
    have hwords : (CommandLine.mk (item :: items) behind nonempty).words =
        item.words ++ (CommandLine.mk items behind nonempty).words := by
      simp only [CommandLine.words, List.flatMap_cons, List.append_assoc]
    have hgiven : (CommandLine.mk (item :: items) behind nonempty).given =
        item.atOnce ++ (item.waiting.toList ++ (CommandLine.mk items behind nonempty).given) := by
      simp only [CommandLine.given, Item.given, List.flatMap_cons, List.append_assoc]
    rw [hgiven] at honce
    have hsource : .source ∈ assigned item.given →
        (settings.await waiting).namesSource = false := by
      intro hmem
      apply honce.not_named
      rw [← List.append_assoc, assigned_append]
      exact List.mem_append_left _ hmem
    rw [hwords, hgiven, List.foldlM_append, List.foldlM_append,
      Item.foldlM_words (h.ready_await hwaiting) item hsource, settle_await h.settled hwaiting]
    simp only [bind_assoc]
    apply bind_congr_ok
    intro settled hsettled
    rw [List.foldlM_append, bind_assoc]
    apply bind_congr_ok
    intro next hnext
    have hplain := (h.foldlM hsettled).foldlM hnext
    exact ih hplain item.waiting_nonempty ((honce.rest hsettled).rest hnext)

namespace CommandLine

variable {line : CommandLine} {front back : List Item} {further : Item}

theorem ofWords_words (line : CommandLine) (h : (assigned line.given).count .source ≤ 1) :
    Options.ofWords line.words = line.given.foldlM assign .empty >>= conclude := by
  have hplain : Settings.empty.Plain := ⟨rfl, rfl⟩
  have honce : Settings.empty.NamesOnce ((none : Option Assignment).toList ++ line.given) :=
    ⟨h, by simp [has_empty]⟩
  have hwaiting : ∀ given ∈ (none : Option Assignment), given.value ≠ "" := by simp
  exact line.finish_words hplain hwaiting honce

theorem exists_repeated_insert (hitems : line.items = front ++ back)
    (hnodup : (assigned line.given).Nodup) (hfurther : .source ∉ assigned further.given)
    {again : Argument} (hagain : again ∈ assigned further.given)
    (hline : again ∈ assigned line.given) :
    ∃ argument ∈ assigned further.given, argument ∈ assigned line.given ∧
      Options.ofWords { line with items := front ++ further :: back }.words =
        .error (.misuse (.repeated argument)) := by
  have hcount : ∀ argument,
      (assigned { line with items := front ++ further :: back }.given).count argument =
        (assigned further.given).count argument + (assigned line.given).count argument := by
    intro argument
    rw [assigned, ((perm_insert further hitems).map _).count_eq, ← assigned, assigned_append,
      List.count_append]
  have hone := List.nodup_iff_count_le_one.mp hnodup
  have hsource :
      (assigned { line with items := front ++ further :: back }.given).count .source ≤ 1 := by
    rw [hcount, List.count_eq_zero_of_not_mem hfurther, Nat.zero_add]
    exact hone .source
  have htwice : ¬ (assigned { line with items := front ++ further :: back }.given).Nodup := by
    intro h
    have hle := List.nodup_iff_count_le_one.mp h again
    have hpos := List.count_pos_iff.mpr hagain
    have hmore := List.count_pos_iff.mpr hline
    rw [hcount] at hle
    omega
  obtain ⟨argument, hmore, herror⟩ := exists_repeated (isSetting_given _) htwice
  have hfurtherOne := List.nodup_iff_count_le_one.mp further.nodup_given argument
  have hlineOne := hone argument
  rw [hcount] at hmore
  refine ⟨argument, List.count_pos_iff.mp (by omega), List.count_pos_iff.mp (by omega), ?_⟩
  rw [ofWords_words _ hsource, herror]
  rfl

end CommandLine

open CommandLine

variable {source : String} {output tag : Option String} {checkOnly verbose : Bool}

/-- However settings are written as the words of a line, and in whatever order, the line is
read as these settings. One more item for an option or a flag of the line, anywhere before
the two dashes, is refused. -/
theorem ofWords_line (line : CommandLine)
    (h : line.given.Perm (assignments source output tag checkOnly verbose)) :
    Options.ofWords line.words =
        .ok ⟨source, output, tag.getD "jsondoc", checkOnly, verbose⟩ ∧
      ∀ front back further, line.items = front ++ back → .source ∉ assigned further.given →
        ∀ again ∈ assigned further.given, again ∈ assigned line.given →
          ∃ argument ∈ assigned further.given, argument ∈ assigned line.given ∧
            Options.ofWords { line with items := front ++ further :: back }.words =
              .error (.misuse (.repeated argument)) := by
  have hnodup : (assigned line.given).Nodup :=
    (h.map _).nodup_iff.mpr (nodup_assignments source output tag checkOnly verbose)
  constructor
  · have honce := List.nodup_iff_count_le_one.mp hnodup .source
    rw [line.ofWords_words honce, foldlM_assign_of_nodup line.isSetting_given hnodup,
      setAll_of_perm h hnodup, setAll_assignments]
    rfl
  · intro front back further hitems hfurther again hagain hline
    exact exists_repeated_insert hitems hnodup hfurther hagain hline

/-- The letter of `--verbose` merged with that of `--tag`, and a source that looks like a
flag behind two dashes. -/
def mergedLine : CommandLine where
  items :=
    [.valued .tag .behindVerbose .equals "=doc" (by decide) trivial,
      .valued .output .long .apart "-" (by decide) (Or.inl rfl), .check]
  behind := some "-v"
  nonempty := by simp

theorem ofWords_line_merged :
    mergedLine.words = ["-vt==doc", "--output", "-", "--check", "--", "-v"] ∧
      mergedLine.given.Perm (assignments "-v" (some "-") (some "=doc") true true) ∧
      Options.ofWords mergedLine.words = .ok ⟨"-v", some "-", "=doc", true, true⟩ ∧
      ∃ argument,
        Options.ofWords ["-vt==doc", "-odocs.md", "--output", "-", "--check", "--", "-v"] =
          .error (.misuse (.repeated argument)) := by
  have hgiven : mergedLine.given.Perm (assignments "-v" (some "-") (some "=doc") true true) := by
    decide +kernel
  obtain ⟨hok, hagain⟩ := ofWords_line mergedLine hgiven
  obtain ⟨argument, -, -, herror⟩ := hagain
    [.valued .tag .behindVerbose .equals "=doc" (by decide) trivial]
    [.valued .output .long .apart "-" (by decide) (Or.inl rfl), .check]
    (.valued .output .short .glued "docs.md" (by decide) (by decide))
    rfl (by decide) .output (by decide) (by decide)
  have hwords : mergedLine.words = ["-vt==doc", "--output", "-", "--check", "--", "-v"] := by
    decide +kernel
  exact ⟨hwords, hgiven, hok, argument, herror⟩

end DocBlocks
