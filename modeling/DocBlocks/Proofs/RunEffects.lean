import DocBlocks.Proofs.Delivery

/-!
What a run leaves behind. One that fails shows nothing and keeps every file; over its
source, or with `--check`, it keeps the whole tree. One that succeeds shows its Markdown
or delivers it to a file.
-/
namespace DocBlocks

open FileTree

/-- The Markdown that is made of the file at the path of the source. -/
def Makes (tree : FileTree) (options : Options) (markdown : String) : Prop :=
  ∃ bytes text, tree.get? (Spot.ofPath options.source) = some (.file bytes) ∧
    String.fromUTF8? bytes = some text ∧ (generate options.tag text).result = .ok markdown

/-- What can be wrong before anything is made of the source, or while it is read. -/
inductive SourceFault (tree : FileTree) (options : Options) : Prop
  | missing (h : tree.look options.source = .missing)
  | notFile (h : tree.look options.source = .directory)
  | badTag (h : options.hasWordTag = false)
  | notText {bytes : ByteArray} (hlook : tree.look options.source = .file bytes)
      (h : String.fromUTF8? bytes = none)
  | malformed {bytes : ByteArray} {text : String} {malformed : Malformed}
      (hlook : tree.look options.source = .file bytes) (htext : String.fromUTF8? bytes = some text)
      (h : (generate options.tag text).result = .error malformed)

/-- The source is a text of which Markdown can be made. -/
structure Sound (tree : FileTree) (options : Options) (text markdown : String) : Prop where
  look : ∃ bytes, tree.look options.source = .file bytes ∧ String.fromUTF8? bytes = some text
  tag : options.hasWordTag = true
  made : (generate options.tag text).result = .ok markdown

namespace Sound

variable {tree : FileTree} {options : Options} {text markdown : String}

theorem makes (h : Sound tree options text markdown) : Makes tree options markdown := by
  obtain ⟨bytes, hlook, htext⟩ := h.look
  exact ⟨bytes, text, get?_of_look hlook, htext, h.made⟩

theorem not_sourceFault (h : Sound tree options text markdown) : ¬ SourceFault tree options := by
  obtain ⟨bytes, hlook, htext⟩ := h.look
  rintro (hfault | hfault | hfault | ⟨hfault, hnone⟩ | ⟨hfault, hother, herror⟩)
  · cases hlook.symm.trans hfault
  · cases hlook.symm.trans hfault
  · cases h.tag.symm.trans hfault
  · cases hlook.symm.trans hfault
    cases htext.symm.trans hnone
  · cases hlook.symm.trans hfault
    cases htext.symm.trans hother
    cases h.made.symm.trans herror

end Sound

/-- Nothing is shown, and the tree is as it was. -/
structure Silent (tree after : FileTree) (report : Report) : Prop where
  output : report.output = ""
  same : after = tree

namespace Options

variable {options : Options} {tree : FileTree}

theorem sourceFault_of_sourceBytes {failure : Failure}
    (h : options.sourceBytes (tree.look options.source) = .error failure) :
    SourceFault tree options := by
  unfold sourceBytes at h
  split at h
  · next hlook => exact .missing hlook
  · next hlook => exact .notFile hlook
  · split at h
    · cases h
    · next htag => exact .badTag (eq_false_of_ne_true htag)

theorem sourceBytes_eq_ok {bytes : ByteArray}
    (h : options.sourceBytes (tree.look options.source) = .ok bytes) :
    tree.look options.source = .file bytes ∧ options.hasWordTag = true := by
  unfold sourceBytes at h
  split at h
  · cases h
  · cases h
  · next hlook =>
    split at h
    · next htag =>
      cases h
      exact ⟨hlook, htag⟩
    · cases h

end Options

/-- How a run can end, and with what tree. -/
inductive Ending (options : Options) (before : FileTree) (report : Report) (after : FileTree) :
    Prop
  | sourceFault (fault : SourceFault before options) (failed : report.failure ≠ none)
      (silent : Silent before after report)
  | checked {text markdown : String} (sound : Sound before options text markdown)
      (check : options.checkOnly = true) (done : report.failure = none)
      (silent : Silent before after report)
  | shown {text markdown : String} (sound : Sound before options text markdown)
      (check : options.checkOnly = false) (nowhere : options.output = none)
      (done : report.failure = none) (output : report.output = markdown) (same : after = before)
  | delivered {text markdown path : String} (sound : Sound before options text markdown)
      (check : options.checkOnly = false) (file : options.output = some path)
      (done : report.failure = none) (output : report.output = "")
      (delivered : Delivered before after path markdown.toUTF8)
  | undelivered {text markdown path : String} (sound : Sound before options text markdown)
      (check : options.checkOnly = false) (file : options.output = some path)
      (failed : report.failure ≠ none) (output : report.output = "")
      (grown : Grown (Spot.LeadsThrough path) before after)

namespace Ending

variable {options : Options} {tree before after : FileTree} {report : Report}

theorem of_deliver {text markdown : String} (hsound : Sound tree options text markdown)
    (hcheck : options.checkOnly = false) {events : List Event}
    (h : (options.deliver files events markdown).run tree = (report, after)) :
    Ending options tree report after := by
  cases hpath : options.output with
  | none =>
    obtain ⟨houtput, hdone, hsame⟩ := Options.run_deliver_shown hpath h
    exact .shown hsound hcheck hpath hdone houtput hsame
  | some path =>
    obtain ⟨houtput, ⟨hdone, hdelivered⟩ | ⟨hfailed, hgrown⟩⟩ :=
      Options.run_deliver_file hpath h
    · exact .delivered hsound hcheck hpath hdone houtput hdelivered
    · exact .undelivered hsound hcheck hpath hfailed houtput hgrown

/-- The cases follow the run: the source, its text, its Markdown, then `--check`. -/
theorem of_run (h : (options.run files).run tree = (report, after)) :
    Ending options tree report after := by
  obtain ⟨found, middle, hlook, h⟩ := exists_run_of_bind h
  obtain ⟨rfl, hsame⟩ := eq_of_run_look hlook
  rw [hsame] at h
  cases hbytes : options.sourceBytes (tree.look options.source) with
  | error failure =>
    rw [hbytes] at h
    obtain ⟨rfl, rfl⟩ := eq_of_run_pure h
    exact .sourceFault (Options.sourceFault_of_sourceBytes hbytes) (Option.some_ne_none _)
      ⟨rfl, rfl⟩
  | ok bytes =>
    rw [hbytes] at h
    obtain ⟨hfile, htag⟩ := Options.sourceBytes_eq_ok hbytes
    dsimp only [Options.sourceText] at h
    cases htext : String.fromUTF8? bytes with
    | none =>
      rw [htext] at h
      obtain ⟨rfl, rfl⟩ := eq_of_run_pure h
      exact .sourceFault (.notText hfile htext) (Option.some_ne_none _) ⟨rfl, rfl⟩
    | some text =>
      rw [htext] at h
      dsimp only at h
      cases hmade : (generate options.tag text).result with
      | error malformed =>
        have hfault : SourceFault tree options := .malformed hfile htext hmade
        split at h
        · obtain ⟨rfl, rfl⟩ := eq_of_run_pure h
          rw [Options.checkReport, check_eq_error hmade]
          exact .sourceFault hfault (Option.some_ne_none _) ⟨rfl, rfl⟩
        · rw [Options.generateReport, hmade] at h
          obtain ⟨rfl, rfl⟩ := eq_of_run_pure h
          exact .sourceFault hfault (Option.some_ne_none _) ⟨rfl, rfl⟩
      | ok markdown =>
        have hsound : Sound tree options text markdown := ⟨⟨bytes, hfile, htext⟩, htag, hmade⟩
        split at h
        · next hcheck =>
          obtain ⟨summary, hsummary⟩ := exists_check_eq_ok hmade
          obtain ⟨rfl, rfl⟩ := eq_of_run_pure h
          rw [Options.checkReport, hsummary]
          exact .checked hsound hcheck rfl ⟨rfl, rfl⟩
        · next hcheck =>
          rw [Options.generateReport, hmade] at h
          exact of_deliver hsound (eq_false_of_ne_true hcheck) h

theorem failed_of_sourceFault (h : Ending options before report after)
    (hfault : SourceFault before options) : report.failure ≠ none ∧ after = before := by
  cases h with
  | sourceFault _ failed silent => exact ⟨failed, silent.same⟩
  | checked sound | shown sound | delivered sound | undelivered sound =>
    exact absurd hfault sound.not_sourceFault

theorem silent_of_check (h : Ending options before report after)
    (hcheck : options.checkOnly = true) : Silent before after report := by
  cases h with
  | sourceFault _ _ silent | checked _ _ _ silent => exact silent
  | shown _ check | delivered _ check | undelivered _ check => cases hcheck.symm.trans check

theorem makes_of_shown (h : Ending options before report after) (hdone : report.failure = none)
    (hcheck : options.checkOnly = false) (hnone : options.output = none) :
    Makes before options report.output ∧ after = before := by
  cases h with
  | sourceFault _ failed | undelivered _ _ _ failed => exact absurd hdone failed
  | checked _ check => cases hcheck.symm.trans check
  | shown sound _ _ _ output same => exact ⟨output ▸ sound.makes, same⟩
  | delivered _ _ file => cases hnone.symm.trans file

theorem makes_of_delivered (h : Ending options before report after)
    (hdone : report.failure = none) (hcheck : options.checkOnly = false) {path : String}
    (hfile : options.output = some path) :
    report.output = "" ∧
      ∃ markdown, Makes before options markdown ∧ Delivered before after path markdown.toUTF8 := by
  cases h with
  | sourceFault _ failed | undelivered _ _ _ failed => exact absurd hdone failed
  | checked _ check => cases hcheck.symm.trans check
  | shown _ _ nowhere => cases hfile.symm.trans nowhere
  | delivered sound _ file _ output delivered =>
    obtain rfl := Option.some.inj (hfile.symm.trans file)
    exact ⟨output, _, sound.makes, delivered⟩

theorem files_of_failed (h : Ending options before report after)
    (hfailed : report.failure ≠ none) :
    report.output = "" ∧ ∀ spot bytes,
      after.get? spot = some (.file bytes) ↔ before.get? spot = some (.file bytes) := by
  cases h with
  | sourceFault _ _ silent =>
    obtain ⟨houtput, rfl⟩ := silent
    exact ⟨houtput, fun _ _ => Iff.rfl⟩
  | undelivered _ _ _ _ output grown => exact ⟨output, fun _ _ => grown.get?_eq_file_iff⟩
  | checked _ _ done | shown _ _ _ done | delivered _ _ _ done => exact absurd done hfailed

end Ending

namespace Report

variable {report : Report} {verbose : Bool}

theorem outcome_output : (report.outcome verbose).output = report.output := by
  unfold outcome
  split <;> rfl

theorem outcome_status_eq_zero_iff :
    (report.outcome verbose).status = 0 ↔ report.failure = none := by
  unfold outcome
  cases report.failure with
  | none => simp
  | some failure => simp

theorem outcome_status_eq_one_iff :
    (report.outcome verbose).status = 1 ↔ report.failure ≠ none := by
  unfold outcome
  cases report.failure with
  | none => simp
  | some failure => simp

end Report

/-- What a run with given settings does to a tree, and what it shows. -/
structure RunEffects (options : Options) (before : FileTree) (outcome : Outcome)
    (after : FileTree) : Prop where
  status : outcome.status = 0 ∨ outcome.status = 1
  checked : options.checkOnly = true → outcome.output = "" ∧ after = before
  shown : outcome.status = 0 → options.checkOnly = false → options.output = none →
    Makes before options outcome.output ∧ after = before
  delivered : outcome.status = 0 → options.checkOnly = false →
    ∀ path, options.output = some path →
      outcome.output = "" ∧
        ∃ markdown, Makes before options markdown ∧ Delivered before after path markdown.toUTF8
  failed : outcome.status = 1 →
    outcome.output = "" ∧ ∀ spot bytes,
      after.get? spot = some (.file bytes) ↔ before.get? spot = some (.file bytes)
  sourceFault : SourceFault before options → outcome.status = 1 ∧ after = before

theorem Ending.runEffects {options : Options} {before after : FileTree} {report : Report}
    (h : Ending options before report after) (verbose : Bool) :
    RunEffects options before (report.outcome verbose) after where
  status := by
    rw [Report.outcome_status_eq_zero_iff, Report.outcome_status_eq_one_iff]
    exact Classical.em _
  checked hcheck := by
    obtain ⟨houtput, hsame⟩ := h.silent_of_check hcheck
    exact ⟨Report.outcome_output.trans houtput, hsame⟩
  shown hzero hcheck hnone := by
    rw [Report.outcome_output]
    exact h.makes_of_shown (Report.outcome_status_eq_zero_iff.mp hzero) hcheck hnone
  delivered hzero hcheck path hfile := by
    rw [Report.outcome_output]
    exact h.makes_of_delivered (Report.outcome_status_eq_zero_iff.mp hzero) hcheck hfile
  failed hone := by
    rw [Report.outcome_output]
    exact h.files_of_failed (Report.outcome_status_eq_one_iff.mp hone)
  sourceFault hfault := by
    obtain ⟨hfailed, hsame⟩ := h.failed_of_sourceFault hfault
    exact ⟨Report.outcome_status_eq_one_iff.mpr hfailed, hsame⟩

/-- A run touches only its output, and one that fails damages nothing. -/
theorem runWords_effects {words : List String} {options : Options}
    (h : Options.ofWords words = .ok options) (tree : FileTree) :
    RunEffects options tree ((runWords files words).run tree).1
      ((runWords files words).run tree).2 := by
  unfold runWords
  rw [h]
  exact (Ending.of_run rfl).runEffects options.verbose

/-- One source at the root, and nothing else. -/
def oneSource : FileTree :=
  FileTree.empty.put ⟨.above 0, ["timer.c"]⟩
    (.file "/* jsondoc\n\x7b\"class\": \"Timer\"\x7d\n*/\n".toUTF8)

/-- The output lies in a directory that the run has to make. -/
theorem runWords_effects_new_directory :
    Options.ofWords ["-o", "docs/timer.md", "timer.c"] =
        .ok ⟨"timer.c", some "docs/timer.md", "jsondoc", false, false⟩ ∧
      ((runWords files ["-o", "docs/timer.md", "timer.c"]).run oneSource).1.status = 0 ∧
      ∃ markdown,
        Makes oneSource ⟨"timer.c", some "docs/timer.md", "jsondoc", false, false⟩ markdown ∧
        Delivered oneSource
          ((runWords files ["-o", "docs/timer.md", "timer.c"]).run oneSource).2
          "docs/timer.md" markdown.toUTF8 := by
  have hwords : Options.ofWords ["-o", "docs/timer.md", "timer.c"] =
      .ok ⟨"timer.c", some "docs/timer.md", "jsondoc", false, false⟩ := by decide
  have hstatus :
      ((runWords files ["-o", "docs/timer.md", "timer.c"]).run oneSource).1.status = 0 := by
    decide +kernel
  have heffects := runWords_effects hwords oneSource
  exact ⟨hwords, hstatus, (heffects.delivered hstatus rfl _ rfl).2⟩

end DocBlocks
