import DocBlocks.Proofs.LineItems
import DocBlocks.Proofs.Success

/-!
The words of one item as they are read. Before an item the last assignment may still be
waiting; it is settled first, and then the item is read as what it assigns at once, with
what it leaves waiting behind that. So however an item is spelled, the settings that it
leads to are told by its assignments alone.
-/
namespace DocBlocks

namespace Word

theorem splitValue_of_not_mem {name : List Char} (h : '=' ∉ name) :
    splitValue name = (name, none) := by
  induction name with
  | nil => rfl
  | cons c name ih =>
    obtain ⟨hc, hname⟩ := List.ne_and_not_mem_of_not_mem_cons h
    rw [splitValue, if_neg (Ne.symm hc), ih hname]

theorem splitValue_append {name : List Char} (h : '=' ∉ name) (value : List Char) :
    splitValue (name ++ '=' :: value) = (name, some value) := by
  induction name with
  | nil => rfl
  | cons c name ih =>
    obtain ⟨hc, hname⟩ := List.ne_and_not_mem_of_not_mem_cons h
    rw [List.cons_append, splitValue, if_neg (Ne.symm hc), ih hname]

theorem ofChars_short {letter : Char} (h : letter ≠ '-') (rest : List Char) :
    ofChars ('-' :: letter :: rest) = .short (letter :: rest) := by
  simp [ofChars, h]

theorem ofChars_long {text name : List Char} {value : Option (List Char)} (hnil : text ≠ [])
    (h : splitValue text = (name, value)) : ofChars ('-' :: '-' :: text) = .long name value := by
  cases text with
  | nil => exact absurd rfl hnil
  | cons c rest => rw [ofChars, h]; simp

theorem ofChars_plain {text : List Char} (h : text.head? ≠ some '-') : ofChars text = .plain := by
  cases text with
  | nil => rfl
  | cons c rest =>
    have hc : c ≠ '-' := by simpa using h
    simp [ofChars, hc]

theorem attached?_of_head? {value : List Char} (hnil : value ≠ []) (h : value.head? ≠ some '=') :
    attached? value = some value := by
  cases value with
  | nil => exact absurd rfl hnil
  | cons c rest =>
    have hc : c ≠ '=' := by simpa using h
    simp [attached?, hc]

end Word

open CommandLine

theorem CommandLine.StandsApart.ofChars {word : String} (h : StandsApart word) :
    Word.ofChars word.toList = .plain := by
  rcases h with rfl | hhead
  · rfl
  · exact Word.ofChars_plain hhead

theorem CommandLine.Valued.ofChars_name (option : Valued) {rest : List Char}
    (hrest : rest = [] ∨ ∃ value, rest = '=' :: value) :
    Word.ofChars ('-' :: '-' :: (option.name ++ rest)) =
      .long option.name (Word.attached? rest) := by
  have hname : '=' ∉ option.name ∧ option.name ≠ [] := by cases option <;> decide
  have hnil : option.name ++ rest ≠ [] := List.append_ne_nil_of_left_ne_nil hname.2 rest
  rcases hrest with rfl | ⟨value, rfl⟩
  · apply Word.ofChars_long hnil
    rw [List.append_nil, Word.splitValue_of_not_mem hname.1]
    rfl
  · apply Word.ofChars_long hnil
    rw [Word.splitValue_append hname.1]
    rfl

namespace Settings

variable {settings next : Settings} {assignment : Assignment} {waiting : Option Assignment}

/-- Nothing waits, and letters and names still count. -/
structure Plain (settings : Settings) : Prop where
  settled : settings.pending = none
  reading : settings.positionalOnly = false

/-- The settings with an assignment that waits. -/
def await (settings : Settings) (waiting : Option Assignment) : Settings :=
  { settings with pending := waiting.map fun given => ⟨given.argument, some given.value⟩ }

/-- The source has been named. -/
def namesSource (settings : Settings) : Bool :=
  settings.has .source || settings.pending.any (·.argument = .source)

/-- An assignment keeps what waits, and how words are read. -/
theorem kept_of_assign (h : settings.assign assignment = .ok next) :
    next.pending = settings.pending ∧ next.positionalOnly = settings.positionalOnly := by
  obtain rfl := assign_eq_ok h
  cases assignment.argument <;> exact ⟨rfl, rfl⟩

theorem kept_of_foldlM {given : List Assignment} (h : given.foldlM assign settings = .ok next) :
    next.pending = settings.pending ∧ next.positionalOnly = settings.positionalOnly := by
  induction given generalizing settings with
  | nil =>
    obtain rfl := Except.ok.inj h
    exact ⟨rfl, rfl⟩
  | cons first given ih =>
    rw [List.foldlM_cons, bind_eq_ok_iff] at h
    obtain ⟨middle, hfirst, hrest⟩ := h
    obtain ⟨hpending, hreading⟩ := kept_of_assign hfirst
    rw [← hpending, ← hreading]
    exact ih hrest

theorem Plain.foldlM (h : settings.Plain) {given : List Assignment}
    (hgiven : given.foldlM assign settings = .ok next) : next.Plain := by
  obtain ⟨hpending, hreading⟩ := kept_of_foldlM hgiven
  exact ⟨hpending.trans h.settled, hreading.trans h.reading⟩

theorem Plain.settle (h : settings.Plain) : settings.settle = .ok settings := by
  rw [Settings.settle, h.settled]

theorem Plain.await_none (h : settings.Plain) : settings.await none = settings := by
  rw [await, Option.map_none, ← h.settled]

theorem accept_eq_assign (h : assignment.value ≠ "") :
    settings.accept assignment.argument (some assignment.value) = settings.assign assignment := by
  simp [accept, assign, h]

/-- What waits is assigned when it is settled. -/
theorem settle_await (hsettled : settings.pending = none)
    (hwaiting : ∀ given ∈ waiting, given.value ≠ "") :
    (settings.await waiting).settle = waiting.toList.foldlM assign settings := by
  have hsame : { settings.await waiting with pending := none } = settings := by
    rw [await, ← hsettled]
  cases waiting with
  | none => exact congrArg Except.ok hsame
  | some given =>
    change { settings.await (some given) with pending := none }.accept given.argument
      (some given.value) = _
    rw [hsame, accept_eq_assign (hwaiting given rfl), Option.toList_some, List.foldlM_cons]
    cases settings.assign given with
    | error refusal => rfl
    | ok next => rfl

/-- The next item can be read, and what is settled before it leaves nothing waiting. -/
structure Ready (settings : Settings) : Prop where
  reading : settings.positionalOnly = false
  complete : ∀ argument, settings.pending ≠ some ⟨argument, none⟩
  plain : ∀ next, settings.settle = .ok next → next.Plain

theorem Plain.ready_await (h : settings.Plain) (hwaiting : ∀ given ∈ waiting, given.value ≠ "") :
    (settings.await waiting).Ready where
  reading := h.reading
  complete := by
    intro argument
    cases waiting with
    | none => simp [await]
    | some given => simp [await]
  plain := by
    intro next hnext
    rw [settle_await h.settled hwaiting] at hnext
    exact h.foldlM hnext

theorem take_of_short {word : String} {letters : List Char}
    (hreading : settings.positionalOnly = false)
    (hword : Word.ofChars word.toList = .short letters) :
    settings.take word = settings.takeShort letters := by
  rw [take, hreading, hword]
  rfl

theorem take_of_long {word : String} {name : List Char} {value : Option (List Char)}
    (hreading : settings.positionalOnly = false)
    (hword : Word.ofChars word.toList = .long name value) :
    settings.take word = settings.takeLong name value := by
  rw [take, hreading, hword]
  rfl

theorem take_of_plain {word : String} (hreading : settings.positionalOnly = false)
    (hword : StandsApart word) : settings.take word = settings.takePlain word := by
  rw [take, hreading, hword.ofChars]
  rfl

theorem Plain.expect_none (h : settings.Plain) (argument : Argument) :
    settings.expect argument none =
      .ok { settings with pending := some ⟨argument, none⟩ } := by
  rw [expect, h.settle]
  rfl

theorem Plain.expect_some (h : settings.Plain) (assignment : Assignment)
    (hvalue : assignment.value ≠ "") :
    settings.expect assignment.argument (some assignment.value.toList) =
      settings.assign assignment := by
  rw [expect, h.settle]
  change settings.accept assignment.argument (some (String.ofList assignment.value.toList)) = _
  rw [String.ofList_toList, accept_eq_assign hvalue]

theorem raise_eq {flag : Argument} (h : flag.isSetting = true) :
    settings.raise flag = settings.settle >>= fun settled => settled.assign ⟨flag, ""⟩ := by
  cases flag with
  | help | version => cases h
  | _ => rfl

theorem takeShort_letter (option : Valued) (rest : List Char) :
    settings.takeShort (option.letter :: rest) =
      settings.expect option.argument (Word.attached? rest) := by
  cases option <;> rfl

theorem takeLong_name (option : Valued) (value : Option (List Char)) :
    settings.takeLong option.name value = settings.expect option.argument value := by
  cases option <;> rfl

/-- What waits is settled before an option is taken. -/
theorem Ready.expect_eq (h : settings.Ready) (argument : Argument) (value : Option (List Char)) :
    settings.expect argument value =
      settings.settle >>= fun settled => settled.expect argument value := by
  rw [expect]
  apply bind_congr_ok
  intro settled hsettled
  rw [expect, (h.plain settled hsettled).settle]
  rfl

/-- However an option is named, what stands before its letter is assigned first. -/
theorem Ready.take_naming (h : settings.Ready) (option : Valued) (naming : Naming)
    {rest : List Char} (hrest : naming = .long → rest = [] ∨ ∃ value, rest = '=' :: value) :
    settings.take (String.ofList (naming.chars option ++ rest)) =
      settings.settle >>= fun settled => naming.before.foldlM assign settled >>= fun next =>
        next.expect option.argument (Word.attached? rest) := by
  cases naming with
  | short =>
    have hword : Word.ofChars (String.ofList ('-' :: option.letter :: rest)).toList =
        .short (option.letter :: rest) := by
      rw [String.toList_ofList, Word.ofChars_short option.letter_ne_dash]
    change settings.take (String.ofList ('-' :: option.letter :: rest)) = _
    rw [take_of_short h.reading hword, takeShort_letter, h.expect_eq]
    rfl
  | behindVerbose =>
    have hword : Word.ofChars (String.ofList ('-' :: 'v' :: option.letter :: rest)).toList =
        .short ('v' :: option.letter :: rest) := by
      rw [String.toList_ofList, Word.ofChars_short (by decide)]
    have hraise : settings.takeShort ('v' :: option.letter :: rest) =
        settings.settle >>= fun settled => settled.assign ⟨.verbose, ""⟩ >>= fun next =>
          next.takeShort (option.letter :: rest) := by
      change settings.raise .verbose >>= _ = _
      rw [raise_eq rfl, bind_assoc]
    change settings.take (String.ofList ('-' :: 'v' :: option.letter :: rest)) = _
    rw [take_of_short h.reading hword, hraise]
    simp only [takeShort_letter, Naming.before, List.foldlM_cons, List.foldlM_nil, bind_pure]
  | long =>
    have hword : Word.ofChars (String.ofList ('-' :: '-' :: (option.name ++ rest))).toList =
        .long option.name (Word.attached? rest) := by
      rw [String.toList_ofList, option.ofChars_name (hrest rfl)]
    change settings.take (String.ofList ('-' :: '-' :: (option.name ++ rest))) = _
    rw [take_of_long h.reading hword, takeLong_name, h.expect_eq]
    rfl

/-- What is all assigned at once leaves nothing waiting. -/
theorem Plain.foldlM_await_none (h : settings.Plain) (given : List Assignment) :
    (given.foldlM assign settings >>= fun next => Except.ok (next.await none)) =
      given.foldlM assign settings := by
  have hsame : (given.foldlM assign settings >>= fun next => Except.ok (next.await none)) =
      given.foldlM assign settings >>= pure := by
    apply bind_congr_ok
    intro next hnext
    rw [(h.foldlM hnext).await_none]
    rfl
  rw [hsame, bind_pure]

/-- What is assigned by a word on its own. -/
theorem Ready.take_of_assign (h : settings.Ready) {word : String} {given : List Assignment}
    (hword : settings.take word =
      settings.settle >>= fun settled => given.foldlM assign settled) :
    [word].foldlM take settings =
      settings.settle >>= fun settled => given.foldlM assign settled >>= fun next =>
        .ok (next.await none) := by
  rw [List.foldlM_cons, hword]
  simp only [List.foldlM_nil, bind_pure]
  apply bind_congr_ok
  intro settled hsettled
  exact ((h.plain settled hsettled).foldlM_await_none given).symm

theorem Ready.take_attached (h : settings.Ready) (option : Valued) (naming : Naming)
    {rest : List Char} {value : String} (hvalue : value ≠ "")
    (hrest : naming = .long → rest = [] ∨ ∃ value, rest = '=' :: value)
    (hattached : Word.attached? rest = some value.toList) :
    settings.take (String.ofList (naming.chars option ++ rest)) =
      settings.settle >>= fun settled =>
        (naming.before ++ [Assignment.mk option.argument value]).foldlM assign settled := by
  rw [h.take_naming option naming hrest, hattached]
  apply bind_congr_ok
  intro settled hsettled
  rw [List.foldlM_append]
  apply bind_congr_ok
  intro next hnext
  have hplain := (h.plain settled hsettled).foldlM hnext
  rw [List.foldlM_cons, hplain.expect_some ⟨option.argument, value⟩ hvalue]
  exact (bind_pure _).symm

theorem Ready.take_flag (h : settings.Ready) {word : String} {flag : Argument}
    (hflag : flag.isSetting = true) (hword : settings.take word = settings.raise flag) :
    [word].foldlM take settings =
      settings.settle >>= fun settled => [Assignment.mk flag ""].foldlM assign settled >>=
        fun next => .ok (next.await none) := by
  apply h.take_of_assign
  rw [hword, raise_eq hflag]
  simp only [List.foldlM_cons, List.foldlM_nil, bind_pure]

theorem take_check (hreading : settings.positionalOnly = false) :
    settings.take "--check" = settings.raise .check := by
  rw [take, hreading]
  rfl

theorem take_verbose (hreading : settings.positionalOnly = false) (long : Bool) :
    settings.take (if long then "--verbose" else "-v") = settings.raise .verbose := by
  rw [take, hreading]
  cases long with
  | true => rfl
  | false => exact bind_pure (settings.raise .verbose)

theorem Ready.take_apart (h : settings.Ready) (option : Valued) (naming : Naming)
    {value : String} (hvalue : StandsApart value) :
    (settings.take (String.ofList (naming.chars option)) >>= (·.take value)) =
      settings.settle >>= fun settled => naming.before.foldlM assign settled >>= fun next =>
        .ok (next.await (some ⟨option.argument, value⟩)) := by
  have hname := h.take_naming option naming fun _ => Or.inl (Eq.refl [])
  rw [List.append_nil] at hname
  rw [hname, bind_assoc]
  apply bind_congr_ok
  intro settled hsettled
  rw [bind_assoc]
  apply bind_congr_ok
  intro next hnext
  have hplain := (h.plain settled hsettled).foldlM hnext
  change (next.expect option.argument none >>= _) = _
  rw [hplain.expect_none]
  exact take_of_plain hplain.reading hvalue

theorem takePositional_eq (hsource : settings.namesSource = false) (path : String) :
    settings.takePositional path =
      settings.settle >>= fun settled => .ok (settled.await (some ⟨.source, path⟩)) := by
  rw [takePositional, ← namesSource, hsource]
  rfl

theorem Ready.take_source (h : settings.Ready) (hsource : settings.namesSource = false)
    {path : String} (hpath : StandsApart path) :
    settings.take path =
      settings.settle >>= fun settled => .ok (settled.await (some ⟨.source, path⟩)) := by
  rw [take_of_plain h.reading hpath, takePlain]
  split
  · next argument hpending => exact absurd hpending (h.complete argument)
  · exact takePositional_eq hsource path

end Settings

open Settings

/-- An item is read as what it assigns at once; what it leaves waiting is settled later. -/
theorem CommandLine.Item.foldlM_words {settings : Settings} (h : settings.Ready) (item : Item)
    (hsource : .source ∈ assigned item.given → settings.namesSource = false) :
    item.words.foldlM take settings =
      settings.settle >>= fun settled => item.atOnce.foldlM assign settled >>= fun next =>
        .ok (next.await item.waiting) := by
  cases item with
  | source path nonempty apart =>
    have hnew := hsource (by simp [Item.given, Item.atOnce, Item.waiting, assigned])
    rw [Item.words, List.foldlM_cons, h.take_source hnew apart]
    exact bind_pure _
  | valued option naming joint value nonempty fits =>
    cases joint with
    | apart =>
      have happart := h.take_apart option naming fits
      rw [Item.words, List.foldlM_cons]
      simp only [List.foldlM_cons, List.foldlM_nil, bind_pure, happart, Item.atOnce, Item.waiting]
    | glued =>
      have hnil : value.toList ≠ [] := by simpa using nonempty
      exact h.take_of_assign (h.take_attached option naming nonempty
        (fun hlong => absurd hlong fits.1) (Word.attached?_of_head? hnil fits.2))
    | equals =>
      exact h.take_of_assign (h.take_attached option naming nonempty
        (fun _ => Or.inr ⟨value.toList, rfl⟩) rfl)
  | check => exact h.take_flag rfl (take_check h.reading)
  | verbose long => exact h.take_flag rfl (take_verbose h.reading long)

end DocBlocks
