import DocBlocks.Proofs.EntryWriting

/-!
The shapes of JSON values that are entries. A shape is told by what stands under each
key that has a meaning; a list has the same shape as an object with the keys in their
order. The decoders accept the values of these shapes, each with its one entry.
-/
namespace DocBlocks

open Json

def IsText (value : Value) (s : String) : Prop := value = .text s

inductive IsNullableText : Value → Option String → Prop
  | null : IsNullableText .null none
  | text (s : String) : IsNullableText (.text s) (some s)

/-- What a value stands for if it is given, and the default if it is not. -/
inductive Given {α : Type} (kind : Value → α → Prop) (default : α) : Option Value → α → Prop
  | absent : Given kind default none default
  | present {value : Value} {a : α} (h : kind value a) : Given kind default (some value) a

/-- What an object has to have under the keys of a parameter. -/
structure Parameter.Fits (p : Parameter) (fields : Members) : Prop where
  name : fields.get? "name" = some (.text p.name)
  type : fields.get? "vtype" = some (.text p.type)
  text : Given IsText "" (fields.get? "text") p.text

/-- The keys of a parameter in the order in which a list gives their values. -/
def parameterKeys : List String := ["name", "vtype", "text"]

inductive IsParameter : Value → Parameter → Prop
  | object {fields : Members} {p : Parameter} (h : p.Fits fields) :
      IsParameter (.object fields) p
  | list {items : List Value} {p : Parameter} (hleast : 2 ≤ items.length)
      (hmost : items.length ≤ 3) (h : p.Fits (parameterKeys.zip items)) :
      IsParameter (.list items) p

inductive AreParameters : Value → List Parameter → Prop
  | list {items : List Value} {ps : List Parameter} (h : List.Forall₂ IsParameter items ps) :
      AreParameters (.list items) ps

structure FunctionDoc.Fits (doc : FunctionDoc) (fields : Members) : Prop where
  name : fields.get? "name" = some (.text doc.name)
  parameters : Given AreParameters [] (fields.get? "args") doc.parameters
  text : Given IsNullableText none (fields.get? "text") doc.text
  longText : Given IsNullableText none (fields.get? "longtext") doc.longText
  returns : Given IsNullableText none (fields.get? "return") doc.returns
  usage : Given IsText "" (fields.get? "example") doc.usage

def functionKeys : List String := ["name", "args", "text", "longtext", "return", "example"]

structure ClassDoc.Fits (doc : ClassDoc) (fields : Members) : Prop where
  name : fields.get? "class" = some (.text doc.name)
  text : Given IsNullableText none (fields.get? "text") doc.text
  longText : Given IsNullableText none (fields.get? "longtext") doc.longText

/-- The value of a class is an object with the key `class`. Any other object, and any
list, can only be the value of a function. -/
inductive IsEntry : Value → Entry → Prop
  | ofClass {fields : Members} {doc : ClassDoc} (h : doc.Fits fields) :
      IsEntry (.object fields) (.ofClass doc)
  | ofFunction {fields : Members} {doc : FunctionDoc} (hclass : fields.get? "class" = none)
      (h : doc.Fits fields) : IsEntry (.object fields) (.ofFunction doc)
  | ofList {items : List Value} {doc : FunctionDoc} (hleast : 1 ≤ items.length)
      (hmost : items.length ≤ 6) (h : doc.Fits (functionKeys.zip items)) :
      IsEntry (.list items) (.ofFunction doc)

namespace Decode

variable {α : Type} {decode : Value → Result α} {kind : Value → α → Prop} {default a : α}
  {fields : Members} {key : String}

theorem text_eq_ok_iff {value : Value} {s : String} : text value = .ok s ↔ IsText value s := by
  constructor
  · intro h
    cases value with
    | text other =>
      obtain rfl := Except.ok.inj h
      rfl
    | null | boolean | number | list | object => cases h
  · rintro rfl
    rfl

theorem optionalText_eq_ok_iff {value : Value} {o : Option String} :
    optionalText value = .ok o ↔ IsNullableText value o := by
  constructor
  · intro h
    cases value with
    | null =>
      obtain rfl := Except.ok.inj h
      exact .null
    | text s =>
      obtain rfl := Except.ok.inj h
      exact .text s
    | boolean | number | list | object => cases h
  · rintro (_ | s)
    · rfl
    · rfl

theorem required_eq_ok_iff {field : String} {o : Option α} :
    required field o = .ok a ↔ o = some a := by
  cases o with
  | none => simp [required]
  | some b => simp [required]

theorem reached_eq_ok_iff {position : Nat} {wanted : Wanted} {o : Option α} :
    reached position wanted o = .ok a ↔ o = some a := by
  cases o with
  | none => simp [reached]
  | some b => simp [reached]

theorem notLonger_eq_ok_iff {items : List Value} {wanted : Wanted} {u : Unit} :
    notLonger items wanted = .ok u ↔ items.length ≤ wanted.positions := by
  unfold notLonger
  split
  · next h => simp [h]
  · next h => simp [h]

/-- A member that may be left out is decoded as what it stands for. -/
theorem exists_member?_iff (hkind : ∀ value a, decode value = .ok a ↔ kind value a) :
    (∃ o, member? fields key decode = .ok o ∧ o.getD default = a) ↔
      Given kind default (fields.get? key) a := by
  unfold member?
  cases fields.get? key with
  | none =>
    constructor
    · rintro ⟨o, ho, rfl⟩
      obtain rfl := Except.ok.inj ho
      exact .absent
    · rintro ⟨⟩
      exact ⟨none, rfl, rfl⟩
  | some value =>
    constructor
    · rintro ⟨o, ho, rfl⟩
      obtain ⟨b, hb, rfl⟩ := map_eq_ok_iff.mp ho
      exact .present ((hkind value b).mp hb)
    · rintro (_ | h)
      exact ⟨some a, congrArg (Except.map some) ((hkind value a).mpr h), rfl⟩

theorem member?_text_eq_ok_iff {s : String} :
    member? fields key text = .ok (some s) ↔ fields.get? key = some (.text s) := by
  unfold member?
  cases fields.get? key with
  | none => simp
  | some value =>
    rw [map_eq_ok_iff, Option.some_inj]
    constructor
    · rintro ⟨a, ha, hsome⟩
      obtain rfl := Option.some.inj hsome
      exact text_eq_ok_iff.mp ha
    · rintro rfl
      exact ⟨s, rfl, rfl⟩

theorem exists_member?_text_iff {s : String} :
    (∃ o, member? fields key text = .ok o ∧ o.getD "" = s) ↔
      Given IsText "" (fields.get? key) s :=
  exists_member?_iff fun _ _ => text_eq_ok_iff

theorem exists_member?_optionalText_iff {o : Option String} :
    (∃ found, member? fields key optionalText = .ok found ∧ found.join = o) ↔
      Given IsNullableText none (fields.get? key) o := by
  have hjoin : ∀ found : Option (Option String), found.join = found.getD none := by
    rintro (_ | found)
    · rfl
    · rfl
  simp only [hjoin]
  exact exists_member?_iff fun _ _ => optionalText_eq_ok_iff

theorem get?_zip_of_not_mem {keys : List String} (h : key ∉ keys) (items : List Value) :
    Members.get? key (keys.zip items) = none := by
  rw [Option.eq_none_iff_forall_ne_some]
  intro value hvalue
  exact h (List.of_mem_zip (Members.mem_of_get? hvalue)).1

/-- Values that are paired with keys in their order are found under them. -/
theorem get?_zip {keys : List String} (hkeys : keys.Nodup) {i : Nat} (hkey : keys[i]? = some key)
    (items : List Value) : Members.get? key (keys.zip items) = items[i]? := by
  induction keys generalizing i items with
  | nil => cases hkey
  | cons first keys ih =>
    obtain ⟨hfirst, hrest⟩ := List.nodup_cons.mp hkeys
    cases items with
    | nil => rfl
    | cons value items =>
      rw [List.zip_cons_cons, Members.get?]
      cases i with
      | zero =>
        obtain rfl := Option.some.inj hkey
        rw [get?_zip_of_not_mem hfirst, if_pos rfl]
        rfl
      | succ i =>
        have hne : first ≠ key := by
          rintro rfl
          exact hfirst (List.mem_of_getElem? hkey)
        rw [ih hrest hkey, if_neg hne, Option.or_none]
        rfl

/-- So a list is decoded like the object with the keys in their order. -/
theorem element?_eq_member? {keys : List String} (hkeys : keys.Nodup) {i : Nat}
    (hkey : keys[i]? = some key) (items : List Value) :
    element? items i decode = member? (keys.zip items) key decode := by
  unfold element? member?
  rw [get?_zip hkeys hkey]

theorem parameterOfMembers_eq_ok_iff {p : Parameter} :
    parameterOfMembers fields = .ok p ↔ p.Fits fields := by
  constructor
  · intro h
    obtain ⟨name, hname, h⟩ := bind_eq_ok_iff.mp h
    obtain ⟨words, hwords, h⟩ := bind_eq_ok_iff.mp h
    obtain ⟨type, htype, h⟩ := bind_eq_ok_iff.mp h
    obtain ⟨_, hname', h⟩ := bind_eq_ok_iff.mp h
    obtain ⟨_, htype', h⟩ := bind_eq_ok_iff.mp h
    obtain rfl := required_eq_ok_iff.mp hname'
    obtain rfl := required_eq_ok_iff.mp htype'
    obtain rfl := Except.ok.inj h
    exact ⟨member?_text_eq_ok_iff.mp hname, member?_text_eq_ok_iff.mp htype,
      exists_member?_text_iff.mp ⟨words, hwords, rfl⟩⟩
  · intro h
    obtain ⟨words, hwords, hdefault⟩ := exists_member?_text_iff.mpr h.text
    simp only [parameterOfMembers, member?_text_eq_ok_iff.mpr h.name, hwords,
      member?_text_eq_ok_iff.mpr h.type, bind, Except.bind, required, hdefault]
    rfl

theorem reached_text_eq_ok_iff {keys : List String} (hkeys : keys.Nodup) {i : Nat}
    (hkey : keys[i]? = some key) {items : List Value} {position : Nat} {wanted : Wanted}
    {s : String} :
    (element? items i text >>= reached position wanted) = .ok s ↔
      Members.get? key (keys.zip items) = some (.text s) := by
  rw [bind_eq_ok_iff, element?_eq_member? hkeys hkey, ← member?_text_eq_ok_iff]
  constructor
  · rintro ⟨o, ho, hreached⟩
    obtain rfl := reached_eq_ok_iff.mp hreached
    exact ho
  · intro h
    exact ⟨some s, h, rfl⟩

theorem lt_length_of_get?_zip {keys : List String} (hkeys : keys.Nodup) {i : Nat}
    (hkey : keys[i]? = some key) {items : List Value} {value : Value}
    (h : Members.get? key (keys.zip items) = some value) : i < items.length := by
  rw [get?_zip hkeys hkey] at h
  exact (List.getElem?_eq_some_iff.mp h).1

theorem nodup_parameterKeys : parameterKeys.Nodup := by decide

theorem nodup_functionKeys : functionKeys.Nodup := by decide

theorem parameterOfList_eq_ok_iff {items : List Value} {p : Parameter} :
    parameterOfList items = .ok p ↔ items.length ≤ 3 ∧ p.Fits (parameterKeys.zip items) := by
  have hname := @reached_text_eq_ok_iff "name" _ nodup_parameterKeys 0 rfl items 0 .parameter
  have htype := @reached_text_eq_ok_iff "vtype" _ nodup_parameterKeys 1 rfl items 1 .parameter
  have htext : element? items 2 text = member? (parameterKeys.zip items) "text" text :=
    element?_eq_member? nodup_parameterKeys rfl items
  constructor
  · intro h
    obtain ⟨name, hfirst, h⟩ := bind_eq_ok_iff.mp h
    obtain ⟨type, hsecond, h⟩ := bind_eq_ok_iff.mp h
    obtain ⟨words, hwords, h⟩ := bind_eq_ok_iff.mp h
    obtain ⟨_, hlength, h⟩ := bind_eq_ok_iff.mp h
    obtain rfl := Except.ok.inj h
    rw [htext] at hwords
    exact ⟨notLonger_eq_ok_iff.mp hlength, hname.mp hfirst, htype.mp hsecond,
      exists_member?_text_iff.mp ⟨words, hwords, rfl⟩⟩
  · rintro ⟨hlength, h⟩
    obtain ⟨words, hwords, hdefault⟩ := exists_member?_text_iff.mpr h.text
    have hmost : notLonger items .parameter = .ok () := notLonger_eq_ok_iff.mpr hlength
    rw [parameterOfList, hname.mpr h.name, htype.mpr h.type, htext, hwords, hmost]
    simp only [bind, Except.bind, hdefault]
    rfl

theorem parameter_eq_ok_iff {value : Value} {p : Parameter} :
    parameter value = .ok p ↔ IsParameter value p := by
  constructor
  · intro h
    cases value with
    | object fields => exact .object (parameterOfMembers_eq_ok_iff.mp h)
    | list items =>
      obtain ⟨hmost, hfits⟩ := parameterOfList_eq_ok_iff.mp h
      exact .list (lt_length_of_get?_zip nodup_parameterKeys (i := 1) rfl hfits.type) hmost hfits
    | null | boolean | number | text => cases h
  · rintro (h | ⟨-, hmost, h⟩)
    · exact parameterOfMembers_eq_ok_iff.mpr h
    · exact parameterOfList_eq_ok_iff.mpr ⟨hmost, h⟩

theorem parameters_eq_ok_iff {value : Value} {ps : List Parameter} :
    parameters value = .ok ps ↔ AreParameters value ps := by
  constructor
  · intro h
    cases value with
    | list items => exact .list ((mapM_eq_ok_iff.mp h).imp fun _ _ => parameter_eq_ok_iff.mp)
    | null | boolean | number | text | object => cases h
  · rintro ⟨h⟩
    exact mapM_eq_ok_iff.mpr (h.imp fun _ _ => parameter_eq_ok_iff.mpr)

theorem functionOfMembers_eq_ok_iff {doc : FunctionDoc} :
    functionOfMembers fields = .ok doc ↔ doc.Fits fields := by
  constructor
  · intro h
    obtain ⟨ps, hps, h⟩ := bind_eq_ok_iff.mp h
    obtain ⟨usage, husage, h⟩ := bind_eq_ok_iff.mp h
    obtain ⟨long, hlong, h⟩ := bind_eq_ok_iff.mp h
    obtain ⟨name, hname, h⟩ := bind_eq_ok_iff.mp h
    obtain ⟨returned, hreturned, h⟩ := bind_eq_ok_iff.mp h
    obtain ⟨words, hwords, h⟩ := bind_eq_ok_iff.mp h
    obtain ⟨_, hname', h⟩ := bind_eq_ok_iff.mp h
    obtain rfl := required_eq_ok_iff.mp hname'
    obtain rfl := Except.ok.inj h
    exact ⟨member?_text_eq_ok_iff.mp hname,
      (exists_member?_iff fun _ _ => parameters_eq_ok_iff).mp ⟨ps, hps, rfl⟩,
      exists_member?_optionalText_iff.mp ⟨words, hwords, rfl⟩,
      exists_member?_optionalText_iff.mp ⟨long, hlong, rfl⟩,
      exists_member?_optionalText_iff.mp ⟨returned, hreturned, rfl⟩,
      exists_member?_text_iff.mp ⟨usage, husage, rfl⟩⟩
  · intro h
    obtain ⟨ps, hps, hparameters⟩ :=
      (exists_member?_iff fun _ _ => parameters_eq_ok_iff).mpr h.parameters
    obtain ⟨usage, husage, hdefault⟩ := exists_member?_text_iff.mpr h.usage
    obtain ⟨long, hlong, hlongText⟩ := exists_member?_optionalText_iff.mpr h.longText
    obtain ⟨returned, hreturned, hreturns⟩ := exists_member?_optionalText_iff.mpr h.returns
    obtain ⟨words, hwords, htext⟩ := exists_member?_optionalText_iff.mpr h.text
    simp only [functionOfMembers, hps, husage, hlong, member?_text_eq_ok_iff.mpr h.name,
      hreturned, hwords, bind, Except.bind, required, hparameters, hdefault, hlongText, hreturns,
      htext]
    rfl

theorem functionOfList_eq_ok_iff {items : List Value} {doc : FunctionDoc} :
    functionOfList items = .ok doc ↔ items.length ≤ 6 ∧ doc.Fits (functionKeys.zip items) := by
  have hname := @reached_text_eq_ok_iff "name" _ nodup_functionKeys 0 rfl items 0 .function
  have hparameters : element? items 1 parameters =
      member? (functionKeys.zip items) "args" parameters :=
    element?_eq_member? nodup_functionKeys rfl items
  have htext : element? items 2 optionalText =
      member? (functionKeys.zip items) "text" optionalText :=
    element?_eq_member? nodup_functionKeys rfl items
  have hlongText : element? items 3 optionalText =
      member? (functionKeys.zip items) "longtext" optionalText :=
    element?_eq_member? nodup_functionKeys rfl items
  have hreturns : element? items 4 optionalText =
      member? (functionKeys.zip items) "return" optionalText :=
    element?_eq_member? nodup_functionKeys rfl items
  have husage : element? items 5 text = member? (functionKeys.zip items) "example" text :=
    element?_eq_member? nodup_functionKeys rfl items
  rw [functionOfList, hparameters, htext, hlongText, hreturns, husage]
  constructor
  · intro h
    obtain ⟨name, hfirst, h⟩ := bind_eq_ok_iff.mp h
    obtain ⟨ps, hps, h⟩ := bind_eq_ok_iff.mp h
    obtain ⟨words, hwords, h⟩ := bind_eq_ok_iff.mp h
    obtain ⟨long, hlong, h⟩ := bind_eq_ok_iff.mp h
    obtain ⟨returned, hreturned, h⟩ := bind_eq_ok_iff.mp h
    obtain ⟨usage, hused, h⟩ := bind_eq_ok_iff.mp h
    obtain ⟨_, hlength, h⟩ := bind_eq_ok_iff.mp h
    obtain rfl := Except.ok.inj h
    exact ⟨notLonger_eq_ok_iff.mp hlength, hname.mp hfirst,
      (exists_member?_iff fun _ _ => parameters_eq_ok_iff).mp ⟨ps, hps, rfl⟩,
      exists_member?_optionalText_iff.mp ⟨words, hwords, rfl⟩,
      exists_member?_optionalText_iff.mp ⟨long, hlong, rfl⟩,
      exists_member?_optionalText_iff.mp ⟨returned, hreturned, rfl⟩,
      exists_member?_text_iff.mp ⟨usage, hused, rfl⟩⟩
  · rintro ⟨hlength, h⟩
    obtain ⟨ps, hps, hlist⟩ :=
      (exists_member?_iff fun _ _ => parameters_eq_ok_iff).mpr h.parameters
    obtain ⟨usage, hused, hdefault⟩ := exists_member?_text_iff.mpr h.usage
    obtain ⟨long, hlong, hlonger⟩ := exists_member?_optionalText_iff.mpr h.longText
    obtain ⟨returned, hreturned, hreturn⟩ := exists_member?_optionalText_iff.mpr h.returns
    obtain ⟨words, hwords, hshort⟩ := exists_member?_optionalText_iff.mpr h.text
    have hmost : notLonger items .function = .ok () := notLonger_eq_ok_iff.mpr hlength
    rw [hname.mpr h.name, hps, hwords, hlong, hreturned, hused, hmost]
    simp only [bind, Except.bind, hlist, hdefault, hlonger, hreturn, hshort]
    rfl

theorem classOfMembers_eq_ok_iff {doc : ClassDoc} :
    classOfMembers fields = .ok doc ↔ doc.Fits fields := by
  constructor
  · intro h
    obtain ⟨name, hname, h⟩ := bind_eq_ok_iff.mp h
    obtain ⟨long, hlong, h⟩ := bind_eq_ok_iff.mp h
    obtain ⟨words, hwords, h⟩ := bind_eq_ok_iff.mp h
    obtain ⟨_, hname', h⟩ := bind_eq_ok_iff.mp h
    obtain rfl := required_eq_ok_iff.mp hname'
    obtain rfl := Except.ok.inj h
    exact ⟨member?_text_eq_ok_iff.mp hname,
      exists_member?_optionalText_iff.mp ⟨words, hwords, rfl⟩,
      exists_member?_optionalText_iff.mp ⟨long, hlong, rfl⟩⟩
  · intro h
    obtain ⟨long, hlong, hlonger⟩ := exists_member?_optionalText_iff.mpr h.longText
    obtain ⟨words, hwords, hshort⟩ := exists_member?_optionalText_iff.mpr h.text
    rw [classOfMembers, member?_text_eq_ok_iff.mpr h.name, hlong, hwords]
    simp only [bind, Except.bind, required, hlonger, hshort]
    rfl

theorem entry_eq_ok_iff {value : Value} {e : Entry} : entry value = .ok e ↔ IsEntry value e := by
  constructor
  · intro h
    cases value with
    | object fields =>
      simp only [entry] at h
      split at h
      · obtain ⟨doc, hdoc, rfl⟩ := map_eq_ok_iff.mp h
        exact .ofClass (classOfMembers_eq_ok_iff.mp hdoc)
      · next hclass =>
        obtain ⟨doc, hdoc, rfl⟩ := map_eq_ok_iff.mp h
        exact .ofFunction (Option.not_isSome_iff_eq_none.mp hclass)
          (functionOfMembers_eq_ok_iff.mp hdoc)
    | list items =>
      obtain ⟨doc, hdoc, rfl⟩ := map_eq_ok_iff.mp h
      obtain ⟨hmost, hfits⟩ := functionOfList_eq_ok_iff.mp hdoc
      exact .ofList (lt_length_of_get?_zip nodup_functionKeys (i := 0) rfl hfits.name) hmost hfits
    | null | boolean | number | text => cases h
  · rintro (h | ⟨hclass, h⟩ | ⟨-, hmost, h⟩)
    · rw [entry, if_pos (by rw [h.name]; rfl), classOfMembers_eq_ok_iff.mpr h]
      rfl
    · rw [entry, if_neg (by rw [hclass]; exact Bool.false_ne_true),
        functionOfMembers_eq_ok_iff.mpr h]
      rfl
    · exact map_eq_ok_iff.mpr ⟨_, functionOfList_eq_ok_iff.mpr ⟨hmost, h⟩, rfl⟩

end Decode

/-- A descriptor whose text is JSON has an entry exactly if the value has the shape of
one, and then that entry. Any other descriptor is malformed, and is reported as it is:
with what is wrong with its text, if that is no JSON, or with its value. -/
theorem entry_eq_ok_iff_shape (descriptor : Descriptor) :
    (∀ value, Json.read descriptor.text.toList = .ok value →
      (∀ entry, descriptor.entry = .ok entry ↔ IsEntry value entry) ∧
        ((∀ entry, ¬ IsEntry value entry) →
          ∃ mismatch, descriptor.entry = .error ⟨descriptor, .shape mismatch⟩)) ∧
      ∀ fault, Json.read descriptor.text.toList = .error fault →
        descriptor.entry = .error ⟨descriptor, .json fault⟩ := by
  constructor
  · intro value hread
    have hentry : descriptor.entry =
        ((Decode.entry value).mapError Flaw.shape).mapError (⟨descriptor, ·⟩) := by
      rw [Descriptor.entry, entryOfText, hread]
    constructor
    · intro entry
      rw [hentry, mapError_eq_ok_iff, mapError_eq_ok_iff, Decode.entry_eq_ok_iff]
    · intro hnone
      cases hdecode : Decode.entry value with
      | ok entry => exact absurd (Decode.entry_eq_ok_iff.mp hdecode) (hnone entry)
      | error mismatch =>
        rw [hentry, hdecode]
        exact ⟨mismatch, rfl⟩
  · intro fault hread
    rw [Descriptor.entry, entryOfText, hread]
    rfl

/-- A function by position, with a parameter by position. -/
def positionalText : String := "[\"f\",[[\"x\",\"int\"]],null]"

/-- An object with the key of a class, and no name under it. -/
def unnamedText : String := "\x7b\"class\":null,\"name\":\"f\"\x7d"

theorem entry_eq_ok_iff_shape_positional :
    (⟨1, positionalText⟩ : Descriptor).entry =
        .ok (.ofFunction ⟨"f", [⟨"x", "int", ""⟩], none, none, none, ""⟩) ∧
      ∃ mismatch, (⟨2, unnamedText⟩ : Descriptor).entry =
        .error ⟨⟨2, unnamedText⟩, .shape mismatch⟩ := by
  have hlist : Json.read positionalText.toList =
      .ok (.list [.text "f", .list [.list [.text "x", .text "int"]], .null]) := rfl
  have hobject : Json.read unnamedText.toList =
      .ok (.object [("class", .null), ("name", .text "f")]) := rfl
  obtain ⟨hpositional, -⟩ := entry_eq_ok_iff_shape ⟨1, positionalText⟩
  obtain ⟨hunnamed, -⟩ := entry_eq_ok_iff_shape ⟨2, unnamedText⟩
  constructor
  · refine ((hpositional _ hlist).1 _).mpr (.ofList (by decide) (by decide) ?_)
    have hparameter : IsParameter (.list [.text "x", .text "int"]) ⟨"x", "int", ""⟩ :=
      .list (by decide) (by decide) ⟨rfl, rfl, .absent⟩
    exact ⟨rfl, .present (.list (.cons hparameter .nil)), .present .null, .absent, .absent,
      .absent⟩
  · refine (hunnamed _ hobject).2 ?_
    have hclass : Members.get? "class" [("class", .null), ("name", .text "f")] = some .null := rfl
    rintro entry (h | ⟨hnone, -⟩)
    · cases hclass.symm.trans h.name
    · cases hclass.symm.trans hnone

end DocBlocks
