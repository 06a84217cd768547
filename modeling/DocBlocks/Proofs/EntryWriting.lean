import DocBlocks.Proofs.Writing
import DocBlocks.Descriptor
import Mathlib.Data.List.Forall2
import Mathlib.Data.List.Nodup

/-!
The texts that write an entry as an object. The keys stand in any order among keys
without a meaning, and what is absent or empty may be left out. Every entry has
such texts, and each of them is read as the entry.
-/
namespace DocBlocks

open Json

namespace Json.Members

theorem mem_of_get? {key : String} {members : Members} {value : Value}
    (h : get? key members = some value) : (key, value) ∈ members := by
  induction members with
  | nil => cases h
  | cons first later ih =>
    obtain ⟨other, v⟩ := first
    rcases Option.or_eq_some_iff.mp h with hlater | ⟨-, hfirst⟩
    · exact List.mem_cons_of_mem _ (ih hlater)
    · split at hfirst
      · next heq =>
        obtain rfl := Option.some.inj hfirst
        subst heq
        exact List.mem_cons_self
      · cases hfirst

theorem not_mem_of_get? {key : String} {members : Members} (h : get? key members = none)
    (value : Value) : (key, value) ∉ members := by
  induction members with
  | nil => exact List.not_mem_nil
  | cons first later ih =>
    obtain ⟨other, v⟩ := first
    obtain ⟨hlater, hfirst⟩ := Option.or_eq_none_iff.mp h
    intro hmem
    rcases List.mem_cons.mp hmem with heq | hmem
    · obtain ⟨rfl, -⟩ := Prod.mk.inj heq
      rw [if_pos rfl] at hfirst
      cases hfirst
    · exact ih hlater hmem

end Json.Members

/-- What an object has under a key: only values of a kind, and one of them at least
unless the key may be omitted. -/
structure Field (members : Members) (key : String) (kind : Value → Prop) (omitted : Prop) :
    Prop where
  fits : ∀ value, (key, value) ∈ members → kind value
  present : omitted ∨ ∃ value, (key, value) ∈ members

namespace Field

variable {α : Type} {members : Members} {key : String} {kind : Value → Prop} {omitted : Prop}
  {decode : Value → Decode.Result α} {a : α}

/-- If a kind of value is decoded alike, so is the member with the key. -/
theorem member? (h : Field members key kind omitted)
    (hdecode : ∀ value, kind value → decode value = .ok a) :
    Decode.member? members key decode = .ok (some a) ∨
      omitted ∧ Decode.member? members key decode = .ok none := by
  unfold Decode.member?
  cases hget : Members.get? key members with
  | some value =>
    have hvalue := hdecode value (h.fits value (Members.mem_of_get? hget))
    exact Or.inl (congrArg (Except.map some) hvalue)
  | none =>
    rcases h.present with homitted | ⟨value, hmem⟩
    · exact Or.inr ⟨homitted, rfl⟩
    · exact absurd hmem (Members.not_mem_of_get? hget value)

theorem required (h : Field members key kind False)
    (hdecode : ∀ value, kind value → decode value = .ok a) :
    Decode.member? members key decode = .ok (some a) := by
  rcases h.member? hdecode with hsome | ⟨hfalse, -⟩
  · exact hsome
  · exact hfalse.elim

theorem defaulted {default : α} (h : Field members key kind (a = default))
    (hdecode : ∀ value, kind value → decode value = .ok a) :
    ∃ found, Decode.member? members key decode = .ok found ∧ found.getD default = a := by
  rcases h.member? hdecode with hsome | ⟨homitted, hnone⟩
  · exact ⟨some a, hsome, rfl⟩
  · exact ⟨none, hnone, homitted.symm⟩

end Field

/-- A text, or null if there is none. -/
def optionalValue : Option String → Value
  | none => .null
  | some s => .text s

theorem optionalText_optionalValue (o : Option String) :
    Decode.optionalText (optionalValue o) = .ok o := by
  cases o with
  | none => rfl
  | some s => rfl

namespace Field

variable {members : Members} {key : String}

theorem text {s : String} (h : Field members key (· = .text s) False) :
    Decode.member? members key Decode.text = .ok (some s) :=
  h.required (fun _ hvalue => hvalue ▸ rfl)

theorem defaultText {s : String} (h : Field members key (· = .text s) (s = "")) :
    ∃ found, Decode.member? members key Decode.text = .ok found ∧ found.getD "" = s :=
  h.defaulted (fun _ hvalue => hvalue ▸ rfl)

theorem optionalText {o : Option String}
    (h : Field members key (· = optionalValue o) (o = none)) :
    ∃ found, Decode.member? members key Decode.optionalText = .ok found ∧ found.join = o := by
  have hdecode : ∀ value, value = optionalValue o → Decode.optionalText value = .ok o := by
    rintro _ rfl
    exact optionalText_optionalValue o
  rcases h.member? hdecode with hsome | ⟨homitted, hnone⟩
  · exact ⟨some o, hsome, rfl⟩
  · exact ⟨none, hnone, homitted.symm⟩

end Field

/-- The members of an object that writes a parameter. -/
structure Parameter.WrittenBy (p : Parameter) (members : Members) : Prop where
  name : Field members "name" (· = .text p.name) False
  type : Field members "vtype" (· = .text p.type) False
  text : Field members "text" (· = .text p.text) (p.text = "")

/-- A list of objects, one for each parameter. -/
def IsParameterList (parameters : List Parameter) (value : Value) : Prop :=
  ∃ objects : List Members, value = .list (objects.map .object) ∧
    List.Forall₂ Parameter.WrittenBy parameters objects

/-- The members of an object that writes a function. -/
structure FunctionDoc.WrittenBy (doc : FunctionDoc) (members : Members) : Prop where
  unclassed : ∀ value, ("class", value) ∉ members
  name : Field members "name" (· = .text doc.name) False
  parameters : Field members "args" (IsParameterList doc.parameters) (doc.parameters = [])
  text : Field members "text" (· = optionalValue doc.text) (doc.text = none)
  longText : Field members "longtext" (· = optionalValue doc.longText) (doc.longText = none)
  returns : Field members "return" (· = optionalValue doc.returns) (doc.returns = none)
  usage : Field members "example" (· = .text doc.usage) (doc.usage = "")

/-- The members of an object that writes a class. -/
structure ClassDoc.WrittenBy (doc : ClassDoc) (members : Members) : Prop where
  name : Field members "class" (· = .text doc.name) False
  text : Field members "text" (· = optionalValue doc.text) (doc.text = none)
  longText : Field members "longtext" (· = optionalValue doc.longText) (doc.longText = none)

def Entry.WrittenBy : Entry → Members → Prop
  | .ofClass doc => doc.WrittenBy
  | .ofFunction doc => doc.WrittenBy

/-- A text writes an entry if it writes an object with such members. -/
def Entry.Writes (entry : Entry) (text : List Char) : Prop :=
  ∃ members, Written greatestDepth text (.value (.object members)) ∧ entry.WrittenBy members

theorem writable_optionalValue (depth : Nat) (o : Option String) :
    Writable depth (optionalValue o) := by
  cases o with
  | none => exact ⟨_, .null⟩
  | some s => exact writable_text depth s

namespace Field

variable {kind : Value → Prop} {omitted : Prop} {key : String} {value : Value}
  {members : Members}

theorem of_unique (hkind : kind value) (hmem : (key, value) ∈ members)
    (hunique : (members.map Prod.fst).Nodup) : Field members key kind omitted := by
  refine ⟨?_, Or.inr ⟨value, hmem⟩⟩
  intro other hother
  have heq := List.inj_on_of_nodup_map hunique hother hmem rfl
  obtain rfl := (Prod.mk.inj heq).2
  exact hkind

theorem of_missing (homitted : omitted) (hmissing : ∀ value, (key, value) ∉ members) :
    Field members key kind omitted :=
  ⟨fun other hother => absurd hother (hmissing other), Or.inl homitted⟩

end Field

/-- All the members that a parameter may have. -/
def Parameter.members (p : Parameter) : Members :=
  [("name", .text p.name), ("vtype", .text p.type), ("text", .text p.text)]

def FunctionDoc.members (doc : FunctionDoc) : Members :=
  [("name", .text doc.name), ("args", .list (doc.parameters.map fun p => .object p.members)),
    ("text", optionalValue doc.text), ("longtext", optionalValue doc.longText),
    ("return", optionalValue doc.returns), ("example", .text doc.usage)]

def ClassDoc.members (doc : ClassDoc) : Members :=
  [("class", .text doc.name), ("text", optionalValue doc.text),
    ("longtext", optionalValue doc.longText)]

theorem Parameter.writtenBy_members (p : Parameter) : p.WrittenBy p.members := by
  have hunique : (p.members.map Prod.fst).Nodup := by
    change ["name", "vtype", "text"].Nodup
    decide
  exact ⟨.of_unique rfl (by simp [members]) hunique, .of_unique rfl (by simp [members]) hunique,
    .of_unique rfl (by simp [members]) hunique⟩

theorem FunctionDoc.writtenBy_members (doc : FunctionDoc) : doc.WrittenBy doc.members := by
  have hunique : (doc.members.map Prod.fst).Nodup := by
    change ["name", "args", "text", "longtext", "return", "example"].Nodup
    decide
  have hlist : IsParameterList doc.parameters
      (.list (doc.parameters.map fun p => .object p.members)) := by
    refine ⟨doc.parameters.map Parameter.members, by rw [List.map_map]; rfl, ?_⟩
    rw [List.forall₂_map_right_iff, List.forall₂_same]
    exact fun p _ => p.writtenBy_members
  exact ⟨by simp [members], .of_unique rfl (by simp [members]) hunique,
    .of_unique hlist (by simp [members]) hunique, .of_unique rfl (by simp [members]) hunique,
    .of_unique rfl (by simp [members]) hunique, .of_unique rfl (by simp [members]) hunique,
    .of_unique rfl (by simp [members]) hunique⟩

theorem ClassDoc.writtenBy_members (doc : ClassDoc) : doc.WrittenBy doc.members := by
  have hunique : (doc.members.map Prod.fst).Nodup := by
    change ["class", "text", "longtext"].Nodup
    decide
  exact ⟨.of_unique rfl (by simp [members]) hunique, .of_unique rfl (by simp [members]) hunique,
    .of_unique rfl (by simp [members]) hunique⟩

theorem Parameter.writable (p : Parameter) (depth : Nat) :
    Writable (depth + 1) (.object p.members) := by
  apply writable_object
  simp only [members, List.forall_mem_cons]
  exact ⟨writable_text _ _, writable_text _ _, writable_text _ _, by simp⟩

theorem FunctionDoc.writable (doc : FunctionDoc) (depth : Nat) :
    Writable (depth + 3) (.object doc.members) := by
  have hlist : Writable (depth + 2) (.list (doc.parameters.map fun p => .object p.members)) := by
    apply writable_list
    intro item hitem
    obtain ⟨p, -, rfl⟩ := List.mem_map.mp hitem
    exact p.writable depth
  apply writable_object
  simp only [members, List.forall_mem_cons]
  exact ⟨writable_text _ _, hlist, writable_optionalValue _ _, writable_optionalValue _ _,
    writable_optionalValue _ _, writable_text _ _, by simp⟩

theorem ClassDoc.writable (doc : ClassDoc) (depth : Nat) :
    Writable (depth + 1) (.object doc.members) := by
  apply writable_object
  simp only [members, List.forall_mem_cons]
  exact ⟨writable_text _ _, writable_optionalValue _ _, writable_optionalValue _ _, by simp⟩

/-- Every entry has a text: one with all its members. -/
theorem Entry.exists_writes (entry : Entry) : ∃ text, entry.Writes text := by
  cases entry with
  | ofClass doc =>
    obtain ⟨text, htext⟩ := doc.writable 126
    exact ⟨text, doc.members, htext, doc.writtenBy_members⟩
  | ofFunction doc =>
    obtain ⟨text, htext⟩ := doc.writable 124
    exact ⟨text, doc.members, htext, doc.writtenBy_members⟩

namespace Decode

theorem parameterOfMembers_eq {p : Parameter} {members : Members} (h : p.WrittenBy members) :
    parameterOfMembers members = .ok p := by
  obtain ⟨words, hwords, htext⟩ := h.text.defaultText
  simp only [parameterOfMembers, h.name.text, hwords, h.type.text, bind, Except.bind, required,
    htext]
  rfl

theorem parameters_eq {ps : List Parameter} {value : Value} (h : IsParameterList ps value) :
    parameters value = .ok ps := by
  obtain ⟨objects, rfl, hobjects⟩ := h
  change (objects.map Value.object).mapM parameter = .ok ps
  induction hobjects with
  | nil => rfl
  | @cons p members ps objects hfirst _ ih =>
    have hparameter : parameter (.object members) = .ok p := parameterOfMembers_eq hfirst
    rw [List.map_cons, List.mapM_cons, hparameter, ih]
    rfl

theorem functionOfMembers_eq {doc : FunctionDoc} {members : Members}
    (h : doc.WrittenBy members) : functionOfMembers members = .ok doc := by
  obtain ⟨ps, hps, hparameters⟩ := h.parameters.defaulted (fun _ => parameters_eq)
  obtain ⟨usage, husage, hdefault⟩ := h.usage.defaultText
  obtain ⟨long, hlong, hlongText⟩ := h.longText.optionalText
  obtain ⟨returned, hreturned, hreturns⟩ := h.returns.optionalText
  obtain ⟨words, hwords, htext⟩ := h.text.optionalText
  simp only [functionOfMembers, hps, husage, hlong, h.name.text, hreturned, hwords, bind,
    Except.bind, required, hparameters, hdefault, hlongText, hreturns, htext]
  rfl

theorem classOfMembers_eq {doc : ClassDoc} {members : Members} (h : doc.WrittenBy members) :
    classOfMembers members = .ok doc := by
  obtain ⟨long, hlong, hlongText⟩ := h.longText.optionalText
  obtain ⟨words, hwords, htext⟩ := h.text.optionalText
  simp only [classOfMembers, h.name.text, hlong, hwords, bind, Except.bind, required, hlongText,
    htext]
  rfl

/-- An object that writes an entry is decoded as the entry. -/
theorem entry_eq {e : Entry} {members : Members} (h : e.WrittenBy members) :
    entry (.object members) = .ok e := by
  cases e with
  | ofClass doc =>
    have hclass : (Members.get? "class" members).isSome = true := by
      rcases h.name.present with hfalse | ⟨value, hmem⟩
      · exact hfalse.elim
      · rw [Option.isSome_iff_ne_none]
        intro hnone
        exact Members.not_mem_of_get? hnone value hmem
    simp only [entry, hclass, if_true, classOfMembers_eq h]
    rfl
  | ofFunction doc =>
    have hclass : Members.get? "class" members = none := by
      rw [Option.eq_none_iff_forall_not_mem]
      intro value hvalue
      exact h.unclassed value (Members.mem_of_get? hvalue)
    simp only [entry, hclass, functionOfMembers_eq h]
    rfl

end Decode

/-- Every entry is written by some text, and a descriptor with a text that writes an
entry is read as that entry, on whatever line it stands. -/
theorem entry_of_writes (entry : Entry) :
    (∃ text, entry.Writes text) ∧
      ∀ (line : Nat) (text : String), entry.Writes text.toList →
        (⟨line, text⟩ : Descriptor).entry = .ok entry := by
  refine ⟨entry.exists_writes, ?_⟩
  rintro line text ⟨members, hwritten, hmembers⟩
  have hread : Json.read text.toList = .ok (.object members) := read_written hwritten
  rw [Descriptor.entry, entryOfText, hread]
  change ((Decode.entry (.object members)).mapError Flaw.shape).mapError _ = _
  rw [Decode.entry_eq hmembers]
  rfl

/-- A name as a pair of escapes behind a key with one, a parameter with a key of its own,
and null for a description. -/
def pairText : String :=
  "\x7b\"return\": null,\n\"na\\u006De\" :\"\\ud83d\\ude00\"," ++
    "\"args\":[\x7b\"of\":[\x7b\x7d],\"vtype\":\"int\",\"name\":\"x\"\x7d]\x7d\n"

def pairDoc : FunctionDoc := ⟨"😀", [⟨"x", "int", ""⟩], none, none, none, ""⟩

theorem spelled_nameKey : Spelled "na\\u006De".toList "name".toList := by
  have hunit : HexUnit ['0', '0', '6', 'D'] ('m' : Char).toNat :=
    @HexUnit.mk '0' '0' '6' 'D' 0 0 6 13 rfl rfl rfl rfl
  have hfront : Spelled "na".toList "na".toList := spelled_self (by decide +kernel)
  have hback : Spelled "e".toList "e".toList := spelled_self (by decide +kernel)
  have hall := hfront.append ((SpelledChar.unit hunit).spelled.append hback)
  have hraw : "na\\u006De".toList =
      "na".toList ++ ('\\' :: 'u' :: ['0', '0', '6', 'D'] ++ "e".toList) := by decide +kernel
  have htext : "name".toList = "na".toList ++ (['m'] ++ "e".toList) := by decide +kernel
  rwa [hraw, htext]

def pairParameter : Members :=
  [("of", .list [.object []]), ("vtype", .text "int"), ("name", .text "x")]

def pairMembers : Members :=
  [("return", .null), ("name", .text "😀"), ("args", .list [.object pairParameter])]

theorem written_pairText :
    Written greatestDepth pairText.toList (.value (.object pairMembers)) := by
  have hreturn := writtenKey_self "return" (by decide +kernel)
  have hnull : Written 126 ([' '] ++ (['n', 'u', 'l', 'l'] ++ [])) (.value .null) :=
    .spaced (by decide) .null spaces_nil
  have hkey : WrittenKey (['\n'] ++ '"' :: ("na\\u006De".toList ++ '"' :: ([' '] ++ [':'])))
      "name" := .mk (by decide) spelled_nameKey (by decide)
  have hname : Written 126 ('"' :: ("\\ud83d\\ude00".toList ++ ['"'])) (.value (.text "😀")) :=
    .text spelled_pair
  have hargs := writtenKey_self "args" (by decide +kernel)
  have hof : Written 124 ('[' :: ('{' :: ([] ++ ['}']) ++ [']'])) (.value (.list [.object []])) :=
    .list (.element (.emptyObject spaces_nil))
  have hofKey := writtenKey_self "of" (by decide +kernel)
  have htypeKey := writtenKey_self "vtype" (by decide +kernel)
  have htype : Written 124 _ _ := written_self "int" (by decide +kernel)
  have hnameKey := writtenKey_self "name" (by decide +kernel)
  have hx : Written 124 _ _ := written_self "x" (by decide +kernel)
  have hparameter : Written 125 _ (.value (.object pairParameter)) :=
    .object (.members hofKey hof (.members htypeKey htype (.member hnameKey hx)))
  have hobject : Written greatestDepth _ (.value (.object pairMembers)) :=
    .object (.members hreturn hnull
      (.members hkey hname (.member hargs (.list (.element hparameter)))))
  have hall := Written.spaced spaces_nil hobject (show Spaces ['\n'] by decide)
  convert hall using 1
  decide +kernel

theorem writtenBy_pairMembers : pairDoc.WrittenBy pairMembers := by
  have hinner : (pairParameter.map Prod.fst).Nodup := by decide +kernel
  have houter : (pairMembers.map Prod.fst).Nodup := by decide +kernel
  have hparameter : Parameter.WrittenBy ⟨"x", "int", ""⟩ pairParameter :=
    ⟨.of_unique rfl (by simp [pairParameter]) hinner,
      .of_unique rfl (by simp [pairParameter]) hinner,
      .of_missing rfl (by simp [pairParameter])⟩
  have hlist : IsParameterList [⟨"x", "int", ""⟩] (.list [.object pairParameter]) :=
    ⟨[pairParameter], rfl, .cons hparameter .nil⟩
  exact ⟨by simp [pairMembers], .of_unique rfl (by simp [pairMembers, pairDoc]) houter,
    .of_unique hlist (by simp [pairMembers]) houter, .of_missing rfl (by simp [pairMembers]),
    .of_missing rfl (by simp [pairMembers]),
    .of_unique rfl (by simp [pairMembers, pairDoc, optionalValue]) houter,
    .of_missing rfl (by simp [pairMembers])⟩

theorem entry_of_writes_pair :
    (Entry.ofFunction pairDoc).Writes pairText.toList ∧
      (⟨7, pairText⟩ : Descriptor).entry = .ok (.ofFunction pairDoc) := by
  have hwrites : (Entry.ofFunction pairDoc).Writes pairText.toList :=
    ⟨pairMembers, written_pairText, writtenBy_pairMembers⟩
  exact ⟨hwrites, (entry_of_writes (.ofFunction pairDoc)).2 7 pairText hwrites⟩

end DocBlocks
