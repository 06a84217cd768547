import DocBlocks.Proofs.Spelling

/-!
The texts that write a JSON value without numbers. White space may stand around
every token, and a string may be spelled in any way. The reader takes each of these
texts back to the value, if it is not nested deeper than the reader goes.
-/
namespace DocBlocks.Json

/-- White space, if any. -/
def Spaces (text : List Char) : Prop := ∀ c ∈ text, isSpace c = true

instance (text : List Char) : Decidable (Spaces text) :=
  decidable_of_iff (text.all isSpace = true) List.all_eq_true

theorem spaces_nil : Spaces [] := by simp [Spaces]

/-- A key of an object with the colon behind it. -/
inductive WrittenKey : List Char → String → Prop
  | mk {before raw key after : List Char} (hbefore : Spaces before) (hkey : Spelled raw key)
      (hafter : Spaces after) :
      WrittenKey (before ++ '"' :: (raw ++ '"' :: (after ++ [':']))) (String.ofList key)

/-- What a part of a text writes: a value, or what stands between brackets. -/
inductive Part
  | value (value : Value)
  | elements (items : List Value)
  | members (members : Members)

/-- `Written depth raw part` says that `raw` writes the part, with at most `depth`
lists and objects open at once. -/
inductive Written : Nat → List Char → Part → Prop
  | null {depth : Nat} : Written depth ['n', 'u', 'l', 'l'] (.value .null)
  | yes {depth : Nat} : Written depth ['t', 'r', 'u', 'e'] (.value (.boolean true))
  | no {depth : Nat} : Written depth ['f', 'a', 'l', 's', 'e'] (.value (.boolean false))
  | text {depth : Nat} {raw text : List Char} (h : Spelled raw text) :
      Written depth ('"' :: (raw ++ ['"'])) (.value (.text (String.ofList text)))
  | emptyList {depth : Nat} {gap : List Char} (h : Spaces gap) :
      Written (depth + 1) ('[' :: (gap ++ [']'])) (.value (.list []))
  | list {depth : Nat} {raw : List Char} {items : List Value}
      (h : Written depth raw (.elements items)) :
      Written (depth + 1) ('[' :: (raw ++ [']'])) (.value (.list items))
  | emptyObject {depth : Nat} {gap : List Char} (h : Spaces gap) :
      Written (depth + 1) ('{' :: (gap ++ ['}'])) (.value (.object []))
  | object {depth : Nat} {raw : List Char} {members : Members}
      (h : Written depth raw (.members members)) :
      Written (depth + 1) ('{' :: (raw ++ ['}'])) (.value (.object members))
  | spaced {depth : Nat} {before raw after : List Char} {value : Value}
      (hbefore : Spaces before) (hvalue : Written depth raw (.value value))
      (hafter : Spaces after) : Written depth (before ++ (raw ++ after)) (.value value)
  | element {depth : Nat} {raw : List Char} {value : Value}
      (h : Written depth raw (.value value)) : Written depth raw (.elements [value])
  | elements {depth : Nat} {raw rest : List Char} {value : Value} {items : List Value}
      (hfirst : Written depth raw (.value value)) (hrest : Written depth rest (.elements items)) :
      Written depth (raw ++ ',' :: rest) (.elements (value :: items))
  | member {depth : Nat} {rawKey raw : List Char} {key : String} {value : Value}
      (hkey : WrittenKey rawKey key) (hvalue : Written depth raw (.value value)) :
      Written depth (rawKey ++ raw) (.members [(key, value)])
  | members {depth : Nat} {rawKey raw rest : List Char} {key : String} {value : Value}
      {later : Members} (hkey : WrittenKey rawKey key)
      (hvalue : Written depth raw (.value value)) (hrest : Written depth rest (.members later)) :
      Written depth (rawKey ++ (raw ++ ',' :: rest)) (.members ((key, value) :: later))

/-- A key that stands for itself, without white space. -/
theorem writtenKey_self (key : String) (h : key.toList.all standsForItself = true) :
    WrittenKey ('"' :: (key.toList ++ ['"', ':'])) key := by
  have hkey := WrittenKey.mk spaces_nil (spelled_self h) spaces_nil
  rwa [String.ofList_toList] at hkey

theorem written_self {depth : Nat} (s : String) (h : s.toList.all standsForItself = true) :
    Written depth ('"' :: (s.toList ++ ['"'])) (.value (.text s)) := by
  have htext : Written depth _ _ := .text (spelled_self h)
  rwa [String.ofList_toList] at htext

theorem hexDigit?_digitChar : ∀ n < 16, Literal.hexDigit? (Nat.digitChar n) = some n := by
  decide

theorem exists_hexUnit {n : Nat} (h : n < 0x10000) : ∃ digits, HexUnit digits n := by
  have hdigit := hexDigit?_digitChar
  have hunit := HexUnit.mk (hdigit (n / 4096) (by omega)) (hdigit (n / 256 % 16) (by omega))
    (hdigit (n / 16 % 16) (by omega)) (hdigit (n % 16) (by omega))
  have hn : 16 * (16 * (16 * (n / 4096) + n / 256 % 16) + n / 16 % 16) + n % 16 = n := by omega
  rw [hn] at hunit
  exact ⟨_, hunit⟩

theorem exists_spelledChar (c : Char) : ∃ raw, SpelledChar raw c := by
  by_cases hself : c ≠ '"' ∧ c ≠ '\\' ∧ ¬ c < ' '
  · exact ⟨[c], .plain hself.1 hself.2.1 hself.2.2⟩
  · have hsmall : c.toNat < 0x10000 := by
      by_contra hlarge
      refine hself ⟨?_, ?_, ?_⟩
      · rintro rfl
        exact hlarge (by decide)
      · rintro rfl
        exact hlarge (by decide)
      · intro hcontrol
        have hlt : c.toNat < 32 := hcontrol
        omega
    obtain ⟨digits, hdigits⟩ := exists_hexUnit hsmall
    exact ⟨_, .unit hdigits⟩

theorem exists_spelled (text : List Char) : ∃ raw, Spelled raw text := by
  induction text with
  | nil => exact ⟨[], .nil⟩
  | cons c text ih =>
    obtain ⟨raw, hchar⟩ := exists_spelledChar c
    obtain ⟨rest, hrest⟩ := ih
    exact ⟨raw ++ rest, .cons hchar hrest⟩

theorem exists_writtenKey (key : String) : ∃ raw, WrittenKey raw key := by
  obtain ⟨raw, hraw⟩ := exists_spelled key.toList
  have hkey := WrittenKey.mk spaces_nil hraw spaces_nil
  rw [String.ofList_toList] at hkey
  exact ⟨_, hkey⟩

/-- A value that some text writes. -/
def Writable (depth : Nat) (value : Value) : Prop := ∃ raw, Written depth raw (.value value)

theorem writable_text (depth : Nat) (s : String) : Writable depth (.text s) := by
  obtain ⟨raw, hraw⟩ := exists_spelled s.toList
  have htext : Written depth _ _ := .text hraw
  rw [String.ofList_toList] at htext
  exact ⟨_, htext⟩

theorem writable_list {depth : Nat} {items : List Value}
    (h : ∀ item ∈ items, Writable depth item) : Writable (depth + 1) (.list items) := by
  cases items with
  | nil => exact ⟨_, .emptyList spaces_nil⟩
  | cons first items =>
    have helements : ∃ raw, Written depth raw (.elements (first :: items)) := by
      induction items generalizing first with
      | nil =>
        obtain ⟨raw, hraw⟩ := h first List.mem_cons_self
        exact ⟨raw, .element hraw⟩
      | cons second items ih =>
        obtain ⟨hfirst, hrest⟩ := List.forall_mem_cons.mp h
        obtain ⟨raw, hraw⟩ := hfirst
        obtain ⟨rest, hlater⟩ := ih second hrest
        exact ⟨_, .elements hraw hlater⟩
    obtain ⟨raw, hraw⟩ := helements
    exact ⟨_, .list hraw⟩

theorem writable_object {depth : Nat} {members : Members}
    (h : ∀ member ∈ members, Writable depth member.2) :
    Writable (depth + 1) (.object members) := by
  cases members with
  | nil => exact ⟨_, .emptyObject spaces_nil⟩
  | cons first members =>
    have hmembers : ∃ raw, Written depth raw (.members (first :: members)) := by
      induction members generalizing first with
      | nil =>
        obtain ⟨rawKey, hkey⟩ := exists_writtenKey first.1
        obtain ⟨raw, hraw⟩ := h first List.mem_cons_self
        exact ⟨_, .member hkey hraw⟩
      | cons second members ih =>
        obtain ⟨hfirst, hrest⟩ := List.forall_mem_cons.mp h
        obtain ⟨rawKey, hkey⟩ := exists_writtenKey first.1
        obtain ⟨raw, hraw⟩ := hfirst
        obtain ⟨rest, hlater⟩ := ih second hrest
        exact ⟨_, .members hkey hraw hlater⟩
    obtain ⟨raw, hraw⟩ := hmembers
    exact ⟨_, .object hraw⟩

/-- Between tokens, where white space makes no difference. -/
def Phase.Between : Phase → Prop
  | .value _ | .key _ _ | .colon _ _ | .ended _ => True
  | .keyword _ _ _ | .number _ _ | .text _ | .keyText _ _ => False

namespace Reader

variable {stack : List Frame} {phase : Phase} {closable : Bool}

theorem step_space {c : Char} (hphase : phase.Between) (hc : isSpace c = true) :
    (⟨stack, phase⟩ : Reader).step c = .ok ⟨stack, phase⟩ := by
  cases phase with
  | value => simp only [step, beginValue, if_pos hc]
  | key => simp only [step, beginKey, if_pos hc]
  | colon => simp only [step, if_pos hc]
  | ended => simp only [step, afterValue, if_pos hc]
  | keyword | number | text | keyText => exact hphase.elim

theorem steps_spaces (stack : List Frame) (phase : Phase) (hphase : phase.Between)
    {gap : List Char} (h : Spaces gap) :
    (⟨stack, phase⟩ : Reader).steps gap = .ok ⟨stack, phase⟩ := by
  induction gap with
  | nil => rfl
  | cons c gap ih =>
    obtain ⟨hc, hgap⟩ := List.forall_mem_cons.mp h
    exact steps_cons (step_space hphase hc) (ih hgap)

/-- A key is read up to its colon, and the value is next. -/
theorem steps_writtenKey (stack : List Frame) (before : Members) (closable : Bool)
    {raw : List Char} {key : String} (h : WrittenKey raw key) :
    (⟨stack, .key before closable⟩ : Reader).steps raw =
      .ok ⟨.object before key :: stack, .value false⟩ := by
  cases h with
  | @mk front rawKey text gap hbefore hkey hafter =>
    have hliteral : (⟨stack, .key before closable⟩ : Reader).steps ('"' :: (rawKey ++ ['"'])) =
        .ok ⟨stack, .colon before (String.ofList text)⟩ := steps_spelledKey hkey
    have hgap := steps_spaces stack (.colon before (String.ofList text)) trivial hafter
    have hcolon : (⟨stack, .colon before (String.ofList text)⟩ : Reader).steps [':'] =
        .ok ⟨.object before (String.ofList text) :: stack, .value false⟩ := rfl
    have hall := steps_append (steps_spaces stack (.key before closable) trivial hbefore)
      (steps_append hliteral (steps_append hgap hcolon))
    simpa only [List.append_assoc, List.cons_append, List.nil_append] using hall

theorem step_list (h : stack.length < greatestDepth) :
    (⟨stack, .value closable⟩ : Reader).step '[' = .ok ⟨.list [] :: stack, .value true⟩ := by
  simp only [step, beginValue, isSpace, if_pos h]
  rfl

theorem step_object (h : stack.length < greatestDepth) :
    (⟨stack, .value closable⟩ : Reader).step '{' = .ok ⟨stack, .key [] true⟩ := by
  simp only [step, beginValue, isSpace, if_pos h]
  rfl

end Reader

/-- How the reader goes through a text that writes a part. What stands between
brackets is read with the closing one. -/
def Part.ReadFrom (depth : Nat) (raw : List Char) : Part → Prop
  | .value v => ∀ (stack : List Frame) (closable : Bool),
      stack.length + depth ≤ greatestDepth →
        (⟨stack, .value closable⟩ : Reader).steps raw = .ok ⟨stack, .ended v⟩
  | .elements items => ∀ (stack : List Frame) (before : List Value) (closable : Bool),
      stack.length + 1 + depth ≤ greatestDepth →
        (⟨.list before :: stack, .value closable⟩ : Reader).steps (raw ++ [']']) =
          .ok ⟨stack, .ended (.list (before.reverse ++ items))⟩
  | .members later => ∀ (stack : List Frame) (before : Members) (closable : Bool),
      stack.length + 1 + depth ≤ greatestDepth →
        (⟨stack, .key before closable⟩ : Reader).steps (raw ++ ['}']) =
          .ok ⟨stack, .ended (.object (before.reverse ++ later))⟩

open Reader

/-- Induction on the text, with one case for each way of writing a part. -/
theorem Written.readFrom {depth : Nat} {raw : List Char} {part : Part}
    (h : Written depth raw part) : part.ReadFrom depth raw := by
  induction h with
  | null | yes | no => exact fun stack closable _ => rfl
  | text h => exact fun stack closable _ => steps_spelled h
  | emptyList h =>
    intro stack closable hdepth
    have hclose : (⟨.list [] :: stack, .value true⟩ : Reader).steps [']'] =
        .ok ⟨stack, .ended (.list [])⟩ := rfl
    have hgap := steps_spaces (.list [] :: stack) (.value true) trivial h
    exact steps_cons (step_list (by omega)) (steps_append hgap hclose)
  | list _ ih =>
    intro stack closable hdepth
    exact steps_cons (step_list (by omega)) (ih stack [] true (by omega))
  | emptyObject h =>
    intro stack closable hdepth
    have hclose : (⟨stack, .key [] true⟩ : Reader).steps ['}'] =
        .ok ⟨stack, .ended (.object [])⟩ := rfl
    have hgap := steps_spaces stack (.key [] true) trivial h
    exact steps_cons (step_object (by omega)) (steps_append hgap hclose)
  | object _ ih =>
    intro stack closable hdepth
    exact steps_cons (step_object (by omega)) (ih stack [] true (by omega))
  | @spaced depth before raw after value hbefore _ hafter ih =>
    intro stack closable hdepth
    have hfront := steps_spaces stack (.value closable) trivial hbefore
    have hback := steps_spaces stack (.ended value) trivial hafter
    exact steps_append hfront (steps_append (ih stack closable hdepth) hback)
  | @element depth raw value _ ih =>
    intro stack before closable hdepth
    have hvalue := ih (.list before :: stack) closable hdepth
    have hclose : (⟨.list before :: stack, .ended value⟩ : Reader).steps [']'] =
        .ok ⟨stack, .ended (.list (value :: before).reverse)⟩ := rfl
    rw [List.reverse_cons] at hclose
    exact steps_append hvalue hclose
  | @elements depth raw rest value items _ _ ihfirst ihrest =>
    intro stack before closable hdepth
    have hvalue := ihfirst (.list before :: stack) closable hdepth
    have hcomma : (⟨.list before :: stack, .ended value⟩ : Reader).step ',' =
        .ok ⟨.list (value :: before) :: stack, .value false⟩ := rfl
    have hlater := ihrest stack (value :: before) false hdepth
    have hall := steps_append hvalue (steps_cons hcomma hlater)
    simpa only [List.append_assoc, List.cons_append, List.reverse_cons, List.nil_append] using hall
  | @member depth rawKey raw key value hkey _ ih =>
    intro stack before closable hdepth
    have hvalue := ih (.object before key :: stack) false hdepth
    have hclose : (⟨.object before key :: stack, .ended value⟩ : Reader).steps ['}'] =
        .ok ⟨stack, .ended (.object ((key, value) :: before).reverse)⟩ := rfl
    rw [List.reverse_cons] at hclose
    rw [List.append_assoc]
    exact steps_append (steps_writtenKey stack before closable hkey) (steps_append hvalue hclose)
  | @members depth rawKey raw rest key value later hkey _ _ ihfirst ihrest =>
    intro stack before closable hdepth
    have hvalue := ihfirst (.object before key :: stack) false hdepth
    have hcomma : (⟨.object before key :: stack, .ended value⟩ : Reader).step ',' =
        .ok ⟨stack, .key ((key, value) :: before) false⟩ := rfl
    have hlater := ihrest stack ((key, value) :: before) false hdepth
    have hall := steps_append (steps_writtenKey stack before closable hkey)
      (steps_append hvalue (steps_cons hcomma hlater))
    simpa only [List.append_assoc, List.cons_append, List.reverse_cons, List.nil_append] using hall

/-- A text that writes a value is read as that value. -/
theorem read_written {text : List Char} {value : Value}
    (h : Written greatestDepth text (.value value)) : read text = .ok value := by
  rw [read_eq_ok_iff]
  have hsteps := h.readFrom [] false (by simp)
  exact ⟨_, hsteps, rfl⟩

end DocBlocks.Json
