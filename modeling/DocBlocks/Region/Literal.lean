/-!
String literals in a piece of text. A quote opens a literal; within it a
backslash takes the next character along, and the next quote closes it.
-/
namespace DocBlocks.Region

/-- What follows the first quote. -/
def afterQuote? : List Char → Option (List Char)
  | [] => none
  | c :: rest => if c = '"' then some rest else afterQuote? rest

/-- What follows the closing quote, for text that begins inside a literal. -/
def afterClosing? : List Char → Option (List Char)
  | [] => none
  | '"' :: rest => some rest
  | '\\' :: _ :: rest => afterClosing? rest
  | _ :: rest => afterClosing? rest

theorem length_of_afterQuote? {text rest : List Char} (h : afterQuote? text = some rest) :
    rest.length < text.length := by
  induction text with
  | nil => simp [afterQuote?] at h
  | cons c text ih =>
    simp only [afterQuote?] at h
    split at h
    · simp_all
    · have := ih h
      simp only [List.length_cons]
      omega

theorem length_of_afterClosing? {text rest : List Char}
    (h : afterClosing? text = some rest) : rest.length < text.length := by
  fun_induction afterClosing? text with
  | case1 => simp at h
  | case2 => simp_all
  | case3 _ _ ih =>
    have := ih h
    simp only [List.length_cons]
    omega
  | case4 _ _ _ _ ih =>
    have := ih h
    simp only [List.length_cons]
    omega

/-- What follows the opening quote of a literal left open at the end, for text
that begins outside of any. -/
def openTail? (text : List Char) : Option (List Char) :=
  match _ : afterQuote? text with
  | none => none
  | some tail =>
      match _ : afterClosing? tail with
      | none => some tail
      | some rest => openTail? rest
termination_by text.length
decreasing_by
  have := length_of_afterQuote? ‹afterQuote? text = some _›
  have := length_of_afterClosing? ‹afterClosing? _ = some _›
  omega

end DocBlocks.Region
