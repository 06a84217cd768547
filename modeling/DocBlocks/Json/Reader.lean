import DocBlocks.Json.Numeral
import DocBlocks.Json.Literal

/-!
Reading a JSON text one character at a time. The reader holds what is being
read and, for each list or object that is open around it, what that one holds
already. Reading `a ++ b` is reading `a` and then, from where that leads, `b`.
-/
namespace DocBlocks.Json

/-- An open list or object, its elements with the last one first. -/
inductive Frame
  | list (before : List Value)
  | object (before : Members) (key : String)

/-- What is being read, inside the innermost frame. An object whose next key is
still to come has no frame; its members wait in the phase. -/
inductive Phase
  | value (closable : Bool)
  | keyword (next : Char) (rest : List Char) (value : Value)
  | number (negative : Bool) (stage : Numeral.Stage)
  | text (literal : Literal)
  | key (before : Members) (closable : Bool)
  | keyText (before : Members) (literal : Literal)
  | colon (before : Members) (key : String)
  | ended (value : Value)

structure Reader where
  stack : List Frame
  phase : Phase

/-- White space between tokens. -/
def isSpace (c : Char) : Bool := c == ' ' || c == '\t' || c == '\n' || c == '\r'

/-- The greatest number of lists and objects that may be open at once. -/
def greatestDepth : Nat := 127

namespace Reader

def start : Reader := ⟨[], .value false⟩

def stop (cause : Cause) : Except Stop Reader := .error ⟨cause, 1⟩

/-- A value may begin here; right after an opening bracket the list may also end. -/
def beginValue (stack : List Frame) (closable : Bool) (c : Char) : Except Stop Reader :=
  if isSpace c then .ok ⟨stack, .value closable⟩
  else
    match c with
    | '"' => .ok ⟨stack, .text .empty⟩
    | '[' =>
        if stack.length < greatestDepth then .ok ⟨.list [] :: stack, .value true⟩
        else stop .tooDeep
    | '{' =>
        if stack.length < greatestDepth then .ok ⟨stack, .key [] true⟩ else stop .tooDeep
    | ']' =>
        match stack with
        | .list before :: outer =>
            if closable then .ok ⟨outer, .ended (.list before.reverse)⟩
            else stop .trailingComma
        | _ => stop .valueExpected
    | 'n' => .ok ⟨stack, .keyword 'u' ['l', 'l'] .null⟩
    | 't' => .ok ⟨stack, .keyword 'r' ['u', 'e'] (.boolean true)⟩
    | 'f' => .ok ⟨stack, .keyword 'a' ['l', 's', 'e'] (.boolean false)⟩
    | '-' => .ok ⟨stack, .number true .sign⟩
    | _ =>
        match digit? c with
        | some d => .ok ⟨stack, .number false (.ofDigit d)⟩
        | none => stop .valueExpected

/-- A value is complete and `c` follows it. -/
def afterValue (stack : List Frame) (value : Value) (c : Char) : Except Stop Reader :=
  if isSpace c then .ok ⟨stack, .ended value⟩
  else
    match stack with
    | [] => stop .trailingText
    | .list before :: outer =>
        match c with
        | ',' => .ok ⟨.list (value :: before) :: outer, .value false⟩
        | ']' => .ok ⟨outer, .ended (.list (value :: before).reverse)⟩
        | _ => stop .listSeparator
    | .object before key :: outer =>
        match c with
        | ',' => .ok ⟨outer, .key ((key, value) :: before) false⟩
        | '}' => .ok ⟨outer, .ended (.object ((key, value) :: before).reverse)⟩
        | _ => stop .objectSeparator

/-- A key may begin here; right after an opening brace the object may also end. -/
def beginKey (stack : List Frame) (before : Members) (closable : Bool) (c : Char) :
    Except Stop Reader :=
  if isSpace c then .ok ⟨stack, .key before closable⟩
  else
    match c with
    | '"' => .ok ⟨stack, .keyText before .empty⟩
    | '}' =>
        if closable then .ok ⟨stack, .ended (.object before.reverse)⟩
        else stop .trailingComma
    | _ => stop .keyExpected

def step (reader : Reader) (c : Char) : Except Stop Reader :=
  let stack := reader.stack
  match reader.phase with
  | .value closable => beginValue stack closable c
  | .keyword next rest value =>
      if c = next then
        match rest with
        | [] => .ok ⟨stack, .ended value⟩
        | next :: rest => .ok ⟨stack, .keyword next rest value⟩
      else stop .keywordExpected
  | .number negative stage =>
      match stage.next? c with
      | some (.ok stage) => .ok ⟨stack, .number negative stage⟩
      | some (.error cause) => stop cause
      | none =>
          match stage.value negative with
          | .ok n => afterValue stack (.number n) c
          | .error cause => .error ⟨cause, 0⟩
  | .text literal =>
      (literal.step c).map fun
        | .more literal => ⟨stack, .text literal⟩
        | .closed text => ⟨stack, .ended (.text text)⟩
  | .key before closable => beginKey stack before closable c
  | .keyText before literal =>
      (literal.step c).map fun
        | .more literal => ⟨stack, .keyText before literal⟩
        | .closed text => ⟨stack, .colon before text⟩
  | .colon before key =>
      if isSpace c then .ok ⟨stack, .colon before key⟩
      else if c = ':' then .ok ⟨.object before key :: stack, .value false⟩
      else stop .colonExpected
  | .ended value => afterValue stack value c

/-- The whole text is read: the value, if nothing is open. -/
def finishValue (stack : List Frame) (value : Value) : Except Cause Value :=
  match stack with
  | [] => .ok value
  | .list _ :: _ => .error .listOpen
  | .object _ _ :: _ => .error .objectOpen

def finish (reader : Reader) : Except Cause Value :=
  match reader.phase with
  | .value closable => .error (if closable then .listOpen else .valueMissing)
  | .keyword _ _ _ => .error .valueMissing
  | .number negative stage =>
      (stage.value negative).bind (finishValue reader.stack <| .number ·)
  | .text _ | .keyText _ _ => .error .textOpen
  | .key _ closable => .error (if closable then .objectOpen else .valueMissing)
  | .colon _ _ => .error .objectOpen
  | .ended value => finishValue reader.stack value

/-- Reads on from a position to the end of the text. -/
def run (reader : Reader) (position : Position) : List Char → Except Fault Value
  | [] => reader.finish.mapError (⟨·, position⟩)
  | c :: rest =>
      match reader.step c with
      | .ok reader => reader.run (position.advance c c.utf8Size) rest
      | .error stopped => .error ⟨stopped.cause, position.advance c stopped.bytes⟩

/-- The reader after some characters. -/
def steps (reader : Reader) (text : List Char) : Except Stop Reader := text.foldlM step reader

/-- Positions matter to faults alone. -/
theorem run_ok_iff (reader : Reader) (p : Position) (text : List Char) (v : Value) :
    reader.run p text = .ok v ↔ ∃ last, reader.steps text = .ok last ∧ last.finish = .ok v := by
  induction text generalizing reader p with
  | nil =>
    simp only [run, steps, List.foldlM_nil, pure, Except.pure, Except.ok.injEq, exists_eq_left']
    cases reader.finish with
    | error cause =>
      constructor
      · intro h
        cases h
      · intro h
        cases h
    | ok value =>
      constructor
      · intro h
        obtain rfl := Except.ok.inj h
        rfl
      · intro h
        obtain rfl := Except.ok.inj h
        rfl
  | cons c text ih =>
    simp only [run, steps, List.foldlM_cons]
    cases h : reader.step c with
    | error e => simp [bind, Except.bind]
    | ok next => simpa [bind, Except.bind, steps] using ih next _

end Reader

def read (text : List Char) : Except Fault Value := Reader.start.run .start text

end DocBlocks.Json
