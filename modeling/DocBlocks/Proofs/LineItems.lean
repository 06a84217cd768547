import DocBlocks.Proofs.Assignments

/-!
The ways to write settings as the words of a command line. Each item of a line assigns an
argument, or two where the letter of a flag stands in front of that of an option. Where the
value is a word of its own, its assignment waits until the next item is read.
-/
namespace DocBlocks

namespace CommandLine

/-- A word that is read neither as letters nor as a name. -/
def StandsApart (word : String) : Prop := word = "-" ∨ word.toList.head? ≠ some '-'

instance (word : String) : Decidable (StandsApart word) :=
  inferInstanceAs (Decidable (word = "-" ∨ word.toList.head? ≠ some '-'))

/-- An option with a value of its own. -/
inductive Valued
  | output
  | tag
  deriving DecidableEq

namespace Valued

def argument : Valued → Argument
  | .output => .output
  | .tag => .tag

def letter : Valued → Char
  | .output => 'o'
  | .tag => 't'

def name : Valued → List Char
  | .output => "output".toList
  | .tag => "tag".toList

theorem letter_ne_dash (option : Valued) : option.letter ≠ '-' := by
  cases option <;> decide

end Valued

/-- How an option is named: by its letter, by its letter behind that of `--verbose`, or by
its name. -/
inductive Naming
  | short
  | behindVerbose
  | long
  deriving DecidableEq

/-- How the value follows: as a word of its own, at once, or behind an equals sign. -/
inductive Joint
  | apart
  | glued
  | equals
  deriving DecidableEq

namespace Naming

def chars (option : Valued) : Naming → List Char
  | .short => ['-', option.letter]
  | .behindVerbose => ['-', 'v', option.letter]
  | .long => '-' :: '-' :: option.name

/-- What is assigned before the option. -/
def before : Naming → List Assignment
  | .behindVerbose => [⟨.verbose, ""⟩]
  | .short | .long => []

end Naming

/-- A value that can be written in some way. -/
def Fits : Naming → Joint → String → Prop
  | _, .apart, value => StandsApart value
  | naming, .glued, value => naming ≠ .long ∧ value.toList.head? ≠ some '='
  | _, .equals, _ => True

instance (naming : Naming) (joint : Joint) (value : String) :
    Decidable (Fits naming joint value) :=
  match joint with
  | .apart => inferInstanceAs (Decidable (StandsApart value))
  | .glued => inferInstanceAs (Decidable (naming ≠ .long ∧ value.toList.head? ≠ some '='))
  | .equals => inferInstanceAs (Decidable True)

/-- A part of a line that can be moved as a whole. -/
inductive Item
  | source (path : String) (nonempty : path ≠ "") (apart : StandsApart path)
  | valued (option : Valued) (naming : Naming) (joint : Joint) (value : String)
      (nonempty : value ≠ "") (fits : Fits naming joint value)
  | check
  | verbose (long : Bool)

namespace Item

def words : Item → List String
  | .source path _ _ => [path]
  | .valued option naming .apart value _ _ => [String.ofList (naming.chars option), value]
  | .valued option naming .glued value _ _ =>
      [String.ofList (naming.chars option ++ value.toList)]
  | .valued option naming .equals value _ _ =>
      [String.ofList (naming.chars option ++ '=' :: value.toList)]
  | .check => ["--check"]
  | .verbose long => [if long then "--verbose" else "-v"]

/-- What is assigned when the item has been read. -/
def atOnce : Item → List Assignment
  | .source .. => []
  | .valued _ naming .apart _ _ _ => naming.before
  | .valued option naming _ value _ _ => naming.before ++ [⟨option.argument, value⟩]
  | .check => [⟨.check, ""⟩]
  | .verbose _ => [⟨.verbose, ""⟩]

/-- What is assigned when the next item is read. -/
def waiting : Item → Option Assignment
  | .source path _ _ => some ⟨.source, path⟩
  | .valued option _ .apart value _ _ => some ⟨option.argument, value⟩
  | _ => none

def given (item : Item) : List Assignment := item.atOnce ++ item.waiting.toList

theorem waiting_nonempty (item : Item) : ∀ given ∈ item.waiting, given.value ≠ "" := by
  intro given hgiven
  cases item with
  | source path nonempty apart =>
    obtain rfl := Option.some.inj hgiven
    exact nonempty
  | valued option naming joint value nonempty fits =>
    cases joint with
    | apart =>
      obtain rfl := Option.some.inj hgiven
      exact nonempty
    | glued | equals => cases hgiven
  | check | verbose long => cases hgiven

end Item
end CommandLine

/-- Items in some order; the source may stand behind all of them and two dashes instead. -/
structure CommandLine where
  items : List CommandLine.Item
  behind : Option String
  nonempty : ∀ path ∈ behind, path ≠ ""

namespace CommandLine

def words (line : CommandLine) : List String :=
  line.items.flatMap Item.words ++
    match line.behind with
    | none => []
    | some path => ["--", path]

def given (line : CommandLine) : List Assignment :=
  line.items.flatMap Item.given ++ (line.behind.map (Assignment.mk .source)).toList

end CommandLine

namespace CommandLine

namespace Item

/-- The arguments an item assigns, however a value is joined on. -/
def arguments : Item → List Argument
  | .source .. => [.source]
  | .valued option naming .. => assigned naming.before ++ [option.argument]
  | .check => [.check]
  | .verbose _ => [.verbose]

theorem assigned_given (item : Item) : assigned item.given = item.arguments := by
  cases item with
  | valued option naming joint value nonempty fits =>
    cases joint with
    | apart => exact assigned_append naming.before _
    | glued | equals =>
      simp only [given, atOnce, waiting, Option.toList_none, List.append_nil]
      exact assigned_append naming.before _
  | source | check | verbose => rfl

theorem isSetting_given (item : Item) : ∀ a ∈ assigned item.given, a.isSetting := by
  rw [item.assigned_given]
  cases item with
  | valued option naming =>
    rw [arguments]
    cases option <;> cases naming <;> decide
  | source | check | verbose => simp [arguments, Argument.isSetting]

theorem nodup_given (item : Item) : (assigned item.given).Nodup := by
  rw [item.assigned_given]
  cases item with
  | valued option naming =>
    rw [arguments]
    cases option <;> cases naming <;> decide
  | source | check | verbose => exact List.nodup_singleton _

end Item

variable {line : CommandLine} {front back : List Item}

theorem isSetting_given (line : CommandLine) : ∀ a ∈ assigned line.given, a.isSetting := by
  intro a hmem
  obtain ⟨given, hgiven, rfl⟩ := List.mem_map.mp hmem
  rcases List.mem_append.mp hgiven with hitems | hbehind
  · obtain ⟨item, -, hitem⟩ := List.mem_flatMap.mp hitems
    exact item.isSetting_given _ (List.mem_map_of_mem hitem)
  · rw [Option.mem_toList, Option.map_eq_some_iff] at hbehind
    obtain ⟨path, -, rfl⟩ := hbehind
    rfl

/-- A further item adds its assignments to those of the line. -/
theorem perm_insert (further : Item) (h : line.items = front ++ back) :
    { line with items := front ++ further :: back }.given.Perm (further.given ++ line.given) := by
  simp only [given, h, List.flatMap_append, List.flatMap_cons, List.append_assoc]
  exact List.perm_append_comm_assoc _ _ _

end CommandLine
end DocBlocks
