import DocBlocks.CommandLine.Options
import DocBlocks.CommandLine.Usage
import DocBlocks.CommandLine.Word

/-!
From the words of a command line to the settings, from left to right. A value
that stands as a word of its own is only judged when the next argument begins
or the words end; a word that has no place at all is refused before that.
-/
namespace DocBlocks

/-- An argument that was named and the value that was given for it, if any yet. -/
structure Pending where
  argument : Argument
  value : Option String
  deriving DecidableEq

/-- What the words so far have set. -/
structure Settings where
  source : Option String
  output : Option String
  tag : Option String
  checkOnly : Bool
  verbose : Bool
  pending : Option Pending
  positionalOnly : Bool
  deriving DecidableEq

namespace Settings

abbrev Step := Except Refusal Settings

def empty : Settings := ⟨none, none, none, false, false, none, false⟩

def refuse (error : UsageError) : Step := .error (.misuse error)

/-- The argument has been given before. -/
def has (settings : Settings) : Argument → Bool
  | .source => settings.source.isSome
  | .output => settings.output.isSome
  | .tag => settings.tag.isSome
  | .check => settings.checkOnly
  | .verbose => settings.verbose
  | .help | .version => false

def set (settings : Settings) (argument : Argument) (value : String) : Settings :=
  match argument with
  | .source => { settings with source := some value }
  | .output => { settings with output := some value }
  | .tag => { settings with tag := some value }
  | .check => { settings with checkOnly := true }
  | .verbose => { settings with verbose := true }
  | .help | .version => settings

/-- Takes a value for an argument. -/
def accept (settings : Settings) (argument : Argument) (value : Option String) : Step :=
  match value with
  | none => refuse (.valueRequired argument)
  | some value =>
      if settings.has argument then refuse (.repeated argument)
      else if value = "" && !argument.admitsEmpty then refuse (.valueRequired argument)
      else .ok (settings.set argument value)

/-- Judges what is pending. -/
def settle (settings : Settings) : Step :=
  match settings.pending with
  | none => .ok settings
  | some ⟨argument, value⟩ => { settings with pending := none }.accept argument value

/-- Takes an argument without a value. -/
def raise (settings : Settings) (argument : Argument) : Step := do
  let settings ← settings.settle
  match argument with
  | .help => .error .help
  | .version => .error .version
  | argument =>
      if settings.has argument then refuse (.repeated argument)
      else .ok (settings.set argument "")

/-- Takes an argument with the value attached to it, or waits for a word that
holds the value. -/
def expect (settings : Settings) (argument : Argument) (value : Option (List Char)) :
    Step := do
  let settings ← settings.settle
  match value with
  | some value => settings.accept argument (some (String.ofList value))
  | none => .ok { settings with pending := some ⟨argument, none⟩ }

def takeLong (settings : Settings) (name : List Char) (value : Option (List Char)) : Step :=
  match Argument.ofLong? name with
  | none => refuse (.unexpected (String.ofList ('-' :: '-' :: name)))
  | some argument =>
      if argument.takesValue then settings.expect argument value
      else
        match value with
        | some value => refuse (.valueUnwanted (String.ofList value) argument)
        | none => settings.raise argument

def takeShort (settings : Settings) : List Char → Step
  | [] => .ok settings
  | letter :: rest =>
      match Argument.ofShort? letter with
      | none => refuse (.unexpected (String.ofList ['-', letter]))
      | some argument =>
          if argument.takesValue then settings.expect argument (Word.attached? rest)
          else (settings.raise argument).bind (takeShort · rest)

/-- There is one positional argument, the source. -/
def takePositional (settings : Settings) (word : String) : Step :=
  if settings.has .source || settings.pending.any (·.argument = .source) then
    refuse (.unexpected word)
  else do
    let settings ← settings.settle
    return { settings with pending := some ⟨.source, some word⟩ }

def takePlain (settings : Settings) (word : String) : Step :=
  match settings.pending with
  | some ⟨argument, none⟩ => .ok { settings with pending := some ⟨argument, some word⟩ }
  | _ => settings.takePositional word

def take (settings : Settings) (word : String) : Step :=
  if settings.positionalOnly then settings.takePositional word
  else
    match Word.ofChars word.toList with
    | .separator => .ok { settings with positionalOnly := true }
    | .long name value => settings.takeLong name value
    | .short letters => settings.takeShort letters
    | .plain => settings.takePlain word

/-- The words are over. -/
def finish (settings : Settings) : Except Refusal Options := do
  let settings ← settings.settle
  match settings.source with
  | none => .error (.misuse .sourceRequired)
  | some source =>
      return ⟨source, settings.output, settings.tag.getD Options.defaultTag,
        settings.checkOnly, settings.verbose⟩

end Settings

def Options.ofWords (words : List String) : Except Refusal Options := do
  let settings ← words.foldlM Settings.take .empty
  settings.finish

end DocBlocks
