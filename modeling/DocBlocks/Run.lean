import DocBlocks.Build
import DocBlocks.CommandLine.Parse
import DocBlocks.Failure
import DocBlocks.Files.Path

/-!
A run of the program. The source is checked, read and turned into Markdown or a
summary before anything is written, so that a run that fails over its source
leaves the files alone.
-/
namespace DocBlocks

/-- What is known when a run is over, or about to write. -/
structure Report where
  events : List Event
  output : String
  failure : Option Failure

namespace Report

def fail (events : List Event) (failure : Failure) : Report := ⟨events, "", some failure⟩

/-- Warnings and errors are always shown, the rest on demand. -/
def log (report : Report) (verbose : Bool) : String :=
  String.join ((report.events.filter fun event => verbose || event.isUrgent).map
    fun event => event.record)

/-- A malformed descriptor is shown as it is, with the message in the log. -/
def complaint : Failure → String
  | .malformed malformed =>
      malformed.descriptor.text ++ "\n" ++ (Event.malformed malformed.message).record
  | failure => "Error: " ++ failure.message ++ "\n"

end Report

/-- What the program leaves behind apart from files. -/
structure Outcome where
  status : Nat
  output : String
  errors : String
  deriving DecidableEq

def Report.outcome (report : Report) (verbose : Bool) : Outcome :=
  match report.failure with
  | none => ⟨0, report.output, report.log verbose⟩
  | some failure => ⟨1, report.output, report.log verbose ++ Report.complaint failure⟩

namespace Options

/-- A tag is a word without blanks. -/
def hasWordTag (options : Options) : Bool :=
  options.tag ≠ "" && !options.tag.toList.any Text.isBlank

/-- The bytes of the source, if the settings fit what is found at its path. -/
def sourceBytes (options : Options) (found : Found) : Except Failure ByteArray :=
  match found with
  | .missing => .error (.sourceMissing options.source)
  | .directory => .error (.sourceNotFile options.source)
  | .file bytes =>
      if options.hasWordTag then .ok bytes else .error (.tagNotWord options.tag)

def sourceText (options : Options) (bytes : ByteArray) : Except Failure String :=
  match String.fromUTF8? bytes with
  | some text => .ok text
  | none => .error (.sourceNotText options.source)

def outputEvent (options : Options) : Event :=
  if options.checkOnly then .outputOmitted
  else
    match options.output with
    | some path => .outputFile path
    | none => .outputStandard

def openingEvents (options : Options) : List Event := [.started, .optionsRead options]

def acceptedEvents (options : Options) : List Event :=
  options.openingEvents ++
    [.sourceChosen options.source, .tagChosen options.tag, options.outputEvent]

def readingEvents (options : Options) (text : String) : List Event :=
  options.acceptedEvents ++ [.sourceRead text.utf8ByteSize options.source]

/-- The run with `--check`: a line about the source, and no output. -/
def checkReport (options : Options) (text : String) : Report :=
  let checked := check options.tag text
  let events := options.readingEvents text ++ checked.events
  match checked.result with
  | .error malformed => .fail events (.malformed malformed)
  | .ok s => ⟨events ++ [.checked options.source s.regions s.functions s.hasClass], "", none⟩

/-- Writes the Markdown to the output, and reports on what came before as well. -/
def deliver {m : Type → Type} [Monad m] (files : Files m) (options : Options)
    (events : List Event) (markdown : String) : m Report := do
  match options.output with
  | none =>
      return ⟨events ++ [.writingStandard markdown.utf8ByteSize, .finished options.source],
        markdown, none⟩
  | some path =>
      let events := events ++ [.writingFile path]
      let outer := Path.outerDirectories path
      match ← files.makeDirectories outer with
      | .error fault => return .fail events (.directoryFault (outer.headD "") fault)
      | .ok () =>
          match ← files.write path markdown.toUTF8 with
          | .error fault => return .fail events (.writeFault path fault)
          | .ok () =>
              return ⟨events ++
                [.fileWritten markdown.utf8ByteSize path, .finished options.source], "", none⟩

def generateReport {m : Type → Type} [Monad m] (files : Files m) (options : Options)
    (text : String) : m Report := do
  let generated := generate options.tag text
  let events := options.readingEvents text ++ generated.events
  match generated.result with
  | .error malformed => return .fail events (.malformed malformed)
  | .ok markdown => options.deliver files events markdown

def run {m : Type → Type} [Monad m] (files : Files m) (options : Options) : m Report := do
  match options.sourceBytes (← files.look options.source) with
  | .error failure => return .fail options.openingEvents failure
  | .ok bytes =>
      match options.sourceText bytes with
      | .error failure => return .fail options.acceptedEvents failure
      | .ok text =>
          if options.checkOnly then return options.checkReport text
          else options.generateReport files text

end Options

def Refusal.outcome : Refusal → Outcome
  | .help => ⟨0, Usage.help, ""⟩
  | .version => ⟨0, Usage.version, ""⟩
  | .misuse error => ⟨1, "", Usage.misuse error⟩

/-- The program, given the words of its command line. -/
def runWords {m : Type → Type} [Monad m] (files : Files m) (words : List String) :
    m Outcome := do
  match Options.ofWords words with
  | .error refusal => return refusal.outcome
  | .ok options => return (← options.run files).outcome options.verbose

end DocBlocks
