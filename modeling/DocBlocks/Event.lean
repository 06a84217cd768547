import DocBlocks.CommandLine.Options
import DocBlocks.Region
import DocBlocks.Reference
import DocBlocks.Text.Plain

/-!
What happens during a run, as the log reports it.
-/
namespace DocBlocks

inductive Level
  | error
  | warning
  | info
  | debug
  deriving DecidableEq

def Level.name : Level → String
  | .error => "ERROR"
  | .warning => "WARN"
  | .info => "INFO"
  | .debug => "DEBUG"

/-- The part of the program that reports an event. -/
inductive Reporter
  | program
  | settings
  | regions
  | descriptors
  | arrangement
  | markdown
  | output
  deriving DecidableEq

def Reporter.name : Reporter → String
  | .program => "jsondoc_md"
  | .settings => "jsondoc_md::cli"
  | .regions => "jsondoc_md::extractor"
  | .descriptors => "jsondoc_md::parser"
  | .arrangement => "jsondoc_md::orderer"
  | .markdown => "jsondoc_md::renderer"
  | .output => "jsondoc_md::output"

inductive Event
  | started
  | optionsRead (options : Options)
  | sourceChosen (path : String)
  | tagChosen (tag : String)
  | outputOmitted
  | outputFile (path : String)
  | outputStandard
  | sourceRead (bytes : Nat) (path : String)
  | checked (path : String) (regions functions : Nat) (hasClass : Bool)
  | finished (path : String)
  | malformed (message : String)
  | regionOnOneLine (line : Nat)
  | regionOpened (line : Nat)
  | regionClosed (line bytes : Nat)
  | regionUnclosed (line : Nat)
  | regionsFound (count : Nat)
  | readingStarted (count : Nat)
  | classRead (name : String) (line : Nat)
  | functionRead (name : String) (parameters line : Nat)
  | dropped (entry : Dropped)
  | arranged (functions : Nat) (hasClass : Bool)
  | rendered (bytes : Nat)
  | writingFile (path : String)
  | fileWritten (bytes : Nat) (path : String)
  | writingStandard (bytes : Nat)
  deriving DecidableEq

namespace Event

def level : Event → Level
  | .malformed _ => .error
  | .regionUnclosed _ | .dropped _ => .warning
  | .started | .sourceChosen _ | .tagChosen _ | .outputOmitted | .outputFile _
  | .outputStandard | .checked .. | .finished _ => .info
  | .optionsRead _ | .sourceRead .. | .regionOnOneLine _ | .regionOpened _ | .regionClosed ..
  | .regionsFound _ | .readingStarted _ | .classRead .. | .functionRead .. | .arranged ..
  | .rendered _ | .writingFile _ | .fileWritten .. | .writingStandard _ => .debug

def reporter : Event → Reporter
  | .started | .malformed _ => .program
  | .optionsRead _ | .sourceChosen _ | .tagChosen _ | .outputOmitted | .outputFile _
  | .outputStandard | .sourceRead .. | .checked .. | .finished _ => .settings
  | .regionOnOneLine _ | .regionOpened _ | .regionClosed .. | .regionUnclosed _
  | .regionsFound _ => .regions
  | .readingStarted _ | .classRead .. | .functionRead .. => .descriptors
  | .dropped _ | .arranged .. => .arrangement
  | .rendered _ => .markdown
  | .writingFile _ | .fileWritten .. | .writingStandard _ => .output

def text : Event → String
  | .started => "jsondoc-md starting..."
  | .optionsRead options => "Parsed arguments: " ++ options.describe
  | .sourceChosen path => "Source file: " ++ path
  | .tagChosen tag => "Tag: " ++ tag
  | .outputOmitted => "Output: none (check only)"
  | .outputFile path => "Output file: " ++ path
  | .outputStandard => "Output: stdout"
  | .sourceRead bytes path => "Read " ++ toString bytes ++ " bytes from " ++ path
  | .checked path regions functions hasClass =>
      path ++ ": " ++ toString regions ++ " descriptors OK (" ++ toString functions ++
        " functions, class descriptor: " ++ toString hasClass ++ ")"
  | .finished path => "Documentation generated for " ++ path
  | .malformed message => message
  | .regionOnOneLine line => "Found single-line descriptor at line " ++ toString line
  | .regionOpened line => "Descriptor region opened at line " ++ toString line
  | .regionClosed line bytes =>
      "Descriptor region closed at line " ++ toString line ++ " (" ++ toString bytes ++
        " bytes)"
  | .regionUnclosed line =>
      "Descriptor region opened at line " ++ toString line ++
        " is never closed; discarding it"
  | .regionsFound count => "Extracted " ++ toString count ++ " descriptor regions"
  | .readingStarted count => "Parsing " ++ toString count ++ " descriptors"
  | .classRead name line =>
      "Parsed class descriptor '" ++ name ++ "' (line " ++ toString line ++ ")"
  | .functionRead name parameters line =>
      "Parsed function descriptor '" ++ name ++ "' with " ++ toString parameters ++
        " args (line " ++ toString line ++ ")"
  | .dropped (.extraClass name) => "Ignoring additional class descriptor '" ++ name ++ "'"
  | .dropped (.replacedFunction name) =>
      "Duplicate function descriptor '" ++ name ++ "'; keeping the last one"
  | .arranged functions hasClass =>
      "Ordered " ++ toString functions ++ " functions (class descriptor: " ++
        toString hasClass ++ ")"
  | .rendered bytes => "Rendered " ++ toString bytes ++ " bytes of Markdown"
  | .writingFile path => "Writing content to file: " ++ path
  | .fileWritten bytes path => "Successfully wrote " ++ toString bytes ++ " bytes to " ++ path
  | .writingStandard bytes => "Writing " ++ toString bytes ++ " bytes to stdout"

/-- Further lines of a text begin with four blanks. -/
def indented (text : String) : String :=
  String.ofList (text.toList.flatMap fun c =>
    if c = '\n' then ['\n', ' ', ' ', ' ', ' '] else [c])

/-- A record of the log, with the level brought to five characters. -/
def record (event : Event) : String :=
  let level := event.level.name
  Text.plain ("[" ++ level ++ String.ofList (List.replicate (5 - level.length) ' ') ++ " " ++
    event.reporter.name ++ "] " ++ indented event.text ++ "\n")

def isWarning (event : Event) : Bool := event.level == .warning

/-- What is logged without being asked for. -/
def isUrgent (event : Event) : Bool := event.level == .warning || event.level == .error

end Event

/-- A region that ends on a later line was opened before. -/
def Region.events (region : Region) : List Event :=
  if region.lastLine = region.line then [.regionOnOneLine region.line]
  else
    [.regionOpened region.line, .regionClosed region.lastLine region.text.utf8ByteSize]

def Scan.events (scan : Scan) : List Event :=
  scan.regions.flatMap Region.events ++
    (match scan.unclosed with
      | none => []
      | some line => [.regionOpened line, .regionUnclosed line]) ++
    [.regionsFound scan.regions.length]

def Entry.readEvent (line : Nat) : Entry → Event
  | .ofClass doc => .classRead doc.name line
  | .ofFunction doc => .functionRead doc.name doc.parameters.length line

/-- Only what was read before a malformed descriptor is reported. -/
def Reading.events (reading : Reading) (descriptors : List Descriptor) : List Event :=
  .readingStarted descriptors.length ::
    List.zipWith (fun d entry => Entry.readEvent d.line entry) descriptors reading.entries

def Arrangement.events (arrangement : Arrangement) : List Event :=
  arrangement.dropped.map .dropped ++
    [.arranged arrangement.reference.functions.length
      arrangement.reference.header.isSome]

end DocBlocks
