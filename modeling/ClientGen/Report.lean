import ClientGen.OutputFiles
import ClientGen.Profile.Basic
import ClientGen.Run.Diagnostic

/-!
# Reports

What a command tells its user, as a list of items that say what each line is. A terminal shows an
item on a line of its own; warnings go to the error stream.
-/

namespace ClientGen

inductive ReportItem
  | section (name : String)
  | keyValue (key value : String)
  | listItem (text : String)
  | addedItem (text : String)
  | skippedItem (text : String)
  | warning (text : String)
  | divider (label : String)
  | preformatted (text : String)
  | newline
deriving DecidableEq, Repr

namespace ReportItem

/-- The line on a terminal. -/
def line : ReportItem → String
  | .section name => name ++ ":"
  | .keyValue key value => key ++ ": " ++ value
  | .listItem text => "  - " ++ text
  | .addedItem text => "  + " ++ text
  | .skippedItem text => "  = " ++ text
  | .warning text => "warning: " ++ text
  | .divider label => "── " ++ label ++ " ──"
  | .preformatted text => text
  | .newline => ""

def isWarning : ReportItem → Bool
  | .warning _ => true
  | _ => false

end ReportItem

abbrev Report := List ReportItem

namespace Report

/-- The lines of a stream, each ended. -/
def text (items : Report) : String := String.join (items.map fun i => i.line ++ "\n")

/-- What goes to the standard output. -/
def output (r : Report) : String := text (r.filter (!·.isWarning))

/-- The lines that go to the error stream. -/
def warnings (r : Report) : List String := (r.filter (·.isWarning)).map ReportItem.line

/-- Blanks after a name up to a count of characters. -/
def padded (width : Nat) (name : String) : String :=
  .ofList (name.toList ++ List.replicate (width - name.length) ' ')

/-- Names and help texts; the column of names is as wide as the bytes of the longest one. -/
def ofProfiles (profiles : List (String × String)) : Report :=
  let width := (profiles.map (·.1.utf8ByteSize)).foldl max 0
  .section "Profiles" :: profiles.map fun (name, help) =>
    .listItem (padded width name ++ "  " ++ help)

/-- The options of a profile: name, description and default. -/
def ofOptions (profile : String) (options : List (String × String × String)) : Report :=
  .section ("Options of '" ++ profile ++ "'") ::
    if options.isEmpty then [.preformatted "  (none)"]
    else options.map fun (name, description, default) =>
      .listItem (name ++ ": " ++ description ++ " (default: " ++ default ++ ")")

end Report

/-- A diagnostic as it is reported. -/
structure Finding where
  severity : String
  message : String
  location : Option String
deriving DecidableEq, Repr

namespace Finding

def of (d : Diagnostic) : Finding := ⟨d.severity.name, d.message, d.location⟩

/-- Warnings have an item of their own, any other finding names its severity. -/
def item (f : Finding) : ReportItem :=
  let text := Diagnostic.located f.message f.location
  if f.severity == Severity.warning.name then .warning text
  else .preformatted (f.severity ++ ": " ++ text)

end Finding

/-- Files that were written, or that would be. -/
inductive GenerationResult
  | written (stats : WriteStats)
  | preview (files : List (String × String))
deriving DecidableEq, Repr

structure Generation where
  profile : String
  output : String
  title : String
  models : Nat
  operations : Nat
  findings : List Finding
  snapshotFolder : Option String
  result : GenerationResult
deriving DecidableEq, Repr

namespace Generation

def header (g : Generation) : Report :=
  (if g.title.isEmpty then [] else [.preformatted g.title]) ++
    [.keyValue "Profile" g.profile,
     .keyValue "Parsed" <|
       toString g.models ++ " models, " ++ toString g.operations ++ " operations"]

def counted (label : String) (count : Nat) : ReportItem :=
  .section (label ++ " (" ++ toString count ++ " files)")

def writtenReport (g : Generation) (stats : WriteStats) : Report :=
  (match g.snapshotFolder with
    | some folder => [.keyValue "Pipeline snapshots written to" folder, .newline]
    | none => []) ++
    g.header ++
    [.newline, counted "Generated" stats.written] ++ stats.writtenPaths.map .addedItem ++
    (if stats.skippedPaths.isEmpty then []
    else .newline :: counted "Kept existing" stats.skipped ::
      stats.skippedPaths.map .skippedItem) ++
    [.newline, .keyValue "Output" g.output]

def previewReport (g : Generation) (files : List (String × String)) : Report :=
  (files.flatMap fun (path, content) => [.divider path, .preformatted content]) ++
    [.divider "Summary"] ++ g.header ++
    [.preformatted (toString files.length ++ " files would be generated in " ++ g.output)]

/-- The findings, then the files. -/
def report (g : Generation) : Report :=
  g.findings.map Finding.item ++
    match g.result with
    | .written stats => g.writtenReport stats
    | .preview files => g.previewReport files

end Generation

end ClientGen
