import ClientGen.CommandLine.Arguments

/-!
# Commands

The command line names one of three commands: generating a client, listing the profiles, and showing
the options of a profile.
-/

namespace ClientGen.CommandLine

/-- What a client is generated from, and where to. -/
structure GenerateOptions where
  input : String
  profile : String
  output : Option String := none
  config : Option String := none
  defines : List String := []
  templates : Option String := none
  snapshots : Option String := none
  skipExisting : Bool := false
  dryRun : Bool := false

inductive Command
  | generate (options : GenerateOptions)
  | profiles
  | configHelp (profile : String)

/-- The name and version that are shown on demand. -/
def versionText : String := "quill 0.3.0"

def verbose : Switch := { key := "verbose", short := some 'v', long := some "verbose" }

def version : Switch :=
  { key := "version", short := some 'V', long := some "version", takes := .version }

def profileSwitch : Switch :=
  { key := "profile", short := some 'p', long := some "profile", takes := .text }

def generateSwitches : List Switch :=
  [verbose, profileSwitch,
   { key := "input", short := some 'i', long := some "input", takes := .path },
   { key := "output", short := some 'o', long := some "output", takes := .path },
   { key := "config", short := some 'c', long := some "config", takes := .path },
   { key := "define", short := some 'D', takes := .text, repeatable := true },
   { key := "templates", short := some 't', long := some "templates", takes := .path },
   { key := "visualize", long := some "visualize", takes := .path },
   { key := "skip-existing", long := some "skip-existing" },
   { key := "dry-run", long := some "dry-run" }]

/-- The switches of a command, which takes nothing else. -/
def readAll (switches : List Switch) (args : List String) : Except Stop Given := do
  match ← readSwitches switches {} args with
  | (g, []) | (g, ["--"]) => return g
  | _ => .error .usage

def require (value : Option String) : Except Stop String :=
  match value with
  | some value => .ok value
  | none => .error .usage

def defaultProfile : String := "swift"

namespace Command

def ofName (name : String) (args : List String) : Except Stop Command :=
  match name with
  | "generate" => do
    let g ← readAll generateSwitches args
    return .generate
      { input := ← require (g.value? "input")
        profile := (g.value? "profile").getD defaultProfile
        output := g.value? "output"
        config := g.value? "config"
        defines := g.all "define"
        templates := g.value? "templates"
        snapshots := g.value? "visualize"
        skipExisting := g.has "skip-existing"
        dryRun := g.has "dry-run" }
  | "profiles" => do
    let _ ← readAll [verbose] args
    return .profiles
  | "config-help" => do
    let g ← readAll [verbose, profileSwitch] args
    return .configHelp (← require (g.value? "profile"))
  | _ => .error .usage

/-- The command of an argument list: switches for all commands, its name, its own switches. -/
def parse (args : List String) : Except Stop Command := do
  match ← readSwitches [verbose, version] {} args with
  | (_, name :: rest) => ofName name rest
  | (_, []) => .error .usage

end Command

end ClientGen.CommandLine
