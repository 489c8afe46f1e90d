/-!
# Arguments of the command line

Switches are written `--name`, `--name value`, `--name=value`, `-n`, `-n value`, `-nvalue` or
`-n=value`; short flags may be joined. Only some may be repeated, and a value of its own does not
start with a hyphen unless it is one. Any mistake in the arguments is bad usage.
-/

namespace ClientGen.CommandLine

/-- What ends the reading of arguments before a command is known. -/
inductive Stop
  | usage
  | version
deriving DecidableEq, Repr

/-- What a switch takes: nothing, nothing and then the version is shown, a text, or a path, which is
not empty. -/
inductive Takes
  | nothing
  | version
  | text
  | path
deriving DecidableEq, Repr

structure Switch where
  key : String
  short : Option Char := none
  long : Option String := none
  takes : Takes := .nothing
  repeatable : Bool := false

def Switch.takesValue (s : Switch) : Bool := s.takes == .text || s.takes == .path

/-- The switches given so far, by key, with their values. -/
structure Given where
  values : List (String × String) := []

namespace Given

def has (g : Given) (key : String) : Bool := g.values.any (·.1 == key)

def all (g : Given) (key : String) : List String :=
  (g.values.filter (·.1 == key)).map (·.2)

def value? (g : Given) (key : String) : Option String := (g.all key).head?

/-- One more switch. -/
def add (g : Given) (s : Switch) (value : String) : Except Stop Given :=
  if s.takes == .version then .error .version
  else if (s.takes == .path && value.isEmpty) || (g.has s.key && !s.repeatable) then .error .usage
  else .ok ⟨g.values ++ [(s.key, value)]⟩

end Given

/-- An argument by its form. -/
inductive Argument
  | plain (text : String)
  | escape
  | long (name : String) (value : Option String)
  | shorts (letters : List Char)
deriving DecidableEq, Repr

/-- A lone hyphen is plain. -/
def Argument.of (text : String) : Argument :=
  match text.toList with
  | ['-', '-'] => .escape
  | '-' :: '-' :: cs =>
    let name : String := .ofList (cs.takeWhile (· != '='))
    match cs.dropWhile (· != '=') with
    | _ :: value => .long name (some (.ofList value))
    | [] => .long name none
  | '-' :: c :: cs => .shorts (c :: cs)
  | _ => .plain text

def find (matching : Switch → Bool) (switches : List Switch) : Except Stop Switch :=
  match switches.find? matching with
  | some s => .ok s
  | none => .error .usage

/-- Joined short switches; the last may be one that waits for its value. -/
def readShorts (switches : List Switch) (g : Given) :
    List Char → Except Stop (Given × Option Switch)
  | [] => .ok (g, none)
  | c :: cs => do
    let s ← find (·.short == some c) switches
    if s.takesValue then
      match cs with
      | [] => return (g, some s)
      | '=' :: value => return (← g.add s (.ofList value), none)
      | value => return (← g.add s (.ofList value), none)
    else readShorts switches (← g.add s "") cs

/-- What one argument gives, and the switch that waits for its value. -/
def readSwitch (switches : List Switch) (g : Given) :
    Argument → Except Stop (Given × Option Switch)
  | .long name value => do
    let s ← find (·.long == some name) switches
    match value with
    | some value => if s.takesValue then return (← g.add s value, none) else .error .usage
    | none => if s.takesValue then return (g, some s) else return (← g.add s "", none)
  | .shorts letters => readShorts switches g letters
  | .plain _ | .escape => .ok (g, none)

/-- The switches in front of the first plain argument or escape, and the arguments from there. -/
def readSwitches (switches : List Switch) (g : Given) :
    List String → Except Stop (Given × List String)
  | [] => .ok (g, [])
  | arg :: rest =>
    match Argument.of arg with
    | .plain _ | .escape => .ok (g, arg :: rest)
    | form => do
      match ← readSwitch switches g form, rest with
      | (g, none), rest => readSwitches switches g rest
      | (_, some _), [] => .error .usage
      | (g, some s), value :: rest =>
        match Argument.of value with
        | .plain value => readSwitches switches (← g.add s value) rest
        | _ => .error .usage

end ClientGen.CommandLine
