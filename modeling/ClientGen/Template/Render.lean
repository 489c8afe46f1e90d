import ClientGen.Json.Printer
import ClientGen.Template.Basic

/-!
# Rendering templates

A path is looked up in the turns of the enclosing loops, the innermost first, and then in the
context; a path found nowhere stops the rendering, unless it stands alone as a condition or is
negated, where it counts as false. Names that start with `loop` never mean an element. Falsehood,
null, zero and whatever is empty are false.
-/

namespace ClientGen.Template

/-- A turn of a loop: the name of the element, the element, its place and the count of all. -/
structure Turn where
  name : String
  item : Json
  index : Nat
  count : Nat

/-- What the names of a template mean; the innermost turn comes first. -/
structure Scope where
  turns : List Turn
  context : Entries Json

/-- A place in a list, written without leading zeros. -/
def place? (name : String) : Option Nat :=
  let cs := name.toList
  if cs.isEmpty || !cs.all Char.isDigit || (cs.head? == some '0' && cs.length != 1) then none
  else some (cs.foldl (fun n c => 10 * n + (c.toNat - '0'.toNat)) 0)

/-- The value to which names lead: fields of objects and places of lists. -/
def follow : List String → Json → Option Json
  | [], v => some v
  | name :: rest, .obj fields => (Entries.get? fields name).bind (follow rest)
  | name :: rest, .arr items => ((place? name).bind (items[·]?)).bind (follow rest)
  | _ :: _, _ => none

/-- What a loop tells of its own progress. -/
def Turn.progress (t : Turn) : List String → Option Json
  | ["loop", "index"] => some (.int (t.index + 1))
  | ["loop", "index0"] => some (.int t.index)
  | ["loop", "first"] => some (.bool (t.index == 0))
  | ["loop", "last"] => some (.bool (t.index + 1 == t.count))
  | _ => none

def Turn.lookup (t : Turn) : List String → Option Json
  | [] => none
  | name :: rest =>
    if "loop".toList.isPrefixOf name.toList then t.progress (name :: rest)
    else if name == t.name then follow rest t.item
    else none

def Scope.lookup (s : Scope) (names : List String) : Option Json :=
  (s.turns.findSome? (·.lookup names)).or (follow names (.obj s.context))

def Operand.value? (s : Scope) : Operand → Option Json
  | .flag b => some (.bool b)
  | .int n => some (.int n)
  | .text t => some (.str t)
  | .path names => s.lookup names

/-- The double nearest to a number, for comparisons. -/
def toDouble : Number → Double
  | .int n => (Double.ofQuotient (n < 0) n.natAbs 1).getD default
  | .double d => d

/-- Numbers are compared as doubles, the two zeros being equal. -/
def sameNumber (a b : Number) : Bool :=
  let (a, b) := (toDouble a, toDouble b)
  a == b || (a.isZero && b.isZero)

/-- The outcome of a comparison, which a negation turns; a number compared with anything else
counts as false, negated or not. -/
def compared (negated : Bool) : Json → Json → Bool
  | .num a, .num b => sameNumber a b != negated
  | .num _, _ | _, .num _ => false
  | a, b => (a.compact == b.compact) != negated

def truthy : Json → Bool
  | .null => false
  | .bool b => b
  | .num n => !(toDouble n).isZero
  | .str s => !s.isEmpty
  | .arr items => !items.isEmpty
  | .obj fields => !fields.isEmpty

/-- A lone operand counts as false when it is missing. -/
def Operand.holds (s : Scope) (o : Operand) : Bool := ((o.value? s).map truthy).getD false

def Expression.holds? (s : Scope) (e : Expression) : Option Bool :=
  match e.right with
  | some right => do return compared e.negated (← e.left.value? s) (← right.value? s)
  | none => some (e.left.holds s != e.negated)

/-- The value to write. A negated comparison is turned once more. -/
def Expression.value? (s : Scope) (e : Expression) : Option Json :=
  match e.right with
  | some _ => (e.holds? s).map fun b => .bool (b != e.negated)
  | none => if e.negated then some (.bool !(e.left.holds s)) else e.left.value? s

/-- All digits of a double, without an exponent. -/
def doubleText (d : Double) : String :=
  let digits := if d.isZero then ['0'] else Json.positional [] (.shortest d)
  .ofList (if d.negative then '-' :: digits else digits)

/-- How a value is written into a text: a list in brackets, an object by its kind only. -/
def written : Json → String
  | .null => ""
  | .bool true => "true"
  | .bool false => "false"
  | .num (.int n) => toString n
  | .num (.double d) => doubleText d
  | .str s => s
  | .arr items => "[" ++ ", ".intercalate (items.map written) ++ "]"
  | .obj _ => "[object]"

def markupEscape (c : Char) : List Char :=
  if c == '&' then "&amp;".toList
  else if c == '<' then "&lt;".toList
  else if c == '>' then "&gt;".toList
  else if c == '"' then "&quot;".toList
  else if c == '\x27' then "&#x27;".toList
  else if c == '/' then "&#x2F;".toList
  else [c]

/-- An output: in markup the characters of a text are escaped. -/
def output (markup : Bool) : Json → String
  | .str s => if markup then .ofList (s.toList.flatMap markupEscape) else s
  | v => written v

def Scope.enter (s : Scope) (t : Turn) : Scope := { s with turns := t :: s.turns }

mutual

def Part.render (markup : Bool) (s : Scope) : Part → Option String
  | .text t => some t
  | .note => some ""
  | .output e => (e.value? s).map (output markup)
  | .branch condition yes no => do
    if ← condition.holds? s then renderAll markup s yes else renderAll markup s no
  | .loop name items body otherwise => do
    match ← items.value? s with
    | .arr [] => renderAll markup s otherwise
    | .arr items =>
      let turns ← items.zipIdx.mapM fun (item, index) =>
        renderAll markup (s.enter ⟨name, item, index, items.length⟩) body
      return String.join turns
    | _ => none

def renderAll (markup : Bool) (s : Scope) : List Part → Option String
  | [] => some ""
  | p :: rest => do
    let first ← p.render markup s
    return first ++ (← renderAll markup s rest)

end

end ClientGen.Template
