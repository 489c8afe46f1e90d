import ClientGen.Api.Basic
import ClientGen.Profile.Target
import ClientGen.Unicode.Blank

/-!
# The engine's rules

What every profile does unless it has a rule of its own: names for models, variables, groups and
methods, the classes of a type, default literals and the written form of an example.
-/

namespace ClientGen

/-- How many groups without a name have been numbered. -/
structure AnonymousNames where
  issued : Nat := 0
deriving DecidableEq, Repr, Inhabited

namespace Target

/-- Pascal case, escaped when reserved. -/
def modelName (t : Target) (name : String) : String :=
  t.spec.names.sanitize (Identifier.pascalCase (Identifier.legalize name))

/-- Camel case after one leading underscore that is kept, escaped when reserved. -/
def varName (t : Target) (name : String) : String :=
  let camel (s : String) := Identifier.camelCase (Identifier.legalize s)
  t.spec.names.sanitize <|
    match Text.dropStart? "_" name with
    | some rest => "_" ++ camel rest
    | none => camel name

end Target

/-- The name of a group: from its resource segment, or the next number if it has none. -/
def apiName (baseName : String) (anonymous : AnonymousNames) : String × AnonymousNames :=
  if baseName.isEmpty then
    let number := anonymous.issued + 1
    ("AnonymousAPI" ++ toString number, ⟨number⟩)
  else
    (Identifier.initialCaps (Identifier.pascalCase (Identifier.legalize baseName)) ++ "API",
      anonymous)

def operationName (raw : String) : String := Identifier.camelCase (Identifier.legalize raw)

/-- A character inside a quoted literal: the quote gets a backslash. -/
def quoteEscaped (c : Char) : List Char := if c == '"' then ['\\', '"'] else [c]

/-- Quotes escaped and blanks dropped, so that the text fits on one line. -/
def oneLine (text : String) : String :=
  .ofList ((text.toList.flatMap quoteEscaped).filter fun c => !Unicode.isBlank c)

/-- What the types of a property are; the base type tells whether it is built in. -/
def TypeClasses.flags (c : TypeClasses) (dataType baseType : String) : TypeFlags :=
  let k := c.classify dataType
  { isInteger := k == .integer
    isLong := k == .long
    isFloat := k == .float
    isDouble := k == .double
    isBoolean := k == .boolean
    isString := k == .string
    isNumeric := k.isNumeric || k == .boolean
    isPrimitiveType := c.isPrimitive baseType }

/-- The empty value of a required property that is no enumeration. -/
def Target.emptyLiteral (t : Target) (container : Container) (dataType : String) : String :=
  match container with
  | .list => t.spec.literals.list
  | .map => t.spec.literals.map
  | .scalar =>
    match t.spec.classes.classify dataType with
    | .integer | .long | .float | .double => t.spec.literals.zero
    | .boolean => t.spec.literals.boolean
    | .string => t.spec.literals.string
    | .other => t.spec.literals.null

/-- The declared default of an enumeration, else its first allowed value. -/
def Property.initialValue? (p : Property) : Option String :=
  p.schemaDefault.or p.allowableValues.head?

/-- The default literal: null for an optional property, a case for an enumeration, and an empty
value otherwise. -/
def Target.defaultValue (t : Target) (p : Property) : String :=
  if !p.required then t.spec.literals.null
  else if p.isEnum then
    match p.initialValue? with
    | some raw => t.spec.literals.enumCase p.dataTypeWithEnum raw
    | none => t.spec.literals.null
  else t.emptyLiteral p.container p.dataType

end ClientGen
