import ClientGen.Identifier.Reserved
import ClientGen.Text

/-!
# Names made for enumerations

An allowed value of an enumeration becomes the name of a case, and the property that holds the
enumeration gives its name to the enumeration's type.
-/

namespace ClientGen.Identifier

/-- The ending that marks the working name of an enumeration type. -/
def enumEnding : String := "Enum"

def caseSeparators : List Char := ['-', '_', ' ']

/-- Reads like a type: an ASCII capital, a small letter or digit, then letters and digits. -/
def isTypeLike : List Char → Bool
  | a :: b :: rest => a.isUpper && (b.isLower || b.isDigit) && rest.all Char.isAlphanum
  | _ => false

/-- The case for an allowed value: `Active` stays, `IN_PROGRESS` becomes `InProgress`. -/
def enumCaseName (raw : String) : String :=
  if isTypeLike raw.toList then raw
  else
    .ofList ((capitalizeEach caseSeparators true (Unicode.lowerText raw.toList)).filter fun c =>
      !caseSeparators.contains c)

/-- The type for an enumeration: the working name without its ending, escaped when it is reserved
or equals the name of its property. -/
def enumTypeName (reserved : ReservedWords) (typeName propertyName : String) : String :=
  let name := (Text.dropEnding? enumEnding typeName).getD typeName
  if reserved.isReserved name || name == propertyName then reserved.escape name else name

end ClientGen.Identifier
