/-!
# Templates

A template is text with tags. An output tag writes a value of the context; a branch writes one of
two lists of parts; a loop writes its body once for each element of a list, or other parts if the
list is empty. A note, which stands for a comment, writes nothing. An `elif` is a branch among the
parts of the `else`.
-/

namespace ClientGen.Template

/-- A value as a tag writes it: a literal, or the names that lead to it. -/
inductive Operand
  | flag (b : Bool)
  | int (n : Int)
  | text (s : String)
  | path (names : List String)
deriving DecidableEq, Repr

/-- An operand, or its comparison with another one; either may be negated. -/
structure Expression where
  negated : Bool
  left : Operand
  right : Option Operand
deriving DecidableEq, Repr

inductive Part
  | text (s : String)
  | note
  | output (e : Expression)
  | branch (condition : Expression) (yes no : List Part)
  | loop (name : String) (items : Operand) (body otherwise : List Part)

end ClientGen.Template
