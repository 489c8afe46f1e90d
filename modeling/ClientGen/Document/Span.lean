/-!
# Spans of a source text

A place given by line and column is shown as a span of bytes: the byte read last on that line, or
nothing at the end of the text.
-/

namespace ClientGen

structure Span where
  offset : Nat
  length : Nat
deriving DecidableEq, Repr

namespace Span

def byteSize (cs : List Char) : Nat := (cs.map Char.utf8Size).foldr (· + ·) 0

/-- The bytes of the first `count` lines, line breaks included. -/
def lineStart : Nat → List Char → Nat
  | 0, _ => 0
  | _, [] => 0
  | count + 1, c :: rest =>
    c.utf8Size + lineStart (if c == '\n' then count else count + 1) rest

/-- The offset for a line and a column, both counted from one, within the text. -/
def offsetOf (text : List Char) (line column : Nat) : Option Nat :=
  if line == 0 then none
  else some (min (lineStart (line - 1) text + (column - 1)) (byteSize text))

/-- One byte at the offset, none at the end of the text. -/
def ofPlace (text : String) (line column : Nat) : Option Span :=
  (offsetOf text.toList line column).map fun offset =>
    ⟨offset, if offset < byteSize text.toList then 1 else 0⟩

end Span

end ClientGen
