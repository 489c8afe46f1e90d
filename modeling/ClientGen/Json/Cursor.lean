/-!
# Places in a text

A reader stands at a cursor: the rest of the text and the place reached so far. Lines count from
one; a column counts the bytes of its line that were read. A fault is placed either where the
reader stands or after the next byte.
-/

namespace ClientGen.Json

structure Place where
  line : Nat
  column : Nat
deriving DecidableEq, Repr

namespace Place

def start : Place := ⟨1, 0⟩

def newLine (p : Place) : Place := ⟨p.line + 1, 0⟩

/-- The place after a whole character. -/
def after (p : Place) (c : Char) : Place :=
  if c == '\n' then p.newLine else ⟨p.line, p.column + c.utf8Size⟩

/-- The place after the first byte of a character. -/
def afterByte (p : Place) (c : Char) : Place :=
  if c == '\n' then p.newLine else ⟨p.line, p.column + 1⟩

/-- The place `count` bytes further, perhaps inside a character; none beyond the end. -/
def advance? (p : Place) (count : Nat) : List Char → Option Place
  | [] => if count == 0 then some p else none
  | c :: rest =>
    if count == 0 then some p
    else if c.utf8Size ≤ count then advance? (p.after c) (count - c.utf8Size) rest
    else some ⟨p.line, p.column + count⟩

end Place

structure Cursor where
  rest : List Char
  place : Place := .start

namespace Cursor

/-- The place after the next byte, or the end. -/
def peekPlace (c : Cursor) : Place :=
  match c.rest with
  | [] => c.place
  | x :: _ => c.place.afterByte x

def endPlace (c : Cursor) : Place := c.rest.foldl Place.after c.place

def next (c : Cursor) : Cursor :=
  match c.rest with
  | [] => c
  | x :: rest => ⟨rest, c.place.after x⟩

def isBlank (c : Char) : Bool := c == ' ' || c == '\n' || c == '\t' || c == '\r'

/-- Past the blanks before the next token. -/
def skipBlanks (c : Cursor) : Cursor :=
  ⟨c.rest.dropWhile isBlank, (c.rest.takeWhile isBlank).foldl Place.after c.place⟩

end Cursor

end ClientGen.Json
