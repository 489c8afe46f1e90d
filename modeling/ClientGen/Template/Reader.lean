import ClientGen.Template.Basic
import ClientGen.Unicode.Blank

/-!
# Reading templates

A text is cut into pieces, plain text and tags, and the pieces are put together by keeping the
blocks that are still open. A hyphen at either side of a tag drops the blanks of the text there;
comments that open the text, and all that a loop shows when it has no turn, are left as they are.
-/

namespace ClientGen.Template

/-- Blanks inside a tag. -/
def isTagBlank (c : Char) : Bool := c == ' ' || c == '\t' || c == '\r' || c == '\n'

def skipBlanks (cs : List Char) : List Char := cs.dropWhile isTagBlank

/-- The text after blanks and a word. -/
def after? (word : String) (cs : List Char) : Option (List Char) :=
  word.toList.isPrefixOf? (skipBlanks cs)

def isNameStart (c : Char) : Bool := c.isAlpha || c == '_'

def isNameChar (c : Char) : Bool := c.isAlphanum || c == '_'

/-- A name after blanks. -/
def name? (cs : List Char) : Option (String × List Char) :=
  match skipBlanks cs with
  | c :: rest =>
    if isNameStart c then
      some (.ofList (c :: rest.takeWhile isNameChar), rest.dropWhile isNameChar)
    else none
  | [] => none

/-- Names between dots; the first one starts like a name, the others may be numbers. -/
def path? (cs : List Char) : Option (List String × List Char) :=
  let inPath (c : Char) := isNameChar c || c == '.'
  let names := (cs.takeWhile inPath).splitOnP (· == '.')
  if (cs.head?.any isNameStart) && names.all (!·.isEmpty) then
    some (names.map .ofList, cs.dropWhile inPath)
  else none

def isQuote (c : Char) : Bool := c == '"' || c == '\x27' || c == '\x60'

/-- A text between two equal quotes. -/
def quoted? : List Char → Option (String × List Char)
  | q :: rest =>
    match rest.dropWhile (· != q) with
    | _ :: after => if isQuote q then some (.ofList (rest.takeWhile (· != q)), after) else none
    | [] => none
  | [] => none

/-- Decimal digits without leading zeros. -/
def natural? : List Char → Option (Nat × List Char)
  | '0' :: rest => some (0, rest)
  | cs =>
    let digits := cs.takeWhile Char.isDigit
    let value := digits.foldl (fun n c => 10 * n + (c.toNat - '0'.toNat)) 0
    if digits.isEmpty then none else some (value, cs.dropWhile Char.isDigit)

/-- A signed integer of 64 bits. -/
def integer? (cs : List Char) : Option (Int × List Char) := do
  let (n, rest) ← match cs with
    | '-' :: digits => (natural? digits).map fun (n, rest) => (-(n : Int), rest)
    | _ => (natural? cs).map fun (n, rest) => ((n : Int), rest)
  if -(Nat.pow 2 63 : Int) ≤ n && n < (Nat.pow 2 63 : Int) then some (n, rest) else none

def flag? (cs : List Char) : Option (Bool × List Char) :=
  ((after? "true" cs).or (after? "True" cs)).map (true, ·) <|>
    ((after? "false" cs).or (after? "False" cs)).map (false, ·)

/-- An operand that is not a text. -/
def plainOperand? (cs : List Char) : Option (Operand × List Char) :=
  (flag? cs).map (fun (b, rest) => (.flag b, rest)) <|>
    (path? cs).map (fun (names, rest) => (.path names, rest)) <|>
    (integer? cs).map (fun (n, rest) => (.int n, rest))

def operand? (cs : List Char) : Option (Operand × List Char) :=
  let cs := skipBlanks cs
  (quoted? cs).map (fun (s, rest) => (.text s, rest)) <|> plainOperand? cs

/-- The text after blanks, if there is at least one. -/
def afterBlank? : List Char → Option (List Char)
  | c :: rest => if isTagBlank c then some (skipBlanks rest) else none
  | [] => none

/-- The text after blanks and a word that has a blank behind it. -/
def afterWord? (word : String) (cs : List Char) : Option (List Char) :=
  (after? word cs).bind afterBlank?

/-- Whether a negation stands in front, and the text after it. -/
def negation (cs : List Char) : Bool × List Char :=
  match afterWord? "not" cs with
  | some rest => (true, rest)
  | none => (false, cs)

def expression? (cs : List Char) : Option (Expression × List Char) := do
  let (negated, cs) := negation cs
  let (left, rest) ← operand? cs
  match after? "==" rest with
  | some rest =>
    let (right, rest) ← operand? rest
    return (⟨negated, left, some right⟩, rest)
  | none => return (⟨negated, left, none⟩, rest)

inductive Tag
  | note
  | output (e : Expression)
  | choose (condition : Expression)
  | chooseElse (condition : Expression)
  | otherwise
  | endChoose
  | each (name : String) (items : Operand)
  | endEach

/-- What stands between the delimiters of a statement. -/
def statement? (cs : List Char) : Option (Tag × List Char) :=
  (do
    let (e, rest) ← expression? (← afterWord? "if" cs)
    return (.choose e, rest)) <|>
  (do
    let (e, rest) ← expression? (← afterWord? "elif" cs)
    return (.chooseElse e, rest)) <|>
  (do
    let (name, rest) ← name? (← afterWord? "for" cs)
    let (items, rest) ← plainOperand? (← afterWord? "in" (← afterBlank? rest))
    return (.each name items, rest)) <|>
  (after? "else" cs).map (.otherwise, ·) <|>
  (after? "endif" cs).map (.endChoose, ·) <|>
  (after? "endfor" cs).map (.endEach, ·)

/-- The end of a tag: whether it trims, and the text after it. -/
def tagEnd? (close : Char) (cs : List Char) : Option (Bool × List Char) :=
  match skipBlanks cs with
  | '-' :: c :: '}' :: rest => if c == close then some (true, rest) else none
  | c :: '}' :: rest => if c == close then some (false, rest) else none
  | _ => none

/-- The end of a comment: whether it trims, and the text after it. -/
def noteEnd? : List Char → Option (Bool × List Char)
  | '-' :: '#' :: '}' :: rest => some (true, rest)
  | '#' :: '}' :: rest => some (false, rest)
  | _ => none

/-- The first end of a comment. -/
def findNoteEnd? : List Char → Option (Bool × List Char)
  | [] => none
  | c :: rest => (noteEnd? (c :: rest)).or (findNoteEnd? rest)

/-- A stretch of text, or a tag that may trim the texts before and after it. -/
inductive Piece
  | text (cs : List Char)
  | tag (before after : Bool) (t : Tag)

/-- A hyphen right after the start of a tag. -/
def hyphen : List Char → Bool × List Char
  | '-' :: rest => (true, rest)
  | cs => (false, cs)

def startsTag : List Char → Bool
  | '{' :: c :: _ => c == '{' || c == '%' || c == '#'
  | _ => false

/-- The tag that starts a text. -/
def tag? : List Char → Option (Piece × List Char)
  | '{' :: kind :: cs => do
    let (before, cs) := hyphen cs
    if kind == '#' then
      -- a comment is not empty
      if (noteEnd? cs).isSome then none
      let (after, rest) ← findNoteEnd? cs
      return (.tag before after .note, rest)
    else if kind == '%' then
      let (t, rest) ← statement? cs
      let (after, rest) ← tagEnd? '%' rest
      return (.tag before after t, rest)
    else
      let (e, rest) ← expression? cs
      let (after, rest) ← tagEnd? '}' rest
      return (.tag before after (.output e), rest)
  | _ => none

def addChar (c : Char) : List Piece → List Piece
  | .text cs :: rest => .text (c :: cs) :: rest
  | ps => .text [c] :: ps

/-- The pieces of a text, if all its tags are well formed. -/
def pieces (cs : List Char) : Option (List Piece) :=
  match cs with
  | [] => some []
  | c :: rest =>
    if startsTag (c :: rest) then
      match tag? (c :: rest) with
      | some (piece, after) =>
        if after.length ≤ rest.length then (pieces after).map (piece :: ·) else none
      | none => none
    else (pieces rest).map (addChar c)
termination_by cs.length

def trimStart (s : String) : String := .ofList (s.toList.dropWhile Unicode.isBlank)

def trimEnd (s : String) : String :=
  .ofList (s.toList.reverse.dropWhile Unicode.isBlank).reverse

/-- Parts in reverse, without the blanks at the end of a text that comes last. -/
def trimLast : List Part → List Part
  | .text s :: rest => .text (trimEnd s) :: rest
  | parts => parts

/-- A block that is still open, with the parts before it in reverse. -/
inductive Block
  /-- The finished cases, and the condition of the present one; none after `else`. -/
  | choice (before : List Part) (cases : List (Expression × List Part)) (now : Option Expression)
  /-- The body, in reverse, once `else` has finished it. -/
  | loop (before : List Part) (name : String) (items : Operand) (body : Option (List Part))

/-- In the part of a loop that is shown when it has no turn. -/
def Block.isFallback : Block → Bool
  | .loop _ _ _ (some _) => true
  | _ => false

/-- Whether hyphens trim inside some open blocks. -/
def trims (blocks : List Block) : Bool := !blocks.any Block.isFallback

/-- The parts read so far in the innermost block, in reverse, the open blocks, innermost first, and
whether the tag before trims. -/
structure Assembly where
  parts : List Part := []
  blocks : List Block := []
  after : Bool := false

/-- One branch inside the other. -/
def nested (cases : List (Expression × List Part)) (last : List Part) : List Part :=
  cases.foldr (fun (condition, yes) no => [.branch condition yes no]) last

namespace Assembly

/-- A tag that has no place where it stands is an error. When `else` is repeated in a loop, the last
one counts, and the hyphens around it do nothing. -/
def addTag (a : Assembly) (before : Bool) (t : Tag) : Option Assembly :=
  let parts := if before && trims a.blocks then trimLast a.parts else a.parts
  match t, a.blocks with
  | .note, blocks => some { parts := .note :: parts, blocks }
  | .output e, blocks => some { parts := .output e :: parts, blocks }
  | .choose e, blocks => some { blocks := .choice parts [] (some e) :: blocks }
  | .chooseElse e, .choice outer cases (some now) :: blocks =>
    some { blocks := .choice outer (cases ++ [(now, parts.reverse)]) (some e) :: blocks }
  | .otherwise, .choice outer cases (some now) :: blocks =>
    some { blocks := .choice outer (cases ++ [(now, parts.reverse)]) none :: blocks }
  | .endChoose, .choice outer cases (some now) :: blocks =>
    some { parts := nested (cases ++ [(now, parts.reverse)]) [] ++ outer, blocks }
  | .endChoose, .choice outer cases none :: blocks =>
    some { parts := nested cases parts.reverse ++ outer, blocks }
  | .each name items, blocks => some { blocks := .loop parts name items none :: blocks }
  | .otherwise, .loop outer name items body :: blocks =>
    some { blocks := .loop outer name items (some (body.getD a.parts)) :: blocks }
  | .endEach, .loop outer name items none :: blocks =>
    some { parts := .loop name items parts.reverse [] :: outer, blocks }
  | .endEach, .loop outer name items (some body) :: blocks =>
    let body := if before && trims blocks then trimLast body else body
    some { parts := .loop name items body.reverse a.parts.reverse :: outer, blocks }
  | _, _ => none

def add (a : Assembly) : Piece → Option Assembly
  | .text cs =>
    let s : String := .ofList cs
    let s := if a.after && trims a.blocks then trimStart s else s
    some { a with parts := .text s :: a.parts, after := false }
  | .tag before after t => (a.addTag before t).map ({ · with after })

end Assembly

def Piece.isNote : Piece → Bool
  | .tag _ _ .note => true
  | _ => false

/-- The parts of a template, if every tag is well formed and every block is closed. -/
def parse (source : String) : Option (List Part) := do
  match ← ((← pieces source.toList).dropWhile Piece.isNote).foldlM Assembly.add {} with
  | { parts, blocks := [], .. } => some parts.reverse
  | _ => none

end ClientGen.Template
