import ClientGen.Unicode.CaseTable

/-!
# Letter case

The full case mappings of single characters, and the small-letter form of a text, where a capital
sigma at the end of a word has a form of its own. On ASCII they are the usual maps of 26 letters.
-/

namespace ClientGen.Unicode

def mapped (runs : List CaseRun) (c : Char) : Char :=
  match runs.find? (·.covers c.toNat) with
  | some r => Char.ofNat (c.toNat + r.offset).toNat
  | none => c

/-- The capital form, up to three characters (`ß` becomes `SS`). -/
def upper (c : Char) : List Char :=
  if c.toNat < 0x80 then [c.toUpper]
  else
    match upperSpecial.find? (·.1 == c.toNat) with
    | some (_, codes) => codes.map Char.ofNat
    | none => [mapped upperRuns c]

/-- The small-letter form of one character; only `İ` gives two. -/
def lower (c : Char) : List Char :=
  if c.toNat < 0x80 then [c.toLower]
  else if c.toNat == 0x130 then ['i', Char.ofNat 0x307]
  else [mapped lowerRuns c]

def isCased (c : Char) : Bool :=
  if c.toNat < 0x80 then c.isAlpha else inRanges casedRanges c.toNat

/-- Skipped when looking for the letters around a sigma. -/
def isCaseIgnorable (c : Char) : Bool :=
  if c.toNat < 0x80 then [0x27, 0x2e, 0x3a, 0x5e, 0x60].contains c.toNat
  else inRanges caseIgnorableRanges c.toNat

/-- The first character that is not skipped is a cased letter. -/
def startsCased (cs : List Char) : Bool :=
  match cs.dropWhile isCaseIgnorable with
  | c :: _ => isCased c
  | [] => false

def lowerFrom (before : List Char) : List Char → List Char
  | [] => []
  | c :: rest =>
    (if c.toNat == 0x3a3 then
      [if startsCased before && !startsCased rest then Char.ofNat 0x3c2 else Char.ofNat 0x3c3]
    else lower c) ++ lowerFrom (c :: before) rest

/-- The small-letter form of a text; a capital sigma that ends a word becomes `ς`. -/
def lowerText (cs : List Char) : List Char := lowerFrom [] cs

def upperText (cs : List Char) : List Char := cs.flatMap upper

end ClientGen.Unicode
