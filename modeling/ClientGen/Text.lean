/-!
# Replacement in a text

Patterns with placeholders are filled by replacing the first, or every, occurrence of a piece of
text. Occurrences are found from left to right and do not overlap.
-/

namespace ClientGen.Text

/-- The first occurrence of `old` becomes `new`. -/
def replaceFirst (old new : List Char) : List Char → List Char
  | [] => if old.isEmpty then new else []
  | c :: rest =>
    match old.isPrefixOf? (c :: rest) with
    | some after => new ++ after
    | none => c :: replaceFirst old new rest

/-- Drops `skip` characters, then replaces every occurrence of a non-empty `old`. -/
def replaceFrom (old new : List Char) (skip : Nat) : List Char → List Char
  | [] => []
  | c :: rest =>
    match skip with
    | n + 1 => replaceFrom old new n rest
    | 0 =>
      if old.isPrefixOf (c :: rest) then new ++ replaceFrom old new (old.length - 1) rest
      else c :: replaceFrom old new 0 rest

/-- Every occurrence of the non-empty text `old` becomes `new`. -/
def replaceAll (old new s : String) : String :=
  .ofList (replaceFrom old.toList new.toList 0 s.toList)

/-- The text without `ending`, if it ends so. -/
def dropEnding? (ending s : String) : Option String :=
  (ending.toList.isSuffixOf? s.toList).map .ofList

/-- The text after `start`, if it starts so. -/
def dropStart? (start s : String) : Option String :=
  (start.toList.isPrefixOf? s.toList).map .ofList

end ClientGen.Text
