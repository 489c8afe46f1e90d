/-!
# Path templates

A path of a document holds placeholders: a name of ASCII letters and underscores between braces.
A path is read as a sequence of segments, literal characters and placeholders; a brace that opens
or closes no placeholder is a literal character. Normalizing wraps each name in the syntax of the
target and keeps every literal character.
-/

namespace ClientGen

def isPlaceholderChar (c : Char) : Bool := c.isAlpha || c == '_'

/-- A placeholder at the start of a text: its name and the text after it. -/
def placeholder? : List Char → Option (List Char × List Char)
  | '{' :: rest =>
    match rest.dropWhile isPlaceholderChar with
    | '}' :: after =>
      let name := rest.takeWhile isPlaceholderChar
      if name.isEmpty then none else some (name, after)
    | _ => none
  | _ => none

theorem length_of_placeholder? {cs name after : List Char}
    (h : placeholder? cs = some (name, after)) : after.length < cs.length := by
  unfold placeholder? at h
  split at h
  · rename_i rest
    split at h
    · rename_i after' he
      have hl := (List.dropWhile_suffix isPlaceholderChar (l := rest)).length_le
      dsimp only at h
      split at h
      · simp at h
      · simp only [Option.some.injEq, Prod.mk.injEq] at h
        simp only [he, List.length_cons] at hl
        simp only [List.length_cons, ← h.2]
        omega
    · simp at h
  · simp at h

inductive PathSegment
  | literal (c : Char)
  | placeholder (name : List Char)
deriving DecidableEq, Repr

/-- The segments of a path, placeholders taken from left to right. -/
def pathSegments (cs : List Char) : List PathSegment :=
  match h : placeholder? cs with
  | some (name, after) =>
    have := length_of_placeholder? h
    .placeholder name :: pathSegments after
  | none =>
    match cs with
    | [] => []
    | c :: rest => .literal c :: pathSegments rest
termination_by cs.length

/-- What a target writes around the name of a placeholder. -/
structure PathSyntax where
  before : String
  after : String
deriving DecidableEq, Repr

/-- A segment in the syntax of a target, its name changed by `rename`. -/
def PathSyntax.segment (s : PathSyntax) (rename : String → String) : PathSegment → List Char
  | .literal c => [c]
  | .placeholder name => s.before.toList ++ (rename (.ofList name)).toList ++ s.after.toList

/-- The path in the syntax of a target. -/
def PathSyntax.normalize (s : PathSyntax) (rename : String → String) (path : String) : String :=
  .ofList ((pathSegments path.toList).flatMap (s.segment rename))

/-- Some brace of the path belongs to no placeholder. -/
def hasStrayBrace (path : String) : Bool :=
  (pathSegments path.toList).any fun
    | .literal c => c == '{' || c == '}'
    | .placeholder _ => false

end ClientGen
