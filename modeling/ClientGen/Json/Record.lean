import ClientGen.Json.Reader

/-!
# Records in JSON text

A record is written as an object, or as a list of all its fields in order. Unknown keys are passed
over, a repeated key is refused, and a required field must be there. A list may leave out fields at
its end only if they have a default.
-/

namespace ClientGen.Json

/-- What the absence of a field means: a fault, no value, or a default that even a list may use. -/
inductive Presence
  | required
  | optional
  | defaulted
deriving DecidableEq

/-- A field: its key and the reader of its value, which stores it in the record. -/
structure FieldReader (σ : Type) where
  name : String
  presence : Presence
  read : Reader (σ → σ)

/-- A field of the record `σ` whose value is stored by `store`. -/
def FieldReader.of {σ α : Type} (name : String) (presence : Presence) (read : Reader α)
    (store : σ → α → σ) : FieldReader σ :=
  ⟨name, presence, do let a ← read; return (store · a)⟩

/-- A fault that gets its place from the enclosing record. -/
def failUnplaced {α : Type} (cause : Cause) : Reader α := fun c => .error (.unplaced cause c)

/-- Reads, placing the faults that have no place by `find`. -/
def closing {α : Type} (find : Cursor → Place) (read : Reader α) : Reader α := fun c =>
  match read c with
  | .ok r => .ok r
  | .error failure => .error (failure.close find)

/-- Where an object that is given up ends: after its brace if that comes next. -/
def objectEnd (c : Cursor) : Place :=
  let c := c.skipBlanks
  match c.rest with
  | '\x7d' :: _ => c.next.place
  | _ => c.place

/-- Where a list that is given up ends: after its bracket, or after a comma and blanks. -/
def listEnd (c : Cursor) : Place :=
  let c := c.skipBlanks
  match c.rest with
  | ']' :: _ => c.next.place
  | ',' :: _ => c.next.skipBlanks.place
  | _ => c.place

/-- The entries of an object up to its closing brace; `seen` are the known keys read so far. -/
def recordEntries {σ : Type} (fields : List (FieldReader σ)) (first : Bool) (seen : List String)
    (r : σ) : Nat → Reader σ
  | 0 => return r
  | fuel + 1 => do
    if ← moreEntries first then
      let k ← key
      match fields.find? (·.name == k) with
      | none =>
        colon
        pass
        recordEntries fields false seen r fuel
      | some field =>
        if seen.contains k then failUnplaced (.duplicateField k)
        colon
        let store ← field.read
        recordEntries fields false (k :: seen) (store r) fuel
    else
      match fields.find? fun f => f.presence == .required && !seen.contains f.name with
      | some field => failUnplaced (.missingField field.name)
      | none =>
        advance
        return r

/-- The elements of a list, one for each field; `index` counts the fields read. -/
def recordElements {σ : Type} (expected : String) (index : Nat) (first : Bool) (r : σ) :
    List (FieldReader σ) → Reader σ
  | [] => do
    match ← token with
    | some ']' => do
      advance
      return r
    | some ',' => do
      advance
      match ← token with
      | some ']' => failNext .trailingComma
      | _ => failNext .trailingCharacters
    | some _ => failNext .trailingCharacters
    | none => failNext .endInList
  | field :: rest => do
    if ← moreElements first then
      let store ← field.read
      recordElements expected (index + 1) false (store r) rest
    else if field.presence == .defaulted then recordElements expected (index + 1) first r rest
    else failUnplaced (.invalidLength index expected)

/-- A record; the fields are missing where no deeper container is allowed. -/
def record {σ : Type} (name : String) (empty : σ) (fields : Option (List (FieldReader σ))) :
    Reader σ := do
  let expected := "struct " ++ name
  match ← token with
  | none => failNext .endInValue
  | some '\x7b' =>
    closing objectEnd <| enter fields fun fields => recordEntries fields true [] empty
  | some '[' =>
    closing listEnd <| enter fields fun fields _ =>
      let count := toString fields.length ++ if fields.length == 1 then " element" else " elements"
      recordElements (expected ++ " with " ++ count) 0 true empty fields
  | some _ => mismatch expected

end ClientGen.Json
