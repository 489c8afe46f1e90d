import ClientGen.Identifier.Words

/-!
# Reserved words

A target language reserves words that no generated name may have. Letter case does not matter:
the words are kept in small letters, each once, and a name is compared in small letters. A name
that is reserved is escaped, by an underscore in front unless the target has another rule.
-/

namespace ClientGen

/-- The underscore in front of a name. -/
def Identifier.underscored (name : String) : String := "_" ++ name

structure ReservedWords where
  words : List String := []
  escape : String → String := Identifier.underscored

namespace ReservedWords

def add (r : ReservedWords) (word : String) : ReservedWords :=
  let small := Identifier.lowercase word
  if r.words.contains small then r else { r with words := r.words ++ [small] }

def extend (r : ReservedWords) (words : List String) : ReservedWords := words.foldl add r

def ofList (words : List String) : ReservedWords := extend {} words

def isReserved (r : ReservedWords) (name : String) : Bool :=
  r.words.contains (Identifier.lowercase name)

/-- The name itself, or its escaped form if it is reserved. -/
def sanitize (r : ReservedWords) (name : String) : String :=
  if r.isReserved name then r.escape name else name

def size (r : ReservedWords) : Nat := r.words.length

theorem escape_add (r : ReservedWords) (word : String) : (r.add word).escape = r.escape := by
  unfold add
  dsimp only
  split <;> rfl

theorem escape_extend (r : ReservedWords) (words : List String) :
    (r.extend words).escape = r.escape := by
  unfold extend
  induction words generalizing r with
  | nil => rfl
  | cons word rest ih => rw [List.foldl_cons, ih, escape_add]

theorem mem_words_add (r : ReservedWords) (word x : String) :
    x ∈ (r.add word).words ↔ x ∈ r.words ∨ x = Identifier.lowercase word := by
  unfold add
  dsimp only
  split
  · rename_i h
    constructor
    · exact .inl
    · rintro (h' | rfl)
      · exact h'
      · simpa using h
  · simp

end ReservedWords

end ClientGen
