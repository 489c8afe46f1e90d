import ClientGen.Decimal.Double

/-!
# JSON values

Numbers are integers or doubles, and an object keeps its entries in order, each key once: a key
written again keeps its first place and takes the last value.
-/

namespace ClientGen

/-- Pairs in order of first appearance; what `put` builds has distinct keys. -/
abbrev Entries (α : Type) := List (String × α)

namespace Entries

variable {α : Type}

def get? (entries : Entries α) (key : String) : Option α :=
  (entries.find? (·.1 == key)).map (·.2)

def hasKey (entries : Entries α) (key : String) : Bool := entries.any (·.1 == key)

/-- A known key takes the value in its place, a new one comes last. -/
def put (entries : Entries α) (key : String) (value : α) : Entries α :=
  match entries with
  | [] => [(key, value)]
  | (k, v) :: rest => if k == key then (k, value) :: rest else (k, v) :: put rest key value

def putAll (entries more : Entries α) : Entries α := more.foldl (fun e p => put e p.1 p.2) entries

def keys (entries : Entries α) : List String := entries.map (·.1)

theorem get?_put_self (entries : Entries α) (key : String) (value : α) :
    get? (put entries key value) key = some value := by
  induction entries with
  | nil => simp [put, get?]
  | cons p rest ih =>
    obtain ⟨k, v⟩ := p
    by_cases h : k = key
    · simp [put, get?, h]
    · simpa [put, get?, h] using ih

theorem get?_put_of_ne (entries : Entries α) {key other : String} (value : α) (h : other ≠ key) :
    get? (put entries key value) other = get? entries other := by
  induction entries with
  | nil => simp [put, get?, h.symm]
  | cons p rest ih =>
    obtain ⟨k, v⟩ := p
    by_cases hk : k = key
    · subst hk
      simp [put, get?, h.symm]
    · by_cases ho : k = other
      · subst ho
        simp [put, get?, h]
      · simpa [put, get?, hk, ho] using ih

/-- A known key keeps its place, a new one comes last. -/
theorem keys_put (entries : Entries α) (key : String) (value : α) :
    (put entries key value).keys =
      if key ∈ entries.keys then entries.keys else entries.keys ++ [key] := by
  induction entries with
  | nil => simp [put, keys]
  | cons p rest ih =>
    obtain ⟨k, v⟩ := p
    by_cases hk : k = key
    · simp [put, keys, hk]
    · by_cases hr : key ∈ keys rest
      · simp_all [put, keys]
      · have hk' : key ≠ k := fun h => hk h.symm
        simp_all [put, keys]

theorem nodup_keys_put {entries : Entries α} (h : entries.keys.Nodup) (key : String) (value : α) :
    (put entries key value).keys.Nodup := by
  rw [keys_put]
  split
  · exact h
  · rename_i hk
    refine List.nodup_append.2 ⟨h, by simp, ?_⟩
    rintro x hx y hy rfl
    exact hk (List.mem_singleton.1 hy ▸ hx)

theorem nodup_keys_putAll {entries : Entries α} (h : entries.keys.Nodup) (more : Entries α) :
    (putAll entries more).keys.Nodup := by
  induction more generalizing entries with
  | nil => exact h
  | cons p rest ih => exact ih (nodup_keys_put h p.1 p.2)

end Entries

inductive Number
  | int (n : Int)
  | double (d : Double)
deriving DecidableEq, Repr

inductive Json
  | null
  | bool (b : Bool)
  | num (n : Number)
  | str (s : String)
  | arr (items : List Json)
  | obj (fields : List (String × Json))
deriving Inhabited

namespace Json

def int (n : Int) : Json := .num (.int n)

def string? : Json → Option String
  | .str s => some s
  | _ => none

/-- The text, or null. -/
def ofText? : Option String → Json
  | some s => .str s
  | none => .null

def strings (texts : List String) : Json := .arr (texts.map .str)

end Json

end ClientGen
