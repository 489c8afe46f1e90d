/-!
# Manifests

The supporting files of a profile in the order of their emission, each listed once. Entries are the
same when template, folder and file name all agree.
-/

namespace ClientGen

structure ManifestEntry where
  template : String
  folder : String
  fileName : String
deriving DecidableEq, Repr

structure Manifest where
  entries : List ManifestEntry := []
deriving DecidableEq, Repr

namespace Manifest

def contains (m : Manifest) (e : ManifestEntry) : Bool := m.entries.contains e

/-- Lists an entry last unless it is listed already. -/
def add (m : Manifest) (e : ManifestEntry) : Manifest :=
  if m.contains e then m else ⟨m.entries ++ [e]⟩

def remove (m : Manifest) (e : ManifestEntry) : Manifest := ⟨m.entries.filter (· != e)⟩

/-- Whether a removal leaves fewer entries. -/
def removes (m : Manifest) (e : ManifestEntry) : Bool :=
  (m.remove e).entries.length != m.entries.length

def addAll (m : Manifest) (es : List ManifestEntry) : Manifest := es.foldl add m

def removeAll (m : Manifest) (es : List ManifestEntry) : Manifest := es.foldl remove m

def ofList (es : List ManifestEntry) : Manifest := addAll {} es

/-- The entry that writes a file. -/
def find? (m : Manifest) (folder fileName : String) : Option ManifestEntry :=
  m.entries.find? fun e => e.folder == folder && e.fileName == fileName

def size (m : Manifest) : Nat := m.entries.length

theorem mem_add {m : Manifest} {e x : ManifestEntry} :
    x ∈ (m.add e).entries ↔ x ∈ m.entries ∨ x = e := by
  unfold add contains
  split
  · rename_i h
    simp only [List.contains_iff_mem] at h
    constructor
    · exact .inl
    · rintro (h' | rfl) <;> assumption
  · simp

theorem mem_remove {m : Manifest} {e x : ManifestEntry} :
    x ∈ (m.remove e).entries ↔ x ∈ m.entries ∧ x ≠ e := by
  simp [remove]

theorem add_of_mem {m : Manifest} {e : ManifestEntry} (h : e ∈ m.entries) : m.add e = m :=
  if_pos (List.contains_iff_mem.2 h)

theorem entries_add_of_notMem {m : Manifest} {e : ManifestEntry} (h : e ∉ m.entries) :
    (m.add e).entries = m.entries ++ [e] := by
  rw [add, contains, if_neg (mt List.contains_iff_mem.1 h)]

theorem remove_of_notMem {m : Manifest} {e : ManifestEntry} (h : e ∉ m.entries) :
    m.remove e = m := by
  have hall : m.entries.filter (· != e) = m.entries := by
    rw [List.filter_eq_self]
    intro x hx
    rw [bne_iff_ne]
    rintro rfl
    exact h hx
  exact congrArg Manifest.mk hall

end Manifest

end ClientGen
