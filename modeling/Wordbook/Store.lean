import Wordbook.Entry.Line

/-!
# The entry store

The entries of the active language, in order, with a flag for unsaved changes. Loading lines
or replacing all entries leaves the store clean; adding, removing and editing an entry marks
it dirty. Removing or editing at a position past the end is refused and changes nothing, the
flag included.
-/

namespace Wordbook

/-- A position past the end of the store. -/
structure IndexOutOfRange where
  index : Nat
  len : Nat

/-- The text of an out-of-range refusal. -/
def IndexOutOfRange.message (e : IndexOutOfRange) : String :=
  s!"record index {e.index} is out of range ({e.len} records)"

/-- Ordered entries and whether they changed since the last load or replacement. -/
structure Store where
  entries : List Entry
  dirty : Bool

namespace Store

/-- The empty, clean store. -/
def empty : Store := ⟨[], false⟩

/-- The number of entries. -/
def len (s : Store) : Nat := s.entries.length

/-- The entries of the given lines, replacing the contents; clean. -/
def load (_ : Store) (lines : List String) : Store := ⟨Entry.ofLines lines, false⟩

/-- A store holding the entries of the given lines; clean. -/
def ofLines (lines : List String) : Store := empty.load lines

/-- The given entries, replacing the contents; clean. -/
def replaceAll (_ : Store) (es : List Entry) : Store := ⟨es, false⟩

/-- The store with an entry appended, and the entry's position. -/
def add (s : Store) (e : Entry) : Store × Nat := (⟨s.entries ++ [e], true⟩, s.len)

/-- The store with an empty entry appended, and its position. -/
def addBlank (s : Store) : Store × Nat := s.add Entry.blank

/-- A refusal unless the position holds an entry. -/
def check (s : Store) (i : Nat) : Except IndexOutOfRange Entry :=
  match s.entries[i]? with
  | some e => .ok e
  | none => .error ⟨i, s.len⟩

/-- The entry at a position, removed, and the store without it. -/
def removeAt (s : Store) (i : Nat) : Except IndexOutOfRange (Entry × Store) := do
  let e ← s.check i
  return (e, ⟨s.entries.eraseIdx i, true⟩)

/-- The store with one field of the entry at a position replaced, and the edited entry. -/
def edit (s : Store) (i : Nat) (f : Entry.Field) (text : String) :
    Except IndexOutOfRange (Entry × Store) := do
  let e ← s.check i
  let e' := e.set f text
  return (e', ⟨s.entries.set i e', true⟩)

end Store

end Wordbook
