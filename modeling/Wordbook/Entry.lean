/-!
# Entries

An entry is one rule of a language dictionary: occurrences of `key` are replaced by `value`.
A dictionary is an ordered list of entries; keys may repeat until the dictionary is cleaned.
-/

namespace Wordbook

/-- One dictionary rule: `key` is replaced by `value`. -/
structure Entry where
  key : String
  value : String
  deriving DecidableEq, Inhabited

namespace Entry

/-- The two fields of an entry, as an edit names them. -/
inductive Field where
  | key
  | value
  deriving DecidableEq

/-- The entry with both fields empty. -/
def blank : Entry := ⟨"", ""⟩

/-- The entry with one field replaced. -/
def set (e : Entry) : Field → String → Entry
  | .key, s => { e with key := s }
  | .value, s => { e with value := s }

/-- The text of one field. -/
def get (e : Entry) : Field → String
  | .key => e.key
  | .value => e.value

@[simp] theorem get_set_self (e : Entry) (f : Field) (s : String) : (e.set f s).get f = s := by
  cases f <;> rfl

theorem set_key_value (e : Entry) : e.set .key e.key = e ∧ e.set .value e.value = e := by
  cases e; exact ⟨rfl, rfl⟩

end Entry

end Wordbook
