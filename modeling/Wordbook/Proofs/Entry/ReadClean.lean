import Wordbook.Entry.Clean.FirstOccurrence
import Wordbook.Proofs.Entry.Lines

/-!
# Cleaning a dictionary as it was read

Reading already does what cleaning would do to a single entry. An entry read from a line
without line breaks has a key that is not empty and holds no comma, ASCII or full-width, a
value without a full-width comma, and both fields are fixed by trimming and by
`normalizeField` (`ofLine?_fields`). So of the entries read from such lines, cleaning changes
none: it drops each entry whose key an earlier entry already has, counts exactly those, and
keeps the others as they were read (`read_entries_are_clean`).
-/

set_option autoImplicit false

namespace Wordbook.Entry

open Text

/-- Normal entries are their own normal forms and all have keys: `keyed` keeps them as they
are. -/
theorem keyed_of_normal {es : List Entry} (h : ∀ e ∈ es, Normal e) : keyed es = es := by
  have hmap : es.map normalize = es := by
    conv => rhs; rw [← List.map_id es]
    exact List.map_congr_left fun e he => normalize_of_normal (h e he)
  unfold keyed
  rw [hmap, List.filter_eq_self]
  intro e he
  simpa using (h e he).key_ne

/-- Cleaning normal entries keeps the first entry of each key, unchanged, and counts the
others as dropped. -/
theorem cleanCounting_of_all_normal {es : List Entry} (h : ∀ e ∈ es, Normal e) :
    cleanCounting es = (firstOfEachKey es, es.length - (firstOfEachKey es).length) := by
  rw [cleanCounting_eq_firstOfEachKey, keyed_of_normal h]

/-- What a line without breaks reads as: a key that is not empty and has no comma of either
width, a value without a full-width comma, and both fields trimmed and normalised. -/
theorem ofLine?_fields {line : String} {e : Entry} (hr : '\r' ∉ line.toList)
    (hn : '\n' ∉ line.toList) (h : ofLine? line = some e) :
    e.key ≠ "" ∧ ',' ∉ e.key.toList ∧ fullWidthComma ∉ e.key.toList ∧
      fullWidthComma ∉ e.value.toList ∧
      trim e.key = e.key ∧ trim e.value = e.value ∧
      normalizeField e.key = e.key ∧ normalizeField e.value = e.value := by
  obtain ⟨hnormal, hcomma⟩ := normal_of_ofLine? hr hn h
  have hfixed := normalize_of_normal hnormal
  exact ⟨hnormal.key_ne, hcomma, hnormal.key_written.no_fullWidthComma,
    hnormal.value_written.no_fullWidthComma, trim_eq_self_iff.2 hnormal.key_written.trimmed,
    trim_eq_self_iff.2 hnormal.value_written.trimmed, congrArg key hfixed, congrArg value hfixed⟩

/-- Entries read from lines without breaks are already clean, one by one: each has a key, no
comma in it, no full-width comma in either field, and fields that trimming and normalising
leave alone. So cleaning all of them only drops every entry whose key an earlier one has,
keeps the rest unchanged and in order, and counts as dropped exactly the entries it left out. -/
theorem read_entries_are_clean :
    (∀ (line : String) (e : Entry), '\r' ∉ line.toList → '\n' ∉ line.toList →
      ofLine? line = some e →
      e.key ≠ "" ∧ ',' ∉ e.key.toList ∧ fullWidthComma ∉ e.key.toList ∧
        fullWidthComma ∉ e.value.toList ∧
        trim e.key = e.key ∧ trim e.value = e.value ∧
        normalizeField e.key = e.key ∧ normalizeField e.value = e.value) ∧
    ∀ lines : List String, (∀ line ∈ lines, '\r' ∉ line.toList ∧ '\n' ∉ line.toList) →
      cleanCounting (ofLines lines) =
        (firstOfEachKey (ofLines lines),
          (ofLines lines).length - (firstOfEachKey (ofLines lines)).length) := by
  refine ⟨fun line e hr hn h => ofLine?_fields hr hn h, fun lines hlines => ?_⟩
  apply cleanCounting_of_all_normal
  -- every entry comes from one of the lines, and none of them holds a break
  intro e he
  obtain ⟨line, hline, hread⟩ := List.mem_filterMap.1 he
  obtain ⟨hr, hn⟩ := hlines line hline
  exact (normal_of_ofLine? hr hn hread).1

/-- Four lines, one a comment and one repeating a key: the line with a quoted key reads as
a clean entry, and cleaning what the lines read drops only the repeat. -/
theorem sample_read_entries_are_clean :
    ('\r' ∉ "\" key \", 'value, with comma'".toList ∧
        '\n' ∉ "\" key \", 'value, with comma'".toList ∧
        ofLine? "\" key \", 'value, with comma'" = some ⟨"key", "value, with comma"⟩ ∧
        (("key" : String) ≠ "" ∧ ',' ∉ "key".toList ∧ fullWidthComma ∉ "key".toList ∧
          fullWidthComma ∉ "value, with comma".toList ∧
          trim "key" = "key" ∧ trim "value, with comma" = "value, with comma" ∧
          normalizeField "key" = "key" ∧
          normalizeField "value, with comma" = "value, with comma")) ∧
      ((∀ line ∈ ["b, 2", "# note", "a, 1", "b, 3"],
          '\r' ∉ line.toList ∧ '\n' ∉ line.toList) ∧
        cleanCounting (ofLines ["b, 2", "# note", "a, 1", "b, 3"]) =
          (firstOfEachKey (ofLines ["b, 2", "# note", "a, 1", "b, 3"]),
            (ofLines ["b, 2", "# note", "a, 1", "b, 3"]).length -
              (firstOfEachKey (ofLines ["b, 2", "# note", "a, 1", "b, 3"])).length)) := by
  have hr : '\r' ∉ "\" key \", 'value, with comma'".toList := by decide
  have hn : '\n' ∉ "\" key \", 'value, with comma'".toList := by decide
  have hread : ofLine? "\" key \", 'value, with comma'" = some ⟨"key", "value, with comma"⟩ := by
    decide
  have hlines : ∀ line ∈ ["b, 2", "# note", "a, 1", "b, 3"],
      '\r' ∉ line.toList ∧ '\n' ∉ line.toList := by
    decide
  exact ⟨⟨hr, hn, hread, read_entries_are_clean.1 _ _ hr hn hread⟩,
    hlines, read_entries_are_clean.2 _ hlines⟩

end Wordbook.Entry
