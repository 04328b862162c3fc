import Wordbook.Entry.Clean

/-!
# Cleaning keeps the first entry of each key

`Entry.cleanCounting` walks the entries once, threading the keys it has already taken. This
module states what that walk computes without a walk: normalise every entry, drop those whose
key comes out empty (`Entry.keyed`), then keep the first entry of each key
(`Entry.firstOfEachKey`, which removes every later entry sharing a key with a kept one).

The main statement, `cleanCounting_eq_firstOfEachKey`, says that the cleaned list is exactly
that, and that the count of dropped entries is the difference of the two lengths. Its proof
generalises the walk over the keys already taken (`cleanAfter_fst`): taking a key is the same
as filtering it out of what is still to come.
-/

namespace Wordbook

namespace Entry

/-- The normalised entries whose key is not empty, in input order. -/
def keyed (es : List Entry) : List Entry :=
  (es.map normalize).filter (fun e => !e.key.isEmpty)

/-- The entries whose key differs from the given one. -/
def withoutKey (key : String) (es : List Entry) : List Entry :=
  es.filter (fun d => d.key != key)

theorem length_withoutKey_le (key : String) (es : List Entry) :
    (withoutKey key es).length ≤ es.length :=
  List.length_filter_le _ _

/-- The first entry of each key, in order: every later entry with a kept entry's key is left
out. -/
def firstOfEachKey : List Entry → List Entry
  | [] => []
  | e :: rest => e :: firstOfEachKey (withoutKey e.key rest)
termination_by es => es.length
decreasing_by
  have := length_withoutKey_le e.key rest
  simp only [List.length_cons]
  omega

theorem keyed_nil : keyed [] = [] := rfl

theorem keyed_cons (e : Entry) (rest : List Entry) :
    keyed (e :: rest) =
      if e.normalize.key.isEmpty then keyed rest else e.normalize :: keyed rest := by
  by_cases h : e.normalize.key.isEmpty <;> simp [keyed, h]

theorem firstOfEachKey_nil : firstOfEachKey [] = [] := by
  rw [firstOfEachKey.eq_1]

theorem firstOfEachKey_cons (e : Entry) (rest : List Entry) :
    firstOfEachKey (e :: rest) = e :: firstOfEachKey (withoutKey e.key rest) := by
  rw [firstOfEachKey.eq_2]

/-- Taking a key and then filtering the rest by it is filtering by the longer list of taken
keys. -/
theorem withoutKey_untaken (es : List Entry) (key : String) (taken : List String) :
    withoutKey key (es.filter (fun d => !taken.contains d.key)) =
      es.filter (fun d => !(key :: taken).contains d.key) := by
  rw [withoutKey, List.filter_filter]
  apply List.filter_congr
  intro d _
  simp only [List.contains_cons, bne]
  cases d.key == key <;> cases taken.contains d.key <;> rfl

/-- The walk over the entries, after some keys are taken, keeps the first entry of each key
among the normalised, keyed entries whose key is not taken yet. -/
theorem cleanAfter_fst (taken : List String) (es : List Entry) :
    (cleanAfter taken es).1 =
      firstOfEachKey ((keyed es).filter (fun d => !taken.contains d.key)) := by
  induction es generalizing taken with
  | nil => simp [cleanAfter, keyed_nil, firstOfEachKey_nil]
  | cons e rest ih =>
    rw [keyed_cons]
    by_cases hEmpty : e.normalize.key.isEmpty
    · simp only [cleanAfter, hEmpty, Bool.true_or, if_true]
      exact ih taken
    · by_cases hTaken : taken.contains e.normalize.key
      · simp only [cleanAfter, hEmpty, hTaken, Bool.or_true, if_true, if_false,
          Bool.false_eq_true, List.filter_cons, Bool.not_true]
        exact ih taken
      · simp only [cleanAfter, hEmpty, hTaken, Bool.or_false, if_false, Bool.false_eq_true,
          List.filter_cons, Bool.not_false, if_true, firstOfEachKey_cons,
          withoutKey_untaken]
        rw [ih]

/-- The walk keeps or drops every entry: kept plus dropped is the input length. -/
theorem cleanAfter_count (taken : List String) (es : List Entry) :
    (cleanAfter taken es).2 + (cleanAfter taken es).1.length = es.length := by
  induction es generalizing taken with
  | nil => simp [cleanAfter]
  | cons e rest ih =>
    by_cases h : e.normalize.key.isEmpty || taken.contains e.normalize.key
    · simp only [cleanAfter, h, if_true, List.length_cons]
      have := ih taken
      omega
    · simp only [cleanAfter, h, if_false, Bool.false_eq_true, List.length_cons]
      have := ih (e.normalize.key :: taken)
      omega

/-- Cleaning normalises both fields, drops empty keys, keeps the first entry of each key in
input order, and reports as dropped every entry it did not keep. -/
theorem cleanCounting_eq_firstOfEachKey (es : List Entry) :
    cleanCounting es =
      (firstOfEachKey (keyed es), es.length - (firstOfEachKey (keyed es)).length) := by
  have hKept : (cleanAfter [] es).1 = firstOfEachKey (keyed es) := by
    rw [cleanAfter_fst]
    simp only [List.contains_nil, Bool.not_false]
    rw [List.filter_eq_self.mpr (fun _ _ => rfl)]
  have hCount := cleanAfter_count [] es
  unfold cleanCounting
  rw [hKept] at hCount
  refine Prod.ext hKept ?_
  simp only
  omega

end Entry

end Wordbook
