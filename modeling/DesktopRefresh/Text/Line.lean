/-!
# Lines of a text

A line ends at a line feed, and a carriage return right before the line feed belongs to the end of
the line. What follows the last line feed is a line of its own unless it is empty; it keeps a
carriage return at its end.
-/

namespace DesktopRefresh.Text

/-- The text of a line that ended with a line feed, given with its characters in reverse order. -/
def closeLine : List Char → List Char
  | '\r' :: rest => rest.reverse
  | rest => rest.reverse

/-- The lines so far, last one first, and the characters of the current one, last one first. -/
def pushChar : List (List Char) × List Char → Char → List (List Char) × List Char
  | (done, current), c => if c = '\n' then (closeLine current :: done, []) else (done, c :: current)

def lineChars (cs : List Char) : List (List Char) :=
  match cs.foldl pushChar ([], []) with
  | (done, []) => done.reverse
  | (done, current) => (current.reverse :: done).reverse

def lines (s : String) : List String := (lineChars s.toList).map String.ofList

/-! ## No lines -/

theorem pushChar_ne_start (st : List (List Char) × List Char) (c : Char) : pushChar st c ≠ ([], []) := by
  obtain ⟨done, current⟩ := st
  by_cases hc : c = '\n'
  · simp [pushChar, hc]
  · simp [pushChar, hc]

theorem lineChars_eq_nil_iff (cs : List Char) : lineChars cs = [] ↔ cs = [] := by
  constructor
  · intro h
    rcases List.eq_nil_or_concat cs with rfl | ⟨front, c, rfl⟩
    · rfl
    · -- what the last character leaves is a line that ended or the beginning of one
      have hp := pushChar_ne_start (front.foldl pushChar ([], [])) c
      rw [lineChars, List.concat_eq_append, List.foldl_append, List.foldl_cons, List.foldl_nil] at h
      rcases he : pushChar (front.foldl pushChar ([], [])) c with ⟨done, _ | ⟨d, current⟩⟩
      · rw [he] at h hp
        exact absurd (by rw [List.reverse_eq_nil_iff.mp h]) hp
      · rw [he] at h
        exact absurd (List.reverse_eq_nil_iff.mp h) (List.cons_ne_nil _ _)
  · rintro rfl
    rfl

theorem lines_eq_nil_iff (s : String) : lines s = [] ↔ s = "" := by
  rw [lines, List.map_eq_nil_iff, lineChars_eq_nil_iff, String.toList_eq_nil_iff]

end DesktopRefresh.Text
