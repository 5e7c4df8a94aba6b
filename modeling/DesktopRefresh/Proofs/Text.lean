import DesktopRefresh.Text.Blank
import DesktopRefresh.Text.Line
import Mathlib.Data.List.Basic
import Mathlib.Data.List.TakeWhile

/-!
# What is kept of a text

Put down one below the other, the lines of a text give the text again, but with one kind of line end and with an
end behind the last line. No other lines do (`lines_eq_iff`), so none is dropped and none is invented. And a text
without the white space at its ends is what is left between the two (`trim_eq_iff`).
-/

namespace DesktopRefresh.Text

/-! ## One kind of line end -/

/-- Every carriage return with a line feed behind it becomes a line feed. -/
def unifyEnds : List Char → List Char
  | '\r' :: '\n' :: rest => '\n' :: unifyEnds rest
  | c :: rest => c :: unifyEnds rest
  | [] => []

/-- The last line is ended too, if it is not. -/
def endLast (cs : List Char) : List Char := if cs = [] ∨ cs.getLast? = some '\n' then cs else cs ++ ['\n']

/-- The lines one below the other. -/
def stack (ls : List String) : List Char := ls.flatMap fun l => l.toList ++ ['\n']

theorem unifyEnds_cons {c : Char} {rest : List Char} (h : c ≠ '\r' ∨ rest.head? ≠ some '\n') :
    unifyEnds (c :: rest) = c :: unifyEnds rest := by
  rw [unifyEnds]
  rintro more rfl rfl
  rcases h with h | h
  · exact h rfl
  · exact h rfl

theorem unifyEnds_append {front : List Char} (hf : '\n' ∉ front) {rest : List Char}
    (hr : rest.head? ≠ some '\n') : unifyEnds (front ++ rest) = front ++ unifyEnds rest := by
  induction front with
  | nil => rfl
  | cons c front ih =>
    rw [List.mem_cons, not_or] at hf
    rw [List.cons_append, unifyEnds_cons, ih hf.2, List.cons_append]
    right
    cases front with
    | nil => exact hr
    | cons d front =>
      intro hd
      cases hd
      exact hf.2 (List.mem_cons_self ..)

theorem unifyEnds_of_not_mem {cs : List Char} (h : '\n' ∉ cs) : unifyEnds cs = cs := by
  have hnil : ([] : List Char).head? ≠ some '\n' := by simp
  have := unifyEnds_append h hnil
  rwa [List.append_nil, unifyEnds, List.append_nil] at this

/-- `current` is a line in reverse order, as it stands when its line feed comes. -/
theorem unifyEnds_closeLine {current : List Char} (h : '\n' ∉ current) (rest : List Char) :
    unifyEnds (current.reverse ++ '\n' :: rest) = closeLine current ++ '\n' :: unifyEnds rest := by
  have hfeed : unifyEnds ('\n' :: rest) = '\n' :: unifyEnds rest := unifyEnds_cons (.inl (by decide))
  cases current with
  | nil => exact hfeed
  | cons c current =>
    rw [List.mem_cons, not_or] at h
    have hc : '\n' ∉ current.reverse := by simpa using h.2
    rw [List.reverse_cons, List.append_assoc, List.singleton_append]
    by_cases hr : c = '\r'
    · subst hr
      rw [unifyEnds_append hc (by simp), unifyEnds, closeLine]
    · have hne : (c :: '\n' :: rest).head? ≠ some '\n' := fun hd => h.1 (Option.some.inj hd).symm
      rw [unifyEnds_append hc hne, unifyEnds_cons (.inl hr), hfeed, closeLine]
      · simp
      · rintro more hm
        exact hr (List.cons.inj hm).1

theorem endLast_append (front rest : List Char) :
    endLast (front ++ '\n' :: rest) = front ++ '\n' :: endLast rest := by
  cases rest with
  | nil => simp [endLast]
  | cons c rest =>
    have hl : (front ++ '\n' :: c :: rest).getLast? = (c :: rest).getLast? := by
      rw [List.getLast?_append_cons, List.getLast?_cons_cons]
    unfold endLast
    rw [hl]
    by_cases hn : (c :: rest).getLast? = some '\n'
    · simp [hn]
    · simp [hn]

theorem endLast_of_not_mem {cs : List Char} (hn : cs ≠ []) (h : '\n' ∉ cs) : endLast cs = cs ++ ['\n'] := by
  refine if_neg fun ho => ?_
  rcases ho with ho | ho
  · exact hn ho
  · exact h (List.mem_of_getLast? ho)

/-! ## What the reader keeps -/

theorem newline_not_mem_closeLine {current : List Char} (h : '\n' ∉ current) : '\n' ∉ closeLine current := by
  unfold closeLine
  split
  · rw [List.mem_cons, not_or] at h
    simpa using h.2
  · simpa using h

/-- The lines that are made of the characters still to come, the current one first. -/
def linesFrom (st : List (List Char) × List Char) (cs : List Char) : List (List Char) :=
  match cs.foldl pushChar st with
  | (done, []) => done.reverse
  | (done, current) => (current.reverse :: done).reverse

theorem linesFrom_feed (done : List (List Char)) (current cs : List Char) :
    linesFrom (done, current) ('\n' :: cs) = linesFrom (closeLine current :: done, []) cs := rfl

theorem linesFrom_char (done : List (List Char)) (current : List Char) {c : Char} (hc : c ≠ '\n')
    (cs : List Char) : linesFrom (done, current) (c :: cs) = linesFrom (done, c :: current) cs := by
  rw [linesFrom, List.foldl_cons, pushChar, if_neg hc]
  rfl

theorem linesFrom_spec (cs : List Char) (done : List (List Char)) (current : List Char)
    (hd : ∀ l ∈ done, '\n' ∉ l) (hc : '\n' ∉ current) :
    (∀ l ∈ linesFrom (done, current) cs, '\n' ∉ l) ∧
      (linesFrom (done, current) cs).flatMap (· ++ ['\n']) =
        done.reverse.flatMap (· ++ ['\n']) ++ endLast (unifyEnds (current.reverse ++ cs)) := by
  induction cs generalizing done current with
  | nil =>
    have hr : '\n' ∉ current.reverse := by simpa using hc
    rw [List.append_nil, unifyEnds_of_not_mem hr]
    cases current with
    | nil => exact ⟨by simpa [linesFrom] using hd, by simp [linesFrom, endLast]⟩
    | cons c current =>
      rw [endLast_of_not_mem (by simp) hr]
      refine ⟨fun l hl => ?_, by simp [linesFrom]⟩
      obtain hl | rfl : l ∈ done ∨ l = (c :: current).reverse := by simpa [linesFrom] using hl
      · exact hd l hl
      · exact hr
  | cons c cs ih =>
    by_cases hn : c = '\n'
    · subst hn
      have hl := newline_not_mem_closeLine hc
      obtain ⟨hu, hs⟩ := ih (closeLine current :: done) [] (List.forall_mem_cons.mpr ⟨hl, hd⟩) (by simp)
      rw [linesFrom_feed, unifyEnds_closeLine hc, endLast_append]
      refine ⟨hu, ?_⟩
      rw [hs]
      simp
    · rw [linesFrom_char done current hn]
      obtain ⟨hu, hs⟩ := ih done (c :: current) hd (by simp [hc, Ne.symm hn])
      refine ⟨hu, ?_⟩
      rw [hs, List.reverse_cons, List.append_assoc]
      rfl

/-! ## The lines of a text -/

/-- The lines hold no line feed, and one below the other they are the text with its ends unified. -/
structure AreLines (s : String) (ls : List String) : Prop where
  unbroken : ∀ l ∈ ls, '\n' ∉ l.toList
  stacked : stack ls = endLast (unifyEnds s.toList)

theorem areLines_lines (s : String) : AreLines s (lines s) := by
  obtain ⟨hu, hs⟩ := linesFrom_spec s.toList [] [] (by simp) (by simp)
  have hl : lineChars s.toList = linesFrom ([], []) s.toList := rfl
  rw [← hl] at hu hs
  constructor
  · intro l hm
    obtain ⟨cs, hcs, rfl⟩ := List.mem_map.mp hm
    rw [String.toList_ofList]
    exact hu cs hcs
  · rw [stack, lines, List.flatMap_map]
    simpa using hs

theorem takeWhile_line {front : List Char} (h : '\n' ∉ front) (rest : List Char) :
    (front ++ '\n' :: rest).takeWhile (· != '\n') = front := by
  have hf : ∀ c ∈ front, (c != '\n') = true := by
    intro c hc
    rw [bne_iff_ne]
    rintro rfl
    exact h hc
  rw [List.takeWhile_append_of_pos hf]
  simp

theorem stack_inj {ls ls' : List String} (h : ∀ l ∈ ls, '\n' ∉ l.toList) (h' : ∀ l ∈ ls', '\n' ∉ l.toList)
    (heq : stack ls = stack ls') : ls = ls' := by
  induction ls generalizing ls' with
  | nil =>
    cases ls' with
    | nil => rfl
    | cons l' ls' => simp [stack] at heq
  | cons l ls ih =>
    cases ls' with
    | nil => simp [stack] at heq
    | cons l' ls' =>
      rw [List.forall_mem_cons] at h h'
      have hcut : l.toList ++ '\n' :: stack ls = l'.toList ++ '\n' :: stack ls' := by
        simpa [stack] using heq
      have hl := congrArg (List.takeWhile (· != '\n')) hcut
      rw [takeWhile_line h.1, takeWhile_line h'.1] at hl
      obtain rfl := String.toList_injective hl
      rw [ih h.2 h'.2 (List.cons.inj (List.append_cancel_left hcut)).2]

/-- These are the lines of a text, and no others. -/
theorem lines_eq_iff (s : String) (ls : List String) : lines s = ls ↔ AreLines s ls := by
  constructor
  · rintro rfl
    exact areLines_lines s
  · intro h
    have hl := areLines_lines s
    exact stack_inj hl.unbroken h.unbroken (hl.stacked.trans h.stacked.symm)

/-! ## White space at the ends -/

theorem dropWhile_append_of_head {p : Char → Bool} {front rest : List Char} (hf : ∀ c ∈ front, p c = true)
    (hr : ∀ c, rest.head? = some c → p c = false) : (front ++ rest).dropWhile p = rest := by
  rw [List.dropWhile_append_of_pos hf]
  cases rest with
  | nil => rfl
  | cons c rest => rw [List.dropWhile_cons_of_neg (by simp [hr c rfl])]

/-- `t` is what is left of `s` without the white space at both ends. -/
structure IsTrimmed (s t : String) : Prop where
  split : ∃ front back, s.toList = front ++ t.toList ++ back ∧ ∀ c ∈ front ++ back, isBlank c = true
  first : ∀ c, t.toList.head? = some c → isBlank c = false
  last : ∀ c, t.toList.getLast? = some c → isBlank c = false

theorem isTrimmed_trim (s : String) : IsTrimmed s (trim s) := by
  have ht : (trim s).toList = trimChars s.toList := String.toList_ofList
  have hcut := List.takeWhile_append_dropWhile (p := isBlank) (l := s.toList)
  have hcut' := List.takeWhile_append_dropWhile (p := isBlank) (l := (s.toList.dropWhile isBlank).reverse)
  have hrest : s.toList.dropWhile isBlank = trimChars s.toList ++
      ((s.toList.dropWhile isBlank).reverse.takeWhile isBlank).reverse := by
    rw [trimChars, ← List.reverse_append, hcut', List.reverse_reverse]
  constructor
  · refine ⟨s.toList.takeWhile isBlank, ((s.toList.dropWhile isBlank).reverse.takeWhile isBlank).reverse, ?_, ?_⟩
    · rw [ht, List.append_assoc, ← hrest, hcut]
    · intro c hc
      rcases List.mem_append.mp hc with hc | hc
      · exact List.mem_takeWhile_imp hc
      · exact List.mem_takeWhile_imp (List.mem_reverse.mp hc)
  · intro c hc
    rw [ht] at hc
    have hd := List.head?_dropWhile_not isBlank s.toList
    rw [hrest, List.head?_append, hc] at hd
    simpa using hd
  · intro c hc
    rw [ht, trimChars, List.getLast?_reverse] at hc
    have hd := List.head?_dropWhile_not isBlank (s.toList.dropWhile isBlank).reverse
    rw [hc] at hd
    simpa using hd

theorem trim_eq_iff (s t : String) : trim s = t ↔ IsTrimmed s t := by
  constructor
  · rintro rfl
    exact isTrimmed_trim s
  · rintro ⟨⟨front, back, hs, hb⟩, hfirst, hlast⟩
    have hf : ∀ c ∈ front, isBlank c = true := fun c hc => hb c (List.mem_append_left _ hc)
    have hk : ∀ c ∈ back.reverse, isBlank c = true := fun c hc =>
      hb c (List.mem_append_right _ (List.mem_reverse.mp hc))
    have hlead : s.toList.dropWhile isBlank = t.toList ++ back ∨
        t.toList = [] ∧ s.toList.dropWhile isBlank = [] := by
      rw [hs, List.append_assoc]
      cases ht : t.toList with
      | nil =>
        right
        exact ⟨rfl, by simpa using hb⟩
      | cons c cs =>
        left
        refine dropWhile_append_of_head hf fun d hd => hfirst d ?_
        rw [ht]
        exact hd
    have hlast' : ∀ c, t.toList.reverse.head? = some c → isBlank c = false := fun c hc =>
      hlast c (by rwa [List.head?_reverse] at hc)
    have : trimChars s.toList = t.toList := by
      rw [trimChars]
      rcases hlead with h | ⟨ht, h⟩
      · rw [h, List.reverse_append, dropWhile_append_of_head hk hlast', List.reverse_reverse]
      · rw [h, ht]
        rfl
    rw [trim, this, String.ofList_toList]

end DesktopRefresh.Text
