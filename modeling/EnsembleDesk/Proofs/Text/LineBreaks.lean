import EnsembleDesk.Text.Lines
import Mathlib.Data.List.TakeDrop
import Mathlib.Data.List.TakeWhile
/-!
# Texts that follow one another

A text has no line feed, or it is a line, a line feed and a text again (`lines_induction`). From
this it follows that lines hold no line feeds, and that the lines of a text that ends with a line
are followed by those of what comes after the text (`linesOf_append`).
-/

namespace EnsembleDesk

variable {line text rest : List Char}

theorem bne_of_mem_line (h : '\n' ∉ line) : ∀ c ∈ line, (c != '\n') = true :=
  fun _ hc => bne_iff_ne.2 (ne_of_mem_of_not_mem hc h)

/-- The empty text has no lines. -/
@[simp]
theorem linesOf_nil : linesOf [] = [] := by
  rw [linesOf, List.isEmpty_nil, if_pos rfl]

/-- A text without line feeds is one line. -/
theorem linesOf_of_line (hne : line ≠ []) (h : '\n' ∉ line) : linesOf line = [line] := by
  have hbreak : afterBreak line = none := by
    rw [afterBreak, List.dropWhile_eq_nil_iff.2 (bne_of_mem_line h)]
  rw [linesOf, if_neg (by simpa using hne), List.takeWhile_eq_self_iff.2 (bne_of_mem_line h)]
  split
  · rfl
  · rename_i hrest
    cases hbreak.symm.trans hrest

/-- A line that a line feed ends is the first one. -/
theorem linesOf_of_break (h : '\n' ∉ line) (rest : List Char) :
    linesOf (line ++ '\n' :: rest) = dropReturn line :: linesOf rest := by
  have hbreak : afterBreak (line ++ '\n' :: rest) = some rest := by
    rw [afterBreak, List.dropWhile_append_of_pos (bne_of_mem_line h)]
    rfl
  have hline : (line ++ '\n' :: rest).takeWhile (· != '\n') = line := by
    rw [List.takeWhile_append_of_pos (bne_of_mem_line h)]
    exact List.append_nil line
  rw [linesOf, if_neg (by simp), hline]
  split
  · rename_i hnone
    cases hbreak.symm.trans hnone
  · rename_i hrest
    cases hbreak.symm.trans hrest
    rfl

/-- What holds of texts without line feeds, and of a text in front of which a line is put, holds of
all texts. -/
theorem lines_induction {motive : List Char → Prop} (hline : ∀ line, '\n' ∉ line → motive line)
    (hbreak : ∀ line rest, '\n' ∉ line → motive rest → motive (line ++ '\n' :: rest))
    (text : List Char) : motive text := by
  by_cases h : '\n' ∈ text
  · obtain ⟨line, rest, rfl, hmem⟩ := List.eq_append_cons_of_mem h
    exact hbreak line rest hmem (lines_induction hline hbreak rest)
  · exact hline text h
termination_by text.length
decreasing_by
  subst_vars
  simp only [List.length_append, List.length_cons]
  omega

/-- The lines of a text that ends with a line, or is empty, are followed by those of what comes
after it. -/
theorem linesOf_append (h : text = [] ∨ text.getLast? = some '\n') (rest : List Char) :
    linesOf (text ++ rest) = linesOf text ++ linesOf rest := by
  induction text using lines_induction with
  | hline line hline =>
    have hempty : line = [] := h.resolve_right fun hlast => hline (List.mem_of_getLast? hlast)
    rw [hempty, List.nil_append, linesOf_nil, List.nil_append]
  | hbreak line behind hline ih =>
    have hbehind : behind = [] ∨ behind.getLast? = some '\n' := by
      have hlast := h.resolve_left (by simp)
      rw [List.getLast?_append, List.getLast?_cons, Option.some_or] at hlast
      cases hbehind : behind.getLast? with
      | none => exact .inl (List.getLast?_eq_none_iff.1 hbehind)
      | some c => exact .inr (by rwa [hbehind] at hlast)
    rw [List.append_assoc, List.cons_append, linesOf_of_break hline, linesOf_of_break hline,
      ih hbehind, List.cons_append]

/-- Lines hold no line feeds. -/
theorem not_mem_of_mem_linesOf (h : line ∈ linesOf text) : '\n' ∉ line := by
  induction text using lines_induction with
  | hline other hother =>
    by_cases hne : other = []
    · rw [hne, linesOf_nil] at h
      cases h
    · rw [linesOf_of_line hne hother] at h
      exact List.mem_singleton.1 h ▸ hother
  | hbreak other rest hother ih =>
    rw [linesOf_of_break hother] at h
    rcases List.mem_cons.1 h with rfl | h
    · rw [dropReturn]
      split
      · exact fun hmem => hother (List.dropLast_subset _ hmem)
      · exact hother
    · exact ih h

end EnsembleDesk
