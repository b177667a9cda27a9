import EnsembleDesk.Line.Word
import EnsembleDesk.Proofs.Text.Digits
import EnsembleDesk.Text.Lines
import Mathlib.Data.List.TakeWhile
/-!
# Words of a line

The words of a line follow from what it begins with: blanks belong to no word
(`wordsOf_append_of_blank`), and a line that begins with another character begins with a word
(`wordsOf_cons`). `wordSpans` gives the words with the columns in which they begin, and
`words_induction` is induction on the words of a text.
-/

namespace EnsembleDesk

/-- The words of a line do not depend on the blanks in front of it. -/
theorem wordsOf_of_dropWhile {line rest : List Char}
    (h : line.dropWhile isBlank = rest.dropWhile isBlank) : wordsOf line = wordsOf rest := by
  rw [wordsOf, wordsOf, h]

/-- Blanks in front of a line belong to no word. -/
theorem wordsOf_append_of_blank {blanks : List Char} (h : ∀ c ∈ blanks, isBlank c = true)
    (rest : List Char) : wordsOf (blanks ++ rest) = wordsOf rest :=
  wordsOf_of_dropWhile (List.dropWhile_append_of_pos h)

/-- A line that does not begin with a blank begins with a word. -/
theorem wordsOf_cons {c : Char} (h : isBlank c = false) (rest : List Char) :
    wordsOf (c :: rest) =
      (c :: rest).takeWhile (!isBlank ·) :: wordsOf ((c :: rest).dropWhile (!isBlank ·)) := by
  have hdrop : (c :: rest).dropWhile isBlank = c :: rest :=
    List.dropWhile_cons_of_neg (by simp [h])
  have hword : (c :: rest).dropWhile (!isBlank ·) = rest.dropWhile (!isBlank ·) :=
    List.dropWhile_cons_of_pos (by simp [h])
  rw [wordsOf, hword]
  split
  · rename_i hnil
    rw [hdrop] at hnil
    cases hnil
  · rename_i hcons
    rw [hdrop] at hcons
    cases hcons
    rfl

/-- A blank line has no words. -/
theorem wordsOf_of_allBlank {line : List Char} (h : allBlank line = true) : wordsOf line = [] := by
  have := wordsOf_append_of_blank (List.all_eq_true.1 h) []
  rw [List.append_nil] at this
  rw [this, wordsOf]
  rfl

/-! ### Words and their columns -/

/-- The words of a text whose first character stands in a column. -/
def wordSpans (column : Nat) (text : List Char) : List WordSpan :=
  match _h : text.dropWhile isBlank with
  | [] => []
  | c :: rest =>
    let start := column + (text.takeWhile isBlank).length
    let word := (c :: rest).takeWhile (!isBlank ·)
    ⟨word, start⟩ :: wordSpans (start + word.length) (rest.dropWhile (!isBlank ·))
termination_by text.length
decreasing_by
  have hdrop : (text.dropWhile isBlank).length ≤ text.length := (List.dropWhile_sublist _).length_le
  have hrest : (rest.dropWhile (!isBlank ·)).length ≤ rest.length :=
    (List.dropWhile_sublist _).length_le
  rw [‹text.dropWhile isBlank = _›, List.length_cons] at hdrop
  omega

section Words

variable {column : Nat} {text word rest : List Char}

/-- A blank text has no words. -/
theorem wordSpans_of_blank (h : text.dropWhile isBlank = []) : wordSpans column text = [] := by
  rw [wordSpans]
  split
  · rfl
  · rename_i hcons
    rw [h] at hcons
    cases hcons

/-- The first word of a text and those behind it. -/
theorem wordSpans_of_word (h : text.dropWhile isBlank = word ++ rest) (hne : word ≠ [])
    (hword : ∀ c ∈ word, isBlank c = false) (hrest : StartsWithout (!isBlank ·) rest) :
    wordSpans column text =
      ⟨word, column + (text.takeWhile isBlank).length⟩ ::
        wordSpans (column + (text.takeWhile isBlank).length + word.length) rest := by
  have hword' : ∀ c ∈ word, (!isBlank c) = true := fun c hc => by rw [hword c hc]; rfl
  have htake := takeWhile_run hword' hrest
  have hdrop := dropWhile_run hword' hrest
  obtain ⟨c, word, rfl⟩ := List.exists_cons_of_ne_nil hne
  rw [List.cons_append] at h htake hdrop
  rw [List.dropWhile_cons_of_pos (p := (!isBlank ·)) (hword' c List.mem_cons_self)] at hdrop
  rw [wordSpans]
  split
  · rename_i hnil
    rw [h] at hnil
    cases hnil
  · rename_i hcons
    rw [h] at hcons
    cases hcons
    rw [htake, hdrop]

/-- What holds of texts without words, and of a text if it holds of what stands behind its first
word, holds of every text. -/
theorem words_induction {P : Nat → List Char → Prop}
    (hblank : ∀ column text, text.dropWhile isBlank = [] → P column text)
    (hword : ∀ column text word rest, text.dropWhile isBlank = word ++ rest → word ≠ [] →
      (∀ c ∈ word, isBlank c = false) → StartsWithout (!isBlank ·) rest →
      P (column + (text.takeWhile isBlank).length + word.length) rest → P column text)
    (column : Nat) (text : List Char) : P column text := by
  induction column, text using wordSpans.induct with
  | case1 column text h => exact hblank column text h
  | case2 column text c rest h start word ih =>
    have hc : isBlank c = false := by
      have := List.head?_dropWhile_not isBlank text
      simpa [h] using this
    have hdrop : (c :: rest).dropWhile (!isBlank ·) = rest.dropWhile (!isBlank ·) :=
      List.dropWhile_cons_of_pos (by simp [hc])
    rw [← hdrop] at ih
    refine hword column text word _ (h.trans List.takeWhile_append_dropWhile.symm) ?_ ?_ ?_ ih
    · simp [word, hc]
    · exact fun d hd => by simpa using List.mem_takeWhile_imp hd
    · exact .of_dropWhile (!isBlank ·) (c :: rest)

/-- They are the words of the text. -/
theorem map_text_wordSpans (column : Nat) (text : List Char) :
    (wordSpans column text).map WordSpan.text = wordsOf text := by
  induction column, text using words_induction with
  | hblank column text hblank =>
    rw [wordSpans_of_blank hblank, wordsOf_of_allBlank, List.map_nil]
    rw [allBlank, List.all_eq_true]
    exact List.dropWhile_eq_nil_iff.1 hblank
  | hword column text word rest hdrop hne hword hrest ih =>
    have hword' : ∀ c ∈ word, (!isBlank c) = true := fun c hc => by rw [hword c hc]; rfl
    have htext : wordsOf text = wordsOf (word ++ rest) := by
      rw [← hdrop, ← wordsOf_append_of_blank (fun _ => List.mem_takeWhile_imp) (text.dropWhile _),
        List.takeWhile_append_dropWhile]
    rw [wordSpans_of_word hdrop hne hword hrest, List.map_cons, ih, htext]
    obtain ⟨c, word, rfl⟩ := List.exists_cons_of_ne_nil hne
    rw [List.cons_append, wordsOf_cons (hword c List.mem_cons_self), ← List.cons_append,
      takeWhile_run hword' hrest, dropWhile_run hword' hrest]

/-- The first word of a text is the longest one behind its leading blanks, and the other words are
those of what follows. -/
theorem exists_rest_of_wordSpans {first : WordSpan} {words : List WordSpan}
    (h : wordSpans column text = first :: words) :
    ∃ rest, text.dropWhile isBlank = first.text ++ rest ∧ first.text ≠ [] ∧
      (∀ c ∈ first.text, isBlank c = false) ∧ StartsWithout (!isBlank ·) rest ∧
      first.start = column + (text.takeWhile isBlank).length ∧
      words = wordSpans (first.start + first.text.length) rest := by
  induction column, text using words_induction with
  | hblank column text hblank =>
    rw [wordSpans_of_blank hblank] at h
    cases h
  | hword column text word rest hdrop hne hword hrest _ =>
    rw [wordSpans_of_word hdrop hne hword hrest] at h
    cases h
    exact ⟨rest, hdrop, hne, hword, hrest, rfl, rfl⟩

/-- Behind the end of a word, the next word begins in a later column. -/
theorem lt_start_of_mem_head? (h : StartsWithout (!isBlank ·) text) :
    ∀ next ∈ (wordSpans column text).head?, column < next.start := by
  induction column, text using words_induction with
  | hblank column text hblank =>
    simp [wordSpans_of_blank hblank]
  | hword column text word rest hdrop hne hword hrest _ =>
    rw [wordSpans_of_word hdrop hne hword hrest]
    rintro next ⟨⟩
    cases text with
    | nil => exact absurd (List.append_eq_nil_iff.1 hdrop.symm).1 hne
    | cons c text =>
      rw [List.takeWhile_cons_of_pos (by simpa using h.head), List.length_cons]
      exact Nat.lt_add_of_pos_right (Nat.succ_pos _)

end Words

end EnsembleDesk
