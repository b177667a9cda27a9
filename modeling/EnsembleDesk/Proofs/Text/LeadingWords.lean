import EnsembleDesk.Proofs.Grammar.WordModes
import EnsembleDesk.Proofs.Text.Tabbed
/-!
# The word that leads a line

A line is led by its first word, unless a comment begins there (`leadingWord?`). A text that may
have line feeds is led by the first word that leads one of its lines (`firstLeading?`). What leads a
text follows from what the text begins with: blanks are passed over (`firstLeading?_of_blanks`), a
comment up to the next line feed (`firstLeading?_of_comment`), and any other word leads the text
(`firstLeading?_of_word`).
-/

namespace EnsembleDesk

/-- The first word of a line whose first character stands in a column, unless a comment begins with
it. -/
def leadingWord? (column : Nat) (line : List Char) : Option WordSpan :=
  (wordSpans column line).head?.filter fun word => !startsWith word.text ['-', '-']

/-- The first word that leads one of some lines. The lines follow one another with one character
between them, and the first of them begins in a column. -/
def firstLeading? : Nat → List (List Char) → Option WordSpan
  | _, [] => none
  | column, line :: lines =>
    (leadingWord? column line).or (firstLeading? (column + line.length + 1) lines)

/-! ### One line -/

section Line

variable {column : Nat} {line word rest : List Char} {c : Char}

/-- The word that leads a line is the first of the words before the comment. -/
theorem map_text_leadingWord? (column : Nat) (line : List Char) :
    (leadingWord? column line).map WordSpan.text = (contentWords line).head? := by
  rw [leadingWord?, contentWords, List.head?_takeWhile, ← map_text_wordSpans column, List.head?_map,
    Option.filter_map]
  rfl

/-- A blank in front of a line moves its words by one column. -/
theorem wordSpans_cons_of_blank (hc : isBlank c = true) (column : Nat) (line : List Char) :
    wordSpans column (c :: line) = wordSpans (column + 1) line := by
  have hdropped : ∀ line : List Char, (c :: line).dropWhile isBlank = line.dropWhile isBlank :=
    fun _ => List.dropWhile_cons_of_pos hc
  generalize hnext : column + 1 = next
  induction next, line using words_induction with
  | hblank next line hblank =>
    rw [wordSpans_of_blank hblank, wordSpans_of_blank ((hdropped line).trans hblank)]
  | hword next line word rest hdrop hne hword hrest _ =>
    have hpassed : column + ((c :: line).takeWhile isBlank).length =
        next + (line.takeWhile isBlank).length := by
      rw [List.takeWhile_cons_of_pos hc, List.length_cons]
      omega
    rw [wordSpans_of_word hdrop hne hword hrest,
      wordSpans_of_word ((hdropped line).trans hdrop) hne hword hrest, hpassed]

/-- A blank in front of a line moves its leading word by one column. -/
theorem leadingWord?_cons_of_blank (hc : isBlank c = true) (column : Nat) (line : List Char) :
    leadingWord? column (c :: line) = leadingWord? (column + 1) line := by
  rw [leadingWord?, wordSpans_cons_of_blank hc, leadingWord?]

/-- No word leads a line that begins with a comment. -/
theorem leadingWord?_of_comment (h : startsWith line ['-', '-'] = true) (column : Nat) :
    leadingWord? column line = none := by
  have hwords := map_text_leadingWord? column line
  rw [contentWords_of_comment h] at hwords
  exact Option.map_eq_none_iff.1 hwords

/-- The word that a line begins with leads it, unless it begins a comment. -/
theorem leadingWord?_of_word (hne : word ≠ []) (hword : ∀ c ∈ word, isBlank c = false)
    (hrest : StartsWithout (!isBlank ·) rest) (hcomment : startsWith word ['-', '-'] = false)
    (column : Nat) : leadingWord? column (word ++ rest) = some ⟨word, column⟩ := by
  have hblanks : StartsWithout isBlank (word ++ rest) := by
    obtain ⟨c, more, rfl⟩ := List.exists_cons_of_ne_nil hne
    exact .cons (hword c List.mem_cons_self) _
  rw [leadingWord?, wordSpans_of_word (dropWhile_of_startsWithout hblanks) hne hword hrest,
    takeWhile_of_startsWithout hblanks, List.head?_cons, Option.filter_some,
    if_pos (by rw [hcomment]; rfl)]
  rfl

end Line

/-! ### Lines that are cut at line feeds -/

section Lines

variable {line rest piece : List Char} {pieces : List (List Char)}

/-- What stands before the first separator is the first piece. -/
theorem splitAtChar_append {separator : Char} (hline : separator ∉ line)
    (h : splitAtChar separator rest = piece :: pieces) :
    splitAtChar separator (line ++ rest) = (line ++ piece) :: pieces := by
  induction line with
  | nil => exact h
  | cons c line ih =>
    rw [List.mem_cons, not_or] at hline
    rw [List.cons_append, splitAtChar, if_neg (Ne.symm hline.1), ih hline.2]
    rfl

/-- A line without the separator is not split. -/
theorem splitAtChar_of_not_mem {separator : Char} (hline : separator ∉ line) :
    splitAtChar separator line = [line] := by
  have hrest : splitAtChar separator [] = [[]] := rfl
  simpa using splitAtChar_append hline hrest

/-- The first piece is a beginning of the text. -/
theorem prefix_of_splitAtChar {separator : Char}
    (h : splitAtChar separator rest = piece :: pieces) : piece <+: rest := by
  induction rest generalizing piece pieces with
  | nil => simp_all [splitAtChar]
  | cons c rest ih =>
    obtain ⟨next, others, hnext⟩ := List.exists_cons_of_ne_nil (splitAtChar_ne_nil separator rest)
    rw [splitAtChar, hnext] at h
    split at h
    · exact (List.cons_eq_cons.1 h).1 ▸ List.nil_prefix
    · rw [← (List.cons_eq_cons.1 h).1]
      exact (List.prefix_cons_inj c).2 (ih hnext)

/-- A blank in front of some lines, a line end among them, moves what leads them by one column. -/
theorem firstLeading?_of_blank {c : Char} (hc : isBlank c = true) (column : Nat)
    (rest : List Char) :
    firstLeading? column (splitAtChar '\n' (c :: rest)) =
      firstLeading? (column + 1) (splitAtChar '\n' rest) := by
  obtain ⟨piece, pieces, hpieces⟩ := List.exists_cons_of_ne_nil (splitAtChar_ne_nil '\n' rest)
  rw [splitAtChar, hpieces]
  split
  · rw [firstLeading?, leadingWord?, wordSpans_of_blank rfl]
    rfl
  · rw [firstLeading?, firstLeading?, leadingWord?_cons_of_blank hc, List.length_cons,
      Nat.add_right_comm column 1, ← Nat.add_assoc]

/-- A text without line feeds is one line. -/
theorem firstLeading?_of_line (hline : '\n' ∉ line) (column : Nat) :
    firstLeading? column (splitAtChar '\n' line) = leadingWord? column line := by
  rw [splitAtChar_of_not_mem hline, firstLeading?, firstLeading?, Option.or_none]

/-- No word leads an empty text. -/
theorem firstLeading?_nil (column : Nat) : firstLeading? column (splitAtChar '\n' []) = none := by
  rw [splitAtChar, firstLeading?, leadingWord?, wordSpans_of_blank rfl]
  rfl

/-- Blanks are passed over. -/
theorem firstLeading?_of_blanks {blanks : List Char} (h : ∀ c ∈ blanks, isBlank c = true)
    (column : Nat) (rest : List Char) :
    firstLeading? column (splitAtChar '\n' (blanks ++ rest)) =
      firstLeading? (column + blanks.length) (splitAtChar '\n' rest) := by
  induction blanks generalizing column with
  | nil => rfl
  | cons c blanks ih =>
    obtain ⟨hc, hblanks⟩ := List.forall_mem_cons.1 h
    rw [List.cons_append, firstLeading?_of_blank hc, ih hblanks, List.length_cons, Nat.add_assoc,
      Nat.add_comm 1]

/-- A comment is passed over, up to the next line feed. -/
theorem firstLeading?_of_comment (h : startsWith rest ['-', '-'] = true) (column : Nat) :
    firstLeading? column (splitAtChar '\n' rest) =
      firstLeading? (column + (rest.takeWhile (· != '\n')).length)
        (splitAtChar '\n' (rest.dropWhile (· != '\n'))) := by
  obtain ⟨text, rfl⟩ := List.isPrefixOf_iff_prefix.1 h
  set comment := (['-', '-'] ++ text).takeWhile (· != '\n') with hcomment
  set behind := (['-', '-'] ++ text).dropWhile (· != '\n') with hbehind
  have hline : '\n' ∉ comment := fun hmem => by simpa using List.mem_takeWhile_imp hmem
  have hstarts : startsWith comment ['-', '-'] = true := rfl
  -- a line feed follows the comment, or nothing
  obtain ⟨pieces, hpieces⟩ : ∃ pieces, splitAtChar '\n' behind = [] :: pieces := by
    cases hrest : behind with
    | nil => exact ⟨[], rfl⟩
    | cons c rest =>
      have hc : c = '\n' := by
        have := List.head?_dropWhile_not (· != '\n') (['-', '-'] ++ text)
        rw [← hbehind, hrest] at this
        simpa using this
      rw [splitAtChar, if_pos hc]
      exact ⟨_, rfl⟩
  rw [← List.takeWhile_append_dropWhile (p := (· != '\n')) (l := ['-', '-'] ++ text), ← hcomment,
    ← hbehind, splitAtChar_append hline hpieces, hpieces, List.append_nil, firstLeading?,
    firstLeading?, leadingWord?_of_comment hstarts, leadingWord?, wordSpans_of_blank rfl]
  rfl

/-- Any other word leads the text. -/
theorem firstLeading?_of_word {c : Char} (hc : isBlank c = false)
    (hcomment : startsWith (c :: rest) ['-', '-'] = false) (column : Nat) :
    firstLeading? column (splitAtChar '\n' (c :: rest)) =
      some ⟨(c :: rest).takeWhile (!isBlank ·), column⟩ := by
  have hne : (c :: rest).takeWhile (!isBlank ·) ≠ [] := by simp [hc]
  have hword : ∀ d ∈ (c :: rest).takeWhile (!isBlank ·), isBlank d = false := fun d hd => by
    simpa using List.mem_takeWhile_imp hd
  have hbehind : StartsWithout (!isBlank ·) ((c :: rest).dropWhile (!isBlank ·)) :=
    .of_dropWhile _ _
  obtain ⟨piece, pieces, hpieces⟩ := List.exists_cons_of_ne_nil
    (splitAtChar_ne_nil '\n' ((c :: rest).dropWhile (!isBlank ·)))
  -- the word ends in the line, and a blank follows there, or nothing
  have hline : '\n' ∉ (c :: rest).takeWhile (!isBlank ·) := fun hmem =>
    Bool.noConfusion (hword '\n' hmem)
  have hpiece : StartsWithout (!isBlank ·) piece := by
    intro d hd
    obtain ⟨more, hmore⟩ := prefix_of_splitAtChar hpieces
    refine hbehind d ?_
    rw [← hmore, List.head?_append, hd]
    rfl
  rw [← List.takeWhile_append_dropWhile (p := (!isBlank ·)) (l := c :: rest),
    splitAtChar_append hline hpieces, firstLeading?,
    leadingWord?_of_word hne hword hpiece (startsWith_takeWhile hcomment),
    List.takeWhile_append_dropWhile]
  rfl

end Lines

end EnsembleDesk
