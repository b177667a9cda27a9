import Mathlib.Data.List.TakeWhile
import EnsembleDesk.Assist.Completion
import EnsembleDesk.Proofs.Text.Digits
/-!
# The word at the cursor is maximal

A word of a line is told by its columns: it is what stands between them, all of it are word
characters, and neither in front of it nor behind it stands another one (`WordSpan.IsMaximalRun`).
Seen from the text, the line is cut into three pieces, and the word is the middle one
(`WordSpan.isMaximalRun_iff`). A cursor that touches the word cuts it in two. Looking back from the
cursor gives the first part and looking ahead the second one, because the pieces around the word
stop both.

## Main results

* `words_and_completions`: the word at the cursor is the maximal run of word characters that touches
  the cursor, if there is one; the word before the cursor is its first part; configuration keywords
  are offered exactly where nothing but that part stands before the cursor, and keywords of priors
  everywhere.
-/

namespace EnsembleDesk

/-- A text that does not end with a character of a kind; it may be empty. -/
def EndsWithout (p : Char → Bool) (text : List Char) : Prop := ∀ c ∈ text.getLast?, p c = false

section Runs

variable {p : Char → Bool} {text run rest : List Char}

/-- A text ends without the characters that its reverse starts without. -/
theorem endsWithout_iff : EndsWithout p text ↔ StartsWithout p text.reverse := by
  rw [EndsWithout, StartsWithout, List.head?_reverse]

/-- In front of a text that does not begin with a character of a kind there is one only in a run
that is not empty. -/
theorem startsWithout_append_iff (hrun : ∀ c ∈ run, p c = true) (hrest : StartsWithout p rest) :
    StartsWithout p (run ++ rest) ↔ run = [] := by
  constructor
  · intro h
    rw [← takeWhile_run hrun hrest, takeWhile_of_startsWithout h]
  · rintro rfl
    exact hrest

/-- A text that ends without characters of a kind, followed by a run of them, ends without them if
and only if the run is empty. -/
theorem endsWithout_append_iff (htext : EndsWithout p text) (hrun : ∀ c ∈ run, p c = true) :
    EndsWithout p (text ++ run) ↔ run = [] := by
  rw [endsWithout_iff, List.reverse_append,
    startsWithout_append_iff (by simpa using hrun) (endsWithout_iff.1 htext),
    List.reverse_eq_nil_iff]

end Runs

/-- The column of a cursor: a column before the line counts as its beginning, and one behind it as
its end. -/
def clampedColumn (line : List Char) (column : Nat) : Nat := min (max column 1) (line.length + 1)

namespace WordSpan

/-- A run of word characters of a line that cannot be extended. -/
structure IsMaximalRun (line : List Char) (word : WordSpan) : Prop where
  /-- Columns count from one. -/
  one_le_start : 1 ≤ word.start
  /-- There is at least one character. -/
  ne_nil : word.text ≠ []
  /-- The text is what stands between the columns. -/
  text_eq : word.text = (line.take (word.stop - 1)).drop (word.start - 1)
  /-- All of it are word characters. -/
  isWordChar : ∀ c ∈ word.text, isWordChar c = true
  /-- There is no word character in front of it. -/
  front : EndsWithout EnsembleDesk.isWordChar (line.take (word.start - 1))
  /-- There is no word character behind it. -/
  behind : StartsWithout EnsembleDesk.isWordChar (line.drop (word.stop - 1))

/-- A cursor is in a word or at one of its ends. -/
def Touches (word : WordSpan) (cursor : Nat) : Prop := word.start ≤ cursor ∧ cursor ≤ word.stop

/-- The part of a word before a cursor. -/
def before (word : WordSpan) (cursor : Nat) : WordSpan :=
  ⟨word.text.take (cursor - word.start), word.start⟩

/-- The text of the run, with what stands in front of it and behind it. -/
theorem isMaximalRun_iff {line : List Char} {word : WordSpan} :
    word.IsMaximalRun line ↔
      ∃ front rest, line = front ++ (word.text ++ rest) ∧ word.start = front.length + 1 ∧
        word.text ≠ [] ∧ (∀ c ∈ word.text, EnsembleDesk.isWordChar c = true) ∧
        EndsWithout EnsembleDesk.isWordChar front ∧
        StartsWithout EnsembleDesk.isWordChar rest := by
  obtain ⟨text, start⟩ := word
  constructor
  · rintro ⟨hstart, hne, htext, hword, hfront, hbehind⟩
    simp only [stop] at hstart hne htext hword hfront hbehind
    have hpos := List.length_pos_iff.2 hne
    -- a text between columns that is not empty begins within the line
    have hlength := congrArg List.length htext
    rw [List.length_drop, List.length_take] at hlength
    refine ⟨line.take (start - 1), line.drop (start + text.length - 1), ?_, ?_, hne, hword, hfront,
      hbehind⟩
    · have hbefore :
          line.take (start - 1) = (line.take (start + text.length - 1)).take (start - 1) := by
        rw [List.take_take, Nat.min_eq_left (by omega)]
      generalize start + text.length - 1 = last at htext hbefore
      show line = line.take (start - 1) ++ (text ++ line.drop last)
      rw [htext, hbefore, ← List.append_assoc, List.take_append_drop, List.take_append_drop]
    · show start = (line.take (start - 1)).length + 1
      rw [List.length_take]
      omega
  · rintro ⟨front, rest, rfl, rfl, hne, hword, hfront, hbehind⟩
    have hend : front.length + 1 + text.length - 1 = front.length + text.length := by omega
    refine ⟨Nat.le_add_left 1 _, hne, ?_, hword, ?_, ?_⟩
    · simp [stop, hend, List.drop_take]
    · simpa using hfront
    · simpa [stop, hend] using hbehind

end WordSpan

/-! ### A line cut at a cursor -/

/-- A line is cut at an offset, and a run of word characters around it is told apart: the part of
the run before the offset, the part behind it, and what stands around the run. -/
structure CutAt (line : List Char) (offset : Nat) (front first second rest : List Char) : Prop where
  /-- The pieces are the line. -/
  line_eq : line = front ++ (first ++ (second ++ rest))
  /-- The offset is between the parts of the run. -/
  offset_eq : offset = front.length + first.length
  /-- The run begins where it can. -/
  front : EndsWithout isWordChar front
  /-- The part before the offset has word characters only. -/
  first : ∀ c ∈ first, isWordChar c = true
  /-- The part behind the offset has word characters only. -/
  second : ∀ c ∈ second, isWordChar c = true
  /-- The run ends where it must. -/
  rest : StartsWithout isWordChar rest

/-- The offset of a cursor is one less than its column, when the column is kept within the line. -/
theorem cursorOffset_eq (line : List Char) (column : Nat) :
    cursorOffset line column = clampedColumn line column - 1 := by
  unfold cursorOffset clampedColumn
  omega

/-- Columns count from one. -/
theorem one_le_clampedColumn (line : List Char) (column : Nat) :
    1 ≤ clampedColumn line column := by
  unfold clampedColumn
  omega

/-- What stands in front of the word characters at the end of a text. -/
theorem exists_front (text : List Char) :
    ∃ front, front ++ trailingWord text = text ∧ EndsWithout isWordChar front := by
  refine ⟨(text.reverse.dropWhile isWordChar).reverse, ?_, ?_⟩
  · rw [trailingWord, ← List.reverse_append, List.takeWhile_append_dropWhile, List.reverse_reverse]
  · rw [endsWithout_iff, List.reverse_reverse]
    exact .of_dropWhile _ _

/-- The word at the end of a text consists of word characters. -/
theorem isWordChar_of_mem_trailingWord {text : List Char} {c : Char} (h : c ∈ trailingWord text) :
    isWordChar c = true :=
  List.mem_takeWhile_imp (List.mem_reverse.1 h)

/-- A line can be cut at every cursor. -/
theorem exists_cutAt (line : List Char) (column : Nat) :
    ∃ front first second rest, CutAt line (cursorOffset line column) front first second rest := by
  have hle : cursorOffset line column ≤ line.length := Nat.min_le_right _ _
  generalize cursorOffset line column = offset at hle
  obtain ⟨front, hbefore, hfront⟩ := exists_front (line.take offset)
  have hlength := congrArg List.length hbefore
  rw [List.length_append, List.length_take, Nat.min_eq_left hle] at hlength
  refine ⟨front, trailingWord (line.take offset), (line.drop offset).takeWhile isWordChar,
    (line.drop offset).dropWhile isWordChar, ?_, hlength.symm, hfront,
    fun c => isWordChar_of_mem_trailingWord, fun c => List.mem_takeWhile_imp, .of_dropWhile _ _⟩
  rw [List.takeWhile_append_dropWhile, ← List.append_assoc, hbefore, List.take_append_drop]

namespace CutAt

variable {line front first second rest : List Char} {column : Nat}

/-- What stands before the cursor is the text in front of the run and the first part of the run. -/
theorem take_eq (h : CutAt line (cursorOffset line column) front first second rest) :
    line.take (cursorOffset line column) = front ++ first := by
  rw [h.offset_eq, h.line_eq, ← List.append_assoc, ← List.length_append, List.take_left]

/-- What stands behind the cursor is the second part of the run and the text behind it. -/
theorem drop_eq (h : CutAt line (cursorOffset line column) front first second rest) :
    line.drop (cursorOffset line column) = second ++ rest := by
  rw [h.offset_eq, h.line_eq, ← List.append_assoc, ← List.length_append, List.drop_left]

/-- The word before the cursor is the part of the run before the cursor. -/
theorem wordBefore_eq (h : CutAt line (cursorOffset line column) front first second rest) :
    wordBefore line column = ⟨first, front.length + 1⟩ := by
  have hword : trailingWord (front ++ first) = first := by
    rw [trailingWord, List.reverse_append,
      takeWhile_run (by simpa using h.first) (endsWithout_iff.1 h.front), List.reverse_reverse]
  simp only [wordBefore, h.take_eq, hword]
  rw [h.offset_eq, Nat.add_sub_cancel]

/-- The word at the cursor is the whole run. -/
theorem wordAt?_eq (h : CutAt line (cursorOffset line column) front first second rest) :
    wordAt? line column =
      if first ++ second = [] then none else some ⟨first ++ second, front.length + 1⟩ := by
  simp only [wordAt?, h.wordBefore_eq, h.drop_eq, takeWhile_run h.second h.rest,
    List.isEmpty_iff]

/-- There is no run exactly if word characters stand on neither side of the cursor. -/
theorem run_eq_nil_iff (h : CutAt line (cursorOffset line column) front first second rest) :
    first ++ second = [] ↔
      EndsWithout isWordChar (line.take (cursorOffset line column)) ∧
        StartsWithout isWordChar (line.drop (cursorOffset line column)) := by
  rw [h.take_eq, h.drop_eq, endsWithout_append_iff h.front h.first,
    startsWithout_append_iff h.second h.rest, List.append_eq_nil_iff]

/-- A run that is not empty cannot be extended, and the cursor is in it or at one of its ends. -/
theorem isMaximalRun (h : CutAt line (cursorOffset line column) front first second rest)
    (hne : first ++ second ≠ []) :
    WordSpan.IsMaximalRun line ⟨first ++ second, front.length + 1⟩ ∧
      WordSpan.Touches ⟨first ++ second, front.length + 1⟩ (clampedColumn line column) := by
  have hcursor := h.offset_eq
  have hone := one_le_clampedColumn line column
  rw [cursorOffset_eq] at hcursor
  refine ⟨WordSpan.isMaximalRun_iff.2 ⟨front, rest, ?_, rfl, hne, ?_, h.front, h.rest⟩, ?_, ?_⟩
  · rw [List.append_assoc]
    exact h.line_eq
  · intro c hc
    exact (List.mem_append.1 hc).elim (h.first c) (h.second c)
  · show front.length + 1 ≤ clampedColumn line column
    omega
  · show clampedColumn line column ≤ front.length + 1 + (first ++ second).length
    rw [List.length_append]
    omega

/-- A run that cannot be extended cuts the line at every cursor that touches it. -/
theorem of_isMaximalRun {word : WordSpan} (h : word.IsMaximalRun line)
    (htouches : word.Touches (clampedColumn line column)) :
    ∃ front rest, word.start = front.length + 1 ∧
      CutAt line (cursorOffset line column) front
        (word.text.take (clampedColumn line column - word.start))
        (word.text.drop (clampedColumn line column - word.start)) rest := by
  obtain ⟨front, rest, hline, hstart, -, hword, hfront, hrest⟩ := WordSpan.isMaximalRun_iff.1 h
  obtain ⟨hlow, hhigh⟩ := htouches
  rw [WordSpan.stop, hstart] at hhigh
  refine ⟨front, rest, hstart, ?_, ?_, hfront, fun c hc => hword c (List.mem_of_mem_take hc),
    fun c hc => hword c (List.mem_of_mem_drop hc), hrest⟩
  · rw [← List.append_assoc (word.text.take _), List.take_append_drop]
    exact hline
  · rw [cursorOffset_eq, List.length_take, hstart]
    omega

end CutAt

/-! ### The word at the cursor -/

section Cursor

variable {line : List Char} {column : Nat}

/-- There is no word at the cursor exactly if word characters stand on neither side of it. -/
theorem wordAt?_eq_none_iff :
    wordAt? line column = none ↔
      EndsWithout isWordChar (line.take (clampedColumn line column - 1)) ∧
        StartsWithout isWordChar (line.drop (clampedColumn line column - 1)) := by
  obtain ⟨front, first, second, rest, h⟩ := exists_cutAt line column
  rw [← cursorOffset_eq, ← h.run_eq_nil_iff, h.wordAt?_eq]
  split
  · rename_i hnil
    simp [hnil]
  · rename_i hne
    simp [hne]

/-- The word at the cursor is the only maximal run of word characters that touches it. -/
theorem wordAt?_eq_some_iff {word : WordSpan} :
    wordAt? line column = some word ↔
      word.IsMaximalRun line ∧ word.Touches (clampedColumn line column) := by
  constructor
  · obtain ⟨front, first, second, rest, h⟩ := exists_cutAt line column
    rw [h.wordAt?_eq]
    split
    · exact nofun
    · rename_i hne
      intro hword
      obtain rfl := Option.some.inj hword
      exact h.isMaximalRun hne
  · rintro ⟨hrun, htouches⟩
    obtain ⟨front, rest, hstart, h⟩ := CutAt.of_isMaximalRun hrun htouches
    rw [h.wordAt?_eq, List.take_append_drop, if_neg hrun.ne_nil, ← hstart]

/-- The word before the cursor is the first part of the word at the cursor. -/
theorem wordBefore_of_wordAt? {word : WordSpan} (h : wordAt? line column = some word) :
    wordBefore line column = word.before (clampedColumn line column) := by
  obtain ⟨hrun, htouches⟩ := wordAt?_eq_some_iff.1 h
  obtain ⟨front, rest, hstart, hcut⟩ := CutAt.of_isMaximalRun hrun htouches
  rw [hcut.wordBefore_eq, WordSpan.before, ← hstart]

/-- Where there is no word at the cursor, the word before it is empty and at the cursor. -/
theorem wordBefore_of_wordAt?_none (h : wordAt? line column = none) :
    wordBefore line column = ⟨[], clampedColumn line column⟩ := by
  obtain ⟨front, first, second, rest, hcut⟩ := exists_cutAt line column
  have hcursor := hcut.offset_eq
  have hone := one_le_clampedColumn line column
  rw [wordAt?_eq_none_iff, ← cursorOffset_eq, ← hcut.run_eq_nil_iff, List.append_eq_nil_iff] at h
  obtain ⟨rfl, -⟩ := h
  rw [hcut.wordBefore_eq]
  rw [cursorOffset_eq, List.length_nil] at hcursor
  congr 1
  omega

/-- The word before the cursor ends at the cursor. -/
theorem stop_wordBefore : (wordBefore line column).stop = clampedColumn line column := by
  obtain ⟨front, first, second, rest, h⟩ := exists_cutAt line column
  have hcursor := h.offset_eq
  have hone := one_le_clampedColumn line column
  rw [cursorOffset_eq] at hcursor
  rw [h.wordBefore_eq]
  show front.length + 1 + first.length = clampedColumn line column
  omega

/-- The word before the cursor begins the line exactly if only word characters stand before the
cursor. -/
theorem start_wordBefore_eq_one_iff :
    (wordBefore line column).start = 1 ↔
      ∀ c ∈ line.take (clampedColumn line column - 1), isWordChar c = true := by
  obtain ⟨front, first, second, rest, h⟩ := exists_cutAt line column
  rw [← cursorOffset_eq, h.wordBefore_eq, h.take_eq]
  constructor
  · intro hstart
    obtain rfl : front = [] := List.eq_nil_of_length_eq_zero (Nat.succ.inj hstart)
    exact h.first
  · intro hall
    -- a piece in front of the word would end without a word character
    have hnil : EndsWithout isWordChar [] := fun _ hc => nomatch hc
    have hfront : front = [] :=
      (endsWithout_append_iff hnil fun c hc => hall c (List.mem_append_left first hc)).1 h.front
    rw [hfront]
    rfl

end Cursor

/-! ### Completions -/

section Completions

variable {line : List Char} {column number : Nat} {options : CompletionOptions}

/-- There are keywords to complete in a configuration. -/
theorem keywords_ert_ne_nil : Language.ert.keywords ≠ [] := List.cons_ne_nil _ _

/-- Configuration keywords are offered if and only if the word before the cursor leads its line. -/
theorem completions_ert_ne_nil_iff :
    completions .ert number line column options ≠ [] ↔ (wordBefore line column).start = 1 := by
  simp only [completions]
  split
  · rename_i hstart
    simp [hstart, keywords_ert_ne_nil]
  · rename_i hstart
    simp [hstart]

/-- A completion replaces the word before the cursor. -/
theorem range_of_mem_completions {language : Language} {completion : Completion}
    (h : completion ∈ completions language number line column options) :
    completion.range =
      ⟨number, (wordBefore line column).start, clampedColumn line column⟩ := by
  rw [← stop_wordBefore]
  cases language with
  | ert =>
    simp only [completions] at h
    split at h
    · obtain ⟨keyword, -, rfl⟩ := List.mem_map.1 h
      rfl
    · cases h
  | dist =>
    obtain ⟨keyword, -, rfl⟩ := List.mem_map.1 h
    rfl

/-- In a file of priors, the keywords of all densities are completed wherever the cursor is. -/
theorem map_keyword_completions_dist :
    (completions .dist number line column options).map Completion.keyword =
      Language.dist.keywords := by
  simp [completions, Function.comp_def]

end Completions

/-- The word at the cursor is the only maximal run of word characters that touches the cursor, and
there is none exactly if word characters stand on neither side of it. The word before the cursor is
the first part of it. Configuration keywords are offered exactly where all characters before the
cursor are word characters, and replace them; the keywords of priors are always offered. -/
theorem words_and_completions (line : List Char) (column number : Nat)
    (options : CompletionOptions) :
    let cursor := clampedColumn line column
    (wordAt? line column = none ↔
      EndsWithout isWordChar (line.take (cursor - 1)) ∧
        StartsWithout isWordChar (line.drop (cursor - 1))) ∧
    (∀ word, wordAt? line column = some word ↔ word.IsMaximalRun line ∧ word.Touches cursor) ∧
    (∀ word, wordAt? line column = some word → wordBefore line column = word.before cursor) ∧
    (wordAt? line column = none → wordBefore line column = ⟨[], cursor⟩) ∧
    (completions .ert number line column options ≠ [] ↔
      ∀ c ∈ line.take (cursor - 1), isWordChar c = true) ∧
    (∀ completion ∈ completions .ert number line column options,
      completion.range = ⟨number, 1, cursor⟩) ∧
    (completions .dist number line column options).map Completion.keyword =
      Language.dist.keywords ∧
    ∀ completion ∈ completions .dist number line column options,
      completion.range = ⟨number, (wordBefore line column).start, cursor⟩ := by
  refine ⟨wordAt?_eq_none_iff, fun word => wordAt?_eq_some_iff, fun word => wordBefore_of_wordAt?,
    wordBefore_of_wordAt?_none, completions_ert_ne_nil_iff.trans start_wordBefore_eq_one_iff,
    fun completion hmem => ?_, map_keyword_completions_dist,
    fun completion => range_of_mem_completions⟩
  rw [range_of_mem_completions hmem,
    completions_ert_ne_nil_iff.1 (List.ne_nil_of_mem hmem)]

end EnsembleDesk
