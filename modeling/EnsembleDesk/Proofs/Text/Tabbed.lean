import EnsembleDesk.Text.Tabbed
/-!
# Reading tabbed text back

Rows of fields are written without quoting, and a line break at the end of a text is not read. So a
text says which rows it was written from as long as the fields hold no separators
(`Tabbed.Plain`), except for the end: a last row with one empty field writes nothing behind the line
break before it, and that line break is then taken away.

## Main results

* `Tabbed.read_write`: all rows are read back, if the last one is not a single empty field;
* `Tabbed.read_write_concat_blank`: a last row that is a single empty field is lost;
* `Tabbed.read_write_take`: both at once, by the number of rows that are read back;
* `Tabbed.read_write_eq_iff`: which rows are read back, and that these are all;
* `Tabbed.read_eq_nil_iff`: the texts that have no rows.
-/

namespace EnsembleDesk

/-- Cutting at a character is what the library does. -/
theorem splitAtChar_eq_splitOn (separator : Char) (text : List Char) :
    splitAtChar separator text = text.splitOn separator := by
  induction text with
  | nil => rfl
  | cons c rest ih =>
    have hne : rest.splitOn separator ≠ [] := List.splitOn_ne_nil separator rest
    rw [splitAtChar, ih, List.splitOn_cons_eq_if_modifyHead]
    simp only [beq_iff_eq]
    -- a separator begins a piece; any other character belongs to the first piece of the rest
    split
    · rfl
    · cases hpieces : rest.splitOn separator with
      | nil => exact absurd hpieces hne
      | cons piece pieces => rfl

/-! ### Pieces of a text -/

section Cut

variable {separator c : Char} {text piece : List Char}

/-- A text is cut into one piece at least. -/
theorem splitAtChar_ne_nil (separator : Char) (text : List Char) :
    splitAtChar separator text ≠ [] := by
  rw [splitAtChar_eq_splitOn]
  exact List.splitOn_ne_nil separator text

/-- There is one piece more than occurrences of the character. -/
theorem length_splitAtChar (separator : Char) (text : List Char) :
    (splitAtChar separator text).length = text.count separator + 1 := by
  induction text with
  | nil => rfl
  | cons c rest ih =>
    rw [splitAtChar, List.count_cons]
    split
    · rename_i hc
      rw [List.length_cons, ih, if_pos (beq_iff_eq.2 hc)]
    · rename_i hc
      rw [if_neg (mt beq_iff_eq.1 hc), Nat.add_zero, ← ih]
      obtain ⟨piece, pieces, hpieces⟩ :=
        List.exists_cons_of_ne_nil (splitAtChar_ne_nil separator rest)
      rw [hpieces]
      rfl

/-- The pieces together are the text without the character. -/
theorem flatten_splitAtChar (separator : Char) (text : List Char) :
    (splitAtChar separator text).flatten = text.filter (· != separator) := by
  induction text with
  | nil => rfl
  | cons c rest ih =>
    rw [splitAtChar]
    split
    · rename_i hc
      rw [List.flatten_cons, List.nil_append, ih, List.filter_cons_of_neg (by simp [hc])]
    · rename_i hc
      rw [List.filter_cons_of_pos (by simpa using hc), ← ih]
      obtain ⟨piece, pieces, hpieces⟩ :=
        List.exists_cons_of_ne_nil (splitAtChar_ne_nil separator rest)
      rw [hpieces]
      rfl

/-- The pieces of a text consist of its characters other than the separator. -/
theorem mem_of_mem_splitAtChar (hpiece : piece ∈ splitAtChar separator text) (hc : c ∈ piece) :
    c ∈ text ∧ c ≠ separator := by
  have hmem := List.mem_flatten.2 ⟨piece, hpiece, hc⟩
  rw [flatten_splitAtChar, List.mem_filter, bne_iff_ne] at hmem
  exact hmem

end Cut

/-! ### Carriage returns -/

/-- Dropping a carriage return adds nothing. -/
theorem dropReturn_sublist (line : List Char) : (dropReturn line).Sublist line := by
  rw [dropReturn]
  split
  · exact List.dropLast_sublist line
  · exact List.Sublist.refl line

/-- Nothing is dropped from a line just if it does not end with a carriage return. -/
theorem dropReturn_eq_self_iff {line : List Char} :
    dropReturn line = line ↔ line.getLast? ≠ some '\r' := by
  refine ⟨fun heq hreturn => ?_, fun h => if_neg h⟩
  obtain ⟨front, rfl⟩ := List.getLast?_eq_some_iff.1 hreturn
  rw [dropReturn, if_pos hreturn, List.dropLast_concat] at heq
  simpa using congrArg List.length heq

namespace Tabbed

/-! ### Pieces with a separator between them -/

section Pieces

variable {separator c : Char} {pieces : List (List Char)}

/-- The last piece follows a separator. -/
theorem intercalate_concat (hpieces : pieces ≠ []) (last : List Char) :
    [separator].intercalate (pieces ++ [last]) =
      [separator].intercalate pieces ++ separator :: last := by
  induction pieces with
  | nil => exact absurd rfl hpieces
  | cons piece rest ih =>
    cases rest with
    | nil => simp
    | cons next rest =>
      rw [List.cons_append, List.intercalate_cons_of_ne_nil (by simp), ih (by simp),
        List.intercalate_cons_cons]
      simp

/-- A character that is in no piece is not in the text of the pieces. -/
theorem not_mem_intercalate (hc : c ≠ separator) (h : ∀ piece ∈ pieces, c ∉ piece) :
    c ∉ [separator].intercalate pieces := by
  induction pieces with
  | nil => simp
  | cons piece rest ih =>
    have hpiece : c ∉ piece := h piece List.mem_cons_self
    cases rest with
    | nil => simpa using hpiece
    | cons next rest =>
      have hrest := ih fun piece hmem => h piece (List.mem_cons_of_mem _ hmem)
      rw [List.intercalate_cons_cons]
      simp [hpiece, hc, hrest]

/-- Pieces end as the last one of them does, unless that is empty. -/
theorem getLast?_intercalate {last : List Char} (hlast : pieces.getLast? = some last)
    (hne : last ≠ []) : ([separator].intercalate pieces).getLast? = last.getLast? := by
  obtain ⟨front, rfl⟩ := List.getLast?_eq_some_iff.1 hlast
  -- without a piece in front there is no separator
  by_cases hfront : front = []
  · subst hfront
    simp
  · obtain ⟨d, hd⟩ := Option.isSome_iff_exists.1 (List.getLast?_isSome.2 hne)
    rw [intercalate_concat hfront, List.getLast?_append, List.getLast?_cons, hd]
    rfl

/-- Pieces end as the last one of them does, or else with the separator. -/
theorem getLast?_intercalate_ne (hc : c ≠ separator)
    (h : ∀ piece ∈ pieces.getLast?, piece.getLast? ≠ some c) :
    ([separator].intercalate pieces).getLast? ≠ some c := by
  cases hlast : pieces.getLast? with
  | none =>
    rw [List.getLast?_eq_none_iff.1 hlast]
    exact nofun
  | some last =>
    by_cases hne : last = []
    · subst hne
      obtain ⟨front, rfl⟩ := List.getLast?_eq_some_iff.1 hlast
      by_cases hfront : front = []
      · simp [hfront]
      · simpa [intercalate_concat hfront] using hc.symm
    · rw [getLast?_intercalate hlast hne]
      exact h last hlast

/-- Only the empty piece alone has an empty text. -/
theorem intercalate_eq_nil_iff (hpieces : pieces ≠ []) :
    [separator].intercalate pieces = [] ↔ pieces = [[]] := by
  cases pieces with
  | nil => exact absurd rfl hpieces
  | cons piece rest =>
    cases rest with
    | nil => simp
    | cons next rest => simp [List.intercalate_cons_cons]

end Pieces

/-! ### Rows -/

/-- Rows that their text can tell apart: there is a row, every row has a field, no field holds a
separator, and no row ends with a carriage return. -/
structure Plain (rows : List (List (List Char))) : Prop where
  /-- There is a row. -/
  ne_nil : rows ≠ []
  /-- Every row has a field. -/
  row_ne_nil : ∀ row ∈ rows, row ≠ []
  /-- No field holds a tab. -/
  no_tab : ∀ row ∈ rows, ∀ field ∈ row, '\t' ∉ field
  /-- No field holds a line feed. -/
  no_feed : ∀ row ∈ rows, ∀ field ∈ row, '\n' ∉ field
  /-- No row ends with a carriage return. -/
  no_return : ∀ row ∈ rows, ∀ field ∈ row.getLast?, field.getLast? ≠ some '\r'

/-- The lines of a text that was written are the rows, each with tabs between its fields. -/
theorem splitAtChar_write {rows : List (List (List Char))} (hne : rows ≠ [])
    (hfeed : ∀ row ∈ rows, ∀ field ∈ row, '\n' ∉ field) :
    splitAtChar '\n' (write rows) = rows.map (['\t'].intercalate ·) := by
  rw [splitAtChar_eq_splitOn, write, List.splitOn_intercalate '\n' _ (by simpa using hne)]
  intro line hline
  obtain ⟨row, hrow, rfl⟩ := List.mem_map.1 hline
  exact not_mem_intercalate (by decide) (hfeed row hrow)

namespace Plain

variable {rows front : List (List (List Char))}

/-- Some of the rows are plain when all are. -/
theorem of_subset (h : Plain rows) (hfront : front ≠ []) (hsubset : ∀ row ∈ front, row ∈ rows) :
    Plain front where
  ne_nil := hfront
  row_ne_nil row hrow := h.row_ne_nil row (hsubset row hrow)
  no_tab row hrow := h.no_tab row (hsubset row hrow)
  no_feed row hrow := h.no_feed row (hsubset row hrow)
  no_return row hrow := h.no_return row (hsubset row hrow)

/-- The line of a row does not end with a carriage return. -/
theorem getLast?_line_ne (h : Plain rows) {row : List (List Char)} (hrow : row ∈ rows) :
    (['\t'].intercalate row).getLast? ≠ some '\r' :=
  getLast?_intercalate_ne (by decide) (h.no_return row hrow)

/-- The text of plain rows does not end with a carriage return. -/
theorem getLast?_write_ne (h : Plain rows) : (write rows).getLast? ≠ some '\r' := by
  refine getLast?_intercalate_ne (by decide) fun line hline => ?_
  rw [List.getLast?_map, Option.mem_def, Option.map_eq_some_iff] at hline
  obtain ⟨row, hrow, rfl⟩ := hline
  exact h.getLast?_line_ne (List.mem_of_getLast? hrow)

/-- Only a single empty field has no text. -/
theorem write_eq_nil_iff (h : Plain rows) : write rows = [] ↔ rows = [[[]]] := by
  rw [write, intercalate_eq_nil_iff (by simpa using h.ne_nil)]
  constructor
  · intro hlines
    obtain ⟨row, rfl, hrow⟩ := List.map_eq_singleton_iff.1 hlines
    rw [(intercalate_eq_nil_iff (h.row_ne_nil row List.mem_cons_self)).1 hrow]
  · rintro rfl
    rfl

/-- The fields of the lines of a text that was written are those that were written. -/
theorem fields_write (h : Plain rows) :
    ((splitAtChar '\n' (write rows)).map fun line => splitAtChar '\t' (dropReturn line)) =
      rows := by
  have hrow : ∀ row ∈ rows, splitAtChar '\t' (dropReturn (['\t'].intercalate row)) = row := by
    intro row hrow
    rw [dropReturn_eq_self_iff.2 (h.getLast?_line_ne hrow), splitAtChar_eq_splitOn,
      List.splitOn_intercalate '\t' (h.no_tab row hrow) (h.row_ne_nil row hrow)]
  rw [splitAtChar_write h.ne_nil h.no_feed, List.map_map]
  exact (List.map_congr_left hrow).trans (List.map_id rows)

end Plain

variable {rows : List (List (List Char))}

/-- A text ends with a line break only if a row with nothing but an empty field ends it. -/
theorem dropLineBreak_write (h : Plain rows) (hlast : rows.getLast? ≠ some [[]]) :
    dropLineBreak (write rows) = write rows := by
  have hrow := List.getLast?_eq_some_getLast h.ne_nil
  have hmem := List.getLast_mem h.ne_nil
  generalize rows.getLast h.ne_nil = row at hrow hmem
  -- so the text ends as its last line does, and that has a character
  have hline : ['\t'].intercalate row ≠ [] := by
    intro hnil
    rw [intercalate_eq_nil_iff (h.row_ne_nil row hmem)] at hnil
    exact hlast (hnil ▸ hrow)
  have hend : (write rows).getLast? = (['\t'].intercalate row).getLast? :=
    getLast?_intercalate (by rw [List.getLast?_map, hrow]; rfl) hline
  refine if_neg fun hfeed => ?_
  exact not_mem_intercalate (by decide) (h.no_feed row hmem)
    (List.mem_of_getLast? (hend.symm.trans hfeed))

/-- Nothing is left of an empty line and of a carriage return alone. -/
theorem dropReturn_eq_nil_iff {line : List Char} :
    dropReturn line = [] ↔ line = [] ∨ line = ['\r'] := by
  rw [dropReturn]
  split
  · rename_i hreturn
    obtain ⟨front, rfl⟩ := List.getLast?_eq_some_iff.1 hreturn
    simp
  · rename_i hreturn
    constructor
    · exact .inl
    · rintro (rfl | rfl)
      · rfl
      · exact absurd rfl hreturn

/-- A text has no rows if nothing is in front of the line break at its end. -/
theorem read_eq_nil_iff {text : List Char} :
    read text = [] ↔ text = [] ∨ text = ['\n'] ∨ text = ['\r', '\n'] := by
  have hrows : read text = [] ↔ dropLineBreak text = [] := by
    rw [read]
    split
    · rename_i hempty
      exact iff_of_true rfl (List.isEmpty_iff.1 hempty)
    · rename_i hempty
      rw [List.map_eq_nil_iff]
      exact iff_of_false (splitAtChar_ne_nil '\n' _) (mt List.isEmpty_iff.2 hempty)
  rw [hrows, dropLineBreak]
  split
  · rename_i hfeed
    obtain ⟨front, rfl⟩ := List.getLast?_eq_some_iff.1 hfeed
    rw [List.dropLast_concat, dropReturn_eq_nil_iff]
    cases front with
    | nil => simp
    | cons c front => simp
  · rename_i hfeed
    constructor
    · exact .inl
    · rintro (rfl | rfl | rfl)
      · rfl
      · exact absurd rfl hfeed
      · exact absurd rfl hfeed

/-- Rows are read back from their text, if the last one is not a single empty field. -/
theorem read_write (h : Plain rows) (hlast : rows.getLast? ≠ some [[]]) :
    read (write rows) = rows := by
  have hne : write rows ≠ [] := by
    intro hnil
    rw [h.write_eq_nil_iff.1 hnil] at hlast
    exact hlast rfl
  rw [read, dropLineBreak_write h hlast, List.isEmpty_eq_false_iff.2 hne]
  exact h.fields_write

/-- A last row that is a single empty field is not read back. If only one such row is left, that one
is not read back either. -/
theorem read_write_concat_blank (h : Plain rows) :
    read (write (rows ++ [[[]]])) = if rows = [[[]]] then [] else rows := by
  -- the last row is written as the line break that is not read
  have htext : dropLineBreak (write (rows ++ [[[]]])) = write rows := by
    have hwrite : write (rows ++ [[[]]]) = write rows ++ ['\n'] := by
      rw [write, List.map_append]
      exact intercalate_concat (by simpa using h.ne_nil) []
    rw [hwrite, dropLineBreak, List.getLast?_concat, if_pos rfl, List.dropLast_concat]
    exact dropReturn_eq_self_iff.2 h.getLast?_write_ne
  rw [read, htext]
  by_cases hblank : rows = [[[]]]
  · subst hblank
    rfl
  · rw [if_neg hblank, List.isEmpty_eq_false_iff.2 (mt h.write_eq_nil_iff.1 hblank)]
    exact h.fields_write

/-- The number of rows that are read back from the text of some rows. -/
def kept (rows : List (List (List Char))) : Nat :=
  if rows.getLast? = some [[]] then if rows.dropLast = [[[]]] then 0 else rows.length - 1
  else rows.length

/-- What is read back from the text of some rows is their beginning. -/
theorem read_write_take (h : Plain rows) : read (write rows) = rows.take (kept rows) := by
  by_cases hlast : rows.getLast? = some [[]]
  · obtain ⟨front, rfl⟩ := List.getLast?_eq_some_iff.1 hlast
    rw [kept, if_pos hlast, List.dropLast_concat, List.length_append, List.length_singleton,
      Nat.add_sub_cancel]
    by_cases hfront : front = []
    -- a single empty field alone has no text at all
    · subst hfront
      rfl
    · rw [read_write_concat_blank (h.of_subset hfront fun row hrow => List.mem_append_left _ hrow)]
      split
      · exact List.take_zero.symm
      · exact List.take_left.symm
  · rw [read_write h hlast, kept, if_neg hlast, List.take_length]

/-! ### Rows that are read back -/

variable {text : List Char}

/-- The rows of a text, if it has any, are those of its lines. -/
theorem read_of_ne_nil (h : read text ≠ []) :
    read text = (splitAtChar '\n' (dropLineBreak text)).map fun line =>
      splitAtChar '\t' (dropReturn line) := by
  rw [read] at h ⊢
  split at h
  · exact absurd rfl h
  · rename_i hempty
    exact if_neg hempty

/-- Every row that is read is a line that was cut at its tabs. -/
theorem exists_line_of_mem_read {row : List (List Char)} (hrow : row ∈ read text) :
    ∃ line ∈ splitAtChar '\n' (dropLineBreak text), splitAtChar '\t' (dropReturn line) = row := by
  rw [read_of_ne_nil (List.ne_nil_of_mem hrow)] at hrow
  exact List.mem_map.1 hrow

/-- A row that is read has a field. -/
theorem ne_nil_of_mem_read {row : List (List Char)} (hrow : row ∈ read text) : row ≠ [] := by
  obtain ⟨line, -, rfl⟩ := exists_line_of_mem_read hrow
  exact splitAtChar_ne_nil _ _

/-- No field that is read holds a separator. -/
theorem ne_of_mem_read {row : List (List Char)} (hrow : row ∈ read text) {field : List Char}
    (hfield : field ∈ row) {c : Char} (hc : c ∈ field) : c ≠ '\t' ∧ c ≠ '\n' := by
  obtain ⟨line, hline, rfl⟩ := exists_line_of_mem_read hrow
  obtain ⟨hc, htab⟩ := mem_of_mem_splitAtChar hfield hc
  exact ⟨htab, (mem_of_mem_splitAtChar hline ((dropReturn_sublist line).subset hc)).2⟩

/-- A line break at the end of a text is not read. -/
theorem count_dropLineBreak_lt (h : text.getLast? = some '\n') :
    (dropLineBreak text).count '\n' < text.count '\n' := by
  obtain ⟨front, rfl⟩ := List.getLast?_eq_some_iff.1 h
  rw [dropLineBreak, if_pos h, List.dropLast_concat, List.count_append, List.count_singleton_self]
  exact Nat.lt_succ_of_le ((dropReturn_sublist front).count_le '\n')

/-- When as many rows are read as were written, no line break ended their text. -/
theorem dropLineBreak_of_length_read (hlines : (splitAtChar '\n' text).length = (read text).length)
    (hne : read text ≠ []) : dropLineBreak text = text := by
  refine if_neg fun hfeed => ?_
  have hcount := count_dropLineBreak_lt hfeed
  rw [read_of_ne_nil hne, List.length_map, length_splitAtChar, length_splitAtChar] at hlines
  omega

/-- Only plain rows are read back from their text. -/
theorem plain_of_read_write (hne : rows ≠ []) (h : read (write rows) = rows) : Plain rows := by
  have hmem : ∀ {row}, row ∈ rows → row ∈ read (write rows) := fun hrow => h.symm ▸ hrow
  have hfeed : ∀ row ∈ rows, ∀ field ∈ row, '\n' ∉ field := fun row hrow field hfield hc =>
    (ne_of_mem_read (hmem hrow) hfield hc).2 rfl
  have hlines := splitAtChar_write hne hfeed
  have hbreak : dropLineBreak (write rows) = write rows := by
    refine dropLineBreak_of_length_read ?_ (h.symm ▸ hne)
    rw [hlines, h, List.length_map]
  have hread := read_of_ne_nil (h.symm ▸ hne)
  rw [hbreak, hlines, h, List.map_map] at hread
  have hkept : ∀ row ∈ rows, dropReturn (['\t'].intercalate row) = ['\t'].intercalate row := by
    intro row hrow
    have hcut : splitAtChar '\t' (dropReturn (['\t'].intercalate row)) = row :=
      (List.map_eq_map_iff.1 (hread.symm.trans (List.map_id rows).symm)) row hrow
    rw [splitAtChar_eq_splitOn] at hcut
    exact (List.intercalate_splitOn '\t').symm.trans (congrArg (['\t'].intercalate ·) hcut)
  refine ⟨hne, fun row hrow => ne_nil_of_mem_read (hmem hrow), fun row hrow field hfield hc =>
    (ne_of_mem_read (hmem hrow) hfield hc).1 rfl, hfeed, fun row hrow field hfield hreturn => ?_⟩
  -- a carriage return that ends the last field ends the line
  have hfield_ne : field ≠ [] := by
    rintro rfl
    cases hreturn
  exact dropReturn_eq_self_iff.1 (hkept row hrow)
    ((getLast?_intercalate hfield hfield_ne).trans hreturn)

instance (rows : List (List (List Char))) : Decidable (Plain rows) :=
  decidable_of_iff (rows ≠ [] ∧ (∀ row ∈ rows, row ≠ []) ∧
      (∀ row ∈ rows, ∀ field ∈ row, '\t' ∉ field) ∧ (∀ row ∈ rows, ∀ field ∈ row, '\n' ∉ field) ∧
      ∀ row ∈ rows, ∀ field ∈ row.getLast?, field.getLast? ≠ some '\r')
    ⟨fun ⟨hne, hrow, htab, hfeed, hreturn⟩ => ⟨hne, hrow, htab, hfeed, hreturn⟩,
      fun h => ⟨h.ne_nil, h.row_ne_nil, h.no_tab, h.no_feed, h.no_return⟩⟩

/-- Plain rows are read back from their text just if the last one is not a single empty field, and
no other rows are read back, unless there are none. -/
theorem read_write_eq_iff (rows : List (List (List Char))) :
    (Plain rows → (read (write rows) = rows ↔ rows.getLast? ≠ some [[]])) ∧
      (rows ≠ [] → read (write rows) = rows → Plain rows) := by
  refine ⟨fun h => ⟨fun hread hlast => ?_, read_write h⟩, plain_of_read_write⟩
  -- what is kept of such rows is less than all of them
  have hpos := List.length_pos_iff.2 h.ne_nil
  have hkept : kept rows < rows.length := by
    rw [kept, if_pos hlast]
    split <;> omega
  have hlength := congrArg List.length hread
  rw [read_write_take h, List.length_take] at hlength
  omega

/-- A carriage return within a row and an empty field alone in one do no harm, but the same rows are
lost when such a row ends them. -/
theorem read_write_eq_iff_blankRows :
    Plain [["a\r".toList, []], [[]], [[], "b".toList]] ∧
      read (write [["a\r".toList, []], [[]], [[], "b".toList]]) =
        [["a\r".toList, []], [[]], [[], "b".toList]] ∧
      read (write [["a\r".toList, []], [[]]]) ≠ [["a\r".toList, []], [[]]] := by
  have hplain : Plain [["a\r".toList, []], [[]], [[], "b".toList]] := by decide
  have hshorter : Plain [["a\r".toList, []], [[]]] := by decide
  exact ⟨hplain, ((read_write_eq_iff _).1 hplain).2 (by decide), fun hread =>
    ((read_write_eq_iff _).1 hshorter).1 hread rfl⟩

end Tabbed

end EnsembleDesk
