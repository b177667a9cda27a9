import EnsembleDesk.Text.Delimited
/-!
# Reading delimited text back

Whatever bytes the fields hold, the records that were written are read back: a field with a
delimiter, a quote or a line end in it stands in quotes, and a record that would be an empty line is
written as an empty field in quotes. A record without fields is the one thing that has no text.

Every field is followed by the delimiter or by a line feed, so the readers are stated for a text
with such a byte and any rest behind it.

## Main results

* `Delimited.records_write`: the records of the text of some records are these records;
* `Delimited.read_write`: and they are read, unless the text seems to begin with a byte order mark.
-/

namespace EnsembleDesk

namespace Delimited

/-- A delimiter that is told apart from quotes and line ends. -/
structure Separates (delimiter : UInt8) : Prop where
  /-- It is no quote. -/
  ne_quote : delimiter ≠ quote
  /-- It ends no line. -/
  not_isLineEnd : isLineEnd delimiter = false

variable {delimiter : UInt8}

/-- A delimiter that is told apart from line ends is no line feed. -/
theorem Separates.ne_lineFeed (h : Separates delimiter) : delimiter ≠ lineFeed := by
  rintro rfl
  exact absurd h.not_isLineEnd (by decide)

/-- The byte behind a field is no quote. -/
theorem Separates.ne_quote_of_endsField (h : Separates delimiter) {b : UInt8}
    (hb : endsField delimiter b = true) : b ≠ quote := by
  rintro rfl
  simp only [endsField, Bool.or_eq_true, beq_iff_eq] at hb
  rcases hb with hb | hb
  · exact h.ne_quote hb.symm
  · exact absurd hb (by decide)

/-! ### Fields -/

/-- Bytes that do not end a field are read up to one that does. -/
theorem readPlain_append {field rest : List UInt8} {b : UInt8}
    (hfield : ∀ c ∈ field, endsField delimiter c = false) (hb : endsField delimiter b = true) :
    readPlain delimiter (field ++ b :: rest) = (field, b :: rest) := by
  have hall : ∀ c ∈ field, (!endsField delimiter c) = true := by
    intro c hc
    rw [hfield c hc]
    rfl
  rw [readPlain, List.takeWhile_append_of_pos hall, List.dropWhile_append_of_pos hall]
  simp [hb]

/-- The bytes of a field in quotes: a quote is doubled. -/
def escaped (field : List UInt8) : List UInt8 :=
  field.flatMap fun b => if b = quote then [quote, quote] else [b]

/-- In quotes, a byte stands for itself, and a quote is doubled. -/
theorem escaped_cons (c : UInt8) (field : List UInt8) :
    escaped (c :: field) = (if c = quote then [quote, quote] else [c]) ++ escaped field :=
  List.flatMap_cons

/-- A field in quotes is read up to the closing quote, whatever is in it. -/
theorem readQuoted_escaped (hdelimiter : Separates delimiter) (field : List UInt8)
    {rest : List UInt8} {b : UInt8} (hb : endsField delimiter b = true) :
    readQuoted delimiter (escaped field ++ quote :: b :: rest) = (field, b :: rest) := by
  induction field with
  | nil =>
    -- the quote is not doubled, since what follows a field is no quote
    have hplain : readPlain delimiter (b :: rest) = ([], b :: rest) :=
      readPlain_append (List.forall_mem_nil _) hb
    rw [escaped, List.flatMap_nil, List.nil_append, readQuoted, if_pos rfl,
      if_neg (hdelimiter.ne_quote_of_endsField hb)]
    exact hplain
  | cons c field ih =>
    rw [escaped_cons]
    split
    · rename_i hc
      rw [List.append_assoc]
      simp only [List.cons_append, List.nil_append]
      rw [readQuoted, if_pos rfl]
      simp only [if_true, ih, hc]
    · rename_i hc
      rw [List.append_assoc, List.singleton_append, readQuoted.eq_def]
      simp only [if_neg hc, ih]

/-- A field is read back from its text. -/
theorem readField_writeField (hdelimiter : Separates delimiter) (field : List UInt8)
    {rest : List UInt8} {b : UInt8} (hb : endsField delimiter b = true) :
    readField delimiter (writeField delimiter field ++ b :: rest) = (field, b :: rest) := by
  rw [writeField]
  split
  · rw [List.append_assoc, List.cons_append]
    simp only [List.cons_append, List.nil_append, readField, if_true]
    exact readQuoted_escaped hdelimiter field hb
  · rename_i hplain
    have hfield : ∀ c ∈ field, endsField delimiter c = false ∧ c ≠ quote := by
      simpa [needsQuotes, not_or] using hplain
    have hread : readPlain delimiter (field ++ b :: rest) = (field, b :: rest) :=
      readPlain_append (fun c hc => (hfield c hc).1) hb
    cases field with
    | nil =>
      rw [List.nil_append, readField, if_neg (hdelimiter.ne_quote_of_endsField hb)]
      exact hread
    | cons c field =>
      rw [List.cons_append, readField, if_neg (hfield c List.mem_cons_self).2]
      exact hread

/-! ### Records -/

/-- A record goes on behind a field if a delimiter follows it, and ends there otherwise. -/
theorem readRecord_of_readField {bytes field rest : List UInt8} {b : UInt8}
    (h : readField delimiter bytes = (field, b :: rest)) :
    readRecord delimiter bytes =
      if b = delimiter then (field :: (readRecord delimiter rest).1, (readRecord delimiter rest).2)
      else ([field], rest) := by
  rw [readRecord]
  split
  · rename_i hend
    cases h.symm.trans hend
  · rename_i hnext
    cases h.symm.trans hnext
    rfl

/-- A delimiter is written between two fields. -/
theorem writeFields_cons_cons (first second : List UInt8) (fields : List (List UInt8)) :
    writeFields delimiter (first :: second :: fields) =
      writeField delimiter first ++ delimiter :: writeFields delimiter (second :: fields) := by
  simp [writeFields]

/-- The fields of a record are read back from their line. -/
theorem readRecord_writeFields (hdelimiter : Separates delimiter) {fields : List (List UInt8)}
    (hfields : fields ≠ []) (rest : List UInt8) :
    readRecord delimiter (writeFields delimiter fields ++ lineFeed :: rest) = (fields, rest) := by
  induction fields with
  | nil => exact absurd rfl hfields
  | cons first fields ih =>
    cases fields with
    | nil =>
      have hline : endsField delimiter lineFeed = true := by simp [endsField, isLineEnd]
      have hfield : readField delimiter (writeField delimiter first ++ lineFeed :: rest) =
          (first, lineFeed :: rest) := readField_writeField hdelimiter first hline
      rw [show writeFields delimiter [first] = writeField delimiter first by simp [writeFields],
        readRecord_of_readField hfield, if_neg hdelimiter.ne_lineFeed.symm]
    | cons second fields =>
      have hnext : endsField delimiter delimiter = true := by simp [endsField]
      rw [writeFields_cons_cons, List.append_assoc, List.cons_append,
        readRecord_of_readField (readField_writeField hdelimiter first hnext), if_pos rfl,
        ih (List.cons_ne_nil _ _)]

/-- The line of a record begins with a quote, or else with the bytes of the first field. An empty
field is then followed by another one. -/
theorem writeRecord_cases (delimiter : UInt8) (first : List UInt8) (fields : List (List UInt8)) :
    (∃ rest, writeRecord delimiter (first :: fields) = quote :: rest) ∨
      needsQuotes delimiter first = false ∧ ∃ b rest,
        writeRecord delimiter (first :: fields) = first ++ b :: rest ∧
          (b = delimiter ∨ b = lineFeed ∧ first ≠ []) := by
  rw [writeRecord]
  split
  · exact .inl ⟨_, rfl⟩
  · rename_i hempty
    -- a first field without quotes begins the line, and its end follows
    cases hquotes : needsQuotes delimiter first with
    | true =>
      left
      cases fields with
      | nil => simp [writeFields, writeField, hquotes]
      | cons second fields => simp [writeFields_cons_cons, writeField, hquotes]
    | false =>
      have hfirst : writeField delimiter first = first := by simp [writeField, hquotes]
      refine .inr ⟨rfl, ?_⟩
      cases fields with
      | nil =>
        refine ⟨lineFeed, [], by simp [writeFields, hfirst], .inr ⟨rfl, ?_⟩⟩
        rintro rfl
        exact hempty rfl
      | cons second fields =>
        refine ⟨delimiter, writeFields delimiter (second :: fields) ++ [lineFeed], ?_, .inl rfl⟩
        rw [writeFields_cons_cons, hfirst, List.append_assoc, List.cons_append]

/-- No byte of a field that needs no quotes ends a field. -/
theorem endsField_of_not_needsQuotes {field : List UInt8} (h : needsQuotes delimiter field = false)
    {b : UInt8} (hb : b ∈ field) : endsField delimiter b = false := by
  have hall : ∀ c ∈ field, endsField delimiter c = false ∧ c ≠ quote := by
    simpa [needsQuotes, not_or] using h
  exact (hall b hb).1

/-- The line of a record does not begin with a line end, which would be passed over. -/
theorem exists_cons_writeRecord (hdelimiter : Separates delimiter) {fields : List (List UInt8)}
    (hfields : fields ≠ []) :
    ∃ b rest, writeRecord delimiter fields = b :: rest ∧ isLineEnd b = false := by
  obtain ⟨first, fields, rfl⟩ := List.exists_cons_of_ne_nil hfields
  rcases writeRecord_cases delimiter first fields with
    ⟨rest, hline⟩ | ⟨hplain, b, rest, hline, hb⟩
  · exact ⟨quote, rest, hline, by decide⟩
  · cases first with
    | nil =>
      rcases hb with rfl | ⟨-, hempty⟩
      · exact ⟨b, rest, hline, hdelimiter.not_isLineEnd⟩
      · exact absurd rfl hempty
    | cons c first =>
      -- a byte that ends a line would have put the field in quotes
      have hc := endsField_of_not_needsQuotes hplain (List.mem_cons_self (a := c) (l := first))
      rw [endsField, Bool.or_eq_false_iff] at hc
      exact ⟨c, first ++ b :: rest, hline, hc.2⟩

/-- A record is read back from its line. -/
theorem readRecord_writeRecord (hdelimiter : Separates delimiter) {fields : List (List UInt8)}
    (hfields : fields ≠ []) (rest : List UInt8) :
    readRecord delimiter (writeRecord delimiter fields ++ rest) = (fields, rest) := by
  rw [writeRecord]
  split
  · rename_i hempty
    have hline : endsField delimiter lineFeed = true := by simp [endsField, isLineEnd]
    -- two quotes are an empty field in quotes
    have hfield :
        readField delimiter (quote :: quote :: lineFeed :: rest) = ([], lineFeed :: rest) := by
      rw [readField, if_pos rfl]
      exact readQuoted_escaped hdelimiter [] hline
    rw [show [quote, quote, lineFeed] ++ rest = quote :: quote :: lineFeed :: rest from rfl,
      readRecord_of_readField hfield, if_neg hdelimiter.ne_lineFeed.symm, hempty]
  · rw [List.append_assoc, List.singleton_append]
    exact readRecord_writeFields hdelimiter hfields rest

/-- Behind empty lines, the first record is read, and then those that are left. -/
theorem records_of_dropWhile {bytes rest : List UInt8} {b : UInt8}
    (h : bytes.dropWhile isLineEnd = b :: rest) :
    records delimiter bytes =
      (readRecord delimiter (b :: rest)).1 ::
        records delimiter (readRecord delimiter (b :: rest)).2 := by
  rw [records]
  split
  · rename_i hend
    cases h.symm.trans hend
  · rename_i hnext
    cases h.symm.trans hnext
    rfl

/-- The records of the text of some records are these records. -/
theorem records_write (hdelimiter : Separates delimiter) {rows : List (List (List UInt8))}
    (hrows : ∀ fields ∈ rows, fields ≠ []) :
    records delimiter (write delimiter rows) = rows := by
  induction rows with
  | nil =>
    rw [write, List.flatMap_nil, records]
    rfl
  | cons fields rows ih =>
    have hfields := hrows fields List.mem_cons_self
    obtain ⟨b, line, hline, hb⟩ := exists_cons_writeRecord hdelimiter hfields
    have hread := readRecord_writeRecord hdelimiter hfields (write delimiter rows)
    have htext : write delimiter (fields :: rows) =
        writeRecord delimiter fields ++ write delimiter rows := List.flatMap_cons
    rw [hline, List.cons_append] at htext hread
    have hstart : (b :: (line ++ write delimiter rows)).dropWhile isLineEnd =
        b :: (line ++ write delimiter rows) := by simp [hb]
    rw [htext, records_of_dropWhile hstart, hread, ih fun other hother =>
      hrows other (List.mem_cons_of_mem _ hother)]

/-! ### The byte order mark -/

/-- The bytes of a byte order mark. -/
def byteOrderMark : List UInt8 := [0xEF, 0xBB, 0xBF]

/-- Without a byte order mark, all bytes are records. -/
theorem read_of_not_isPrefix {bytes : List UInt8} (h : ¬ byteOrderMark <+: bytes) :
    read delimiter bytes = records delimiter bytes := by
  refine read.eq_2 delimiter bytes fun rest hbytes => h ?_
  exact ⟨rest, hbytes.symm⟩

/-- A field that is followed by a byte of no mark begins with the mark if the text does. -/
theorem isPrefix_of_isPrefix_append {mark field rest : List UInt8} {b : UInt8} (hb : b ∉ mark)
    (h : mark <+: field ++ b :: rest) : mark <+: field := by
  rcases List.prefix_or_prefix_of_prefix h (List.prefix_append field (b :: rest)) with
    h' | ⟨mid, rfl⟩
  · exact h'
  · -- what the mark has behind the field begins with the byte that is not in it
    cases mid with
    | nil => exact ⟨[], by simp⟩
    | cons c mid =>
      rw [List.prefix_append_right_inj, List.cons_prefix_cons] at h
      exact absurd (h.1 ▸ List.mem_append_right field List.mem_cons_self) hb

/-- Whatever bytes the fields hold, the records that were written are read back, if the first field
does not begin with a byte order mark. -/
theorem read_write (hdelimiter : Separates delimiter) (hmark : delimiter ∉ byteOrderMark)
    {rows : List (List (List UInt8))} (hrows : ∀ fields ∈ rows, fields ≠ [])
    (hfirst : ∀ fields ∈ rows.head?, ∀ field ∈ fields.head?, ¬ byteOrderMark <+: field) :
    read delimiter (write delimiter rows) = rows := by
  refine (read_of_not_isPrefix fun hprefix => ?_).trans (records_write hdelimiter hrows)
  cases rows with
  | nil => exact absurd (List.prefix_nil.1 hprefix) (List.cons_ne_nil _ _)
  | cons fields rows =>
    obtain ⟨first, fields, rfl⟩ :=
      List.exists_cons_of_ne_nil (hrows fields List.mem_cons_self)
    rw [write, List.flatMap_cons] at hprefix
    rcases writeRecord_cases delimiter first fields with
      ⟨rest, hline⟩ | ⟨-, b, rest, hline, hb⟩
    · rw [hline, List.cons_append, byteOrderMark, List.cons_prefix_cons] at hprefix
      exact absurd hprefix.1 (by decide)
    · rw [hline, List.append_assoc, List.cons_append] at hprefix
      refine hfirst _ rfl first rfl (isPrefix_of_isPrefix_append (b := b) ?_ hprefix)
      rcases hb with rfl | ⟨rfl, -⟩
      · exact hmark
      · decide

end Delimited

end EnsembleDesk
