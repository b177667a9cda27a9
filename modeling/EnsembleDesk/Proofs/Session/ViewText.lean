import EnsembleDesk.Proofs.Book.JsonRoundTrip
import EnsembleDesk.Session.ViewState
/-!
# Views that are read back

The host keeps how a file was looked at as a text and hands it back when the file is opened again.
A view is read back from its text part by part, if its numbers are read back from theirs: indices
always are, and the scroll positions and sizes are what `FileView.numbers` lists.

## Main results

* `FileView.read_text`: a view is read back from its text.
-/

namespace EnsembleDesk

/-- Numbers that the text of a document keeps: they are finite, and their texts are read back. -/
def KeptInText (numbers : List Binary64) : Prop :=
  ∀ x ∈ numbers, x.isFinite = true ∧ (JsonNumber.float x).ReadsBack

instance (numbers : List Binary64) : Decidable (KeptInText numbers) :=
  inferInstanceAs (Decidable (∀ x ∈ numbers, _))

/-- The scroll position and the sizes of a view. -/
def SheetView.numbers (view : SheetView) : List Binary64 :=
  [view.scroll.left, view.scroll.top] ++
    (view.columnWidths.entries ++ view.rowHeights.entries).map Prod.snd

/-- The scroll positions and the sizes of the views of all sheets. -/
def FileView.numbers (view : FileView) : List Binary64 := view.sheets.flatMap SheetView.numbers

namespace WrittenJson

open Json (written writtenString)

/-! ### Parts of a document -/

/-- The members of a record are found under their names. -/
theorem record?_written {members : List (String × Json)} {names : List String}
    (hnames : members.map Prod.fst = names) (hnodup : names.Nodup) :
    (Json.object members).written.record? names =
      some ⟨true, members.map fun member => (member.1, member.2.written)⟩ := by
  have hkeys : (members.map fun member => (writtenString member.1, member.2.written)).mapM
      (fun member => (WrittenChar.text? member.1).map fun name => (name, member.2)) =
        some (members.map fun member => (member.1, member.2.written)) :=
    mapM_map_eq_some fun member _ => by rw [text?_writtenString, Option.map_some]
  have hnamed : (members.map fun member => (member.1, member.2.written)).filter
      (fun member => names.contains member.1) =
        members.map fun member => (member.1, member.2.written) := by
    refine List.filter_eq_self.2 fun member hmember => ?_
    obtain ⟨before, hbefore, rfl⟩ := List.mem_map.1 hmember
    exact List.contains_iff_mem.2 (hnames ▸ List.mem_map.2 ⟨before, hbefore, rfl⟩)
  have hfirst : (members.map fun member => (member.1, member.2.written)).map Prod.fst = names := by
    rw [List.map_map]
    exact hnames
  rw [written, Json.writtenMembers_eq_map]
  show ((members.map fun member => (writtenString member.1, member.2.written)).mapM
      (fun member => (WrittenChar.text? member.1).map fun name => (name, member.2))).bind _ = _
  rw [hkeys, Option.bind_some, Record.ofMembers?]
  simp only [hnamed, hfirst, if_pos hnodup]

/-- A string is read back. -/
theorem string?_written (s : String) : (Json.string s).written.string? = some s := by
  rw [written, string?, text?_writtenString]

/-- The items of an array are found as they were written. -/
theorem items?_written (items : List Json) :
    (Json.array items).written.items? = some (items.map written) := by
  rw [written, Json.writtenItems_eq_map, items?]

/-- An index is read back as a number. -/
theorem word?_written (i : Index) : (Json.ofNat i.val).written.word? = some i := by
  have hread := (JsonNumber.readsBack_natural (Nat.lt_trans i.isLt (by decide))).written.2
  have hbounds : 0 ≤ (i.val : Int) ∧ (i.val : Int) < 4294967296 :=
    ⟨Int.natCast_nonneg _, Int.ofNat_lt.2 i.isLt⟩
  rw [Json.ofNat, written, word?, hread, Option.bind_some, JsonNumber.word?, JsonNumber.integer?,
    Option.bind_some, dif_pos hbounds]
  exact congrArg some (Fin.ext (Int.toNat_natCast _))

/-- A finite number whose text reads back is read back. -/
theorem binary64?_written {x : Binary64} (hfinite : x.isFinite = true)
    (h : (JsonNumber.float x).ReadsBack) : (Json.ofBinary64 x).written.binary64? = some x := by
  rw [JsonFile.ofBinary64_of_isFinite hfinite, written, binary64?, h.written.2]
  rfl

end WrittenJson

namespace SheetView

open Json (written writtenString)

/-! ### Selections -/

/-- An address is read back. -/
theorem readAddress?_written (a : Address) : readAddress? (addressJson a).written = some a := by
  rw [readAddress?, addressJson, WrittenJson.record?_written]
  · simp [Record.required?, Record.field?, WrittenJson.word?_written, List.lookup_cons]
  · rfl
  · decide

/-- A selection is read back. -/
theorem readSelection?_written (selection : Selection) :
    readSelection? (selectionJson selection).written = some selection := by
  rw [readSelection?, selectionJson, WrittenJson.record?_written]
  · simp [Record.required?, Record.field?, readAddress?_written, List.lookup_cons]
  · rfl
  · decide

/-- A selection is not taken for the lack of one. -/
theorem orNull?_written (selection : Option Selection) :
    WrittenJson.orNull? readSelection? (Json.ofOption (selection.map selectionJson)).written =
      some selection := by
  cases selection with
  | none => rfl
  | some selection =>
    have hread := readSelection?_written selection
    rw [selectionJson, written] at hread
    rw [Option.map_some, Json.ofOption, Option.getD_some, selectionJson, written,
      WrittenJson.orNull?, hread]
    · rfl
    · simp

/-! ### Sizes -/

/-- The digits of an index are read as that index. -/
theorem indexOfDigits?_digitsOf (i : Index) :
    indexOfDigits? (Decimal.digitsOf i.val) = some i := by
  have hdigits : (Decimal.digitsOf i.val).all Char.isDigit = true :=
    List.all_eq_true.2 fun c hc => Decimal.isDigit_of_mem_digitsOf hc
  have hvalue := digitsValue_digitsOf i.val
  rw [indexOfDigits?]
  · have hbound : digitsValue (Decimal.digitsOf i.val) < 4294967296 := by
      rw [hvalue]
      exact i.isLt
    rw [dif_pos ⟨hdigits, hbound⟩]
    exact congrArg some (Fin.ext hvalue)
  · exact Decimal.digitsOf_ne_nil i.val
  · exact fun c rest => Decimal.digitsOf_ne_zero_cons i.val c rest

/-- An index that is a key is read back. -/
theorem readIndex?_writtenString (i : Index) :
    readIndex? (writtenString (natText i.val)) = some i := by
  -- digits are written as themselves
  have hplain : ((Decimal.digitsOf i.val).map WrittenChar.ofChar).mapM WrittenChar.plain? =
      some ((Decimal.digitsOf i.val).map id) := by
    refine mapM_map_eq_some fun c hc => ?_
    have hdigit := Decimal.isDigit_of_mem_digitsOf hc
    simp only [Char.isDigit, Bool.and_eq_true, decide_eq_true_eq] at hdigit
    have hcode : ¬ c.toNat < 0x20 := by
      have : 48 ≤ c.toNat := UInt32.le_iff_toNat_le.1 hdigit.1
      omega
    rw [WrittenChar.ofChar, if_neg fun h => hcode h.1]
    rfl
  rw [readIndex?, writtenString, natText, String.toList_ofList, hplain, Option.bind_some,
    List.map_id, indexOfDigits?_digitsOf]

/-- Sizes that the text keeps are read back. -/
theorem readSizes?_written {sizes : Sparse Index Binary64}
    (h : KeptInText (sizes.entries.map Prod.snd)) :
    readSizes? (sizesJson sizes).written = some sizes := by
  have hentries : (sizes.entries.map fun entry : Index × Binary64 =>
      (writtenString (natText entry.1.val), (Json.ofBinary64 entry.2).written)).mapM
        (fun member => do
          let i ← readIndex? member.1
          let size ← member.2.binary64?
          some (i, size)) = some (sizes.entries.map id) := by
    refine mapM_map_eq_some fun entry hentry => ?_
    obtain ⟨hfinite, hreads⟩ := h entry.2 (List.mem_map.2 ⟨entry, hentry, rfl⟩)
    rw [readIndex?_writtenString, WrittenJson.binary64?_written hfinite hreads]
    rfl
  rw [List.map_id] at hentries
  rw [readSizes?, sizesJson, written, Json.writtenMembers_eq_map, List.map_map,
    WrittenJson.members?]
  show Option.bind (List.mapM _ (sizes.entries.map fun entry : Index × Binary64 =>
    (writtenString (natText entry.1.val), (Json.ofBinary64 entry.2).written))) _ = _
  rw [hentries]
  exact congrArg some (Sparse.ofList_eq fun _ => Iff.rfl)

/-! ### Views -/

variable {view : SheetView}

/-- The numbers of a view are its scroll position and its sizes. -/
theorem keptInText_numbers_iff :
    KeptInText view.numbers ↔ KeptInText [view.scroll.left, view.scroll.top] ∧
      KeptInText (view.columnWidths.entries.map Prod.snd) ∧
      KeptInText (view.rowHeights.entries.map Prod.snd) := by
  rw [numbers, List.map_append, KeptInText, List.forall_mem_append, List.forall_mem_append]
  rfl

/-- The view of a sheet whose numbers the text keeps is read back. -/
theorem ofJson?_written (h : KeptInText view.numbers) :
    ofJson? view.toJson.written = some view := by
  obtain ⟨hscroll, hcolumns, hrows⟩ := keptInText_numbers_iff.1 h
  obtain ⟨hleft, hleftReads⟩ := hscroll view.scroll.left (by simp)
  obtain ⟨htop, htopReads⟩ := hscroll view.scroll.top (by simp)
  rw [ofJson?, toJson, WrittenJson.record?_written]
  · simp [Record.required?, Record.nullable?, Record.defaulted?, Record.field?, List.lookup_cons,
      WrittenJson.string?_written, orNull?_written, readSizes?_written hcolumns,
      readSizes?_written hrows, WrittenJson.binary64?_written hleft hleftReads,
      WrittenJson.binary64?_written htop htopReads]
  · rfl
  · decide

end SheetView

/-! ### Texts -/

section Readable

variable {depth : Nat}

/-- An index reads back from its text. -/
theorem readable_ofNat (i : Index) : (Json.ofNat i.val).Readable depth :=
  .number (JsonNumber.readsBack_natural (Nat.lt_trans i.isLt (by decide)))

/-- An address is an object of indices. -/
theorem SheetView.readable_addressJson (a : Address) : (addressJson a).Readable (depth + 1) := by
  refine .object ?_
  rintro member hmember
  simp only [List.mem_cons, List.not_mem_nil, or_false] at hmember
  rcases hmember with rfl | rfl
  · exact readable_ofNat a.row
  · exact readable_ofNat a.column

/-- A selection is an object of addresses. -/
theorem SheetView.readable_selectionJson (selection : Selection) :
    (selectionJson selection).Readable (depth + 2) := by
  refine .object ?_
  rintro member hmember
  simp only [List.mem_cons, List.not_mem_nil, or_false] at hmember
  rcases hmember with rfl | rfl
  · exact readable_addressJson selection.anchor
  · exact readable_addressJson selection.corner

/-- Sizes that the text keeps are an object of numbers that read back. -/
theorem SheetView.readable_sizesJson {sizes : Sparse Index Binary64}
    (h : KeptInText (sizes.entries.map Prod.snd)) : (sizesJson sizes).Readable (depth + 1) := by
  refine .object fun member hmember => ?_
  obtain ⟨entry, hentry, rfl⟩ := List.mem_map.1 hmember
  exact JsonFile.nested_ofBinary64 fun _ => (h entry.2 (List.mem_map.2 ⟨entry, hentry, rfl⟩)).2

/-- The view of a sheet is nested three deep. -/
theorem SheetView.readable_toJson {view : SheetView} (h : KeptInText view.numbers) :
    view.toJson.Readable (depth + 3) := by
  obtain ⟨hscroll, hcolumns, hrows⟩ := keptInText_numbers_iff.1 h
  refine .object ?_
  rintro member hmember
  simp only [List.mem_cons, List.not_mem_nil, or_false] at hmember
  rcases hmember with rfl | rfl | rfl | rfl | rfl | rfl
  · exact .string view.sheet
  · cases view.selection with
    | none => exact .null
    | some selection => exact readable_selectionJson selection
  · exact JsonFile.nested_ofBinary64 fun _ => (hscroll _ (by simp)).2
  · exact JsonFile.nested_ofBinary64 fun _ => (hscroll _ (by simp)).2
  · exact readable_sizesJson hcolumns
  · exact readable_sizesJson hrows

/-- The views of all sheets are nested five deep. -/
theorem FileView.readable_toJson {view : FileView} (h : KeptInText view.numbers) :
    view.toJson.Readable (depth + 5) := by
  refine .object ?_
  rintro member hmember
  simp only [List.mem_cons, List.not_mem_nil, or_false] at hmember
  rcases hmember with rfl | rfl
  · exact .string view.visible
  · refine .array fun item hitem => ?_
    obtain ⟨sheet, hsheet, rfl⟩ := List.mem_map.1 hitem
    exact SheetView.readable_toJson fun x hx => h x (List.mem_flatMap.2 ⟨sheet, hsheet, hx⟩)

end Readable

namespace FileView

variable {view : FileView}

/-- The views of all sheets are read back. -/
theorem ofJson?_written (h : KeptInText view.numbers) :
    ofJson? view.toJson.written = some view := by
  have hsheets : ((view.sheets.map SheetView.toJson).map Json.written).mapM SheetView.ofJson? =
      some (view.sheets.map id) := by
    rw [List.map_map]
    refine mapM_map_eq_some fun sheet hsheet => ?_
    exact SheetView.ofJson?_written fun x hx => h x (List.mem_flatMap.2 ⟨sheet, hsheet, hx⟩)
  rw [List.map_id] at hsheets
  have hread : ((Json.array (view.sheets.map SheetView.toJson)).written.items?.bind
      fun items => items.mapM SheetView.ofJson?) = some view.sheets := by
    rw [WrittenJson.items?_written, Option.bind_some, hsheets]
  rw [ofJson?, toJson, WrittenJson.record?_written]
  · simp [-List.map_map, Record.required?, Record.defaulted?, Record.field?, List.lookup_cons,
      WrittenJson.string?_written, hread]
  · rfl
  · decide

/-- A view is read back from its text, if its numbers are. -/
theorem read_text (h : KeptInText view.numbers) : read view.text = .ok view := by
  rw [read, text, WrittenJson.read?_compact (@readable_toJson 0 view h), Option.bind_some,
    ofJson?_written h]

end FileView

end EnsembleDesk
