import EnsembleDesk.Proofs.Book.JsonSheet
import EnsembleDesk.Proofs.Json.ReadBack
/-!
# Workbooks in JSON files

A workbook that is written to a JSON file is read back as it was: the same sheets in the same
order, each with its name, its cells, its used range and its sizes. The document lists the names of
the sheets, and a reader looks for each of them among the members of `Sheets`, which stand in the
order of their keys.

Texts of numbers are not always read back, even those of finite ones, so the bytes of a file are
read back if the numbers of the workbook are (`JsonNumber.ReadsBack`). The document is read back in
any case.

## Main results

* `JsonFile.ofJson_toJson_map`: the document of a workbook is read back sheet by sheet;
* `JsonFile.read_write`: so are the bytes, if the numbers are;
* `Workbook.read_write_built`: both hold of every workbook that was built sheet by sheet.
-/

namespace EnsembleDesk

/-! ### Numbers of documents -/

variable {P : JsonNumber → Prop} {depth : Nat}

/-- Settling a value moves its numbers, and nothing more. -/
theorem Json.Nested.settled {value : Json} (h : value.Nested P depth) :
    value.settled.Nested P depth := by
  induction h with
  | null =>
    rw [Json.settled]
    exact .null
  | bool b =>
    rw [Json.settled]
    exact .bool b
  | number hnumber =>
    rw [Json.settled]
    exact .number hnumber
  | string s =>
    rw [Json.settled]
    exact .string s
  | array _ ih =>
    rw [settled_array]
    refine .array fun item hitem => ?_
    obtain ⟨before, hbefore, rfl⟩ := List.mem_map.1 hitem
    exact ih before hbefore
  -- members may be dropped, and each one that is left was one before
  | object _ ih =>
    rw [settled_object]
    refine .object fun member hmember => ?_
    obtain ⟨before, hbefore, rfl⟩ := List.mem_map.1 (mem_settleMembers hmember)
    exact ih before hbefore

namespace JsonFile

/-- A number that is not finite is written as null, which is no number. -/
theorem nested_ofBinary64 {x : Binary64} (h : x.isFinite = true → P (.float x)) :
    (Json.ofBinary64 x).Nested P depth := by
  rw [Json.ofBinary64]
  split
  · rename_i hfinite
    exact .number (h hfinite)
  · exact .null

/-- A cell is nested at most one level deep, and its numbers have a property that all finite numbers
of the cell have. -/
theorem nested_cellJson {value : CellValue}
    (h : ∀ x ∈ value.numbers, x.isFinite = true → P (.float x)) :
    (cellJson value).Nested P (depth + 1) := by
  have hvalue : (valueJson value).Nested P depth := by
    cases value with
    | text s => exact .string s
    | number x => exact nested_ofBinary64 (h x (List.mem_singleton.2 rfl))
    | boolean b => exact .bool b
    | date d => exact .string d.text
  refine .object fun member hmember => ?_
  rcases List.mem_cons.1 hmember with rfl | hmember
  · exact .string _
  · rw [List.mem_singleton.1 hmember]
    exact hvalue

/-- Sizes are nested at most two levels deep, and their numbers have a property that all finite
sizes have. -/
theorem nested_of_mem_sizesJson {key : String} {sizes : Sizes Binary64} {list : Json}
    (h : ∀ i x, sizes.own.get? i = some x → x.isFinite = true → P (.float x))
    (hlist : sizesJson key sizes = some list) : list.Nested P (depth + 2) := by
  rw [sizesJson_eq] at hlist
  obtain ⟨last, -, rfl⟩ := Option.map_eq_some_iff.1 hlist
  refine .array fun item hitem => ?_
  obtain ⟨i, -, rfl⟩ := List.mem_map.1 hitem
  cases hsize : sizes.own.get? (.capped i) with
  | none => exact .null
  | some x =>
    refine .object fun member hmember => ?_
    rw [List.mem_singleton.1 hmember]
    exact nested_ofBinary64 (h _ x hsize)

/-- A sheet is nested at most three levels deep, and its numbers have a property that all finite
numbers of the sheet have. -/
theorem nested_sheetJson {sheet : Worksheet}
    (h : ∀ x ∈ sheet.numbers, x.isFinite = true → P (.float x)) :
    (sheetJson sheet).Nested P (depth + 3) := by
  have hsizes : ∀ axis i x, (sheet.sizes axis).own.get? i = some x →
      x.isFinite = true → P (.float x) :=
    fun axis i x hx => h x (Worksheet.mem_numbers_of_size hx)
  rw [sheetJson_eq]
  refine .object fun member hmember => ?_
  rcases List.mem_append.1 hmember with hnote | hcell
  · rcases List.mem_append.1 hnote with hnote | hrows
    · rcases List.mem_append.1 hnote with hused | hcolumns
      · obtain ⟨range, -, rfl⟩ := Option.map_eq_some_iff.1 (Option.mem_toList.1 hused)
        exact .string _
      · obtain ⟨list, hlist, rfl⟩ := Option.map_eq_some_iff.1 (Option.mem_toList.1 hcolumns)
        exact nested_of_mem_sizesJson (hsizes .column) hlist
    · obtain ⟨list, hlist, rfl⟩ := Option.map_eq_some_iff.1 (Option.mem_toList.1 hrows)
      exact nested_of_mem_sizesJson (hsizes .row) hlist
  · obtain ⟨cell, hmem, rfl⟩ := List.mem_map.1 hcell
    exact nested_cellJson fun x hx => h x (Worksheet.mem_numbers_of_cell hmem hx)

/-- The numbers of the document of a workbook are its finite numbers. -/
theorem nested_toJson {book : Workbook}
    (h : ∀ sheet ∈ book.sheets, ∀ x ∈ sheet.numbers, x.isFinite = true → P (.float x)) :
    (toJson book).Nested P (depth + 5) := by
  refine Json.Nested.settled (.object fun member hmember => ?_)
  rcases List.mem_cons.1 hmember with rfl | hmember
  · refine .array fun item hitem => ?_
    obtain ⟨name, -, rfl⟩ := List.mem_map.1 hitem
    exact .string name
  · rw [List.mem_singleton.1 hmember]
    refine .object fun member hmember => ?_
    obtain ⟨sheet, hsheet, rfl⟩ := List.mem_map.1 hmember
    exact nested_sheetJson (h sheet hsheet)

/-! ### The document -/

/-- The members of `Sheets` as a reader holds them. -/
def sheetObjects (book : Workbook) : List (String × Json) :=
  book.sheets.map fun sheet => (sheet.name, .object (settleMembers (sheetMembers sheet)))

/-- A workbook is written as the names of its sheets and the sheets under their names, each with its
members settled. -/
theorem toJson_eq (book : Workbook) :
    toJson book = .object (settleMembers [("SheetNames", .array (book.names.map Json.string)),
      ("Sheets", .object (settleMembers (sheetObjects book)))]) := by
  have hnames : (book.names.map Json.string).map Json.settled = book.names.map Json.string := by
    rw [List.map_map]
    refine List.map_congr_left fun name _ => ?_
    rw [Function.comp_apply, Json.settled]
  have hsheets : (book.sheets.map fun sheet => (sheet.name, sheetJson sheet)).map
      (fun member => (member.1, member.2.settled)) = sheetObjects book := by
    rw [List.map_map]
    refine List.map_congr_left fun sheet _ => ?_
    rw [Function.comp_apply, settled_sheetJson]
  rw [toJson, Json.settled_object, List.map_cons, List.map_cons, List.map_nil, Json.settled_array,
    Json.settled_object, hnames, hsheets]

/-- A reader finds the names of the sheets, and the sheets themselves. -/
theorem get?_toJson (book : Workbook) :
    (toJson book).get? "SheetNames" = some (.array (book.names.map Json.string)) ∧
    (toJson book).get? "Sheets" = some (.object (settleMembers (sheetObjects book))) := by
  have hkeys : ∀ names sheets : Json,
      ([("SheetNames", names), ("Sheets", sheets)].map Prod.fst).Nodup :=
    fun _ _ => show ["SheetNames", "Sheets"].Nodup by decide
  rw [toJson_eq, Json.get?, Json.get?, lookup_settleMembers (hkeys _ _),
    lookup_settleMembers (hkeys _ _)]
  exact ⟨rfl, rfl⟩

/-- A sheet is found under its name, wherever it stands among the sheets. -/
theorem readNamed_toJson {book : Workbook} (hnames : book.names.Nodup) (before : Workbook)
    {sheet : Worksheet} (hsheet : sheet ∈ book.sheets) :
    readNamed (toJson book) before (.string sheet.name) =
      (readSheet sheet.name (settleMembers (sheetMembers sheet))).map before.push := by
  have hkeys : ((sheetObjects book).map Prod.fst).Nodup := by
    rw [sheetObjects, List.map_map]
    exact hnames
  have hmem : (sheet.name, Json.object (settleMembers (sheetMembers sheet))) ∈ sheetObjects book :=
    List.mem_map.2 ⟨sheet, hsheet, rfl⟩
  have hlookup := (lookup_eq_some_iff_mem hkeys).2 hmem
  have hfound : (((toJson book).get? "Sheets").bind (·.get? sheet.name)).bind Json.members? =
      some (settleMembers (sheetMembers sheet)) := by
    rw [(get?_toJson book).2, Option.bind_some, Json.get?, lookup_settleMembers hkeys, hlookup]
    rfl
  simp only [readNamed, Json.string?, hfound]

/-- The sheets are read in the order of their names in the document, and each is added at the
end. -/
theorem ofJson_toJson_map {book : Workbook} (hnames : book.names.Nodup)
    {reading : Worksheet → Worksheet}
    (hname : ∀ sheet, (reading sheet).name = sheet.name)
    (hsheets : ∀ sheet ∈ book.sheets,
      readSheet sheet.name (settleMembers (sheetMembers sheet)) = .ok (reading sheet)) :
    ofJson (toJson book) = .ok ⟨book.sheets.map reading⟩ := by
  -- after some sheets, what has been read are their readings
  have hfold : ∀ rest before : List Worksheet, before ++ rest = book.sheets →
      (rest.map fun sheet => Json.string sheet.name).foldlM (readNamed (toJson book))
        ⟨before.map reading⟩ = .ok ⟨book.sheets.map reading⟩ := by
    intro rest
    induction rest with
    | nil =>
      intro before hbefore
      rw [List.append_nil] at hbefore
      rw [hbefore]
      rfl
    | cons sheet rest ih =>
      intro before hbefore
      have hsheet : sheet ∈ book.sheets := hbefore ▸ List.mem_append_right _ List.mem_cons_self
      -- the sheet has another name than those before it, so it replaces none of them
      have hnew : (reading sheet).name ∉ (Workbook.mk (before.map reading)).names := by
        rw [Workbook.names, ← hbefore, List.map_append, List.map_cons] at hnames
        have hbeforeNames :
            (before.map reading).map Worksheet.name = before.map Worksheet.name := by
          rw [List.map_map]
          exact List.map_congr_left fun other _ => hname other
        rw [hname, Workbook.names, hbeforeNames]
        intro hmem
        exact (List.nodup_append.1 hnames).2.2 _ hmem _ List.mem_cons_self rfl
      have hpush : (Workbook.mk (before.map reading)).push (reading sheet) =
          ⟨(before ++ [sheet]).map reading⟩ := by
        rw [List.map_append]
        exact if_neg (mt List.contains_iff_mem.1 hnew)
      rw [List.map_cons, List.foldlM_cons, readNamed_toJson hnames _ hsheet, hsheets sheet hsheet]
      show List.foldlM _ ((Workbook.mk (before.map reading)).push (reading sheet)) _ = _
      rw [hpush]
      exact ih _ (by rw [List.append_assoc, List.singleton_append, hbefore])
  rw [ofJson, (get?_toJson book).1, Option.bind_some, Json.items?]
  have hall := hfold book.sheets [] rfl
  rw [Workbook.names, List.map_map]
  exact hall

/-- A workbook whose sheets are read back as they were is. -/
theorem ofJson_toJson {book : Workbook} (hnames : book.names.Nodup)
    (hsheets : ∀ sheet ∈ book.sheets,
      readSheet sheet.name (settleMembers (sheetMembers sheet)) = .ok sheet) :
    ofJson (toJson book) = .ok book := by
  have hall := @ofJson_toJson_map book hnames id (fun _ => rfl) hsheets
  rwa [List.map_id] at hall

/-- What is read from the document of a workbook is read from its bytes, if its numbers are read
back. -/
theorem read_write {book reading : Workbook} (h : ofJson (toJson book) = .ok reading)
    (hnumbers : ∀ sheet ∈ book.sheets, ∀ x ∈ sheet.numbers, (JsonNumber.float x).ReadsBack) :
    read (write book) = .ok reading := by
  have hdocument : Json.read? (toJson book).pretty = some (toJson book) :=
    Json.read?_pretty (nested_toJson fun sheet hsheet x hx _ => hnumbers sheet hsheet x hx)
  -- a reader settles the document, which is settled as it is written
  have hsettled : (toJson book).settled = toJson book := Json.settled_settled _
  rw [read, write, ofUtf8?_utf8, Option.bind_some, hdocument]
  dsimp only
  rw [hsettled, h]

end JsonFile

/-- A workbook that was built sheet by sheet is read back: from its document, and from the bytes of
a file if the texts of its numbers are read back. -/
theorem Workbook.read_write_built (sheets : List (String × List SheetEdit))
    (hfinite : ∀ sheet ∈ (built sheets).sheets, ∀ x ∈ sheet.numbers, x.isFinite = true)
    (hbounded : ∀ sheet ∈ (built sheets).sheets, sheet.Bounded) :
    JsonFile.ofJson (JsonFile.toJson (built sheets)) = .ok (built sheets) ∧
    ((∀ sheet ∈ (built sheets).sheets, ∀ x ∈ sheet.numbers, (JsonNumber.float x).ReadsBack) →
      JsonFile.read (JsonFile.write (built sheets)) = .ok (built sheets)) := by
  have hdocument : JsonFile.ofJson (JsonFile.toJson (built sheets)) = .ok (built sheets) := by
    refine JsonFile.ofJson_toJson (orderly_built sheets).names fun sheet hsheet => ?_
    exact JsonFile.readSheet_settled (regular_built sheets sheet hsheet) (hfinite sheet hsheet)
      (hbounded sheet hsheet)
  exact ⟨hdocument, JsonFile.read_write hdocument⟩

/-- A sheet with cells of every kind, of which a row was moved and a cell cleared, and a sheet that
has nothing but a used range and a wide column. -/
def Workbook.kindsAndSizes : List (String × List SheetEdit) :=
  [("Kinds", [.set ⟨0, 0⟩ (.text "x"), .set ⟨0, 1⟩ (.number 2.0), .set ⟨1, 0⟩ (.boolean true),
      .set ⟨1, 1⟩ (.date ⟨2024, 3, 1, 12, 30, 0, by decide⟩), .insertLine .row 1,
      .clear ⟨0, 0⟩]),
    ("Sizes", [.cover (.spanning ⟨1, 1⟩ ⟨3, 2⟩), .resize .column 1 150.0, .deleteLine .column 0])]

theorem Workbook.read_write_kindsAndSizes :
    JsonFile.read (JsonFile.write (built kindsAndSizes)) = .ok (built kindsAndSizes) :=
  (read_write_built kindsAndSizes (by decide +kernel) (by decide +kernel)).2 (by decide +kernel)

end EnsembleDesk
