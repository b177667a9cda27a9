import Mathlib.Data.List.Perm.Basic
import EnsembleDesk.Book.JsonFile
import EnsembleDesk.Proofs.Book.Built
import EnsembleDesk.Proofs.Json.Settled
import EnsembleDesk.Proofs.Result
import EnsembleDesk.Proofs.Sheet.AddressText
import EnsembleDesk.Proofs.Sheet.DateText
/-!
# Sheets in JSON files

The object of a sheet is read back member by member: each cell (`JsonFile.readCell_cellJson`), the
sizes along an axis (`JsonFile.readSizes_sizesJson`), and the used range, which must not come out
larger than it is written although every cell that is read extends it. Since a reader holds the
members in another order than they are written, the cells may come in any order.

## Main results

* `JsonFile.readSheet_settled_reading`: a sheet of finite cells and bounded addresses is read, with
  those of its sizes that are finite;
* `JsonFile.readSheet_settled_of_covered`: a sheet of finite numbers and bounded addresses is read
  back, but for the common sizes of its lines;
* `JsonFile.readSheet_settled`: a regular sheet is read back as it was.
-/

namespace EnsembleDesk

namespace JsonFile

/-! ### Cells -/

/-- A finite number is written as a number. -/
theorem ofBinary64_of_isFinite {x : Binary64} (h : x.isFinite = true) :
    Json.ofBinary64 x = .number (.float x) := if_pos h

/-- There is nothing to settle in a number. -/
theorem settled_ofBinary64 (x : Binary64) : (Json.ofBinary64 x).settled = .ofBinary64 x := by
  rw [Json.ofBinary64]
  split <;> rw [Json.settled]

/-- There is nothing to settle in the value of a cell. -/
theorem settled_valueJson (value : CellValue) : (valueJson value).settled = valueJson value := by
  cases value with
  | number x => exact settled_ofBinary64 x
  | _ => rw [valueJson, Json.settled]

/-- The two members of a cell are in order. -/
theorem settled_cellJson (value : CellValue) : (cellJson value).settled = cellJson value := by
  -- the two keys are written in their order
  have htag : "t" < "v" := by decide
  rw [cellJson, Json.settled_object, List.map_cons, List.map_cons, List.map_nil,
    settled_valueJson, Json.settled]
  refine congrArg Json.object (settleMembers_of_sorted ?_)
  exact List.pairwise_pair.2 htag

/-- The tag of a type is read as that type. -/
theorem ofTag?_tag (type : CellType) : CellType.ofTag? type.tag = some type := by
  cases type <;> decide

/-- A finite value is read back with its type. -/
theorem readValue?_valueJson {value : CellValue} (h : value.IsFinite) :
    readValue? value.type (valueJson value) = some (.ok value) := by
  cases value with
  | text s => rfl
  | number x =>
    have hx : x.isFinite = true := h
    simp only [CellValue.type, readValue?, valueJson, ofBinary64_of_isFinite hx, Json.binary64?,
      JsonNumber.toBinary64, Option.map_some, CellValue.ofNumber, if_pos hx]
  | boolean b => rfl
  | date d =>
    have hdate : DateTime.read? d.text.toList = some d := by
      rw [DateTime.text, String.toList_ofList, DateTime.read?_chars]
    simp only [CellValue.type, readValue?, valueJson, Json.string?, Option.bind_some, hdate,
      Option.map_some]

/-- A cell of a finite value is read back. -/
theorem readCell_cellJson (key : String) {value : CellValue} (h : value.IsFinite) :
    readCell key (cellJson value) = .ok value := by
  have hrecord : (cellJson value).record? ["t", "v"] =
      some ⟨true, [("t", .string value.type.tag), ("v", valueJson value)]⟩ := rfl
  have htype : (⟨true, [("t", .string value.type.tag), ("v", valueJson value)]⟩ :
      Record Json).required? "t" (fun t => t.variantName?.bind CellType.ofTag?) =
        some value.type := ofTag?_tag value.type
  have hvalue : (⟨true, [("t", .string value.type.tag), ("v", valueJson value)]⟩ :
      Record Json).required? "v" some = some (valueJson value) := rfl
  simp only [readCell, hrecord, htype, hvalue, Option.bind_eq_bind, Option.bind_some,
    readValue?_valueJson h, Option.getD_some]

/-! ### Sizes -/

/-- The entry of a line in the list of sizes along an axis. -/
def sizeEntry (key : String) (size : Option Binary64) : Json :=
  match size with
  | some size => .object [(key, .ofBinary64 size)]
  | none => .null

/-- The sizes are listed up to the last line that has one of its own. -/
theorem sizesJson_eq (key : String) (sizes : Sizes Binary64) :
    sizesJson key sizes = sizes.own.positions.getLast?.map fun last =>
      .array ((List.range (last.val + 1)).map fun i =>
        sizeEntry key (sizes.own.get? (.capped i))) := by
  unfold sizesJson sizeEntry
  rfl

/-- There is nothing to settle in the entry of a size, which repeats no key. -/
theorem settled_sizeEntry (key : String) (size : Option Binary64) :
    (sizeEntry key size).settled = sizeEntry key size := by
  cases size with
  | none => rw [sizeEntry, Json.settled]
  | some size =>
    rw [sizeEntry, Json.settled_object, List.map_cons, List.map_nil, settled_ofBinary64]
    rfl

/-- There is nothing to settle in a list of sizes. -/
theorem settled_sizesJson (key : String) (sizes : Sizes Binary64) :
    (sizesJson key sizes).map Json.settled = sizesJson key sizes := by
  rw [sizesJson_eq, Option.map_map]
  refine congrArg (Option.map · _) (funext fun last => ?_)
  rw [Function.comp_apply, Json.settled_array, List.map_map]
  refine congrArg Json.array (List.map_congr_left fun i _ => ?_)
  exact settled_sizeEntry key _

/-- A finite size is read back from its entry, and so is none. -/
theorem readSize?_sizeEntry {key : String} {size : Option Binary64}
    (h : ∀ x ∈ size, x.isFinite = true) : readSize? key (sizeEntry key size) = size := by
  cases size with
  | none => rfl
  | some x =>
    have hx := h x rfl
    have hrecord : (sizeEntry key (some x)).record? [key] =
        some ⟨true, [(key, .number (.float x))]⟩ := by
      simp [sizeEntry, ofBinary64_of_isFinite hx, Json.record?, Record.ofMembers?]
    simp only [readSize?, hrecord, Option.bind_some, Record.nullable?, Record.field?,
      List.lookup_cons_self]
    rfl

/-- Numbering a list that is made of numbers gives these numbers. -/
theorem zipIdx_map_range {α : Type} (f : Nat → α) (n : Nat) :
    ((List.range n).map f).zipIdx = (List.range n).map fun i => (f i, i) := by
  refine List.ext_getElem (by simp) fun i _ _ => ?_
  simp

/-- The lines that are given a size of their own are those that have one. -/
theorem entries_of_lines {own : Sparse Index Binary64} {last : Index}
    (hlast : own.positions.getLast? = some last) :
    (List.range (last.val + 1)).filterMap
      (fun i => (own.get? (.capped i)).map fun size => (Index.capped i, size)) = own.entries := by
  -- the numbers of lines up to the last one are indices themselves
  have hcapped : ∀ i ∈ List.range (last.val + 1), (Index.capped i).val = i := by
    intro i hi
    have hle := List.mem_range.1 hi
    have hlt := last.isLt
    rw [Index.val_capped]
    omega
  refine Sparse.entries_eq ?_ fun entry => ?_
  · refine List.pairwise_filterMap.2 (List.pairwise_lt_range.imp_of_mem fun hi hj hlt => ?_)
    intro entry hentry other hother
    obtain ⟨_, -, rfl⟩ := Option.map_eq_some_iff.1 hentry
    obtain ⟨_, -, rfl⟩ := Option.map_eq_some_iff.1 hother
    show (Index.capped _).val < (Index.capped _).val
    rw [hcapped _ hi, hcapped _ hj]
    exact hlt
  · rw [List.mem_filterMap]
    constructor
    · rintro ⟨i, -, hentry⟩
      obtain ⟨size, hsize, rfl⟩ := Option.map_eq_some_iff.1 hentry
      exact Sparse.get?_eq_some_iff.1 hsize
    -- no line behind the last one has a size of its own
    · intro hentry
      have hle : entry.1.val ≤ last.val :=
        Sparse.number_le_of_getLast? hlast (List.mem_map.2 ⟨entry, hentry, rfl⟩)
      have hmem : entry.1.val ∈ List.range (last.val + 1) := List.mem_range.2 (by omega)
      have hposition : Index.capped entry.1.val = entry.1 := Fin.ext (hcapped _ hmem)
      refine ⟨entry.1.val, hmem, ?_⟩
      rw [hposition, Sparse.get?_eq_some_iff.2 hentry]
      rfl

/-- The sizes that are read are those of the lines that have a size of their own. -/
theorem readSizes_sizesJson (key : String) (base : Sizes Binary64) {sizes : Sizes Binary64}
    (h : ∀ i x, sizes.own.get? i = some x → x.isFinite = true) :
    readSizes key base (sizesJson key sizes) = base.setAll sizes.own.entries := by
  rw [readSizes, sizesJson_eq]
  cases hlast : sizes.own.positions.getLast? with
  | none =>
    have hentries : sizes.own.entries = [] :=
      List.map_eq_nil_iff.1 (List.getLast?_eq_none_iff.1 hlast)
    rw [hentries]
    rfl
  | some last =>
    rw [Option.map_some, Option.bind_some, Json.items?, Option.getD_some, zipIdx_map_range,
      List.filterMap_map]
    refine congrArg base.setAll (Eq.trans ?_ (entries_of_lines hlast))
    refine congrArg (List.filterMap · _) (funext fun i => ?_)
    simp only [Function.comp_apply, readSize?_sizeEntry (h (.capped i))]

/-! ### Members of a sheet -/

/-- The members of a sheet that are no cells. -/
def noteMembers (sheet : Worksheet) : List (String × Json) :=
  (sheet.used.map fun range => ("!ref", Json.string range.text)).toList ++
    ((sizesJson "wpx" sheet.columns).map fun sizes => ("!cols", sizes)).toList ++
    ((sizesJson "hpx" sheet.rows).map fun sizes => ("!rows", sizes)).toList

/-- The members that are cells. -/
def cellMembers (cells : List (Address × CellValue)) : List (String × Json) :=
  cells.map fun cell => (cell.1.text, cellJson cell.2)

/-- The members of a sheet as they are written. -/
def sheetMembers (sheet : Worksheet) : List (String × Json) :=
  noteMembers sheet ++ cellMembers sheet.cells.entries

/-- A sheet is written as its members. -/
theorem sheetJson_eq (sheet : Worksheet) : sheetJson sheet = .object (sheetMembers sheet) := rfl

/-- There is nothing to settle in the members of a sheet. -/
theorem settled_sheetMembers (sheet : Worksheet) :
    (sheetMembers sheet).map (fun member => (member.1, member.2.settled)) = sheetMembers sheet := by
  have hsizes : ∀ (key name : String) (sizes : Sizes Binary64),
      ((sizesJson key sizes).map fun list => (name, list.settled)) =
        (sizesJson key sizes).map fun list => (name, list) := by
    intro key name sizes
    conv => rhs; rw [← settled_sizesJson, Option.map_map]
    rfl
  have hcells : (cellMembers sheet.cells.entries).map
      (fun member => (member.1, member.2.settled)) = cellMembers sheet.cells.entries := by
    rw [cellMembers, List.map_map]
    refine List.map_congr_left fun cell _ => ?_
    rw [Function.comp_apply, settled_cellJson]
  rw [sheetMembers, List.map_append, hcells, noteMembers, List.map_append, List.map_append]
  simp only [← Option.toList_map, Option.map_map, Function.comp_def, hsizes, Json.settled]

/-- A reader holds the members of a sheet in the order of their keys. -/
theorem settled_sheetJson (sheet : Worksheet) :
    (sheetJson sheet).settled = .object (settleMembers (sheetMembers sheet)) := by
  rw [sheetJson_eq, Json.settled_object, settled_sheetMembers]

/-- Whether a key is that of a member that is no cell. -/
def isNote (key : String) : Bool := startsWith key.toList ['!']

/-- The text of an address is no key of another member. -/
theorem isNote_text (a : Address) : isNote a.text = false := by
  rw [isNote, Address.text, String.toList_ofList]
  cases hchars : a.chars with
  | nil => exact absurd hchars a.chars_ne_nil
  | cons c rest =>
    have hc : c ≠ '!' := by
      rintro rfl
      exact Address.not_mem_chars rfl rfl (hchars ▸ List.mem_cons_self)
    have hhead : ('!' == c) = false := beq_eq_false_iff_ne.2 hc.symm
    rw [startsWith, List.isPrefixOf_cons_cons, hhead, Bool.false_and]

/-- The members that are no cells have three keys at most. -/
theorem keys_noteMembers (sheet : Worksheet) :
    ((noteMembers sheet).map Prod.fst).Sublist ["!ref", "!cols", "!rows"] := by
  have hkey : ∀ (key : String) (value : Option Json),
      ((value.map fun json => (key, json)).toList.map Prod.fst).Sublist [key] := by
    intro key value
    cases value with
    | none => exact List.nil_sublist _
    | some json => exact List.Sublist.refl _
  rw [noteMembers, List.map_append, List.map_append]
  have hused := hkey "!ref" (sheet.used.map fun range => .string range.text)
  rw [Option.map_map] at hused
  exact (hused.append (hkey "!cols" _)).append (hkey "!rows" _)

/-- The members that are no cells have keys that are no addresses. -/
theorem isNote_of_mem_noteMembers {sheet : Worksheet} {member : String × Json}
    (h : member ∈ noteMembers sheet) : isNote member.1 = true := by
  have hkeys : ∀ key ∈ ["!ref", "!cols", "!rows"], isNote key = true := by decide
  exact hkeys _ ((keys_noteMembers sheet).subset (List.mem_map.2 ⟨member, h, rfl⟩))

/-- The members that are cells have addresses for keys. -/
theorem isNote_of_mem_cellMembers {cells : List (Address × CellValue)} {member : String × Json}
    (h : member ∈ cellMembers cells) : isNote member.1 = false := by
  obtain ⟨cell, -, rfl⟩ := List.mem_map.1 h
  exact isNote_text cell.1

/-- The members of a sheet have different keys. -/
theorem sheetMembers_nodup {sheet : Worksheet}
    (h : ∀ cell ∈ sheet.cells.entries, cell.1.Bounded) :
    ((sheetMembers sheet).map Prod.fst).Nodup := by
  rw [sheetMembers, List.map_append]
  refine List.nodup_append.2 ⟨(keys_noteMembers sheet).nodup (by decide), ?_, ?_⟩
  · rw [cellMembers, List.map_map]
    refine List.pairwise_map.2 (sheet.cells.ordered.imp_of_mem fun hfirst hsecond hlt heq => ?_)
    rw [Address.text_injective (h _ hfirst) (h _ hsecond) heq] at hlt
    exact Nat.lt_irrefl _ hlt
  -- a note and a cell never have the same key, since addresses begin with a letter
  · intro key hkey other hother heq
    obtain ⟨note, hnote, rfl⟩ := List.mem_map.1 hkey
    obtain ⟨cell, hcell, rfl⟩ := List.mem_map.1 hother
    have hsame := congrArg isNote heq
    rw [isNote_of_mem_noteMembers hnote, isNote_of_mem_cellMembers hcell] at hsame
    cases hsame

/-! ### Reading the cells -/

/-- The first of several members is read first. -/
theorem readCells_cons (sheet : Worksheet) (key : String) (cell : Json)
    (members : List (String × Json)) :
    readCells sheet ((key, cell) :: members) =
      (if isNote key then .ok sheet else do
        let a ← readAddress key
        let value ← readCell key cell
        .ok (sheet.set a value)) >>= fun next => readCells next members := by
  rw [readCells, List.foldlM_cons]
  rfl

/-- Members that are no cells are passed over. -/
theorem readCells_filter (sheet : Worksheet) (members : List (String × Json)) :
    readCells sheet members = readCells sheet (members.filter fun member => !isNote member.1) := by
  induction members generalizing sheet with
  | nil => rfl
  | cons member members ih =>
    obtain ⟨key, cell⟩ := member
    cases hnote : isNote key with
    | true =>
      rw [List.filter_cons_of_neg (by simp [hnote]), readCells_cons, if_pos hnote, Except.ok_bind,
        ih]
    | false =>
      rw [List.filter_cons_of_pos (by simp [hnote]), readCells_cons, readCells_cons]
      exact congrArg _ (funext fun next => ih next)

/-- The sheet after several cells were written. -/
def setCells (sheet : Worksheet) (cells : List (Address × CellValue)) : Worksheet :=
  cells.foldl (fun sheet cell => sheet.set cell.1 cell.2) sheet

/-- An address that is not at the last index is read back. -/
theorem readAddress_text {a : Address} (h : a.Bounded) : readAddress a.text = .ok a := by
  rw [readAddress, Address.text, String.toList_ofList, Address.read?_chars h]

/-- The members that are cells are read one after the other. -/
theorem readCells_cellMembers (sheet : Worksheet) {cells : List (Address × CellValue)}
    (h : ∀ cell ∈ cells, cell.1.Bounded ∧ cell.2.IsFinite) :
    readCells sheet (cellMembers cells) = .ok (setCells sheet cells) := by
  induction cells generalizing sheet with
  | nil => rfl
  | cons cell cells ih =>
    obtain ⟨hbounded, hfinite⟩ := h cell List.mem_cons_self
    have hrest := ih (sheet.set cell.1 cell.2) fun other hmem =>
      h other (List.mem_cons_of_mem _ hmem)
    rw [cellMembers] at hrest
    rw [cellMembers, List.map_cons, readCells_cons, isNote_text, readAddress_text hbounded,
      readCell_cellJson _ hfinite]
    exact hrest

/-- In whatever order a reader holds the members of a sheet, it finds all its cells. -/
theorem exists_readCells {sheet : Worksheet} {members : List (String × Json)} (start : Worksheet)
    (hmembers : members.Perm (sheetMembers sheet))
    (h : ∀ cell ∈ sheet.cells.entries, cell.1.Bounded ∧ cell.2.IsFinite) :
    ∃ cells, cells.Perm sheet.cells.entries ∧
      readCells start members = .ok (setCells start cells) := by
  have hnotes : (noteMembers sheet).filter (fun member => !isNote member.1) = [] := by
    refine List.filter_eq_nil_iff.2 fun member hmem => ?_
    rw [isNote_of_mem_noteMembers hmem]
    decide
  have hcells : (cellMembers sheet.cells.entries).filter (fun member => !isNote member.1) =
      cellMembers sheet.cells.entries := by
    refine List.filter_eq_self.2 fun member hmem => ?_
    rw [isNote_of_mem_cellMembers hmem]
    rfl
  have hfilter := hmembers.filter fun member => !isNote member.1
  rw [sheetMembers, List.filter_append, hnotes, hcells, List.nil_append] at hfilter
  -- the members that are left are the cells of a list in the order of the members
  obtain ⟨cells, hread, hperm⟩ : Relation.Comp (· = List.map (fun cell : Address × CellValue =>
      (cell.1.text, cellJson cell.2)) ·) List.Perm
      (members.filter fun member => !isNote member.1) sheet.cells.entries := by
    rw [List.eq_map_comp_perm]
    exact hfilter
  refine ⟨cells, hperm, ?_⟩
  rw [readCells_filter, hread]
  exact readCells_cellMembers start fun cell hmem => h cell (hperm.mem_iff.1 hmem)

/-! ### Reading a sheet -/

/-- Writing cells changes the cells and the used range alone. -/
theorem setCells_eq (sheet : Worksheet) (cells : List (Address × CellValue)) :
    setCells sheet cells =
      { sheet with
        cells := cells.foldl (fun table cell => table.insert cell.1 cell.2) sheet.cells
        used := (setCells sheet cells).used } := by
  induction cells generalizing sheet with
  | nil => rfl
  | cons cell cells ih => exact ih (sheet.set cell.1 cell.2)

/-- Cells that are all within a range leave the used range within it. -/
theorem used_setCells {sheet : Worksheet} {cells : List (Address × CellValue)} {range : CellRange}
    (hcells : ∀ cell ∈ cells, cell.1 ∈ range) (hsheet : ∀ used ∈ sheet.used, used.Within range) :
    ∀ used ∈ (setCells sheet cells).used, used.Within range := by
  induction cells generalizing sheet with
  | nil => exact hsheet
  | cons cell cells ih =>
    have hcell := hcells cell List.mem_cons_self
    have hnext : ∀ used ∈ (sheet.set cell.1 cell.2).used, used.Within range := by
      intro used hused
      rw [Worksheet.set, Worksheet.cover, Option.mem_some] at hused
      rw [← hused]
      cases hbefore : sheet.used with
      | none => exact .single hcell
      | some before => exact (hsheet before hbefore).union_single hcell
    exact ih (fun other hmem => hcells other (List.mem_cons_of_mem _ hmem)) hnext

/-- A range that holds all the cells is the used range when it is covered after them. -/
theorem cover_setCells_empty {name : String} {cells : List (Address × CellValue)}
    {range : CellRange} (h : ∀ cell ∈ cells, cell.1 ∈ range) :
    ((setCells (.empty name) cells).cover range).used = some range := by
  have hempty : ∀ used ∈ (Worksheet.empty name).used, used.Within range :=
    fun used hnone => nomatch hnone
  have hwithin := used_setCells h hempty
  rw [Worksheet.cover]
  cases hused : (setCells (.empty name) cells).used with
  | none => rfl
  | some used =>
    show some (used.union range) = some range
    rw [(hwithin used hused).union_eq]

/-- Settling finds under a key what is written under it. -/
theorem lookup_settleMembers {α : Type} {members : List (String × α)}
    (h : (members.map Prod.fst).Nodup) (key : String) :
    (settleMembers members).lookup key = members.lookup key := by
  have hperm := perm_settleMembers h
  have hsettled := (hperm.map Prod.fst).nodup_iff.2 h
  refine Option.ext fun value => ?_
  rw [lookup_eq_some_iff_mem hsettled, lookup_eq_some_iff_mem h, hperm.mem_iff]

/-- No cell is found under the key of another member. -/
theorem lookup_cellMembers {key : String} (h : isNote key = true)
    (cells : List (Address × CellValue)) : (cellMembers cells).lookup key = none := by
  refine List.lookup_eq_none_iff.2 fun member hmem => ?_
  have hmember := isNote_of_mem_cellMembers hmem
  refine bne_iff_ne.2 fun heq => ?_
  rw [← heq, h] at hmember
  cases hmember

/-- Each note is found under its own key. -/
theorem lookup_sheetMembers (sheet : Worksheet) :
    (sheetMembers sheet).lookup "!ref" = sheet.used.map (fun range => Json.string range.text) ∧
    (sheetMembers sheet).lookup "!cols" = sizesJson "wpx" sheet.columns ∧
    (sheetMembers sheet).lookup "!rows" = sizesJson "hpx" sheet.rows := by
  -- no cell is found under the key of a note
  have hnotes : ∀ key, isNote key = true →
      (sheetMembers sheet).lookup key = (noteMembers sheet).lookup key := by
    intro key hkey
    rw [sheetMembers, List.lookup_append, lookup_cellMembers hkey, Option.or_none]
  rw [hnotes "!ref" (by decide), hnotes "!cols" (by decide), hnotes "!rows" (by decide),
    noteMembers]
  refine ⟨?_, ?_, ?_⟩ <;> cases sheet.used <;> cases sizesJson "wpx" sheet.columns <;>
    cases sizesJson "hpx" sheet.rows <;> rfl

end JsonFile

attribute [ext] Worksheet

namespace CellValue

/-- The number that a cell holds, if it holds one. -/
def numbers : CellValue → List Binary64
  | number x => [x]
  | _ => []

/-- A value is finite if its number is. -/
theorem isFinite_of_numbers {value : CellValue} (h : ∀ x ∈ value.numbers, x.isFinite = true) :
    value.IsFinite := by
  cases value with
  | number x => exact h x (List.mem_singleton.2 rfl)
  | _ => trivial

end CellValue

namespace Worksheet

/-- The numbers of a sheet: those in its cells, and the sizes that lines have of their own. -/
def numbers (sheet : Worksheet) : List Binary64 :=
  sheet.cells.entries.flatMap (fun cell => cell.2.numbers) ++
    sheet.columns.own.entries.map Prod.snd ++ sheet.rows.own.entries.map Prod.snd

/-- All cells, and the whole used range, come before the last row and column. -/
def Bounded (sheet : Worksheet) : Prop :=
  (∀ cell ∈ sheet.cells.entries, cell.1.Bounded) ∧ ∀ range ∈ sheet.used, range.stop.Bounded

instance (sheet : Worksheet) : Decidable sheet.Bounded := inferInstanceAs (Decidable (_ ∧ _))

/-- All cells hold finite values. -/
def CellsFinite (sheet : Worksheet) : Prop := ∀ cell ∈ sheet.cells.entries, cell.2.IsFinite

instance (sheet : Worksheet) : Decidable sheet.CellsFinite :=
  inferInstanceAs (Decidable (∀ cell ∈ sheet.cells.entries, cell.2.IsFinite))

/-- The number of a cell is one of the sheet. -/
theorem mem_numbers_of_cell {sheet : Worksheet} {cell : Address × CellValue} {x : Binary64}
    (hcell : cell ∈ sheet.cells.entries) (hx : x ∈ cell.2.numbers) : x ∈ sheet.numbers := by
  refine List.mem_append_left _ (List.mem_append_left _ ?_)
  exact List.mem_flatMap.2 ⟨cell, hcell, hx⟩

/-- The size that a line has of its own is a number of the sheet. -/
theorem mem_numbers_of_size {sheet : Worksheet} {axis : Axis} {i : Index} {x : Binary64}
    (h : (sheet.sizes axis).own.get? i = some x) : x ∈ sheet.numbers := by
  have hx : x ∈ (sheet.sizes axis).own.entries.map Prod.snd :=
    List.mem_map.2 ⟨(i, x), Sparse.get?_eq_some_iff.1 h, rfl⟩
  cases axis with
  | row => exact List.mem_append_right _ hx
  | column => exact List.mem_append_left _ (List.mem_append_right _ hx)

end Worksheet

namespace JsonFile

/-- A range that is written is read back, and covers what lies within it. -/
theorem readRange_text {range : CellRange} (h : range.stop.Bounded) :
    readRange range.text = .ok range := by
  rw [readRange, CellRange.text, String.toList_ofList, CellRange.read?_chars h]

/-- A sheet as it is read back: the sizes that lines have of their own are given to the lines of an
empty sheet. -/
def reread (sheet : Worksheet) : Worksheet :=
  { sheet with
    columns := (Worksheet.empty sheet.name).columns.setAll sheet.columns.own.entries
    rows := (Worksheet.empty sheet.name).rows.setAll sheet.rows.own.entries }

/-- A sheet with the sizes that are read from its members: those that are finite, given to the lines
of an empty sheet. -/
def reading (sheet : Worksheet) : Worksheet :=
  { sheet with
    columns := readSizes "wpx" (Worksheet.empty sheet.name).columns (sizesJson "wpx" sheet.columns)
    rows := readSizes "hpx" (Worksheet.empty sheet.name).rows (sizesJson "hpx" sheet.rows) }

/-- A sheet is read from its members, in the order in which a reader holds them. -/
theorem readSheet_settled_reading {sheet : Worksheet} (h : sheet.Covered)
    (hfinite : sheet.CellsFinite) (hbounded : sheet.Bounded) :
    readSheet sheet.name (settleMembers (sheetMembers sheet)) = .ok (reading sheet) := by
  have hvalues : ∀ cell ∈ sheet.cells.entries, cell.1.Bounded ∧ cell.2.IsFinite :=
    fun cell hmem => ⟨hbounded.1 cell hmem, hfinite cell hmem⟩
  have hnodup := sheetMembers_nodup hbounded.1
  obtain ⟨cells, hperm, hread⟩ :=
    exists_readCells (.empty sheet.name) (perm_settleMembers hnodup) hvalues
  have hentries : ∀ entry, entry ∈ cells ↔ entry ∈ sheet.cells.entries := fun _ => hperm.mem_iff
  have hname : (setCells (.empty sheet.name) cells).name = sheet.name := by
    rw [setCells_eq]
    rfl
  -- the cells are written in the order of their keys, which does not matter for the table
  have htable : (setCells (.empty sheet.name) cells).cells = sheet.cells := by
    rw [setCells_eq]
    exact Sparse.ofList_eq hentries
  have hcolumns : readSizes "wpx" (setCells (.empty sheet.name) cells).columns
      (sizesJson "wpx" sheet.columns) = (reading sheet).columns := by
    rw [setCells_eq]
    rfl
  have hrows : readSizes "hpx" (setCells (.empty sheet.name) cells).rows
      (sizesJson "hpx" sheet.rows) = (reading sheet).rows := by
    rw [setCells_eq]
    rfl
  obtain ⟨hlookupUsed, hlookupColumns, hlookupRows⟩ := lookup_sheetMembers sheet
  rw [readSheet, hread, Except.ok_bind]
  simp only [lookup_settleMembers hnodup, hlookupUsed, hlookupColumns, hlookupRows]
  cases hused : sheet.used with
  | none =>
    -- without a used range there is no cell to be read
    have hempty : cells = [] := List.eq_nil_iff_forall_not_mem.2 fun cell hmem =>
      h.not_mem_of_used hused cell ((hentries cell).1 hmem)
    have hnone : (setCells (.empty sheet.name) cells).used = sheet.used := by
      rw [hempty, hused]
      rfl
    exact congrArg Except.ok (Worksheet.ext hname htable hnone hcolumns hrows)
  | some range =>
    -- the cells lie within the range, so to cover it after them gives that range
    have hstop := hbounded.2 range hused
    have hsome : ((setCells (.empty sheet.name) cells).cover range).used = sheet.used := by
      rw [hused, cover_setCells_empty fun cell hmem =>
        h.mem_of_used hused ((hentries cell).1 hmem)]
    simp only [Option.map_some, Option.bind_some, Json.string?, readRange_text hstop]
    exact congrArg Except.ok (Worksheet.ext hname htable hsome hcolumns hrows)

/-- A sheet of finite numbers is read back, but for the common sizes of its lines. -/
theorem readSheet_settled_of_covered {sheet : Worksheet} (h : sheet.Covered)
    (hfinite : ∀ x ∈ sheet.numbers, x.isFinite = true) (hbounded : sheet.Bounded) :
    readSheet sheet.name (settleMembers (sheetMembers sheet)) = .ok (reread sheet) := by
  have hcells : sheet.CellsFinite := fun cell hmem => CellValue.isFinite_of_numbers fun x hx =>
    hfinite x (Worksheet.mem_numbers_of_cell hmem hx)
  have hsizes : ∀ axis i x, (sheet.sizes axis).own.get? i = some x → x.isFinite = true :=
    fun axis i x hx => hfinite x (Worksheet.mem_numbers_of_size hx)
  have hreading : reading sheet = reread sheet :=
    Worksheet.ext rfl rfl rfl (readSizes_sizesJson "wpx" _ (hsizes .column))
      (readSizes_sizesJson "hpx" _ (hsizes .row))
  rw [readSheet_settled_reading h hcells hbounded, hreading]

/-- A regular sheet is its own reading. -/
theorem reread_of_regular {sheet : Worksheet} (h : sheet.Regular) : reread sheet = sheet := by
  have hcolumns := (h.exceptional .column).setAll_own rfl (h.common .column).symm
  have hrows := (h.exceptional .row).setAll_own rfl (h.common .row).symm
  exact Worksheet.ext rfl rfl rfl hcolumns hrows

/-- A regular sheet is read back as it was. -/
theorem readSheet_settled {sheet : Worksheet} (h : sheet.Regular)
    (hfinite : ∀ x ∈ sheet.numbers, x.isFinite = true) (hbounded : sheet.Bounded) :
    readSheet sheet.name (settleMembers (sheetMembers sheet)) = .ok sheet := by
  rw [readSheet_settled_of_covered h.covered hfinite hbounded, reread_of_regular h]

end JsonFile

end EnsembleDesk
