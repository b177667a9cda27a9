import EnsembleDesk.Proofs.Json.Layout
import EnsembleDesk.Proofs.Json.Scalars
/-!
# Documents that are read back

`Json.Nested P depth value` says that arrays and objects are nested at most `depth` deep in a value
and that its numbers have a property. If each number `n` is read as a number `f n`, the document is
read as the value with those numbers, in every layout: the grammar finds in it `Json.written value`
(`WrittenJson.readValue?_laidOut`), which means `value.mapNumbers f`
(`WrittenJson.value?_written_mapNumbers`). The proof follows the value, with whatever stands around
a part, and shows that the bound of the reader is never reached.

A value is `Json.Readable` if its numbers are read back.

## Main results

* `Json.read?_pretty`: a document with one item or member a line is read for its value;
* `Json.read?_pretty_mapNumbers`: it is read for a value with other numbers, if they are;
* `WrittenJson.read?_compact`: a document without space is read as it is written.
-/

namespace EnsembleDesk

/-- The value is nested at most so deep, and its numbers have a property. -/
inductive Json.Nested (P : JsonNumber → Prop) : Nat → Json → Prop where
  | null {depth : Nat} : Nested P depth .null
  | bool {depth : Nat} (b : Bool) : Nested P depth (.bool b)
  | number {depth : Nat} {n : JsonNumber} (h : P n) : Nested P depth (.number n)
  | string {depth : Nat} (s : String) : Nested P depth (.string s)
  | array {depth : Nat} {items : List Json} (h : ∀ item ∈ items, Nested P depth item) :
    Nested P (depth + 1) (.array items)
  | object {depth : Nat} {members : List (String × Json)}
    (h : ∀ member ∈ members, Nested P depth member.2) : Nested P (depth + 1) (.object members)

/-- The value is nested at most so deep, and its numbers are read back from their texts. -/
abbrev Json.Readable (depth : Nat) (value : Json) : Prop :=
  value.Nested JsonNumber.ReadsBack depth

/-- What holds of the numbers of a value may be weakened. -/
theorem Json.Nested.imp {P Q : JsonNumber → Prop} {depth : Nat} {value : Json}
    (h : value.Nested P depth) (himp : ∀ n, P n → Q n) : value.Nested Q depth := by
  induction h with
  | null => exact .null
  | bool b => exact .bool b
  | number h => exact .number (himp _ h)
  | string s => exact .string s
  | array _ ih => exact .array ih
  | object _ ih => exact .object ih

/-! ### Other numbers -/

namespace Json

mutual

/-- The value with other numbers. -/
def mapNumbers (f : JsonNumber → JsonNumber) : Json → Json
  | null => null
  | bool b => bool b
  | number n => number (f n)
  | string s => string s
  | array items => array (mapItemNumbers f items)
  | object members => object (mapMemberNumbers f members)

/-- The items of an array with other numbers. -/
def mapItemNumbers (f : JsonNumber → JsonNumber) : List Json → List Json
  | [] => []
  | item :: rest => mapNumbers f item :: mapItemNumbers f rest

/-- The members of an object with other numbers. -/
def mapMemberNumbers (f : JsonNumber → JsonNumber) : List (String × Json) → List (String × Json)
  | [] => []
  | (key, value) :: rest => (key, mapNumbers f value) :: mapMemberNumbers f rest

end

variable (f : JsonNumber → JsonNumber)

/-- The items are changed one by one. -/
theorem mapItemNumbers_eq_map (items : List Json) :
    mapItemNumbers f items = items.map (mapNumbers f) := by
  induction items with
  | nil => rw [mapItemNumbers, List.map_nil]
  | cons item items ih => rw [mapItemNumbers, ih, List.map_cons]

/-- The members are changed one by one, and keep their keys. -/
theorem mapMemberNumbers_eq_map (members : List (String × Json)) :
    mapMemberNumbers f members = members.map fun member => (member.1, member.2.mapNumbers f) := by
  induction members with
  | nil => rw [mapMemberNumbers, List.map_nil]
  | cons member members ih => rw [mapMemberNumbers, ih, List.map_cons]

/-- The numbers of an array are those of its items. -/
theorem mapNumbers_array (items : List Json) :
    (array items).mapNumbers f = array (items.map (mapNumbers f)) := by
  rw [mapNumbers, mapItemNumbers_eq_map]

/-- The numbers of an object are those of its members. -/
theorem mapNumbers_object (members : List (String × Json)) :
    (object members).mapNumbers f =
      object (members.map fun member => (member.1, member.2.mapNumbers f)) := by
  rw [mapNumbers, mapMemberNumbers_eq_map]

/-- A value whose numbers stay is the same. -/
theorem mapNumbers_id (value : Json) : value.mapNumbers id = value := by
  induction value using Json.induct with
  | null => rw [mapNumbers]
  | bool b => rw [mapNumbers]
  | number n => rw [mapNumbers, id]
  | string s => rw [mapNumbers]
  | array items ih => rw [mapNumbers_array, List.map_congr_left ih, List.map_id']
  | object members ih =>
    have hmembers : ∀ member ∈ members, (member.1, member.2.mapNumbers id) = id member :=
      fun member hmem => Prod.ext rfl (ih member hmem)
    rw [mapNumbers_object, List.map_congr_left hmembers, List.map_id]

end Json

/-! ### What the grammar finds -/

/-- A number as the grammar finds it in its text. -/
def JsonNumber.written (n : JsonNumber) : WrittenNumber :=
  ((WrittenJson.readNumber? (Json.numberText n)).map Prod.fst).getD default

/-- What the grammar finds in the text of a number stands for what it is read as. -/
theorem JsonNumber.ReadsAs.written {n other : JsonNumber} (h : n.ReadsAs other) :
    WrittenJson.readNumber? (Json.numberText n) = some (n.written, []) ∧
      n.written.value? = some other := by
  obtain ⟨found, hread, hvalue⟩ := h
  rw [JsonNumber.written, hread]
  exact ⟨rfl, hvalue⟩

/-- What the grammar finds in the text of a number that reads back stands for that number. -/
theorem JsonNumber.ReadsBack.written {n : JsonNumber} (h : n.ReadsBack) :
    WrittenJson.readNumber? (Json.numberText n) = some (n.written, []) ∧
      n.written.value? = some n := ReadsAs.written h

/-- The text of the number is a number to the grammar. -/
def JsonNumber.IsFound (n : JsonNumber) : Prop :=
  WrittenJson.readNumber? (Json.numberText n) = some (n.written, [])

namespace Json

/-- A string as the grammar finds it in its text. -/
def writtenString (s : String) : List WrittenChar := s.toList.map .ofChar

mutual

/-- A value as the grammar finds it in its text. -/
def written : Json → WrittenJson
  | null => .null
  | bool b => .bool b
  | number n => .number n.written
  | string s => .string (writtenString s)
  | array items => .array (writtenItems items)
  | object members => .object (writtenMembers members)

/-- The items of an array as the grammar finds them. -/
def writtenItems : List Json → List WrittenJson
  | [] => []
  | item :: rest => written item :: writtenItems rest

/-- The members of an object as the grammar finds them. -/
def writtenMembers : List (String × Json) → List (List WrittenChar × WrittenJson)
  | [] => []
  | (key, value) :: rest => (writtenString key, written value) :: writtenMembers rest

end

/-- The items are found one by one. -/
theorem writtenItems_eq_map (items : List Json) : writtenItems items = items.map written := by
  induction items with
  | nil => rw [writtenItems, List.map_nil]
  | cons item items ih => rw [writtenItems, ih, List.map_cons]

/-- The members are found one by one, with their keys. -/
theorem writtenMembers_eq_map (members : List (String × Json)) :
    writtenMembers members =
      members.map fun member => (writtenString member.1, member.2.written) := by
  induction members with
  | nil => rw [writtenMembers, List.map_nil]
  | cons member members ih => rw [writtenMembers, ih, List.map_cons]

end Json

namespace WrittenJson

open Json (Layout laidOut laidOutItems laidOutMembers written writtenItems writtenMembers
  writtenString)

variable {bound depth : Nat} {text rest : List Char} {layout : Layout}

/-- A string that was found stands for the string that was written. -/
theorem text?_writtenString (s : String) : WrittenChar.text? (writtenString s) = some s :=
  text?_map_ofChar s

/-- What is found in the text of a value means the value with the numbers that its numbers are read
as. -/
theorem value?_written_mapNumbers {f : JsonNumber → JsonNumber} {value : Json}
    (h : value.Nested (fun n => n.ReadsAs (f n)) depth) :
    value.written.value? depth = some (value.mapNumbers f) := by
  induction h with
  | null => simp [written, value?, Json.mapNumbers]
  | bool b => simp [written, value?, Json.mapNumbers]
  | number h => simp [written, value?, Json.mapNumbers, h.written.2]
  | string s => simp [written, value?, Json.mapNumbers, text?_writtenString]
  | @array depth items h ih =>
    -- what holds of each item holds of those behind any of them, by an induction of its own
    have hitems : ∀ rest ⊆ items, itemValues? depth (writtenItems rest) =
        some (Json.mapItemNumbers f rest) := by
      intro rest hrest
      induction rest with
      | nil => simp [writtenItems, itemValues?, Json.mapItemNumbers]
      | cons item rest ihrest =>
        simp [writtenItems, itemValues?, Json.mapItemNumbers, ih item (hrest List.mem_cons_self),
          ihrest (List.subset_of_cons_subset hrest)]
    simp [written, value?, Json.mapNumbers, hitems items (List.Subset.refl _)]
  | @object depth members h ih =>
    have hmembers : ∀ rest ⊆ members, memberValues? depth (writtenMembers rest) =
        some (Json.mapMemberNumbers f rest) := by
      intro rest hrest
      induction rest with
      | nil => simp [writtenMembers, memberValues?, Json.mapMemberNumbers]
      | cons member rest ihrest =>
        simp [writtenMembers, memberValues?, Json.mapMemberNumbers, text?_writtenString,
          ih member (hrest List.mem_cons_self), ihrest (List.subset_of_cons_subset hrest)]
    simp [written, value?, Json.mapNumbers, hmembers members (List.Subset.refl _)]

/-! ### Space -/

/-- Nothing is skipped in front of what is no space. -/
theorem skipSpace_cons {c : Char} (h : isSpace c = false) (text : List Char) :
    skipSpace (c :: text) = c :: text :=
  List.dropWhile_cons_of_neg (by rw [h]; exact Bool.false_ne_true)

/-- Space in front of a text is skipped. -/
theorem skipSpace_append {space : List Char} (h : ∀ c ∈ space, isSpace c = true)
    (text : List Char) : skipSpace (space ++ text) = skipSpace text :=
  List.dropWhile_append_of_pos h

/-- What a layout leaves between values is skipped. -/
theorem skipSpace_gap_append (level : Nat) (text : List Char) :
    skipSpace (layout.gap level ++ text) = skipSpace text :=
  skipSpace_append (layout.gap_isSpace level) text

/-- Space is skipped once. -/
theorem skipSpace_skipSpace (text : List Char) : skipSpace (skipSpace text) = skipSpace text := by
  induction text with
  | nil => rfl
  | cons c text ih =>
    cases hc : isSpace c with
    | true =>
      have : skipSpace (c :: text) = skipSpace text := List.dropWhile_cons_of_pos hc
      rw [this, ih]
    | false => rw [skipSpace_cons hc, skipSpace_cons hc]

/-- Space in front of a value does not count. -/
theorem readValue?_skipSpace (bound : Nat) (text : List Char) :
    readValue? bound (skipSpace text) = readValue? bound text := by
  cases bound with
  | zero => rw [readValue?, readValue?]
  | succ bound => rw [readValue?, readValue?, skipSpace_skipSpace]

/-- A value is read behind any space. -/
theorem readValue?_append {space : List Char} (h : ∀ c ∈ space, isSpace c = true) (bound : Nat)
    (text : List Char) : readValue? bound (space ++ text) = readValue? bound text := by
  rw [← readValue?_skipSpace, skipSpace_append h, readValue?_skipSpace]

/-- Space in front of items does not count. -/
theorem readItems?_skipSpace (bound : Nat) (text : List Char) :
    readItems? bound (skipSpace text) = readItems? bound text := by
  cases bound with
  | zero => rw [readItems?, readItems?]
  | succ bound => rw [readItems?, readItems?, readValue?_skipSpace]

/-- Space in front of members does not count. -/
theorem readMembers?_skipSpace (bound : Nat) (text : List Char) :
    readMembers? bound (skipSpace text) = readMembers? bound text := by
  cases bound with
  | zero => rw [readMembers?, readMembers?]
  | succ bound => rw [readMembers?, readMembers?, readKey?, readKey?, skipSpace_skipSpace]

/-- Neither a gap nor what closes a value continues a number. -/
theorem startsWithout_gap_append {c : Char} (hc : continuesNumber c = false) (level : Nat)
    (text : List Char) : StartsWithout continuesNumber (layout.gap level ++ c :: text) := by
  cases hgap : layout.gap level with
  | nil => exact .cons hc text
  | cons d gap =>
    -- no space continues a number
    have hspace : isSpace d = true := layout.gap_isSpace level d (hgap ▸ List.mem_cons_self)
    refine .cons ?_ _
    simp only [isSpace, Bool.or_eq_true, beq_iff_eq] at hspace
    rcases hspace with ((rfl | rfl) | rfl) | rfl <;> rfl

/-! ### One value -/

/-- What begins with neither bracket is a value without parts. -/
theorem readValue?_of_scalar {c : Char} (hspace : isSpace c = false) (hbracket : c ≠ '[')
    (hbrace : c ≠ '\x7b') (text : List Char) :
    readValue? (bound + 1) (c :: text) = readScalar? (c :: text) := by
  rw [readValue?, skipSpace_cons hspace]
  split
  · rename_i heq
    exact absurd (List.cons.inj heq).1 hbracket
  · rename_i heq
    exact absurd (List.cons.inj heq).1 hbrace
  · rfl

/-- The first character of a number is no other than a minus sign or a digit. -/
theorem ne_of_startsNumber {c d : Char} (hc : c = '-' ∨ c.isDigit = true) (hminus : d ≠ '-')
    (hdigit : d.isDigit = false) : c ≠ d := by
  rintro rfl
  rcases hc with hc | hc
  · exact hminus hc
  · rw [hdigit] at hc
    cases hc

/-- A number begins with no space. -/
theorem isSpace_of_startsNumber {c : Char} (hc : c = '-' ∨ c.isDigit = true) :
    isSpace c = false := by
  have hne := fun d hminus hdigit => @ne_of_startsNumber c d hc hminus hdigit
  simp [isSpace, hne ' ' (by decide) rfl, hne '\n' (by decide) rfl, hne '\t' (by decide) rfl,
    hne '\r' (by decide) rfl]

/-- A number is read where its text ends before something that does not continue it. -/
theorem readValue?_number {n : JsonNumber} {written : WrittenNumber}
    (h : readNumber? (Json.numberText n) = some (written, []))
    (hrest : StartsWithout continuesNumber rest) :
    readValue? (bound + 1) (Json.numberText n ++ rest) = some (number written, rest) := by
  obtain ⟨c, tail, htext, hc⟩ := exists_cons_of_readNumber? h
  have hne : ∀ d : Char, d ≠ '-' → d.isDigit = false → c ≠ d := fun d => ne_of_startsNumber hc
  have hread := readNumber?_append hrest h
  rw [htext, List.cons_append] at hread ⊢
  rw [readValue?_of_scalar (isSpace_of_startsNumber hc) (hne '[' (by decide) (by decide))
    (hne '\x7b' (by decide) (by decide)), readScalar?, hread]
  · rfl
  · exact fun _ heq => hne 'n' (by decide) (by decide) (List.cons.inj heq).1
  · exact fun _ heq => hne 't' (by decide) (by decide) (List.cons.inj heq).1
  · exact fun _ heq => hne 'f' (by decide) (by decide) (List.cons.inj heq).1
  · exact fun _ heq => hne '"' (by decide) (by decide) (List.cons.inj heq).1

/-- An array that is not empty. -/
theorem readValue?_array {c : Char} {tail : List Char} (h : skipSpace text = c :: tail)
    (hc : c ≠ ']') :
    readValue? (bound + 1) ('[' :: text) =
      (readItems? bound text).map fun read => (array read.1, read.2) := by
  rw [readValue?, skipSpace_cons rfl]
  simp only
  split
  · rename_i heq
    rw [h] at heq
    exact absurd (List.cons.inj heq).1 hc
  · rw [readItems?_skipSpace]

/-- An object that is not empty. -/
theorem readValue?_object {c : Char} {tail : List Char} (h : skipSpace text = c :: tail)
    (hc : c ≠ '\x7d') :
    readValue? (bound + 1) ('\x7b' :: text) =
      (readMembers? bound text).map fun read => (object read.1, read.2) := by
  rw [readValue?, skipSpace_cons rfl]
  simp only
  split
  · rename_i heq
    rw [h] at heq
    exact absurd (List.cons.inj heq).1 hc
  · rw [readMembers?_skipSpace]

/-! ### Values in their places -/

/-- The text of a value begins with neither space nor a closing bracket. -/
theorem laidOut_eq_cons {value : Json} (h : value.Nested JsonNumber.IsFound depth) (level : Nat) :
    ∃ c tail, laidOut layout level value = c :: tail ∧ isSpace c = false ∧ c ≠ ']' := by
  cases h with
  | null => exact ⟨_, _, by rw [laidOut], rfl, by decide⟩
  | bool b => cases b <;> exact ⟨_, _, by rw [laidOut], rfl, by decide⟩
  | number h =>
    obtain ⟨c, tail, htext, hc⟩ := exists_cons_of_readNumber? h
    exact ⟨c, tail, by rw [laidOut, htext], isSpace_of_startsNumber hc,
      ne_of_startsNumber hc (by decide) (by decide)⟩
  | string s => exact ⟨_, _, by rw [laidOut, Json.stringText, List.cons_append], rfl, by decide⟩
  | @array _ items h =>
    cases items <;> exact ⟨_, _, by rw [laidOut] <;> rfl, rfl, by decide⟩
  | @object _ members h =>
    cases members <;> exact ⟨_, _, by rw [laidOut] <;> rfl, rfl, by decide⟩

/-- The grammar finds a value wherever its text stands. -/
def IsFound (layout : Layout) (value : Json) : Prop :=
  ∀ level bound rest, StartsWithout continuesNumber rest →
    2 * (laidOut layout level value).length ≤ bound →
    readValue? bound (laidOut layout level value ++ rest) = some (value.written, rest)

/-- An item that is not the last one is followed by a comma. -/
theorem laidOutItems_cons_cons (level : Nat) (item next : Json) (items : List Json) :
    laidOutItems layout level (item :: next :: items) =
      layout.gap level ++
        (laidOut layout level item ++ ',' :: laidOutItems layout level (next :: items)) := by
  rw [laidOutItems]
  exact List.cons_ne_nil _ _

/-- A member that is not the last one is followed by a comma. -/
theorem laidOutMembers_cons_cons (level : Nat) (key : String) (value : Json)
    (next : String × Json) (members : List (String × Json)) :
    laidOutMembers layout level ((key, value) :: next :: members) =
      layout.gap level ++ (Json.stringText key ++ ':' :: (layout.pad ++
        (laidOut layout level value ++ ',' :: laidOutMembers layout level (next :: members)))) := by
  rw [laidOutMembers]
  exact List.cons_ne_nil _ _

/-- The items of an array are found, up to and with its closing bracket. -/
theorem readItems?_laidOutItems {items : List Json} (hne : items ≠ [])
    (hitems : ∀ item ∈ items, IsFound layout item) (level closing : Nat)
    (hbound : 2 * (laidOutItems layout level items).length + 1 ≤ bound) :
    readItems? bound (laidOutItems layout level items ++ (layout.gap closing ++ ']' :: rest)) =
      some (writtenItems items, rest) := by
  induction items generalizing bound with
  | nil => exact absurd rfl hne
  | cons item items ih =>
    -- one step of the bound is for the list itself, and the rest is enough for the item
    obtain ⟨bound, rfl⟩ := Nat.exists_eq_add_of_le' (Nat.le_of_add_left_le hbound)
    have hitem := hitems item List.mem_cons_self level bound
    cases items with
    | nil =>
      rw [laidOutItems, List.length_append] at hbound
      rw [laidOutItems, List.append_assoc, readItems?, readValue?_append (layout.gap_isSpace level),
        hitem _ (startsWithout_gap_append rfl closing rest) (by omega)]
      simp only [Option.bind_eq_bind, Option.bind_some, skipSpace_gap_append]
      rw [skipSpace_cons rfl]
      simp only [writtenItems]
    | cons next items =>
      rw [laidOutItems_cons_cons, List.length_append, List.length_append,
        List.length_cons] at hbound
      have hrest := @ih bound (List.cons_ne_nil _ _)
        (fun other hmem => hitems other (List.mem_cons_of_mem _ hmem)) (by omega)
      rw [laidOutItems_cons_cons, List.append_assoc, List.append_assoc, List.cons_append,
        readItems?, readValue?_append (layout.gap_isSpace level),
        hitem _ (.cons rfl _) (by omega)]
      simp only [Option.bind_eq_bind, Option.bind_some]
      rw [skipSpace_cons rfl]
      simp only [hrest, Option.bind_some, writtenItems]

/-- A key and the colon after it. -/
theorem readKey?_stringText (level : Nat) (key : String) (rest : List Char) :
    readKey? (layout.gap level ++ (Json.stringText key ++ ':' :: rest)) =
      some (writtenString key, rest) := by
  rw [readKey?, skipSpace_gap_append, Json.stringText, List.append_assoc, List.cons_append,
    skipSpace_cons rfl]
  simp only [List.singleton_append, readString?_text, Option.bind_eq_bind, Option.bind_some]
  rw [skipSpace_cons rfl]
  rfl

/-- The members of an object are found, up to and with its closing brace. -/
theorem readMembers?_laidOutMembers {members : List (String × Json)} (hne : members ≠ [])
    (hmembers : ∀ member ∈ members, IsFound layout member.2) (level closing : Nat)
    (hbound : 2 * (laidOutMembers layout level members).length + 1 ≤ bound) :
    readMembers? bound
        (laidOutMembers layout level members ++ (layout.gap closing ++ '\x7d' :: rest)) =
      some (writtenMembers members, rest) := by
  induction members generalizing bound with
  | nil => exact absurd rfl hne
  | cons member members ih =>
    obtain ⟨key, value⟩ := member
    obtain ⟨bound, rfl⟩ := Nat.exists_eq_add_of_le' (Nat.le_of_add_left_le hbound)
    have hvalue : ∀ rest, StartsWithout continuesNumber rest →
        2 * (laidOut layout level value).length ≤ bound →
        readValue? bound (layout.pad ++ (laidOut layout level value ++ rest)) =
          some (value.written, rest) := by
      intro rest hrest hlength
      rw [readValue?_append layout.pad_isSpace]
      exact hmembers (key, value) List.mem_cons_self level bound rest hrest hlength
    -- behind the last member stands the brace, and behind any other a comma
    cases members with
    | nil =>
      rw [laidOutMembers] at hbound
      simp only [List.length_append, List.length_cons] at hbound
      rw [laidOutMembers, List.append_assoc, List.append_assoc, List.cons_append,
        List.append_assoc, readMembers?, readKey?_stringText]
      simp only [Option.bind_eq_bind, Option.bind_some]
      rw [hvalue _ (startsWithout_gap_append rfl closing rest) (by omega)]
      simp only [Option.bind_some, skipSpace_gap_append]
      rw [skipSpace_cons rfl]
      simp only [writtenMembers]
    | cons next members =>
      rw [laidOutMembers_cons_cons] at hbound
      simp only [List.length_append, List.length_cons] at hbound
      have hrest := @ih bound (List.cons_ne_nil _ _)
        (fun other hmem => hmembers other (List.mem_cons_of_mem _ hmem)) (by omega)
      rw [laidOutMembers_cons_cons, List.append_assoc, List.append_assoc, List.cons_append,
        List.append_assoc, List.append_assoc, List.cons_append, readMembers?, readKey?_stringText]
      simp only [Option.bind_eq_bind, Option.bind_some]
      rw [hvalue _ (.cons rfl _) (by omega)]
      simp only [Option.bind_some]
      rw [skipSpace_cons rfl]
      simp only [hrest, Option.bind_some, writtenMembers]

/-- A bound for a text that is not empty leaves one more step. -/
theorem exists_bound {c : Char} {text : List Char} (h : 2 * (c :: text).length ≤ bound) :
    ∃ smaller, bound = smaller + 1 :=
  Nat.exists_eq_add_of_le' (Nat.le_trans (Nat.le_add_left 1 (2 * text.length + 1)) h)

/-- The grammar finds every value whose numbers it finds. -/
theorem readValue?_laidOut (layout : Layout) {value : Json}
    (h : value.Nested JsonNumber.IsFound depth) :
    IsFound layout value := by
  induction h with
  | null =>
    intro level bound rest _ hbound
    rw [laidOut] at hbound ⊢
    obtain ⟨bound, rfl⟩ := exists_bound hbound
    rw [written]
    exact readValue?_of_scalar rfl (by decide) (by decide) _
  | bool b =>
    intro level bound rest _ hbound
    cases b <;> rw [laidOut] at hbound ⊢ <;> obtain ⟨bound, rfl⟩ := exists_bound hbound <;>
      rw [written] <;> exact readValue?_of_scalar rfl (by decide) (by decide) _
  | @number depth n h =>
    intro level bound rest hrest hbound
    rw [laidOut] at hbound ⊢
    obtain ⟨c, tail, htext, -⟩ := exists_cons_of_readNumber? h
    obtain ⟨bound, rfl⟩ := exists_bound (htext ▸ hbound)
    rw [written]
    exact readValue?_number h hrest
  | string s =>
    intro level bound rest _ hbound
    rw [laidOut, Json.stringText, List.cons_append] at hbound ⊢
    obtain ⟨bound, rfl⟩ := exists_bound hbound
    rw [List.cons_append, readValue?_of_scalar rfl (by decide) (by decide), List.append_assoc,
      List.singleton_append, readScalar?, readString?_text, Option.map_some, written, writtenString]
  | @array depth items h ih =>
    intro level bound rest _ hbound
    cases items with
    | nil =>
      rw [laidOut] at hbound ⊢
      obtain ⟨bound, rfl⟩ := exists_bound hbound
      rfl
    | cons item items =>
      rw [laidOut, List.cons_append] at hbound
      obtain ⟨bound, rfl⟩ := exists_bound hbound
      simp only [List.length_cons, List.length_append] at hbound
      have hitems := @readItems?_laidOutItems bound rest layout _ (List.cons_ne_nil item items) ih
        (level + 1) level (by omega)
      -- behind the bracket stands an item, so the array is not taken for an empty one
      obtain ⟨c, tail, hitem, hspace, hc⟩ :=
        @laidOut_eq_cons depth layout item (h item List.mem_cons_self) (level + 1)
      have hskip : ∃ tail, skipSpace (laidOutItems layout (level + 1) (item :: items) ++
          (layout.gap level ++ ']' :: rest)) = c :: tail := by
        cases items with
        | nil =>
          rw [laidOutItems, hitem, List.append_assoc, skipSpace_gap_append, List.cons_append,
            skipSpace_cons hspace]
          exact ⟨_, rfl⟩
        | cons next items =>
          rw [laidOutItems_cons_cons, hitem, List.append_assoc, skipSpace_gap_append,
            List.cons_append, List.cons_append, skipSpace_cons hspace]
          exact ⟨_, rfl⟩
      obtain ⟨tail, hskip⟩ := hskip
      rw [laidOut, List.cons_append, List.cons_append, List.append_assoc, List.append_assoc,
        List.singleton_append, readValue?_array hskip hc, hitems, written]
      rfl
  | @object depth members h ih =>
    intro level bound rest _ hbound
    cases members with
    | nil =>
      rw [laidOut] at hbound ⊢
      obtain ⟨bound, rfl⟩ := exists_bound hbound
      rfl
    | cons member members =>
      rw [laidOut, List.cons_append] at hbound
      obtain ⟨bound, rfl⟩ := exists_bound hbound
      simp only [List.length_cons, List.length_append] at hbound
      have hmembers := @readMembers?_laidOutMembers bound rest layout _
        (List.cons_ne_nil member members) ih (level + 1) level (by omega)
      -- behind the brace stands a key, so the object is not taken for an empty one
      have hskip : ∃ tail, skipSpace (laidOutMembers layout (level + 1) (member :: members) ++
          (layout.gap level ++ '\x7d' :: rest)) = '"' :: tail := by
        obtain ⟨key, value⟩ := member
        cases members with
        | nil =>
          rw [laidOutMembers, List.append_assoc, skipSpace_gap_append, Json.stringText,
            List.cons_append, List.cons_append, List.cons_append, skipSpace_cons rfl]
          exact ⟨_, rfl⟩
        | cons next members =>
          rw [laidOutMembers_cons_cons, List.append_assoc, skipSpace_gap_append, Json.stringText,
            List.cons_append, List.cons_append, List.cons_append, skipSpace_cons rfl]
          exact ⟨_, rfl⟩
      obtain ⟨tail, hskip⟩ := hskip
      rw [laidOut, List.cons_append, List.cons_append, List.append_assoc, List.append_assoc,
        List.singleton_append, readValue?_object hskip (by decide), hmembers, written]
      rfl

/-- A document is read as it is written. -/
theorem read?_laidOut (layout : Layout) {value : Json} (h : value.Nested JsonNumber.IsFound depth) :
    read? (String.ofList (laidOut layout 0 value)) = some value.written := by
  -- the bound of the reader is twice the length of the document, and one more
  have hdocument := readValue?_laidOut layout h 0 (2 * (laidOut layout 0 value).length + 1) [] .nil
    (Nat.le_succ _)
  rw [List.append_nil] at hdocument
  rw [read?, String.toList_ofList]
  simp only [hdocument]
  rfl

/-- A value is read back from its compact text. -/
theorem read?_compact {value : Json} (h : value.Readable depth) :
    read? value.compact = some value.written := by
  rw [Json.compact_eq_laidOut, read?_laidOut .dense (h.imp fun _ hn => hn.written.1)]

end WrittenJson

/-- A document is read for the value with the numbers that its numbers are read as. -/
theorem Json.read?_pretty_mapNumbers {f : JsonNumber → JsonNumber} {value : Json}
    (h : value.Nested (fun n => n.ReadsAs (f n)) 127) :
    Json.read? value.pretty = some (value.mapNumbers f) := by
  rw [Json.read?, Json.pretty_eq_laidOut,
    WrittenJson.read?_laidOut .indented (h.imp fun _ hn => hn.written.1), Option.bind_some,
    WrittenJson.value?_written_mapNumbers h]

/-- A document is read back from its text. -/
theorem Json.read?_pretty {value : Json} (h : value.Readable 127) :
    Json.read? value.pretty = some value := by
  have hread := @Json.read?_pretty_mapNumbers id value h
  rwa [Json.mapNumbers_id] at hread

end EnsembleDesk
