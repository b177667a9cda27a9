import EnsembleDesk.Json.Printer
import EnsembleDesk.Json.Reader
import EnsembleDesk.Proofs.Json.Settled
/-!
# Layouts of documents

The two printers write the same parts in the same order, and differ only in the space that they put
between them. A `Json.Layout` is a choice of that space, and `Json.laidOut` the text of a value in
it. What a reader finds in a text does not depend on the layout, so it is shown for every layout.

## Main results

* `Json.pretty_eq_laidOut`, `Json.compact_eq_laidOut`: both printers write in a layout.
-/

namespace EnsembleDesk

namespace Json

/-- The space between the parts of a document. -/
structure Layout where
  /-- The space in front of an item or a member of a level, and in front of the bracket that closes
  those of the next level. -/
  gap : Nat → List Char
  /-- The space behind the colon of a member. -/
  pad : List Char
  gap_isSpace : ∀ level, ∀ c ∈ gap level, WrittenJson.isSpace c = true
  pad_isSpace : ∀ c ∈ pad, WrittenJson.isSpace c = true

mutual

/-- The characters of a value that stands at a level of a layout. -/
def laidOut (layout : Layout) (level : Nat) : Json → List Char
  | null => ['n', 'u', 'l', 'l']
  | bool true => ['t', 'r', 'u', 'e']
  | bool false => ['f', 'a', 'l', 's', 'e']
  | number n => numberText n
  | string s => stringText s
  | array [] => ['[', ']']
  | array (item :: rest) =>
    '[' :: laidOutItems layout (level + 1) (item :: rest) ++ (layout.gap level ++ [']'])
  | object [] => ['\x7b', '\x7d']
  | object (member :: rest) =>
    '\x7b' :: laidOutMembers layout (level + 1) (member :: rest) ++ (layout.gap level ++ ['\x7d'])

/-- The items of an array with commas between them. -/
def laidOutItems (layout : Layout) (level : Nat) : List Json → List Char
  | [] => []
  | [item] => layout.gap level ++ laidOut layout level item
  | item :: rest =>
    layout.gap level ++ (laidOut layout level item ++ ',' :: laidOutItems layout level rest)

/-- The members of an object with commas between them. -/
def laidOutMembers (layout : Layout) (level : Nat) : List (String × Json) → List Char
  | [] => []
  | [(key, value)] =>
    layout.gap level ++ (stringText key ++ ':' :: (layout.pad ++ laidOut layout level value))
  | (key, value) :: rest =>
    layout.gap level ++ (stringText key ++ ':' :: (layout.pad ++ (laidOut layout level value ++
      ',' :: laidOutMembers layout level rest)))

end

/-! ### The layouts of the printers -/

/-- One item or member a line. -/
def Layout.indented : Layout where
  gap := newLine
  pad := [' ']
  gap_isSpace level c hc := by
    rcases List.mem_cons.1 hc with rfl | hc
    · rfl
    · rw [List.eq_of_mem_replicate hc]
      rfl
  pad_isSpace c hc := by
    rw [List.mem_singleton.1 hc]
    rfl

/-- No space at all. -/
def Layout.dense : Layout where
  gap _ := []
  pad := []
  gap_isSpace _ _ hc := absurd hc List.not_mem_nil
  pad_isSpace _ hc := absurd hc List.not_mem_nil

/-- Each printer writes every value in its layout. -/
theorem chars_eq_laidOut (value : Json) : ∀ level,
    prettyChars level value = laidOut .indented level value ∧
      compactChars value = laidOut .dense level value := by
  induction value using Json.induct with
  | null => simp [prettyChars, compactChars, laidOut]
  | bool b => cases b <;> simp [prettyChars, compactChars, laidOut]
  | number n => simp [prettyChars, compactChars, laidOut]
  | string s => simp [prettyChars, compactChars, laidOut]
  | array items ih =>
    -- what holds of each item holds of the items behind any of them, where the layout goes on
    have hitems : ∀ rest ⊆ items, ∀ level,
        prettyItems level rest = laidOutItems .indented level rest ∧
          compactItems rest = laidOutItems .dense level rest := by
      intro rest hrest level
      induction rest with
      | nil => simp [prettyItems, compactItems, laidOutItems]
      | cons item rest ihrest =>
        have hitem := ih item (hrest List.mem_cons_self) level
        have htail := ihrest (List.subset_of_cons_subset hrest)
        cases rest <;> simp [prettyItems, compactItems, laidOutItems, hitem, htail,
          Layout.indented, Layout.dense]
    intro level
    have hall := hitems items (List.Subset.refl _) (level + 1)
    cases items with
    | nil => simp [prettyChars, compactChars, compactItems, laidOut]
    | cons item rest =>
      simp [prettyChars, compactChars, laidOut, hall, Layout.indented, Layout.dense]
  | object members ih =>
    have hmembers : ∀ rest ⊆ members, ∀ level,
        prettyMembers level rest = laidOutMembers .indented level rest ∧
          compactMembers rest = laidOutMembers .dense level rest := by
      intro rest hrest level
      induction rest with
      | nil => simp [prettyMembers, compactMembers, laidOutMembers]
      | cons member rest ihrest =>
        have hmember := ih member (hrest List.mem_cons_self) level
        have htail := ihrest (List.subset_of_cons_subset hrest)
        cases rest <;> simp [prettyMembers, compactMembers, laidOutMembers, hmember, htail,
          Layout.indented, Layout.dense]
    intro level
    have hall := hmembers members (List.Subset.refl _) (level + 1)
    cases members with
    | nil => simp [prettyChars, compactChars, compactMembers, laidOut]
    | cons member rest =>
      simp [prettyChars, compactChars, laidOut, hall, Layout.indented, Layout.dense]

theorem pretty_eq_laidOut (value : Json) :
    value.pretty = String.ofList (laidOut .indented 0 value) := by
  rw [pretty, (chars_eq_laidOut value 0).1]

theorem compact_eq_laidOut (value : Json) :
    value.compact = String.ofList (laidOut .dense 0 value) := by
  rw [compact, (chars_eq_laidOut value 0).2]

end Json

end EnsembleDesk
