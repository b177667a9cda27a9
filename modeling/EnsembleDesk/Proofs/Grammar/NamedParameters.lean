import EnsembleDesk.Grammar.Ert
import EnsembleDesk.Grammar.Line
import EnsembleDesk.Proofs.Pattern.Runs
import EnsembleDesk.Proofs.Text.Digits
import Mathlib.Data.List.TakeWhile
/-!
# Named parameters in a line

A word `NAME:value` gives a parameter by its name if `NAME` is made of capital letters and
underscores (`splitNamed?`). The pattern of named parameters matches the words that can be split and
no others, and its groups are the name, the colon and the value.
-/

namespace EnsembleDesk

/-- Whether a character may stand in the name of a parameter. -/
def isNameChar (c : Char) : Bool := ('A' ≤ c && c ≤ 'Z') || c == '_'

/-- The name and the value of a word `NAME:value`; the value may be empty. -/
def splitNamed? (word : List Char) : Option (List Char × List Char) :=
  match word.takeWhile isNameChar, word.dropWhile isNameChar with
  | c :: name, ':' :: value => some (c :: name, value)
  | _, _ => none

/-- No blank stands in a name. -/
theorem isBlank_of_isNameChar {c : Char} (h : isNameChar c = true) : isBlank c = false := by
  simp only [isNameChar, Bool.or_eq_true, Bool.and_eq_true, decide_eq_true_eq, beq_iff_eq] at h
  rcases h with ⟨hlow, hhigh⟩ | rfl
  · have hlow : 65 ≤ c.toNat := UInt32.le_iff_toNat_le.1 hlow
    have hhigh : c.toNat ≤ 90 := UInt32.le_iff_toNat_le.1 hhigh
    exact isBlank_of_toNat (by omega) (by omega)
  · rfl

/-- The name is what stands in front of the first colon. -/
theorem splitNamed?_eq_some_iff {word name value : List Char} :
    splitNamed? word = some (name, value) ↔
      name ≠ [] ∧ (∀ c ∈ name, isNameChar c = true) ∧ word = name ++ ':' :: value := by
  constructor
  · intro h
    unfold splitNamed? at h
    split at h
    · rename_i c rest value' hname hvalue
      cases h
      refine ⟨List.cons_ne_nil c rest, ?_, ?_⟩
      · rw [← hname]
        exact fun d hd => List.mem_takeWhile_imp hd
      · rw [← hname, ← hvalue, List.takeWhile_append_dropWhile]
    · cases h
  · rintro ⟨hne, hname, rfl⟩
    have hcolon : StartsWithout isNameChar (':' :: value) := .cons rfl value
    obtain ⟨c, rest, rfl⟩ := List.exists_cons_of_ne_nil hne
    simp only [splitNamed?, takeWhile_run hname hcolon, dropWhile_run hname hcolon]

namespace ErtGrammar

open Pattern

/-- The set of the characters of names. -/
def nameChars : CharSet := ⟨false, [.range 'A' 'Z', .range '_' '_']⟩

/-- The set of the pattern contains the characters of names and no others. -/
theorem contains_nameChars (c : Char) : nameChars.contains c = isNameChar c := by
  rw [nameChars, CharSet.contains, List.any_cons, List.any_cons, CharItem.contains_range_self,
    List.any_nil, Bool.or_false, Bool.bne_false, Bool.beq_comm]
  rfl

/-- The pattern of a named parameter: a name, a colon, and a value that may be empty. -/
theorem namedParameter_eq :
    namedParameter = .seq (.seq (.group 1 (.plus true (.set nameChars))) (.group 2 (.char ':')))
      (.group 3 (.star true (.set .nonBlank))) := rfl

variable {word name value rest : List Char}

/-- A word that can be split is matched as a whole, and its parts are remembered. -/
theorem match?_namedParameter (hsplit : splitNamed? word = some (name, value))
    (hvalue : ∀ c ∈ value, isBlank c = false) (hrest : StartsWithout (!isBlank ·) rest) :
    ∃ passed, namedParameter.match? (word ++ rest) =
      some ⟨word.length, rest, (Capture.pieces 1 0 [name, [':'], value]).reverse, passed⟩ := by
  obtain ⟨hne, hname, rfl⟩ := splitNamed?_eq_some_iff.1 hsplit
  -- name, colon and value are matched in turn, each from where the one before it ends
  have hfirst : ((group 1 (plus true (set nameChars))).ends [false, false]
      (Cursor.first (name ++ ':' :: (value ++ rest)))).head? =
        some ⟨name.length, ':' :: (value ++ rest), [⟨1, 0, name⟩], [[false, false, false]]⟩ := by
    have hname : ∀ c ∈ name, nameChars.contains c = true := by
      simpa [contains_nameChars] using hname
    have hend : StartsWithout nameChars.contains (':' :: (value ++ rest)) := .cons rfl _
    refine (head?_ends_group (head?_ends_plus_set hne hname hend)).trans ?_
    simp [Cursor.captured]
  have hcolon : ((group 2 (char ':')).ends [true, false]
      ⟨name.length, ':' :: (value ++ rest), [⟨1, 0, name⟩], [[false, false, false]]⟩).head? =
        some ⟨name.length + 1, value ++ rest, [⟨2, name.length, [':']⟩, ⟨1, 0, name⟩], []⟩ := by
    rw [ends, ends_char_cons, if_pos rfl]
    simp [Cursor.captured]
  have hlast : ((group 3 (star true (set .nonBlank))).ends [true]
      ⟨name.length + 1, value ++ rest, [⟨2, name.length, [':']⟩, ⟨1, 0, name⟩], []⟩).head? =
        some ⟨name.length + 1 + value.length, rest,
          [⟨3, name.length + 1, value⟩, ⟨2, name.length, [':']⟩, ⟨1, 0, name⟩],
          [[false, true]]⟩ := by
    rw [← funext CharSet.contains_nonBlank] at hrest
    have hvalue : ∀ c ∈ value, CharSet.nonBlank.contains c = true := by
      simpa [CharSet.contains_nonBlank] using hvalue
    refine (head?_ends_group (head?_ends_star_set rfl hvalue hrest)).trans ?_
    simp [Cursor.captured]
  refine ⟨[[false, true]], ?_⟩
  rw [List.append_assoc, List.cons_append, namedParameter_eq, match?,
    head?_ends_seq (head?_ends_seq hfirst hcolon) hlast]
  simp [Capture.pieces, Nat.add_assoc, Nat.add_comm 1]

/-- Nothing is matched if no colon stands where the name can end. -/
theorem match?_namedParameter_of_no_colon {text : List Char}
    (h : ∀ inside ∈ (plus true (set nameChars)).ends [false, false, false] (Cursor.first text),
      ∀ tail, inside.rest ≠ ':' :: tail) : namedParameter.match? text = none := by
  rw [namedParameter_eq, match?, ends_seq_eq_nil, List.head?_nil]
  rw [ends_seq_eq_nil]
  · exact List.forall_mem_nil _
  · intro middle hmiddle
    obtain ⟨inside, hinside, rfl⟩ := List.mem_map.1 hmiddle
    rw [ends, @ends_char_eq_nil _ (inside.captured 1 _) _ (h inside hinside)]
    rfl

/-- Without a name there is no named parameter. -/
theorem match?_namedParameter_of_startsWithout {text : List Char}
    (h : StartsWithout isNameChar text) : namedParameter.match? text = none := by
  apply match?_namedParameter_of_no_colon
  rw [ends_plus_set_of_not fun c hc => (contains_nameChars c).trans (h c hc)]
  exact List.forall_mem_nil _

/-- Behind the name characters of a word that cannot be split there is no colon. -/
theorem dropWhile_ne_colon {c : Char} (hc : isNameChar c = true)
    (hsplit : splitNamed? (c :: word) = none) (hrest : StartsWithout (!isBlank ·) rest)
    (tail : List Char) : (word ++ rest).dropWhile isNameChar ≠ ':' :: tail := by
  intro htail
  have hrest' : StartsWithout isNameChar rest :=
    hrest.mono fun d hd => by rw [isBlank_of_isNameChar hd]; rfl
  rw [dropWhile_append_of_startsWithout hrest'] at htail
  cases hword : word.dropWhile isNameChar with
  -- the colon would stand behind the word
  | nil =>
    rw [hword, List.nil_append] at htail
    exact absurd (hrest ':' (by rw [htail]; rfl)) (by decide)
  | cons d value =>
    rw [hword] at htail
    obtain ⟨rfl, -⟩ := List.cons.inj htail
    rw [splitNamed?, List.takeWhile_cons_of_pos hc, List.dropWhile_cons_of_pos hc, hword] at hsplit
    cases hsplit

/-- Nothing is matched at a word that cannot be split. -/
theorem match?_namedParameter_eq_none (hsplit : splitNamed? word = none) (hne : word ≠ [])
    (hrest : StartsWithout (!isBlank ·) rest) : namedParameter.match? (word ++ rest) = none := by
  obtain ⟨c, word, rfl⟩ := List.exists_cons_of_ne_nil hne
  by_cases hc : isNameChar c = true
  · apply match?_namedParameter_of_no_colon
    intro inside hinside tail htail
    rw [Cursor.first, List.cons_append, ends_plus_set_cons (by rwa [contains_nameChars]),
      List.mem_reverse] at hinside
    -- behind a part of the name stands more of it
    rcases rest_of_mem_runStops hinside with ⟨d, more, hmore, hd⟩ | hend
    · obtain ⟨rfl, rfl⟩ := List.cons.inj (hmore.symm.trans htail)
      rw [contains_nameChars] at hd
      cases hd
    · rw [funext contains_nameChars] at hend
      exact dropWhile_ne_colon hc hsplit hrest tail (hend.symm.trans htail)
  · exact match?_namedParameter_of_startsWithout (.cons (by simpa using hc) _)

end ErtGrammar

end EnsembleDesk
