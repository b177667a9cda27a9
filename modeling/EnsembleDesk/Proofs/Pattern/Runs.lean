import EnsembleDesk.Grammar.Table
import EnsembleDesk.Proofs.Pattern.Ends
import EnsembleDesk.Proofs.Text.Digits
/-!
# Matches of runs of characters

A greedy repetition of one set of characters can be left anywhere in a run of them
(`Pattern.runStops`) and takes the longest one (`Pattern.matchLength?_run`). From it come the
lengths of the matches of the patterns that the grammars share: words, runs of spaces and tabs, and
comments.

Many patterns begin with a character of a set, and then match nothing where another character stands
(`Pattern.ends_eq_nil_of_beginning?`). In particular such a pattern does not match at a blank if its
set has none, which is decided by looking at each blank (`Pattern.matchLength?_of_blank`).
-/

namespace EnsembleDesk

/-- A range from a character to itself has that character alone. -/
theorem CharItem.contains_range_self (c d : Char) : (range c c).contains d = (c == d) := by
  rw [Bool.eq_iff_iff, beq_iff_eq]
  simp only [contains, Bool.and_eq_true, decide_eq_true_eq]
  exact ⟨fun h => Char.le_antisymm h.1 h.2, fun h => h ▸ ⟨Char.le_refl _, Char.le_refl _⟩⟩

namespace CharSet

/-- The set of one character has that character alone. -/
theorem contains_single (c d : Char) : (single c).contains d = (c == d) := by
  simp [single, contains, CharItem.contains_range_self]

/-- The set of some characters has these characters. -/
theorem contains_ofChars (chars : List Char) (d : Char) :
    (ofChars chars).contains d = chars.contains d := by
  simp only [ofChars, contains, List.any_map, Bool.bne_false]
  rw [List.contains_eq_any_beq]
  congr 1
  funext c
  rw [Function.comp_apply, CharItem.contains_range_self, Bool.beq_comm]

/-- The set of what is not blank. -/
theorem contains_nonBlank (c : Char) : nonBlank.contains c = !isBlank c := by
  simp [nonBlank, contains, CharItem.contains, CharClass.contains]

/-- The set of what a line can consist of. -/
theorem contains_inLine (c : Char) : inLine.contains c = (c != '\n') := by
  simp only [inLine, allBut, contains, List.map_cons, List.map_nil, List.any_cons, List.any_nil,
    Bool.or_false, CharItem.contains_range_self]
  rw [Bool.bne_true, bne, Bool.beq_comm]

end CharSet

/-- The preferred match is never one that is left out as a repetition. -/
theorem Cursor.head?_distinct (cursors : List Cursor) :
    (Cursor.distinct cursors).head? = cursors.head? := by
  cases cursors with
  | nil => rfl
  | cons first rest => simp [Cursor.distinct, Cursor.distinctFrom]

namespace Pattern

/-- The number of characters in the preferred match at the beginning of a text. -/
def matchLength? (pattern : Pattern) (text : List Char) : Option Nat :=
  (pattern.match? text).map Cursor.offset

variable {s : CharSet} {place : Place} {cursor : Cursor}

/-- A set matches one of its members. -/
theorem ends_set_cons {offset : Nat} {c : Char} {rest : List Char} {captures : List Capture}
    {passed : List Place} :
    (set s).ends place ⟨offset, c :: rest, captures, passed⟩ =
      if s.contains c then [⟨offset + 1, rest, captures, []⟩] else [] := rfl

/-- Where the choice to go on was not come to before, a round is tried before the end. -/
theorem explore_of_fresh {round : Cursor → List Cursor} {bound : Nat} {rounds : Rounds}
    (htried : rounds.tried.contains cursor.offset = false) (hpassed : cursor.passed = []) :
    Rounds.explore true place round (bound + 1) rounds cursor =
      ((round { cursor with passed := [place] }).foldl (Rounds.explore true place round bound)
        (rounds.enter cursor.offset)).find { cursor with passed := [place] } := by
  rw [Rounds.explore, htried, Cursor.pass?, hpassed]
  rfl

/-- The places at which a run of members of a set can be left, the nearest first. -/
def runStops (s : CharSet) (place : Place) (captures : List Capture) :
    (offset : Nat) → (text : List Char) → List Cursor
  | offset, [] => [⟨offset, [], captures, [place]⟩]
  | offset, c :: rest =>
    ⟨offset, c :: rest, captures, [place]⟩ ::
      if s.contains c then runStops s place captures (offset + 1) rest else []

section RunStops

variable {captures : List Capture} {offset : Nat} {text : List Char}

/-- The last place at which a run can be left is its end. -/
theorem getLast?_runStops :
    (runStops s place captures offset text).getLast? =
      some ⟨offset + (text.takeWhile s.contains).length, text.dropWhile s.contains, captures,
        [place]⟩ := by
  induction text generalizing offset with
  | nil => rfl
  | cons c rest ih =>
    rw [runStops]
    by_cases hc : s.contains c = true
    · rw [if_pos hc, List.getLast?_cons, ih, List.takeWhile_cons_of_pos hc,
        List.dropWhile_cons_of_pos hc, List.length_cons, Option.getD_some, Nat.add_right_comm,
        Nat.add_assoc]
    · rw [if_neg hc, List.takeWhile_cons_of_neg hc, List.dropWhile_cons_of_neg hc]
      rfl

/-- A run is left in front of another member of the set, or at its end. -/
theorem rest_of_mem_runStops (h : cursor ∈ runStops s place captures offset text) :
    (∃ c rest, cursor.rest = c :: rest ∧ s.contains c = true) ∨
      cursor.rest = text.dropWhile s.contains := by
  induction text generalizing offset with
  | nil =>
    rw [List.mem_singleton.1 h]
    exact .inr rfl
  | cons c rest ih =>
    rw [runStops] at h
    by_cases hc : s.contains c = true
    · rw [if_pos hc, List.mem_cons] at h
      rw [List.dropWhile_cons_of_pos hc]
      rcases h with rfl | h
      · exact .inl ⟨c, rest, rfl, hc⟩
      · exact ih h
    · rw [if_neg hc] at h
      rw [List.mem_singleton.1 h, List.dropWhile_cons_of_neg hc]
      exact .inr rfl

end RunStops

/-- A greedy repetition of a set finds the places at which a run can be left. -/
theorem found_explore_set {bound : Nat} {rounds : Rounds} (hbound : cursor.rest.length < bound)
    (hpassed : cursor.passed = [])
    (htried : ∀ i, cursor.offset ≤ i → rounds.tried.contains i = false) :
    (Rounds.explore true place ((set s).ends (false :: place)) bound rounds cursor).found =
      runStops s place cursor.captures cursor.offset cursor.rest ++ rounds.found := by
  induction bound generalizing rounds cursor with
  | zero => exact absurd hbound (Nat.not_lt_zero _)
  | succ bound ih =>
    rw [explore_of_fresh (htried cursor.offset (Nat.le_refl _)) hpassed]
    obtain ⟨offset, rest, captures, passed⟩ := cursor
    cases rest with
    | nil => rfl
    | cons c rest =>
      rw [ends_set_cons, runStops]
      by_cases hc : s.contains c = true
      · rw [if_pos hc, if_pos hc]
        refine congrArg (List.cons _) (@ih ⟨offset + 1, rest, captures, []⟩
          (rounds.enter offset) (Nat.lt_of_succ_lt_succ hbound) rfl fun i hi => ?_)
        -- only places in front of the cursor were tried
        have hold := htried i (Nat.le_of_succ_le hi)
        have hne : offset ≠ i := Nat.ne_of_lt hi
        simp [Rounds.enter, hold, hne]
      -- the run ends here
      · rw [if_neg hc, if_neg hc]
        rfl

/-- The ends of a repeated set are the places where the run of its members can be left, the farthest
first. -/
theorem ends_explore_set {bound : Nat} (hbound : cursor.rest.length < bound)
    (hpassed : cursor.passed = []) :
    (Rounds.explore true place ((set s).ends (false :: place)) bound .initial cursor).ends =
      (runStops s place cursor.captures cursor.offset cursor.rest).reverse := by
  rw [Rounds.ends, found_explore_set hbound hpassed fun _ _ => BitSet.contains_empty _]
  simp [Rounds.initial]

/-- A run that must not be empty is left behind its first character or later, the longest run
first. -/
theorem ends_plus_set_cons {offset : Nat} {c : Char} {rest : List Char} {captures : List Capture}
    {passed : List Place} (hc : s.contains c = true) :
    (plus true (set s)).ends place ⟨offset, c :: rest, captures, passed⟩ =
      (runStops s place captures (offset + 1) rest).reverse := by
  rw [ends, endsOfRounds, ends_set_cons, if_pos hc]
  exact @ends_explore_set s place ⟨offset + 1, rest, captures, []⟩ _
    (Nat.lt_succ_of_lt (Nat.lt_succ_self _)) rfl

/-- A set that is repeated at least once does not match in front of another character. -/
theorem ends_plus_set_of_not (h : ∀ c ∈ cursor.rest.head?, s.contains c = false) :
    (plus true (set s)).ends place cursor = [] := by
  obtain ⟨offset, rest, captures, passed⟩ := cursor
  rw [ends, endsOfRounds]
  cases rest with
  | nil => rfl
  | cons c rest =>
    rw [ends_set_cons, h c rfl]
    rfl

/-- A run that may be empty is left anywhere in it, the longest run first. -/
theorem ends_star_set (hs : s.isEmpty = false) (hpassed : cursor.passed = []) :
    (star true (set s)).ends place cursor =
      (runStops s place cursor.captures cursor.offset cursor.rest).reverse := by
  have htakes : (set s).takesSome = true := by simp [takesSome, minLength?, hs]
  rw [ends, if_pos htakes]
  exact ends_explore_set (Nat.lt_succ_self _) hpassed

section PreferredEnds

variable {offset : Nat} {run rest : List Char} {captures : List Capture} {passed : List Place}

/-- The preferred match of a set repeated at least once is the whole run. -/
theorem head?_ends_plus_set (hne : run ≠ []) (hrun : ∀ c ∈ run, s.contains c = true)
    (hrest : StartsWithout s.contains rest) :
    ((plus true (set s)).ends place ⟨offset, run ++ rest, captures, passed⟩).head? =
      some ⟨offset + run.length, rest, captures, [place]⟩ := by
  obtain ⟨c, run, rfl⟩ := List.exists_cons_of_ne_nil hne
  obtain ⟨hc, hrun⟩ := List.forall_mem_cons.1 hrun
  rw [List.cons_append, ends_plus_set_cons hc, List.head?_reverse, getLast?_runStops,
    takeWhile_run hrun hrest, dropWhile_run hrun hrest, List.length_cons, Nat.add_right_comm,
    Nat.add_assoc]

/-- The preferred match of a repeated set is the whole run, which may be empty. -/
theorem head?_ends_star_set (hs : s.isEmpty = false) (hrun : ∀ c ∈ run, s.contains c = true)
    (hrest : StartsWithout s.contains rest) :
    ((star true (set s)).ends place ⟨offset, run ++ rest, captures, []⟩).head? =
      some ⟨offset + run.length, rest, captures, [place]⟩ := by
  rw [ends_star_set hs rfl, List.head?_reverse, getLast?_runStops, takeWhile_run hrun hrest,
    dropWhile_run hrun hrest]

end PreferredEnds

/-- A greedy repetition of a set takes the longest run, which must not be empty. -/
theorem matchLength?_run (s : CharSet) (text : List Char) :
    (plus true (set s)).matchLength? text =
      if (text.takeWhile s.contains).isEmpty then none
      else some (text.takeWhile s.contains).length := by
  rw [matchLength?, match?, Cursor.first]
  cases text with
  | nil => rfl
  | cons c rest =>
    by_cases hc : s.contains c = true
    · rw [ends_plus_set_cons hc, List.head?_reverse, getLast?_runStops,
        List.takeWhile_cons_of_pos hc]
      simp [Nat.add_comm]
    · rw [ends_plus_set_of_not (by simpa using hc), List.takeWhile_cons_of_neg hc]
      rfl

/-- A character matches itself. -/
theorem ends_char_cons (c : Char) {offset : Nat} {d : Char} {rest : List Char}
    {captures : List Capture} {passed : List Place} :
    (char c).ends place ⟨offset, d :: rest, captures, passed⟩ =
      if c = d then [⟨offset + 1, rest, captures, []⟩] else [] := by
  rw [char, ends_set_cons, CharSet.contains_single]
  simp

/-- A character does not match in front of another one. -/
theorem ends_char_eq_nil {c : Char} (h : ∀ rest, cursor.rest ≠ c :: rest) :
    (char c).ends place cursor = [] := by
  obtain ⟨offset, rest, captures, passed⟩ := cursor
  cases rest with
  | nil => rfl
  | cons d rest =>
    rw [ends_char_cons, if_neg]
    rintro rfl
    exact h rest rfl

/-! ### The preferred ends of larger patterns -/

variable {first second body : Pattern}

/-- The preferred match of a sequence goes on from that of its first part, if it can. -/
theorem head?_ends_seq {middle last : Cursor}
    (hfirst : (first.ends (false :: place) cursor).head? = some middle)
    (hsecond : (second.ends (true :: place) middle).head? = some last) :
    ((seq first second).ends place cursor).head? = some last := by
  obtain ⟨others, hfirst⟩ := List.head?_eq_some_iff.1 hfirst
  rw [ends, Cursor.head?_distinct, hfirst, List.flatMap_cons, List.head?_append, hsecond,
    Option.some_or]

/-- A sequence does not match if its second part matches behind no match of the first. -/
theorem ends_seq_eq_nil (h : ∀ middle ∈ first.ends (false :: place) cursor,
    second.ends (true :: place) middle = []) : (seq first second).ends place cursor = [] := by
  rw [ends, List.flatMap_eq_nil_iff.2 h]
  rfl

/-- A group matches what its body does, and captures it. -/
theorem head?_ends_group {index : Nat} {inside : Cursor}
    (h : (body.ends (false :: place) cursor).head? = some inside) :
    ((group index body).ends place cursor).head? = some (inside.captured index cursor) := by
  rw [ends, List.head?_map, h, Option.map_some]

end Pattern

/-! ### The patterns that the grammars share -/

namespace LineGrammar

open Pattern

/-- A word is a run of what is not blank. -/
theorem matchLength?_word (text : List Char) :
    word.matchLength? text =
      if (text.takeWhile (!isBlank ·)).isEmpty then none
      else some (text.takeWhile (!isBlank ·)).length := by
  rw [word, matchLength?_run, funext CharSet.contains_nonBlank]

/-- Spaces and tabs are matched as a run. -/
theorem matchLength?_spaces (text : List Char) :
    spaces.matchLength? text =
      if (text.takeWhile [' ', '\t'].contains).isEmpty then none
      else some (text.takeWhile [' ', '\t'].contains).length := by
  rw [spaces, matchLength?_run, funext (CharSet.contains_ofChars _)]

/-- Two hyphens match at the beginning of a text that begins with them. -/
theorem ends_hyphens (place : Place) (text : List Char) :
    (seq (char '-') (char '-')).ends place (Cursor.first text) =
      if startsWith text ['-', '-'] then [⟨2, text.drop 2, [], []⟩] else [] := by
  rw [ends]
  cases text with
  | nil => rfl
  | cons c rest =>
    rw [Cursor.first, ends_char_cons]
    by_cases hc : '-' = c
    · subst hc
      rw [if_pos rfl, List.flatMap_singleton]
      cases rest with
      | nil => rfl
      | cons d rest =>
        rw [ends_char_cons]
        by_cases hd : '-' = d
        · subst hd
          simp [startsWith, Cursor.distinct, Cursor.distinctFrom]
        · simp [startsWith, hd, Cursor.distinct, Cursor.distinctFrom]
    · simp [startsWith, hc, Cursor.distinct, Cursor.distinctFrom]

/-- A comment takes the rest of the line. -/
theorem matchLength?_comment (text : List Char) :
    comment.matchLength? text =
      if startsWith text ['-', '-'] then some (2 + ((text.drop 2).takeWhile (· != '\n')).length)
      else none := by
  rw [matchLength?, match?, comment]
  simp only [Pattern.sequence, List.foldl_cons, List.foldl_nil]
  rw [ends, Cursor.head?_distinct, ends_hyphens]
  split
  · rw [List.flatMap_singleton, ← funext CharSet.contains_inLine, ends_star_set rfl rfl,
      List.head?_reverse, getLast?_runStops]
    rfl
  · rfl

end LineGrammar

/-! ### What matches begin with -/

/-- The characters whose code points are in some ranges. -/
def charsIn (ranges : List (Nat × Nat)) : List Char :=
  ranges.flatMap fun range => (List.range' range.1 (range.2 + 1 - range.1)).map Char.ofNat

/-- All characters of the ranges are listed. -/
theorem mem_charsIn {ranges : List (Nat × Nat)} {c : Char} (h : inRanges ranges c = true) :
    c ∈ charsIn ranges := by
  obtain ⟨range, hrange, hc⟩ := List.any_eq_true.1 h
  rw [Bool.and_eq_true, decide_eq_true_eq, decide_eq_true_eq] at hc
  refine List.mem_flatMap.2 ⟨range, hrange, List.mem_map.2 ⟨c.toNat, ?_, Char.ofNat_toNat c⟩⟩
  rw [List.mem_range'_1]
  omega

/-- Whether a set has no blanks. -/
def CharSet.avoidsBlanks (s : CharSet) : Bool := (charsIn blankRanges).all (!s.contains ·)

/-- A set without blanks has no blank. -/
theorem CharSet.contains_of_avoidsBlanks {s : CharSet} (h : s.avoidsBlanks = true) {c : Char}
    (hc : isBlank c = true) : s.contains c = false := by
  simpa using List.all_eq_true.1 h c (mem_charsIn hc)

namespace Pattern

/-- The set that the first character of each match is in, where the beginning of a pattern tells. -/
def beginning? : Pattern → Option CharSet
  | set s => some s
  | seq first _ => first.beginning?
  | plus _ body => body.beginning?
  | group _ body => body.beginning?
  | _ => none

variable {pattern : Pattern} {s : CharSet} {cursor : Cursor}

/-- A pattern does not match where no character of its beginning stands. -/
theorem ends_eq_nil_of_beginning? (h : pattern.beginning? = some s)
    (hcursor : ∀ c ∈ cursor.rest.head?, s.contains c = false) (place : Place) :
    pattern.ends place cursor = [] := by
  induction pattern generalizing place with
  | set other =>
    cases h
    obtain ⟨offset, rest, captures, passed⟩ := cursor
    cases rest with
    | nil => rfl
    | cons c rest => rw [ends_set_cons, if_neg (by simp [hcursor c rfl])]
  | seq first second ihFirst =>
    apply ends_seq_eq_nil
    rw [ihFirst h]
    exact List.forall_mem_nil _
  | plus greedy body ih =>
    rw [ends, endsOfRounds, ih h]
    rfl
  | group index body ih => rw [ends, ih h, List.map_nil]
  | _ => cases h

/-- A pattern that begins with no blank does not match at a blank. -/
theorem matchLength?_of_blank (h : pattern.beginning?.any CharSet.avoidsBlanks = true) {c : Char}
    (hc : isBlank c = true) (rest : List Char) : pattern.matchLength? (c :: rest) = none := by
  obtain ⟨s, hs, havoids⟩ := (Option.any_eq_true _ _).1 h
  rw [matchLength?, match?, ends_eq_nil_of_beginning? hs]
  · rfl
  · rintro d ⟨⟩
    exact CharSet.contains_of_avoidsBlanks havoids hc

end Pattern

end EnsembleDesk
