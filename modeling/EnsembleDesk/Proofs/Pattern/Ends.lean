import EnsembleDesk.Pattern.Basic
/-!
# What a match takes

A walk through a pattern takes a piece of the text and may remember what groups matched of it.
`Pattern.walked_of_mem_ends` is the one induction over patterns: what holds of a cursor and itself,
is kept by every step of a walk and can be put together holds of a cursor and every place at which a
walk that begins there leaves the pattern. From it come

* `Pattern.advances_of_mem_ends`: a match takes a piece of the text;
* `Pattern.captures_of_mem_ends`: a pattern without groups remembers nothing;
* `Pattern.Sections.pieces_of_match?`: where a pattern consists of numbered groups, one after the
  other, these cut what it matches into pieces.
-/

namespace EnsembleDesk

namespace Cursor

/-- One cursor is what became of another: the relation is reflexive and transitive, and steps of a
walk keep it. -/
structure Walk (R : Cursor → Cursor → Prop) : Prop where
  /-- A walk may be over at once. -/
  refl : ∀ cursor, R cursor cursor
  /-- A walk may go on. -/
  trans : ∀ {first second third}, R first second → R second third → R first third
  /-- A choice is passed. -/
  passed : ∀ cursor places, R cursor { cursor with passed := places }
  /-- A character is taken. -/
  moved : ∀ {cursor : Cursor} {c rest}, cursor.rest = c :: rest → R cursor (cursor.moved rest)

/-- Of cursors without repetitions each is one of the cursors. -/
theorem mem_of_mem_distinctFrom {cursor : Cursor} {seen : BitSet} {cursors : List Cursor}
    (h : cursor ∈ distinctFrom seen cursors) : cursor ∈ cursors := by
  induction cursors generalizing seen with
  | nil => exact h
  | cons first rest ih =>
    rw [distinctFrom] at h
    split at h
    · exact List.mem_cons_of_mem _ (ih h)
    · rcases List.mem_cons.1 h with rfl | h
      · exact List.mem_cons_self
      · exact List.mem_cons_of_mem _ (ih h)

/-- Of cursors without repetitions each is one of the cursors. -/
theorem mem_of_mem_distinct {cursor : Cursor} {cursors : List Cursor}
    (h : cursor ∈ distinct cursors) : cursor ∈ cursors :=
  mem_of_mem_distinctFrom h

/-- A cursor that passes a place was walked to. -/
theorem Walk.of_pass? {R : Cursor → Cursor → Prop} (hwalk : Walk R) {cursor after : Cursor}
    {place : Place} (h : cursor.pass? place = some after) : R cursor after := by
  rw [pass?] at h
  split at h
  · cases h
  · cases h
    exact hwalk.passed cursor _

end Cursor

namespace Pattern

open Cursor

variable {R : Cursor → Cursor → Prop} {place : Place} {cursor after : Cursor}

/-! ### Parts of patterns -/

/-- The ends of what is optional are walked to. -/
theorem walked_of_mem_endsOptional (hwalk : Walk R) {greedy : Bool}
    {inside : Cursor → List Cursor} (hinside : ∀ cursor, ∀ after ∈ inside cursor, R cursor after)
    (h : after ∈ endsOptional greedy place inside cursor) : R cursor after := by
  rw [endsOptional] at h
  split at h
  · cases h
  · rename_i entered hentered
    refine hwalk.trans (hwalk.of_pass? hentered) ?_
    have hmem : after = entered ∨ after ∈ inside entered := by
      cases greedy with
      | true => simpa [or_comm] using mem_of_mem_distinct h
      | false => simpa using mem_of_mem_distinct h
    rcases hmem with rfl | hmem
    · exact hwalk.refl _
    · exact hinside entered after hmem

namespace Rounds

/-- The ends that are known come from a cursor. -/
def From (R : Cursor → Cursor → Prop) (start : Cursor) (rounds : Rounds) : Prop :=
  ∀ found ∈ rounds.found, R start found

variable {start : Cursor} {rounds : Rounds}

/-- No end is known at first. -/
theorem From.initial : From R start .initial := fun _ hfound => absurd hfound List.not_mem_nil

/-- The ends that are found come from where the search began. -/
theorem From.find (h : rounds.From R start) (hcursor : R start cursor) :
    (rounds.find cursor).From R start :=
  List.forall_mem_cons.2 ⟨hcursor, h⟩

/-- Every end that is found comes from the cursor at which the repetition was begun. -/
theorem From.explore (hwalk : Walk R) {greedy : Bool} {round : Cursor → List Cursor}
    (hround : ∀ cursor, ∀ after ∈ round cursor, R cursor after) (bound : Nat)
    (h : rounds.From R start) (hcursor : R start cursor) :
    (Rounds.explore greedy place round bound rounds cursor).From R start := by
  induction bound generalizing rounds cursor with
  | zero => exact h
  | succ bound ih =>
    rw [Rounds.explore]
    -- a place that was tried before, or may not be passed again, leads to no other end
    split
    · exact h
    · split
      · exact h
      · rename_i entered hentered
        have hentered := hwalk.trans hcursor (hwalk.of_pass? hentered)
        -- every cursor that a round leads to is explored from what was found before
        have hrounds : ∀ rounds : Rounds, rounds.From R start →
            ((round entered).foldl (Rounds.explore greedy place round bound) rounds).From R start :=
          fun rounds h => List.foldlRecOn (motive := Rounds.From R start) _ _ h
            fun rounds h next hnext => ih h (hwalk.trans hentered (hround entered next hnext))
        cases greedy with
        | true => exact (hrounds (rounds.enter _) h).find hentered
        | false => exact hrounds _ (@From.find R entered start (rounds.enter _) h hentered)

end Rounds

/-- The ends of a repetition in which the choice to go on is also the way in are walked to. -/
theorem walked_of_mem_endsOfAnyRounds (hwalk : Walk R) {greedy : Bool}
    {round : Cursor → List Cursor} (hround : ∀ cursor, ∀ after ∈ round cursor, R cursor after)
    (h : after ∈ endsOfAnyRounds greedy place round cursor) : R cursor after :=
  Rounds.From.explore hwalk hround _ .initial (hwalk.refl cursor) after
    (List.mem_reverse.1 h)

/-- The ends of a repetition in which the choice to go on comes after the first round are walked
to. -/
theorem walked_of_mem_endsOfRounds (hwalk : Walk R) {greedy : Bool}
    {round : Cursor → List Cursor} (hround : ∀ cursor, ∀ after ∈ round cursor, R cursor after)
    (h : after ∈ endsOfRounds greedy place round cursor) : R cursor after := by
  have hfrom : Rounds.From R cursor ((round cursor).foldl
      (Rounds.explore greedy place round (cursor.rest.length + 1)) .initial) :=
    List.foldlRecOn (motive := Rounds.From R cursor) _ _ .initial
      fun _ h next hnext => h.explore hwalk hround _ (hround cursor next hnext)
  exact hfrom after (List.mem_reverse.1 h)

/-! ### Whole patterns -/

/-- Whether a pattern has a group. -/
def hasGroup : Pattern → Bool
  | empty | set _ | start | stop => false
  | seq first second => first.hasGroup || second.hasGroup
  | alt preferred other => preferred.hasGroup || other.hasGroup
  | optional _ body | star _ body | plus _ body => body.hasGroup
  | group _ _ => true

/-- A walk through a pattern is made of steps; if the pattern has groups, the relation has to be
kept also when a group remembers what it matched. -/
theorem walked_of_mem_ends (hwalk : Walk R) (pattern : Pattern)
    (hgroup : pattern.hasGroup = true → ∀ index cursor inside, R cursor inside →
      R cursor (inside.captured index cursor))
    (h : after ∈ pattern.ends place cursor) : R cursor after := by
  induction pattern generalizing place cursor after with
  | empty =>
    rw [List.mem_singleton.1 h]
    exact hwalk.refl cursor
  | set s =>
    rw [ends] at h
    split at h
    · cases h
    · rename_i c rest hrest
      split at h
      · rw [List.mem_singleton.1 h]
        exact hwalk.moved hrest
      · cases h
  | start =>
    rw [ends] at h
    split at h
    · rw [List.mem_singleton.1 h]
      exact hwalk.refl cursor
    · cases h
  | stop =>
    rw [ends] at h
    split at h
    · rw [List.mem_singleton.1 h]
      exact hwalk.refl cursor
    · cases h
  -- a sequence is two walks, and a choice first passes the place that it is entered at
  | seq first second ihfirst ihsecond =>
    obtain ⟨middle, hmiddle, h⟩ := List.mem_flatMap.1 (mem_of_mem_distinct h)
    exact hwalk.trans (ihfirst (fun hhas => hgroup (by simp [hasGroup, hhas])) hmiddle)
      (ihsecond (fun hhas => hgroup (by simp [hasGroup, hhas])) h)
  | alt preferred other ihpreferred ihother =>
    rw [ends] at h
    split at h
    · cases h
    · rename_i entered hentered
      refine hwalk.trans (hwalk.of_pass? hentered) ?_
      rcases List.mem_append.1 (mem_of_mem_distinct h) with h | h
      · exact ihpreferred (fun hhas => hgroup (by simp [hasGroup, hhas])) h
      · exact ihother (fun hhas => hgroup (by simp [hasGroup, hhas])) h
  | optional greedy body ih =>
    exact walked_of_mem_endsOptional hwalk (fun _ _ h => ih hgroup h) h
  | star greedy body ih =>
    rw [ends] at h
    split at h
    · exact walked_of_mem_endsOfAnyRounds hwalk (fun _ _ h => ih hgroup h) h
    -- if a round may take nothing, one or more rounds are optional as a whole
    · exact walked_of_mem_endsOptional hwalk
        (fun _ _ h => walked_of_mem_endsOfRounds hwalk (fun _ _ h => ih hgroup h) h) h
  | plus greedy body ih =>
    exact walked_of_mem_endsOfRounds hwalk (fun _ _ h => ih hgroup h) h
  | group index body ih =>
    obtain ⟨inside, hinside, rfl⟩ := List.mem_map.1 h
    exact hgroup rfl index cursor inside (ih (fun _ => hgroup rfl) hinside)

end Pattern

/-! ### What is taken -/

/-- A piece of the text is between two cursors. -/
def Cursor.Advances (before after : Cursor) : Prop :=
  ∃ text, before.rest = text ++ after.rest ∧ after.offset = before.offset + text.length

/-- A piece of the text is between cursors that are walked through. -/
theorem Cursor.walk_advances : Walk Advances where
  refl _ := ⟨[], rfl, rfl⟩
  trans := by
    rintro first second third ⟨text, hrest, hoffset⟩ ⟨more, hrest', hoffset'⟩
    refine ⟨text ++ more, ?_, ?_⟩
    · rw [hrest, hrest', List.append_assoc]
    · rw [hoffset', hoffset, List.length_append, Nat.add_assoc]
  passed _ _ := ⟨[], rfl, rfl⟩
  moved hrest := ⟨[_], hrest, rfl⟩

namespace Pattern

variable {place : Place} {cursor after : Cursor} {pattern : Pattern}

/-- A walk through a pattern takes a piece of the text. -/
theorem advances_of_mem_ends (h : after ∈ pattern.ends place cursor) : cursor.Advances after :=
  walked_of_mem_ends Cursor.walk_advances pattern (fun _ _ _ _ h => h) h

/-- The match of a pattern is one of its ends. -/
theorem mem_ends_of_match? {text : List Char} {found : Cursor}
    (h : pattern.match? text = some found) : found ∈ pattern.ends [] (Cursor.first text) :=
  List.mem_of_mem_head? h

/-- A match takes a piece from the beginning of the text. -/
theorem take_of_match? {text : List Char} {found : Cursor} (h : pattern.match? text = some found) :
    text.take found.offset ++ found.rest = text ∧ found.offset ≤ text.length := by
  obtain ⟨taken, hrest, hoffset⟩ := advances_of_mem_ends (mem_ends_of_match? h)
  rw [show (Cursor.first text).offset = 0 from rfl, Nat.zero_add] at hoffset
  rw [show (Cursor.first text).rest = text from rfl] at hrest
  rw [hoffset, hrest, List.take_left, List.length_append]
  exact ⟨rfl, Nat.le_add_right _ _⟩

/-- A pattern without groups remembers nothing. -/
theorem captures_of_mem_ends (hgroup : pattern.hasGroup = false)
    (h : after ∈ pattern.ends place cursor) : after.captures = cursor.captures := by
  refine walked_of_mem_ends (R := fun before after => after.captures = before.captures)
    ⟨fun _ => rfl, fun h h' => h'.trans h, fun _ _ => rfl, fun _ => rfl⟩ pattern ?_ h
  intro hhas
  rw [hgroup] at hhas
  cases hhas

/-- A group remembers the piece of the text that it takes. -/
theorem captures_of_mem_ends_group {index : Nat} {body : Pattern} (hbody : body.hasGroup = false)
    (h : after ∈ (group index body).ends place cursor) :
    ∃ text, cursor.rest = text ++ after.rest ∧ after.offset = cursor.offset + text.length ∧
      after.captures = ⟨index, cursor.offset, text⟩ :: cursor.captures := by
  obtain ⟨inside, hinside, rfl⟩ := List.mem_map.1 h
  obtain ⟨text, hrest, hoffset⟩ := advances_of_mem_ends hinside
  refine ⟨text, hrest, hoffset, ?_⟩
  rw [Cursor.captured, captures_of_mem_ends hbody hinside, hoffset, Nat.add_sub_cancel_left, hrest,
    List.take_left]

/-! ### Numbered groups -/

/-- A pattern consists of `n` groups, numbered from one on, that follow one another and contain no
groups. -/
inductive Sections : Nat → Pattern → Prop where
  /-- The first group. -/
  | first {body : Pattern} (hbody : body.hasGroup = false) : Sections 1 (group 1 body)
  /-- One more group. -/
  | next {n : Nat} {pattern body : Pattern} (hpattern : Sections n pattern)
    (hbody : body.hasGroup = false) : Sections (n + 1) (seq pattern (group (n + 1) body))

end Pattern

/-- Pieces of a text that were remembered by groups numbered from `index` on. -/
def Capture.pieces (index offset : Nat) : List (List Char) → List Capture
  | [] => []
  | text :: texts => ⟨index, offset, text⟩ :: pieces (index + 1) (offset + text.length) texts

namespace Capture

/-- The last piece stands behind the others. -/
theorem pieces_concat (index offset : Nat) (texts : List (List Char)) (text : List Char) :
    pieces index offset (texts ++ [text]) =
      pieces index offset texts ++
        [⟨index + texts.length, offset + texts.flatten.length, text⟩] := by
  induction texts generalizing index offset with
  | nil => rfl
  | cons first texts ih =>
    simp only [List.cons_append, pieces, ih, List.length_cons, List.flatten_cons,
      List.length_append]
    congr 4
    · omega
    · omega

/-- Pieces are numbered from the given index on. -/
theorem le_index_of_mem_pieces {index offset : Nat} {texts : List (List Char)} {capture : Capture}
    (h : capture ∈ pieces index offset texts) : index ≤ capture.index := by
  induction texts generalizing index offset with
  | nil => cases h
  | cons text texts ih =>
    rcases List.mem_cons.1 h with rfl | h
    · exact Nat.le_refl _
    · exact Nat.le_of_succ_le (ih h)

/-- Every piece is found by the number of its group. -/
theorem find?_reverse_pieces {index offset : Nat} {texts : List (List Char)} {capture : Capture}
    (h : capture ∈ pieces index offset texts) :
    (pieces index offset texts).reverse.find? (·.index == capture.index) = some capture := by
  induction texts generalizing index offset with
  | nil => cases h
  | cons text texts ih =>
    rw [pieces, List.reverse_cons, List.find?_append]
    rcases List.mem_cons.1 h with rfl | h
    · -- the pieces that follow belong to later groups
      have hlater : (pieces (index + 1) (offset + text.length) texts).reverse.find?
          (·.index == index) = none := by
        rw [List.find?_eq_none]
        intro other hother heq
        have := le_index_of_mem_pieces (List.mem_reverse.1 hother)
        have := beq_iff_eq.1 heq
        omega
      simp [hlater]
    · rw [ih h]
      rfl

end Capture

namespace Pattern

variable {place : Place} {cursor after : Cursor} {pattern : Pattern}

/-- Numbered groups cut what they match into pieces. -/
theorem Sections.pieces {n : Nat} (hsections : pattern.Sections n)
    (h : after ∈ pattern.ends place cursor) :
    ∃ texts : List (List Char), texts.length = n ∧ cursor.rest = texts.flatten ++ after.rest ∧
      after.offset = cursor.offset + texts.flatten.length ∧
      after.captures = (Capture.pieces 1 cursor.offset texts).reverse ++ cursor.captures := by
  induction hsections generalizing place after with
  | first hbody =>
    obtain ⟨text, hrest, hoffset, hcaptures⟩ := captures_of_mem_ends_group hbody h
    exact ⟨[text], rfl, by simpa using hrest, by simpa using hoffset, hcaptures⟩
  | next hpattern hbody ih =>
    -- the last group begins where the groups before it end
    obtain ⟨middle, hmiddle, h⟩ := List.mem_flatMap.1 (Cursor.mem_of_mem_distinct h)
    obtain ⟨texts, rfl, hrest, hoffset, hcaptures⟩ := ih hmiddle
    obtain ⟨text, hrest', hoffset', hcaptures'⟩ := captures_of_mem_ends_group hbody h
    refine ⟨texts ++ [text], List.length_append, ?_, ?_, ?_⟩
    · simp [hrest, hrest']
    · simp [hoffset, hoffset', Nat.add_assoc]
    · rw [hcaptures', hcaptures, hoffset, Capture.pieces_concat, List.reverse_append,
        Nat.add_comm 1]
      rfl

/-- Numbered groups cut a match into pieces and remember each of them. -/
theorem Sections.pieces_of_match? {n : Nat} (hsections : pattern.Sections n) {text : List Char}
    {found : Cursor} (h : pattern.match? text = some found) :
    ∃ texts : List (List Char), texts.length = n ∧ text.take found.offset = texts.flatten ∧
      ∀ capture ∈ Capture.pieces 1 0 texts, found.capture? capture.index = some capture := by
  obtain ⟨texts, hlength, hrest, hoffset, hcaptures⟩ := hsections.pieces (mem_ends_of_match? h)
  rw [show (Cursor.first text).offset = 0 from rfl] at hoffset hcaptures
  refine ⟨texts, hlength, ?_, fun capture hmem => ?_⟩
  · rw [hoffset, Nat.zero_add, show text = _ from hrest, List.take_left]
  · rw [Cursor.capture?, hcaptures, List.find?_append, Capture.find?_reverse_pieces hmem]
    rfl

end Pattern

end EnsembleDesk
