import EnsembleDesk.Line.Diagnostic
import EnsembleDesk.Proofs.Line.Marking
import EnsembleDesk.Proofs.Line.Marks
/-!
# Arguments are found again after refinement

Diagnostics looks for the arguments of a line a second time, in the tokens that refinement has
marked. Delimiters are told by their kinds, and so a mark may hide one. On the tokens of arguments
this makes no difference: they are taken for what they are by the order in which they stand. An
opening parenthesis that is never closed is no longer seen as one, and what it kept apart counts as
further arguments (`LineParts.ofTokens_refine`).

## Main results

* `LineParts.ofTokens_refine`: which arguments are found in refined tokens;
* `Language.arguments_found_again`: refinement and diagnostics see the same arguments just if no
  parenthesis is left open behind a keyword.
-/

namespace EnsembleDesk

namespace Argument

/-- The place where an argument begins. -/
def place : Argument → Nat
  | positional place => place
  | named name _ => name

end Argument

namespace LineParts

variable {marks : Marking} {unclosed : List Nat} {placed : List (Token × Nat)} {token : Token}
  {place : Nat} {places : List Nat} {rest : List (Token × Nat)}
  {read again : List Argument × List Nat}

/-- Outside of parentheses, a token that is none begins an argument. -/
theorem place_head?_readArguments (hopening : token.isDelimiter "(" = false)
    (hclosing : token.isDelimiter ")" = false) :
    (readArguments [] ((token, place) :: rest)).1.head?.map Argument.place = some place := by
  rw [readArguments.eq_def]
  simp only [hopening, hclosing, Bool.false_eq_true, if_false, List.isEmpty_nil, Bool.not_true]
  split
  · rfl
  · split
    · split
      · rfl
      · split <;> rfl
    · rfl

/-- Parentheses that are never closed were open before or stand among the tokens. -/
theorem mem_unclosed_readArguments (unclosed : List Nat) (placed : List (Token × Nat)) :
    ∀ place ∈ (readArguments unclosed placed).2,
      place ∈ unclosed ∨ place ∈ placed.map Prod.snd := by
  fun_induction readArguments unclosed placed with
  | case1 unclosed => exact fun place h => .inl h
  | case2 unclosed token place rest _ ih =>
    intro other hother
    rcases ih other hother with hopen | hrest
    · rcases List.mem_cons.1 hopen with rfl | hopen
      · exact .inr List.mem_cons_self
      · exact .inl hopen
    · exact .inr (List.mem_cons_of_mem _ hrest)
  | case3 unclosed token place rest _ _ ih =>
    exact fun other hother => (ih other hother).imp List.mem_of_mem_tail (List.mem_cons_of_mem _)
  | case4 unclosed token place rest _ _ _ ih =>
    exact fun other hother => (ih other hother).imp_right (List.mem_cons_of_mem _)
  | _ => simp_all [addArgument]

/-- A parenthesis that is open before tokens are read is never closed by them; they are no arguments
then. -/
structure StaysOpen (unclosed : List Nat) (read : List Argument × List Nat) : Prop where
  /-- A parenthesis is open. -/
  ne_nil : unclosed ≠ []
  /-- There are no arguments. -/
  arguments : read.1 = []
  /-- The first parenthesis that was open is the first one that is never closed. -/
  getLast? : read.2.getLast? = unclosed.getLast?

/-- Where no parenthesis is open, none stays open. -/
theorem StaysOpen.not_nil : ¬ StaysOpen [] read := fun h => h.ne_nil rfl

/-- The places of tokens are marked only where arguments are that were read from them, and at
parentheses that are never closed, all of which are marked. -/
structure Marked (marks : Marking) (places : List Nat) (read : List Argument × List Nat) :
    Prop where
  /-- Marks are at the places of arguments and of parentheses that are never closed. -/
  mem_of_ne_none : ∀ place ∈ places, marks place ≠ none →
    place ∈ read.1.flatMap Argument.places ∨ place ∈ read.2
  /-- Each parenthesis that is never closed is marked. -/
  unclosed : ∀ place ∈ read.2, marks place ≠ none

namespace Marked

/-- Marks at fewer places are marks of the same reading. -/
theorem mono (h : Marked marks places read) {others : List Nat}
    (hothers : ∀ place ∈ others, place ∈ places) : Marked marks others read :=
  ⟨fun place hplace => h.mem_of_ne_none place (hothers place hplace), h.unclosed⟩

/-- Marks of a reading with one argument more are marks of the others, at the places behind it. -/
theorem of_addArgument {argument : Argument}
    (h : Marked marks places (addArgument argument read))
    (hdisjoint : ∀ place ∈ places, place ∉ argument.places) : Marked marks places read := by
  refine ⟨fun place hplace hmarked => ?_, h.unclosed⟩
  have := h.mem_of_ne_none place hplace hmarked
  rw [addArgument, List.flatMap_cons, List.mem_append] at this
  exact this.imp_left (Or.resolve_left · (hdisjoint place hplace))

/-- A token that is part of no argument and of no parenthesis that is never closed is not marked. -/
theorem eq_none (h : Marked marks places read) (hplace : place ∈ places)
    (harguments : place ∉ read.1.flatMap Argument.places) (hunclosed : place ∉ read.2) :
    marks place = none := by
  by_contra hmarked
  exact (h.mem_of_ne_none place hplace hmarked).elim harguments hunclosed

end Marked

/-- What was read is found again: the arguments, and from the first parenthesis on that is never
closed further ones. -/
structure FindsAgain (places : List Nat) (read again : List Argument × List Nat) : Prop where
  /-- No parenthesis that was open before is left open. -/
  mem_places : ∀ place ∈ read.2, place ∈ places
  /-- The arguments, and further ones. -/
  arguments : ∃ further, again.1 = read.1 ++ further ∧
    further.head?.map Argument.place = read.2.getLast?

namespace FindsAgain

/-- What is found again among some places is found again among more. -/
theorem mono (h : FindsAgain places read again) {others : List Nat}
    (hothers : ∀ place ∈ places, place ∈ others) : FindsAgain others read again :=
  ⟨fun place hplace => hothers place (h.mem_places place hplace), h.arguments⟩

/-- What is found again is found again behind one argument more. -/
theorem addArgument (h : FindsAgain places read again) (argument : Argument) {others : List Nat}
    (hothers : ∀ place ∈ places, place ∈ others) :
    FindsAgain others (addArgument argument read) (addArgument argument again) := by
  obtain ⟨further, hfurther, hplace⟩ := h.arguments
  refine ⟨(h.mono hothers).mem_places, further, ?_, hplace⟩
  rw [LineParts.addArgument, LineParts.addArgument, hfurther, List.cons_append]

end FindsAgain

/-- A parenthesis that is never closed is not seen any more when it is marked, and begins a further
argument. -/
theorem findsAgain_of_staysOpen (hmarked : marks place ≠ none)
    (hstays : StaysOpen [place] (readArguments [place] rest)) :
    FindsAgain (place :: rest.map Prod.snd) (readArguments [place] rest)
      (readArguments [] (((token, place) :: rest).map marks.apply)) where
  mem_places other hother := by
    rcases mem_unclosed_readArguments _ _ other hother with hopen | hrest
    · exact List.mem_singleton.1 hopen ▸ List.mem_cons_self
    · exact List.mem_cons_of_mem _ hrest
  arguments := by
    refine ⟨(readArguments [] (((token, place) :: rest).map marks.apply)).1, ?_, ?_⟩
    · rw [hstays.arguments, List.nil_append]
    · rw [hstays.getLast?]
      exact place_head?_readArguments (Marking.isDelimiter_mark_of_ne_none hmarked)
        (Marking.isDelimiter_mark_of_ne_none hmarked)

/-- Of no tokens nothing is read either time. -/
theorem findsAgain_nil : FindsAgain places ([], []) ([], []) :=
  ⟨fun _ h => absurd h List.not_mem_nil, [], rfl, rfl⟩

/-- A token in front that what is read does not contain is not marked. -/
theorem eq_none_of_findsAgain (hplace : place ∉ rest.map Prod.snd)
    (hmarked : Marked marks (place :: rest.map Prod.snd) (readArguments unclosed rest))
    (hfinds : FindsAgain (rest.map Prod.snd) (readArguments unclosed rest) again) :
    marks place = none :=
  hmarked.eq_none List.mem_cons_self (fun h => hplace ((places_readArguments _ _).subset h))
    fun h => hplace (hfinds.mem_places place h)

/-- A colon between a name and its value is not marked. -/
theorem eq_none_of_colon {argument : Argument} (hplace : place ∈ places)
    (hargument : place ∉ argument.places) (hrest : place ∉ rest.map Prod.snd)
    (hmarked : Marked marks places (addArgument argument (readArguments [] rest))) :
    marks place = none := by
  refine hmarked.eq_none hplace (fun h => ?_) fun h => ?_
  · rcases List.mem_append.1 h with h | h
    · exact hargument h
    · exact hrest ((places_readArguments _ _).subset h)
  · exact (mem_unclosed_readArguments _ _ place h).elim List.not_mem_nil hrest

/-- Marks that are not at the places of an argument are those of what is read after it. -/
theorem findsAgain_addArgument {argument : Argument}
    (hmarked : Marked marks places (addArgument argument read)) {others : List Nat}
    (hothers : ∀ place ∈ others, place ∈ places)
    (hdisjoint : ∀ place ∈ argument.places, place ∉ others)
    (h : Marked marks others read → FindsAgain others read again) :
    FindsAgain places (addArgument argument read) (addArgument argument again) := by
  have hrest : Marked marks others read :=
    (hmarked.mono hothers).of_addArgument fun place hplace hargument =>
      hdisjoint place hargument hplace
  exact (h hrest).addArgument argument hothers

section Outside

/-! Outside of parentheses, each form of argument is found again, if those behind it are. -/

variable {colon value : Token} {colonPlace valuePlace : Nat}
  (hopening : token.isDelimiter "(" = false) (hclosing : token.isDelimiter ")" = false)
  (hrest : (rest.map Prod.snd).Nodup →
    Marked marks (rest.map Prod.snd) (readArguments [] rest) →
      FindsAgain (rest.map Prod.snd) (readArguments [] rest)
        (readArguments [] (rest.map marks.apply)))

include hopening hclosing hrest

/-- A positional argument is found again, whatever it is marked with. -/
theorem findsAgain_positional
    (hnext : ∀ next ∈ rest.head?, (next.1.isDelimiter ":" && token.adjoins next.1) = false)
    (hnodup : (((token, place) :: rest).map Prod.snd).Nodup)
    (hmarked : Marked marks (((token, place) :: rest).map Prod.snd)
      (addArgument (.positional place) (readArguments [] rest))) :
    FindsAgain (((token, place) :: rest).map Prod.snd)
      (addArgument (.positional place) (readArguments [] rest))
      (readArguments [] (((token, place) :: rest).map marks.apply)) := by
  obtain ⟨hplace, hnodup⟩ := List.nodup_cons.1 hnodup
  -- what was no colon behind the token is none when it is marked
  have hnext : ∀ next ∈ (rest.map marks.apply).head?,
      (next.1.isDelimiter ":" && (marks.mark place token).adjoins next.1) = false := by
    intro next hmem
    rw [List.head?_map] at hmem
    obtain ⟨before, hbefore, rfl⟩ := Option.map_eq_some_iff.1 hmem
    refine Bool.and_eq_false_iff.2 ?_
    exact (Bool.and_eq_false_iff.1 (hnext before hbefore)).imp_left Marking.isDelimiter_mark
  rw [Marking.map_apply_cons, readArguments_positional (Marking.isDelimiter_mark hopening)
    (Marking.isDelimiter_mark hclosing) hnext]
  exact findsAgain_addArgument hmarked (fun other => List.mem_cons_of_mem _)
    (List.forall_mem_singleton.2 hplace) (hrest hnodup)

/-- A name without a value is found again, whatever it is marked with. -/
theorem findsAgain_bare (hcolon : colon.isDelimiter ":" = true)
    (hadjoins : token.adjoins colon = true)
    (hnext : ∀ next ∈ rest.head?, colon.adjoins next.1 = false)
    (hnodup : (((token, place) :: (colon, colonPlace) :: rest).map Prod.snd).Nodup)
    (hmarked : Marked marks (((token, place) :: (colon, colonPlace) :: rest).map Prod.snd)
      (addArgument (.named place none) (readArguments [] rest))) :
    FindsAgain (((token, place) :: (colon, colonPlace) :: rest).map Prod.snd)
      (addArgument (.named place none) (readArguments [] rest))
      (readArguments [] (((token, place) :: (colon, colonPlace) :: rest).map marks.apply)) := by
  rw [List.map_cons, List.map_cons, List.nodup_cons, List.nodup_cons, List.mem_cons,
    not_or] at hnodup
  obtain ⟨⟨hname, hplace⟩, hcolonPlace, hnodup⟩ := hnodup
  -- the colon has none of the places of the argument, so it is not marked
  have hnone : marks colonPlace = none :=
    eq_none_of_colon (by simp) (by simpa [Argument.places] using Ne.symm hname) hcolonPlace hmarked
  have hadjoins : (marks.mark place token).adjoins colon = true := hadjoins
  have hnext : ∀ next ∈ (rest.map marks.apply).head?, colon.adjoins next.1 = false := by
    intro next hmem
    rw [List.head?_map] at hmem
    obtain ⟨before, hbefore, rfl⟩ := Option.map_eq_some_iff.1 hmem
    exact hnext before hbefore
  rw [Marking.map_apply_cons, Marking.map_apply_cons, Marking.mark_of_none hnone,
    readArguments_bare (Marking.isDelimiter_mark hopening) (Marking.isDelimiter_mark hclosing)
      hcolon hadjoins hnext]
  exact findsAgain_addArgument hmarked
    (fun other hother => List.mem_cons_of_mem _ (List.mem_cons_of_mem _ hother))
    (List.forall_mem_singleton.2 hplace) (hrest hnodup)

/-- A name with a value is found again, whatever the two are marked with. -/
theorem findsAgain_named (hcolon : colon.isDelimiter ":" = true)
    (hadjoins : token.adjoins colon = true) (hvalue : colon.adjoins value = true)
    (hnodup : (((token, place) :: (colon, colonPlace) :: (value, valuePlace) :: rest).map
      Prod.snd).Nodup)
    (hmarked : Marked marks
      (((token, place) :: (colon, colonPlace) :: (value, valuePlace) :: rest).map Prod.snd)
      (addArgument (.named place (some valuePlace)) (readArguments [] rest))) :
    FindsAgain (((token, place) :: (colon, colonPlace) :: (value, valuePlace) :: rest).map Prod.snd)
      (addArgument (.named place (some valuePlace)) (readArguments [] rest))
      (readArguments []
        (((token, place) :: (colon, colonPlace) :: (value, valuePlace) :: rest).map
          marks.apply)) := by
  simp only [List.map_cons, List.nodup_cons, List.mem_cons, not_or] at hnodup
  obtain ⟨⟨hname, -, hplace⟩, ⟨hvalueNe, hcolonPlace⟩, hvaluePlace, hnodup⟩ := hnodup
  -- the colon has none of the places of the argument, so it is not marked
  have hnone : marks colonPlace = none :=
    eq_none_of_colon (by simp) (by simpa [Argument.places] using ⟨Ne.symm hname, hvalueNe⟩)
      hcolonPlace hmarked
  -- marks change kinds only, so that tokens still adjoin
  have hadjoins : (marks.mark place token).adjoins colon = true := hadjoins
  have hvalue : colon.adjoins (marks.mark valuePlace value) = true := hvalue
  rw [Marking.map_apply_cons, Marking.map_apply_cons, Marking.map_apply_cons,
    Marking.mark_of_none hnone,
    readArguments_named (Marking.isDelimiter_mark hopening) (Marking.isDelimiter_mark hclosing)
      hcolon hadjoins hvalue]
  refine findsAgain_addArgument hmarked (fun other hother => ?_) ?_ (hrest hnodup)
  · exact List.mem_cons_of_mem _ (List.mem_cons_of_mem _ (List.mem_cons_of_mem _ hother))
  · exact List.forall_mem_cons.2 ⟨hplace, List.forall_mem_singleton.2 hvaluePlace⟩

end Outside

/-- Read from tokens that are marked, arguments are found again. -/
theorem staysOpen_or_findsAgain (hnodup : (placed.map Prod.snd).Nodup)
    (hmarked : Marked marks (placed.map Prod.snd) (readArguments unclosed placed)) :
    StaysOpen unclosed (readArguments unclosed placed) ∨
      FindsAgain (placed.map Prod.snd) (readArguments unclosed placed)
        (readArguments unclosed (placed.map marks.apply)) := by
  have htail : ∀ {place : Nat} {places : List Nat}, ∀ other ∈ places, other ∈ place :: places :=
    fun _ => List.mem_cons_of_mem _
  fun_induction readArguments unclosed placed with
  | case1 unclosed =>
    cases unclosed with
    | nil => exact .inr findsAgain_nil
    | cons => exact .inl ⟨List.cons_ne_nil _ _, rfl, rfl⟩
  | case2 unclosed token place rest hopening ih =>
    obtain ⟨hplace, hnodup⟩ := List.nodup_cons.1 hnodup
    rcases ih hnodup (hmarked.mono htail) with hstays | hfinds
    · cases unclosed with
      -- nothing was open before, so this parenthesis is the first that is not seen any more
      | nil =>
        have hmem : place ∈ (readArguments [place] rest).2 := List.mem_of_getLast? hstays.getLast?
        exact .inr (findsAgain_of_staysOpen (hmarked.unclosed place hmem) hstays)
      | cons => exact .inl ⟨List.cons_ne_nil _ _, hstays.arguments, hstays.getLast?⟩
    · have hnone := eq_none_of_findsAgain hplace hmarked hfinds
      rw [Marking.map_apply_cons, Marking.mark_of_none hnone, readArguments_opening hopening]
      exact .inr (hfinds.mono htail)
  | case3 unclosed token place rest hopening hclosing ih =>
    obtain ⟨hplace, hnodup⟩ := List.nodup_cons.1 hnodup
    rcases ih hnodup (hmarked.mono htail) with hstays | hfinds
    -- a parenthesis that was closed is none of those that stay open
    · rcases unclosed with _ | ⟨first, _ | ⟨second, unclosed⟩⟩
      · exact absurd hstays StaysOpen.not_nil
      · exact absurd hstays StaysOpen.not_nil
      · exact .inl ⟨List.cons_ne_nil _ _, hstays.arguments, hstays.getLast?⟩
    · have hnone := eq_none_of_findsAgain hplace hmarked hfinds
      rw [Marking.map_apply_cons, Marking.mark_of_none hnone,
        readArguments_closing (by simpa using hopening) hclosing]
      exact .inr (hfinds.mono htail)
  | case4 unclosed token place rest hopening hclosing hwithin ih =>
    rw [Bool.not_eq_true] at hopening hclosing
    obtain ⟨hplace, hnodup⟩ := List.nodup_cons.1 hnodup
    rcases ih hnodup (hmarked.mono htail) with hstays | hfinds
    · exact .inl hstays
    · have hnone := eq_none_of_findsAgain hplace hmarked hfinds
      have hopen : unclosed ≠ [] := by simpa using hwithin
      rw [Marking.map_apply_cons, Marking.mark_of_none hnone,
        readArguments_within hopening hclosing hopen]
      exact .inr (hfinds.mono htail)
  | case5 unclosed token place hopening hclosing hwithin =>
    rw [Bool.not_eq_true] at hopening hclosing
    obtain rfl : unclosed = [] := by simpa using hwithin
    exact .inr (findsAgain_positional hopening hclosing (fun _ _ => findsAgain_nil) (by simp)
      hnodup hmarked)
  | case6 unclosed token place hopening hclosing hwithin colon colonPlace hcolon =>
    rw [Bool.not_eq_true] at hopening hclosing
    obtain rfl : unclosed = [] := by simpa using hwithin
    obtain ⟨hcolon, hadjoins⟩ := Bool.and_eq_true_iff.1 hcolon
    exact .inr (findsAgain_bare hopening hclosing (fun _ _ => findsAgain_nil) hcolon hadjoins
      (by simp) hnodup hmarked)
  | case7 unclosed token place hopening hclosing hwithin colon colonPlace hcolon value valuePlace
      rest hvalue ih =>
    rw [Bool.not_eq_true] at hopening hclosing
    obtain rfl : unclosed = [] := by simpa using hwithin
    obtain ⟨hcolon, hadjoins⟩ := Bool.and_eq_true_iff.1 hcolon
    have hrest := fun hnodup hmarked => (ih hnodup hmarked).resolve_left StaysOpen.not_nil
    exact .inr (findsAgain_named hopening hclosing hrest hcolon hadjoins hvalue hnodup hmarked)
  | case8 unclosed token place hopening hclosing hwithin colon colonPlace hcolon value valuePlace
      rest hvalue ih =>
    rw [Bool.not_eq_true] at hopening hclosing hvalue
    obtain rfl : unclosed = [] := by simpa using hwithin
    obtain ⟨hcolon, hadjoins⟩ := Bool.and_eq_true_iff.1 hcolon
    have hnext : ∀ next ∈ ((value, valuePlace) :: rest).head?, colon.adjoins next.1 = false := by
      rintro next ⟨⟩
      exact hvalue
    have hrest := fun hnodup hmarked => (ih hnodup hmarked).resolve_left StaysOpen.not_nil
    exact .inr (findsAgain_bare hopening hclosing hrest hcolon hadjoins hnext hnodup hmarked)
  | case9 unclosed token place hopening hclosing hwithin colon colonPlace rest hcolon ih =>
    rw [Bool.not_eq_true] at hopening hclosing hcolon
    obtain rfl : unclosed = [] := by simpa using hwithin
    have hnext : ∀ next ∈ ((colon, colonPlace) :: rest).head?,
        (next.1.isDelimiter ":" && token.adjoins next.1) = false := by
      rintro next ⟨⟩
      exact hcolon
    have hrest := fun hnodup hmarked => (ih hnodup hmarked).resolve_left StaysOpen.not_nil
    exact .inr (findsAgain_positional hopening hclosing hrest hnext hnodup hmarked)

end LineParts

/-! ### A line -/

open LineParts

section Line

variable {tokens : List Token} {keyword : Keyword} {head : Nat}

/-- Refinement marks the leading token and the arguments, and each parenthesis that is never
closed. -/
theorem exists_marks_refine (hhead : (ofTokens tokens).head = some head)
    (hkeyword : (ofTokens tokens).keyword? tokens = some keyword) :
    ∃ marks : Marking, refine tokens = marks.applyAll tokens ∧
      (∀ place, marks place ≠ none → place = head ∨
        place ∈ (ofTokens tokens).arguments.flatMap Argument.places ∨
        place ∈ (ofTokens tokens).unclosed) ∧
      ∀ place ∈ (ofTokens tokens).unclosed, marks place ≠ none := by
  obtain ⟨marks, hplaces, hmarks⟩ := @marksAt_refineKeyword _ (textAt tokens) head
    (ofTokens tokens).arguments keyword List.mem_cons_self fun _ => List.mem_cons_of_mem head
  obtain ⟨after, hafter, hmarked⟩ := marks.foldl_setKind_applyAll (ofTokens tokens).unclosed
  refine ⟨after, ?_, fun place hplace => ?_, fun place hplace => (hmarked place).2 (.inl hplace)⟩
  · rw [refine_eq_refineParts hhead hkeyword, refineParts, hmarks tokens rfl, hafter]
  · rcases (hmarked place).1 hplace with hunclosed | hbefore
    · exact .inr (.inr hunclosed)
    · exact (List.mem_cons.1 (hplaces place hbefore)).imp_right .inl

/-- A line that no keyword leads is not refined. -/
theorem refine_of_keyword?_eq_none (hkeyword : (ofTokens tokens).keyword? tokens = none) :
    refine tokens = tokens := by
  simp only [refine, hkeyword]
  split
  · rename_i hnone
    cases hnone
  · rfl

/-- The first token that carries meaning leads the line, and the others are read for arguments. -/
theorem ofTokens_of_filter_eq_cons {entry : Token × Nat} {rest : List (Token × Nat)}
    (h : tokens.zipIdx.filter (·.1.significant) = entry :: rest) :
    ofTokens tokens =
      ⟨some entry.2, (readArguments [] rest).1, (readArguments [] rest).2⟩ := by
  rw [ofTokens, h]

/-- The keyword that leads a line is that of the first token that carries meaning. -/
theorem keyword?_of_filter_eq_cons {first : Token × Nat} {rest : List (Token × Nat)}
    (h : tokens.zipIdx.filter (·.1.significant) = first :: rest) :
    (ofTokens tokens).keyword? tokens = first.1.keyword := by
  have hfirst : first ∈ tokens.zipIdx.filter (·.1.significant) := h ▸ List.mem_cons_self
  have hplace := List.mem_zipIdx_iff_getElem?.1 (List.mem_of_mem_filter hfirst)
  rw [ofTokens_of_filter_eq_cons h]
  exact congrArg (·.bind Token.keyword) hplace

/-- A line that a keyword leads is refined part by part. -/
theorem refine_eq_of_filter {first : Token × Nat} {rest : List (Token × Nat)}
    (h : tokens.zipIdx.filter (·.1.significant) = first :: rest)
    (hkeyword : first.1.keyword = some keyword) :
    refine tokens = refineParts keyword first.2 (readArguments [] rest).1
      (readArguments [] rest).2 tokens := by
  have hparts := ofTokens_of_filter_eq_cons h
  rw [refine_eq_refineParts (congrArg LineParts.head hparts)
    ((keyword?_of_filter_eq_cons h).trans hkeyword), hparts]

/-- No keyword leads a line without meaning. -/
theorem keyword?_of_filter_eq_nil (h : tokens.filter Token.significant = []) :
    (ofTokens tokens).keyword? tokens = none := by
  have hnone : tokens.zipIdx.filter (·.1.significant) = [] := by
    rw [← List.map_eq_nil_iff (f := Prod.fst), map_fst_filter_significant, h]
  rw [ofTokens, hnone]
  rfl

/-- A token whose place is that of one that carries meaning does so. -/
theorem significant_of_mem_places {entry : Token × Nat} (hentry : entry ∈ tokens.zipIdx)
    (hplace : entry.2 ∈ (tokens.zipIdx.filter (·.1.significant)).map Prod.snd) :
    entry.1.significant = true := by
  obtain ⟨other, hother, hsame⟩ := List.mem_map.1 hplace
  obtain ⟨hmem, hsignificant⟩ := List.mem_filter.1 hother
  have htoken := List.mem_zipIdx_iff_getElem?.1 hmem
  rw [hsame, List.mem_zipIdx_iff_getElem?.1 hentry] at htoken
  exact Option.some.inj htoken ▸ hsignificant

/-- The parts of a line are among its tokens that carry meaning. -/
theorem mem_places_of_parts (hhead : (ofTokens tokens).head = some head) {place : Nat}
    (hplace : place = head ∨ place ∈ (ofTokens tokens).arguments.flatMap Argument.places ∨
      place ∈ (ofTokens tokens).unclosed) :
    place ∈ (tokens.zipIdx.filter (·.1.significant)).map Prod.snd := by
  cases hfilter : tokens.zipIdx.filter (·.1.significant) with
  | nil =>
    rw [ofTokens, hfilter] at hhead
    cases hhead
  | cons first rest =>
    rw [ofTokens_of_filter_eq_cons hfilter] at hhead hplace
    obtain rfl := Option.some.inj hhead
    rcases hplace with rfl | hargument | hopen
    · exact List.mem_cons_self
    · exact List.mem_cons_of_mem _ ((places_readArguments [] rest).subset hargument)
    · exact List.mem_cons_of_mem _
        ((mem_unclosed_readArguments [] rest place hopen).resolve_left List.not_mem_nil)

/-- How the tokens of a line that a keyword leads are marked; `first` leads the line, and `rest`
are the other tokens that carry meaning. -/
structure RefinedBy (tokens : List Token) (marks : Marking) (first : Token × Nat)
    (rest : List (Token × Nat)) : Prop where
  /-- The tokens that carry meaning. -/
  filter_eq : tokens.zipIdx.filter (·.1.significant) = first :: rest
  /-- The marks are all that refinement does. -/
  refine_eq : refine tokens = marks.applyAll tokens
  /-- Only tokens that carry meaning are marked. -/
  significant : ∀ entry ∈ tokens.zipIdx, marks entry.2 ≠ none → entry.1.significant = true
  /-- Marked are arguments, and each parenthesis that is never closed. -/
  marked : Marked marks (rest.map Prod.snd) (readArguments [] rest)

/-- If a keyword leads a line, its tokens are marked. -/
theorem exists_refinedBy (hkeyword : (ofTokens tokens).keyword? tokens = some keyword) :
    ∃ marks first rest, RefinedBy tokens marks first rest := by
  obtain ⟨head, hhead, -⟩ := Option.bind_eq_some_iff.1 hkeyword
  obtain ⟨marks, hrefine, hplaces, hunclosed⟩ := exists_marks_refine hhead hkeyword
  have hsignificant : ∀ entry ∈ tokens.zipIdx, marks entry.2 ≠ none →
      entry.1.significant = true := fun entry hentry hmark =>
    significant_of_mem_places hentry (mem_places_of_parts hhead (hplaces _ hmark))
  cases hfilter : tokens.zipIdx.filter (·.1.significant) with
  | nil =>
    rw [ofTokens, hfilter] at hhead
    cases hhead
  | cons first rest =>
    have hnodup := nodup_places tokens
    rw [hfilter] at hnodup
    rw [ofTokens_of_filter_eq_cons hfilter] at hhead hplaces hunclosed
    obtain rfl := Option.some.inj hhead
    refine ⟨marks, first, rest, hfilter, hrefine, hsignificant,
      fun place hplace hmark => (hplaces place hmark).resolve_left ?_, hunclosed⟩
    rintro rfl
    exact (List.nodup_cons.1 hnodup).1 hplace

namespace RefinedBy

variable {marks : Marking} {first : Token × Nat} {rest : List (Token × Nat)}

/-- The tokens of a line stand at different places. -/
theorem nodup (h : RefinedBy tokens marks first rest) : (rest.map Prod.snd).Nodup := by
  have hnodup := nodup_places tokens
  rw [h.filter_eq] at hnodup
  exact hnodup.of_cons

/-- The tokens that carry meaning are the leading one and the others. -/
theorem filter_significant (h : RefinedBy tokens marks first rest) :
    tokens.filter Token.significant = first.1 :: rest.map Prod.fst := by
  rw [← map_fst_filter_significant, h.filter_eq, List.map_cons]

/-- The arguments of the line are read from the tokens behind the leading one. -/
theorem ofTokens_eq (h : RefinedBy tokens marks first rest) :
    ofTokens tokens = ⟨some first.2, (readArguments [] rest).1, (readArguments [] rest).2⟩ :=
  ofTokens_of_filter_eq_cons h.filter_eq

/-- The keyword is that of the first token. -/
theorem keyword?_eq (h : RefinedBy tokens marks first rest) :
    (ofTokens tokens).keyword? tokens = first.1.keyword :=
  keyword?_of_filter_eq_cons h.filter_eq

/-- The same tokens carry meaning as before. -/
theorem filter_refine_eq (h : RefinedBy tokens marks first rest) :
    (refine tokens).zipIdx.filter (·.1.significant) =
      marks.apply first :: rest.map marks.apply := by
  rw [h.refine_eq, marks.filter_significant_applyAll h.significant, h.filter_eq, List.map_cons]

/-- The arguments of the refined line are read from the marked tokens. -/
theorem ofTokens_refine_eq (h : RefinedBy tokens marks first rest) :
    ofTokens (refine tokens) =
      ⟨some first.2, (readArguments [] (rest.map marks.apply)).1,
        (readArguments [] (rest.map marks.apply)).2⟩ := by
  rw [ofTokens_of_filter_eq_cons h.filter_refine_eq]
  rfl

end RefinedBy

/-- In refined tokens the same token leads the line, and the arguments are found again. If a keyword
leads the line, further ones are found from the first parenthesis on that is never closed. -/
theorem LineParts.ofTokens_refine (tokens : List Token) :
    (ofTokens (refine tokens)).head = (ofTokens tokens).head ∧
      ∃ further, (ofTokens (refine tokens)).arguments = (ofTokens tokens).arguments ++ further ∧
        further.head?.map Argument.place =
          ((ofTokens tokens).keyword? tokens).bind fun _ =>
            (ofTokens tokens).unclosed.getLast? := by
  cases hkeyword : (ofTokens tokens).keyword? tokens with
  | none =>
    rw [refine_of_keyword?_eq_none hkeyword]
    exact ⟨rfl, [], (List.append_nil _).symm, rfl⟩
  | some keyword =>
    obtain ⟨marks, first, rest, h⟩ := exists_refinedBy hkeyword
    have hfinds := (staysOpen_or_findsAgain h.nodup h.marked).resolve_left StaysOpen.not_nil
    rw [h.ofTokens_eq, h.ofTokens_refine_eq]
    exact ⟨rfl, hfinds.arguments⟩

/-- Refinement changes no text. -/
theorem textAt_refine (tokens : List Token) : textAt (refine tokens) = textAt tokens :=
  textAt_of_map_unkinded (map_unkinded_refine tokens)

/-- The keyword that leads a line is found again. -/
theorem LineParts.keyword?_refine (tokens : List Token) :
    (ofTokens (refine tokens)).keyword? (refine tokens) = (ofTokens tokens).keyword? tokens := by
  have hkeyword : ∀ tokens : List Token, ∀ place : Nat, tokens[place]?.bind Token.keyword =
      (tokens.map Token.unkinded)[place]?.bind Token.keyword := by
    intro tokens place
    rw [List.getElem?_map, Option.bind_map]
    rfl
  have hkept : ∀ place : Nat, (refine tokens)[place]?.bind Token.keyword =
      tokens[place]?.bind Token.keyword := by
    intro place
    rw [hkeyword, map_unkinded_refine, ← hkeyword]
  rw [keyword?, keyword?, (ofTokens_refine tokens).1]
  exact congrArg _ (funext hkept)

/-- What is missing is told by the arguments and by the texts of the tokens. -/
theorem missingArguments_refine (keyword : Keyword) (tokens : List Token)
    (arguments : List Argument) :
    Diagnostic.missingArguments keyword (refine tokens) arguments =
      Diagnostic.missingArguments keyword tokens arguments := by
  simp only [Diagnostic.missingArguments, Diagnostic.givenNames, textAt_refine]

end Line

/-- In the tokens of a configuration line, diagnostics finds the keyword that refinement has found,
and its arguments. It finds no others, and so misses the same ones, just if no keyword leads the
line or each parenthesis is closed. -/
theorem Language.arguments_found_again (line : Nat) (text : String) :
    let tokens := Language.ertGrammar.tokensOf line text
    let refined := Language.ert.tokensOf line text
    (ofTokens refined).head = (ofTokens tokens).head ∧
      (ofTokens refined).keyword? refined = (ofTokens tokens).keyword? tokens ∧
      (ofTokens tokens).arguments <+: (ofTokens refined).arguments ∧
      ((ofTokens refined).arguments = (ofTokens tokens).arguments ↔
        (ofTokens tokens).keyword? tokens = none ∨ (ofTokens tokens).unclosed = []) ∧
      ((ofTokens tokens).keyword? tokens = none ∨ (ofTokens tokens).unclosed = [] →
        ∀ keyword, Diagnostic.missingArguments keyword refined (ofTokens refined).arguments =
          Diagnostic.missingArguments keyword tokens (ofTokens tokens).arguments) := by
  intro tokens refined
  have hrefined : refined = refine tokens := rfl
  clear_value refined
  subst hrefined
  obtain ⟨hhead, further, harguments, hfurther⟩ := ofTokens_refine tokens
  have hsame : (ofTokens (refine tokens)).arguments = (ofTokens tokens).arguments ↔
      (ofTokens tokens).keyword? tokens = none ∨ (ofTokens tokens).unclosed = [] := by
    calc (ofTokens (refine tokens)).arguments = (ofTokens tokens).arguments
      _ ↔ further.head?.map Argument.place = none := by simp [harguments]
      _ ↔ (ofTokens tokens).keyword? tokens = none ∨ (ofTokens tokens).unclosed = [] := by
        rw [hfurther]
        cases (ofTokens tokens).keyword? tokens <;> simp
  refine ⟨hhead, keyword?_refine tokens, ⟨further, harguments.symm⟩, hsame, fun h keyword => ?_⟩
  rw [missingArguments_refine, hsame.2 h]

/-- What stands between parentheses that are closed counts for neither. -/
theorem Language.arguments_found_again_closed :
    ∀ keyword, Diagnostic.missingArguments keyword
        (Language.ert.tokensOf 1 "FORWARD_MODEL RMS(<IENS>=1)")
        (ofTokens (Language.ert.tokensOf 1 "FORWARD_MODEL RMS(<IENS>=1)")).arguments =
      Diagnostic.missingArguments keyword
        (Language.ertGrammar.tokensOf 1 "FORWARD_MODEL RMS(<IENS>=1)")
        (ofTokens (Language.ertGrammar.tokensOf 1 "FORWARD_MODEL RMS(<IENS>=1)")).arguments := by
  have hclosed :
      (ofTokens (Language.ertGrammar.tokensOf 1 "FORWARD_MODEL RMS(<IENS>=1)")).unclosed = [] := by
    decide +kernel
  exact (arguments_found_again 1 "FORWARD_MODEL RMS(<IENS>=1)").2.2.2.2 (.inr hclosed)

/-- A parenthesis that is left open makes arguments of itself and of what follows, and the argument
that is missing is not reported. -/
theorem Language.arguments_behind_open_parenthesis :
    let tokens := Language.ertGrammar.tokensOf 1 "FORWARD_MODEL (RMS"
    let refined := Language.ert.tokensOf 1 "FORWARD_MODEL (RMS"
    (ofTokens tokens).arguments = [] ∧
      (ofTokens refined).arguments = [.positional 2, .positional 3] ∧
      ∃ keyword, (ofTokens refined).keyword? refined = some keyword ∧
        Diagnostic.missingArguments keyword tokens (ofTokens tokens).arguments =
          [.tooFewArguments "FORWARD_MODEL" 1 0] ∧
        Diagnostic.missingArguments keyword refined (ofTokens refined).arguments = [] := by
  have hmissing : ∀ keyword ∈ (ofTokens (Language.ert.tokensOf 1 "FORWARD_MODEL (RMS")).keyword?
        (Language.ert.tokensOf 1 "FORWARD_MODEL (RMS"),
      Diagnostic.missingArguments keyword (Language.ertGrammar.tokensOf 1 "FORWARD_MODEL (RMS") [] =
          [.tooFewArguments "FORWARD_MODEL" 1 0] ∧
        Diagnostic.missingArguments keyword (Language.ert.tokensOf 1 "FORWARD_MODEL (RMS")
          [.positional 2, .positional 3] = [] := by
    decide +kernel
  have hleads : ((ofTokens (Language.ert.tokensOf 1 "FORWARD_MODEL (RMS")).keyword?
      (Language.ert.tokensOf 1 "FORWARD_MODEL (RMS")).isSome = true := by
    decide +kernel
  have hnone :
      (ofTokens (Language.ertGrammar.tokensOf 1 "FORWARD_MODEL (RMS")).arguments = [] := by
    decide +kernel
  have hfound : (ofTokens (Language.ert.tokensOf 1 "FORWARD_MODEL (RMS")).arguments =
      [.positional 2, .positional 3] := by
    decide +kernel
  obtain ⟨keyword, hkeyword⟩ := Option.isSome_iff_exists.1 hleads
  refine ⟨hnone, hfound, keyword, hkeyword, ?_⟩
  rw [hnone, hfound]
  exact hmissing keyword hkeyword

end EnsembleDesk
