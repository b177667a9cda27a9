import EnsembleDesk.Proofs.Line.ArgumentWords
/-!
# The arguments that are found in a line

The arguments of a line are found among its tokens by delimiters and by columns that adjoin. In
tokens that are read from arguments the same arguments are found again
(`LineParts.readArguments_of_readAs`), and no token belongs to two of them
(`LineParts.places_readArguments`).
-/

namespace EnsembleDesk

/-- The piece of a line that the token at a place is. -/
def spanAt (tokens : List Token) (place : Nat) : WordSpan :=
  (tokens[place]?.map Token.span).getD ⟨[], 0⟩

namespace Argument

/-- What an argument is, told by words. -/
def toWord (tokens : List Token) : Argument → ArgumentWord
  | positional place => .positional (spanAt tokens place)
  | named name (some value) => .named (spanAt tokens name) (spanAt tokens value)
  | named name none => .named (spanAt tokens name) ⟨[], (spanAt tokens name).stop + 1⟩

/-- The places of the tokens of an argument. -/
def places : Argument → List Nat
  | positional place => [place]
  | named name value => name :: value.toList

end Argument

namespace LineParts

variable {token name colon value : Token} {place namePlace colonPlace valuePlace : Nat}
  {rest : List (Token × Nat)}

/-- A token that is not of the kind of delimiters is none. -/
theorem isDelimiter_of_kind {text : String} (h : token.kind ≠ .delimiter) :
    token.isDelimiter text = false := by
  simp [Token.isDelimiter, h]

/-- A colon that adjoins a name ends one column behind it. -/
theorem stop_colon (hcolon : colon.isDelimiter ":" = true) (hadjoins : name.adjoins colon = true) :
    colon.stop = name.span.stop + 1 := by
  simp only [Token.isDelimiter, Bool.and_eq_true, beq_iff_eq] at hcolon
  rw [Token.adjoins, beq_iff_eq] at hadjoins
  rw [Token.stop, hcolon.2, ← hadjoins, Token.stop, WordSpan.stop, Token.span, String.length_toList]
  rfl

section Steps

variable {unclosed : List Nat}

/-- An opening parenthesis is left open, and what follows is read within it. -/
theorem readArguments_opening (h : token.isDelimiter "(" = true) :
    readArguments unclosed ((token, place) :: rest) = readArguments (place :: unclosed) rest := by
  rw [readArguments.eq_def]
  simp [h]

/-- A closing parenthesis closes the last one that was left open. -/
theorem readArguments_closing (hopening : token.isDelimiter "(" = false)
    (hclosing : token.isDelimiter ")" = true) :
    readArguments unclosed ((token, place) :: rest) = readArguments unclosed.tail rest := by
  rw [readArguments.eq_def]
  simp [hopening, hclosing]

/-- What stands between parentheses is passed over. -/
theorem readArguments_within (hopening : token.isDelimiter "(" = false)
    (hclosing : token.isDelimiter ")" = false) (hunclosed : unclosed ≠ []) :
    readArguments unclosed ((token, place) :: rest) = readArguments unclosed rest := by
  rw [readArguments.eq_def]
  simp [hopening, hclosing, hunclosed]

/-- A token that no colon adjoins is an argument by itself. -/
theorem readArguments_positional (hopening : token.isDelimiter "(" = false)
    (hclosing : token.isDelimiter ")" = false)
    (hnext : ∀ next ∈ rest.head?, (next.1.isDelimiter ":" && token.adjoins next.1) = false) :
    readArguments [] ((token, place) :: rest) =
      addArgument (.positional place) (readArguments [] rest) := by
  rw [readArguments.eq_def]
  cases rest with
  | nil => simp [hopening, hclosing, addArgument]
  | cons next rest =>
    have := hnext next rfl
    simp [hopening, hclosing, this]

/-- A name with a colon right behind it and no token right behind that is a named argument without a
value. -/
theorem readArguments_bare (hopening : name.isDelimiter "(" = false)
    (hclosing : name.isDelimiter ")" = false) (hcolon : colon.isDelimiter ":" = true)
    (hadjoins : name.adjoins colon = true)
    (hnext : ∀ next ∈ rest.head?, colon.adjoins next.1 = false) :
    readArguments [] ((name, namePlace) :: (colon, colonPlace) :: rest) =
      addArgument (.named namePlace none) (readArguments [] rest) := by
  rw [readArguments.eq_def]
  cases rest with
  | nil => simp [hopening, hclosing, hcolon, hadjoins, addArgument]
  | cons next rest =>
    have := hnext next rfl
    simp [hopening, hclosing, hcolon, hadjoins, this]

/-- A name, a colon and a value without anything between them are a named argument. -/
theorem readArguments_named (hopening : name.isDelimiter "(" = false)
    (hclosing : name.isDelimiter ")" = false) (hcolon : colon.isDelimiter ":" = true)
    (hadjoins : name.adjoins colon = true) (hvalue : colon.adjoins value = true) :
    readArguments [] ((name, namePlace) :: (colon, colonPlace) :: (value, valuePlace) :: rest) =
      addArgument (.named namePlace (some valuePlace)) (readArguments [] rest) := by
  rw [readArguments.eq_def]
  simp [hopening, hclosing, hcolon, hadjoins, hvalue]

end Steps

/-- The arguments that are found are those that the tokens are read from. -/
theorem readArguments_of_readAs {tokens : List Token} {words : List ArgumentWord}
    {placed : List (Token × Nat)} (h : ReadAs words (placed.map Prod.fst))
    (hplaced : ∀ entry ∈ placed, tokens[entry.2]? = some entry.1) :
    ∃ arguments, readArguments [] placed = (arguments, []) ∧
      arguments.map (Argument.toWord tokens) = words := by
  generalize htexts : placed.map Prod.fst = texts at h
  have hspan : ∀ entry ∈ placed, spanAt tokens entry.2 = entry.1.span := by
    intro entry hentry
    rw [spanAt, hplaced entry hentry]
    rfl
  -- each form of argument takes its own tokens, and the others are read on
  induction h generalizing placed with
  | nil =>
    rw [List.map_eq_nil_iff.1 htexts]
    exact ⟨[], rfl, rfl⟩
  | positional htoken hkind hrest ih =>
    obtain ⟨⟨token, place⟩, rest, rfl, rfl, rfl⟩ := List.map_eq_cons_iff.1 htexts
    simp only [List.forall_mem_cons] at hplaced hspan
    obtain ⟨arguments, hread, hwords⟩ := ih hplaced.2 rfl hspan.2
    have hdelimiter : token.kind ≠ .delimiter := by
      rintro hdelimiter
      simp [hdelimiter, TokenKind.standsAlone] at hkind
    refine ⟨.positional place :: arguments, ?_, ?_⟩
    · have hnext : ∀ next ∈ rest.head?,
          (next.1.isDelimiter ":" && token.adjoins next.1) = false := by
        intro next hnext
        have hmem : next.1 ∈ (rest.map Prod.fst).head? := by simp [Option.mem_def.1 hnext]
        rw [isDelimiter_of_kind (hrest.head_kind next.1 hmem), Bool.false_and]
      rw [readArguments_positional (isDelimiter_of_kind hdelimiter) (isDelimiter_of_kind hdelimiter)
        hnext, hread]
      rfl
    · rw [List.map_cons, hwords, Argument.toWord, hspan.1, htoken]
  | bare hname hkind hcolon hadjoins hvalue hnext hrest ih =>
    obtain ⟨⟨name, namePlace⟩, others, rfl, rfl, hothers⟩ := List.map_eq_cons_iff.1 htexts
    obtain ⟨⟨colon, colonPlace⟩, rest, rfl, rfl, rfl⟩ := List.map_eq_cons_iff.1 hothers
    simp only [List.forall_mem_cons] at hplaced hspan
    obtain ⟨arguments, hread, hwords⟩ := ih hplaced.2.2 rfl hspan.2.2
    refine ⟨.named namePlace none :: arguments, ?_, ?_⟩
    · have hdelimiter : name.kind ≠ .delimiter := ne_of_eq_of_ne hkind (by decide)
      rw [readArguments_bare (isDelimiter_of_kind hdelimiter) (isDelimiter_of_kind hdelimiter)
        hcolon hadjoins (fun next hmem => hnext next.1 (by simp [Option.mem_def.1 hmem])), hread]
      rfl
    · rw [List.map_cons, hwords, Argument.toWord, hspan.1, hname, hvalue,
        stop_colon hcolon hadjoins, ← hname]
  | named hname hkind hcolon hadjoins hvalue hvalueKind hadjoinsValue hrest ih =>
    obtain ⟨⟨name, namePlace⟩, others, rfl, rfl, hothers⟩ := List.map_eq_cons_iff.1 htexts
    obtain ⟨⟨colon, colonPlace⟩, last, rfl, rfl, hlast⟩ := List.map_eq_cons_iff.1 hothers
    obtain ⟨⟨value, valuePlace⟩, rest, rfl, rfl, rfl⟩ := List.map_eq_cons_iff.1 hlast
    simp only [List.forall_mem_cons] at hplaced hspan
    obtain ⟨arguments, hread, hwords⟩ := ih hplaced.2.2.2 rfl hspan.2.2.2
    refine ⟨.named namePlace (some valuePlace) :: arguments, ?_, ?_⟩
    · have hdelimiter : name.kind ≠ .delimiter := ne_of_eq_of_ne hkind (by decide)
      rw [readArguments_named (isDelimiter_of_kind hdelimiter) (isDelimiter_of_kind hdelimiter)
        hcolon hadjoins hadjoinsValue, hread]
      rfl
    · rw [List.map_cons, hwords, Argument.toWord, hspan.1, hspan.2.2.1, hname, hvalue]

/-- Every token belongs to one argument at most. -/
theorem places_readArguments (unclosed : List Nat) (placed : List (Token × Nat)) :
    ((readArguments unclosed placed).1.flatMap Argument.places).Sublist (placed.map Prod.snd) := by
  fun_induction readArguments unclosed placed <;> simp_all [addArgument, Argument.places]

/-- The places of the tokens are numbers in order. -/
theorem nodup_places (tokens : List Token) :
    ((tokens.zipIdx.filter (·.1.significant)).map Prod.snd).Nodup := by
  have hall : (tokens.zipIdx.map Prod.snd).Nodup := by
    rw [List.zipIdx_map_snd]
    exact List.nodup_range'
  exact hall.sublist (List.filter_sublist.map _)

/-- The tokens that carry meaning, without their places; the first place is given. -/
theorem map_fst_filter_zipIdx (tokens : List Token) (first : Nat) :
    ((tokens.zipIdx first).filter (·.1.significant)).map Prod.fst =
      tokens.filter Token.significant := by
  conv => rhs; rw [← List.zipIdx_map_fst first tokens, List.filter_map]
  rfl

/-- The significant tokens are the same whether they are taken with their places or without. -/
theorem map_fst_filter_significant (tokens : List Token) :
    (tokens.zipIdx.filter (·.1.significant)).map Prod.fst = tokens.filter Token.significant :=
  map_fst_filter_zipIdx tokens 0

/-- The parts of a line whose first token that carries meaning is followed by those of arguments. -/
theorem ofTokens_of_readAs {tokens others : List Token} {head : Token} {words : List ArgumentWord}
    (htokens : tokens.filter Token.significant = head :: others) (h : ReadAs words others) :
    ∃ place arguments, ofTokens tokens = ⟨some place, arguments, []⟩ ∧
      tokens[place]? = some head ∧ arguments.map (Argument.toWord tokens) = words ∧
      (arguments.flatMap Argument.places).Nodup ∧
      ∀ other ∈ arguments.flatMap Argument.places, other < tokens.length := by
  have hfst := (map_fst_filter_significant tokens).trans htokens
  have hplaced : ∀ entry ∈ tokens.zipIdx.filter (·.1.significant),
      tokens[entry.2]? = some entry.1 := fun entry hentry =>
    List.mem_zipIdx_iff_getElem?.1 (List.mem_of_mem_filter hentry)
  have hnodup := nodup_places tokens
  rw [ofTokens]
  -- the parts are places, at which the tokens are found again
  generalize tokens.zipIdx.filter (·.1.significant) = placed at *
  obtain ⟨⟨token, place⟩, rest, rfl, rfl, rfl⟩ := List.map_eq_cons_iff.1 hfst
  obtain ⟨arguments, hread, hwords⟩ := readArguments_of_readAs h
    fun entry hentry => hplaced entry (List.mem_cons_of_mem _ hentry)
  have hplaces := places_readArguments [] rest
  rw [hread] at hplaces
  refine ⟨place, arguments, ?_, hplaced _ List.mem_cons_self, hwords, ?_, ?_⟩
  · simp only [hread]
  · exact hnodup.of_cons.sublist hplaces
  · intro other hother
    obtain ⟨entry, hentry, rfl⟩ := List.mem_map.1 (hplaces.subset hother)
    exact (List.getElem?_eq_some_iff.1 (hplaced entry (List.mem_cons_of_mem _ hentry))).1

end LineParts

end EnsembleDesk
