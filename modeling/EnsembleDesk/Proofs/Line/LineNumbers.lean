import EnsembleDesk.Proofs.Line.Arguments
import EnsembleDesk.Proofs.Text.LineBreaks
import EnsembleDesk.Language
/-!
# Line numbers

The number of a line is written into its tokens and not looked at. So a line with another number has
the same tokens, with that number: they are moved down (`Token.movedDown`) as far as the line is.
Neither the parts of a line nor its refinement depend on that number, and so this holds of the
tokens of both languages (`Language.tokensOf_movedDown`). Hence the lines of two texts that follow
one another have the tokens that they have in their texts, those of the second text moved down
(`Language.documentTokens_append`).
-/

namespace EnsembleDesk

/-! ### Reading -/

/-- A token, that many lines below. -/
def Token.movedDown (count : Nat) (token : Token) : Token :=
  { token with line := token.line + count }

namespace Grammar

variable {grammar : Grammar} {line column : Nat} {stack : ModeStack} {rest : List Char}

/-- What is read in a line that many lines below. -/
def Step.movedDown (count : Nat) (step : Step) : Step :=
  { step with tokens := step.tokens.map (Token.movedDown count) }

/-- The tokens of groups move down with their line. -/
theorem groupTokens_movedDown (count : Nat) (found : Cursor) (index : Nat)
    (kinds : List TokenKind) :
    grammar.groupTokens (line + count) column found index kinds =
      (grammar.groupTokens line column found index kinds).map (Token.movedDown count) := by
  induction kinds generalizing index with
  | nil => rfl
  | cons kind kinds ih =>
    rw [groupTokens, groupTokens, ih]
    split <;> rfl

/-- What a rule yields moves down with its line. -/
theorem emitted?_movedDown (count : Nat) (found : Cursor) (text : List Char) (emit : Emit) :
    grammar.emitted? (line + count) column found text emit =
      (grammar.emitted? line column found text emit).map fun (tokens, action) =>
        (tokens.map (Token.movedDown count), action) := by
  cases emit with
  | kind => rfl
  | groups kinds => rw [emitted?, emitted?, groupTokens_movedDown]; rfl
  | cases arms =>
    rw [emitted?, emitted?, Option.map_map]
    rfl

/-- Whether a rule applies does not depend on the line. -/
theorem applyRule?_movedDown (count : Nat) :
    grammar.applyRule? (line + count) column stack rest =
      Option.map (Step.movedDown count) ∘ grammar.applyRule? line column stack rest := by
  funext rule
  rw [Function.comp_apply, applyRule?, applyRule?]
  cases rule.pattern.match? rest with
  | none => rfl
  | some found =>
    rw [Option.bind_eq_bind, Option.bind_some, Option.bind_some]
    split
    · rfl
    · rw [emitted?_movedDown]
      cases grammar.emitted? line column found (rest.take found.offset) rule.emit <;> rfl

/-- A step of reading moves down with its line. -/
theorem step_movedDown (count : Nat) :
    grammar.step (line + count) column stack rest =
      (grammar.step line column stack rest).movedDown count := by
  rw [step, step, applyRule?_movedDown, ← List.map_findSome?]
  cases (grammar.rulesOf stack.top).findSome? (grammar.applyRule? line column stack rest) <;> rfl

/-- The tokens of what is left of a line move down with it. -/
theorem tokensFrom_movedDown (count : Nat) :
    grammar.tokensFrom (line + count) column stack rest =
      (grammar.tokensFrom line column stack rest).map (Token.movedDown count) := by
  fun_induction tokensFrom grammar line column stack rest with
  | case1 => rw [tokensFrom]; rfl
  | case2 column stack c rest found length ih =>
    rw [tokensFrom, step_movedDown, List.map_append, ← ih]
    rfl

/-- A line that many lines below has the same tokens, moved down. -/
theorem tokensOf_movedDown (count : Nat) (text : String) :
    grammar.tokensOf (line + count) text =
      (grammar.tokensOf line text).map (Token.movedDown count) :=
  tokensFrom_movedDown count

end Grammar

/-! ### Refinement -/

open LineParts

variable {keyword : Keyword} {tokens : List Token} {count : Nat}

namespace LineParts

/-- Arguments are read by places in the line, whatever its number is. -/
theorem readArguments_movedDown (count : Nat) (unclosed : List Nat)
    (placed : List (Token × Nat)) :
    readArguments unclosed (placed.map (Prod.map (Token.movedDown count) id)) =
      readArguments unclosed placed := by
  have hdelimiter : ∀ (token : Token) (text : String),
      (token.movedDown count).isDelimiter text = token.isDelimiter text := fun _ _ => rfl
  have hadjoins : ∀ left right : Token,
      (left.movedDown count).adjoins (right.movedDown count) = left.adjoins right := fun _ _ => rfl
  fun_induction readArguments unclosed placed with
  | case1 unclosed => rfl
  | _ =>
    rw [readArguments.eq_def]
    simp_all [addArgument]

/-- The tokens that carry meaning keep their places. -/
theorem filter_zipIdx_movedDown (count : Nat) (tokens : List Token) :
    (tokens.map (Token.movedDown count)).zipIdx.filter (·.1.significant) =
      (tokens.zipIdx.filter (·.1.significant)).map (Prod.map (Token.movedDown count) id) := by
  rw [List.zipIdx_map, List.filter_map]
  rfl

/-- The parts of a line do not depend on its number. -/
theorem ofTokens_movedDown (count : Nat) (tokens : List Token) :
    ofTokens (tokens.map (Token.movedDown count)) = ofTokens tokens := by
  rw [ofTokens, ofTokens, filter_zipIdx_movedDown]
  cases tokens.zipIdx.filter (·.1.significant) with
  | nil => rfl
  | cons head rest =>
    rw [List.map_cons]
    simp only [Prod.map, readArguments_movedDown]
    rfl

/-- The keyword of a line does not depend on its number. -/
theorem keyword?_movedDown (count : Nat) (parts : LineParts) (tokens : List Token) :
    parts.keyword? (tokens.map (Token.movedDown count)) = parts.keyword? tokens := by
  simp only [keyword?, List.getElem?_map]
  cases parts.head with
  | none => rfl
  | some head => cases htoken : tokens[head]? <;> simp [htoken, Token.movedDown]

end LineParts

/-- The texts of a line do not depend on its number. -/
theorem textAt_movedDown (count : Nat) (tokens : List Token) :
    textAt (tokens.map (Token.movedDown count)) = textAt tokens := by
  funext place
  rw [textAt, textAt, List.getElem?_map, Option.map_map]
  rfl

/-- A token gets the same kind in another line. -/
theorem setKind_movedDown (place : Nat) (kind : TokenKind) :
    setKind (tokens.map (Token.movedDown count)) place kind =
      (setKind tokens place kind).map (Token.movedDown count) := by
  refine List.ext_getElem? fun other => ?_
  rw [setKind, setKind, List.getElem?_modify, List.getElem?_map, List.getElem?_map,
    List.getElem?_modify]
  cases tokens[other]? with
  | none => rfl
  | some token => by_cases h : place = other <;> simp [h, Token.movedDown]

/-- A positional argument is refined alike in another line. -/
theorem refinePositional_movedDown (parameter : Parameter) (place : Nat) :
    refinePositional parameter place (tokens.map (Token.movedDown count)) =
      (refinePositional parameter place tokens).map (Token.movedDown count) := by
  rw [refinePositional, refinePositional, textAt_movedDown, setKind_movedDown]
  split <;> rfl

/-- A named argument is refined alike in another line. -/
theorem refineNamed_movedDown (name : Nat) (value : Option Nat) :
    refineNamed keyword name value (tokens.map (Token.movedDown count)) =
      (refineNamed keyword name value tokens).map (Token.movedDown count) := by
  simp only [refineNamed, textAt_movedDown, setKind_movedDown]
  split
  · rfl
  · rfl
  · split <;> rfl

/-- The arguments are refined alike in another line. -/
theorem refineArguments_movedDown (parameters : List Parameter) (arguments : List Argument) :
    refineArguments keyword parameters arguments (tokens.map (Token.movedDown count)) =
      (refineArguments keyword parameters arguments tokens).map (Token.movedDown count) := by
  fun_induction refineArguments keyword parameters arguments tokens with
  | case1 => rfl
  | case2 tokens place rest ih => rw [refineArguments, ih]
  | case3 tokens parameter parameters place rest ih =>
    rw [refineArguments, refinePositional_movedDown, ih]
  | case4 tokens parameters name value rest ih =>
    rw [refineArguments, refineNamed_movedDown, ih]

/-- A line is refined alike wherever it stands. -/
theorem refine_movedDown (count : Nat) (tokens : List Token) :
    refine (tokens.map (Token.movedDown count)) =
      (refine tokens).map (Token.movedDown count) := by
  have hunclosed : ∀ (places : List Nat) (tokens : List Token),
      places.foldl (fun tokens place => setKind tokens place .invalid)
          (tokens.map (Token.movedDown count)) =
        (places.foldl (fun tokens place => setKind tokens place .invalid) tokens).map
          (Token.movedDown count) := by
    intro places
    induction places with
    | nil => exact fun _ => rfl
    | cons place places ih =>
      intro tokens
      rw [List.foldl_cons, List.foldl_cons, setKind_movedDown, ih]
  simp only [refine, ofTokens_movedDown, keyword?_movedDown]
  split
  · rw [← hunclosed, ← refineArguments_movedDown]
    split
    · rw [setKind_movedDown]
    · rfl
  · rfl

/-- A line that many lines below has the same refined tokens, moved down. -/
theorem Language.tokensOf_movedDown (language : Language) (line count : Nat) (text : String) :
    language.tokensOf (line + count) text =
      (language.tokensOf line text).map (Token.movedDown count) := by
  cases language with
  | ert =>
    exact (congrArg refine (Grammar.tokensOf_movedDown count text)).trans (refine_movedDown count _)
  | dist => exact Grammar.tokensOf_movedDown count text

/-- Behind a text that ends with a line, the lines of another text have the same tokens, moved
down. -/
theorem Language.documentTokens_append (language : Language) {above : String}
    (h : above = "" ∨ above.toList.getLast? = some '\n') (below : String) :
    language.documentTokens (above ++ below) = language.documentTokens above ++
      (language.documentTokens below).map
        (List.map (Token.movedDown (linesOf above.toList).length)) := by
  have hlines := linesOf_append (h.imp_left (congrArg String.toList)) below.toList
  set count := (linesOf above.toList).length with hcount
  have hbelow := List.zipIdx_eq_map_add (l := linesOf below.toList) (i := count)
  rw [documentTokens, documentTokens, documentTokens, String.toList_append, hlines,
    List.zipIdx_append, List.map_append, Nat.zero_add, ← hcount, hbelow, List.map_map, List.map_map]
  congr 2
  funext entry
  have hnumber : count + entry.2 + 1 = entry.2 + 1 + count := by omega
  exact (congrArg (language.tokensOf · _) hnumber).trans (tokensOf_movedDown language _ count _)

end EnsembleDesk
