import EnsembleDesk.Language
import EnsembleDesk.Line.Refinement
import EnsembleDesk.Proofs.Grammar.Tiling
/-!
# Tokens of the two languages cover a line

In both grammars the only rule that yields a token for each group is that of a named parameter,
whose pattern consists of three groups: name, colon and value. So every rule covers what it matches.

Comparing the arguments of a line with their parameters gives tokens other kinds. Their number,
texts and places stay what they were: `map_unkinded_refine`.
-/

namespace EnsembleDesk

/-! ### Refinement changes kinds only -/

/-- A token without its kind. -/
def Token.unkinded (token : Token) : Token := { token with kind := default }

/-- Changing the kind of a token changes nothing but kinds. -/
theorem map_unkinded_setKind (tokens : List Token) (place : Nat) (kind : TokenKind) :
    (setKind tokens place kind).map Token.unkinded = tokens.map Token.unkinded := by
  rw [setKind]
  induction tokens generalizing place with
  | nil => rw [List.modify_nil]
  | cons token tokens ih =>
    cases place with
    | zero => rfl
    | succ place => rw [List.modify_succ_cons, List.map_cons, ih, List.map_cons]

/-- Refining a positional argument changes nothing but kinds. -/
theorem map_unkinded_refinePositional (parameter : Parameter) (place : Nat) (tokens : List Token) :
    (refinePositional parameter place tokens).map Token.unkinded = tokens.map Token.unkinded := by
  rw [refinePositional]
  split
  · rfl
  · exact map_unkinded_setKind tokens place .invalid

/-- Refining a named argument changes nothing but kinds. -/
theorem map_unkinded_refineNamed (keyword : Keyword) (name : Nat) (value : Option Nat)
    (tokens : List Token) :
    (refineNamed keyword name value tokens).map Token.unkinded = tokens.map Token.unkinded := by
  unfold refineNamed
  split
  · exact map_unkinded_setKind tokens name .invalid
  · rfl
  · split
    · exact map_unkinded_setKind tokens _ _
    · rfl

/-- Refining all arguments of a line changes nothing but kinds. -/
theorem map_unkinded_refineArguments (keyword : Keyword) (parameters : List Parameter)
    (arguments : List Argument) (tokens : List Token) :
    (refineArguments keyword parameters arguments tokens).map Token.unkinded =
      tokens.map Token.unkinded := by
  fun_induction refineArguments keyword parameters arguments tokens with
  | case1 => rfl
  | case2 _ _ _ ih => exact ih
  | case3 _ _ _ _ _ ih => rw [ih, map_unkinded_refinePositional]
  | case4 _ _ _ _ _ ih => rw [ih, map_unkinded_refineNamed]

/-- Refinement changes nothing of the tokens of a line but their kinds. -/
theorem map_unkinded_refine (tokens : List Token) :
    (refine tokens).map Token.unkinded = tokens.map Token.unkinded := by
  rw [refine]
  split
  · rename_i head keyword _ _
    -- the deprecated keyword, the arguments and the parentheses are marked in turn
    refine List.foldlRecOn (motive := fun marked => marked.map Token.unkinded = _) _ _ ?_
      fun marked hmarked place _ => (map_unkinded_setKind marked place .invalid).trans hmarked
    rw [map_unkinded_refineArguments]
    split
    · exact map_unkinded_setKind tokens head .warning
    · rfl
  · rfl

/-! ### Covering -/

/-- What tokens cover does not depend on their kinds. -/
theorem covers_map_unkinded {column : Nat} {text : List Char} {tokens : List Token} :
    Covers column text (tokens.map Token.unkinded) ↔ Covers column text tokens := by
  induction tokens generalizing column text with
  | nil => exact Iff.rfl
  | cons token tokens ih =>
    rw [List.map_cons, Covers, Covers]
    simp only [ih]
    rfl

/-- Refined tokens cover a text if and only if those before do. -/
theorem covers_refine {column : Nat} {text : List Char} {tokens : List Token} :
    Covers column text (refine tokens) ↔ Covers column text tokens := by
  rw [← covers_map_unkinded, map_unkinded_refine, covers_map_unkinded]

namespace Language

/-- The pattern of a named parameter has three sections, one for each token that it yields. -/
theorem sections_namedParameter : ErtGrammar.namedParameter.Sections 3 :=
  .next (.next (.first rfl) rfl) rfl

/-- Whether a rule yields one token, or those of a named parameter. -/
def wholeOrNamed (rule : Rule) : Bool :=
  match rule.emit with
  | .groups kinds _ => rule.pattern == ErtGrammar.namedParameter && kinds.length == 3
  | _ => true

/-- A rule that yields one token, or those of a named parameter, yields tokens that cover what it
matches. -/
theorem covers_of_wholeOrNamed {rule : Rule} (h : wholeOrNamed rule = true) : rule.Covers := by
  intro kinds action hemit
  rw [wholeOrNamed, hemit, Bool.and_eq_true, beq_iff_eq, beq_iff_eq] at h
  rw [h.1, h.2]
  exact sections_namedParameter

/-- Every rule of the grammar of a language covers what it matches. -/
theorem rulesCover_grammar (language : Language) : language.grammar.RulesCover := by
  have hall :
      (Mode.all.all fun mode => (language.grammar.rulesOf mode).all wholeOrNamed) = true := by
    cases language <;> decide +kernel
  intro mode rule hrule
  exact covers_of_wholeOrNamed
    (List.all_eq_true.1 (List.all_eq_true.1 hall mode (Mode.mem_all mode)) rule hrule)

end Language

/-- The tokens of a line, which is not empty, cover it: in both languages, also before the arguments
of a configuration are compared with their parameters, and in every grammar whose rules yield one
token for a match. -/
theorem tokens_cover_line (line : Nat) {text : String} (htext : text ≠ "") :
    (∀ language : Language, CoversLine text (language.tokensOf line text) ∧
      CoversLine text (language.grammar.tokensOf line text)) ∧
    ∀ grammar : Grammar, (∀ mode, ∀ rule ∈ grammar.rulesOf mode, rule.emit.isWhole = true) →
      CoversLine text (grammar.tokensOf line text) := by
  refine ⟨fun language => ?_, fun grammar hwhole => ?_⟩
  · have hrules := language.rulesCover_grammar
    refine ⟨?_, Grammar.coversLine_tokensOf hrules line htext⟩
    cases language with
    -- refinement changes kinds only
    | ert => exact (covers_refine.2 (Grammar.covers_tokensFrom hrules line 1 _ _)).coversLine htext
    | dist => exact Grammar.coversLine_tokensOf hrules line htext
  · exact Grammar.coversLine_tokensOf
      (fun mode rule hrule => Rule.covers_of_isWhole (hwhole mode rule hrule)) line htext

/-- A line of a configuration with a named parameter, and one of a prior. -/
theorem tokens_cover_field_and_prior :
    CoversLine "FIELD PORO PARAMETER INIT_FILES:p%d" (Language.ert.tokensOf 1
        "FIELD PORO PARAMETER INIT_FILES:p%d") ∧
      CoversLine "poro UNIFORM 0 1 -- flat" (Language.distGrammar.tokensOf 1
        "poro UNIFORM 0 1 -- flat") := by
  have hwhole : ∀ mode, ∀ rule ∈ Language.distGrammar.rulesOf mode, rule.emit.isWhole = true := by
    have hall : (Mode.all.all fun mode =>
        (Language.distGrammar.rulesOf mode).all (·.emit.isWhole)) = true := by decide +kernel
    intro mode
    exact List.all_eq_true.1 (List.all_eq_true.1 hall mode (Mode.mem_all mode))
  exact ⟨((tokens_cover_line 1 (by decide)).1 .ert).1, (tokens_cover_line 1 (by decide)).2 _ hwhole⟩

end EnsembleDesk
