import EnsembleDesk.Proofs.Line.Covering
import EnsembleDesk.Proofs.Line.Marks
import EnsembleDesk.Proofs.Schema.Labels
/-!
# The arguments that do not fit

`Misfit` says of the words of a line which of their parts do not fit what the keyword declares: a
name that is unknown, a value or a word that is refused. It knows neither tokens nor places. The
parts are those at the places that refinement marks (`exists_misfitAt_iff`), so the invalid tokens
of a line are the parts of its words that do not fit: `invalid_part_iff_misfit`.
-/

namespace EnsembleDesk

open Schema

/-! ### Misfits among words -/

/-- The word of an argument that its position tells apart. -/
def ArgumentWord.positional? : ArgumentWord → Option WordSpan
  | positional word => some word
  | named _ _ => none

/-- A part of the arguments of a keyword does not fit what the keyword declares. -/
inductive Misfit (keyword : Keyword) (arguments : List ArgumentWord) (part : WordSpan) : Prop
  /-- A name that no named parameter has. -/
  | name (value : WordSpan) (hmem : .named part value ∈ arguments)
      (hunknown : ∀ parameter ∈ keyword.parameters, parameter.named = true →
        parameter.label ≠ part.string)
  /-- A value that is none of the choices of its parameter, or that is no number where there are no
  choices and one is needed. -/
  | value (name : WordSpan) (parameter : Parameter) (hmem : .named name part ∈ arguments)
      (hparameter : parameter ∈ keyword.parameters) (hnamed : parameter.named = true)
      (hlabel : parameter.label = name.string) (hne : part.text ≠ [])
      (hrefused : (parameter.choices ≠ [] ∧
          ∀ choice ∈ parameter.choices, choice.label ≠ part.string) ∨
        parameter.choices = [] ∧ parameter.numerical = true ∧
          isNumericLiteral part.string = false)
  /-- A word that the parameter in its position does not accept, or that is no number where one is
  needed. -/
  | positional (parameter : Parameter)
      (hmem : (part, parameter) ∈
        (arguments.filterMap ArgumentWord.positional?).zip keyword.positionals)
      (hrefused : parameter.accepts part.string = false ∨
        parameter.numerical = true ∧ isNumericLiteral part.string = false)

section Words

variable {keyword : Keyword} {tokens : List Token} {arguments : List Argument}

/-- A value does not fit a parameter if it is none of the accepted ones, or no number where one is
expected. -/
theorem Parameter.fits_eq_false_iff {parameter : Parameter} {value : String} :
    parameter.fits value = false ↔ parameter.accepts value = false ∨
      parameter.numerical = true ∧ isNumericLiteral value = false := by
  cases h : parameter.accepts value <;> simp [Parameter.fits, h]

/-- A value is marked as invalid if it is none of the choices, or, where there are none, no number
where one is expected. -/
theorem Parameter.valueKind?_eq_invalid_iff {parameter : Parameter} {value : String} :
    parameter.valueKind? value = some .invalid ↔
      (parameter.choices ≠ [] ∧ ∀ choice ∈ parameter.choices, choice.label ≠ value) ∨
        parameter.choices = [] ∧ parameter.numerical = true ∧ isNumericLiteral value = false := by
  unfold Parameter.valueKind?
  by_cases hchoices : parameter.choices = []
  · simp [hchoices]
  · simp [Parameter.accepts, hchoices]

/-- A keyword with distinct parameters takes under a name the parameter that has it. -/
theorem Keyword.namedParameter?_eq_some_iff
    (hlabels : (keyword.parameters.map Parameter.label).Nodup) {name : String}
    {parameter : Parameter} :
    keyword.namedParameter? name = some parameter ↔
      parameter ∈ keyword.parameters ∧ parameter.named = true ∧ parameter.label = name := by
  rw [namedParameter?, Option.filter_eq_some_iff, parameter?_eq_some_iff hlabels, and_assoc]
  exact and_congr_right fun _ => and_comm

/-- The positional words of the arguments are the words of the positional arguments. -/
theorem filterMap_positional?_toWord (tokens : List Token) (arguments : List Argument) :
    (arguments.map (Argument.toWord tokens)).filterMap ArgumentWord.positional? =
      (arguments.filterMap Argument.positional?).map (spanAt tokens) := by
  rw [List.filterMap_map, List.map_filterMap]
  congr 1
  funext argument
  rcases argument with place | ⟨name, _ | value⟩ <;> rfl

/-- A named argument is one among the words, with the word of its value. -/
theorem mem_map_toWord_of_named {name : Nat} {value : Option Nat}
    (h : .named name value ∈ arguments) :
    ∃ word, .named (spanAt tokens name) word ∈ arguments.map (Argument.toWord tokens) ∧
      ∀ place ∈ value, word = spanAt tokens place := by
  cases value with
  | none => exact ⟨_, List.mem_map.2 ⟨_, h, rfl⟩, by simp⟩
  | some value => exact ⟨_, List.mem_map.2 ⟨_, h, rfl⟩, by simp⟩

/-- A named word is that of a named argument, and its value that of the value, if it is not
empty. -/
theorem named_of_mem_map_toWord {name value : WordSpan}
    (h : .named name value ∈ arguments.map (Argument.toWord tokens)) :
    ∃ namePlace valuePlace, .named namePlace valuePlace ∈ arguments ∧
      spanAt tokens namePlace = name ∧
      (value.text ≠ [] → ∃ place ∈ valuePlace, spanAt tokens place = value) := by
  obtain ⟨argument, hmem, hword⟩ := List.mem_map.1 h
  rcases argument with place | ⟨name, _ | value⟩
  · cases hword
  · cases hword
    exact ⟨name, none, hmem, rfl, fun hne => absurd rfl hne⟩
  · cases hword
    exact ⟨name, some value, hmem, rfl, fun _ => ⟨value, rfl, rfl⟩⟩

/-- The name of a named argument does not fit unless a named parameter has it. -/
theorem namedMisfit_name (hlabels : (keyword.parameters.map Parameter.label).Nodup)
    {text : Nat → String} {name : Nat} {value : Option Nat}
    (hunknown : ∀ parameter ∈ keyword.parameters, parameter.named = true →
      parameter.label ≠ text name) : NamedMisfit keyword text name value name := by
  have hnone : keyword.namedParameter? (text name) = none := by
    refine Option.eq_none_iff_forall_ne_some.2 fun parameter hsome => ?_
    obtain ⟨hmem, hnamed, hlabel⟩ := (Keyword.namedParameter?_eq_some_iff hlabels).1 hsome
    exact hunknown parameter hmem hnamed hlabel
  rw [NamedMisfit, hnone]

/-- The parts of the words that do not fit are those that stand at the places of misfits. -/
theorem exists_misfitAt_iff (hlabels : (keyword.parameters.map Parameter.label).Nodup)
    (htexts : ∀ place ∈ arguments.flatMap Argument.places, (spanAt tokens place).text ≠ [])
    (part : WordSpan) :
    (∃ place, MisfitAt keyword (textAt tokens) keyword.positionals arguments place ∧
        spanAt tokens place = part) ↔
      Misfit keyword (arguments.map (Argument.toWord tokens)) part := by
  have htext : textAt tokens = fun place => (spanAt tokens place).string :=
    funext (textAt_eq_string tokens)
  rw [htext]
  constructor
  -- what stands at the place of a misfit is a part of the words
  · rintro ⟨place, ⟨parameter, hmem, hfits⟩ | ⟨name, value, hmem, hmisfit⟩, rfl⟩
    · refine .positional parameter ?_ (Parameter.fits_eq_false_iff.1 hfits)
      rw [filterMap_positional?_toWord, List.zip_map_left]
      exact List.mem_map.2 ⟨_, hmem, rfl⟩
    · obtain ⟨word, hword, hvalue⟩ := @mem_map_toWord_of_named tokens _ _ _ hmem
      unfold NamedMisfit at hmisfit
      split at hmisfit <;> rename_i hparameter
      · subst hmisfit
        refine .name word hword fun parameter hmem hnamed hlabel => ?_
        rw [(Keyword.namedParameter?_eq_some_iff hlabels).2 ⟨hmem, hnamed, hlabel⟩] at hparameter
        cases hparameter
      · obtain ⟨rfl, hkind⟩ := hmisfit
        obtain ⟨hparameter, hnamed, hlabel⟩ :=
          (Keyword.namedParameter?_eq_some_iff hlabels).1 hparameter
        refine .value _ _ (hvalue place rfl ▸ hword) hparameter hnamed hlabel
          (htexts place (List.mem_flatMap.2 ⟨_, hmem, ?_⟩))
          (Parameter.valueKind?_eq_invalid_iff.1 hkind)
        simp [Argument.places]
  -- the words are those at places, so each part that does not fit stands at one
  · intro hmisfit
    cases hmisfit with
    | name value hmem hunknown =>
      obtain ⟨place, valuePlace, hargument, rfl, -⟩ := named_of_mem_map_toWord hmem
      exact ⟨place, .inr ⟨_, _, hargument, namedMisfit_name hlabels hunknown⟩, rfl⟩
    | value name parameter hmem hparameter hnamed hlabel hne hrefused =>
      obtain ⟨namePlace, valuePlace, hargument, rfl, hvalue⟩ := named_of_mem_map_toWord hmem
      obtain ⟨place, rfl, rfl⟩ := hvalue hne
      refine ⟨place, .inr ⟨_, _, hargument, ?_⟩, rfl⟩
      rw [NamedMisfit, (Keyword.namedParameter?_eq_some_iff hlabels).2 ⟨hparameter, hnamed, hlabel⟩]
      exact ⟨rfl, Parameter.valueKind?_eq_invalid_iff.2 hrefused⟩
    | positional parameter hmem hrefused =>
      rw [filterMap_positional?_toWord, List.zip_map_left] at hmem
      obtain ⟨⟨place, other⟩, hplace, heq⟩ := List.mem_map.1 hmem
      cases heq
      exact ⟨place, .inl ⟨_, hplace, Parameter.fits_eq_false_iff.2 hrefused⟩, rfl⟩

end Words

/-! ### The tokens of a line -/

/-- The token of a keyword knows it. -/
theorem keyword_token {keyword : Keyword} (h : keyword ∈ ertKeywords) (line column : Nat) :
    (Language.ertGrammar.token line column .keyword keyword.label.toList).keyword =
      some keyword := by
  rw [Grammar.token, String.ofList_toList]
  exact (Keyword.find?_eq_some_iff nodup_ertKeywords).2 ⟨h, rfl⟩

/-- Of the tokens of a line that a keyword leads, the invalid ones are the parts of its arguments
that do not fit what the keyword declares. -/
theorem invalid_part_iff_misfit {keyword : Keyword} (hkeyword : keyword ∈ ertKeywords)
    (hplain : keyword.label ∉ ["QUEUE_SYSTEM", "QUEUE_OPTION", "FORWARD_MODEL"]) (n : Nat)
    {line : String} {start : Nat} {words : List WordSpan}
    (hline : wordSpans 1 line.toList = ⟨keyword.label.toList, start⟩ :: words)
    (hwords : ∀ word ∈ words, word.Unmarked) (part : WordSpan) :
    (∃ token ∈ Language.ert.tokensOf n line, token.kind = .invalid ∧ token.span = part) ↔
      Misfit keyword (argumentWords keyword words) part := by
  have hmem : keyword ∈ ErtGrammar.plainKeywords :=
    List.mem_filter.2 ⟨hkeyword, by simpa using hplain⟩
  obtain ⟨others, hsignificant, hreads⟩ := ErtGrammar.significant_tokensOf hmem n hline hwords
  have htexts : ∀ token ∈ Language.ertGrammar.tokensOf n line, token.text ≠ "" :=
    (Grammar.covers_tokensFrom (Language.rulesCover_grammar .ert) n 1 _ _).text_ne_empty
  -- before the arguments are compared with the parameters no token is invalid
  have hvalid : ∀ token ∈ Language.ertGrammar.tokensOf n line, token.kind ≠ .invalid := by
    intro token htoken hinvalid
    have hkept : token ∈ (Language.ertGrammar.tokensOf n line).filter Token.significant :=
      List.mem_filter.2 ⟨htoken, by rw [Token.significant, hinvalid]; rfl⟩
    rw [hsignificant] at hkept
    rcases List.mem_cons.1 hkept with rfl | hother
    · cases hinvalid
    · exact hreads.kind_ne_invalid token hother hinvalid
  rw [Language.tokensOf]
  change (∃ token ∈ refine (Language.ertGrammar.tokensOf n line), _) ↔ _
  generalize Language.ertGrammar.tokensOf n line = tokens at *
  -- the arguments that refinement finds are those that the words stand for
  obtain ⟨place, arguments, hparts, hhead, harguments, hnodup, hinside⟩ :=
    LineParts.ofTokens_of_readAs hsignificant hreads
  have hlead := keyword_token hkeyword n start
  have hnonempty :
      ∀ place ∈ arguments.flatMap Argument.places, (spanAt tokens place).text ≠ [] := by
    intro place hplace
    have hlt := hinside place hplace
    rw [spanAt, List.getElem?_eq_getElem hlt]
    exact fun hnil => htexts _ (List.getElem_mem hlt) (String.toList_eq_nil_iff.1 hnil)
  rw [exists_invalid_iff, ← harguments,
    ← exists_misfitAt_iff (nodup_parameters keyword hkeyword) hnonempty]
  simp only [invalidAt_refine hparts hhead hlead hvalid hnodup hinside,
    spanAt_of_map_unkinded (map_unkinded_refine tokens)]

/-- The lower bound of a field has to be a number. -/
theorem invalid_part_iff_misfit_lowerBound :
    ∃ token ∈ Language.ert.tokensOf 1 "FIELD PORO PARAMETER poro MIN:abc",
      token.kind = .invalid ∧ token.span = ⟨['a', 'b', 'c'], 31⟩ := by
  let words : List WordSpan := [⟨['P', 'O', 'R', 'O'], 7⟩,
    ⟨['P', 'A', 'R', 'A', 'M', 'E', 'T', 'E', 'R'], 12⟩, ⟨['p', 'o', 'r', 'o'], 22⟩,
    ⟨['M', 'I', 'N', ':', 'a', 'b', 'c'], 27⟩]
  obtain ⟨keyword, hkeyword, hlabel, hparameters⟩ : ∃ keyword ∈ ertKeywords,
      keyword.label = "FIELD" ∧ keyword.parameters = fieldParameters := by decide +kernel
  have hplain : keyword.label ∉ ["QUEUE_SYSTEM", "QUEUE_OPTION", "FORWARD_MODEL"] := by
    rw [hlabel]
    decide
  have hline : wordSpans 1 "FIELD PORO PARAMETER poro MIN:abc".toList =
      ⟨keyword.label.toList, 1⟩ :: words := by
    rw [hlabel]
    decide +kernel
  have hargument : .named ⟨['M', 'I', 'N'], 27⟩ ⟨['a', 'b', 'c'], 31⟩ ∈
      argumentWords keyword words := by
    rw [argumentWords, Keyword.takesNamed, hlabel]
    decide +kernel
  have hwords : ∀ word ∈ words, word.Unmarked := by
    simp only [words, List.forall_mem_cons]
    exact ⟨by decide, by decide, by decide, by decide, List.forall_mem_nil _⟩
  have hlower : ∃ parameter ∈ keyword.parameters, parameter.named = true ∧
      parameter.label = "MIN" ∧ parameter.choices = [] ∧ parameter.numerical = true := by
    rw [hparameters]
    decide +kernel
  obtain ⟨parameter, hparameter, hnamed, hname, hchoices, hnumerical⟩ := hlower
  have hnumber : isNumericLiteral (WordSpan.mk ['a', 'b', 'c'] 31).string = false := by
    decide +kernel
  exact (invalid_part_iff_misfit hkeyword hplain 1 hline hwords _).2
    (.value _ parameter hargument hparameter hnamed hname (List.cons_ne_nil _ _)
      (.inr ⟨hchoices, hnumerical, hnumber⟩))

end EnsembleDesk
