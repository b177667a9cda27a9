import EnsembleDesk.Proofs.Line.LeadingWord
import EnsembleDesk.Proofs.Line.SeenArguments
import EnsembleDesk.Proofs.Schema.Labels
/-!
# Only the word that leads a line is a keyword

What follows the word that leads a line is read in modes that yield no keywords, until nothing but
blanks is left (`ErtGrammar.kind_of_behind`). Refinement makes a warning of a deprecated keyword,
and marks nothing else with that kind (`WithholdsKind`).

## Main results

* `Language.keywords_only_lead`: what leads a line, and what it is taken for.
-/

namespace EnsembleDesk

open LineGrammar ErtGrammar EnsembleDesk.Language

namespace ErtGrammar

/-- The kinds of tokens that may stand behind the one that leads a line. -/
def argumentKinds : List TokenKind :=
  TokenKind.all.filter fun kind => kind != .keyword && kind != .warning

/-- Behind the leading token everything but a keyword may stand. -/
theorem mem_argumentKinds_iff {kind : TokenKind} :
    kind ∈ argumentKinds ↔ kind ≠ .keyword ∧ kind ≠ .warning := by
  cases kind <;> decide

/-- Behind a word that has led, no token is a keyword. -/
theorem kind_of_behind {word : List Char} {stack : ModeStack} (hbehind : Behind word stack)
    (line column : Nat) (rest : List Char) :
    ∀ token ∈ (ertGrammar.tokensFrom line column stack rest).filter Token.significant,
      token.kind ∈ argumentKinds := by
  have hword : ∀ stack ∈ wordStacks, ∀ rule ∈ ertGrammar.rulesOf stack.top,
      ∀ kind ∈ rule.emit.kinds, kind ∈ argumentKinds := by decide +kernel
  have hjob : ∀ stack ∈ jobStacks, ∀ rule ∈ ertGrammar.rulesOf stack.top,
      ∀ kind ∈ rule.emit.kinds, kind ∈ argumentKinds := by decide +kernel
  rcases hbehind with hstack | ⟨-, rfl⟩
  · exact confines_wordStacks.kind_tokensFrom skipsBlanks_rulesOf hword (by decide) hstack line
      column rest
  · exact confines_jobStacks.kind_tokensFrom skipsBlanks_rulesOf hjob (by decide)
      List.mem_cons_self line column rest

end ErtGrammar

/-! ### Refinement -/

/-- An operation does not give tokens a kind: where a token has it, it had it before. -/
def WithholdsKind (kind : TokenKind) (operation : List Token → List Token) : Prop :=
  ∀ (tokens : List Token) (place : Nat) (token : Token),
    (operation tokens)[place]? = some token → token.kind = kind → tokens[place]? = some token

namespace WithholdsKind

variable {kind other : TokenKind} {first second : List Token → List Token}

theorem unmarked : WithholdsKind kind fun tokens => tokens := fun _ _ _ h _ => h

/-- Operations that withhold a kind one after the other withhold it together. -/
theorem comp (hsecond : WithholdsKind kind second) (hfirst : WithholdsKind kind first) :
    WithholdsKind kind fun tokens => second (first tokens) :=
  fun tokens place token h hkind =>
    hfirst tokens place token (hsecond _ place token h hkind) hkind

/-- Setting another kind withholds this one. -/
theorem setKind (h : other ≠ kind) (place : Nat) : WithholdsKind kind (setKind · place other) := by
  intro tokens place' token htoken hkind
  beta_reduce at htoken
  rw [EnsembleDesk.setKind, List.getElem?_modify] at htoken
  obtain ⟨before, hbefore, rfl⟩ := Option.map_eq_some_iff.1 htoken
  split at hkind
  · exact absurd hkind h
  · rw [if_neg ‹_›]
    exact hbefore

section Arguments

variable (hkind : kind.isArgumentMark = false)

include hkind

/-- Marking an argument makes nothing a keyword. -/
theorem mark (h : other.isArgumentMark = true) (place : Nat) :
    WithholdsKind kind (EnsembleDesk.setKind · place other) := by
  refine setKind (fun heq => ?_) place
  rw [heq, hkind] at h
  cases h

/-- Refining a positional argument makes nothing a keyword. -/
theorem refinePositional (parameter : Parameter) (place : Nat) :
    WithholdsKind kind (refinePositional parameter place) := by
  intro tokens
  rw [EnsembleDesk.refinePositional]
  split
  · exact unmarked tokens
  · exact mark hkind rfl place tokens

/-- Refining a named argument makes nothing a keyword. -/
theorem refineNamed (keyword : Keyword) (name : Nat) (value : Option Nat) :
    WithholdsKind kind (refineNamed keyword name value) := by
  intro tokens
  unfold EnsembleDesk.refineNamed
  split
  · exact mark hkind rfl name tokens
  · exact unmarked tokens
  · split
    · exact mark hkind (Parameter.isArgumentMark_of_valueKind? ‹_›) _ tokens
    · exact unmarked tokens

/-- Refining arguments makes nothing a keyword. -/
theorem refineArguments (keyword : Keyword) (parameters : List Parameter)
    (arguments : List Argument) :
    WithholdsKind kind (refineArguments keyword parameters arguments) := by
  intro tokens
  fun_induction EnsembleDesk.refineArguments keyword parameters arguments tokens with
  | case1 => exact unmarked _
  | case2 _ _ _ ih => exact ih
  | case3 _ _ _ _ _ ih =>
    exact fun other token htoken hsame =>
      refinePositional hkind _ _ _ other token (ih other token htoken hsame) hsame
  | case4 _ _ _ _ _ ih =>
    exact fun other token htoken hsame =>
      refineNamed hkind _ _ _ _ other token (ih other token htoken hsame) hsame

/-- Marking open parentheses makes nothing a keyword. -/
theorem foldl_setKind (places : List Nat) :
    WithholdsKind kind fun tokens =>
      places.foldl (fun marked place => EnsembleDesk.setKind marked place .invalid) tokens := by
  induction places with
  | nil => exact unmarked
  | cons place places ih => exact ih.comp (mark hkind rfl place)

end Arguments

end WithholdsKind

/-! ### A line that a keyword leads -/

open LineParts

section Line

variable {tokens : List Token} {head : Token} {first : Nat} {rest : List (Token × Nat)}
  {keyword : Keyword} (hfilter : tokens.zipIdx.filter (·.1.significant) = (head, first) :: rest)

include hfilter

/-- The leading token is none of those behind it. -/
theorem not_mem_places_rest : first ∉ rest.map Prod.snd := by
  have hnodup := nodup_places tokens
  rw [hfilter] at hnodup
  exact (List.nodup_cons.1 hnodup).1

/-- The tokens that carry meaning stand at their places in the line. -/
theorem getElem?_of_mem_filter {entry : Token × Nat} (hentry : entry ∈ (head, first) :: rest) :
    tokens[entry.2]? = some entry.1 :=
  List.mem_zipIdx_iff_getElem?.1 (List.mem_of_mem_filter (hfilter ▸ hentry))

variable (hkeyword : head.keyword = some keyword)

include hkeyword

/-- Of the token that leads a line, refinement makes a warning if the keyword is deprecated. -/
theorem getElem?_refine_head :
    (refine tokens)[first]? =
      some { head with kind := if keyword.deprecated then .warning else head.kind } := by
  have hout := not_mem_places_rest hfilter
  have hhead := getElem?_of_mem_filter hfilter List.mem_cons_self
  rw [refine_eq_of_filter hfilter hkeyword, refineParts, refineKeyword]
  -- neither the arguments nor the parentheses that are never closed stand at its place
  rw [(MarksAt.foldl_setKind fun _ => id).getElem?_of_not_mem fun hopen => hout
      ((mem_unclosed_readArguments [] rest _ hopen).resolve_left List.not_mem_nil),
    (MarksAt.refineArguments keyword _ fun _ => id).getElem?_of_not_mem fun hargument => hout
      ((places_readArguments [] rest).subset hargument)]
  split
  · rw [setKind, List.getElem?_modify_eq, hhead]
    rfl
  · exact hhead

/-- No other token becomes a keyword or a warning. -/
theorem getElem?_of_refine {place : Nat} {token : Token} (hplace : place ≠ first)
    (htoken : (refine tokens)[place]? = some token) (hkind : token.kind ∉ argumentKinds) :
    tokens[place]? = some token := by
  have hmark : token.kind.isArgumentMark = false := by
    revert hkind
    cases token.kind <;> decide
  rw [refine_eq_of_filter hfilter hkeyword, refineParts, refineKeyword] at htoken
  have hbefore := WithholdsKind.refineArguments hmark _ _ _ _ _ _
    (WithholdsKind.foldl_setKind hmark _ _ _ _ htoken rfl) rfl
  split at hbefore
  · rwa [setKind, List.getElem?_modify_ne _ _ hplace.symm] at hbefore
  · exact hbefore

/-- What refinement makes of the tokens of a line that carry meaning. -/
theorem filter_refine_of_keyword (hothers : ∀ entry ∈ rest, entry.1.kind ∈ argumentKinds) :
    ∃ others, (refine tokens).filter Token.significant =
        { head with kind := if keyword.deprecated then .warning else head.kind } :: others ∧
      ∀ token ∈ others, token.kind ∈ argumentKinds := by
  obtain ⟨marks, leading, behind, h⟩ :=
    exists_refinedBy ((keyword?_of_filter_eq_cons hfilter).trans hkeyword)
  obtain ⟨rfl, rfl⟩ := List.cons.inj (hfilter.symm.trans h.filter_eq)
  refine ⟨(rest.map marks.apply).map Prod.fst, ?_, ?_⟩
  · have hhead := getElem?_of_mem_filter h.filter_refine_eq List.mem_cons_self
    rw [← map_fst_filter_significant, h.filter_refine_eq, List.map_cons,
      Option.some.inj ((getElem?_refine_head hfilter hkeyword).symm.trans hhead)]
    rfl
  · rw [List.forall_mem_map, List.forall_mem_map]
    intro entry hentry
    by_contra hkind
    -- then the token was of that kind before
    have hne : entry.2 ≠ first := fun heq =>
      not_mem_places_rest hfilter (heq ▸ List.mem_map_of_mem hentry)
    have hafter := getElem?_of_mem_filter h.filter_refine_eq
      (List.mem_cons_of_mem _ (List.mem_map_of_mem hentry))
    have hbefore := getElem?_of_refine hfilter hkeyword hne hafter hkind
    have hsame := getElem?_of_mem_filter hfilter (List.mem_cons_of_mem _ hentry)
    rw [Option.some.inj (hbefore.symm.trans hsame)] at hkind
    exact hkind (hothers entry hentry)

end Line

/-- A word that leads a configuration line, and the token that it becomes. -/
structure Leads (word : WordSpan) (token : Token) : Prop where
  /-- The token is the whole word. -/
  span : token.span = word
  /-- The token refers to the keyword whose label it is. -/
  keyword : ∀ keyword, token.keyword = some keyword ↔
    keyword ∈ Schema.ertKeywords ∧ keyword.label = token.text
  /-- The label of a deprecated keyword is a warning. -/
  deprecated : ∀ keyword ∈ Schema.ertKeywords, keyword.label = token.text →
    keyword.deprecated = true → token.kind = .warning
  /-- The label of another keyword is a keyword. -/
  current : ∀ keyword ∈ Schema.ertKeywords, keyword.label = token.text →
    keyword.deprecated = false → token.kind = .keyword
  /-- Any other text is invalid. -/
  unknown : (∀ keyword ∈ Schema.ertKeywords, keyword.label ≠ token.text) → token.kind = .invalid

/-- A token leads the line if it refers to the keyword of its label, and its kind is that of the
keyword. -/
theorem Leads.of_keyword {word : WordSpan} {token : Token} (hspan : token.span = word)
    (hkeyword : token.keyword = Keyword.find? Schema.ertKeywords token.text)
    (hknown : ∀ keyword, token.keyword = some keyword →
      token.kind = if keyword.deprecated then .warning else .keyword)
    (hunknown : token.keyword = none → token.kind = .invalid) : Leads word token := by
  have hlabel : ∀ keyword, token.keyword = some keyword ↔
      keyword ∈ Schema.ertKeywords ∧ keyword.label = token.text := fun keyword =>
    hkeyword ▸ Keyword.find?_eq_some_iff nodup_ertKeywords
  refine ⟨hspan, hlabel, fun keyword hmem hsame hdeprecated => ?_,
    fun keyword hmem hsame hcurrent => ?_, fun hnone => hunknown ?_⟩
  · rw [hknown keyword ((hlabel keyword).2 ⟨hmem, hsame⟩), if_pos hdeprecated]
  · rw [hknown keyword ((hlabel keyword).2 ⟨hmem, hsame⟩), hcurrent, if_neg Bool.false_ne_true]
  · refine Option.eq_none_iff_forall_ne_some.2 fun keyword hsome => ?_
    obtain ⟨hmem, hsame⟩ := (hlabel keyword).1 hsome
    exact hnone keyword hmem hsame

/-- Refined, the tokens of a line that a word leads are a token that leads it, and no keywords. -/
theorem exists_leads_of_word {tokens others : List Token} {line : Nat} {word : WordSpan}
    (htokens : tokens.filter Token.significant = leadingToken line word :: others)
    (hothers : ∀ token ∈ others, token.kind ∈ argumentKinds) :
    ∃ head others, (refine tokens).filter Token.significant = head :: others ∧ Leads word head ∧
      ∀ token ∈ others, token.kind ∈ argumentKinds := by
  have hspan : (leadingToken line word).span = word := span_token ..
  have hkeyword := keyword_leadingToken line word
  have hkind := kind_leadingToken line word
  rw [← map_fst_filter_significant] at htokens
  obtain ⟨⟨head, first⟩, rest, hfilter, hhead, hrest⟩ := List.map_eq_cons_iff.1 htokens
  obtain rfl : head = leadingToken line word := hhead
  cases hknown : (leadingToken line word).keyword with
  | none =>
    -- no keyword leads the line, so that it is left as it is
    rw [hknown, Option.isSome_none, if_neg Bool.false_ne_true] at hkind
    rw [refine_of_keyword?_eq_none ((keyword?_of_filter_eq_cons hfilter).trans hknown),
      ← map_fst_filter_significant, htokens]
    refine ⟨_, _, rfl, .of_keyword hspan hkeyword (fun keyword hsome => ?_) fun _ => hkind, hothers⟩
    cases hknown.symm.trans hsome
  | some keyword =>
    rw [hknown, Option.isSome_some, if_pos rfl] at hkind
    rw [← hrest, List.forall_mem_map] at hothers
    obtain ⟨others, hrefined, hkinds⟩ := filter_refine_of_keyword hfilter hknown hothers
    refine ⟨_, others, hrefined, .of_keyword hspan hkeyword (fun other hsome => ?_) fun hnone => ?_,
      hkinds⟩
    · cases hknown.symm.trans hsome
      rw [hkind]
    · cases hknown.symm.trans hnone

/-- The first token of a configuration line that carries meaning is the whole word that leads the
line. It is a warning if it is the label of a deprecated keyword, a keyword if it is another label,
and else invalid, and it refers to the keyword whose label it is. No other token is a keyword or a
warning. (A line has no line feed, and is led by its first word, unless that begins a comment.) -/
theorem Language.keywords_only_lead (line : Nat) (text : String) :
    let tokens := (Language.ert.tokensOf line text).filter Token.significant
    Option.Rel Leads (firstLeading? 1 (splitAtChar '\n' text.toList)) tokens.head? ∧
      ∀ token ∈ tokens.tail, token.kind ≠ .keyword ∧ token.kind ≠ .warning := by
  intro tokens
  have htokens : tokens = (refine (ertGrammar.tokensOf line text)).filter Token.significant := rfl
  have hled := ledBy_tokensOf line text
  generalize firstLeading? 1 (splitAtChar '\n' text.toList) = leading at hled ⊢
  generalize hsignificant : (ertGrammar.tokensOf line text).filter Token.significant = significant
    at hled
  -- a line that no word leads has no token that carries meaning
  cases hled with
  | nothing =>
    rw [htokens, refine_of_keyword?_eq_none (keyword?_of_filter_eq_nil hsignificant), hsignificant]
    exact ⟨.none, List.forall_mem_nil _⟩
  | word hbehind column rest =>
    obtain ⟨head, others, hrefined, hleads, hkinds⟩ :=
      exists_leads_of_word hsignificant (kind_of_behind hbehind line column rest)
    rw [htokens, hrefined]
    exact ⟨.some hleads, fun token htoken => mem_argumentKinds_iff.1 (hkinds token htoken)⟩

end EnsembleDesk
