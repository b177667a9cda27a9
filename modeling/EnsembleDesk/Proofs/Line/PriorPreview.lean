import EnsembleDesk.Proofs.Density.Parameters
import EnsembleDesk.Proofs.Line.PriorLine
/-!
# Previews of lines

Whether a line has a preview depends on its tokens. In the tokens of a line of priors a number is a
numeric literal and a keyword is one of the table (`priorTokens_tokensOf`), so the numbers of a line
that defines a prior can be read (`mapM_number?`), and they are as many as its keyword needs.

## Main results

* `previewOfTokens_eq_build`: the preview of a line that defines a prior is that of its keyword with
  the numbers of the line;
* `previewOfTokens_tokensOf`: which lines have a preview, which error others have, and which lines
  stop the program because they ask for more bins than there is memory for.
-/

namespace EnsembleDesk

open Schema EnsembleDesk.Language

/-- A token of a line of priors: its keyword is one of the table, and if it is a number, it is
written like one. -/
structure PriorToken (token : Token) : Prop where
  /-- Keywords are those of the table. -/
  keyword : ∀ keyword, token.keyword = some keyword → keyword ∈ distKeywords
  /-- Numbers are numeric literals. -/
  number : token.kind = .number → isNumericLiteral token.text = true

/-! ### The tokens of a line -/

/-- Every number that a rule yields is a numeric literal. No rule of the grammar of priors yields
tokens for groups. -/
def Emit.Numeric : Emit → Prop
  | .kind yielded _ => yielded ≠ .number
  | .groups _ _ => False
  | .cases arms => ∀ arm ∈ arms, arm.kind = .number → arm.matcher = .predicate isNumericLiteral

/-- Whether a rule yields no numbers. -/
def Emit.isFreeOfNumbers : Emit → Bool
  | .kind yielded _ => yielded != .number
  | .groups _ _ => false
  | .cases arms => arms.all (·.kind != .number)

/-- A rule that yields no numbers yields numeric literals only. -/
theorem Emit.Numeric.of_isFreeOfNumbers {emit : Emit} (h : emit.isFreeOfNumbers = true) :
    emit.Numeric := by
  cases emit with
  | kind yielded action => exact bne_iff_ne.1 h
  | groups yielded action => cases h
  | cases arms =>
    exact fun arm harm heq => absurd heq (bne_iff_ne.1 (List.all_eq_true.1 h arm harm))

/-- A token of the grammar of priors has a keyword of the table, and is a numeric literal if it is a
number, since only words that are one are made numbers. -/
theorem priorToken_token {line column : Nat} {kind : TokenKind} {text : List Char}
    (h : kind = .number → isNumericLiteral (String.ofList text) = true) :
    PriorToken (distGrammar.token line column kind text) := by
  refine ⟨fun keyword hkeyword => ?_, h⟩
  have hfind : (if kind = .keyword ∨ kind = .warning then
      Keyword.find? distGrammar.keywords (String.ofList text) else none) = some keyword := hkeyword
  split at hfind
  · exact List.mem_of_find?_eq_some hfind
  · cases hfind

/-- Every number that a rule of the grammar of priors yields is a numeric literal. -/
theorem numeric_of_mem_rulesOf {mode : Mode} {rule : Rule} (h : rule ∈ distGrammar.rulesOf mode) :
    rule.emit.Numeric := by
  have hall : (Mode.all.all fun mode => mode == .afterKeyword ||
      (distGrammar.rulesOf mode).all (·.emit.isFreeOfNumbers)) = true := by decide +kernel
  have hmode := List.all_eq_true.1 hall mode (Mode.mem_all mode)
  rw [Bool.or_eq_true, beq_iff_eq] at hmode
  rcases hmode with rfl | hfree
  -- numbers are yielded behind the keyword only
  · have hrules : distGrammar.rulesOf .afterKeyword = LineGrammar.wordRules
        [⟨.predicate isNumericLiteral, .number, LineGrammar.endAtLineEnd⟩,
          LineGrammar.anyWord .identifier LineGrammar.endAtLineEnd] := rfl
    rw [hrules, LineGrammar.wordRules] at h
    simp only [List.mem_cons, List.not_mem_nil, or_false] at h
    rcases h with rfl | rfl | rfl <;> simp [Emit.Numeric, LineGrammar.anyWord]
  · exact .of_isFreeOfNumbers (List.all_eq_true.1 hfree rule h)

/-- All tokens that a match of such a rule yields are tokens of a line of priors. -/
theorem priorToken_emitted? {line column : Nat} {found : Cursor} {text : List Char} {emit : Emit}
    (hemit : emit.Numeric) {tokens : List Token} {action : Action}
    (h : distGrammar.emitted? line column found text emit = some (tokens, action)) :
    ∀ token ∈ tokens, PriorToken token := by
  cases emit with
  | kind yielded action =>
    cases h
    rw [List.forall_mem_singleton]
    exact priorToken_token fun hnumber => absurd hnumber hemit
  | groups yielded action => exact hemit.elim
  | cases arms =>
    obtain ⟨arm, harm, h⟩ := Option.map_eq_some_iff.1 h
    cases h
    rw [List.forall_mem_singleton]
    refine priorToken_token fun hnumber => ?_
    have haccepts := List.find?_some harm
    rw [hemit arm (List.mem_of_find?_eq_some harm) hnumber] at haccepts
    exact haccepts

/-- The tokens of every line are tokens of a line of priors. -/
theorem priorToken_tokensOf (n : Nat) (line : String) :
    ∀ token ∈ Language.dist.tokensOf n line, PriorToken token := by
  refine Grammar.forall_tokensFrom distGrammar n (fun column stack c rest => ?_) 1 _ _
  rcases Grammar.step_cases distGrammar n column stack (c :: rest) with
    ⟨rule, hrule, happly⟩ | hfallback
  · obtain ⟨found, tokens, action, -, -, hemitted, hstep⟩ := Grammar.applyRule?_eq_some happly
    rw [hstep]
    exact priorToken_emitted? (numeric_of_mem_rulesOf hrule) hemitted
  -- what no rule reads is white space or a name
  · rw [hfallback, Grammar.fallback_cons, List.forall_mem_singleton]
    refine priorToken_token fun hnumber => ?_
    split at hnumber <;> cases hnumber

/-! ### Reading the numbers -/

/-- A numeric literal is read as a finite number. -/
theorem exists_number_of_isNumericLiteral {token : Token}
    (h : isNumericLiteral token.text = true) :
    ∃ x, token.number? = some x ∧ x.isFinite = true := by
  rw [isNumericLiteral] at h
  rw [Token.number?]
  split at h
  · cases h
  · rename_i c rest htext
    obtain ⟨x, hx⟩ := Option.isSome_iff_exists.1 (Bool.and_eq_true_iff.1 h).2
    rw [htext]
    exact ⟨x, (Option.filter_eq_some_iff.1 hx).1, (Option.filter_eq_some_iff.1 hx).2⟩

/-- The numbers of a line can be read, and are finite. -/
theorem mapM_number? {tokens : List Token} (h : ∀ token ∈ tokens, PriorToken token)
    (hkind : ∀ token ∈ tokens, token.kind = .number) :
    ∃ numbers, tokens.mapM Token.number? = some numbers ∧ numbers.length = tokens.length ∧
      ∀ x ∈ numbers, x.isFinite = true := by
  induction tokens with
  | nil => exact ⟨[], rfl, rfl, List.forall_mem_nil _⟩
  | cons token tokens ih =>
    obtain ⟨htoken, htokens⟩ := List.forall_mem_cons.1 h
    obtain ⟨hnumber, hnumbers⟩ := List.forall_mem_cons.1 hkind
    obtain ⟨x, hx, hfinite⟩ := exists_number_of_isNumericLiteral (htoken.number hnumber)
    obtain ⟨numbers, hread, hlength, hall⟩ := ih htokens hnumbers
    refine ⟨x :: numbers, ?_, congrArg (· + 1) hlength, List.forall_mem_cons.2 ⟨hfinite, hall⟩⟩
    rw [List.mapM_cons, hx, hread]
    rfl

/-! ### Lines that define a prior -/

/-- The keyword of a line that defines a prior is one of the table, and the numbers behind it are
all numbers of the line. -/
theorem PriorLine.of_ofTokens? {tokens : List Token} (h : ∀ token ∈ tokens, PriorToken token)
    {prior : PriorLine} (hprior : PriorLine.ofTokens? tokens = some prior) :
    prior.keyword ∈ distKeywords ∧ prior.keyword.arity = prior.numbers.length ∧
      prior.numbers = tokens.filter (·.kind = .number) := by
  rw [PriorLine.ofTokens?] at hprior
  split at hprior
  case h_2 => cases hprior
  case h_1 name head numbers hsignificant =>
    split at hprior
    case h_2 => cases hprior
    case h_1 keyword hkeyword =>
      split at hprior
      case isFalse => cases hprior
      case isTrue hkinds =>
        obtain rfl := Option.some.inj hprior
        obtain ⟨hname, hhead, harity, hnumbers⟩ := hkinds
        have hmem : head ∈ tokens.filter Token.significant := by
          rw [hsignificant]
          exact List.mem_cons_of_mem _ List.mem_cons_self
        refine ⟨(h head (List.mem_of_mem_filter hmem)).keyword keyword hkeyword, harity, ?_⟩
        -- numbers carry meaning, and neither the name nor the keyword is one
        have hnumber : ∀ token : Token, (decide (token.kind = .number) && token.significant) =
            decide (token.kind = .number) := by
          intro token
          rw [Token.significant]
          cases token.kind <;> rfl
        have hall : numbers.filter (·.kind = .number) = numbers :=
          List.filter_eq_self.2 fun token htoken => List.all_eq_true.1 hnumbers token htoken
        rw [← List.filter_congr fun token _ => hnumber token, ← List.filter_filter, hsignificant,
          List.filter_cons_of_neg (by simp [hname]), List.filter_cons_of_neg (by simp [hhead]),
          hall]

/-- The preview of a line that defines a prior is made of its keyword and its numbers. -/
theorem previewOfTokens_eq_build {tokens : List Token} (h : ∀ token ∈ tokens, PriorToken token)
    {prior : PriorLine} (hprior : PriorLine.ofTokens? tokens = some prior) :
    ∃ numbers, (tokens.filter (·.kind = .number)).mapM Token.number? = some numbers ∧
      numbers.length = prior.keyword.arity ∧ (∀ x ∈ numbers, x.isFinite = true) ∧
      previewOfTokens tokens =
        Preview.build prior.keyword.label (numbers.map Binary64.toFloat) := by
  obtain ⟨-, harity, hnumbers⟩ := PriorLine.of_ofTokens? h hprior
  obtain ⟨numbers, hread, hlength, hfinite⟩ :=
    mapM_number? (fun token htoken => h token (List.mem_of_mem_filter htoken))
      (fun token htoken => of_decide_eq_true (List.mem_filter.1 htoken).2)
  refine ⟨numbers, hread, ?_, hfinite, ?_⟩
  · rw [hlength, harity, hnumbers]
  · rw [← hnumbers] at hread
    rw [previewOfTokens, hprior]
    simp only [hread]

/-- As many numbers as a keyword counts make a distribution or are refused; only one keyword has no
density. -/
theorem exists_ofPrior? {keyword : Keyword} (hkeyword : keyword ∈ distKeywords)
    (hraw : keyword.label ≠ "RAW") {numbers : List Float}
    (hlength : numbers.length = keyword.arity) :
    ∃ result, Distribution.ofPrior? keyword.label numbers = some result := by
  have htable : ∀ keyword ∈ distKeywords, keyword.label ≠ "RAW" →
      (keyword.label, keyword.arity) ∈ [("NORMAL", 2), ("LOGNORMAL", 2), ("TRUNCATED_NORMAL", 4),
        ("UNIFORM", 2), ("LOGUNIF", 2), ("CONST", 1), ("DUNIF", 3), ("ERRF", 4), ("DERRF", 5),
        ("TRIANGULAR", 3)] := by decide +kernel
  have hentry := htable keyword hkeyword hraw
  generalize keyword.label = label at hentry
  generalize keyword.arity = arity at hentry hlength
  simp only [List.mem_cons, List.not_mem_nil, or_false, Prod.mk.injEq] at hentry
  rcases hentry with ⟨rfl, rfl⟩ | ⟨rfl, rfl⟩ | ⟨rfl, rfl⟩ | ⟨rfl, rfl⟩ | ⟨rfl, rfl⟩ | ⟨rfl, rfl⟩ |
    ⟨rfl, rfl⟩ | ⟨rfl, rfl⟩ | ⟨rfl, rfl⟩ | ⟨rfl, rfl⟩
  -- the list has the length that the keyword counts, or it is not the list
  all_goals
    rcases numbers with _ | ⟨a, _ | ⟨b, _ | ⟨c, _ | ⟨d, _ | ⟨e, _ | ⟨f, rest⟩⟩⟩⟩⟩⟩ <;>
      first
      | exact ⟨_, rfl⟩
      | simp at hlength

/-! ### The preview of a line -/

/-- What the preview of a line shows, whose keyword has a density: the distribution that the
constructor of its family makes of the numbers of the line, or why it makes none. -/
structure PreviewShows (tokens : List Token) (label : String) (numbers : List Binary64) : Prop where
  /-- The numbers are those of the line, in order. -/
  read : (tokens.filter (·.kind = .number)).mapM Token.number? = some numbers
  /-- They are finite. -/
  finite : ∀ x ∈ numbers, x.isFinite = true
  /-- The constructor gets them in this order. -/
  constructed : ∃ result,
    Distribution.ofPrior? label (numbers.map Binary64.toFloat) = some result ∧
      (previewOfTokens tokens).map Preview.distribution = result.mapError (.map .parameters)
  /-- There is a preview if and only if the numbers fit the keyword and the memory. -/
  ok_iff : (∃ preview, previewOfTokens tokens = .ok preview) ↔
    Distribution.Fits label numbers ∧ Distribution.FitsMemory label numbers
  /-- The program stops if the numbers fit the keyword, but not the memory. -/
  outOfMemory_iff : previewOfTokens tokens = .error .outOfMemory ↔
    Distribution.Fits label numbers ∧ ¬ Distribution.FitsMemory label numbers
  /-- No number is refused for being infinite or NaN. -/
  ne_notFinite : ∀ name, previewOfTokens tokens ≠ .error (.error (.parameters (.notFinite name)))

/-- Nothing is shown of a line that defines no prior. -/
theorem previewOfTokens_of_none {tokens : List Token} (h : PriorLine.ofTokens? tokens = none) :
    previewOfTokens tokens = .error (.error .invalid) := by
  rw [previewOfTokens, h]

/-- Samples that are given one by one have no density that could be shown. -/
theorem previewOfTokens_of_raw {tokens : List Token} (h : ∀ token ∈ tokens, PriorToken token)
    {prior : PriorLine} (hprior : PriorLine.ofTokens? tokens = some prior)
    (hraw : prior.keyword.label = "RAW") :
    previewOfTokens tokens = .error (.error (.notPlottable "RAW")) := by
  obtain ⟨numbers, -, -, -, hbuild⟩ := previewOfTokens_eq_build h hprior
  rw [hbuild, hraw]
  rfl

/-- A preview that shows a distribution is one, and a refused distribution is no preview. -/
theorem exists_ok_iff_of_map {preview : Except (Failure (PreviewError Float)) (Preview Float)}
    {result : Except (Failure (ParameterError Float)) (Distribution Float)}
    (h : preview.map Preview.distribution = result.mapError (.map .parameters)) :
    (∃ value, preview = .ok value) ↔ ∃ d, result = .ok d := by
  cases preview with
  | error error =>
    cases result with
    | error other => simp
    | ok d => cases h
  | ok value =>
    cases result with
    | error other => cases h
    | ok d => exact iff_of_true ⟨value, rfl⟩ ⟨d, rfl⟩

/-- What goes wrong with a preview went wrong with its distribution. -/
theorem eq_error_iff_of_map {preview : Except (Failure (PreviewError Float)) (Preview Float)}
    {result : Except (Failure (ParameterError Float)) (Distribution Float)}
    (h : preview.map Preview.distribution = result.mapError (.map .parameters))
    {failure : Failure (PreviewError Float)} :
    preview = .error failure ↔
      ∃ cause, result = .error cause ∧ failure = cause.map .parameters := by
  cases preview with
  | error error =>
    cases result with
    | error cause =>
      obtain rfl : error = cause.map .parameters := Except.error.inj h
      simp [eq_comm]
    | ok d => cases h
  | ok value =>
    cases result with
    | error cause => cases h
    | ok d => simp

/-- The numbers of a line that defines a prior with a density are read, and decided on. -/
theorem previewShows {tokens : List Token} (h : ∀ token ∈ tokens, PriorToken token)
    {prior : PriorLine} (hprior : PriorLine.ofTokens? tokens = some prior)
    (hraw : prior.keyword.label ≠ "RAW") :
    ∃ numbers, PreviewShows tokens prior.keyword.label numbers := by
  obtain ⟨hkeyword, -, -⟩ := PriorLine.of_ofTokens? h hprior
  obtain ⟨numbers, hread, hlength, hfinite, hbuild⟩ := previewOfTokens_eq_build h hprior
  rw [← List.length_map Binary64.toFloat] at hlength
  obtain ⟨result, hresult⟩ := exists_ofPrior? hkeyword hraw hlength
  have hmap := Preview.map_distribution_build hresult
  rw [← hbuild] at hmap
  have hdecides := Distribution.decides_ofPrior? hfinite hresult
  -- a preview fails as its distribution does, and has one otherwise
  refine ⟨numbers, hread, hfinite, ⟨result, hresult, hmap⟩,
    (exists_ok_iff_of_map hmap).trans hdecides.ok_iff, ?_, fun name herror => ?_⟩
  · rw [← hdecides.outOfMemory_iff, eq_error_iff_of_map hmap]
    constructor
    · rintro ⟨cause | -, hcause, heq⟩
      · cases heq
      · exact hcause
    · exact fun hstops => ⟨.outOfMemory, hstops, rfl⟩
  · obtain ⟨cause | -, hcause, heq⟩ := (eq_error_iff_of_map hmap).1 herror
    · cases heq
      exact hdecides.ne_notFinite name hcause
    · cases heq

/-- A line has no preview if it defines no prior, and none either if its keyword has no density.
Otherwise its numbers make the distribution of its keyword, or are refused, but never for being
infinite or NaN, or ask for so many bins that the program stops. -/
theorem previewOfTokens_tokensOf (n : Nat) (line : String) :
    (previewOfTokens (Language.dist.tokensOf n line) = .error (.error .invalid) ↔
        definesPrior (Language.dist.tokensOf n line) = false) ∧
      (∀ label,
        previewOfTokens (Language.dist.tokensOf n line) = .error (.error (.notPlottable label)) ↔
        label = "RAW" ∧ ∃ prior, PriorLine.ofTokens? (Language.dist.tokensOf n line) = some prior ∧
          prior.keyword.label = "RAW") ∧
      ∀ prior, PriorLine.ofTokens? (Language.dist.tokensOf n line) = some prior →
        prior.keyword.label ≠ "RAW" →
        ∃ numbers, PreviewShows (Language.dist.tokensOf n line) prior.keyword.label numbers := by
  have htokens := priorToken_tokensOf n line
  generalize Language.dist.tokensOf n line = tokens at htokens
  -- there is no prior, or one without a density, or one whose numbers are decided on
  cases hprior : PriorLine.ofTokens? tokens with
  | none =>
    have hpreview := previewOfTokens_of_none hprior
    rw [definesPrior, hprior, hpreview]
    simp
  | some prior =>
    have hdefines : definesPrior tokens = true := by rw [definesPrior, hprior]; rfl
    rw [hdefines]
    by_cases hraw : prior.keyword.label = "RAW"
    · rw [previewOfTokens_of_raw htokens hprior hraw]
      refine ⟨by simp, fun label => ?_, fun other hother hplottable => ?_⟩
      · simp [hraw, eq_comm]
      · obtain rfl := Option.some.inj hother
        exact absurd hraw hplottable
    · obtain ⟨numbers, hshows⟩ := previewShows htokens hprior hraw
      obtain ⟨result, -, hmap⟩ := hshows.constructed
      refine ⟨?_, fun label => ?_, fun other hother _ => ?_⟩
      · refine iff_of_false (fun herror => ?_) (by simp)
        obtain ⟨cause | -, -, heq⟩ := (eq_error_iff_of_map hmap).1 herror <;> cases heq
      · refine iff_of_false (fun herror => ?_) (by simp [hraw])
        obtain ⟨cause | -, -, heq⟩ := (eq_error_iff_of_map hmap).1 herror <;> cases heq
      · obtain rfl := Option.some.inj hother
        exact ⟨numbers, hshows⟩

/-- A grid of five points has a preview, a grid of two and a half has none, and nothing is shown of
a line that lacks a number. -/
theorem previewOfTokens_gridLines :
    (∃ preview, previewOfTokens (Language.dist.tokensOf 1 "poro DUNIF 5 0 1") = .ok preview) ∧
      (¬ ∃ preview, previewOfTokens (Language.dist.tokensOf 1 "poro DUNIF 2.5 0 1") = .ok preview) ∧
      previewOfTokens (Language.dist.tokensOf 1 "poro DUNIF 5 0") = .error (.error .invalid) := by
  have hgrid : ∀ line numbers,
      (PriorLine.ofTokens? (Language.dist.tokensOf 1 line)).map (·.keyword.label) = some "DUNIF" →
      ((Language.dist.tokensOf 1 line).filter (·.kind = .number)).mapM Token.number? =
        some numbers →
      ((∃ preview, previewOfTokens (Language.dist.tokensOf 1 line) = .ok preview) ↔
        Distribution.Fits "DUNIF" numbers ∧ Distribution.FitsMemory "DUNIF" numbers) := by
    intro line numbers hlabel hnumbers
    obtain ⟨prior, hprior, hlabel⟩ := Option.map_eq_some_iff.1 hlabel
    obtain ⟨read, hshows⟩ := (previewOfTokens_tokensOf 1 line).2.2 prior hprior (by simp [hlabel])
    obtain rfl := Option.some.inj (hshows.read.symm.trans hnumbers)
    rw [hshows.ok_iff, hlabel]
  refine ⟨?_, ?_, ?_⟩
  · refine (hgrid "poro DUNIF 5 0 1" [5, 0, 1] (by decide +kernel) (by decide +kernel)).2 ⟨?_, ?_⟩
    · exact ⟨by decide +kernel, .inr ⟨by decide +kernel, by decide +kernel⟩⟩
    · have hroom : (5 : Binary64).truncated < 2 ^ 60 := by decide +kernel
      exact hroom
  · rw [hgrid "poro DUNIF 2.5 0 1" [2.5, 0, 1] (by decide +kernel) (by decide +kernel)]
    rintro ⟨⟨-, hone | ⟨-, hinteger⟩⟩, -⟩
    · exact absurd hone (by decide +kernel)
    · exact absurd hinteger (by decide +kernel)
  · exact (previewOfTokens_tokensOf 1 "poro DUNIF 5 0").1.2 (by decide +kernel)

/-- A line that defines a prior and whose numbers fit its keyword may have neither a preview nor an
error: a grid of `10 ^ 30` points stops the program. -/
theorem previewOfTokens_beyondMemory :
    definesPrior (Language.dist.tokensOf 1 "X DUNIF 1e30 0 1") = true ∧
      ((Language.dist.tokensOf 1 "X DUNIF 1e30 0 1").filter (·.kind = .number)).mapM
        Token.number? = some [1e30, 0, 1] ∧
      Distribution.Fits "DUNIF" [1e30, 0, 1] ∧
      previewOfTokens (Language.dist.tokensOf 1 "X DUNIF 1e30 0 1") = .error .outOfMemory := by
  have hread : ((Language.dist.tokensOf 1 "X DUNIF 1e30 0 1").filter (·.kind = .number)).mapM
      Token.number? = some [1e30, 0, 1] := by decide +kernel
  have hfits : Distribution.Fits "DUNIF" [1e30, 0, 1] :=
    ⟨by decide +kernel, .inr ⟨by decide +kernel, by decide +kernel⟩⟩
  have hmany : ¬ (1e30 : Binary64).truncated < 2 ^ 60 := by decide +kernel
  have hlabel : (PriorLine.ofTokens? (Language.dist.tokensOf 1 "X DUNIF 1e30 0 1")).map
      (·.keyword.label) = some "DUNIF" := by decide +kernel
  obtain ⟨prior, hprior, hlabel⟩ := Option.map_eq_some_iff.1 hlabel
  obtain ⟨numbers, hshows⟩ := previewShows (priorToken_tokensOf 1 _) hprior (by simp [hlabel])
  obtain rfl := Option.some.inj (hshows.read.symm.trans hread)
  rw [hlabel] at hshows
  exact ⟨by rw [definesPrior, hprior]; rfl, hread, hfits, hshows.outOfMemory_iff.2 ⟨hfits, hmany⟩⟩

end EnsembleDesk
