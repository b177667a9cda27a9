import EnsembleDesk.Proofs.Grammar.Delimiters
import EnsembleDesk.Proofs.Pattern.Runs
/-!
# The kinds of tokens that modes yield

A rule yields tokens of few kinds (`Emit.kinds`). Where the actions of some modes lead to these
modes only, until nothing but blanks is left, and blanks are skipped in every mode, the tokens that
carry meaning are of the kinds that the rules of these modes yield:
`Grammar.Confines.kind_tokensFrom`.
-/

namespace EnsembleDesk

open LineGrammar

/-- The kinds of the tokens that a match may yield. -/
def Emit.kinds : Emit → List TokenKind
  | .kind single _ => [single]
  | .groups each _ => each
  | .cases arms => arms.map (·.kind)

/-- Whether a rule can be seen to skip blanks: it reads spaces and tabs, or begins with no blank. -/
def Rule.skips (rule : Rule) : Bool :=
  rule.pattern.beginning?.any CharSet.avoidsBlanks ||
    match rule.emit with
    | .kind kind action => rule.pattern == spaces && kind == .white && action == {}
    | _ => false

theorem Rule.skipsBlanks_of_skips {rule : Rule} (h : rule.skips = true) : rule.SkipsBlanks := by
  obtain ⟨pattern, emit⟩ := rule
  rcases Bool.or_eq_true_iff.1 h with hbeginning | hspaces
  · exact .inr fun c rest hc => Pattern.matchLength?_of_blank hbeginning hc rest
  · cases emit with
    | kind kind action =>
      simp only [Bool.and_eq_true, beq_iff_eq] at hspaces
      obtain ⟨⟨rfl, rfl⟩, rfl⟩ := hspaces
      exact .inl rfl
    | _ => cases hspaces

namespace Grammar

variable {grammar : Grammar} {line column : Nat} {stack : ModeStack} {rest : List Char}

/-! ### One step -/

theorem kind_of_mem_groupTokens {found : Cursor} {kinds : List TokenKind} {index : Nat} :
    ∀ token ∈ grammar.groupTokens line column found index kinds, token.kind ∈ kinds := by
  induction kinds generalizing index with
  | nil => exact List.forall_mem_nil _
  | cons kind kinds ih =>
    intro token htoken
    rw [groupTokens] at htoken
    split at htoken
    · rcases List.mem_cons.1 htoken with rfl | htoken
      · exact List.mem_cons_self
      · exact List.mem_cons_of_mem _ (ih token htoken)
    · exact List.mem_cons_of_mem _ (ih token htoken)

theorem kind_of_emitted? {found : Cursor} {matched : List Char} {emit : Emit}
    {tokens : List Token} {action : Action}
    (h : grammar.emitted? line column found matched emit = some (tokens, action)) :
    ∀ token ∈ tokens, token.kind ∈ emit.kinds := by
  cases emit with
  | kind kind action =>
    cases h
    exact List.forall_mem_singleton.2 (List.mem_singleton_self kind)
  | groups kinds action =>
    cases h
    exact kind_of_mem_groupTokens
  | cases arms =>
    obtain ⟨arm, harm, h⟩ := Option.map_eq_some_iff.1 h
    cases h
    exact List.forall_mem_singleton.2 (List.mem_map_of_mem (List.mem_of_find?_eq_some harm))

/-- The tokens of a step are of kinds that the rules of the mode yield, or those of the fallback. -/
theorem kind_step (grammar : Grammar) (line column : Nat) (stack : ModeStack) (c : Char)
    (rest : List Char) :
    ∀ token ∈ (grammar.step line column stack (c :: rest)).tokens,
      token.kind ∈ (grammar.rulesOf stack.top).flatMap (·.emit.kinds) ∨
        token.kind = .white ∨ token.kind = grammar.defaultKind := by
  rcases step_cases grammar line column stack (c :: rest) with ⟨rule, hrule, happly⟩ | hfallback
  · obtain ⟨found, tokens, action, -, -, hemitted, hstep⟩ := applyRule?_eq_some happly
    rw [hstep]
    exact fun token htoken =>
      .inl (List.mem_flatMap.2 ⟨rule, hrule, kind_of_emitted? hemitted token htoken⟩)
  · rw [hfallback, fallback_cons, List.forall_mem_singleton]
    refine .inr ?_
    split
    · exact .inl rfl
    · exact .inr rfl

/-! ### The rest of a line -/

/-- Where blanks are skipped in every mode, the tokens that carry meaning and are read in one of the
stacks are of kinds that are yielded in them. -/
theorem Confines.kind_tokensFrom {allowed : List ModeStack} {delimiters : List Char}
    (h : grammar.Confines allowed delimiters)
    (hskips : ∀ mode, ∀ rule ∈ grammar.rulesOf mode, rule.SkipsBlanks) {kinds : List TokenKind}
    (hkinds : ∀ stack ∈ allowed, ∀ rule ∈ grammar.rulesOf stack.top, ∀ kind ∈ rule.emit.kinds,
      kind ∈ kinds)
    (hdefault : grammar.defaultKind ∈ kinds) (hstack : stack ∈ allowed) (line column : Nat)
    (rest : List Char) :
    ∀ token ∈ (grammar.tokensFrom line column stack rest).filter Token.significant,
      token.kind ∈ kinds := by
  induction column, stack, rest using reading_induction grammar line with
  | hnil column stack =>
    rw [tokensFrom_nil]
    exact List.forall_mem_nil _
  | hcons column stack c rest found hfound ih =>
    rw [tokensFrom_cons hfound, List.filter_append, List.forall_mem_append]
    constructor
    · intro token htoken
      obtain ⟨hmem, hsignificant⟩ := List.mem_filter.1 htoken
      -- a token is of a kind of a rule, or white space, or of the default kind
      rcases kind_step grammar line column stack c rest token (hfound ▸ hmem) with
        hkind | hwhite | hkind
      · obtain ⟨rule, hrule, hkind⟩ := List.mem_flatMap.1 hkind
        exact hkinds stack hstack rule hrule _ hkind
      · rw [Token.significant, hwhite] at hsignificant
        cases hsignificant
      · exact hkind ▸ hdefault
    · -- the modes stay among the stacks, or nothing is read that carries meaning
      rcases hfound ▸ (h.step hstack line column c rest).2 with hnext | hblank
      · exact ih hnext
      · rw [significant_of_blank (hskips _) _ _ (List.dropWhile_eq_nil_iff.2
          (List.all_eq_true.1 hblank))]
        exact List.forall_mem_nil _

end Grammar

end EnsembleDesk
