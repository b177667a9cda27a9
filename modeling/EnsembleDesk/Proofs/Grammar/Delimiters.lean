import EnsembleDesk.Line.Argument
import EnsembleDesk.Proofs.Grammar.ArgumentModes
/-!
# The delimiters that modes yield

A rule yields a delimiter for a single character, or for the colon of a named parameter
(`Rule.yieldsOnly`). Where the actions of some modes lead to these modes only, until nothing but
blanks is left (`Grammar.Confines`), the tokens of what is read from them have no other delimiters:
`Grammar.Confines.isDelimiter_tokensFrom`.
-/

namespace EnsembleDesk

open LineGrammar ErtGrammar

/-- Whether the delimiters that a rule yields are among the given characters. -/
def Rule.yieldsOnly (rule : Rule) (delimiters : List Char) : Bool :=
  match rule.emit with
  | .kind kind _ => kind != .delimiter || delimiters.any fun c => rule.pattern == .char c
  | .groups kinds _ =>
    rule.pattern == namedParameter && kinds == [.predefined, .delimiter, .string] &&
      delimiters.contains ':'
  | .cases arms => arms.all (·.kind != .delimiter)

/-- If a token is a delimiter, it is one of the given characters. -/
def Token.DelimitsOnly (token : Token) (delimiters : List Char) : Prop :=
  token.kind = .delimiter → ∃ c ∈ delimiters, token.text = String.ofList [c]

/-- No token is a delimiter that is not among the given ones. -/
theorem Token.DelimitsOnly.isDelimiter {token : Token} {delimiters : List Char}
    (h : token.DelimitsOnly delimiters) {c : Char} (hc : c ∉ delimiters) :
    token.isDelimiter (String.ofList [c]) = false := by
  rw [Bool.eq_false_iff, Token.isDelimiter, ne_eq, Bool.and_eq_true, beq_iff_eq, beq_iff_eq]
  rintro ⟨hkind, htext⟩
  obtain ⟨d, hd, hsame⟩ := h hkind
  obtain rfl : d = c := by simpa [hsame] using htext
  exact hc hd

/-- The characters of tokens that cover a text are characters of the text. -/
theorem Covers.chars_subset {column : Nat} {text : List Char} {tokens : List Token}
    (h : Covers column text tokens) :
    ∀ token ∈ tokens, ∀ c ∈ token.text.toList, c ∈ text := by
  induction tokens generalizing column text with
  | nil => exact List.forall_mem_nil _
  | cons token tokens ih =>
    obtain ⟨-, -, rest, rfl, hrest⟩ := h
    refine List.forall_mem_cons.2 ⟨fun c hc => List.mem_append_left _ hc, fun next hnext c hc => ?_⟩
    exact List.mem_append_right _ (ih hrest next hnext c hc)

/-- A pattern of one character matches just that. -/
theorem Pattern.take_of_match?_char {c : Char} {text : List Char} {found : Cursor}
    (h : (char c).match? text = some found) : text.take found.offset = [c] := by
  cases text with
  | nil =>
    rw [match?, ends_char_eq_nil (fun rest heq => by cases heq)] at h
    cases h
  | cons d rest =>
    rw [match?, Cursor.first, ends_char_cons] at h
    split at h
    · rename_i heq
      cases h
      rw [heq]
      rfl
    · cases h

namespace Grammar

variable {grammar : Grammar} {line column : Nat} {stack : ModeStack} {rest : List Char}
  {rule : Rule} {delimiters : List Char}

/-- A token has the text that it is made of. -/
theorem text_token (kind : TokenKind) (text : List Char) :
    (grammar.token line column kind text).text = String.ofList text := rfl

/-- A token of another kind is no delimiter at all. -/
theorem delimitsOnly_token {kind : TokenKind} (h : kind ≠ .delimiter) (text : List Char) :
    (grammar.token line column kind text).DelimitsOnly delimiters :=
  fun hkind => absurd hkind h

/-- A match of a named parameter yields name, colon and value. -/
theorem groupTokens_of_match?_namedParameter {found : Cursor}
    (h : namedParameter.match? rest = some found) :
    ∃ name value, grammar.groupTokens line column found 1 [.predefined, .delimiter, .string] =
      grammar.namedTokens line column name value := by
  have hword : ∀ c ∈ rest.takeWhile (!isBlank ·), isBlank c = false := fun c hc => by
    simpa using List.mem_takeWhile_imp hc
  have hend : StartsWithout (!isBlank ·) (rest.dropWhile (!isBlank ·)) := .of_dropWhile _ _
  rw [← List.takeWhile_append_dropWhile (p := (!isBlank ·)) (l := rest)] at h
  generalize rest.takeWhile (!isBlank ·) = word at h hword
  generalize rest.dropWhile (!isBlank ·) = tail at h hend
  -- the word is one that can be split, since nothing would be matched otherwise
  cases hsplit : splitNamed? word with
  | none =>
    have hnone : namedParameter.match? (word ++ tail) = none := by
      by_cases hne : word = []
      · rw [hne, List.nil_append]
        exact match?_namedParameter_of_startsWithout
          (hend.mono fun c hc => by rw [isBlank_of_isNameChar hc]; rfl)
      · exact match?_namedParameter_eq_none hsplit hne hend
    cases hnone.symm.trans h
  | some parts =>
    obtain ⟨name, value⟩ := parts
    obtain ⟨hne, -, rfl⟩ := splitNamed?_eq_some_iff.1 hsplit
    have hvalue : ∀ c ∈ value, isBlank c = false := fun c hc => hword c (by simp [hc])
    obtain ⟨passed, hmatch⟩ := match?_namedParameter hsplit hvalue hend
    cases hmatch.symm.trans h
    exact ⟨name, value, groupTokens_pieces hne⟩

/-- The only delimiter of a named parameter is its colon. -/
theorem delimitsOnly_namedTokens (hcolon : ':' ∈ delimiters) (name value : List Char) :
    ∀ token ∈ grammar.namedTokens line column name value, token.DelimitsOnly delimiters := by
  rw [namedTokens, List.forall_mem_cons, List.forall_mem_cons]
  refine ⟨delimitsOnly_token (by decide) name, fun _ => ⟨':', hcolon, rfl⟩, ?_⟩
  split
  · exact List.forall_mem_nil _
  · exact List.forall_mem_singleton.2 (delimitsOnly_token (by decide) value)

/-- What a rule yields has its delimiters. -/
theorem delimitsOnly_emitted? (hrule : rule.yieldsOnly delimiters = true) {found : Cursor}
    (hfound : rule.pattern.match? rest = some found) {tokens : List Token} {action : Action}
    (h : grammar.emitted? line column found (rest.take found.offset) rule.emit =
      some (tokens, action)) : ∀ token ∈ tokens, token.DelimitsOnly delimiters := by
  cases hemit : rule.emit with
  | kind kind action =>
    rw [Rule.yieldsOnly, hemit] at hrule
    rw [hemit] at h
    cases h
    rw [List.forall_mem_singleton]
    -- a rule that yields a delimiter matches one character, which is among the given ones
    intro hkind
    obtain rfl : kind = .delimiter := hkind
    obtain ⟨c, hc, hpattern⟩ := List.any_eq_true.1 hrule
    rw [beq_iff_eq.1 hpattern] at hfound
    exact ⟨c, hc, by rw [text_token, Pattern.take_of_match?_char hfound]⟩
  | groups kinds action =>
    rw [Rule.yieldsOnly, hemit] at hrule
    simp only [Bool.and_eq_true, beq_iff_eq, List.contains_iff_mem] at hrule
    -- groups are yielded for named parameters only
    obtain ⟨⟨hpattern, rfl⟩, hcolon⟩ := hrule
    rw [hpattern] at hfound
    obtain ⟨name, value, htokens⟩ := groupTokens_of_match?_namedParameter hfound
    rw [hemit] at h
    cases h
    rw [htokens]
    exact delimitsOnly_namedTokens hcolon name value
  | cases arms =>
    rw [Rule.yieldsOnly, hemit, List.all_eq_true] at hrule
    rw [hemit] at h
    obtain ⟨arm, harm, h⟩ := Option.map_eq_some_iff.1 h
    cases h
    rw [List.forall_mem_singleton]
    exact delimitsOnly_token (by simpa using hrule arm (List.mem_of_find?_eq_some harm)) _

/-- Until nothing but blanks is left of a line, the modes are among some stacks of modes, and what
is read in them has only the given delimiters. -/
structure Confines (grammar : Grammar) (allowed : List ModeStack) (delimiters : List Char) :
    Prop where
  /-- The rules yield no other delimiters. -/
  rules : ∀ stack ∈ allowed, ∀ rule ∈ grammar.rulesOf stack.top, rule.yieldsOnly delimiters = true
  /-- The actions lead to the stacks. -/
  actions : ∀ stack ∈ allowed, ∀ rule ∈ grammar.rulesOf stack.top, ∀ action ∈ rule.emit.actions,
    (action.resolve false).apply stack ∈ allowed
  /-- A word that no rule reads is none either. -/
  default : grammar.defaultKind ≠ .delimiter

namespace Confines

variable {allowed : List ModeStack}

/-- A step in the allowed modes yields only the given delimiters, and stays in these modes unless
nothing but blanks is left. -/
theorem step (h : grammar.Confines allowed delimiters) (hstack : stack ∈ allowed)
    (line column : Nat) (c : Char) (rest : List Char) :
    (∀ token ∈ (grammar.step line column stack (c :: rest)).tokens,
        token.DelimitsOnly delimiters) ∧
      ((grammar.step line column stack (c :: rest)).stack ∈ allowed ∨
        allBlank ((c :: rest).drop (grammar.step line column stack (c :: rest)).length) =
          true) := by
  rcases step_cases grammar line column stack (c :: rest) with ⟨rule, hrule, happly⟩ | hfallback
  · obtain ⟨found, tokens, action, hfound, -, hemitted, hstep⟩ := applyRule?_eq_some happly
    rw [hstep]
    refine ⟨delimitsOnly_emitted? (h.rules stack hstack rule hrule) hfound hemitted, ?_⟩
    cases hblank : allBlank ((c :: rest).drop found.offset) with
    | true => exact .inr rfl
    | false =>
      exact .inl (h.actions stack hstack rule hrule action (mem_actions_of_emitted? hemitted))
  · rw [hfallback, fallback_cons]
    refine ⟨List.forall_mem_singleton.2 (delimitsOnly_token ?_ _), .inl hstack⟩
    split
    · decide
    · exact h.default

/-- What is read in one of the stacks has no other delimiters. -/
theorem isDelimiter_tokensFrom (h : grammar.Confines allowed delimiters)
    (hcover : grammar.RulesCover) {d : Char} (hd : d ∉ delimiters) (hblank : isBlank d = false)
    (line column : Nat) (rest : List Char) (hstack : stack ∈ allowed) :
    ∀ token ∈ grammar.tokensFrom line column stack rest,
      token.isDelimiter (String.ofList [d]) = false := by
  suffices hall : stack ∈ allowed ∨ allBlank rest = true →
      ∀ token ∈ grammar.tokensFrom line column stack rest,
        token.isDelimiter (String.ofList [d]) = false from hall (.inl hstack)
  clear hstack
  induction column, stack, rest using reading_induction grammar line with
  | hnil column stack =>
    rw [tokensFrom_nil]
    exact fun _ => List.forall_mem_nil _
  | hcons column stack c rest found hfound ih =>
    rintro (hstack | hblanks)
    · obtain ⟨htokens, hnext⟩ := hfound ▸ h.step hstack line column c rest
      rw [tokensFrom_cons hfound, List.forall_mem_append]
      exact ⟨fun token htoken => (htokens token htoken).isDelimiter hd, ih hnext⟩
    -- a delimiter would be one of the blanks
    · intro token htoken
      rw [Bool.eq_false_iff, Token.isDelimiter, ne_eq, Bool.and_eq_true, beq_iff_eq, beq_iff_eq]
      rintro ⟨-, htext⟩
      have hmem :=
        (covers_tokensFrom hcover line column stack (c :: rest)).chars_subset token htoken
        d (by simp [htext])
      rw [List.all_eq_true.1 hblanks d hmem] at hblank
      cases hblank

end Confines

end Grammar

end EnsembleDesk
