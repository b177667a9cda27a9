import EnsembleDesk.Proofs.Grammar.Reading
import Mathlib.Data.List.Chain
/-!
# Tokens cover a line

The tokens of a line are not empty, follow one another without gaps and make up the line. Every step
of the reading of a line covers what it takes (`Grammar.covers_step`), as every rule does whose
match yields one token or is cut into numbered groups (`Rule.Covers`), and so does the fallback; the
steps of a line then cover the line (`Grammar.covers_tokensFrom`).
-/

namespace EnsembleDesk

/-! ### Covering a text -/

/-- Tokens cover a text whose first character stands in a column: no token is empty, each begins
where the one before it ends, and together they make up the text. -/
def Covers : (column : Nat) → (text : List Char) → List Token → Prop
  | _, text, [] => text = []
  | column, text, token :: tokens =>
    token.start = column ∧ token.text ≠ "" ∧
      ∃ rest, text = token.text.toList ++ rest ∧ Covers (column + token.text.length) rest tokens

namespace Covers

variable {column : Nat} {text : List Char} {tokens : List Token}

/-- Tokens that cover a text and those that cover the text behind it cover both. -/
theorem append (h : Covers column text tokens) {more : List Char} {others : List Token}
    (hmore : Covers (column + text.length) more others) :
    Covers column (text ++ more) (tokens ++ others) := by
  induction tokens generalizing column text with
  | nil =>
    obtain rfl : text = [] := h
    exact hmore
  | cons token tokens ih =>
    obtain ⟨hstart, hne, rest, rfl, hrest⟩ := h
    refine ⟨hstart, hne, rest ++ more, List.append_assoc .., ih hrest ?_⟩
    rwa [List.length_append, String.length_toList, ← Nat.add_assoc] at hmore

/-- No token that covers a text is empty. -/
theorem text_ne_empty (h : Covers column text tokens) : ∀ token ∈ tokens, token.text ≠ "" := by
  induction tokens generalizing column text with
  | nil => exact fun _ hmem => absurd hmem List.not_mem_nil
  | cons token tokens ih =>
    obtain ⟨-, hne, rest, -, hrest⟩ := h
    exact List.forall_mem_cons.2 ⟨hne, ih hrest⟩

/-- The tokens that cover a text make it up. -/
theorem toList_join (h : Covers column text tokens) :
    (String.join (tokens.map Token.text)).toList = text := by
  induction tokens generalizing column text with
  | nil => exact h.symm
  | cons token tokens ih =>
    obtain ⟨-, -, rest, rfl, hrest⟩ := h
    rw [List.map_cons, String.join_cons, String.toList_append, ih hrest]

/-- Each token begins where the one before it ends. -/
theorem isChain (h : Covers column text tokens) :
    tokens.IsChain fun token next => next.start = token.stop := by
  induction tokens generalizing column text with
  | nil => exact .nil
  | cons token tokens ih =>
    obtain ⟨hstart, -, rest, -, hrest⟩ := h
    cases tokens with
    | nil => exact .singleton token
    | cons next tokens => exact .cons_cons (hrest.1.trans (hstart ▸ rfl)) (ih hrest)

/-- The last token ends where the text does. -/
theorem stop_getLast? (h : Covers column text tokens) (htext : text ≠ []) :
    tokens.getLast?.map Token.stop = some (column + text.length) := by
  induction tokens generalizing column text with
  | nil => exact absurd h htext
  | cons token tokens ih =>
    obtain ⟨hstart, -, rest, rfl, hrest⟩ := h
    cases tokens with
    | nil =>
      obtain rfl : rest = [] := hrest
      simp [Token.stop, hstart, ← String.length_toList]
    | cons next tokens =>
      -- another token follows, so there is more text
      have hne : rest ≠ [] := by
        obtain ⟨-, hne, more, rfl, -⟩ := hrest
        simp [hne]
      rw [List.getLast?_cons_cons, ih hrest hne, List.length_append, String.length_toList,
        Nat.add_assoc]

end Covers

/-- What it means that tokens cover a line. -/
structure CoversLine (line : String) (tokens : List Token) : Prop where
  /-- No token is empty. -/
  nonempty : ∀ token ∈ tokens, token.text ≠ ""
  /-- The tokens make up the line. -/
  joined : String.join (tokens.map Token.text) = line
  /-- The first token begins in the first column. -/
  first : tokens.head?.map Token.start = some 1
  /-- Every other token begins where the one before it ends. -/
  chained : tokens.IsChain fun token next => next.start = token.stop
  /-- The last token ends at the end of the line. -/
  last : tokens.getLast?.map Token.stop = some (line.length + 1)

/-- Tokens that cover the text of a line from its first column on cover the line. -/
theorem Covers.coversLine {line : String} {tokens : List Token}
    (h : Covers 1 line.toList tokens) (hline : line ≠ "") : CoversLine line tokens where
  nonempty := h.text_ne_empty
  joined := String.toList_inj.1 h.toList_join
  first := by
    cases tokens with
    | nil => exact absurd (String.toList_eq_nil_iff.1 h) hline
    | cons token tokens => exact congrArg some h.1
  chained := h.isChain
  last := by
    rw [h.stop_getLast? fun hnil => hline (String.toList_eq_nil_iff.1 hnil),
      String.length_toList, Nat.add_comm]

/-! ### Reading at one place -/

/-- Whether a match of a rule yields one token, and not one for each group. -/
def Emit.isWhole : Emit → Bool
  | .kind _ _ => true
  | .cases _ => true
  | .groups _ _ => false

/-- Where a rule yields a token for each group, its pattern consists of that many groups. -/
def Rule.Covers (rule : Rule) : Prop :=
  ∀ kinds action, rule.emit = .groups kinds action → rule.pattern.Sections kinds.length

/-- A rule that yields one token covers its match. -/
theorem Rule.covers_of_isWhole {rule : Rule} (h : rule.emit.isWhole = true) : rule.Covers := by
  intro kinds action hemit
  rw [hemit] at h
  cases h

namespace Grammar

variable {grammar : Grammar} {line column : Nat} {stack : ModeStack} {rest : List Char}

/-- A step takes no more than is left of a line and covers it. -/
def Step.Covers (column : Nat) (rest : List Char) (step : Step) : Prop :=
  step.length ≤ rest.length ∧ EnsembleDesk.Covers column (rest.take step.length) step.tokens

/-- A token covers its own text. -/
theorem covers_token (grammar : Grammar) (line column : Nat) (kind : TokenKind) {text : List Char}
    (h : text ≠ []) : Covers column text [grammar.token line column kind text] := by
  refine ⟨rfl, ?_, [], ?_, rfl⟩
  · simpa [token] using h
  · simp [token]

/-- The tokens of groups cover the pieces that these remember. -/
theorem covers_groupTokens {found : Cursor} {index offset : Nat} {texts : List (List Char)}
    {kinds : List TokenKind} (hlength : kinds.length = texts.length)
    (h : ∀ capture ∈ Capture.pieces index offset texts,
      found.capture? capture.index = some capture) :
    Covers (column + offset) texts.flatten (grammar.groupTokens line column found index kinds) := by
  induction kinds generalizing index offset texts with
  | nil =>
    rw [List.length_nil, eq_comm, List.length_eq_zero_iff] at hlength
    rw [hlength]
    rfl
  | cons kind kinds ih =>
    obtain ⟨text, texts, rfl⟩ := List.exists_cons_of_length_eq_add_one hlength.symm
    have hcovers := ih (Nat.succ.inj hlength) fun capture hmem =>
      h capture (List.mem_cons_of_mem _ hmem)
    rw [← Nat.add_assoc] at hcovers
    rw [groupTokens, h ⟨index, offset, text⟩ List.mem_cons_self]
    cases text with
    -- a group that took nothing yields no token
    | nil => exact hcovers
    | cons c text =>
      exact (covers_token grammar line (column + offset) kind (List.cons_ne_nil c text)).append
        hcovers

/-- What a match of a rule yields covers the text of the match. -/
theorem covers_emitted? {rule : Rule} (hrule : rule.Covers) {found : Cursor}
    (hfound : rule.pattern.match? rest = some found) (htaken : rest.take found.offset ≠ [])
    {tokens : List Token} {action : Action}
    (h : grammar.emitted? line column found (rest.take found.offset) rule.emit =
      some (tokens, action)) : Covers column (rest.take found.offset) tokens := by
  cases hemit : rule.emit with
  | kind kind action =>
    rw [hemit] at h
    cases h
    exact covers_token grammar line column kind htaken
  -- whichever case applies, its token is the whole match
  | cases arms =>
    rw [hemit] at h
    obtain ⟨arm, -, h⟩ := Option.map_eq_some_iff.1 h
    cases h
    exact covers_token grammar line column arm.kind htaken
  | groups kinds action =>
    rw [hemit] at h
    cases h
    obtain ⟨texts, hlength, htexts, hcaptures⟩ := (hrule kinds action hemit).pieces_of_match? hfound
    rw [htexts]
    exact covers_groupTokens hlength.symm hcaptures

/-- A rule that applies covers what it takes. -/
theorem covers_applyRule? {rule : Rule} (hrule : rule.Covers) (hrest : rest ≠ []) {step : Step}
    (h : grammar.applyRule? line column stack rest rule = some step) : step.Covers column rest := by
  obtain ⟨found, tokens, action, hfound, hpos, hemitted, rfl⟩ := applyRule?_eq_some h
  have htaken : rest.take found.offset ≠ [] := by
    rw [ne_eq, List.take_eq_nil_iff, not_or]
    exact ⟨Nat.ne_of_gt hpos, hrest⟩
  exact ⟨(Pattern.take_of_match? hfound).2, covers_emitted? hrule hfound htaken hemitted⟩

/-- The fallback covers what it takes. -/
theorem covers_fallback {c : Char} :
    (grammar.fallback line column stack (c :: rest)).Covers column (c :: rest) := by
  rw [fallback_cons]
  have hrun : (c :: rest).takeWhile (fun other => isBlank other == isBlank c) <+: c :: rest :=
    List.takeWhile_prefix _
  refine ⟨hrun.length_le, ?_⟩
  rw [← List.prefix_iff_eq_take.1 hrun]
  exact covers_token grammar line column _ (by simp)

/-- Every rule covers what it matches. -/
def RulesCover (grammar : Grammar) : Prop :=
  ∀ mode, ∀ rule ∈ grammar.rulesOf mode, rule.Covers

/-- Each step takes something and covers it. -/
theorem covers_step (hrules : grammar.RulesCover) (line column : Nat) (stack : ModeStack) (c : Char)
    (rest : List Char) :
    (grammar.step line column stack (c :: rest)).Covers column (c :: rest) := by
  rcases step_cases grammar line column stack (c :: rest) with ⟨rule, hrule, happly⟩ | hfallback
  · exact covers_applyRule? (hrules stack.top rule hrule) (List.cons_ne_nil c rest) happly
  · rw [hfallback]
    exact covers_fallback

/-- Reading the rest of a line covers it. -/
theorem covers_tokensFrom (hrules : grammar.RulesCover) (line column : Nat) (stack : ModeStack)
    (rest : List Char) : Covers column rest (grammar.tokensFrom line column stack rest) := by
  induction column, stack, rest using reading_induction grammar line with
  | hnil column stack =>
    rw [tokensFrom_nil]
    rfl
  | hcons column stack c rest found hstep ih =>
    obtain ⟨hle, hcovers⟩ := hstep ▸ covers_step hrules line column stack c rest
    -- the tokens of the step cover what it takes, and the others begin behind it
    rw [← List.length_take_of_le hle] at ih
    have hall := hcovers.append ih
    rwa [List.length_take_of_le hle, List.take_append_drop, ← tokensFrom_cons hstep] at hall

/-- The tokens of a line cover it. -/
theorem coversLine_tokensOf (hrules : grammar.RulesCover) (line : Nat) {text : String}
    (htext : text ≠ "") : CoversLine text (grammar.tokensOf line text) :=
  (covers_tokensFrom hrules line 1 _ _).coversLine htext

end Grammar

end EnsembleDesk
