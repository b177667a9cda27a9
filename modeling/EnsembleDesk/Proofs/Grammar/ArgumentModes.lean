import EnsembleDesk.Proofs.Grammar.NamedParameters
import EnsembleDesk.Proofs.Grammar.Tiling
import EnsembleDesk.Proofs.Grammar.WordModes
/-!
# Modes that read arguments

The arguments of most keywords are words, some of which give a parameter by its name. The modes that
read them have rules for white space and comments, for quoted texts, for named parameters and for
words (`Rule.readsArguments`). In such a mode blanks are skipped (`Grammar.significant_skipBlanks`),
and a word that begins neither a comment nor a quoted text is taken as a whole: it becomes one token
(`Grammar.step_wholeWord`), or name, colon and value (`Grammar.step_namedWord`).
-/

namespace EnsembleDesk

open LineGrammar ErtGrammar

/-- Whether a rule is one of those that arguments are read by. -/
def Rule.readsArguments (rule : Rule) : Bool :=
  match rule.emit with
  | .kind kind action =>
    (rule.pattern == spaces && kind == .white && action == {}) || rule.pattern == comment ||
      rule.pattern == quotedBy '"' || rule.pattern == quotedBy '\''
  | .groups _ _ => rule.pattern == namedParameter
  | .cases _ => rule.pattern == word

namespace Grammar

variable {grammar : Grammar} {line column : Nat} {stack : ModeStack} {text rest : List Char}

/-! ### Blanks -/

/-- A quoted text begins with its mark. -/
theorem matchLength?_quotedBy_eq_none {mark : Char} (h : ∀ rest, text ≠ mark :: rest) :
    (quotedBy mark).matchLength? text = none := by
  rw [Pattern.matchLength?, Option.map_eq_none_iff, Pattern.match?, quotedBy]
  simp only [Pattern.sequence, List.foldl_cons, List.foldl_nil]
  rw [Pattern.ends_seq_eq_nil, List.head?_nil]
  rw [Pattern.ends_seq_eq_nil]
  · exact List.forall_mem_nil _
  · rw [Pattern.ends_char_eq_nil h]
    exact List.forall_mem_nil _

/-- No quoted text is matched in front of a blank. -/
theorem matchLength?_quotedBy_of_blank {mark c : Char} (hmark : isBlank mark = false)
    (h : isBlank c = true) (rest : List Char) :
    (quotedBy mark).matchLength? (c :: rest) = none := by
  apply matchLength?_quotedBy_eq_none
  rintro more hmore
  rw [(List.cons.inj hmore).1, hmark] at h
  cases h

/-- No named parameter is matched in front of a blank. -/
theorem matchLength?_namedParameter_of_blank {c : Char} (h : isBlank c = true)
    (rest : List Char) : namedParameter.matchLength? (c :: rest) = none := by
  rw [Pattern.matchLength?, match?_namedParameter_of_startsWithout, Option.map_none]
  refine .cons ?_ rest
  rw [Bool.eq_false_iff]
  intro hname
  rw [isBlank_of_isNameChar hname] at h
  cases h

/-- The rules of arguments read spaces and tabs, or match nothing that begins with a blank. -/
theorem skipsBlanks_of_readsArguments {rule : Rule} (h : rule.readsArguments = true) :
    rule.SkipsBlanks := by
  obtain ⟨pattern, emit⟩ := rule
  cases emit with
  | kind kind action =>
    simp only [Rule.readsArguments, Bool.or_eq_true, Bool.and_eq_true, beq_iff_eq] at h
    rcases h with ((⟨⟨rfl, rfl⟩, rfl⟩ | rfl) | rfl) | rfl
    · exact .inl rfl
    · exact .inr fun c rest h => matchLength?_comment_of_blank h rest
    · exact .inr fun c rest h => matchLength?_quotedBy_of_blank rfl h rest
    · exact .inr fun c rest h => matchLength?_quotedBy_of_blank rfl h rest
  | groups kinds action =>
    simp only [Rule.readsArguments, beq_iff_eq] at h
    subst h
    exact .inr fun c rest h => matchLength?_namedParameter_of_blank h rest
  | cases arms =>
    simp only [Rule.readsArguments, beq_iff_eq] at h
    subst h
    exact .inr fun c rest h => matchLength?_word_of_blank h rest

/-- The tokens that carry meaning begin behind the blanks. -/
theorem significant_skipBlanks (hskips : ∀ rule ∈ grammar.rulesOf stack.top, rule.SkipsBlanks)
    (line column : Nat) (text : List Char) :
    (grammar.tokensFrom line column stack text).filter Token.significant =
      (grammar.tokensFrom line (column + (text.takeWhile isBlank).length) stack
        (text.dropWhile isBlank)).filter Token.significant := by
  induction column, stack, text using reading_induction grammar line with
  | hnil column stack => rfl
  | hcons column stack c rest found hstep ih =>
    cases hc : isBlank c with
    | false =>
      rw [List.takeWhile_cons_of_neg (by simp [hc]), List.dropWhile_cons_of_neg (by simp [hc]),
        List.length_nil, Nat.add_zero]
    | true =>
      obtain ⟨blanks, more, hline, hblank, hlength, hkept, htokens⟩ :=
        hstep ▸ step_blank hskips hc
      rw [tokensFrom_cons hstep, List.filter_append, htokens, List.nil_append,
        ih (hkept ▸ hskips), hkept, hlength, hline, List.drop_left,
        List.takeWhile_append_of_pos hblank, List.dropWhile_append_of_pos hblank,
        List.length_append, Nat.add_assoc]

/-- Blanks carry no meaning. -/
theorem significant_of_blank (hskips : ∀ rule ∈ grammar.rulesOf stack.top, rule.SkipsBlanks)
    (line column : Nat) (hblank : text.dropWhile isBlank = []) :
    (grammar.tokensFrom line column stack text).filter Token.significant = [] := by
  rw [significant_skipBlanks hskips, hblank, tokensFrom_nil, List.filter_nil]

/-- The tokens that carry meaning are those of the first word and those behind it. -/
theorem significant_of_word (hskips : ∀ rule ∈ grammar.rulesOf stack.top, rule.SkipsBlanks)
    {word : List Char} {tokens : List Token} {next : ModeStack}
    (hdrop : text.dropWhile isBlank = word ++ rest) (hne : word ≠ [])
    (hstep : grammar.step line (column + (text.takeWhile isBlank).length) stack (word ++ rest) =
      ⟨tokens, word.length, next⟩) :
    (grammar.tokensFrom line column stack text).filter Token.significant =
      tokens.filter Token.significant ++
        (grammar.tokensFrom line (column + (text.takeWhile isBlank).length + word.length) next
          rest).filter Token.significant := by
  obtain ⟨c, more, rfl⟩ := List.exists_cons_of_ne_nil hne
  have hrest : (c :: (more ++ rest)).drop (c :: more).length = rest := List.drop_left
  rw [List.cons_append] at hdrop hstep
  rw [significant_skipBlanks hskips, hdrop, tokensFrom_cons hstep, List.filter_append, hrest]

end Grammar

/-- A word stands in front of what is left of a line, and begins neither a comment nor a quoted
text. -/
structure LeadsWith (text rest : List Char) : Prop where
  ne_nil : text ≠ []
  nonblank : ∀ c ∈ text, isBlank c = false
  /-- No character of the word is left. -/
  ends : StartsWithout (!isBlank ·) rest
  uncommented : startsWith text ['-', '-'] = false
  unquoted : StartsWithout ['"', '\''].contains text

namespace LeadsWith

variable {text rest : List Char} (h : LeadsWith text rest)

include h

/-- The word reaches up to the next blank. -/
theorem takeWhile_eq : (text ++ rest).takeWhile (!isBlank ·) = text :=
  takeWhile_run (fun c hc => by rw [h.nonblank c hc]; rfl) h.ends

/-- The word is matched as a whole. -/
theorem matchLength?_word : word.matchLength? (text ++ rest) = some text.length := by
  rw [LineGrammar.matchLength?_word, h.takeWhile_eq, if_neg (by simp [h.ne_nil])]

/-- No spaces are matched in front of the word. -/
theorem matchLength?_spaces : spaces.matchLength? (text ++ rest) = none := by
  obtain ⟨c, more, htext⟩ := List.exists_cons_of_ne_nil h.ne_nil
  rw [htext]
  refine Grammar.matchLength?_spaces_of_not ?_ (more ++ rest)
  rw [Bool.eq_false_iff]
  intro hspace
  have hblank := h.nonblank c (htext ▸ List.mem_cons_self)
  rw [Grammar.isBlank_of_mem_spaces hspace] at hblank
  cases hblank

/-- No comment is matched in front of the word. -/
theorem matchLength?_comment : comment.matchLength? (text ++ rest) = none := by
  rw [LineGrammar.matchLength?_comment, if_neg]
  intro hcomment
  -- the hyphens would stand in the word
  obtain ⟨more, hmore⟩ := List.isPrefixOf_iff_prefix.1 hcomment
  have htext := h.takeWhile_eq
  have hhyphens : ∀ c ∈ ['-', '-'], (!isBlank c) = true := by
    rintro c (_ | ⟨_, _ | ⟨_, ⟨⟩⟩⟩) <;> rfl
  rw [← hmore, List.takeWhile_append_of_pos hhyphens] at htext
  have := h.uncommented
  rw [← htext] at this
  cases this

/-- No quoted text is matched in front of the word. -/
theorem matchLength?_quotedBy {mark : Char} (hmark : ['"', '\''].contains mark = true) :
    (quotedBy mark).matchLength? (text ++ rest) = none := by
  refine Grammar.matchLength?_quotedBy_eq_none fun more hmore => ?_
  have := h.unquoted.append h.ne_nil rest mark (by rw [hmore]; rfl)
  rw [hmark] at this
  cases this

end LeadsWith

namespace Grammar

variable {grammar : Grammar} {line column : Nat} {stack : ModeStack} {text rest : List Char}

/-! ### Words -/

/-- The cases by which the words of a mode are classified. -/
def armsOf (grammar : Grammar) (mode : Mode) : List Case :=
  (grammar.rulesOf mode).flatMap fun rule =>
    match rule.emit with
    | .cases arms => arms
    | _ => []

/-- The cases of a mode are those of its rules of cases. -/
theorem mem_armsOf_iff {mode : Mode} {arm : Case} :
    arm ∈ grammar.armsOf mode ↔
      ∃ rule ∈ grammar.rulesOf mode, ∃ arms, rule.emit = .cases arms ∧ arm ∈ arms := by
  rw [armsOf, List.mem_flatMap]
  refine exists_congr fun rule => and_congr_right fun _ => ?_
  cases rule.emit <;> simp

/-- Where a rule applies, a step applies a rule. -/
theorem step_of_applies {rule : Rule} (hrule : rule ∈ grammar.rulesOf stack.top)
    (happlies : (grammar.applyRule? line column stack rest rule).isSome = true) :
    ∃ rule ∈ grammar.rulesOf stack.top, grammar.applyRule? line column stack rest rule =
      some (grammar.step line column stack rest) := by
  have hsome : ((grammar.rulesOf stack.top).findSome?
      (grammar.applyRule? line column stack rest)).isSome = true :=
    List.findSome?_isSome_iff.2 ⟨rule, hrule, happlies⟩
  obtain ⟨found, hfound⟩ := Option.isSome_iff_exists.1 hsome
  rw [step, hfound, Option.getD_some]
  exact List.exists_of_findSome?_eq_some hfound

/-- A rule of words applies by its first case that does. -/
theorem applyRule?_word (h : LeadsWith text rest) (arms : List Case) :
    grammar.applyRule? line column stack (text ++ rest) ⟨word, .cases arms⟩ =
      (arms.find? (·.matcher.accepts grammar.keywords (String.ofList text))).map fun arm =>
        ⟨[grammar.token line column arm.kind text], text.length,
          (arm.action.resolve (allBlank rest)).apply stack⟩ := by
  obtain ⟨found, hfound, hlength⟩ := Option.map_eq_some_iff.1 h.matchLength?_word
  have hne : ¬ found.offset = 0 := by simp [hlength, h.ne_nil]
  rw [applyRule?, hfound]
  refine (if_neg hne).trans ?_
  rw [emitted?, hlength, List.take_left, List.drop_left]
  cases arms.find? (·.matcher.accepts grammar.keywords (String.ofList text)) <;> rfl

/-- A word becomes one token if no rule splits it. -/
theorem step_wholeWord (h : LeadsWith text rest)
    (hrules : ∀ rule ∈ grammar.rulesOf stack.top, rule.readsArguments = true)
    (htotal : ∃ arm ∈ grammar.armsOf stack.top, arm.matcher = .any)
    (hwhole : ∀ rule ∈ grammar.rulesOf stack.top, rule.emit.isWhole = false →
      splitNamed? text = none) :
    ∃ arm ∈ grammar.armsOf stack.top, grammar.step line column stack (text ++ rest) =
      ⟨[grammar.token line column arm.kind text], text.length,
        (arm.action.resolve (allBlank rest)).apply stack⟩ := by
  obtain ⟨last, hlast, hany⟩ := htotal
  obtain ⟨⟨pattern, emit⟩, hrule, arms, rfl, hmem⟩ := mem_armsOf_iff.1 hlast
  have hpattern : pattern = word := by simpa [Rule.readsArguments] using hrules _ hrule
  have happlies :
      (grammar.applyRule? line column stack (text ++ rest) ⟨pattern, .cases arms⟩).isSome =
      true := by
    rw [hpattern, applyRule?_word h, Option.isSome_map, List.find?_isSome]
    exact ⟨last, hmem, by rw [hany]; rfl⟩
  obtain ⟨⟨pattern, emit⟩, hrule, happly⟩ := step_of_applies hrule happlies
  have hreads := hrules _ hrule
  cases emit with
  | kind kind action =>
    -- blanks, comments and quoted texts begin otherwise
    have hnone : pattern.matchLength? (text ++ rest) = none := by
      simp only [Rule.readsArguments, Bool.or_eq_true, Bool.and_eq_true, beq_iff_eq] at hreads
      rcases hreads with ((⟨⟨rfl, rfl⟩, rfl⟩ | rfl) | rfl) | rfl
      · exact h.matchLength?_spaces
      · exact h.matchLength?_comment
      · exact h.matchLength?_quotedBy rfl
      · exact h.matchLength?_quotedBy rfl
    rw [applyRule?_of_none hnone] at happly
    cases happly
  | groups kinds action =>
    -- a word that cannot be split is no named parameter
    simp only [Rule.readsArguments, beq_iff_eq] at hreads
    have hnone : namedParameter.matchLength? (text ++ rest) = none := by
      rw [Pattern.matchLength?, match?_namedParameter_eq_none (hwhole _ hrule rfl) h.ne_nil h.ends,
        Option.map_none]
    rw [hreads, applyRule?_of_none hnone] at happly
    cases happly
  | cases arms =>
    simp only [Rule.readsArguments, beq_iff_eq] at hreads
    rw [hreads, applyRule?_word h] at happly
    obtain ⟨arm, harm, hstep⟩ := Option.map_eq_some_iff.1 happly
    exact ⟨arm, mem_armsOf_iff.2 ⟨_, hrule, arms, rfl, List.mem_of_find?_eq_some harm⟩, hstep.symm⟩

/-- The tokens of a word `NAME:value`. -/
def namedTokens (grammar : Grammar) (line column : Nat) (name value : List Char) : List Token :=
  grammar.token line column .predefined name ::
    grammar.token line (column + name.length) .delimiter [':'] ::
      if value.isEmpty then []
      else [grammar.token line (column + (name.length + 1)) .string value]

/-- The groups of a named parameter are its name, the colon and its value. -/
theorem groupTokens_pieces {name value : List Char} {rest : List Char} {offset : Nat}
    {passed : List Place} (hname : name ≠ []) :
    grammar.groupTokens line column
        ⟨offset, rest, (Capture.pieces 1 0 [name, [':'], value]).reverse, passed⟩ 1
        [.predefined, .delimiter, .string] = grammar.namedTokens line column name value := by
  obtain ⟨c, name, rfl⟩ := List.exists_cons_of_ne_nil hname
  cases value <;> simp [groupTokens, Cursor.capture?, Capture.pieces, namedTokens]

/-- A word `NAME:value` becomes name, colon and value where named parameters are read. -/
theorem step_namedWord {name value : List Char} {action : Action} {blanks comments : Emit}
    {rules : List Rule} (h : LeadsWith text rest)
    (hrules : grammar.rulesOf stack.top = ⟨spaces, blanks⟩ :: ⟨comment, comments⟩ ::
      ⟨namedParameter, .groups [.predefined, .delimiter, .string] action⟩ :: rules)
    (hsplit : splitNamed? text = some (name, value)) :
    grammar.step line column stack (text ++ rest) =
      ⟨grammar.namedTokens line column name value, text.length,
        (action.resolve (allBlank rest)).apply stack⟩ := by
  obtain ⟨hname, -, htext⟩ := splitNamed?_eq_some_iff.1 hsplit
  have hvalue : ∀ c ∈ value, isBlank c = false := fun c hc => h.nonblank c (by simp [htext, hc])
  have hne : ¬ text.length = 0 := by simp [h.ne_nil]
  obtain ⟨passed, hmatch⟩ := match?_namedParameter hsplit hvalue h.ends
  have happly : grammar.applyRule? line column stack (text ++ rest)
      ⟨namedParameter, .groups [.predefined, .delimiter, .string] action⟩ =
        some ⟨grammar.namedTokens line column name value, text.length,
          (action.resolve (allBlank rest)).apply stack⟩ := by
    rw [applyRule?, hmatch]
    refine (if_neg hne).trans ?_
    rw [emitted?, groupTokens_pieces hname, List.drop_left]
    rfl
  rw [step, hrules, List.findSome?_cons, applyRule?_of_none h.matchLength?_spaces,
    List.findSome?_cons, applyRule?_of_none h.matchLength?_comment, List.findSome?_cons, happly,
    Option.getD_some]

end Grammar

end EnsembleDesk
