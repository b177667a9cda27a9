import EnsembleDesk.Language
import EnsembleDesk.Proofs.Grammar.ArgumentModes
/-!
# The arguments of a line, word by word

The words behind a keyword are its arguments. Some keywords take arguments by name, and there a word
`NAME:value` is one (`argumentWords`); any other word is told apart by its position. Most keywords
lead to modes that read words, each mode going on to the next (`nextMode`). A word that begins
neither a comment nor a quoted text is read there as the argument that it is, by one step
(`ErtGrammar.readAs_tokensFrom`), so the tokens that carry meaning are those of the arguments
(`ErtGrammar.significant_tokensOf`). `ReadAs` relates tokens to the arguments they are read from.
-/

namespace EnsembleDesk

open LineGrammar ErtGrammar EnsembleDesk.Language

/-- A word that begins neither a comment nor a quoted text. -/
structure WordSpan.Unmarked (word : WordSpan) : Prop where
  uncommented : startsWith word.text ['-', '-'] = false
  unquoted : StartsWithout ['"', '\''].contains word.text

instance (word : WordSpan) : Decidable word.Unmarked :=
  decidable_of_iff (startsWith word.text ['-', '-'] = false ∧
      StartsWithout ['"', '\''].contains word.text)
    ⟨fun h => ⟨h.1, h.2⟩, fun h => ⟨h.1, h.2⟩⟩

/-! ### Arguments -/

/-- An argument as the words of a line tell it. -/
inductive ArgumentWord where
  /-- A word told apart by its position. -/
  | positional (word : WordSpan)
  /-- A word `NAME:value`. -/
  | named (name value : WordSpan)
deriving DecidableEq

namespace ArgumentWord

/-- The column in which an argument begins. -/
def start : ArgumentWord → Nat
  | positional word => word.start
  | named name _ => name.start

/-- The argument that a word is where names are looked for. -/
def ofWord (word : WordSpan) : ArgumentWord :=
  match splitNamed? word.text with
  | some (name, value) => named ⟨name, word.start⟩ ⟨value, word.start + (name.length + 1)⟩
  | none => positional word

theorem start_ofWord (word : WordSpan) : (ofWord word).start = word.start := by
  unfold ofWord
  split <;> rfl

end ArgumentWord

/-- Whether a keyword takes arguments by name. -/
def Keyword.takesNamed (keyword : Keyword) : Bool :=
  ["FIELD", "GEN_DATA", "SURFACE", "GEN_KW"].contains keyword.label

/-- The arguments that the words behind a keyword are. The first of them is never looked at for a
name. -/
def argumentWords (keyword : Keyword) : List WordSpan → List ArgumentWord
  | [] => []
  | first :: words =>
    .positional first :: words.map (if keyword.takesNamed then .ofWord else .positional)

/-! ### Tokens of arguments -/

/-- The piece of a line that a token is. -/
def Token.span (token : Token) : WordSpan := ⟨token.text.toList, token.start⟩

section

variable (grammar : Grammar) (line column : Nat) (kind : TokenKind) (text : List Char)

/-- A token is the piece of text that it was made of. -/
@[simp]
theorem span_token : (grammar.token line column kind text).span = ⟨text, column⟩ := by
  simp [Token.span, Grammar.token]

/-- A token begins in the column that it was made in. -/
@[simp]
theorem start_token : (grammar.token line column kind text).start = column := rfl

/-- A token stops behind its text. -/
@[simp]
theorem stop_token : (grammar.token line column kind text).stop = column + text.length := by
  simp [Token.stop, Grammar.token]

end

/-- Only a delimiter stands for a delimiter. -/
theorem kind_of_isDelimiter {token : Token} {text : String} (h : token.isDelimiter text = true) :
    token.kind = .delimiter := by
  simp only [Token.isDelimiter, Bool.and_eq_true, beq_iff_eq] at h
  exact h.1

/-- Whether a token of the kind is an argument by itself. -/
def TokenKind.standsAlone (kind : TokenKind) : Bool :=
  kind.significant && kind != .invalid && kind != .delimiter

/-- Tokens that are read from arguments. -/
inductive ReadAs : List ArgumentWord → List Token → Prop
  | nil : ReadAs [] []
  /-- A word is one token. -/
  | positional {words tokens} {word : WordSpan} {token : Token} (hspan : token.span = word)
      (hkind : token.kind.standsAlone = true) (hrest : ReadAs words tokens) :
      ReadAs (.positional word :: words) (token :: tokens)
  /-- A word without a value is a name and a colon, and what follows does not adjoin. -/
  | bare {words tokens} {word valueWord : WordSpan} {name colon : Token}
      (hspan : name.span = word) (hname : name.kind = .predefined)
      (hcolon : colon.isDelimiter ":" = true) (hadjoins : name.adjoins colon = true)
      (hvalue : valueWord = ⟨[], colon.stop⟩)
      (hnext : ∀ next ∈ tokens.head?, colon.adjoins next = false) (hrest : ReadAs words tokens) :
      ReadAs (.named word valueWord :: words) (name :: colon :: tokens)
  /-- A word with a value is a name, a colon and the value. -/
  | named {words tokens} {word valueWord : WordSpan} {name colon value : Token}
      (hspan : name.span = word) (hname : name.kind = .predefined)
      (hcolon : colon.isDelimiter ":" = true) (hadjoins : name.adjoins colon = true)
      (hvalueSpan : value.span = valueWord) (hvalue : value.kind = .string)
      (hadjoinsValue : colon.adjoins value = true) (hrest : ReadAs words tokens) :
      ReadAs (.named word valueWord :: words) (name :: colon :: value :: tokens)

namespace ReadAs

variable {words : List ArgumentWord} {tokens : List Token}

/-- The first token stands where the first argument does. -/
theorem head_start (h : ReadAs words tokens) :
    tokens.head?.map Token.start = words.head?.map ArgumentWord.start := by
  cases h with
  | nil => rfl
  | positional hspan => rw [← hspan]; rfl
  | bare hspan => rw [← hspan]; rfl
  | named hspan => rw [← hspan]; rfl

/-- Arguments do not begin with a delimiter. -/
theorem head_kind (h : ReadAs words tokens) : ∀ token ∈ tokens.head?, token.kind ≠ .delimiter := by
  cases h with
  | nil => simp
  | positional _ hkind =>
    rintro token ⟨⟩ hdelimiter
    simp [hdelimiter, TokenKind.standsAlone] at hkind
  | bare _ hname => simp [hname]
  | named _ hname => simp [hname]

/-- No token of an argument is invalid. -/
theorem kind_ne_invalid (h : ReadAs words tokens) : ∀ token ∈ tokens, token.kind ≠ .invalid := by
  induction h with
  | nil => simp
  | positional _ hkind _ ih =>
    refine List.forall_mem_cons.2 ⟨fun hinvalid => ?_, ih⟩
    simp [hinvalid, TokenKind.standsAlone] at hkind
  | bare _ hname hcolon _ _ _ _ ih =>
    have hcolon := kind_of_isDelimiter hcolon
    simpa [hname, hcolon] using ih
  | named _ hname hcolon _ _ hvalue _ _ ih =>
    have hcolon := kind_of_isDelimiter hcolon
    simpa [hname, hcolon, hvalue] using ih

end ReadAs

/-! ### Modes -/

namespace ErtGrammar

/-- The modes that read arguments, and after any word go on to read words. -/
def freeModes : List Mode :=
  [.afterKeyword, .hookWorkflow, .summary, .simulationJob, .installJob, .setEnv]

/-- The modes that read the name of a declared thing. -/
def nameModes : List Mode := [.field, .genData, .surface, .genKw]

/-- The modes that look for named parameters. -/
def paramModes : List Mode := [.fieldParams, .genDataParams, .surfaceParams, .genKwParams]

/-- The modes of arguments. -/
def argumentModes : List Mode := freeModes ++ nameModes ++ paramModes

/-- The mode in which the next word is read. -/
def nextMode : Mode → Mode
  | .field => .fieldParams
  | .genData => .genDataParams
  | .surface => .surfaceParams
  | .genKw => .genKwParams
  | .simulationJob | .installJob | .setEnv => .afterKeyword
  | mode => mode

/-- Behind an argument, arguments are read. -/
theorem nextMode_mem : ∀ mode ∈ argumentModes, nextMode mode ∈ argumentModes := by decide

/-- The rules at the beginning of a line and in the modes of arguments are rules of arguments. -/
theorem readsArguments : ∀ mode ∈ .root :: argumentModes, ∀ rule ∈ ertGrammar.rulesOf mode,
    rule.readsArguments = true := by decide +kernel

/-- Where no named parameters are looked for, a rule yields one token for its match. -/
theorem isWhole_of_not_mem_paramModes : ∀ mode ∈ argumentModes, mode ∉ paramModes →
    ∀ rule ∈ ertGrammar.rulesOf mode, rule.emit.isWhole = true := by decide +kernel

/-- Named parameters are looked for before words. -/
theorem rulesOf_paramModes {mode : Mode} (h : mode ∈ paramModes) :
    ∃ rules, ertGrammar.rulesOf mode = ⟨spaces, .kind .white {}⟩ :: ⟨comment, .kind .comment {}⟩ ::
      ⟨namedParameter, .groups [.predefined, .delimiter, .string] endAtLineEnd⟩ :: rules := by
  simp only [paramModes, List.mem_cons, List.not_mem_nil, or_false] at h
  rcases h with rfl | rfl | rfl | rfl <;> exact ⟨_, rfl⟩

/-- In a mode of arguments a case applies to every word. -/
theorem total {mode : Mode} (h : mode ∈ argumentModes) :
    ∃ arm ∈ ertGrammar.armsOf mode, arm.matcher = .any := by
  have hlast : ∀ arm, (ertGrammar.armsOf mode).getLast? = some arm → arm ∈ ertGrammar.armsOf mode :=
    fun arm => List.mem_of_getLast?
  simp only [argumentModes, freeModes, nameModes, paramModes, List.cons_append, List.nil_append,
    List.mem_cons, List.not_mem_nil, or_false] at h
  rcases h with
      rfl | rfl | rfl | rfl | rfl | rfl | rfl | rfl | rfl | rfl | rfl | rfl | rfl | rfl <;>
    exact ⟨_, hlast _ rfl, rfl⟩

/-- Words that are arguments are no delimiters. -/
theorem standsAlone_of_mem_armsOf : ∀ mode ∈ argumentModes, ∀ arm ∈ ertGrammar.armsOf mode,
    arm.kind.standsAlone = true := by decide +kernel

/-- An action goes on from a mode: the next word is read in the mode that follows, and behind the
last word blanks are skipped. -/
def GoesOn (mode : Mode) (action : Action) : Prop :=
  (action.resolve false).apply ⟨mode, [.root]⟩ = ⟨nextMode mode, [.root]⟩ ∧
    ((action.resolve true).apply ⟨mode, [.root]⟩).top ∈ .root :: argumentModes

instance (mode : Mode) (action : Action) : Decidable (GoesOn mode action) :=
  inferInstanceAs (Decidable (_ ∧ _))

/-- Reading goes on after any word of a mode of arguments. -/
theorem goesOn_of_mem_armsOf : ∀ mode ∈ argumentModes, ∀ arm ∈ ertGrammar.armsOf mode,
    GoesOn mode arm.action := by decide +kernel

/-- Reading goes on after a named parameter. -/
theorem goesOn_endAtLineEnd : ∀ mode ∈ paramModes, GoesOn mode endAtLineEnd := by decide +kernel

/-- The argument that a word is in a mode. -/
def argumentIn (mode : Mode) (word : WordSpan) : ArgumentWord :=
  if mode ∈ paramModes then .ofWord word else .positional word

/-- The argument that a word is begins where the word does. -/
theorem start_argumentIn (mode : Mode) (word : WordSpan) :
    (argumentIn mode word).start = word.start := by
  unfold argumentIn
  split
  · exact ArgumentWord.start_ofWord word
  · rfl

/-- A word is an argument as a whole unless a name is looked for and found in it. -/
theorem argumentIn_of_not_split {mode : Mode} {word : WordSpan}
    (h : mode ∈ paramModes → splitNamed? word.text = none) :
    argumentIn mode word = .positional word := by
  unfold argumentIn
  split
  · rename_i hmode
    rw [ArgumentWord.ofWord, h hmode]
  · rfl

/-- The arguments that words are, the first of them in a mode. -/
def argumentsIn : Mode → List WordSpan → List ArgumentWord
  | _, [] => []
  | mode, word :: words => argumentIn mode word :: argumentsIn (nextMode mode) words

/-- The first argument begins where the first word does. -/
theorem head_start_argumentsIn (mode : Mode) (words : List WordSpan) :
    (argumentsIn mode words).head?.map ArgumentWord.start = words.head?.map WordSpan.start := by
  cases words with
  | nil => rfl
  | cons word words => exact congrArg some (start_argumentIn mode word)

/-- The rules of arguments leave the blanks in front to the rule of spaces. -/
theorem skipsBlanks {mode : Mode} (h : mode ∈ .root :: argumentModes) :
    ∀ rule ∈ ertGrammar.rulesOf mode, rule.SkipsBlanks :=
  fun rule hrule => Grammar.skipsBlanks_of_readsArguments (readsArguments mode h rule hrule)

section

variable {words : List ArgumentWord} {tokens : List Token} {column : Nat} {text : List Char}

/-- A token for a whole word is read from it. -/
theorem readAs_token (n : Nat) {kind : TokenKind} (hkind : kind.standsAlone = true)
    (h : ReadAs words tokens) :
    ReadAs (.positional ⟨text, column⟩ :: words)
      ([ertGrammar.token n column kind text].filter Token.significant ++ tokens) := by
  have hsignificant : kind.significant = true := by
    simp only [TokenKind.standsAlone, Bool.and_eq_true] at hkind
    exact hkind.1.1
  have hkept : [ertGrammar.token n column kind text].filter Token.significant = [_] :=
    List.filter_cons_of_pos hsignificant
  rw [hkept]
  exact .positional (span_token ..) hkind h

/-- The tokens of a word `NAME:value` are read from the argument that it is. -/
theorem readAs_namedTokens (n : Nat) {name value : List Char}
    (hsplit : splitNamed? text = some (name, value))
    (hnext : ∀ next ∈ tokens.head?, column + text.length < next.start) (h : ReadAs words tokens) :
    ReadAs (.ofWord ⟨text, column⟩ :: words)
      ((ertGrammar.namedTokens n column name value).filter Token.significant ++ tokens) := by
  obtain ⟨-, -, rfl⟩ := splitNamed?_eq_some_iff.1 hsplit
  simp only [ArgumentWord.ofWord, hsplit, Grammar.namedTokens]
  cases value with
  | nil =>
    refine .bare (span_token ..) rfl rfl ?_ ?_ ?_ h
    · simp [Token.adjoins]
    · simp [Nat.add_assoc]
    · intro next hnext'
      have := hnext next hnext'
      rw [List.length_append, List.length_singleton] at this
      simp only [Token.adjoins, stop_token, List.length_singleton, beq_eq_false_iff_ne]
      omega
  | cons c value =>
    refine .named (span_token ..) rfl rfl ?_ (span_token ..) rfl ?_ h
    · simp [Token.adjoins]
    · simp [Token.adjoins, Nat.add_assoc]

end

/-- What stands behind a word is read in the next mode, or holds nothing but blanks. -/
theorem readAs_behind (n : Nat) {mode : Mode} {action : Action} (haction : GoesOn mode action)
    {column : Nat} {rest : List Char}
    (h : ReadAs (argumentsIn (nextMode mode) (wordSpans column rest))
      ((ertGrammar.tokensFrom n column ⟨nextMode mode, [.root]⟩ rest).filter Token.significant)) :
    ReadAs (argumentsIn (nextMode mode) (wordSpans column rest))
      ((ertGrammar.tokensFrom n column ((action.resolve (allBlank rest)).apply ⟨mode, [.root]⟩)
        rest).filter Token.significant) := by
  obtain ⟨hnext, hend⟩ := haction
  cases hblank : allBlank rest with
  | false =>
    rw [hnext]
    exact h
  | true =>
    have hdrop : rest.dropWhile isBlank = [] :=
      List.dropWhile_eq_nil_iff.2 (List.all_eq_true.1 hblank)
    rw [wordSpans_of_blank hdrop, Grammar.significant_of_blank (skipsBlanks hend) n column hdrop]
    exact .nil

/-- The tokens of a text are read from the arguments that its words are. -/
theorem readAs_tokensFrom (n : Nat) {mode : Mode} (hmode : mode ∈ argumentModes) (column : Nat)
    (text : List Char) (hwords : ∀ word ∈ wordSpans column text, word.Unmarked) :
    ReadAs (argumentsIn mode (wordSpans column text))
      ((ertGrammar.tokensFrom n column ⟨mode, [.root]⟩ text).filter Token.significant) := by
  induction column, text using words_induction generalizing mode with
  | hblank column text hblank =>
    rw [wordSpans_of_blank hblank,
      Grammar.significant_of_blank (skipsBlanks (List.mem_cons_of_mem _ hmode)) n column hblank]
    exact .nil
  | hword column text word rest hdrop hne hword hrest ih =>
    rw [wordSpans_of_word hdrop hne hword hrest] at hwords ⊢
    obtain ⟨⟨huncommented, hunquoted⟩, hwords⟩ := List.forall_mem_cons.1 hwords
    have hlead : LeadsWith word rest := ⟨hne, hword, hrest, huncommented, hunquoted⟩
    have hskips := skipsBlanks (List.mem_cons_of_mem _ hmode)
    have ih := ih (nextMode_mem mode hmode) hwords
    rw [argumentsIn]
    generalize hstart : column + (text.takeWhile isBlank).length = start at *
    -- the word is the name and the value of a parameter, or else is taken as a whole
    by_cases hnamed : mode ∈ paramModes ∧ (splitNamed? word).isSome
    · obtain ⟨hparam, hsome⟩ := hnamed
      obtain ⟨⟨name, value⟩, hsplit⟩ := Option.isSome_iff_exists.1 hsome
      obtain ⟨rules, hrules⟩ := rulesOf_paramModes hparam
      have hstep := @Grammar.step_namedWord ertGrammar n start ⟨mode, [.root]⟩ word rest name value
        endAtLineEnd _ _ rules hlead hrules hsplit
      have htail := readAs_behind n (goesOn_endAtLineEnd mode hparam) ih
      rw [Grammar.significant_of_word hskips hdrop hne (hstart ▸ hstep), hstart, argumentIn,
        if_pos hparam]
      refine readAs_namedTokens n hsplit ?_ htail
      -- behind the word stands a blank, if anything
      intro next hnext
      have hhead := htail.head_start.trans (head_start_argumentsIn _ _)
      rw [Option.mem_def.1 hnext, Option.map_some] at hhead
      obtain ⟨other, hother, hstart'⟩ := Option.map_eq_some_iff.1 hhead.symm
      exact hstart' ▸ lt_start_of_mem_head? hrest other hother
    · have hwhole : mode ∈ paramModes → splitNamed? word = none :=
        fun hparam => Option.not_isSome_iff_eq_none.1 fun hsome => hnamed ⟨hparam, hsome⟩
      have hrules : ∀ rule ∈ ertGrammar.rulesOf mode, rule.emit.isWhole = false →
          splitNamed? word = none := by
        intro rule hrule hgroups
        refine hwhole (Decidable.byContradiction fun hparam => ?_)
        rw [isWhole_of_not_mem_paramModes mode hmode hparam rule hrule] at hgroups
        cases hgroups
      obtain ⟨arm, harm, hstep⟩ := @Grammar.step_wholeWord ertGrammar n start ⟨mode, [.root]⟩ _ _
        hlead (readsArguments mode (List.mem_cons_of_mem _ hmode)) (total hmode) hrules
      have htail := readAs_behind n (goesOn_of_mem_armsOf mode hmode arm harm) ih
      rw [Grammar.significant_of_word hskips hdrop hne (hstart ▸ hstep), hstart,
        argumentIn_of_not_split hwhole]
      exact readAs_token n (standsAlone_of_mem_armsOf mode hmode arm harm) htail

/-! ### The keyword -/

/-- The keywords whose arguments are words. The others lead to modes of their own. -/
def plainKeywords : List Keyword :=
  Schema.ertKeywords.filter fun keyword =>
    keyword.label ∉ ["QUEUE_SYSTEM", "QUEUE_OPTION", "FORWARD_MODEL"]

/-- The mode in which the arguments of a keyword are read. -/
def argumentMode (keyword : Keyword) : Mode :=
  (routedKeywords.lookup keyword.label).getD .afterKeyword

/-- A keyword whose arguments are words leads to a mode of arguments, one with names if it takes
them. -/
theorem argumentMode_mem : ∀ keyword ∈ plainKeywords,
    if keyword.takesNamed then argumentMode keyword ∈ nameModes
    else argumentMode keyword ∈ freeModes := by decide +kernel

/-- In a mode without names each word is an argument as a whole. -/
theorem argumentsIn_of_freeMode {mode : Mode} (h : mode ∈ freeModes) (words : List WordSpan) :
    argumentsIn mode words = words.map .positional := by
  induction words generalizing mode with
  | nil => rfl
  | cons word words ih =>
    have hfree : ∀ mode ∈ freeModes, mode ∉ paramModes ∧ nextMode mode ∈ freeModes := by decide
    obtain ⟨hparam, hnext⟩ := hfree mode h
    rw [argumentsIn, ih hnext, argumentIn, if_neg hparam, List.map_cons]

/-- In a mode with names each word is looked at for one. -/
theorem argumentsIn_of_paramMode {mode : Mode} (h : mode ∈ paramModes) (words : List WordSpan) :
    argumentsIn mode words = words.map .ofWord := by
  induction words with
  | nil => rfl
  | cons word words ih =>
    have hnext : ∀ mode ∈ paramModes, nextMode mode = mode := by decide
    rw [argumentsIn, hnext mode h, ih, argumentIn, if_pos h, List.map_cons]

/-- The mode that a keyword leads to reads the words as the arguments that they are. -/
theorem argumentsIn_argumentMode {keyword : Keyword} (h : keyword ∈ plainKeywords)
    (words : List WordSpan) :
    argumentsIn (argumentMode keyword) words = argumentWords keyword words := by
  have hmode := argumentMode_mem keyword h
  cases words with
  | nil => rfl
  | cons first words =>
    rw [argumentWords]
    split at hmode <;> rename_i htakes
    · have hname : ∀ mode ∈ nameModes, mode ∉ paramModes ∧ nextMode mode ∈ paramModes := by decide
      obtain ⟨hparam, hnext⟩ := hname _ hmode
      rw [argumentsIn, argumentsIn_of_paramMode hnext, argumentIn, if_neg hparam, if_pos htakes]
    · rw [argumentsIn_of_freeMode hmode, List.map_cons, if_neg htakes]

/-- A keyword of the language leads to the mode of its arguments. -/
theorem find?_rootCases : ∀ keyword ∈ plainKeywords,
    (rootCases.find? (·.matcher.accepts ertGrammar.keywords keyword.label)).map
      (fun arm => (arm.kind, arm.action)) =
        some (.keyword, { transition := .push (argumentMode keyword) }) := by decide +kernel

/-- No keyword begins like a comment. -/
theorem head?_label : ∀ keyword ∈ plainKeywords, keyword.label.toList.head? ≠ some '-' := by
  decide +kernel

/-- A keyword at the beginning of a line is read as such. -/
theorem step_keyword {keyword : Keyword} (hkeyword : keyword ∈ plainKeywords) (n start : Nat)
    {rest : List Char} (hne : keyword.label.toList ≠ [])
    (hlabel : ∀ c ∈ keyword.label.toList, isBlank c = false)
    (hrest : StartsWithout (!isBlank ·) rest) :
    ertGrammar.step n start ⟨.root, []⟩ (keyword.label.toList ++ rest) =
      ⟨[ertGrammar.token n start .keyword keyword.label.toList], keyword.label.toList.length,
        ⟨argumentMode keyword, [.root]⟩⟩ := by
  have hlabel' : ∀ c ∈ keyword.label.toList, (!isBlank c) = true :=
    fun c hc => by rw [hlabel c hc]; rfl
  have htake := takeWhile_run hlabel' hrest
  -- the word up to the next blank is the label, and the first case that takes it leads to its mode
  have hroot : ertGrammar.rulesOf .root = wordRules rootCases := rfl
  obtain ⟨arm, harm, haction⟩ := Option.map_eq_some_iff.1 (find?_rootCases keyword hkeyword)
  obtain ⟨hkind, haction⟩ := Prod.mk.inj haction
  have hhead := head?_label keyword hkeyword
  rw [← @String.ofList_toList keyword.label] at harm
  generalize keyword.label.toList = label at *
  obtain ⟨c, label, rfl⟩ := List.exists_cons_of_ne_nil hne
  rw [List.cons_append] at htake ⊢
  have hcomment : startsWith (c :: (label ++ rest)) ['-', '-'] = false := by
    have hc : ('-' == c) = false := beq_eq_false_iff_ne.2 fun heq => hhead (heq ▸ rfl)
    rw [startsWith, List.isPrefixOf, hc, Bool.false_and]
  rw [@Grammar.step_word ertGrammar n start ⟨.root, []⟩ _ _ hroot c (hlabel c List.mem_cons_self)
    hcomment arm (htake ▸ harm), htake, hkind, haction]
  cases allBlank ((c :: (label ++ rest)).dropWhile (!isBlank ·)) <;> rfl

/-- The tokens that carry meaning are the keyword and those of the arguments. -/
theorem significant_tokensOf {keyword : Keyword} (hkeyword : keyword ∈ plainKeywords) (n : Nat)
    {line : String} {start : Nat} {words : List WordSpan}
    (hline : wordSpans 1 line.toList = ⟨keyword.label.toList, start⟩ :: words)
    (hwords : ∀ word ∈ words, word.Unmarked) :
    ∃ tokens, (ertGrammar.tokensOf n line).filter Token.significant =
        ertGrammar.token n start .keyword keyword.label.toList :: tokens ∧
      ReadAs (argumentWords keyword words) tokens := by
  obtain ⟨rest, hdrop, hne, hlabel, hrest, rfl, rfl⟩ := exists_rest_of_wordSpans hline
  have hmode : argumentMode keyword ∈ argumentModes := by
    have := argumentMode_mem keyword hkeyword
    simp only [argumentModes, List.mem_append]
    split at this
    · exact .inl (.inr this)
    · exact .inl (.inl this)
  have hreads := readAs_tokensFrom n hmode _ rest hwords
  rw [argumentsIn_argumentMode hkeyword] at hreads
  refine ⟨_, ?_, hreads⟩
  rw [Grammar.tokensOf, Grammar.significant_of_word (skipsBlanks List.mem_cons_self) hdrop hne
    (step_keyword hkeyword n _ hne hlabel hrest)]
  rfl

end ErtGrammar

end EnsembleDesk
