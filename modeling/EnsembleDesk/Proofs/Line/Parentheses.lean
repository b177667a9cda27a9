import EnsembleDesk.Proofs.Line.Nesting
import EnsembleDesk.Proofs.Line.Settling
/-!
# Refined parentheses are balanced

Where no parenthesis is opened within another one, at most one is never closed: the last one. The
reader of arguments finds it (`LineParts.mem_unclosed_iff`), refinement marks it as invalid and
marks no other parenthesis (`LineParts.eq_none_of_parenthesis`), and so those that are left are
balanced (`Nested.map_apply`).

## Main results

* `Language.parentheses_balanced`: the parentheses of a refined line, and which of those that the
  grammar yields are left.
-/

namespace EnsembleDesk

open LineParts ErtGrammar EnsembleDesk.Language

theorem Marking.isPlain_mark {marks : Marking} {token : Token} (h : token.isPlain = true)
    (place : Nat) : (marks.mark place token).isPlain = true := by
  obtain ⟨hopening, hclosing⟩ := Token.isPlain_iff.1 h
  exact Token.isPlain_iff.2 ⟨isDelimiter_mark hopening, isDelimiter_mark hclosing⟩

/-! ### Reading arguments -/

section Reading

variable {marks : Marking} {unclosed : List Nat} {placed before after : List (Token × Nat)}
  {opening token : Token} {place : Nat} {isOpen staysOpen : Bool}

/-- Without colons, a parenthesis that is closed is not marked, and neither is one that closes. -/
theorem LineParts.eq_none_of_parenthesis
    (hcolon : ∀ entry ∈ placed, entry.1.isDelimiter ":" = false)
    (hnodup : (placed.map Prod.snd).Nodup)
    (hmarked : Marked marks (placed.map Prod.snd) (readArguments unclosed placed)) :
    ∀ entry ∈ placed, entry.1.isPlain = false → entry.2 ∉ (readArguments unclosed placed).2 →
      marks entry.2 = none := by
  induction placed generalizing unclosed with
  | nil => exact List.forall_mem_nil _
  | cons first rest ih =>
    obtain ⟨token, place⟩ := first
    obtain ⟨hplace, hnodup⟩ := List.nodup_cons.1 hnodup
    obtain ⟨-, hcolon⟩ := List.forall_mem_cons.1 hcolon
    have htail := hmarked.mono fun _ => List.mem_cons_of_mem place
    rw [List.forall_mem_cons]
    -- a parenthesis is a part of no argument, so it is marked only if it is never closed
    cases hopening : token.isDelimiter "(" with
    | true =>
      rw [readArguments_opening hopening] at hmarked htail ⊢
      exact ⟨fun _ => hmarked.eq_none_of_not_mem hplace rfl, ih hcolon hnodup htail⟩
    | false =>
      cases hclosing : token.isDelimiter ")" with
      | true =>
        rw [readArguments_closing hopening hclosing] at hmarked htail ⊢
        exact ⟨fun _ => hmarked.eq_none_of_not_mem hplace rfl, ih hcolon hnodup htail⟩
      | false =>
        have hrest := marked_of_word hopening hclosing hcolon hplace htail
        rw [unclosed_of_word hopening hclosing hcolon]
        refine ⟨fun hparenthesis => ?_, ih hcolon hnodup hrest⟩
        rw [Token.isPlain_iff.2 ⟨hopening, hclosing⟩] at hparenthesis
        cases hparenthesis

/-- A parenthesis that is open before tokens is never closed by them just if none of them closes
one. -/
theorem Nested.mem_unclosed_iff (h : Nested true (after.map Prod.fst) staysOpen)
    (hcolon : ∀ entry ∈ after, entry.1.isDelimiter ":" = false)
    (hplace : place ∉ after.map Prod.snd) :
    place ∈ (readArguments [place] after).2 ↔ ∀ entry ∈ after, entry.1.isDelimiter ")" = false := by
  induction after with
  | nil => simp
  | cons first rest ih =>
    obtain ⟨token, other⟩ := first
    obtain ⟨-, hcolon⟩ := List.forall_mem_cons.1 hcolon
    rw [List.map_cons, List.mem_cons, not_or] at hplace
    rw [List.forall_mem_cons]
    cases h with
    | plain hplain hrest =>
      obtain ⟨hopening, hclosing⟩ := Token.isPlain_iff.1 hplain
      rw [unclosed_of_word hopening hclosing hcolon, ih hrest hcolon hplace.2]
      exact (and_iff_right hclosing).symm
    | closing hcloses _ =>
      rw [readArguments_closing (Token.isDelimiter_of_ne hcloses (by decide)) hcloses]
      refine iff_of_false (fun hmem => ?_) fun hnone => ?_
      · exact (mem_unclosed_readArguments _ _ place hmem).elim List.not_mem_nil hplace.2
      · cases hcloses.symm.trans hnone.1

/-- A parenthesis is never closed just if none closes one behind it. -/
theorem LineParts.mem_unclosed_iff
    (h : Nested isOpen ((before ++ (opening, place) :: after).map Prod.fst) staysOpen)
    (hopening : opening.isDelimiter "(" = true)
    (hcolon : ∀ entry ∈ before ++ (opening, place) :: after, entry.1.isDelimiter ":" = false)
    (hplace : place ∉ after.map Prod.snd) (hlength : unclosed.length = isOpen.toNat) :
    place ∈ (readArguments unclosed (before ++ (opening, place) :: after)).2 ↔
      ∀ entry ∈ after, entry.1.isDelimiter ")" = false := by
  -- as many places are unclosed as parentheses are open, at most one
  induction before generalizing unclosed isOpen with
  | nil =>
    obtain ⟨-, hcolon⟩ := List.forall_mem_cons.1 hcolon
    rw [List.nil_append, readArguments_opening hopening]
    cases h with
    | plain hplain => cases (Token.isPlain_of_opening hopening).symm.trans hplain
    | opening _ hrest =>
      rw [List.length_eq_zero_iff.1 hlength]
      exact hrest.mem_unclosed_iff hcolon hplace
    | closing hcloses => cases (Token.isDelimiter_of_ne hcloses (by decide)).symm.trans hopening
  | cons first before ih =>
    obtain ⟨token, other⟩ := first
    rw [List.cons_append, List.forall_mem_cons] at hcolon
    rw [List.cons_append, List.map_cons] at h
    rw [List.cons_append]
    cases h with
    | plain hplain hrest =>
      obtain ⟨hopens, hcloses⟩ := Token.isPlain_iff.1 hplain
      rw [unclosed_of_word hopens hcloses hcolon.2]
      exact ih hrest hcolon.2 hlength
    | opening hopens hrest =>
      rw [readArguments_opening hopens]
      exact ih hrest hcolon.2 (congrArg (· + 1) hlength)
    | closing hcloses hrest =>
      rw [readArguments_closing (Token.isDelimiter_of_ne hcloses (by decide)) hcloses]
      exact ih hrest hcolon.2 (by rw [List.length_tail, hlength]; rfl)

/-- Marked, the parentheses that are never closed are hidden, and those that are left are closed. A
parenthesis that was open before is still so unless it is never closed. -/
theorem Nested.map_apply (h : Nested isOpen (placed.map Prod.fst) staysOpen)
    (hcolon : ∀ entry ∈ placed, entry.1.isDelimiter ":" = false)
    (hnodup : (unclosed ++ placed.map Prod.snd).Nodup) (hlength : unclosed.length = isOpen.toNat)
    (hmarked : Marked marks (placed.map Prod.snd) (readArguments unclosed placed)) :
    Nested (unclosed.any fun place => place ∉ (readArguments unclosed placed).2)
      ((placed.map marks.apply).map Prod.fst) false := by
  induction placed generalizing unclosed isOpen with
  | nil =>
    have hnone : unclosed.any (fun place => decide (place ∉ unclosed)) = false := by simp
    rw [readArguments_nil, hnone]
    exact .nil
  | cons first rest ih =>
    obtain ⟨token, place⟩ := first
    obtain ⟨-, hcolon⟩ := List.forall_mem_cons.1 hcolon
    have hplace : place ∉ rest.map Prod.snd :=
      (List.nodup_cons.1 (List.nodup_append.1 hnodup).2.1).1
    have htail := hmarked.mono fun _ => List.mem_cons_of_mem place
    rw [List.map_cons] at h
    rw [Marking.map_apply_cons, List.map_cons]
    cases h with
    | plain hplain hrest =>
      obtain ⟨hopening, hclosing⟩ := Token.isPlain_iff.1 hplain
      rw [unclosed_of_word hopening hclosing hcolon]
      exact .plain (Marking.isPlain_mark hplain place)
        (ih hrest hcolon (hnodup.sublist ((List.sublist_cons_self ..).append_left _)) hlength
          (marked_of_word hopening hclosing hcolon hplace htail))
    | opening hopening hrest =>
      obtain rfl := List.length_eq_zero_iff.1 hlength
      rw [readArguments_opening hopening] at hmarked htail ⊢
      have hrefined := ih hrest hcolon (List.nodup_middle.1 hnodup) rfl htail
      rw [List.any_cons, List.any_nil, Bool.or_false] at hrefined
      by_cases hopen : place ∈ (readArguments [place] rest).2
      -- the parenthesis is no delimiter any more
      · have hmark := hmarked.unclosed place hopen
        rw [decide_eq_false (not_not.2 hopen)] at hrefined
        exact .plain (Token.isPlain_iff.2 ⟨Marking.isDelimiter_mark_of_ne_none hmark,
          Marking.isDelimiter_mark_of_ne_none hmark⟩) hrefined
      · rw [decide_eq_true hopen] at hrefined
        rw [Marking.mark_of_none (hmarked.eq_none_of_not_mem hplace rfl hopen)]
        exact .opening hopening hrefined
    | closing hclosing hrest =>
      obtain ⟨last, rfl⟩ := List.length_eq_one_iff.1 hlength
      rw [readArguments_closing (Token.isDelimiter_of_ne hclosing (by decide)) hclosing,
        List.tail_cons] at hmarked htail ⊢
      -- what is never closed is opened behind this parenthesis
      have hbehind : ∀ other ∈ (readArguments [] rest).2, other ∈ rest.map Prod.snd :=
        fun other hother => (mem_unclosed_readArguments _ _ other hother).resolve_left
          List.not_mem_nil
      have hlast : last ∉ (readArguments [] rest).2 := fun hmem =>
        (List.nodup_cons.1 hnodup).1 (List.mem_cons_of_mem _ (hbehind last hmem))
      have hrefined := ih hrest hcolon (List.nodup_append.1 hnodup).2.1.of_cons rfl htail
      rw [Marking.mark_of_none (hmarked.eq_none_of_not_mem hplace rfl fun hmem =>
        hplace (hbehind place hmem)), List.any_cons, decide_eq_true hlast]
      exact .closing hclosing hrefined

end Reading

/-! ### A line -/

section Line

variable {tokens : List Token} {marks : Marking} {first : Token × Nat} {rest : List (Token × Nat)}
  {staysOpen : Bool}

/-- Where there are no parentheses, refinement leads to none. -/
theorem isPlain_refine (h : ∀ token ∈ tokens.filter Token.significant, token.isPlain = true) :
    ∀ token ∈ (refine tokens).filter Token.significant, token.isPlain = true := by
  cases hkeyword : (ofTokens tokens).keyword? tokens with
  | none => rwa [refine_of_keyword?_eq_none hkeyword]
  | some keyword =>
    obtain ⟨marks, first, rest, hrefined⟩ := exists_refinedBy hkeyword
    rw [← map_fst_filter_significant, hrefined.filter_eq, List.forall_mem_map] at h
    rw [← map_fst_filter_significant, hrefined.filter_refine_eq, ← List.map_cons,
      List.forall_mem_map, List.forall_mem_map]
    exact fun entry hentry => Marking.isPlain_mark (h entry hentry) entry.2

/-- The parentheses that are left of a job are balanced. -/
theorem RefinedBy.nested (h : RefinedBy tokens marks first rest) (hfirst : first.1.isPlain = true)
    (hnested : Nested false (rest.map Prod.fst) staysOpen)
    (hcolon : ∀ entry ∈ rest, entry.1.isDelimiter ":" = false) :
    Nested false (refine tokens) false := by
  rw [← Nested.filter_significant_iff, ← map_fst_filter_significant, h.filter_refine_eq,
    List.map_cons]
  exact .plain (Marking.isPlain_mark hfirst first.2)
    (hnested.map_apply hcolon h.nodup rfl h.marked)

/-- The tokens that carry meaning before and behind one that does. -/
theorem RefinedBy.exists_split (h : RefinedBy tokens marks first rest)
    (hfirst : first.1.isPlain = true) {before after : List Token} {opening : Token}
    (htokens : tokens = before ++ opening :: after) (hopening : opening.isDelimiter "(" = true) :
    ∃ placed, rest = placed ++ (opening, before.length) ::
      (after.zipIdx (before.length + 1)).filter (·.1.significant) := by
  have hparenthesis := Token.isPlain_of_opening hopening
  have hsignificant := Token.significant_of_isPlain_eq_false hparenthesis
  have hkept : ∀ rest : List (Token × Nat),
      ((opening, before.length) :: rest).filter (·.1.significant) =
        (opening, before.length) :: rest.filter (·.1.significant) :=
    fun _ => List.filter_cons_of_pos hsignificant
  have hfilter := h.filter_eq
  rw [htokens, List.zipIdx_append, List.zipIdx_cons, List.filter_append, Nat.zero_add, hkept]
    at hfilter
  cases hbefore : before.zipIdx.filter (·.1.significant) with
  | nil =>
    rw [hbefore, List.nil_append] at hfilter
    rw [← (List.cons.inj hfilter).1] at hfirst
    cases hparenthesis.symm.trans hfirst
  | cons head placed =>
    rw [hbefore] at hfilter
    exact ⟨placed, (List.cons.inj hfilter).2.symm⟩

/-- An opening parenthesis of a job is left as it is if one behind it closes a parenthesis, and else
invalid. -/
theorem RefinedBy.kind_refine (h : RefinedBy tokens marks first rest)
    (hfirst : first.1.isPlain = true) {keyword : Keyword}
    (hkeyword : first.1.keyword = some keyword)
    (hnested : Nested false (rest.map Prod.fst) staysOpen)
    (hcolon : ∀ entry ∈ rest, entry.1.isDelimiter ":" = false) {before after : List Token}
    {opening : Token} (htokens : tokens = before ++ opening :: after)
    (hopening : opening.isDelimiter "(" = true) :
    ((∃ token ∈ after, token.isDelimiter ")" = true) →
        (refine tokens)[before.length]? = some opening) ∧
      ((∀ token ∈ after, token.isDelimiter ")" = false) →
        ∃ token, (refine tokens)[before.length]? = some token ∧ token.kind = .invalid) := by
  obtain ⟨placed, hrest⟩ := h.exists_split hfirst htokens hopening
  set behind := (after.zipIdx (before.length + 1)).filter (·.1.significant) with hbehind
  have hmem : (opening, before.length) ∈ rest := by simp [hrest]
  have htoken : tokens[before.length]? = some opening := by simp [htokens]
  have hplace : before.length ∉ behind.map Prod.snd := by
    have hnodup := h.nodup
    rw [hrest, List.map_append, List.map_cons] at hnodup
    exact (List.nodup_cons.1 (List.nodup_append.1 hnodup).2.1).1
  -- what stands behind it carries meaning or closes nothing
  have hafter : (∀ entry ∈ behind, entry.1.isDelimiter ")" = false) ↔
      ∀ token ∈ after, token.isDelimiter ")" = false := by
    have hmap : (∀ token ∈ behind.map Prod.fst, token.isDelimiter ")" = false) ↔
        ∀ entry ∈ behind, entry.1.isDelimiter ")" = false := List.forall_mem_map
    rw [← hmap, hbehind, map_fst_filter_zipIdx]
    refine ⟨fun hall token htoken => ?_, fun hall token htoken =>
      hall token (List.mem_of_mem_filter htoken)⟩
    by_cases hsignificant : token.significant = true
    · exact hall token (List.mem_filter.2 ⟨htoken, hsignificant⟩)
    · exact (Token.isPlain_iff.1
        (Token.isPlain_of_not_significant (by simpa using hsignificant))).2
  have hlength : ([] : List Nat).length = false.toNat := rfl
  have hunclosed := LineParts.mem_unclosed_iff (hrest ▸ hnested) hopening (hrest ▸ hcolon) hplace
    hlength
  rw [← hrest, hafter] at hunclosed
  have hrefined : (refine tokens)[before.length]? = some (marks.mark before.length opening) := by
    rw [h.refine_eq, Marking.applyAll, List.getElem?_mapIdx, htoken, Option.map_some]
  -- closed, it is a part of no argument; unclosed, it is marked itself
  constructor
  · rintro ⟨token, hmemAfter, hcloses⟩
    have hnot : before.length ∉ (readArguments [] rest).2 := fun hopen => by
      cases (hunclosed.1 hopen token hmemAfter).symm.trans hcloses
    rw [hrefined, Marking.mark_of_none (eq_none_of_parenthesis hcolon h.nodup h.marked _ hmem
      (Token.isPlain_of_opening hopening) hnot)]
  · intro hnone
    have hfolded := hrefined
    rw [refine_eq_of_filter h.filter_eq hkeyword, refineParts] at hfolded
    exact ⟨_, hrefined, MarksAt.kind_foldl_setKind (hunclosed.2 hnone) hfolded⟩

end Line

/-- In the refined tokens of a configuration line each parenthesis is closed, and none is opened
within another one. Of the opening parentheses that the grammar yields, those are left that are
closed; any other one is invalid. -/
theorem Language.parentheses_balanced (line : Nat) (text : String) :
    let tokens := ertGrammar.tokensOf line text
    let refined := Language.ert.tokensOf line text
    Balanced refined ∧
      ∀ before opening after, tokens = before ++ opening :: after →
        opening.isDelimiter "(" = true →
        (ClosedBehind after → refined[before.length]? = some opening) ∧
        (¬ ClosedBehind after → (refined[before.length]?).map Token.kind = some .invalid) := by
  intro tokens refined
  have hrefined : refined = refine tokens := rfl
  have hparenthesized : Parenthesized (tokens.filter Token.significant) :=
    parenthesized_tokensOf line text
  generalize hsignificant : tokens.filter Token.significant = significant at hparenthesized
  obtain ⟨staysOpen, hnested⟩ := (hsignificant ▸ hparenthesized).exists_nested
  -- only a job has parentheses: in any other line there is none to be opened
  cases hparenthesized with
  | plain hplain =>
    have hbalanced : Nested false (refined.filter Token.significant) false :=
      .of_isPlain (isPlain_refine (hsignificant ▸ hplain))
    refine ⟨(Nested.filter_significant_iff.1 hbalanced).balanced, ?_⟩
    intro before opening after htokens hopening
    have hparenthesis := Token.isPlain_of_opening hopening
    have hmem : opening ∈ tokens.filter Token.significant := List.mem_filter.2
      ⟨by simp [htokens], Token.significant_of_isPlain_eq_false hparenthesis⟩
    cases hparenthesis.symm.trans (hplain opening (hsignificant ▸ hmem))
  | @job head others keyword staysOpen hhead hkeyword hothers hcolon =>
    rw [← map_fst_filter_significant] at hsignificant
    obtain ⟨⟨_, first⟩, rest, hfilter, rfl, rfl⟩ := List.map_eq_cons_iff.1 hsignificant
    rw [List.forall_mem_map] at hcolon
    obtain ⟨marks, leading, behind, h⟩ :=
      exists_refinedBy ((keyword?_of_filter_eq_cons hfilter).trans hkeyword)
    obtain ⟨rfl, rfl⟩ := List.cons.inj (hfilter.symm.trans h.filter_eq)
    refine ⟨(h.nested hhead hothers hcolon).balanced, ?_⟩
    intro before opening after htokens hopening
    obtain ⟨hclosed, hopen⟩ := h.kind_refine hhead hkeyword hothers hcolon htokens hopening
    -- the parenthesis is read outside of any other, so what closes it stands behind it
    rw [htokens] at hnested
    obtain ⟨isOpen, -, hbehind⟩ := (Nested.filter_significant_iff.1 hnested).exists_of_append
    cases hbehind with
    | plain hplain => cases (Token.isPlain_of_opening hopening).symm.trans hplain
    | closing hcloses => cases (Token.isDelimiter_of_ne hcloses (by decide)).symm.trans hopening
    | opening _ hbehind =>
      rw [hbehind.closedBehind_iff]
      refine ⟨hclosed, fun hnone => ?_⟩
      push Not at hnone
      obtain ⟨token, htoken, hkind⟩ := hopen (by simpa using hnone)
      rw [hrefined, htoken, Option.map_some, hkind]

end EnsembleDesk
