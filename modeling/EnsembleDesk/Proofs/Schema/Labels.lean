import EnsembleDesk.Schema.Dist
import EnsembleDesk.Schema.Ert
/-!
# Keywords and parameters by their labels

In the tables of both languages different keywords have different labels, and so have the parameters
of a keyword. A label then finds the entry that has it and no other: `find?_label_eq_some_iff`.
-/

namespace EnsembleDesk

open Schema

section Labels

variable {α : Type} {label : α → String} {table : List α}

/-- Distinct labels find the entries that have them. -/
theorem find?_label_eq_some_iff (hlabels : (table.map label).Nodup) {name : String} {entry : α} :
    table.find? (label · == name) = some entry ↔ entry ∈ table ∧ label entry = name := by
  induction table with
  | nil => simp
  | cons first table ih =>
    obtain ⟨hfirst, hlabels⟩ := List.nodup_cons.1 hlabels
    rw [List.find?_cons, List.mem_cons]
    by_cases hname : label first = name
    · subst hname
      simp only [beq_self_eq_true, Option.some.injEq]
      constructor
      · rintro rfl
        exact ⟨.inl rfl, rfl⟩
      · rintro ⟨rfl | hmem, hsame⟩
        · rfl
        -- no later entry has the label of the first one
        · exact absurd (List.mem_map.2 ⟨entry, hmem, hsame⟩) hfirst
    · rw [beq_false_of_ne hname]
      refine (ih hlabels).trans (and_congr_left fun hsame => ?_)
      have hother : entry ≠ first := fun heq => hname (heq ▸ hsame)
      exact (or_iff_right hother).symm

end Labels

/-- Different keywords of configurations have different labels. -/
theorem nodup_ertKeywords : (ertKeywords.map Keyword.label).Nodup := by decide +kernel

/-- Different keywords of priors have different labels. -/
theorem nodup_distKeywords : (distKeywords.map Keyword.label).Nodup := by decide +kernel

/-- The parameters of a keyword have different labels. -/
theorem nodup_parameters : ∀ keyword ∈ ertKeywords,
    (keyword.parameters.map Parameter.label).Nodup := by decide +kernel

namespace Keyword

theorem find?_eq_some_iff {table : List Keyword} (hlabels : (table.map label).Nodup) {name : String}
    {keyword : Keyword} :
    find? table name = some keyword ↔ keyword ∈ table ∧ keyword.label = name :=
  find?_label_eq_some_iff hlabels

theorem parameter?_eq_some_iff {keyword : Keyword}
    (hlabels : (keyword.parameters.map Parameter.label).Nodup) {name : String}
    {parameter : Parameter} :
    keyword.parameter? name = some parameter ↔
      parameter ∈ keyword.parameters ∧ parameter.label = name :=
  find?_label_eq_some_iff hlabels

end Keyword

end EnsembleDesk
