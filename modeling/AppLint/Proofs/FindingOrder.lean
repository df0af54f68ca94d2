import AppLint.Finding
import Mathlib.Data.Prod.Lex
import Mathlib.Data.String.Basic

/-! The order of reports is the lexicographic order of path, rule, line and message. -/
namespace AppLint
namespace Finding

/-- All of a finding but its severity, in the order in which findings are compared. -/
def key (f : Finding) : String ×ₗ String ×ₗ ℕ ×ₗ String :=
  toLex (f.path,toLex (f.ruleId,toLex (f.line,f.message)))

theorem le_iff_key (a b : Finding) : a.le b = true ↔ a.key ≤ b.key := by
  simp only [key,Prod.Lex.toLex_le_toLex]
  unfold le
  split_ifs with hpath hrule hline
  · simp [hpath]
  · simp_all
  · simp_all
  · rw [Bool.not_eq_true',decide_eq_false_iff_not,not_lt]
    simp_all

theorem eq_of_key_eq {a b : Finding} (hkey : a.key = b.key) (hseverity : a.severity = b.severity) :
    a = b := by
  simp only [key,toLex_inj,Prod.mk.injEq] at hkey
  obtain ⟨hpath,hrule,hline,hmessage⟩ := hkey
  cases a
  cases b
  simp_all

theorem pairwise_sort (findings : List Finding) :
    (sort findings).Pairwise fun a b => a.key ≤ b.key := by
  have h : (sort findings).Pairwise fun a b => a.le b = true := by
    apply List.pairwise_mergeSort
    · intro a b c hab hbc
      rw [le_iff_key] at hab hbc ⊢
      exact hab.trans hbc
    · intro a b
      rw [Bool.or_eq_true,le_iff_key,le_iff_key]
      exact le_total a.key b.key
  exact h.imp fun {a b} => (le_iff_key a b).mp

/-- The sorted list does not depend on the order of the findings, if those with the same rule have
the same severity. -/
theorem sort_eq_of_perm {xs ys : List Finding} (hperm : xs.Perm ys)
    (hseverity : ∀ a ∈ xs, ∀ b ∈ xs, a.ruleId = b.ruleId → a.severity = b.severity) :
    sort xs = sort ys := by
  have hsorted : (sort xs).Perm (sort ys) :=
    (List.mergeSort_perm xs le).trans (hperm.trans (List.mergeSort_perm ys le).symm)
  refine hsorted.eq_of_pairwise (fun a b ha hb hab hba => ?_) (pairwise_sort xs) (pairwise_sort ys)
  have hkey : a.key = b.key := le_antisymm hab hba
  have ha' : a ∈ xs := List.mem_mergeSort.mp ha
  have hb' : b ∈ xs := hperm.mem_iff.mpr (List.mem_mergeSort.mp hb)
  have hrule : a.ruleId = b.ruleId := by
    simp only [key,toLex_inj,Prod.mk.injEq] at hkey
    exact hkey.2.1
  exact eq_of_key_eq hkey (hseverity a ha' b hb' hrule)

end Finding
end AppLint
