import AppLint.Text.Search
import Mathlib.Data.List.Infix

/-! Where a text first occurs in another, and how a text is cut there. -/
namespace AppLint
namespace Text

/-- `needle` stands at the place `i` of `s`, and at no earlier one. -/
structure FirstAt (needle s : List Char) (i : Nat) : Prop where
  occurs : needle <+: s.drop i
  first : ∀ j < i, ¬needle <+: s.drop j

theorem FirstAt.le {needle s : List Char} {i j : Nat} (h : FirstAt needle s i)
    (hj : needle <+: s.drop j) : i ≤ j :=
  Nat.le_of_not_lt fun hlt => h.first j hlt hj

theorem firstAt_zero {needle s : List Char} : FirstAt needle s 0 ↔ needle <+: s := by
  constructor
  · intro h
    simpa using h.occurs
  · intro h
    exact ⟨by simpa using h,by simp⟩

theorem firstAt_succ {needle s : List Char} {c : Char} {i : Nat} :
    FirstAt needle (c :: s) (i + 1) ↔ ¬needle <+: c :: s ∧ FirstAt needle s i := by
  constructor
  · intro h
    refine ⟨by simpa using h.first 0 (Nat.succ_pos i),by simpa using h.occurs,fun j hj => ?_⟩
    simpa using h.first (j + 1) (Nat.succ_lt_succ hj)
  · rintro ⟨hnot,h⟩
    refine ⟨by simpa using h.occurs,fun j hj => ?_⟩
    cases j with
    | zero => simpa using hnot
    | succ j => simpa using h.first j (Nat.lt_of_succ_lt_succ hj)

theorem cut?_append (needle rest : List Char) : cut? needle (needle ++ rest) = some ([],rest) := by
  cases hs : needle ++ rest with
  | nil =>
    obtain ⟨rfl,rfl⟩ := List.append_eq_nil_iff.mp hs
    rfl
  | cons c s =>
    have hhere : needle.isPrefixOf (c :: s) = true :=
      List.isPrefixOf_iff_prefix.mpr ⟨rest,hs⟩
    rw [cut?,if_pos hhere,← hs,List.drop_left]

theorem cut?_cons_of_not_isPrefix {needle s : List Char} {c : Char} (h : ¬needle <+: c :: s) :
    cut? needle (c :: s) = (cut? needle s).map fun (before,after) => (c :: before,after) := by
  rw [cut?,if_neg (mt List.isPrefixOf_iff_prefix.mp h)]

theorem cut?_eq_some_iff {needle s before after : List Char} :
    cut? needle s = some (before,after) ↔
      s = before ++ needle ++ after ∧ FirstAt needle s before.length := by
  constructor
  · intro h
    refine ⟨eq_append_of_cut? h,?_⟩
    induction s generalizing before with
    | nil =>
      have hnil := eq_append_of_cut? h
      simp only [List.nil_eq,List.append_eq_nil_iff] at hnil
      obtain ⟨⟨rfl,rfl⟩,rfl⟩ := hnil
      exact firstAt_zero.mpr List.prefix_rfl
    | cons c s ih =>
      by_cases hhere : needle <+: c :: s
      · obtain ⟨rest,hrest⟩ := hhere
        rw [← hrest,cut?_append] at h
        cases h
        exact firstAt_zero.mpr ⟨after,hrest⟩
      · rw [cut?_cons_of_not_isPrefix hhere] at h
        obtain ⟨⟨b,a⟩,hcut,heq⟩ := Option.map_eq_some_iff.mp h
        cases heq
        exact firstAt_succ.mpr ⟨hhere,ih hcut⟩
  · rintro ⟨rfl,hfirst⟩
    induction before with
    | nil => exact cut?_append needle after
    | cons c b ih =>
      rw [List.cons_append,List.cons_append] at hfirst ⊢
      obtain ⟨hhere,hrest⟩ := firstAt_succ.mp hfirst
      rw [cut?_cons_of_not_isPrefix hhere,ih hrest,Option.map_some]

theorem cut?_eq_none_iff {needle s : List Char} : cut? needle s = none ↔ ¬needle <:+: s := by
  induction s with
  | nil => simp [cut?]
  | cons c s ih =>
    rw [List.infix_cons_iff,not_or,← ih,← List.isPrefixOf_iff_prefix,cut?]
    cases needle.isPrefixOf (c :: s) <;> simp

theorem dropSuffix_cases (suffix s : List Char) :
    s = dropSuffix suffix s ++ suffix ∨ dropSuffix suffix s = s ∧ ¬suffix <:+ s := by
  unfold dropSuffix
  cases hrest : suffix.isSuffixOf? s with
  | some rest => exact Or.inl (List.append_eq_of_isSuffixOf?_eq_some hrest).symm
  | none =>
    refine Or.inr ⟨rfl,?_⟩
    rintro ⟨rest,hs⟩
    rw [List.isSuffixOf?_eq_some_iff_append_eq.mpr hs] at hrest
    cases hrest

theorem dropSuffix_singleton (c : Char) (s : List Char) :
    ∃ closing, s = dropSuffix [c] s ++ closing ∧
      (closing = [c] ∨ closing = [] ∧ (dropSuffix [c] s).getLast? ≠ some c) := by
  rcases dropSuffix_cases [c] s with hs | ⟨hs,hnot⟩
  · exact ⟨[c],hs,Or.inl rfl⟩
  · refine ⟨[],by simp [hs],Or.inr ⟨rfl,fun hlast => ?_⟩⟩
    rw [hs] at hlast
    obtain ⟨before,hbefore⟩ := List.getLast?_eq_some_iff.mp hlast
    exact hnot ⟨before,hbefore.symm⟩

end Text
end AppLint
