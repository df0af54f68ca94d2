import AppLint.Proofs.TextCut
import AppLint.Text.Blank
import Mathlib.Data.List.TakeWhile

/-! Pieces of texts: what stands between blank ends, between separators, after the last mark, and
between two bytes. -/
namespace AppLint
namespace Text

def Blank (s : List Char) : Prop := ∀ c ∈ s, isBlank c = true

theorem Blank.not_mem {s : List Char} (h : Blank s) {c : Char} (hc : isBlank c = false) : c ∉ s := by
  intro hmem
  simp [h c hmem] at hc

theorem trimStart_append {a : List Char} (ha : Blank a) (s : List Char) :
    trimStart (a ++ s) = trimStart s :=
  List.dropWhile_append_of_pos ha

theorem trimStart_cons {c : Char} (hc : isBlank c = false) (s : List Char) :
    trimStart (c :: s) = c :: s := by
  simp [trimStart,hc]

theorem trimEnd_append {b : List Char} (hb : Blank b) (s : List Char) :
    trimEnd (s ++ b) = trimEnd s := by
  have hrev : ∀ c ∈ b.reverse, isBlank c = true := fun c hc => hb c (List.mem_reverse.mp hc)
  simp only [trimEnd,List.reverse_append,List.dropWhile_append_of_pos hrev]

theorem trim_append_left {a : List Char} (ha : Blank a) (s : List Char) : trim (a ++ s) = trim s := by
  simp only [trim,trimStart_append ha]

theorem trim_append_right {b : List Char} (hb : Blank b) (s : List Char) :
    trim (s ++ b) = trim s := by
  have hstart : trimStart (s ++ b) = trimStart s ++ b ∨ trimStart s = [] ∧ trimStart (s ++ b) = [] := by
    simp only [trimStart,List.dropWhile_append]
    cases hs : s.dropWhile isBlank with
    | nil => exact Or.inr ⟨rfl,List.dropWhile_eq_nil_iff.mpr hb⟩
    | cons c rest => exact Or.inl rfl
  rcases hstart with h | ⟨hs,hsb⟩
  · rw [trim,h,trimEnd_append hb,trim]
  · rw [trim,trim,hs,hsb]

theorem eq_append_trimStart (s : List Char) : ∃ a, Blank a ∧ s = a ++ trimStart s := by
  refine ⟨s.takeWhile isBlank,fun c hc => ?_,List.takeWhile_append_dropWhile.symm⟩
  exact List.mem_takeWhile_imp hc

theorem eq_append_trimEnd (s : List Char) : ∃ b, Blank b ∧ s = trimEnd s ++ b := by
  obtain ⟨a,ha,hs⟩ := eq_append_trimStart s.reverse
  refine ⟨a.reverse,fun c hc => ha c (List.mem_reverse.mp hc),?_⟩
  simpa [trimEnd,trimStart] using congrArg List.reverse hs

theorem eq_append_trim (s : List Char) : ∃ a b, Blank a ∧ Blank b ∧ s = a ++ trim s ++ b := by
  obtain ⟨a,ha,hs⟩ := eq_append_trimStart s
  obtain ⟨b,hb,hstart⟩ := eq_append_trimEnd (trimStart s)
  exact ⟨a,b,ha,hb,by rw [List.append_assoc,trim,← hstart,← hs]⟩

@[simp] theorem trim_trim (s : List Char) : trim (trim s) = trim s := by
  obtain ⟨a,b,ha,hb,hs⟩ := eq_append_trim s
  have h := congrArg trim hs
  rw [trim_append_right hb,trim_append_left ha] at h
  exact h.symm

theorem trim_isInfix (s : List Char) : trim s <:+: s := by
  obtain ⟨a,b,-,-,hs⟩ := eq_append_trim s
  exact ⟨a,b,hs.symm⟩

theorem trim_of_ends {c d : Char} (hc : isBlank c = false) (hd : isBlank d = false)
    (s : List Char) : trim (c :: (s ++ [d])) = c :: (s ++ [d]) := by
  simp [trim,trimStart,trimEnd,hc,hd]

theorem trim_of_forall {s : List Char} (h : ∀ c ∈ s, isBlank c = false) : trim s = s := by
  have hdrop : ∀ t : List Char, (∀ c ∈ t, isBlank c = false) → t.dropWhile isBlank = t := by
    intro t ht
    cases t with
    | nil => rfl
    | cons c t => simp [ht c List.mem_cons_self]
  have hrev : s.reverse.dropWhile isBlank = s.reverse :=
    hdrop _ fun c hc => h c (List.mem_reverse.mp hc)
  rw [trim,trimStart,hdrop s h,trimEnd,hrev,List.reverse_reverse]

theorem FirstAt.not_isInfix {needle s before rest : List Char} (h : FirstAt needle s before.length)
    (hne : needle ≠ []) (hs : s = before ++ rest) : ¬needle <:+: before := by
  rintro ⟨front,back,rfl⟩
  have hplace : needle <+: s.drop front.length := by
    simp [hs]
  have hle := h.le hplace
  have hpos := List.length_pos_iff.mpr hne
  simp only [List.length_append] at hle
  omega

theorem contains_iff {needle s : List Char} : contains needle s = true ↔ needle <:+: s := by
  induction s with
  | nil => simp [contains]
  | cons c s ih => simp [contains,List.infix_cons_iff,ih]

theorem splitOn_eq (sep : Char) (s : List Char) : splitOn sep s = s.splitOn sep := by
  induction s with
  | nil => rfl
  | cons c s ih =>
    rw [List.splitOn,List.splitOnP_cons_eq_if_modifyHead,← List.splitOn,splitOn,ih]
    by_cases hc : c = sep
    · simp [hc]
    · cases hs : s.splitOn sep with
      | nil => exact absurd hs (List.splitOn_ne_nil sep s)
      | cons piece pieces => simp [hc]

theorem mem_of_mem_intercalate {sep : List Char} {pieces : List (List Char)} {c : Char}
    (h : c ∈ sep.intercalate pieces) : c ∈ sep ∨ ∃ piece ∈ pieces, c ∈ piece := by
  induction pieces with
  | nil => simp at h
  | cons x rest ih =>
    cases rest with
    | nil => exact Or.inr ⟨x,by simp,by simpa using h⟩
    | cons y rest =>
      rw [List.intercalate_cons_cons,List.mem_append,List.mem_append] at h
      rcases h with (hx | hsep) | hrest
      · exact Or.inr ⟨x,List.mem_cons_self,hx⟩
      · exact Or.inl hsep
      · refine (ih hrest).imp_right ?_
        rintro ⟨piece,hpiece,hc⟩
        exact ⟨piece,List.mem_cons_of_mem _ hpiece,hc⟩

theorem intercalate_concat {sep : List Char} {pieces : List (List Char)} (h : pieces ≠ [])
    (last : List Char) :
    sep.intercalate (pieces ++ [last]) = sep.intercalate pieces ++ sep ++ last := by
  induction pieces with
  | nil => exact absurd rfl h
  | cons x rest ih =>
    cases rest with
    | nil => simp
    | cons y rest =>
      simp only [List.cons_append,List.intercalate_cons_cons] at ih ⊢
      rw [ih (List.cons_ne_nil y rest)]
      simp only [List.append_assoc]

theorem one_lt_length_splitOn {sep : Char} {s : List Char} :
    1 < (s.splitOn sep).length ↔ sep ∈ s := by
  constructor
  · intro h
    by_contra hsep
    rw [List.splitOn_eq_singleton hsep] at h
    simp at h
  · intro h
    obtain ⟨before,after,rfl,hbefore⟩ := List.eq_append_cons_of_mem h
    rw [List.splitOn_append_cons_self_of_not_mem hbefore,List.length_cons]
    have hpos := List.length_pos_iff.mpr (List.splitOn_ne_nil sep after)
    omega

/-- The bytes from `start` up to `stop` are those of `part`: both borders lie in the text and between
two characters. -/
structure IsSlice (s : List Char) (start stop : Nat) (part : List Char) : Prop where
  ordered : start ≤ stop
  start_valid : String.Pos.Raw.IsValid (String.ofList s) ⟨start⟩
  stop_valid : String.Pos.Raw.IsValid (String.ofList s) ⟨stop⟩
  bytes : (String.ofList s).toByteArray.extract start stop = (String.ofList part).toByteArray

def size (s : List Char) : Nat := (String.ofList s).utf8ByteSize

theorem size_append (s t : List Char) : size (s ++ t) = size s + size t := by
  simp [size]

theorem isSlice_append (before part after : List Char) :
    IsSlice (before ++ part ++ after) (size before) (size (before ++ part)) part where
  ordered := by
    rw [size_append]
    exact Nat.le_add_right _ _
  start_valid := String.Pos.Raw.isValid_iff_exists_append.mpr
    ⟨String.ofList before,String.ofList (part ++ after),by simp,rfl⟩
  stop_valid := String.Pos.Raw.isValid_iff_exists_append.mpr
    ⟨String.ofList (before ++ part),String.ofList after,by simp [String.append_assoc],rfl⟩
  bytes := by
    have hbytes : (String.ofList (before ++ part ++ after)).toByteArray =
        (String.ofList before).toByteArray ++
          ((String.ofList part).toByteArray ++ (String.ofList after).toByteArray) := by
      simp
    rw [hbytes,size_append]
    calc _ = ((String.ofList part).toByteArray ++ (String.ofList after).toByteArray).extract 0
          (size part) := ByteArray.extract_append_size_add
      _ = (String.ofList part).toByteArray := ByteArray.extract_append_eq_left rfl

theorem afterLast_append {p : Char → Bool} {front s : List Char} (hs : ∀ c ∈ s, p c = false)
    (hfront : front = [] ∨ ∃ init c, front = init ++ [c] ∧ p c = true) :
    afterLast p (front ++ s) = s := by
  have hrev : ∀ c ∈ s.reverse, (!p c) = true := by
    intro c hc
    simp [hs c (List.mem_reverse.mp hc)]
  rw [afterLast,List.reverse_append,List.takeWhile_append_of_pos hrev]
  rcases hfront with rfl | ⟨init,c,rfl,hc⟩
  · simp
  · simp [hc]

theorem exists_front_afterLast (p : Char → Bool) (s : List Char) :
    ∃ front, s = front ++ afterLast p s ∧
      (front = [] ∨ ∃ init c, front = init ++ [c] ∧ p c = true) := by
  refine ⟨(s.reverse.dropWhile fun c => !p c).reverse,?_,?_⟩
  · rw [afterLast,← List.reverse_append,List.takeWhile_append_dropWhile,List.reverse_reverse]
  · cases h : s.reverse.dropWhile fun c => !p c with
    | nil => exact Or.inl rfl
    | cons c rest =>
      have hne : s.reverse.dropWhile (fun c => !p c) ≠ [] := by simp [h]
      have hc := List.head_dropWhile_not _ hne
      simp only [h,List.head_cons,Bool.not_eq_false'] at hc
      exact Or.inr ⟨rest.reverse,c,by simp,hc⟩

theorem not_of_mem_afterLast {p : Char → Bool} {s : List Char} {c : Char}
    (h : c ∈ afterLast p s) : p c = false := by
  simpa using List.mem_takeWhile_imp (List.mem_reverse.mp h)

theorem cons_isSuffix_iff {c : Char} {e s : List Char} (he : c ∉ e) :
    c :: e <:+ s ↔ c ∈ s ∧ afterLast (· == c) s = e := by
  constructor
  · rintro ⟨front,rfl⟩
    have hmarks : ∀ d ∈ e, (d == c) = false := by
      intro d hd
      simpa using fun h : d = c => he (h ▸ hd)
    have hlast := afterLast_append hmarks (Or.inr ⟨front,c,rfl,beq_self_eq_true c⟩)
    exact ⟨by simp,by simpa using hlast⟩
  · rintro ⟨hc,rfl⟩
    obtain ⟨front,hs,rfl | ⟨init,d,rfl,hd⟩⟩ := exists_front_afterLast (· == c) s
    · rw [hs,List.nil_append] at hc
      simpa using not_of_mem_afterLast hc
    · rw [beq_iff_eq] at hd
      subst hd
      exact ⟨init,by simpa using hs.symm⟩

theorem eq_of_cons_isSuffix {c : Char} {d e s : List Char} (hd : c ∉ d) (he : c ∉ e)
    (hds : c :: d <:+ s) (hes : c :: e <:+ s) : d = e :=
  ((cons_isSuffix_iff hd).mp hds).2.symm.trans ((cons_isSuffix_iff he).mp hes).2

theorem eq_of_append_cons_eq {c : Char} {x x' y y' : List Char} (hx : c ∉ x) (hx' : c ∉ x')
    (h : x ++ c :: y = x' ++ c :: y') : x = x' ∧ y = y' := by
  have hfirst : ∀ z w : List Char, c ∉ z → (z ++ c :: w).takeWhile (· != c) = z := by
    intro z w hz
    have hne : ∀ d ∈ z, (d != c) = true := by
      intro d hd
      simpa using fun hdc : d = c => hz (hdc ▸ hd)
    rw [List.takeWhile_append_of_pos hne]
    simp
  obtain rfl : x = x' := by rw [← hfirst x y hx,h,hfirst x' y' hx']
  exact ⟨rfl,by simpa using h⟩

end Text
end AppLint
