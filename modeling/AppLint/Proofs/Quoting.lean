import AppLint.Text.Quoted
import Mathlib.Data.List.TakeWhile
import Mathlib.Tactic.SplitIfs

/-! Texts in quotes are told apart: what stands between the quotes can be read back. -/
namespace AppLint
namespace Text

def digitValue (c : Char) : Nat := "0123456789abcdef".toList.idxOf c

def hexValue (digits : List Char) : Nat := digits.foldl (fun n c => 16 * n + digitValue c) 0

theorem digitValue_digitChar : ∀ d < 16, digitValue (Nat.digitChar d) = d := by
  decide

theorem hexDigits_eq (n : Nat) :
    hexDigits n =
      if n < 16 then [Nat.digitChar n] else hexDigits (n / 16) ++ [Nat.digitChar (n % 16)] :=
  Nat.toDigits_eq_if (by decide)

theorem hexValue_hexDigits (n : Nat) : hexValue (hexDigits n) = n := by
  induction n using Nat.strongRecOn with
  | ind n ih =>
    rw [hexDigits_eq]
    by_cases hn : n < 16
    · simp [hn,hexValue,digitValue_digitChar n hn]
    · have hdiv := ih (n / 16) (by omega)
      have hmod := digitValue_digitChar (n % 16) (by omega)
      rw [hexValue] at hdiv
      rw [if_neg hn,hexValue,List.foldl_append,hdiv,List.foldl_cons,List.foldl_nil,hmod]
      omega

theorem digitChar_ne_brace : ∀ d < 16, Nat.digitChar d ≠ '\x7d' := by
  decide

theorem ne_brace_of_mem_hexDigits {n : Nat} {c : Char} (h : c ∈ hexDigits n) : c ≠ '\x7d' := by
  induction n using Nat.strongRecOn with
  | ind n ih =>
    rw [hexDigits_eq] at h
    split_ifs at h with hn
    · obtain rfl := List.mem_singleton.mp h
      exact digitChar_ne_brace n hn
    · rcases List.mem_append.mp h with hfirst | hlast
      · exact ih (n / 16) (by omega) hfirst
      · obtain rfl := List.mem_singleton.mp hlast
        exact digitChar_ne_brace (n % 16) (by omega)

def escaped (c : Char) : Char :=
  if c = 't' then '\t'
  else if c = 'r' then '\r'
  else if c = 'n' then '\n'
  else if c = '0' then Char.ofNat 0
  else c

def unquoteChar? : List Char → Option (Char × List Char)
  | [] => none
  | '\\' :: 'u' :: '\x7b' :: s =>
    some (Char.ofNat (hexValue (s.takeWhile (· != '\x7d'))),(s.dropWhile (· != '\x7d')).tail)
  | '\\' :: c :: s => some (escaped c,s)
  | c :: s => some (c,s)

theorem unquoteChar?_number (n : Nat) (rest : List Char) :
    unquoteChar? (['\\','u','\x7b'] ++ hexDigits n ++ ['\x7d'] ++ rest) =
      some (Char.ofNat n,rest) := by
  have hdigits : ∀ c ∈ hexDigits n, (c != '\x7d') = true := by
    intro c hc
    simpa using ne_brace_of_mem_hexDigits hc
  simp only [List.cons_append,List.nil_append,List.append_assoc,unquoteChar?]
  rw [List.takeWhile_append_of_pos hdigits,List.dropWhile_append_of_pos hdigits]
  simp [hexValue_hexDigits]

theorem unquoteChar?_quoteChar (c : Char) (rest : List Char) :
    unquoteChar? (quoteChar c ++ rest) = some (c,rest) := by
  simp only [quoteChar,beq_iff_eq]
  split_ifs with hquote hslash htab hreturn hline hzero hprint
  · simp [hquote,unquoteChar?,escaped]
  · simp [hslash,unquoteChar?,escaped]
  · simp [htab,unquoteChar?,escaped]
  · simp [hreturn,unquoteChar?,escaped]
  · simp [hline,unquoteChar?,escaped]
  · have hc : c = Char.ofNat 0 := by rw [← hzero,Char.ofNat_toNat]
    simp [hc,unquoteChar?,escaped]
  · simp [unquoteChar?,hslash]
  · rw [unquoteChar?_number,Char.ofNat_toNat]

theorem flatMap_quoteChar_inj {s t : List Char} (h : s.flatMap quoteChar = t.flatMap quoteChar) :
    s = t := by
  induction s generalizing t with
  | nil =>
    cases t with
    | nil => rfl
    | cons d t =>
      have hread := unquoteChar?_quoteChar d (t.flatMap quoteChar)
      rw [← List.flatMap_cons,← h] at hread
      simp [unquoteChar?] at hread
  | cons c s ih =>
    have hread := unquoteChar?_quoteChar c (s.flatMap quoteChar)
    rw [← List.flatMap_cons,h] at hread
    cases t with
    | nil => simp [unquoteChar?] at hread
    | cons d t =>
      rw [List.flatMap_cons,unquoteChar?_quoteChar] at hread
      obtain ⟨rfl,hrest⟩ := Prod.mk.inj (Option.some.inj hread)
      rw [ih hrest.symm]

theorem quoted_injective : Function.Injective quoted := by
  intro s t h
  have hlist := congrArg String.toList h
  simp only [quoted,String.toList_ofList,List.cons_append,List.cons.injEq,true_and,
    List.append_cancel_right_eq] at hlist
  exact String.toList_inj.mp (flatMap_quoteChar_inj hlist)

@[simp] theorem quoted_inj {s t : String} : quoted s = quoted t ↔ s = t := quoted_injective.eq_iff

end Text
end AppLint
