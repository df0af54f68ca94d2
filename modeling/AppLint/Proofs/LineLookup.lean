import AppLint.Document.Line
import AppLint.Proofs.TextPieces

/-! Looking up lines: the first line with a property, lines that hold a string in quotes, and how the
line of a field stands to that of its string. -/
namespace AppLint
namespace Line

/-- The number of the first line with a property, 0 if no line has it. -/
inductive IsFirst (P : List Char → Prop) (text : String) : Nat → Prop
  | nowhere (h : ∀ line ∈ Text.lines text.toList, ¬P line) : IsFirst P text 0
  | found {i : Nat} {line : List Char} (hline : (Text.lines text.toList)[i]? = some line)
      (h : P line)
      (hbefore : ∀ j < i, ∀ other, (Text.lines text.toList)[j]? = some other → ¬P other) :
      IsFirst P text (i + 1)

theorem isFirst_first (p : List Char → Bool) (text : String) :
    IsFirst (fun line => p line = true) text (first p text) := by
  unfold first
  cases hfind : (Text.lines text.toList).findIdx? p with
  | none => exact .nowhere (by simpa using hfind)
  | some i =>
    obtain ⟨hlt,hp,hbefore⟩ := List.findIdx?_eq_some_iff_getElem.mp hfind
    refine .found (List.getElem?_eq_getElem hlt) hp fun j hj other hother => ?_
    obtain ⟨hjlt,rfl⟩ := List.getElem?_eq_some_iff.mp hother
    exact hbefore j hj

theorem isInfix_of_valueFollows {value s : List Char} (h : valueFollows value s = true) :
    value <:+: s := by
  unfold valueFollows at h
  split at h
  · rename_i rest hrest
    have hvalue : value <+: Text.trimStart rest := List.isPrefixOf_iff_prefix.mp h
    have hstart : Text.trimStart rest <:+ s := by
      calc Text.trimStart rest <:+ rest := List.dropWhile_suffix _
        _ <:+ ':' :: rest := List.suffix_cons _ _
        _ = Text.trimStart s := hrest.symm
        _ <:+ s := List.dropWhile_suffix _
    exact hvalue.isInfix.trans hstart.isInfix
  · cases h

theorem isInfix_of_holdsEntry {key value s : List Char} (h : holdsEntry key value s = true) :
    value <:+: s := by
  fun_induction holdsEntry key value s with
  | case1 s hcut => cases h
  | case2 s before after hcut ih =>
    have hafter : value <:+: after := by
      rcases Bool.or_eq_true_iff.mp h with hfollows | hlater
      · exact isInfix_of_valueFollows hfollows
      · split_ifs at hlater with hlt
        exact ih hlt hlater
    rw [Text.eq_append_of_cut? hcut]
    exact hafter.trans (List.suffix_append _ _).isInfix

/-- The line with a number holds the string in quotes; the number is 0 only if no line does. -/
inductive Locates (value text : String) : Nat → Prop
  | nowhere (h : ∀ line ∈ Text.lines text.toList, ¬inQuotes value <:+: line) : Locates value text 0
  | found {i : Nat} {line : List Char} (hline : (Text.lines text.toList)[i]? = some line)
      (h : inQuotes value <:+: line) : Locates value text (i + 1)

theorem isFirst_ofString (value text : String) :
    IsFirst (fun line => inQuotes value <:+: line) text (ofString value text) := by
  have hfirst := isFirst_first (Text.contains (inQuotes value)) text
  simp only [Text.contains_iff] at hfirst
  exact hfirst

theorem locates_ofString (value text : String) : Locates value text (ofString value text) := by
  have hfirst := isFirst_ofString value text
  generalize ofString value text = n at hfirst ⊢
  cases hfirst with
  | nowhere h => exact .nowhere h
  | found hline h hbefore => exact .found hline h

/-- Where a line has the field, the first such line is found; else the string is looked up. -/
theorem ofEntry_cases (key value text : String) :
    (∃ line ∈ Text.lines text.toList, hasEntry key value line = true) ∧
        IsFirst (fun line => hasEntry key value line = true) text (ofEntry key value text) ∨
      (∀ line ∈ Text.lines text.toList, ¬hasEntry key value line = true) ∧
        ofEntry key value text = ofString value text := by
  have hfirst := isFirst_first (hasEntry key value) text
  unfold ofEntry
  generalize first (hasEntry key value) text = n at hfirst ⊢
  cases hfirst with
  | nowhere h => exact Or.inr ⟨h,rfl⟩
  | found hline h hbefore =>
    exact Or.inl ⟨⟨_,List.mem_of_getElem? hline,h⟩,.found hline h hbefore⟩

theorem locates_ofEntry (key value text : String) :
    Locates value text (ofEntry key value text) := by
  rcases ofEntry_cases key value text with ⟨⟨line,hmem,hline⟩,hfirst⟩ | ⟨-,hsame⟩
  · generalize ofEntry key value text = n at hfirst ⊢
    cases hfirst with
    | nowhere h => exact absurd hline (h line hmem)
    | found hline h hbefore => exact .found hline (isInfix_of_holdsEntry h)
  · rw [hsame]
    exact locates_ofString value text

def numbered? (text : String) : Nat → Option (List Char)
  | 0 => none
  | n + 1 => (Text.lines text.toList)[n]?

theorem le_length_of_numbered? {text : String} {n : Nat} {line : List Char}
    (h : numbered? text n = some line) : n ≤ (Text.lines text.toList).length := by
  cases n with
  | zero => cases h
  | succ n => exact (List.getElem?_eq_some_iff.mp h).1

theorem IsFirst.exists_numbered? {P : List Char → Prop} {text : String} {n : Nat}
    (h : IsFirst P text n) (hn : n ≠ 0) : ∃ line, numbered? text n = some line ∧ P line := by
  cases h with
  | nowhere h => exact absurd rfl hn
  | found hline h hbefore => exact ⟨_,hline,h⟩

theorem IsFirst.not_before {P : List Char → Prop} {text : String} {n m : Nat} {line : List Char}
    (h : IsFirst P text n) (hm : m < n) (hline : numbered? text m = some line) : ¬P line := by
  cases h with
  | nowhere h => exact absurd hm (Nat.not_lt_zero m)
  | found hfound h hbefore =>
    cases m with
    | zero => cases hline
    | succ m => exact hbefore m (Nat.lt_of_succ_lt_succ hm) line hline

theorem IsFirst.ne_zero_of_mem {P : List Char → Prop} {text : String} {n : Nat} {line : List Char}
    (h : IsFirst P text n) (hmem : line ∈ Text.lines text.toList) (hline : P line) : n ≠ 0 := by
  cases h with
  | nowhere h => exact absurd hline (h line hmem)
  | found => exact Nat.succ_ne_zero _

theorem Locates.exists_numbered? {value text : String} {n : Nat} (h : Locates value text n)
    (hn : n ≠ 0) : ∃ line, numbered? text n = some line ∧ inQuotes value <:+: line := by
  cases h with
  | nowhere h => exact absurd rfl hn
  | found hline h => exact ⟨_,hline,h⟩

theorem ofEntry_eq_zero_iff (key value text : String) :
    ofEntry key value text = 0 ↔ ofString value text = 0 := by
  rcases ofEntry_cases key value text with ⟨⟨line,hmem,hline⟩,hfirst⟩ | ⟨-,hsame⟩
  · have hentry : ofEntry key value text ≠ 0 := hfirst.ne_zero_of_mem hmem hline
    have hstring : ofString value text ≠ 0 :=
      (isFirst_ofString value text).ne_zero_of_mem hmem (isInfix_of_holdsEntry hline)
    simp [hentry,hstring]
  · rw [hsame]

theorem ofString_le_ofEntry (key value text : String) :
    ofString value text ≤ ofEntry key value text := by
  by_cases hzero : ofEntry key value text = 0
  · rw [hzero,(ofEntry_eq_zero_iff key value text).mp hzero]
  · obtain ⟨line,hline,hvalue⟩ := (locates_ofEntry key value text).exists_numbered? hzero
    by_contra hlt
    exact (isFirst_ofString value text).not_before (Nat.lt_of_not_le hlt) hline hvalue

/-- The two lookups point at a line for the same texts. Both lines hold the string in quotes, and that
of the string is the first that does, so that of the field is none before it. Where some line has the
field, that of the field is the first such line; else it is that of the string. -/
theorem ofEntry_coheres_with_ofString (key value text : String) :
    (ofEntry key value text = 0 ↔ ofString value text = 0) ∧
    (ofString value text ≠ 0 →
      1 ≤ ofString value text ∧
      ofString value text ≤ ofEntry key value text ∧
      ofEntry key value text ≤ (Text.lines text.toList).length ∧
      (∃ line, numbered? text (ofString value text) = some line ∧ inQuotes value <:+: line) ∧
      (∃ line, numbered? text (ofEntry key value text) = some line ∧ inQuotes value <:+: line)) ∧
    (∀ n < ofString value text, ∀ line, numbered? text n = some line → ¬inQuotes value <:+: line) ∧
    ((∃ line ∈ Text.lines text.toList, hasEntry key value line = true) →
      (∃ line, numbered? text (ofEntry key value text) = some line ∧ hasEntry key value line = true) ∧
      ∀ n < ofEntry key value text, ∀ line, numbered? text n = some line →
        hasEntry key value line = false) ∧
    ((¬∃ line ∈ Text.lines text.toList, hasEntry key value line = true) →
      ofEntry key value text = ofString value text) := by
  have hstring := isFirst_ofString value text
  have hcases := ofEntry_cases key value text
  refine ⟨ofEntry_eq_zero_iff key value text,fun hne => ?_,
    fun n hn line => hstring.not_before hn,?_,?_⟩
  · have hentry : ofEntry key value text ≠ 0 := mt (ofEntry_eq_zero_iff key value text).mp hne
    obtain ⟨line,hline,hvalue⟩ := (locates_ofEntry key value text).exists_numbered? hentry
    exact ⟨Nat.pos_of_ne_zero hne,ofString_le_ofEntry key value text,le_length_of_numbered? hline,
      hstring.exists_numbered? hne,line,hline,hvalue⟩
  · rintro ⟨line,hmem,hline⟩
    rcases hcases with ⟨-,hfirst⟩ | ⟨hnone,-⟩
    · refine ⟨hfirst.exists_numbered? (hfirst.ne_zero_of_mem hmem hline),fun n hn other hother => ?_⟩
      exact Bool.eq_false_iff.mpr (hfirst.not_before hn hother)
    · exact absurd hline (hnone line hmem)
  · intro hnone
    rcases hcases with ⟨hsome,-⟩ | ⟨-,hsame⟩
    · exact absurd hsome hnone
    · exact hsame

/-- A string on two lines, a field that only the second has, and one that none has. -/
theorem ofEntry_coheres_with_ofString_titled :
    let text := "\x7b\"id\":\"v\",\n\"title\" : \"v\"\x7d"
    ofString "v" text ≠ 0 ∧ ofString "v" text ≤ ofEntry "title" "v" text ∧
      (∃ line ∈ Text.lines text.toList, hasEntry "title" "v" line = true) ∧
      (∃ line, numbered? text (ofEntry "title" "v" text) = some line ∧
        hasEntry "title" "v" line = true) ∧
      (¬∃ line ∈ Text.lines text.toList, hasEntry "ref" "v" line = true) ∧
      ofEntry "ref" "v" text = ofString "v" text ∧
      ofString "v" text = 1 ∧ ofEntry "title" "v" text = 2 := by
  intro text
  have hvalues : ofString "v" text = 1 ∧ ofEntry "title" "v" text = 2 ∧
      (∃ line ∈ Text.lines text.toList, hasEntry "title" "v" line = true) ∧
      ¬∃ line ∈ Text.lines text.toList, hasEntry "ref" "v" line = true := by decide +kernel
  obtain ⟨hstring,hentry,hsome,hnone⟩ := hvalues
  have hne : ofString "v" text ≠ 0 := by simp [hstring]
  obtain ⟨-,hlines,-,hfield,-⟩ := ofEntry_coheres_with_ofString "title" "v" text
  obtain ⟨-,-,-,-,hfallback⟩ := ofEntry_coheres_with_ofString "ref" "v" text
  exact ⟨hne,(hlines hne).2.1,hsome,(hfield hsome).1,hnone,hfallback hnone,hstring,hentry⟩

end Line
end AppLint
