import AppLint.Json.Reader
import AppLint.Proofs.Except
import AppLint.Proofs.JsonEquality
import AppLint.Proofs.LineLookup
import Mathlib.Algebra.Group.Nat.Even

/-! Which lines are found to hold a field. Two occurrences of a name in quotes overlap where the quote
that ends one begins the next; the search goes on behind the occurrence it has found, so in a chain of
such occurrences it looks at every other one. -/
namespace AppLint
namespace Line

/-- Behind `front` the line has the field: its name and its string in quotes, with a colon and white
space between them. -/
def FieldBehind (key value : String) (front line : List Char) : Prop :=
  ∃ gap gap' rest, Text.Blank gap ∧ Text.Blank gap' ∧
    line = front ++ inQuotes key ++ gap ++ [':'] ++ gap' ++ inQuotes value ++ rest

def HoldsField (key value : String) (line : List Char) : Prop :=
  ∃ front, FieldBehind key value front line

/-- A text ends with an even number of copies of `block`, one behind another. -/
def EndsEvenly (block s : List Char) : Prop :=
  ∃ base n, s = base ++ (List.replicate n block).flatten ∧ ¬block <:+ base ∧ Even n

theorem flatten_replicate_succ (n : Nat) (block : List Char) :
    (List.replicate (n + 1) block).flatten = (List.replicate n block).flatten ++ block := by
  rw [List.replicate_succ',List.flatten_concat]

theorem exists_base {block : List Char} (hne : block ≠ []) (s : List Char) :
    ∃ base n, s = base ++ (List.replicate n block).flatten ∧ ¬block <:+ base := by
  induction hlen : s.length using Nat.strongRecOn generalizing s with
  | ind len ih =>
    by_cases hends : block <:+ s
    · obtain ⟨front,rfl⟩ := hends
      have hpos := List.length_pos_iff.mpr hne
      have hlt : front.length < len := by
        rw [← hlen,List.length_append]
        omega
      obtain ⟨base,n,hfront,hbase⟩ := ih front.length hlt front rfl
      exact ⟨base,n + 1,by rw [flatten_replicate_succ,← List.append_assoc,← hfront],hbase⟩
    · exact ⟨s,0,by simp,hends⟩

theorem eq_of_base {block base base' : List Char} {n m : Nat} (hbase : ¬block <:+ base)
    (hbase' : ¬block <:+ base')
    (h : base ++ (List.replicate n block).flatten = base' ++ (List.replicate m block).flatten) :
    n = m := by
  induction n generalizing m with
  | zero =>
    cases m with
    | zero => rfl
    | succ m =>
      rw [flatten_replicate_succ,← List.append_assoc,List.replicate_zero,List.flatten_nil,
        List.append_nil] at h
      exact absurd ⟨_,h.symm⟩ hbase
  | succ n ih =>
    cases m with
    | zero =>
      rw [flatten_replicate_succ,← List.append_assoc,List.replicate_zero,List.flatten_nil,
        List.append_nil] at h
      exact absurd ⟨_,h⟩ hbase'
    | succ m =>
      simp only [flatten_replicate_succ,← List.append_assoc,List.append_cancel_right_eq] at h
      rw [ih h]

theorem endsEvenly_iff {block base : List Char} (hbase : ¬block <:+ base) (n : Nat) :
    EndsEvenly block (base ++ (List.replicate n block).flatten) ↔ Even n := by
  constructor
  · rintro ⟨base',m,h,hbase',hm⟩
    rwa [eq_of_base hbase hbase' h]
  · intro hn
    exact ⟨base,n,rfl,hbase,hn⟩

/-- Where the name first occurs in quotes, nothing overlaps it from the left. -/
theorem not_isSuffix_of_firstAt {key : String} {before after : List Char}
    (h : Text.FirstAt (inQuotes key) (before ++ inQuotes key ++ after) before.length) :
    ¬ '"' :: key.toList <:+ before := by
  rintro ⟨front,rfl⟩
  have hearlier : inQuotes key <+:
      (front ++ '"' :: key.toList ++ inQuotes key ++ after).drop front.length := by
    simp [inQuotes]
  have hle := h.le hearlier
  simp only [List.length_append,List.length_cons] at hle
  omega

section
variable {key : String} (hkey : '"' ∉ key.toList)
include hkey

/-- Behind a name in quotes a text ends with a quote and the name only if it does so by itself, or is
the name and takes the quote before it. -/
theorem isSuffix_or_eq {before base : List Char}
    (h : '"' :: key.toList <:+ before ++ inQuotes key ++ base) :
    '"' :: key.toList <:+ base ∨ base = key.toList := by
  by_cases hquote : '"' ∈ base
  · -- The last quote is one of `base`.
    obtain ⟨rest,hrest,hends⟩ : ∃ rest, '"' ∉ rest ∧ '"' :: rest <:+ base := by
      have hlast : '"' ∉ Text.afterLast (· == '"') base := fun hmem => by
        simpa using Text.not_of_mem_afterLast hmem
      exact ⟨_,hlast,(Text.cons_isSuffix_iff hlast).mpr ⟨hquote,rfl⟩⟩
    have hsame := Text.eq_of_cons_isSuffix hkey hrest h (hends.trans (List.suffix_append _ _))
    exact Or.inl (hsame ▸ hends)
  · have hends : '"' :: base <:+ before ++ inQuotes key ++ base :=
      ⟨before ++ '"' :: key.toList,by simp [inQuotes]⟩
    exact Or.inr (Text.eq_of_cons_isSuffix hquote hkey hends h)

/-- The search starts anew behind an occurrence, and from there the copies are as even as before: if
the chain reaches back across it, two more belong to it. -/
theorem endsEvenly_behind {before : List Char} (hbefore : ¬ '"' :: key.toList <:+ before)
    (front : List Char) :
    EndsEvenly ('"' :: key.toList) (before ++ inQuotes key ++ front) ↔
      EndsEvenly ('"' :: key.toList) front := by
  obtain ⟨base,n,rfl,hbase⟩ := exists_base (List.cons_ne_nil '"' key.toList) front
  rw [endsEvenly_iff hbase,← List.append_assoc]
  by_cases hends : '"' :: key.toList <:+ before ++ inQuotes key ++ base
  · obtain rfl := (isSuffix_or_eq hkey hends).resolve_left hbase
    have htwo : before ++ inQuotes key ++ key.toList ++
        (List.replicate n ('"' :: key.toList)).flatten =
        before ++ (List.replicate (n + 2) ('"' :: key.toList)).flatten := by
      simp [inQuotes,List.replicate_succ]
    rw [htwo,endsEvenly_iff hbefore,Nat.even_add_one,Nat.even_add_one,not_not]
  · rw [endsEvenly_iff hends]

/-- Of two occurrences the later one is the same, overlaps the earlier one, or stands behind it. -/
theorem occurrence_cases {before after front rest : List Char} (hle : before.length ≤ front.length)
    (h : front ++ inQuotes key ++ rest = before ++ inQuotes key ++ after) :
    front = before ∨ front = before ++ '"' :: key.toList ∨
      ∃ between, front = before ++ inQuotes key ++ between ∧
        after = between ++ inQuotes key ++ rest := by
  have hbefore : before <+: before ++ inQuotes key ++ after := ⟨inQuotes key ++ after,by simp⟩
  have hfront : front <+: before ++ inQuotes key ++ after :=
    ⟨inQuotes key ++ rest,by rw [← List.append_assoc,h]⟩
  obtain ⟨between,rfl⟩ := List.prefix_of_prefix_length_le hbefore hfront hle
  simp only [List.append_assoc,List.append_cancel_left_eq] at h
  cases between with
  | nil => exact Or.inl (List.append_nil before)
  | cons c between =>
    simp only [inQuotes,List.cons_append,List.append_assoc,List.cons.injEq,List.nil_append] at h
    obtain ⟨rfl,h⟩ := h
    by_cases hquote : '"' ∈ between
    · obtain ⟨x,y,rfl,hx⟩ := List.eq_append_cons_of_mem hquote
      rw [List.append_assoc,List.cons_append] at h
      obtain ⟨rfl,rfl⟩ := Text.eq_of_append_cons_eq hx hkey h
      exact Or.inr (Or.inr ⟨y,by simp [inQuotes],by simp [inQuotes]⟩)
    · obtain ⟨rfl,-⟩ := Text.eq_of_append_cons_eq hquote hkey h
      exact Or.inr (Or.inl rfl)

/-- The search finds the occurrences behind an even number of overlapping ones. -/
theorem holdsEntry_iff {value s : List Char} :
    holdsEntry (inQuotes key) value s = true ↔
      ∃ front after, s = front ++ inQuotes key ++ after ∧ valueFollows value after = true ∧
        EndsEvenly ('"' :: key.toList) front := by
  fun_induction holdsEntry (inQuotes key) value s with
  | case1 s hcut =>
    have hnone := Text.cut?_eq_none_iff.mp hcut
    constructor
    · intro h
      cases h
    · rintro ⟨front,after,rfl,-⟩
      exact absurd ⟨front,after,rfl⟩ hnone
  | case2 s before after hcut ih =>
    obtain ⟨rfl,hfirst⟩ := Text.cut?_eq_some_iff.mp hcut
    have hbefore := not_isSuffix_of_firstAt hfirst
    have hlt : after.length < (before ++ inQuotes key ++ after).length := by
      simp only [inQuotes,List.length_append,List.length_cons]
      omega
    rw [if_pos hlt,Bool.or_eq_true,ih hlt]
    constructor
    · rintro (hfollows | ⟨front,rest,rfl,hfollows,heven⟩)
      · exact ⟨before,after,rfl,hfollows,before,0,by simp,hbefore,Even.zero⟩
      · exact ⟨before ++ inQuotes key ++ front,rest,by simp,hfollows,
          (endsEvenly_behind hkey hbefore front).mpr heven⟩
    · rintro ⟨front,rest,h,hfollows,heven⟩
      have hplace : inQuotes key <+: (before ++ inQuotes key ++ after).drop front.length := by
        simp [h]
      rcases occurrence_cases hkey (hfirst.le hplace) h.symm with rfl | rfl | ⟨between,rfl,rfl⟩
      · rw [List.append_cancel_left_eq] at h
        exact Or.inl (h ▸ hfollows)
      · -- The occurrence overlaps the one that was found, which no other overlaps from the left.
        have hone := endsEvenly_iff hbefore 1
        simp only [List.replicate_one,List.flatten_singleton] at hone
        exact absurd (hone.mp heven) Nat.not_even_one
      · exact Or.inr ⟨between,rest,rfl,hfollows,(endsEvenly_behind hkey hbefore between).mp heven⟩

end

theorem valueFollows_iff {value : String} {s : List Char} :
    valueFollows (inQuotes value) s = true ↔
      ∃ gap gap' rest, Text.Blank gap ∧ Text.Blank gap' ∧
        s = gap ++ [':'] ++ gap' ++ inQuotes value ++ rest := by
  constructor
  · intro h
    unfold valueFollows at h
    split at h
    · rename_i after hafter
      obtain ⟨gap,hgap,hs⟩ := Text.eq_append_trimStart s
      obtain ⟨gap',hgap',hrest⟩ := Text.eq_append_trimStart after
      obtain ⟨rest,hvalue⟩ := List.isPrefixOf_iff_prefix.mp h
      refine ⟨gap,gap',rest,hgap,hgap',?_⟩
      rw [hs,hafter,hrest,← hvalue]
      simp
    · cases h
  · rintro ⟨gap,gap',rest,hgap,hgap',rfl⟩
    have hcolon : Text.trimStart (gap ++ [':'] ++ gap' ++ inQuotes value ++ rest) =
        ':' :: (gap' ++ (inQuotes value ++ rest)) := by
      simp only [List.append_assoc,Text.trimStart_append hgap]
      exact Text.trimStart_cons (by decide) _
    have hquote : Text.trimStart (gap' ++ (inQuotes value ++ rest)) = inQuotes value ++ rest := by
      rw [Text.trimStart_append hgap']
      exact Text.trimStart_cons (by decide) _
    simp only [valueFollows,hcolon,hquote]
    exact List.isPrefixOf_iff_prefix.mpr (List.prefix_append _ _)

/-- The line has the field behind an even number of overlapping occurrences of the name. -/
def Found (key value : String) (line : List Char) : Prop :=
  ∃ front, FieldBehind key value front line ∧ EndsEvenly ('"' :: key.toList) front

theorem hasEntry_iff {key : String} (hkey : '"' ∉ key.toList) {value : String} {line : List Char} :
    hasEntry key value line = true ↔ Found key value line := by
  rw [hasEntry,holdsEntry_iff hkey]
  constructor
  · rintro ⟨front,after,rfl,hfollows,heven⟩
    obtain ⟨gap,gap',rest,hgap,hgap',rfl⟩ := valueFollows_iff.mp hfollows
    exact ⟨front,⟨gap,gap',rest,hgap,hgap',by simp only [List.append_assoc]⟩,heven⟩
  · rintro ⟨front,⟨gap,gap',rest,hgap,hgap',rfl⟩,heven⟩
    refine ⟨front,gap ++ [':'] ++ gap' ++ inQuotes value ++ rest,?_,?_,heven⟩
    · simp only [List.append_assoc]
    · exact valueFollows_iff.mpr ⟨gap,gap',rest,hgap,hgap',rfl⟩

/-- Which fields are found, for names without quotes. A line is found just if it has the field behind
an even number of occurrences of the name that overlap in a chain; this is so where no occurrence
overlaps that of the field from the left. The first line where the field is found is the one that is
looked up. -/
theorem hasEntry_passes_over_overlapped (key value : String) (hkey : '"' ∉ key.toList) :
    (∀ line, hasEntry key value line = true ↔ Found key value line) ∧
    (∀ line front, FieldBehind key value front line → ¬ '"' :: key.toList <:+ front →
      Found key value line) ∧
    ∀ text : String, (∃ line ∈ Text.lines text.toList, Found key value line) →
      IsFirst (Found key value) text (ofEntry key value text) := by
  refine ⟨fun line => hasEntry_iff hkey,fun line front hfield hfront => ?_,fun text hsome => ?_⟩
  · exact ⟨front,hfield,front,0,by simp,hfront,Even.zero⟩
  · have hcases := ofEntry_cases key value text
    simp only [hasEntry_iff hkey] at hcases
    rcases hcases with ⟨-,hfirst⟩ | ⟨hnone,-⟩
    · exact hfirst
    · obtain ⟨line,hmem,hline⟩ := hsome
      exact absurd hline (hnone line hmem)

/-- Of the two lines the first has the field at the end of a chain of two, the second at the end of a
chain of three. -/
theorem hasEntry_passes_over_overlapped_chain :
    let text := "\",\",\":\"v\"\n\",\",\",\" : \"v\""
    let line := "\",\",\",\" : \"v\"".toList
    '"' ∉ ",".toList ∧ line ∈ Text.lines text.toList ∧ Found "," "v" line ∧
      hasEntry "," "v" line = true ∧ IsFirst (Found "," "v") text (ofEntry "," "v" text) ∧
      ofEntry "," "v" text = 2 ∧
      ¬ '"' :: ",".toList <:+ ['\x7b'] ∧ Found "," "v" "\x7b\",\":\"v\"\x7d".toList := by
  intro text line
  have hkey : '"' ∉ ",".toList := by decide
  have hblank : Text.Blank [' '] := List.forall_mem_singleton.mpr (by decide)
  have hnone : Text.Blank [] := List.forall_mem_nil _
  have hmem : line ∈ Text.lines text.toList := by decide +kernel
  have hplain : ¬ '"' :: ",".toList <:+ ['\x7b'] := by decide
  obtain ⟨hline,hapart,htext⟩ := hasEntry_passes_over_overlapped "," "v" hkey
  have hfound : Found "," "v" line :=
    ⟨"\",\",".toList,⟨[' '],[' '],[],hblank,hblank,by decide⟩,[],2,by decide,by decide,1,rfl⟩
  exact ⟨hkey,hmem,hfound,(hline line).mpr hfound,htext text ⟨line,hmem,hfound⟩,by decide +kernel,
    hplain,hapart _ ['\x7b'] ⟨[],[],['\x7d'],hnone,hnone,by decide⟩ hplain⟩

/-- A text with a field that is named by a comma and stands right behind a string and a comma. The
first line that holds the field is the second, which is not found to have it. -/
theorem ofEntry_misses_overlapped :
    let text := "\x7b\"id\":\"v\",\n\"x\":\"a\",\",\":\"v\"\x7d"
    (Json.parse text).toOption.bind (·.field? ",") = some (.string "v") ∧
      '"' ∉ ",".toList ∧ IsFirst (HoldsField "," "v") text 2 ∧
      (∀ line ∈ Text.lines text.toList, hasEntry "," "v" line = false) ∧
      ofEntry "," "v" text = 1 := by
  intro text
  have hnone : Text.Blank [] := List.forall_mem_nil _
  have hline : (Text.lines text.toList)[1]? = some "\"x\":\"a\",\",\":\"v\"\x7d".toList := by
    decide +kernel
  have hbefore : (Text.lines text.toList)[0]? = some "\x7b\"id\":\"v\",".toList := by decide +kernel
  have hfield : HoldsField "," "v" "\"x\":\"a\",\",\":\"v\"\x7d".toList :=
    ⟨"\"x\":\"a\",".toList,[],[],['\x7d'],hnone,hnone,by decide⟩
  have hfirst : IsFirst (HoldsField "," "v") text 2 := by
    refine .found hline hfield fun j hj other hother => ?_
    obtain rfl : j = 0 := by omega
    obtain rfl := Option.some.inj (hbefore.symm.trans hother)
    rintro ⟨front,gap,gap',rest,-,-,h⟩
    have hname : inQuotes "," <:+: "\x7b\"id\":\"v\",".toList :=
      ⟨front,gap ++ [':'] ++ gap' ++ inQuotes "v" ++ rest,by simp [h]⟩
    exact absurd hname (by decide)
  exact ⟨by decide +kernel,by decide,hfirst,by decide +kernel,by decide +kernel⟩

end Line
end AppLint
