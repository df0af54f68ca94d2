import AppLint.Proofs.TextPieces
import AppLint.Template.Expression

/-! How expressions are read. A source is cut into segments at its fallback marks from left to right,
each segment is read on its own, and the readings are joined from the right. -/
namespace AppLint
namespace Expr
open Text (FirstAt IsSlice size)

/-- The pieces of a source between fallback marks, found in one pass from left to right. -/
def segments : List Char → List (List Char)
  | [] => [[]]
  | [c] => [[c]]
  | c :: d :: s =>
    if c = '?' ∧ d = '?' then [] :: segments s else (segments (d :: s)).modifyHead (c :: ·)

theorem segments_mark (s : List Char) : segments (coalesceMark ++ s) = [] :: segments s := rfl

theorem segments_cons {c : Char} {s : List Char} (h : ¬coalesceMark <+: c :: s) :
    segments (c :: s) = (segments s).modifyHead (c :: ·) := by
  cases s with
  | nil => rfl
  | cons d s =>
    rw [segments,if_neg]
    rintro ⟨rfl,rfl⟩
    exact h ⟨s,rfl⟩

theorem segments_ne_nil (s : List Char) : segments s ≠ [] := by
  fun_induction segments s with
  | case1 => simp
  | case2 c => simp
  | case3 c d s hmark ih => simp
  | case4 c d s hmark ih => simpa using ih

theorem segments_of_not_isInfix {s : List Char} (h : ¬coalesceMark <:+: s) : segments s = [s] := by
  induction s with
  | nil => rfl
  | cons c s ih =>
    rw [List.infix_cons_iff,not_or] at h
    rw [segments_cons h.1,ih h.2]
    rfl

theorem segments_of_firstAt {x rest : List Char}
    (h : FirstAt coalesceMark (x ++ coalesceMark ++ rest) x.length) :
    segments (x ++ coalesceMark ++ rest) = x :: segments rest := by
  induction x with
  | nil => exact segments_mark rest
  | cons c x ih =>
    rw [List.cons_append,List.cons_append] at h ⊢
    obtain ⟨hhere,hrest⟩ := Text.firstAt_succ.mp h
    rw [segments_cons hhere,ih hrest]
    rfl

/-- Before every segment but the first stands the first mark that remains, and there is none in the
last segment. -/
def Leftmost : List (List Char) → Prop
  | [] => False
  | [x] => ¬coalesceMark <:+: x
  | x :: y :: rest =>
    FirstAt coalesceMark (coalesceMark.intercalate (x :: y :: rest)) x.length ∧ Leftmost (y :: rest)

theorem segments_of_leftmost {pieces : List (List Char)} (h : Leftmost pieces) :
    segments (coalesceMark.intercalate pieces) = pieces := by
  fun_induction Leftmost pieces with
  | case1 => exact h.elim
  | case2 x => simpa using segments_of_not_isInfix h
  | case3 x y rest ih =>
    rw [List.intercalate_cons_cons] at h ⊢
    rw [segments_of_firstAt h.1,ih h.2]

theorem exists_leftmost (s : List Char) :
    ∃ pieces, coalesceMark.intercalate pieces = s ∧ Leftmost pieces := by
  induction hn : s.length using Nat.strong_induction_on generalizing s with
  | _ n ih =>
    subst hn
    cases hcut : Text.cut? coalesceMark s with
    | none => exact ⟨[s],by simp,Text.cut?_eq_none_iff.mp hcut⟩
    | some cut =>
      obtain ⟨x,rest⟩ := cut
      obtain ⟨hs,hfirst⟩ := Text.cut?_eq_some_iff.mp hcut
      have hlength : rest.length < s.length := by
        have hmark : coalesceMark.length = 2 := rfl
        rw [hs,List.length_append,List.length_append,hmark]
        omega
      obtain ⟨pieces,hpieces,hleft⟩ := ih _ hlength rest rfl
      cases pieces with
      | nil => exact hleft.elim
      | cons y pieces =>
        have hjoin : coalesceMark.intercalate (x :: y :: pieces) = s := by
          rw [List.intercalate_cons_cons,hpieces,hs]
        exact ⟨x :: y :: pieces,hjoin,by rwa [hjoin],hleft⟩

/-- The segments are the one way to cut a source at leftmost marks that do not overlap. -/
theorem segments_eq_iff {s : List Char} {pieces : List (List Char)} :
    segments s = pieces ↔ coalesceMark.intercalate pieces = s ∧ Leftmost pieces := by
  constructor
  · rintro rfl
    obtain ⟨pieces,rfl,hleft⟩ := exists_leftmost s
    rw [segments_of_leftmost hleft]
    exact ⟨rfl,hleft⟩
  · rintro ⟨rfl,hleft⟩
    exact segments_of_leftmost hleft

theorem segments_append_left {a : List Char} (ha : '?' ∉ a) (s : List Char) :
    segments (a ++ s) = (segments s).modifyHead (a ++ ·) := by
  induction a with
  | nil => cases hs : segments s <;> simp [hs]
  | cons c a ih =>
    rw [List.mem_cons,not_or] at ha
    have hhere : ¬coalesceMark <+: c :: (a ++ s) := by
      intro h
      exact ha.1 (List.cons_prefix_cons.mp h).1
    rw [List.cons_append,segments_cons hhere,ih ha.2,List.modifyHead_modifyHead]
    rfl

theorem segments_append_right {b : List Char} (hb : '?' ∉ b) {s last : List Char}
    {init : List (List Char)} (h : segments s = init ++ [last]) :
    segments (s ++ b) = init ++ [last ++ b] := by
  have hsegments : segments b = [b] := by
    refine segments_of_not_isInfix fun hmark => hb (hmark.subset ?_)
    simp [coalesceMark]
  fun_induction segments s generalizing init last with
  | case1 =>
    obtain ⟨rfl,rfl⟩ : init = [] ∧ last = [] := by simpa [List.singleton_eq_append_iff] using h
    exact hsegments
  | case2 c =>
    -- a question mark at the end of the source must not find its second half in `b`
    obtain ⟨rfl,rfl⟩ : init = [] ∧ last = [c] := by simpa [List.singleton_eq_append_iff] using h
    have hhere : ¬coalesceMark <+: c :: b := by
      intro hmark
      exact hb ((List.cons_prefix_cons.mp hmark).2.subset (by simp))
    rw [List.singleton_append,segments_cons hhere,hsegments]
    rfl
  | case3 c d s hmark ih =>
    obtain ⟨rfl,rfl⟩ := hmark
    cases init with
    | nil => exact absurd (List.cons.inj h).2 (segments_ne_nil s)
    | cons x init =>
      obtain ⟨rfl,hrest⟩ := List.cons.inj h
      exact congrArg ([] :: ·) (ih hrest)
  | case4 c d s hmark ih =>
    have hhere : ¬coalesceMark <+: c :: (d :: s ++ b) := by
      intro h
      simp only [coalesceMark,List.cons_append,List.cons_prefix_cons] at h
      exact hmark ⟨h.1.symm,h.2.1.symm⟩
    rw [List.cons_append,segments_cons hhere]
    cases hseg : segments (d :: s) with
    | nil => exact absurd hseg (segments_ne_nil _)
    | cons x xs =>
      rw [hseg,List.modifyHead_cons] at h
      cases init with
      | nil =>
        obtain ⟨rfl,rfl⟩ := List.cons.inj h
        have hlast : segments (d :: s ++ b) = [] ++ [x ++ b] := ih hseg
        rw [hlast]
        rfl
      | cons y init =>
        obtain ⟨rfl,rfl⟩ := List.cons.inj h
        have hlast : segments (d :: s ++ b) = x :: init ++ [last ++ b] := ih hseg
        rw [hlast]
        rfl

def names (y : List Char) : List (List Char) := (y.splitOn '.').map Text.trim

/-- Two or more identifiers with points between them, and white space around each. -/
def IsPath (y : List Char) : Prop :=
  2 ≤ (names y).length ∧ ∀ name ∈ names y, isIdentifier name = true

instance (y : List Char) : Decidable (IsPath y) := inferInstanceAs (Decidable (_ ∧ _))

/-- Two bytes at least, of which the first and the last are the same quote. -/
def IsQuoted (y : List Char) : Prop :=
  2 ≤ size y ∧ (y.head? = some '\'' ∨ y.head? = some '"') ∧ y.getLast? = y.head?

instance (y : List Char) : Decidable (IsQuoted y) := inferInstanceAs (Decidable (_ ∧ _))

def chain : List (List Char) → Expr
  | [] => identifier ""
  | first :: rest =>
    rest.foldl (fun e name => propertyAccess e (String.ofList name)) (identifier (String.ofList first))

def reading (x : List Char) : Expr :=
  let y := Text.trim x
  if IsPath y then chain (names y)
  else if isIdentifier y then identifier (String.ofList y)
  else if IsQuoted y then stringLiteral (String.ofList (y.drop 1).dropLast)
  else identifier (String.ofList y)

theorem isIdentifierPart_of_mem {name : List Char} (h : isIdentifier name = true) {c : Char}
    (hc : c ∈ name) : isIdentifierPart c = true := by
  cases name with
  | nil => cases hc
  | cons d s =>
    simp only [isIdentifier,Bool.and_eq_true,List.all_eq_true] at h
    rcases List.mem_cons.mp hc with rfl | hmem
    · simp [isIdentifierPart,h.1]
    · exact h.2 c hmem

def isForeign (c : Char) : Bool := !(c == '.' || Text.isBlank c || isIdentifierPart c)

theorem IsPath.isForeign_of_mem {y : List Char} (h : IsPath y) {c : Char} (hc : c ∈ y) :
    isForeign c = false := by
  have hjoin : ['.'].intercalate (y.splitOn '.') = y := List.intercalate_splitOn '.'
  rw [← hjoin] at hc
  rcases Text.mem_of_mem_intercalate hc with hpoint | ⟨piece,hpiece,hmem⟩
  · simp [isForeign,List.mem_singleton.mp hpoint]
  · have hname := h.2 (Text.trim piece) (List.mem_map_of_mem hpiece)
    obtain ⟨a,b,ha,hb,heq⟩ := Text.eq_append_trim piece
    rw [heq,List.mem_append,List.mem_append] at hmem
    rcases hmem with (hblank | hpart) | hblank
    · simp [isForeign,ha c hblank]
    · simp [isForeign,isIdentifierPart_of_mem hname hpart]
    · simp [isForeign,hb c hblank]

/-- Every operator has a character that paths do not have, so that operators need not be excluded. -/
theorem IsPath.not_isInfix {y : List Char} (h : IsPath y) {op : List Char} (hop : op ∈ operators) :
    ¬op <:+: y := by
  have hforeign : ∀ op ∈ operators, op.any isForeign = true := by decide
  intro hoccurs
  obtain ⟨c,hc,hcf⟩ := List.any_eq_true.mp (hforeign op hop)
  simp [h.isForeign_of_mem (hoccurs.subset hc)] at hcf

theorem isPath_iff {y : List Char} :
    IsPath y ↔ '.' ∈ y ∧ ∀ name ∈ names y, isIdentifier name = true := by
  rw [IsPath,names,List.length_map,Nat.succ_le_iff,Text.one_lt_length_splitOn]

theorem path?_eq (y : List Char) : path? y = if IsPath y then some (chain (names y)) else none := by
  have hnames : (Text.splitOn '.' y).map Text.trim = names y := by rw [Text.splitOn_eq,names]
  simp only [path?,hnames]
  by_cases hpath : IsPath y
  · have hpoint := (isPath_iff.mp hpath).1
    have hops : operators.any (Text.contains · y) = false := by
      simp only [List.any_eq_false,Text.contains_iff]
      exact fun op hop => hpath.not_isInfix hop
    cases hn : names y with
    | nil => simp [IsPath,hn] at hpath
    | cons first rest =>
      have hall : (first :: rest).all isIdentifier = true := List.all_eq_true.mpr (hn ▸ hpath.2)
      simp [hpoint,hops,hpath,chain,hall]
  · rw [if_neg hpath]
    split_ifs with hcond
    · rfl
    · have hpoint : '.' ∈ y := by
        by_contra h
        simp [h] at hcond
      cases hn : names y with
      | nil => rfl
      | cons first rest =>
        have hall : ¬(first :: rest).all isIdentifier = true := by
          intro h
          exact hpath (isPath_iff.mpr ⟨hpoint,hn ▸ List.all_eq_true.mp h⟩)
        simp only [hall]
        rfl

inductive Quote where
  | single
  | double

def Quote.mark : Quote → Char
  | single => '\''
  | double => '"'

namespace Quote

theorem size_mark (q : Quote) : size [q.mark] = 1 := by
  cases q <;> decide

theorem exists_mark_iff {c : Char} : (∃ q : Quote, q.mark = c) ↔ c = '\'' ∨ c = '"' := by
  constructor
  · rintro ⟨q,rfl⟩
    cases q with
    | single => exact Or.inl rfl
    | double => exact Or.inr rfl
  · rintro (rfl | rfl)
    · exact ⟨single,rfl⟩
    · exact ⟨double,rfl⟩

end Quote

theorem isQuoted_iff {y : List Char} :
    IsQuoted y ↔ ∃ (q : Quote) (inner : List Char), y = q.mark :: (inner ++ [q.mark]) := by
  constructor
  · rintro ⟨hsize,hhead,hlast⟩
    cases y with
    | nil => simp at hhead
    | cons c s =>
      obtain ⟨q,rfl⟩ := Quote.exists_mark_iff.mpr (by simpa using hhead : c = '\'' ∨ c = '"')
      rcases List.eq_nil_or_concat s with rfl | ⟨inner,last,rfl⟩
      · rw [q.size_mark] at hsize
        omega
      · rw [List.concat_eq_append,← List.cons_append,List.getLast?_concat] at hlast
        exact ⟨q,inner,by rw [List.concat_eq_append,Option.some.inj hlast]⟩
  · rintro ⟨q,inner,rfl⟩
    have hends : (q.mark :: (inner ++ [q.mark])).getLast? = some q.mark := by
      rw [← List.cons_append,List.getLast?_concat]
    refine ⟨?_,by simpa using Quote.exists_mark_iff.mp ⟨q,rfl⟩,hends⟩
    have hsize : size (q.mark :: (inner ++ [q.mark])) =
        size [q.mark] + (size inner + size [q.mark]) := by
      rw [← List.singleton_append,Text.size_append,Text.size_append]
    rw [hsize,q.size_mark]
    omega

theorem literal?_eq_some {y : List Char} {value : String} :
    literal? y = some value ↔
      ∃ (q : Quote) (inner : List Char),
        y = q.mark :: (inner ++ [q.mark]) ∧ String.ofList inner = value := by
  cases y with
  | nil => simp [literal?]
  | cons c s =>
    rcases List.eq_nil_or_concat s with rfl | ⟨inner,last,rfl⟩
    · simp [literal?]
    · have hread : literal? (c :: inner.concat last) =
          if (c = '\'' ∨ c = '"') ∧ last = c then some (String.ofList inner) else none := by
        simp [literal?]
      rw [hread]
      constructor
      · intro h
        split_ifs at h with hends
        obtain ⟨hquote,rfl⟩ := hends
        obtain ⟨q,rfl⟩ := Quote.exists_mark_iff.mpr hquote
        exact ⟨q,inner,by simp,Option.some.inj h⟩
      · rintro ⟨q,inner',hy,rfl⟩
        obtain ⟨rfl,rfl,rfl⟩ : c = q.mark ∧ inner = inner' ∧ last = q.mark := by
          simpa using hy
        rw [if_pos ⟨Quote.exists_mark_iff.mp ⟨q,rfl⟩,rfl⟩]

theorem literal?_eq (y : List Char) :
    literal? y = if IsQuoted y then some (String.ofList (y.drop 1).dropLast) else none := by
  split_ifs with hquoted
  · obtain ⟨q,inner,rfl⟩ := isQuoted_iff.mp hquoted
    exact literal?_eq_some.mpr ⟨q,inner,rfl,by simp⟩
  · rw [Option.eq_none_iff_forall_ne_some]
    intro value h
    obtain ⟨q,inner,hy,-⟩ := literal?_eq_some.mp h
    exact hquoted (isQuoted_iff.mpr ⟨q,inner,hy⟩)

theorem reading_append_left {a : List Char} (ha : Text.Blank a) (x : List Char) :
    reading (a ++ x) = reading x := by
  simp only [reading,Text.trim_append_left ha]

theorem reading_append_right {b : List Char} (hb : Text.Blank b) (x : List Char) :
    reading (x ++ b) = reading x := by
  simp only [reading,Text.trim_append_right hb]

/-- The readings of the segments of a source, joined from the right. -/
def Joined (s : List Char) (e : Expr) : Prop :=
  ∃ init last, segments s = init ++ [last] ∧
    e = (init.map reading).foldr nullCoalescing (reading last)

theorem Joined.append_left {a s : List Char} {e : Expr} (h : Joined s e) (ha : Text.Blank a) :
    Joined (a ++ s) e := by
  obtain ⟨init,last,hseg,rfl⟩ := h
  have hfront := segments_append_left (ha.not_mem (by decide) : '?' ∉ a) s
  rw [hseg] at hfront
  cases init with
  | nil => exact ⟨[],a ++ last,hfront,by simp [reading_append_left ha]⟩
  | cons x init => exact ⟨(a ++ x) :: init,last,hfront,by simp [reading_append_left ha]⟩

theorem Joined.append_right {b s : List Char} {e : Expr} (h : Joined s e) (hb : Text.Blank b) :
    Joined (s ++ b) e := by
  obtain ⟨init,last,hseg,rfl⟩ := h
  refine ⟨init,last ++ b,segments_append_right (hb.not_mem (by decide)) hseg,?_⟩
  rw [reading_append_right hb]

theorem joined_of_trim {s : List Char} {e : Expr} (h : Joined (Text.trim s) e) : Joined s e := by
  obtain ⟨a,b,ha,hb,hs⟩ := Text.eq_append_trim s
  rw [hs]
  exact (h.append_left ha).append_right hb

theorem reading_eq (x : List Char) :
    reading x = (path? (Text.trim x)).getD (atom (Text.trim x)) := by
  simp only [reading,path?_eq,atom,literal?_eq]
  split_ifs <;> rfl

theorem joined_singleton {s : List Char} (h : ¬coalesceMark <:+: s) : Joined s (reading s) :=
  ⟨[],s,segments_of_not_isInfix h,rfl⟩

theorem Joined.eq_reading {s : List Char} {e : Expr} (h : Joined s e) (hs : ¬coalesceMark <:+: s) :
    e = reading s := by
  obtain ⟨init,last,hseg,rfl⟩ := h
  rw [segments_of_not_isInfix hs] at hseg
  obtain ⟨rfl,rfl⟩ : init = [] ∧ last = s := by
    simpa [List.singleton_eq_append_iff,eq_comm] using hseg
  rfl

theorem Joined.mark {x rest : List Char} {e : Expr}
    (hfirst : FirstAt coalesceMark (x ++ coalesceMark ++ rest) x.length) (h : Joined rest e) :
    Joined (x ++ coalesceMark ++ rest) (nullCoalescing (reading x) e) := by
  obtain ⟨init,last,hseg,rfl⟩ := h
  exact ⟨x :: init,last,by rw [segments_of_firstAt hfirst,hseg,List.cons_append],rfl⟩

/-- Only the first mark is looked for, but both of its sides are read in turn. -/
theorem joined_parse (s : List Char) : Joined s (parse s) := by
  fun_induction parse s with
  | case1 s y path hpath =>
    rw [path?_eq] at hpath
    split_ifs at hpath with h
    have hmark : ¬coalesceMark <:+: y := h.not_isInfix (by decide)
    have hread : reading y = path := by
      rw [reading_eq,Text.trim_trim,path?_eq,if_pos h,Option.getD_some]
      exact Option.some.inj hpath
    exact joined_of_trim (hread ▸ joined_singleton hmark)
  | case2 s y hpath before after hcut _ ihb iha =>
    obtain ⟨hy,hfirst⟩ := Text.cut?_eq_some_iff.mp hcut
    have hbefore : ¬coalesceMark <:+: before :=
      hfirst.not_isInfix (by decide) (List.append_assoc _ _ _ ▸ hy)
    -- the left side is read as a whole expression, but has no mark left to be joined at
    rw [ihb.eq_reading hbefore]
    rw [hy] at hfirst
    have hjoined := iha.mark hfirst
    rw [← hy] at hjoined
    exact joined_of_trim hjoined
  | case3 s y hpath hcut =>
    have hread : reading y = atom y := by
      rw [reading_eq,Text.trim_trim,hpath,Option.getD_none]
    exact joined_of_trim (hread ▸ joined_singleton (Text.cut?_eq_none_iff.mp hcut))

theorem slices_of_cut {y before after : List Char}
    (h : Text.cut? coalesceMark y = some (before,after)) :
    before.length < y.length ∧ after.length < y.length ∧
      IsSlice y 0 (size before) before ∧ IsSlice y (size before + 2) (size y) after := by
  obtain rfl := Text.eq_append_of_cut? h
  have hlength : coalesceMark.length = 2 := rfl
  have hsize : size (before ++ coalesceMark) = size before + 2 := Text.size_append _ _
  have hbefore := Text.isSlice_append [] before (coalesceMark ++ after)
  have hafter := Text.isSlice_append (before ++ coalesceMark) after []
  rw [List.nil_append,← List.append_assoc] at hbefore
  rw [List.append_nil,hsize] at hafter
  refine ⟨?_,?_,hbefore,hafter⟩ <;> simp only [List.length_append,hlength] <;> omega

theorem slice_of_literal {y : List Char} {value : String} (h : literal? y = some value) :
    IsSlice y 1 (size y - 1) value.toList := by
  obtain ⟨q,inner,rfl,rfl⟩ := literal?_eq_some.mp h
  have hslice := Text.isSlice_append [q.mark] inner [q.mark]
  have hsize : size (q.mark :: (inner ++ [q.mark])) - 1 = size ([q.mark] ++ inner) := by
    rw [← List.singleton_append,← List.append_assoc,Text.size_append _ [q.mark],q.size_mark,
      Nat.add_sub_cancel]
  rw [q.size_mark] at hslice
  rw [hsize,String.toList_ofList]
  exact hslice

/-- An expression is read as its segments joined from the right. The segments are the one way to cut
a source from left to right at marks that do not overlap. Every cut that is made on the way lies
between two characters and leaves shorter texts, and so does the removal of quotes. -/
theorem parse_joins_segments (s : List Char) :
    (∀ pieces, segments s = pieces ↔
      coalesceMark.intercalate pieces = s ∧ Leftmost pieces) ∧
    (∃ init last, segments s = init ++ [last] ∧
      parse s = (init.map reading).foldr nullCoalescing (reading last)) ∧
    (∀ y before after, Text.cut? coalesceMark y = some (before,after) →
      before.length < y.length ∧ after.length < y.length ∧
        IsSlice y 0 (size before) before ∧ IsSlice y (size before + 2) (size y) after) ∧
    ∀ y value, literal? y = some value → IsSlice y 1 (size y - 1) value.toList :=
  ⟨fun _ => segments_eq_iff,joined_parse s,fun _ _ _ => slices_of_cut,
    fun _ _ => slice_of_literal⟩

/-- Of three question marks the first two are the mark. The third makes a literal behind it a plain
text, which on its own is cut between the bytes of no character. -/
theorem parse_joins_segments_overlapping :
    let s := " n . m ??? 'é' ".toList
    let y := "n . m ??? 'é'".toList
    segments s = [" n . m ".toList,"? 'é' ".toList] ∧
      parse s = nullCoalescing (propertyAccess (identifier "n") "m") (identifier "? 'é'") ∧
      IsSlice y 0 6 "n . m ".toList ∧ IsSlice y 8 14 "? 'é'".toList ∧
      IsSlice "'é'".toList 1 3 "é".toList := by
  intro s y
  obtain ⟨-,⟨init,last,hseg,hparse⟩,hcut,hliteral⟩ := parse_joins_segments s
  have hsegments : segments s = [" n . m ".toList] ++ ["? 'é' ".toList] := by decide +kernel
  obtain ⟨rfl,hlast⟩ := List.append_inj' (hsegments.symm.trans hseg) rfl
  obtain rfl := (List.cons.inj hlast).1
  have hslices := hcut y "n . m ".toList "? 'é'".toList (by decide +kernel)
  have hsizes : size "n . m ".toList = 6 ∧ size y = 14 ∧ size "'é'".toList = 4 := by decide +kernel
  rw [hsizes.1,hsizes.2.1] at hslices
  have hinside := hliteral "'é'".toList "é" (by decide +kernel)
  rw [hsizes.2.2] at hinside
  exact ⟨hsegments,hparse.trans (by decide +kernel),hslices.2.2.1,hslices.2.2.2,hinside⟩

end Expr
end AppLint
