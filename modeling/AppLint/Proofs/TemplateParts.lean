import AppLint.Template
import AppLint.Proofs.TextCut
import Mathlib.Data.List.Chain

/-! The parts of a template body. Among all ways to write a body as texts with interpolations
between them there is one that opens each interpolation at the first opening mark and closes it at
the first closing mark after that, and leaves no interpolation in its last text. -/
namespace AppLint
namespace Template
open Text (FirstAt)

def HasSpan (s : List Char) : Prop :=
  ∃ before source after, s = before ++ openMark ++ (source ++ closeMark ++ after)

theorem split?_eq_some_iff {s before source after : List Char} :
    split? s = some (before,source,after) ↔
      s = before ++ openMark ++ (source ++ closeMark ++ after) ∧
      FirstAt openMark s before.length ∧
      FirstAt closeMark (source ++ closeMark ++ after) source.length := by
  simp only [split?,Option.bind_eq_bind,Option.bind_eq_some_iff,Prod.exists]
  constructor
  · rintro ⟨b,inside,hopen,src,aft,hclose,heq⟩
    cases heq
    obtain ⟨hs,hfirst⟩ := Text.cut?_eq_some_iff.mp hopen
    obtain ⟨rfl,hfirst'⟩ := Text.cut?_eq_some_iff.mp hclose
    exact ⟨hs,hfirst,hfirst'⟩
  · rintro ⟨hs,hopen,hclose⟩
    exact ⟨before,_,Text.cut?_eq_some_iff.mpr ⟨hs,hopen⟩,source,after,
      Text.cut?_eq_some_iff.mpr ⟨rfl,hclose⟩,rfl⟩

/-- What follows the first opening mark holds all that follows a later one. -/
theorem closeMark_infix_of_firstAt {before inside : List Char}
    (hfirst : FirstAt openMark (before ++ openMark ++ inside) before.length)
    (hspan : HasSpan (before ++ openMark ++ inside)) : closeMark <:+: inside := by
  obtain ⟨b,source,after,heq⟩ := hspan
  have hle : before.length ≤ b.length := by
    refine hfirst.le ?_
    simp [heq]
  obtain ⟨gap,hgap⟩ : ∃ gap, inside = gap ++ (source ++ closeMark ++ after) := by
    have hlong : (before ++ openMark).length ≤ (b ++ openMark).length := by simpa using hle
    obtain ⟨gap,hgap⟩ := List.prefix_of_prefix_length_le ⟨inside,rfl⟩ ⟨_,heq.symm⟩ hlong
    rw [← hgap,List.append_assoc (before ++ openMark)] at heq
    exact ⟨gap,List.append_cancel_left heq⟩
  exact ⟨gap ++ source,after,by simp [hgap]⟩

theorem split?_eq_none_iff {s : List Char} : split? s = none ↔ ¬HasSpan s := by
  constructor
  · intro h hspan
    cases hopen : Text.cut? openMark s with
    | none =>
      obtain ⟨b,source,after,rfl⟩ := hspan
      exact Text.cut?_eq_none_iff.mp hopen ⟨b,source ++ closeMark ++ after,rfl⟩
    | some cut =>
      obtain ⟨before,inside⟩ := cut
      have hclose : Text.cut? closeMark inside = none := by
        cases hcut : Text.cut? closeMark inside with
        | none => rfl
        | some _ => simp [split?,hopen,hcut] at h
      obtain ⟨rfl,hfirst⟩ := Text.cut?_eq_some_iff.mp hopen
      exact Text.cut?_eq_none_iff.mp hclose (closeMark_infix_of_firstAt hfirst hspan)
  · intro h
    rw [Option.eq_none_iff_forall_ne_some]
    rintro ⟨before,source,after⟩ hsplit
    exact h ⟨before,source,after,(split?_eq_some_iff.mp hsplit).1⟩

/-- A text, the source of an interpolation, a text and so on, up to the last text. -/
inductive Parts where
  | last (text : List Char)
  | next (text source : List Char) (rest : Parts)

namespace Parts

def written : Parts → List Char
  | last text => text
  | next text source rest => text ++ openMark ++ (source ++ closeMark ++ rest.written)

/-- Each interpolation starts at the first opening mark of what remains, it ends at the first
closing mark after that, and there is none in the last text. -/
def LeftmostShortest : Parts → Prop
  | last text => ¬HasSpan text
  | next text source rest =>
    FirstAt openMark (next text source rest).written text.length ∧
      FirstAt closeMark (source ++ closeMark ++ rest.written) source.length ∧
      rest.LeftmostShortest

def pieces : Parts → List TemplateNode
  | last text => [.text (String.ofList text)]
  | next text source rest =>
    .text (String.ofList text) :: .interpolation (Expr.parse source) :: rest.pieces

theorem split?_next {text source : List Char} {rest : Parts}
    (h : (next text source rest).LeftmostShortest) :
    split? (next text source rest).written = some (text,source,rest.written) :=
  split?_eq_some_iff.mpr ⟨rfl,h.1,h.2.1⟩

theorem exists_leftmostShortest (s : List Char) :
    ∃ parts : Parts, parts.written = s ∧ parts.LeftmostShortest := by
  fun_induction nodes s with
  | case1 s before source after hsplit _ ih =>
    obtain ⟨rest,rfl,hrest⟩ := ih
    obtain ⟨hs,hopen,hclose⟩ := split?_eq_some_iff.mp hsplit
    rw [hs] at hopen
    exact ⟨next before source rest,hs.symm,hopen,hclose,hrest⟩
  | case2 s hsplit => exact ⟨last s,rfl,split?_eq_none_iff.mp hsplit⟩

theorem eq_of_written_eq {p q : Parts} (hp : p.LeftmostShortest) (hq : q.LeftmostShortest)
    (h : p.written = q.written) : p = q := by
  induction p generalizing q with
  | last text =>
    have hnone : split? q.written = none := h ▸ split?_eq_none_iff.mpr hp
    cases q with
    | last text' => exact congrArg last h
    | next text' source' rest' => simp [split?_next hq] at hnone
  | next text source rest ih =>
    have hsome := split?_next hp
    rw [h] at hsome
    cases q with
    | last text' => simp [written,split?_eq_none_iff.mpr hq] at hsome
    | next text' source' rest' =>
      rw [split?_next hq] at hsome
      obtain ⟨rfl,rfl,hrest⟩ : text' = text ∧ source' = source ∧ rest'.written = rest.written := by
        simpa using hsome
      rw [ih hp.2.2 hq.2.2 hrest.symm]

end Parts

theorem textNode_eq (s : List Char) :
    textNode s = [TemplateNode.text (String.ofList s)].filter (· ≠ .text "") := by
  cases s with
  | nil => rfl
  | cons c s => simp [textNode]

theorem nodes_of_some {s before source after : List Char}
    (h : split? s = some (before,source,after)) :
    nodes s = textNode before ++ .interpolation (Expr.parse source) :: nodes after := by
  rw [nodes]
  split <;> simp_all

theorem nodes_of_none {s : List Char} (h : split? s = none) : nodes s = textNode s := by
  rw [nodes]
  split <;> simp_all

namespace Parts

theorem filter_pieces_next (text source : List Char) (rest : Parts) :
    (next text source rest).pieces.filter (· ≠ .text "") =
      textNode text ++ .interpolation (Expr.parse source) ::
        rest.pieces.filter (· ≠ .text "") := by
  have hpieces : (next text source rest).pieces =
      [.text (String.ofList text)] ++ .interpolation (Expr.parse source) :: rest.pieces := rfl
  rw [hpieces,List.filter_append,textNode_eq]
  exact congrArg _ (List.filter_cons_of_pos (by simp))

theorem nodes_written {parts : Parts} (h : parts.LeftmostShortest) :
    nodes parts.written = parts.pieces.filter (· ≠ .text "") := by
  induction parts with
  | last text => exact (nodes_of_none (split?_eq_none_iff.mpr h)).trans (textNode_eq text)
  | next text source rest ih =>
    rw [nodes_of_some (split?_next h),filter_pieces_next,ih h.2.2]

-- Between two texts stands an interpolation, and no interpolation is left out.
theorem isChain_pieces (parts : Parts) :
    (parts.pieces.filter (· ≠ .text "")).IsChain
      fun a b => ¬∃ s t, a = .text s ∧ b = .text t := by
  induction parts with
  | last text => by_cases htext : text = [] <;> simp [pieces,htext]
  | next text source rest ih =>
    rw [filter_pieces_next]
    cases text with
    | nil => exact List.isChain_cons.mpr ⟨by simp,ih⟩
    | cons c text =>
      exact List.isChain_cons_cons.mpr ⟨by simp,List.isChain_cons.mpr ⟨by simp,ih⟩⟩

end Parts

/-- A backtick is dropped at each end where there is one, the first one before the last. -/
theorem eq_append_body (token : List Char) :
    ∃ opening closing, token = opening ++ body token ++ closing ∧
      (opening = ['`'] ∨ opening = [] ∧ token.head? ≠ some '`') ∧
      (closing = ['`'] ∨ closing = [] ∧ (body token).getLast? ≠ some '`') := by
  unfold body
  split
  · rename_i rest
    obtain ⟨closing,hrest,hclosing⟩ := Text.dropSuffix_singleton '`' rest
    exact ⟨['`'],closing,congrArg _ hrest,Or.inl rfl,hclosing⟩
  · rename_i hne
    obtain ⟨closing,htoken,hclosing⟩ := Text.dropSuffix_singleton '`' token
    refine ⟨[],closing,htoken,Or.inr ⟨rfl,fun hhead => ?_⟩,hclosing⟩
    obtain ⟨rest,hrest⟩ := List.head?_eq_some_iff.mp hhead
    exact hne rest hrest

/-- The nodes of a template are those of the one leftmost-shortest way to write its body. -/
theorem parse_leftmost_shortest (token : String) :
    (∃ opening closing, token.toList = opening ++ body token.toList ++ closing ∧
      (opening = ['`'] ∨ opening = [] ∧ token.toList.head? ≠ some '`') ∧
      (closing = ['`'] ∨ closing = [] ∧ (body token.toList).getLast? ≠ some '`')) ∧
    (∃! parts : Parts, parts.written = body token.toList ∧ parts.LeftmostShortest) ∧
    (∀ parts : Parts, parts.written = body token.toList → parts.LeftmostShortest →
      parse token = parts.pieces.filter (· ≠ .text "")) ∧
    .text "" ∉ parse token ∧
    (parse token).IsChain fun a b => ¬∃ s t, a = .text s ∧ b = .text t := by
  obtain ⟨parts,hwritten,hparts⟩ := Parts.exists_leftmostShortest (body token.toList)
  have hparse : ∀ p : Parts, p.written = body token.toList → p.LeftmostShortest →
      parse token = p.pieces.filter (· ≠ .text "") := fun p hp h => by
    rw [parse,← hp,Parts.nodes_written h]
  refine ⟨eq_append_body token.toList,⟨parts,⟨hwritten,hparts⟩,?_⟩,hparse,?_,?_⟩
  · rintro q ⟨hq,hshortest⟩
    exact Parts.eq_of_written_eq hshortest hparts (hq.trans hwritten.symm)
  · simp [hparse parts hwritten hparts]
  · rw [hparse parts hwritten hparts]
    exact parts.isChain_pieces

end Template
end AppLint
