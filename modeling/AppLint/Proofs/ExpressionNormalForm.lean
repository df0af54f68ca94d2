import AppLint.Proofs.ExpressionReading

/-! The normal form of expressions: what reading can give, and what is read back from its printed
form. -/
namespace AppLint
namespace Expr

/-- Property accesses down to an identifier, where all names are identifiers. -/
def IsChain : Expr → Prop
  | identifier name => isIdentifier name.toList = true
  | propertyAccess object property => object.IsChain ∧ isIdentifier property.toList = true
  | _ => False

/-- An expression without fallback in normal form. A name that is no identifier stands for a text
that is nothing else either. -/
def IsAtom : Expr → Prop
  | identifier name =>
    Text.trim name.toList = name.toList ∧ ¬coalesceMark <:+: name.toList ∧
      ¬IsPath name.toList ∧ ¬IsQuoted name.toList
  | stringLiteral value => ¬coalesceMark <:+: value.toList
  | propertyAccess object property => (propertyAccess object property).IsChain
  | nullCoalescing _ _ => False

/-- Fallbacks nest to the right. -/
def IsNormal : Expr → Prop
  | nullCoalescing left right => left.IsAtom ∧ right.IsNormal
  | e => e.IsAtom

theorem IsAtom.isNormal {e : Expr} (h : e.IsAtom) : e.IsNormal := by
  cases e with
  | nullCoalescing left right => exact h.elim
  | _ => exact h

/-- The printed form of an expression, with the quotes that `quote` picks for its strings. -/
def render (quote : String → Quote) : Expr → List Char
  | identifier name => name.toList
  | stringLiteral value => (quote value).mark :: (value.toList ++ [(quote value).mark])
  | propertyAccess object property => object.render quote ++ '.' :: property.toList
  | nullCoalescing left right => left.render quote ++ " ?? ".toList ++ right.render quote

def leaves : Expr → List String
  | identifier name => [name]
  | stringLiteral _ => []
  | propertyAccess object _ => object.leaves
  | nullCoalescing left right => left.leaves ++ right.leaves

theorem chain_concat {init : List (List Char)} (h : init ≠ []) (last : List Char) :
    chain (init ++ [last]) = propertyAccess (chain init) (String.ofList last) := by
  cases init with
  | nil => exact absurd rfl h
  | cons first rest => simp [chain]

theorem isChain_chain {names : List (List Char)} (hne : names ≠ [])
    (h : ∀ name ∈ names, isIdentifier name = true) : (chain names).IsChain := by
  induction names using List.reverseRecOn with
  | nil => exact absurd rfl hne
  | append_singleton init last ih =>
    have hlast : isIdentifier last = true := h last (by simp)
    cases init with
    | nil => simpa [chain,IsChain] using hlast
    | cons first rest =>
      rw [chain_concat (List.cons_ne_nil first rest)]
      refine ⟨ih (List.cons_ne_nil first rest) fun name hname => ?_,by simpa using hlast⟩
      exact h name (List.mem_append_left _ hname)

theorem isAtom_chain {names : List (List Char)} (hlength : 2 ≤ names.length)
    (h : ∀ name ∈ names, isIdentifier name = true) : (chain names).IsAtom := by
  have hchain : (chain names).IsChain := isChain_chain (by rintro rfl; simp at hlength) h
  rcases List.eq_nil_or_concat names with rfl | ⟨init,last,rfl⟩
  · simp at hlength
  · rw [List.concat_eq_append] at hlength hchain ⊢
    have hinit : init ≠ [] := by
      rintro rfl
      simp at hlength
    rw [chain_concat hinit] at hchain ⊢
    exact hchain

/-- A quote is no white space, starts no identifier and stands in no path. -/
theorem Quote.stands_apart (q : Quote) :
    Text.isBlank q.mark = false ∧ isIdentifierStart q.mark = false ∧ isForeign q.mark = true := by
  cases q <;> decide

theorem not_isQuoted_of_isIdentifier {y : List Char} (h : isIdentifier y = true) : ¬IsQuoted y := by
  intro hquoted
  obtain ⟨q,inner,rfl⟩ := isQuoted_iff.mp hquoted
  simp [isIdentifier,q.stands_apart.2.1] at h

theorem isAtom_reading {x : List Char} (h : ¬coalesceMark <:+: x) : (reading x).IsAtom := by
  have hmark : ¬coalesceMark <:+: Text.trim x := fun hoccurs => h (hoccurs.trans (Text.trim_isInfix x))
  unfold reading
  dsimp only
  split_ifs with hpath hid hquoted
  · exact isAtom_chain hpath.1 hpath.2
  · simpa [IsAtom,hmark,hpath] using not_isQuoted_of_isIdentifier hid
  · have hinside : ((Text.trim x).drop 1).dropLast <:+: Text.trim x :=
      (List.dropLast_prefix _).isInfix.trans (List.drop_suffix 1 _).isInfix
    rw [IsAtom,String.toList_ofList]
    exact fun hoccurs => hmark (hoccurs.trans hinside)
  · simp [IsAtom,hmark,hpath,hquoted]

theorem not_isInfix_of_mem {pieces : List (List Char)} (h : Leftmost pieces) {x : List Char}
    (hx : x ∈ pieces) : ¬coalesceMark <:+: x := by
  fun_induction Leftmost pieces with
  | case1 => exact h.elim
  | case2 y =>
    rw [List.mem_singleton.mp hx]
    exact h
  | case3 y z rest ih =>
    rcases List.mem_cons.mp hx with rfl | hmem
    · exact h.1.not_isInfix (by decide) (by rw [List.intercalate_cons_cons,List.append_assoc])
    · exact ih h.2 hmem

theorem Joined.isNormal {s : List Char} {e : Expr} (h : Joined s e) : e.IsNormal := by
  obtain ⟨init,last,hseg,rfl⟩ := h
  have hleft := (segments_eq_iff.mp hseg).2
  have hatom : ∀ x ∈ init ++ [last], (reading x).IsAtom :=
    fun x hx => isAtom_reading (not_isInfix_of_mem hleft hx)
  clear hseg hleft
  induction init with
  | nil => exact (hatom last (by simp)).isNormal
  | cons x init ih =>
    exact ⟨hatom x (by simp),ih fun y hy => hatom y (List.mem_cons_of_mem _ hy)⟩

theorem Joined.unique {s : List Char} {e e' : Expr} (h : Joined s e) (h' : Joined s e') : e = e' := by
  obtain ⟨init,last,hseg,rfl⟩ := h
  obtain ⟨init',last',hseg',rfl⟩ := h'
  obtain ⟨rfl,hlast⟩ := List.append_inj' (hseg.symm.trans hseg') rfl
  rw [List.cons.inj hlast |>.1]

theorem isBlank_of_isIdentifierPart {c : Char} (h : isIdentifierPart c = true) :
    Text.isBlank c = false := by
  have hcode : (((97 ≤ c.toNat ∧ c.toNat ≤ 122 ∨ 65 ≤ c.toNat ∧ c.toNat ≤ 90) ∨ c.toNat = 95) ∨
      c.toNat = 36) ∨ 48 ≤ c.toNat ∧ c.toNat ≤ 57 := by
    simpa [isIdentifierPart,isIdentifierStart,Char.le_def,UInt32.le_iff_toNat_le,Char.ext_iff,
      UInt32.ext_iff] using h
  simp only [Text.isBlank,Bool.or_eq_false_iff,Bool.and_eq_false_iff,decide_eq_false_iff_not,
    beq_eq_false_iff_ne,ne_eq]
  omega

/-- No identifier has a point or white space. -/
theorem names_intercalate {pieces : List (List Char)} (hne : pieces ≠ [])
    (h : ∀ name ∈ pieces, isIdentifier name = true) : names (['.'].intercalate pieces) = pieces := by
  have hpoint : ∀ name ∈ pieces, '.' ∉ name := by
    intro name hname hmem
    exact absurd (isIdentifierPart_of_mem (h name hname) hmem) (by decide)
  have htrim : ∀ name ∈ pieces, Text.trim name = name := by
    intro name hname
    refine Text.trim_of_forall fun c hc => ?_
    exact isBlank_of_isIdentifierPart (isIdentifierPart_of_mem (h name hname) hc)
  rw [names,List.splitOn_intercalate '.' hpoint hne]
  exact (List.map_congr_left htrim).trans (List.map_id pieces)

def chainNames : Expr → List (List Char)
  | identifier name => [name.toList]
  | propertyAccess object property => object.chainNames ++ [property.toList]
  | _ => []

namespace IsChain
variable {e : Expr} (h : e.IsChain)
include h

theorem chainNames_ne_nil : e.chainNames ≠ [] := by
  cases e <;> simp_all [IsChain,chainNames]

theorem isIdentifier_of_mem : ∀ name ∈ e.chainNames, isIdentifier name = true := by
  induction e with
  | identifier name =>
    intro other hother
    rw [List.mem_singleton.mp hother]
    exact h
  | propertyAccess object property ih =>
    intro name hname
    rcases List.mem_append.mp hname with hobject | hproperty
    · exact ih h.1 name hobject
    · rw [List.mem_singleton.mp hproperty]
      exact h.2
  | _ => exact h.elim

theorem chain_chainNames : chain e.chainNames = e := by
  induction e with
  | identifier name => simp [chainNames,chain]
  | propertyAccess object property ih =>
    rw [chainNames,chain_concat (chainNames_ne_nil h.1),ih h.1,String.ofList_toList]
  | _ => exact h.elim

theorem render_eq (quote : String → Quote) : e.render quote = ['.'].intercalate e.chainNames := by
  induction e with
  | identifier name => simp [chainNames,render]
  | propertyAccess object property ih =>
    rw [render,ih h.1,chainNames,Text.intercalate_concat (chainNames_ne_nil h.1),List.append_assoc,
      List.singleton_append]
  | _ => exact h.elim

theorem trim_render (quote : String → Quote) : Text.trim (e.render quote) = e.render quote := by
  refine Text.trim_of_forall fun c hc => ?_
  rw [h.render_eq] at hc
  rcases Text.mem_of_mem_intercalate hc with hpoint | ⟨name,hname,hmem⟩
  · rw [List.mem_singleton.mp hpoint]
    decide
  · exact isBlank_of_isIdentifierPart (isIdentifierPart_of_mem (h.isIdentifier_of_mem name hname) hmem)

theorem names_render (quote : String → Quote) : names (e.render quote) = e.chainNames := by
  rw [h.render_eq,names_intercalate h.chainNames_ne_nil h.isIdentifier_of_mem]

end IsChain

theorem isPath_render {object : Expr} {property : String}
    (h : (propertyAccess object property).IsChain) (quote : String → Quote) :
    IsPath ((propertyAccess object property).render quote) := by
  have hobject := List.length_pos_iff.mpr (IsChain.chainNames_ne_nil h.1)
  rw [IsPath,h.names_render,chainNames,List.length_append,List.length_singleton]
  exact ⟨Nat.succ_le_succ hobject,h.isIdentifier_of_mem⟩

theorem reading_render {e : Expr} (h : e.IsAtom) (quote : String → Quote) :
    reading (e.render quote) = e := by
  unfold reading
  dsimp only
  cases e with
  | identifier name =>
    obtain ⟨htrim,-,hpath,hquoted⟩ := h
    simp [render,htrim,hpath,hquoted]
  | stringLiteral value =>
    rw [render]
    generalize quote value = q
    obtain ⟨hblank,hstart,hforeign⟩ := q.stands_apart
    have hpath : ¬IsPath (q.mark :: (value.toList ++ [q.mark])) := by
      intro hpath
      have hfalse := hpath.isForeign_of_mem List.mem_cons_self
      rw [hforeign] at hfalse
      cases hfalse
    have hid : ¬isIdentifier (q.mark :: (value.toList ++ [q.mark])) = true := by
      simp [isIdentifier,hstart]
    have hquoted : IsQuoted (q.mark :: (value.toList ++ [q.mark])) := isQuoted_iff.mpr ⟨q,_,rfl⟩
    rw [Text.trim_of_ends hblank hblank,if_neg hpath,if_neg hid,if_pos hquoted]
    simp
  | propertyAccess object property =>
    have hchain : (propertyAccess object property).IsChain := h
    rw [hchain.trim_render,if_pos (isPath_render hchain quote),hchain.names_render,
      hchain.chain_chainNames]
  | nullCoalescing left right => exact h.elim

theorem not_isInfix_render {e : Expr} (h : e.IsAtom) (quote : String → Quote) :
    ¬coalesceMark <:+: e.render quote := by
  cases e with
  | identifier name => exact h.2.1
  | stringLiteral value =>
    have hne : (quote value).mark ≠ '?' := by cases quote value <;> decide
    rw [render,List.infix_cons_iff,List.infix_concat_iff]
    rintro (hfirst | hlast | hinside)
    · exact hne (List.cons_prefix_cons.mp hfirst).1.symm
    · obtain ⟨before,hbefore⟩ := hlast
      have hend := congrArg List.getLast? hbefore
      rw [List.getLast?_concat,List.getLast?_append] at hend
      exact hne (Option.some.inj hend).symm
    · exact h hinside
  | propertyAccess object property => exact (isPath_render h quote).not_isInfix (by decide)
  | nullCoalescing left right => exact h.elim

theorem firstAt_of_not_isInfix {x : List Char} (h : ¬coalesceMark <:+: x) {c : Char} (hc : c ≠ '?')
    (rest : List Char) :
    Text.FirstAt coalesceMark (x ++ [c] ++ coalesceMark ++ rest) (x ++ [c]).length := by
  induction x with
  | nil =>
    refine Text.firstAt_succ.mpr ⟨?_,Text.firstAt_zero.mpr ⟨rest,rfl⟩⟩
    intro hmark
    exact hc (List.cons_prefix_cons.mp hmark).1.symm
  | cons d x ih =>
    rw [List.infix_cons_iff,not_or] at h
    refine Text.firstAt_succ.mpr ⟨fun hmark => ?_,ih h.2⟩
    -- a mark that starts here ends in the text itself, or at `c` if the text is over
    cases x with
    | nil =>
      obtain ⟨-,hsecond⟩ := List.cons_prefix_cons.mp hmark
      exact hc (List.cons_prefix_cons.mp hsecond).1.symm
    | cons e x =>
      obtain ⟨rfl,hsecond⟩ := List.cons_prefix_cons.mp hmark
      obtain ⟨rfl,-⟩ := List.cons_prefix_cons.mp hsecond
      exact h.1 ⟨x,rfl⟩

/-- The printed form of a normal expression has the segments that the expression is joined from. -/
theorem joined_render {e : Expr} (h : e.IsNormal) (quote : String → Quote) :
    Joined (e.render quote) e := by
  have hatom : ∀ {e : Expr}, e.IsAtom → Joined (e.render quote) e := by
    intro e he
    have hjoined := joined_singleton (not_isInfix_render he quote)
    rwa [reading_render he quote] at hjoined
  have hspace : Text.Blank [' '] := fun c hc => List.mem_singleton.mp hc ▸ rfl
  induction e with
  | nullCoalescing left right _ ih =>
    obtain ⟨hleft,hright⟩ := h
    have hjoined := ((ih hright).append_left hspace).mark
      (firstAt_of_not_isInfix (not_isInfix_render hleft quote) (by decide : ' ' ≠ '?') _)
    rw [reading_append_right hspace,reading_render hleft quote] at hjoined
    simpa [render,coalesceMark] using hjoined
  | _ => exact hatom h

theorem IsChain.root?_eq {e : Expr} (h : e.IsChain) : e.root?.toList = e.leaves := by
  induction e with
  | identifier name => rfl
  | propertyAccess object property ih => exact ih h.1
  | _ => exact h.elim

/-- Below a property access there is one leaf, and it is an identifier. -/
theorem identifiers_eq_leaves {e : Expr} (h : e.IsNormal) : e.identifiers = e.leaves := by
  induction e with
  | identifier name => rfl
  | stringLiteral value => rfl
  | propertyAccess object property => exact IsChain.root?_eq h
  | nullCoalescing left right ihl ihr => rw [identifiers,ihl h.1.isNormal,ihr h.2,leaves]

/-- What reading gives is normal, and the normal expressions are those that are read back from their
printed form, whichever quotes are printed. Of an expression that was read, all identifiers at the
leaves are listed. -/
theorem isNormal_iff_parse_render (quote : String → Quote) :
    (∀ s, (parse s).IsNormal) ∧
    (∀ e : Expr, e.IsNormal ↔ parse (e.render quote) = e) ∧
    ∀ s, (parse s).identifiers = (parse s).leaves := by
  have hparse : ∀ s, (parse s).IsNormal := fun s => (joined_parse s).isNormal
  refine ⟨hparse,fun e => ⟨fun h => ?_,fun h => ?_⟩,fun s => identifiers_eq_leaves (hparse s)⟩
  · exact (joined_parse _).unique (joined_render h quote)
  · rw [← h]
    exact hparse _

end Expr
end AppLint
