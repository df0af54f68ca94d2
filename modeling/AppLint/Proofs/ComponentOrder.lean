import AppLint.Document
import AppLint.Proofs.JsonPath
import AppLint.Rules.ComponentLimit
import Mathlib.Data.Set.Card

/-! The order of components: they are collected as a recursive preorder lists them, each once for the
position where it stands in the tree. -/
namespace AppLint
namespace Component
open Json (Value Path)

def among (items : List Value) : List Component := items.filterMap fun v => v.object?.map mk

def children (c : Component) : List Component := among (itemsOf "children" c.fields)

@[simp] theorem among_object (fields : Keyed Value) (rest : List Value) :
    among (.object fields :: rest) = ⟨fields⟩ :: among rest := rfl

theorem among_cons_of_not_object {v : Value} (h : ∀ fields, v ≠ .object fields)
    (rest : List Value) : among (v :: rest) = among rest := by
  cases v with
  | object fields => exact absurd rfl (h fields)
  | _ => rfl

@[simp] theorem among_append (xs ys : List Value) : among (xs ++ ys) = among xs ++ among ys :=
  List.filterMap_append

theorem sizeOf_lt_of_mem_children {c d : Component} (h : d ∈ c.children) :
    sizeOf d.fields < sizeOf c.fields := by
  obtain ⟨v,hv,hd⟩ := List.mem_filterMap.mp h
  obtain ⟨fields,hfields,rfl⟩ := Option.map_eq_some_iff.mp hd
  cases v with
  | object fs =>
    cases hfields
    have hitem := List.sizeOf_lt_of_mem hv
    have hitems := sizeOf_itemsOf_le "children" c.fields
    simp only [Value.object.sizeOf_spec] at hitem
    exact Nat.lt_trans (Nat.lt_one_add_iff.mpr le_rfl) (Nat.lt_of_lt_of_le hitem hitems)
  | _ => simp [Value.object?] at hfields

/-- A component, and behind it in order the listings of its children. -/
def preorder (c : Component) : List Component :=
  c :: c.children.attach.flatMap fun d => preorder d.1
termination_by sizeOf c.fields
decreasing_by exact sizeOf_lt_of_mem_children d.2

theorem preorder_eq (c : Component) : c.preorder = c :: c.children.flatMap preorder := by
  conv_rhs => rw [← List.attach_map_subtype_val c.children,List.flatMap_map]
  rw [preorder]

/-- A walk in progress: what is still on the stack, its top last, and what has been listed. -/
structure Walk where
  stack : List Component
  listed : List Component

namespace Walk

/-- The top is taken off and listed, and its children are put on the stack from last to first. -/
def round? (w : Walk) : Option Walk :=
  w.stack.getLast?.map fun c => ⟨w.stack.dropLast ++ c.children.reverse,w.listed ++ [c]⟩

def rounds : Nat → Walk → Option Walk
  | 0, w => some w
  | n + 1, w => w.round?.bind (rounds n)

def total (w : Walk) : List Component := w.listed ++ w.stack.reverse.flatMap preorder

theorem round?_concat (stack listed : List Component) (c : Component) :
    round? ⟨stack ++ [c],listed⟩ = some ⟨stack ++ c.children.reverse,listed ++ [c]⟩ := by
  simp [round?]

/-- A round moves the top from what is to be listed to what has been listed. -/
theorem total_round (stack listed : List Component) (c : Component) :
    total ⟨stack ++ c.children.reverse,listed ++ [c]⟩ = total ⟨stack ++ [c],listed⟩ := by
  simp [total,preorder_eq c]

/-- The stack is empty after as many rounds as there are components on it and below. -/
theorem rounds_eq (w : Walk) :
    w.rounds (w.stack.reverse.flatMap preorder).length = some ⟨[],w.total⟩ := by
  obtain ⟨stack,listed⟩ := w
  generalize hn : (stack.reverse.flatMap preorder).length = n
  -- on the number of components still to be listed, of which each round lists one
  induction n generalizing stack listed with
  | zero =>
    have hstack : stack = [] := by
      rcases List.eq_nil_or_concat stack with rfl | ⟨stack,c,rfl⟩
      · rfl
      · simp [preorder_eq c] at hn
    simp [hstack,rounds,total]
  | succ n ih =>
    rcases List.eq_nil_or_concat stack with rfl | ⟨stack,c,rfl⟩
    · simp at hn
    · rw [List.concat_eq_append] at hn ⊢
      have htop : ((stack ++ [c]).reverse.flatMap preorder).length =
          ((stack ++ c.children.reverse).reverse.flatMap preorder).length + 1 := by
        simp only [List.reverse_append,List.reverse_reverse,List.flatMap_append,List.reverse_singleton,
          List.flatMap_singleton,preorder_eq c,List.length_append,List.length_cons]
        omega
      have hrest : ((stack ++ c.children.reverse).reverse.flatMap preorder).length = n :=
        Nat.succ.inj (htop.symm.trans hn)
      rw [rounds,round?_concat,Option.bind_some,ih _ _ hrest,total_round]

end Walk

/-- What is to be visited is listed with all that is below it before the next in turn. -/
theorem visit_eq (pending : List Value) : visit pending = (among pending).flatMap preorder := by
  fun_induction visit pending with
  | case1 => rfl
  | case2 fields pending ih =>
    rw [ih,among_append,List.flatMap_append,among_object,List.flatMap_cons,preorder_eq]
    rfl
  | case3 v pending hv ih => rw [ih,among_cons_of_not_object hv]

def childPath (indices : List Nat) : Path :=
  indices.flatMap fun i => [.field "children",.item i]

/-- The component at a position: an index into the components of the tree, then indices into the
children of one component after the other. -/
def atPosition? (tree : Value) : List Nat → Option Component
  | [] => none
  | i :: rest =>
    ((tree.at? (.field "components" :: .item i :: childPath rest)).bind Value.object?).map mk

def located (i : Nat) : List Value → List (List Nat × Component)
  | [] => []
  | .object fields :: rest =>
    ([i],⟨fields⟩) ::
      (located 0 (itemsOf "children" fields)).map (fun o => (i :: o.1,o.2)) ++ located (i + 1) rest
  | _ :: rest => located (i + 1) rest
termination_by items => sizeOf items
decreasing_by
  · have h := sizeOf_itemsOf_le "children" fields
    simp only [List.cons.sizeOf_spec,Value.object.sizeOf_spec]
    omega
  · simp only [List.cons.sizeOf_spec]
    omega
  · simp only [List.cons.sizeOf_spec]
    omega

theorem map_snd_located (i : Nat) (items : List Value) :
    (located i items).map Prod.snd = (among items).flatMap preorder := by
  fun_induction located i items with
  | case1 i => rfl
  | case2 i fields rest ihc ihr =>
    have hbelow : ((located 0 (itemsOf "children" fields)).map fun o => (i :: o.1,o.2)).map Prod.snd =
        (children ⟨fields⟩).flatMap preorder := by
      rw [List.map_map]
      exact ihc
    rw [List.cons_append,List.map_cons,List.map_append,hbelow,ihr,among_object,List.flatMap_cons,
      preorder_eq,List.cons_append]
  | case3 i v rest hv ih => rw [ih,among_cons_of_not_object hv]

theorem at?_child (fields : Keyed Value) (i : Nat) (p : Path) :
    (Value.object fields).at? (.field "children" :: .item i :: p) =
      (itemsOf "children" fields)[i]?.bind (Value.at? p) := by
  simp only [Value.at?,Value.child?,Value.field?,itemsOf]
  cases h : Keyed.get? "children" fields with
  | none => simp
  | some v => cases hv : v.array? <;> simp [hv]

theorem not_object_of_at?_childPath {v : Value} (hv : ∀ fields, v ≠ .object fields)
    (indices : List Nat) (fields : Keyed Value) :
    v.at? (childPath indices) ≠ some (.object fields) := by
  cases indices with
  | nil => simpa [childPath,Value.at?] using hv fields
  | cons i rest =>
    cases v with
    | object fs => exact absurd rfl (hv fs)
    | _ => simp [childPath,Value.at?,Value.child?,Value.field?]

/-- The position `p` leads to `c`, where the items are counted from `i` on. -/
def Leads (i : Nat) (items : List Value) (p : List Nat) (c : Component) : Prop :=
  ∃ k rest, p = (i + k) :: rest ∧
    items[k]?.bind (Value.at? (childPath rest)) = some (.object c.fields)

theorem leads_cons {i : Nat} {v : Value} {items : List Value} {p : List Nat} {c : Component} :
    Leads i (v :: items) p c ↔
      (∃ rest, p = i :: rest ∧ v.at? (childPath rest) = some (.object c.fields)) ∨
        Leads (i + 1) items p c := by
  rw [Leads,← Nat.or_exists_add_one]
  simp [Leads,Nat.add_assoc,Nat.add_comm 1]

theorem leads_children {i : Nat} {fields : Keyed Value} {p : List Nat} {c : Component} :
    (∃ rest, p = i :: rest ∧ (Value.object fields).at? (childPath rest) = some (.object c.fields)) ↔
      (p,c) = ([i],⟨fields⟩) ∨ ∃ q, p = i :: q ∧ Leads 0 (itemsOf "children" fields) q c := by
  constructor
  · rintro ⟨rest,rfl,hat⟩
    cases rest with
    | nil =>
      obtain rfl : fields = c.fields := by simpa [childPath,Value.at?] using hat
      exact Or.inl rfl
    | cons k rest =>
      refine Or.inr ⟨k :: rest,rfl,k,rest,by simp,?_⟩
      exact (at?_child fields k (childPath rest)).symm.trans hat
  · rintro (heq | ⟨-,rfl,k,rest,rfl,hat⟩)
    · cases heq
      exact ⟨[],rfl,rfl⟩
    · rw [Nat.zero_add]
      exact ⟨k :: rest,rfl,(at?_child fields k (childPath rest)).trans hat⟩

theorem mem_located {i : Nat} {items : List Value} {p : List Nat} {c : Component} :
    (p,c) ∈ located i items ↔ Leads i items p c := by
  fun_induction located i items generalizing p with
  | case1 i => simp [Leads]
  | case2 i fields rest ihc ihr =>
    have hbelow : (p,c) ∈ (located 0 (itemsOf "children" fields)).map (fun o => (i :: o.1,o.2)) ↔
        ∃ q, p = i :: q ∧ Leads 0 (itemsOf "children" fields) q c := by
      rw [List.mem_map]
      constructor
      · rintro ⟨⟨q,d⟩,hq,heq⟩
        cases heq
        exact ⟨q,rfl,ihc.mp hq⟩
      · rintro ⟨q,rfl,hq⟩
        exact ⟨(q,c),ihc.mpr hq,rfl⟩
    rw [List.cons_append,List.mem_cons,List.mem_append,hbelow,ihr,leads_cons,leads_children,or_assoc]
  | case3 i v rest hv ih =>
    rw [ih,leads_cons]
    simp [not_object_of_at?_childPath hv]

theorem eq_cons_of_mem_located {i : Nat} {items : List Value} {p : List Nat}
    (h : p ∈ (located i items).map Prod.fst) : ∃ k rest, p = (i + k) :: rest := by
  obtain ⟨⟨p,c⟩,hmem,rfl⟩ := List.mem_map.mp h
  obtain ⟨k,rest,hp,-⟩ := mem_located.mp hmem
  exact ⟨k,rest,hp⟩

theorem pairwise_located (i : Nat) (items : List Value) :
    ((located i items).map Prod.fst).Pairwise (· < ·) := by
  fun_induction located i items with
  | case1 i => exact List.Pairwise.nil
  | case2 i fields rest ihc ihr =>
    have hbelow : ((located 0 (itemsOf "children" fields)).map fun o => (i :: o.1,o.2)).map Prod.fst =
        ((located 0 (itemsOf "children" fields)).map Prod.fst).map (i :: ·) := by
      rw [List.map_map,List.map_map]
      rfl
    have hlater : ∀ q ∈ (located (i + 1) rest).map Prod.fst, ∀ tail, i :: tail < q := by
      intro q hq tail
      obtain ⟨k,r,rfl⟩ := eq_cons_of_mem_located hq
      exact List.cons_lt_cons_iff.mpr (Or.inl (by omega))
    rw [List.cons_append,List.map_cons,List.map_append,hbelow,List.pairwise_cons,
      List.pairwise_append]
    refine ⟨fun q hq => ?_,?_,ihr,fun q hq r hr => ?_⟩
    · rcases List.mem_append.mp hq with hq | hq
      · obtain ⟨tail,htail,rfl⟩ := List.mem_map.mp hq
        obtain ⟨k,r,rfl⟩ := eq_cons_of_mem_located htail
        exact List.cons_lt_cons_iff.mpr (Or.inr ⟨rfl,List.nil_lt_cons _ _⟩)
      · exact hlater q hq []
    · refine List.pairwise_map.mpr (ihc.imp fun hlt => ?_)
      exact List.cons_lt_cons_iff.mpr (Or.inr ⟨rfl,hlt⟩)
    · obtain ⟨tail,-,rfl⟩ := List.mem_map.mp hq
      exact hlater r hr tail
  | case3 i v rest hv ih => exact ih

def roots (tree : Value) : List Value := ((tree.field? "components").bind Value.array?).getD []

def positions (tree : Value) : List (List Nat) := (located 0 (roots tree)).map Prod.fst

theorem at?_root (tree : Value) (i : Nat) (p : Path) :
    tree.at? (.field "components" :: .item i :: p) = (roots tree)[i]?.bind (Value.at? p) := by
  simp only [Value.at?,Value.child?,roots]
  cases h : tree.field? "components" with
  | none => simp
  | some v => cases hv : v.array? <;> simp [hv]

theorem map_object?_eq_some {found : Option Value} {c : Component} :
    (found.bind Value.object?).map mk = some c ↔ found = some (.object c.fields) := by
  obtain ⟨fields⟩ := c
  cases found with
  | none => simp
  | some v => cases v <;> simp [Value.object?]

theorem atPosition?_eq_some {tree : Value} {p : List Nat} {c : Component} :
    atPosition? tree p = some c ↔ (p,c) ∈ located 0 (roots tree) := by
  rw [mem_located,Leads]
  cases p with
  | nil => simp [atPosition?]
  | cons i rest =>
    rw [atPosition?,at?_root,map_object?_eq_some]
    simp

theorem map_atPosition? (tree : Value) :
    (positions tree).map (atPosition? tree) = (collect tree).map some := by
  rw [collect,visit_eq,← roots,← map_snd_located 0,positions,List.map_map,List.map_map]
  refine List.map_congr_left fun o ho => ?_
  exact atPosition?_eq_some.mpr ho

theorem mem_positions {tree : Value} {p : List Nat} :
    p ∈ positions tree ↔ (atPosition? tree p).isSome = true := by
  rw [Option.isSome_iff_exists,positions,List.mem_map]
  constructor
  · rintro ⟨⟨q,c⟩,hmem,rfl⟩
    exact ⟨c,atPosition?_eq_some.mpr hmem⟩
  · rintro ⟨c,hc⟩
    exact ⟨(p,c),atPosition?_eq_some.mp hc,rfl⟩

theorem pairwise_positions (tree : Value) : (positions tree).Pairwise (· < ·) :=
  pairwise_located 0 (roots tree)

theorem length_collect (tree : Value) :
    (collect tree).length = {p | (atPosition? tree p).isSome = true}.ncard := by
  have hset : {p | (atPosition? tree p).isSome = true} =
      ((positions tree).toFinset : Set (List Nat)) := by
    ext p
    simp [mem_positions]
  have hnodup : (positions tree).Nodup := (pairwise_positions tree).imp ne_of_lt
  have hlength := congrArg List.length (map_atPosition? tree)
  rw [List.length_map,List.length_map] at hlength
  rw [hset,Set.ncard_coe_finset,List.toFinset_card_of_nodup hnodup,hlength]

/-- Components are collected in recursive preorder. A stack onto which the children are put from last
to first gives the same list, and is empty after as many rounds as there are components. Each position
is listed once, in ascending order, and the positions are those that lead through lists of components
and children to an object. So a page is reported for its number of components just if more positions
of its tree than the limit hold a component, and its references to fragments are in the order of the
positions. -/
theorem collect_in_preorder (tree : Value) :
    collect tree = (among (roots tree)).flatMap preorder ∧
    Walk.rounds (collect tree).length ⟨(among (roots tree)).reverse,[]⟩ = some ⟨[],collect tree⟩ ∧
    ((positions tree).Pairwise (· < ·) ∧
      (∀ p, p ∈ positions tree ↔ (atPosition? tree p).isSome = true) ∧
      (collect tree).map some = (positions tree).map (atPosition? tree)) ∧
    (∀ limit project, ComponentLimit.analyze limit project =
      .found ((project.pages.values.filter fun page =>
        limit < {p | (atPosition? page.body.tree p).isSome = true}.ncard).map
          (ComponentLimit.finding limit))) ∧
    ∀ page : Page, page.fragmentRefs =
      (positions page.body.tree).filterMap fun p =>
        (atPosition? page.body.tree p).bind fragmentRef? := by
  have hcollect : collect tree = (among (roots tree)).flatMap preorder := visit_eq (roots tree)
  refine ⟨hcollect,?_,⟨pairwise_positions tree,fun p => mem_positions,(map_atPosition? tree).symm⟩,
    fun limit project => ?_,fun page => ?_⟩
  · have hrounds := Walk.rounds_eq ⟨(among (roots tree)).reverse,[]⟩
    rw [Walk.total,List.reverse_reverse,List.nil_append,← hcollect] at hrounds
    exact hrounds
  · simp only [ComponentLimit.analyze,Page.components,length_collect]
  · have hrefs := congrArg (List.filterMap fun c => c.bind fragmentRef?)
      (map_atPosition? page.body.tree)
    rw [List.filterMap_map,List.filterMap_map] at hrefs
    exact hrefs.symm

end Component
end AppLint
