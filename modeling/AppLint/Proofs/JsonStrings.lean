import AppLint.Json.Leaf
import AppLint.Proofs.JsonPath

/-! The strings of a value by path: in which order they stand, which fields they belong to, and which
of them are left when commented-out fields are dropped. -/
namespace AppLint
namespace Json

namespace Segment

/-- Fields stand in the order of their names, and items in that of their numbers. -/
def Before : Segment → Segment → Prop
  | field a, field b => a < b
  | item i, item j => i < j
  | _, _ => False

def name? : Segment → Option String
  | field name => some name
  | item _ => none

end Segment

namespace Path

/-- The order of a walk: what encloses a value comes before it, and else the step decides where the
paths part. -/
def Before (p q : Path) : Prop := List.Lex Segment.Before p q

/-- The name of the innermost field on the path, however many lists are inside that field. -/
def lastName? (p : Path) : Option String := (p.filterMap Segment.name?).getLast?

@[simp] theorem lastName?_nil : lastName? [] = none := rfl

@[simp] theorem lastName?_item (i : Nat) (p : Path) : lastName? (.item i :: p) = lastName? p := rfl

@[simp] theorem lastName?_field (name : String) (p : Path) :
    lastName? (.field name :: p) = (lastName? p).or (some name) := by
  show (name :: p.filterMap Segment.name?).getLast? = (lastName? p).or (some name)
  rw [List.getLast?_cons,← lastName?]
  cases lastName? p <;> rfl

end Path

namespace Value

mutual

theorem pairwise_nodes {v : Value} (h : v.Ordered) : v.nodes.Pairwise fun a b => a.1.Before b.1 := by
  match v with
  | array items =>
    have hitems := ordered_array.mp h
    refine List.pairwise_cons.mpr ⟨?_,pairwise_nodesOfItems hitems 0⟩
    rintro ⟨p,w⟩ hmem
    obtain ⟨i,q,rfl,-⟩ := (mem_nodesOfItems hitems).mp hmem
    exact List.Lex.nil
  | object fields =>
    obtain ⟨hasc,hfields⟩ := ordered_object.mp h
    refine List.pairwise_cons.mpr ⟨?_,pairwise_nodesOfFields hasc hfields⟩
    rintro ⟨p,w⟩ hmem
    obtain ⟨name,q,u,rfl,-⟩ := (mem_nodesOfFields hfields).mp hmem
    exact List.Lex.nil
  | null | bool _ | number _ | string _ => exact List.pairwise_singleton _ _

theorem pairwise_nodesOfItems {items : List Value} (h : ∀ v ∈ items, v.Ordered) (index : Nat) :
    (nodesOfItems index items).Pairwise fun a b => a.1.Before b.1 := by
  match items with
  | [] => exact List.Pairwise.nil
  | v :: rest =>
    obtain ⟨hv,hrest⟩ := List.forall_mem_cons.mp h
    refine List.pairwise_append.mpr ⟨?_,pairwise_nodesOfItems hrest (index + 1),?_⟩
    · exact List.pairwise_map.mpr ((pairwise_nodes hv).imp fun hab => List.Lex.cons hab)
    · rintro a ha ⟨p,w⟩ hb
      obtain ⟨o,-,rfl⟩ := List.mem_map.mp ha
      obtain ⟨i,q,rfl,-⟩ := (mem_nodesOfItems hrest).mp hb
      have hlt : index < index + 1 + i := by omega
      exact List.Lex.rel hlt

theorem pairwise_nodesOfFields {fields : List (String × Value)} (hasc : Keyed.Ascending fields)
    (h : ∀ e ∈ fields, e.2.Ordered) :
    (nodesOfFields fields).Pairwise fun a b => a.1.Before b.1 := by
  match fields with
  | [] => exact List.Pairwise.nil
  | (name,v) :: rest =>
    obtain ⟨hv,hrest⟩ := List.forall_mem_cons.mp h
    obtain ⟨hname,hascRest⟩ := List.pairwise_cons.mp hasc
    refine List.pairwise_append.mpr ⟨?_,pairwise_nodesOfFields hascRest hrest,?_⟩
    · exact List.pairwise_map.mpr ((pairwise_nodes hv).imp fun hab => List.Lex.cons hab)
    · rintro a ha ⟨p,w⟩ hb
      obtain ⟨o,-,rfl⟩ := List.mem_map.mp ha
      obtain ⟨other,q,u,rfl,hmem,-⟩ := (mem_nodesOfFields hrest).mp hb
      have hlt : name < other := hname other (List.mem_map_of_mem (f := Prod.fst) hmem)
      exact List.Lex.rel hlt

end

def stringsByPath (v : Value) : List (Path × String) := kept string? v.nodes

theorem mem_stringsByPath {v : Value} (h : v.Ordered) (p : Path) (s : String) :
    (p,s) ∈ v.stringsByPath ↔ v.at? p = some (.string s) := by
  rw [stringsByPath,mem_kept string?_eq_some,mem_nodes h]

theorem pairwise_stringsByPath {v : Value} (h : v.Ordered) :
    v.stringsByPath.Pairwise fun a b => a.1.Before b.1 := by
  refine List.pairwise_filterMap.mpr ((pairwise_nodes h).imp fun hab => ?_)
  intro b hb b' hb'
  obtain ⟨s,-,rfl⟩ := Option.map_eq_some_iff.mp hb
  obtain ⟨s',-,rfl⟩ := Option.map_eq_some_iff.mp hb'
  exact hab

def leafOf (key : Option String) (o : Path × String) : Leaf := ⟨o.1.lastName?.or key,o.2⟩

mutual

/-- A walk that passes the nearest name on to lists and items gives each string with the last name on
its path. -/
theorem leaves_eq (key : Option String) (v : Value) :
    v.leaves key = v.stringsByPath.map (leafOf key) := by
  cases v with
  | array items => exact leavesOfItems_eq key 0 items
  | object fields => exact leavesOfFields_eq key fields
  | _ => rfl

theorem leavesOfItems_eq (key : Option String) (index : Nat) (items : List Value) :
    leavesOfItems key items = (kept string? (nodesOfItems index items)).map (leafOf key) := by
  match items with
  | [] => rfl
  | v :: rest =>
    have hbelow : (kept string? (v.nodes.map fun o => (Segment.item index :: o.1,o.2))).map
        (leafOf key) = v.leaves key := by
      rw [kept_below,List.map_map,leaves_eq key v]
      rfl
    rw [leavesOfItems,nodesOfItems,← hbelow,leavesOfItems_eq key (index + 1) rest,← List.map_append]
    exact congrArg (List.map (leafOf key)) List.filterMap_append.symm

theorem leavesOfFields_eq (key : Option String) (fields : List (String × Value)) :
    leavesOfFields fields = (kept string? (nodesOfFields fields)).map (leafOf key) := by
  match fields with
  | [] => rfl
  | (name,v) :: rest =>
    have hbelow : (kept string? (v.nodes.map fun o => (Segment.field name :: o.1,o.2))).map
        (leafOf key) = v.leaves (some name) := by
      rw [kept_below,List.map_map,leaves_eq (some name) v]
      simp [stringsByPath,leafOf,Function.comp_def]
    rw [leavesOfFields,nodesOfFields,← hbelow,leavesOfFields_eq key rest,← List.map_append]
    exact congrArg (List.map (leafOf key)) List.filterMap_append.symm

end

theorem ordered_uncommented {v : Value} (h : v.Ordered) : v.uncommented.Ordered := by
  intro fields hfields
  rw [objects_uncommented] at hfields
  obtain ⟨o,ho,rfl⟩ := List.mem_map.mp hfields
  have hmem : o.2 ∈ v.objects := by
    rw [← map_snd_located]
    exact List.mem_map_of_mem (List.mem_of_mem_filter ho)
  rw [Keyed.Ascending,← uncommentedFields_eq,keys_uncommentedFields]
  exact (h o.2 hmem).filter _

theorem uncommented_eq_string {v : Value} {s : String} :
    v.uncommented = .string s ↔ v = .string s := by
  cases v <;> simp [uncommented]

theorem mem_stringsByPath_uncommented {v : Value} (h : v.Ordered) (p : Path) (s : String) :
    (p,s) ∈ v.uncommented.stringsByPath ↔ p.Plain ∧ v.at? p = some (.string s) := by
  rw [mem_stringsByPath (ordered_uncommented h),at?_uncommented]
  by_cases hp : p.Plain
  · simp [hp,Option.map_eq_some_iff,uncommented_eq_string]
  · simp [hp]

end Value
end Json
end AppLint
