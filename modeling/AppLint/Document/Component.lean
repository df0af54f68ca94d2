import AppLint.Json.Value

/-! The components of a page or fragment: the objects in the list `components` of its tree, and below
them those in their lists `children`. -/
namespace AppLint

open Json (Value)

/-- A component, by the fields of its object. -/
structure Component where
  fields : Keyed Value

namespace Component

def get? (key : String) (c : Component) : Option Value := Keyed.get? key c.fields

def string? (key : String) (c : Component) : Option String := (c.get? key).bind Value.string?

def kind? (c : Component) : Option String := c.string? "type"

def id? (c : Component) : Option String := c.string? "id"

/-- The data provider that the component is bound to. -/
def dataSource? (c : Component) : Option String := c.string? "dataSource"

/-- The fragment that the component embeds. -/
def fragmentRef? (c : Component) : Option String :=
  if c.kind? = some "fragment" then c.string? "ref" else none

/-- The items of a list field; none if the field is no list. -/
def itemsOf (key : String) (fields : Keyed Value) : List Value :=
  ((Keyed.get? key fields).bind Value.array?).getD []

theorem sizeOf_get?_lt {key : String} {fields : List (String × Value)} {v : Value}
    (h : Keyed.get? key fields = some v) : sizeOf v < sizeOf fields := by
  induction fields with
  | nil => simp [Keyed.get?] at h
  | cons e rest ih =>
    obtain ⟨k,w⟩ := e
    simp only [Keyed.get?] at h
    split at h
    · simp only [Option.some.injEq] at h
      subst h
      simp only [List.cons.sizeOf_spec,Prod.mk.sizeOf_spec]
      omega
    · have := ih h
      simp only [List.cons.sizeOf_spec]
      omega

theorem sizeOf_nil_le (fields : List (String × Value)) :
    sizeOf ([] : List Value) ≤ sizeOf fields := by
  cases fields with
  | nil => simp
  | cons e rest =>
    simp only [List.nil.sizeOf_spec,List.cons.sizeOf_spec]
    omega

theorem sizeOf_itemsOf_le (key : String) (fields : List (String × Value)) :
    sizeOf (itemsOf key fields) ≤ sizeOf fields := by
  unfold itemsOf
  cases h : Keyed.get? key fields with
  | none => exact sizeOf_nil_le fields
  | some v =>
    have hv := sizeOf_get?_lt h
    cases v with
    | array items =>
      simp only [Value.array.sizeOf_spec] at hv
      simp only [Option.bind_some,Value.array?,Option.getD_some]
      omega
    | _ => exact sizeOf_nil_le fields

theorem sizeOf_append (xs ys : List Value) :
    sizeOf (xs ++ ys) + 1 = sizeOf xs + sizeOf ys := by
  induction xs with
  | nil => simp; omega
  | cons x xs ih =>
    simp only [List.cons_append,List.cons.sizeOf_spec]
    omega

/-- The components that are still to be visited, in order, and all below them. -/
def visit : List Value → List Component
  | [] => []
  | .object fields :: pending => ⟨fields⟩ :: visit (itemsOf "children" fields ++ pending)
  | _ :: pending => visit pending
termination_by pending => sizeOf pending
decreasing_by
  · have h := sizeOf_itemsOf_le "children" fields
    have h' := sizeOf_append (itemsOf "children" fields) pending
    simp only [List.cons.sizeOf_spec,Value.object.sizeOf_spec]
    omega
  · simp only [List.cons.sizeOf_spec]
    omega

/-- All components of a tree, outer ones before those inside them. -/
def collect (tree : Value) : List Component :=
  visit (((tree.field? "components").bind Value.array?).getD [])

end Component
end AppLint
