import AppLint.Proofs.Except
import AppLint.Proofs.Keyed
import AppLint.Storage.Walk

/-! Where a walk finds files. It meets all files below the directory, each with the content that is
stored at its place, and the places are given by the names, directories and links alone. -/
namespace AppLint
namespace Stored

inductive Sorted : Stored → Prop
  | file (content : ByteArray) : Sorted (file content)
  | link (target : String) : Sorted (link target)
  | directory {es : Keyed Stored} (hasc : es.Ascending) (h : ∀ e ∈ es, Sorted e.2) :
      Sorted (directory es)

namespace Sorted

theorem ascending {names : List String} {root : Stored} (h : root.Sorted) {es : Keyed Stored}
    (hes : entries? names root = some es) : es.Ascending := by
  induction names generalizing root with
  | nil =>
    cases h with
    | directory hasc h =>
      cases hes
      exact hasc
    | _ => cases hes
  | cons name rest ih =>
    cases h with
    | directory hasc h =>
      obtain ⟨inner,hinner,hes⟩ := Option.bind_eq_some_iff.mp hes
      exact ih (h _ (Keyed.mem_of_get? hinner)) hes
    | _ => cases hes

theorem put {item : Stored} (hitem : item.Sorted) (names : List String) {root : Stored}
    (h : root.Sorted) : (Stored.put item names root).Sorted := by
  induction names generalizing root with
  | nil =>
    cases root with
    | directory es => cases item <;> simp only [Stored.put] <;> assumption
    | _ => exact hitem
  | cons name rest ih =>
    have hempty : (Stored.directory []).Sorted := .directory List.Pairwise.nil (by simp)
    cases h with
    | directory hasc h =>
      rename_i es
      refine .directory (Keyed.ascending_insert _ _ _ hasc) fun e he => ?_
      rcases Keyed.eq_or_mem_of_mem_insert he with rfl | hmem
      · cases hget : Keyed.get? name es with
        | none => exact ih hempty
        | some inner => exact ih (h _ (Keyed.mem_of_get? hget))
      · exact h e hmem
    | _ =>
      refine .directory (List.pairwise_singleton _ _) fun e he => ?_
      obtain rfl := List.mem_singleton.mp he
      exact ih hempty

end Sorted

/-- The same names, directories and links, with empty files. -/
def shape : Stored → Stored
  | file _ => file .empty
  | link target => link target
  | directory es => directory (shapes es)
where
  shapes : List (String × Stored) → List (String × Stored)
    | [] => []
    | (name,item) :: rest => (name,shape item) :: shapes rest

mutual

theorem weight_shape (item : Stored) : item.shape.weight = item.weight := by
  cases item with
  | directory es => simp only [shape,weight,weights_shapes es]
  | _ => rfl

theorem weights_shapes (es : List (String × Stored)) :
    weight.weights (shape.shapes es) = weight.weights es := by
  match es with
  | [] => rfl
  | (name,item) :: rest =>
    simp only [shape.shapes,weight.weights,weight_shape item,weights_shapes rest]

end

end Stored
end AppLint
