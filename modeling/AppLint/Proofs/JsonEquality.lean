import AppLint.Json.Value

/-! Whether two JSON values are equal can be decided. -/
namespace AppLint
namespace Json
namespace Value

mutual

def same : Value → Value → Bool
  | null, null => true
  | bool a, bool b => a == b
  | number a, number b => decide (a = b)
  | string a, string b => a == b
  | array xs, array ys => sameItems xs ys
  | object fs, object gs => sameFields fs gs
  | _, _ => false

def sameItems : List Value → List Value → Bool
  | [], [] => true
  | a :: xs, b :: ys => same a b && sameItems xs ys
  | _, _ => false

def sameFields : List (String × Value) → List (String × Value) → Bool
  | [], [] => true
  | (k,a) :: fs, (l,b) :: gs => k == l && same a b && sameFields fs gs
  | _, _ => false

end

mutual

theorem same_iff (a b : Value) : same a b = true ↔ a = b := by
  cases a <;> cases b <;> simp [same,sameItems_iff,sameFields_iff]

theorem sameItems_iff (xs ys : List Value) : sameItems xs ys = true ↔ xs = ys := by
  match xs, ys with
  | [], [] | [], _ :: _ | _ :: _, [] => simp [sameItems]
  | a :: xs, b :: ys => simp [sameItems,same_iff a b,sameItems_iff xs ys]

theorem sameFields_iff (fs gs : List (String × Value)) : sameFields fs gs = true ↔ fs = gs := by
  match fs, gs with
  | [], [] | [], _ :: _ | _ :: _, [] => simp [sameFields]
  | (k,a) :: fs, (l,b) :: gs => simp [sameFields,same_iff a b,sameFields_iff fs gs]

end

instance : DecidableEq Value := fun a b => decidable_of_iff (same a b = true) (same_iff a b)

end Value
end Json
end AppLint
