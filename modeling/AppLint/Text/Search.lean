/-! Finding one text in another, and the lines of a text. -/
namespace AppLint
namespace Text

/-- What stands before and after the first occurrence of `needle`. -/
def cut? (needle : List Char) : List Char → Option (List Char × List Char)
  | [] => if needle.isEmpty then some ([],[]) else none
  | c :: s =>
    if needle.isPrefixOf (c :: s) then some ([],(c :: s).drop needle.length)
    else (cut? needle s).map fun (before,after) => (c :: before,after)

theorem eq_append_of_cut? {needle s before after : List Char}
    (h : cut? needle s = some (before,after)) : s = before ++ needle ++ after := by
  induction s generalizing before after with
  | nil =>
    simp only [cut?,Option.ite_none_right_eq_some,List.isEmpty_iff,Option.some.injEq,
      Prod.mk.injEq] at h
    obtain ⟨rfl,rfl,rfl⟩ := h
    rfl
  | cons c s ih =>
    simp only [cut?] at h
    split at h
    · rename_i hhere
      simp only [Option.some.injEq,Prod.mk.injEq] at h
      obtain ⟨rfl,rfl⟩ := h
      exact List.prefix_iff_eq_append.mp (List.isPrefixOf_iff_prefix.mp hhere) |>.symm
    · simp only [Option.map_eq_some_iff,Prod.mk.injEq,Prod.exists] at h
      obtain ⟨b,a,hcut,rfl,rfl⟩ := h
      simp [ih hcut]

/-- Whether `needle` occurs. -/
def contains (needle : List Char) : List Char → Bool
  | [] => needle.isEmpty
  | c :: s => needle.isPrefixOf (c :: s) || contains needle s

/-- Split at every occurrence of a character. -/
def splitOn (sep : Char) : List Char → List (List Char)
  | [] => [[]]
  | c :: s =>
    if c = sep then [] :: splitOn sep s
    else match splitOn sep s with
      | [] => [[c]]
      | piece :: pieces => (c :: piece) :: pieces

/-- What follows the last character with property `p`; the whole text if there is none. -/
def afterLast (p : Char → Bool) (s : List Char) : List Char :=
  (s.reverse.takeWhile fun c => !p c).reverse

/-- Remove `suffix` from the end of `s`, if it stands there. -/
def dropSuffix (suffix s : List Char) : List Char := (suffix.isSuffixOf? s).getD s

/-- The lines of a text, without the line feed that ends them and a carriage return before it. -/
def lines : List Char → List (List Char)
  | [] => []
  | '\n' :: s => [] :: lines s
  | '\r' :: '\n' :: s => [] :: lines s
  | c :: s =>
    match lines s with
    | [] => [[c]]
    | line :: rest => (c :: line) :: rest

end Text
end AppLint
