/-! Texts taken apart at a character. -/
namespace PoolLint.Text

/-- The pieces of a text between separators. There is always one more than there are separators. -/
def pieces (separator : Char) (cs : List Char) : List (List Char) :=
  cs.foldr (fun c found =>
    if c == separator then [] :: found
    else match found with
      | [] => [[c]]
      | piece :: rest => (c :: piece) :: rest) [[]]

theorem pieces_ne_nil (separator : Char) (cs : List Char) : pieces separator cs ≠ [] := by
  cases cs with
  | nil => simp [pieces]
  | cons c cs =>
    simp only [pieces, List.foldr_cons]
    split
    · simp
    · split <;> simp

end PoolLint.Text
