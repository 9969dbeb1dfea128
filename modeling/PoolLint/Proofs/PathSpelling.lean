import PoolLint.Files.Path

/-! Paths and their spellings. Every text spells a path in normal form, and a path in normal form is
the one that its own text spells, so spelling out and reading again changes nothing. -/
namespace PoolLint

namespace Text

theorem pieces_cons (separator c : Char) (cs : List Char) :
    pieces separator (c :: cs) =
      if c = separator then [] :: pieces separator cs
      else (pieces separator cs).modifyHead (c :: ·) := by
  obtain ⟨piece, rest, split⟩ := List.exists_cons_of_ne_nil (pieces_ne_nil separator cs)
  unfold pieces at split ⊢
  rw [List.foldr_cons, split]
  by_cases same : c = separator <;> simp [same]

theorem pieces_eq_splitOn (separator : Char) (cs : List Char) :
    pieces separator cs = cs.splitOn separator := by
  induction cs with
  | nil => rfl
  | cons c cs ih =>
    rw [pieces_cons, List.splitOn_cons_eq_if_modifyHead, ih]
    by_cases same : c = separator <;> simp [same]

theorem not_mem_pieces {separator : Char} {cs piece : List Char}
    (member : piece ∈ pieces separator cs) : separator ∉ piece := by
  induction cs generalizing piece with
  | nil =>
    have empty : piece = [] := by simpa [pieces] using member
    simp [empty]
  | cons c cs ih =>
    obtain ⟨first, rest, split⟩ := List.exists_cons_of_ne_nil (pieces_ne_nil separator cs)
    rw [split] at ih
    rw [pieces_cons, split] at member
    by_cases same : c = separator
    · rw [if_pos same] at member
      rcases List.mem_cons.mp member with rfl | later
      · simp
      · exact ih later
    · rw [if_neg same, List.modifyHead_cons] at member
      rcases List.mem_cons.mp member with rfl | later
      · simp [Ne.symm same, ih List.mem_cons_self]
      · exact ih (List.mem_cons_of_mem _ later)

/-- Separators in front are empty pieces in front. -/
theorem pieces_replicate (separator : Char) (n : Nat) (cs : List Char) :
    pieces separator (List.replicate n separator ++ cs) =
      List.replicate n [] ++ pieces separator cs := by
  induction n with
  | zero => rfl
  | succ n ih => simp [List.replicate_succ, pieces_cons, ih]

end Text

namespace Path

def IsName (name : String) : Prop := name ≠ "" ∧ name ≠ "." ∧ '/' ∉ name.toList

structure IsNormal (p : Path) : Prop where
  slashes : p.slashes ≤ 2
  names : ∀ name ∈ p.names, IsName name

theorem leadingSlashes_le (cs : List Char) : leadingSlashes cs ≤ 2 := by
  unfold leadingSlashes
  split <;> omega

theorem isName_of_mem_namesIn {cs : List Char} {name : String} (member : name ∈ namesIn cs) :
    IsName name := by
  obtain ⟨piece, kept, rfl⟩ := List.mem_map.mp member
  obtain ⟨inside, shown⟩ := List.mem_filter.mp kept
  simp only [Bool.and_eq_true, Bool.not_eq_true', List.isEmpty_eq_false_iff, bne_iff_ne, ne_eq]
    at shown
  refine ⟨?_, ?_, ?_⟩
  · intro empty
    exact shown.1 (by simpa using congrArg String.toList empty)
  · intro dot
    exact shown.2 (by simpa using congrArg String.toList dot)
  · simpa using Text.not_mem_pieces inside

theorem parse_isNormal (s : String) : (parse s).IsNormal where
  slashes := leadingSlashes_le s.toList
  names _ member := isName_of_mem_namesIn member

theorem leadingSlashes_replicate {n : Nat} (few : n ≤ 2) {cs : List Char}
    (bare : cs.head? ≠ some '/') : leadingSlashes (List.replicate n '/' ++ cs) = n := by
  have stops : cs.takeWhile (· == '/') = [] := by
    cases cs with
    | nil => rfl
    | cons c cs =>
      have other : c ≠ '/' := by simpa using bare
      simp [other]
  have all : (List.replicate n '/' ++ cs).takeWhile (· == '/') = List.replicate n '/' := by
    rw [List.takeWhile_append_of_pos (by simp), stops, List.append_nil]
  unfold leadingSlashes
  rw [all, List.length_replicate]
  obtain rfl | rfl | rfl : n = 0 ∨ n = 1 ∨ n = 2 := by omega
  all_goals rfl

theorem namesIn_replicate (n : Nat) (cs : List Char) :
    namesIn (List.replicate n '/' ++ cs) = namesIn cs := by
  simp [namesIn, Text.pieces_replicate, List.filter_append]

theorem namesIn_intercalate {names : List String} (fitting : ∀ name ∈ names, IsName name) :
    namesIn (['/'].intercalate (names.map String.toList)) = names := by
  cases shown : names with
  | nil => rfl
  | cons first rest =>
    rw [← shown]
    have some : names.map String.toList ≠ [] := by simp [shown]
    have apart : ∀ piece ∈ names.map String.toList, '/' ∉ piece := by
      intro piece member
      obtain ⟨name, inside, rfl⟩ := List.mem_map.mp member
      exact (fitting name inside).2.2
    have kept : ∀ piece ∈ names.map String.toList, (!piece.isEmpty && piece != ['.']) = true := by
      intro piece member
      obtain ⟨name, inside, rfl⟩ := List.mem_map.mp member
      obtain ⟨shown, noDot, -⟩ := fitting name inside
      simp only [Bool.and_eq_true, Bool.not_eq_true', List.isEmpty_eq_false_iff, bne_iff_ne, ne_eq]
      refine ⟨by simpa using shown, fun dot => noDot ?_⟩
      exact String.toList_inj.mp dot
    unfold namesIn
    rw [Text.pieces_eq_splitOn, List.splitOn_intercalate _ apart some, List.filter_eq_self.mpr kept,
      List.map_map]
    simp

theorem head?_intercalate {names : List String} (fitting : ∀ name ∈ names, IsName name) :
    (['/'].intercalate (names.map String.toList)).head? ≠ some '/' := by
  cases names with
  | nil => simp
  | cons first rest =>
    obtain ⟨shown, -, apart⟩ := fitting first List.mem_cons_self
    obtain ⟨c, cs, chars⟩ := List.exists_cons_of_ne_nil
      (show first.toList ≠ [] by simpa using shown)
    have other : c ≠ '/' := by
      rintro rfl
      simp [chars] at apart
    cases rest <;> simp [chars, other, List.intercalate_cons_cons]

/-- A path in normal form is the one that its text spells. -/
theorem parse_text {p : Path} (normal : p.IsNormal) : parse p.text = p := by
  obtain ⟨slashes, names⟩ := p
  obtain ⟨few, fitting⟩ := normal
  by_cases here : slashes = 0 ∧ names = []
  · obtain ⟨rfl, rfl⟩ := here
    decide +kernel
  · have written : (text ⟨slashes, names⟩).toList =
        List.replicate slashes '/' ++ ['/'].intercalate (names.map String.toList) := by
      have elsewhere : ¬ (slashes == 0 && names.isEmpty) = true := by simpa using here
      simp [text, elsewhere, String.toList_intercalate]
    unfold parse
    rw [written, leadingSlashes_replicate few (head?_intercalate fitting), namesIn_replicate,
      namesIn_intercalate fitting]

end Path
end PoolLint
