import PoolLint.Imports

/-! What a name means through the bindings of a file: its part before the first dot is replaced by
what the last binding of that part stands for. -/
namespace PoolLint.Imports

/-- A name in two parts: the one before its first dot, and the rest from the dot on. -/
structure Split (name : String) (head rest : String) : Prop where
  whole : name = head ++ rest
  undotted : '.' ∉ head.toList
  dotted : rest.toList = [] ∨ rest.toList.head? = some '.'

inductive Expands (bindings : List Binding) (name : String) : String → Prop
  | bound (head rest : String) (before after : List Binding) (binding : Binding)
      (split : Split name head rest) (found : bindings = before ++ binding :: after)
      (binds : binding.localName = head) (last : ∀ b ∈ after, b.localName ≠ head) :
      Expands bindings name (binding.qualified ++ rest)
  | free (head rest : String) (split : Split name head rest)
      (unbound : ∀ b ∈ bindings, b.localName ≠ head) : Expands bindings name name

theorem split_splitHead (name : String) : Split name (splitHead name).1 (splitHead name).2 where
  whole := by
    simp only [splitHead, ← String.ofList_append, List.takeWhile_append_dropWhile,
      String.ofList_toList]
  undotted := by
    simp only [splitHead, String.toList_ofList]
    intro member
    simpa using List.all_eq_true.mp List.all_takeWhile _ member
  dotted := by
    simp only [splitHead, String.toList_ofList]
    cases shape : name.toList.dropWhile (· != '.') with
    | nil => exact .inl rfl
    | cons c cs =>
      have first := List.head?_dropWhile_not (fun c : Char => c != '.') name.toList
      rw [shape] at first
      exact .inr (by simpa using first)

theorem Split.eq_splitHead {name head rest : String} (split : Split name head rest) :
    splitHead name = (head, rest) := by
  have chars : name.toList = head.toList ++ rest.toList := by
    rw [split.whole, String.toList_append]
  have inside : ∀ c ∈ head.toList, (c != '.') = true := by
    intro c member
    simpa using fun same : c = '.' => split.undotted (same ▸ member)
  have stops : rest.toList.takeWhile (· != '.') = [] ∧
      rest.toList.dropWhile (· != '.') = rest.toList := by
    rcases split.dotted with empty | dot
    · simp [empty]
    · cases shape : rest.toList with
      | nil => simp
      | cons c cs =>
        have same : c = '.' := by simpa [shape] using dot
        simp [same]
  simp only [splitHead, chars, List.takeWhile_append_of_pos inside,
    List.dropWhile_append_of_pos inside, stops.1, stops.2, List.append_nil, String.ofList_toList]

theorem lookup?_eq_some {bindings : List Binding} {name full : String}
    (found : lookup? bindings name = some full) :
    ∃ before binding after, bindings = before ++ binding :: after ∧ binding.localName = name ∧
      (∀ b ∈ after, b.localName ≠ name) ∧ binding.qualified = full := by
  obtain ⟨binding, first, rfl⟩ := Option.map_eq_some_iff.mp found
  obtain ⟨binds, after, before, reversed, others⟩ := List.find?_eq_some_iff_append.mp first
  refine ⟨before.reverse, binding, after.reverse, ?_, by simpa using binds, ?_, rfl⟩
  · have back := congrArg List.reverse reversed
    simpa using back
  · intro b member
    simpa using others b (by simpa using member)

theorem lookup?_last {before after : List Binding} {binding : Binding}
    (last : ∀ b ∈ after, b.localName ≠ binding.localName) :
    lookup? (before ++ binding :: after) binding.localName = some binding.qualified := by
  have skipped : after.reverse.find? (·.localName == binding.localName) = none := by
    rw [List.find?_eq_none]
    intro b member
    simpa using last b (by simpa using member)
  simp [lookup?, List.find?_append, skipped]

theorem lookup?_eq_none {bindings : List Binding} {name : String} :
    lookup? bindings name = none ↔ ∀ b ∈ bindings, b.localName ≠ name := by
  simp [lookup?, List.find?_eq_none]

theorem expands_iff (bindings : List Binding) (callee full : String) :
    Expands bindings (Text.squeezed callee) full ↔ resolve bindings callee = full := by
  constructor
  · rintro (⟨head, rest, before, after, binding, split, rfl, rfl, last⟩ | ⟨head, rest, split, unbound⟩)
    · simp [resolve, split.eq_splitHead, lookup?_last last]
    · simp [resolve, split.eq_splitHead, lookup?_eq_none.mpr unbound]
  · intro resolved
    have split := split_splitHead (Text.squeezed callee)
    cases found : lookup? bindings (splitHead (Text.squeezed callee)).1 with
    | none =>
      have same : full = Text.squeezed callee := by simpa [resolve, found] using resolved.symm
      rw [same]
      exact .free _ _ split (lookup?_eq_none.mp found)
    | some qualified =>
      obtain ⟨before, binding, after, rfl, binds, last, rfl⟩ := lookup?_eq_some found
      have same : full = binding.qualified ++ (splitHead (Text.squeezed callee)).2 := by
        simpa [resolve, found] using resolved.symm
      rw [same]
      exact .bound _ _ before after binding split rfl binds last

end PoolLint.Imports
