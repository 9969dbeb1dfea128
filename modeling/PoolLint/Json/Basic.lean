import PoolLint.Numeral.Binary64

/-! JSON documents as values. Object members keep their order. A number written with a fraction or
an exponent is kept apart from an integer of the same value. -/
namespace PoolLint

inductive Json where
  | null
  | boolean (b : Bool)
  | integer (n : Int)
  | decimal (negative : Bool) (digits : Nat) (scale : Int)
  | string (s : String)
  | array (elements : List Json)
  | object (members : List (String × Json))
  deriving Inhabited

namespace Json

/-- The member of a name; of several the last one counts. -/
def member? (name : String) (members : List (String × Json)) : Option Json :=
  (members.reverse.find? (·.1 == name)).map (·.2)

theorem member?_cons (name : String) (m : String × Json) (ms : List (String × Json)) :
    member? name (m :: ms) =
      (member? name ms).or (if m.1 == name then some m.2 else none) := by
  simp only [member?, List.reverse_cons, List.find?_append]
  cases ms.reverse.find? (·.1 == name) with
  | some found => rfl
  | none => cases same : m.1 == name <;> simp [same]

def get? (name : String) : Json → Option Json
  | .object members => member? name members
  | _ => none

def parts : Json → List Json
  | .array elements => elements
  | .object members => members.map (·.2)
  | _ => []

theorem sizeOf_part {j part : Json} (inside : part ∈ j.parts) : sizeOf part < sizeOf j := by
  cases j with
  | array elements =>
    have smaller : sizeOf part < sizeOf elements := List.sizeOf_lt_of_mem inside
    simp only [array.sizeOf_spec]
    omega
  | object members =>
    obtain ⟨⟨name, value⟩, member, rfl⟩ := List.mem_map.mp inside
    have smaller := List.sizeOf_lt_of_mem member
    simp only [Prod.mk.sizeOf_spec] at smaller
    simp only [object.sizeOf_spec]
    omega
  | _ => cases inside

/-- What holds of a document whenever it holds of the documents inside it holds of all. -/
theorem induction_parts {P : Json → Prop} (step : ∀ j, (∀ part ∈ j.parts, P part) → P j)
    (j : Json) : P j :=
  step j fun part _ => induction_parts step part
termination_by sizeOf j
decreasing_by exact sizeOf_part ‹_›

end Json
end PoolLint
