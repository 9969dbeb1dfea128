/-! What can be wrong with a document that should describe a value, and where in the document it is
wrong. -/
namespace PoolLint.Schema

/-- A step into a document: a member or variant by name, or an element by position. -/
inductive Step where
  | name (s : String)
  | position (n : Nat)
  deriving DecidableEq, Repr

inductive Fault where
  | missing
  | notText
  | notInteger
  | unreadableInteger
  | fractionalInteger
  | oversizedInteger
  | notNumber
  | unreadableNumber
  | belowMinimum
  | notSequence
  | notObject
  | notVariant
  | notPath
  | notMember
  | notWord
  | notTruth
  | unreadableTruth
  | unknownTag
  | missingTag
  | fixed
  | tooDeep
  | rejected (reason : String)
  deriving DecidableEq, Repr

def Fault.name : Fault → String
  | .missing => "missing"
  | .notText => "string_type"
  | .notInteger => "int_type"
  | .unreadableInteger => "int_parsing"
  | .fractionalInteger => "int_from_float"
  | .oversizedInteger => "int_parsing_size"
  | .notNumber => "float_type"
  | .unreadableNumber => "float_parsing"
  | .belowMinimum => "greater_than_equal"
  | .notSequence => "tuple_type"
  | .notObject => "model_type"
  | .notVariant => "model_attributes_type"
  | .notPath => "path_type"
  | .notMember => "enum"
  | .notWord => "literal_error"
  | .notTruth => "bool_type"
  | .unreadableTruth => "bool_parsing"
  | .unknownTag => "union_tag_invalid"
  | .missingTag => "union_tag_not_found"
  | .fixed => "frozen_instance"
  | .tooDeep => "recursion_loop"
  | .rejected _ => "value_error"

def Fault.explanation? : Fault → Option String
  | .rejected reason => some ("Value error, " ++ reason)
  | _ => none

/-- How many references from one description into another may be open at once. -/
def maxOpen : Nat := 255

structure Problem where
  path : List Step
  fault : Fault
  deriving DecidableEq, Repr

/-- A value, or all that is wrong with its description. -/
abbrev Check (α : Type) := Except (List Problem) α

namespace Check

def fail {α : Type} (fault : Fault) : Check α := .error [⟨[], fault⟩]

def under {α : Type} (step : Step) (c : Check α) : Check α :=
  match c with
  | .ok a => .ok a
  | .error problems => .error (problems.map fun p => ⟨step :: p.path, p.fault⟩)

/-- Both values, or the problems of both. -/
def both {α β : Type} (a : Check α) (b : Check β) : Check (α × β) :=
  match a, b with
  | .ok x, .ok y => .ok (x, y)
  | .error p, .error q => .error (p ++ q)
  | .error p, .ok _ => .error p
  | .ok _, .error q => .error q

end Check
end PoolLint.Schema
