import PoolLint.Scan.Search
import PoolLint.Schema.Model

/-! Documents that describe the scan of a directory. -/
namespace PoolLint.Schema
open Check

def truthWord? (s : String) : Option Bool :=
  if ["1", "on", "t", "true", "y", "yes"].contains s then some true
  else if ["0", "off", "f", "false", "n", "no"].contains s then some false
  else none

def truthOfInteger (n : Int) : Check Bool :=
  if n == 1 then .ok true else if n == 0 then .ok false else .fail .unreadableTruth

/-- A truth value, which may also be given as a word or as one of the numbers zero and one. -/
def truth : Json → Check Bool
  | .boolean b => .ok b
  | .integer n => truthOfInteger n
  | .decimal negative digits scale =>
    match integerOfDouble (.ofDecimal negative digits scale) with
    | .ok n => truthOfInteger n
    | .error _ => .fail .notTruth
  | .string s =>
    match truthWord? (String.ofList (s.toList.map Char.toLower)) with
    | some b => .ok b
    | none => .fail .unreadableTruth
  | _ => .fail .notTruth

def onError : Json → Check OnError
  | .string s =>
    match OnError.ofName? s with
    | some choice => .ok choice
    | none => .fail .notWord
  | _ => .fail .notWord

/-- What happens when a file fails; unless told otherwise, the scan stops. -/
def onErrorMember (members : List (String × Json)) : Check OnError :=
  optional "on_error" .raise onError members

def search (members : List (String × Json)) : Check Search :=
  let standard := SearchOptions.standard
  (both (required "root" path members) <|
    both (optional "recursive" standard.isRecursive truth members) <|
    both (optional "follow_symlinks" standard.followsLinks truth members) <|
    both (optional "exclude_dir_names" standard.excluded texts members)
      (onErrorMember members)).map
    fun (root, isRecursive, followsLinks, excluded, onError) =>
      ⟨root, ⟨isRecursive, followsLinks, excluded⟩, onError⟩

end PoolLint.Schema
