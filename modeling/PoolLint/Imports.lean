import PoolLint.Syntax.Node
import PoolLint.Text.Blank

/-! The names a file imports, and what callees mean through them. A name means what it was bound to
last, wherever in the file that is. -/
namespace PoolLint
open PoolLint.Syntax

structure Binding where
  localName : String
  qualified : String
  deriving DecidableEq, Repr

namespace Imports

/-- The part of a name before its first dot, and the rest from the dot on. -/
def splitHead (name : String) : String × String :=
  (String.ofList (name.toList.takeWhile (· != '.')),
    String.ofList (name.toList.dropWhile (· != '.')))

def bind (localName qualified : String) : Binding :=
  ⟨Text.squeezed localName, Text.squeezed qualified⟩

def aliased? (n : Node) : Option (String × String) :=
  match n.child? .name, n.child? .newName with
  | some name, some newName => some (name.text, newName.text)
  | _, _ => none

/-- What one name of an import statement binds. Of a dotted name, the first part is bound. -/
def importBinding? (n : Node) : Option Binding :=
  if n.kind == .aliasedImport then
    (aliased? n).map fun (name, newName) => bind newName name
  else
    let head := (splitHead n.text).1
    some (bind head head)

/-- A name inside a module; the dots of a package go before it as they are. -/
def inModule (module name : String) : String :=
  if module.toList.getLast? == some '.' then module ++ name else module ++ "." ++ name

def importFromBinding? (module : String) (n : Node) : Option Binding :=
  if n.kind == .aliasedImport then
    (aliased? n).map fun (name, newName) => bind newName (inModule module name)
  else some (bind (splitHead n.text).1 (inModule module n.text))

def bindingsOf (n : Node) : List Binding :=
  match n.kind with
  | .importStatement => (n.childrenIn .name).filterMap importBinding?
  | .importFromStatement =>
    match n.child? .moduleName with
    | none => []
    | some source =>
      (n.childrenIn .name).filterMap (importFromBinding? (Text.squeezed source.text))
  | _ => []

def isImport (n : Node) : Bool := n.kind == .importStatement || n.kind == .importFromStatement

def bindings (root : Node) : List Binding :=
  (Node.walk (!isImport ·) root).flatMap bindingsOf

/-- What a name is bound to, last binding first. -/
def lookup? (bindings : List Binding) (name : String) : Option String :=
  (bindings.reverse.find? (·.localName == name)).map (·.qualified)

def resolve (bindings : List Binding) (callee : String) : String :=
  let name := Text.squeezed callee
  let (head, rest) := splitHead name
  match lookup? bindings head with
  | none => name
  | some qualified => qualified ++ rest

@[simp] theorem resolve_squeezed (bindings : List Binding) (callee : String) :
    resolve bindings (Text.squeezed callee) = resolve bindings callee := by
  simp [resolve]

/-- The bindings that are in force at the end, each name once. -/
def effective (bindings : List Binding) : List Binding :=
  bindings.reverse.foldl
    (fun found b => if found.any (·.localName == b.localName) then found else found ++ [b]) []

end Imports
end PoolLint
