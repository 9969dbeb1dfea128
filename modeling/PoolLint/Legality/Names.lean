import PoolLint.Legality.Scope

/-! What each scope does with its names, and where that breaks a rule. Some violations are found on
the walk; whether a name that is declared for an outer function has one is found out when all scopes
are known. -/
namespace PoolLint.Legality.Names
open PoolLint.Syntax
open Scope

structure Symbol where
  name : String
  isParameter : Bool := false
  isLocal : Bool := false
  isUsed : Bool := false
  isAnnotated : Bool := false
  isGlobal : Bool := false
  isNonlocal : Bool := false
  isImported : Bool := false
  isLoopTarget : Bool := false
  deriving DecidableEq, Repr

/-- A scope whose walk is over. -/
inductive Closed where
  | mk (kind : ScopeKind) (symbols : List Symbol) (declared : List (String × Span))
      (inner : List Closed)

/-- A scope on the walk. -/
structure Open where
  kind : ScopeKind
  symbols : List Symbol
  declared : List (String × Span)
  inner : List Closed
  iterables : Nat
  inTarget : Bool

def Open.close (s : Open) : Closed :=
  .mk s.kind s.symbols s.declared.reverse s.inner.reverse

def Open.symbol (s : Open) (name : String) : Symbol :=
  (s.symbols.find? (·.name == name)).getD { name := name }

/-- Changes what is known of a name; a new name comes last. -/
def update (name : String) (change : Symbol → Symbol) : List Symbol → List Symbol
  | [] => [change { name := name }]
  | s :: rest => if s.name == name then change s :: rest else s :: update name change rest

/-- Notes something about a name. The target of a loop in a comprehension cannot be declared for
another scope. -/
def Open.note (s : Open) (name : String) (at_ : Span) (change : Symbol → Symbol) :
    Except Violation Open :=
  let symbols := update name change s.symbols
  if s.inTarget then
    let known := { s with symbols := symbols }.symbol name
    if known.isGlobal || known.isNonlocal then .error (Violation.ofSpan at_)
    else .ok { s with symbols := update name (fun k => { k with isLoopTarget := true }) symbols }
  else .ok { s with symbols := symbols }

def Open.declare (s : Open) (name : String) (at_ : Span) : Open :=
  { s with declared := (name, at_) :: s.declared }

/-- Declares names for another scope. They must not have been used before. -/
def Open.declareAll (s : Open) (at_ : Span) (change : Symbol → Symbol) :
    List String → Except Violation Open
  | [] => .ok s
  | name :: rest =>
    let known := s.symbol name
    if known.isParameter || known.isLocal || known.isUsed || known.isAnnotated then
      .error (Violation.ofSpan at_)
    else
      match s.note name at_ change with
      | .error fault => .error fault
      | .ok s => (s.declare name at_).declareAll at_ change rest

/-- Gives a name a value in passing, from inside comprehensions: the scope around them takes the
name. The scopes are given innermost first. -/
def assignOutward (name : String) (at_ : Span) (current : Symbol → Symbol) :
    List Open → Except Violation (List Open × (Symbol → Symbol))
  | [] => .ok ([], current)
  | s :: outer =>
    match s.kind with
    | .comprehension =>
      let known := s.symbol name
      if known.isLoopTarget && known.isLocal then .error (Violation.ofSpan at_)
      else
        match assignOutward name at_ current outer with
        | .error fault => .error fault
        | .ok (outer, change) => .ok (s :: outer, change)
    | .function =>
      let change : Symbol → Symbol :=
        if (s.symbol name).isGlobal then fun k => { k with isGlobal := true }
        else fun k => { k with isNonlocal := true }
      match s.note name at_ fun k => { k with isLocal := true } with
      | .error fault => .error fault
      | .ok s => .ok (s :: outer, change)
    | .file =>
      match s.note name at_ fun k => { k with isGlobal := true } with
      | .error fault => .error fault
      | .ok s => .ok (s :: outer, fun k => { k with isGlobal := true })
    | .classBody => .error (Violation.ofSpan at_)

def onTop (scopes : List Open) (f : Open → Except Violation Open) : Except Violation (List Open) :=
  match scopes with
  | [] => .ok []
  | s :: outer =>
    match f s with
    | .error fault => .error fault
    | .ok s => .ok (s :: outer)

def step (scopes : List Open) (event : Step) : Except Violation (List Open) :=
  match event with
  | .enter kind =>
    .ok (⟨kind, [], [], [], (scopes.head?.map (·.iterables)).getD 0, false⟩ :: scopes)
  | .leave =>
    match scopes with
    | s :: outer :: rest => .ok ({ outer with inner := s.close :: outer.inner } :: rest)
    | _ => .ok scopes
  | .use name =>
    onTop scopes fun s => s.note name default fun k => { k with isUsed := true }
  | .bind name =>
    onTop scopes fun s => s.note name default fun k => { k with isLocal := true }
  | .importName name =>
    onTop scopes fun s => s.note name default fun k => { k with isImported := true }
  | .importAll at_ =>
    onTop scopes fun s => if s.kind == .file then .ok s else .error (Violation.ofSpan at_)
  | .parameter name at_ =>
    onTop scopes fun s =>
      if (s.symbol name).isParameter then .error (Violation.ofSpan at_)
      else s.note name at_ fun k => { k with isParameter := true }
  | .annotate name at_ =>
    onTop scopes fun s =>
      let known := s.symbol name
      if (known.isGlobal || known.isNonlocal) && s.kind != .file then
        .error (Violation.ofSpan at_)
      else s.note name at_ fun k => { k with isAnnotated := true, isLocal := true }
  | .globals names at_ =>
    onTop scopes fun s => s.declareAll at_ (fun k => { k with isGlobal := true }) names
  | .nonlocals names at_ =>
    onTop scopes fun s => s.declareAll at_ (fun k => { k with isNonlocal := true }) names
  | .assignInPassing name at_ =>
    match scopes with
    | [] => .ok []
    | s :: _ =>
      if 0 < s.iterables then .error (Violation.ofSpan at_)
      else if s.kind == .comprehension then
        match assignOutward name at_ id scopes with
        | .error fault => .error fault
        | .ok (scopes, change) => onTop scopes fun s => s.note name at_ change
      else .ok scopes
  | .yield at_ =>
    onTop scopes fun s =>
      if s.kind == .comprehension then .error (Violation.ofSpan at_) else .ok s
  | .target inside => onTop scopes fun s => .ok { s with inTarget := inside }
  | .iterable inside =>
    onTop scopes fun s =>
      .ok { s with iterables := if inside then s.iterables + 1 else s.iterables - 1 }

def walk : List Step → List Open → Except Violation (List Open)
  | [], scopes => .ok scopes
  | event :: rest, scopes =>
    match step scopes event with
    | .error fault => .error fault
    | .ok scopes => walk rest scopes

/-- The place of the first declaration of a name. -/
def placeOf (declared : List (String × Span)) (name : String) : Violation :=
  Violation.ofSpan ((declared.find? (·.1 == name)).map (·.2) |>.getD default)

/-- Goes through the names of a scope, given the names that the functions around it bind; there are
none at all around the file. The answer is what remains of those, and what the scope binds. -/
def resolve (declared : List (String × Span)) :
    List Symbol → Option (List String) → List String →
    Except Violation (Option (List String) × List String)
  | [], around, own => .ok (around, own)
  | s :: rest, around, own =>
    if s.isGlobal then
      if s.isNonlocal then .error (placeOf declared s.name)
      else resolve declared rest (around.map (·.filter (· != s.name))) own
    else if s.isNonlocal then
      if around.any (·.contains s.name) then resolve declared rest around own
      else .error (placeOf declared s.name)
    else if s.isLocal || s.isParameter || s.isImported then
      resolve declared rest around (s.name :: own)
    else resolve declared rest around own

/-- The names that the scopes inside a scope see as bound around them. -/
def passedOn (kind : ScopeKind) (before after : Option (List String)) (own : List String) :
    List String :=
  match kind with
  | .classBody => "__class__" :: before.getD []
  | .file => after.getD []
  | .function | .comprehension => own ++ after.getD []

mutual

/-- The first violation that shows when all scopes are known. -/
def fault? (around : Option (List String)) : Closed → Option Violation
  | .mk kind symbols declared inner =>
    match resolve declared symbols around [] with
    | .error fault => some fault
    | .ok (after, own) => faultIn? (passedOn kind around after own) inner

def faultIn? (around : List String) : List Closed → Option Violation
  | [] => none
  | s :: rest =>
    match fault? (some around) s with
    | some fault => some fault
    | none => faultIn? around rest

end

def faultOf (module : Node) : Option Violation :=
  match walk (stepsOf module) [⟨.file, [], [], [], 0, false⟩] with
  | .error fault => some fault
  | .ok scopes => (scopes.getLast?.map Open.close).bind (fault? none)

end PoolLint.Legality.Names
