import PoolLint.Files.Path

/-! A tree of files, directories and symbolic links as a value, with what a program can ask of it
and do to it. A path is followed name by name: links are replaced by what they point to, and a name
that goes up leaves the directory that was reached. -/
namespace PoolLint

inductive Item where
  | file (bytes : List Nat)
  | directory
  | link (target : Path)
  deriving DecidableEq, Repr, Inhabited

namespace Item

def isFile : Item → Bool
  | .file _ => true
  | _ => false

def isDirectory : Item → Bool
  | .directory => true
  | _ => false

def isLink : Item → Bool
  | .link _ => true
  | _ => false

end Item

/-- Why a path cannot be used. -/
inductive PathFault where
  | missing
  | notDirectory
  | isDirectory
  | alreadyThere
  | loop
  /-- A name on the way, or the path itself, takes more bytes than a file system looks up. -/
  | tooLong
  | refused
  /-- More directories lie in each other than can be gone through. -/
  | tooDeep
  deriving DecidableEq, Repr, Inhabited

/-- Faults that only say that there is nothing. -/
def PathFault.isAbsence : PathFault → Bool
  | .missing | .notDirectory | .loop => true
  | .isDirectory | .alreadyThere | .tooLong | .refused | .tooDeep => false

/-- Every item has the names that lead to it from the top; the top itself is a directory. Relative
paths start in the working directory. Files and directories that do not let themselves be read are
listed with the fault that an attempt ends in, and so are directories in which no name can be looked
up. -/
structure FileTree where
  items : List (List String × Item)
  workingDirectory : List String
  unreadable : List (List String × PathFault) := []
  barred : List (List String × PathFault) := []
  deriving Repr

namespace FileTree

def empty (workingDirectory : List String) : FileTree :=
  { items := (List.range workingDirectory.length).map fun n =>
      (workingDirectory.take (n + 1), .directory)
    workingDirectory }

/-- The item at a place; links are not followed. -/
def item? (t : FileTree) (names : List String) : Option Item :=
  if names.isEmpty then some .directory else (t.items.find? (·.1 == names)).map (·.2)

def put (t : FileTree) (names : List String) (item : Item) : FileTree :=
  { t with items := t.items.filter (·.1 != names) ++ [(names, item)] }

/-- Takes an item away with everything below it. -/
def remove (t : FileTree) (names : List String) : FileTree :=
  { t with items := t.items.filter fun i => !names.isPrefixOf i.1 }

def namesIn (t : FileTree) (directory : List String) : List String :=
  t.items.filterMap fun i => if i.1.dropLast == directory then i.1.getLast? else none

def startOf (t : FileTree) (p : Path) : List String :=
  if p.isAbsolute then [] else t.workingDirectory

/-- How many bytes a name takes that can be looked up. -/
def maxNameSize : Nat := 255

/-- How many bytes a path takes, its end among them, that can be asked for. -/
def maxPathSize : Nat := 4096

def faultAt? (faults : List (List String × PathFault)) (names : List String) : Option PathFault :=
  (faults.find? (·.1 == names)).map (·.2)

/-- Names can be looked up in what is at a place. -/
def opened (t : FileTree) (names : List String) : Except PathFault Unit :=
  match t.item? names with
  | none => .error .missing
  | some .directory =>
    match faultAt? t.barred names with
    | some fault => .error fault
    | none => .ok ()
  | some _ => .error .notDirectory

/-- What has a name in a directory. -/
def lookUp (t : FileTree) (directory : List String) (name : String) :
    Except PathFault (Option Item) :=
  match t.opened directory with
  | .error fault => .error fault
  | .ok () =>
    if maxNameSize < name.utf8ByteSize then .error .tooLong
    else .ok (t.item? (directory ++ [name]))

/-- Where names lead up to the first link among them. -/
inductive Reach where
  | found (names : List String) (item : Item)
  | absent (names : List String)
  | link (base : List String) (target : Path) (rest : List String)
  | fault (fault : PathFault)
  deriving Repr

/-- Goes on from a place that is no link. -/
def reach (t : FileTree) (current : List String) : List String → Reach
  | [] =>
    match t.item? current with
    | some item => .found current item
    | none => .absent current
  | name :: rest =>
    if name == ".." then
      match t.opened current with
      | .error fault => .fault fault
      | .ok () => t.reach current.dropLast rest
    else
      match t.lookUp current name with
      | .error fault => .fault fault
      | .ok none => if rest.isEmpty then .absent (current ++ [name]) else .fault .missing
      | .ok (some (.link target)) => .link current target rest
      | .ok (some _) => t.reach (current ++ [name]) rest

/-- How many links are followed before a path counts as endless. -/
def maxLinks : Nat := 40

/-- Where names lead when at most a number of links is followed. -/
def followFrom (t : FileTree) : Nat → List String → List String → Reach
  | 0, _, _ => .fault .loop
  | links + 1, current, names =>
    match t.reach current names with
    | .link base target rest =>
      t.followFrom links (if target.isAbsolute then [] else base) (target.names ++ rest)
    | reached => reached

def follow (t : FileTree) (p : Path) : Reach :=
  if maxPathSize < p.size then .fault .tooLong
  else t.followFrom (maxLinks + 1) (t.startOf p) p.names

def stat (t : FileTree) (p : Path) : Except PathFault (List String × Item) :=
  match t.follow p with
  | .found names item => .ok (names, item)
  | .absent _ => .error .missing
  | .link .. => .error .loop
  | .fault fault => .error fault

/-- Asks what kind of thing a path leads to. That it leads to nothing is an answer; other faults are
not. -/
def ask (t : FileTree) (holds : Item → Bool) (p : Path) : Except PathFault Bool :=
  match t.stat p with
  | .ok (_, item) => .ok (holds item)
  | .error fault => if fault.isAbsence then .ok false else .error fault

def askThere (t : FileTree) : Path → Except PathFault Bool := t.ask fun _ => true

def askDirectory (t : FileTree) : Path → Except PathFault Bool := t.ask Item.isDirectory

def askFile (t : FileTree) : Path → Except PathFault Bool := t.ask Item.isFile

/-- Whether a path leads to something, for those who take every fault for a no. -/
def isThere (t : FileTree) (p : Path) : Bool :=
  match t.stat p with
  | .ok _ => true
  | .error _ => false

def isDirectory (t : FileTree) (p : Path) : Bool :=
  match t.stat p with
  | .ok (_, .directory) => true
  | _ => false

def read (t : FileTree) (p : Path) : Except PathFault (List Nat) :=
  match t.stat p with
  | .error fault => .error fault
  | .ok (names, .file bytes) =>
    match faultAt? t.unreadable names with
    | some fault => .error fault
    | none => .ok bytes
  | .ok _ => .error .isDirectory

/-- Writes a file; what it held before is gone. -/
def write (t : FileTree) (p : Path) (bytes : List Nat) : Except PathFault FileTree :=
  match t.follow p with
  | .found names (.file _) | .absent names => .ok (t.put names (.file bytes))
  | .found _ _ => .error .isDirectory
  | .link .. => .error .loop
  | .fault fault => .error fault

def makeDirectory (t : FileTree) (p : Path) : Except PathFault FileTree :=
  if maxPathSize < p.size then .error .tooLong
  else
    match p.names.getLast? with
    | none => .error .alreadyThere
    | some name =>
      match t.stat p.parent with
      | .error fault => .error fault
      | .ok (names, .directory) =>
        if name == ".." then .error .alreadyThere
        else
          match t.lookUp names name with
          | .error fault => .error fault
          | .ok (some _) => .error .alreadyThere
          | .ok none => .ok (t.put (names ++ [name]) .directory)
      | .ok _ => .error .notDirectory

def ensureDirectory (t : FileTree) (p : Path) : Except PathFault FileTree :=
  match t.makeDirectory p with
  | .ok made => .ok made
  | .error fault =>
    match t.askDirectory p with
    | .error other => .error other
    | .ok true => .ok t
    | .ok false => .error fault

/-- How many directories, each in the one before, are gone through in one go. It stands for the
number of calls that the program can be in at once and is on the low side. -/
def maxNested : Nat := 980

/-- Why something came to its end, and the tree that it leaves. -/
structure Stopped where
  fault : PathFault
  tree : FileTree

/-- Makes a directory and those above it that are missing, up to a number of them. Those that have
been made stay, also where the next one cannot be made. -/
def ensureFrom (t : FileTree) : Nat → Path → Except Stopped FileTree
  | 0, _ => .error ⟨.tooDeep, t⟩
  | above + 1, p =>
    match t.makeDirectory p with
    | .error .missing =>
      match t.ensureFrom above p.parent with
      | .error stopped => .error stopped
      | .ok made => (made.ensureDirectory p).mapError (⟨·, made⟩)
    | _ => (t.ensureDirectory p).mapError (⟨·, t⟩)

def ensureDirectories (t : FileTree) (p : Path) : Except Stopped FileTree :=
  t.ensureFrom maxNested p

end FileTree
end PoolLint
