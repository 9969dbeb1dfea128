import PoolLint.FileFacts
import PoolLint.Lowering
import PoolLint.PoolCheck
import PoolLint.Scan.Fault

/-! The scan of one source: every call of a target is checked, in source order, unless the source
has a syntax error. All call sites are read before the first is checked. -/
namespace PoolLint

/-- What comes of reading a value if the reader cannot go beyond a level. -/
def Noted.within {α : Type} (limit : Nat) (n : Noted α) : Attempt ScanFault α where
  events := (n.steps.takeWhile (ReadStep.isWithin limit)).filterMap ReadStep.event?
  result := if n.steps.all (ReadStep.isWithin limit) then .ok n.value else .error .tooDeep

namespace Scan
open PoolLint.Syntax

/-- The call sites of a tree, as far as the stack reaches. -/
def readSites (file : Path) (root : Node) : Attempt ScanFault (List CallSite) :=
  (Lowering.callSites file root).within Lowering.maxLevel

def checkSites (config : RuleConfig) (facts : FileFacts) :
    List CallSite → Attempt ScanFault (List Diagnostic)
  | [] => ⟨[], .ok []⟩
  | site :: rest =>
    match PoolCheck.perform config facts.diagnostics (facts.isTarget config.targets) site with
    | .error _ => ⟨[], .error .indexOutside⟩
    | .ok outcome =>
      let others := checkSites config facts rest
      ⟨outcome.events ++ others.events, others.result.map (outcome.diagnostics ++ ·)⟩

def warnings (file : Path) (facts : FileFacts) : List Event :=
  if facts.diagnostics.isEmpty then [] else [.syntaxErrors file]

/-- The scan of a source that has a tree; a violation is a syntax error. -/
def ofTree (config : RuleConfig) (file : Path) (fault : Option Violation) (root : Node) :
    Attempt ScanFault (List Diagnostic) :=
  let facts := FileFacts.of file fault root
  let read := readSites file root
  match read.result with
  | .error fault => ⟨warnings file facts ++ read.events, .error fault⟩
  | .ok sites =>
    let checked := checkSites config facts sites
    ⟨warnings file facts ++ read.events ++ checked.events, checked.result⟩

/-- The scan of a text. A text without a tree is passed over. -/
def ofText (config : RuleConfig) (file : Path) (cs : List Char) :
    Attempt ScanFault (List Diagnostic) :=
  match Node.ofText? cs with
  | none => ⟨[.syntaxErrors file], .ok []⟩
  | some root =>
    match Legality.check cs with
    | .tooDeep => ⟨[], .error .tooDeep⟩
    | .illegal fault => ofTree config file (some fault) root
    | .legal => ofTree config file none root

/-- The scan of bytes, which have to be UTF-8. -/
def ofBytes (config : RuleConfig) (file : Path) (bytes : List Nat) :
    Attempt ScanFault (List Diagnostic) :=
  match Text.Utf8.decode bytes with
  | .error fault => ⟨[], .error (.notUtf8 fault)⟩
  | .ok cs => ofText config file cs

end Scan
end PoolLint
