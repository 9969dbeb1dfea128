import PoolLint.CommandLine.Fault

/-! Options and other arguments of a command line. A long option is a word of its own, with its
value in the next word or behind an equals sign. Letters may stand together behind one dash; a
value is what is left of their word, or the next word. Two dashes alone end the options. -/
namespace PoolLint.CommandLine

/-- What an option does to the settings read so far. -/
inductive Effect (σ : Type) where
  | flag (set : σ → σ)
  | value (set : String → σ → σ)

structure Switch (σ : Type) where
  word : String
  letter : Option Char
  effect : Effect σ

/-- The settings after a word of options, and what to do with a value that is still missing. -/
structure Step (σ : Type) where
  settings : σ
  pending : Option (String → σ → σ)

variable {σ : Type}

def effect? (switches : List (Switch σ)) (test : Switch σ → Bool) : Option (Effect σ) :=
  (switches.find? test).map (·.effect)

def readWord (switches : List (Switch σ)) (settings : σ) (arg : String) :
    Except UsageFault (Step σ) :=
  let name := String.ofList (arg.toList.takeWhile (· != '='))
  let value := match arg.toList.dropWhile (· != '=') with
    | [] => none
    | _ :: cs => some (String.ofList cs)
  match effect? switches (·.word == name), value with
  | none, _ => .error (.unknownOption name)
  | some (.flag set), none => .ok ⟨set settings, none⟩
  | some (.flag _), some _ => .error (.unexpectedValue name)
  | some (.value set), none => .ok ⟨settings, some set⟩
  | some (.value set), some v => .ok ⟨set v settings, none⟩

def readLetters (switches : List (Switch σ)) (settings : σ) :
    List Char → Except UsageFault (Step σ)
  | [] => .ok ⟨settings, none⟩
  | c :: cs =>
    match effect? switches (·.letter == some c) with
    | none => .error (.unknownOption (String.ofList ['-', c]))
    | some (.flag set) => readLetters switches (set settings) cs
    | some (.value set) =>
      if cs.isEmpty then .ok ⟨settings, some set⟩
      else .ok ⟨set (String.ofList cs) settings, none⟩

/-- A dash alone is no option. -/
def isOption (arg : String) : Bool :=
  match arg.toList with
  | '-' :: _ :: _ => true
  | _ => false

def readOption (switches : List (Switch σ)) (settings : σ) (arg : String) :
    Except UsageFault (Step σ) :=
  match arg.toList with
  | '-' :: '-' :: _ => readWord switches settings arg
  | cs => readLetters switches settings (cs.drop 1)

/-- The settings that a command line makes, and its other arguments. Unless options and other
arguments may be mixed, the first other argument ends the options. -/
def readOptions (switches : List (Switch σ)) (isMixed : Bool) (settings : σ) :
    List String → Except UsageFault (σ × List String)
  | [] => .ok (settings, [])
  | arg :: rest =>
    if arg == "--" then .ok (settings, rest)
    else if isOption arg then
      match readOption switches settings arg with
      | .error fault => .error fault
      | .ok ⟨settings, none⟩ => readOptions switches isMixed settings rest
      | .ok ⟨settings, some set⟩ =>
        match rest with
        | [] => .error (.missingValue arg)
        | value :: rest => readOptions switches isMixed (set value settings) rest
    else if isMixed then
      (readOptions switches isMixed settings rest).map fun r => (r.1, arg :: r.2)
    else .ok (settings, arg :: rest)

end PoolLint.CommandLine
