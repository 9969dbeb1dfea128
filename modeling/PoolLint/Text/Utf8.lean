import PoolLint.Text.Digit

/-! Reading bytes as UTF-8. The first byte at which no character can be read is a fault that names
how far the bad sequence reached and why it stopped there. -/
namespace PoolLint.Text

inductive Utf8.Reason where
  | invalidStart
  | invalidContinuation
  | unexpectedEnd
  deriving DecidableEq, Repr

/-- The bytes `start` to `start + length - 1` begin no character. `byte` is the first of them. -/
structure Utf8.Fault where
  start : Nat
  length : Nat
  byte : Nat
  reason : Utf8.Reason
  deriving DecidableEq, Repr

def Utf8.Reason.message : Utf8.Reason → String
  | .invalidStart => "invalid start byte"
  | .invalidContinuation => "invalid continuation byte"
  | .unexpectedEnd => "unexpected end of data"

def Utf8.Fault.message (f : Utf8.Fault) : String :=
  if f.length ≤ 1 then
    s!"'utf-8' codec can't decode byte 0x{hexPadded 2 f.byte} in position {f.start}: " ++
      f.reason.message
  else
    s!"'utf-8' codec can't decode bytes in position {f.start}-{f.start + f.length - 1}: " ++
      f.reason.message

/-- For a first byte: how many bytes follow, and the least and greatest second byte. -/
def Utf8.lead? (b : Nat) : Option (Nat × Nat × Nat) :=
  if b < 0x80 then some (0, 0, 0)
  else if b < 0xC2 then none
  else if b < 0xE0 then some (1, 0x80, 0xBF)
  else if b == 0xE0 then some (2, 0xA0, 0xBF)
  else if b == 0xED then some (2, 0x80, 0x9F)
  else if b < 0xF0 then some (2, 0x80, 0xBF)
  else if b == 0xF0 then some (3, 0x90, 0xBF)
  else if b < 0xF4 then some (3, 0x80, 0xBF)
  else if b == 0xF4 then some (3, 0x80, 0x8F)
  else none

/-- Reads `wanted` continuation bytes onto a code, the first within bounds. The answer is the code
and what remains, or how many bytes were taken and why the next cannot be. -/
def Utf8.continue (code taken low high : Nat) :
    Nat → List Nat → Except (Nat × Utf8.Reason) (Nat × List Nat)
  | 0, rest => .ok (code, rest)
  | _ + 1, [] => .error (taken, .unexpectedEnd)
  | wanted + 1, b :: rest =>
    if low ≤ b && b ≤ high then
      Utf8.continue (code * 64 + (b - 0x80)) (taken + 1) 0x80 0xBF wanted rest
    else .error (taken, .invalidContinuation)

/-- The code that the first byte of a sequence contributes. -/
def Utf8.leadCode (b following : Nat) : Nat :=
  if following == 0 then b
  else if following == 1 then b - 0xC0
  else if following == 2 then b - 0xE0
  else b - 0xF0

/-- Reads at most `fuel` characters; every character takes at least one byte. -/
def Utf8.decodeFrom : Nat → Nat → List Nat → List Char → Except Utf8.Fault (List Char)
  | _, _, [], acc => .ok acc.reverse
  | 0, _, _ :: _, acc => .ok acc.reverse
  | fuel + 1, start, b :: rest, acc =>
    match Utf8.lead? b with
    | none => .error ⟨start, 1, b, .invalidStart⟩
    | some (following, low, high) =>
      match Utf8.continue (Utf8.leadCode b following) 1 low high following rest with
      | .error (taken, reason) => .error ⟨start, taken, b, reason⟩
      | .ok (code, rest') =>
        Utf8.decodeFrom fuel (start + following + 1) rest' (Char.ofNat code :: acc)

def Utf8.decode (bytes : List Nat) : Except Utf8.Fault (List Char) :=
  Utf8.decodeFrom bytes.length 0 bytes []

def Utf8.encode (s : String) : List Nat :=
  s.toUTF8.toList.map UInt8.toNat

def Utf8.size (s : String) : Nat := s.utf8ByteSize

end PoolLint.Text
