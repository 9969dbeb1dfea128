import PoolLint.Text.Ranges
import PoolLint.Text.UnprintableRanges
import PoolLint.Text.Digit

/-! A text as a quoted literal: what messages show when they cite a value they could not use. -/
namespace PoolLint.Text

def isPrintable (c : Char) : Bool :=
  let n := c.toNat
  if n < 127 then 32 ≤ n else !inRanges unprintableRanges n

/-- Single quotes, unless the text has single quotes and no double ones. -/
def quoteMark (cs : List Char) : Char :=
  if cs.contains '\'' && !cs.contains '"' then '"' else '\''

/-- A character inside a quoted literal: the mark and the backslash are escaped, tab and line ends
have letters, everything else that is not printable is written by its code. -/
def quotedChar (mark c : Char) : List Char :=
  if c == mark || c == '\\' then ['\\', c]
  else if c == '\t' then ['\\', 't']
  else if c == '\n' then ['\\', 'n']
  else if c == '\r' then ['\\', 'r']
  else if isPrintable c then [c]
  else if c.toNat < 0x100 then '\\' :: 'x' :: (hexPadded 2 c.toNat).toList
  else if c.toNat < 0x10000 then '\\' :: 'u' :: (hexPadded 4 c.toNat).toList
  else '\\' :: 'U' :: (hexPadded 8 c.toNat).toList

def quoted (s : String) : String :=
  let cs := s.toList
  let mark := quoteMark cs
  String.ofList (mark :: cs.flatMap (quotedChar mark) ++ [mark])

end PoolLint.Text
