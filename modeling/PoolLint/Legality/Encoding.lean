import PoolLint.Syntax.Token
import PoolLint.Text.Blank

/-! The encoding a source declares for itself, in a comment on one of its first two lines. Sources
are read as UTF-8 all the same, so a declared encoding counts only for whether the source is legal:
what it makes of characters beyond ASCII is no letter of a name. -/
namespace PoolLint.Legality.Encoding
open PoolLint.Syntax

def isMargin (c : Char) : Bool := c == ' ' || c == '\t' || c == '\x0c'

def isNameCharacter (c : Char) : Bool := c.isAlphanum || c == '-' || c == '_' || c == '.'

/-- The name of an encoding behind the word that announces it. -/
def announced? (cs : List Char) : Option (List Char) :=
  match cs with
  | c :: rest =>
    if c == ':' || c == '=' then
      match (rest.dropWhile fun b => b == ' ' || b == '\t').takeWhile isNameCharacter with
      | [] => none
      | name => some name
    else none
  | [] => none

/-- The first encoding that is announced in a text. -/
def search? : List Char → Option (List Char)
  | [] => none
  | c :: cs =>
    if "coding".toList.isPrefixOf (c :: cs) then
      match announced? ((c :: cs).drop 6) with
      | some name => some name
      | none => search? cs
    else search? cs

/-- The encoding that a line declares, if the line is a comment. -/
def inLine? (line : List Char) : Option (List Char) :=
  match line.dropWhile isMargin with
  | '#' :: rest => search? rest
  | _ => none

def isBlankLine (line : List Char) : Bool :=
  match line.dropWhile isMargin with
  | [] => true
  | c :: _ => c == '#'

def declared? (lines : List (List Char)) : Option (List Char) :=
  match lines with
  | [] => none
  | first :: rest =>
    match inLine? first with
    | some name => some name
    | none =>
      if isBlankLine first then (rest.head?).bind inLine? else none

/-- A name without case, with all separators alike. -/
def normal (name : List Char) : String :=
  String.ofList (name.map fun c => if c == '_' then '-' else c.toLower)

def isUnicodeName (name : String) : Bool :=
  name == "utf-8" || "utf-8-".toList.isPrefixOf name.toList

/-- Further names for the encoding that sources are read in. -/
def unicodeNames : List String := ["utf8", "u8", "utf", "utf8-ucs2", "utf8-ucs4", "cp65001"]

def asciiNames : List String :=
  ["ascii", "646", "ansi-x3.4-1968", "ansi-x3.4-1986", "cp367", "csascii", "ibm367",
   "iso646-us", "iso-646.irv-1991", "iso-ir-6", "us", "us-ascii"]

/-- Names of encodings that extend ASCII. -/
def extendedNames : List String :=
  ["latin-1", "latin1", "latin", "l1", "8859", "cp819", "csisolatin1", "ibm819", "iso8859",
   "iso8859-1", "iso-8859-1", "iso-8859-1-1987", "iso-ir-100", "iso-latin-1",
   "iso8859-2", "iso-8859-2", "latin2", "latin-2", "l2", "iso8859-3", "iso-8859-3", "latin3",
   "latin-3", "l3", "iso8859-4", "iso-8859-4", "latin4", "latin-4", "l4", "iso8859-5",
   "iso-8859-5", "cyrillic", "iso8859-6", "iso-8859-6", "arabic", "iso8859-7", "iso-8859-7",
   "greek", "greek8", "iso8859-8", "iso-8859-8", "hebrew", "iso8859-9", "iso-8859-9", "latin5",
   "latin-5", "l5", "iso8859-10", "iso-8859-10", "latin6", "latin-6", "l6", "iso8859-11",
   "iso-8859-11", "thai", "iso8859-13", "iso-8859-13", "latin7", "latin-7", "l7", "iso8859-14",
   "iso-8859-14", "latin8", "latin-8", "l8", "iso8859-15", "iso-8859-15", "latin9", "latin-9",
   "l9", "iso8859-16", "iso-8859-16", "latin10", "latin-10", "l10", "cp037", "cp437", "437",
   "ibm437", "cp720", "cp737", "cp775", "cp850", "850", "ibm850", "cp852", "852", "ibm852",
   "cp855", "cp857", "cp858", "cp860", "cp861", "cp862", "cp863", "cp864", "cp865", "cp866", "866",
   "ibm866", "cp869", "cp874", "cp1250", "1250", "windows-1250", "cp1251", "1251", "windows-1251",
   "cp1252", "1252", "windows-1252", "cp1253", "1253", "windows-1253", "cp1254", "1254",
   "windows-1254", "cp1255", "1255", "windows-1255", "cp1256", "1256", "windows-1256", "cp1257",
   "1257", "windows-1257", "cp1258", "1258", "windows-1258", "koi8-r", "cskoi8r", "koi8-u",
   "koi8-t", "kz1048", "ptcp154", "tis-620", "hp-roman8", "mac-roman", "macroman", "macintosh",
   "mac-cyrillic", "mac-greek", "mac-latin2", "mac-iceland", "mac-turkish", "palmos"]

/-- Names of encodings of larger alphabets that extend ASCII. -/
def wideNames : List String :=
  ["big5", "big5-tw", "big5-hkscs", "cp932", "932", "ms932", "cp949", "949", "cp950", "950",
   "euc-jp", "eucjp", "ujis", "euc-kr", "euckr", "gb2312", "chinese", "euc-cn", "gbk", "936",
   "cp936", "gb18030", "hz", "johab", "shift-jis", "sjis", "s-jis", "shiftjis", "iso2022-jp",
   "iso-2022-jp", "iso-2022-kr", "utf-7", "utf7", "u7"]

/-- Whether an encoding makes a source legal whose characters and names are as told. -/
def isLegal (name : String) (isMarked allAscii namesAscii : Bool) : Bool :=
  if isUnicodeName name then true
  else if isMarked then false
  else if unicodeNames.contains name then true
  else if asciiNames.contains name || wideNames.contains name then allAscii
  else extendedNames.contains name && namesAscii

/-- The rule for the declared encoding of a source. `isMarked` tells that the source starts with a
byte order mark. -/
def areLinesLegal (isMarked : Bool) (lines : List (List Char)) (tokens : List Token) : Bool :=
  match declared? lines with
  | none => true
  | some name =>
    isLegal (normal name) isMarked (lines.all (·.all (·.toNat < 128)))
      (tokens.all fun t => t.kind != .word || t.text.toList.all (·.toNat < 128))

end PoolLint.Legality.Encoding
