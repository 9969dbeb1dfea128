import Mathlib.Data.List.Forall2
import PoolLint.Json.Parser

/-! The texts of JSON documents, said without a reader: what may stand for a character, a number and a
value, and where gaps may stand. A text stands for at most one document, because the reader gives
back whatever document a text stands for. -/
namespace PoolLint.Json
open PoolLint.Text

/-- Blanks and line ends, which may stand around every sign of a document. -/
def IsGap (cs : List Char) : Prop := ∀ c ∈ cs, c = ' ' ∨ c = '\n' ∨ c = '\r' ∨ c = '\t'

/-- The letters that stand for a character behind a backslash. -/
def escapes : List (Char × Char) :=
  [('"', '"'), ('\\', '\\'), ('/', '/'), ('b', Char.ofNat 8), ('f', Char.ofNat 12), ('n', '\n'),
    ('r', '\r'), ('t', '\t')]

def UnitText (n : Nat) (cs : List Char) : Prop :=
  cs.length = 4 ∧ (∀ c ∈ cs, isDigitOf 16 c) ∧ digitsValue 16 cs = n

/-- A character of a string. Beyond the first plane an escape takes a pair of units. -/
inductive CharText : Char → List Char → Prop
  | plain {c : Char} (printable : 32 ≤ c.toNat) (open_ : c ≠ '"') (bare : c ≠ '\\') : CharText c [c]
  | letter {l c : Char} (known : (l, c) ∈ escapes) : CharText c ['\\', l]
  | unit {c : Char} {cs : List Char} (digits : UnitText c.toNat cs) : CharText c ('\\' :: 'u' :: cs)
  | pair {c : Char} {high low : Nat} {cs ds : List Char} (inHigh : high < 0x400)
      (inLow : low < 0x400) (value : c.toNat = 0x10000 + high * 0x400 + low)
      (first : UnitText (0xD800 + high) cs) (second : UnitText (0xDC00 + low) ds) :
      CharText c ('\\' :: 'u' :: cs ++ '\\' :: 'u' :: ds)

def StringText (s : String) (cs : List Char) : Prop :=
  ∃ pieces, List.Forall₂ CharText s.toList pieces ∧ cs = '"' :: pieces.flatten ++ ['"']

def Digits (cs : List Char) : Prop := cs ≠ [] ∧ ∀ c ∈ cs, c.isDigit

/-- Digits without a zero in front of others. -/
def WholeText (cs : List Char) : Prop := Digits cs ∧ (cs.head? = some '0' → cs.length = 1)

def signed (negative : Bool) (n : Int) : Int := if negative then -n else n

def signText (negative : Bool) : List Char := if negative then ['-'] else []

inductive FractionText : List Char → List Char → Prop
  | absent : FractionText [] []
  | present {cs : List Char} (digits : Digits cs) : FractionText cs ('.' :: cs)

inductive ExponentText : Int → List Char → Prop
  | absent : ExponentText 0 []
  | present {mark : Char} {negative : Bool} {sign cs : List Char} (marked : mark = 'e' ∨ mark = 'E')
      (signs : sign = signText negative ∨ negative = false ∧ sign = ['+']) (digits : Digits cs) :
      ExponentText (signed negative (digitsValue 10 cs)) (mark :: sign ++ cs)

/-- A number is a decimal as soon as it has a fraction or an exponent. -/
inductive NumberText : Json → List Char → Prop
  | integer {negative : Bool} {cs : List Char} (whole : WholeText cs) :
      NumberText (.integer (signed negative (digitsValue 10 cs))) (signText negative ++ cs)
  | decimal {negative : Bool} {cs ds fs es : List Char} {e : Int} (whole : WholeText cs)
      (fraction : FractionText ds fs) (exponent : ExponentText e es) (some_ : fs ++ es ≠ []) :
      NumberText (.decimal negative (digitsValue 10 (cs ++ ds)) (e - ds.length))
        (signText negative ++ (cs ++ (fs ++ es)))

inductive Phrase where
  | value (j : Json)
  | padded (j : Json)
  | member (m : String × Json)
  | elements (xs : List Json)
  | members (ms : List (String × Json))

inductive Spells : Phrase → List Char → Prop
  | null : Spells (.value .null) "null".toList
  | true_ : Spells (.value (.boolean true)) "true".toList
  | false_ : Spells (.value (.boolean false)) "false".toList
  | number {j : Json} {cs : List Char} (text : NumberText j cs) : Spells (.value j) cs
  | string {s : String} {cs : List Char} (text : StringText s cs) : Spells (.value (.string s)) cs
  | emptyArray {gap : List Char} (inside : IsGap gap) :
      Spells (.value (.array [])) ('[' :: gap ++ [']'])
  | array {xs : List Json} {cs : List Char} (parts : Spells (.elements xs) cs) :
      Spells (.value (.array xs)) ('[' :: cs ++ [']'])
  | emptyObject {gap : List Char} (inside : IsGap gap) :
      Spells (.value (.object [])) ('\x7b' :: gap ++ ['\x7d'])
  | object {ms : List (String × Json)} {cs : List Char} (parts : Spells (.members ms) cs) :
      Spells (.value (.object ms)) ('\x7b' :: cs ++ ['\x7d'])
  | padded {j : Json} {before cs behind : List Char} (left : IsGap before)
      (value : Spells (.value j) cs) (right : IsGap behind) :
      Spells (.padded j) (before ++ (cs ++ behind))
  | member {name : String} {j : Json} {before ns behind cs : List Char} (left : IsGap before)
      (text : StringText name ns) (right : IsGap behind) (value : Spells (.padded j) cs) :
      Spells (.member (name, j)) (before ++ (ns ++ (behind ++ ':' :: cs)))
  | lastElement {j : Json} {cs : List Char} (one : Spells (.padded j) cs) :
      Spells (.elements [j]) cs
  | moreElements {j : Json} {xs : List Json} {cs ds : List Char} (one : Spells (.padded j) cs)
      (more : Spells (.elements xs) ds) : Spells (.elements (j :: xs)) (cs ++ ',' :: ds)
  | lastMember {m : String × Json} {cs : List Char} (one : Spells (.member m) cs) :
      Spells (.members [m]) cs
  | moreMembers {m : String × Json} {ms : List (String × Json)} {cs ds : List Char}
      (one : Spells (.member m) cs) (more : Spells (.members ms) ds) :
      Spells (.members (m :: ms)) (cs ++ ',' :: ds)

/-- A text is a well-formed document of a value. -/
def DocumentText (j : Json) (cs : List Char) : Prop := Spells (.padded j) cs

section Gap

theorem isSpace_iff {c : Char} : isSpace c ↔ c = ' ' ∨ c = '\n' ∨ c = '\r' ∨ c = '\t' := by
  simp [isSpace, or_assoc]

theorem skipSpaces_gap {gap : List Char} (isGap : IsGap gap) (cs : List Char) :
    skipSpaces (gap ++ cs) = skipSpaces cs :=
  List.dropWhile_append_of_pos fun c member => isSpace_iff.mpr (isGap c member)

theorem skipSpaces_cons {c : Char} (solid : ¬ isSpace c) (cs : List Char) :
    skipSpaces (c :: cs) = c :: cs := List.dropWhile_cons_of_neg solid

theorem skipSpaces_skipSpaces (cs : List Char) : skipSpaces (skipSpaces cs) = skipSpaces cs := by
  induction cs with
  | nil => rfl
  | cons c cs ih =>
    by_cases space : isSpace c
    · have step : skipSpaces (c :: cs) = skipSpaces cs := List.dropWhile_cons_of_pos space
      rw [step, ih]
    · rw [skipSpaces_cons space, skipSpaces_cons space]

end Gap

section Character

theorem fourDigits?_append {n : Nat} {cs : List Char} (text : UnitText n cs) (rest : List Char) :
    fourDigits? (cs ++ rest) = some (n, rest) := by
  obtain ⟨length, digits, rfl⟩ := text
  obtain ⟨a, b, c, d, rfl⟩ : ∃ a b c d, cs = [a, b, c, d] := by
    match cs, length with
    | [a, b, c, d], _ => exact ⟨a, b, c, d, rfl⟩
  have all : [a, b, c, d].all (isDigitOf 16) := List.all_eq_true.mpr digits
  simp only [List.cons_append, List.nil_append, fourDigits?, all, if_true]

theorem codeUnits?_unit {c : Char} {cs : List Char} (text : UnitText c.toNat cs)
    (rest : List Char) : codeUnits? (cs ++ rest) = some (c, rest) := by
  have valid : c.toNat < 0xD800 ∨ 0xDFFF < c.toNat ∧ c.toNat < 0x110000 := c.valid
  have outside : c.toNat < 0xD800 ∨ 0xE000 ≤ c.toNat := by omega
  simp only [codeUnits?, fourDigits?_append text, bind, Option.bind]
  simp [outside]

theorem codeUnits?_pair {c : Char} {high low : Nat} {cs ds : List Char} (inHigh : high < 0x400)
    (inLow : low < 0x400) (value : c.toNat = 0x10000 + high * 0x400 + low)
    (first : UnitText (0xD800 + high) cs) (second : UnitText (0xDC00 + low) ds)
    (rest : List Char) :
    codeUnits? (cs ++ '\\' :: 'u' :: ds ++ rest) = some (c, rest) := by
  have isHigh : ¬ (decide (0xD800 + high < 0xD800) || decide (0xE000 ≤ 0xD800 + high)) = true := by
    rw [Bool.or_eq_true, decide_eq_true_eq, decide_eq_true_eq]
    omega
  have notLow : ¬ 0xDC00 ≤ 0xD800 + high := by omega
  have isLow : (decide (0xDC00 ≤ 0xDC00 + low) && decide (0xDC00 + low < 0xE000)) = true := by
    rw [Bool.and_eq_true, decide_eq_true_eq, decide_eq_true_eq]
    omega
  have code : Char.ofNat (0x10000 + (0xD800 + high - 0xD800) * 0x400 + (0xDC00 + low - 0xDC00)) =
      c := by
    rw [Nat.add_sub_cancel_left, Nat.add_sub_cancel_left, ← value, Char.ofNat_toNat]
  rw [List.append_assoc]
  simp only [codeUnits?, fourDigits?_append first, bind, Option.bind, List.cons_append,
    fourDigits?_append second]
  rw [if_neg isHigh, if_neg notLow, if_pos isLow, code]

theorem escapeLetter?_of_mem {l c : Char} (known : (l, c) ∈ escapes) : escapeLetter? l = some c := by
  have all : ∀ e ∈ escapes, escapeLetter? e.1 = some e.2 := by decide
  exact all _ known

theorem letter_ne_u {l c : Char} (known : (l, c) ∈ escapes) : l ≠ 'u' := by
  have all : ∀ e ∈ escapes, e.1 ≠ 'u' := by decide
  exact all _ known

/-- A reader of strings goes on behind the text of a character. -/
theorem parseString_char {c : Char} {cs : List Char} (text : CharText c cs) (fuel : Nat)
    (acc rest : List Char) :
    parseString (fuel + 1) acc (cs ++ rest) = parseString fuel (c :: acc) rest := by
  cases text with
  | plain printable open_ bare =>
    have printable : ¬ c.toNat < 32 := by omega
    simp [parseString, open_, bare, printable]
  | letter known =>
    have letter := letter_ne_u known
    simp only [List.cons_append, List.nil_append, parseString]
    simp [escapeLetter?_of_mem known]
  | unit digits =>
    simp only [List.cons_append, parseString]
    simp [codeUnits?_unit digits]
  | pair inHigh inLow value first second =>
    simp only [List.cons_append, parseString]
    simp only [codeUnits?_pair inHigh inLow value first second]
    simp

theorem CharText.length_pos {c : Char} {cs : List Char} (text : CharText c cs) : 0 < cs.length := by
  cases text <;> simp

theorem parseString_pieces {s : List Char} {pieces : List (List Char)}
    (texts : List.Forall₂ CharText s pieces) (fuel : Nat) (acc rest : List Char)
    (enough : pieces.flatten.length < fuel) :
    parseString fuel acc (pieces.flatten ++ '"' :: rest) =
      some (String.ofList (acc.reverse ++ s), rest) := by
  induction texts generalizing fuel acc with
  | nil =>
    cases fuel with
    | zero => simp at enough
    | succ fuel => simp [parseString]
  | @cons c cs s pieces text texts ih =>
    have length := text.length_pos
    simp only [List.flatten_cons, List.length_append] at enough
    cases fuel with
    | zero => omega
    | succ fuel =>
      have more := ih fuel (c :: acc) (by omega)
      simp only [List.flatten_cons, List.append_assoc]
      rw [parseString_char text, more]
      simp

theorem parseString_text {s : String} {cs : List Char} (text : StringText s cs) (rest : List Char) :
    ∃ more, cs ++ rest = '"' :: more ∧ parseString (more.length + 1) [] more = some (s, rest) := by
  obtain ⟨pieces, texts, rfl⟩ := text
  refine ⟨pieces.flatten ++ '"' :: rest, by simp, ?_⟩
  have enough : pieces.flatten.length < (pieces.flatten ++ '"' :: rest).length + 1 := by
    rw [List.length_append]
    omega
  rw [parseString_pieces texts _ _ _ enough]
  simp

end Character

section Number

/-- What may stand behind a value: the end, a gap, or a sign that ends an element. -/
def Follows (cs : List Char) : Prop :=
  ∀ c ∈ cs.head?, isSpace c ∨ c = ',' ∨ c = ']' ∨ c = '\x7d'

def NoDigit (cs : List Char) : Prop := ∀ c ∈ cs.head?, ¬ c.isDigit

theorem Follows.noDigit {cs : List Char} (follows : Follows cs) : NoDigit cs := by
  intro c first
  obtain space | rfl | rfl | rfl := follows c first
  · obtain rfl | rfl | rfl | rfl := isSpace_iff.mp space <;> decide
  all_goals decide

theorem takeDigits_append {cs rest : List Char} (digits : ∀ c ∈ cs, c.isDigit)
    (ends : NoDigit rest) : takeDigits (cs ++ rest) = (cs, rest) := by
  have front : rest.takeWhile Char.isDigit = [] ∧ rest.dropWhile Char.isDigit = rest := by
    cases rest with
    | nil => exact ⟨rfl, rfl⟩
    | cons c rest =>
      have other := ends c rfl
      exact ⟨List.takeWhile_cons_of_neg other, List.dropWhile_cons_of_neg other⟩
  rw [takeDigits, List.takeWhile_append_of_pos digits, List.dropWhile_append_of_pos digits,
    front.1, front.2, List.append_nil]

theorem parseExponent?_absent {rest : List Char} (plain : ∀ c ∈ rest.head?, c ≠ 'e' ∧ c ≠ 'E') :
    parseExponent? rest = some (none, rest) := by
  cases rest with
  | nil => rfl
  | cons c rest =>
    obtain ⟨lower, upper⟩ := plain c rfl
    simp [parseExponent?, lower, upper]

theorem Digits.exists_cons {cs : List Char} (digits : Digits cs) :
    ∃ c ds, cs = c :: ds ∧ c.isDigit := by
  obtain ⟨some_, all⟩ := digits
  obtain ⟨c, ds, rfl⟩ := List.exists_cons_of_ne_nil some_
  exact ⟨c, ds, rfl, all c List.mem_cons_self⟩

theorem parseExponent?_present {mark : Char} {negative : Bool} {sign cs rest : List Char}
    (marked : mark = 'e' ∨ mark = 'E')
    (signs : sign = signText negative ∨ negative = false ∧ sign = ['+']) (digits : Digits cs)
    (ends : NoDigit rest) :
    parseExponent? (mark :: sign ++ cs ++ rest) =
      some (some (signed negative (digitsValue 10 cs)), rest) := by
  have mark : (mark == 'e' || mark == 'E') = true := by simpa using marked
  have taken := takeDigits_append digits.2 ends
  obtain ⟨c, ds, rfl, digit⟩ := digits.exists_cons
  have minus : c ≠ '-' := by rintro rfl; exact absurd digit (by decide)
  have plus : c ≠ '+' := by rintro rfl; exact absurd digit (by decide)
  simp only [List.cons_append] at taken
  obtain rfl | ⟨rfl, rfl⟩ := signs
  · cases negative with
    | true => simp [parseExponent?, mark, signText, signed, taken]
    | false => simp [parseExponent?, mark, signText, signed, minus, plus, taken]
  · simp [parseExponent?, mark, signed, taken]

theorem parseExponent?_text {e : Int} {cs rest : List Char} (text : ExponentText e cs)
    (follows : Follows rest) :
    ∃ o : Option Int, parseExponent? (cs ++ rest) = some (o, rest) ∧ o.getD 0 = e ∧
      (o = none ↔ cs = []) := by
  cases text with
  | absent =>
    refine ⟨none, parseExponent?_absent fun c first => ?_, rfl, by simp⟩
    obtain space | rfl | rfl | rfl := follows c first
    · obtain rfl | rfl | rfl | rfl := isSpace_iff.mp space <;> decide
    all_goals decide
  | present marked signs digits =>
    exact ⟨_, parseExponent?_present marked signs digits follows.noDigit, rfl, by simp⟩

theorem ExponentText.head {e : Int} {cs rest : List Char} (text : ExponentText e cs)
    (follows : Follows rest) : ∀ c ∈ (cs ++ rest).head?, ¬ c.isDigit ∧ c ≠ '.' := by
  intro c first
  cases text with
  | absent =>
    obtain space | rfl | rfl | rfl := follows c first
    · obtain rfl | rfl | rfl | rfl := isSpace_iff.mp space <;> decide
    all_goals decide
  | present marked signs digits =>
    cases first
    obtain rfl | rfl := marked <;> decide

theorem WholeText.accepted {cs : List Char} (whole : WholeText cs) :
    (cs.isEmpty || (cs.head? == some '0' && decide (1 < cs.length))) = false := by
  obtain ⟨⟨some_, -⟩, zero⟩ := whole
  have shown : cs.isEmpty = false := by simpa using some_
  by_cases first : cs.head? = some '0'
  · simp [shown, zero first]
  · simp [shown, first]

theorem parseNumber?_integer {negative : Bool} {cs rest : List Char} (whole : WholeText cs)
    (follows : Follows rest) :
    parseNumber? negative (cs ++ rest) =
      some (.integer (signed negative (digitsValue 10 cs)), rest) := by
  have taken := takeDigits_append whole.1.2 follows.noDigit
  obtain ⟨o, exponent, -, absent⟩ := parseExponent?_text .absent follows
  obtain rfl : o = none := absent.mpr rfl
  have head := ExponentText.absent.head follows
  rw [List.nil_append] at exponent head
  simp only [parseNumber?, taken, whole.accepted, Bool.false_eq_true, if_false]
  split
  · exact absurd rfl (head _ rfl).2
  · simp [exponent, signed]

theorem parseNumber?_decimal {negative : Bool} {cs ds fs es rest : List Char} {e : Int}
    (whole : WholeText cs) (fraction : FractionText ds fs) (exponent : ExponentText e es)
    (some_ : fs ++ es ≠ []) (follows : Follows rest) :
    parseNumber? negative (cs ++ (fs ++ (es ++ rest))) =
      some (.decimal negative (digitsValue 10 (cs ++ ds)) (e - ds.length), rest) := by
  have head := exponent.head follows
  have ends : NoDigit (es ++ rest) := fun c first => (head c first).1
  obtain ⟨o, read, rfl, absent⟩ := parseExponent?_text exponent follows
  cases fraction with
  | absent =>
    have taken := takeDigits_append whole.1.2 ends
    obtain ⟨e, rfl⟩ : ∃ e, o = some e := Option.ne_none_iff_exists'.mp (mt absent.mp some_)
    simp only [List.nil_append, parseNumber?, taken, whole.accepted, Bool.false_eq_true, if_false]
    split
    · rename_i more point
      exact absurd rfl (head '.' (by rw [point]; rfl)).2
    · simp [read]
  | present digits =>
    have point : NoDigit ('.' :: (ds ++ (es ++ rest))) := by
      rintro c first
      cases first
      decide
    have taken := takeDigits_append whole.1.2 point
    have behind := takeDigits_append digits.2 ends
    obtain ⟨d, more, rfl, -⟩ := digits.exists_cons
    simp only [List.cons_append] at taken behind
    simp only [List.cons_append, parseNumber?, taken, whole.accepted, Bool.false_eq_true, if_false]
    simp [behind, read]

end Number

section Value

/-- The end, or a sign that ends an element. -/
def Closes (cs : List Char) : Prop := ∀ c ∈ cs.head?, c = ',' ∨ c = ']' ∨ c = '\x7d'

theorem closes_cons {c : Char} (cs : List Char) (sign : c = ',' ∨ c = ']' ∨ c = '\x7d') :
    Closes (c :: cs) := by
  intro d first
  cases first
  exact sign

theorem Closes.skipSpaces {cs : List Char} (closes : Closes cs) : skipSpaces cs = cs := by
  cases cs with
  | nil => rfl
  | cons c cs => obtain rfl | rfl | rfl := closes c rfl <;> exact skipSpaces_cons (by decide) cs

theorem Closes.follows {gap cs : List Char} (closes : Closes cs) (isGap : IsGap gap) :
    Follows (gap ++ cs) := by
  intro c first
  cases gap with
  | nil => exact .inr (closes c first)
  | cons d gap =>
    cases first
    exact .inl (isSpace_iff.mpr (isGap c List.mem_cons_self))

theorem parseValue_gap {gap : List Char} (isGap : IsGap gap) (fuel : Nat) (cs : List Char) :
    parseValue fuel (gap ++ cs) = parseValue fuel cs := by
  cases fuel with
  | zero => rw [parseValue, parseValue]
  | succ fuel => rw [parseValue, parseValue, skipSpaces_gap isGap]

theorem parseElements_skipSpaces (fuel : Nat) (cs : List Char) :
    parseElements fuel (skipSpaces cs) = parseElements fuel cs := by
  cases fuel with
  | zero => rw [parseElements, parseElements]
  | succ fuel =>
    have value : parseValue fuel (skipSpaces cs) = parseValue fuel cs := by
      cases fuel with
      | zero => rw [parseValue, parseValue]
      | succ fuel => rw [parseValue, parseValue, skipSpaces_skipSpaces]
    rw [parseElements, parseElements, value]

theorem parseMembers_skipSpaces (fuel : Nat) (cs : List Char) :
    parseMembers fuel (skipSpaces cs) = parseMembers fuel cs := by
  cases fuel with
  | zero => rw [parseMembers, parseMembers]
  | succ fuel => rw [parseMembers, parseMembers, skipSpaces_skipSpaces]

theorem isDigit_head {c : Char} (digit : c.isDigit) :
    ¬ isSpace c ∧ ∀ sign ∈ ['"', '[', ']', '\x7b', '\x7d', '-'], c ≠ sign := by
  constructor
  · intro space
    obtain rfl | rfl | rfl | rfl := isSpace_iff.mp space <;> exact absurd digit (by decide)
  · have none_ : ['"', '[', ']', '\x7b', '\x7d', '-'].all (!·.isDigit) = true := by decide
    rintro sign member rfl
    have other := List.all_eq_true.mp none_ c member
    rw [digit] at other
    cases other

theorem parseValue_signed (negative : Bool) {cs : List Char} (digits : Digits cs) (fuel : Nat)
    (rest : List Char) :
    parseValue (fuel + 1) (signText negative ++ (cs ++ rest)) =
      parseNumber? negative (cs ++ rest) := by
  obtain ⟨c, ds, rfl, digit⟩ := digits.exists_cons
  obtain ⟨solid, other⟩ := isDigit_head digit
  cases negative with
  | true => simp [signText, parseValue, skipSpaces_cons (show ¬ isSpace '-' by decide)]
  | false =>
    simp only [List.forall_mem_cons] at other
    simp [signText, parseValue, skipSpaces_cons solid, other, digit]

theorem parseValue_number {j : Json} {cs rest : List Char} (text : NumberText j cs) (fuel : Nat)
    (follows : Follows rest) : parseValue (fuel + 1) (cs ++ rest) = some (j, rest) := by
  cases text with
  | integer whole =>
    rw [List.append_assoc, parseValue_signed _ whole.1]
    exact parseNumber?_integer whole follows
  | decimal whole fraction exponent some_ =>
    rw [List.append_assoc, List.append_assoc, List.append_assoc, parseValue_signed _ whole.1]
    exact parseNumber?_decimal whole fraction exponent some_ follows

/-- The first sign of a phrase, behind a gap, closes nothing. -/
def Opens (cs : List Char) : Prop :=
  ∃ gap c more, cs = gap ++ c :: more ∧ IsGap gap ∧ ¬ isSpace c ∧ c ≠ ']' ∧ c ≠ '\x7d'

theorem opens_cons {c : Char} (more : List Char) (solid : ¬ isSpace c)
    (other : c ≠ ']' ∧ c ≠ '\x7d') : Opens (c :: more) :=
  ⟨[], c, more, rfl, nofun, solid, other⟩

theorem Opens.behind {gap cs : List Char} (opens : Opens cs) (isGap : IsGap gap) :
    Opens (gap ++ cs) := by
  obtain ⟨front, c, more, rfl, isFront, solid, other⟩ := opens
  refine ⟨gap ++ front, c, more, by rw [List.append_assoc], fun d member => ?_, solid, other⟩
  exact (List.mem_append.mp member).elim (isGap d) (isFront d)

theorem Opens.append {cs : List Char} (opens : Opens cs) (ds : List Char) : Opens (cs ++ ds) := by
  obtain ⟨front, c, more, rfl, isFront, solid, other⟩ := opens
  exact ⟨front, c, more ++ ds, by simp, isFront, solid, other⟩

theorem Opens.ne_nil {cs : List Char} (opens : Opens cs) : cs ≠ [] := by
  obtain ⟨gap, c, more, rfl, -⟩ := opens
  exact List.append_ne_nil_of_right_ne_nil _ (List.cons_ne_nil _ _)

theorem Digits.opens {cs : List Char} (digits : Digits cs) (negative : Bool) :
    Opens (signText negative ++ cs) := by
  cases negative with
  | true => exact opens_cons cs (by decide) (by decide)
  | false =>
    obtain ⟨c, ds, rfl, digit⟩ := digits.exists_cons
    obtain ⟨solid, other⟩ := isDigit_head digit
    exact opens_cons ds solid ⟨other _ (by simp), other _ (by simp)⟩

theorem NumberText.opens {j : Json} {cs : List Char} (text : NumberText j cs) : Opens cs := by
  cases text with
  | integer whole => exact whole.1.opens _
  | decimal whole =>
    rw [← List.append_assoc]
    exact (whole.1.opens _).append _

theorem Spells.opens {p : Phrase} {cs : List Char} (spells : Spells p cs) : Opens cs := by
  induction spells with
  | null | true_ | false_ => exact opens_cons _ (by decide) (by decide)
  | number text => exact text.opens
  | string text =>
    obtain ⟨pieces, -, rfl⟩ := text
    exact opens_cons _ (by decide) (by decide)
  | emptyArray | array | emptyObject | object => exact opens_cons _ (by decide) (by decide)
  | padded left value right ih => exact (ih.append _).behind left
  | member left text right value ih =>
    obtain ⟨pieces, -, rfl⟩ := text
    exact (opens_cons _ (by decide) (by decide)).behind left
  | lastElement one ih | lastMember one ih => exact ih
  | moreElements one more ih | moreMembers one more ih => exact ih.append _

/-- What a reader makes of the text of a phrase, given at least as much fuel as the text is long. -/
def Reads : Phrase → List Char → Prop
  | .value j, cs => ∀ ⦃fuel rest⦄, cs.length ≤ fuel → Follows rest →
      parseValue fuel (cs ++ rest) = some (j, rest)
  | .padded j, cs => ∀ ⦃fuel rest⦄, cs.length ≤ fuel → Closes rest →
      ∃ after, parseValue fuel (cs ++ rest) = some (j, after) ∧ skipSpaces after = rest
  | .member (name, j), cs => ∀ ⦃fuel rest⦄, cs.length ≤ fuel → Closes rest →
      ∃ text colon value after, skipSpaces (cs ++ rest) = '"' :: text ∧
        parseString (text.length + 1) [] text = some (name, colon) ∧
        skipSpaces colon = ':' :: value ∧ parseValue fuel value = some (j, after) ∧
        skipSpaces after = rest
  | .elements xs, cs => ∀ ⦃fuel rest⦄, cs.length < fuel →
      parseElements fuel (cs ++ ']' :: rest) = some (xs, rest)
  | .members ms, cs => ∀ ⦃fuel rest⦄, cs.length < fuel →
      parseMembers fuel (cs ++ '\x7d' :: rest) = some (ms, rest)

theorem parseValue_empty {gap : List Char} (inside : IsGap gap) (fuel : Nat) (rest : List Char) :
    parseValue (fuel + 1) ('[' :: gap ++ ']' :: rest) = some (.array [], rest) ∧
      parseValue (fuel + 1) ('\x7b' :: gap ++ '\x7d' :: rest) = some (.object [], rest) := by
  have bracket : skipSpaces (']' :: rest) = ']' :: rest := skipSpaces_cons (by decide) rest
  have brace : skipSpaces ('\x7d' :: rest) = '\x7d' :: rest := skipSpaces_cons (by decide) rest
  simp [parseValue, skipSpaces_cons (show ¬ isSpace '[' by decide),
    skipSpaces_cons (show ¬ isSpace '\x7b' by decide), skipSpaces_gap inside, bracket, brace]

theorem Opens.skipSpaces {cs : List Char} (opens : Opens cs) (rest : List Char) :
    ∃ c more, skipSpaces (cs ++ rest) = c :: more ∧ c ≠ ']' ∧ c ≠ '\x7d' := by
  obtain ⟨gap, c, more, rfl, isGap, solid, other⟩ := opens
  refine ⟨c, more ++ rest, ?_, other⟩
  rw [List.append_assoc, skipSpaces_gap isGap, List.cons_append, skipSpaces_cons solid]

theorem parseValue_array {cs rest : List Char} (opens : Opens cs) (fuel : Nat) :
    parseValue (fuel + 1) ('[' :: (cs ++ rest)) =
      (parseElements fuel (cs ++ rest)).map fun (xs, rest) => (.array xs, rest) := by
  obtain ⟨c, more, skipped, other, -⟩ := opens.skipSpaces rest
  rw [← parseElements_skipSpaces, skipped]
  simp [parseValue, skipSpaces_cons (show ¬ isSpace '[' by decide), skipped, other]

theorem parseValue_object {cs rest : List Char} (opens : Opens cs) (fuel : Nat) :
    parseValue (fuel + 1) ('\x7b' :: (cs ++ rest)) =
      (parseMembers fuel (cs ++ rest)).map fun (ms, rest) => (.object ms, rest) := by
  obtain ⟨c, more, skipped, -, other⟩ := opens.skipSpaces rest
  rw [← parseMembers_skipSpaces, skipped]
  simp [parseValue, skipSpaces_cons (show ¬ isSpace '\x7b' by decide), skipped, other]

theorem reads_value {j : Json} {cs : List Char} (some_ : cs ≠ [])
    (read : ∀ fuel rest, cs.length ≤ fuel + 1 → Follows rest →
      parseValue (fuel + 1) (cs ++ rest) = some (j, rest)) : Reads (.value j) cs := by
  intro fuel rest enough follows
  cases fuel with
  | zero => exact absurd (List.eq_nil_of_length_eq_zero (Nat.le_zero.mp enough)) some_
  | succ fuel => exact read fuel rest enough follows

theorem reads_string {s : String} {cs : List Char} (text : StringText s cs) :
    Reads (.value (.string s)) cs := by
  have opens := (Spells.string text).opens
  apply reads_value opens.ne_nil
  intro fuel rest enough follows
  obtain ⟨more, shape, read⟩ := parseString_text text rest
  rw [shape]
  simp [parseValue, skipSpaces_cons (show ¬ isSpace '"' by decide), read]

theorem reads_array {xs : List Json} {cs : List Char} (opens : Opens cs)
    (parts : Reads (.elements xs) cs) : Reads (.value (.array xs)) ('[' :: cs ++ [']']) := by
  refine reads_value (by simp) ?_
  intro fuel rest enough follows
  simp only [List.length_append, List.length_cons, List.length_nil] at enough
  have read := @parts fuel rest (by omega)
  rw [List.append_assoc, List.cons_append, parseValue_array opens]
  simp [read]

theorem reads_object {ms : List (String × Json)} {cs : List Char} (opens : Opens cs)
    (parts : Reads (.members ms) cs) : Reads (.value (.object ms)) ('\x7b' :: cs ++ ['\x7d']) := by
  refine reads_value (by simp) ?_
  intro fuel rest enough follows
  simp only [List.length_append, List.length_cons, List.length_nil] at enough
  have read := @parts fuel rest (by omega)
  rw [List.append_assoc, List.cons_append, parseValue_object opens]
  simp [read]

theorem reads_padded {j : Json} {before cs behind : List Char} (left : IsGap before)
    (value : Reads (.value j) cs) (right : IsGap behind) :
    Reads (.padded j) (before ++ (cs ++ behind)) := by
  intro fuel rest enough closes
  simp only [List.length_append] at enough
  refine ⟨behind ++ rest, ?_, ?_⟩
  · rw [List.append_assoc, List.append_assoc, parseValue_gap left]
    exact value (by omega) (closes.follows right)
  · rw [skipSpaces_gap right, closes.skipSpaces]

theorem reads_member {name : String} {j : Json} {before ns behind cs : List Char}
    (left : IsGap before) (text : StringText name ns) (right : IsGap behind)
    (value : Reads (.padded j) cs) :
    Reads (.member (name, j)) (before ++ (ns ++ (behind ++ ':' :: cs))) := by
  intro fuel rest enough closes
  simp only [List.length_append, List.length_cons] at enough
  obtain ⟨after, read, closed⟩ := @value fuel rest (by omega) closes
  obtain ⟨more, quoted, named⟩ := parseString_text text (behind ++ ':' :: (cs ++ rest))
  refine ⟨more, behind ++ ':' :: (cs ++ rest), cs ++ rest, after, ?_, named, ?_, read, closed⟩
  · have shape : before ++ (ns ++ (behind ++ ':' :: cs)) ++ rest =
        before ++ (ns ++ (behind ++ ':' :: (cs ++ rest))) := by simp
    rw [shape, quoted, skipSpaces_gap left, skipSpaces_cons (by decide)]
  · rw [skipSpaces_gap right, skipSpaces_cons (by decide)]

theorem reads_lastElement {j : Json} {cs : List Char} (one : Reads (.padded j) cs) :
    Reads (.elements [j]) cs := by
  intro fuel rest enough
  cases fuel with
  | zero => cases enough
  | succ fuel =>
    have bracket : Closes (']' :: rest) := closes_cons rest (by decide)
    obtain ⟨after, value, closed⟩ := one (Nat.le_of_lt_succ enough) bracket
    simp [parseElements, value, closed]

theorem reads_moreElements {j : Json} {xs : List Json} {cs ds : List Char}
    (one : Reads (.padded j) cs) (more : Reads (.elements xs) ds) :
    Reads (.elements (j :: xs)) (cs ++ ',' :: ds) := by
  intro fuel rest enough
  simp only [List.length_append, List.length_cons] at enough
  cases fuel with
  | zero => cases enough
  | succ fuel =>
    have others := @more fuel rest (by omega)
    have comma : Closes (',' :: (ds ++ ']' :: rest)) := closes_cons _ (by decide)
    obtain ⟨after, value, closed⟩ := @one fuel _ (by omega) comma
    rw [List.append_assoc, List.cons_append, parseElements, value]
    simp [closed, others]

theorem reads_lastMember {m : String × Json} {cs : List Char} (one : Reads (.member m) cs) :
    Reads (.members [m]) cs := by
  intro fuel rest enough
  obtain ⟨name, j⟩ := m
  cases fuel with
  | zero => cases enough
  | succ fuel =>
    have brace : Closes ('\x7d' :: rest) := closes_cons rest (by decide)
    obtain ⟨text, colon, value, after, quoted, named, behindColon, read, closed⟩ :=
      one (Nat.le_of_lt_succ enough) brace
    simp [parseMembers, quoted, named, behindColon, read, closed]

theorem reads_moreMembers {m : String × Json} {ms : List (String × Json)} {cs ds : List Char}
    (one : Reads (.member m) cs) (more : Reads (.members ms) ds) :
    Reads (.members (m :: ms)) (cs ++ ',' :: ds) := by
  intro fuel rest enough
  obtain ⟨name, j⟩ := m
  simp only [List.length_append, List.length_cons] at enough
  cases fuel with
  | zero => cases enough
  | succ fuel =>
    have others := @more fuel rest (by omega)
    have comma : Closes (',' :: (ds ++ '\x7d' :: rest)) := closes_cons _ (by decide)
    obtain ⟨text, colon, value, after, quoted, named, behindColon, read, closed⟩ :=
      @one fuel _ (by omega) comma
    rw [List.append_assoc, List.cons_append, parseMembers, quoted]
    simp [named, behindColon, read, closed, others]

theorem Spells.reads {p : Phrase} {cs : List Char} (spells : Spells p cs) : Reads p cs := by
  induction spells with
  | null | true_ | false_ =>
    refine reads_value (by simp) ?_
    intro fuel rest enough follows
    simp [parseValue, skipSpaces, isSpace, parseWord?]
  | number text =>
    exact reads_value text.opens.ne_nil fun fuel rest _ follows => parseValue_number text fuel follows
  | string text => exact reads_string text
  | emptyArray inside =>
    refine reads_value (by simp) ?_
    intro fuel rest enough follows
    simpa using (parseValue_empty inside fuel rest).1
  | array parts ih => exact reads_array parts.opens ih
  | emptyObject inside =>
    refine reads_value (by simp) ?_
    intro fuel rest enough follows
    simpa using (parseValue_empty inside fuel rest).2
  | object parts ih => exact reads_object parts.opens ih
  | padded left value right ih => exact reads_padded left ih right
  | member left text right value ih => exact reads_member left text right ih
  | lastElement one ih => exact reads_lastElement ih
  | moreElements one more ihOne ihMore => exact reads_moreElements ihOne ihMore
  | lastMember one ih => exact reads_lastMember ih
  | moreMembers one more ihOne ihMore => exact reads_moreMembers ihOne ihMore

/-- A text stands for no other document than the one that is read from it. -/
theorem parse?_of_documentText {j : Json} {cs : List Char} (text : DocumentText j cs) :
    parse? (String.ofList cs) = some j := by
  have reads : Reads (.padded j) cs := text.reads
  obtain ⟨after, read, closed⟩ := @reads (cs.length + 1) [] (Nat.le_succ _) nofun
  rw [List.append_nil] at read
  simp [parse?, String.toList_ofList, read, closed]

end Value

end PoolLint.Json
