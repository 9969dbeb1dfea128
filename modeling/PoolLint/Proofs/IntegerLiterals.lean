import PoolLint.Proofs.CheckedCalls

/-! The integer literals of the language, said without a reader: digits in one of four bases, with
underscores between them. The settings that are counts are judged by the integers that the language
gives their literals, with their signs. -/
namespace PoolLint.Numeral
open PoolLint.Text

/-- A digit below a base, in either case. -/
structure IsDigit (base : Nat) (c : Char) (d : Nat) : Prop where
  below : d < base
  shown : "0123456789abcdef".toList[d]? = some c ∨ "0123456789ABCDEF".toList[d]? = some c

/-- Digits with single underscores between them, and the number that they stand for. -/
inductive Digits (base : Nat) : List Char → Nat → Prop
  | single {c : Char} {d : Nat} (digit : IsDigit base c d) : Digits base [c] d
  | next {cs : List Char} {c : Char} {n d : Nat} (front : Digits base cs n)
      (digit : IsDigit base c d) : Digits base (cs ++ [c]) (n * base + d)
  | group {cs : List Char} {c : Char} {n d : Nat} (front : Digits base cs n)
      (digit : IsDigit base c d) : Digits base (cs ++ ['_', c]) (n * base + d)

def baseLetters : List (Char × Nat) :=
  [('x', 16), ('X', 16), ('o', 8), ('O', 8), ('b', 2), ('B', 2)]

/-- A decimal literal has at most as many digits as are converted at all. -/
def IsShort (cs : List Char) : Prop := (cs.filter (· != '_')).length ≤ 4300

/-- An integer literal and the number that it stands for. -/
inductive Literal : List Char → Nat → Prop
  | decimal {c : Char} {cs : List Char} {n : Nat} (digits : Digits 10 (c :: cs) n)
      (first : c ≠ '0') (short : IsShort (c :: cs)) : Literal (c :: cs) n
  | zeros {cs : List Char} {n : Nat} (digits : Digits 10 cs n)
      (zeros : ∀ c ∈ cs, c = '0' ∨ c = '_') (short : IsShort cs) : Literal cs n
  | based {letter : Char} {base : Nat} {cs : List Char} {n : Nat}
      (shown : (letter, base) ∈ baseLetters) (digits : Digits base cs n) :
      Literal ('0' :: letter :: cs) n
  | spaced {letter : Char} {base : Nat} {cs : List Char} {n : Nat}
      (shown : (letter, base) ∈ baseLetters) (digits : Digits base cs n) :
      Literal ('0' :: letter :: '_' :: cs) n

/-- An integer literal of any length, the base that it shows and the number it stands for. -/
inductive Token : Nat → List Char → Nat → Prop
  | decimal {c : Char} {cs : List Char} {n : Nat} (digits : Digits 10 (c :: cs) n)
      (first : c ≠ '0') : Token 10 (c :: cs) n
  | zeros {cs : List Char} {n : Nat} (digits : Digits 10 cs n)
      (zeros : ∀ c ∈ cs, c = '0' ∨ c = '_') : Token 10 cs n
  | based {letter : Char} {base : Nat} {cs : List Char} {n : Nat}
      (shown : (letter, base) ∈ baseLetters) (digits : Digits base cs n) :
      Token base ('0' :: letter :: cs) n
  | spaced {letter : Char} {base : Nat} {cs : List Char} {n : Nat}
      (shown : (letter, base) ∈ baseLetters) (digits : Digits base cs n) :
      Token base ('0' :: letter :: '_' :: cs) n

theorem Literal.token {cs : List Char} {n : Nat} (literal : Literal cs n) :
    ∃ base, Token base cs n := by
  cases literal with
  | decimal digits first => exact ⟨_, .decimal digits first⟩
  | zeros digits zeros => exact ⟨_, .zeros digits zeros⟩
  | based shown digits => exact ⟨_, .based shown digits⟩
  | spaced shown digits => exact ⟨_, .spaced shown digits⟩

section Reading

variable {base : Nat} {c : Char} {cs : List Char} {d n : Nat}

theorem IsDigit.mem (digit : IsDigit base c d) :
    (c, d) ∈ "0123456789abcdef".toList.zipIdx ++ "0123456789ABCDEF".toList.zipIdx := by
  rw [List.mem_append, List.mk_mem_zipIdx_iff_getElem?, List.mk_mem_zipIdx_iff_getElem?]
  exact digit.shown

theorem IsDigit.digitValue? (digit : IsDigit base c d) : digitValue? c = some d := by
  have all : ∀ p ∈ "0123456789abcdef".toList.zipIdx ++ "0123456789ABCDEF".toList.zipIdx,
      Text.digitValue? p.1 = some p.2 := by decide
  exact all _ digit.mem

theorem IsDigit.isDigitOf (digit : IsDigit base c d) : isDigitOf base c = true := by
  simp [Text.isDigitOf, digit.digitValue?, digit.below]

theorem IsDigit.ne_underscore (digit : IsDigit base c d) : c ≠ '_' := by
  rintro rfl
  cases digit.digitValue?

/-- Behind a run of digits that ends where its text does, a run goes on from the last character. -/
theorem digitRun?_append {previous : Char} {xs : List Char} (ds : List Char)
    (run : digitRun? base previous cs = some (xs, [])) :
    digitRun? base previous (cs ++ ds) =
      (digitRun? base (cs.getLastD previous) ds).map fun (ys, rest) => (xs ++ ys, rest) := by
  induction cs generalizing previous xs with
  | nil =>
    rw [digitRun?] at run
    split at run
    · cases run
    · cases run
      simp
  | cons c cs ih =>
    rw [digitRun?] at run
    rw [List.cons_append, digitRun?, List.getLastD_cons]
    split at run
    · rename_i underscore
      rw [if_pos underscore]
      split at run
      · cases run
      · rename_i single
        rw [if_neg single]
        exact ih run
    · rename_i other
      rw [if_neg other]
      split at run
      · rename_i digit
        obtain ⟨⟨ys, rest⟩, inner, same⟩ := Option.map_eq_some_iff.mp run
        cases same
        rw [if_pos digit, ih inner, Option.map_map]
        rfl
      · split at run
        · cases run
        · cases run

theorem digitRun?_single (digit : IsDigit base c d) (previous : Char) :
    digitRun? base previous [c] = some ([c], []) := by
  simp [Numeral.digitRun?, digit.ne_underscore, digit.isDigitOf]

/-- Digits are read to the end, and the last one is no underscore. -/
theorem Digits.digitRun? (digits : Digits base cs n) (previous : Char) :
    digitRun? base previous cs = some (cs.filter (· != '_'), []) ∧
      cs.getLastD previous ≠ '_' := by
  induction digits with
  | single digit =>
    rw [digitRun?_single digit]
    simp [digit.ne_underscore]
  | next front digit ih =>
    rw [digitRun?_append _ ih.1, digitRun?_single digit]
    simp [digit.ne_underscore]
  | group front digit ih =>
    -- the underscore stands behind a digit
    rw [digitRun?_append _ ih.1, Numeral.digitRun?, if_pos (by rfl), if_neg (by simpa using ih.2),
      digitRun?_single digit]
    simp [digit.ne_underscore]

theorem digitsValue_concat (digit : IsDigit base c d) (cs : List Char) :
    Text.digitsValue base (cs ++ [c]) = Text.digitsValue base cs * base + d := by
  simp [Text.digitsValue, digit.digitValue?]

theorem Digits.digitsValue (digits : Digits base cs n) :
    digitsValue base (cs.filter (· != '_')) = n := by
  induction digits with
  | single digit => simp [Text.digitsValue, digit.ne_underscore, digit.digitValue?]
  | next front digit ih => simp [digitsValue_concat digit, digit.ne_underscore, ih]
  | group front digit ih => simp [digitsValue_concat digit, digit.ne_underscore, ih]

theorem Digits.head (digits : Digits base cs n) :
    ∃ c d rest, cs = c :: rest ∧ IsDigit base c d := by
  induction digits with
  | single digit => exact ⟨_, _, _, rfl, digit⟩
  | next front digit ih =>
    obtain ⟨c, d, rest, rfl, first⟩ := ih
    exact ⟨c, d, _, List.cons_append, first⟩
  | group front digit ih =>
    obtain ⟨c, d, rest, rfl, first⟩ := ih
    exact ⟨c, d, _, List.cons_append, first⟩

theorem Digits.magnitude (digits : Digits base cs n) (onlyZero : Bool)
    (short : base = 10 → IsShort cs) (fits : onlyZero = true → n = 0) :
    magnitude base onlyZero cs = .ok n := by
  have limit : ¬ (base = 10 ∧ digitLimit < (cs.filter (· != '_')).length) := by
    rintro ⟨decimal, long⟩
    exact absurd (short decimal) (Nat.not_le_of_lt long)
  have some_ : (cs.filter (· != '_')).isEmpty = false := by
    obtain ⟨c, d, rest, rfl, first⟩ := digits.head
    simp [first.ne_underscore]
  have zero : ¬ (onlyZero = true ∧ n ≠ 0) := fun both => both.2 (fits both.1)
  unfold Numeral.magnitude
  split
  · rename_i rest
    obtain ⟨c, d, rest', same, first⟩ := digits.head
    exact absurd (List.cons.inj same).1.symm first.ne_underscore
  · rw [(digits.digitRun? ' ').1]
    simp [limit, some_, digits.digitsValue, zero]

theorem Digits.eq_zero (digits : Digits base cs n) (zeros : ∀ c ∈ cs, c = '0' ∨ c = '_') :
    n = 0 := by
  have zero {c : Char} {d : Nat} (digit : IsDigit base c d) (either : c = '0' ∨ c = '_') :
      d = 0 := by
    obtain rfl := either.resolve_right digit.ne_underscore
    exact (Option.some.inj digit.digitValue?).symm
  induction digits with
  | single digit => exact zero digit (zeros _ (by simp))
  | next front digit ih =>
    rw [ih fun c member => zeros c (by simp [member]), zero digit (zeros _ (by simp))]
    exact Nat.zero_mul _
  | group front digit ih =>
    rw [ih fun c member => zeros c (by simp [member]), zero digit (zeros _ (by simp))]
    exact Nat.zero_mul _

theorem baseLetters_ne_ten {letter : Char} (shown : (letter, base) ∈ baseLetters) : base ≠ 10 := by
  have apart : ∀ p ∈ baseLetters, p.2 ≠ 10 := by decide
  exact apart _ shown

theorem shownBase_letter {letter : Char} (shown : (letter, base) ∈ baseLetters)
    (digits : Digits base cs n) :
    shownBase ('0' :: letter :: cs) = (base, false, cs) ∧
      shownBase ('0' :: letter :: '_' :: cs) = (base, false, cs) := by
  obtain ⟨c, d, rest, rfl, first⟩ := digits.head
  have known : ∀ p ∈ baseLetters, shownBase ('0' :: p.1 :: c :: rest) = (p.2, false, c :: rest) ∧
      shownBase ('0' :: p.1 :: '_' :: c :: rest) = (p.2, false, c :: rest) := by
    simp [baseLetters, shownBase, first.ne_underscore]
  exact known _ shown

/-- The base that a literal shows, and its digits in that base. -/
theorem Literal.shown (literal : Literal cs n) : ∃ base onlyZero ds,
    shownBase cs = (base, onlyZero, ds) ∧ Numeral.magnitude base onlyZero ds = .ok n := by
  cases literal with
  | @decimal c cs n digits first short =>
    refine ⟨10, false, c :: cs, ?_, digits.magnitude false (fun _ => short) (by simp)⟩
    unfold shownBase
    split
    · rename_i same
      exact absurd (List.cons.inj same).1 first
    · rename_i same
      exact absurd (List.cons.inj same).1 first
    · rfl
  | zeros digits zeros short =>
    refine ⟨10, true, cs, ?_, digits.magnitude true (fun _ => short) fun _ => digits.eq_zero zeros⟩
    obtain ⟨c, d, rest, rfl, first⟩ := digits.head
    obtain rfl := (zeros c (by simp)).resolve_right first.ne_underscore
    cases rest with
    | nil => rfl
    | cons c rest => rcases zeros c (by simp) with rfl | rfl <;> rfl
  | based shown digits =>
    have notTen := baseLetters_ne_ten shown
    exact ⟨_, false, _, (shownBase_letter shown digits).1,
      digits.magnitude false (fun ten => absurd ten notTen) (by simp)⟩
  | spaced shown digits =>
    have notTen := baseLetters_ne_ten shown
    exact ⟨_, false, _, (shownBase_letter shown digits).2,
      digits.magnitude false (fun ten => absurd ten notTen) (by simp)⟩

def literalChars : List Char := "0123456789abcdefABCDEF_xXoObB+-".toList

def OfLiteral (cs : List Char) : Prop := ∀ c ∈ cs, c ∈ literalChars

theorem IsDigit.ofLiteral (digit : IsDigit base c d) : c ∈ literalChars := by
  have all : ∀ p ∈ "0123456789abcdef".toList.zipIdx ++ "0123456789ABCDEF".toList.zipIdx,
      p.1 ∈ literalChars := by decide
  exact all _ digit.mem

theorem Digits.ofLiteral (digits : Digits base cs n) : OfLiteral cs := by
  have underscore : '_' ∈ literalChars := by decide
  induction digits with
  | single digit => simpa [OfLiteral] using digit.ofLiteral
  | next front digit ih => simpa [OfLiteral, or_imp, forall_and] using ⟨ih, digit.ofLiteral⟩
  | group front digit ih =>
    simpa [OfLiteral, or_imp, forall_and] using ⟨ih, underscore, digit.ofLiteral⟩

theorem Token.ofLiteral (token : Token base cs n) : OfLiteral cs := by
  have zero : '0' ∈ literalChars := by decide
  have underscore : '_' ∈ literalChars := by decide
  have letters : ∀ p ∈ baseLetters, p.1 ∈ literalChars := by decide
  cases token with
  | decimal digits => exact digits.ofLiteral
  | zeros digits => exact digits.ofLiteral
  | based shown digits =>
    exact List.forall_mem_cons.mpr ⟨zero, List.forall_mem_cons.mpr ⟨letters _ shown, digits.ofLiteral⟩⟩
  | spaced shown digits =>
    exact List.forall_mem_cons.mpr ⟨zero, List.forall_mem_cons.mpr ⟨letters _ shown,
      List.forall_mem_cons.mpr ⟨underscore, digits.ofLiteral⟩⟩⟩

def decimalDigits : List Char := "0123456789".toList

theorem IsDigit.mem_decimalDigits (digit : IsDigit 10 c d) : c ∈ decimalDigits := by
  have all : ∀ p ∈ "0123456789abcdef".toList.zipIdx ++ "0123456789ABCDEF".toList.zipIdx,
      p.2 < 10 → p.1 ∈ decimalDigits := by decide
  exact all _ digit.mem digit.below

theorem Token.head (token : Token base cs n) : ∃ c ∈ decimalDigits, ∃ rest, cs = c :: rest := by
  have zero : '0' ∈ decimalDigits := by decide
  cases token with
  | decimal digits =>
    obtain ⟨c, d, rest, same, digit⟩ := digits.head
    exact ⟨c, digit.mem_decimalDigits, rest, same⟩
  | zeros digits =>
    obtain ⟨c, d, rest, same, digit⟩ := digits.head
    exact ⟨c, digit.mem_decimalDigits, rest, same⟩
  | based => exact ⟨_, zero, _, rfl⟩
  | spaced => exact ⟨_, zero, _, rfl⟩

theorem splitSign_unsigned (digit : c ∈ decimalDigits) (cs : List Char) :
    splitSign (c :: cs) = (false, c :: cs) := by
  unfold splitSign
  split
  · rename_i same
    rw [(List.cons.inj same).1] at digit
    exact absurd digit (by decide)
  · rename_i same
    rw [(List.cons.inj same).1] at digit
    exact absurd digit (by decide)
  · rfl

theorem Token.splitSign (token : Token base cs n) : splitSign cs = (false, cs) := by
  obtain ⟨c, digit, rest, rfl⟩ := token.head
  exact splitSign_unsigned digit rest

theorem readable_ofLiteral {s : String} (chars : OfLiteral s.toList) : readable s = s.toList := by
  have ascii : allAscii s.toList = true := by
    have all : literalChars.all (fun c => decide (c.toNat < 128)) = true := by decide
    rw [List.all_eq_true] at all
    simpa [allAscii] using fun c member => all c (chars c member)
  rw [readable, if_pos ascii]

theorem OfLiteral.noBlank (chars : OfLiteral cs) : ∀ c ∈ cs, isAsciiBlank c = false := by
  have black : literalChars.all (fun c => !isAsciiBlank c) = true := by decide
  rw [List.all_eq_true] at black
  intro c member
  simpa using black c (chars c member)

/-- A literal behind a sign, or without one, is read as the integer that it stands for. -/
theorem Literal.read (literal : Literal cs n) {s : String} {negative : Bool}
    (chars : OfLiteral s.toList) (split : Numeral.splitSign s.toList = (negative, cs)) :
    readIntegerLiteral s = .ok (if negative then -(n : Int) else n) := by
  obtain ⟨base, onlyZero, ds, shown, magnitude⟩ := literal.shown
  have behindBlanks : s.toList.dropWhile isAsciiBlank = s.toList :=
    dropWhile_eq_self chars.noBlank
  simp [readIntegerLiteral, readable_ofLiteral chars, behindBlanks, split, shown, magnitude, bind,
    Except.bind, pure, Except.pure]

end Reading

end PoolLint.Numeral

namespace PoolLint.PoolCheck
open Numeral

theorem plainToken_ofLiteral {s : String} (chars : OfLiteral s.toList) : plainToken s = s := by
  have all : literalChars.all (fun c =>
      !Text.isBlank c && !(c == '"' || c == '\'' || c == '\n')) = true := by decide
  have plain (c : Char) (member : c ∈ s.toList) := (Bool.and_eq_true _ _).mp
    (List.all_eq_true.mp all c (chars c member))
  have trimmed : Text.trim s.toList = s.toList :=
    Text.trimWhere_eq_self fun c member => by simpa using (plain c member).1
  have kept := List.filter_eq_self.mpr fun c member => (plain c member).2
  rw [plainToken, plainChars, trimmed, kept, String.ofList_toList]

/-- The settings that are counts, and the least that each may be. -/
inductive IsCount : PoolKey → Int → Prop
  | openConnections : IsCount .maxOpenConnections 1
  | idleConnections : IsCount .minIdleConnections 0

/-- A literal with a sign or without one: whether it is negated, and what stands behind the sign. -/
inductive Signed : Expr → Bool → List Char → Prop
  | plain (kind : LiteralKind) (text : String) (place : Location) :
      Signed (.literal kind text place) false text.toList
  | plus (kind : LiteralKind) (text whole : String) (inner place : Location) :
      Signed (.unary "+" (.literal kind text inner) whole place) false text.toList
  | minus (kind : LiteralKind) (text whole : String) (inner place : Location) :
      Signed (.unary "-" (.literal kind text inner) whole place) true text.toList

/-- The text that a value is read from is the number with its sign, whatever base it shows. -/
theorem Signed.literalText {value : Expr} {negative : Bool} {cs : List Char} {base n : Nat}
    (signed : Signed value negative cs) (token : Token base cs n) (default : String) :
    OfLiteral (literalText default value).toList ∧
      splitSign (literalText default value).toList = (negative, cs) := by
  have chars := token.ofLiteral
  cases signed with
  | plain =>
    rw [PoolCheck.literalText, plainToken_ofLiteral chars]
    exact ⟨chars, token.splitSign⟩
  | plus kind text =>
    have withSign : OfLiteral ("+" ++ text).toList := by
      simpa [OfLiteral] using ⟨by decide, chars⟩
    rw [PoolCheck.literalText, plainToken_ofLiteral withSign]
    exact ⟨withSign, by simp [splitSign]⟩
  | minus kind text =>
    have withSign : OfLiteral ("-" ++ text).toList := by
      simpa [OfLiteral] using ⟨by decide, chars⟩
    rw [PoolCheck.literalText, plainToken_ofLiteral withSign]
    exact ⟨withSign, by simp [splitSign]⟩

/-- An integer literal with a sign or without one, and the integer that it stands for. -/
inductive Denotes : Expr → Int → Prop
  | plain {text : String} {n : Nat} (literal : Literal text.toList n) (kind : LiteralKind)
      (place : Location) : Denotes (.literal kind text place) n
  | plus {text : String} {n : Nat} (literal : Literal text.toList n) (kind : LiteralKind)
      (whole : String) (inner place : Location) :
      Denotes (.unary "+" (.literal kind text inner) whole place) n
  | minus {text : String} {n : Nat} (literal : Literal text.toList n) (kind : LiteralKind)
      (whole : String) (inner place : Location) :
      Denotes (.unary "-" (.literal kind text inner) whole place) (-n)

theorem Denotes.signed {value : Expr} {v : Int} (denotes : Denotes value v) :
    ∃ negative cs n, Signed value negative cs ∧ Literal cs n ∧
      v = if negative then -(n : Int) else n := by
  cases denotes with
  | plain literal => exact ⟨_, _, _, .plain .., literal, rfl⟩
  | plus literal => exact ⟨_, _, _, .plus .., literal, rfl⟩
  | minus literal => exact ⟨_, _, _, .minus .., literal, rfl⟩

/-- The text of an integer literal is read as the integer that it stands for. -/
theorem Denotes.read {value : Expr} {v : Int} (denotes : Denotes value v) (default : String) :
    readIntegerLiteral (literalText default value) = .ok v := by
  obtain ⟨negative, cs, n, signed, literal, rfl⟩ := denotes.signed
  obtain ⟨base, token⟩ := literal.token
  obtain ⟨chars, split⟩ := signed.literalText token default
  exact literal.read chars split

/-- A count that is written as an integer literal is reported exactly if the integer is below the
least one allowed, and the literal is never found unreadable. -/
theorem count_judged_by_value (key : PoolKey) (minimum : Int) (count : IsCount key minimum)
    (value : Expr) (v : Int) (denotes : Denotes value v) (default : String) (place : Location) :
    checkValue key (literalText default value) place =
      ⟨[], if v < minimum then [Diagnostic.of (PoolRule.of key).finding place] else []⟩ := by
  have read : Number.read? .integer (literalText default value) = some (.integer v) := by
    rw [Number.read?, denotes.read]
    rfl
  obtain ⟨kind, least⟩ : (PoolRule.of key).kind = .integer ∧
      ((PoolRule.of key).minimum : Int) = minimum := by
    cases count <;> exact ⟨rfl, rfl⟩
  simp only [checkValue, kind, read, Number.atLeast, least]
  by_cases low : v < minimum
  · rw [if_neg (by simpa using low), if_pos low]
  · rw [if_pos (by simpa using low), if_neg low]
    rfl

/-- `-0X_1f`, which is below every count. -/
def negativeHexadecimal : Expr :=
  .unary "-" (.literal .integer "0X_1f" default) "-0X_1f" default

theorem negativeHexadecimal_reported :
    IsCount .minIdleConnections 0 ∧ Denotes negativeHexadecimal (-31) ∧
      checkValue .minIdleConnections (literalText "0" negativeHexadecimal) default =
        ⟨[], [Diagnostic.of .tooFewIdleConnections default]⟩ := by
  have one : IsDigit 16 '1' 1 := ⟨by decide, by decide⟩
  have fifteen : IsDigit 16 'f' 15 := ⟨by decide, by decide⟩
  have literal : Literal "0X_1f".toList 31 :=
    @Literal.spaced 'X' 16 _ _ (by decide) (.next (.single one) fifteen)
  have denotes : Denotes negativeHexadecimal (-31) := .minus literal .integer _ _ _
  exact ⟨.idleConnections, denotes,
    count_judged_by_value .minIdleConnections 0 .idleConnections _ _ denotes "0" default⟩

end PoolLint.PoolCheck
