import Mathlib.Algebra.Ring.Nat
import Mathlib.Data.List.TakeWhile
import PoolLint.Proofs.IntegerLiterals
import PoolLint.Proofs.ScannedTrees

/-! The least life time, which is read in floating point notation. An integer literal without a base
is judged by its integer there as well, whatever its length, though it may be rounded on the way. One
that shows a base is no number in that notation and is passed over. -/
namespace PoolLint

namespace Binary64

/-- The number of least steps between doubles that make up one. -/
def unitsOfOne : Nat := 2 ^ (-leastExponent).toNat

theorem unitsOfOne_pos : 0 < unitsOfOne := Nat.two_pow_pos _

theorem integerUnits_eq (n : Int) : integerUnits n = n * unitsOfOne := by
  rw [integerUnits, unitsOfOne, Nat.pow_eq]

theorem roundQuotient_one (n : Nat) : roundQuotient n 1 = n := by
  simp [roundQuotient, Nat.mod_one]

theorem div_le_roundQuotient (n d : Nat) : n / d ≤ roundQuotient n d := by
  simp only [roundQuotient]
  split
  · exact Nat.le_refl _
  · split
    · exact Nat.le_succ _
    · split
      · exact Nat.le_refl _
      · exact Nat.le_succ _

/-- An integer is scaled from the bits that it has to 53 of them. -/
theorem exponentFor_one {n : Nat} (positive : n ≠ 0) : exponentFor n 1 = (n.log2 : Int) - 52 := by
  have least : 2 ^ n.log2 ≤ n := Nat.log2_self_le positive
  have notTooLarge : ¬ (if 0 ≤ (n.log2 : Int) - 52
      then decide (n < 1 * Nat.pow 2 ((n.log2 : Int) - 52).toNat * Nat.pow 2 52)
      else decide (n * Nat.pow 2 (-((n.log2 : Int) - 52)).toNat < 1 * Nat.pow 2 52)) = true := by
    split
    · rename_i wide
      have width : ((n.log2 : Int) - 52).toNat + 52 = n.log2 := by omega
      simp only [Nat.pow_eq, Nat.one_mul, ← Nat.pow_add, width, decide_eq_true_eq]
      exact Nat.not_lt.mpr least
    · rename_i narrow
      have width : n.log2 + (-((n.log2 : Int) - 52)).toNat = 52 := by omega
      have scaled := Nat.mul_le_mul_right (2 ^ (-((n.log2 : Int) - 52)).toNat) least
      rw [← Nat.pow_add, width] at scaled
      simpa only [Nat.pow_eq, Nat.one_mul, decide_eq_true_eq] using Nat.not_lt.mpr scaled
  have logOne : Nat.log2 1 = 0 := by decide
  simp only [exponentFor, logOne, Int.natCast_zero, Int.sub_zero, if_neg notTooLarge, leastExponent]
  omega

/-- A finite double is at least a positive integer if it has no minus and its magnitude is. -/
theorem atLeast_finite (negative : Bool) (mantissa : Nat) (exponent : Int) {k : Nat}
    (positive : 0 < k) : (finite negative mantissa exponent).atLeast k =
      (!negative && decide (k * unitsOfOne ≤ mantissa * 2 ^ (exponent - leastExponent).toNat)) := by
  have aboveZero : 0 < k * unitsOfOne := Nat.mul_pos positive unitsOfOne_pos
  have inUnits : integerUnits k = ((k * unitsOfOne : Nat) : Int) := by
    rw [integerUnits_eq, Int.natCast_mul]
  generalize scaled : mantissa * 2 ^ (exponent - leastExponent).toNat = magnitude
  have signed : units negative mantissa exponent = if negative then -(magnitude : Int) else magnitude := by
    rw [units, Nat.pow_eq, scaled]
  rw [atLeast, inUnits, signed]
  cases negative with
  | true =>
    have below : ¬ ((k * unitsOfOne : Nat) : Int) ≤ -(magnitude : Int) := by omega
    simp only [if_true, below, decide_false, Bool.not_true, Bool.false_and]
  | false => simp only [Bool.false_eq_true, if_false, Int.ofNat_le, Bool.not_false, Bool.true_and]

/-- An integer of at most 52 bits is a double itself. -/
theorem ofQuotient_one_narrow (negative : Bool) {n : Nat} (positive : n ≠ 0) (narrow : n.log2 < 52) :
    ofQuotient negative n 1 =
      .finite negative (n * 2 ^ (52 - n.log2)) ((n.log2 : Int) - 52) := by
  have below : ¬ 0 ≤ (n.log2 : Int) - 52 := by omega
  have shift : (-((n.log2 : Int) - 52)).toNat = 52 - n.log2 := by omega
  have mantissa : scaledQuotient n 1 ((n.log2 : Int) - 52) = n * 2 ^ (52 - n.log2) := by
    rw [scaledQuotient, if_neg below, shift, Nat.pow_eq, roundQuotient_one]
  have fits : n * 2 ^ (52 - n.log2) < 2 ^ 53 := by
    have scaled := Nat.mul_lt_mul_of_pos_right (Nat.lt_log2_self (n := n))
      (Nat.two_pow_pos (52 - n.log2))
    have width : n.log2 + 1 + (52 - n.log2) = 53 := by omega
    rwa [← Nat.pow_add, width] at scaled
  have noCarry : ¬ n * 2 ^ (52 - n.log2) = Nat.pow 2 53 := by
    rw [Nat.pow_eq]
    exact Nat.ne_of_lt fits
  have inRange : ¬ 971 < (n.log2 : Int) - 52 := by omega
  simp only [ofQuotient, beq_iff_eq, if_neg positive, exponentFor_one positive, mantissa,
    if_neg noCarry, if_neg inRange]

/-- A larger integer becomes a double of at least `2 ^ 52`, or an infinite one. -/
theorem ofQuotient_one_wide (negative : Bool) {n : Nat} (positive : n ≠ 0) (wide : 52 ≤ n.log2) :
    ofQuotient negative n 1 = .infinite negative ∨ ∃ mantissa exponent,
      ofQuotient negative n 1 = .finite negative mantissa exponent ∧
        2 ^ 52 ≤ mantissa ∧ 0 ≤ exponent := by
  have notBelow : 0 ≤ (n.log2 : Int) - 52 := by omega
  have shift : ((n.log2 : Int) - 52).toNat = n.log2 - 52 := by omega
  have full : 2 ^ 52 ≤ scaledQuotient n 1 ((n.log2 : Int) - 52) := by
    rw [scaledQuotient, if_pos notBelow, shift, Nat.pow_eq, Nat.one_mul]
    refine Nat.le_trans ?_ (div_le_roundQuotient n _)
    rw [Nat.le_div_iff_mul_le (Nat.two_pow_pos _), ← Nat.pow_add, Nat.add_sub_cancel' wide]
    exact Nat.log2_self_le positive
  simp only [ofQuotient, beq_iff_eq, if_neg positive, exponentFor_one positive]
  generalize scaledQuotient n 1 ((n.log2 : Int) - 52) = mantissa at full
  -- a mantissa that was rounded up to one more bit is halved
  by_cases carry : mantissa = Nat.pow 2 53
  · simp only [carry, if_true]
    split
    · exact .inl rfl
    · exact .inr ⟨_, _, rfl, Nat.le_refl _, by omega⟩
  · simp only [carry, if_false]
    split
    · exact .inl rfl
    · exact .inr ⟨_, _, rfl, full, notBelow⟩

/-- The double nearest to an integer with a sign is at least a small positive integer exactly if
there is no minus and the integer is. -/
theorem ofQuotient_one_atLeast (negative : Bool) (n : Nat) {k : Nat} (positive : 0 < k)
    (small : k ≤ 2 ^ 52) :
    (ofQuotient negative n 1).atLeast k = (!negative && decide (k ≤ n)) := by
  by_cases zero : n = 0
  · subst zero
    have none_ : ¬ k * unitsOfOne ≤ 0 * 2 ^ (leastExponent - leastExponent).toNat := by
      rw [Nat.zero_mul]
      exact Nat.not_le_of_lt (Nat.mul_pos positive unitsOfOne_pos)
    have below : ¬ k ≤ 0 := Nat.not_le_of_lt positive
    simp only [ofQuotient, beq_self_eq_true, if_true, atLeast_finite _ _ _ positive, none_, below]
  by_cases narrow : n.log2 < 52
  · have value : n * 2 ^ (52 - n.log2) * 2 ^ ((n.log2 : Int) - 52 - leastExponent).toNat =
        n * unitsOfOne := by
      have width : 52 - n.log2 + ((n.log2 : Int) - 52 - leastExponent).toNat =
          (-leastExponent).toNat := by
        rw [leastExponent]
        omega
      rw [Nat.mul_assoc, ← Nat.pow_add, width, unitsOfOne]
    rw [ofQuotient_one_narrow negative zero narrow, atLeast_finite _ _ _ positive, value]
    simp only [Nat.mul_le_mul_right_iff unitsOfOne_pos]
  · have wide : 52 ≤ n.log2 := Nat.le_of_not_lt narrow
    have large : k ≤ n := calc
      k ≤ 2 ^ 52 := small
      _ ≤ 2 ^ n.log2 := Nat.pow_le_pow_right (by decide) wide
      _ ≤ n := Nat.log2_self_le zero
    rcases ofQuotient_one_wide negative zero wide with infinite | ⟨mantissa, exponent, finite_, full, up⟩
    · simp only [infinite, atLeast, large, decide_true, Bool.and_true]
    · have steps : unitsOfOne ≤ 2 ^ (exponent - leastExponent).toNat :=
        Nat.pow_le_pow_right (by decide) (by omega)
      have reached := Nat.mul_le_mul (Nat.le_trans small full) steps
      simp only [finite_, atLeast_finite _ _ _ positive, reached, large]

theorem ofDecimal_integer (negative : Bool) (n : Nat) :
    ofDecimal negative n 0 = ofQuotient negative n 1 := by
  have inRange : ¬ (n.log2 : Int) + 3 * 0 < -1400 := by omega
  by_cases zero : n = 0
  · simp only [ofDecimal, ofQuotient, zero, beq_self_eq_true, if_true]
  · simp only [ofDecimal, beq_iff_eq, if_neg zero, if_neg inRange]
    simp

end Binary64

namespace Numeral
open Text

section Reading

variable {base n d : Nat} {c previous : Char} {cs xs : List Char}

theorem isDigit_of_decimal (digit : c ∈ decimalDigits) : c.isDigit = true := by
  have all : decimalDigits.all Char.isDigit = true := by decide
  exact List.all_eq_true.mp all c digit

theorem IsDigit.isDigit (digit : IsDigit 10 c d) : c.isDigit = true :=
  isDigit_of_decimal digit.mem_decimalDigits

theorem joinGroups?_append (ds : List Char) (joined : joinGroups? previous cs = some xs) :
    joinGroups? previous (cs ++ ds) =
      (joinGroups? (cs.getLastD previous) ds).map (xs ++ ·) := by
  induction cs generalizing previous xs with
  | nil =>
    rw [joinGroups?] at joined
    split at joined
    · cases joined
    · cases joined
      simp
  | cons c cs ih =>
    rw [joinGroups?] at joined
    rw [List.cons_append, joinGroups?, List.getLastD_cons]
    split at joined
    · rename_i underscore
      rw [if_pos underscore]
      split at joined
      · rename_i behindDigit
        rw [if_pos behindDigit]
        exact ih joined
      · cases joined
    · rename_i other
      rw [if_neg other]
      split at joined
      · cases joined
      · rename_i follows
        rw [if_neg follows]
        obtain ⟨ys, inner, rfl⟩ := Option.map_eq_some_iff.mp joined
        rw [ih inner, Option.map_map]
        rfl

/-- A character that is no underscore goes into the joined text, unless an underscore before it
asked for a digit. -/
theorem joinGroups?_cons (notUnderscore : c ≠ '_') (follows : previous = '_' → c.isDigit = true) :
    joinGroups? previous (c :: cs) = (joinGroups? c cs).map (c :: ·) := by
  have allowed : ¬ (previous == '_' && !c.isDigit) = true := by
    simpa using follows
  rw [joinGroups?, if_neg (by simpa using notUnderscore), if_neg allowed]

theorem joinGroups?_single (digit : IsDigit 10 c d) (previous : Char) :
    joinGroups? previous [c] = some [c] := by
  rw [joinGroups?_cons digit.ne_underscore fun _ => digit.isDigit]
  simp [joinGroups?, digit.ne_underscore]

theorem Digits.joinGroups? (digits : Digits 10 cs n) (previous : Char) :
    Numeral.joinGroups? previous cs = some (cs.filter (· != '_')) ∧
      (cs.getLastD previous).isDigit = true := by
  induction digits with
  | single digit =>
    rw [joinGroups?_single digit]
    simp [digit.ne_underscore, digit.isDigit]
  | next front digit ih =>
    rw [joinGroups?_append _ ih.1, joinGroups?_single digit]
    simp [digit.ne_underscore, digit.isDigit]
  | group front digit ih =>
    -- the underscore stands behind a digit
    rw [joinGroups?_append _ ih.1, Numeral.joinGroups?, if_pos (by rfl), if_pos ih.2,
      joinGroups?_single digit]
    simp [digit.ne_underscore, digit.isDigit]

theorem Digits.isDigit (digits : Digits 10 cs n) : ∀ c ∈ cs, c ≠ '_' → c.isDigit = true := by
  induction digits with
  | single digit => simpa using fun _ => digit.isDigit
  | next front digit ih =>
    simpa [or_imp, forall_and] using ⟨ih, fun _ => digit.isDigit⟩
  | group front digit ih =>
    simpa [or_imp, forall_and] using ⟨ih, fun _ => digit.isDigit⟩

/-- A text that starts with a digit is none of the words for values without digits. -/
theorem specialValue?_digit (negative : Bool) (digit : c ∈ decimalDigits) :
    specialValue? negative (c :: cs) = none := by
  have apart : decimalDigits.all (fun c => c.toLower != 'i' && c.toLower != 'n') = true := by decide
  have other {word : String} {first : Char} (starts : word.toList.head? = some first)
      (different : c.toLower ≠ first) :
      (String.ofList ((c :: cs).map Char.toLower) == word) = false := by
    rw [beq_eq_false_iff_ne]
    rintro rfl
    rw [String.toList_ofList] at starts
    exact different (Option.some.inj starts)
  obtain ⟨notI, notN⟩ : c.toLower ≠ 'i' ∧ c.toLower ≠ 'n' := by
    simpa using List.all_eq_true.mp apart c digit
  have inf := @other "inf" 'i' (by decide) notI
  have infinity := @other "infinity" 'i' (by decide) notI
  have nan := @other "nan" 'n' (by decide) notN
  simp only [specialValue?, inf, infinity, nan, Bool.or_false, Bool.false_eq_true, if_false]

theorem unsignedDecimal?_digits (negative : Bool) (some_ : cs ≠ [])
    (digits : ∀ c ∈ cs, c.isDigit = true) :
    unsignedDecimal? negative cs = some (Binary64.ofDecimal negative (digitsValue 10 cs) 0) := by
  have whole : cs.takeWhile Char.isDigit = cs := List.takeWhile_eq_self_iff.mpr digits
  have behind : cs.dropWhile Char.isDigit = [] := List.dropWhile_eq_nil_iff.mpr digits
  have notEmpty : cs.isEmpty = false := by simpa using some_
  simp [unsignedDecimal?, whole, behind, notEmpty, exponentPart?]

/-- A letter for a base behind a zero is no exponent. -/
theorem unsignedDecimal?_letter (negative : Bool) {letter : Char}
    (shown : (letter, base) ∈ baseLetters) (cs : List Char) :
    unsignedDecimal? negative ('0' :: letter :: cs) = none := by
  have letters : ∀ p ∈ baseLetters, unsignedDecimal? negative ('0' :: p.1 :: cs) = none := by
    simp [baseLetters, unsignedDecimal?, exponentPart?]
  exact letters _ shown

theorem splitSign_shape {negative : Bool} (split : splitSign xs = (negative, cs)) :
    xs = '-' :: cs ∧ negative = true ∨ xs = '+' :: cs ∧ negative = false ∨
      xs = cs ∧ negative = false := by
  unfold splitSign at split
  split at split
  · cases split
    exact .inl ⟨rfl, rfl⟩
  · cases split
    exact .inr (.inl ⟨rfl, rfl⟩)
  · cases split
    exact .inr (.inr ⟨rfl, rfl⟩)

theorem joinGroups?_digit (digit : c ∈ decimalDigits) (previous : Char) :
    joinGroups? previous (c :: cs) = (joinGroups? c cs).map (c :: ·) := by
  have notUnderscore : c ≠ '_' := by
    rintro rfl
    exact absurd digit (by decide)
  exact joinGroups?_cons notUnderscore fun _ => isDigit_of_decimal digit

theorem joinGroups?_signed {negative : Bool} (split : splitSign xs = (negative, c :: cs))
    (digit : c ∈ decimalDigits) :
    (joinGroups? ' ' xs).map splitSign =
      (joinGroups? c cs).map fun rest => (negative, c :: rest) := by
  rcases splitSign_shape split with ⟨rfl, rfl⟩ | ⟨rfl, rfl⟩ | ⟨rfl, rfl⟩
  · rw [joinGroups?_cons (by decide) (by decide), joinGroups?_digit digit, Option.map_map,
      Option.map_map]
    rfl
  · rw [joinGroups?_cons (by decide) (by decide), joinGroups?_digit digit, Option.map_map,
      Option.map_map]
    rfl
  · rw [joinGroups?_digit digit, Option.map_map]
    congr 1
    funext zs
    exact splitSign_unsigned digit zs

/-- A number with a sign or without one is read behind its sign. -/
theorem readDecimal?_signed {s : String} {negative : Bool} (chars : OfLiteral s.toList)
    (split : splitSign s.toList = (negative, c :: cs)) (digit : c ∈ decimalDigits) :
    readDecimal? s = (joinGroups? ' ' (c :: cs)).bind (unsignedDecimal? negative) := by
  have behindSign : readDecimal? s = ((joinGroups? ' ' s.toList).map splitSign).bind
      fun signed => (specialValue? signed.1 signed.2).or (unsignedDecimal? signed.1 signed.2) := by
    rw [readDecimal?, readable_ofLiteral chars, trimWhere_eq_self chars.noBlank, Option.bind_map]
    congr 1
    funext joined
    dsimp only [Function.comp_apply]
    cases specialValue? (splitSign joined).1 (splitSign joined).2 <;> rfl
  rw [behindSign, joinGroups?_signed split digit, joinGroups?_digit digit, Option.bind_map,
    Option.bind_map]
  congr 1
  funext rest
  simp only [Function.comp_apply, specialValue?_digit negative digit, Option.none_or]

theorem Digits.readDecimal? (digits : Digits 10 cs n) (negative : Bool) :
    (Numeral.joinGroups? ' ' cs).bind (unsignedDecimal? negative) =
      some (Binary64.ofQuotient negative n 1) := by
  have some_ : cs.filter (· != '_') ≠ [] := by
    obtain ⟨c, d, rest, rfl, first⟩ := digits.head
    simp [first.ne_underscore]
  have all : ∀ c ∈ cs.filter (· != '_'), c.isDigit = true := by
    intro c member
    obtain ⟨inside, notUnderscore⟩ := List.mem_filter.mp member
    exact digits.isDigit c inside (bne_iff_ne.mp notUnderscore)
  rw [(digits.joinGroups? ' ').1, Option.bind_some, unsignedDecimal?_digits negative some_ all,
    digits.digitsValue, Binary64.ofDecimal_integer]

theorem unreadable_based (negative : Bool) {letter : Char} (shown : (letter, base) ∈ baseLetters)
    (cs : List Char) :
    (joinGroups? ' ' ('0' :: letter :: cs)).bind (unsignedDecimal? negative) = none := by
  have letters : ∀ p ∈ baseLetters, p.1 ≠ '_' := by decide
  have behindDigit : '0' = '_' → letter.isDigit = true := fun same => absurd same (by decide)
  rw [joinGroups?_digit (by decide), joinGroups?_cons (letters _ shown) behindDigit, Option.map_map,
    Option.bind_map]
  exact Option.bind_eq_none_iff.mpr fun rest _ => unsignedDecimal?_letter negative shown rest

/-- An integer literal is read as the double nearest to its integer if it shows no base, and else not
at all. -/
theorem Token.readDecimal? (token : Token base cs n) {s : String} {negative : Bool}
    (chars : OfLiteral s.toList) (split : Numeral.splitSign s.toList = (negative, cs)) :
    Numeral.readDecimal? s =
      if base = 10 then some (Binary64.ofQuotient negative n 1) else none := by
  obtain ⟨c, digit, rest, same⟩ := token.head
  rw [same] at split
  rw [readDecimal?_signed chars split digit, ← same]
  cases token with
  | decimal digits => rw [digits.readDecimal?, if_pos rfl]
  | zeros digits => rw [digits.readDecimal?, if_pos rfl]
  | based shown => rw [unreadable_based negative shown, if_neg (baseLetters_ne_ten shown)]
  | spaced shown => rw [unreadable_based negative shown, if_neg (baseLetters_ne_ten shown)]

end Reading
end Numeral

namespace PoolCheck
open Numeral

/-- A least life time that is written as an integer literal without a base is reported exactly if the
integer is below the least one allowed. One that shows a base is found unreadable and never reported,
which is wrong exactly if its integer is too small. -/
theorem life_time_judged_by_value (value : Expr) (negative : Bool) (text : List Char) (base n : Nat)
    (signed : Signed value negative text) (token : Token base text n) (default : String)
    (place : Location) :
    let v : Int := if negative then -n else n
    let outcome := checkValue .maxConnectionLifeTime (literalText default value) place
    (base = 10 → outcome =
      ⟨[], if v < 30 then [Diagnostic.of .tooShortLifeTime place] else []⟩) ∧
    (base ≠ 10 → outcome = ⟨[.unreadableValue (literalText default value) .float], []⟩) ∧
    ((outcome.diagnostics = [Diagnostic.of .tooShortLifeTime place] ↔ v < 30) ↔
      base = 10 ∨ 30 ≤ v) := by
  intro v outcome
  obtain ⟨chars, split⟩ := signed.literalText token default
  have read := token.readDecimal? chars split
  have judged : Number.atLeast (30 : Nat) (.float (Binary64.ofQuotient negative n 1)) =
      decide (30 ≤ v) := by
    rw [Number.atLeast, Binary64.ofQuotient_one_atLeast negative n (by decide) (by decide)]
    cases negative with
    | true =>
      have below : ¬ 30 ≤ -(n : Int) := by omega
      simpa [v] using below
    | false =>
      have same : 30 ≤ n ↔ (30 : Int) ≤ n := by omega
      exact decide_eq_decide.mpr same
  have decimal : base = 10 → outcome =
      ⟨[], if v < 30 then [Diagnostic.of .tooShortLifeTime place] else []⟩ := by
    intro ten
    rw [if_pos ten] at read
    simp only [outcome, checkValue, PoolRule.of, Number.read?, read, Option.map_some, judged]
    by_cases low : v < 30
    · rw [if_neg (by simpa using low), if_pos low]
    · rw [if_pos (by simpa using low), if_neg low]
      rfl
  have based : base ≠ 10 →
      outcome = ⟨[.unreadableValue (literalText default value) .float], []⟩ := by
    intro notTen
    rw [if_neg notTen] at read
    simp only [outcome, checkValue, PoolRule.of, Number.read?, read, Option.map_none]
  refine ⟨decimal, based, ?_⟩
  by_cases ten : base = 10
  · have exact_ : outcome.diagnostics = [Diagnostic.of .tooShortLifeTime place] ↔ v < 30 := by
      rw [decimal ten]
      by_cases low : v < 30 <;> simp [low]
    simp [ten, exact_]
  · have silent : ¬ outcome.diagnostics = [Diagnostic.of .tooShortLifeTime place] := by
      rw [based ten]
      simp
    have enough : (outcome.diagnostics = [Diagnostic.of .tooShortLifeTime place] ↔ v < 30) ↔ 30 ≤ v :=
      (iff_false_left silent).trans Int.not_lt
    simp only [enough, ten, false_or]

/-- `+2_9`, which is reported. -/
theorem signedDecimal_reported :
    let value : Expr := .unary "+" (.literal .integer "2_9" default) "+2_9" default
    Signed value false "2_9".toList ∧ Token 10 "2_9".toList 29 ∧
      checkValue .maxConnectionLifeTime (literalText "30" value) default =
        ⟨[], [Diagnostic.of .tooShortLifeTime default]⟩ := by
  intro value
  have two : IsDigit 10 '2' 2 := ⟨by decide, by decide⟩
  have nine : IsDigit 10 '9' 9 := ⟨by decide, by decide⟩
  have token : Token 10 "2_9".toList 29 :=
    @Token.decimal '2' ['_', '9'] _ (.group (.single two) nine) (by decide)
  have signed : Signed value false "2_9".toList := .plus .integer _ _ _ _
  exact ⟨signed, token,
    (life_time_judged_by_value value false _ 10 29 signed token "30" default).1 rfl⟩

/-- A life time in hexadecimal that is below the least one. -/
def hexadecimalText : String :=
  "import jdbc\njdbc.Client(connectionPool=\x7b\"maxConnectionLifeTime\": 0x10\x7d)\n"

/-- Nothing is reported for it. -/
theorem hexadecimal_unreported :
    Token 16 "0x10".toList 16 ∧ (16 : Int) < 30 ∧
      (checkValue .maxConnectionLifeTime
        (literalText "30" (.literal .integer "0x10" default)) default).diagnostics = [] ∧
      (Scan.ofText .standard ⟨0, ["app.py"]⟩ hexadecimalText.toList).result = .ok [] := by
  have one : IsDigit 16 '1' 1 := ⟨by decide, by decide⟩
  have zero : IsDigit 16 '0' 0 := ⟨by decide, by decide⟩
  have token : Token 16 "0x10".toList 16 :=
    @Token.based 'x' 16 _ _ (by decide) (.next (.single one) zero)
  have unreported : (checkValue .maxConnectionLifeTime
      (literalText "30" (.literal .integer "0x10" default)) default).diagnostics = [] := by
    decide +kernel
  have nothing : (Scan.ofText .standard ⟨0, ["app.py"]⟩ hexadecimalText.toList).result.toOption.any
      (·.isEmpty) := by
    decide +kernel
  obtain ⟨ds, returned, empty⟩ := Scan.exists_returned nothing
  rw [List.isEmpty_iff.mp empty] at returned
  exact ⟨token, by decide, unreported, returned⟩

end PoolCheck
end PoolLint
