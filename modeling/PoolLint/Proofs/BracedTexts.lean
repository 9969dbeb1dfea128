import PoolLint.PoolRule

/-! Texts with a brace in them are neither numbers nor names of settings: no step that reads a number
takes a brace away, and what is left of the text in the end may not have one. -/
namespace PoolLint.Numeral
open PoolLint.Text

/-- Characters that no number has: a brace, and the mark for what lies beyond ASCII. -/
def IsForeign (c : Char) : Prop := c = '\x7b' ∨ c = '?'

/-- Characters of numbers that are no digits. -/
def signs : List Char := ['-', '+', '_', '0', '.', 'e', 'E', 'x', 'X', 'o', 'O', 'b', 'B']

theorem mem_signs_of_beq {d small large : Char} (either : (d == small || d == large) = true)
    (sign : small ∈ signs) (sign' : large ∈ signs) : d ∈ signs := by
  rcases (Bool.or_eq_true _ _).mp either with same | same
  · exact beq_iff_eq.mp same ▸ sign
  · exact beq_iff_eq.mp same ▸ sign'

theorem mem_dropWhile {p : Char → Bool} {c : Char} {cs : List Char} (member : c ∈ cs)
    (other : p c = false) : c ∈ cs.dropWhile p := by
  rw [← List.takeWhile_append_dropWhile (p := p) (l := cs)] at member
  rcases List.mem_append.mp member with front | rest
  · have holds := List.all_eq_true.mp (List.all_takeWhile (p := p) (l := cs)) c front
    rw [other] at holds
    cases holds
  · exact rest

theorem toAscii_foreign {cs : List Char} (brace : '\x7b' ∈ cs) : ∃ c ∈ toAscii cs, IsForeign c := by
  induction cs with
  | nil => cases brace
  | cons d cs ih =>
    rw [toAscii]
    rcases List.mem_cons.mp brace with rfl | behind
    · exact ⟨'\x7b', by simp, .inl rfl⟩
    · obtain ⟨c, member, foreign⟩ := ih behind
      split
      · exact ⟨c, List.mem_cons_of_mem _ member, foreign⟩
      · split
        · exact ⟨c, List.mem_cons_of_mem _ member, foreign⟩
        · split
          · exact ⟨c, List.mem_cons_of_mem _ member, foreign⟩
          · exact ⟨'?', List.mem_cons_self, .inr rfl⟩

theorem readable_foreign {s : String} (brace : '\x7b' ∈ s.toList) :
    ∃ c ∈ readable s, IsForeign c := by
  rw [readable]
  split
  · exact ⟨'\x7b', brace, .inl rfl⟩
  · exact toAscii_foreign brace

namespace IsForeign

variable {c : Char} (foreign : IsForeign c)
include foreign

theorem not_blank : isAsciiBlank c = false := by
  rcases foreign with rfl | rfl <;> rfl

theorem not_digitOf (base : Nat) : isDigitOf base c = false := by
  rcases foreign with rfl | rfl <;> rfl

theorem not_digit : c.isDigit = false := by
  rcases foreign with rfl | rfl <;> rfl

theorem mem_of_cons {d : Char} {cs : List Char} (sign : d ∈ signs) (member : c ∈ d :: cs) :
    c ∈ cs := by
  have apart : signs.all (fun d => '\x7b' != d && '?' != d) = true := by decide
  have here := List.all_eq_true.mp apart d sign
  rw [Bool.and_eq_true, bne_iff_ne, bne_iff_ne] at here
  have differ : c ≠ d := by
    rcases foreign with rfl | rfl
    · exact here.1
    · exact here.2
  exact (List.mem_cons.mp member).resolve_left differ

theorem mem_splitSign {cs : List Char} (member : c ∈ cs) : c ∈ (splitSign cs).2 := by
  unfold splitSign
  split
  · exact foreign.mem_of_cons (by decide) member
  · exact foreign.mem_of_cons (by decide) member
  · exact member

section Integer

theorem mem_shownBase {cs : List Char} (member : c ∈ cs) : c ∈ (shownBase cs).2.2 := by
  unfold shownBase
  split
  · rename_i d cs
    extract_lets behind
    have shown (sign : d ∈ signs) : c ∈ behind := by
      have digits := foreign.mem_of_cons sign (foreign.mem_of_cons (by decide) member)
      unfold behind
      split
      · exact foreign.mem_of_cons (by decide) digits
      · exact digits
    split
    · rename_i mark
      exact shown (mem_signs_of_beq mark (by decide) (by decide))
    · split
      · rename_i mark
        exact shown (mem_signs_of_beq mark (by decide) (by decide))
      · split
        · rename_i mark
          exact shown (mem_signs_of_beq mark (by decide) (by decide))
        · exact member
  · exact member
  · exact member

theorem mem_digitRun? {base : Nat} {previous : Char} {cs ds rest : List Char} (member : c ∈ cs)
    (run : digitRun? base previous cs = some (ds, rest)) : c ∈ rest := by
  induction cs generalizing previous ds with
  | nil => cases member
  | cons d cs ih =>
    rw [digitRun?] at run
    split at run
    · rename_i underscore
      rw [beq_iff_eq] at underscore
      subst underscore
      split at run
      · cases run
      · exact ih (foreign.mem_of_cons (by decide) member) run
    · split at run
      · rename_i digit
        obtain ⟨⟨es, _⟩, inner, same⟩ := Option.map_eq_some_iff.mp run
        cases same
        rcases List.mem_cons.mp member with rfl | behind
        · rw [foreign.not_digitOf] at digit
          cases digit
        · exact ih behind inner
      · split at run
        · cases run
        · cases run
          exact member

theorem magnitude_ne_ok (base : Nat) (onlyZero : Bool) {cs : List Char} (member : c ∈ cs) (n : Nat) :
    magnitude base onlyZero cs ≠ .ok n := by
  intro read
  unfold magnitude at read
  split at read
  · cases read
  · split at read
    · cases read
    · rename_i digits rest run
      have left := foreign.mem_digitRun? member run
      have unfit : rest.all isAsciiBlank = false := by
        rw [List.all_eq_false]
        exact ⟨c, left, by simp [foreign.not_blank]⟩
      split at read
      · cases read
      · simp [unfit] at read

theorem readIntegerLiteral_ne_ok {s : String} (member : c ∈ readable s) (n : Int) :
    readIntegerLiteral s ≠ .ok n := by
  have signed := foreign.mem_splitSign (mem_dropWhile member foreign.not_blank)
  have shown := foreign.mem_shownBase signed
  intro read
  simp only [readIntegerLiteral, bind, Except.bind] at read
  split at read
  · cases read
  · rename_i digits magnitude_
    exact foreign.magnitude_ne_ok _ _ shown digits magnitude_

end Integer

section Decimal

theorem mem_joinGroups? {previous : Char} {cs ds : List Char} (member : c ∈ cs)
    (joined : joinGroups? previous cs = some ds) : c ∈ ds := by
  induction cs generalizing previous ds with
  | nil => cases member
  | cons d cs ih =>
    rw [joinGroups?] at joined
    split at joined
    · rename_i underscore
      rw [beq_iff_eq] at underscore
      subst underscore
      split at joined
      · exact ih (foreign.mem_of_cons (by decide) member) joined
      · cases joined
    · split at joined
      · cases joined
      · obtain ⟨es, inner, rfl⟩ := Option.map_eq_some_iff.mp joined
        rcases List.mem_cons.mp member with rfl | behind
        · exact List.mem_cons_self
        · exact List.mem_cons_of_mem _ (ih behind inner)

theorem mem_trimWhere {cs : List Char} (member : c ∈ cs) : c ∈ trimWhere isAsciiBlank cs := by
  have front := mem_dropWhile member foreign.not_blank
  have back := mem_dropWhile (List.mem_reverse.mpr front) foreign.not_blank
  exact List.mem_reverse.mpr back

theorem specialValue?_eq_none {negative : Bool} {cs : List Char} (member : c ∈ cs) :
    specialValue? negative cs = none := by
  have kept : c.toLower = c := by rcases foreign with rfl | rfl <;> rfl
  have inWord : c ∈ (String.ofList (cs.map Char.toLower)).toList := by
    rw [String.toList_ofList]
    exact List.mem_map.mpr ⟨c, member, kept⟩
  have other : ∀ word ∈ ["inf", "infinity", "nan"],
      String.ofList (cs.map Char.toLower) ≠ word := by
    intro word known same
    have outside : ∀ word ∈ ["inf", "infinity", "nan"],
        '\x7b' ∉ word.toList ∧ '?' ∉ word.toList := by decide
    rw [same] at inWord
    rcases foreign with rfl | rfl
    · exact (outside word known).1 inWord
    · exact (outside word known).2 inWord
  simp [specialValue?, other]

theorem exponentPart?_eq_none {cs : List Char} (member : c ∈ cs) : exponentPart? cs = none := by
  cases cs with
  | nil => cases member
  | cons e cs =>
    rw [exponentPart?]
    split
    · rename_i mark
      have behind : c ∈ cs := by
        rcases (Bool.or_eq_true _ _).mp mark with mark | mark
        · exact foreign.mem_of_cons (by rw [beq_iff_eq.mp mark]; decide) member
        · exact foreign.mem_of_cons (by rw [beq_iff_eq.mp mark]; decide) member
      have unfit : (splitSign cs).2.all Char.isDigit = false := by
        rw [List.all_eq_false]
        exact ⟨c, foreign.mem_splitSign behind, by simp [foreign.not_digit]⟩
      simp [unfit]
    · rfl

theorem unsignedDecimal?_eq_none {negative : Bool} {cs : List Char} (member : c ∈ cs) :
    unsignedDecimal? negative cs = none := by
  have behind := mem_dropWhile member foreign.not_digit
  simp only [unsignedDecimal?]
  split
  · rename_i rest point
    rw [point] at behind
    have left := mem_dropWhile (foreign.mem_of_cons (by decide) behind) foreign.not_digit
    simp [foreign.exponentPart?_eq_none left]
  · simp [foreign.exponentPart?_eq_none behind]

theorem readDecimal?_eq_none {s : String} (member : c ∈ readable s) : readDecimal? s = none := by
  simp only [readDecimal?, bind, Option.bind]
  split
  · rfl
  · rename_i cs joined
    have inside := foreign.mem_splitSign
      (foreign.mem_joinGroups? (foreign.mem_trimWhere member) joined)
    dsimp only
    rw [foreign.specialValue?_eq_none inside]
    exact foreign.unsignedDecimal?_eq_none inside

end Decimal

end IsForeign

end PoolLint.Numeral

namespace PoolLint

theorem Number.read?_braced (kind : ValueKind) {text : String} (brace : '\x7b' ∈ text.toList) :
    Number.read? kind text = none := by
  obtain ⟨c, member, foreign⟩ := Numeral.readable_foreign brace
  cases kind with
  | integer =>
    rw [Number.read?]
    cases read : Numeral.readIntegerLiteral text with
    | error fault => rfl
    | ok n => exact absurd read (foreign.readIntegerLiteral_ne_ok member n)
  | float => rw [Number.read?, foreign.readDecimal?_eq_none member, Option.map_none]

theorem PoolKey.lookup?_braced {name : String} (brace : '\x7b' ∈ name.toList) :
    PoolKey.lookup? name = none := by
  have spellings : ∀ key : PoolKey, '\x7b' ∉ key.name.toList ∧
      ∀ s ∈ key.aliases, '\x7b' ∉ s.toList := by
    intro key
    cases key <;> decide
  have unnamed (key : PoolKey) : key.name ≠ name := by
    rintro rfl
    exact (spellings key).1 brace
  have unspelled (key : PoolKey) : name ∉ key.aliases := fun member =>
    (spellings key).2 name member brace
  simp [lookup?, ofName?, all, unnamed, unspelled]

end PoolLint
