import PoolLint.Proofs.JsonText
import PoolLint.Report.Basic

/-! A JSON report is a document of its diagnostics, whatever its indentation. Every printed document
is spelled as the grammar says, so that it is read back as it was. -/
namespace PoolLint

namespace Json
open Text

section Digit

theorem digitValue?_isDigit {c : Char} (digit : c.isDigit) : digitValue? c = some (c.toNat - 48) := by
  obtain ⟨low, high⟩ : '0'.val ≤ c.val ∧ c.val ≤ '9'.val := by simpa [Char.isDigit] using digit
  have low : '0' ≤ c := low
  have high : c ≤ '9' := high
  simp [digitValue?, low, high]

theorem digitsValue_eq {cs : List Char} (digits : ∀ c ∈ cs, c.isDigit) :
    digitsValue 10 cs = Nat.ofDigitChars 10 cs 0 := by
  rw [Nat.ofDigitChars_eq_foldl, digitsValue]
  apply List.foldl_ext
  intro n c member
  rw [digitValue?_isDigit (digits c member), Nat.mul_comm]
  rfl

theorem digits_toDigits (n : Nat) : Digits (Nat.toDigits 10 n) :=
  ⟨Nat.toDigits_ne_nil, fun _ member => Nat.isDigit_of_mem_toDigits (by decide) (by decide) member⟩

theorem digitsValue_toDigits (n : Nat) : digitsValue 10 (Nat.toDigits 10 n) = n := by
  rw [digitsValue_eq (digits_toDigits n).2, Nat.ofDigitChars_ten_toDigits]

theorem head?_toDigits {n : Nat} (positive : 0 < n) : (Nat.toDigits 10 n).head? ≠ some '0' := by
  induction n using Nat.strongRecOn with
  | ind n ih =>
    rw [Nat.toDigits_eq_if (by decide)]
    by_cases single : n < 10
    · rw [if_pos single]
      have small : ∀ d < 10, 0 < d → [Nat.digitChar d].head? ≠ some '0' := by decide
      exact small n single positive
    · have some_ : Nat.toDigits 10 (n / 10) ≠ [] := Nat.toDigits_ne_nil
      rw [if_neg single, List.head?_append_of_ne_nil _ some_]
      exact ih (n / 10) (by omega) (by omega)

theorem wholeText_toDigits (n : Nat) : WholeText (Nat.toDigits 10 n) := by
  refine ⟨digits_toDigits n, fun zero => ?_⟩
  obtain rfl | positive := Nat.eq_zero_or_pos n
  · rfl
  · exact absurd zero (head?_toDigits positive)

theorem printInteger_eq (n : Int) :
    printInteger n = signText (decide (n < 0)) ++ Nat.toDigits 10 n.natAbs := by
  rw [printInteger, Int.toString_eq_repr, Int.repr_eq_if]
  by_cases negative : n < 0
  · have magnitude : (-n).toNat = n.natAbs := by omega
    have below : ¬ 0 ≤ n := by omega
    rw [if_neg below, String.toList_append, Nat.toList_repr, magnitude]
    simp [signText, negative]
  · have magnitude : n.toNat = n.natAbs := by omega
    have least : 0 ≤ n := by omega
    rw [if_pos least, Nat.toList_repr, magnitude]
    simp [signText, negative]

theorem signed_natAbs (n : Int) : signed (decide (n < 0)) n.natAbs = n := by
  by_cases negative : n < 0
  · simp only [signed, negative, decide_true, if_true]
    omega
  · simp only [signed, negative, decide_false, Bool.false_eq_true, if_false]
    omega

theorem printInteger_text (n : Int) : NumberText (.integer n) (printInteger n) := by
  have text := @NumberText.integer (decide (n < 0)) _ (wholeText_toDigits n.natAbs)
  rw [digitsValue_toDigits, signed_natAbs] at text
  rw [printInteger_eq]
  exact text

theorem printDecimal_text (negative : Bool) (digits : Nat) (scale : Int) :
    NumberText (.decimal negative digits scale) (printDecimal negative digits scale) := by
  have exponent : ExponentText scale ('e' :: signText (decide (scale < 0)) ++
      Nat.toDigits 10 scale.natAbs) := by
    have text := @ExponentText.present 'e' (decide (scale < 0)) _ _ (.inl rfl) (.inl rfl)
      (digits_toDigits scale.natAbs)
    rwa [digitsValue_toDigits, signed_natAbs] at text
  have text := @NumberText.decimal negative _ [] [] _ _ (wholeText_toDigits digits) .absent exponent
    (by simp)
  have shape : printDecimal negative digits scale = signText negative ++
      (Nat.toDigits 10 digits ++ ([] ++ ('e' :: signText (decide (scale < 0)) ++
        Nat.toDigits 10 scale.natAbs))) := by
    simp [printDecimal, printInteger_eq, signText]
  rw [shape]
  simpa [digitsValue_toDigits] using text

end Digit

section String

theorem hexPadded_text {n : Nat} (control : n < 32) : UnitText n (hexPadded 4 n).toList := by
  have all : (List.range 32).all (fun n => (hexPadded 4 n).toList.length == 4 &&
      (hexPadded 4 n).toList.all (isDigitOf 16 ·) &&
      digitsValue 16 (hexPadded 4 n).toList == n) = true := by decide +kernel
  have here := List.all_eq_true.mp all n (List.mem_range.mpr control)
  simp only [Bool.and_eq_true, beq_iff_eq, List.all_eq_true] at here
  exact ⟨here.1.1, here.1.2, here.2⟩

theorem charText_of_code {c : Char} {code : Nat} {l : Char} (same : c.toNat = code)
    (known : (l, Char.ofNat code) ∈ escapes) : CharText c ['\\', l] := by
  rw [← same, Char.ofNat_toNat] at known
  exact .letter known

theorem escapedChar_text (c : Char) : CharText c (escapedChar c) := by
  unfold escapedChar
  split_ifs with quote slash line return_ tab back form control
  · exact .letter (by rw [beq_iff_eq] at quote; subst quote; decide)
  · exact .letter (by rw [beq_iff_eq] at slash; subst slash; decide)
  · exact .letter (by rw [beq_iff_eq] at line; subst line; decide)
  · exact .letter (by rw [beq_iff_eq] at return_; subst return_; decide)
  · exact .letter (by rw [beq_iff_eq] at tab; subst tab; decide)
  · exact charText_of_code (beq_iff_eq.mp back) (by decide)
  · exact charText_of_code (beq_iff_eq.mp form) (by decide)
  · exact .unit (hexPadded_text control)
  · simp only [beq_iff_eq] at quote slash
    exact .plain (by omega) quote slash

theorem printString_text (s : String) : StringText s (printString s) := by
  refine ⟨s.toList.map escapedChar, ?_, by simp [printString, List.flatMap]⟩
  exact List.forall₂_map_right_iff.mpr (List.forall₂_same.mpr fun c _ => escapedChar_text c)

end String

section Layout

variable (l : Layout)

theorem newline_isGap (depth : Nat) : IsGap (l.newline depth) := by
  obtain ⟨indent⟩ := l
  intro c member
  cases indent with
  | none => cases member
  | some n =>
    obtain rfl | blank := List.mem_cons.mp member
    · exact .inr (.inl rfl)
    · exact .inl (List.eq_of_mem_replicate blank)

theorem separator_eq (depth : Nat) : ∃ gap, IsGap gap ∧ l.separator depth = ',' :: gap := by
  have gap := newline_isGap l depth
  unfold Layout.separator
  cases l.indent with
  | none => exact ⟨[' '], by simp [IsGap], rfl⟩
  | some n => exact ⟨l.newline depth, gap, rfl⟩

theorem isGap_nil : IsGap [] := nofun

/-- Behind its first element the elements of a printed array go on to the closing bracket. -/
theorem printRest_text (depth : Nat) {xs : List Json}
    (known : ∀ x ∈ xs, Spells (.value x) (print l depth x)) {x : Json} {cs before behind : List Char}
    (value : Spells (.value x) cs) (left : IsGap before) (right : IsGap behind) :
    Spells (.elements (x :: xs)) (before ++ (cs ++ (printRest l depth xs ++ behind))) := by
  induction xs generalizing x cs before with
  | nil => exact .lastElement (.padded left value right)
  | cons y ys ih =>
    obtain ⟨gap, isGap, separator⟩ := separator_eq l depth
    have first := Spells.padded left value isGap_nil
    have others := ih (fun x member => known x (List.mem_cons_of_mem _ member))
      (known y List.mem_cons_self) isGap
    have text := Spells.moreElements first others
    simpa [printRest, separator] using text

theorem printMember_text (depth : Nat) {m : String × Json} {before behind : List Char}
    (value : Spells (.value m.2) (print l depth m.2)) (left : IsGap before)
    (right : IsGap behind) : Spells (.member m) (before ++ (printMember l depth m ++ behind)) := by
  obtain ⟨name, j⟩ := m
  have blank : IsGap [' '] := by simp [IsGap]
  have text := Spells.member left (printString_text name) isGap_nil (.padded blank value right)
  simpa [printMember] using text

theorem printMembers_text (depth : Nat) {ms : List (String × Json)}
    (known : ∀ m ∈ ms, Spells (.value m.2) (print l depth m.2)) {m : String × Json}
    {before behind : List Char} (value : Spells (.value m.2) (print l depth m.2))
    (left : IsGap before) (right : IsGap behind) :
    Spells (.members (m :: ms))
      (before ++ (printMember l depth m ++ (printMembers l depth ms ++ behind))) := by
  induction ms generalizing m before with
  | nil => exact .lastMember (printMember_text l depth value left right)
  | cons n ns ih =>
    obtain ⟨gap, isGap, separator⟩ := separator_eq l depth
    have first := printMember_text l depth value left isGap_nil
    have others := ih (fun m member => known m (List.mem_cons_of_mem _ member))
      (known n List.mem_cons_self) isGap
    have text := Spells.moreMembers first others
    simpa [printMembers, separator] using text

theorem print_text (j : Json) : ∀ depth, Spells (.value j) (print l depth j) := by
  induction j using induction_parts with
  | step j ih =>
    intro depth
    have inner := newline_isGap l (depth + 1)
    have outer := newline_isGap l depth
    cases j with
    | null => exact .null
    | boolean b =>
      cases b with
      | true => exact .true_
      | false => exact .false_
    | integer n => exact .number (printInteger_text n)
    | decimal negative digits scale => exact .number (printDecimal_text negative digits scale)
    | string s => exact .string (printString_text s)
    | array xs =>
      cases xs with
      | nil => exact .emptyArray isGap_nil
      | cons x xs =>
        have first := ih x List.mem_cons_self (depth + 1)
        have others := fun y member => ih y (List.mem_cons_of_mem x member) (depth + 1)
        have text := Spells.array (printRest_text l (depth + 1) others first inner outer)
        simpa [print] using text
    | object ms =>
      cases ms with
      | nil => exact .emptyObject isGap_nil
      | cons m ms =>
        have known : ∀ n ∈ m :: ms, Spells (.value n.2) (print l (depth + 1) n.2) :=
          fun n member => ih n.2 (List.mem_map_of_mem member) (depth + 1)
        have first := known m List.mem_cons_self
        have others := fun n member => known n (List.mem_cons_of_mem m member)
        have text := Spells.object (printMembers_text l (depth + 1) others first inner outer)
        simpa [print] using text

end Layout

theorem render_text (indent : Option Int) (j : Json) :
    DocumentText j (render indent j).toList := by
  have text := Spells.padded isGap_nil (print_text ⟨indent⟩ j 0) isGap_nil
  rw [List.nil_append, List.append_nil] at text
  rw [render, String.toList_ofList]
  exact text

end Json

namespace Report

def members (d : Diagnostic) : List (String × Json) :=
  [("code", .string d.code), ("message", .string d.message), ("severity", .string d.severity.name),
    ("file", .string d.location.file.text), ("line", .integer d.location.lineStart),
    ("column", .integer d.location.columnStart), ("end_line", .integer d.location.lineEnd),
    ("end_column", .integer d.location.columnEnd)]

def content (ds : List Diagnostic) : Json :=
  .object [("count", .integer ds.length),
    ("diagnostics", .array (ds.map fun d => .object (members d)))]

/-- A JSON report is one well-formed document, with whatever indentation. It stands for the number of
diagnostics and the diagnostics in order, and for nothing else. -/
theorem json_reads_back (indent : Option Int) (ds : List Diagnostic) :
    Json.DocumentText (content ds) (render .json indent ds).toList ∧
      Json.parse? (render .json indent ds) = some (content ds) ∧
      ∀ j, Json.DocumentText j (render .json indent ds).toList → j = content ds := by
  have same : document ds = content ds := by
    simp only [document, content, rows, List.map_map]
    rfl
  have text : Json.DocumentText (content ds) (render .json indent ds).toList := by
    rw [← same]
    exact Json.render_text indent (document ds)
  have read := Json.parse?_of_documentText text
  rw [String.ofList_toList] at read
  refine ⟨text, read, fun j other => ?_⟩
  have again := Json.parse?_of_documentText other
  rw [String.ofList_toList, read] at again
  exact (Option.some.inj again).symm

end Report
end PoolLint
