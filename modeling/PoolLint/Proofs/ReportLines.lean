import Mathlib.Data.List.Basic
import PoolLint.Proofs.PathSpelling
import PoolLint.Report.Basic

/-! A line of a report tells the finding that it is made from. It is read from its end: the last
character of a message tells the kind of the finding, and in front of that stand two numbers, whose
digits are no colons, so that everything before them is the path. The same line is made of the named
members of a row. -/
namespace PoolLint.Report

/-- What stands behind the place in a line. -/
def remark (f : Finding) : List Char := (": " ++ f.code ++ " " ++ f.message).toList

theorem getLast?_remark {f g : Finding} (same : (remark f).getLast? = (remark g).getLast?) :
    f = g := by
  have lasts : Finding.all.map (fun f => (remark f).getLast?) =
      [some 'e', some 'o', some '0', some 'x'] := by decide +kernel
  simp only [Finding.all, List.map_cons, List.map_nil, List.cons.injEq, and_true] at lasts
  obtain ⟨open_, idle, lifeTime, invalid⟩ := lasts
  cases f <;> cases g <;> simp_all

theorem remark_determined {before after : List Char} {f g : Finding}
    (same : before ++ remark f = after ++ remark g) : before = after ∧ f = g := by
  have shown (f : Finding) : remark f ≠ [] := by simp [remark]
  have last := congrArg List.getLast? same
  rw [List.getLast?_append_of_ne_nil _ (shown f), List.getLast?_append_of_ne_nil _ (shown g)] at last
  obtain rfl := getLast?_remark last
  exact ⟨List.append_cancel_right same, rfl⟩

/-- A separator with none behind it is the last one. -/
theorem last_separated {separator : Char} {before after digits digits' : List Char}
    (none : separator ∉ digits) (noneToo : separator ∉ digits')
    (same : before ++ separator :: digits = after ++ separator :: digits') :
    before = after ∧ digits = digits' := by
  rcases List.append_eq_append_iff.mp same with ⟨between, rfl, split⟩ | ⟨between, rfl, split⟩
  · cases between with
    | nil => simpa using split
    | cons c between =>
      obtain ⟨-, rfl⟩ := List.cons.inj split
      simp at none
  · cases between with
    | nil => simpa using split.symm
    | cons c between =>
      obtain ⟨-, rfl⟩ := List.cons.inj split
      simp at noneToo

theorem toString_toList (n : Nat) : (toString n).toList = Nat.toDigits 10 n := by
  rw [Nat.toString_eq_repr, Nat.toList_repr]

theorem number_determined {before after : List Char} {n m : Nat}
    (same : before ++ ':' :: (toString n).toList = after ++ ':' :: (toString m).toList) :
    before = after ∧ n = m := by
  have noColon (n : Nat) : ':' ∉ (toString n).toList := by
    intro colon
    rw [toString_toList] at colon
    have digit := Nat.isDigit_of_mem_toDigits (by decide) (by decide) colon
    exact absurd digit (by decide)
  obtain ⟨places, digits⟩ := last_separated (noColon n) (noColon m) same
  rw [toString_toList, toString_toList] at digits
  have numbers := congrArg (Nat.ofDigitChars 10 · 0) digits
  rw [Nat.ofDigitChars_ten_toDigits, Nat.ofDigitChars_ten_toDigits] at numbers
  exact ⟨places, numbers⟩

theorem line_toList (f : Finding) (l : Location) : (line (.of f l)).toList =
    l.file.text.toList ++ ':' :: (toString l.lineStart).toList ++
      ':' :: (toString l.columnStart).toList ++ remark f := by
  simp [line, Diagnostic.of, Location.text, remark, toString]

theorem line_determined {f g : Finding} {l m : Location} (normal : l.file.IsNormal)
    (normalToo : m.file.IsNormal) (same : line (.of f l) = line (.of g m)) :
    l.file = m.file ∧ l.lineStart = m.lineStart ∧ l.columnStart = m.columnStart ∧ f = g := by
  have letters := congrArg String.toList same
  rw [line_toList, line_toList] at letters
  obtain ⟨places, rfl⟩ := remark_determined letters
  obtain ⟨starts, columns⟩ := number_determined places
  obtain ⟨files, lines⟩ := number_determined starts
  have paths : l.file = m.file := by
    rw [← Path.parse_text normal, String.toList_inj.mp files, Path.parse_text normalToo]
  exact ⟨paths, lines, columns, rfl⟩

def cited? (row : Json) : Option String :=
  match row.get? "file", row.get? "line", row.get? "column", row.get? "code",
      row.get? "message" with
  | some (.string file), some (.integer line), some (.integer column), some (.string code),
      some (.string message) => some s!"{file}:{line}:{column}: {code} {message}"
  | _, _, _, _, _ => none

theorem cited?_row (d : Diagnostic) :
    cited? (.object (Row.ofDiagnostic d).fields) = some (line d) := by
  have written (n : Nat) : (n : Int).repr = n.repr := rfl
  simp [cited?, Json.get?, Json.member?, Row.fields, Row.texts, Row.numbers, Row.ofDiagnostic,
    line, Location.text, toString, written]

/-- Two findings have the same line exactly if they are of one kind, which has a code and a message,
and start at the same place of the same file. The rows of structured reports, in the order of the
diagnostics, make up the same lines. -/
theorem line_tells_finding {f g : Finding} {l m : Location} (normal : l.file.IsNormal)
    (normalToo : m.file.IsNormal) :
    (line (.of f l) = line (.of g m) ↔ l.file = m.file ∧ l.lineStart = m.lineStart ∧
      l.columnStart = m.columnStart ∧ f = g) ∧
    ∀ ds, (rows ds).map (fun r => cited? (.object r.fields)) = ds.map fun d => some (line d) := by
  refine ⟨⟨line_determined normal normalToo, ?_⟩, ?_⟩
  · rintro ⟨files, lines, columns, rfl⟩
    simp [line, Diagnostic.of, Location.text, files, lines, columns]
  · intro ds
    rw [rows, List.map_map]
    exact List.map_congr_left fun d _ => cited?_row d

/-- The name of the first file goes on like the place in the line of the second one. -/
theorem colonName_told :
    let first : Location := ⟨⟨0, ["a:1"]⟩, 2, 3, 2, 4, 0, 0⟩
    let second : Location := ⟨⟨0, ["a"]⟩, 1, 2, 1, 3, 0, 0⟩
    first.file.IsNormal ∧ second.file.IsNormal ∧
      line (.of .invalidSyntax first) ≠ line (.of .invalidSyntax second) := by
  have names : ∀ name ∈ ["a:1", "a"], Path.IsName name := by
    simp [Path.IsName]
  have normal : (⟨0, ["a:1"]⟩ : Path).IsNormal := ⟨by decide, by simp [names]⟩
  have normalToo : (⟨0, ["a"]⟩ : Path).IsNormal := ⟨by decide, by simp [names]⟩
  refine ⟨normal, normalToo, fun same => ?_⟩
  have told := (line_tells_finding normal normalToo).1.mp same
  exact absurd told.2.1 (by decide)

end PoolLint.Report
