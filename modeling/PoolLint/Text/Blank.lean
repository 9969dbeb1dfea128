/-! Blank characters, and the two ways blanks are taken out of a text: around it, or everywhere. -/
namespace PoolLint.Text

/-- The characters that separate words: the ASCII blanks, the four information separators, the next
line control, the no-break space and the spaces and line separators beyond Latin-1. -/
def isBlank (c : Char) : Bool :=
  let n := c.toNat
  (9 ≤ n && n ≤ 13) || (28 ≤ n && n ≤ 32) || n == 0x85 || n == 0xA0 || n == 0x1680 ||
    (0x2000 ≤ n && n ≤ 0x200A) || n == 0x2028 || n == 0x2029 || n == 0x202F || n == 0x205F ||
    n == 0x3000

/-- The blanks of ASCII that a number may stand between. -/
def isAsciiBlank (c : Char) : Bool :=
  c.toNat == 32 || (9 ≤ c.toNat && c.toNat ≤ 13)

/-- The text without the characters of a class at either end. -/
def trimWhere (p : Char → Bool) (cs : List Char) : List Char :=
  ((cs.dropWhile p).reverse.dropWhile p).reverse

theorem dropWhile_eq_self {p : Char → Bool} {cs : List Char} (others : ∀ c ∈ cs, p c = false) :
    cs.dropWhile p = cs := by
  cases cs with
  | nil => rfl
  | cons c cs => rw [List.dropWhile_cons_of_neg (by simp [others c])]

theorem trimWhere_eq_self {p : Char → Bool} {cs : List Char} (others : ∀ c ∈ cs, p c = false) :
    trimWhere p cs = cs := by
  rw [trimWhere, dropWhile_eq_self others, dropWhile_eq_self (by simpa using others),
    List.reverse_reverse]

def trim (cs : List Char) : List Char := trimWhere isBlank cs

/-- The text without any blank. -/
def squeeze (cs : List Char) : List Char := cs.filter (!isBlank ·)

/-- A name as it is compared: without blanks, so that line breaks inside it do not count. -/
def squeezed (s : String) : String := String.ofList (squeeze s.toList)

@[simp] theorem squeezed_squeezed (s : String) : squeezed (squeezed s) = squeezed s := by
  simp [squeezed, squeeze, List.filter_filter]

end PoolLint.Text
