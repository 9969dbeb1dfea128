import PoolLint.Proofs.PoolFindings
import PoolLint.Proofs.LoweredNodes
import PoolLint.Proofs.ScannedTrees

/-! Keys that are quoted texts without a prefix and without escapes. A key is recognised by what
stands between its quotes, less the quotes and line ends in there; the text that the language gives
the key decides instead unless it has some of these and is a spelling of a setting without them. -/
namespace PoolLint

namespace Text

/-- Line ends of all kinds are read as the same one. -/
def unifyLineEnds : List Char → List Char
  | [] => []
  | '\r' :: '\n' :: cs => '\n' :: unifyLineEnds cs
  | '\r' :: cs => '\n' :: unifyLineEnds cs
  | c :: cs => c :: unifyLineEnds cs

/-- A quoted text without a prefix and without escapes, and what stands between its quotes: no quote
and no line end, or between threefold quotes anything that does not end them. -/
inductive PlainQuoted : List Char → List Char → Prop
  | single {quote : Char} {body : List Char} (isQuote : quote = '"' ∨ quote = '\'')
      (oneLine : ∀ c ∈ body, c ≠ '\\' ∧ c ≠ quote ∧ c ≠ '\n' ∧ c ≠ '\r') :
      PlainQuoted (quote :: (body ++ [quote])) body
  | triple {quote : Char} {body : List Char} (isQuote : quote = '"' ∨ quote = '\'')
      (noEscape : '\\' ∉ body) (closed : ¬ [quote, quote, quote] <:+: body ++ [quote, quote]) :
      PlainQuoted (quote :: quote :: quote :: (body ++ [quote, quote, quote])) body

/-- Quotes and line feeds, which a token loses wherever they stand in it. -/
def isDropped (c : Char) : Bool := c == '"' || c == '\'' || c == '\n'

theorem isDropped_quote {quote : Char} (isQuote : quote = '"' ∨ quote = '\'') :
    isDropped quote = true ∧ isBlank quote = false := by
  rcases isQuote with rfl | rfl <;> decide

theorem trimWhere_enclosed {p : Char → Bool} {first last : Char} (cs : List Char)
    (opening : p first = false) (closing : p last = false) :
    trimWhere p (first :: (cs ++ [last])) = first :: (cs ++ [last]) := by
  have kept : (first :: (cs ++ [last])).dropWhile p = first :: (cs ++ [last]) :=
    List.dropWhile_cons_of_neg (by simp [opening])
  have reversed : (first :: (cs ++ [last])).reverse = last :: (cs.reverse ++ [first]) := by simp
  rw [trimWhere, kept, reversed, List.dropWhile_cons_of_neg (by simp [closing]), ← reversed,
    List.reverse_reverse]

theorem unifyLineEnds_of_noFeed {cs : List Char} (noFeed : '\n' ∉ unifyLineEnds cs) :
    unifyLineEnds cs = cs := by
  fun_induction unifyLineEnds cs with
  | case1 => rfl
  | case2 cs ih => simp at noFeed
  | case3 cs _ ih => simp at noFeed
  | case4 c cs _ _ ih => rw [ih fun feed => noFeed (List.mem_cons_of_mem _ feed)]

theorem unifyLineEnds_of_noReturn {cs : List Char} (noReturn : '\r' ∉ cs) :
    unifyLineEnds cs = cs := by
  fun_induction unifyLineEnds cs with
  | case1 => rfl
  | case2 cs ih => simp at noReturn
  | case3 cs _ ih => simp at noReturn
  | case4 c cs _ _ ih => rw [ih fun found => noReturn (List.mem_cons_of_mem _ found)]

end Text

namespace PoolCheck
open Text

/-- The text that the language gives a key with this between its quotes. -/
def keyValue (body : List Char) : String := String.ofList (unifyLineEnds body)

/-- What is left between the quotes of a key without the quotes and line feeds in it. -/
def bareText (body : List Char) : String := String.ofList (body.filter (!isDropped ·))

theorem plainChars_eq (cs : List Char) : plainChars cs = (trim cs).filter (!isDropped ·) := rfl

theorem plainToken_quoted {token : String} {body : List Char}
    (quoted : PlainQuoted token.toList body) : plainToken token = bareText body := by
  have ends {quote : Char} (isQuote : quote = '"' ∨ quote = '\'') (cs : List Char) :
      plainChars (quote :: (cs ++ [quote])) = cs.filter (!isDropped ·) := by
    obtain ⟨dropped, notBlank⟩ := isDropped_quote isQuote
    rw [plainChars_eq, trim, trimWhere_enclosed cs notBlank notBlank]
    simp [dropped]
  generalize shape : token.toList = cs at quoted
  rw [plainToken, shape, bareText]
  cases quoted with
  | single isQuote oneLine => rw [ends isQuote]
  | @triple quote body isQuote =>
    have whole : quote :: quote :: quote :: (body ++ [quote, quote, quote]) =
        quote :: ((quote :: quote :: (body ++ [quote, quote])) ++ [quote]) := by simp
    rw [whole, ends isQuote]
    simp [(isDropped_quote isQuote).1]

/-- The spellings of settings have nothing in them that a token loses, and no line end. -/
theorem Spells.plain {key : PoolKey} {name : String} (spells : Spells key name) :
    ∀ c ∈ name.toList, isDropped c = false ∧ c ≠ '\r' := by
  have plain : ∀ key ∈ PoolKey.all, ∀ name ∈ key.name :: key.aliases,
      name.toList.all (fun c => !isDropped c && c != '\r') = true := by decide
  have listed : key ∈ PoolKey.all := by cases key <;> decide
  have checked := plain key listed name (List.mem_cons.mpr spells)
  intro c member
  simpa using List.all_eq_true.mp checked c member

/-- A text that the language makes a spelling of a setting is written like that. -/
theorem Spells.written {key : PoolKey} {body : List Char} (spells : Spells key (keyValue body)) :
    keyValue body = String.ofList body ∧ bareText body = String.ofList body := by
  have plain := spells.plain
  rw [keyValue, String.toList_ofList] at plain
  have unified : unifyLineEnds body = body := by
    apply unifyLineEnds_of_noFeed
    intro feed
    have dropped := (plain '\n' feed).1
    simp [isDropped] at dropped
  rw [unified] at plain
  refine ⟨by rw [keyValue, unified], ?_⟩
  rw [bareText, List.filter_eq_self.mpr fun c member => by rw [(plain c member).1]; rfl]

/-- A key is recognised by its value unless it is recognised by the loss of something in it. -/
theorem recognised_by_value_iff (body : List Char) :
    (∀ key, Spells key (bareText body) ↔ Spells key (keyValue body)) ↔
      bareText body = String.ofList body ∨ ∀ key, ¬ Spells key (bareText body) := by
  constructor
  · intro exact_
    by_cases spelled : ∃ key, Spells key (bareText body)
    · obtain ⟨key, spells⟩ := spelled
      exact .inl ((exact_ key).mp spells).written.2
    · exact .inr fun key spells => spelled ⟨key, spells⟩
  · rintro (same | unspelled) key
    · constructor
      · intro spells
        rw [same] at spells
        have noReturn : '\r' ∉ body := by
          intro found
          exact (spells.plain '\r' (by simpa using found)).2 rfl
        rwa [keyValue, unifyLineEnds_of_noReturn noReturn]
      · intro spells
        rw [same, ← spells.written.1]
        exact spells
    · constructor
      · intro spells
        exact absurd spells (unspelled key)
      · intro spells
        obtain ⟨written, bare⟩ := spells.written
        rw [written, ← bare] at spells
        exact absurd spells (unspelled key)

theorem checkSettings_append (first second : List (String × Expr)) :
    checkSettings (first ++ second) = (checkSettings first).append (checkSettings second) := by
  induction first with
  | nil => rfl
  | cons setting rest ih => simp [checkSettings, ih, Outcome.append]

end PoolCheck

namespace Lowering
open Syntax PoolCheck Text

def checkEntries (file : Path) (entries : List Node) : Outcome :=
  checkSettings ((entries.filterMap Node.keyed?).map (settingAt file))

/-- The check of a value that is set under the key of a setting, or under a key that is not
recognised. -/
def checkAs (file : Path) (value : Node) : Option PoolKey → Outcome
  | none => .none
  | some key =>
    checkValue key (literalText (PoolRule.of key).default (exprOf file value).value)
      (location file value.span)

/-- A pair of a record in braces, with its key and its value. -/
structure IsEntry (entry key value : Node) : Prop where
  pair : entry.kind = .pair
  keyFound : entry.child? .key = some key
  valueFound : entry.child? .value = some value

theorem checkEntries_keyed (file : Path) {entry key value : Node}
    (isEntry : IsEntry entry key value) (isString : key.kind = .string) :
    checkEntries file [entry] = checkAs file value (PoolKey.lookup? (plainToken key.text)) := by
  have keyed : entry.keyed? = some (key.text, value) := Node.keyed?_eq_some.mpr
    ⟨isEntry.pair, key, isEntry.keyFound, isString, rfl, isEntry.valueFound⟩
  simp only [checkEntries, List.filterMap_cons, keyed, List.filterMap_nil, List.map_cons,
    List.map_nil, settingAt, checkSettings, checkSetting, exprOf_location]
  cases PoolKey.lookup? (plainToken key.text) with
  | none => rfl
  | some key => simp [checkAs, Outcome.append, Outcome.none]

theorem checkPool_dictionary (file : Path) {dictionary : Node}
    (braces : dictionary.kind = .dictionary) :
    checkPool (exprOf file dictionary).value = checkEntries file dictionary.entries := by
  have settings : settings? (exprOf file dictionary).value =
      some ((dictionary.entries.filterMap Node.keyed?).map (settingAt file)) := by
    rw [settings?_exprOf]
    simp [Node.fields?, Node.record?, braces]
  rw [checkPool, settings]
  rfl

/-- A value under a plain quoted key is checked as the setting that the key is recognised as, between
the checks of the other entries, and not at all if the key is not recognised. The key is recognised
as a setting if it spells it without its quotes and line feeds. That is the same as being a spelling
by the value of the key, unless the key has a quote or a line end in it and spells a setting without. -/
theorem plain_key_recognised (file : Path) (dictionary entry key value : Node)
    (before after : List Node) (body : List Char) (braces : dictionary.kind = .dictionary)
    (split : dictionary.entries = before ++ entry :: after) (isEntry : IsEntry entry key value)
    (isString : key.kind = .string) (quoted : PlainQuoted key.text.toList body) :
    checkPool (exprOf file dictionary).value =
      ((checkEntries file before).append
        (checkAs file value (PoolKey.lookup? (plainToken key.text)))).append
          (checkEntries file after) ∧
    (∀ setting, PoolKey.lookup? (plainToken key.text) = some setting ↔
      Spells setting (bareText body)) ∧
    ((∀ setting, PoolKey.lookup? (plainToken key.text) = some setting ↔
        Spells setting (keyValue body)) ↔
      bareText body = String.ofList body ∨ ∀ setting, ¬ Spells setting (bareText body)) := by
  have token := plainToken_quoted quoted
  refine ⟨?_, ?_, ?_⟩
  · have parts : dictionary.entries = before ++ ([entry] ++ after) := split
    rw [checkPool_dictionary file braces, parts, ← checkEntries_keyed file isEntry isString]
    simp only [checkEntries, List.filterMap_append, List.map_append, checkSettings_append,
      Outcome.append, List.append_assoc]
  · intro setting
    rw [token]
    exact lookup?_iff (bareText body) setting
  · rw [token]
    simp only [lookup?_iff]
    exact recognised_by_value_iff body

/-- An entry whose key is no spelling of a setting. -/
def timeoutEntry : Node :=
  .mk .pair .plain "" default [.mk .string .key "'timeout'" default [],
    .mk .integer .value "1" default []]

/-- An entry whose key spells a setting over two lines. -/
def brokenEntry : Node :=
  .mk .pair .plain "" default [.mk .string .key "\"\"\"max\nOpenConnections\"\"\"" default [],
    .mk .integer .value "0" default []]

theorem brokenEntry_recognised : ∃ key value : Node,
    let file : Path := ⟨0, ["app.py"]⟩
    let record : Node := .mk .dictionary .plain "" default [timeoutEntry, brokenEntry]
    let body := "max\nOpenConnections".toList
    record.kind = .dictionary ∧ record.entries = [timeoutEntry] ++ brokenEntry :: [] ∧
      IsEntry brokenEntry key value ∧ key.kind = .string ∧ PlainQuoted key.text.toList body ∧
      checkPool (exprOf file record).value = ((checkEntries file [timeoutEntry]).append
        (checkAs file value (PoolKey.lookup? (plainToken key.text)))).append
          (checkEntries file []) ∧
      PoolKey.lookup? (plainToken key.text) = some .maxOpenConnections := by
  have isEntry : IsEntry brokenEntry _ _ := ⟨rfl, rfl, rfl⟩
  have quoted : PlainQuoted "\"\"\"max\nOpenConnections\"\"\"".toList
      "max\nOpenConnections".toList :=
    @PlainQuoted.triple '"' "max\nOpenConnections".toList (.inl rfl) (by decide +kernel)
      (by decide +kernel)
  obtain ⟨whole, recognised, -⟩ := plain_key_recognised ⟨0, ["app.py"]⟩
    (.mk .dictionary .plain "" default [timeoutEntry, brokenEntry]) brokenEntry _ _
    [timeoutEntry] [] _ rfl rfl isEntry rfl quoted
  exact ⟨_, _, rfl, rfl, isEntry, rfl, quoted, whole,
    (recognised _).mpr (.inl (by decide +kernel))⟩

/-- A key with a quote in the middle, which the language takes for another name than any setting's. -/
def quoteInKeyText : String :=
  "import jdbc\njdbc.Client(connectionPool=\x7b\"max\x27OpenConnections\": 0\x7d)\n"

/-- The key is recognised, and its value is reported. -/
theorem quoteInKey_recognised :
    let body := "max\x27OpenConnections".toList
    PlainQuoted "\"max\x27OpenConnections\"".toList body ∧
      (∀ setting, ¬ Spells setting (keyValue body)) ∧
      PoolKey.lookup? (plainToken "\"max\x27OpenConnections\"") = some .maxOpenConnections ∧
      ∃ ds, (Scan.ofText .standard ⟨0, ["app.py"]⟩ quoteInKeyText.toList).result = .ok ds ∧
        ds.map (·.code) = ["SQL_101"] := by
  intro body
  have reported : (Scan.ofText .standard ⟨0, ["app.py"]⟩ quoteInKeyText.toList).result.toOption.any
      (·.map (·.code) == ["SQL_101"]) := by
    decide +kernel
  obtain ⟨ds, returned, codes⟩ := Scan.exists_returned reported
  have oneLine : body.all (fun c => c != '\\' && c != '"' && c != '\n' && c != '\r') = true := by
    decide +kernel
  have quoted : PlainQuoted "\"max\x27OpenConnections\"".toList body := by
    refine @PlainQuoted.single '"' body (.inl rfl) fun c member => ?_
    simpa [and_assoc] using List.all_eq_true.mp oneLine c member
  have recognised : PoolKey.lookup? (plainToken "\"max\x27OpenConnections\"") =
      some .maxOpenConnections := by
    decide +kernel
  refine ⟨quoted, ?_, recognised, ds, returned, beq_iff_eq.mp codes⟩
  intro setting spells
  have inKey : '\x27' ∈ (keyValue body).toList := by decide +kernel
  have plain := (spells.plain '\x27' inKey).1
  cases plain

end Lowering
end PoolLint
