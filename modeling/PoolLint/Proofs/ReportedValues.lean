import PoolLint.Proofs.LaidOutTrees
import PoolLint.Proofs.ScannedTrees

/-! What the scan reports call by call, for any configuration and any imports. What a call reports
stands at values of the record that holds its pool, and the place of such a value tells the record
and the call: the kinds of the nodes above it say how far up they are. -/
namespace PoolLint.Scan
open PoolLint.Syntax PoolCheck Lowering

def reportedBy (config : RuleConfig) (facts : FileFacts) (file : Path) (call : Node) :
    List Diagnostic :=
  match perform config facts.diagnostics (facts.isTarget config.targets)
      (callSiteOf file call).value with
  | .ok outcome => outcome.diagnostics
  | .error _ => []

theorem checkSites_reportedBy {config : RuleConfig} {facts : FileFacts} {file : Path}
    {calls : List Node} {ds : List Diagnostic}
    (done : (checkSites config facts (calls.map fun call => (callSiteOf file call).value)).result =
      .ok ds) : ds = calls.flatMap (reportedBy config facts file) := by
  induction calls generalizing ds with
  | nil =>
    cases done
    rfl
  | cons call rest ih =>
    simp only [List.map_cons, checkSites] at done
    rw [List.flatMap_cons, reportedBy]
    cases checked : perform config facts.diagnostics (facts.isTarget config.targets)
        (callSiteOf file call).value with
    | error fault =>
      rw [checked] at done
      cases done
    | ok outcome =>
      simp only [checked] at done
      cases goesOn : (checkSites config facts
          (rest.map fun call => (callSiteOf file call).value)).result with
      | error fault =>
        rw [goesOn] at done
        cases done
      | ok others =>
        rw [goesOn] at done
        cases done
        rw [ih goesOn]

/-- The parts of calls and records that values are read from, with the way to them: the arguments of
a call, the values of its named arguments, arguments without a list, and the values of pairs. -/
inductive Part (whole : Node) : List Nat → Node → Prop
  | argument (i j : Nat) (arguments entry : Node) (found : whole.children[i]? = some arguments)
      (list : arguments.kind = .argumentList) (place : arguments.children[j]? = some entry) :
      Part whole [i, j] entry
  | named (i j k : Nat) (arguments entry value : Node)
      (found : whole.children[i]? = some arguments) (list : arguments.kind = .argumentList)
      (place : arguments.children[j]? = some entry) (keyword : entry.kind = .keywordArgument)
      (held : entry.children[k]? = some value) : Part whole [i, j, k] value
  | bare (i : Nat) (arguments : Node) (call : whole.kind = .call)
      (found : whole.children[i]? = some arguments) : Part whole [i] arguments
  | keyed (j k : Nat) (entry value : Node) (place : whole.children[j]? = some entry)
      (pair : entry.kind = .pair) (held : entry.children[k]? = some value) :
      Part whole [j, k] value

/-- The place of what a part belongs to, told by the kind of the node above it. -/
def holder (root : Node) (place : List Nat) : List Nat :=
  match (root.nodeAt? place.dropLast).map Node.kind with
  | some .keywordArgument => place.dropLast.dropLast.dropLast
  | some .argumentList | some .pair => place.dropLast.dropLast
  | _ => place.dropLast

namespace Part

variable {whole part : Node} {way : List Nat}

theorem nodeAt? (is : Part whole way part) : whole.nodeAt? way = some part := by
  cases is with
  | argument i j arguments entry found list place => simp [Node.nodeAt?, found, place]
  | named i j k arguments entry value found list place keyword held =>
    simp [Node.nodeAt?, found, place, held]
  | bare i arguments call found => simp [Node.nodeAt?, found]
  | keyed j k entry value place pair held => simp [Node.nodeAt?, place, held]

theorem holder_eq (is : Part whole way part) {root : Node} {place : List Nat}
    (found : root.nodeAt? place = some whole) : holder root (place ++ way) = place := by
  have above (steps : List Nat) : root.nodeAt? (place ++ steps) = whole.nodeAt? steps := by
    rw [Node.nodeAt?_append, found]
    rfl
  cases is with
  | argument i j arguments entry here list inside =>
    have parent : root.nodeAt? (place ++ [i]) = some arguments := by
      simp [above, Node.nodeAt?, here]
    have up : (place ++ [i, j]).dropLast = place ++ [i] := by simp
    rw [holder, up, parent, Option.map_some, list]
    simp
  | named i j k arguments entry value here list inside keyword held =>
    have parent : root.nodeAt? (place ++ [i, j]) = some entry := by
      simp [above, Node.nodeAt?, here, inside]
    have up : (place ++ [i, j, k]).dropLast = place ++ [i, j] := by simp
    rw [holder, up, parent, Option.map_some, keyword]
    simp
  | bare i arguments call here =>
    have up : (place ++ [i]).dropLast = place := by simp
    rw [holder, up, found, Option.map_some, call]
  | keyed j k entry value inside pair held =>
    have parent : root.nodeAt? (place ++ [j]) = some entry := by
      simp [above, Node.nodeAt?, inside]
    have up : (place ++ [j, k]).dropLast = place ++ [j] := by simp
    rw [holder, up, parent, Option.map_some, pair]
    simp

end Part

theorem child?_mem {n m : Node} {role : Role} (found : n.child? role = some m) :
    m ∈ n.children := List.mem_of_find?_eq_some found

theorem child?_position {n m : Node} {role : Role} (found : n.child? role = some m) :
    ∃ i : Nat, n.children[i]? = some m := List.mem_iff_getElem?.mp (child?_mem found)

theorem entries_mem {n m : Node} (member : m ∈ n.entries) : m ∈ n.children := by
  rw [entries_eq] at member
  exact (List.mem_filter.mp member).1

/-- Every argument of a call is read from a part of it. -/
theorem argument_part (file : Path) {call : Node} (kind : call.kind = .call) {a : Argument}
    (member : a ∈ (callSiteOf file call).value.arguments) :
    ∃ way pool, Part call way pool ∧ a.value = (exprOf file pool).value := by
  obtain ⟨noted, inside, rfl⟩ := List.mem_map.mp member
  unfold argumentsOf at inside
  cases found : call.child? .arguments with
  | none => simp [found] at inside
  | some arguments =>
    obtain ⟨i, here⟩ := child?_position found
    rw [found] at inside
    dsimp only at inside
    split at inside
    · rename_i list
      have list : arguments.kind = .argumentList := beq_iff_eq.mp list
      obtain ⟨entry, listed, rfl⟩ := List.mem_map.mp inside
      obtain ⟨j, place⟩ := List.mem_iff_getElem?.mp (entries_mem listed)
      rw [argumentOf_value]
      cases named : entry.named? with
      | none => exact ⟨_, entry, .argument i j arguments entry here list place, rfl⟩
      | some field =>
        obtain ⟨name, value⟩ := field
        obtain ⟨nameNode, value, keyword, -, valueFound⟩ :=
          (Shortfall.named_iff entry value name).mpr named
        obtain ⟨k, held⟩ := child?_position valueFound
        exact ⟨_, value, .named i j k arguments entry value here list place keyword held, rfl⟩
    · cases List.mem_singleton.mp inside
      exact ⟨_, arguments, .bare i arguments kind here, rfl⟩

theorem namedValue?_mem {names : List String} {arguments : List Argument} {e : Expr}
    (found : namedValue? names arguments = some e) : ∃ a ∈ arguments, a.value = e := by
  induction arguments with
  | nil => cases found
  | cons a rest ih =>
    cases a with
    | positional value =>
      obtain ⟨a, member, same⟩ := ih found
      exact ⟨a, List.mem_cons_of_mem _ member, same⟩
    | named name value =>
      rw [namedValue?] at found
      split at found
      · cases found
        exact ⟨_, List.mem_cons_self, rfl⟩
      · obtain ⟨a, member, same⟩ := ih found
        exact ⟨a, List.mem_cons_of_mem _ member, same⟩

theorem elementAt_mem {α : Type} {xs : List α} {index : Int} {x : α}
    (found : elementAt xs index = .ok x) : x ∈ xs := by
  simp only [elementAt] at found
  generalize (if index < 0 then index + (xs.length : Int) else index) = position at found
  split at found
  · cases found
  · split at found
    · rename_i here
      cases found
      exact List.mem_of_getElem? here
    · cases found

/-- Whatever the configuration, the pool that is found is an argument. -/
theorem poolArgument_mem {arguments : List Argument} {names : List String} {count index : Int}
    {e : Expr} (found : poolArgument arguments names count index = .ok (some e)) :
    ∃ a ∈ arguments, a.value = e := by
  unfold poolArgument at found
  split at found
  · rename_i value named
    cases found
    exact namedValue?_mem named
  · split at found
    · cases found
    · split at found
      · cases found
      · rename_i value place
        cases found
        exact ⟨_, elementAt_mem place, rfl⟩
      · cases found

def finding? (file : Path) (field : String × Node) : Option Diagnostic :=
  (Shortfall.below? field.1 field.2).map (findingOf · (location file field.2.span))

/-- The settings that a call is checked for are those of one part of it, if it is checked at all. -/
theorem reportedBy_eq (config : RuleConfig) (facts : FileFacts) (file : Path) {call : Node}
    (kind : call.kind = .call) :
    reportedBy config facts file call = [] ∨
      facts.isTarget config.targets (callSiteOf file call).value = true ∧
        ∃ way pool fields, Part call way pool ∧ pool.fields? = some fields ∧
          reportedBy config facts file call = fields.filterMap (finding? file) := by
  unfold reportedBy perform
  split
  · rename_i outcome checked
    split at checked
    · cases checked
      exact .inl rfl
    · rename_i analyzed
      split at checked
      · cases checked
      · cases checked
        exact .inl rfl
      · rename_i e found
        cases checked
        obtain ⟨a, member, rfl⟩ := poolArgument_mem found
        obtain ⟨way, pool, part, lowered⟩ := argument_part file kind member
        rw [checkPool_diagnostics, lowered, settings?_exprOf]
        cases read : pool.fields? with
        | none => exact .inl rfl
        | some fields =>
          refine .inr ⟨?_, way, pool, fields, part, read, ?_⟩
          · simp only [isAnalyzed, Bool.not_eq_true', Bool.not_eq_false, Bool.and_eq_true]
              at analyzed
            exact analyzed.2
          · simp only [Option.map_some, Option.getD_some, List.filterMap_map]
            refine List.filterMap_congr fun field _ => ?_
            simp only [Function.comp_apply, Shortfall.tooLow?_settingAt, finding?]
            simp [settingAt, exprOf_location]
  · exact .inl rfl

def IsValueOf (entry value : Node) : Prop :=
  (entry.kind = .pair ∨ entry.kind = .keywordArgument) ∧ entry.child? .value = some value

theorem keyed?_isValueOf {entry value : Node} {name : String}
    (keyed : entry.keyed? = some (name, value)) : IsValueOf entry value := by
  obtain ⟨pair, key, -, -, -, held⟩ := Node.keyed?_eq_some.mp keyed
  exact ⟨.inl pair, held⟩

theorem named?_isValueOf {entry value : Node} {name : String}
    (named : entry.named? = some (name, value)) : IsValueOf entry value := by
  obtain ⟨nameNode, value, keyword, -, held⟩ := (Shortfall.named_iff entry value name).mpr named
  exact ⟨.inr keyword, held⟩

/-- Where the entries of a record stand: in the record itself, or in the arguments of a call. -/
theorem record?_cases {pool : Node} {entries : List Node}
    {read : Node → Option (String × Node)} (record : pool.record? = some (entries, read)) :
    (read = Node.keyed? ∧ entries = pool.entries) ∨
      read = Node.named? ∧ ∃ arguments, pool.child? .arguments = some arguments ∧
        arguments.kind = .argumentList ∧ entries = arguments.entries := by
  unfold Node.record? at record
  split at record
  · cases record
    exact .inl ⟨rfl, rfl⟩
  · split at record
    · obtain ⟨all, list, same⟩ := Option.map_eq_some_iff.mp record
      cases same
      obtain ⟨-, arguments, -, -, found, kind, rfl, -⟩ := Node.dictArguments?_eq_some.mp list
      exact .inr ⟨rfl, arguments, found, kind, rfl⟩
    · cases record

/-- The value of a setting is a part of the record, and the node above it is its entry. -/
theorem field_part {pool : Node} {fields : List (String × Node)}
    (read : pool.fields? = some fields) {field : String × Node} (member : field ∈ fields) :
    ∃ above k entry, Part pool (above ++ [k]) field.2 ∧ pool.nodeAt? above = some entry ∧
      IsValueOf entry field.2 := by
  obtain ⟨⟨entries, reader⟩, record, rfl⟩ := Option.map_eq_some_iff.mp read
  obtain ⟨entry, listed, made⟩ := List.mem_filterMap.mp member
  obtain ⟨name, value⟩ := field
  rcases record?_cases record with ⟨rfl, rfl⟩ | ⟨rfl, arguments, found, list, rfl⟩
  · have isValue := keyed?_isValueOf made
    obtain ⟨pair, -⟩ := Node.keyed?_eq_some.mp made
    obtain ⟨j, place⟩ := List.mem_iff_getElem?.mp (entries_mem listed)
    obtain ⟨k, held⟩ := child?_position isValue.2
    exact ⟨[j], k, entry, .keyed j k entry value place pair held, by simp [Node.nodeAt?, place],
      isValue⟩
  · have isValue := named?_isValueOf made
    obtain ⟨_, _, keyword, -, -⟩ := (Shortfall.named_iff entry value name).mpr made
    obtain ⟨i, here⟩ := child?_position found
    obtain ⟨j, place⟩ := List.mem_iff_getElem?.mp (entries_mem listed)
    obtain ⟨k, held⟩ := child?_position isValue.2
    exact ⟨[i, j], k, entry, .named i j k arguments entry value here list place keyword held,
      by simp [Node.nodeAt?, here, place], isValue⟩

section Laid

theorem isValueOf_within {entry value : Node} (laid : entry.LaidOut)
    (isValue : IsValueOf entry value) :
    value.span.Within entry.span ∧ value.span.size < entry.span.size :=
  ⟨laid.here.inside value (child?_mem isValue.2), laid.here.longer isValue.1 value isValue.2⟩

/-- The values of a record stand one behind the other. -/
theorem fields_ordered {pool : Node} (laid : pool.LaidOut) {fields : List (String × Node)}
    (read : pool.fields? = some fields) :
    fields.Pairwise fun a b => a.2.span.Before b.2.span := by
  obtain ⟨⟨entries, reader⟩, record, rfl⟩ := Option.map_eq_some_iff.mp read
  have listed : ∃ n : Node, n.LaidOut ∧ entries = n.entries ∧
      ∀ entry name value, reader entry = some (name, value) → IsValueOf entry value := by
    -- the entries are those of the record, or of the arguments of the call that makes it
    rcases record?_cases record with ⟨rfl, rfl⟩ | ⟨rfl, arguments, found, -, rfl⟩
    · exact ⟨pool, laid, rfl, fun _ _ _ => keyed?_isValueOf⟩
    · exact ⟨arguments, laid.child (child?_mem found), rfl, fun _ _ _ => named?_isValueOf⟩
  obtain ⟨n, laidList, rfl, values⟩ := listed
  have order : n.entries.Pairwise fun a b => a.span.Before b.span := by
    rw [entries_eq]
    exact laidList.here.ordered.filter _
  refine List.pairwise_filterMap.mpr (order.imp_of_mem ?_)
  intro a b first second before field made field' made'
  have left := isValueOf_within (laidList.child (entries_mem first)) (values a _ _ made)
  have right := isValueOf_within (laidList.child (entries_mem second)) (values b _ _ made')
  exact left.1.before right.1 before

theorem size_pos {n : Node} (laid : n.Laid) (text : n.text ≠ "") : 0 < n.span.size := by
  have covered := laid.size
  have some_ : n.text.utf8ByteSize ≠ 0 := fun none => text (String.utf8ByteSize_eq_zero_iff.mp none)
  unfold Span.size
  omega

theorem read?_empty (kind : ValueKind) : Number.read? kind (plainToken "") = none := by
  cases kind <;> decide +kernel

/-- A value that is reported is not empty: an empty text is no number. -/
theorem below?_size_pos {name : String} {value : Node} {key : PoolKey} (laid : value.LaidOut)
    (below : Shortfall.below? name value = some key) : 0 < value.span.size := by
  obtain ⟨-, written⟩ := Option.filter_eq_some_iff.mp below
  rw [Option.any_map] at written
  obtain ⟨text, literal, low⟩ := (Option.any_eq_true _ _).mp written
  have nonempty : text ≠ "" := by
    rintro rfl
    simp [isTooLow, read?_empty] at low
  rcases (Shortfall.written_iff value text).mpr literal with _ | ⟨operator, operand, -, first, second⟩
  · exact size_pos laid.here nonempty
  · -- one of the operator and the literal behind it is not empty
    have parts : operator.text ≠ "" ∨ operand.text ≠ "" := by
      by_contra both
      simp only [not_or, not_not] at both
      exact nonempty (by rw [both.1, both.2]; rfl)
    rcases parts with filled | filled
    · have inside := laid.here.inside operator (child?_mem first)
      exact Nat.lt_of_lt_of_le (size_pos (laid.child (child?_mem first)).here filled) inside.size_le
    · have inside := laid.here.inside operand (child?_mem second)
      exact Nat.lt_of_lt_of_le (size_pos (laid.child (child?_mem second)).here filled)
        inside.size_le

end Laid

end PoolLint.Scan
