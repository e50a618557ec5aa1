import Zigbee.Document.Json
import Zigbee.Document.JsonReader
import Zigbee.Proofs.Wire.Address

/-!
# Documents as text

A document that is written with one entry a line reads back as it was, if its numbers are
whole and fit a machine word and none of its texts is damaged. What follows a value in the
text may be anything that could not belong to a number.
-/

namespace Zigbee.Document

namespace Tree

mutual

/-- Whether the document can be told from its text. -/
def IsReadable : Tree → Prop
  | .decimal _ | .damaged => False
  | .integer n => -(Nat.pow 2 63 : Nat) ≤ n ∧ n < (Nat.pow 2 64 : Nat)
  | .list items => itemsAreReadable items
  | .table entries => entriesAreReadable entries
  | _ => True

/-- Whether every item of a list can be told from its text. -/
def itemsAreReadable : List Tree → Prop
  | [] => True
  | item :: rest => item.IsReadable ∧ itemsAreReadable rest

/-- Whether every entry of a table can be told from its text. -/
def entriesAreReadable : List (String × Tree) → Prop
  | [] => True
  | (_, value) :: rest => value.IsReadable ∧ entriesAreReadable rest

end

theorem itemsAreReadable_iff {items : List Tree} :
    itemsAreReadable items ↔ ∀ item ∈ items, item.IsReadable := by
  induction items with
  | nil => simp [itemsAreReadable]
  | cons item rest ih => rw [itemsAreReadable, ih, List.forall_mem_cons]

theorem entriesAreReadable_iff {entries : List (String × Tree)} :
    entriesAreReadable entries ↔ ∀ entry ∈ entries, entry.2.IsReadable := by
  induction entries with
  | nil => simp [entriesAreReadable]
  | cons entry rest ih => rw [entriesAreReadable, ih, List.forall_mem_cons]

end Tree

namespace JsonReader

/-! ### Blanks -/

theorem toList_newline (level : Nat) :
    (Json.newline level).toList = '\n' :: List.replicate (2 * level) ' ' := by
  simp [Json.newline]

theorem skipBlanks_newline (level : Nat) (cs : List Char) :
    skipBlanks ((Json.newline level).toList ++ cs) = skipBlanks cs := by
  have spaces (count : Nat) : skipBlanks (List.replicate count ' ' ++ cs) = skipBlanks cs := by
    induction count with
    | zero => rfl
    | succ count ih => rw [List.replicate_succ, List.cons_append, skipBlanks, if_pos (.inl rfl), ih]
  rw [toList_newline, List.cons_append, skipBlanks, if_pos (.inr (.inl rfl)), spaces]

theorem readValue_newline (fuel level : Nat) (cs : List Char) :
    readValue fuel ((Json.newline level).toList ++ cs) = readValue fuel cs := by
  cases fuel with
  | zero => rfl
  | succ fuel => rw [readValue, readValue, skipBlanks_newline]

theorem readItems_newline (fuel level : Nat) (cs : List Char) :
    readItems fuel ((Json.newline level).toList ++ cs) = readItems fuel cs := by
  cases fuel with
  | zero => rfl
  | succ fuel => rw [readItems, readItems, readValue_newline]

theorem readEntries_newline (fuel level : Nat) (cs : List Char) :
    readEntries fuel ((Json.newline level).toList ++ cs) = readEntries fuel cs := by
  cases fuel with
  | zero => rfl
  | succ fuel => rw [readEntries, readEntries, skipBlanks_newline]

theorem skipBlanks_skipBlanks (cs : List Char) : skipBlanks (skipBlanks cs) = skipBlanks cs := by
  induction cs with
  | nil => rfl
  | cons c rest ih =>
    rw [skipBlanks]
    split
    · exact ih
    · rename_i started
      rw [skipBlanks, if_neg started]

/-! ### Numbers -/

/-- Whether a number ends before these characters. -/
def Ends (cs : List Char) : Prop :=
  ∀ c ∈ cs.head?, c.isDigit = false ∧ c ≠ '.' ∧ c ≠ 'e' ∧ c ≠ 'E'

theorem ends_newline (level : Nat) (cs : List Char) :
    Ends ((Json.newline level).toList ++ cs) := by
  rw [toList_newline, List.cons_append]
  rintro c ⟨⟩
  decide

theorem takeDigits_append {cs : List Char} (digits : List Char)
    (all : ∀ c ∈ digits, c.isDigit = true) (ends : Ends cs) :
    takeDigits (digits ++ cs) = (digits, cs) := by
  have stops : cs.takeWhile Char.isDigit = [] ∧ cs.dropWhile Char.isDigit = cs := by
    cases cs with
    | nil => exact ⟨rfl, rfl⟩
    | cons c rest => simp [(ends c rfl).1]
  rw [takeDigits, List.takeWhile_append_of_pos all, List.dropWhile_append_of_pos all, stops.1,
    stops.2, List.append_nil]

theorem decimalValue_toDigits (n : Nat) : decimalValue (Nat.toDigits 10 n) = n :=
  Nat.ofDigitChars_toDigits (by decide) (by decide)

/-- The numeral of a positive number has no leading zero. -/
theorem toDigits_of_pos {n : Nat} (positive : 0 < n) :
    ∃ c rest, Nat.toDigits 10 n = c :: rest ∧ c ≠ '0' := by
  induction n using Nat.strongRecOn with
  | ind n ih =>
    by_cases small : n < 10
    · have every : ∀ d : Fin 10, d.val ≠ 0 → d.val.digitChar ≠ '0' := by decide
      exact ⟨_, [], Nat.toDigits_of_lt_base small, every ⟨n, small⟩ (Nat.ne_of_gt positive)⟩
    · obtain ⟨c, rest, digits, nonzero⟩ := ih (n / 10) (by omega) (by omega)
      refine ⟨c, rest ++ [(n % 10).digitChar], ?_, nonzero⟩
      rw [Nat.toDigits_of_base_le (by decide) (Nat.le_of_not_lt small), digits, List.cons_append]

theorem toDigits_eq_cons (n : Nat) :
    ∃ c rest, Nat.toDigits 10 n = c :: rest ∧ c.isDigit = true := by
  obtain ⟨c, rest, digits⟩ := List.exists_cons_of_ne_nil (Nat.toDigits_ne_nil (b := 10) (n := n))
  refine ⟨c, rest, digits, ?_⟩
  exact Nat.isDigit_of_mem_toDigits (by decide) (by decide) (digits ▸ List.mem_cons_self)

theorem takeWhole_toDigits (n : Nat) {cs : List Char} (ends : Ends cs) :
    takeWhole (Nat.toDigits 10 n ++ cs) = some (Nat.toDigits 10 n, cs) := by
  have taken := takeDigits_append (Nat.toDigits 10 n)
    (fun c => Nat.isDigit_of_mem_toDigits (by decide) (by decide)) ends
  rw [takeWhole, taken]
  rcases Nat.eq_zero_or_pos n with rfl | positive
  · rfl
  · obtain ⟨c, rest, digits, nonzero⟩ := toDigits_of_pos positive
    rw [digits]
    split
    · rename_i none
      cases none
    · rename_i zero
      exact absurd (List.cons.inj (Prod.mk.inj zero).1).1 nonzero
    · rename_i zero
      exact absurd (List.cons.inj (Prod.mk.inj zero).1).1 nonzero
    · rfl

theorem takeFraction_of_ends {cs : List Char} (ends : Ends cs) :
    takeFraction cs = some ([], cs) := by
  unfold takeFraction
  split
  · exact absurd rfl (ends '.' rfl).2.1
  · rfl

theorem takeExponent_of_ends {cs : List Char} (ends : Ends cs) :
    takeExponent cs = some ([], cs) := by
  cases cs with
  | nil => rfl
  | cons c rest => rw [takeExponent, if_neg (by simpa using (ends c rfl).2.2)]

/-- The numeral of a number, and what follows it. -/
theorem readNumber_toDigits (n : Nat) {cs : List Char} (ends : Ends cs) :
    readNumber (Nat.toDigits 10 n ++ cs) = some (numberOf false (Nat.toDigits 10 n) [], cs) ∧
      readNumber ('-' :: Nat.toDigits 10 n ++ cs) =
        some (numberOf true (Nat.toDigits 10 n) [], cs) := by
  have unsigned (rest : List Char) : Nat.toDigits 10 n ++ cs ≠ '-' :: rest := by
    intro minus
    obtain ⟨c, digits, numeral, digit⟩ := toDigits_eq_cons n
    rw [numeral, List.cons_append] at minus
    rw [(List.cons.inj minus).1] at digit
    exact absurd digit (by decide)
  constructor
  · rw [readNumber]
    · simp only [takeWhole_toDigits n ends, takeFraction_of_ends ends, takeExponent_of_ends ends,
        List.append_nil]
    · exact unsigned
  · unfold readNumber
    simp only [List.cons_append, takeWhole_toDigits n ends, takeFraction_of_ends ends,
      takeExponent_of_ends ends, List.append_nil]

/-- The numeral of an integer. -/
theorem readNumber_toString {n : Int} (reach : -(Nat.pow 2 63 : Nat) ≤ n ∧ n < (Nat.pow 2 64 : Nat))
    {cs : List Char} (ends : Ends cs) :
    readNumber ((toString n).toList ++ cs) = some (.integer n, cs) := by
  obtain n | n := n
  · have numeral : (toString (Int.ofNat n)).toList = Nat.toDigits 10 n := Nat.toList_repr
    have fits : n < Nat.pow 2 64 := Int.ofNat_lt.mp reach.2
    rw [numeral, (readNumber_toDigits n ends).1, numberOf, decimalValue_toDigits]
    simp only [ne_eq, not_true_eq_false, if_false, Bool.false_eq_true, fits, if_true]
    rfl
  · have numeral : (toString (Int.negSucc n)).toList = '-' :: Nat.toDigits 10 (n + 1) := by
      have written : toString (Int.negSucc n) = "-" ++ (n + 1).repr := rfl
      rw [written, String.toList_append, Nat.toList_repr]
      rfl
    have fits : ¬ Nat.pow 2 63 < n + 1 := by
      have := reach.1
      omega
    rw [numeral, (readNumber_toDigits (n + 1) ends).2, numberOf, decimalValue_toDigits]
    simp only [ne_eq, not_true_eq_false, if_false, if_true, fits, or_false, Nat.add_eq_zero_iff,
      Nat.one_ne_zero, and_false]
    rfl

/-! ### Texts -/

theorem value?_padded_of_lt {n : Nat} (small : n < 32) :
    ∃ a b c d, Text.Hex.padded 4 n = [a, b, c, d] ∧ Text.Hex.value? [a, b, c, d] = some n := by
  have length : (Text.Hex.padded 4 n).length = 4 :=
    Text.Hex.length_padded (by decide) (Nat.lt_trans small (by decide))
  obtain ⟨a, b, c, d, padded⟩ : ∃ a b c d, Text.Hex.padded 4 n = [a, b, c, d] := by
    match Text.Hex.padded 4 n, length with
    | [a, b, c, d], _ => exact ⟨a, b, c, d, rfl⟩
  refine ⟨a, b, c, d, padded, ?_⟩
  have read := Text.Hex.valueFrom?_padded 4 n
  rw [padded] at read
  exact read

/-- An escaped character is read in one step. -/
theorem readText_escape (fuel : Nat) (read : List Char) (c : Char) (cs : List Char) :
    readText (fuel + 1) (some read) (Json.escape c ++ cs) =
      readText fuel (some (c :: read)) cs := by
  have short {e : Char} (escaped : shortEscape? e = some c) (other : e ≠ 'u') :
      readText (fuel + 1) (some read) ('\\' :: e :: cs) = readText fuel (some (c :: read)) cs := by
    rw [readText]
    · simp only [escaped, Option.map_some]
    · simpa using other
  unfold Json.escape
  iterate 7
    split
    · rename_i same
      exact short (by rw [same]; rfl) (by decide)
  split
  · rename_i control
    obtain ⟨a, b, c', d, padded, value⟩ := value?_padded_of_lt control
    have unit : readEscapedUnit (a :: b :: c' :: d :: cs) = some (some c, cs) := by
      have low : ¬ 0xd800 ≤ c.toNat := by omega
      have low' : ¬ 0xdc00 ≤ c.toNat := by omega
      simp [readEscapedUnit, readUnit, value, low, low', Char.ofNat_toNat]
    rw [padded]
    simp only [List.cons_append, List.nil_append, readText, unit]
    rfl
  · rename_i quote backslash _ _ _ _ _ printable
    rw [List.singleton_append, readText]
    · rw [if_neg printable, Option.map_some]
    · simpa using quote
    · intro rest same
      exact absurd same backslash
    · intro e rest same
      exact absurd same backslash

theorem length_escape_pos (c : Char) : 0 < (Json.escape c).length := by
  unfold Json.escape
  repeat' split
  all_goals simp

/-- A text is read up to its closing quote. -/
theorem readText_flatMap_escape {text : List Char} {fuel : Nat}
    (enough : (text.flatMap Json.escape).length < fuel) (read cs : List Char) :
    readText fuel (some read) (text.flatMap Json.escape ++ '"' :: cs) =
      some (some (String.ofList (read.reverse ++ text)), cs) := by
  induction text generalizing fuel read with
  | nil =>
    obtain _ | fuel := fuel
    · cases enough
    · simp [readText]
  | cons c rest ih =>
    obtain _ | fuel := fuel
    · cases enough
    · have longer := length_escape_pos c
      rw [List.flatMap_cons, List.length_append] at enough
      rw [List.flatMap_cons, List.append_assoc, readText_escape, ih (by omega),
        List.reverse_cons, List.append_assoc, List.singleton_append]

/-! ### Values -/

/-- A table whose names are whole. -/
theorem treeOfEntries_map_some (entries : List (String × Tree)) :
    treeOfEntries (entries.map fun entry => (some entry.1, entry.2)) = .table entries := by
  have whole : (entries.map fun entry => (some entry.1, entry.2)).mapM
      (fun (entry : Option String × Tree) => entry.1.map (·, entry.2)) = some entries := by
    induction entries with
    | nil => rfl
    | cons entry rest ih => rw [List.map_cons, List.mapM_cons, ih]; rfl
  rw [treeOfEntries, whole]

theorem skipBlanks_quote (cs : List Char) : skipBlanks ('"' :: cs) = '"' :: cs := by
  simp [skipBlanks]

/-- A text is read up to the quote that ends it. -/
theorem readText_name (text : String) (cs : List Char) :
    readText ((text.toList.flatMap Json.escape ++ '"' :: cs).length + 1) (some [])
      (text.toList.flatMap Json.escape ++ '"' :: cs) = some (some text, cs) := by
  have enough : (text.toList.flatMap Json.escape).length <
      (text.toList.flatMap Json.escape ++ '"' :: cs).length + 1 := by
    rw [List.length_append]
    omega
  rw [readText_flatMap_escape enough, List.reverse_nil, List.nil_append, String.ofList_toList]

theorem readValue_quote {text : String} {fuel : Nat} (cs : List Char) :
    readValue (fuel + 1) ((Json.quote text).toList ++ cs) = some (.text text, cs) := by
  have written : (Json.quote text).toList ++ cs =
      '"' :: (text.toList.flatMap Json.escape ++ '"' :: cs) := by
    simp [Json.quote]
  rw [written, readValue, skipBlanks_quote]
  simp only [readText_name, Option.map_some, treeOfText]

theorem readValue_of_digit {c : Char} (start : c.isDigit = true ∨ c = '-') (fuel : Nat)
    (cs : List Char) : readValue (fuel + 1) (c :: cs) = readNumber (c :: cs) := by
  have other {d : Char} (plain : d.isDigit = false ∧ d ≠ '-') : c ≠ d := by
    rintro rfl
    exact start.elim (by simp [plain.1]) plain.2
  have blank : skipBlanks (c :: cs) = c :: cs := by
    simp [skipBlanks, other (d := ' ') (by decide), other (d := '\n') (by decide),
      other (d := '\t') (by decide), other (d := '\r') (by decide)]
  rw [readValue, blank]
  split
  iterate 6
    · rename_i same
      exact absurd (List.cons.inj same).1 (other (by decide))
  · rfl

theorem toString_eq_cons (n : Int) :
    ∃ c rest, (toString n).toList = c :: rest ∧ (c.isDigit = true ∨ c = '-') := by
  obtain n | n := n
  · have numeral : (toString (Int.ofNat n)).toList = Nat.toDigits 10 n := Nat.toList_repr
    obtain ⟨c, rest, digits, digit⟩ := toDigits_eq_cons n
    exact ⟨c, rest, numeral.trans digits, .inl digit⟩
  · exact ⟨'-', (n + 1).repr.toList, String.toList_append, .inr rfl⟩

theorem readValue_toString {n : Int}
    (reach : -(Nat.pow 2 63 : Nat) ≤ n ∧ n < (Nat.pow 2 64 : Nat)) (fuel : Nat) {cs : List Char}
    (ends : Ends cs) :
    readValue (fuel + 1) ((toString n).toList ++ cs) = some (.integer n, cs) := by
  obtain ⟨c, rest, numeral, start⟩ := toString_eq_cons n
  rw [numeral, List.cons_append, readValue_of_digit start, ← List.cons_append, ← numeral,
    readNumber_toString reach ends]

/-- A list that is not empty. -/
theorem readValue_list {fuel : Nat} {cs rest : List Char} {items : List Tree}
    (read : readItems fuel cs = some (items, rest)) :
    readValue (fuel + 1) ('[' :: cs) = some (.list items, rest) := by
  have started : skipBlanks ('[' :: cs) = '[' :: cs := by simp [skipBlanks]
  have skipped : readItems fuel (skipBlanks cs) = readItems fuel cs := by
    obtain _ | _ | fuel := fuel
    · rfl
    · rfl
    · rw [readItems, readItems, readValue, readValue, skipBlanks_skipBlanks]
  simp only [readValue, started]
  split
  · -- an item does not start with the bracket
    rename_i closed
    rw [← skipped, closed] at read
    obtain _ | _ | fuel := fuel
    · cases read
    · cases read
    · simp [readItems, readValue, skipBlanks, readNumber, takeWhole, takeDigits] at read
  · rw [skipped, read]
    rfl

/-- A table that is not empty. -/
theorem readValue_table {fuel : Nat} {cs rest : List Char} {entries : List (String × Tree)}
    (read : readEntries fuel cs =
      some (entries.map fun entry => (some entry.1, entry.2), rest)) :
    readValue (fuel + 1) ('\x7b' :: cs) = some (.table entries, rest) := by
  have started : skipBlanks ('\x7b' :: cs) = '\x7b' :: cs := by simp [skipBlanks]
  have skipped : readEntries fuel (skipBlanks cs) = readEntries fuel cs := by
    obtain _ | fuel := fuel
    · rfl
    · rw [readEntries, readEntries, skipBlanks_skipBlanks]
  simp only [readValue, started]
  split
  · rename_i closed
    rw [← skipped, closed] at read
    obtain _ | fuel := fuel
    · cases read
    · simp [readEntries, skipBlanks] at read
  · rw [skipped, read]
    exact congrArg (fun t => some (t, rest)) (treeOfEntries_map_some entries)

/-! ### Documents -/

/-- Parts on lines of their own. -/
def lines (level : Nat) (parts : List String) : List Char :=
  (("," ++ Json.newline level).intercalate parts).toList

theorem lines_singleton (level : Nat) (part : String) : lines level [part] = part.toList := by
  rw [lines, String.intercalate_singleton]

theorem lines_cons_cons (level : Nat) (first second : String) (rest : List String) :
    lines level (first :: second :: rest) =
      first.toList ++ (',' :: ((Json.newline level).toList ++ lines level (second :: rest))) := by
  rw [lines, String.intercalate_cons_cons, lines]
  simp

theorem toList_enclose (level : Nat) (left right : String) (first : String) (rest : List String) :
    (Json.enclose level left right (first :: rest)).toList =
      left.toList ++ ((Json.newline (level + 1)).toList ++ (lines (level + 1) (first :: rest) ++
        ((Json.newline level).toList ++ right.toList))) := by
  simp [Json.enclose, lines]

theorem skipBlanks_comma (cs : List Char) : skipBlanks (',' :: cs) = ',' :: cs := by
  simp [skipBlanks]

theorem skipBlanks_brace (cs : List Char) : skipBlanks ('\x7d' :: cs) = '\x7d' :: cs := by
  simp [skipBlanks]

theorem ends_comma (cs : List Char) : Ends (',' :: cs) := by
  rintro c ⟨⟩
  decide

/-- Whether a document on a level is read up to its end, if it is followed by something that
could not belong to a number. -/
def ReadsBack (level : Nat) (t : Tree) : Prop :=
  ∀ {fuel : Nat} {cs : List Char}, 2 * (Json.prettyAt level t).toList.length ≤ fuel → Ends cs →
    readValue fuel ((Json.prettyAt level t).toList ++ cs) = some (t, cs)

/-- The items of a list are read up to its closing bracket. -/
theorem readItems_lines {level outer : Nat} {items : List Tree} (nonempty : items ≠ [])
    (each : ∀ item ∈ items, ReadsBack level item) {fuel : Nat}
    (enough : 2 * (lines level (Json.prettyItems level items)).length < fuel) (cs : List Char) :
    readItems fuel (lines level (Json.prettyItems level items) ++
      ((Json.newline outer).toList ++ ']' :: cs)) = some (items, cs) := by
  induction items generalizing fuel with
  | nil => exact absurd rfl nonempty
  | cons item rest ih =>
    obtain ⟨first, others⟩ := List.forall_mem_cons.mp each
    obtain _ | fuel := fuel
    · cases enough
    cases rest with
    | nil =>
      rw [Json.prettyItems, Json.prettyItems, lines_singleton] at enough ⊢
      rw [readItems, first (by omega) (ends_newline outer _)]
      simp only [skipBlanks_newline]
      rfl
    | cons second rest =>
      rw [Json.prettyItems, Json.prettyItems, lines_cons_cons, ← Json.prettyItems] at enough ⊢
      simp only [List.length_append, List.length_cons] at enough
      rw [List.append_assoc, List.cons_append, readItems, first (by omega) (ends_comma _)]
      simp only [skipBlanks_comma, List.append_assoc, readItems_newline]
      rw [ih (by simp) others (by omega)]
      rfl

theorem toList_entry (name value : String) (cs : List Char) :
    (Json.quote name ++ ": " ++ value).toList ++ cs =
      '"' :: (name.toList.flatMap Json.escape ++ '"' :: ':' :: ' ' :: (value.toList ++ cs)) := by
  simp [Json.quote]

theorem readValue_space (fuel : Nat) (cs : List Char) :
    readValue fuel (' ' :: cs) = readValue fuel cs := by
  cases fuel with
  | zero => rfl
  | succ fuel => rw [readValue, readValue, skipBlanks, if_pos (.inl rfl)]

theorem skipBlanks_colon (cs : List Char) : skipBlanks (':' :: cs) = ':' :: cs := by
  simp [skipBlanks]

section Entry

variable {fuel : Nat} {name value : String} {tree : Tree} {cs after rest : List Char}

/-- Before the closing brace, the name of an entry is read, and then its value. -/
theorem readEntries_last (read : readValue fuel (value.toList ++ cs) = some (tree, after))
    (brace : skipBlanks after = '\x7d' :: rest) :
    readEntries (fuel + 1) ((Json.quote name ++ ": " ++ value).toList ++ cs) =
      some ([(some name, tree)], rest) := by
  rw [toList_entry, readEntries, skipBlanks_quote]
  simp only [readText_name, skipBlanks_colon, readValue_space, read, brace]

/-- Before a comma there follow the other entries. -/
theorem readEntries_more {entries : List (Option String × Tree)} {last : List Char}
    (read : readValue fuel (value.toList ++ cs) = some (tree, after))
    (comma : skipBlanks after = ',' :: rest)
    (others : readEntries fuel rest = some (entries, last)) :
    readEntries (fuel + 1) ((Json.quote name ++ ": " ++ value).toList ++ cs) =
      some ((some name, tree) :: entries, last) := by
  rw [toList_entry, readEntries, skipBlanks_quote]
  simp only [readText_name, skipBlanks_colon, readValue_space, read, comma, others,
    Option.map_some]

end Entry

/-- The entries of a table are read up to its closing brace. -/
theorem readEntries_lines {level outer : Nat} {entries : List (String × Tree)}
    (nonempty : entries ≠ []) (each : ∀ entry ∈ entries, ReadsBack level entry.2) {fuel : Nat}
    (enough : 2 * (lines level (Json.prettyEntries level entries)).length < fuel)
    (cs : List Char) :
    readEntries fuel (lines level (Json.prettyEntries level entries) ++
      ((Json.newline outer).toList ++ '\x7d' :: cs)) =
        some (entries.map fun entry => (some entry.1, entry.2), cs) := by
  induction entries generalizing fuel with
  | nil => exact absurd rfl nonempty
  | cons entry rest ih =>
    obtain ⟨name, value⟩ := entry
    obtain ⟨first, others⟩ := List.forall_mem_cons.mp each
    dsimp only at first
    obtain _ | fuel := fuel
    · cases enough
    cases rest with
    | nil =>
      rw [Json.prettyEntries, Json.prettyEntries, lines_singleton] at enough ⊢
      simp only [String.toList_append, List.length_append] at enough
      have brace := skipBlanks_newline outer ('\x7d' :: cs)
      rw [skipBlanks_brace] at brace
      exact readEntries_last (first (by omega) (ends_newline outer _)) brace
    | cons second rest =>
      obtain ⟨name', value'⟩ := second
      rw [Json.prettyEntries, Json.prettyEntries, lines_cons_cons, ← Json.prettyEntries]
        at enough ⊢
      simp only [String.toList_append, List.length_append, List.length_cons] at enough
      have behind := @ih (by simp) others fuel (by omega)
      have later := (readEntries_newline fuel level _).trans behind
      rw [List.append_assoc, List.cons_append, List.append_assoc]
      exact readEntries_more (first (by omega) (ends_comma _)) (skipBlanks_comma _) later

theorem readsBack_list {items : List Tree} {level : Nat}
    (each : ∀ item ∈ items, ReadsBack (level + 1) item) : ReadsBack level (.list items) := by
  intro fuel cs enough ends
  obtain _ | fuel := fuel
  · cases items <;> simp [Json.prettyAt, Json.prettyItems, Json.enclose] at enough
  cases items with
  | nil => simp [Json.prettyAt, Json.prettyItems, Json.enclose, readValue, skipBlanks]
  | cons item rest =>
    rw [Json.prettyAt, Json.prettyItems, toList_enclose, ← Json.prettyItems] at enough ⊢
    simp only [List.length_append] at enough
    have bracket : "[".toList.length = 1 := rfl
    have read := @readItems_lines _ level _ (List.cons_ne_nil item rest) each fuel (by omega) cs
    simp only [List.append_assoc]
    exact readValue_list ((readItems_newline fuel (level + 1) _).trans read)

theorem readsBack_table {entries : List (String × Tree)} {level : Nat}
    (each : ∀ entry ∈ entries, ReadsBack (level + 1) entry.2) :
    ReadsBack level (.table entries) := by
  intro fuel cs enough ends
  obtain _ | fuel := fuel
  · cases entries <;> simp [Json.prettyAt, Json.prettyEntries, Json.enclose] at enough
  cases entries with
  | nil => simp [Json.prettyAt, Json.prettyEntries, Json.enclose, readValue, skipBlanks]
  | cons entry rest =>
    obtain ⟨name, value⟩ := entry
    rw [Json.prettyAt, Json.prettyEntries, toList_enclose, ← Json.prettyEntries] at enough ⊢
    simp only [List.length_append] at enough
    have brace : "\x7b".toList.length = 1 := rfl
    have read := @readEntries_lines _ level _ (List.cons_ne_nil (name, value) rest) each fuel
      (by omega) cs
    simp only [List.append_assoc]
    exact readValue_table ((readEntries_newline fuel (level + 1) _).trans read)

/-- A document whose text does not depend on the level. -/
theorem readsBack_scalar {level : Nat} {t : Tree} (text : String)
    (written : Json.prettyAt level t = text) (nonempty : text.toList ≠ [])
    (read : ∀ {fuel cs}, Ends cs → readValue (fuel + 1) (text.toList ++ cs) = some (t, cs)) :
    ReadsBack level t := by
  intro fuel cs enough ends
  rw [written] at enough ⊢
  obtain _ | fuel := fuel
  · exact absurd (List.length_eq_zero_iff.mp (by omega)) nonempty
  · exact read ends

/-- Everything that can be told from its text is read back. -/
theorem readsBack (t : Tree) : t.IsReadable → ∀ level, ReadsBack level t := by
  refine @Tree.rec (fun t => t.IsReadable → ∀ level, ReadsBack level t)
    (fun items => ∀ item ∈ items, item.IsReadable → ∀ level, ReadsBack level item)
    (fun entries => ∀ entry ∈ entries, entry.2.IsReadable → ∀ level, ReadsBack level entry.2)
    (fun entry => entry.2.IsReadable → ∀ level, ReadsBack level entry.2)
    ?null ?bool ?integer ?decimal ?text ?damaged ?list ?table ?nil ?cons ?nil' ?cons' ?entry t
  case null =>
    intro _ level
    refine readsBack_scalar "null" rfl (by decide) fun _ => ?_
    simp [readValue, skipBlanks]
  case bool =>
    rintro (_ | _) _ level
    · refine readsBack_scalar "false" rfl (by decide) fun _ => ?_
      simp [readValue, skipBlanks]
    · refine readsBack_scalar "true" rfl (by decide) fun _ => ?_
      simp [readValue, skipBlanks]
  case integer =>
    intro n reach level
    refine readsBack_scalar (toString n) rfl ?_ fun ends => readValue_toString reach _ ends
    obtain ⟨c, rest, numeral, -⟩ := toString_eq_cons n
    rw [numeral]
    exact List.cons_ne_nil c rest
  case decimal => exact fun _ readable => readable.elim
  case text =>
    intro text _ level
    refine readsBack_scalar (Json.quote text) rfl ?_ fun _ => readValue_quote _
    simp [Json.quote]
  case damaged => exact fun readable => readable.elim
  case list =>
    intro items each readable level
    rw [Tree.IsReadable, Tree.itemsAreReadable_iff] at readable
    exact readsBack_list fun item mem => each item mem (readable item mem) _
  case table =>
    intro entries each readable level
    rw [Tree.IsReadable, Tree.entriesAreReadable_iff] at readable
    exact readsBack_table fun entry mem => each entry mem (readable entry mem) _
  case nil => simp
  case cons =>
    intro item rest first others
    exact List.forall_mem_cons.mpr ⟨first, others⟩
  case nil' => simp
  case cons' =>
    intro entry rest first others
    exact List.forall_mem_cons.mpr ⟨first, others⟩
  case entry => exact fun _ _ each => each

/-- What is written of a document is read as the document. -/
theorem read?_pretty {t : Tree} (readable : t.IsReadable) : read? (Json.pretty t) = some t := by
  have read := @readsBack t readable 0 (2 * (Json.pretty t).toList.length + 2) []
    (Nat.le_add_right _ _) (by simp [Ends])
  rw [List.append_nil, ← Json.pretty] at read
  rw [read?, read]
  rfl

end JsonReader
end Zigbee.Document
