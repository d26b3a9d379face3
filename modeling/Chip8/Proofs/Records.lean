import Chip8.Proofs.Decimals
import Chip8.Proofs.Quotation
import Mathlib.Data.List.Nodup

/-!
# Records

A record is an object of strings, integers and nulls. It is written on rows, one for each member,
and read back from them.

* `Plain` values are those that fit on a row. Each is read back, and none begins with a blank.
* `readMembers_rows`: rows are read as the members that they were written for, by induction on
  the rows. The keys are distinct, so that no member takes the place of one before.
* `parse_pretty_ofRows` and `ascii_pretty_ofRows` say that a record is read back and is in ASCII.
-/

namespace Chip8

namespace Json

variable {rest : List Char}

theorem readValue_atom (depth room : Nat) {c : Char} (number : c.isDigit ∨ c = '-') :
    readValue (depth + 1) room (c :: rest) = readAtom (c :: rest) := by
  rw [readValue]
  all_goals
    rintro _ ⟨⟩
    revert number
    decide

theorem readValue_text (depth room : Nat) (s : String) :
    readValue (depth + 1) room ((quote (Text.ofString s)).toList ++ rest)
      = .ok (.str (Text.ofString s), rest) := by
  rw [toList_quote, List.append_assoc, List.cons_append, List.singleton_append, readValue,
    readText_escapes]
  rfl

/-- A value that fits on a row of a record. -/
inductive Plain : Json → Prop where
  | null : Plain .null
  | int {n : Int} (short : Numeral.Short n) : Plain (.int n)
  | str (s : String) : Plain (.str (Text.ofString s))

theorem Plain.read {v : Json} (plain : Plain v) (depth room : Nat) (ends : Ends rest) :
    readValue (depth + 1) room ((atom v).toList ++ rest) = .ok (v, rest) := by
  cases plain with
  | null => rfl
  | @int n short =>
    obtain ⟨c, ds, written, number⟩ := toString_eq_cons n
    rw [atom, written, List.cons_append, readValue_atom depth room number, ← List.cons_append,
      ← written, readAtom_int short ends]
  | str s => exact readValue_text depth room s

/-- No value begins with a blank. -/
theorem Plain.skipSpace {v : Json} (plain : Plain v) :
    skipSpace ((atom v).toList ++ rest) = (atom v).toList ++ rest := by
  cases plain with
  | null => rfl
  | @int n short =>
    obtain ⟨c, ds, written, number⟩ := toString_eq_cons n
    rw [atom, written, List.cons_append, Json.skipSpace, List.dropWhile_cons_of_neg]
    rintro blank
    simp only [isSpace, Bool.or_eq_true, decide_eq_true_eq] at blank
    obtain ((rfl | rfl) | rfl) | rfl := blank <;> exact absurd number (by decide)
  | str s =>
    rw [atom, toList_quote]
    rfl

theorem ascii_of_all {cs : List Char} (h : cs.all (·.toNat < 0x80) = true) :
    ∀ d ∈ cs, d.toNat < 0x80 := by
  simpa using h

theorem Plain.ascii {v : Json} (plain : Plain v) : ∀ d ∈ (atom v).toList, d.toNat < 0x80 := by
  cases plain with
  | null => exact ascii_of_all (by decide)
  | @int n short => exact ascii_int n
  | str s => exact ascii_quote s

/-- A row of a record. -/
def row (member : String × Json) : String :=
  quote (Text.ofString member.1) ++ ": " ++ atom member.2

theorem row_append (member : String × Json) : (row member).toList ++ rest =
    '"' :: (escapes member.1 ++ '"' :: ':' :: ' ' :: ((atom member.2).toList ++ rest)) := by
  simp [row, toList_quote]

theorem skipSpace_colon (cs : List Char) : skipSpace (':' :: cs) = ':' :: cs := rfl

theorem skipSpace_blank (cs : List Char) : skipSpace (' ' :: cs) = skipSpace cs := rfl

/-- After a row and a comma the next row is read. -/
theorem readMembers_row {member : String × Json} (plain : Plain member.2) (depth room : Nat)
    (before : List (Text × Json)) :
    readMembers (depth + 2) room before ((row member).toList ++ ',' :: rest) =
      readMembers (depth + 1) room (insertMember before (Text.ofString member.1) member.2)
        (skipSpace rest) := by
  have value := plain.read depth room (show Ends (',' :: rest) from ⟨',', rest, rfl, .inl rfl⟩)
  rw [row_append, readMembers, readText_escapes]
  simp only [bind, Except.bind, skipSpace_colon, skipSpace_blank, plain.skipSpace, value]
  rfl

/-- After the last row the object is closed. -/
theorem readMembers_last {member : String × Json} (plain : Plain member.2) (depth room : Nat)
    (before : List (Text × Json)) :
    readMembers (depth + 2) room before ((row member).toList ++ '\n' :: '\x7d' :: rest) =
      .ok (.obj (insertMember before (Text.ofString member.1) member.2), rest) := by
  have value := plain.read depth room
    (show Ends ('\n' :: '\x7d' :: rest) from ⟨'\n', '\x7d' :: rest, rfl, .inr rfl⟩)
  rw [row_append, readMembers, readText_escapes]
  simp only [bind, Except.bind, skipSpace_colon, skipSpace_blank, plain.skipSpace, value]
  rfl

/-- The rows of a record, one below the other. -/
def rowsText (ms : List (String × Json)) : List Char :=
  (("," ++ lineAt 1).intercalate (ms.map row)).toList

theorem rowsText_singleton (m : String × Json) : rowsText [m] = (row m).toList := by
  rw [rowsText, List.map_singleton, String.intercalate_singleton]

theorem rowsText_cons_cons (m next : String × Json) (more : List (String × Json)) :
    rowsText (m :: next :: more)
      = (row m).toList ++ ',' :: '\n' :: ' ' :: ' ' :: rowsText (next :: more) := by
  rw [rowsText, List.map_cons, List.map_cons, String.intercalate_cons_cons, ← List.map_cons,
    String.toList_append, String.toList_append, ← rowsText]
  simp [lineAt]

theorem row_eq_cons (m : String × Json) : ∃ cs, (row m).toList = '"' :: cs := by
  simp [row, quote]

theorem rowsText_eq_cons (m : String × Json) (more : List (String × Json)) :
    ∃ cs, rowsText (m :: more) = '"' :: cs := by
  obtain ⟨cs, first⟩ := row_eq_cons m
  cases more with
  | nil => exact ⟨cs, (rowsText_singleton m).trans first⟩
  | cons next more =>
    rw [rowsText_cons_cons, first]
    exact ⟨_, rfl⟩

theorem skipSpace_rowsText (m : String × Json) (more : List (String × Json)) :
    skipSpace ('\n' :: ' ' :: ' ' :: (rowsText (m :: more) ++ rest))
      = rowsText (m :: more) ++ rest := by
  obtain ⟨cs, first⟩ := rowsText_eq_cons m more
  rw [first]
  rfl

/-- The members that rows are written for. -/
def ofRows (ms : List (String × Json)) : List (Text × Json) :=
  ms.map fun m => (Text.ofString m.1, m.2)

theorem insertMember_of_absent {members : List (Text × Json)} {key : Text}
    (absent : key ∉ members.map (·.1)) (v : Json) :
    insertMember members key v = members ++ [(key, v)] := by
  have none : members.any (·.1 == key) = false := by
    rw [List.any_eq_false]
    intro m member same
    exact absent (List.mem_map.mpr ⟨m, member, eq_of_beq same⟩)
  rw [insertMember, none]
  rfl

/-- Rows are read as the members that they were written for, after those before. -/
theorem readMembers_rows (ms : List (String × Json)) (filled : ms ≠ [])
    (plain : ∀ m ∈ ms, Plain m.2) (before : List (Text × Json))
    (distinct : ((before ++ ofRows ms).map (·.1)).Nodup) {depth : Nat} (deep : ms.length < depth)
    (room : Nat) :
    readMembers depth room before (rowsText ms ++ '\n' :: '\x7d' :: rest)
      = .ok (.obj (before ++ ofRows ms), rest) := by
  induction ms generalizing before depth with
  | nil => exact absurd rfl filled
  | cons m more ih =>
    have absent : Text.ofString m.1 ∉ before.map (·.1) := by
      rw [List.map_append, List.nodup_append] at distinct
      intro earlier
      exact distinct.2.2 _ earlier _ List.mem_cons_self rfl
    have short := plain m List.mem_cons_self
    obtain ⟨depth, rfl⟩ : ∃ d, depth = d + 2 := by
      rw [List.length_cons] at deep
      exact ⟨depth - 2, by omega⟩
    cases more with
    | nil =>
      rw [rowsText_singleton, readMembers_last short, insertMember_of_absent absent]
      rfl
    | cons next more =>
      -- The rows below are read after one member more.
      have later := ih (by simp) (fun m' member => plain m' (List.mem_cons_of_mem m member))
        (before ++ [(Text.ofString m.1, m.2)]) (by simpa [ofRows] using distinct)
        (show (next :: more).length < depth + 1 from Nat.lt_of_succ_lt_succ deep)
      rw [rowsText_cons_cons, List.append_assoc, List.cons_append, List.cons_append,
        List.cons_append, List.cons_append, readMembers_row short, insertMember_of_absent absent,
        skipSpace_rowsText, later]
      simp [ofRows]

theorem length_rowsText (ms : List (String × Json)) : ms.length ≤ (rowsText ms).length := by
  induction ms with
  | nil => exact Nat.zero_le _
  | cons m more ih =>
    cases more with
    | nil =>
      obtain ⟨cs, first⟩ := rowsText_eq_cons m []
      simp [first]
    | cons next more =>
      rw [rowsText_cons_cons, List.length_append]
      simp only [List.length_cons] at ih ⊢
      omega

theorem ascii_row {m : String × Json} (plain : Plain m.2) :
    ∀ d ∈ (row m).toList, d.toNat < 0x80 := by
  rw [row, String.toList_append, String.toList_append]
  exact List.forall_mem_append.mpr
    ⟨List.forall_mem_append.mpr ⟨ascii_quote m.1, ascii_of_all (by decide)⟩, plain.ascii⟩

theorem ascii_rowsText {ms : List (String × Json)} (plain : ∀ m ∈ ms, Plain m.2) :
    ∀ d ∈ rowsText ms, d.toNat < 0x80 := by
  induction ms with
  | nil => simp [rowsText]
  | cons m more ih =>
    have first := ascii_row (plain m List.mem_cons_self)
    have later := ih fun m' member => plain m' (List.mem_cons_of_mem m member)
    cases more with
    | nil =>
      rw [rowsText_singleton]
      exact first
    | cons next more =>
      rw [rowsText_cons_cons, List.forall_mem_append]
      constructor
      · exact first
      · simp only [List.forall_mem_cons]
        exact ⟨by decide, by decide, by decide, by decide, later⟩

theorem Plain.prettyAt {v : Json} (plain : Plain v) (level : Nat) : prettyAt level v = atom v := by
  cases plain <;> rw [Json.prettyAt] <;> simp

theorem prettyMembers_ofRows {ms : List (String × Json)} (plain : ∀ m ∈ ms, Plain m.2)
    (level : Nat) : prettyMembers level (ofRows ms) = ms.map row := by
  induction ms with
  | nil => rfl
  | cons m more ih =>
    have later := ih fun m' member => plain m' (List.mem_cons_of_mem m member)
    rw [ofRows] at later
    rw [ofRows, List.map_cons, prettyMembers, later, (plain m List.mem_cons_self).prettyAt]
    rfl

theorem toList_pretty_ofRows {ms : List (String × Json)} (filled : ms ≠ [])
    (plain : ∀ m ∈ ms, Plain m.2) : (pretty (.obj (ofRows ms))).toList
      = '\x7b' :: '\n' :: ' ' :: ' ' :: (rowsText ms ++ ['\n', '\x7d']) := by
  cases ms with
  | nil => exact absurd rfl filled
  | cons m more =>
    have rows := prettyMembers_ofRows plain 1
    rw [ofRows, List.map_cons, prettyMembers] at rows
    rw [pretty, ofRows, List.map_cons, prettyAt, enclosed, rows, rowsText]
    simp [lineAt]

/-- A record is read back. -/
theorem parse_pretty_ofRows {ms : List (String × Json)} (filled : ms ≠ [])
    (plain : ∀ m ∈ ms, Plain m.2) (distinct : (ms.map (·.1)).Nodup) :
    parse (pretty (.obj (ofRows ms))) = .ok (.obj (ofRows ms)) := by
  have keys : (ofRows ms).map (·.1) = (ms.map (·.1)).map Text.ofString := by
    simp [ofRows]
  have apart : ((ofRows ms).map (·.1)).Nodup := by
    rw [keys]
    exact distinct.map fun _ _ => Text.ofString_injective
  have text := toList_pretty_ofRows filled plain
  have inside (depth : Nat) (deep : ms.length < depth) :
      readValue (depth + 1) nestingLimit (pretty (.obj (ofRows ms))).toList
        = .ok (.obj (ofRows ms), []) := by
    have rows : readMembers depth 990 [] (rowsText ms ++ ['\n', '\x7d'])
        = .ok (.obj (ofRows ms), []) := readMembers_rows ms filled plain [] apart deep 990
    obtain ⟨m, more, rfl⟩ := List.exists_cons_of_ne_nil filled
    obtain ⟨cs, first⟩ := rowsText_eq_cons m more
    rw [text, nestingLimit, readValue, skipSpace_rowsText]
    rw [first, List.cons_append] at rows ⊢
    exact rows
  have opening : skipSpace (pretty (.obj (ofRows ms))).toList
      = (pretty (.obj (ofRows ms))).toList := by
    rw [text]
    rfl
  have room : ms.length < 2 * (pretty (.obj (ofRows ms))).toList.length + 1 := by
    have long := length_rowsText ms
    rw [text]
    simp only [List.length_cons, List.length_append]
    omega
  rw [parse, parseWithin]
  simp only [opening, inside _ room]
  rfl

/-- A record is written in ASCII. -/
theorem ascii_pretty_ofRows {ms : List (String × Json)} (filled : ms ≠ [])
    (plain : ∀ m ∈ ms, Plain m.2) : ∀ d ∈ (pretty (.obj (ofRows ms))).toList, d.toNat < 0x80 := by
  rw [toList_pretty_ofRows filled plain]
  have rows := ascii_rowsText plain
  simp only [List.forall_mem_cons, List.forall_mem_append]
  exact ⟨by decide, by decide, by decide, by decide, rows, by decide, by decide, by simp⟩

end Json

end Chip8
