import Chip8.Json.Reader
import Chip8.Json.Writer
import Chip8.Text.Encoding

/-!
# Quoted texts

A text is quoted in ASCII, and read back from its quoted form.

* `HexCase.toList_nat`: a number of at most so many digits is written with exactly so many.
* `Escaped` says how one character may be written: by a letter, as itself, as its unit, or as two
  surrogates. `Escaped.read` and `Escaped.ascii` hold in each of these cases.
* `readText_escapes` and `ascii_quote` say the same of a whole string.
-/

namespace Chip8

namespace HexCase

/-- The last digits of a number, as many as asked for. -/
def lastDigits (style : HexCase) : Nat → Nat → List Char
  | 0, _ => []
  | width + 1, n => style.lastDigits width (n / 16) ++ [style.digit (n % 16)]

theorem digits_of_lt (style : HexCase) {n : Nat} (h : n < 16) :
    style.digits n = [style.digit n] := by
  rw [digits, if_pos h]

theorem digits_of_le (style : HexCase) {n : Nat} (h : 16 ≤ n) :
    style.digits n = style.digits (n / 16) ++ [style.digit (n % 16)] := by
  rw [digits, if_neg (Nat.not_lt.mpr h)]

theorem lastDigits_zero (style : HexCase) (width : Nat) :
    style.lastDigits width 0 = List.replicate width '0' := by
  induction width with
  | zero => rfl
  | succ width ih =>
    rw [lastDigits, Nat.zero_div, ih, List.replicate_succ']
    rfl

/-- A number with zeros in front is its last digits, if it has no more. -/
theorem toList_nat (style : HexCase) (width : Nat) {n : Nat} (h : n < Nat.pow 16 (width + 1)) :
    (style.nat (width + 1) n).toList = style.lastDigits (width + 1) n := by
  rw [nat, String.toList_ofList]
  -- The last digit is the same on both sides, and the zeros stand before the other digits.
  induction width generalizing n with
  | zero =>
    have small : n < 16 := by simpa [Nat.pow] using h
    simp [digits_of_lt style small, lastDigits, Nat.mod_eq_of_lt small]
  | succ width ih =>
    by_cases small : n < 16
    · simp [digits_of_lt style small, lastDigits, Nat.div_eq_of_lt small, Nat.mod_eq_of_lt small,
        lastDigits_zero, List.replicate_succ']
      rfl
    · have rest : n / 16 < Nat.pow 16 (width + 1) := Nat.div_lt_of_lt_mul (by
        rwa [Nat.mul_comm])
      rw [digits_of_le style (Nat.le_of_not_lt small), lastDigits, ← ih rest, List.length_append,
        List.length_singleton, Nat.add_sub_add_right, List.append_assoc]

theorem hexDigit?_digit {d : Nat} (h : d < 16) : hexDigit? (lower.digit d) = some d := by
  revert d
  decide

theorem ascii_digit {d : Nat} (h : d < 16) : (lower.digit d).toNat < 0x80 := by
  revert d
  decide

theorem ascii_lastDigits (width n : Nat) : ∀ d ∈ lower.lastDigits width n, d.toNat < 0x80 := by
  induction width generalizing n with
  | zero =>
    intro d none
    cases none
  | succ width ih =>
    rw [lastDigits, List.forall_mem_append]
    constructor
    · exact ih _
    · simpa using ascii_digit (Nat.mod_lt n (by decide))

end HexCase

namespace Json

variable {reversed : Text} {rest : List Char}

theorem readText_mark : readText reversed ('"' :: rest) = .ok (reversed.reverse, rest) := by
  rw [readText]
  rfl

theorem readText_plain {c : Char} (mark : c ≠ '"') (escape : c ≠ '\\') (printed : 0x20 ≤ c.toNat) :
    readText reversed (c :: rest) = readText (CodePoint.ofChar c :: reversed) rest := by
  rw [readText]
  · simp [escape, Nat.not_lt.mpr printed]
  all_goals simp [mark, escape]

theorem readText_letter {e c : Char} (meaning : escapeLetter? e = some c) :
    readText reversed ('\\' :: e :: rest) = readText (CodePoint.ofChar c :: reversed) rest := by
  rw [readText]
  · rw [meaning]
  · rintro _ _ _ _ _ rfl
    cases meaning

theorem toList_escapeUnit {n : Nat} (h : n < 0x10000) :
    (escapeUnit n).toList = '\\' :: 'u' :: HexCase.lower.lastDigits 4 n := by
  rw [escapeUnit, String.toList_append, HexCase.toList_nat _ 3 h]
  rfl

/-- Four digits are read as the unit that they were written for. -/
theorem readText_escapeUnit {n : Nat} (h : n < 0x10000) :
    readText reversed ((escapeUnit n).toList ++ rest) = readText (pushUnit reversed n) rest := by
  rw [toList_escapeUnit h]
  simp only [HexCase.lastDigits, List.nil_append, List.cons_append]
  have unit : hexUnit? (HexCase.lower.digit (n / 16 / 16 / 16 % 16))
      (HexCase.lower.digit (n / 16 / 16 % 16)) (HexCase.lower.digit (n / 16 % 16))
      (HexCase.lower.digit (n % 16)) = some n := by
    have below (k : Nat) : k % 16 < 16 := Nat.mod_lt k (by decide)
    simp only [hexUnit?, HexCase.hexDigit?_digit (below _), Option.bind_eq_bind, Option.bind_some,
      Option.pure_def, Option.some.injEq]
    omega
  rw [readText, unit]

theorem pushUnit_of_not_low {n : Nat} (h : (CodePoint.ofNat n).isLowSurrogate = false) :
    pushUnit reversed n = CodePoint.ofNat n :: reversed := by
  cases reversed <;> simp [pushUnit, h]

theorem value_ofNat {n : Nat} (h : n < 0x110000) : (CodePoint.ofNat n).value = n := by
  rw [CodePoint.ofNat, dif_pos h]

/-- The high surrogate of a code point beyond the first plane. -/
def highUnit (n : Nat) : Nat := 0xD800 + (n - 0x10000) / 0x400

/-- The low surrogate of a code point beyond the first plane. -/
def lowUnit (n : Nat) : Nat := 0xDC00 + (n - 0x10000) % 0x400

theorem highUnit_bounds {n : Nat} (h : n < 0x110000) :
    0xD800 ≤ highUnit n ∧ highUnit n < 0xDC00 := by
  unfold highUnit
  omega

theorem lowUnit_bounds (n : Nat) : 0xDC00 ≤ lowUnit n ∧ lowUnit n < 0xE000 := by
  unfold lowUnit
  omega

/-- The surrogates of a code point beyond the first plane are read as this code point. -/
theorem pushUnit_pair {n : Nat} (beyond : 0x10000 ≤ n) (h : n < 0x110000) :
    pushUnit (pushUnit reversed (highUnit n)) (lowUnit n) = CodePoint.ofNat n :: reversed := by
  have highs := highUnit_bounds h
  have lows := lowUnit_bounds n
  have high : (CodePoint.ofNat (highUnit n)).value = highUnit n := value_ofNat (by omega)
  have low : (CodePoint.ofNat (lowUnit n)).value = lowUnit n := value_ofNat (by omega)
  have first : pushUnit reversed (highUnit n) = CodePoint.ofNat (highUnit n) :: reversed := by
    apply pushUnit_of_not_low
    simp only [CodePoint.isLowSurrogate, high, Bool.and_eq_false_iff, decide_eq_false_iff_not]
    omega
  have pair : ((CodePoint.ofNat (highUnit n)).isHighSurrogate
      && (CodePoint.ofNat (lowUnit n)).isLowSurrogate) = true := by
    simp only [CodePoint.isHighSurrogate, CodePoint.isLowSurrogate, high, low, Bool.and_eq_true,
      decide_eq_true_eq]
    omega
  have sum : 0x10000 + (highUnit n - 0xD800) * 0x400 + (lowUnit n - 0xDC00) = n := by
    unfold highUnit lowUnit
    omega
  rw [first, pushUnit]
  simp only [pair, if_true, high, sum]

/-- How a character may be written inside a quoted text. -/
inductive Escaped (c : Char) : List Char → Prop where
  /-- By a letter that stands for it. -/
  | letter (e : Char) (meaning : escapeLetter? e = some c) (ascii : e.toNat < 0x80) :
    Escaped c ['\\', e]
  /-- As itself. -/
  | plain (mark : c ≠ '"') (escape : c ≠ '\\') (printed : 0x20 ≤ c.toNat)
    (ascii : c.toNat < 0x80) : Escaped c [c]
  /-- As its unit. -/
  | unit (h : c.toNat < 0x10000) : Escaped c (escapeUnit c.toNat).toList
  /-- As two surrogates. -/
  | pair (h : 0x10000 ≤ c.toNat) : Escaped c
    ((escapeUnit (highUnit c.toNat)).toList ++ (escapeUnit (lowUnit c.toNat)).toList)

theorem escaped_escapePoint (c : Char) : Escaped c (escapePoint (CodePoint.ofChar c)).toList := by
  have letter {n : Nat} (e : Char) (meaning : escapeLetter? e = some (Char.ofNat n))
      (ascii : e.toNat < 0x80) (h : c.toNat = n) : Escaped c ['\\', e] := by
    rw [← h, Char.ofNat_toNat] at meaning
    exact .letter e meaning ascii
  have value : (CodePoint.ofChar c).value = c.toNat := rfl
  unfold escapePoint
  rw [value]
  -- Seven characters have letters of their own; the others come in three ranges.
  split
  · exact letter '"' rfl (by decide) ‹_›
  split
  · exact letter '\\' rfl (by decide) ‹_›
  split
  · exact letter 'n' rfl (by decide) ‹_›
  split
  · exact letter 'r' rfl (by decide) ‹_›
  split
  · exact letter 't' rfl (by decide) ‹_›
  split
  · exact letter 'b' rfl (by decide) ‹_›
  split
  · exact letter 'f' rfl (by decide) ‹_›
  rename_i mark escape _ _ _ _ _
  split
  · rename_i printed
    rw [String.toList_singleton, Char.ofNat_toNat]
    apply Escaped.plain
    · rintro rfl
      exact mark rfl
    · rintro rfl
      exact escape rfl
    · exact printed.1
    · omega
  split
  · exact .unit ‹_›
  · rw [String.toList_append]
    exact .pair (Nat.le_of_not_lt ‹_›)

/-- A character comes back from what it is written as. -/
theorem Escaped.read {c : Char} {written : List Char} (h : Escaped c written) :
    readText reversed (written ++ rest) = readText (CodePoint.ofChar c :: reversed) rest := by
  have point : CodePoint.ofNat c.toNat = CodePoint.ofChar c := by
    ext
    exact value_ofNat (CodePoint.ofChar c).value_lt
  cases h with
  | letter e meaning ascii => exact readText_letter meaning
  | plain mark escape printed ascii => exact readText_plain mark escape printed
  | unit small =>
    rw [readText_escapeUnit small, pushUnit_of_not_low, point]
    rw [point]
    exact (Bool.or_eq_false_iff.mp (CodePoint.isSurrogate_ofChar c)).2
  | pair beyond =>
    have bound : c.toNat < 0x110000 := (CodePoint.ofChar c).value_lt
    have highs := highUnit_bounds bound
    have lows := lowUnit_bounds c.toNat
    rw [List.append_assoc, readText_escapeUnit (by omega), readText_escapeUnit (by omega),
      pushUnit_pair beyond bound, point]

theorem ascii_escapeUnit {n : Nat} (h : n < 0x10000) :
    ∀ d ∈ (escapeUnit n).toList, d.toNat < 0x80 := by
  intro d written
  rw [toList_escapeUnit h, List.mem_cons, List.mem_cons] at written
  obtain rfl | rfl | digit := written
  · decide
  · decide
  · exact HexCase.ascii_lastDigits _ _ d digit

theorem Escaped.ascii {c : Char} {written : List Char} (h : Escaped c written) :
    ∀ d ∈ written, d.toNat < 0x80 := by
  cases h with
  | letter e meaning ascii => simpa using ascii
  | plain mark escape printed ascii => simpa using ascii
  | unit small => exact ascii_escapeUnit small
  | pair beyond =>
    have highs := highUnit_bounds (CodePoint.ofChar c).value_lt
    have lows := lowUnit_bounds c.toNat
    have high : highUnit c.toNat < 0x10000 := Nat.lt_trans highs.2 (by decide)
    have low : lowUnit c.toNat < 0x10000 := Nat.lt_trans lows.2 (by decide)
    exact List.forall_mem_append.mpr ⟨ascii_escapeUnit high, ascii_escapeUnit low⟩

/-- The characters that a string is written as between its marks. -/
def escapes (s : String) : List Char :=
  s.toList.flatMap fun c => (escapePoint (CodePoint.ofChar c)).toList

theorem toList_quote (s : String) :
    (quote (Text.ofString s)).toList = '"' :: escapes s ++ ['"'] := by
  simp [quote, Text.ofString, escapes, List.flatMap_map]

theorem ascii_quote (s : String) : ∀ d ∈ (quote (Text.ofString s)).toList, d.toNat < 0x80 := by
  rw [toList_quote]
  simp only [List.mem_append, List.mem_cons, List.not_mem_nil, or_false, escapes, List.mem_flatMap]
  rintro d ((rfl | ⟨c, -, written⟩) | rfl)
  · decide
  · exact (escaped_escapePoint c).ascii d written
  · decide

/-- A quoted string is read back. -/
theorem readText_escapes (s : String) :
    readText [] (escapes s ++ '"' :: rest) = .ok (Text.ofString s, rest) := by
  have point (cs : List Char) (reversed : Text) :
      readText reversed ((cs.flatMap fun c => (escapePoint (CodePoint.ofChar c)).toList)
        ++ '"' :: rest) = .ok (reversed.reverse ++ cs.map CodePoint.ofChar, rest) := by
    induction cs generalizing reversed with
    | nil => simp [readText_mark]
    | cons c cs ih =>
      rw [List.flatMap_cons, List.append_assoc, (escaped_escapePoint c).read, ih]
      simp
  exact point s.toList []

end Json

end Chip8
