import Chip8.Json.Reader
import Chip8.Json.Writer

/-!
# Decimal integers

An integer is written in decimal digits after its sign, and read back from them if they are not too
many.

* `Numeral.Short` says of which integers this is true.
* `ofDigits_decimals`, by induction on the number without its last digit, and `toDigits_head`: no
  number but zero is written with a leading zero, where a reader would stop.
* `readAtom_int`: an integer is read back, with its sign, where a row of a record ends after it.
-/

namespace Chip8

namespace Numeral

/-- The integer has no more digits than are read. -/
def Short (n : Int) : Prop := n.natAbs < Nat.pow 10 digitLimit

theorem ofDigits_append (ds : List Nat) (d : Nat) :
    ofDigits (ds ++ [d]) = 10 * ofDigits ds + d := by
  rw [ofDigits, List.foldl_append]
  rfl

/-- The values of the digits of a number. -/
def decimals (n : Nat) : List Nat := (Nat.toDigits 10 n).map (·.toNat - 48)

theorem ofDigits_decimals (n : Nat) : ofDigits (decimals n) = n := by
  induction n using Nat.strongRecOn with
  | ind n ih =>
    rw [decimals, Nat.toDigits_eq_if (by decide)]
    by_cases small : n < 10
    · rw [if_pos small]
      simp [ofDigits, Nat.toNat_digitChar_of_lt_ten small]
    · have last := Nat.toNat_digitChar_of_lt_ten (Nat.mod_lt n (show 10 > 0 by decide))
      rw [if_neg small, List.map_append, List.map_singleton, ofDigits_append, last]
      have first := ih (n / 10) (by omega)
      rw [decimals] at first
      rw [first]
      omega

theorem length_decimals_le {n k : Nat} (positive : 0 < k) (h : n < Nat.pow 10 k) :
    (decimals n).length ≤ k := by
  rw [decimals, List.length_map]
  exact (Nat.length_toDigits_le_iff (by decide) positive).mpr h

theorem ofDigits?_decimals {n : Nat} (h : n < Nat.pow 10 digitLimit) :
    ofDigits? (decimals n) = .ok n := by
  have few : (decimals n).length ≤ digitLimit := length_decimals_le (by decide) h
  rw [ofDigits?, if_neg (Nat.not_lt.mpr few), ofDigits_decimals]
  rfl

/-- Only the number zero begins with the digit zero. -/
theorem toDigits_head {n : Nat} {rest : List Char} (h : Nat.toDigits 10 n = '0' :: rest) :
    n = 0 ∧ rest = [] := by
  induction n using Nat.strongRecOn generalizing rest with
  | ind n ih =>
    rw [Nat.toDigits_eq_if (by decide)] at h
    by_cases small : n < 10
    · rw [if_pos small] at h
      simpa using h
    · rw [if_neg small] at h
      cases first : Nat.toDigits 10 (n / 10) with
      | nil => exact absurd first Nat.toDigits_ne_nil
      | cons c more =>
        rw [first, List.cons_append, List.cons.injEq] at h
        have := (ih (n / 10) (by omega) (h.1 ▸ first)).1
        omega

end Numeral

namespace Json

/-- What follows a value in a record. -/
def Ends (rest : List Char) : Prop := ∃ c more, rest = c :: more ∧ (c = ',' ∨ c = '\n')

variable {rest : List Char}

theorem takeDigits_append {ds : List Char} (digits : ∀ d ∈ ds, d.isDigit) (ends : Ends rest) :
    takeDigits (ds ++ rest) = (ds.map (·.toNat - 48), rest) := by
  have stop : rest.takeWhile Char.isDigit = [] ∧ rest.dropWhile Char.isDigit = rest := by
    obtain ⟨c, more, rfl, rfl | rfl⟩ := ends <;> exact ⟨rfl, rfl⟩
  rw [takeDigits, List.takeWhile_append_of_pos digits, List.dropWhile_append_of_pos digits, stop.1,
    stop.2, List.append_nil]

theorem readMagnitude_toDigits (negative : Bool) {n : Nat}
    (short : n < Nat.pow 10 Numeral.digitLimit) (ends : Ends rest) :
    readMagnitude negative (Nat.toDigits 10 n ++ rest)
      = .ok (.int (if negative then -(n : Int) else n), rest) := by
  have number := Numeral.ofDigits?_decimals short
  have fraction : readFraction rest = ([], rest) := by
    obtain ⟨c, more, rfl, rfl | rfl⟩ := ends <;> rfl
  have exponent : readExponent rest = (none, rest) := by
    obtain ⟨c, more, rfl, rfl | rfl⟩ := ends <;> rfl
  by_cases zero : n = 0
  · subst zero
    rw [show Numeral.decimals 0 = [0] from rfl] at number
    rw [Nat.toDigits_zero, List.singleton_append, readMagnitude]
    simp only [fraction, exponent, number]
    rfl
  · have digits : takeDigits (Nat.toDigits 10 n ++ rest) = (Numeral.decimals n, rest) :=
      takeDigits_append (fun _ => Nat.isDigit_of_mem_toDigits (by decide) (by decide)) ends
    have filled : (Numeral.decimals n).isEmpty = false := by
      simp [Numeral.decimals]
    rw [readMagnitude, digits]
    · simp only [filled, fraction, exponent, number]
      rfl
    · intro more begins
      cases written : Nat.toDigits 10 n with
      | nil => exact Nat.toDigits_ne_nil written
      | cons c ds =>
        rw [written, List.cons_append, List.cons.injEq] at begins
        exact zero (Numeral.toDigits_head (begins.1 ▸ written)).1

theorem readAtom_digit {c : Char} (digit : c.isDigit) :
    readAtom (c :: rest) = readMagnitude false (c :: rest) := by
  rw [readAtom]
  all_goals
    rintro _ ⟨⟩
    exact absurd digit (by decide)

theorem readAtom_minus {c : Char} (digit : c.isDigit) :
    readAtom ('-' :: c :: rest) = readMagnitude true (c :: rest) := by
  rw [readAtom]
  rintro _ ⟨⟩
  exact absurd digit (by decide)

theorem toDigits_eq_cons (n : Nat) : ∃ c ds, Nat.toDigits 10 n = c :: ds ∧ c.isDigit := by
  cases written : Nat.toDigits 10 n with
  | nil => exact absurd written Nat.toDigits_ne_nil
  | cons c ds =>
    have first : c ∈ Nat.toDigits 10 n := by simp [written]
    exact ⟨c, ds, rfl, Nat.isDigit_of_mem_toDigits (by decide) (by decide) first⟩

theorem toList_natCast (n : Nat) : (toString (n : Int)).toList = Nat.toDigits 10 n := by
  simp [Int.repr_eq_if]

theorem toList_negSucc (n : Nat) :
    (toString (Int.negSucc n)).toList = '-' :: Nat.toDigits 10 (n + 1) := by
  simp [Int.repr]

/-- An integer is read back, with its sign. -/
theorem readAtom_int {n : Int} (short : Numeral.Short n) (ends : Ends rest) :
    readAtom ((toString n).toList ++ rest) = .ok (.int n, rest) := by
  cases n with
  | ofNat n =>
    obtain ⟨c, ds, written, digit⟩ := toDigits_eq_cons n
    rw [Int.ofNat_eq_natCast, toList_natCast, written, List.cons_append, readAtom_digit digit,
      ← List.cons_append, ← written]
    exact readMagnitude_toDigits false short ends
  | negSucc n =>
    obtain ⟨c, ds, written, digit⟩ := toDigits_eq_cons (n + 1)
    rw [toList_negSucc, written, List.cons_append, List.cons_append, readAtom_minus digit,
      ← List.cons_append, ← written]
    exact readMagnitude_toDigits true short ends

theorem toString_eq_cons (n : Int) : ∃ c ds, (toString n).toList = c :: ds ∧
    (c.isDigit ∨ c = '-') := by
  cases n with
  | ofNat n =>
    obtain ⟨c, ds, written, digit⟩ := toDigits_eq_cons n
    exact ⟨c, ds, (toList_natCast n).trans written, .inl digit⟩
  | negSucc n => exact ⟨'-', _, toList_negSucc n, .inr rfl⟩

theorem ascii_toDigits (n : Nat) : ∀ d ∈ Nat.toDigits 10 n, d.toNat < 0x80 := by
  intro d written
  have digit := Nat.isDigit_of_mem_toDigits (by decide) (by decide) written
  simp only [Char.isDigit, Bool.and_eq_true, decide_eq_true_eq, UInt32.le_iff_toNat_le] at digit
  exact Nat.lt_of_le_of_lt digit.2 (by decide)

theorem ascii_int (n : Int) : ∀ d ∈ (toString n).toList, d.toNat < 0x80 := by
  cases n with
  | ofNat n =>
    rw [Int.ofNat_eq_natCast, toList_natCast]
    exact ascii_toDigits n
  | negSucc n =>
    rw [toList_negSucc]
    exact List.forall_mem_cons.mpr ⟨by decide, ascii_toDigits _⟩

end Json

end Chip8
