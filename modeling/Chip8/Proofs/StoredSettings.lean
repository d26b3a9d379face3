import Chip8.Proofs.Records
import Chip8.Settings.Stored

/-!
# Stored settings

Plain settings have a text as their name and integers in the other fields. They come back from the
text that they are stored as, and from their own list of members.

* `copied_plain` and `ofJson_members` for plain settings; `ofJson_eq_ok` says that only such
  settings are read from an object with a plain name and seed.
* `storage_lossless` puts both together: storing and reading back keeps the settings, and so does
  listing their members and reading those.
-/

namespace Chip8

theorem Text.toString_ofString (s : String) : (Text.ofString s).toString = s := by
  rw [toString, ofString, List.map_map]
  have same (c : Char) : ((CodePoint.ofChar c).toChar?).getD '\uFFFD' = c := by
    rw [CodePoint.toChar?_ofChar]
    rfl
  simp [Function.comp_def, same]

namespace Settings

/-- The value of a seed that may be missing. -/
def seedValue : Option Int → Json
  | none => .null
  | some n => .int n

/-- Settings with a text as their name and integers in the other fields. -/
def plain (name : Text) (rate timerCycle : Int) (seed : Option Int) : Settings :=
  ⟨.str name, .int rate, .int timerCycle, seedValue seed⟩

variable {name : Text} {rate timerCycle : Int} {seed : Option Int}

theorem copied_plain {room : Nat} (enough : 3 ≤ room) :
    (plain name rate timerCycle seed).copied room
      = .ok (plain name rate timerCycle seed).members := by
  have one := Json.checkPlainCopy_eq_ok_iff.mpr enough
  have last : Json.checkCopy room (seedValue seed) = .ok () := by
    cases seed <;> exact one
  have all : Json.checkItemCopies room ((plain name rate timerCycle seed).members.map (·.2))
      = .ok () := by
    simp only [plain, members, List.map_cons, List.map_nil, Json.checkItemCopies, Json.checkCopy,
      one, last, bind, Except.bind]
    rfl
  rw [copied, all]
  rfl

theorem check_plain : (plain name rate timerCycle seed).check = .ok ()
    ↔ 0 < rate ∧ 0 < timerCycle := by
  simp [check_eq_ok_iff, plain, Json.number?, Number.nonpositive]

theorem create_eq_ok_iff {name rate timerCycle seed : Json} {s : Settings} :
    create name rate timerCycle seed = .ok s
      ↔ s = ⟨name, rate, timerCycle, seed⟩ ∧ s.check = .ok () := by
  unfold create
  dsimp only
  constructor
  · intro made
    cases checked : check ⟨name, rate, timerCycle, seed⟩ with
    | error fault =>
      rw [checked] at made
      cases made
    | ok =>
      rw [checked] at made
      cases made
      exact ⟨rfl, checked⟩
  · rintro ⟨rfl, checked⟩
    rw [checked]
    rfl

theorem ofMembers_eq_ok_iff {ms : List (Text × Json)} {s : Settings} : ofMembers ms = .ok s ↔
    integerMember ms rateKey standard.rate = .ok s.rate ∧
    integerMember ms timerCycleKey standard.timerCycle = .ok s.timerCycle ∧
    s.name = (Json.member? ms nameKey).getD standard.name ∧
    s.seed = (Json.member? ms seedKey).getD .null ∧ s.check = .ok () := by
  unfold ofMembers
  constructor
  · intro made
    cases rates : integerMember ms rateKey standard.rate with
    | error fault =>
      rw [rates] at made
      cases made
    | ok rate =>
      cases cycles : integerMember ms timerCycleKey standard.timerCycle with
      | error fault =>
        rw [rates, cycles] at made
        cases made
      | ok timerCycle =>
        rw [rates, cycles] at made
        obtain ⟨rfl, checked⟩ := create_eq_ok_iff.mp made
        exact ⟨rfl, rfl, rfl, rfl, checked⟩
  · rintro ⟨rates, cycles, named, seeded, checked⟩
    rw [rates, cycles]
    exact create_eq_ok_iff.mpr ⟨by rw [← named, ← seeded], checked⟩

/-- Plain settings are read from their own members. -/
theorem ofJson_members (positive : 0 < rate ∧ 0 < timerCycle) :
    ofJson (.obj (plain name rate timerCycle seed).members)
      = .ok (plain name rate timerCycle seed) :=
  ofMembers_eq_ok_iff.mpr ⟨rfl, rfl, rfl, rfl, check_plain.mpr positive⟩

/-- An integer member is an integer. -/
theorem integerMember_eq_ok {ms : List (Text × Json)} {key : Text} {absent v : Json}
    (taken : integerMember ms key absent = .ok v) : ∃ n, v = .int n := by
  rw [integerMember] at taken
  split at taken
  · rename_i n _
    cases taken
    exact ⟨n, rfl⟩
  · cases taken

/-- The object has a text as its name, if it has one. -/
def NamedByText (ms : List (Text × Json)) : Prop :=
  ∀ v, Json.member? ms nameKey = some v → ∃ t, v = .str t

/-- The object has an integer or null as its seed, if it has one. -/
def SeededByInteger (ms : List (Text × Json)) : Prop :=
  ∀ v, Json.member? ms seedKey = some v → ∃ seed, v = seedValue seed

/-- Settings that are read from an object with a plain name and seed are plain. -/
theorem ofJson_eq_ok {ms : List (Text × Json)} {s : Settings} (named : NamedByText ms)
    (seeded : SeededByInteger ms) (made : ofJson (.obj ms) = .ok s) :
    ∃ name rate timerCycle seed,
      s = plain name rate timerCycle seed ∧ 0 < rate ∧ 0 < timerCycle := by
  obtain ⟨rates, cycles, name, seed, checked⟩ := ofMembers_eq_ok_iff.mp made
  obtain ⟨rate, rates⟩ := integerMember_eq_ok rates
  obtain ⟨timerCycle, cycles⟩ := integerMember_eq_ok cycles
  have text : ∃ t, s.name = .str t := by
    cases given : Json.member? ms nameKey with
    | none => exact ⟨_, name.trans (by rw [given]; rfl)⟩
    | some v =>
      obtain ⟨t, rfl⟩ := named v given
      exact ⟨t, name.trans (by rw [given]; rfl)⟩
  have value : ∃ n, s.seed = seedValue n := by
    cases given : Json.member? ms seedKey with
    | none => exact ⟨none, seed.trans (by rw [given]; rfl)⟩
    | some v =>
      obtain ⟨n, rfl⟩ := seeded v given
      exact ⟨n, seed.trans (by rw [given]; rfl)⟩
  obtain ⟨t, text⟩ := text
  obtain ⟨n, value⟩ := value
  have all : s = plain t rate timerCycle n := by
    cases s
    simp only at rates cycles text value
    rw [rates, cycles, text, value, plain]
  exact ⟨t, rate, timerCycle, n, all, check_plain.mp (all ▸ checked)⟩

/-- The members of plain settings as rows. -/
def rows (name : String) (rate timerCycle : Int) (seed : Option Int) : List (String × Json) :=
  [("name", .str (Text.ofString name)), ("instruction_rate", .int rate),
    ("timer_cycle", .int timerCycle), ("seed", seedValue seed)]

theorem save_plain (name : String) : (plain (Text.ofString name) rate timerCycle seed).save
    = .ok (Json.obj (Json.ofRows (rows name rate timerCycle seed))).pretty := by
  rw [save, copied_plain (by decide)]
  rfl

theorem load_ofString {s : String} {v : Json} (read : Json.parse s = .ok v) :
    load (Text.ofString s) = ofJson v := by
  have surrogates : (Text.ofString s).surrogateRun? = none := Text.surrogateRun?_map_ofChar _
  rw [load, surrogates, Text.toString_ofString]
  simp only [read]

/-- The integers of the fields are short enough to be read. -/
structure Short (rate timerCycle : Int) (seed : Option Int) : Prop where
  rate : Numeral.Short rate
  timerCycle : Numeral.Short timerCycle
  seed : ∀ n ∈ seed, Numeral.Short n

theorem plain_rows (name : String) (short : Short rate timerCycle seed) :
    ∀ m ∈ rows name rate timerCycle seed, Json.Plain m.2 := by
  have seeded : Json.Plain (seedValue seed) := by
    cases seed with
    | none => exact .null
    | some n => exact .int (short.seed n rfl)
  simp only [rows, List.forall_mem_cons]
  exact ⟨.str name, .int short.rate, .int short.timerCycle, seeded, by simp⟩

/-- **Stored settings are lossless.** Plain settings of integers that are short enough are stored as
an object in ASCII, and come back from it. Whatever rate and timer cycle an object holds, if
settings are read from it, these are positive integers there, and the settings come back from
their own members. -/
theorem storage_lossless :
    (∀ (name : String) (rate timerCycle : Int) (seed : Option Int), 0 < rate → 0 < timerCycle →
      Short rate timerCycle seed →
      ∃ s text, s = plain (Text.ofString name) rate timerCycle seed ∧ s.save = .ok text ∧
        (∀ c ∈ text.toList, c.toNat < 0x80) ∧ Json.parse text = .ok (.obj s.members) ∧
        load (Text.ofString text) = .ok s) ∧
    ∀ ms s, NamedByText ms → SeededByInteger ms → ofJson (.obj ms) = .ok s →
      ∃ rate timerCycle ms', s.rate = .int rate ∧ s.timerCycle = .int timerCycle ∧ 0 < rate ∧
        0 < timerCycle ∧ s.listed = .ok ms' ∧ ofJson (.obj ms') = .ok s := by
  constructor
  · intro name rate timerCycle seed rated cycled short
    have values := plain_rows name short
    have read := Json.parse_pretty_ofRows (by simp [rows]) values (by simp [rows])
    refine ⟨_, _, rfl, save_plain name, Json.ascii_pretty_ofRows (by simp [rows]) values, read, ?_⟩
    rw [load_ofString read]
    exact ofJson_members ⟨rated, cycled⟩
  · intro ms s named seeded made
    obtain ⟨name, rate, timerCycle, seed, rfl, positive⟩ := ofJson_eq_ok named seeded made
    refine ⟨rate, timerCycle, _, rfl, rfl, positive.1, positive.2, copied_plain (by decide), ?_⟩
    exact ofJson_members positive

/-- A name of a quote, a backslash, a control and a character of two surrogates, with a negative
seed; and an object with a text for the rate and a truth value for the timer cycle. -/
theorem storage_lossless_escapes :
    let name := String.ofList ['"', '\\', '\x07', Char.ofNat 0x1F3AE]
    let ms := [(rateKey, Json.str (Text.ofString " 1_200 ")), (timerCycleKey, Json.bool true)]
    Short 500 8 (some (-7)) ∧ NamedByText ms ∧ SeededByInteger ms ∧
      ofJson (.obj ms) = .ok (plain (Text.ofString "CHIP-8") 1200 1 none) ∧
      (∃ text, (plain (Text.ofString name) 500 8 (some (-7))).save = .ok text ∧
        load (Text.ofString text) = .ok (plain (Text.ofString name) 500 8 (some (-7)))) ∧
      ∃ ms', (plain (Text.ofString "CHIP-8") 1200 1 none).listed = .ok ms' ∧
        ofJson (.obj ms') = .ok (plain (Text.ofString "CHIP-8") 1200 1 none) := by
  intro name ms
  have widen {k : Nat} (few : 3 ≤ k) : Nat.pow 10 3 ≤ Nat.pow 10 k :=
    Nat.pow_le_pow_right (by decide) few
  have three (n : Int) (h : n.natAbs < Nat.pow 10 3) : Numeral.Short n :=
    Nat.lt_of_lt_of_le h (widen (by decide))
  have short : Short 500 8 (some (-7)) := {
    rate := three 500 (by decide)
    timerCycle := three 8 (by decide)
    seed n given := by
      cases given
      exact three (-7) (by decide) }
  have named : NamedByText ms := by
    intro v given
    cases given
  have seeded : SeededByInteger ms := by
    intro v given
    cases given
  have given : Json.member? ms rateKey = some (.str (Text.ofString " 1_200 ")) := rfl
  have numeral : Numeral.read (Text.ofString " 1_200 ") = .ok 1200 := by decide +kernel
  have taken : integerMember ms rateKey standard.rate = .ok (.int 1200) := by
    rw [integerMember, given]
    simp only [Option.getD_some, Json.toInt, numeral]
    rfl
  have made : ofJson (.obj ms) = .ok (plain (Text.ofString "CHIP-8") 1200 1 none) :=
    ofMembers_eq_ok_iff.mpr ⟨taken, rfl, rfl, rfl, check_plain.mpr (by decide)⟩
  obtain ⟨s, text, rfl, saved, -, -, loaded⟩ :=
    storage_lossless.1 name 500 8 (some (-7)) (by decide) (by decide) short
  obtain ⟨_, _, ms', -, -, -, -, listed, again⟩ := storage_lossless.2 ms _ named seeded made
  exact ⟨short, named, seeded, made, ⟨text, saved, loaded⟩, ms', listed, again⟩

end Settings

end Chip8
