import Chip8.Proofs.HeldKey
import Mathlib.Data.List.Induction

/-!
# What host keys come to

A keymap is checked when a keypad is made of it, and its codes once more when a key is pressed.

* `KeyEntries.code?_ofList`: of several entries of one name the last one counts, and
  `Keymap.ofEntries_eq_ok_iff` says which entries a keymap has.
* `Answered` lists what may come of a host key that goes down or up. A name that is mapped to a
  truth value passes the first check and not the second one.
* `Rig.answered` is for one call, `Rig.host_calls` for all calls of a run: a run has a refusal just
  if a name goes down that is mapped to a truth value.
-/

namespace Chip8

/-- The first check passes the codes of keys and the truth values. -/
theorem KeyCode.key_or_truth {c : KeyCode} (inRange : c.inRange = true) :
    (∃ k : Key, c = ofKey k) ∨ ∃ b, c = .truth b := by
  cases c with
  | truth b => exact .inr ⟨b, rfl⟩
  | integer n =>
    rw [KeyCode.inRange, Bool.and_eq_true, decide_eq_true_eq, decide_eq_true_eq] at inRange
    obtain ⟨low, high⟩ := inRange
    change 0 ≤ n at low
    change n ≤ 15 at high
    have small : n.toNat < keyCount := by
      simp only [keyCount]
      omega
    have same : n = n.toNat := by omega
    exact .inl ⟨⟨n.toNat, small⟩, congrArg WholeNumber.integer same⟩

namespace KeyEntries

variable {entries : KeyEntries} {name : Text}

theorem code?_cons (e : Text × KeyCode) (entries : KeyEntries) (name : Text) :
    code? (e :: entries) name = if e.1 = name then some e.2 else code? entries name := by
  by_cases same : e.1 = name <;> simp [code?, same]

theorem code?_replaced (entries : KeyEntries) (name other : Text) (code : KeyCode) :
    code? (entries.map fun e => if e.1 == name then (name, code) else e) other =
      if name = other ∧ entries.any (·.1 == name) then some code else code? entries other := by
  induction entries with
  | nil => simp [code?]
  | cons e rest ih =>
    rw [List.map_cons, code?_cons, code?_cons, ih]
    by_cases replaced : e.1 = name
    · subst replaced
      by_cases same : e.1 = other <;> simp [same]
    · by_cases same : e.1 = other
      · subst same
        simp [replaced, Ne.symm replaced]
      · have differs : (e.1 == name) = false := beq_eq_false_iff_ne.mpr replaced
        rw [if_neg same, List.any_cons, differs, Bool.false_or]
        simp [same]

theorem code?_append (entries : KeyEntries) (e : Text × KeyCode) (other : Text) :
    code? (entries ++ [e]) other = (code? entries other).or (code? [e] other) := by
  simp [code?, List.find?_append, Option.map_or]

theorem code?_eq_none_of_absent (absent : ¬ entries.any (·.1 == name)) :
    code? entries name = none := by
  rw [code?, Option.map_eq_none_iff, List.find?_eq_none]
  intro e he found
  exact absent (List.any_eq_true.mpr ⟨e, he, found⟩)

/-- An entry that is put in is the one that counts for its name. -/
theorem code?_put (entries : KeyEntries) (name other : Text) (code : KeyCode) :
    code? (put entries name code) other =
      if name = other then some code else code? entries other := by
  rw [put]
  by_cases present : entries.any (·.1 == name)
  · rw [if_pos present, code?_replaced]
    simp only [present, and_true]
  · rw [if_neg present, code?_append, code?_cons]
    by_cases same : name = other
    · subst same
      rw [code?_eq_none_of_absent present]
      simp
    · simp [same, code?]

/-- Of several entries of one name the last one counts. -/
theorem code?_ofList (l : List (Text × KeyCode)) (name : Text) :
    code? (ofList l) name = (l.reverse.find? (·.1 == name)).map (·.2) := by
  induction l using List.reverseRecOn with
  | nil => rfl
  | append_singleton l e ih =>
    have last : ofList (l ++ [e]) = put (ofList l) e.1 e.2 := by
      rw [ofList, List.foldl_append]
      rfl
    rw [last, code?_put, ih, List.reverse_append, List.reverse_singleton, List.singleton_append]
    by_cases same : e.1 = name <;> simp [same]

end KeyEntries

namespace Keymap

/-- The entries that a keymap is made of, before their names are lowered. -/
def entered (given : List (Text × KeyCode)) : KeyEntries :=
  if (KeyEntries.ofList given).isEmpty then KeyEntries.standard else KeyEntries.ofList given

/-- The code of the last entry whose name differs from this one in case only. -/
def lastCode (entries : KeyEntries) (name : Text) : Option KeyCode :=
  (entries.reverse.find? fun e => Text.lower e.1 == Text.lower name).map (·.2)

variable {given : List (Text × KeyCode)} {keymap : Keymap}

theorem ofEntries_eq_ok_iff :
    ofEntries given = .ok keymap ↔ keymap.entries = (entered given).lowered := by
  obtain ⟨entries, inRange⟩ := keymap
  change _ ↔ entries = (entered given).lowered
  unfold ofEntries
  dsimp only
  constructor
  · intro made
    split at made
    · cases made
    · cases made
      rfl
  · rintro rfl
    split
    · next e refused =>
      have listed := List.mem_of_find?_eq_some refused
      have out := List.find?_some (p := fun e : Text × KeyCode => !e.2.inRange) refused
      rw [inRange e listed] at out
      cases out
    · rfl

/-- Entries are accepted if all their codes pass the check. -/
theorem ofEntries_of_inRange (fits : ∀ e ∈ (entered given).lowered, e.2.inRange = true) :
    ofEntries given = .ok ⟨(entered given).lowered, fits⟩ := ofEntries_eq_ok_iff.mpr rfl

theorem translate_eq_lastCode (accepted : ofEntries given = .ok keymap) (name : Text) :
    keymap.translate name = lastCode (entered given) name := by
  rw [translate, ofEntries_eq_ok_iff.mp accepted, KeyEntries.lowered, KeyEntries.code?_ofList,
    ← List.map_reverse, List.find?_map, Option.map_map]
  rfl

/-- An accepted code is that of a key, or a truth value. -/
theorem key_or_truth {name : Text} {c : KeyCode} (mapped : keymap.translate name = some c) :
    (∃ k : Key, c = .ofKey k) ∨ ∃ b, c = .truth b := by
  obtain ⟨e, found, rfl⟩ := Option.map_eq_some_iff.mp mapped
  exact KeyCode.key_or_truth (keymap.inRange e (List.mem_of_find?_eq_some found))

end Keymap

/-- A key of the host goes down or up. -/
inductive HostCall where
  | down (name : Text)
  | up (name : Text)

section Host

variable {ω : Type}

/-- The host with a key held on its machine, or none. -/
def KeyHost.withKey (h : KeyHost ω) (key : Option Key) : KeyHost ω :=
  h.withSystem { h.system with machine := { h.system.machine with key := key } }

namespace Keypad

variable [Observers ω] {p : Keypad} {name : Text} {c : KeyCode} {k : Key}

theorem run_hostKeyDown_unmapped (unmapped : p.keymap.translate name = none) (s : System ω) :
    System.run (p.hostKeyDown name) s = (.ok (false, p), s) := by
  rw [hostKeyDown, unmapped]
  rfl

theorem run_hostKeyDown_key (mapped : p.keymap.translate name = some (.ofKey k)) (s : System ω) :
    System.run (p.hostKeyDown name) s =
      (.ok (true, { p with held := some k }),
        { s with machine := { s.machine with key := some k } }) := by
  rw [hostKeyDown, mapped]
  simp only [press, System.press, KeyCode.key?_ofKey, Option.bind_some]
  rfl

theorem run_hostKeyDown_truth {b : Bool} (mapped : p.keymap.translate name = some (.truth b))
    (s : System ω) :
    System.run (p.hostKeyDown name) s = (.error (.invalidKey (.truth b)), s) := by
  rw [hostKeyDown, mapped]
  rfl

theorem run_hostKeyUp_unmapped (unmapped : p.keymap.translate name = none) (s : System ω) :
    System.run (p.hostKeyUp name) s = (.ok (false, p), s) := by
  rw [hostKeyUp, unmapped]
  rfl

theorem run_hostKeyUp_held (mapped : p.keymap.translate name = some c) (held : p.held = some k)
    (concerns : c.value = (k : Nat)) (s : System ω) :
    System.run (p.hostKeyUp name) s =
      (.ok (true, { p with held := none }),
        { s with machine := { s.machine with key := none } }) := by
  rw [hostKeyUp, mapped]
  simp only [release, held, Keypad.concerns, concerns, decide_true, if_true]
  rfl

theorem run_hostKeyUp_other (mapped : p.keymap.translate name = some c)
    (other : ∀ k, p.held = some k → c.value ≠ (k : Nat)) (s : System ω) :
    System.run (p.hostKeyUp name) s = (.ok (true, p), s) := by
  rw [hostKeyUp, mapped]
  cases held : p.held with
  | none =>
    simp only [release, held]
    rfl
  | some k =>
    simp only [release, held, concerns, decide_eq_false (other k held), Bool.false_eq_true,
      if_false]
    rfl

end Keypad

namespace Rig

/-- The rig with a key held on both sides, or none. -/
def holding (r : Rig ω) (key : Option Key) : Rig ω :=
  ⟨r.host.withKey key, { r.keypad with held := key }⟩

/-- What comes of a host key under a keymap, and the rig after it. -/
inductive Answered (keymap : Keymap) (r : Rig ω) : HostCall → Except Fault Bool × Rig ω → Prop
  | pressed {name : Text} {k : Key} (mapped : keymap.translate name = some (.ofKey k)) :
      Answered keymap r (.down name) (.ok true, r.holding (some k))
  | refused {name : Text} {b : Bool} (mapped : keymap.translate name = some (.truth b)) :
      Answered keymap r (.down name) (.error (.invalidKey (.truth b)), r)
  | released {name : Text} {c : KeyCode} {k : Key} (mapped : keymap.translate name = some c)
      (held : r.keypad.held = some k) (same : c.value = (k : Nat)) :
      Answered keymap r (.up name) (.ok true, r.holding none)
  | kept {name : Text} {c : KeyCode} (mapped : keymap.translate name = some c)
      (other : ∀ k, r.keypad.held = some k → c.value ≠ (k : Nat)) :
      Answered keymap r (.up name) (.ok true, r)
  | unmappedDown {name : Text} (unmapped : keymap.translate name = none) :
      Answered keymap r (.down name) (.ok false, r)
  | unmappedUp {name : Text} (unmapped : keymap.translate name = none) :
      Answered keymap r (.up name) (.ok false, r)

/-- What comes of the calls of a run, one after another, also behind one that is refused. -/
inductive AnsweredAll (keymap : Keymap) :
    Rig ω → List HostCall → List (Except Fault Bool) × Rig ω → Prop
  | nil (r : Rig ω) : AnsweredAll keymap r [] ([], r)
  | cons {r r' last : Rig ω} {x : HostCall} {rest : List HostCall} {y : Except Fault Bool}
      {ys : List (Except Fault Bool)} (first : Answered keymap r x (y, r'))
      (others : AnsweredAll keymap r' rest (ys, last)) :
      AnsweredAll keymap r (x :: rest) (y :: ys, last)

variable {keymap : Keymap} {r : Rig ω}

theorem Answered.keymap_eq {x : HostCall} {o : Except Fault Bool × Rig ω}
    (h : Answered keymap r x o) : o.2.keypad.keymap = r.keypad.keymap := by
  cases h <;> rfl

/-- A call is refused just if it presses a truth value. -/
theorem Answered.ok_iff {x : HostCall} {o : Except Fault Bool × Rig ω}
    (h : Answered keymap r x o) : (∃ mapped, o.1 = .ok mapped) ↔
      ∀ name, x = .down name → ∀ b, keymap.translate name ≠ some (.truth b) := by
  cases h with
  | @pressed name k mapped =>
    refine ⟨fun _ => ?_, fun _ => ⟨true, rfl⟩⟩
    rintro _ ⟨⟩ b truth
    cases Option.some.inj (mapped.symm.trans truth)
  | @refused name b mapped =>
    constructor
    · rintro ⟨_, ok⟩
      cases ok
    · intro others
      exact absurd mapped (others name rfl b)
  | released | kept => exact ⟨fun _ => nofun, fun _ => ⟨true, rfl⟩⟩
  | @unmappedDown name unmapped =>
    refine ⟨fun _ => ?_, fun _ => ⟨false, rfl⟩⟩
    rintro _ ⟨⟩ b truth
    cases unmapped.symm.trans truth
  | unmappedUp => exact ⟨fun _ => nofun, fun _ => ⟨false, rfl⟩⟩

theorem AnsweredAll.ok_iff {calls : List HostCall} {o : List (Except Fault Bool) × Rig ω}
    (h : AnsweredAll keymap r calls o) : (∀ y ∈ o.1, ∃ mapped, y = .ok mapped) ↔
      ∀ name, .down name ∈ calls → ∀ b, keymap.translate name ≠ some (.truth b) := by
  induction h with
  | nil => exact ⟨fun _ _ => nofun, fun _ => nofun⟩
  | @cons r r' last x rest y ys first others ih =>
    rw [List.forall_mem_cons, first.ok_iff, ih]
    constructor
    · rintro ⟨now, later⟩ name listed
      rcases List.mem_cons.mp listed with same | listed
      · exact now name same.symm
      · exact later name listed
    · intro all
      constructor
      · rintro name rfl
        exact all name List.mem_cons_self
      · intro name listed
        exact all name (List.mem_cons_of_mem _ listed)

variable [Observers ω]

/-- An activity of the keypad with an answer. Where it fails, the keypad stays as it was. -/
def use (r : Rig ω) (a : Keypad → Action (Bool × Keypad)) : Except Fault Bool × Rig ω :=
  match KeyHost.act (a r.keypad) r.host with
  | (.ok (mapped, p), h) => (.ok mapped, ⟨h, p⟩)
  | (.error cause, h) => (.error cause, ⟨h, r.keypad⟩)

def call (r : Rig ω) : HostCall → Except Fault Bool × Rig ω
  | .down name => r.use (·.hostKeyDown name)
  | .up name => r.use (·.hostKeyUp name)

/-- Calls one after another, also behind one that is refused. -/
def callAll (r : Rig ω) : List HostCall → List (Except Fault Bool) × Rig ω
  | [] => ([], r)
  | x :: rest =>
    let (answer, r) := r.call x
    let (answers, r) := r.callAll rest
    (answer :: answers, r)

variable {a : Keypad → Action (Bool × Keypad)}

theorem use_of_ok {mapped : Bool} {p : Keypad} {s : System ω}
    (run : System.run (a r.keypad) r.host.system = (.ok (mapped, p), s)) :
    r.use a = (.ok mapped, ⟨r.host.withSystem s, p⟩) := by
  rw [use, KeyHost.act_eq, run]

theorem use_of_error {cause : Fault}
    (run : System.run (a r.keypad) r.host.system = (.error cause, r.host.system)) :
    r.use a = (.error cause, r) := by
  rw [use, KeyHost.act_eq, run]
  exact congrArg _ (congrArg (Rig.mk · r.keypad) r.host.withSystem_system)

theorem use_of_nothing {mapped : Bool}
    (run : System.run (a r.keypad) r.host.system = (.ok (mapped, r.keypad), r.host.system)) :
    r.use a = (.ok mapped, r) := by
  rw [use_of_ok run, KeyHost.withSystem_system]

/-- **What one call comes to.** -/
theorem answered (same : r.keypad.keymap = keymap) (x : HostCall) :
    Answered keymap r x (r.call x) := by
  subst same
  cases x with
  | down name =>
    rw [call]
    cases mapped : r.keypad.keymap.translate name with
    | none =>
      rw [use_of_nothing (Keypad.run_hostKeyDown_unmapped mapped _)]
      exact .unmappedDown mapped
    | some c =>
      rcases Keymap.key_or_truth mapped with ⟨k, rfl⟩ | ⟨b, rfl⟩
      · rw [use_of_ok (Keypad.run_hostKeyDown_key mapped _)]
        exact .pressed mapped
      · rw [use_of_error (Keypad.run_hostKeyDown_truth mapped _)]
        exact .refused mapped
  | up name =>
    rw [call]
    cases mapped : r.keypad.keymap.translate name with
    | none =>
      rw [use_of_nothing (Keypad.run_hostKeyUp_unmapped mapped _)]
      exact .unmappedUp mapped
    | some c =>
      by_cases releases : ∃ k, r.keypad.held = some k ∧ c.value = (k : Nat)
      · obtain ⟨k, held, concerns⟩ := releases
        rw [use_of_ok (Keypad.run_hostKeyUp_held mapped held concerns _)]
        exact .released mapped held concerns
      · have other : ∀ k, r.keypad.held = some k → c.value ≠ (k : Nat) := by
          intro k held concerns
          exact releases ⟨k, held, concerns⟩
        rw [use_of_nothing (Keypad.run_hostKeyUp_other mapped other _)]
        exact .kept mapped other

theorem answeredAll (same : r.keypad.keymap = keymap) (calls : List HostCall) :
    AnsweredAll keymap r calls (r.callAll calls) := by
  induction calls generalizing r with
  | nil => exact .nil r
  | cons x rest ih =>
    have first := answered same x
    exact .cons first (ih (first.keymap_eq.trans same))

/-- **What becomes of an accepted keymap.** A name counts for the last entry whose name differs from
it in case only. Every call is answered: a mapped key that goes down is held by machine and keypad,
an unmapped one changes nothing. The refusals are of truth values, which the keymap accepts and the
machine does not take for keys. -/
theorem host_calls {given : List (Text × KeyCode)} (accepted : Keymap.ofEntries given = .ok keymap)
    (host : KeyHost ω) (calls : List HostCall) :
    let start : Rig ω := ⟨host, .ofKeymap keymap⟩
    (∀ name, keymap.translate name = Keymap.lastCode (Keymap.entered given) name) ∧
      AnsweredAll keymap start calls (start.callAll calls) ∧
      ((∀ y ∈ (start.callAll calls).1, ∃ mapped, y = .ok mapped) ↔
        ∀ name, .down name ∈ calls → ∀ b, keymap.translate name ≠ some (.truth b)) := by
  intro start
  have all : AnsweredAll keymap start calls (start.callAll calls) :=
    answeredAll (r := start) rfl calls
  exact ⟨Keymap.translate_eq_lastCode accepted, all, all.ok_iff⟩

/-- Two names that differ in case, and a truth value: it is refused when its key goes down. -/
theorem host_calls_truth :
    let given : List (Text × KeyCode) := [(Text.ofString "a", .integer 5),
      (Text.ofString "A", .integer 7), (Text.ofString "t", .truth true)]
    let host : KeyHost Transcript := .bare ⟨.powerOn .unseeded, ⟨[], ⟨[]⟩, []⟩⟩
    ∃ keymap, Keymap.ofEntries given = .ok keymap ∧
      keymap.translate (Text.ofString "a") = some (.integer 7) ∧
      (∀ y ∈ (callAll ⟨host, .ofKeymap keymap⟩
        [.down (Text.ofString "A"), .up (Text.ofString "t")]).1, ∃ mapped, y = .ok mapped) ∧
      ¬ ∀ y ∈ (callAll ⟨host, .ofKeymap keymap⟩ [.down (Text.ofString "T")]).1,
        ∃ mapped, y = .ok mapped := by
  intro given host
  have fits : (Keymap.entered given).lowered.all (·.2.inRange) = true := by decide +kernel
  have inRange : ∀ e ∈ (Keymap.entered given).lowered, e.2.inRange = true :=
    List.all_eq_true.mp fits
  obtain ⟨keymap, accepted⟩ : ∃ keymap, Keymap.ofEntries given = .ok keymap :=
    ⟨_, Keymap.ofEntries_of_inRange inRange⟩
  obtain ⟨last, -, fine⟩ :=
    host_calls accepted host [.down (Text.ofString "A"), .up (Text.ofString "t")]
  obtain ⟨-, -, unfit⟩ := host_calls accepted host [.down (Text.ofString "T")]
  have seven : Keymap.lastCode (Keymap.entered given) (Text.ofString "a") = some (.integer 7) := by
    decide +kernel
  have upper : Keymap.lastCode (Keymap.entered given) (Text.ofString "A") = some (.integer 7) := by
    decide +kernel
  have truth : Keymap.lastCode (Keymap.entered given) (Text.ofString "T") = some (.truth true) := by
    decide +kernel
  refine ⟨keymap, accepted, (last _).trans seven, fine.mpr ?_, fun all => ?_⟩
  · intro name listed b mapped
    rcases List.mem_cons.mp listed with same | listed
    · cases same
      cases Option.some.inj (((last _).trans upper).symm.trans mapped)
    · cases List.mem_singleton.mp listed
  · exact unfit.mp all _ List.mem_cons_self true ((last _).trans truth)

end Rig

end Host

end Chip8
