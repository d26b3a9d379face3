import Chip8.System.Basic

/-!
# The course of an action

What an action does to a machine does not hang on who is listening, as long as nobody fails.

* `Action.course` lists what is told on the way, each with the machine as it is then, and says
  how the action ends; `run_eq_play` says that running an action on any system is to play its
  course to the bus, up to the first observer who fails.
* `Course.Ends` says what holds wherever a course may be cut short and what holds at its end;
  `run_ok_of_ends` and `run_error_of_ends` carry both over to a run.
* `Action.Leaves`: no moment of the action, nor its end, changes a view of the machine.
  `Action.Keeps`: all of them keep a property of it.
-/

namespace Chip8

/-- What a bus is told. -/
inductive Telling where
  | event (e : Event)
  | record (r : LogRecord)

/-- Something told, and the machine as it is then. -/
structure Moment where
  machine : Machine
  telling : Telling

/-- How an action goes where no observer fails. -/
structure Course (α : Type) where
  moments : List Moment
  result : Except Fault α
  machine : Machine

namespace Course

variable {ω α β : Type}

/-- The course with moments before it. -/
def behind (l : List Moment) (c : Course α) : Course α := { c with moments := l ++ c.moments }

/-- A course that goes on from the result of another one, if it has one. -/
def andThen (c : Course α) (rest : α → Machine → Course β) : Course β :=
  match c.result with
  | .ok x => (rest x c.machine).behind c.moments
  | .error cause => ⟨c.moments, .error cause, c.machine⟩

/-- The events of the course, in order. -/
def events (c : Course α) : List Event :=
  c.moments.filterMap fun x => match x.telling with
    | .event e => some e
    | .record _ => none

/-- Moments are told to a bus. The first observer who fails ends it all, and the machine stays
as it was at that moment. -/
def playOn [Observers ω] (result : Except Fault α) (last : Machine) :
    List Moment → Bus ω → Except Fault α × System ω
  | [], b => (result, ⟨last, b⟩)
  | ⟨_, .record r⟩ :: rest, b => playOn result last rest (b.report r)
  | ⟨m, .event e⟩ :: rest, b =>
    match b.emit m e with
    | (.ok (), b) => playOn result last rest b
    | (.error cause, b) => (.error cause, ⟨m, b⟩)

/-- The course played to a bus. -/
def play [Observers ω] (c : Course α) (b : Bus ω) : Except Fault α × System ω :=
  playOn c.result c.machine c.moments b

@[simp] theorem behind_nil (c : Course α) : c.behind [] = c := rfl

@[simp] theorem behind_mk (l l' : List Moment) (result : Except Fault α) (m : Machine) :
    (⟨l', result, m⟩ : Course α).behind l = ⟨l ++ l', result, m⟩ := rfl

@[simp] theorem behind_behind (l l' : List Moment) (c : Course α) :
    (c.behind l').behind l = c.behind (l ++ l') := by
  simp only [behind, List.append_assoc]

-- The continuation stays applied as it is, and no field is taken from it here: the kernel opens
-- a field of a course by running the course.
@[simp] theorem andThen_ok (l : List Moment) (x : α) (m : Machine)
    (rest : α → Machine → Course β) :
    (⟨l, .ok x, m⟩ : Course α).andThen rest = (rest x m).behind l := rfl

@[simp] theorem andThen_error (l : List Moment) (cause : Fault) (m : Machine)
    (rest : α → Machine → Course β) :
    (⟨l, .error cause, m⟩ : Course α).andThen rest = ⟨l, .error cause, m⟩ := rfl

theorem behind_andThen (l : List Moment) (c : Course α) (rest : α → Machine → Course β) :
    (c.behind l).andThen rest = (c.andThen rest).behind l := by
  obtain ⟨l', result, m⟩ := c
  cases result with
  | ok x => rw [behind_mk, andThen_ok, andThen_ok, behind_behind]
  | error cause => rfl

end Course

namespace Action

variable {ω α β : Type}

/-- The course of an action at a machine. -/
def course : Action α → Machine → Course α
  | .done x, m => ⟨[], .ok x, m⟩
  | .fail cause, m => ⟨[], .error cause, m⟩
  | .look next, m => (next m).course m
  | .change f next, m => next.course (f m)
  | .notify e next, m => (next.course m).behind [⟨m, .event e⟩]
  | .report r next, m => (next.course m).behind [⟨m, .record r⟩]

@[simp] theorem course_pure (x : α) (m : Machine) :
    (pure x : Action α).course m = ⟨[], .ok x, m⟩ := rfl

@[simp] theorem course_bind (a : Action α) (f : α → Action β) (m : Machine) :
    (a >>= f).course m = (a.course m).andThen fun x m => (f x).course m := by
  change (a.andThen f).course m = _
  induction a generalizing m with
  | done | fail => rfl
  | look next ih => exact ih m m
  | change g next ih => exact ih (g m)
  | notify e next ih =>
    simp only [andThen, course, ih, Course.behind_andThen]
  | report r next ih =>
    simp only [andThen, course, ih, Course.behind_andThen]

end Action

namespace System

variable {ω α : Type}

@[simp] theorem course_look (m : Machine) : look.course m = ⟨[], .ok m, m⟩ := rfl

@[simp] theorem course_change (f : Machine → Machine) (m : Machine) :
    (change f).course m = ⟨[], .ok (), f m⟩ := rfl

@[simp] theorem course_notify (e : Event) (m : Machine) :
    (notify e).course m = ⟨[⟨m, .event e⟩], .ok (), m⟩ := rfl

@[simp] theorem course_report (r : LogRecord) (m : Machine) :
    (report r).course m = ⟨[⟨m, .record r⟩], .ok (), m⟩ := rfl

@[simp] theorem course_refuse (cause : Fault) (m : Machine) :
    (refuse cause : Action α).course m = ⟨[], .error cause, m⟩ := rfl

theorem run_bind {β : Type} [Observers ω] (a : Action α) (f : α → Action β) (s : System ω) :
    run (a >>= f) s =
      match run a s with
      | (.ok x, s) => run (f x) s
      | (.error cause, s) => (.error cause, s) := by
  change run (a.andThen f) s = _
  induction a generalizing s with
  | done | fail => rfl
  | look next ih => exact ih s.machine s
  | change g next ih => exact ih _
  | report r next ih => exact ih _
  | notify e next ih =>
    simp only [Action.andThen, run]
    cases h : s.bus.emit s.machine e with
    | mk result bus =>
      cases result with
      | ok => exact ih _
      | error => rfl

/-- **To run an action is to play its course.** -/
theorem run_eq_play [Observers ω] (a : Action α) (s : System ω) :
    run a s = (a.course s.machine).play s.bus := by
  induction a generalizing s with
  | done | fail => rfl
  | look next ih => exact ih s.machine s
  | change f next ih => exact ih _
  | report r next ih => exact ih _
  | notify e next ih =>
    simp only [run, Action.course, Course.play, Course.behind, List.singleton_append, Course.playOn]
    cases h : s.bus.emit s.machine e with
    | mk result bus =>
      cases result with
      | ok => exact ih { s with bus := bus }
      | error => rfl

end System

/-! ## What holds on the way and at the end -/

/-- `cut` holds at the moment, if it is one at which an observer may fail. -/
def Moment.Meets (cut : Machine → Prop) : Moment → Prop
  | ⟨m, .event _⟩ => cut m
  | ⟨_, .record _⟩ => True

theorem Moment.Meets.mono {cut cut' : Machine → Prop} (h : ∀ m, cut m → cut' m) :
    ∀ {x : Moment}, x.Meets cut → x.Meets cut'
  | ⟨m, .event _⟩, hx => h m hx
  | ⟨_, .record _⟩, _ => trivial

theorem Moment.Meets.and {cut cut' : Machine → Prop} :
    ∀ {x : Moment}, x.Meets cut → x.Meets cut' → x.Meets fun m => cut m ∧ cut' m
  | ⟨_, .event _⟩, h, h' => ⟨h, h'⟩
  | ⟨_, .record _⟩, _, _ => trivial

namespace Course

variable {ω α β : Type}

/-- `cut` holds wherever the course may be cut short, and `post` where it ends with a result. -/
structure Ends (cut : Machine → Prop) (post : α → Machine → Prop) (c : Course α) : Prop where
  moments : ∀ x ∈ c.moments, x.Meets cut
  ok : ∀ x, c.result = .ok x → post x c.machine
  error : ∀ cause, c.result = .error cause → cut c.machine

variable {cut : Machine → Prop} {mid : α → Machine → Prop} {post : β → Machine → Prop}

theorem Ends.of_ok {l : List Moment} {x : β} {m : Machine} (hl : ∀ y ∈ l, y.Meets cut)
    (h : post x m) : (⟨l, .ok x, m⟩ : Course β).Ends cut post :=
  ⟨hl, fun _ e => Except.ok.inj e ▸ h, fun _ e => (nomatch e)⟩

theorem Ends.of_error {l : List Moment} {cause : Fault} {m : Machine}
    (hl : ∀ y ∈ l, y.Meets cut) (h : cut m) :
    (⟨l, .error cause, m⟩ : Course β).Ends cut post :=
  ⟨hl, fun _ e => (nomatch e), fun _ _ => h⟩

theorem Ends.mono {cut' : Machine → Prop} {post' : β → Machine → Prop} {c : Course β}
    (h : c.Ends cut post) (hc : ∀ m, cut m → cut' m) (hp : ∀ x m, post x m → post' x m) :
    c.Ends cut' post' :=
  ⟨fun x hx => (h.moments x hx).mono hc, fun x e => hp x _ (h.ok x e),
    fun cause e => hc _ (h.error cause e)⟩

theorem Ends.and {cut' : Machine → Prop} {post' : β → Machine → Prop} {c : Course β}
    (h : c.Ends cut post) (h' : c.Ends cut' post') :
    c.Ends (fun m => cut m ∧ cut' m) (fun x m => post x m ∧ post' x m) :=
  ⟨fun x hx => (h.moments x hx).and (h'.moments x hx), fun x e => ⟨h.ok x e, h'.ok x e⟩,
    fun cause e => ⟨h.error cause e, h'.error cause e⟩⟩

theorem Ends.behind {c : Course α} (h : c.Ends cut mid) {l : List Moment}
    (hl : ∀ x ∈ l, x.Meets cut) : (c.behind l).Ends cut mid := by
  refine ⟨fun x hx => ?_, h.ok, h.error⟩
  rcases List.mem_append.mp hx with hx | hx
  · exact hl x hx
  · exact h.moments x hx

theorem Ends.andThen {c : Course α} {rest : α → Machine → Course β} (h : c.Ends cut mid)
    (next : ∀ x m, mid x m → (rest x m).Ends cut post) : (c.andThen rest).Ends cut post := by
  obtain ⟨l, result, m⟩ := c
  cases result with
  | error cause => exact .of_error h.moments (h.error cause rfl)
  | ok x => exact (next x m (h.ok x rfl)).behind h.moments

theorem playOn_ok [Observers ω] {result : Except Fault α} {last : Machine} {x : α} :
    ∀ (l : List Moment) (b : Bus ω), (playOn result last l b).1 = .ok x →
      result = .ok x ∧ (playOn result last l b).2.machine = last := by
  intro l
  induction l with
  | nil => exact fun b h => ⟨h, rfl⟩
  | cons y rest ih =>
    obtain ⟨m, t⟩ := y
    intro b h
    cases t with
    | record r => exact ih _ h
    | event e =>
      simp only [playOn] at h ⊢
      cases he : b.emit m e with
      | mk r b' =>
        rw [he] at h
        cases r with
        | error cause => cases h
        | ok => exact ih _ h

theorem playOn_error [Observers ω] {result : Except Fault α} {last : Machine} {cause : Fault} :
    ∀ (l : List Moment) (b : Bus ω), (playOn result last l b).1 = .error cause →
      (result = .error cause ∧ (playOn result last l b).2.machine = last) ∨
      ∃ m e, ⟨m, .event e⟩ ∈ l ∧ (playOn result last l b).2.machine = m := by
  intro l
  induction l with
  | nil => exact fun b h => Or.inl ⟨h, rfl⟩
  | cons y rest ih =>
    obtain ⟨m, t⟩ := y
    intro b h
    have later : ∀ b' : Bus ω, (playOn result last rest b').1 = .error cause →
        (result = .error cause ∧ (playOn result last rest b').2.machine = last) ∨
        ∃ m' e, ⟨m', .event e⟩ ∈ ⟨m, t⟩ :: rest ∧
          (playOn result last rest b').2.machine = m' := by
      intro b' h'
      rcases ih b' h' with hl | ⟨m', e, hm', hl⟩
      · exact Or.inl hl
      · exact Or.inr ⟨m', e, List.mem_cons_of_mem _ hm', hl⟩
    cases t with
    | record r => exact later _ h
    | event e =>
      simp only [playOn] at h ⊢
      cases he : b.emit m e with
      | mk r b' =>
        rw [he] at h
        cases r with
        | error _ => exact Or.inr ⟨m, e, List.mem_cons_self, rfl⟩
        | ok => exact later _ h

end Course

namespace System

variable {ω α : Type} [Observers ω] {cut : Machine → Prop} {post : α → Machine → Prop}
  {a : Action α} {s : System ω}

theorem run_ok_of_ends (h : (a.course s.machine).Ends cut post) {x : α}
    (hr : (run a s).1 = .ok x) : post x (run a s).2.machine := by
  rw [run_eq_play, Course.play] at hr ⊢
  obtain ⟨hx, hm⟩ := Course.playOn_ok _ s.bus hr
  rw [hm]
  exact h.ok x hx

theorem run_error_of_ends (h : (a.course s.machine).Ends cut post) {cause : Fault}
    (hr : (run a s).1 = .error cause) : cut (run a s).2.machine := by
  rw [run_eq_play, Course.play] at hr ⊢
  rcases Course.playOn_error _ s.bus hr with ⟨he, hm⟩ | ⟨m, e, hm', hm⟩
  · rw [hm]; exact h.error cause he
  · rw [hm]; exact h.moments ⟨m, .event e⟩ hm'

theorem run_of_ends (h : (a.course s.machine).Ends cut fun _ => cut) :
    cut (run a s).2.machine := by
  cases hr : (run a s).1 with
  | ok x => exact run_ok_of_ends h hr
  | error cause => exact run_error_of_ends h hr

end System

/-! ## Frames -/

namespace Action

variable {α β γ : Type} {F : Machine → γ}

/-- The view `F` of the machine stays as it is, at every moment of the action and at its end. -/
def Leaves (F : Machine → γ) (a : Action α) : Prop :=
  ∀ m, (a.course m).Ends (fun m' => F m' = F m) (fun _ m' => F m' = F m)

theorem Leaves.pure (x : α) : Leaves F (Pure.pure x : Action α) := by
  intro m
  rw [course_pure]
  exact .of_ok (by simp) rfl

theorem Leaves.refuse (cause : Fault) : Leaves F (System.refuse cause : Action α) := by
  intro m
  rw [System.course_refuse]
  exact .of_error (by simp) rfl

theorem Leaves.bind {a : Action α} {f : α → Action β} (ha : a.Leaves F)
    (hf : ∀ x, (f x).Leaves F) : (a >>= f).Leaves F := by
  intro m
  rw [course_bind]
  refine (ha m).andThen fun x m' (hm : F m' = F m) => ?_
  rw [← hm]
  exact hf x m'

theorem Leaves.look : System.look.Leaves F := by
  intro m
  rw [System.course_look]
  exact .of_ok (by simp) rfl

theorem Leaves.change {f : Machine → Machine} (h : ∀ m, F (f m) = F m) :
    (System.change f).Leaves F := by
  intro m
  rw [System.course_change]
  exact .of_ok (by simp) (h m)

theorem Leaves.notify (e : Event) : (System.notify e).Leaves F := by
  intro m
  rw [System.course_notify]
  exact .of_ok (by simp [Moment.Meets]) rfl

theorem Leaves.report (r : LogRecord) : (System.report r).Leaves F := by
  intro m
  rw [System.course_report]
  exact .of_ok (by simp [Moment.Meets]) rfl

/-- The action goes from machines with a property only through and to machines with it. -/
def Keeps (P : Machine → Prop) (a : Action α) : Prop :=
  ∀ m, P m → (a.course m).Ends P (fun _ => P)

variable {P : Machine → Prop}

theorem Leaves.keeps {a : Action α} (h : a.Leaves F) (hP : ∀ m m', F m' = F m → P m → P m') :
    a.Keeps P :=
  fun m hm => (h m).mono (fun _ e => hP _ _ e hm) fun _ _ e => hP _ _ e hm

theorem Keeps.pure (x : α) : (Pure.pure x : Action α).Keeps P := by
  intro m hm
  rw [course_pure]
  exact .of_ok (by simp) hm

theorem Keeps.look : System.look.Keeps P := by
  intro m hm
  rw [System.course_look]
  exact .of_ok (by simp) hm

theorem Keeps.bind {a : Action α} {f : α → Action β} (ha : a.Keeps P)
    (hf : ∀ x, (f x).Keeps P) : (a >>= f).Keeps P := by
  intro m hm
  rw [course_bind]
  exact (ha m hm).andThen fun x m' => hf x m'

/-- What comes after an action that keeps a property may take it for granted. -/
theorem Keeps.ends_bind {a : Action α} {f : α → Action β} {post : β → Machine → Prop}
    (ha : a.Keeps P) (hf : ∀ x m, P m → ((f x).course m).Ends P post) {m : Machine} (hm : P m) :
    ((a >>= f).course m).Ends P post := by
  rw [course_bind]
  exact (ha m hm).andThen hf

end Action

end Chip8
