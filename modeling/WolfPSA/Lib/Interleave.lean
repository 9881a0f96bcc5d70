import WolfPSA.Lib.Prog

/-!
# One program among others

A pool runs one observed program and any number of others over one state, one action at a time, in
any order; some actions wait for a lock. `Amid` is the rule format for the observed program: it
quantifies over the state every action meets, so what it proves holds whatever the others do.
-/

namespace WolfPSA.Lib.Prog

variable {A : Type} {R : A → Type} {F σ α β : Type}

/-! ## Interference -/

/-- The actions a program has performed with the state each of them met, most recent first. -/
abbrev Trail (A σ : Type) := List (A × σ)

/-- However the state changes between its actions, the program returns only as `post` tells. -/
def Amid (h : Handler F σ A R) (post : Trail A σ → α → Prop) : Prog A R α → Trail A σ → Prop
  | ret value, trail => post trail value
  | act a next, trail => ∀ s fault, Amid h post (next (h fault a s).1) ((a, s) :: trail)

variable {h : Handler F σ A R} {post : Trail A σ → α → Prop}

/-- The rule of an action. -/
theorem amid_act {a : A} {k : R a → Prog A R β} {post : Trail A σ → β → Prop} {trail : Trail A σ}
    (next : ∀ s fault, Amid h post (k (h fault a s).1) ((a, s) :: trail)) :
    Amid h post (perform a >>= k) trail := next

/-- The rule of consequence. -/
theorem Amid.mono {post' : Trail A σ → α → Prop} {p : Prog A R α} {trail : Trail A σ}
    (holds : Amid h post p trail) (follows : ∀ trail value, post trail value → post' trail value) :
    Amid h post' p trail := by
  induction p generalizing trail with
  | ret value => exact follows trail value holds
  | act a next ih => exact fun s fault => ih _ (holds s fault)

/-- The rule of sequence. -/
theorem amid_bind {p : Prog A R α} {k : α → Prog A R β} {post : Trail A σ → β → Prop}
    {trail : Trail A σ} (first : Amid h (fun trail value => Amid h post (k value) trail) p trail) :
    Amid h post (p >>= k) trail := by
  induction p generalizing trail with
  | ret value => exact first
  | act a next ih => exact fun s fault => ih _ (first s fault)

/-- A program only adds to its trail. -/
theorem Amid.extends {p : Prog A R α} {trail : Trail A σ} (holds : Amid h post p trail) :
    Amid h (fun trail' value => trail <:+ trail' ∧ post trail' value) p trail := by
  induction p generalizing trail with
  | ret value => exact ⟨List.suffix_refl _, holds⟩
  | act a next ih =>
    intro s fault
    refine (ih _ (holds s fault)).mono fun trail' value later => ⟨?_, later.2⟩
    exact (List.suffix_cons _ _).trans later.1

/-- The rule of sequence with a specification of the first program. -/
theorem amid_bind_of {p : Prog A R α} {k : α → Prog A R β} {post : Trail A σ → β → Prop}
    {post₁ : Trail A σ → α → Prop} {trail : Trail A σ} (first : Amid h post₁ p trail)
    (second : ∀ trail' value, trail <:+ trail' → post₁ trail' value →
      Amid h post (k value) trail') : Amid h post (p >>= k) trail :=
  amid_bind (first.extends.mono fun trail' value met => second trail' value met.1 met.2)

/-- What a program can return when its actions meet admitted faults, each in whatever state the
others have left. -/
inductive Outcome (h : Handler F σ A R) (admitted : F → Prop) : Prog A R α → α → Prop
  | ret (value : α) : Outcome h admitted (ret value) value
  | act {a : A} {next : R a → Prog A R α} {value : α} (s : σ) {fault : F} (allowed : admitted fault)
      (rest : Outcome h admitted (next (h fault a s).1) value) : Outcome h admitted (act a next) value

theorem outcome_perform {admitted : F → Prop} {a : A} {k : R a → Prog A R β} {value : β}
    (outcome : Outcome h admitted (perform a >>= k) value) :
    ∃ s fault, admitted fault ∧ Outcome h admitted (k (h fault a s).1) value := by
  rw [perform_bind] at outcome
  cases outcome with
  | act s allowed rest => exact ⟨s, _, allowed, rest⟩

theorem outcome_bind {admitted : F → Prop} {p : Prog A R α} {k : α → Prog A R β} {value : β}
    (outcome : Outcome h admitted (p >>= k) value) :
    ∃ first, Outcome h admitted p first ∧ Outcome h admitted (k first) value := by
  induction p with
  | ret first => exact ⟨first, .ret first, outcome⟩
  | act a next ih =>
    cases outcome with
    | act s allowed rest =>
      obtain ⟨first, before, after⟩ := ih _ rest
      exact ⟨first, .act s allowed before, after⟩

/-- What an undisturbed run returns is one of the outcomes. -/
theorem outcome_run {admitted : F → Prop} {faults : Nat → F} (allowed : ∀ n, admitted (faults n))
    (p : Prog A R α) (s : σ) : Outcome h admitted p (p.run h faults s).1 := by
  induction p generalizing s faults with
  | ret value => exact .ret value
  | act a next ih => exact .act s (allowed 0) (ih _ (fun n => allowed (n + 1)) _)

/-! ## Pools -/

/-- What a program has returned. -/
def result : Prog A R α → Option α
  | ret value => some value
  | act _ _ => none

theorem of_result {p : Prog A R α} {value : α} (returned : p.result = some value) :
    p = ret value := by
  cases p with
  | ret value' => exact congrArg ret (Option.some.inj returned)
  | act a next => cases returned

/-- What an action does with the lock: take it, give it back, wait until no other thread has it, or
nothing. -/
inductive LockUse where
  | acquire
  | release
  | guarded
  | free
  deriving DecidableEq

/-- One observed program, `none`, and others, `some t`, over one state. -/
structure Pool (A : Type) (R : A → Type) (σ α : Type) where
  state : σ
  holder : Option (Option Nat)
  observed : Prog A R α
  trail : Trail A σ
  others : Nat → Prog A R Unit

/-- Whether thread `t` may perform the action. -/
def enabled (use : A → LockUse) (holder : Option (Option Nat)) (t : Option Nat) (a : A) : Bool :=
  match use a with
  | .acquire => holder.isNone
  | .guarded => holder.isNone || holder == some t
  | .release | .free => true

/-- The holder of the lock after the action. -/
def holderAfter (use : A → LockUse) (holder : Option (Option Nat)) (t : Option Nat) (a : A) :
    Option (Option Nat) :=
  match use a with
  | .acquire => some t
  | .release => none
  | .guarded | .free => holder

/-- Thread `t` takes its next action, if it has one and the lock lets it. -/
def Pool.turn (h : Handler F σ A R) (use : A → LockUse) (c : Pool A R σ α) :
    Option Nat × F → Pool A R σ α
  | (none, fault) =>
    match c.observed with
    | ret _ => c
    | act a next =>
      if enabled use c.holder none a then
        { c with
          state := (h fault a c.state).2
          holder := holderAfter use c.holder none a
          observed := next (h fault a c.state).1
          trail := (a, c.state) :: c.trail }
      else c
  | (some t, fault) =>
    match c.others t with
    | ret _ => c
    | act a next =>
      if enabled use c.holder (some t) a then
        { c with
          state := (h fault a c.state).2
          holder := holderAfter use c.holder (some t) a
          others := fun u => if u = t then next (h fault a c.state).1 else c.others u }
      else c

def Pool.run (h : Handler F σ A R) (use : A → LockUse) (c : Pool A R σ α)
    (turns : List (Option Nat × F)) : Pool A R σ α :=
  turns.foldl (Pool.turn h use) c

variable {use : A → LockUse}

/-- No turn takes the observed program out of its specification. -/
theorem Amid.turn {c : Pool A R σ α} (holds : Amid h post c.observed c.trail)
    (turn : Option Nat × F) :
    Amid h post (c.turn h use turn).observed (c.turn h use turn).trail := by
  obtain ⟨thread, fault⟩ := turn
  cases thread with
  | none =>
    dsimp only [Pool.turn]
    cases remaining : c.observed with
    | ret value => simpa [remaining] using holds
    | act a next =>
      dsimp only
      by_cases may : enabled use c.holder none a = true
      · rw [if_pos may]
        rw [remaining] at holds
        exact holds c.state fault
      · rw [if_neg may]
        exact holds
  | some t =>
    dsimp only [Pool.turn]
    cases c.others t with
    | ret value => exact holds
    | act a next =>
      dsimp only
      by_cases may : enabled use c.holder (some t) a = true
      · rw [if_pos may]
        exact holds
      · rw [if_neg may]
        exact holds

/-- What holds amid any interference holds when the observed program of a pool returns. -/
theorem Amid.pool {c : Pool A R σ α} (holds : Amid h post c.observed c.trail)
    (turns : List (Option Nat × F)) {value : α}
    (returned : (c.run h use turns).observed = ret value) : post (c.run h use turns).trail value := by
  have kept : Amid h post (c.run h use turns).observed (c.run h use turns).trail := by
    unfold Pool.run
    induction turns generalizing c with
    | nil => exact holds
    | cons turn rest ih => exact ih (holds.turn turn) returned
  rw [returned] at kept
  exact kept

end WolfPSA.Lib.Prog
