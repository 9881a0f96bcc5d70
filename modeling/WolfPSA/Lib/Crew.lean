import Mathlib
import WolfPSA.Lib.Interleave

/-!
# Threads with one lock

A crew runs numbered programs over one state, one action at a time, in any order. When each program
leaves the state alone until it takes the lock and returns once it gives it back, every interleaving
answers as if the critical sections had run one after another: `Crew.linearizes`.
-/

namespace WolfPSA.Lib.Prog

variable {A : Type} {R : A → Type} {F σ α β : Type}

/-- Programs over one state, with the thread that has the lock. -/
structure Crew (A : Type) (R : A → Type) (σ α : Type) where
  state : σ
  holder : Option (Option Nat)
  threads : Nat → Prog A R α

/-- Thread `t` takes its next action, if it has one and the lock lets it. -/
def Crew.turn (h : Handler F σ A R) (use : A → LockUse) (c : Crew A R σ α) :
    Nat × F → Crew A R σ α
  | (t, fault) =>
    match c.threads t with
    | ret _ => c
    | act a next =>
      if enabled use c.holder (some t) a then
        { state := (h fault a c.state).2
          holder := holderAfter use c.holder (some t) a
          threads := Function.update c.threads t (next (h fault a c.state).1) }
      else c

def Crew.run (h : Handler F σ A R) (use : A → LockUse) (c : Crew A R σ α) (turns : List (Nat × F)) :
    Crew A R σ α :=
  turns.foldl (Crew.turn h use) c

/-- Thread `t` has an action left and may take it. -/
def Crew.ready (use : A → LockUse) (c : Crew A R σ α) (t : Nat) : Bool :=
  match c.threads t with
  | ret _ => false
  | act a _ => enabled use c.holder (some t) a

variable {h : Handler F σ A R} {use : A → LockUse} {c : Crew A R σ α}

/-- What holds at the start and is kept by every admitted turn holds after every run. -/
theorem Crew.run_invariant {admitted : Nat × F → Prop} {inv : Crew A R σ α → Prop} (start : inv c)
    (next : ∀ c turn, admitted turn → inv c → inv (c.turn h use turn)) (turns : List (Nat × F))
    (allowed : ∀ turn ∈ turns, admitted turn) : inv (c.run h use turns) := by
  unfold Crew.run
  induction turns generalizing c with
  | nil => exact start
  | cons turn rest ih =>
    refine ih (next c turn (allowed turn List.mem_cons_self) start) fun turn' later => ?_
    exact allowed turn' (List.mem_cons_of_mem _ later)

/-- A turn that does something is one enabled action of its thread. -/
theorem Crew.turn_cases (h : Handler F σ A R) (use : A → LockUse) (c : Crew A R σ α) (t : Nat)
    (fault : F) :
    c.turn h use (t, fault) = c ∨
    ∃ a next, c.threads t = act a next ∧ enabled use c.holder (some t) a = true ∧
      c.turn h use (t, fault) =
        { state := (h fault a c.state).2
          holder := holderAfter use c.holder (some t) a
          threads := Function.update c.threads t (next (h fault a c.state).1) } := by
  unfold Crew.turn
  dsimp only
  cases remaining : c.threads t with
  | ret value => exact .inl rfl
  | act a next =>
    dsimp only
    by_cases may : enabled use c.holder (some t) a = true
    · exact .inr ⟨a, next, rfl, may, by rw [if_pos may]⟩
    · exact .inl (by rw [if_neg may])

/-! ## Histories -/

/-- The actions threads have performed with the state each of them met, most recent first. -/
abbrev Actions (A σ : Type) := List (Nat × A × σ)

/-- A turn that also writes down the action it performs. -/
def Crew.note (h : Handler F σ A R) (use : A → LockUse) (x : Actions A σ × Crew A R σ α)
    (turn : Nat × F) : Actions A σ × Crew A R σ α :=
  (match x.2.threads turn.1 with
    | ret _ => x.1
    | act a _ => if enabled use x.2.holder (some turn.1) a then (turn.1, a, x.2.state) :: x.1 else x.1,
    x.2.turn h use turn)

/-- The actions of a run. -/
def Crew.history (h : Handler F σ A R) (use : A → LockUse) (c : Crew A R σ α)
    (turns : List (Nat × F)) : Actions A σ :=
  (turns.foldl (Crew.note h use) ([], c)).1

/-- The actions of one thread. -/
def own (t : Nat) (actions : Actions A σ) : Trail A σ :=
  actions.filterMap fun e => if e.1 = t then some e.2 else none

/-- What holds at the start and is kept by every action of an enabled thread holds after every run of
its history and its crew. -/
theorem Crew.history_invariant (inv : Actions A σ → Crew A R σ α → Prop) (start : inv [] c)
    (next : ∀ actions c t fault a k, c.threads t = act a k →
      enabled use c.holder (some t) a = true → inv actions c →
      inv ((t, a, c.state) :: actions)
        { state := (h fault a c.state).2
          holder := holderAfter use c.holder (some t) a
          threads := Function.update c.threads t (k (h fault a c.state).1) })
    (turns : List (Nat × F)) : inv (c.history h use turns) (c.run h use turns) := by
  have key (x : Actions A σ × Crew A R σ α) (holds : inv x.1 x.2) :
      inv (turns.foldl (Crew.note h use) x).1 (turns.foldl (Crew.note h use) x).2 ∧
        (turns.foldl (Crew.note h use) x).2 = x.2.run h use turns := by
    induction turns generalizing x with
    | nil => exact ⟨holds, rfl⟩
    | cons turn rest ih =>
      refine ih (Crew.note h use x turn) ?_
      obtain ⟨t, fault⟩ := turn
      unfold Crew.note Crew.turn
      dsimp only
      cases remaining : x.2.threads t with
      | ret value => exact holds
      | act a k =>
        dsimp only
        by_cases may : enabled use x.2.holder (some t) a = true
        · rw [if_pos may, if_pos may]
          exact next x.1 x.2 t fault a k remaining may holds
        · rw [if_neg may, if_neg may]
          exact holds
  obtain ⟨holds, same⟩ := key ([], c) start
  rw [same] at holds
  exact holds

/-- What every thread does amid any interference holds of its own actions in every run. -/
theorem Crew.amid {post : Nat → Trail A σ → α → Prop}
    (each : ∀ t, Amid h (post t) (c.threads t) []) (turns : List (Nat × F)) (t : Nat) :
    Amid h (post t) ((c.run h use turns).threads t) (own t (c.history h use turns)) := by
  refine Crew.history_invariant (fun actions c => Amid h (post t) (c.threads t) (own t actions))
    (each t) ?_ turns
  intro actions c u fault a k remaining _ holds
  dsimp only
  by_cases same : u = t
  · subst same
    rw [remaining] at holds
    rw [Function.update_self]
    simpa [own] using holds c.state fault
  · rw [Function.update_of_ne (fun equal => same equal.symm)]
    simpa [own, same] using holds

/-- However the others move the state within `inv`, the program returns only as `post` tells. -/
def Under (h : Handler F σ A R) (admitted : F → Prop) (inv : σ → Prop) (post : α → Prop) :
    Prog A R α → Prop
  | ret value => post value
  | act a next => ∀ s fault, inv s → admitted fault → Under h admitted inv post (next (h fault a s).1)

/-- The rule of an action. -/
theorem under_act {admitted : F → Prop} {inv : σ → Prop} {post : β → Prop} {a : A}
    {k : R a → Prog A R β} (next : ∀ s fault, inv s → admitted fault →
      Under h admitted inv post (k (h fault a s).1)) :
    Under h admitted inv post (perform a >>= k) := next

/-- What every action keeps of the state, every run keeps. -/
theorem Crew.run_state {inv : σ → Prop} (stays : ∀ s fault a, inv s → inv (h fault a s).2)
    (holds : inv c.state) (turns : List (Nat × F)) : inv (c.run h use turns).state := by
  have next (c : Crew A R σ α) (turn : Nat × F) (_ : True) (within : inv c.state) :
      inv (c.turn h use turn).state := by
    rcases Crew.turn_cases h use c turn.1 turn.2 with same | ⟨a, k, -, -, moved⟩
    · rw [same]
      exact within
    · rw [moved]
      exact stays _ _ _ within
  exact Crew.run_invariant holds next turns fun _ _ => trivial

/-- In a run that never leaves `inv` and in which thread `t` meets admitted faults, `t` returns as it
does under `inv`. -/
theorem Crew.under {admitted : F → Prop} {inv : σ → Prop} {post : α → Prop} {t : Nat}
    (stays : ∀ s fault a, inv s → inv (h fault a s).2) (holds : inv c.state)
    (goes : Under h admitted inv post (c.threads t)) (turns : List (Nat × F))
    (allowed : ∀ turn ∈ turns, turn.1 = t → admitted turn.2) :
    Under h admitted inv post ((c.run h use turns).threads t) := by
  have next (c : Crew A R σ α) (turn : Nat × F) (granted : turn.1 = t → admitted turn.2)
      (before : inv c.state ∧ Under h admitted inv post (c.threads t)) :
      inv (c.turn h use turn).state ∧ Under h admitted inv post ((c.turn h use turn).threads t) := by
    obtain ⟨u, fault⟩ := turn
    obtain ⟨within, goes⟩ := before
    rcases Crew.turn_cases h use c u fault with same | ⟨a, k, remaining, -, moved⟩
    · rw [same]
      exact ⟨within, goes⟩
    rw [moved]
    refine ⟨stays _ _ _ within, ?_⟩
    dsimp only
    by_cases mine : u = t
    · subst mine
      rw [remaining] at goes
      rw [Function.update_self]
      exact goes c.state fault within (granted rfl)
    · rw [Function.update_of_ne (fun equal => mine equal.symm)]
      exact goes
  have start : inv c.state ∧ Under h admitted inv post (c.threads t) := ⟨holds, goes⟩
  exact (Crew.run_invariant start next turns allowed).2

/-! ## The lock comes back -/

/-- On every path, whatever the answers, the program takes the lock only without it, gives it back
only with it, and returns without it. -/
def Balanced (use : A → LockUse) : Bool → Prog A R α → Prop
  | held, ret _ => held = false
  | held, act a next =>
    match use a with
    | .acquire => held = false ∧ ∀ r, Balanced use true (next r)
    | .release => held = true ∧ ∀ r, Balanced use false (next r)
    | .guarded | .free => ∀ r, Balanced use held (next r)

theorem balanced_bind {p : Prog A R α} {k : α → Prog A R β} {held : Bool}
    (first : Balanced use held p) (second : ∀ value, Balanced use false (k value)) :
    Balanced use held (p >>= k) := by
  induction p generalizing held with
  | ret value =>
    have free : held = false := first
    subst free
    exact second value
  | act a next ih =>
    unfold Balanced at first
    show Balanced use held (act a fun r => next r >>= k)
    unfold Balanced
    cases used : use a with
    | acquire =>
      rw [used] at first
      exact ⟨first.1, fun r => ih r (first.2 r)⟩
    | release =>
      rw [used] at first
      exact ⟨first.1, fun r => ih r (first.2 r)⟩
    | guarded =>
      rw [used] at first
      exact fun r => ih r (first r)
    | free =>
      rw [used] at first
      exact fun r => ih r (first r)

/-- Every thread is balanced from where it stands, counting the lock as held by its holder. -/
def Crew.Balanced (use : A → LockUse) (c : Crew A R σ α) : Prop :=
  ∀ t, Prog.Balanced use (c.holder == some (some t)) (c.threads t)

theorem Crew.Balanced.turn (balanced : c.Balanced use) (turn : Nat × F) :
    (c.turn h use turn).Balanced use := by
  obtain ⟨t, fault⟩ := turn
  rcases Crew.turn_cases h use c t fault with same | ⟨a, next, remaining, may, moved⟩
  · rw [same]
    exact balanced
  rw [moved]
  intro u
  have mine := balanced t
  rw [remaining] at mine
  unfold Prog.Balanced at mine
  dsimp only
  by_cases other : u = t
  · subst other
    rw [Function.update_self]
    cases used : use a with
    | acquire =>
      rw [used] at mine
      simpa [holderAfter, used] using mine.2 _
    | release =>
      rw [used] at mine
      simpa [holderAfter, used] using mine.2 _
    | guarded =>
      rw [used] at mine
      simpa [holderAfter, used] using mine _
    | free =>
      rw [used] at mine
      simpa [holderAfter, used] using mine _
  · rw [Function.update_of_ne other]
    have theirs := balanced u
    cases used : use a with
    | acquire =>
      have free : c.holder = none := by
        simpa [enabled, used] using may
      have lost : (some (some t) == some (some u)) = false := by
        simpa using fun same => other same.symm
      simp only [holderAfter, used, lost]
      simpa [free] using theirs
    | release =>
      rw [used] at mine
      have holds : c.holder = some (some t) := by simpa using mine.1
      have lost : (some (some t) == some (some u)) = false := by
        simpa using fun same => other same.symm
      rw [holds, lost] at theirs
      simpa [holderAfter, used] using theirs
    | guarded => simpa [holderAfter, used] using theirs
    | free => simpa [holderAfter, used] using theirs

/-- A thread that has returned does not have the lock. -/
theorem Crew.Balanced.returned (balanced : c.Balanced use) {t : Nat} {value : α}
    (returned : c.threads t = ret value) : c.holder ≠ some (some t) := by
  have mine := balanced t
  rw [returned] at mine
  simpa [Prog.Balanced] using mine

/-! ## One section after another -/

/-- Inside its critical section, the program keeps the lock to its last action and returns with
`post`, if nobody else moves the state. -/
def Inside (h : Handler F σ A R) (use : A → LockUse) (admitted : F → Prop) (post : α → σ → Prop) :
    Prog A R α → σ → Prop
  | ret _, _ => False
  | act a next, s =>
    match use a with
    | .acquire => False
    | .release => ∀ fault, admitted fault →
        ∃ value, next (h fault a s).1 = ret value ∧ post value (h fault a s).2
    | .guarded | .free => ∀ fault, admitted fault →
        Inside h use admitted post (next (h fault a s).1) (h fault a s).2

/-- Before its critical section, the program leaves every state alone; from a state with `good` the
section answers as `post` tells. -/
def Approaches (h : Handler F σ A R) (use : A → LockUse) (admitted : F → Prop) (good : σ → Prop)
    (post : σ → α → σ → Prop) : Prog A R α → Prop
  | ret _ => False
  | act a next =>
    match use a with
    | .acquire => ∀ s fault, admitted fault → good s →
        (h fault a s).2 = s ∧ Inside h use admitted (post s) (next (h fault a s).1) s
    | .release => False
    | .guarded | .free => ∀ s fault, admitted fault →
        (h fault a s).2 = s ∧ Approaches h use admitted good post (next (h fault a s).1)

section

variable {admitted : F → Prop} {good : σ → Prop} {a : A}

theorem approaches_act {post : σ → β → σ → Prop} {k : R a → Prog A R β}
    (used : use a = .guarded ∨ use a = .free)
    (next : ∀ s fault, admitted fault →
      (h fault a s).2 = s ∧ Approaches h use admitted good post (k (h fault a s).1)) :
    Approaches h use admitted good post (perform a >>= k) := by
  show Approaches h use admitted good post (act a k)
  unfold Approaches
  rcases used with used | used
  · rw [used]
    exact next
  · rw [used]
    exact next

theorem approaches_lock {post : σ → β → σ → Prop} {k : R a → Prog A R β} (used : use a = .acquire)
    (next : ∀ s fault, admitted fault → good s →
      (h fault a s).2 = s ∧ Inside h use admitted (post s) (k (h fault a s).1) s) :
    Approaches h use admitted good post (perform a >>= k) := by
  show Approaches h use admitted good post (act a k)
  unfold Approaches
  rw [used]
  exact next

theorem inside_act {post : β → σ → Prop} {k : R a → Prog A R β} {s : σ}
    (used : use a = .guarded ∨ use a = .free)
    (next : ∀ fault, admitted fault → ∀ answer s', h fault a s = (answer, s') →
      Inside h use admitted post (k answer) s') :
    Inside h use admitted post (perform a >>= k) s := by
  show Inside h use admitted post (act a k) s
  unfold Inside
  rcases used with used | used
  · rw [used]
    exact fun fault allowed => next fault allowed _ _ rfl
  · rw [used]
    exact fun fault allowed => next fault allowed _ _ rfl

theorem inside_release {post : β → σ → Prop} {k : R a → Prog A R β} {s : σ}
    (used : use a = .release)
    (next : ∀ fault, admitted fault →
      ∃ value, k (h fault a s).1 = ret value ∧ post value (h fault a s).2) :
    Inside h use admitted post (perform a >>= k) s := by
  show Inside h use admitted post (act a k) s
  unfold Inside
  rw [used]
  exact next

end

/-- Critical sections one after another, most recent first, each of another thread. -/
inductive Linear (post : Nat → σ → α → σ → Prop) (start : σ) : List (Nat × α) → σ → Prop
  | nil : Linear post start [] start
  | cons {done : List (Nat × α)} {s s' : σ} {t : Nat} {value : α} (before : Linear post start done s)
      (once : ∀ value', (t, value') ∉ done) (next : post t s value s') :
      Linear post start ((t, value) :: done) s'

/-- Where a thread stands: it has returned what its section answered, its section is still to come,
or it is inside and has the lock. -/
inductive Stands (h : Handler F σ A R) (use : A → LockUse) (admitted : F → Prop) (good : σ → Prop)
    (post : Nat → σ → α → σ → Prop) (done : List (Nat × α)) (settled : σ) (c : Crew A R σ α)
    (t : Nat) : Prop
  | returned {value : α} (answered : (t, value) ∈ done) (ended : c.threads t = ret value)
      (without : c.holder ≠ some (some t))
  | outside (open_ : ∀ value, (t, value) ∉ done) (without : c.holder ≠ some (some t))
      (approaches : Approaches h use admitted good (post t) (c.threads t))
  | inside (open_ : ∀ value, (t, value) ∉ done) (holds : c.holder = some (some t))
      (goes : Inside h use admitted (post t settled) (c.threads t) c.state)

/-- The threads of `member` stand somewhere in a sequence of sections; without a holder the state is
the one that sequence has reached. -/
structure Linearized (h : Handler F σ A R) (use : A → LockUse) (admitted : F → Prop)
    (good : σ → Prop) (post : Nat → σ → α → σ → Prop) (member : Nat → Prop) (start : σ)
    (c : Crew A R σ α) (done : List (Nat × α)) (settled : σ) : Prop where
  linear : Linear post start done settled
  belong : ∀ t value, (t, value) ∈ done → member t
  holds : good settled
  stands : ∀ t, member t → Stands h use admitted good post done settled c t
  free : c.holder = none → c.state = settled
  held : ∀ x, c.holder = some x → ∃ t, member t ∧ x = some t

variable {admitted : F → Prop} {good : σ → Prop} {post : Nat → σ → α → σ → Prop}
  {member : Nat → Prop} {start settled : σ} {done : List (Nat × α)}

/-- A step of another thread that leaves the state and the lock alone. -/
theorem Stands.unmoved {t u : Nat} {p : Prog A R α}
    (stands : Stands h use admitted good post done settled c u) (different : u ≠ t) :
    Stands h use admitted good post done settled
      ⟨c.state, c.holder, Function.update c.threads t p⟩ u := by
  have same : Function.update c.threads t p u = c.threads u := Function.update_of_ne different _ _
  cases stands with
  | returned answered ended without => exact .returned answered (same.trans ended) without
  | outside open_ without approaches =>
    rw [← same] at approaches
    exact .outside open_ without approaches
  | inside open_ holds goes =>
    rw [← same] at goes
    exact .inside open_ holds goes

/-- A step of another thread, with `u` outside its section before and after. -/
theorem Stands.other {t u : Nat} {p : Prog A R α} {s settled' : σ} {holder : Option (Option Nat)}
    {done' : List (Nat × α)} (stands : Stands h use admitted good post done settled c u)
    (different : u ≠ t) (without : c.holder ≠ some (some u)) (without' : holder ≠ some (some u))
    (answers : ∀ value, (u, value) ∈ done' ↔ (u, value) ∈ done) :
    Stands h use admitted good post done' settled' ⟨s, holder, Function.update c.threads t p⟩ u := by
  have same : Function.update c.threads t p u = c.threads u := Function.update_of_ne different _ _
  cases stands with
  | returned answered ended _ =>
    exact .returned ((answers _).mpr answered) (same.trans ended) without'
  | outside open_ _ approaches =>
    rw [← same] at approaches
    exact .outside (fun value answered => open_ value ((answers value).mp answered)) without'
      approaches
  | inside _ holds _ => exact absurd holds without

theorem Linearized.turn
    (linearized : Linearized h use admitted good post member start c done settled)
    (keeps : ∀ t s value s', member t → good s → post t s value s' → good s')
    {t : Nat} {fault : F} (belongs : member t) (allowed : admitted fault) :
    ∃ done' settled',
      Linearized h use admitted good post member start (c.turn h use (t, fault)) done' settled' := by
  rcases Crew.turn_cases h use c t fault with same | ⟨a, next, remaining, may, moved⟩
  · rw [same]
    exact ⟨done, settled, linearized⟩
  rw [moved]
  -- a thread other than `t` has the lock only if `t` does not
  have others {u : Nat} (different : u ≠ t) (mine : c.holder = some (some t)) :
      c.holder ≠ some (some u) := by
    rw [mine]
    simpa using fun same => different same.symm
  cases linearized.stands t belongs with
  | returned _ ended _ =>
    rw [ended] at remaining
    cases remaining
  | outside open_ without approaches =>
    rw [remaining] at approaches
    unfold Approaches at approaches
    cases used : use a with
    | acquire =>
      rw [used] at approaches
      have free : c.holder = none := by simpa [enabled, used] using may
      obtain ⟨still, inside⟩ := approaches c.state fault allowed
        (by rw [linearized.free free]; exact linearized.holds)
      refine ⟨done, settled, linearized.linear, linearized.belong, linearized.holds, fun u member_u => ?_, ?_, ?_⟩
      · by_cases same : u = t
        · subst same
          refine .inside open_ (by simp [holderAfter, used]) ?_
          dsimp only
          rw [Function.update_self, still, ← linearized.free free]
          exact inside
        · refine (linearized.stands u member_u).other same (by simp [free]) ?_ fun _ => Iff.rfl
          simpa [holderAfter, used] using fun equal => same equal.symm
      · simp [holderAfter, used]
      · intro x taken
        simp only [holderAfter, used, Option.some.injEq] at taken
        exact ⟨t, belongs, taken.symm⟩
    | release =>
      rw [used] at approaches
      exact absurd approaches id
    | guarded | free =>
      rw [used] at approaches
      obtain ⟨still, further⟩ := approaches c.state fault allowed
      refine ⟨done, settled, linearized.linear, linearized.belong, linearized.holds, fun u member_u => ?_, ?_, ?_⟩
      · by_cases same : u = t
        · subst same
          refine .outside open_ (by simpa [holderAfter, used] using without) ?_
          dsimp only
          rw [Function.update_self]
          exact further
        · have unmoved := (linearized.stands u member_u).unmoved (p := next (h fault a c.state).1) same
          simpa [holderAfter, used, still] using unmoved
      · intro free
        exact still.trans (linearized.free (by simpa [holderAfter, used] using free))
      · intro x taken
        exact linearized.held x (by simpa [holderAfter, used] using taken)
  | inside open_ holds goes =>
    rw [remaining] at goes
    unfold Inside at goes
    cases used : use a with
    | acquire =>
      rw [used] at goes
      exact absurd goes id
    | release =>
      rw [used] at goes
      obtain ⟨value, ended, answered⟩ := goes fault allowed
      have belong (u : Nat) (value' : α) (answered : (u, value') ∈ (t, value) :: done) :
          member u := by
        rcases List.mem_cons.mp answered with same | earlier
        · rw [(Prod.mk.inj same).1]
          exact belongs
        · exact linearized.belong u value' earlier
      refine ⟨(t, value) :: done, (h fault a c.state).2, .cons linearized.linear open_ answered,
        belong, keeps t _ _ _ belongs linearized.holds answered, fun u member_u => ?_, fun _ => rfl, ?_⟩
      · by_cases same : u = t
        · subst same
          refine .returned List.mem_cons_self ?_ (by simp [holderAfter, used])
          dsimp only
          rw [Function.update_self, ended]
        · refine (linearized.stands u member_u).other same (others same holds)
            (by simp [holderAfter, used]) fun value' => ?_
          simp [same]
      · simp [holderAfter, used]
    | guarded | free =>
      rw [used] at goes
      refine ⟨done, settled, linearized.linear, linearized.belong, linearized.holds, fun u member_u => ?_, ?_, ?_⟩
      · by_cases same : u = t
        · subst same
          refine .inside open_ (by simpa [holderAfter, used] using holds) ?_
          dsimp only
          rw [Function.update_self]
          exact goes fault allowed
        · refine (linearized.stands u member_u).other same (others same holds) ?_ fun _ => Iff.rfl
          simpa [holderAfter, used] using others same holds
      · intro free
        simp [holderAfter, used, holds] at free
      · intro x taken
        exact linearized.held x (by simpa [holderAfter, used] using taken)

/-- The linearization rule: however the threads of `member` are interleaved, their answers and the
state they leave behind are those of their critical sections one after another. -/
theorem Crew.linearizes (members : ∀ t, member t → Approaches h use admitted good (post t)
      (c.threads t)) (free : c.holder = none) (holds : good c.state)
    (keeps : ∀ t s value s', member t → good s → post t s value s' → good s')
    (turns : List (Nat × F)) (allowed : ∀ turn ∈ turns, member turn.1 ∧ admitted turn.2) :
    ∃ done settled,
      Linearized h use admitted good post member c.state (c.run h use turns) done settled := by
  have next (c' : Crew A R σ α) (turn : Nat × F) (granted : member turn.1 ∧ admitted turn.2)
      (before : ∃ done settled,
        Linearized h use admitted good post member c.state c' done settled) :
      ∃ done settled, Linearized h use admitted good post member c.state (c'.turn h use turn)
        done settled := by
    obtain ⟨done, settled, linearized⟩ := before
    exact linearized.turn keeps granted.1 granted.2
  refine Crew.run_invariant ?_ next turns allowed
  refine ⟨[], c.state, .nil, by simp, holds, fun t belongs => ?_, fun _ => rfl, ?_⟩
  · exact .outside (by simp) (by simp [free]) (members t belongs)
  · intro x taken
    rw [free] at taken
    cases taken

/-- What a thread has returned is what its section answered. -/
theorem Linearized.answered
    (linearized : Linearized h use admitted good post member start c done settled) {t : Nat}
    (belongs : member t) {value : α} (returned : (c.threads t).result = some value) :
    (t, value) ∈ done := by
  have ended := of_result returned
  cases linearized.stands t belongs with
  | returned answered ended' _ =>
    rw [ended] at ended'
    cases ended'
    exact answered
  | outside _ _ approaches =>
    rw [ended] at approaches
    exact absurd approaches id
  | inside _ _ goes =>
    rw [ended] at goes
    exact absurd goes id

/-- A thread whose section is over has returned, without the lock. -/
theorem Linearized.returned
    (linearized : Linearized h use admitted good post member start c done settled) {t : Nat}
    {value : α} (answered : (t, value) ∈ done) :
    ∃ value', (t, value') ∈ done ∧ (c.threads t).result = some value' := by
  cases linearized.stands t (linearized.belong t value answered) with
  | returned answered' ended _ => exact ⟨_, answered', by rw [ended]; rfl⟩
  | outside open_ _ _ => exact absurd answered (open_ value)
  | inside open_ _ _ => exact absurd answered (open_ value)

/-- When every thread of `member` has returned, nobody has the lock. -/
theorem Linearized.released
    (linearized : Linearized h use admitted good post member start c done settled)
    (all : ∀ t, member t → (c.threads t).result.isSome) : c.holder = none := by
  cases holder : c.holder with
  | none => rfl
  | some x =>
    obtain ⟨t, belongs, rfl⟩ := linearized.held x holder
    obtain ⟨value, ended⟩ := Option.isSome_iff_exists.mp (all t belongs)
    cases linearized.stands t belongs with
    | returned _ _ without => exact absurd holder without
    | outside _ without _ => exact absurd holder without
    | inside _ _ goes =>
      rw [of_result ended] at goes
      exact absurd goes id

/-- While a thread of `member` has not returned, one of them can go on. -/
theorem Linearized.progress
    (linearized : Linearized h use admitted good post member start c done settled) {t : Nat}
    (belongs : member t) (running : (c.threads t).result = none) :
    ∃ u, member u ∧ c.ready use u = true := by
  cases holder : c.holder with
  | none =>
    refine ⟨t, belongs, ?_⟩
    cases linearized.stands t belongs with
    | returned _ ended _ =>
      rw [ended] at running
      cases running
    | outside _ _ approaches =>
      unfold Crew.ready
      cases remaining : c.threads t with
      | ret value =>
        rw [remaining] at running
        cases running
      | act a next => cases used : use a <;> simp [enabled, used, holder]
    | inside _ holds _ =>
      rw [holder] at holds
      cases holds
  | some x =>
    obtain ⟨u, member_u, rfl⟩ := linearized.held x holder
    refine ⟨u, member_u, ?_⟩
    cases linearized.stands u member_u with
    | returned _ _ without => exact absurd holder without
    | outside _ without _ => exact absurd holder without
    | inside _ _ goes =>
      unfold Crew.ready
      cases remaining : c.threads u with
      | ret value =>
        rw [remaining] at goes
        exact absurd goes id
      | act a next =>
        rw [remaining] at goes
        unfold Inside at goes
        cases used : use a with
        | acquire =>
          rw [used] at goes
          exact absurd goes id
        | release | guarded | free => simp [enabled, used, holder]

end WolfPSA.Lib.Prog
