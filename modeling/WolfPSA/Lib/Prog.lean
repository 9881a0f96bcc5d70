import Mathlib

/-!
# Programs over actions

A program either returns or performs an action of an interface and goes on with the answer. The
world that answers is a handler: a fault decides, for each action and state, what the action
answers and how the state moves. A run reads the faults from a schedule; a run cut short is what a
process that stops leaves behind.

`Triple` is the rule format: it bounds both the states a program passes through and the ones it
returns in, over every schedule of the faults it admits.
-/

namespace WolfPSA.Lib

/-- Programs over actions `A` with answers `R a`. -/
inductive Prog (A : Type) (R : A → Type) (α : Type) : Type
  | ret (value : α)
  | act (a : A) (next : R a → Prog A R α)

namespace Prog

variable {A : Type} {R : A → Type} {F σ α β : Type}

def bind : Prog A R α → (α → Prog A R β) → Prog A R β
  | ret value, k => k value
  | act a next, k => act a fun r => (next r).bind k

instance : Monad (Prog A R) where
  pure := ret
  bind := bind

/-- The program that performs one action and returns its answer. -/
def perform (a : A) : Prog A R (R a) := act a ret

@[simp] theorem pure_eq (value : α) : (pure value : Prog A R α) = ret value := rfl
@[simp] theorem ret_bind (value : α) (k : α → Prog A R β) : (ret value >>= k) = k value := rfl
@[simp] theorem act_bind (a : A) (next : R a → Prog A R α) (k : α → Prog A R β) :
    (act a next >>= k) = act a fun r => next r >>= k := rfl
theorem perform_bind (a : A) (k : R a → Prog A R β) : (perform a >>= k) = act a k := rfl

/-- How the world answers an action under a fault. -/
abbrev Handler (F σ : Type) (A : Type) (R : A → Type) := F → (a : A) → σ → R a × σ

/-- The run of a program to its end; the n-th action meets the n-th fault. -/
def run (h : Handler F σ A R) : (Nat → F) → Prog A R α → σ → α × σ
  | _, ret value, s => (value, s)
  | faults, act a next, s =>
    let r := h (faults 0) a s
    run h (fun n => faults (n + 1)) (next r.1) r.2

theorem run_bind_ret (h : Handler F σ A R) (faults : Nat → F) (p : Prog A R α) (g : α → β) (s : σ) :
    run h faults (p >>= fun value => ret (g value)) s =
      (g (run h faults p s).1, (run h faults p s).2) := by
  induction p generalizing s faults with
  | ret value => rfl
  | act a next ih => exact ih _ _ _

/-- The number of actions of a run. -/
def calls (h : Handler F σ A R) : (Nat → F) → Prog A R α → σ → Nat
  | _, ret _, _ => 0
  | faults, act a next, s =>
    let r := h (faults 0) a s
    calls h (fun n => faults (n + 1)) (next r.1) r.2 + 1

/-- The second of two programs runs with the faults that the first has left. -/
theorem run_bind (h : Handler F σ A R) (faults : Nat → F) (p : Prog A R α) (k : α → Prog A R β)
    (s : σ) : run h faults (p >>= k) s =
      run h (fun n => faults (n + calls h faults p s)) (k (run h faults p s).1)
        (run h faults p s).2 := by
  induction p generalizing s faults with
  | ret value => rfl
  | act a next ih =>
    have rest := ih (h (faults 0) a s).1 (fun n => faults (n + 1)) (h (faults 0) a s).2
    simpa only [act_bind, run, calls, Nat.add_assoc] using rest

/-- The program performs at most `n` actions, whatever they answer. -/
def Within : Nat → Prog A R α → Prop
  | _, ret _ => True
  | 0, act _ _ => False
  | n + 1, act _ next => ∀ r, Within n (next r)

theorem within_ret (n : Nat) (value : α) : Within n (ret value : Prog A R α) := by
  cases n <;> trivial

/-- The rule of one action. -/
theorem within_act {a : A} {k : R a → Prog A R β} {n : Nat} (all : ∀ r, Within n (k r)) :
    Within (n + 1) (perform a >>= k) := all

theorem Within.mono {p : Prog A R α} {m n : Nat} (within : Within m p) (more : m ≤ n) :
    Within n p := by
  induction p generalizing m n with
  | ret value => exact within_ret n value
  | act a next ih =>
    obtain _ | m := m
    · cases within
    obtain _ | n := n
    · omega
    exact fun r => ih r (within r) (by omega)

theorem within_bind {p : Prog A R α} {k : α → Prog A R β} {m n : Nat} (first : Within m p)
    (second : ∀ value, Within n (k value)) : Within (m + n) (p >>= k) := by
  induction p generalizing m with
  | ret value => exact (second value).mono (by omega)
  | act a next ih =>
    obtain _ | m := m
    · cases first
    rw [Nat.add_right_comm]
    exact fun r => ih r (first r)

/-- No world makes the run longer than the bound. -/
theorem Within.calls_le {p : Prog A R α} {n : Nat} (within : Within n p) (h : Handler F σ A R)
    (faults : Nat → F) (s : σ) : calls h faults p s ≤ n := by
  induction p generalizing n faults s with
  | ret value => exact Nat.zero_le n
  | act a next ih =>
    obtain _ | n := n
    · cases within
    exact Nat.succ_le_succ (ih _ (within _) _ _)

/-- The run cut after `k` actions: the state left behind and whether the program had returned. -/
def cut (h : Handler F σ A R) : Nat → (Nat → F) → Prog A R α → σ → Bool × σ
  | _, _, ret _, s => (true, s)
  | 0, _, act _ _, s => (false, s)
  | k + 1, faults, act a next, s =>
    let r := h (faults 0) a s
    cut h k (fun n => faults (n + 1)) (next r.1) r.2

/-- Over every schedule of admitted faults, the program passes only through states satisfying `mid`
before it returns, and returns in `post`. -/
def Triple (h : Handler F σ A R) (admitted : F → Prop) (mid : σ → Prop) (post : α → σ → Prop) :
    Prog A R α → σ → Prop
  | ret value, s => post value s
  | act a next, s => mid s ∧ ∀ fault, admitted fault →
      Triple h admitted mid post (next (h fault a s).1) (h fault a s).2

variable {h : Handler F σ A R} {admitted : F → Prop} {mid : σ → Prop} {post : α → σ → Prop}

/-- The rule of one action, with its answer and the next state named. -/
theorem triple_act {a : A} {k : R a → Prog A R β} {post : β → σ → Prop} {s : σ} (here : mid s)
    (next : ∀ fault, admitted fault → ∀ answer s', h fault a s = (answer, s') →
      Triple h admitted mid post (k answer) s') :
    Triple h admitted mid post (perform a >>= k) s :=
  ⟨here, fun fault allowed => next fault allowed _ _ rfl⟩

/-- An action that leaves the state alone, with its answer forgotten. -/
theorem triple_ask {a : A} {k : R a → Prog A R β} {post : β → σ → Prop} {s : σ} (here : mid s)
    (same : ∀ fault, (h fault a s).2 = s)
    (all : ∀ answer, Triple h admitted mid post (k answer) s) :
    Triple h admitted mid post (perform a >>= k) s := by
  refine ⟨here, fun fault _ => ?_⟩
  rw [same fault]
  exact all (h fault a s).1

/-- The rule of sequence. -/
theorem triple_bind {p : Prog A R α} {k : α → Prog A R β} {post : β → σ → Prop} {s : σ}
    (first : Triple h admitted mid (fun value s' => Triple h admitted mid post (k value) s') p s) :
    Triple h admitted mid post (p >>= k) s := by
  induction p generalizing s with
  | ret value => exact first
  | act a next ih =>
    obtain ⟨here, rest⟩ := first
    exact ⟨here, fun fault allowed => ih _ (rest fault allowed)⟩

/-- The rule of consequence. -/
theorem Triple.mono {mid' : σ → Prop} {post' : α → σ → Prop} {p : Prog A R α} {s : σ}
    (holds : Triple h admitted mid post p s) (weaker : ∀ s, mid s → mid' s)
    (follows : ∀ value s, post value s → post' value s) : Triple h admitted mid' post' p s := by
  induction p generalizing s with
  | ret value => exact follows value s holds
  | act a next ih =>
    obtain ⟨here, rest⟩ := holds
    exact ⟨weaker s here, fun fault allowed => ih _ (rest fault allowed)⟩

/-- Nothing is asked of a program. -/
theorem triple_any (p : Prog A R α) (s : σ) :
    Triple h admitted (fun _ => True) (fun _ _ => True) p s := by
  induction p generalizing s with
  | ret value => trivial
  | act a next ih => exact ⟨trivial, fun _ _ => ih _ _⟩

theorem Triple.and {mid' : σ → Prop} {post' : α → σ → Prop} {p : Prog A R α} {s : σ}
    (left : Triple h admitted mid post p s) (right : Triple h admitted mid' post' p s) :
    Triple h admitted mid (fun value s => post value s ∧ post' value s) p s := by
  induction p generalizing s with
  | ret value => exact ⟨left, right⟩
  | act a next ih =>
    obtain ⟨here, rest⟩ := left
    exact ⟨here, fun fault allowed => ih _ (rest fault allowed) (right.2 fault allowed)⟩

theorem triple_bind_of {p : Prog A R α} {k : α → Prog A R β} {post₁ : α → σ → Prop}
    {post : β → σ → Prop} {s : σ} (first : Triple h admitted mid post₁ p s)
    (second : ∀ value s', post₁ value s' → Triple h admitted mid post (k value) s') :
    Triple h admitted mid post (p >>= k) s :=
  triple_bind (first.mono (fun _ => id) second)

/-- A triple bounds the outcome of every run. -/
theorem Triple.run {p : Prog A R α} {s : σ} (holds : Triple h admitted mid post p s)
    {faults : Nat → F} (allowed : ∀ n, admitted (faults n)) :
    post (p.run h faults s).1 (p.run h faults s).2 := by
  induction p generalizing s faults with
  | ret value => exact holds
  | act a next ih => exact ih _ (holds.2 (faults 0) (allowed 0)) fun n => allowed (n + 1)

theorem Triple.run_every {p : Prog A R α} {s : σ} (holds : Triple h (fun _ => True) mid post p s)
    (faults : Nat → F) : post (p.run h faults s).1 (p.run h faults s).2 :=
  holds.run fun _ => trivial

/-- A triple bounds what a stopped process leaves behind. -/
theorem Triple.cut {p : Prog A R α} {s : σ} (holds : Triple h admitted mid post p s) (k : Nat)
    {faults : Nat → F} (allowed : ∀ n, admitted (faults n))
    (stopped : (p.cut h k faults s).1 = false) : mid (p.cut h k faults s).2 := by
  induction p generalizing s faults k with
  | ret value => simp [Prog.cut] at stopped
  | act a next ih =>
    cases k with
    | zero => exact holds.1
    | succ k =>
      exact ih _ (holds.2 (faults 0) (allowed 0)) k (fun n => allowed (n + 1)) stopped

/-! ## Layers

A program over one interface runs over a lower one when each action is itself a program there. -/

variable {B : Type} {S : B → Type}

/-- Every action replaced by its program over the lower interface. -/
def expand (f : (a : A) → Prog B S (R a)) : Prog A R α → Prog B S α
  | ret value => ret value
  | act a next => f a >>= fun r => expand f (next r)

variable {f : (a : A) → Prog B S (R a)}

@[simp] theorem expand_ret (value : α) : expand f (ret value : Prog A R α) = ret value := rfl

@[simp] theorem expand_act (a : A) (next : R a → Prog A R α) :
    expand f (act a next) = f a >>= fun r => expand f (next r) := rfl

theorem bind_assoc {γ : Type} (p : Prog A R α) (k : α → Prog A R β) (l : β → Prog A R γ) :
    (p >>= k) >>= l = p >>= fun x => k x >>= l := by
  induction p with
  | ret value => rfl
  | act a next ih => exact congrArg (act a) (funext fun r => ih r)

@[simp] theorem expand_bind (p : Prog A R α) (k : α → Prog A R β) :
    expand f (p >>= k) = expand f p >>= fun x => expand f (k x) := by
  induction p with
  | ret value => rfl
  | act a next ih =>
    rw [act_bind, expand_act, expand_act, bind_assoc]
    exact congrArg (f a >>= ·) (funext fun r => ih r)

variable {g : Handler F σ B S} {mid' : σ → Prop}

/-- The rule of sequence for an expanded action, with its own bound on the states on the way. -/
theorem triple_call {a : A} {k : R a → Prog A R β} {post₁ : R a → σ → Prop} {post : β → σ → Prop}
    {s : σ} (first : Triple g admitted mid' post₁ (f a) s) (weaker : ∀ s, mid' s → mid s)
    (second : ∀ answer s', post₁ answer s' → Triple g admitted mid post (expand f (k answer)) s') :
    Triple g admitted mid post (expand f (perform a >>= k)) s :=
  triple_bind (first.mono weaker second)

/-- The rule of sequence for expanded programs. -/
theorem triple_calls {p : Prog A R α} {k : α → Prog A R β} {post₁ : α → σ → Prop}
    {post : β → σ → Prop} {s : σ} (first : Triple g admitted mid' post₁ (expand f p) s)
    (weaker : ∀ s, mid' s → mid s)
    (second : ∀ answer s', post₁ answer s' → Triple g admitted mid post (expand f (k answer)) s') :
    Triple g admitted mid post (expand f (p >>= k)) s := by
  rw [expand_bind]
  exact triple_bind (first.mono weaker second)

end Prog

end WolfPSA.Lib
