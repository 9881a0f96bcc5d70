import Mathlib

/-!
# Runs of a call interface and their histories

A component answers calls one at a time. `run` replays a list of calls from a state and records
each call with its answer, most recent first, so that a suffix of the history is the history at
an earlier moment.
-/

namespace WolfPSA.Lib

variable {σ ε ρ : Type*}

/-- Calls with their answers, most recent first. -/
abbrev History (ε ρ : Type*) := List (ε × ρ)

/-- One call: its answer goes on top of the history and the state moves on. -/
def record (step : σ → ε → ρ × σ) (c : History ε ρ × σ) (e : ε) : History ε ρ × σ :=
  ((e, (step c.2 e).1) :: c.1, (step c.2 e).2)

def run (step : σ → ε → ρ × σ) (s : σ) (es : List ε) : History ε ρ × σ :=
  es.foldl (record step) ([], s)

private theorem foldl_record_invariant {step : σ → ε → ρ × σ} {C : ε → Prop}
    {inv : History ε ρ → σ → Prop}
    (next : ∀ h s e, C e → inv h s → inv ((e, (step s e).1) :: h) (step s e).2)
    (es : List ε) (all : ∀ e ∈ es, C e) (c : History ε ρ × σ) (start : inv c.1 c.2) :
    inv (es.foldl (record step) c).1 (es.foldl (record step) c).2 := by
  induction es generalizing c with
  | nil => exact start
  | cons e rest ih =>
    refine ih (fun e' later => all e' (List.mem_cons_of_mem e later)) (record step c e) ?_
    exact next c.1 c.2 e (all e List.mem_cons_self) start

private theorem foldl_record_state (step : σ → ε → ρ × σ) (es : List ε) (c : History ε ρ × σ) :
    (es.foldl (record step) c).2 = (run step c.2 es).2 := by
  have key (h h' : History ε ρ) (s : σ) :
      (es.foldl (record step) (h, s)).2 = (es.foldl (record step) (h', s)).2 := by
    induction es generalizing h h' s with
    | nil => rfl
    | cons e rest ih => exact ih _ _ _
  exact key c.1 [] c.2

/-- A run goes on from the state its first part reached. -/
theorem run_append (step : σ → ε → ρ × σ) (s : σ) (first second : List ε) :
    (run step s (first ++ second)).2 = (run step (run step s first).2 second).2 := by
  unfold run
  rw [List.foldl_append]
  exact foldl_record_state step second _

theorem run_cons (step : σ → ε → ρ × σ) (s : σ) (e : ε) (rest : List ε) :
    (run step s (e :: rest)).2 = (run step (step s e).2 rest).2 :=
  foldl_record_state step rest (record step ([], s) e)

/-- What holds of the empty history and is kept by every call that meets `C` holds after every run of
such calls. -/
theorem run_invariant_on {step : σ → ε → ρ × σ} {C : ε → Prop} (inv : History ε ρ → σ → Prop) {s : σ}
    (start : inv [] s)
    (next : ∀ h s e, C e → inv h s → inv ((e, (step s e).1) :: h) (step s e).2)
    (es : List ε) (all : ∀ e ∈ es, C e) : inv (run step s es).1 (run step s es).2 :=
  foldl_record_invariant next es all ([], s) start

/-- The same when every call keeps it. -/
theorem run_invariant {step : σ → ε → ρ × σ} (inv : History ε ρ → σ → Prop) {s : σ}
    (start : inv [] s)
    (next : ∀ h s e, inv h s → inv ((e, (step s e).1) :: h) (step s e).2)
    (es : List ε) : inv (run step s es).1 (run step s es).2 :=
  run_invariant_on (C := fun _ => True) inv start (fun h s e _ => next h s e) es fun _ _ => trivial

/-- The same for what does not look at the history. -/
theorem run_state_invariant {step : σ → ε → ρ × σ} {C : ε → Prop} (inv : σ → Prop) {s : σ}
    (start : inv s) (next : ∀ s e, C e → inv s → inv (step s e).2) (es : List ε)
    (all : ∀ e ∈ es, C e) : inv (run step s es).2 :=
  run_invariant_on (fun _ => inv) start (fun _ => next) es all

/-- Two runs over calls that correspond to each other pass through states that do, when every pair
of corresponding calls keeps the correspondence. -/
theorem run_related {step : σ → ε → ρ × σ} {R : σ → σ → Prop} {E : ε → ε → Prop}
    (next : ∀ s₁ s₂ e₁ e₂, R s₁ s₂ → E e₁ e₂ → R (step s₁ e₁).2 (step s₂ e₂).2)
    {s₁ s₂ : σ} (start : R s₁ s₂) {es₁ es₂ : List ε} (calls : List.Forall₂ E es₁ es₂) :
    R (run step s₁ es₁).2 (run step s₂ es₂).2 := by
  induction calls generalizing s₁ s₂ with
  | nil => exact start
  | cons same _ ih =>
    rw [run_cons, run_cons]
    exact ih (next _ _ _ _ start same)

/-- Every moment of the history satisfies `P`: the call, its answer and the history before it. -/
def Throughout (P : ε → ρ → History ε ρ → Prop) (h : History ε ρ) : Prop :=
  ∀ e r older, (e, r) :: older <:+ h → P e r older

@[simp] theorem throughout_nil (P : ε → ρ → History ε ρ → Prop) : Throughout P [] := by
  intro e r older suffixed
  simp at suffixed

@[simp] theorem throughout_cons {P : ε → ρ → History ε ρ → Prop} {e : ε} {r : ρ}
    {h : History ε ρ} : Throughout P ((e, r) :: h) ↔ P e r h ∧ Throughout P h := by
  constructor
  · intro all
    exact ⟨all e r h (List.suffix_refl _),
      fun e' r' older suffixed => all e' r' older (suffixed.trans (List.suffix_cons _ _))⟩
  · rintro ⟨top, rest⟩ e' r' older suffixed
    rcases List.suffix_cons_iff.mp suffixed with equal | within
    · simp only [List.cons.injEq, Prod.mk.injEq] at equal
      obtain ⟨⟨rfl, rfl⟩, rfl⟩ := equal
      exact top
    · exact rest e' r' older within

/-- If every call, made in a state satisfying the invariant and under the calls' own condition
`C`, keeps the invariant and answers with `P`, then a run whose calls all meet `C` answers with
`P` throughout. -/
theorem run_throughout {step : σ → ε → ρ × σ} (inv : History ε ρ → σ → Prop)
    {C P : ε → ρ → History ε ρ → Prop} {s : σ} (start : inv [] s)
    (next : ∀ h s e, inv h s → C e (step s e).1 h →
      inv ((e, (step s e).1) :: h) (step s e).2 ∧ P e (step s e).1 h)
    (es : List ε) (condition : Throughout C (run step s es).1) :
    Throughout P (run step s es).1 := by
  have key : Throughout C (run step s es).1 →
      inv (run step s es).1 (run step s es).2 ∧ Throughout P (run step s es).1 := by
    refine run_invariant (fun h s => Throughout C h → inv h s ∧ Throughout P h) ?_ ?_ es
    · intro _
      exact ⟨start, throughout_nil P⟩
    · intro h s e before met
      obtain ⟨now, past⟩ := throughout_cons.mp met
      obtain ⟨holds, answers⟩ := before past
      obtain ⟨kept, answer⟩ := next h s e holds now
      exact ⟨kept, throughout_cons.mpr ⟨answer, answers⟩⟩
  exact (key condition).2

/-- The state of a specification after a history of calls and the answers they got. -/
def replay {τ : Type*} (next : τ → ε → ρ → τ) (t : τ) : History ε ρ → τ
  | [] => t
  | (e, r) :: older => next (replay next t older) e r

/-- Where every call, from related states, answers as the specification allows and leads to related
states, every run answers so throughout and ends in a related state. -/
theorem run_simulates {τ : Type*} {step : σ → ε → ρ × σ} {next : τ → ε → ρ → τ} {C : ε → Prop}
    {R : σ → τ → Prop} {P : τ → ε → ρ → Prop} {s : σ} {t : τ} (start : R s t)
    (simulates : ∀ s t e, C e → R s t →
      P t e (step s e).1 ∧ R (step s e).2 (next t e (step s e).1))
    (es : List ε) (all : ∀ e ∈ es, C e) :
    Throughout (fun e r older => P (replay next t older) e r) (run step s es).1 ∧
      R (run step s es).2 (replay next t (run step s es).1) := by
  refine run_invariant_on (fun h s => Throughout (fun e r older => P (replay next t older) e r) h ∧
    R s (replay next t h)) ⟨throughout_nil _, start⟩ ?_ es all
  rintro h s e here ⟨past, related⟩
  obtain ⟨now, moved⟩ := simulates s (replay next t h) e here related
  exact ⟨throughout_cons.mpr ⟨now, past⟩, moved⟩

private theorem foldl_record_refines {τ : Type*} {step : σ → ε → ρ × σ} {spec : τ → ε → ρ × τ}
    {C : ε → Prop} {R : σ → τ → Prop}
    (refines : ∀ s t e, C e → R s t →
      (step s e).1 = (spec t e).1 ∧ R (step s e).2 (spec t e).2)
    (es : List ε) (all : ∀ e ∈ es, C e) (h : History ε ρ) {s : σ} {t : τ} (start : R s t) :
    (es.foldl (record step) (h, s)).1 = (es.foldl (record spec) (h, t)).1 := by
  induction es generalizing h s t with
  | nil => rfl
  | cons e rest ih =>
    obtain ⟨answer, moved⟩ := refines s t e (all e List.mem_cons_self) start
    rw [List.foldl_cons, List.foldl_cons]
    unfold record
    dsimp only
    rw [answer]
    exact ih (fun e' later => all e' (List.mem_cons_of_mem e later)) _ moved

/-- Where every call answers exactly as the specification, the runs have one history. -/
theorem run_refines {τ : Type*} {step : σ → ε → ρ × σ} {spec : τ → ε → ρ × τ} {C : ε → Prop}
    {R : σ → τ → Prop} {s : σ} {t : τ} (start : R s t)
    (refines : ∀ s t e, C e → R s t →
      (step s e).1 = (spec t e).1 ∧ R (step s e).2 (spec t e).2)
    (es : List ε) (all : ∀ e ∈ es, C e) : (run step s es).1 = (run spec t es).1 :=
  foldl_record_refines refines es all [] start

end WolfPSA.Lib
