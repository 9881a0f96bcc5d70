import Mathlib

/-!
# Operation objects that failures end

An interface of calls on numbered operation objects, each active or inactive. `FailureEnds` says of a run
that a failing call leaves its object inactive and that from there on the object refuses work until a call
starts it again. It follows from three facts about one call, `EndsOnFailure`.
-/

namespace WolfPSA.Lib

universe u v w

/-- The calls of an interface as they concern an object. -/
structure HandleCalls (σ : Type u) (ε : Type v) (ρ : Type w) where
  step : σ → ε → ρ × σ
  active : σ → Nat → Prop
  /-- A call whose failure is to end the object. -/
  works : ε → Nat → Prop
  /-- A call that an inactive object is to refuse. -/
  further : ε → Nat → Prop
  /-- A call that can make the object active. -/
  starts : ε → Nat → Prop
  fails : ρ → Prop
  refused : ρ → Prop

namespace HandleCalls

variable {σ : Type u} {ε : Type v} {ρ : Type w} (I : HandleCalls σ ε ρ)

/-- Every call of a run meets a condition in the state it is made in. -/
def Along (C : σ → ε → Prop) : σ → List ε → Prop
  | _, [] => True
  | s, e :: rest => C s e ∧ Along C (I.step s e).2 rest

/-- The object refuses work until a call starts it. -/
def RefusesUntilStart (op : Nat) : σ → List ε → Prop
  | _, [] => True
  | s, e :: rest =>
    (I.starts e op ∧ ¬I.fails (I.step s e).1) ∨
      (I.further e op → I.refused (I.step s e).1) ∧ RefusesUntilStart op (I.step s e).2 rest

/-- Every failing call on an active object ends it. -/
def FailureEnds : σ → List ε → Prop
  | _, [] => True
  | s, e :: rest =>
    (∀ op, I.works e op → I.active s op → I.fails (I.step s e).1 →
      ¬I.active (I.step s e).2 op ∧ I.RefusesUntilStart op (I.step s e).2 rest) ∧
      FailureEnds (I.step s e).2 rest

/-- What one call does, under a condition on the call and the state before it. -/
structure EndsOnFailure (C : σ → ε → Prop) : Prop where
  ends : ∀ {s e op}, C s e → I.works e op → I.active s op → I.fails (I.step s e).1 →
    ¬I.active (I.step s e).2 op
  stays : ∀ {s e op}, ¬I.active s op → ¬(I.starts e op ∧ ¬I.fails (I.step s e).1) →
    ¬I.active (I.step s e).2 op
  refuses : ∀ {s e op}, C s e → ¬I.active s op → I.further e op → I.refused (I.step s e).1

variable {I} {C : σ → ε → Prop}

theorem EndsOnFailure.refusesUntilStart (law : I.EndsOnFailure C) {op : Nat} {s : σ} {es : List ε}
    (met : I.Along C s es) (inactive : ¬I.active s op) : I.RefusesUntilStart op s es := by
  induction es generalizing s with
  | nil => trivial
  | cons e rest ih =>
    obtain ⟨here, later⟩ := met
    by_cases started : I.starts e op ∧ ¬I.fails (I.step s e).1
    · exact .inl started
    · exact .inr ⟨law.refuses here inactive, ih later (law.stays inactive started)⟩

/-- The law of one call gives the law of every run whose calls meet the condition. -/
theorem EndsOnFailure.run (law : I.EndsOnFailure C) {s : σ} {es : List ε} (met : I.Along C s es) :
    I.FailureEnds s es := by
  induction es generalizing s with
  | nil => trivial
  | cons e rest ih =>
    obtain ⟨here, later⟩ := met
    refine ⟨fun op works active failed => ?_, ih later⟩
    have ended := law.ends here works active failed
    exact ⟨ended, law.refusesUntilStart later ended⟩

/-! ## Objects that are changed one at a time -/

section

variable {κ : Type u}

/-- Objects hold an optional context and a call changes one of them. -/
def ofObjects (opOf : ε → Nat) (call : (Nat → Option κ) → ε → ρ × Option κ) (works : ε → Bool)
    (further : ε → Nat → Prop) (starts : ε → Bool) (fails refused : ρ → Prop) :
    HandleCalls (Nat → Option κ) ε ρ where
  step s e := ((call s e).1, Function.update s (opOf e) (call s e).2)
  active s op := s op ≠ none
  works e op := opOf e = op ∧ works e = true
  further := further
  starts e op := opOf e = op ∧ starts e = true
  fails := fails
  refused := refused

/-- The law of one call, from what it does to the object that it changes. -/
theorem ofObjects_endsOnFailure {opOf : ε → Nat} {call : (Nat → Option κ) → ε → ρ × Option κ}
    {works : ε → Bool} {further : ε → Nat → Prop} {starts : ε → Bool} {fails refused : ρ → Prop}
    {C : (Nat → Option κ) → ε → Prop}
    (ends : ∀ {s e}, C s e → works e = true → s (opOf e) ≠ none → fails (call s e).1 →
      (call s e).2 = none)
    (stays : ∀ {s e}, s (opOf e) = none → ¬(starts e = true ∧ ¬fails (call s e).1) →
      (call s e).2 = none)
    (refuses : ∀ {s e op}, C s e → s op = none → further e op → refused (call s e).1) :
    (ofObjects opOf call works further starts fails refused).EndsOnFailure C := by
  refine ⟨fun {s e op} met work active failed => ?_, fun {s e op} inactive unstarted => ?_,
    fun {s e op} met inactive asked => refuses met (not_not.mp inactive) asked⟩
  · obtain ⟨rfl, work⟩ := work
    refine not_not_intro ?_
    show Function.update s (opOf e) (call s e).2 (opOf e) = none
    rw [Function.update_self]
    exact ends met work active failed
  · refine not_not_intro ?_
    show Function.update s (opOf e) (call s e).2 op = none
    by_cases same : opOf e = op
    · subst same
      rw [Function.update_self]
      exact stays (not_not.mp inactive) fun both => unstarted ⟨⟨rfl, both.1⟩, both.2⟩
    · rw [Function.update_of_ne (Ne.symm same)]
      exact not_not.mp inactive

end

end HandleCalls

end WolfPSA.Lib
