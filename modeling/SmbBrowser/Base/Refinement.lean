import SmbBrowser.Base.Program

/-!
# Programs over calls that are programs themselves

A program asks the questions of one interface, and each of them is carried out by a program
that asks the questions of another one and keeps a state.

Results:
* `Simulates.runs`: every run in which they are carried out is a run of the program along
  steps of that contract.
-/

namespace SmbBrowser.Base

variable {I J : Interface} {α σ S A : Type}

/-- How the questions of `I` are carried out. -/
abbrev Service (I J : Interface) (σ : Type) : Type := ∀ op : I.Op, σ → Program J (I.Ans op × σ)

/-- The program with its questions carried out. -/
def Program.carryOut (service : Service I J σ) : Program I α → σ → Program J (α × σ)
  | .pure a, st => .pure (a, st)
  | .ask op k, st => (service op st).bind fun r => (k r.1).carryOut service r.2

/-- Each question is carried out by steps of the concrete contract that come to one step of
    the abstract one; `R` relates their states. -/
structure Simulates (C : Contract J S) (service : Service I J σ) (D : Contract I A)
    (R : S → A → Prop) : Prop where
  op : ∀ op st s a, R s a → D.allows a op →
    Meets C (service op st) (fun r s' => ∃ a', D.step a ⟨op, r.1⟩ a' ∧ R s' a') s

namespace Simulates

variable {C : Contract J S} {service : Service I J σ} {D : Contract I A} {R : S → A → Prop}
  {p : Program I α} {s s' : S} {a : A} {st st' : σ}

/-- A run of the program with its questions carried out, by the run of the program.  The
    induction is on the program: each of its questions is one step of the simulation. -/
theorem runs (hsim : Simulates C service D R) (hallowed : Meets D p (fun _ _ => True) a)
    (hrel : R s a) {es : List (Event J)} {b : α}
    (hrun : Program.Runs (p.carryOut service st) es (b, st')) (hsteps : C.Steps s es s') :
    ∃ es' a', Program.Runs p es' b ∧ D.Steps a es' a' ∧ R s' a' := by
  induction p generalizing s a st es with
  | pure b =>
    obtain ⟨rfl, hr⟩ := Program.runs_pure.1 hrun
    obtain ⟨rfl, rfl⟩ := Prod.mk.inj hr
    obtain rfl := Contract.steps_nil.1 hsteps
    exact ⟨[], a, .pure _, rfl, hrel⟩
  | ask op k ih =>
    obtain ⟨hallows, hstep⟩ := hallowed
    obtain ⟨es₁, ⟨ans, st₁⟩, es₂, rfl, hcall, hrest⟩ := Program.runs_bind.1 hrun
    obtain ⟨s₁, hsteps₁, hsteps₂⟩ := Contract.steps_append.1 hsteps
    obtain ⟨a₁, hD, hrel₁⟩ := (hsim.op op st s a hrel hallows).sound hcall hsteps₁
    obtain ⟨es', a', hruns, habstract, hrel'⟩ :=
      ih ans (hstep ans a₁ hD) hrel₁ hrest hsteps₂
    exact ⟨⟨op, ans⟩ :: es', a', .ask ans hruns, ⟨a₁, hD, habstract⟩, hrel'⟩

end Simulates

/-- A contract that allows everything. -/
theorem meets_of_allows {D : Contract I A} (h : ∀ a op, D.allows a op) (p : Program I α) (a : A) :
    Meets D p (fun _ _ => True) a := by
  induction p generalizing a with
  | pure b => trivial
  | ask op k ih => exact ⟨h a op, fun ans a' _ => ih ans a'⟩

end SmbBrowser.Base
