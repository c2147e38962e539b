import Mathlib.Logic.Equiv.Defs
import SmbBrowser.Base.Program

/-!
# Programs inside larger ones

A program over `I` asked in an interface `J` that has the questions of `I` among
its own.  Its runs are the runs of the program with their events renamed.

Results:
* `runs_embed`: the runs of an embedded program;
* `meets_embed`: what it meets is met by the program itself, against the contract
  seen from `I`;
* `meets_on`: what a program does to a part of a state;
* `meets_tracking_iff`: a recording environment sees exactly the runs.
-/

namespace SmbBrowser.Base

/-- The questions of `I` among those of `J`. -/
structure Embedding (I J : Interface) where
  op : I.Op → J.Op
  ans : ∀ op', J.Ans (op op') ≃ I.Ans op'

variable {I J : Interface} {α S : Type}

namespace Embedding

/-- An event of `I` as one of `J`. -/
def event (f : Embedding I J) (e : Event I) : Event J := ⟨f.op e.op, (f.ans e.op).symm e.ans⟩

/-- A contract of `J` seen from `I`. -/
def pull (f : Embedding I J) (C : Contract J S) : Contract I S where
  allows s op := C.allows s (f.op op)
  step s e s' := C.step s (f.event e) s'

end Embedding

/-- Ask the questions of `p` in `J`. -/
def Program.embed (f : Embedding I J) : Program I α → Program J α
  | .pure a => .pure a
  | .ask op k => .ask (f.op op) fun ans => (k (f.ans op ans)).embed f

variable {f : Embedding I J} {p : Program I α}

/-- The runs of an embedded program are those of the program. -/
theorem runs_embed {es : List (Event J)} {a : α} :
    Program.Runs (p.embed f) es a ↔ ∃ es', es = es'.map f.event ∧ Program.Runs p es' a := by
  induction p generalizing es with
  | pure b =>
    rw [Program.embed, Program.runs_pure]
    constructor
    · rintro ⟨rfl, rfl⟩
      exact ⟨[], rfl, .pure a⟩
    · rintro ⟨es', rfl, h⟩
      obtain ⟨rfl, rfl⟩ := Program.runs_pure.1 h
      exact ⟨rfl, rfl⟩
  | ask op k ih =>
    rw [Program.embed, Program.runs_ask]
    constructor
    · rintro ⟨ans, rest, rfl, h⟩
      obtain ⟨es', rfl, h'⟩ := (ih _).1 h
      refine ⟨⟨op, f.ans op ans⟩ :: es', ?_, .ask _ h'⟩
      rw [List.map_cons, Embedding.event, Equiv.symm_apply_apply]
    · rintro ⟨es', rfl, h⟩
      obtain ⟨ans, rest, rfl, h'⟩ := Program.runs_ask.1 h
      refine ⟨(f.ans op).symm ans, rest.map f.event, rfl, (ih _).2 ⟨rest, rfl, ?_⟩⟩
      rwa [Equiv.apply_symm_apply]

theorem meets_embed {C : Contract J S} {Q : α → S → Prop} {s : S} :
    Meets C (p.embed f) Q s ↔ Meets (f.pull C) p Q s := by
  induction p generalizing s with
  | pure a => exact Iff.rfl
  | ask op k ih =>
    rw [Program.embed, meets_ask, meets_ask]
    refine and_congr Iff.rfl ?_
    constructor
    · intro h ans m hm
      have hnext := h ((f.ans op).symm ans) m hm
      rw [Equiv.apply_symm_apply] at hnext
      exact ih _ |>.1 hnext
    · intro h ans m hm
      refine (ih _).2 (h _ m ?_)
      show C.step s (f.event ⟨op, f.ans op ans⟩) m
      rw [Embedding.event, Equiv.symm_apply_apply]
      exact hm

/-- A part of a state. -/
structure Part (W S : Type) where
  get : W → S
  set : W → S → W
  get_set : ∀ w s, get (set w s) = s
  set_get : ∀ w, set w (get w) = w
  set_set : ∀ w s s', set (set w s) s' = set w s'

/-- A contract on a part of a state. -/
def Contract.on {W : Type} (C : Contract I S) (part : Part W S) : Contract I W where
  allows w op := C.allows (part.get w) op
  step w e w' := ∃ s', C.step (part.get w) e s' ∧ w' = part.set w s'

/-- What a program does to a part of a state. -/
theorem meets_on {W : Type} {C : Contract I S} {part : Part W S} {Q : α → W → Prop} {w : W}
    (h : Meets C p (fun a s => Q a (part.set w s)) (part.get w)) : Meets (C.on part) p Q w := by
  induction p generalizing w with
  | pure a =>
    have hpure : Q a (part.set w (part.get w)) := h
    rwa [part.set_get] at hpure
  | ask op k ih =>
    refine ⟨h.1, ?_⟩
    rintro ans _ ⟨s', hstep, rfl⟩
    refine ih ans ?_
    rw [part.get_set]
    refine (h.2 ans s' hstep).mono fun a s hQ => ?_
    rwa [part.set_set]

/-- Against a recording environment a program meets what holds of its runs. -/
theorem meets_tracking_iff {after : S → Event I → S} {Q : α → S → Prop} {s : S} :
    Meets (.tracking after) p Q s ↔ ∀ es a, Program.Runs p es a → Q a (es.foldl after s) := by
  constructor
  · intro h es a hrun
    exact h.tracked hrun
  · intro h
    induction p generalizing s with
    | pure a => exact h [] a (.pure a)
    | ask op k ih =>
      rw [meets_tracking_ask]
      intro ans
      refine ih ans fun es a hrun => ?_
      exact h _ a (.ask ans hrun)

end SmbBrowser.Base
