import Mathlib.Order.Defs.Unbundled
import Mathlib.Tactic.Common

/-!
# Runs of an event-driven machine

A machine is a partial function `next : σ → ι → Option σ`: in a state, an event either
leads to one state or is refused. All the choices of an environment – which transaction
commits, which answer arrives, how much time passes – are part of the event, so that a
run is determined by its initial state and by the list of its events, and can be
executed.

Four rules are all that a development needs to speak of whole runs.

* `Reachable.invariant`: what holds initially and is preserved by every accepted event
  holds in every reachable state.
* `Run.invariant`: what holds in one state and is preserved holds ever after.
* `Run.monotone`: what every accepted event does to a state, if reflexive and transitive,
  is what a run does.
* `throughout_iff_along`: if an event keeps a property exactly under some condition, a run
  has the property throughout exactly if all its events meet that condition.
-/

namespace IncidentAgent

universe u v

namespace Transition

variable {σ : Type u} {ι : Type v}

/-- The state in which a list of events leaves the machine, if none of them is
refused. -/
def run (next : σ → ι → Option σ) : σ → List ι → Option σ
  | s, [] => some s
  | s, e :: es => (next s e).bind fun s' => run next s' es

variable {next : σ → ι → Option σ}

@[simp] theorem run_nil (s : σ) : run next s [] = some s := rfl

theorem run_cons (s : σ) (e : ι) (es : List ι) :
    run next s (e :: es) = (next s e).bind fun s' => run next s' es := rfl

/-- A run over `e :: es` takes the event `e` and runs over `es` from there. -/
theorem run_cons_eq_some {s s' : σ} {e : ι} {es : List ι} :
    run next s (e :: es) = some s' ↔ ∃ m, next s e = some m ∧ run next m es = some s' := by
  rw [run_cons, Option.bind_eq_some_iff]

/-- A run over `es ++ fs` runs over `es`, then over `fs`. -/
theorem run_append_eq_some {s s' : σ} {es fs : List ι} :
    run next s (es ++ fs) = some s' ↔
      ∃ m, run next s es = some m ∧ run next m fs = some s' := by
  induction es generalizing s with
  | nil => simp
  | cons e es ih =>
    simp only [List.cons_append, run_cons_eq_some, ih]
    constructor
    · rintro ⟨a, ha, m, hm, hs⟩
      exact ⟨m, ⟨a, ha, hm⟩, hs⟩
    · rintro ⟨m, ⟨a, ha, hm⟩, hs⟩
      exact ⟨a, ha, m, hm, hs⟩

/-- **What every event preserves, a run preserves.** -/
theorem Run.invariant {P : σ → Prop} (step : ∀ s e s', P s → next s e = some s' → P s')
    {s s' : σ} {es : List ι} (hs : P s) (h : run next s es = some s') : P s' := by
  induction es generalizing s with
  | nil => exact (Option.some.inj h) ▸ hs
  | cons e es ih =>
    obtain ⟨m, hm, h⟩ := run_cons_eq_some.1 h
    exact ih (step s e m hs hm) h

/-- **What every event does to a state, a run does**, for a reflexive and transitive
relation. -/
theorem Run.monotone {R : σ → σ → Prop} [IsPreorder σ R]
    (step : ∀ s e s', next s e = some s' → R s s')
    {s s' : σ} {es : List ι} (h : run next s es = some s') : R s s' :=
  Run.invariant (P := R s) (fun _ e _ hm hstep => trans_of R hm (step _ e _ hstep))
    (refl s) h

/-- The states some run from `start` ends in. -/
def Reachable (next : σ → ι → Option σ) (start s : σ) : Prop :=
  ∃ es, run next start es = some s

theorem Reachable.start (s : σ) : Reachable next s s := ⟨[], rfl⟩

theorem Reachable.step {start s s' : σ} {e : ι} (h : Reachable next start s)
    (hstep : next s e = some s') : Reachable next start s' := by
  obtain ⟨es, hes⟩ := h
  refine ⟨es ++ [e], run_append_eq_some.2 ⟨s, hes, ?_⟩⟩
  exact run_cons_eq_some.2 ⟨s', hstep, rfl⟩

/-- **The invariant rule**: what holds initially and is preserved by every event holds in
every reachable state. -/
theorem Reachable.invariant {P : σ → Prop} {start s : σ} (init : P start)
    (step : ∀ s e s', P s → next s e = some s' → P s')
    (h : Reachable next start s) : P s := by
  obtain ⟨es, hes⟩ := h
  exact Run.invariant step init hes

/-- The invariant rule with the reachability of the states at hand, so that one
invariant may rest on others already proved. -/
theorem Reachable.invariant_of {P : σ → Prop} {start s : σ} (init : P start)
    (step : ∀ s e s', Reachable next start s → P s → next s e = some s' → P s')
    (h : Reachable next start s) : P s := by
  refine (Reachable.invariant (P := fun s => Reachable next start s ∧ P s)
    ⟨Reachable.start start, init⟩ ?_ h).2
  intro s e s' hs hstep
  exact ⟨hs.1.step hstep, step s e s' hs.1 hs.2 hstep⟩

/-- What is reachable from a reachable state is reachable. -/
theorem Reachable.run {start s s' : σ} {es : List ι} (h : Reachable next start s)
    (hrun : Transition.run next s es = some s') : Reachable next start s' := by
  obtain ⟨fs, hfs⟩ := h
  exact ⟨fs ++ es, run_append_eq_some.2 ⟨s, hfs, hrun⟩⟩

/-! ### What holds throughout a run -/

/-- A property of states **throughout** a run: in its first state and after each event. -/
def Throughout (next : σ → ι → Option σ) (P : σ → Prop) : σ → List ι → Prop
  | s, [] => P s
  | s, e :: es => P s ∧ ∀ s', next s e = some s' → Throughout next P s' es

/-- A condition on states and events **along** a run: each event that is taken meets it. -/
def Along (next : σ → ι → Option σ) (C : σ → ι → Prop) : σ → List ι → Prop
  | _, [] => True
  | s, e :: es => ∀ s', next s e = some s' → C s e ∧ Along next C s' es

/-- What holds throughout a run holds where it ends. -/
theorem Throughout.of_run {P : σ → Prop} {s s' : σ} {es : List ι} (h : Throughout next P s es)
    (hrun : run next s es = some s') : P s' := by
  induction es generalizing s with
  | nil => exact (Option.some.inj hrun) ▸ h
  | cons e es ih =>
    obtain ⟨m, hm, hrun⟩ := run_cons_eq_some.1 hrun
    exact ih (h.2 m hm) hrun

/-- **The rule of an exact condition**: if in the states of an invariant an event keeps a
property exactly under a condition, the property holds throughout a run if and only if the
condition holds along it. -/
theorem throughout_iff_along {I P : σ → Prop} {C : σ → ι → Prop}
    (inv : ∀ s e s', I s → next s e = some s' → I s')
    (step : ∀ s e s', I s → P s → next s e = some s' → (P s' ↔ C s e)) {s : σ} (hI : I s)
    (hP : P s) (es : List ι) : Throughout next P s es ↔ Along next C s es := by
  induction es generalizing s with
  | nil => exact ⟨fun _ => trivial, fun _ => hP⟩
  | cons e es ih =>
    have hhead : ∀ s', Throughout next P s' es → P s' := by
      intro s' h
      cases es with
      | nil => exact h
      | cons _ _ => exact h.1
    constructor
    · rintro ⟨-, h⟩ s' hs'
      have hP' := hhead s' (h s' hs')
      exact ⟨(step s e s' hI hP hs').1 hP', (ih (inv s e s' hI hs') hP').1 (h s' hs')⟩
    · refine fun h => ⟨hP, fun s' hs' => ?_⟩
      obtain ⟨hC, hrest⟩ := h s' hs'
      exact (ih (inv s e s' hI hs') ((step s e s' hI hP hs').2 hC)).2 hrest

/-! ### Plans -/

/-- The state in which a **plan** leaves the machine: each part of it is a list of events that
may depend on the state that the parts before it have led to. -/
def follow (next : σ → ι → Option σ) : σ → List (σ → List ι) → Option σ
  | s, [] => some s
  | s, part :: parts => (run next s (part s)).bind fun s' => follow next s' parts

/-- What a plan leads to is reachable. -/
theorem Reachable.follow {start s s' : σ} {parts : List (σ → List ι)}
    (h : Reachable next start s) (hfollow : Transition.follow next s parts = some s') :
    Reachable next start s' := by
  induction parts generalizing s with
  | nil => exact (Option.some.inj hfollow) ▸ h
  | cons part parts ih =>
    obtain ⟨m, hm, hrest⟩ := Option.bind_eq_some_iff.1 hfollow
    exact ih (h.run hm) hrest

/-- A plan that can be executed leads to a reachable state, with what the execution finds. -/
theorem exists_reachable (next : σ → ι → Option σ) (start : σ) (parts : List (σ → List ι))
    (p : σ → Prop) [DecidablePred p] (h : (Transition.follow next start parts).any (fun s => decide (p s))) :
    ∃ s, Transition.follow next start parts = some s ∧ Reachable next start s ∧ p s := by
  obtain ⟨s, hs, hp⟩ := (Option.any_eq_true _ _).1 h
  exact ⟨s, hs, (Reachable.start start).follow hs, by simpa using hp⟩

end Transition

end IncidentAgent
