import IncidentAgent.Lib.Prog

/-!
# Programs that raise

A program whose queries may fail is a program of the transformer of exceptions, `Act`: it asks
its queries one after another until one of them raises, and it may go on from there with a
handler, or leave what it has entered. What such a program does alone, whatever it is answered,
is a rule about its next query and the exchanges it has had: `Prog.Keeps` says that a program
keeps to such a rule and what its end meets. A program may be lost anywhere, so what it keeps to is
said of all its queries, not of its end.

The programs that never ask a query of some kind, `Act.Avoids`, have one rule for each construct.
-/

namespace IncidentAgent

variable {Q : Type} {A : Q → Type} {ε α β γ : Type}

/-- The exchanges that a program has had, the last one first. -/
abbrev History (Q : Type) (A : Q → Type) := List (Σ q, A q)

/-- A program that may raise. -/
abbrev Act (Q : Type) (A : Q → Type) (ε α : Type) := ExceptT ε (Prog Q A) α

/-! ### Keeping to a rule -/

namespace Prog

/-- **A program keeps to a rule** after the exchanges that it has had: the rule allows each of its
queries, whatever the answers are, and the end meets the postcondition. -/
def Keeps (rule : History Q A → Q → Prop) (post : α → History Q A → Prop) :
    Prog Q A α → History Q A → Prop
  | .pure a, h => post a h
  | .call q k, h => rule h q ∧ ∀ a, Keeps rule post (k a) (⟨q, a⟩ :: h)

variable {rule : History Q A → Q → Prop} {post post' : α → History Q A → Prop} {h : History Q A}

/-- A weaker postcondition. -/
theorem Keeps.mono {p : Prog Q A α} (hp : p.Keeps rule post h)
    (hpost : ∀ a h, post a h → post' a h) : p.Keeps rule post' h := by
  induction p generalizing h with
  | pure a => exact hpost a h hp
  | call q k ih => exact ⟨hp.1, fun a => ih a (hp.2 a)⟩

/-- **The rule of a sequence.** -/
theorem keeps_bind {p : Prog Q A α} {f : α → Prog Q A β} {post : β → History Q A → Prop}
    (hp : p.Keeps rule (fun a h => (f a).Keeps rule post h) h) : (p >>= f).Keeps rule post h := by
  induction p generalizing h with
  | pure a => exact hp
  | call q k ih => exact ⟨hp.1, fun a => ih a (hp.2 a)⟩

end Prog

/-! ### Programs with exceptions -/

namespace Act

/-- A query whose answer may be an exception, which the program knows under another name. -/
def ask {δ : Type} {B : Q → Type} (wrap : ε → δ) (q : Q) :
    Act Q (fun q => Except ε (B q)) δ (B q) :=
  ExceptT.mk (Prog.call q fun answer => Prog.pure (answer.mapError wrap))

/-- What a computation without queries returns or raises. -/
def ofExcept (x : Except ε α) : Act Q A ε α := ExceptT.mk (Prog.pure x)

/-- `try: body` with what came of it. -/
def attempt (p : Act Q A ε α) : Act Q A ε (Except ε α) :=
  ExceptT.mk (p.run >>= fun r => Prog.pure (Except.ok r))

/-- **`with` a context**: it is left whether the body returns or raises, and is told which. -/
def within (enter : Act Q A ε γ) (leave : γ → Bool → Act Q A ε PUnit) (body : Act Q A ε α) :
    Act Q A ε α := do
  let context ← enter
  let outcome ← attempt body
  leave context (outcome matches .ok _)
  ofExcept outcome

/-- A program of other queries, each of which is answered by a program of these. -/
def via {R : Type} {B : R → Type} (answer : (q : R) → Act Q A ε (B q)) :
    Prog R B α → Act Q A ε α
  | .pure a => pure a
  | .call q k => answer q >>= fun a => via answer (k a)

/-- **A program avoids** the queries of a kind, whatever it is answered. -/
def Avoids (bad : Q → Prop) (p : Act Q A ε α) : Prop :=
  ∀ h, p.run.Keeps (fun _ q => ¬ bad q) (fun _ _ => True) h

section Avoids

variable {bad : Q → Prop} {p : Act Q A ε α}

theorem avoids_pure (a : α) : (pure a : Act Q A ε α).Avoids bad := fun _ => trivial

theorem avoids_throw (e : ε) : (throw e : Act Q A ε α).Avoids bad := fun _ => trivial

theorem avoids_ofExcept (x : Except ε α) : (ofExcept x : Act Q A ε α).Avoids bad :=
  fun _ => trivial

theorem avoids_ask {δ : Type} {B : Q → Type} {wrap : ε → δ} {q : Q} (hq : ¬ bad q) :
    (ask wrap q : Act Q (fun q => Except ε (B q)) δ (B q)).Avoids bad :=
  fun _ => ⟨hq, fun _ => trivial⟩

theorem avoids_bind {f : α → Act Q A ε β} (hp : p.Avoids bad) (hf : ∀ a, (f a).Avoids bad) :
    (p >>= f).Avoids bad := by
  intro h
  refine Prog.keeps_bind ((hp h).mono fun r h _ => ?_)
  cases r with
  | ok a => exact hf a h
  | error e => trivial

theorem avoids_tryCatch {handler : ε → Act Q A ε α} (hp : p.Avoids bad)
    (hf : ∀ e, (handler e).Avoids bad) : (tryCatch p handler).Avoids bad := by
  intro h
  refine Prog.keeps_bind ((hp h).mono fun r h _ => ?_)
  cases r with
  | ok a => trivial
  | error e => exact hf e h

theorem avoids_attempt (hp : p.Avoids bad) : (attempt p).Avoids bad :=
  fun h => Prog.keeps_bind ((hp h).mono fun _ _ _ => trivial)

theorem avoids_within {enter : Act Q A ε γ} {leave : γ → Bool → Act Q A ε PUnit}
    (henter : enter.Avoids bad) (hleave : ∀ c b, (leave c b).Avoids bad) (hp : p.Avoids bad) :
    (within enter leave p).Avoids bad :=
  avoids_bind henter fun c => avoids_bind (avoids_attempt hp) fun _ =>
    avoids_bind (hleave c _) fun _ => avoids_ofExcept _

theorem avoids_ite {c : Prop} [Decidable c] {q : Act Q A ε α} (hp : c → p.Avoids bad)
    (hq : ¬ c → q.Avoids bad) : (if c then p else q).Avoids bad := by
  split
  · exact hp ‹_›
  · exact hq ‹_›

end Avoids

end Act

end IncidentAgent
