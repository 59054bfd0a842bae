import IncidentAgent.Lib.Transition
import Mathlib.Logic.Function.Basic

/-!
# Programs that share a world

A program asks the world one query after another and continues with the answer: a reading of
a clock, a transaction of a store, a call of another system. Several threads run programs in
one world, each at its own pace, and a thread may end anywhere.

`Prog` is such a program, as a tree of its queries. What a program may rely on, and what it
guarantees in turn, is a `World`: between two queries of a thread the shared state moves as
the thread relies on, and each query moves it as the thread guarantees. `Prog.Holds` says
that a program keeps the guarantee and leads to a postcondition; it is proved along the
program, query by query (`Prog.holds_call`) and part by part (`Prog.holds_bind`).

`Pool` is the machine of all threads. Its rule, `Pool.sound_of_reachable`, turns the proof of
one program into an invariant of all runs: if what a thread guarantees is what every other
thread relies on, each thread is, at any moment of any run, in the middle of a program that
holds.
-/

namespace IncidentAgent

/-- **A program** that asks queries of `Q`, with answers of `A q`, and returns a value. -/
inductive Prog (Q : Type) (A : Q → Type) (α : Type)
  | pure (a : α)
  | call (q : Q) (k : A q → Prog Q A α)

/-- **A world of programs.** The shared state is of `σ`, what belongs to one thread is of `ℓ`,
and the choices of the world are of `χ`. -/
structure World (σ ℓ χ Q : Type) (A : Q → Type) where
  /-- A query of a thread gets an answer, if the world allows it. -/
  perform : χ → σ → ℓ → (q : Q) → A q → Option (σ × ℓ)
  /-- What holds of the shared state at any moment. -/
  inv : σ → Prop
  /-- What the others may do between two queries of a thread. -/
  rely : ℓ → σ → σ → Prop
  /-- What a query of a thread does. -/
  guar : ℓ → Q → σ → σ → Prop
  rely_refl : ∀ l s, rely l s s
  rely_trans : ∀ l s s' s'', rely l s s' → rely l s' s'' → rely l s s''

namespace Prog

variable {σ ℓ χ Q : Type} {A : Q → Type} {α β : Type}

/-- One program after another. -/
def bind : Prog Q A α → (α → Prog Q A β) → Prog Q A β
  | .pure a, f => f a
  | .call q k, f => .call q fun a => (k a).bind f

instance : Monad (Prog Q A) where
  pure := .pure
  bind := bind

/-- The program of one query. -/
def ask (q : Q) : Prog Q A (A q) := .call q .pure

variable (W : World σ ℓ χ Q A)

/-- **A program holds** from a state: whatever the others do that the thread relies on, and
whatever the world answers, each query keeps the invariant and the guarantee, and the end
meets the postcondition. -/
def Holds (post : α → σ → ℓ → Prop) : Prog Q A α → σ → ℓ → Prop
  | .pure a, s, l => ∀ s', W.rely l s s' → W.inv s' → post a s' l
  | .call q k, s, l => ∀ s₁, W.rely l s s₁ → W.inv s₁ → ∀ c a s₂ l₂,
      W.perform c s₁ l q a = some (s₂, l₂) →
        W.inv s₂ ∧ W.guar l q s₁ s₂ ∧ Holds post (k a) s₂ l₂

variable {W} {post post' : α → σ → ℓ → Prop} {s s' : σ} {l : ℓ}

/-- What the others do leaves a program holding. -/
theorem Holds.mono_state {p : Prog Q A α} (h : p.Holds W post s l) (hrely : W.rely l s s') :
    p.Holds W post s' l := by
  cases p with
  | pure a => exact fun s₁ h₁ => h s₁ (W.rely_trans _ _ _ _ hrely h₁)
  | call q k => exact fun s₁ h₁ => h s₁ (W.rely_trans _ _ _ _ hrely h₁)

/-- A weaker postcondition. -/
theorem Holds.mono {p : Prog Q A α} (h : p.Holds W post s l)
    (hpost : ∀ a s l, W.inv s → post a s l → post' a s l) : p.Holds W post' s l := by
  induction p generalizing s l with
  | pure a => exact fun s₁ h₁ hinv => hpost a s₁ l hinv (h s₁ h₁ hinv)
  | call q k ih =>
    intro s₁ h₁ hinv c a s₂ l₂ hperform
    obtain ⟨hinv', hguar, hrest⟩ := h s₁ h₁ hinv c a s₂ l₂ hperform
    exact ⟨hinv', hguar, ih a hrest⟩

theorem holds_pure {a : α} (h : ∀ s', W.rely l s s' → W.inv s' → post a s' l) :
    (Pure.pure a : Prog Q A α).Holds W post s l := h

/-- **The rule of a query.** -/
theorem holds_ask {q : Q} {post : A q → σ → ℓ → Prop}
    (h : ∀ s₁, W.rely l s s₁ → W.inv s₁ → ∀ c a s₂ l₂, W.perform c s₁ l q a = some (s₂, l₂) →
      W.inv s₂ ∧ W.guar l q s₁ s₂ ∧ ∀ s₃, W.rely l₂ s₂ s₃ → W.inv s₃ → post a s₃ l₂) :
    (ask q : Prog Q A (A q)).Holds W post s l := h

/-- **The rule of a sequence.** -/
theorem holds_bind {p : Prog Q A α} {f : α → Prog Q A β} {post : β → σ → ℓ → Prop}
    (h : p.Holds W (fun a s l => (f a).Holds W post s l) s l) :
    (p >>= f).Holds W post s l := by
  induction p generalizing s l with
  | pure a =>
    -- Nothing is claimed of a program before the invariant is known to hold.
    have hfrom : ∀ s₁, W.rely l s s₁ → W.inv s₁ → (f a).Holds W post s₁ l := h
    show (f a).Holds W post s l
    cases hf : f a with
    | pure b =>
      intro s₁ h₁ hinv
      have hhere := hfrom s₁ h₁ hinv
      rw [hf] at hhere
      exact hhere s₁ (W.rely_refl _ _) hinv
    | call q k =>
      intro s₁ h₁ hinv
      have hhere := hfrom s₁ h₁ hinv
      rw [hf] at hhere
      exact hhere s₁ (W.rely_refl _ _) hinv
  | call q k ih =>
    intro s₁ h₁ hinv c a s₂ l₂ hperform
    obtain ⟨hinv', hguar, hrest⟩ := h s₁ h₁ hinv c a s₂ l₂ hperform
    exact ⟨hinv', hguar, ih a hrest⟩

end Prog

/-! ### All threads -/

/-- The state of all threads. -/
structure Pool (ι σ ℓ Q : Type) (A : Q → Type) (α : Type) where
  shared : σ
  threads : ι → Option (ℓ × Prog Q A α)

/-- An event of a pool. -/
inductive PoolEvent (ι ℓ χ ε Q : Type) (A : Q → Type)
  /-- A thread begins. -/
  | spawn (i : ι) (l : ℓ)
  /-- A thread asks its next query. -/
  | step (i : ι) (c : χ) (answer : (q : Q) → A q)
  /-- A thread ends, wherever it is. -/
  | stop (i : ι)
  /-- The world moves by itself. -/
  | move (e : ε)

/-- **A system of threads**: the world, the program of each thread, and what else happens. -/
structure Threads (ι σ ℓ χ ε Q : Type) (A : Q → Type) (α : Type) where
  world : World σ ℓ χ Q A
  /-- The identity of a thread. -/
  name : ℓ → ι
  /-- Whether a thread may begin. -/
  admits : σ → ℓ → Bool
  main : ℓ → Prog Q A α
  move : σ → ε → Option σ

namespace Threads

variable {ι σ ℓ χ ε Q : Type} {A : Q → Type} {α : Type} [DecidableEq ι]

/-- One event of the pool. -/
def next (T : Threads ι σ ℓ χ ε Q A α) (p : Pool ι σ ℓ Q A α) :
    PoolEvent ι ℓ χ ε Q A → Option (Pool ι σ ℓ Q A α)
  | .spawn i l =>
    if (p.threads i).isNone ∧ T.name l = i ∧ T.admits p.shared l then
      some { p with threads := Function.update p.threads i (some (l, T.main l)) }
    else none
  | .step i c answer =>
    match p.threads i with
    | some (l, .call q k) => (T.world.perform c p.shared l q (answer q)).map fun r =>
        { shared := r.1, threads := Function.update p.threads i (some (r.2, k (answer q))) }
    | _ => none
  | .stop i => some { p with threads := Function.update p.threads i none }
  | .move e => (T.move p.shared e).map fun s => { p with shared := s }

/-- A pool without threads. -/
def idle (s : σ) : Pool ι σ ℓ Q A α := ⟨s, fun _ => none⟩

/-- **What makes a system of threads sound**: programs hold where they begin, a query does not
change who the thread is, the world moves as all rely on, and each thread guarantees what the
others rely on. -/
structure Sound (T : Threads ι σ ℓ χ ε Q A α) (post : α → σ → ℓ → Prop) : Prop where
  main : ∀ s l, T.world.inv s → T.admits s l = true → (T.main l).Holds T.world post s l
  name : ∀ c s l q a s' l', T.world.perform c s l q a = some (s', l') → T.name l' = T.name l
  move : ∀ s e s', T.world.inv s → T.move s e = some s' →
    T.world.inv s' ∧ ∀ l, T.world.rely l s s'
  others : ∀ l l' q s s', T.name l ≠ T.name l' → T.world.inv s → T.world.inv s' →
    T.world.guar l q s s' → T.world.rely l' s s'

/-- A pool in which every thread is in the middle of a program that holds. -/
structure Holds (T : Threads ι σ ℓ χ ε Q A α) (post : α → σ → ℓ → Prop)
    (p : Pool ι σ ℓ Q A α) : Prop where
  inv : T.world.inv p.shared
  name : ∀ i l q, p.threads i = some (l, q) → T.name l = i
  threads : ∀ i l q, p.threads i = some (l, q) → q.Holds T.world post p.shared l

variable {T : Threads ι σ ℓ χ ε Q A α} {post : α → σ → ℓ → Prop} {p p' : Pool ι σ ℓ Q A α}

/-- **What a query does in a pool that holds.** -/
theorem Holds.step (h : T.Holds post p) {i : ι} {c : χ} {answer : (q : Q) → A q}
    (hnext : T.next p (.step i c answer) = some p') :
    ∃ l q k l', p.threads i = some (l, .call q k) ∧
      T.world.perform c p.shared l q (answer q) = some (p'.shared, l') ∧
      T.world.inv p'.shared ∧ T.world.guar l q p.shared p'.shared ∧
      (k (answer q)).Holds T.world post p'.shared l' ∧
      p'.threads = Function.update p.threads i (some (l', k (answer q))) := by
  simp only [next] at hnext
  split at hnext
  · rename_i l q k hthread
    obtain ⟨⟨s', l'⟩, hperform, rfl⟩ := Option.map_eq_some_iff.1 hnext
    obtain ⟨hinv, hguar, hrest⟩ := h.threads i l _ hthread p.shared (T.world.rely_refl _ _) h.inv
      c (answer q) s' l' hperform
    exact ⟨l, q, k, l', hthread, hperform, hinv, hguar, hrest, rfl⟩
  · cases hnext

/-- **An event keeps all threads holding.** -/
theorem Sound.next (hT : T.Sound post) (h : T.Holds post p) {e : PoolEvent ι ℓ χ ε Q A}
    (hnext : T.next p e = some p') : T.Holds post p' := by
  cases e with
  | spawn i l =>
    simp only [Threads.next] at hnext
    split at hnext
    · rename_i hguard
      obtain ⟨-, hname, hadmits⟩ := hguard
      obtain rfl := Option.some.inj hnext
      refine ⟨h.inv, fun j m q hj => ?_, fun j m q hj => ?_⟩ <;> by_cases hij : j = i
      · obtain ⟨rfl, rfl⟩ := Prod.mk.inj (Option.some.inj (by simpa [hij] using hj))
        exact hname.trans hij.symm
      · exact h.name j m q (by simpa [hij] using hj)
      · obtain ⟨rfl, rfl⟩ := Prod.mk.inj (Option.some.inj (by simpa [hij] using hj))
        exact hT.main _ _ h.inv hadmits
      · exact h.threads j m q (by simpa [hij] using hj)
    · cases hnext
  | step i c answer =>
    obtain ⟨l, q, k, l', hthread, hperform, hinv, hguar, hrest, hthreads⟩ := h.step hnext
    have hname : T.name l' = i := (hT.name _ _ _ _ _ _ _ hperform).trans (h.name i l _ hthread)
    refine ⟨hinv, fun j m r hj => ?_, fun j m r hj => ?_⟩ <;> rw [hthreads] at hj <;>
      by_cases hij : j = i
    · obtain ⟨rfl, rfl⟩ := Prod.mk.inj (Option.some.inj (by simpa [hij] using hj))
      exact hname.trans hij.symm
    · exact h.name j m r (by simpa [hij] using hj)
    · obtain ⟨rfl, rfl⟩ := Prod.mk.inj (Option.some.inj (by simpa [hij] using hj))
      exact hrest
    · have hj : p.threads j = some (m, r) := by simpa [hij] using hj
      refine (h.threads j m r hj).mono_state (hT.others l m q _ _ ?_ h.inv hinv hguar)
      rw [h.name i l _ hthread, h.name j m r hj]
      exact fun he => hij he.symm
  | stop i =>
    obtain rfl := Option.some.inj hnext
    refine ⟨h.inv, fun j m r hj => ?_, fun j m r hj => ?_⟩ <;> by_cases hij : j = i
    · simp [hij] at hj
    · exact h.name j m r (by simpa [hij] using hj)
    · simp [hij] at hj
    · exact h.threads j m r (by simpa [hij] using hj)
  | move e =>
    obtain ⟨s, hmove, rfl⟩ := Option.map_eq_some_iff.1 hnext
    obtain ⟨hinv, hrely⟩ := hT.move _ _ _ h.inv hmove
    exact ⟨hinv, h.name, fun j m r hj => (h.threads j m r hj).mono_state (hrely m)⟩

/-- **The rule of a pool**: in every reachable state each thread is in the middle of a program
that holds. -/
theorem Sound.holds_of_reachable (hT : T.Sound post) {s : σ} (hs : T.world.inv s)
    (h : Transition.Reachable T.next (idle s) p) : T.Holds post p := by
  refine Transition.Reachable.invariant ⟨hs, ?_, ?_⟩ (fun _ _ _ hp => hT.next hp) h
  · intro i l q hi
    cases hi
  · intro i l q hi
    cases hi

end Threads

end IncidentAgent
