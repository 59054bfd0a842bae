import IncidentAgent.Lib.Raising

/-!
# Programs that raise in a shared world

A program with exceptions **runs** to a postcondition in a world if it keeps the guarantee of the
world whatever it is answered, and meets the postcondition when it returns. Nothing is claimed of
an exception: whoever leaves a program so has only done what the guarantee allows. There is one rule
for each construct, and each of them hands on what the others may have done in between.
-/

namespace IncidentAgent

variable {σ ℓ χ Q : Type} {A : Q → Type} {ε α β : Type}

namespace Act

/-- **A program runs to a postcondition.** -/
def Runs (W : World σ ℓ χ Q A) (p : Act Q A ε α) (post : α → σ → ℓ → Prop) (s : σ) (l : ℓ) :
    Prop :=
  p.run.Holds W (fun r s l => ∀ a, r = .ok a → post a s l) s l

variable {W : World σ ℓ χ Q A} {p : Act Q A ε α} {post post' : α → σ → ℓ → Prop} {s : σ} {l : ℓ}

theorem runs_pure {a : α} (h : ∀ s', W.rely l s s' → W.inv s' → post a s' l) :
    (pure a : Act Q A ε α).Runs W post s l := by
  intro s' hrely hinv b hb
  exact Except.ok.inj hb ▸ h s' hrely hinv

theorem runs_throw (e : ε) : (throw e : Act Q A ε α).Runs W post s l := by
  intro _ _ _ _ he
  cases he

/-- What a computation returns is known. -/
theorem runs_ofExcept {x : Except ε α}
    (h : ∀ a, x = .ok a → ∀ s', W.rely l s s' → W.inv s' → post a s' l) :
    (ofExcept x : Act Q A ε α).Runs W post s l := by
  intro s' hrely hinv a ha
  exact h a ha s' hrely hinv

theorem Runs.mono (hp : p.Runs W post s l)
    (hpost : ∀ a s l, W.inv s → post a s l → post' a s l) : p.Runs W post' s l :=
  Prog.Holds.mono hp fun _ s l hinv h a ha => hpost a s l hinv (h a ha)

/-- **The rule of a sequence.** -/
theorem runs_bind {f : α → Act Q A ε β} {post : β → σ → ℓ → Prop}
    (hp : p.Runs W (fun a s l => (f a).Runs W post s l) s l) : (p >>= f).Runs W post s l := by
  refine Prog.holds_bind (Prog.Holds.mono hp fun r s l _ h => ?_)
  cases r with
  | ok a => exact h a rfl
  | error e =>
    intro _ _ _ _ he
    cases he

/-- **The rule of a query**, of which the answer or the exception is told. -/
theorem runs_ask {δ : Type} {B : Q → Type} {W : World σ ℓ χ Q fun q => Except ε (B q)}
    {wrap : ε → δ} {q : Q} {post : B q → σ → ℓ → Prop}
    (h : ∀ s₁, W.rely l s s₁ → W.inv s₁ → ∀ c a s₂ l₂, W.perform c s₁ l q a = some (s₂, l₂) →
      W.inv s₂ ∧ W.guar l q s₁ s₂ ∧
        ∀ b, a = .ok b → ∀ s₃, W.rely l₂ s₂ s₃ → W.inv s₃ → post b s₃ l₂) :
    (ask wrap q : Act Q (fun q => Except ε (B q)) δ (B q)).Runs W post s l := by
  intro s₁ hrely hinv c a s₂ l₂ hperform
  obtain ⟨hinv', hguar, hpost⟩ := h s₁ hrely hinv c a s₂ l₂ hperform
  refine ⟨hinv', hguar, fun s₃ hrely' hinv₃ b hb => ?_⟩
  cases a with
  | ok a => exact hpost b (congrArg _ (Except.ok.inj hb)) s₃ hrely' hinv₃
  | error e => cases hb

/-- **The rule of a query whose exception is caught.** -/
theorem runs_attempt_ask {δ : Type} {B : Q → Type} {W : World σ ℓ χ Q fun q => Except ε (B q)}
    {wrap : ε → δ} {q : Q} {post : Except δ (B q) → σ → ℓ → Prop}
    (h : ∀ s₁, W.rely l s s₁ → W.inv s₁ → ∀ c a s₂ l₂, W.perform c s₁ l q a = some (s₂, l₂) →
      W.inv s₂ ∧ W.guar l q s₁ s₂ ∧
        ∀ s₃, W.rely l₂ s₂ s₃ → W.inv s₃ → post (a.mapError wrap) s₃ l₂) :
    (attempt (ask wrap q) : Act Q (fun q => Except ε (B q)) δ (Except δ (B q))).Runs W post s
      l := by
  intro s₁ hrely hinv c a s₂ l₂ hperform
  obtain ⟨hinv', hguar, hpost⟩ := h s₁ hrely hinv c a s₂ l₂ hperform
  exact ⟨hinv', hguar, fun s₃ hrely' hinv₃ r hr => Except.ok.inj hr ▸ hpost s₃ hrely' hinv₃⟩

/-- **The rule of what is caught**: if the body has returned, it has met its postcondition. -/
theorem runs_attempt
    (hp : p.Runs W (fun a s l => ∀ s', W.rely l s s' → W.inv s' → post a s' l) s l) :
    (attempt p).Runs W (fun r s l => ∀ a, r = .ok a → post a s l) s l := by
  refine Prog.holds_bind (Prog.Holds.mono hp fun r s l _ h => ?_)
  intro s' hrely hinv r' hr' a ha
  obtain rfl := Except.ok.inj hr'
  exact h a ha s' hrely hinv

theorem runs_ite {c : Prop} [Decidable c] {q : Act Q A ε α} (hp : c → p.Runs W post s l)
    (hq : ¬ c → q.Runs W post s l) : (if c then p else q).Runs W post s l := by
  split
  · exact hp ‹_›
  · exact hq ‹_›

end Act

end IncidentAgent
