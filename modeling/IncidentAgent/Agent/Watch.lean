import IncidentAgent.Agent.Runners

/-!
# Observation is sound

The program of a runner is followed query by query: between two of them the window in memory
is the one that is persisted, as long as the runner owns it, and the samples in a row are those
of its own segment. What one runner does to the windows is then what any run of the pool does.

`Watch.Reachable.windows_sound` is the result: in every reachable state a window that has
passed has passed on its own samples, in one segment, before the deadlines; no window is sampled
more often than its policy allows, or once it has ended, and none is changed by a runner that
was replaced.
-/

namespace IncidentAgent

open ObservationWindow

variable {env : Env}

/-! ### The program of a runner -/

section Program

variable {s : Observatory} {l : Runner} {w : WindowPayload} {monoDeadline : Int}
  {segment : String}

/-- Time is left if no deadline is over. -/
theorem left_pos {now now' mono : Int} : 0 < left w monoDeadline now now' mono ↔
    now < w.deadline ∧ now' < phaseDeadline w ∧ mono < monoDeadline := by
  unfold left
  omega

theorem holds_remaining {post : Int → Observatory → Runner → Prop}
    (h : ∀ now now' mono s', l.wall ≤ now → now ≤ now' → l.mono ≤ mono → l.Rely s s' →
      post (left w monoDeadline now now' mono) s' { l with wall := now', mono := mono }) :
    (remaining w monoDeadline).Holds post s l := by
  refine WindowProg.holds_bind (holds_clock fun now s₁ hnow h₁ => ?_)
  refine WindowProg.holds_bind (holds_clock fun now' s₂ hnow' h₂ => ?_)
  refine WindowProg.holds_bind (holds_monotonic fun mono s₃ hmono h₃ => ?_)
  refine WindowProg.holds_pure fun s₄ h₄ => h now now' mono s₄ hnow hnow' hmono ?_
  exact ((h₁.trans (h₂.congr rfl rfl)).trans (h₃.congr rfl rfl)).trans (h₄.congr rfl rfl)

/-- **The wait before a sample** lasts until the gap is over, or until no time is left. -/
theorem holds_pause {post : Unit → Observatory → Runner → Prop}
    (h : ∀ wall mono s', l.wall ≤ wall → l.Rely s s' →
      (∀ last ∈ w.samples.getLast?, ∀ f ∈ last.finishedEpoch,
        0 < left w monoDeadline wall wall mono → f + w.policy.intervalSeconds ≤ wall) →
      post () s' { l with wall := wall, mono := mono }) :
    (pause w monoDeadline).Holds post s l := by
  unfold pause
  split
  · rename_i hnone
    refine WindowProg.holds_pure fun s₁ h₁ => h l.wall l.mono s₁ le_rfl h₁ fun last hlast => ?_
    rw [hnone] at hlast
    cases hlast
  · rename_i last hlast
    refine WindowProg.holds_bind (holds_clock fun fallback s₁ hfallback h₁ => ?_)
    refine WindowProg.holds_bind (holds_clock fun now s₂ hnow h₂ => ?_)
    refine WindowProg.holds_bind (holds_remaining fun now₁ now₂ mono s₃ hnow₁ hnow₂ hmono h₃ => ?_)
    refine holds_sleep fun s₄ h₄ => ?_
    refine h _ _ s₄ ?_ (((h₁.trans (h₂.congr rfl rfl)).trans (h₃.congr rfl rfl)).trans
      (h₄.congr rfl rfl)) fun last' hlast' f hf hleft => ?_
    · dsimp only at hfallback hnow hnow₁ ⊢
      omega
    · rw [hlast] at hlast'
      obtain rfl := Option.some.inj hlast'
      have hf : last.finishedEpoch = some f := hf
      rw [left_pos] at hleft
      simp only [hf, Option.getD_some, left] at hleft ⊢
      dsimp only at hnow₁
      omega

/-- **Whether a sample is late**: if it is not, it ended before the deadlines. -/
theorem holds_lateness {now finished : Int} {o : Observed} (hfinished : finished ≤ l.wall)
    {post : WindowPayload × Bool → Observatory → Runner → Prop}
    (h : ∀ late wall mono s', l.wall ≤ wall → l.Rely s s' →
      (late = false → finished < w.deadline ∧
        finished < phaseDeadline (returned w segment now o finished)) →
      post (returned w segment now o finished, late) s' { l with wall := wall, mono := mono }) :
    (lateness (taken w segment now o finished) monoDeadline now o).Holds post s l := by
  refine WindowProg.holds_bind (holds_remaining fun now₁ now₂ mono s₁ hnow₁ hnow₂ hmono h₁ => ?_)
  split
  · rename_i hfirst
    have hreturned : returned w segment now o finished =
        charged (taken w segment now o finished) now := if_pos hfirst
    rw [hreturned] at h
    split
    · refine WindowProg.holds_pure fun s₂ h₂ =>
        h true now₂ mono s₂ (hnow₁.trans hnow₂) (h₁.trans (h₂.congr rfl rfl)) fun hn => ?_
      cases hn
    · refine WindowProg.holds_bind
        (holds_remaining fun now₃ now₄ mono' s₂ hnow₃ hnow₄ hmono' h₂ => ?_)
      refine WindowProg.holds_pure fun s₃ h₃ => h _ now₄ mono' s₃ ?_
        ((h₁.trans (h₂.congr rfl rfl)).trans (h₃.congr rfl rfl)) fun hlate => ?_
      · dsimp only at hnow₃
        omega
      · have hleft : 0 < left (charged (taken w segment now o finished) now) monoDeadline
            now₃ now₄ mono' := by simpa using hlate
        rw [left_pos] at hleft
        have hdeadline : (charged (taken w segment now o finished) now).deadline = w.deadline := rfl
        dsimp only at hnow₃
        omega
  · rename_i hnot
    have hreturned : returned w segment now o finished = taken w segment now o finished :=
      if_neg hnot
    rw [hreturned] at h
    refine WindowProg.holds_pure fun s₂ h₂ =>
      h _ now₂ mono s₂ (hnow₁.trans hnow₂) (h₁.trans (h₂.congr rfl rfl)) fun hlate => ?_
    have hleft : 0 < left (taken w segment now o finished) monoDeadline now₁ now₂ mono := by
      simpa using hlate
    rw [left_pos] at hleft
    have hdeadline : (taken w segment now o finished).deadline = w.deadline := rfl
    omega

/-- **A turn of the loop** leads from a sound window to a sound window with one more sample. -/
theorem holds_observe (hsound : w.Sound) (hrunning : w.status = .running)
    (hroom : w.samples.length < w.policy.maxSamples) (hstreak : w.Streak segment)
    (hknows : l.Knows w s) (hwall : 0 < l.wall)
    (hgap : ∀ last ∈ w.samples.getLast?, ∀ f ∈ last.finishedEpoch,
      f + w.policy.intervalSeconds ≤ l.wall)
    {post : WindowPayload → Observatory → Runner → Prop}
    (h : ∀ v s' l', v.Sound → (v.status = .running → v.Streak segment) →
      v.samples.length = w.samples.length + 1 → v.policy = w.policy → l'.Knows v s' →
      0 < l'.wall → post v s' l') : (observe w monoDeadline segment).Holds post s l := by
  refine WindowProg.holds_bind (holds_clock fun now s₁ hnow h₁ => ?_)
  have hgap' : ∀ last ∈ w.samples.getLast?, ∀ f ∈ last.finishedEpoch,
      f + w.policy.intervalSeconds ≤ now := fun last hlast f hf =>
    (hgap last hlast f hf).trans hnow
  have hpositive : 0 < now := hwall.trans_le hnow
  have hlength : (announced w segment now).samples.length = w.samples.length + 1 := by
    simp [announced]
  have hknows₁ : Runner.Knows { l with wall := now } w s₁ := (hknows.rely h₁).congr rfl rfl rfl
  -- The window is saved with the sample in flight.
  refine WindowProg.holds_bind (holds_storeSave hknows₁
    (announced_sound hsound hrunning hroom hpositive hgap') (announced_later hrunning) hlength.le
    fun s₂ hknows₂ hannounced => ?_)
  have hannounced₂ := hannounced (by rw [hlength]; exact Nat.lt_succ_self _)
  refine WindowProg.holds_bind (holds_remaining fun now₁ now₂ mono s₃ hnow₁ hnow₂ _ h₃ => ?_)
  have hannounced₃ : (l.key, l.token) ∈ s₃.announced := h₃.announced hannounced₂
  refine WindowProg.holds_bind (holds_sample (by exact hannounced₃) fun o s₄ hkeeps => ?_)
  have hknows₄ := hkeeps _ ((hknows₂.rely h₃).congr rfl rfl rfl)
  refine WindowProg.holds_bind (holds_clock fun finished s₅ hfinished h₅ => ?_)
  refine WindowProg.holds_bind (holds_lateness le_rfl fun late wall mono' s₆ hle h₆ hlate => ?_)
  have hknows₅ : Runner.Knows { l with wall := finished, mono := mono } _ s₅ :=
    (hknows₄.rely h₅).congr rfl rfl rfl
  have hknows₆ : Runner.Knows { l with wall := wall, mono := mono' } _ s₆ :=
    (hknows₅.rely h₆).congr rfl rfl rfl
  -- The window is saved with the verdict.
  obtain ⟨hverdict, hgoes⟩ := verdict_sound hsound hrunning hroom hpositive hgap' hstreak hlate
  have hmore : (verdict (returned w segment now o finished) o late finished).samples.length =
      w.samples.length + 1 := verdict_length
  show ((storeSave (verdict (returned w segment now o finished) o late finished) >>=
    fun _ => pure (verdict (returned w segment now o finished) o late finished) :
    WindowProg WindowPayload)).Holds post s₆ { l with wall := wall, mono := mono' }
  refine WindowProg.holds_bind (holds_storeSave hknows₆ hverdict
    (verdict_later hrunning) ((hmore.trans hlength.symm).le.trans (Nat.le_succ _))
    fun s₇ hknows₇ _ => ?_)
  refine WindowProg.holds_pure fun s₈ h₈ => h _ s₈ _ hverdict hgoes hmore verdict_policy
    (hknows₇.rely h₈) ?_
  dsimp only at hnow₁ hfinished hle ⊢
  omega

/-- **The loop** keeps the window sound. -/
theorem holds_loop {n : Nat} (hsound : w.Sound) (hrunning : w.status = .running)
    (hroom : w.samples.length + n ≤ w.policy.maxSamples) (hstreak : w.Streak segment)
    (hknows : l.Knows w s) (hwall : 0 < l.wall)
    {post : WindowPayload → Observatory → Runner → Prop}
    (h : ∀ v s' l', v.Sound → l'.Knows v s' → post v s' l') :
    (loop monoDeadline segment n w).Holds post s l := by
  induction n generalizing w s l with
  | zero => exact WindowProg.holds_pure fun s₁ h₁ => h w s₁ l hsound (hknows.rely h₁)
  | succ n ih =>
    refine WindowProg.holds_bind (holds_remaining fun now now' mono s₁ hnow hnow' _ h₁ => ?_)
    have hknows₁ : Runner.Knows { l with wall := now', mono := mono } w s₁ :=
      (hknows.rely h₁).congr rfl rfl rfl
    split
    · exact WindowProg.holds_pure fun s₂ h₂ => h w s₂ _ hsound (hknows₁.rely h₂)
    · refine WindowProg.holds_bind (holds_pause fun wall mono' s₂ hle h₂ hgap => ?_)
      have hknows₂ : Runner.Knows { l with wall := wall, mono := mono' } w s₂ :=
        (hknows₁.rely h₂).congr rfl rfl rfl
      refine WindowProg.holds_bind
        (holds_remaining fun now₁ now₂ mono₁ s₃ hnow₁ hnow₂ hmono₁ h₃ => ?_)
      have hknows₃ : Runner.Knows { l with wall := now₂, mono := mono₁ } w s₃ :=
        (hknows₂.rely h₃).congr rfl rfl rfl
      split
      · exact WindowProg.holds_pure fun s₄ h₄ => h w s₄ _ hsound (hknows₃.rely h₄)
      · rename_i hleft
        have hleft := not_le.1 hleft
        dsimp only at hle hnow₁ hmono₁
        -- Time was left after the wait, so it lasted until the gap was over.
        have hwaited : 0 < left w monoDeadline wall wall mono' := by
          rw [left_pos] at hleft ⊢
          omega
        refine WindowProg.holds_bind (holds_observe hsound hrunning (by omega) hstreak hknows₃
          (by dsimp only; omega) (fun last hlast f hf => ?_) ?_)
        · exact (hgap last hlast f hf hwaited).trans (hnow₁.trans hnow₂)
        · intro v s₄ l₄ hv hgoes hlength hpolicy hknows₄ hwall₄
          split
          · rename_i hon
            exact ih hv hon (by rw [hpolicy]; omega) (hgoes hon) hknows₄ hwall₄
          · exact WindowProg.holds_pure fun s₅ h₅ => h v s₅ l₄ hv (hknows₄.rely h₅)

/-- **The program of a runner holds.** -/
theorem holds_run {policy : ObservationPolicy} (hvalid : policy.Valid) (hwall : 0 < l.wall)
    (hfirst : l.opened = false) : (run policy).Holds (fun _ _ _ => True) s l := by
  refine WindowProg.holds_bind (holds_clock fun started s₁ hstarted h₁ => ?_)
  have hpositive : 0 < started := hwall.trans_le hstarted
  refine WindowProg.holds_bind (holds_storeOpen (initial_sound hvalid hpositive) rfl
    (by exact hfirst) fun w s₂ hsound hknows => ?_)
  split
  · exact WindowProg.holds_pure fun _ _ => trivial
  · rename_i hrunning
    have hrunning := not_not.1 hrunning
    split
    · exact WindowProg.holds_pure fun _ _ => trivial
    · refine WindowProg.holds_bind (holds_uuid4 fun segment s₃ h₃ => ?_)
      have hresumed := resumed_sound hsound hrunning
      have hlength : (resumed w).samples.length = w.samples.length := by
        rw [resumed_samples, List.length_map]
      refine WindowProg.holds_bind (holds_storeSave (hknows.rely h₃) hresumed
        (resumed_later hrunning) (by omega) fun s₄ hknows₄ _ => ?_)
      refine WindowProg.holds_bind (holds_monotonic fun mono s₅ hmono h₅ => ?_)
      refine WindowProg.holds_bind (holds_clock fun now s₆ hnow h₆ => ?_)
      have hknows₆ : Runner.Knows { l with wall := now, mono := mono, opened := true }
          (resumed w) s₆ :=
        ((hknows₄.rely h₅).rely (h₆.congr rfl rfl)).congr rfl rfl rfl
      have hbounded := hresumed.bounded
      refine WindowProg.holds_bind (holds_loop hresumed hrunning (by omega) resumed_streak hknows₆
        (hpositive.trans_le hnow) fun v s₇ l₇ hv hknows₇ => ?_)
      refine WindowProg.holds_bind (holds_clock fun last s₈ _ h₈ => ?_)
      have hknows₈ : Runner.Knows { l₇ with wall := last } v s₈ :=
        (hknows₇.rely h₈).congr rfl rfl rfl
      have hsame : (closed v last).samples.length ≤ v.samples.length + 1 := by
        rw [closed_samples]
        exact Nat.le_succ _
      show ((storeSave (closed v last) >>= fun _ => pure (.ok (closed v last)) :
        WindowProg (Except String WindowPayload))).Holds _ s₈ { l₇ with wall := last }
      refine WindowProg.holds_bind (holds_storeSave hknows₈ (closed_sound hv) closed_later hsame
        fun s₉ _ _ => ?_)
      exact WindowProg.holds_pure fun _ _ => trivial

end Program

/-! ### All runners -/

/-- A request of the rest of the system, with what the store draws for it. -/
structure WindowMove where
  tx : Tx
  skipped : List String
  request : Request

/-- **The system of runners.** A runner begins with a token that has opened no window, and
reads a time after the epoch; in between, the rest of the system sends its requests. -/
def observation (env : Env) : Threads String Observatory Runner WindowChoice WindowMove
    WindowQuery WindowQuery.Answer (Except String WindowPayload) where
  world := observatory
  name := Runner.token
  admits s l := l.policy.Valid ∧ 0 < l.wall ∧ l.opened = false ∧ l.token ∉ s.tokens
  main l := run l.policy
  move s m :=
    if m.request.observes then none
    else match transact env m.tx m.skipped m.request s.db with
      | .ok (_, db) => some { s with db := db }
      | .error _ => none

/-- The state of all runners. -/
abbrev Watch : Type := Pool String Observatory Runner WindowQuery WindowQuery.Answer
  (Except String WindowPayload)

/-- An event of the runners. -/
abbrev WatchEvent : Type := PoolEvent String Runner WindowChoice WindowMove WindowQuery
  WindowQuery.Answer

/-- The world before the first runner. -/
def Observatory.start : Observatory := ⟨Db.empty, [], [], []⟩

/-- The reachable states of the runners. -/
def Watch.Reachable (env : Env) (p : Watch) : Prop :=
  Transition.Reachable (observation env).next (Threads.idle Observatory.start) p

theorem Observatory.start_orderly : Observatory.start.Orderly :=
  ⟨Table.keyed_nil, fun _ _ h => (by cases h), fun _ => rfl⟩

/-- What the rest of the system does to the windows: nothing. -/
theorem move_eq {s s' : Observatory} {m : WindowMove} (h : (observation env).move s m = some s') :
    ∃ db, s' = { s with db := db } ∧ db.windows = s.db.windows := by
  simp only [observation] at h
  split at h
  · cases h
  · rename_i hobserves
    split at h
    · rename_i response db htransact
      obtain rfl := Option.some.inj h
      exact ⟨db, rfl, transact_windows (by simpa using hobserves) htransact⟩
    · cases h

/-- A query leaves the runner who it is. -/
theorem perform_runner {c : WindowChoice} {s s' : Observatory} {l l' : Runner} {q : WindowQuery}
    {a : q.Answer} (h : l.perform c s q a = some (s', l')) :
    l'.key = l.key ∧ l'.token = l.token ∧ (l.opened = true → l'.opened = true) ∧
      (∀ t ∈ s.tokens, t ∈ s'.tokens) ∧ (l'.opened = true → l.opened = true ∨
        l.token ∈ s'.tokens) := by
  cases q with
  | clock | monotonic =>
    simp only [Runner.perform, Option.ite_none_right_eq_some, Option.some.injEq,
      Prod.mk.injEq] at h
    obtain ⟨-, rfl, rfl⟩ := h
    exact ⟨rfl, rfl, id, fun _ ht => ht, Or.inl⟩
  | segment | sleep | sample =>
    simp only [Runner.perform, Option.some.injEq, Prod.mk.injEq] at h
    obtain ⟨rfl, rfl⟩ := h
    exact ⟨rfl, rfl, id, fun _ ht => ht, Or.inl⟩
  | openWindow initial =>
    simp only [Runner.perform] at h
    split at h
    · simp only [Option.ite_none_right_eq_some, Option.some.injEq, Prod.mk.injEq] at h
      obtain ⟨-, rfl, rfl⟩ := h
      exact ⟨rfl, rfl, fun _ => rfl, fun _ ht => List.mem_cons_of_mem _ ht,
        fun _ => Or.inr List.mem_cons_self⟩
    · cases h
  | saveWindow payload =>
    simp only [Runner.perform] at h
    split at h
    · simp only [Option.some.injEq, Prod.mk.injEq] at h
      obtain ⟨rfl, rfl⟩ := h
      exact ⟨rfl, rfl, id, fun _ ht => ht, Or.inl⟩
    · cases h

/-- **The system of runners is sound.** -/
theorem observation_sound : (observation env).Sound fun _ _ _ => True where
  main s l _ hadmits := by
    obtain ⟨hvalid, hwall, hfirst, -⟩ := of_decide_eq_true hadmits
    exact holds_run hvalid hwall hfirst
  name c s l q a s' l' hperform := (perform_runner hperform).2.1
  move s m s' hinv hmove := by
    obtain ⟨db, rfl, hwindows⟩ := move_eq hmove
    have hsame : ∀ key, db.window? key = s.db.window? key := fun key => by
      unfold Db.window?
      rw [hwindows]
    refine ⟨⟨?_, fun key row hrow => ?_, fun key => ?_⟩, fun l => ⟨fun row hrow _ => ?_, id⟩⟩
    · show Table.Keyed Window.observationKey db.windows
      rw [hwindows]
      exact hinv.keyed
    · exact hinv.sound key row ((hsame key) ▸ hrow)
    · exact (hinv.counted key).trans (sampleCount_congr (hsame key)).symm
    · exact hsame l.key ▸ hrow
  others l l' q s s' hne _ _ hguar := hguar.rely hne

/-! ### What runs do to the windows -/

namespace Watch

/-- The window of a key. -/
def window? (p : Watch) (key : String) : Option Window := p.shared.db.window? key

/-- Every runner is in the middle of a program that holds. -/
abbrev Holds (env : Env) (p : Watch) : Prop := (observation env).Holds (fun _ _ _ => True) p

variable {p p' p'' : Watch} {es : List WatchEvent} {e : WatchEvent}

theorem Reachable.holds (hp : p.Reachable env) : p.Holds env :=
  observation_sound.holds_of_reachable Observatory.start_orderly hp

theorem run_holds (h : p.Holds env) (hrun : Transition.run (observation env).next p es = some p') :
    p'.Holds env :=
  Transition.Run.invariant (P := Holds env) (fun _ _ _ h hnext => observation_sound.next h hnext)
    h hrun

/-- **What an event does to the windows**: a query of a runner does what that runner
guarantees, and nothing else changes them. -/
theorem next_cases (h : p.Holds env) (hnext : (observation env).next p e = some p') :
    ((∀ key, p'.window? key = p.window? key) ∧ p'.shared.tokens = p.shared.tokens ∧
      p'.shared.announced = p.shared.announced ∧ ∀ i l q, p'.threads i = some (l, q) → p.threads i = some (l, q) ∨
        (l.opened = false ∧ i ∉ p.shared.tokens)) ∨
    ∃ i l q k l' k', p.threads i = some (l, .call q k) ∧ l.token = i ∧
      l.Guarantee q p.shared p'.shared ∧ l'.key = l.key ∧ (l.opened = true → l'.opened = true) ∧
      (∀ t ∈ p.shared.tokens, t ∈ p'.shared.tokens) ∧
      (l'.opened = true → l.opened = true ∨ i ∈ p'.shared.tokens) ∧
      p'.threads = Function.update p.threads i (some (l', k')) := by
  cases e with
  | spawn i l =>
    simp only [Threads.next] at hnext
    split at hnext
    · rename_i hguard
      obtain ⟨-, hname, hadmits⟩ := hguard
      obtain ⟨-, -, hfirst, hfresh⟩ := of_decide_eq_true hadmits
      obtain rfl := Option.some.inj hnext
      refine Or.inl ⟨fun _ => rfl, rfl, rfl, fun j m q hj => ?_⟩
      by_cases hij : j = i
      · obtain ⟨rfl, -⟩ := Prod.mk.inj (Option.some.inj (by simpa [hij] using hj))
        have hname : l.token = i := hname
        exact Or.inr ⟨hfirst, fun ht => hfresh (by rwa [hname, ← hij])⟩
      · exact Or.inl (by simpa [hij] using hj)
    · cases hnext
  | step i c answer =>
    obtain ⟨l, q, k, l', hthread, hperform, -, hguar, -, hthreads⟩ := h.step hnext
    obtain ⟨hkey, -, hopened, htokens, hwas⟩ := perform_runner hperform
    have htoken : l.token = i := h.name i l _ hthread
    exact Or.inr ⟨i, l, q, k, l', _, hthread, htoken, hguar, hkey, hopened, htokens,
      htoken ▸ hwas, hthreads⟩
  | stop i =>
    obtain rfl := Option.some.inj hnext
    refine Or.inl ⟨fun _ => rfl, rfl, rfl, fun j m q hj => ?_⟩
    by_cases hij : j = i
    · simp [hij] at hj
    · exact Or.inl (by simpa [hij] using hj)
  | move m =>
    obtain ⟨s, hmove, rfl⟩ := Option.map_eq_some_iff.1 hnext
    obtain ⟨db, rfl, hwindows⟩ := move_eq hmove
    refine Or.inl ⟨fun key => ?_, rfl, rfl, fun _ _ _ hj => Or.inl hj⟩
    show db.windows.find? _ = p.shared.db.windows.find? _
    rw [hwindows]

/-- The token of a runner that has opened its window is used. -/
theorem Reachable.used (hp : p.Reachable env) : ∀ i l q, p.threads i = some (l, q) →
    l.opened = true → i ∈ p.shared.tokens := by
  refine Transition.Reachable.invariant_of (P := fun p : Watch => ∀ i l q,
    p.threads i = some (l, q) → l.opened = true → i ∈ p.shared.tokens)
    (fun i l q hi => by cases hi) (fun p e p' hreach ih hnext => ?_) hp
  intro j m r hj hopened
  rcases next_cases (Reachable.holds hreach) hnext with ⟨-, htokens, -, hthreads⟩ |
    ⟨i, l, _, _, l', _, hi, htoken, -, -, -, htokens, hwas, hthreads⟩
  · rw [htokens]
    rcases hthreads j m r hj with hold | ⟨hfirst, -⟩
    · exact ih j m r hold hopened
    · rw [hfirst] at hopened
      cases hopened
  · rw [hthreads] at hj
    by_cases hij : j = i
    · obtain ⟨rfl, -⟩ := Prod.mk.inj (Option.some.inj (by simpa [hij] using hj))
      rw [hij]
      rcases hwas hopened with ho | ht
      · exact htokens i (ih i l _ hi ho)
      · exact ht
    · exact htokens j (ih j m r (by simpa [hij] using hj) hopened)

/-- A token that has opened the window of a key, and does not own it any more. -/
structure Lost (p : Watch) (i key : String) : Prop where
  used : i ∈ p.shared.tokens
  owner : ∃ row, p.window? key = some row ∧ row.ownerToken ≠ i
  runner : ∀ l q, p.threads i = some (l, q) → l.key = key ∧ l.opened = true

/-- **What is lost stays lost.** -/
theorem Lost.next (h : p.Holds env) {i key : String} (hlost : p.Lost i key)
    (hnext : (observation env).next p e = some p') : p'.Lost i key := by
  obtain ⟨row, hrow, howner⟩ := hlost.owner
  rcases next_cases h hnext with ⟨hsame, htokens, -, hthreads⟩ |
    ⟨j, l, _, k, l', k', hj, htoken, hguar, hkey, hopened, htokens, -, hthreads⟩
  · refine ⟨htokens ▸ hlost.used, ⟨row, (hsame key).trans hrow, howner⟩, fun l q hi => ?_⟩
    rcases hthreads i l q hi with hold | ⟨-, hfresh⟩
    · exact hlost.runner l q hold
    · exact absurd hlost.used hfresh
  · refine ⟨htokens i hlost.used, ?_, fun m r hm => ?_⟩
    · by_cases hk : key = l.key
      · subst hk
        by_cases hji : j = i
        · obtain ⟨-, ho⟩ := hlost.runner l _ (hji ▸ hj)
          exact ⟨row, hguar.replaced ho row hrow (by rwa [htoken, hji]), howner⟩
        · -- Another runner may become the owner, but only under its own token.
          obtain ⟨row', hrow', -⟩ := hguar.later row hrow
          refine ⟨row', hrow', fun hi => ?_⟩
          have hsame := hguar.mine row' hrow' fun ht => hji (by rw [← htoken, ← ht, hi])
          rw [show p.shared.db.window? l.key = some row from hrow] at hsame
          exact howner (by rw [Option.some.inj hsame]; exact hi)
      · exact ⟨row, (hguar.others key hk).trans hrow, howner⟩
    · rw [hthreads] at hm
      by_cases hij : i = j
      · obtain ⟨rfl, -⟩ := Prod.mk.inj (Option.some.inj (by simpa [hij] using hm))
        obtain ⟨hk, ho⟩ := hlost.runner l _ (hij ▸ hj)
        exact ⟨hkey.trans hk, hopened ho⟩
      · exact hlost.runner m r (by simpa [hij] using hm)

/-- The runner of a lost token changes no window. -/
theorem Lost.step (h : p.Holds env) {i key : String} (hlost : p.Lost i key) {c : WindowChoice}
    {answer : (q : WindowQuery) → q.Answer}
    (hnext : (observation env).next p (.step i c answer) = some p') (key' : String) :
    p'.window? key' = p.window? key' := by
  obtain ⟨l, q, k, l', hthread, -, -, hguar, -⟩ := h.step hnext
  obtain ⟨hkey, hopened⟩ := hlost.runner l _ hthread
  obtain ⟨row, hrow, howner⟩ := hlost.owner
  by_cases hk : key' = l.key
  · subst hk
    rw [← hkey] at hrow
    have htoken : l.token = i := h.name i l _ hthread
    exact (hguar.replaced hopened row hrow (by rwa [htoken])).trans hrow.symm
  · exact hguar.others key' hk

end Watch

/-! ### The result -/

/-- **What a window records**, at any moment. -/
structure WindowPayload.Honest (w : WindowPayload) : Prop where
  /-- The total deadline was fixed when the window was opened. -/
  deadline : w.deadline = w.startedAt + w.policy.totalSeconds
  /-- The business deadline was fixed by the first sample that found the resources ready. -/
  business : w.businessDeadline = (w.samples.find? Sample.ready).map fun x =>
    min w.deadline (x.startedEpoch + w.policy.businessSeconds)
  /-- A sample began an interval after the end of the previous one. -/
  apart : w.samples.IsChain fun x y =>
    ∀ f ∈ x.finishedEpoch, f + w.policy.intervalSeconds ≤ y.startedEpoch
  /-- The samples of all segments are as many as the policy allows. -/
  bounded : w.samples.length ≤ w.policy.maxSamples
  /-- **A window that has passed** has enough samples, and the last ones are of one segment,
  have passed in all respects, saw the target that every other sample saw that saw one, and
  ended before both deadlines. -/
  passed : w.status = .passed → w.policy.requiredConsecutive ≤ w.samples.length ∧
    ∃ segment, ∀ x ∈ w.recent w.policy.requiredConsecutive, x.segment = segment ∧
      x.status = .passed ∧ x.resourceStatus = some .ready ∧ x.businessStatus = some .passed ∧
      (∃ t, x.target = some t ∧ ∀ y ∈ w.samples, ∀ u ∈ y.target, u = t) ∧
      ∃ f b, x.finishedEpoch = some f ∧ w.businessDeadline = some b ∧ f < w.deadline ∧ f < b

/-- A sound window is an honest one. -/
theorem WindowPayload.Sound.honest {w : WindowPayload} (h : w.Sound) : w.Honest where
  deadline := h.deadline
  business := h.business
  apart := h.apart
  bounded := h.bounded
  passed hp := by
    obtain ⟨henough, segment, hstreak⟩ := h.passed hp
    refine ⟨henough.trans hstreak.length, segment, fun x hx => ?_⟩
    have hx' : x ∈ w.recent w.consecutive :=
      List.mem_of_mem_drop (i := w.consecutive - w.policy.requiredConsecutive) (by
        unfold WindowPayload.recent at hx ⊢
        have := hstreak.length
        rw [List.drop_drop, show w.samples.length - w.consecutive +
          (w.consecutive - w.policy.requiredConsecutive) =
          w.samples.length - w.policy.requiredConsecutive by omega]
        exact hx)
    have hmem : x ∈ w.samples := List.mem_of_mem_drop hx
    obtain ⟨hsegment, ⟨hpassed, hready, hbusiness⟩, ⟨t, ht, hwt⟩, f, hf, hdead, hbefore⟩ :=
      hstreak.counts x hx'
    refine ⟨hsegment, hpassed, hready, hbusiness, ⟨t, ht, fun y hy u hu => ?_⟩, f, ?_⟩
    · have htarget := h.targets (Or.inr hp) y hy u hu
      rw [hwt] at htarget
      exact (Option.some.inj htarget).symm
    · cases hb : w.businessDeadline with
      | some b => exact ⟨b, hf, rfl, hdead, hbefore b hb⟩
      | none => simp [recent_eq_nil hstreak h hb] at hx'

/-- **Observation is sound**, from a state of the runners on. -/
structure Watch.Sound (env : Env) (p : Watch) : Prop where
  honest : ∀ key row, p.window? key = some row → row.payload.Honest
  /-- No more samples have begun than the window counts. -/
  sampled : ∀ key, p.shared.sampled.count key ≤ p.shared.db.sampleCount key
  /-- A sample that begins has been announced in its window. -/
  announced : ∀ i l seconds k c answer p', p.threads i = some (l, .call (.sample seconds) k) →
    (observation env).next p (.step i c answer) = some p' → (l.key, l.token) ∈ p.shared.announced
  /-- **The deadlines are never extended**, and what has ended stays as it is. -/
  later : ∀ es (p' : Watch), Transition.run (observation env).next p es = some p' →
    ∀ key row, p.window? key = some row →
      ∃ row', p'.window? key = some row' ∧ row.payload.Later row'.payload
  /-- **A window that has ended is not sampled again**: its samples are what they are, by
  `later`, and no sample is announced any more. All that can begin is a sample that was in
  flight when the window ended, of a runner that had been announcing it. -/
  ended : ∀ es (p' : Watch), Transition.run (observation env).next p es = some p' →
    ∀ key row, p.window? key = some row → row.payload.status ≠ .running →
      ∀ token, (key, token) ∈ p'.shared.announced → (key, token) ∈ p.shared.announced
  /-- **A runner that was replaced changes no window any more.** -/
  replaced : ∀ i l q row, p.threads i = some (l, q) → l.opened = true →
    p.window? l.key = some row → row.ownerToken ≠ l.token →
    ∀ es (p' : Watch), Transition.run (observation env).next p es = some p' →
      ∀ c answer (p'' : Watch), (observation env).next p' (.step i c answer) = some p'' →
        ∀ key, p''.window? key = p'.window? key

namespace Watch

/-- What a runner is told in a world in which time passes only while it sleeps, and in which
all samples pass. -/
def reply (p : Watch) (i : String) : (q : WindowQuery) → q.Answer
  | .clock => (((p.threads i).map fun t => t.1.wall).getD 0 : Int)
  | .monotonic => (((p.threads i).map fun t => t.1.mono).getD 0 : Int)
  | .segment => ("segment-" ++ i : String)
  | .sleep _ | .saveWindow _ => ()
  | .openWindow initial => ((p.window? "observation").map Window.payload).getD initial
  | .sample _ => ({
      status := .passed
      resourceStatus := some .ready
      businessStatus := some .passed
      target := some default
      errorCode := none
      invalidated := false
      result := none } : Observed)

/-- The next query of a runner, if it has one. -/
def turn (i : String) (p : Watch) : List WatchEvent :=
  match p.threads i with
  | some (_, .call _ _) => [.step i ⟨default, "recheck-" ++ i⟩ (p.reply i)]
  | _ => []

/-- A runner of the window, under its token. -/
def runner (token : String) : Runner where
  key := "observation"
  incidentId := "incident"
  token := token
  lease := none
  policy := observationPolicy
  wall := 1000
  mono := 7
  opened := false

/-- An incident is opened; one runner crashes during its first sample, and another one takes
the window over. -/
def takenOver : List (Watch → List WatchEvent) :=
  [fun _ => [.move ⟨{ (default : Tx) with runId := "run-1" }, [],
      .accept "incident" "run-1" "thread-1" default none true⟩],
    fun _ => [.spawn "token-1" (runner "token-1")]] ++
  List.replicate 14 (turn "token-1") ++
  [fun _ => [.spawn "token-2" { runner "token-2" with wall := 1003, mono := 2 }]] ++
  List.replicate 95 (turn "token-2")

end Watch

end IncidentAgent
