import IncidentAgent.Agent.Windows
import IncidentAgent.System.Frames
import Mathlib.Data.List.Count

/-!
# The runners of an observation

Any number of runners, of any number of windows, in any interleaving with the requests of
the rest of the system: a runner may be stopped anywhere, and another one may take its window
over at any time. A runner relies on one thing only: the payload of the window that it owns is
the one that it has saved last. It guarantees that it changes no window of another key, and
none that it has lost.

This file has the world of the runners and one rule for each query; each rule says what the
query does to the windows, and that the runner still knows its own.
-/

namespace IncidentAgent

variable {env : Env}

/-! ### The windows of the database -/

section Windows

variable {tx : Tx} {db db' : Db} {key incidentId token delayedId : String}
  {lease : Option Lease} {payload : WindowPayload}

theorem Db.window?_updateWindow (db : Db) (key : String) {f : Window → Window}
    (hf : ∀ w, (f w).observationKey = w.observationKey) (key' : String) :
    (db.updateWindow key f).window? key' =
      if key' = key then (db.window? key').map f else db.window? key' := by
  unfold Db.updateWindow Db.window?
  rw [Table.find?_updateWhere fun row _ => by rw [hf]]
  cases hfind : db.windows.find? fun w => w.observationKey = key' with
  | none => simp
  | some row =>
    have hkey : row.observationKey = key' := by simpa using List.find?_some hfind
    by_cases hk : key' = key <;> simp [hkey, hk]

theorem Db.window?_eq_some (hkeyed : Table.Keyed Window.observationKey db.windows) {row : Window} :
    db.window? key = some row ↔ row ∈ db.windows ∧ row.observationKey = key := by
  refine ⟨fun h => ⟨List.mem_of_find?_eq_some h, by simpa using List.find?_some h⟩, ?_⟩
  rintro ⟨hrow, rfl⟩
  exact hkeyed.find?_eq hrow

theorem schedule_windows (h : schedule tx delayedId key incidentId lease payload db = .ok db') :
    db'.windows = db.windows := by
  unfold schedule at h
  split at h
  · rw [← pure_eq_ok.1 h]
  · split at h
    · rw [← pure_eq_ok.1 h]
    · simp only [bind_eq_ok, rowOr_eq_ok] at h
      obtain ⟨incident, -, h⟩ := h
      split at h
      · rw [← pure_eq_ok.1 h]
      · simp only [bind_eq_ok, raiseIf_eq_ok, pure_eq_ok] at h
        obtain ⟨-, -, rfl⟩ := h
        rfl

/-- **What `open` does**: the window of the key is the caller's from now on, and is new or has
the payload it had. -/
theorem openWindow_window {initial : WindowPayload}
    (hkeyed : Table.Keyed Window.observationKey db.windows)
    (h : openWindow tx lease key incidentId token initial db = .ok (payload, db')) :
    Table.Keyed Window.observationKey db'.windows ∧
    (∀ key', key' ≠ key → db'.window? key' = db.window? key') ∧
    ∃ row', db'.window? key = some row' ∧ row'.ownerToken = token ∧ row'.payload = payload ∧
      ((db.window? key = none ∧ payload = initial) ∨
        ∃ row, db.window? key = some row ∧ row.payload = payload) := by
  simp only [openWindow, bind_eq_ok] at h
  obtain ⟨_, -, h⟩ := h
  split at h
  · rename_i row hrow
    have hrow : db.window? key = some row := hrow
    obtain ⟨rfl, rfl⟩ := Prod.mk.inj (pure_eq_ok.1 h)
    have hat := Db.window?_updateWindow db key (f := fun w => { w with ownerToken := token })
      fun _ => rfl
    refine ⟨hkeyed.updateWhere fun _ _ _ => rfl, fun key' hne => ?_, ?_⟩
    · rw [hat, if_neg hne]
    · refine ⟨{ row with ownerToken := token }, ?_, rfl, rfl, Or.inr ⟨row, hrow, rfl⟩⟩
      rw [hat, if_pos rfl, hrow]
      rfl
  · rename_i hnone
    have hnone : db.window? key = none := hnone
    obtain ⟨rfl, rfl⟩ := Prod.mk.inj (pure_eq_ok.1 h)
    have hfresh : ∀ row ∈ db.windows, row.observationKey ≠ key := by
      simpa [Db.window?] using hnone
    refine ⟨hkeyed.insert hfresh, fun key' hne => ?_, ?_⟩
    · simp [Db.window?, List.find?_append, Ne.symm hne]
    · refine ⟨⟨key, incidentId, lease.map (·.row.runId), token, initial⟩, ?_, rfl, rfl,
        Or.inl ⟨hnone, rfl⟩⟩
      have hfind : db.windows.find? (fun w => w.observationKey = key) = none := hnone
      simp [Db.window?, List.find?_append, hfind]

/-- **What `save` does**: the window of the key is the caller's, and has the payload. -/
theorem saveWindow_window (hkeyed : Table.Keyed Window.observationKey db.windows)
    (h : saveWindow tx lease key incidentId token delayedId payload db = .ok db') :
    Table.Keyed Window.observationKey db'.windows ∧
    (∀ key', key' ≠ key → db'.window? key' = db.window? key') ∧
    ∃ row, db.window? key = some row ∧ row.ownerToken = token ∧
      db'.window? key = some { row with payload := payload } := by
  simp only [saveWindow, bind_eq_ok, raiseIf_eq_ok] at h
  obtain ⟨_, -, _, hany, h⟩ := h
  have hwindows : db'.windows = (db.updateWindow key fun w => { w with payload := payload }).windows := by
    split at h
    · exact schedule_windows h
    · rw [← pure_eq_ok.1 h]
  have hsame : ∀ key', db'.window? key' =
      (db.updateWindow key fun w => { w with payload := payload }).window? key' := by
    intro key'
    unfold Db.window?
    rw [hwindows]
  have hat := Db.window?_updateWindow db key (f := fun w => { w with payload := payload })
    fun _ => rfl
  refine ⟨?_, fun key' hne => ?_, ?_⟩
  · rw [hwindows]
    exact hkeyed.updateWhere fun _ _ _ => rfl
  · rw [hsame, hat, if_neg hne]
  · obtain ⟨row, hrow, hkey, htoken⟩ : ∃ row ∈ db.windows, row.observationKey = key ∧
        row.ownerToken = token := by simpa using hany
    have hfind := (Db.window?_eq_some hkeyed).2 ⟨hrow, hkey⟩
    refine ⟨row, hfind, htoken, ?_⟩
    rw [hsame, hat, if_pos rfl, hfind]
    rfl

end Windows

/-! ### What runners rely on and guarantee -/

/-- The samples of a key that were announced and have not begun. -/
def Observatory.pending (s : Observatory) (key : String) : Nat :=
  s.announced.countP fun entry => entry.1 = key

/-- The samples of a key that were announced. -/
def Observatory.attempts (s : Observatory) (key : String) : Nat :=
  s.sampled.count key + s.pending key

/-- What holds of the windows at any moment. -/
structure Observatory.Orderly (s : Observatory) : Prop where
  keyed : Table.Keyed Window.observationKey s.db.windows
  sound : ∀ key row, s.db.window? key = some row → row.payload.Sound
  /-- Each sample was persisted before it began. -/
  counted : ∀ key, s.attempts key = s.db.sampleCount key

/-- What a runner relies on: nobody else becomes the owner it is, or changes what it owns. -/
structure Runner.Rely (l : Runner) (s s' : Observatory) : Prop where
  mine : ∀ row, s'.db.window? l.key = some row → row.ownerToken = l.token →
    s.db.window? l.key = some row
  announced : (l.key, l.token) ∈ s.announced → (l.key, l.token) ∈ s'.announced

/-- What a runner guarantees. -/
structure Runner.Guarantee (l : Runner) (q : WindowQuery) (s s' : Observatory) : Prop where
  others : ∀ key, key ≠ l.key → s'.db.window? key = s.db.window? key
  mine : ∀ row, s'.db.window? l.key = some row → row.ownerToken ≠ l.token →
    s.db.window? l.key = some row
  /-- A window only goes on. -/
  later : ∀ row, s.db.window? l.key = some row →
    ∃ row', s'.db.window? l.key = some row' ∧ row.payload.Later row'.payload
  /-- A runner that was replaced changes nothing. -/
  replaced : l.opened = true → ∀ row, s.db.window? l.key = some row → row.ownerToken ≠ l.token →
    s'.db.window? l.key = some row
  /-- A sample is announced before it begins. -/
  begun : ∀ seconds, q = .sample seconds → (l.key, l.token) ∈ s.announced
  announced : ∀ entry ∈ s.announced, entry ≠ (l.key, l.token) → entry ∈ s'.announced
  /-- What is announced is persisted in the window. -/
  fresh : ∀ entry ∈ s'.announced, entry ∉ s.announced →
    entry.1 = l.key ∧ s.db.sampleCount l.key < s'.db.sampleCount l.key

theorem Runner.Rely.refl (l : Runner) (s : Observatory) : l.Rely s s :=
  ⟨fun _ h _ => h, id⟩

theorem Runner.Rely.trans {l : Runner} {s s' s'' : Observatory} (h : l.Rely s s')
    (h' : l.Rely s' s'') : l.Rely s s'' :=
  ⟨fun row hrow htoken => h.mine row (h'.mine row hrow htoken) htoken,
    fun ha => h'.announced (h.announced ha)⟩

/-- Nothing happens. -/
theorem Runner.Guarantee.refl {l : Runner} {q : WindowQuery} {s : Observatory}
    (hq : ∀ seconds, q ≠ .sample seconds) : l.Guarantee q s s where
  others _ _ := rfl
  mine _ h _ := h
  later row h := ⟨row, h, .refl _⟩
  replaced _ _ h _ := h
  begun seconds h := absurd h (hq seconds)
  announced _ h _ := h
  fresh _ h hn := absurd h hn

/-- What a runner guarantees is what the others rely on. -/
theorem Runner.Guarantee.rely {l l' : Runner} {q : WindowQuery} {s s' : Observatory}
    (h : l.Guarantee q s s') (hne : l.token ≠ l'.token) : l'.Rely s s' where
  mine row hrow htoken := by
    by_cases hkey : l'.key = l.key
    · rw [hkey] at hrow ⊢
      exact h.mine row hrow fun ht => hne (ht.symm.trans htoken)
    · rw [← h.others l'.key hkey]
      exact hrow
  announced ha := h.announced _ ha fun he => hne (congrArg Prod.snd he).symm

/-- The world of the runners. -/
def observatory : World Observatory Runner WindowChoice WindowQuery WindowQuery.Answer where
  perform := Runner.perform
  inv := Observatory.Orderly
  rely := Runner.Rely
  guar := Runner.Guarantee
  rely_refl := Runner.Rely.refl
  rely_trans _ _ _ _ := Runner.Rely.trans

/-- **What a runner knows** once it has opened its window: as long as it is the owner, the
persisted payload is the one that it has in memory. -/
structure Runner.Knows (l : Runner) (w : WindowPayload) (s : Observatory) : Prop where
  opened : l.opened = true
  mine : ∀ row, s.db.window? l.key = some row → row.ownerToken = l.token → row.payload = w

theorem Runner.Knows.rely {l : Runner} {w : WindowPayload} {s s' : Observatory}
    (h : l.Knows w s) (hrely : l.Rely s s') : l.Knows w s' :=
  ⟨h.opened, fun row hrow htoken => h.mine row (hrely.mine row hrow htoken) htoken⟩

/-- Runners of one window and one token rely on the same. -/
theorem Runner.Rely.congr {l l' : Runner} {s s' : Observatory} (h : l.Rely s s')
    (hkey : l'.key = l.key) (htoken : l'.token = l.token) : l'.Rely s s' := by
  refine ⟨?_, ?_⟩
  · rw [hkey, htoken]
    exact h.mine
  · rw [hkey, htoken]
    exact h.announced

theorem Runner.Knows.congr {l l' : Runner} {w : WindowPayload} {s : Observatory}
    (h : l.Knows w s) (hkey : l'.key = l.key) (htoken : l'.token = l.token)
    (hopened : l'.opened = l.opened) : l'.Knows w s := by
  refine ⟨hopened.trans h.opened, ?_⟩
  rw [hkey, htoken]
  exact h.mine

/-! ### The rules of the queries -/

/-- **A program of a runner holds.** -/
abbrev WindowProg.Holds {α : Type} (p : WindowProg α) (post : α → Observatory → Runner → Prop)
    (s : Observatory) (l : Runner) : Prop :=
  Prog.Holds observatory post p s l

section Rules

open ObservationWindow

variable {s : Observatory} {l : Runner}

theorem WindowProg.holds_bind {α β : Type} {p : WindowProg α} {f : α → WindowProg β}
    {post : β → Observatory → Runner → Prop}
    (h : p.Holds (fun a s l => (f a).Holds post s l) s l) : (p >>= f).Holds post s l :=
  Prog.holds_bind h

theorem WindowProg.holds_pure {α : Type} {a : α} {post : α → Observatory → Runner → Prop}
    (h : ∀ s', l.Rely s s' → post a s' l) : (pure a : WindowProg α).Holds post s l :=
  Prog.holds_pure fun s' hrely _ => h s' hrely

theorem holds_clock {post : Int → Observatory → Runner → Prop}
    (h : ∀ now s', l.wall ≤ now → l.Rely s s' → post now s' { l with wall := now }) :
    clock.Holds post s l := by
  refine Prog.holds_ask fun s₁ h₁ hinv c now s₂ l₂ hperform => ?_
  simp only [observatory, Runner.perform, Option.ite_none_right_eq_some, Option.some.injEq,
    Prod.mk.injEq] at hperform
  obtain ⟨hle, rfl, rfl⟩ := hperform
  refine ⟨hinv, .refl fun _ h => (by cases h), fun s₃ h₃ _ => h now s₃ hle (h₁.trans ?_)⟩
  exact Runner.Rely.congr h₃ rfl rfl

theorem holds_monotonic {post : Int → Observatory → Runner → Prop}
    (h : ∀ now s', l.mono ≤ now → l.Rely s s' → post now s' { l with mono := now }) :
    monotonic.Holds post s l := by
  refine Prog.holds_ask fun s₁ h₁ hinv c now s₂ l₂ hperform => ?_
  simp only [observatory, Runner.perform, Option.ite_none_right_eq_some, Option.some.injEq,
    Prod.mk.injEq] at hperform
  obtain ⟨hle, rfl, rfl⟩ := hperform
  refine ⟨hinv, .refl fun _ h => (by cases h), fun s₃ h₃ _ => h now s₃ hle (h₁.trans ?_)⟩
  exact Runner.Rely.congr h₃ rfl rfl

theorem holds_uuid4 {post : String → Observatory → Runner → Prop}
    (h : ∀ segment s', l.Rely s s' → post segment s' l) : uuid4.Holds post s l := by
  refine Prog.holds_ask fun s₁ h₁ hinv c segment s₂ l₂ hperform => ?_
  simp only [observatory, Runner.perform, Option.some.injEq, Prod.mk.injEq] at hperform
  obtain ⟨rfl, rfl⟩ := hperform
  exact ⟨hinv, .refl fun _ h => (by cases h), fun s₃ h₃ _ => h segment s₃ (h₁.trans h₃)⟩

theorem holds_sleep {duration : Int} {post : Unit → Observatory → Runner → Prop}
    (h : ∀ s', l.Rely s s' → post () s'
      { l with wall := l.wall + max 0 duration, mono := l.mono + max 0 duration }) :
    (sleep duration).Holds post s l := by
  refine Prog.holds_ask fun s₁ h₁ hinv c a s₂ l₂ hperform => ?_
  simp only [observatory, Runner.perform, Option.some.injEq, Prod.mk.injEq] at hperform
  obtain ⟨rfl, rfl⟩ := hperform
  refine ⟨hinv, .refl fun _ h => (by cases h), fun s₃ h₃ _ => h s₃ (h₁.trans ?_)⟩
  exact Runner.Rely.congr h₃ rfl rfl

/-- The number of samples of a window is determined by its payload. -/
theorem sampleCount_of_window {db : Db} {key : String} {row : Window}
    (h : db.window? key = some row) : db.sampleCount key = row.payload.samples.length := by
  rw [Db.sampleCount, h]
  rfl

theorem sampleCount_congr {db db' : Db} {key : String} (h : db'.window? key = db.window? key) :
    db'.sampleCount key = db.sampleCount key := by
  rw [Db.sampleCount, h]
  rfl

/-- **The rule of `open`.** -/
theorem holds_storeOpen {initial : WindowPayload} (hinitial : initial.Sound)
    (hempty : initial.samples = []) (hfirst : l.opened = false)
    {post : WindowPayload → Observatory → Runner → Prop}
    (h : ∀ w s', w.Sound → Runner.Knows { l with opened := true } w s' →
      post w s' { l with opened := true }) : (storeOpen initial).Holds post s l := by
  refine Prog.holds_ask fun s₁ h₁ hinv c w s₂ l₂ hperform => ?_
  simp only [observatory, Runner.perform] at hperform
  split at hperform
  · rename_i saved db hopen
    simp only [Option.ite_none_right_eq_some, Option.some.injEq, Prod.mk.injEq] at hperform
    obtain ⟨rfl, rfl, rfl⟩ := hperform
    obtain ⟨hkeyed, hothers, row', hrow', htoken, hpayload, hbefore⟩ :=
      openWindow_window hinv.keyed hopen
    have hsound : row'.payload.Sound := by
      rcases hbefore with ⟨-, hnew⟩ | ⟨row, hrow, hsame⟩
      · rw [hpayload, hnew]
        exact hinitial
      · rw [hpayload, ← hsame]
        exact hinv.sound _ _ hrow
    refine ⟨⟨hkeyed, fun key row hrow => ?_, fun key => ?_⟩, ⟨hothers, fun row hrow hne => ?_,
      fun row hrow => ⟨row', hrow', ?_⟩, fun ho => ?_, fun _ hq => (by cases hq), fun _ he _ => he,
        fun _ he hn => absurd he hn⟩,
      fun s₃ h₃ _ => h _ s₃ (hpayload ▸ hsound) ⟨rfl, fun row hrow htoken' => ?_⟩⟩
    · by_cases hk : key = l.key
      · rw [hk, hrow'] at hrow
        exact Option.some.inj hrow ▸ hsound
      · exact hinv.sound key row (hothers key hk ▸ hrow)
    · refine (hinv.counted key).trans ?_
      by_cases hk : key = l.key
      · subst hk
        rw [sampleCount_of_window hrow', hpayload]
        rcases hbefore with ⟨hnone, hpay⟩ | ⟨row, hrow, hsame⟩
        · rw [Db.sampleCount, hnone, hpay, hempty]
          rfl
        · rw [sampleCount_of_window hrow, hsame]
      · exact (sampleCount_congr (hothers key hk)).symm
    · rw [hrow'] at hrow
      exact absurd (Option.some.inj hrow ▸ htoken) hne
    · rcases hbefore with ⟨hnone, -⟩ | ⟨row₀, hrow₀, hsame⟩
      · rw [hnone] at hrow
        cases hrow
      · rw [hrow₀] at hrow
        rw [hpayload, ← hsame, Option.some.inj hrow]
        exact .refl _
    · rw [hfirst] at ho
      cases ho
    · have hhere := h₃.mine row hrow htoken'
      rw [show Db.window? _ l.key = some row' from hrow'] at hhere
      rw [← Option.some.inj hhere]
      exact hpayload
  · cases hperform

/-- **The rule of `save`**: a later window that announces one sample at most. -/
theorem holds_storeSave {w w' : WindowPayload} (hknows : l.Knows w s) (hsound : w'.Sound)
    (hlater : w.Later w') (hone : w'.samples.length ≤ w.samples.length + 1)
    {post : Unit → Observatory → Runner → Prop}
    (h : ∀ s', l.Knows w' s' →
      (w.samples.length < w'.samples.length → (l.key, l.token) ∈ s'.announced) → post () s' l) :
    (storeSave w').Holds post s l := by
  refine Prog.holds_ask fun s₁ h₁ hinv c a s₂ l₂ hperform => ?_
  simp only [observatory, Runner.perform] at hperform
  split at hperform
  · rename_i db hsave
    simp only [Option.some.injEq, Prod.mk.injEq] at hperform
    obtain ⟨rfl, rfl⟩ := hperform
    obtain ⟨hkeyed, hothers, row, hrow, htoken, hafter⟩ := saveWindow_window hinv.keyed hsave
    have hpayload : row.payload = w := (hknows.rely h₁).mine row hrow htoken
    have hcount : s₁.db.sampleCount l.key = w.samples.length := by
      rw [sampleCount_of_window hrow, hpayload]
    have hmonotone := hlater.length
    refine ⟨⟨hkeyed, fun key row' hrow' => ?_, fun key => ?_⟩, ⟨hothers, fun row' hrow' hne => ?_,
      fun row' hrow' => ⟨_, hafter, ?_⟩, fun _ row' hrow' hne => ?_, fun _ hq => (by cases hq),
      fun entry he _ => ?_, fun entry he hn => ?_⟩, fun s₃ h₃ _ => h s₃ ⟨hknows.opened, fun row' hrow' ht => ?_⟩
        fun hmore => h₃.announced ?_⟩
    · by_cases hk : key = l.key
      · rw [hk, hafter] at hrow'
        exact Option.some.inj hrow' ▸ hsound
      · exact hinv.sound key row' (hothers key hk ▸ hrow')
    · have hbefore := hinv.counted key
      by_cases hk : key = l.key
      · subst hk
        rw [sampleCount_of_window hafter]
        simp only [Observatory.attempts, Observatory.pending, hcount] at hbefore ⊢
        split
        · rw [List.countP_cons_of_pos (by simp)]
          omega
        · omega
      · rw [sampleCount_congr (hothers key hk), ← hbefore]
        simp only [Observatory.attempts, Observatory.pending]
        split
        · rw [List.countP_cons_of_neg (by simpa using Ne.symm hk)]
        · rfl
    · rw [hafter] at hrow'
      exact absurd (Option.some.inj hrow' ▸ htoken) hne
    · rw [hrow] at hrow'
      rw [← Option.some.inj hrow', hpayload]
      exact hlater
    · rw [hrow] at hrow'
      exact absurd (Option.some.inj hrow' ▸ htoken) hne
    · dsimp only
      split
      · exact List.mem_cons_of_mem _ he
      · exact he
    · dsimp only at he ⊢
      split at he
      · rename_i hmore
        rcases List.mem_cons.1 he with rfl | he
        · exact ⟨rfl, by rwa [sampleCount_of_window hafter]⟩
        · exact absurd he hn
      · exact absurd he hn
    · have hhere := h₃.mine row' hrow' ht
      rw [show Db.window? _ l.key = _ from hafter] at hhere
      rw [← Option.some.inj hhere]
    · dsimp only
      rw [if_pos (hcount ▸ hmore)]
      exact List.mem_cons_self
  · cases hperform

/-- **The rule of a sample**: it has been announced. -/
theorem holds_sample {seconds : Int} (hannounced : (l.key, l.token) ∈ s.announced)
    {post : Observed → Observatory → Runner → Prop}
    (h : ∀ o s', (∀ w, l.Knows w s → l.Knows w s') → post o s' l) :
    (sample seconds).Holds post s l := by
  refine Prog.holds_ask fun s₁ h₁ hinv c o s₂ l₂ hperform => ?_
  simp only [observatory, Runner.perform, Option.some.injEq, Prod.mk.injEq] at hperform
  obtain ⟨rfl, rfl⟩ := hperform
  have hhere := h₁.announced hannounced
  refine ⟨⟨hinv.keyed, hinv.sound, fun key => ?_⟩, ⟨fun _ _ => rfl, fun _ hrow _ => hrow,
    fun row hrow => ⟨row, hrow, .refl _⟩, fun _ _ hrow _ => hrow, fun _ _ => hhere,
    fun entry he hne => (List.mem_erase_of_ne hne).2 he,
    fun entry he hn => absurd (List.mem_of_mem_erase he) hn⟩,
    fun s₃ h₃ _ => h o s₃ fun w hw => ?_⟩
  · rw [show (Db.sampleCount _ key) = s₁.db.sampleCount key from rfl, ← hinv.counted key]
    simp only [Observatory.attempts, Observatory.pending]
    rw [List.countP_erase, List.count_cons]
    by_cases hk : l.key = key
    · subst hk
      have hpos : 0 < s₁.announced.countP fun entry => entry.1 = l.key :=
        List.countP_pos_iff.2 ⟨_, hhere, by simp⟩
      simp only [hhere, decide_true, and_self, if_true, beq_self_eq_true]
      omega
    · simp [hk]
  · exact ⟨hw.opened, fun row hrow ht => (hw.rely h₁).mine row (h₃.mine row hrow ht) ht⟩

end Rules

end IncidentAgent
