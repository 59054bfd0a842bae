import IncidentAgent.Lib.Prog
import IncidentAgent.System.Invariant

/-!
# Acceptance under races

`PostgresRunRepository.accept` is not one transaction. It reads the run of its key, inserts
an incident and a run in a transaction of its own, and reads the key again when the insertion
has met the unique constraint of the keys. Between two of these steps anybody may commit: other
calls with the same key, workers, clients.

Each call is a thread of `Acceptance`. The world may let any of its steps fail, and may lose
the acknowledgement of an insertion that has committed. What a call relies on is that runs
keep what identifies them; what it guarantees is that it writes nothing, or all of its
insertion (`Accepting.Guarantee`).
-/

namespace IncidentAgent

/-! ### The program of a call -/

/-- The answer to the transaction of `accept`. -/
inductive Insertion
  | inserted (row : Run)
  /-- `UniqueViolation` of `runs_idempotency_unique`. -/
  | duplicate
  /-- Any other error of the database driver. -/
  | failed
  deriving DecidableEq, Inhabited

/-- A step of `accept` that leaves the process. -/
inductive AcceptQuery
  /-- `SELECT * FROM runs WHERE idempotency_scope=… AND idempotency_key=…`. -/
  | byKey (key : String)
  /-- The transaction of `accept`, with the arguments of the call. -/
  | insert

/-- What a step answers. A reading that fails has no answer. -/
def AcceptQuery.Answer : AcceptQuery → Type
  | .byKey _ => Option (Option Run)
  | .insert => Insertion

/-- A program of `accept`. -/
abbrev AcceptProg := Prog AcceptQuery AcceptQuery.Answer

/-- A call of `accept`: its arguments, and the run that it has inserted. -/
structure Accepting where
  name : String
  incidentId : String
  runId : String
  threadId : String
  payload : IncidentRequest
  key : Option String
  dialogue : Bool
  wrote : Option Run
  deriving DecidableEq, Inhabited

variable {env : Env}

/-- `by_key(key)`. -/
def byKey (key : String) : AcceptProg (Option (Option Run)) := Prog.ask (AcceptQuery.byKey key)

/-- The transaction of the call. -/
def insertRows : AcceptProg Insertion := Prog.ask AcceptQuery.insert

/-- `by_key(key)`, then `_replay(row, digest)` if there is a row. -/
def replayByKey (key digest : String) : AcceptProg (Except Failure (Option Run)) := do
  match ← byKey key with
  | none => pure (.error .runError)
  | some none => pure (.ok none)
  | some (some row) => pure ((replayRun row digest).map some)

/-- The handler of `UniqueViolation`: the winner of the race, if it is there. -/
def replayWinner (key : Option String) (digest : String) : AcceptProg (Except Failure Run) :=
  match key with
  | none => pure (.error .runError)
  | some key => do
    match ← replayByKey key digest with
    | .error e => pure (.error e)
    | .ok winner => pure (rowOr winner .runError)

/-- The transaction of a call, and what the call makes of its errors. -/
def insertFirst (key : Option String) (digest : String) : AcceptProg (Except Failure Run) := do
  match ← insertRows with
  | .inserted row => pure (.ok row)
  | .duplicate => replayWinner key digest
  | .failed => pure (.error .runError)

/-- `PostgresRunRepository.accept`. -/
def acceptCall (env : Env) (c : Accepting) : AcceptProg (Except Failure Run) :=
  let digest := env.requestDigest c.payload.dump
  match validateKey c.key with
  | .error e => pure (.error e)
  | .ok _ =>
    match c.key with
    | none => insertFirst none digest
    | some key => do
      match ← replayByKey key digest with
      | .error e => pure (.error e)
      | .ok (some existing) => pure (.ok existing)
      | .ok none => insertFirst (some key) digest

/-! ### The world of the calls -/

/-- What may happen to a step. -/
inductive Fault
  | none
  /-- The step fails, and changes nothing. -/
  | failed
  /-- The transaction commits, and its acknowledgement is lost. -/
  | lost
  deriving DecidableEq, Inhabited

/-- The choices of the world for a step. -/
structure AcceptChoice where
  start : Nat
  asked : Nat
  draw : Draw
  fault : Fault
  deriving DecidableEq, Inhabited

variable {σ : Type}

/-- The request that a call makes in its transaction. -/
def Accepting.request (l : Accepting) : Request :=
  .accept l.incidentId l.runId l.threadId l.payload l.key l.dialogue

/-- The evaluation of the transaction of a call. -/
def Accepting.transact (env : Env) (l : Accepting) (tx : Tx) (db : Db) : Except Failure (Run × Db) :=
  accept env tx l.incidentId l.runId l.threadId l.payload l.key l.dialogue db

/-- What the transaction answers, and the store and the run that it leaves. -/
def Accepting.insertion (s : Sys σ) (l : Accepting) (fault : Fault) :
    Except Failure (Run × Db) → Insertion × Sys σ × Accepting
  | .ok (row, db) => match fault with
    | .none => (.inserted row, { s with db := db }, { l with wrote := some row })
    | .failed => (.failed, s, l)
    | .lost => (.failed, { s with db := db }, { l with wrote := some row })
  | .error e => (if fault = .none ∧ e = .uniqueViolation then .duplicate else .failed, s, l)

/-- **The world performs a step of a call.** -/
def Accepting.perform (env : Env) (c : AcceptChoice) (s : Sys σ) (l : Accepting) :
    (q : AcceptQuery) → q.Answer → Option (Sys σ × Accepting)
  | .byKey key, (answer : Option (Option Run)) =>
    if answer = (if c.fault = .none then some (s.db.runByKey? createScope key) else none) then
      some (s, l)
    else none
  | .insert, (answer : Insertion) =>
    if c.start ≤ c.asked ∧ c.start < s.now ∧ c.asked ≤ s.now ∧ s.Fresh c.draw then
      let outcome := Accepting.insertion s l c.fault
        (l.transact env (s.tx ⟨c.start, l.request⟩ c.asked c.draw) s.db)
      if answer = outcome.1 then some outcome.2 else none
    else none

/-- What a call relies on: runs keep what identifies them. -/
def Sys.KeepsRuns (s s' : Sys σ) : Prop :=
  ∀ r ∈ s.db.runs, ∃ r' ∈ s'.db.runs, r'.fixed = r.fixed

theorem Sys.KeepsRuns.refl (s : Sys σ) : s.KeepsRuns s := fun r hr => ⟨r, hr, rfl⟩

theorem Sys.KeepsRuns.trans {s s' s'' : Sys σ} (h : s.KeepsRuns s') (h' : s'.KeepsRuns s'') :
    s.KeepsRuns s'' := by
  intro r hr
  obtain ⟨r', hr', hfixed⟩ := h r hr
  obtain ⟨r'', hr'', hfixed'⟩ := h' r' hr'
  exact ⟨r'', hr'', hfixed'.trans hfixed⟩

/-- What a call guarantees: a step writes nothing, or it is the transaction of the call, and
commits all of it. -/
def Accepting.Guarantee (env : Env) (l : Accepting) (q : AcceptQuery) (s s' : Sys σ) : Prop :=
  s'.db = s.db ∨ q = .insert ∧ ∃ tx row, l.transact env tx s.db = .ok (row, s'.db)

/-- The world of the calls. -/
def acceptance (env : Env) :
    World (Sys σ) Accepting AcceptChoice AcceptQuery AcceptQuery.Answer where
  perform := Accepting.perform env
  inv s := s.Sound env
  rely _ := Sys.KeepsRuns
  guar l q s s' := l.Guarantee env q s s' ∧ s.KeepsRuns s'
  rely_refl _ := Sys.KeepsRuns.refl
  rely_trans _ _ _ _ := Sys.KeepsRuns.trans

/-- **Any number of calls**, in any interleaving with all that the system does. -/
def Accepting.threads (env : Env) :
    Threads String (Sys σ) Accepting AcceptChoice (Event σ) AcceptQuery AcceptQuery.Answer
      (Except Failure Run) where
  world := acceptance env
  name l := l.name
  admits _ l := l.wrote.isNone
  main := acceptCall env
  move s e := s.next env e

/-! ### What a call returns -/

/-- The run of a key, with the digest of its request. -/
def Sys.Holds (s : Sys σ) (key : Option String) (digest : String) (row : Run) : Prop :=
  ∃ r ∈ s.db.runs, r.fixed = row.fixed ∧ (∀ k ∈ key, r.idempotency = some (createScope, k)) ∧
    r.requestSha256 = digest

/-- **What a call has to show** when it ends: the run that it returns, or the reason why it
raises. -/
def Accepting.Post (env : Env) : Except Failure Run → Sys σ → Accepting → Prop
  | .ok row, s, l => s.Holds l.key (env.requestDigest l.payload.dump) row
  | .error e, s, l => e = .runError ∨
      (e = .invalidRunQuery ∧ ∃ k ∈ l.key, keyPattern k = false) ∨
      (e = .idempotencyConflict ∧ ∃ k ∈ l.key, ∃ r ∈ s.db.runs,
        r.idempotency = some (createScope, k) ∧
          r.requestSha256 ≠ env.requestDigest l.payload.dump)

section Rules

variable {s s' : Sys σ} {l : Accepting}

theorem Sys.Holds.mono {key : Option String} {digest : String} {row : Run}
    (h : s.Holds key digest row) (hkeeps : s.KeepsRuns s') : s'.Holds key digest row := by
  obtain ⟨r, hr, hfixed, hkey, hsha⟩ := h
  obtain ⟨r', hr', hfixed'⟩ := hkeeps r hr
  refine ⟨r', hr', hfixed'.trans hfixed, fun k hk => ?_, ?_⟩
  · exact (column_eq hfixed' Run.idempotency fun _ => rfl).trans (hkey k hk)
  · exact (column_eq hfixed' Run.requestSha256 fun _ => rfl).trans hsha

theorem Accepting.Post.mono {result : Except Failure Run} (h : Accepting.Post env result s l)
    (hkeeps : s.KeepsRuns s') : Accepting.Post env result s' l := by
  cases result with
  | ok row => exact Sys.Holds.mono h hkeeps
  | error e =>
    rcases h with he | he | ⟨he, k, hk, r, hr, hkey, hsha⟩
    · exact Or.inl he
    · exact Or.inr (Or.inl he)
    · obtain ⟨r', hr', hfixed⟩ := hkeeps r hr
      refine Or.inr (Or.inr ⟨he, k, hk, r', hr', ?_, ?_⟩)
      · exact (column_eq hfixed Run.idempotency fun _ => rfl).trans hkey
      · rw [column_eq hfixed Run.requestSha256 fun _ => rfl]
        exact hsha

/-- **The transaction of a call keeps the system sound.** -/
theorem Sys.Sound.accepts (h : s.Sound env) {c : AcceptChoice} {row : Run} {db : Db}
    (hstart : c.start < s.now) (hfresh : s.Fresh c.draw)
    (hok : l.transact env (s.tx ⟨c.start, l.request⟩ c.asked c.draw) s.db = .ok (row, db)) :
    Sys.Sound env { s with db := db } ∧ Sys.KeepsRuns s { s with db := db } := by
  let t : OpenTx := ⟨c.start, l.request⟩
  -- The transaction of a call is one that the system could have opened.
  let opened : Sys σ := { s with transactions := s.transactions ++ [t] }
  have hopened : opened.Sound env := by
    refine h.frame rfl rfl (le_refl _) fun u hu => ?_
    rcases List.mem_append.1 hu with hu | hu
    · exact Or.inl hu
    · obtain rfl := List.mem_singleton.1 hu
      exact Or.inr ⟨hstart, trivial, fun _ hl => (by cases hl), fun _ hp => (by cases hp),
        fun _ hid => (by cases hid)⟩
  have hfreshOpened : opened.Fresh c.draw := by
    refine ⟨hfresh.1, fun u hu key hkey => ?_⟩
    rcases List.mem_append.1 hu with hu | hu
    · exact hfresh.2 u hu key hkey
    · obtain rfl := List.mem_singleton.1 hu
      cases hkey
  have hlast : opened.transactions[s.transactions.length]? = some t := by
    simp [opened]
  have hcommits : transact env (opened.tx t c.asked c.draw) [] t.request opened.db =
      .ok (.run row, db) := by
    simp only [IncidentAgent.transact, t, Accepting.request, map_eq_ok]
    exact ⟨(row, db), hok, rfl⟩
  obtain ⟨hsound, hlater⟩ := hopened.after hlast hfreshOpened hcommits
  refine ⟨?_, fun r hr => ?_⟩
  · have hsame : opened.committed s.transactions.length (.run row) db = { s with db := db } := by
      simp [Sys.committed, opened, List.eraseIdx_append_of_length_le]
    rwa [hsame] at hsound
  · obtain ⟨r', hr', hadv⟩ := hlater.runs r hr
    exact ⟨r', hr', hadv.fixed⟩

/-- The run that a transaction of `accept` inserts. -/
theorem Accepting.transact_holds {tx : Tx} {row : Run} {db : Db}
    (hok : l.transact env tx s.db = .ok (row, db)) :
    Sys.Holds { s with db := db } l.key (env.requestDigest l.payload.dump) row := by
  obtain ⟨-, rfl, hinsert⟩ := accept_eq_ok hok
  obtain ⟨-, -, rfl⟩ := Db.insertRun_eq_ok hinsert
  refine ⟨_, List.mem_append_right _ (List.mem_singleton_self _), rfl, fun k hk => ?_, rfl⟩
  rw [Option.mem_def] at hk
  simp [Run.first, hk]

/-- **The rule of `by_key`.** -/
theorem holds_byKey {key : String} {post : Option (Option Run) → Sys σ → Accepting → Prop}
    (hfail : ∀ s', post none s' l) (hnone : ∀ s', post (some none) s' l)
    (hrow : ∀ (s' : Sys σ) row, row ∈ s'.db.runs → row.idempotency = some (createScope, key) →
      ∀ s'', s'.KeepsRuns s'' → post (some (some row)) s'' l) :
    (byKey key).Holds (acceptance env) post s l := by
  refine Prog.holds_ask fun s₁ h₁ hinv c answer s₂ l₂ hperform => ?_
  simp only [acceptance, Accepting.perform, Option.ite_none_right_eq_some, Option.some.injEq,
    Prod.mk.injEq] at hperform
  obtain ⟨hanswer, rfl, rfl⟩ := hperform
  refine ⟨hinv, ⟨Or.inl rfl, .refl _⟩, fun s₃ h₃ _ => ?_⟩
  rw [hanswer]
  split
  · cases hfind : s₁.db.runByKey? createScope key with
    | none => exact hnone s₃
    | some row =>
      have hkey := List.find?_some hfind
      exact hrow s₁ row (List.mem_of_find?_eq_some hfind) (by simpa using hkey) s₃ h₃
  · exact hfail s₃

/-- **The rule of the transaction.** -/
theorem holds_insertRows {post : Insertion → Sys σ → Accepting → Prop}
    (hfail : ∀ s' wrote, post .failed s' { l with wrote := wrote })
    (hduplicate : ∀ s', post .duplicate s' l)
    (hinserted : ∀ s' row, s'.Holds l.key (env.requestDigest l.payload.dump) row →
      post (.inserted row) s' { l with wrote := some row }) :
    insertRows.Holds (acceptance env) post s l := by
  refine Prog.holds_ask fun s₁ h₁ hinv c answer s₂ l₂ hperform => ?_
  simp only [acceptance, Accepting.perform] at hperform
  split at hperform
  · rename_i hguard
    obtain ⟨-, hstart, -, hfresh⟩ := hguard
    simp only [Option.ite_none_right_eq_some, Option.some.injEq] at hperform
    obtain ⟨rfl, hperform⟩ := hperform
    cases haccept : l.transact env (s₁.tx ⟨c.start, l.request⟩ c.asked c.draw) s₁.db with
    | error e =>
      rw [haccept] at hperform
      obtain ⟨rfl, rfl⟩ := Prod.mk.inj hperform
      refine ⟨hinv, ⟨Or.inl rfl, .refl _⟩, fun s₃ h₃ _ => ?_⟩
      simp only [Accepting.insertion]
      split
      · exact hduplicate s₃
      · exact hfail s₃ l.wrote
    | ok done =>
      obtain ⟨row, db⟩ := done
      obtain ⟨hsound, hkeeps⟩ := hinv.accepts hstart hfresh haccept
      have hholds := Accepting.transact_holds haccept
      have hguar : l.Guarantee env .insert s₁ { s₁ with db := db } :=
        Or.inr ⟨rfl, _, row, haccept⟩
      rw [haccept] at hperform
      cases hfault : c.fault with
      | none =>
        simp only [Accepting.insertion, hfault, Prod.mk.injEq] at hperform ⊢
        obtain ⟨rfl, rfl⟩ := hperform
        exact ⟨hsound, ⟨hguar, hkeeps⟩, fun s₃ h₃ _ => hinserted s₃ row (hholds.mono h₃)⟩
      | failed =>
        simp only [Accepting.insertion, hfault, Prod.mk.injEq] at hperform ⊢
        obtain ⟨rfl, rfl⟩ := hperform
        exact ⟨hinv, ⟨Or.inl rfl, .refl _⟩, fun s₃ _ _ => hfail s₃ l.wrote⟩
      | lost =>
        simp only [Accepting.insertion, hfault, Prod.mk.injEq] at hperform ⊢
        obtain ⟨rfl, rfl⟩ := hperform
        exact ⟨hsound, ⟨hguar, hkeeps⟩, fun s₃ _ _ => hfail s₃ (some row)⟩
  · cases hperform

/-- What `_replay` makes of the row of the key. -/
theorem replayRun_post {row : Run} {key : String} (hkey : key ∈ l.key)
    (hrow : row ∈ s.db.runs) (hidempotency : row.idempotency = some (createScope, key)) :
    Accepting.Post env (replayRun row (env.requestDigest l.payload.dump)) s l := by
  by_cases hsha : row.requestSha256 = env.requestDigest l.payload.dump
  · have hok : replayRun row (env.requestDigest l.payload.dump) = .ok row := by
      simp only [replayRun, raiseIf, if_neg (not_not.2 hsha)]
      rfl
    rw [hok]
    refine ⟨row, hrow, rfl, fun k hk => ?_, hsha⟩
    rw [Option.mem_unique hk hkey]
    exact hidempotency
  · have herror : replayRun row (env.requestDigest l.payload.dump) =
        .error .idempotencyConflict := by
      simp only [replayRun, raiseIf, if_pos hsha]
      rfl
    rw [herror]
    exact Or.inr (Or.inr ⟨rfl, key, hkey, row, hrow, hidempotency, hsha⟩)

/-- **The rule of a replay**: what it returns is the run of the key, and what it raises is
what a call may raise. -/
theorem holds_replayByKey {key : String} (hkey : key ∈ l.key)
    {post : Except Failure (Option Run) → Sys σ → Accepting → Prop}
    (herror : ∀ e s', Accepting.Post env (.error e) s' l → post (.error e) s' l)
    (hnone : ∀ s', post (.ok none) s' l)
    (hrow : ∀ row s', Accepting.Post env (.ok row) s' l → post (.ok (some row)) s' l) :
    (replayByKey key (env.requestDigest l.payload.dump)).Holds (acceptance env) post s l := by
  refine Prog.holds_bind (holds_byKey (fun s' => ?_) (fun s' => ?_) fun s' row hmem hid s'' hkeeps => ?_)
  · exact Prog.holds_pure fun s'' _ _ => herror _ s'' (Or.inl rfl)
  · exact Prog.holds_pure fun s'' _ _ => hnone s''
  · refine Prog.holds_pure fun s₃ h₃ _ => ?_
    have hpost : Accepting.Post env (replayRun row (env.requestDigest l.payload.dump)) s₃ l :=
      (replayRun_post hkey hmem hid).mono (hkeeps.trans h₃)
    cases hreplay : replayRun row (env.requestDigest l.payload.dump) with
    | error e =>
      rw [hreplay] at hpost
      exact herror e s₃ hpost
    | ok found =>
      rw [hreplay] at hpost
      exact hrow found s₃ hpost

theorem holds_replayWinner :
    (replayWinner l.key (env.requestDigest l.payload.dump)).Holds (acceptance env)
      (Accepting.Post env) s l := by
  unfold replayWinner
  cases hkey : l.key with
  | none => exact Prog.holds_pure fun s' _ _ => Or.inl rfl
  | some key =>
    refine Prog.holds_bind (holds_replayByKey hkey (fun e s' hpost => ?_) (fun s' => ?_)
      fun row s' hpost => ?_)
    · exact Prog.holds_pure fun s'' h _ => hpost.mono h
    · exact Prog.holds_pure fun s'' _ _ => Or.inl rfl
    · exact Prog.holds_pure fun s'' h _ => Accepting.Post.mono hpost h

theorem holds_insertFirst {key : Option String} (hkey : l.key = key) :
    (insertFirst key (env.requestDigest l.payload.dump)).Holds (acceptance env)
      (Accepting.Post env) s l := by
  refine Prog.holds_bind (holds_insertRows (fun s' wrote => ?_) (fun s' => ?_)
    fun s' row hholds => ?_)
  · exact Prog.holds_pure fun s'' _ _ => Or.inl rfl
  · subst hkey
    exact holds_replayWinner
  · exact Prog.holds_pure fun s'' h _ => Sys.Holds.mono hholds h

/-- **A call of `accept` holds.** -/
theorem holds_acceptCall : (acceptCall env l).Holds (acceptance env) (Accepting.Post env) s l := by
  unfold acceptCall
  cases hvalid : validateKey l.key with
  | error e =>
    refine Prog.holds_pure fun s' _ _ => Or.inr (Or.inl ?_)
    unfold validateKey raiseIf at hvalid
    split at hvalid
    · rename_i hbad
      exact ⟨(Except.error.inj hvalid).symm, hbad⟩
    · cases hvalid
  | ok _ =>
    cases hkey : l.key with
    | none => exact holds_insertFirst hkey
    | some key =>
      refine Prog.holds_bind (holds_replayByKey hkey (fun e s' hpost => ?_) (fun s' => ?_)
        fun row s' hpost => ?_)
      · exact Prog.holds_pure fun s'' h _ => hpost.mono h
      · exact holds_insertFirst hkey
      · exact Prog.holds_pure fun s'' h _ => Accepting.Post.mono hpost h

end Rules

/-! ### All calls -/

/-- The state of all calls. -/
abbrev Acceptance (σ : Type) : Type :=
  Pool String (Sys σ) Accepting AcceptQuery AcceptQuery.Answer (Except Failure Run)

/-- An event among the calls. -/
abbrev AcceptanceEvent (σ : Type) : Type :=
  PoolEvent String Accepting AcceptChoice (Event σ) AcceptQuery AcceptQuery.Answer

namespace Acceptance

/-- **The states that are reachable**, from the store after its migrations on. -/
def Reachable (env : Env) (p : Acceptance σ) : Prop :=
  Transition.Reachable (Accepting.threads env).next (Threads.idle (Sys.start σ)) p

/-- Every call keeps the guarantee of a call, and nobody disturbs it. -/
theorem threads_sound : (Accepting.threads (σ := σ) env).Sound (Accepting.Post env) where
  main _ _ _ _ := holds_acceptCall
  name c s l q a s' l' h := by
    cases q with
    | byKey key =>
      simp only [Accepting.threads, acceptance, Accepting.perform, Option.ite_none_right_eq_some,
        Option.some.injEq, Prod.mk.injEq] at h
      rw [← h.2.2]
    | insert =>
      simp only [Accepting.threads, acceptance, Accepting.perform, Option.ite_none_right_eq_some,
        Option.some.injEq] at h
      obtain ⟨-, -, h⟩ := h
      unfold Accepting.insertion at h
      split at h
      · split at h <;> (obtain ⟨-, rfl⟩ := Prod.mk.inj h; rfl)
      · obtain ⟨-, rfl⟩ := Prod.mk.inj h
        rfl
  move s e s' hs h := by
    obtain ⟨hsound, -, hlater⟩ := Sys.Sound.step hs h
    refine ⟨hsound, fun _ r hr => ?_⟩
    obtain ⟨r', hr', hadv⟩ := hlater.runs r hr
    exact ⟨r', hr', hadv.fixed⟩
  others _ _ _ _ _ _ _ _ h := h.2

variable {p p' : Acceptance σ}

/-- In a reachable state every call is in the middle of a program that holds. -/
theorem Reachable.holds (hp : p.Reachable env) :
    (Accepting.threads env).Holds (Accepting.Post env) p :=
  threads_sound.holds_of_reachable Sys.sound_start hp

/-- What a step of a call writes. -/
theorem perform_cases {c : AcceptChoice} {s s' : Sys σ} {l l' : Accepting} {q : AcceptQuery}
    {answer : q.Answer} (h : Accepting.perform env c s l q answer = some (s', l')) :
    (s' = s ∧ l' = l) ∨ ∃ tx row, q = .insert ∧ l.transact env tx s.db = .ok (row, s'.db) ∧
      l' = { l with wrote := some row } := by
  cases q with
  | byKey key =>
    simp only [Accepting.perform, Option.ite_none_right_eq_some, Option.some.injEq,
      Prod.mk.injEq] at h
    exact Or.inl ⟨h.2.1.symm, h.2.2.symm⟩
  | insert =>
    simp only [Accepting.perform, Option.ite_none_right_eq_some, Option.some.injEq] at h
    obtain ⟨-, -, h⟩ := h
    unfold Accepting.insertion at h
    split at h
    · rename_i row db hok
      split at h
      · obtain ⟨rfl, rfl⟩ := Prod.mk.inj h
        exact Or.inr ⟨_, row, rfl, hok, rfl⟩
      · obtain ⟨rfl, rfl⟩ := Prod.mk.inj h
        exact Or.inl ⟨rfl, rfl⟩
      · obtain ⟨rfl, rfl⟩ := Prod.mk.inj h
        exact Or.inr ⟨_, row, rfl, hok, rfl⟩
    · obtain ⟨rfl, rfl⟩ := Prod.mk.inj h
      exact Or.inl ⟨rfl, rfl⟩

/-- **An event among the calls**: it changes no run for the worse, and what a call has
inserted is new, or was there before. -/
theorem next_cases (h : (Accepting.threads env).Holds (Accepting.Post env) p)
    {e : AcceptanceEvent σ} (hnext : (Accepting.threads env).next p e = some p') :
    p.shared.KeepsRuns p'.shared ∧ ∀ i l' q', p'.threads i = some (l', q') →
      l'.wrote = none ∨ (∃ l q, p.threads i = some (l, q) ∧ l' = l) ∨
        ∃ l q tx row, p.threads i = some (l, q) ∧
          l.transact env tx p.shared.db = .ok (row, p'.shared.db) ∧
          l' = { l with wrote := some row } := by
  cases e with
  | spawn i l =>
    simp only [Threads.next] at hnext
    split at hnext
    · rename_i hguard
      obtain ⟨-, -, hadmits⟩ := hguard
      obtain rfl := Option.some.inj hnext
      refine ⟨.refl _, fun j m q hj => ?_⟩
      by_cases hij : j = i
      · obtain ⟨rfl, -⟩ := Prod.mk.inj (Option.some.inj (by simpa [hij] using hj))
        exact Or.inl (by simpa [Accepting.threads] using hadmits)
      · exact Or.inr (Or.inl ⟨m, q, by simpa [hij] using hj, rfl⟩)
    · cases hnext
  | step i c answer =>
    obtain ⟨l, q, k, l', hthread, hperform, -, hguar, -, hthreads⟩ := h.step hnext
    refine ⟨hguar.2, fun j m r hj => ?_⟩
    rw [hthreads] at hj
    by_cases hij : j = i
    · obtain ⟨rfl, -⟩ := Prod.mk.inj (Option.some.inj (by simpa [hij] using hj))
      rcases perform_cases hperform with ⟨-, rfl⟩ | ⟨tx, row, -, hok, rfl⟩
      · exact Or.inr (Or.inl ⟨_, _, hij ▸ hthread, rfl⟩)
      · exact Or.inr (Or.inr ⟨l, _, tx, row, hij ▸ hthread, hok, rfl⟩)
    · exact Or.inr (Or.inl ⟨m, r, by simpa [hij] using hj, rfl⟩)
  | stop i =>
    obtain rfl := Option.some.inj hnext
    refine ⟨.refl _, fun j m q hj => ?_⟩
    by_cases hij : j = i
    · simp [hij] at hj
    · exact Or.inr (Or.inl ⟨m, q, by simpa [hij] using hj, rfl⟩)
  | move e =>
    obtain ⟨s, hmove, rfl⟩ := Option.map_eq_some_iff.1 hnext
    exact ⟨(threads_sound.move _ _ _ h.inv hmove).2 default, fun j m q hj =>
      Or.inr (Or.inl ⟨m, q, hj, rfl⟩)⟩

/-- The run that a call has inserted: its own, of its incident, under its key. -/
def Wrote (env : Env) (p : Acceptance σ) (l : Accepting) (row : Run) : Prop :=
  row.runId = l.runId ∧ row.incidentId = l.incidentId ∧
    p.shared.Holds l.key (env.requestDigest l.payload.dump) row

/-- **What a call has inserted is there.** -/
theorem Reachable.wrote (hp : p.Reachable env) : ∀ i l q, p.threads i = some (l, q) →
    ∀ row ∈ l.wrote, p.Wrote env l row := by
  refine Transition.Reachable.invariant_of (P := fun p : Acceptance σ => ∀ i l q,
    p.threads i = some (l, q) → ∀ row ∈ l.wrote, p.Wrote env l row)
    (fun i l q hi => by cases hi) (fun p e p' hreach ih hnext i l' q' hi row hrow => ?_) hp
  obtain ⟨hkeeps, hthreads⟩ := next_cases (Reachable.holds hreach) hnext
  rcases hthreads i l' q' hi with hnone | ⟨l, q, hl, rfl⟩ | ⟨l, q, tx, row', hl, hok, rfl⟩
  · rw [hnone] at hrow
    cases hrow
  · obtain ⟨hrun, hincident, hholds⟩ := ih i l' q hl row hrow
    exact ⟨hrun, hincident, hholds.mono hkeeps⟩
  · cases hrow
    have hholds : Sys.Holds p'.shared l.key (env.requestDigest l.payload.dump) row :=
      Accepting.transact_holds (s := p.shared) hok
    obtain ⟨-, rfl, -⟩ := accept_eq_ok hok
    exact ⟨rfl, rfl, hholds⟩

/-- **Acceptance is idempotent**, in a state of the calls. -/
structure AcceptedOnce (env : Env) (p : Acceptance σ) : Prop where
  /-- There is at most one run for a key. -/
  one_run : ∀ key, ∀ r ∈ p.shared.db.runs, ∀ q ∈ p.shared.db.runs,
    r.idempotency = some (createScope, key) → q.idempotency = some (createScope, key) → r = q
  /-- The run of a key has one incident. -/
  one_incident : ∀ key, ∀ r ∈ p.shared.db.runs, r.idempotency = some (createScope, key) →
    ∃ i ∈ p.shared.db.incidents, i.incidentId = r.incidentId ∧
      ∀ j ∈ p.shared.db.incidents, j.incidentId = r.incidentId → j = i
  /-- A call that has returned has returned the run of its key, which is there, and which was
  accepted for the same request. -/
  returned : ∀ i l row, p.threads i = some (l, .pure (.ok row)) → ∀ key ∈ l.key,
    ∃ r ∈ p.shared.db.runs, r.idempotency = some (createScope, key) ∧ r.fixed = row.fixed ∧
      r.requestSha256 = env.requestDigest l.payload.dump
  /-- Calls that have returned for one key have returned the same run, and if digests tell
  requests apart, they had the same payload. -/
  agree : ∀ i l row j m row', p.threads i = some (l, .pure (.ok row)) →
    p.threads j = some (m, .pure (.ok row')) → ∀ key ∈ l.key, key ∈ m.key →
      row'.runId = row.runId ∧ row'.incidentId = row.incidentId ∧
        (Function.Injective env.requestDigest → m.payload = l.payload)
  /-- At most one call has inserted rows for a key. -/
  one_writer : ∀ i l q row j m q' row', p.threads i = some (l, q) → p.threads j = some (m, q') →
    row ∈ l.wrote → row' ∈ m.wrote → ∀ key ∈ l.key, key ∈ m.key →
      row'.runId = row.runId ∧ m.runId = l.runId ∧ m.incidentId = l.incidentId
  /-- A step of a call writes nothing, or it commits the whole transaction of the call: then
  the key was free, and the incident and the run are those of the call. -/
  whole : ∀ i c answer (p' : Acceptance σ),
    (Accepting.threads env).next p (.step i c answer) = some p' → ∃ l q l' q',
      p.threads i = some (l, q) ∧ p'.threads i = some (l', q') ∧
      ((p'.shared.db = p.shared.db ∧ l' = l) ∨
        ∃ tx row, l.transact env tx p.shared.db = .ok (row, p'.shared.db) ∧
          l' = { l with wrote := some row } ∧
          (∀ key ∈ l.key, ∀ r ∈ p.shared.db.runs, r.idempotency ≠ some (createScope, key)) ∧
          p'.shared.db = { p.shared.db with
            incidents := p.shared.db.incidents ++
              [Incident.initial l.incidentId l.threadId l.payload]
            runs := p.shared.db.runs ++ [row] })
  /-- A call with another request than the accepted one has inserted nothing, and when it
  ends, it has raised. -/
  refused : ∀ i l q, p.threads i = some (l, q) → ∀ key ∈ l.key, ∀ r ∈ p.shared.db.runs,
    r.idempotency = some (createScope, key) →
    r.requestSha256 ≠ env.requestDigest l.payload.dump →
    l.wrote = none ∧ ∀ result, q = .pure result →
      result = .error .idempotencyConflict ∨ result = .error .runError ∨
        (result = .error .invalidRunQuery ∧ keyPattern key = false)

/-- Under one key there is one run. -/
theorem holds_unique {s : Sys σ} (hs : s.Sound env) {key : String} {k k' : Option String}
    (hk : key ∈ k) (hk' : key ∈ k') {digest digest' : String} {row row' : Run}
    (h : s.Holds k digest row) (h' : s.Holds k' digest' row') :
    row'.fixed = row.fixed ∧ digest' = digest := by
  obtain ⟨r, hr, hfixed, hkey, rfl⟩ := h
  obtain ⟨r', hr', hfixed', hkey', rfl⟩ := h'
  obtain rfl := hs.store.keys.idempotency r hr r' hr' _ (hkey key hk) (hkey' key hk')
  exact ⟨hfixed'.symm.trans hfixed, rfl⟩

theorem dump_inj {a b : IncidentRequest} (h : a.dump = b.dump) : a = b := by
  cases a
  cases b
  simpa [IncidentRequest.dump] using h

/-- **Acceptance is idempotent under races**: for any number of calls, in any interleaving with
each other and with the rest of the system, whichever of their steps fail. -/
theorem Reachable.accepted_once (hp : p.Reachable env) : p.AcceptedOnce env := by
  have hholds := hp.holds
  have hsound : p.shared.Sound env := hholds.inv
  have hwrote := hp.wrote
  have hpost : ∀ i l result, p.threads i = some (l, .pure result) →
      Accepting.Post env result p.shared l := fun i l result hi =>
    hholds.threads i l _ hi p.shared (.refl _) hsound
  refine ⟨fun key r hr q hq hrk hqk => hsound.store.keys.idempotency r hr q hq _ hrk hqk,
    fun key r hr _ => ?_, fun i l row hi key hkey => ?_, fun i l row j m row' hi hj key hl hm => ?_,
    fun i l q row j m q' row' hi hj hrow hrow' key hl hm => ?_, fun i c answer p' hnext => ?_,
    fun i l q hi key hkey r hr hrk hne => ⟨?_, fun result hq => ?_⟩⟩
  · obtain ⟨i, hi, hid⟩ := hsound.store.history.homes r hr
    exact ⟨i, hi, hid, fun j hj hjd => hsound.store.keys.incidents.eq_of_key hj hi (hjd.trans hid.symm)⟩
  · obtain ⟨r, hr, hfixed, hrk, hsha⟩ := hpost i l _ hi
    exact ⟨r, hr, hrk key hkey, hfixed, hsha⟩
  · obtain ⟨hfixed, hdigest⟩ := holds_unique hsound hl hm (hpost i l _ hi) (hpost j m _ hj)
    exact ⟨column_eq hfixed Run.runId fun _ => rfl, column_eq hfixed Run.incidentId fun _ => rfl,
      fun hinj => dump_inj (hinj hdigest)⟩
  · obtain ⟨hrun, hincident, hrowholds⟩ := hwrote i l q hi row hrow
    obtain ⟨hrun', hincident', hrowholds'⟩ := hwrote j m q' hj row' hrow'
    obtain ⟨hfixed, -⟩ := holds_unique hsound hl hm hrowholds hrowholds'
    have hsame : row'.runId = row.runId := column_eq hfixed Run.runId fun _ => rfl
    refine ⟨hsame, hrun'.symm.trans (hsame.trans hrun), hincident'.symm.trans (.trans ?_ hincident)⟩
    exact column_eq hfixed Run.incidentId fun _ => rfl
  · obtain ⟨l, q, k, l', hthread, hperform, -, -, -, hthreads⟩ := hholds.step hnext
    refine ⟨l, _, l', _, hthread, by rw [hthreads]; simp; rfl, ?_⟩
    rcases perform_cases hperform with ⟨hsame, rfl⟩ | ⟨tx, row, -, hok, rfl⟩
    · exact Or.inl ⟨by rw [hsame], rfl⟩
    · refine Or.inr ⟨tx, row, hok, rfl, ?_⟩
      obtain ⟨-, rfl, hinsert⟩ := accept_eq_ok hok
      obtain ⟨hfree, -, hdb⟩ := Db.insertRun_eq_ok hinsert
      refine ⟨fun key hkey r hr hrk => hfree (createScope, key) ?_ r hr hrk, hdb⟩
      rw [Option.mem_def] at hkey ⊢
      simp [Run.first, hkey]
  · by_contra hsome
    obtain ⟨row, hrow⟩ := Option.ne_none_iff_exists'.1 hsome
    obtain ⟨-, -, r', hr', -, hrk', hsha⟩ := hwrote i l q hi row hrow
    obtain rfl := hsound.store.keys.idempotency r hr r' hr' _ hrk (hrk' key hkey)
    exact hne hsha
  · subst hq
    cases result with
    | ok row =>
      obtain ⟨r', hr', -, hrk', hsha⟩ := hpost i l _ hi
      obtain rfl := hsound.store.keys.idempotency r hr r' hr' _ hrk (hrk' key hkey)
      exact absurd hsha hne
    | error e =>
      rcases hpost i l _ hi with rfl | ⟨rfl, k, hk, hbad⟩ | ⟨rfl, -⟩
      · exact Or.inr (Or.inl rfl)
      · exact Or.inr (Or.inr ⟨rfl, Option.mem_unique hk hkey ▸ hbad⟩)
      · exact Or.inl rfl

/-! ### A race -/

/-- A call with the key `k-1`. -/
def call (name serviceName : String) : Accepting where
  name := name
  incidentId := "incident-" ++ name
  runId := "run-" ++ name
  threadId := "thread-" ++ name
  payload := ⟨"default", serviceName, "Checkout is slow"⟩
  key := some "k-1"
  dialogue := true
  wrote := none

/-- A step of a call that finds no row. -/
def unseen (name : String) (fault : Fault) : Acceptance σ → List (AcceptanceEvent σ) :=
  fun p => [.step name ⟨0, p.shared.now, default, fault⟩ fun
    | .byKey _ => (some none : Option (Option Run))
    | .insert => (.duplicate : Insertion)]

/-- A step of a call, with the answer that the store has for it. -/
def answered (env : Env) (name : String) (fault : Fault) :
    Acceptance σ → List (AcceptanceEvent σ) := fun p =>
  let l := ((p.threads name).map Prod.fst).getD default
  [.step name ⟨0, p.shared.now, default, fault⟩ fun
    | .byKey key => (some (p.shared.db.runByKey? createScope key) : Option (Option Run))
    | .insert => (Accepting.insertion p.shared l fault (l.transact env
        (p.shared.tx ⟨0, l.request⟩ p.shared.now default) p.shared.db)).1]

/-- Three calls find the key free. One of them inserts the incident and the run; the insertions
of the others meet the constraint, and they read the key again. -/
def raced : List (Acceptance σ → List (AcceptanceEvent σ)) :=
  [fun _ => [.move (.elapse 1)],
    fun _ => [.spawn "a" (call "a" "checkout"), .spawn "b" (call "b" "checkout"),
      .spawn "c" (call "c" "cart")],
    unseen "a" .none, unseen "b" .none, unseen "c" .none,
    answered .plain "b" .none, answered .plain "a" .none, answered .plain "a" .none,
    answered .plain "c" .none, answered .plain "c" .none]

/-- What a call has returned: the run, or the error that it has raised. -/
def outcome (p : Acceptance σ) (name : String) : Option (Except Failure String) :=
  match p.threads name with
  | some (_, .pure result) => some (result.map Run.runId)
  | _ => none

/-- Whether two calls have returned a run, and a third has raised the conflict. -/
def settled (p : Acceptance σ) : Bool :=
  (match p.outcome "a", p.outcome "b", p.outcome "c" with
    | some (.ok a), some (.ok b), some (.error .idempotencyConflict) => a == "run-b" && b == "run-b"
    | _, _, _ => false) && p.shared.db.incidents.length == 1 && p.shared.db.runs.length == 1

theorem accepted_once_raced : ∃ p : Acceptance Unit, p.Reachable .plain ∧ p.settled = true ∧
    p.AcceptedOnce .plain := by
  obtain ⟨p, -, hp, hsettled⟩ := Transition.exists_reachable (Accepting.threads .plain).next
    (Threads.idle (Sys.start Unit)) raced (fun p : Acceptance Unit => p.settled = true)
    (by decide +kernel)
  exact ⟨p, hp, hsettled, Reachable.accepted_once hp⟩

end Acceptance

end IncidentAgent
