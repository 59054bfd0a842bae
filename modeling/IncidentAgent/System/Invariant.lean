import IncidentAgent.System.Steps

/-!
# The invariant of the system

`Sys.Sound` says what holds in every reachable state: the store is sound, every row was
inserted in the past, every lease names a run that is there, and an open transaction is as
its caller opened it, with a parent that is older than the transaction
(`Sys.sound_of_reachable`). So every transaction that is evaluated is ready for it
(`Sys.Sound.ready`), and a step or a run takes the store to a later one (`Db.Later`,
`Sys.later_of_run`).
-/

namespace IncidentAgent

/-! ### Later stores -/

/-- The guarantee on an expiry is stronger at a later moment. -/
theorem Run.Advances.mono {now now' : Nat} {a b : Run} (h : a.Advances now' b)
    (hle : now ≤ now') : a.Advances now b where
  fixed := h.fixed
  epoch := h.epoch
  ended := h.ended
  stopped := h.stopped
  invalidated := h.invalidated
  approved := h.approved
  held he hr := by
    obtain ⟨ha, howner, hexp⟩ := h.held he hr
    refine ⟨ha, howner, hexp.imp_right ?_⟩
    rintro ⟨e, hmem, hlt⟩
    exact ⟨e, hmem, lt_of_le_of_lt hle hlt⟩
  waits := h.waits
  published := h.published
  unpublished := h.unpublished

/-- **A later store** has every row of the earlier one, advanced. -/
structure Db.Later (now : Nat) (db db' : Db) : Prop where
  incidents : ∀ i ∈ db.incidents, ∃ i' ∈ db'.incidents, i.Advances i'
  runs : ∀ r ∈ db.runs, ∃ r' ∈ db'.runs, r.Advances now r'
  messages : ∀ m ∈ db.messages, m ∈ db'.messages
  operations : ∀ o ∈ db.operations, ∃ o' ∈ db'.operations, o.Advances o'
  controls : ∀ c ∈ db.controls, ∃ c' ∈ db'.controls, c.Advances c'
  delayed : ∀ d ∈ db.delayed, ∃ d' ∈ db'.delayed, d.Advances d'

namespace Db.Later

variable {now now' : Nat} {db db' db'' : Db}

theorem refl (now : Nat) (db : Db) : Db.Later now db db where
  incidents i hi := ⟨i, hi, .refl i⟩
  runs r hr := ⟨r, hr, .refl now r⟩
  messages _ hm := hm
  operations o ho := ⟨o, ho, .refl o⟩
  controls c hc := ⟨c, hc, .refl c⟩
  delayed d hd := ⟨d, hd, .refl d⟩

theorem trans (h : Db.Later now db db') (h' : Db.Later now db' db'') : Db.Later now db db'' where
  incidents i hi := by
    obtain ⟨i', hi', hadv⟩ := h.incidents i hi
    obtain ⟨i'', hi'', hadv'⟩ := h'.incidents i' hi'
    exact ⟨i'', hi'', hadv.trans hadv'⟩
  runs r hr := by
    obtain ⟨r', hr', hadv⟩ := h.runs r hr
    obtain ⟨r'', hr'', hadv'⟩ := h'.runs r' hr'
    exact ⟨r'', hr'', hadv.trans hadv'⟩
  messages m hm := h'.messages m (h.messages m hm)
  operations o ho := by
    obtain ⟨o', ho', hadv⟩ := h.operations o ho
    obtain ⟨o'', ho'', hadv'⟩ := h'.operations o' ho'
    exact ⟨o'', ho'', hadv.trans hadv'⟩
  controls c hc := by
    obtain ⟨c', hc', hadv⟩ := h.controls c hc
    obtain ⟨c'', hc'', hadv'⟩ := h'.controls c' hc'
    exact ⟨c'', hc'', hadv.trans hadv'⟩
  delayed d hd := by
    obtain ⟨d', hd', hadv⟩ := h.delayed d hd
    obtain ⟨d'', hd'', hadv'⟩ := h'.delayed d' hd'
    exact ⟨d'', hd'', hadv.trans hadv'⟩

theorem mono (h : Db.Later now' db db') (hle : now ≤ now') : Db.Later now db db' :=
  { h with
    runs := fun r hr => by
      obtain ⟨r', hr', hadv⟩ := h.runs r hr
      exact ⟨r', hr', hadv.mono hle⟩ }

end Db.Later

section Edits

variable {env : Env} {tx : Tx} {quiet : Bool} {db db' : Db}

theorem Db.Edit.later (h : Db.Edit env tx quiet db db') : Db.Later tx.now db db' where
  incidents _ hi := h.grows.incidents.exists_of_mem hi
  runs _ hr := h.run_of_mem hr
  messages _ hm := h.message_mem hm
  operations _ ho := h.grows.operations.exists_of_mem ho
  controls _ hc := h.grows.controls.exists_of_mem hc
  delayed _ hd := h.grows.delayed.exists_of_mem hd

/-- **Edits lead to a later store.** -/
theorem Db.Edits.later (h : Db.Edits env tx quiet db db') : Db.Later tx.now db db' := by
  induction h with
  | refl => exact .refl _ _
  | tail _ h ih => exact ih.trans h.later

/-- A new run carries the start of its transaction. -/
theorem Db.Opens.createdAt {r : Run} (h : db.Opens env tx r) : r.createdAt = tx.start := by
  cases h with
  | first _ => rfl
  | round _ => rfl
  | interaction _ hcreated _ _ _ _ _ _ => exact hcreated

/-- A run that edits leave was there and has advanced, or was inserted by them. -/
theorem Db.Edits.run_cases (h : Db.Edits env tx quiet db db') :
    ∀ r' ∈ db'.runs, (∃ r ∈ db.runs, r.Advances tx.now r') ∨ r'.createdAt = tx.start := by
  induction h with
  | refl => exact fun r hr => Or.inl ⟨r, hr, .refl _ r⟩
  | tail _ h ih =>
    intro r'' hr''
    rcases h.run_cases hr'' with ⟨r', hr', hadv'⟩ | ⟨hopens, -⟩
    · rcases ih r' hr' with ⟨r, hr, hadv⟩ | hnew
      · exact Or.inl ⟨r, hr, hadv.trans hadv'⟩
      · exact Or.inr (hadv'.createdAt.trans hnew)
    · exact Or.inr hopens.createdAt

end Edits

/-! ### Events -/

namespace Sys

variable {σ : Type} {env : Env} {s s' : Sys σ}

/-- **The evaluation of a transaction**: it commits, or raises and leaves the store alone. -/
theorem next_commit {index asked : Nat} {draw : Draw} {skipped : List String}
    (h : next env s (.commit index asked draw skipped) = some s') :
    ∃ t ∈ s.transactions, s.transactions[index]? = some t ∧ t.start ≤ asked ∧ asked ≤ s.now ∧
      s.Fresh draw ∧ s.Unblocked t.request skipped ∧
      ((∃ response db, transact env (s.tx t asked draw) skipped t.request s.db =
          .ok (response, db) ∧ s' = s.committed index response db) ∨
        (∃ e, transact env (s.tx t asked draw) skipped t.request s.db = .error e ∧
          s' = { s with transactions := s.transactions.eraseIdx index })) := by
  simp only [next] at h
  split at h
  · cases h
  · rename_i t ht
    split at h
    · rename_i hguard
      obtain ⟨hstart, hasked, hfresh, hblocked⟩ := hguard
      refine ⟨t, List.mem_of_getElem? ht, ht, hstart, hasked, hfresh, hblocked, ?_⟩
      split at h
      · rename_i response db hok
        exact Or.inl ⟨response, db, hok, (Option.some.inj h).symm⟩
      · rename_i e herr
        exact Or.inr ⟨e, herr, (Option.some.inj h).symm⟩
    · cases h

/-- **A step commits a request** with an answer: an open transaction is evaluated, and
returns. -/
def Commits (env : Env) (s : Sys σ) (request : Request) (response : Response) (s' : Sys σ) :
    Prop :=
  ∃ index asked draw skipped t, next env s (.commit index asked draw skipped) = some s' ∧
    s.transactions[index]? = some t ∧ t.request = request ∧
    transact env (s.tx t asked draw) skipped request s.db = .ok (response, s'.db)

/-- **An event leaves the store alone**, or evaluates an open transaction that returns. -/
theorem next_cases {e : Event σ} (h : next env s e = some s') :
    s'.db = s.db ∨ ∃ index asked draw skipped t response, e = .commit index asked draw skipped ∧
      s.transactions[index]? = some t ∧
      transact env (s.tx t asked draw) skipped t.request s.db = .ok (response, s'.db) := by
  cases e with
  | commit index asked draw skipped =>
    obtain ⟨t, -, ht, -, -, -, -, ⟨response, db, hok, rfl⟩ | ⟨_, -, rfl⟩⟩ := next_commit h
    · exact Or.inr ⟨index, asked, draw, skipped, t, response, rfl, ht, hok⟩
    · exact Or.inl rfl
  | elapse duration => exact Or.inl (Option.some.inj h ▸ rfl)
  | begin request =>
    simp only [next] at h
    split at h
    · exact Or.inl (Option.some.inj h ▸ rfl)
    · cases h
  | abort index => exact Or.inl (Option.some.inj h ▸ rfl)
  | hold lease asked =>
    simp only [next] at h
    split at h
    · split at h
      · exact Or.inl (Option.some.inj h ▸ rfl)
      · cases h
    · cases h
  | write lease value =>
    simp only [next] at h
    split at h
    · exact Or.inl (Option.some.inj h ▸ rfl)
    · cases h
  | release lease => exact Or.inl (Option.some.inj h ▸ rfl)

/-- **A step that commits no request leaves the store alone.** -/
theorem next_db {e : Event σ} (h : next env s e = some s') :
    s'.db = s.db ∨ ∃ request response, s.Commits env request response s' := by
  rcases next_cases h with hdb | ⟨index, asked, draw, skipped, t, response, rfl, ht, hok⟩
  · exact Or.inl hdb
  · exact Or.inr ⟨t.request, response, index, asked, draw, skipped, t, h, ht, rfl, hok⟩

/-- Only a claim grants a lease, to a run that it claims. -/
theorem transact_lease {tx : Tx} {skipped : List String} {request : Request} {db db' : Db}
    {lease : Lease} (h : transact env tx skipped request db = .ok (.lease (some lease), db')) :
    ∃ row ∈ db.runs, ∃ owner seconds recoveryOnly, row.claimable tx.now ∧
      row.runId ∉ skipped ∧
      lease = ⟨row.claimed owner seconds recoveryOnly tx.now, recoveryOnly⟩ ∧
      db' = db.updateRun row.runId (Run.claimed owner seconds recoveryOnly tx.now) := by
  cases request <;> simp only [transact, map_eq_ok, Prod.mk.injEq, reduceCtorEq, false_and,
    and_false, exists_false, Except.ok.injEq] at h
  case claim owner seconds maxAttempts =>
    obtain ⟨hlease, rfl⟩ := h
    rcases claim_cases (Prod.mk.eta (p := claim tx owner seconds maxAttempts skipped db)).symm with
      ⟨hnone, -⟩ | ⟨row, hrow, recoveryOnly, hclaim, hskip, hsome, hdb⟩
    · simp [hnone] at hlease
    · rw [hsome] at hlease
      cases hlease
      exact ⟨row, hrow, owner, seconds, recoveryOnly, hclaim, hskip, rfl, hdb⟩

/-! ### The invariant -/

/-- What is known of an open transaction. -/
structure Grounded (s : Sys σ) (t : OpenTx) : Prop where
  begun : t.start < s.now
  proper : t.request.Proper
  granted : ∀ lease ∈ t.request.lease?, lease ∈ s.leases
  parent : ∀ p ∈ t.request.parent? s.db, ∃ r ∈ s.db.runs, r.runId = p ∧ r.createdAt < t.start
  control : ∀ id, t.request = .activateControl id → ∃ c ∈ s.db.controls, c.controlId = id

/-- **The invariant of the system.** -/
structure Sound (env : Env) (s : Sys σ) : Prop where
  store : s.db.Sound env
  past : ∀ r ∈ s.db.runs, r.createdAt < s.now
  leases : ∀ lease ∈ s.leases, ∃ r ∈ s.db.runs, r.fixed = lease.row.fixed ∧
    lease.row.leaseEpoch ≤ r.leaseEpoch
  grounded : ∀ t ∈ s.transactions, s.Grounded t

theorem sound_start : (start σ).Sound env :=
  ⟨Db.sound_empty env, by simp [start, Db.empty], by simp [start], by simp [start]⟩

/-- The row of a granted lease. -/
theorem Sound.leased (h : s.Sound env) {lease : Lease} (hl : lease ∈ s.leases) :
    ∀ r ∈ s.db.runs, r.runId = lease.row.runId →
      r.fixed = lease.row.fixed ∧ lease.row.leaseEpoch ≤ r.leaseEpoch := by
  intro r hr hid
  obtain ⟨q, hq, hfixed, hepoch⟩ := h.leases lease hl
  have hrq : r = q := h.store.keys.runs.eq_of_key hr hq
    (hid.trans (column_eq hfixed Run.runId fun _ => rfl).symm)
  exact hrq ▸ ⟨hfixed, hepoch⟩

/-- **An open transaction is ready to be evaluated.** -/
theorem Sound.ready (h : s.Sound env) {t : OpenTx} (ht : t ∈ s.transactions) {asked : Nat}
    {draw : Draw} (hfresh : s.Fresh draw) : t.request.Ready (s.tx t asked draw) s.db where
  leased lease hl r hr hid := (h.leased ((h.grounded t ht).granted lease hl) r hr hid).1
  proper := (h.grounded t ht).proper
  prior p hp r hr hid := by
    obtain ⟨q, hq, hqid, hlt⟩ := (h.grounded t ht).parent p hp
    rwa [h.store.keys.runs.eq_of_key hr hq (hid.trans hqid.symm)]
  unnamed r hr i he := (hfresh.1 r hr _ he).1 rfl
  unborn r hr i he := (hfresh.1 r hr _ he).2 rfl

/-- A transaction that commits leads to a sound and later store. -/
theorem Sound.edits (h : s.Sound env) {t : OpenTx} (ht : t ∈ s.transactions) {asked : Nat}
    {draw : Draw} {skipped : List String} (hfresh : s.Fresh draw) {response : Response} {db : Db}
    (hok : transact env (s.tx t asked draw) skipped t.request s.db = .ok (response, db)) :
    Db.Edits env (s.tx t asked draw) t.request.quiet s.db db :=
  transact_edits h.store (h.ready ht hfresh) hok

/-- **A committed request** was ready, and was evaluated now. -/
theorem Sound.of_commits (h : s.Sound env) {request : Request} {response : Response}
    (hc : s.Commits env request response s') :
    ∃ tx skipped, tx.now = s.now ∧ request.Ready tx s.db ∧ s.Unblocked request skipped ∧
      transact env tx skipped request s.db = .ok (response, s'.db) := by
  obtain ⟨index, asked, draw, skipped, t, hnext, ht, rfl, hok⟩ := hc
  obtain ⟨u, hmem, hu, -, -, hfresh, hblocked, -⟩ := next_commit hnext
  have htu : t = u := Option.some.inj (ht.symm.trans hu)
  subst htu
  exact ⟨s.tx t asked draw, skipped, rfl, h.ready hmem hfresh, hblocked, hok⟩

/-- An open transaction stays grounded in a later state. -/
theorem Grounded.mono {t : OpenTx} (h : s.Grounded t) (hs : s.db.Keys) (hs' : s'.db.Keys)
    (hnow : s.now ≤ s'.now) (hleases : ∀ lease ∈ s.leases, lease ∈ s'.leases)
    (hlater : Db.Later s.now s.db s'.db) : s'.Grounded t where
  begun := lt_of_lt_of_le h.begun hnow
  proper := h.proper
  granted lease hl := hleases lease (h.granted lease hl)
  control id hid := by
    obtain ⟨c, hc, rfl⟩ := h.control id hid
    obtain ⟨c', hc', hadv⟩ := hlater.controls c hc
    exact ⟨c', hc', hadv.controlId⟩
  parent p hp := by
    have hold : p ∈ t.request.parent? s.db := by
      have hcontrol := h.control
      revert hp hcontrol
      cases t.request with
      | activateControl id =>
        intro hp hcontrol
        obtain ⟨c, hc, rfl⟩ := hcontrol id rfl
        obtain ⟨c', hc', hadv⟩ := hlater.controls c hc
        have hfind' := hs'.control?_eq hc'
        rw [hadv.controlId] at hfind'
        simp only [Request.parent?, hfind', hs.control?_eq hc, Option.map_some] at hp ⊢
        rwa [column_eq hadv.fixed Control.parentRunId fun _ => rfl] at hp
      | _ => exact fun hp _ => hp
    obtain ⟨r, hr, rfl, hlt⟩ := h.parent p hold
    obtain ⟨r', hr', hadv⟩ := hlater.runs r hr
    exact ⟨r', hr', hadv.runId, hadv.createdAt ▸ hlt⟩

/-- A transaction is grounded when it is opened. -/
theorem Sound.admits (h : s.Sound env) {request : Request} (hadmits : s.Admits request) :
    Grounded { s with now := s.now + 1 } ⟨s.now, request⟩ where
  begun := Nat.lt_succ_self _
  proper := hadmits.2.1
  granted := hadmits.1
  control id hid := by
    cases hid
    exact hadmits.2.2
  parent p hp := by
    obtain ⟨hlease, -, hknown⟩ := hadmits
    have hexists : ∃ r ∈ s.db.runs, r.runId = p := by
      cases request <;> simp only [Request.parent?, reduceCtorEq, Option.mem_def] at hp
      case acceptRound => exact hknown p hp
      case complete lease _ _ _ =>
        obtain ⟨r, hr, hfixed, -⟩ := h.leases lease (hlease lease rfl)
        have hparent : r.parentRunId = lease.row.parentRunId :=
          column_eq hfixed Run.parentRunId fun _ => rfl
        exact h.store.history.parents r hr p (hparent.trans hp)
      case activateControl id =>
        obtain ⟨c, hc, rfl⟩ := Option.map_eq_some_iff.1 hp
        exact h.store.standing.rooted c (Db.mem_of_control? hc).1
    obtain ⟨r, hr, hid⟩ := hexists
    exact ⟨r, hr, hid, h.past r hr⟩

/-- A step that leaves the store and the leases alone keeps the system sound. -/
theorem Sound.frame (h : s.Sound env) (hdb : s'.db = s.db) (hleases : s'.leases = s.leases)
    (hnow : s.now ≤ s'.now)
    (hopen : ∀ t ∈ s'.transactions, t ∈ s.transactions ∨ s'.Grounded t) : s'.Sound env where
  store := hdb ▸ h.store
  past r hr := lt_of_lt_of_le (h.past r (hdb ▸ hr)) hnow
  leases := by
    rw [hdb, hleases]
    exact h.leases
  grounded t ht := by
    rcases hopen t ht with hold | hnew
    · refine (h.grounded t hold).mono h.store.keys (hdb ▸ h.store.keys) hnow (hleases ▸ fun _ => id) ?_
      rw [hdb]
      exact .refl _ _
    · exact hnew

/-- A transaction that commits keeps the system sound. -/
theorem Sound.after (h : s.Sound env) {t : OpenTx} {index asked : Nat}
    (ht : s.transactions[index]? = some t) {draw : Draw} {skipped : List String}
    (hfresh : s.Fresh draw) {response : Response} {db : Db}
    (hok : transact env (s.tx t asked draw) skipped t.request s.db =
      .ok (response, db)) :
    (s.committed index response db).Sound env ∧ Db.Later s.now s.db db := by
  have hmem := List.mem_of_getElem? ht
  have hedits := h.edits hmem hfresh hok
  have hlater : Db.Later s.now s.db db := hedits.later
  have hsound := hedits.sound h.store
  have hleases : ∀ lease ∈ s.leases, lease ∈ (s.committed index response db).leases := by
    intro lease hl
    unfold Sys.committed
    split
    · exact List.mem_cons_of_mem _ hl
    · exact hl
  refine ⟨⟨hsound, fun r hr => ?_, fun lease hl => ?_, fun u hu => ?_⟩, hlater⟩
  · rcases hedits.run_cases r hr with ⟨q, hq, hadv⟩ | hnew
    · exact hadv.createdAt ▸ h.past q hq
    · exact hnew ▸ (h.grounded t hmem).begun
  · have hold : ∀ l ∈ s.leases, ∃ r ∈ db.runs, r.fixed = l.row.fixed ∧
        l.row.leaseEpoch ≤ r.leaseEpoch := by
      intro l hl
      obtain ⟨r, hr, hfixed, hepoch⟩ := h.leases l hl
      obtain ⟨r', hr', hadv⟩ := hlater.runs r hr
      exact ⟨r', hr', hadv.fixed.trans hfixed, hepoch.trans hadv.epoch⟩
    simp only [Sys.committed] at hl
    split at hl
    · rename_i granted
      rcases List.mem_cons.1 hl with rfl | hl
      · obtain ⟨row, hrow, _, _, _, -, -, rfl, hdb⟩ := transact_lease hok
        refine ⟨_, hdb ▸ Table.mem_updateWhere_of_pos hrow (by simp), rfl, le_refl _⟩
      · exact hold lease hl
    · exact hold lease hl
  · refine (h.grounded u (List.mem_of_mem_eraseIdx hu)).mono h.store.keys hsound.keys
      (le_refl _) hleases hlater

/-- **A step keeps the system sound**, and leads to a later store. -/
theorem Sound.step (h : s.Sound env) {e : Event σ} (hnext : next env s e = some s') :
    s'.Sound env ∧ s.now ≤ s'.now ∧ Db.Later s.now s.db s'.db := by
  have hrefl := Db.Later.refl s.now s.db
  cases e with
  | elapse duration =>
    obtain rfl := Option.some.inj hnext
    exact ⟨h.frame rfl rfl (Nat.le_add_right _ _) fun _ ht => Or.inl ht, Nat.le_add_right _ _, hrefl⟩
  | begin request =>
    simp only [next] at hnext
    split at hnext
    · rename_i hadmits
      obtain rfl := Option.some.inj hnext
      refine ⟨h.frame rfl rfl (Nat.le_succ _) fun t ht => ?_, Nat.le_succ _, hrefl⟩
      rcases List.mem_append.1 ht with ht | ht
      · exact Or.inl ht
      · have hground := h.admits hadmits
        rw [List.mem_singleton.1 ht]
        exact Or.inr ⟨hground.begun, hground.proper, hground.granted, hground.parent,
          hground.control⟩
    · cases hnext
  | commit index asked draw skipped =>
    obtain ⟨t, -, ht, -, -, hfresh, -, ⟨response, db, hok, rfl⟩ | ⟨_, -, rfl⟩⟩ := next_commit hnext
    · obtain ⟨hsound, hlater⟩ := h.after ht hfresh hok
      exact ⟨hsound, le_refl _, hlater⟩
    · exact ⟨h.frame rfl rfl (le_refl _) fun _ ht => Or.inl (List.mem_of_mem_eraseIdx ht),
        le_refl _, hrefl⟩
  | abort index =>
    obtain rfl := Option.some.inj hnext
    exact ⟨h.frame rfl rfl (le_refl _) fun _ ht => Or.inl (List.mem_of_mem_eraseIdx ht),
      le_refl _, hrefl⟩
  | hold lease asked =>
    simp only [next] at hnext
    split at hnext
    · split at hnext
      · obtain rfl := Option.some.inj hnext
        exact ⟨h.frame rfl rfl (le_refl _) fun _ ht => Or.inl ht, le_refl _, hrefl⟩
      · cases hnext
    · cases hnext
  | write lease value =>
    simp only [next] at hnext
    split at hnext
    · obtain rfl := Option.some.inj hnext
      exact ⟨h.frame rfl rfl (le_refl _) fun _ ht => Or.inl ht, le_refl _, hrefl⟩
    · cases hnext
  | release lease =>
    obtain rfl := Option.some.inj hnext
    exact ⟨h.frame rfl rfl (le_refl _) fun _ ht => Or.inl ht, le_refl _, hrefl⟩

/-- **Every reachable state is sound.** -/
theorem Reachable.sound (h : Reachable env s) : s.Sound env :=
  Transition.Reachable.invariant sound_start (fun _ _ _ hs hstep => (hs.step hstep).1) h

/-- **A run leads to a sound and later state.** -/
theorem Sound.run (h : s.Sound env) {es : List (Event σ)}
    (hrun : Transition.run (next env) s es = some s') :
    s'.Sound env ∧ s.now ≤ s'.now ∧ Db.Later s.now s.db s'.db := by
  refine Transition.Run.invariant
    (P := fun m : Sys σ => m.Sound env ∧ s.now ≤ m.now ∧ Db.Later s.now s.db m.db) ?_
    ⟨h, le_refl _, .refl _ _⟩ hrun
  rintro m e m' ⟨hm, hnow, hlater⟩ hstep
  obtain ⟨hm', hnow', hlater'⟩ := hm.step hstep
  exact ⟨hm', hnow.trans hnow', hlater.trans (hlater'.mono hnow)⟩

end Sys

end IncidentAgent
