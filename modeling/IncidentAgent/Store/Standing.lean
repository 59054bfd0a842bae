import IncidentAgent.Store.History

/-!
# What the controls of an incident stand on

A control to investigate is *pending* until the diagnosis it stands on has ended; then it is
started, or superseded by what came in between. `Db.Standing` says that an incident has at
most one pending control, that a pending one stands on a diagnosis that is there and has a
message to answer, that a round with the key of a pending control can only be a later one,
and that a started control has its child. It is an invariant of edits
(`Db.Edit.standing`).
-/

namespace IncidentAgent

variable {env : Env} {tx : Tx} {quiet : Bool} {db db' : Db}

/-- **What the controls stand on.** -/
structure Db.Standing (db : Db) : Prop where
  rooted : ∀ c ∈ db.controls, ∃ r ∈ db.runs, r.runId = c.parentRunId
  /-- A client gives each of its requests its own identifier. -/
  receipts : ∀ c ∈ db.controls, ∀ d ∈ db.controls, c.incidentId = d.incidentId →
    c.clientMessageId = d.clientMessageId → c = d
  alone : ∀ c ∈ db.controls, ∀ d ∈ db.controls, c.status = .pending → d.status = .pending →
    c.incidentId = d.incidentId → c = d
  stands : ∀ c ∈ db.controls, c.status = .pending → c.Stands db
  /-- A round that a client named after a pending control has overtaken it. -/
  overtaken : ∀ c ∈ db.controls, c.status = .pending → ∀ r ∈ db.runs,
    r.idempotency = some c.key → ∃ p ∈ db.runs, p.runId = c.parentRunId ∧
      p.createdAt < r.createdAt
  launched : ∀ c ∈ db.controls, c.status = .started → c.Launched db

theorem Db.standing_empty : Db.empty.Standing :=
  ⟨by simp [Db.empty], by simp [Db.empty], by simp [Db.empty], by simp [Db.empty],
    by simp [Db.empty], by simp [Db.empty]⟩

theorem Control.Advances.key {a b : Control} (h : a.Advances b) : b.key = a.key :=
  column_eq h.fixed Control.key fun _ => rfl

/-- What a control stands on stays. -/
theorem Control.Stands.edit {c : Control} (hc : c.Stands db) (h : Db.Edit env tx quiet db db') :
    c.Stands db' := by
  obtain ⟨hresult, hparent⟩ := hc
  refine ⟨hresult, h.exists_run (P := fun p => p.incidentId = c.incidentId ∧
    p.runKind = .diagnosis ∧ ∃ m ∈ db'.messages, m.incidentId = c.incidentId ∧ m.role = .user ∧
      p.inputMessageSequence.getD 0 < m.sequence) (fun a b hab hp => ?_) ?_⟩
  · rwa [column_eq hab Run.incidentId fun _ => rfl, column_eq hab Run.runKind fun _ => rfl,
      column_eq hab Run.inputMessageSequence fun _ => rfl]
  · obtain ⟨p, hp, hid, hinc, hkind, m, hm, hmessage⟩ := hparent
    exact ⟨p, hp, hid, hinc, hkind, m, h.message_mem hm, hmessage⟩

/-- The child of a control stays its child. -/
theorem Control.Launched.edit {c : Control} (hc : c.Launched db)
    (h : Db.Edit env tx quiet db db') : c.Launched db' := by
  obtain ⟨r, hr, hkey, hparent, action, hresult⟩ := hc
  obtain ⟨r', hr', hadv⟩ := h.run_of_mem hr
  refine ⟨r', hr', hadv.idempotency.trans hkey, ?_, action, ?_⟩
  · rw [column_eq hadv.fixed Run.parentRunId fun _ => rfl, hparent]
  · rw [hadv.runId, hresult]

/-- A round with the key of a control that is inserted by an edit is later than what the
control stands on. -/
theorem Db.Opens.after (hs : db.History env) {c : Control} (hc : c.Stands db) {r : Run}
    (h : db.Opens env tx r) (hkey : r.idempotency = some c.key) :
    ∃ p ∈ db.runs, p.runId = c.parentRunId ∧ p.createdAt < r.createdAt := by
  obtain ⟨-, p, hp, hid, hinc, hkind, -⟩ := hc
  refine ⟨p, hp, hid, ?_⟩
  cases h with
  | first _ =>
    obtain ⟨_, -, he⟩ := Option.map_eq_some_iff.1 hkey
    exact absurd (Prod.mk.inj he).1 (createScope_ne c.incidentId)
  | @round incident message key context hround =>
    obtain ⟨hscope, -⟩ := Prod.mk.inj (Option.some.inj hkey)
    have hlane : p ∈ db.lane incident.incidentId :=
      Db.mem_lane.2 ⟨hp, hinc.trans (roundScope_inj hscope).symm, hkind⟩
    cases hlatest : db.latest incident.incidentId with
    | none =>
      rw [hs.latest_eq, List.getLast?_eq_none_iff] at hlatest
      simp [hlatest] at hlane
    | some latest =>
      calc p.createdAt ≤ latest.createdAt := (hs.le_latest hlatest hlane).1
        _ < tx.start := hround.older latest hlatest
  | interaction _ _ _ _ _ hscope _ _ => exact absurd hkey (hscope c.incidentId _)

/-- **Edits keep what the controls stand on.** -/
theorem Db.Edit.standing (h : Db.Edit env tx quiet db db') (hs : db.History env)
    (hc : db.Standing) : db'.Standing where
  rooted c' hc' := by
    have hold : ∃ r ∈ db.runs, r.runId = c'.parentRunId ∧ True := by
      rcases h.grows.controls.cases_of_mem hc' with ⟨c, hmem, hadv⟩ | ⟨hnew, -⟩
      · obtain ⟨r, hr, hid⟩ := hc.rooted c hmem
        exact ⟨r, hr, hid.trans (column_eq hadv.fixed Control.parentRunId fun _ => rfl).symm, trivial⟩
      · obtain ⟨r, hr, hid⟩ := hnew.constraints.2.2.2
        exact ⟨r, hr, hid, trivial⟩
    obtain ⟨r, hr, hid, -⟩ := h.exists_run (fun _ _ _ h => h) hold
    exact ⟨r, hr, hid⟩
  receipts c' hc' d' hd' hinc hclient := by
    refine (h.keys hs.keys).controls.eq_of_key hc' hd' ?_
    have hincident : ∀ {a b : Control}, a.Advances b → b.incidentId = a.incidentId :=
      fun hadv => column_eq hadv.fixed Control.incidentId fun _ => rfl
    have hmessage : ∀ {a b : Control}, a.Advances b → b.clientMessageId = a.clientMessageId :=
      fun hadv => column_eq hadv.fixed Control.clientMessageId fun _ => rfl
    rcases h.grows.controls.cases_of_mem hc' with ⟨c, hmem, hadv⟩ | ⟨hnew, -⟩ <;>
      rcases h.grows.controls.cases_of_mem hd' with ⟨d, hmem', hadv'⟩ | ⟨hnew', -⟩
    · rw [hincident hadv, hincident hadv'] at hinc
      rw [hmessage hadv, hmessage hadv'] at hclient
      rw [hadv.controlId, hadv'.controlId, hc.receipts c hmem d hmem' hinc hclient]
    · rw [hincident hadv] at hinc
      rw [hmessage hadv] at hclient
      exact absurd hclient ((hnew'.constraints.1 c hmem).2 hinc)
    · rw [hincident hadv'] at hinc
      rw [hmessage hadv'] at hclient
      exact absurd hclient.symm ((hnew.constraints.1 d hmem').2 hinc.symm)
    · exact hnew.drawn.trans hnew'.drawn.symm
  alone c' hc' d' hd' hpc hpd hinc := by
    refine (h.keys hs.keys).controls.eq_of_key hc' hd' ?_
    rcases h.grows.controls.cases_of_mem hc' with ⟨c, hmem, hadv⟩ | ⟨hnew, -⟩ <;>
      rcases h.grows.controls.cases_of_mem hd' with ⟨d, hmem', hadv'⟩ | ⟨hnew', -⟩
    · obtain rfl := hadv.pending hpc
      obtain rfl := hadv'.pending hpd
      rw [hc.alone _ hmem _ hmem' hpc hpd hinc]
    · obtain rfl := hadv.pending hpc
      exact absurd hpc (hnew'.alone hpd _ hmem hinc)
    · obtain rfl := hadv'.pending hpd
      exact absurd hpd (hnew.alone hpc _ hmem' hinc.symm)
    · exact hnew.drawn.trans hnew'.drawn.symm
  stands c' hc' hpc := by
    rcases h.grows.controls.cases_of_mem hc' with ⟨c, hmem, hadv⟩ | ⟨hnew, -⟩
    · obtain rfl := hadv.pending hpc
      exact (hc.stands _ hmem hpc).edit h
    · exact (hnew.stands hpc).edit h
  overtaken c' hc' hpc r' hr' hkey := by
    have hold : ∃ p ∈ db.runs, p.runId = c'.parentRunId ∧ p.createdAt < r'.createdAt := by
      rcases h.grows.controls.cases_of_mem hc' with ⟨c, hmem, hadv⟩ | ⟨hnew, hruns⟩
      · obtain rfl := hadv.pending hpc
        rcases h.run_cases hr' with ⟨r, hr, hadv⟩ | ⟨hopens, -⟩
        · rw [hadv.createdAt]
          exact hc.overtaken _ hmem hpc r hr (hadv.idempotency.symm.trans hkey)
        · exact hopens.after hs (hc.stands _ hmem hpc) hkey
      · exact absurd hkey (hnew.unnamed r' (hruns ▸ hr'))
    refine h.exists_run (P := fun p => p.createdAt < r'.createdAt) (fun a b hab hp => ?_) hold
    rwa [column_eq hab Run.createdAt fun _ => rfl]
  launched c' hc' hstarted := by
    have hold : ∀ c ∈ db.controls, c.status = .started → c.Launched db' := fun c hmem hst =>
      (hc.launched c hmem hst).edit h
    cases h with
    | @controls p f h hst =>
      obtain ⟨c, hmem, rfl⟩ := Table.mem_updateWhere.1 hc'
      by_cases hp : p c = true
      · simp only [hp, if_true] at hstarted ⊢
        exact hst c hmem hp hstarted
      · simp only [hp] at hstarted ⊢
        exact hold c hmem hstarted
    | control h =>
      rcases List.mem_append.1 hc' with hmem | hmem
      · exact hold c' hmem hstarted
      · rw [List.mem_singleton.1 hmem] at hstarted
        exact absurd hstarted h.unstarted
    | side h =>
      obtain ⟨⟨_, _, _, _, rfl⟩, -⟩ := h
      exact hold c' hc' hstarted
    | _ => exact hold c' hc' hstarted

/-- **A pending control whose parent is still the latest diagnosis has no round yet.** -/
theorem Db.Standing.unnamed (hc : db.Standing) (hs : db.History env) {c : Control}
    (hmem : c ∈ db.controls) (hpending : c.status = .pending) {latest : Run}
    (hlatest : db.latest c.incidentId = some latest) (hparent : latest.runId = c.parentRunId) :
    ∀ r ∈ db.runs, r.idempotency ≠ some c.key := by
  intro r hr hkey
  obtain ⟨p, hp, hid, hlt⟩ := hc.overtaken c hmem hpending r hr hkey
  obtain ⟨hinc, id, hsource, -⟩ := hs.rounds r hr _ _ hkey
  have hkind := (hs.sources r hr id hsource).1
  have hle := (hs.le_latest hlatest (Db.mem_lane.2 ⟨hr, hinc, hkind⟩)).1
  have heq : p = latest := hs.keys.runs.eq_of_key hp
    (Db.mem_lane.1 (Db.mem_lane_of_latest hlatest)).1 (hid.trans hparent.symm)
  subst heq
  omega

end IncidentAgent
