import IncidentAgent.System.Invariant

/-!
# What has ended stays as it ended

A dozen statements update the table of runs. Whatever happens after a state, a run that had
ended there keeps its status and is claimed by nobody, and what was published of it – its
output, the decision of a human, its input and its context – is what it was
(`Sys.Reachable.frozen`). The growth of the table says so of the columns
(`Run.Advances.kept`); that nobody claims what has ended is the `WHERE` clause of a claim.
-/

namespace IncidentAgent

/-- **What a later row keeps of an earlier one**: the status it ended with, the output and the
approval that were set, the input and the context with their digests. -/
structure Run.Kept (a b : Run) : Prop where
  status : a.status.terminal = true → b.status = a.status
  output : a.outputSnapshot ≠ none → b.outputSnapshot = a.outputSnapshot
  approval : a.approvalPayload ≠ none → b.approvalPayload = a.approvalPayload
  input : b.inputPayload = a.inputPayload ∧ b.inputSha256 = a.inputSha256
  context : b.contextSnapshot = a.contextSnapshot ∧ b.contextSha256 = a.contextSha256
  request : b.requestSha256 = a.requestSha256

/-- A value that is set stays what it is, if each of its members stays one. -/
theorem eq_of_mem_imp {α : Type} {a b : Option α} (h : ∀ x ∈ a, x ∈ b) (ha : a ≠ none) : b = a := by
  obtain ⟨x, hx⟩ := Option.ne_none_iff_exists'.1 ha
  rw [hx]
  exact h x hx

/-- **A row that advances keeps what it has to.** -/
theorem Run.Advances.kept {now : Nat} {a b : Run} (h : a.Advances now b) : a.Kept b where
  status := h.ended
  output := eq_of_mem_imp h.published
  approval := eq_of_mem_imp h.approved
  input := ⟨column_eq h.fixed Run.inputPayload fun _ => rfl,
    column_eq h.fixed Run.inputSha256 fun _ => rfl⟩
  context := ⟨column_eq h.fixed Run.contextSnapshot fun _ => rfl,
    column_eq h.fixed Run.contextSha256 fun _ => rfl⟩
  request := column_eq h.fixed Run.requestSha256 fun _ => rfl

/-- What may be claimed has not ended. -/
theorem Run.claimable_open {r : Run} {now : Nat} (h : r.claimable now) :
    r.status.terminal = false := by
  rcases h with h | ⟨h, -⟩ | ⟨h, -⟩ <;> rw [h] <;> rfl

namespace Sys

variable {σ : Type} {env : Env} {s s' : Sys σ}

/-- A lease is granted on a run that has not ended. -/
theorem Sound.granted_open (h : s.Sound env) {request : Request} {lease : Lease}
    (hc : s.Commits env request (.lease (some lease)) s') :
    ∀ r ∈ s.db.runs, r.runId = lease.row.runId → r.status.terminal = false := by
  intro r hr hid
  obtain ⟨tx, skipped, -, -, -, hok⟩ := h.of_commits hc
  obtain ⟨row, hrow, owner, seconds, recoveryOnly, hclaim, -, rfl, -⟩ := transact_lease hok
  have hsame : r = row := h.store.keys.runs.eq_of_key hr hrow hid
  exact hsame ▸ Run.claimable_open hclaim

/-- **Published facts are frozen.** What holds of the runs of a state in every later one. -/
structure Frozen (env : Env) (s : Sys σ) : Prop where
  /-- A row is there for good, and keeps what it has to. -/
  kept : ∀ es s', Transition.run (next env) s es = some s' →
    ∀ r ∈ s.db.runs, ∃ r' ∈ s'.db.runs, r'.runId = r.runId ∧ r.Kept r' ∧
      ∀ q ∈ s'.db.runs, q.runId = r.runId → q = r'
  /-- Nobody claims a run that has ended. -/
  unclaimed : ∀ es s', Transition.run (next env) s es = some s' →
    ∀ r ∈ s.db.runs, r.status.terminal = true →
      ∀ request lease s'', s'.Commits env request (.lease (some lease)) s'' →
        lease.row.runId ≠ r.runId

/-- **Terminal runs are absorbing and published facts are frozen**, from every reachable
state. -/
theorem Reachable.frozen (hs : s.Reachable env) : s.Frozen env where
  kept := by
    intro es s' hrun r hr
    obtain ⟨hs', -, hlater⟩ := hs.sound.run hrun
    obtain ⟨r', hr', hadv⟩ := hlater.runs r hr
    refine ⟨r', hr', hadv.runId, hadv.kept, fun q hq hid => ?_⟩
    exact hs'.store.keys.runs.eq_of_key hq hr' (hid.trans hadv.runId.symm)
  unclaimed := by
    intro es s' hrun r hr hended request lease s'' hc hid
    obtain ⟨hs', -, hlater⟩ := hs.sound.run hrun
    obtain ⟨r', hr', hadv⟩ := hlater.runs r hr
    have hopen := hs'.granted_open hc r' hr' (hadv.runId.trans hid.symm)
    rw [hadv.ended hended, hended] at hopen
    cases hopen

/-- The diagnosis is published by its worker. -/
def published : List (Sys σ → List (Event σ)) :=
  [ask (fun s => .finish s.lease .succeeded
    ⟨some "verification_succeeded", none, none, some (.obj []), none, none⟩) default]

theorem frozen_published : ∃ s : Sys Unit, s.Reachable .plain ∧
    s.db.runs.map (fun r => (r.status, r.outputSnapshot)) = [(.succeeded, some (.obj []))] ∧
      s.Frozen .plain := by
  obtain ⟨s, -, hs, hrows⟩ := Transition.exists_reachable (next .plain) (start Unit)
    (opening ++ published)
    (fun s => s.db.runs.map (fun r => (r.status, r.outputSnapshot)) =
      [(.succeeded, some (.obj []))])
    (by decide +kernel)
  exact ⟨s, hs, hrows, Reachable.frozen hs⟩

end Sys

end IncidentAgent
