import IncidentAgent.System.Lanes
import IncidentAgent.System.Outputs

/-!
# The publication of an interaction

`complete` ends an interaction and publishes it in one transaction: it releases the lane,
may open the round of a child, may append the reply of the assistant, and writes the output
that names the child. Each of the repositories it calls on the way can refuse, and then the
transaction has changed nothing.

Nothing else writes the output of an interaction (`transact_unpublished`) or a message of the
assistant (`transact_appends`), and what has ended is not completed again. So an interaction
has at most one reply and at most one child, and it has a child exactly if its output names
one (`Sys.published_once`). A child is told by the transaction that inserted it: a client may
later ask for a round under the very key of an interaction that has failed, and that round is
nobody's child.
-/

namespace IncidentAgent

/-! ### Children -/

/-- The key of the round that the completion of an interaction opens. -/
def Run.childKey (r : Run) : String × String :=
  (roundScope r.incidentId, "interaction-" ++ r.runId)

/-- No round has the key of an interaction that is active. -/
def Db.Unborn (db : Db) : Prop :=
  ∀ r ∈ db.runs, r.runKind = .interaction → r.active → ∀ q ∈ db.runs,
    q.idempotency ≠ some r.childKey

section Children

variable {env : Env} {tx : Tx} {lease : Lease} {db db' : Db} {output : Json}
  {assistant : Option String} {investigate : Bool}

/-- A round that passed the checks has the key of no active interaction of its incident. -/
theorem RoundAttempt.unborn {incidentId messageId key : String} {parentRunId : Option String}
    {previous : Json} {row : Run}
    (h : RoundAttempt env tx db incidentId messageId key parentRunId previous row) {r : Run}
    (hr : r ∈ db.runs) (hkind : r.runKind = .interaction) (hactive : r.active) :
    row.idempotency ≠ some r.childKey := by
  intro he
  obtain ⟨incident, _, _, hi, -, -, -, hrow⟩ := h.row
  rw [hrow] at he
  obtain ⟨hscope, -⟩ := Prod.mk.inj (Option.some.inj he)
  have hinc : incidentId = r.incidentId :=
    (Db.mem_of_incident? hi).2.symm.trans (roundScope_inj hscope)
  exact (roundAvailable_eq_ok h.available).1 ⟨r, hr, hinc.symm, hkind, hactive⟩

/-- **Only its own completion inserts a run with the key of an active interaction.** -/
theorem Request.Attempts.unborn {request : Request} {db₁ : Db} {row : Run}
    (h : request.Attempts env tx db db₁ row) {r : Run} (hr : r ∈ db.runs)
    (hkind : r.runKind = .interaction) (hactive : r.active)
    (hkey : row.idempotency = some r.childKey) :
    ∃ lease output assistant, request = .complete lease output assistant true ∧
      r.runId = lease.row.runId := by
  cases h with
  | first _ =>
    exfalso
    obtain ⟨k, -, hk⟩ := Option.map_eq_some_iff.1 hkey
    exact createScope_ne _ (Prod.mk.inj hk).1
  | round h => exact absurd hkey (h.unborn hr hkind hactive)
  | @investigation lease output assistant _ _ _ _ _ _ _ h =>
    refine ⟨lease, output, assistant, rfl, ?_⟩
    obtain ⟨_, _, _, -, -, -, -, hrow⟩ := h.row
    rw [hrow] at hkey
    have := congrArg String.toList (Prod.mk.inj (Option.some.inj hkey)).2
    simpa [String.toList_append, String.toList_inj] using this.symm
  | started _ _ _ _ _ h => exact absurd hkey (h.unborn hr hkind hactive)
  | interaction _ _ _ _ _ =>
    exact absurd (Prod.mk.inj (Option.some.inj hkey)).1 (interactionScope_ne _ _)
  | recheck _ _ _ _ _ _ _ => cases hkey

/-- An interaction is inserted under a fresh identifier, and has the key of no round. -/
theorem Request.Attempts.interaction_row {request : Request} {db₁ : Db} {row : Run}
    (h : request.Attempts env tx db db₁ row) (hkind : row.runKind = .interaction) :
    row.runId = tx.runId ∧ ∀ i k, row.idempotency ≠ some (roundScope i, k) := by
  have hround : ∀ {db incidentId messageId key parentRunId previous},
      ¬ RoundAttempt env tx db incidentId messageId key parentRunId previous row := by
    intro _ _ _ _ _ _ hattempt
    obtain ⟨_, _, _, -, -, -, -, rfl⟩ := hattempt.row
    cases hkind
  cases h with
  | first _ => cases hkind
  | round h => exact absurd h hround
  | investigation _ _ _ h => exact absurd h hround
  | started _ _ _ _ _ h => exact absurd h hround
  | interaction _ _ _ _ _ =>
    refine ⟨rfl, fun i k hkey => ?_⟩
    exact interactionScope_ne _ _ (Prod.mk.inj (Option.some.inj hkey)).1
  | recheck _ _ _ _ _ _ _ => exact ⟨rfl, fun i k hkey => (by cases hkey)⟩

/-- A completed interaction has succeeded. -/
theorem complete_status (hk : db.Keys)
    (hlane : ∀ r ∈ db.runs, r.runId = lease.row.runId → r.runKind = .interaction)
    (h : complete env tx lease output assistant investigate db = .ok db') {r' : Run}
    (hr' : r' ∈ db'.runs) (hid : r'.runId = lease.row.runId) (hkind : r'.runKind = .interaction) :
    r'.status = .succeeded := by
  obtain ⟨row, db₁, db₂, output', hrow, hround, happ, rfl⟩ := complete_eq_ok h
  obtain ⟨q, hq, rfl⟩ := Table.mem_updateWhere.1 hr'
  by_cases hsel : q.runId = lease.row.runId
  · rw [if_pos (by simpa using hsel)] at hkind ⊢
    have hqkind : q.runKind = .interaction := hkind
    show q.status = .succeeded
    rw [happ.runs] at hq
    have hrelease : Db.Edits env tx true db (db.updateRun lease.row.runId (Run.released tx.now)) :=
      release_edits hk hrow hlane
    -- The round that is opened leaves the released row alone.
    have hold : q ∈ (db.updateRun lease.row.runId (Run.released tx.now)).runs := by
      rcases openRound_eq_ok hround with ⟨-, -, rfl⟩ | ⟨-, _, _, child, -, hopened, -⟩
      · exact hq
      · rcases acceptRound_runs (hrelease.keys hk) hopened q hq with hold | hdiag
        · exact hold
        · rw [hdiag] at hqkind
          cases hqkind
    obtain ⟨a, ha, rfl⟩ := Table.mem_updateWhere.1 hold
    by_cases hid' : a.runId = lease.row.runId
    · rw [if_pos (by simpa using hid')]
      rfl
    · simp [hid'] at hsel
  · simp [hsel] at hid

/-- **The publication of an interaction as a whole**: the interaction has succeeded, its output
is the one that was computed, with the name of a child that was not there before if it is to
investigate, and the reply is among the messages. -/
structure Db.Publishes (db db' : Db) (lease : Lease) (output : Json) (assistant : Option String)
    (investigate : Bool) : Prop where
  succeeded : ∃ r ∈ db'.runs, r.runId = lease.row.runId ∧ r.status = .succeeded ∧
    ∃ o, r.outputSnapshot = some o ∧ ((investigate = false ∧ o = output) ∨
      (investigate = true ∧ ∃ c ∈ db'.runs, c.runKind = .diagnosis ∧
        (∀ q ∈ db.runs, q.runId ≠ c.runId) ∧
        o = output.withMember "diagnosis_run_id" (.str c.runId)))
  reply : ∀ content ∈ assistant, content ≠ "" → ∃ m ∈ db'.messages,
    m.RepliesTo lease.row.runId ∧ m.content = content

/-- The child of a completion is a new run: under its key there was none. -/
theorem openRound_child {row child : Run} (hu : db.Unborn)
    (hrow : fence tx lease db = .ok row) (hkind : row.runKind = .interaction)
    (hinc : row.incidentId = lease.row.incidentId) {messageId : String} {previous : Json}
    (h : acceptRound env tx lease.row.incidentId messageId ("interaction-" ++ lease.row.runId)
      lease.row.parentRunId previous (db.updateRun lease.row.runId (Run.released tx.now)) =
        .ok (child, db')) :
    child.runKind = .diagnosis ∧ ∀ q ∈ db.runs, q.runId ≠ child.runId := by
  obtain ⟨hmem, hid, -, -, -, hstatus, -⟩ := fence_eq_ok hrow
  rcases acceptRound_eq_ok h with ⟨hreplay, -, -⟩ |
    ⟨incident, message, context, -, -, -, -, -, -, rfl, hinsert⟩
  · exfalso
    have hsome := List.find?_some hreplay
    obtain ⟨q, hq, rfl⟩ := Table.mem_updateWhere.1 (List.mem_of_find?_eq_some hreplay)
    refine hu row hmem hkind (by simp [Run.active, hstatus, RunStatus.terminal]) q hq ?_
    rw [Run.childKey, hid, hinc]
    simp only [decide_eq_true_eq] at hsome
    rw [← hsome]
    split <;> rfl
  · obtain ⟨-, hc, -⟩ := insertRound_eq_ok hinsert
    refine ⟨rfl, fun q hq => ?_⟩
    have hnew := (hc.1 _ (Table.mem_updateWhere.2 ⟨q, hq, rfl⟩)).1
    intro he
    refine hnew (Eq.trans ?_ he)
    split <;> rfl

/-- **A completion that commits has published everything.** -/
theorem complete_publishes (hs : db.History env) (hu : db.Unborn)
    (hready : (Request.complete lease output assistant investigate).Ready tx db)
    (h : complete env tx lease output assistant investigate db = .ok db') :
    db.Publishes db' lease output assistant investigate := by
  have hk := hs.keys
  have hlane : ∀ r ∈ db.runs, r.runId = lease.row.runId → r.runKind = .interaction :=
    fun r hr hid =>
      (column_eq (hready.leased lease rfl r hr hid) Run.runKind fun _ => rfl).trans hready.proper.1
  have hedits : Db.Edits env tx true db db' := complete_edits hs hlane hready.prior h
  have hended : ∀ r' ∈ db'.runs, r'.runId = lease.row.runId → r'.runKind = .interaction →
      r'.status = .succeeded := fun r' hr' => complete_status hk hlane h hr'
  simp only [complete, bind_eq_ok, pure_eq_ok] at h
  obtain ⟨row, hrow, ⟨output', db₁⟩, hround, db₂, hreply, rfl⟩ := h
  obtain ⟨hmem, hid, -, -, -, hstatus, -⟩ := fence_eq_ok hrow
  obtain ⟨r', hr', hadv⟩ := hedits.later.runs row hmem
  have hkind := hlane row hmem hid
  have hid' : r'.runId = lease.row.runId := hadv.runId.trans hid
  refine ⟨⟨r', hr', hid', hended r' hr' hid' (hadv.runKind.trans hkind), output', ?_, ?_⟩,
    (appendReply_tells hreply).2⟩
  · obtain ⟨q, -, rfl⟩ := Table.mem_updateWhere.1 hr'
    by_cases hsel : q.runId = lease.row.runId
    · rw [if_pos (by simpa using hsel)]
    · simp [hsel] at hid'
  · rcases openRound_eq_ok hround with ⟨hfalse, rfl, -⟩ | ⟨htrue, _, _, child, -, hopened, rfl, -⟩
    · exact Or.inl ⟨hfalse, rfl⟩
    · have hinc : row.incidentId = lease.row.incidentId :=
        column_eq (hready.leased lease rfl row hmem hid) Run.incidentId fun _ => rfl
      obtain ⟨hdiag, hnew⟩ := openRound_child hu hrow hkind hinc hopened
      have hborn : child ∈ db₂.runs := (appendReply_eq_ok hreply).runs ▸ acceptRound_mem hopened
      have hne : child.runId ≠ lease.row.runId := fun he => hnew row hmem (hid.trans he.symm)
      refine Or.inr ⟨htrue, child, ?_, hdiag, hnew, rfl⟩
      exact Table.mem_updateWhere_of_not hborn (by simpa using hne)

/-- **A transaction keeps the keys of active interactions unborn.** -/
theorem transact_unborn {skipped : List String} {request : Request} {response : Response}
    (hs : db.Sound env) (hready : request.Ready tx db)
    (h : transact env tx skipped request db = .ok (response, db')) (hu : db.Unborn) :
    db'.Unborn := by
  have hedits := transact_edits hs hready h
  have hk' := (hedits.sound hs).keys
  have hold : ∀ r' ∈ db'.runs, r'.active → ∀ r ∈ db.runs, r.fixed = r'.fixed → r.active := by
    intro r' hr' hactive r hr hfixed
    obtain ⟨q, hq, hadv⟩ := hedits.later.runs r hr
    obtain rfl := hk'.runs.eq_of_key hq hr'
      (hadv.runId.trans (column_eq hfixed Run.runId fun _ => rfl))
    exact hadv.active hactive
  have hchild : ∀ {a b : Run}, a.fixed = b.fixed → a.childKey = b.childKey := by
    intro a b hfixed
    unfold Run.childKey
    rw [column_eq hfixed Run.runId fun _ => rfl, column_eq hfixed Run.incidentId fun _ => rfl]
  intro r' hr' hkind hactive q' hq' hkey
  rcases transact_attempts hs.history.rechecks h with hsame | ⟨db₁, row, db₂, hattempt, -, happend⟩
  · obtain ⟨r, hr, hrf⟩ := List.mem_map.1 (hsame ▸ List.mem_map_of_mem hr' : r'.fixed ∈ _)
    obtain ⟨q, hq, hqf⟩ := List.mem_map.1 (hsame ▸ List.mem_map_of_mem hq' : q'.fixed ∈ _)
    refine hu r hr ((column_eq hrf Run.runKind fun _ => rfl).trans hkind)
      (hold r' hr' hactive r hr hrf) q hq ?_
    rw [hchild hrf, ← hkey]
    exact column_eq hqf Run.idempotency fun _ => rfl
  · have hcases : ∀ a ∈ db'.runs, (∃ b ∈ db.runs, b.fixed = a.fixed) ∨ row.fixed = a.fixed := by
      intro a ha
      have hmem : a.fixed ∈ db.runs.map Run.fixed ++ [row.fixed] :=
        happend ▸ List.mem_map_of_mem ha
      rcases List.mem_append.1 hmem with hin | hin
      · obtain ⟨b, hb, hbf⟩ := List.mem_map.1 hin
        exact Or.inl ⟨b, hb, hbf⟩
      · exact Or.inr (List.mem_singleton.1 hin).symm
    rcases hcases r' hr' with ⟨r, hr, hrf⟩ | hrow
    · have hrkind : r.runKind = .interaction :=
        (column_eq hrf Run.runKind fun _ => rfl).trans hkind
      have hractive := hold r' hr' hactive r hr hrf
      rcases hcases q' hq' with ⟨q, hq, hqf⟩ | hqrow
      · refine hu r hr hrkind hractive q hq ?_
        rw [hchild hrf, ← hkey]
        exact column_eq hqf Run.idempotency fun _ => rfl
      · have hrowkey : row.idempotency = some r.childKey := by
          rw [hchild hrf, ← hkey]
          exact column_eq hqrow Run.idempotency fun _ => rfl
        obtain ⟨lease, output, assistant, rfl, hid⟩ := hattempt.unborn hr hrkind hractive hrowkey
        simp only [transact, map_eq_ok, Prod.mk.injEq] at h
        obtain ⟨db₃, h, -, rfl⟩ := h
        have hended := complete_status hs.keys (fun a ha haid =>
          (column_eq (hready.leased lease rfl a ha haid) Run.runKind fun _ => rfl).trans
            hready.proper.1) h hr' ((column_eq hrf Run.runId fun _ => rfl).symm.trans hid) hkind
        simp [Run.active, hended, RunStatus.terminal] at hactive
    · have hrowkind : row.runKind = .interaction :=
        (column_eq hrow Run.runKind fun _ => rfl).trans hkind
      obtain ⟨hid, hscope⟩ := hattempt.interaction_row hrowkind
      rcases hcases q' hq' with ⟨q, hq, hqf⟩ | hqrow
      · refine hready.unborn q hq r'.incidentId ?_
        rw [← hid, column_eq hrow Run.runId fun _ => rfl]
        exact (column_eq hqf Run.idempotency fun _ => rfl).trans hkey
      · exact hscope _ _ ((column_eq hqrow Run.idempotency fun _ => rfl).trans hkey)

/-- A completion publishes the output of no other interaction. -/
theorem complete_others (hk : db.Keys)
    (hlane : ∀ r ∈ db.runs, r.runId = lease.row.runId → r.runKind = .interaction)
    (h : complete env tx lease output assistant investigate db = .ok db') {r' : Run}
    (hr' : r' ∈ db'.runs) (hne : r'.runId ≠ lease.row.runId) (hkind : r'.runKind = .interaction)
    {o : Json} (ho : o ∈ r'.outputSnapshot) :
    ∃ r ∈ db.runs, r.runKind = .interaction ∧ r.runId = r'.runId ∧ o ∈ r.outputSnapshot := by
  obtain ⟨row, db₁, db₂, output', hrow, hround, happ, rfl⟩ := complete_eq_ok h
  have hedits : Db.Edits env tx true db (db.updateRun lease.row.runId (Run.released tx.now)) :=
    release_edits hk hrow hlane
  have hrelease : db.Unpublished (db.updateRun lease.row.runId (Run.released tx.now)) :=
    .update rfl (fun _ => rfl) fun _ _ _ _ => rfl
  have hopen : db.Unpublished db₁ := by
    rcases openRound_eq_ok hround with ⟨-, -, rfl⟩ | ⟨-, _, _, child, -, hopened, -⟩
    · exact hrelease
    · exact hrelease.trans (acceptRound_unpublished (hedits.keys hk) hopened)
  obtain ⟨q, hq, rfl⟩ := Table.mem_updateWhere.1 hr'
  by_cases hsel : q.runId = lease.row.runId
  · simp [hsel] at hne
  · rw [if_neg (by simpa using hsel)] at hkind ho ⊢
    exact hopen q (happ.runs ▸ hq) hkind o ho

end Children

/-- A member that is set is read back. -/
theorem Json.get?_withMember {v : Json} (hv : v.isObject = true) (key : String) (item : Json) :
    (v.withMember key item).get? key = some item := by
  cases v with
  | obj members =>
    have hnone : (members.filter fun m => m.1 != key).lookup key = none := by
      rw [List.lookup_eq_none_iff]
      intro m hm
      have hne : m.1 ≠ key := by simpa using (List.mem_filter.1 hm).2
      simpa using hne.symm
    show (members.filter (fun m => m.1 != key) ++ [(key, item)]).lookup key = some item
    rw [List.lookup_append, hnone]
    simp
  | _ => cases hv

/-- The output of an interaction names a run as the diagnosis that it has led to. -/
def Run.Names (r : Run) (childId : String) : Prop :=
  ∃ o ∈ r.outputSnapshot, o.get? "diagnosis_run_id" = some (.str childId)

/-! ### In every run of the system -/

/-- **The messages of the assistant are replies**: each to an interaction that has succeeded,
and no two to the same one. -/
structure Db.Replied (db : Db) : Prop where
  reply : ∀ m ∈ db.messages, m.role = .assistant → ∃ r ∈ db.runs, r.runKind = .interaction ∧
    r.status = .succeeded ∧ m.relatedRunId = some r.runId
  single : ∀ m ∈ db.messages, ∀ n ∈ db.messages, ∀ id, m.RepliesTo id → n.RepliesTo id → m = n

namespace Sys

variable {σ : Type} {env : Env} {s s' : Sys σ}

theorem Reachable.unborn (hs : s.Reachable env) : s.db.Unborn := by
  refine Transition.Reachable.invariant_of (P := fun s : Sys σ => s.db.Unborn)
    (by simp [start, Db.empty, Db.Unborn]) (fun s e s' hreach hu hstep => ?_) hs
  have hsound : s.Sound env := Reachable.sound hreach
  rcases next_db hstep with hdb | ⟨request, response, hcommits⟩
  · exact hdb ▸ hu
  · obtain ⟨tx, skipped, -, hready, -, hok⟩ := hsound.of_commits hcommits
    exact transact_unborn hsound.store hready hok hu

theorem Reachable.replied (hs : s.Reachable env) : s.db.Replied := by
  refine Transition.Reachable.invariant_of (P := fun s : Sys σ => s.db.Replied)
    ⟨by simp [start, Db.empty], by simp [start, Db.empty]⟩ (fun s e s' hreach hr hstep => ?_) hs
  have hsound : s.Sound env := Reachable.sound hreach
  have hold : ∀ m ∈ s.db.messages, m.role = .assistant → ∃ r ∈ s'.db.runs,
      r.runKind = .interaction ∧ r.status = .succeeded ∧ m.relatedRunId = some r.runId := by
    intro m hm hrole
    obtain ⟨r, hmem, hkind, hstatus, hrelated⟩ := hr.reply m hm hrole
    obtain ⟨r', hmem', hadv⟩ := (hsound.step hstep).2.2.runs r hmem
    refine ⟨r', hmem', hadv.runKind.trans hkind, ?_, hadv.runId ▸ hrelated⟩
    rw [hadv.ended (by rw [hstatus]; rfl), hstatus]
  rcases next_db hstep with hdb | ⟨request, response, hc⟩
  · exact hdb ▸ hr
  obtain ⟨tx, skipped, -, hready, -, hok⟩ := hsound.of_commits hc
  rcases transact_appends hsound.store.history.rechecks hready hok with ⟨related, htells⟩ |
    ⟨lease, output, assistant, investigate, rfl, htells⟩
  · -- A message of the user is nobody's reply.
    have hback : ∀ m ∈ s'.db.messages, m.role = .assistant → m ∈ s.db.messages := by
      intro m hm hrole
      rcases htells with hsame | ⟨x, hnew, huser, -⟩
      · exact hsame ▸ hm
      · rw [hnew] at hm
        rcases List.mem_append.1 hm with hm | hm
        · exact hm
        · rw [List.mem_singleton.1 hm, huser] at hrole
          cases hrole
    exact ⟨fun m hm hrole => hold m (hback m hm hrole) hrole, fun m hm n hn id hmr hnr =>
      hr.single m (hback m hm hmr.1) n (hback n hn hnr.1) id hmr hnr⟩
  · simp only [transact, map_eq_ok, Prod.mk.injEq] at hok
    obtain ⟨db, hok, -, rfl⟩ := hok
    have hpub := complete_publishes hsound.store.history (Reachable.unborn hreach) hready hok
    obtain ⟨row, _, _, _, hrow, -⟩ := complete_eq_ok hok
    obtain ⟨hmem, hid, -, -, -, hstatus, -⟩ := fence_eq_ok hrow
    -- No reply to the interaction is there yet, since it runs.
    have hnone : ∀ m ∈ s.db.messages, ¬ m.RepliesTo lease.row.runId := by
      rintro m hm ⟨hrole, hrelated⟩
      obtain ⟨r, hrmem, -, hsucceeded, hr'⟩ := hr.reply m hm hrole
      have hrid : r.runId = lease.row.runId := Option.some.inj (hr'.symm.trans hrelated)
      rw [hsound.store.keys.runs.eq_of_key hrmem hmem (hrid.trans hid.symm), hstatus] at hsucceeded
      cases hsucceeded
    have hnew : ∀ m ∈ s'.db.messages, m ∈ s.db.messages ∨ (m.relatedRunId = some lease.row.runId ∧
        ∀ n ∈ s'.db.messages, n.RepliesTo lease.row.runId → n = m) := by
      intro m hm
      rcases htells with hsame | ⟨x, happend, hxrole, hxrelated⟩
      · exact Or.inl (hsame ▸ hm)
      · rw [happend] at hm ⊢
        rcases List.mem_append.1 hm with hm | hm
        · exact Or.inl hm
        · obtain rfl := List.mem_singleton.1 hm
          refine Or.inr ⟨hxrelated, fun n hn hreplies => ?_⟩
          rcases List.mem_append.1 hn with hn | hn
          · exact absurd hreplies (hnone n hn)
          · exact List.mem_singleton.1 hn
    constructor
    · intro m hm hrole
      rcases hnew m hm with hm | ⟨hrelated, -⟩
      · exact hold m hm hrole
      · obtain ⟨r', hr', hid', hsucceeded, -⟩ := hpub.succeeded
        obtain ⟨q, hq, hadv⟩ := (hsound.step hstep).2.2.runs row hmem
        have hsame : q = r' := (hsound.step hstep).1.store.keys.runs.eq_of_key hq hr'
          (hadv.runId.trans (hid.trans hid'.symm))
        have hkind : row.runKind = .interaction :=
          (column_eq (hready.leased lease rfl row hmem hid) Run.runKind fun _ => rfl).trans
            hready.proper.1
        exact ⟨r', hr', hsame ▸ hadv.runKind.trans hkind, hsucceeded, hid' ▸ hrelated⟩
    · intro m hm n hn id hmr hnr
      rcases hnew m hm with hmold | ⟨hrelated, hunique⟩
      · rcases hnew n hn with hnold | ⟨hrelated, hunique⟩
        · exact hr.single m hmold n hnold id hmr hnr
        · have hid : id = lease.row.runId := Option.some.inj (hnr.2.symm.trans hrelated)
          exact hunique m hm (hid ▸ hmr)
      · have hid : id = lease.row.runId := Option.some.inj (hmr.2.symm.trans hrelated)
        exact (hunique n hn (hid ▸ hnr)).symm

/-- **A step bears a child**: the completion of an interaction commits, and inserts a diagnosis
that was not there. -/
def Bears (env : Env) (s : Sys σ) (runId childId : String) (s' : Sys σ) : Prop :=
  ∃ lease output assistant response,
    s.Commits env (.complete lease output assistant true) response s' ∧
      lease.row.runId = runId ∧ (∀ q ∈ s.db.runs, q.runId ≠ childId) ∧
      ∃ c ∈ s'.db.runs, c.runId = childId ∧ c.runKind = .diagnosis

/-- **A child of an interaction**: a step of the run has borne it. -/
def Child (env : Env) (es : List (Event σ)) (runId childId : String) : Prop :=
  ∃ es₁ e es₂ s s', es = es₁ ++ e :: es₂ ∧ Transition.run (next env) (start σ) es₁ = some s ∧
    next env s e = some s' ∧ s.Bears env runId childId s'

/-- The completion that a step commits. -/
theorem Reachable.publishes (hs : s.Reachable env) {lease : Lease} {output : Json}
    {assistant : Option String} {investigate : Bool} {response : Response}
    (hc : s.Commits env (.complete lease output assistant investigate) response s') :
    s.db.Publishes s'.db lease output assistant investigate := by
  obtain ⟨tx, skipped, -, hready, -, hok⟩ := hs.sound.of_commits hc
  simp only [transact, map_eq_ok, Prod.mk.injEq] at hok
  obtain ⟨db, hok, -, rfl⟩ := hok
  exact complete_publishes hs.sound.store.history hs.unborn hready hok

/-- **A child is named** by the output of its interaction, which has succeeded. -/
theorem Reachable.bears_names (hs : s.Reachable env) {runId childId : String}
    (h : s.Bears env runId childId s') : ∃ r ∈ s'.db.runs, r.runId = runId ∧
      r.status = .succeeded ∧ r.Names childId := by
  obtain ⟨lease, output, assistant, response, hc, rfl, hnew, c, hcmem, rfl, -⟩ := h
  obtain ⟨r, hr, hid, hstatus, o, ho, ⟨hfalse, -⟩ | ⟨-, d, hd, -, hdnew, rfl⟩⟩ :=
    (hs.publishes hc).succeeded
  · cases hfalse
  · obtain ⟨tx, skipped, -, hready, -, hok⟩ := hs.sound.of_commits hc
    -- The transaction inserts one run, so the child is the one that is named.
    have hsame : c.runId = d.runId := by
      rcases transact_creates hs.sound.store.history.rechecks hready hok with hsame |
        ⟨row, -, happend⟩
      · obtain ⟨q, hq, hqf⟩ := List.mem_map.1 (hsame ▸ List.mem_map_of_mem hcmem : c.fixed ∈ _)
        exact absurd (column_eq hqf Run.runId fun _ => rfl) (hnew q hq)
      · have hrow : ∀ a ∈ s'.db.runs, (∀ q ∈ s.db.runs, q.runId ≠ a.runId) →
            a.fixed = row.fixed := by
          intro a ha hanew
          have hmem : a.fixed ∈ s.db.runs.map Run.fixed ++ [row.fixed] :=
            happend ▸ List.mem_map_of_mem ha
          rcases List.mem_append.1 hmem with hin | hin
          · obtain ⟨q, hq, hqf⟩ := List.mem_map.1 hin
            exact absurd (column_eq hqf Run.runId fun _ => rfl) (hanew q hq)
          · exact List.mem_singleton.1 hin
        exact column_eq ((hrow c hcmem hnew).trans (hrow d hd hdnew).symm) Run.runId fun _ => rfl
    refine ⟨r, hr, hid, hstatus, _, ho, ?_⟩
    rw [Json.get?_withMember hready.proper.2.1, hsame]

/-- **What an output names is a child**: it was named before the step, or the step bears it. -/
theorem Reachable.names_bears (hs : s.Reachable env) {e : Event σ} (hnext : next env s e = some s')
    {r' : Run} (hr' : r' ∈ s'.db.runs) (hkind : r'.runKind = .interaction) {childId : String}
    (h : r'.Names childId) :
    (∃ r ∈ s.db.runs, r.runKind = .interaction ∧ r.runId = r'.runId ∧ r.Names childId) ∨
      s.Bears env r'.runId childId s' := by
  obtain ⟨o, ho, hnames⟩ := h
  have hold : (∃ r ∈ s.db.runs, r.runKind = .interaction ∧ r.runId = r'.runId ∧
      o ∈ r.outputSnapshot) → ∃ r ∈ s.db.runs, r.runKind = .interaction ∧
        r.runId = r'.runId ∧ r.Names childId := by
    rintro ⟨r, hr, hk, hid, hro⟩
    exact ⟨r, hr, hk, hid, o, hro, hnames⟩
  rcases next_db hnext with hdb | ⟨request, response, hc⟩
  · exact Or.inl ⟨r', hdb ▸ hr', hkind, rfl, o, ho, hnames⟩
  obtain ⟨tx, skipped, -, hready, -, hok⟩ := hs.sound.of_commits hc
  cases hcompletes : request.completes with
  | false =>
    exact Or.inl (hold (transact_unpublished hs.sound.store.history hready hcompletes hok r' hr'
      hkind o ho))
  | true =>
    cases request <;> simp only [Request.completes, Bool.false_eq_true] at hcompletes
    rename_i lease output assistant investigate
    have hpub := hs.publishes hc
    simp only [transact, map_eq_ok, Prod.mk.injEq] at hok
    obtain ⟨db, hok, -, rfl⟩ := hok
    by_cases hid : r'.runId = lease.row.runId
    · obtain ⟨r, hr, hrid, -, o', ho', hcases⟩ := hpub.succeeded
      obtain rfl := (hs.sound.step hnext).1.store.keys.runs.eq_of_key hr hr' (hrid.trans hid.symm)
      obtain rfl : o = o' := Option.some.inj (ho.symm.trans ho')
      rcases hcases with ⟨-, rfl⟩ | ⟨rfl, c, hcmem, hdiag, hnew, rfl⟩
      · rw [hready.proper.2.2] at hnames
        cases hnames
      · rw [Json.get?_withMember hready.proper.2.1] at hnames
        obtain rfl : c.runId = childId := by simpa using hnames
        exact Or.inr ⟨lease, output, assistant, response, hc, hid.symm, hnew, c, hcmem, rfl, hdiag⟩
    · refine Or.inl (hold (complete_others hs.sound.store.keys (fun a ha haid => ?_) hok hr' hid
        hkind ho))
      exact (column_eq (hready.leased lease rfl a ha haid) Run.runKind fun _ => rfl).trans
        hready.proper.1

/-- A child of a run is a child of every longer one. -/
theorem Child.append {es : List (Event σ)} {runId childId : String}
    (h : Child env es runId childId) (fs : List (Event σ)) :
    Child env (es ++ fs) runId childId := by
  obtain ⟨es₁, e, es₂, m, m', rfl, hrun, hnext, hbears⟩ := h
  exact ⟨es₁, e, es₂ ++ fs, m, m', by simp, hrun, hnext, hbears⟩

/-- **What the output of an interaction names was borne in the run.** -/
theorem child_of_names {es : List (Event σ)}
    (hrun : Transition.run (next env) (start σ) es = some s) {r : Run} (hr : r ∈ s.db.runs)
    (hkind : r.runKind = .interaction) {childId : String} (h : r.Names childId) :
    Child env es r.runId childId := by
  induction es using List.reverseRecOn generalizing s r with
  | nil =>
    obtain rfl := Option.some.inj hrun
    simp [start, Db.empty] at hr
  | append_singleton es e ih =>
    obtain ⟨m, hm, hlast⟩ := Transition.run_append_eq_some.1 hrun
    obtain ⟨m', hnext, hend⟩ := Transition.run_cons_eq_some.1 hlast
    obtain rfl := Option.some.inj hend
    rcases Reachable.names_bears ⟨es, hm⟩ hnext hr hkind h with ⟨q, hq, hqkind, hid, hqnames⟩ |
      hbears
    · exact hid ▸ (ih hm hq hqkind hqnames).append [e]
    · exact ⟨es, e, [], m, m', rfl, hm, hnext, hbears⟩

/-- **A child is named ever after** by the output of its interaction, which has succeeded. -/
theorem Child.names {es : List (Event σ)} {runId childId : String}
    (h : Child env es runId childId) (hrun : Transition.run (next env) (start σ) es = some s) :
    (∃ r ∈ s.db.runs, r.runId = runId ∧ r.status = .succeeded ∧ r.Names childId) ∧
      ∃ c ∈ s.db.runs, c.runId = childId ∧ c.runKind = .diagnosis := by
  obtain ⟨es₁, e, es₂, m, m', rfl, hm, hnext, hbears⟩ := h
  obtain ⟨q, hq, hrest⟩ := Transition.run_append_eq_some.1 hrun
  obtain rfl := Option.some.inj (hm.symm.trans hq)
  obtain ⟨q', hq', hrest⟩ := Transition.run_cons_eq_some.1 hrest
  obtain rfl := Option.some.inj (hnext.symm.trans hq')
  have hreach : m.Reachable env := ⟨es₁, hm⟩
  have hsound := (hreach.sound.step hnext).1
  obtain ⟨-, -, hlater⟩ := hsound.run hrest
  obtain ⟨r, hr, hid, hstatus, o, ho, hnames⟩ := hreach.bears_names hbears
  obtain ⟨-, -, -, -, -, -, -, c, hc, hcid, hdiag⟩ := hbears
  obtain ⟨r', hr', hadv⟩ := hlater.runs r hr
  obtain ⟨c', hc', hadv'⟩ := hlater.runs c hc
  refine ⟨⟨r', hr', hadv.runId.trans hid, ?_, o, hadv.published o ho, hnames⟩, c', hc',
    hadv'.runId.trans hcid, hadv'.runKind.trans hdiag⟩
  rw [hadv.ended (by rw [hstatus]; rfl), hstatus]

/-- **Exactly-once publication.** What holds of the interactions in the state that a run leads
to, and of what their completions do there. -/
structure PublishedOnce (env : Env) (es : List (Event σ)) (s : Sys σ) : Prop where
  /-- A message of the assistant replies to an interaction that has succeeded. -/
  reply : ∀ m ∈ s.db.messages, m.role = .assistant → ∃ r ∈ s.db.runs,
    r.runKind = .interaction ∧ r.status = .succeeded ∧ m.relatedRunId = some r.runId
  /-- There is one reply at most. -/
  replies : ∀ m ∈ s.db.messages, ∀ n ∈ s.db.messages, ∀ runId, m.RepliesTo runId →
    n.RepliesTo runId → m = n
  /-- There is a child exactly if the interaction has succeeded and its output names it. -/
  child : ∀ r ∈ s.db.runs, r.runKind = .interaction → ∀ childId,
    Child env es r.runId childId ↔ r.status = .succeeded ∧ r.Names childId
  /-- There is one child at most, and it is a diagnosis. -/
  children : ∀ runId a b, Child env es runId a → Child env es runId b → a = b
  born : ∀ runId childId, Child env es runId childId →
    ∃ c ∈ s.db.runs, c.runId = childId ∧ c.runKind = .diagnosis
  /-- A completion that commits has published everything. -/
  whole : ∀ lease output assistant investigate response s',
    s.Commits env (.complete lease output assistant investigate) response s' →
      s.db.Publishes s'.db lease output assistant investigate
  /-- A completion that raises has changed nothing. -/
  refused : ∀ index t lease output assistant investigate, s.transactions[index]? = some t →
    t.request = .complete lease output assistant investigate →
      ∀ asked draw skipped s', next env s (.commit index asked draw skipped) = some s' →
        (∀ response, ¬ s.Commits env t.request response s') → s'.db = s.db
  /-- Nor has one that is lost. -/
  lost : ∀ index s', next env s (.abort index) = some s' → s'.db = s.db

/-- **An interaction is published exactly once**, in every run. -/
theorem published_once {es : List (Event σ)}
    (hrun : Transition.run (next env) (start σ) es = some s) : s.PublishedOnce env es := by
  have hs : s.Reachable env := ⟨es, hrun⟩
  have hkeys := hs.sound.store.keys.runs
  refine ⟨hs.replied.reply, hs.replied.single, fun r hr hkind childId => ⟨fun h => ?_, fun h => ?_⟩,
    fun runId a b ha hb => ?_, fun runId childId h => (h.names hrun).2,
    fun lease output assistant investigate response s' hc => hs.publishes hc, ?_, ?_⟩
  · obtain ⟨⟨q, hq, hid, hstatus, hnames⟩, -⟩ := h.names hrun
    exact hkeys.eq_of_key hq hr hid ▸ ⟨hstatus, hnames⟩
  · exact child_of_names hrun hr hkind h.2
  · obtain ⟨⟨q, hq, hid, -, o, ho, hnames⟩, -⟩ := ha.names hrun
    obtain ⟨⟨q', hq', hid', -, o', ho', hnames'⟩, -⟩ := hb.names hrun
    obtain rfl := hkeys.eq_of_key hq hq' (hid.trans hid'.symm)
    obtain rfl : o = o' := Option.some.inj (ho.symm.trans ho')
    simpa using hnames.symm.trans hnames'
  · intro index t lease output assistant investigate ht hreq asked draw skipped s' hnext hnot
    rcases next_cases hnext with hdb | ⟨index', asked', draw', skipped', t', response, he, ht', hok⟩
    · exact hdb
    · obtain ⟨rfl, rfl, rfl, rfl⟩ : index = index' ∧ asked = asked' ∧ draw = draw' ∧
          skipped = skipped' := by simpa using he
      obtain rfl := Option.some.inj (ht.symm.trans ht')
      exact absurd ⟨index, asked, draw, skipped, t, hnext, ht, rfl, hok⟩ (hnot response)
  · intro index s' hnext
    rw [← Option.some.inj hnext]

/-- The diagnosis fails, and the user asks to investigate further; the worker that answers
opens the next round. -/
def answeredByRound : List (Sys σ → List (Event σ)) :=
  [ask (fun s => .finish s.lease .failed default) default,
    ask (fun _ => .acceptInteraction "incident"
      ⟨"client-1", "Look again.", .investigate, none, none⟩ (some "run-1")
        [.obj [("state", .obj [("phase", .str "diagnosis_failed")])]])
      { (default : Draw) with runId := "run-2", threadId := "thread-2", messageId := "m-1" },
    ask (fun _ => .claim "worker-2" 30 3) default,
    ask (fun s => .complete s.lease (.obj [("intent", .str "investigate")]) (some "On it.") true)
      { (default : Draw) with runId := "run-3", threadId := "thread-3", messageId := "m-2" }]

theorem published_once_investigated : ∃ es, ∃ s : Sys Unit,
    Transition.run (next .plain) (start Unit) es = some s ∧
      s.db.runs.map (fun r => (r.runId, r.status)) =
        [("run-1", .failed), ("run-2", .succeeded), ("run-3", .queued)] ∧
      s.PublishedOnce .plain es := by
  obtain ⟨s, -, ⟨es, hrun⟩, hrows⟩ := Transition.exists_reachable (next .plain) (start Unit)
    (opening ++ answeredByRound)
    (fun s => s.db.runs.map (fun r => (r.runId, r.status)) =
      [("run-1", .failed), ("run-2", .succeeded), ("run-3", .queued)])
    (by decide +kernel)
  exact ⟨es, s, hrun, hrows, published_once hrun⟩

end Sys

end IncidentAgent
