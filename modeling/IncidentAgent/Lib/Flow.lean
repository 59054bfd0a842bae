import IncidentAgent.Lib.Raising
import Mathlib.Data.List.Infix

/-!
# State graphs of programs

A workflow is a graph over a state. Each of its nodes is a program that takes the state to the next
one, asking queries on its way, and the edges say where the graph goes from there. After each node
the graph is saved: where it is, and with which state. A visit of a node may be lost anywhere, and
the graph goes on from any checkpoint that was saved, the last one or an earlier one, as often as it
likes. So what a node has asked for may be asked again, and nothing is known of the answers.

`Flow.Annotated` is the method of assertions: an assertion for each place of the graph, and a rule
for the queries of each node. Each node is proved alone. The rule of the graph is
`Flow.Annotated.holds_of_reachable`: in every run every checkpoint meets the assertion of its place,
and every query that was ever asked was allowed by the rule of a node in a state that met its
assertion. An assertion may count the visits, and so a rank that decreases along the edges bounds
them (`Flow.Ranked`).
-/

namespace IncidentAgent

variable {N σ Q : Type} {A : Q → Type} {ε α β : Type}

/-! ### Programs that keep to a rule -/

/-- A program only adds to the exchanges. -/
theorem Prog.Keeps.suffix {rule : History Q A → Q → Prop} {post : α → History Q A → Prop}
    {p : Prog Q A α} {h : History Q A} (hp : p.Keeps rule post h) :
    p.Keeps rule (fun a h' => h <:+ h' ∧ post a h') h := by
  induction p generalizing h with
  | pure a => exact ⟨List.suffix_refl h, hp⟩
  | call q k ih =>
    refine ⟨hp.1, fun a => (ih a (hp.2 a)).mono fun b h' hb => ⟨?_, hb.2⟩⟩
    exact (List.suffix_cons _ _).trans hb.1

/-- A program that keeps to a rule keeps to one that allows the same from here on. -/
theorem Prog.Keeps.allow {rule rule' : History Q A → Q → Prop} {post : α → History Q A → Prop}
    {p : Prog Q A α} {h : History Q A} (hp : p.Keeps rule post h)
    (hrule : ∀ h' q, h <:+ h' → rule h' q → rule' h' q) : p.Keeps rule' post h := by
  induction p generalizing h with
  | pure a => exact hp
  | call q k ih =>
    refine ⟨hrule h q (List.suffix_refl h) hp.1, fun a => ih a (hp.2 a) fun h' q' hh => ?_⟩
    exact hrule h' q' ((List.suffix_cons _ _).trans hh)

namespace Act

/-- **A program keeps to a rule** and meets the postcondition when it returns. Nothing is claimed of
an exception. -/
def Keeps (rule : History Q A → Q → Prop) (post : α → History Q A → Prop) (p : Act Q A ε α)
    (h : History Q A) : Prop :=
  p.run.Keeps rule (fun r h => ∀ a, r = .ok a → post a h) h

/-- The program of one query, which tells its answer. -/
def call (q : Q) : Act Q A ε (A q) := ExceptT.mk (Prog.call q fun a => Prog.pure (.ok a))

variable {rule : History Q A → Q → Prop} {p : Act Q A ε α} {post post' : α → History Q A → Prop}
  {h : History Q A}

theorem Keeps.mono (hp : p.Keeps rule post h) (hpost : ∀ a h, post a h → post' a h) :
    p.Keeps rule post' h :=
  Prog.Keeps.mono hp fun _ h hr a ha => hpost a h (hr a ha)

/-- What a program returns, it returns later. -/
theorem Keeps.suffix (hp : p.Keeps rule post h) :
    p.Keeps rule (fun a h' => h <:+ h' ∧ post a h') h :=
  Prog.Keeps.mono (Prog.Keeps.suffix hp) fun _ _ hr a ha => ⟨hr.1, hr.2 a ha⟩

/-- A rule that allows the same from here on. -/
theorem Keeps.allow {rule' : History Q A → Q → Prop} (hp : p.Keeps rule post h)
    (hrule : ∀ h' q, h <:+ h' → rule h' q → rule' h' q) : p.Keeps rule' post h :=
  Prog.Keeps.allow hp hrule

/-- A rule need only allow what is asked from here on. -/
theorem Keeps.onward (hp : p.Keeps (fun h' q => h <:+ h' → rule h' q) post h) :
    p.Keeps rule post h :=
  hp.allow fun _ _ hh hq => hq hh

theorem keeps_pure {a : α} (ha : post a h) : (pure a : Act Q A ε α).Keeps rule post h := by
  intro b hb
  exact Except.ok.inj hb ▸ ha

theorem keeps_throw (e : ε) : (throw e : Act Q A ε α).Keeps rule post h := by
  intro _ he
  cases he

theorem keeps_ofExcept {x : Except ε α} (hx : ∀ a, x = .ok a → post a h) :
    (ofExcept x : Act Q A ε α).Keeps rule post h := hx

/-- **The rule of a query.** -/
theorem keeps_call {q : Q} {post : A q → History Q A → Prop} (hq : rule h q)
    (ha : ∀ a, post a (⟨q, a⟩ :: h)) : (call q : Act Q A ε (A q)).Keeps rule post h := by
  refine ⟨hq, fun a b hb => ?_⟩
  exact Except.ok.inj hb ▸ ha a

/-- **The rule of a sequence.** -/
theorem keeps_bind {f : α → Act Q A ε β} {post : β → History Q A → Prop}
    (hp : p.Keeps rule (fun a h => (f a).Keeps rule post h) h) : (p >>= f).Keeps rule post h := by
  refine Prog.keeps_bind (Prog.Keeps.mono hp fun r h hr => ?_)
  cases r with
  | ok a => exact hr a rfl
  | error e =>
    intro _ he
    cases he

/-- The rule of a query whose answer may be an exception. -/
theorem keeps_answer {q : Q} {f : A q → Except ε α} (hq : rule h q)
    (ha : ∀ answer a, f answer = .ok a → post a (⟨q, answer⟩ :: h)) :
    (call q >>= fun answer => ofExcept (f answer) : Act Q A ε α).Keeps rule post h :=
  keeps_bind (keeps_call hq fun answer => keeps_ofExcept (ha answer))

/-- **The rule of what is caught**: what the body returns has met its postcondition, and of an
exception nothing is known but that it was raised later. -/
theorem keeps_attempt {post : Except ε α → History Q A → Prop}
    (hp : p.Keeps rule (fun a h => post (.ok a) h) h)
    (he : ∀ e h', h <:+ h' → post (.error e) h') : (attempt p).Keeps rule post h := by
  refine Prog.keeps_bind (Prog.Keeps.mono (Prog.Keeps.suffix hp) fun r h' hr => ?_)
  intro r' hr'
  obtain rfl := Except.ok.inj hr'
  cases r with
  | ok a => exact hr.2 a rfl
  | error e => exact he e h' hr.1

theorem keeps_ite {c : Prop} [Decidable c] {q : Act Q A ε α} (hp : c → p.Keeps rule post h)
    (hq : ¬ c → q.Keeps rule post h) : (if c then p else q).Keeps rule post h := by
  split
  · exact hp ‹_›
  · exact hq ‹_›

end Act

/-! ### Graphs -/

/-- **A state graph**: the program of each node, and the edges. -/
structure Flow (N σ Q : Type) (A : Q → Type) (ε : Type) where
  visit : N → σ → Act Q A ε σ
  /-- Where the graph goes from a node, with the state that the node has left. It ends where there
  is no next node. -/
  route : N → σ → Option N

/-- A checkpoint: where the graph goes on, with which state, and after how many visits. -/
structure Checkpoint (N σ : Type) where
  next : Option N
  state : σ
  depth : ℕ
  deriving DecidableEq

/-- A visit of a node that is under way, in the state in which the node was entered. -/
structure Visit (N σ Q : Type) (A : Q → Type) (ε : Type) where
  node : N
  state : σ
  depth : ℕ
  rest : Prog Q A (Except ε σ)

/-- **A graph under way**: what was saved, the last checkpoint first, the visit that has been begun,
and all that was ever asked and answered. -/
structure Tour (N σ Q : Type) (A : Q → Type) (ε : Type) where
  saved : List (Checkpoint N σ)
  visiting : Option (Visit N σ Q A ε)
  history : History Q A

/-- An event of a tour. -/
inductive TourEvent (Q : Type) (A : Q → Type)
  /-- The graph goes on from a checkpoint. -/
  | enter (checkpoint : ℕ)
  /-- The next query of the visit is answered. -/
  | answer (answers : (q : Q) → A q)
  /-- The visit is over: it has raised, or it is saved. -/
  | leave
  /-- The visit is lost. -/
  | stop

namespace Flow

variable (G : Flow N σ Q A ε)

/-- A tour that has not left its first checkpoint. -/
def start (node : N) (s : σ) : Tour N σ Q A ε := ⟨[⟨some node, s, 0⟩], none, []⟩

/-- The visit that a checkpoint leads to. -/
def visitFrom (c : Checkpoint N σ) : Option (Visit N σ Q A ε) :=
  c.next.map fun n => ⟨n, c.state, c.depth, (G.visit n c.state).run⟩

/-- What is saved when a visit returns. -/
def checkpoint (v : Visit N σ Q A ε) (s : σ) : Checkpoint N σ := ⟨G.route v.node s, s, v.depth + 1⟩

/-- One event of a tour. -/
def next (t : Tour N σ Q A ε) : TourEvent Q A → Option (Tour N σ Q A ε)
  | .enter i =>
    if t.visiting.isNone then
      (t.saved[i]?.bind G.visitFrom).map fun v => { t with visiting := some v }
    else none
  | .answer answers =>
    match t.visiting with
    | some ⟨n, s, d, .call q k⟩ => some
        { t with visiting := some ⟨n, s, d, k (answers q)⟩
                 history := ⟨q, answers q⟩ :: t.history }
    | _ => none
  | .leave =>
    match t.visiting with
    | some ⟨n, s, d, .pure (.ok s')⟩ => some
        { t with visiting := none
                 saved := G.checkpoint ⟨n, s, d, .pure (.ok s')⟩ s' :: t.saved }
    | some ⟨_, _, _, .pure (.error _)⟩ => some { t with visiting := none }
    | _ => none
  | .stop => some { t with visiting := none }

/-! ### Assertions -/

/-- **An annotated graph.** An assertion holds of the visits so far, of the exchanges so far, of the
place and of the state; a rule allows the queries of a node in the state in which it is entered. -/
structure Annotated (I : ℕ → History Q A → Option N → σ → Prop)
    (rule : N → σ → History Q A → Q → Prop) : Prop where
  /-- What is asked besides does not harm an assertion. -/
  mono : ∀ {d h o s} e, I d h o s → I d (e :: h) o s
  /-- A node keeps to its rule, and leads to a place whose assertion holds. -/
  visit : ∀ {d h n s}, I d h (some n) s →
    (G.visit n s).Keeps (rule n s) (fun s' h' => I (d + 1) h' (G.route n s') s') h

/-- **An annotated graph with a rank** that decreases with each visit. -/
structure Ranked (I : History Q A → Option N → σ → Prop)
    (rule : N → σ → History Q A → Q → Prop) (rank : Option N → σ → ℕ) : Prop where
  mono : ∀ {h o s} e, I h o s → I (e :: h) o s
  visit : ∀ {h n s}, I h (some n) s → (G.visit n s).Keeps (rule n s)
    (fun s' h' => I h' (G.route n s') s' ∧ rank (G.route n s') s' < rank (some n) s) h

variable {I : ℕ → History Q A → Option N → σ → Prop} {rule : N → σ → History Q A → Q → Prop}
  {t t' : Tour N σ Q A ε} {node : N} {s₀ : σ}

/-- A tour that meets its annotation. -/
structure Holds (I : ℕ → History Q A → Option N → σ → Prop)
    (rule : N → σ → History Q A → Q → Prop) (t : Tour N σ Q A ε) : Prop where
  saved : ∀ c ∈ t.saved, I c.depth t.history c.next c.state
  visiting : ∀ v, t.visiting = some v → I v.depth t.history (some v.node) v.state ∧
    Act.Keeps (rule v.node v.state) (fun s' h' => I (v.depth + 1) h' (G.route v.node s') s')
      (ExceptT.mk v.rest) t.history
  asked : ∀ e h, e :: h <:+ t.history → ∃ d n s, I d h (some n) s ∧ rule n s h e.1

variable {G}

theorem Holds.lost (ht : G.Holds I rule t) : G.Holds I rule { t with visiting := none } :=
  ⟨ht.saved, fun v hv => (by cases hv), ht.asked⟩

/-- **An event keeps the annotation.** -/
theorem Annotated.next (hG : G.Annotated I rule) (ht : G.Holds I rule t) {e : TourEvent Q A}
    (hnext : G.next t e = some t') : G.Holds I rule t' := by
  cases e with
  | enter i =>
    simp only [Flow.next] at hnext
    split at hnext
    · obtain ⟨v, hv, rfl⟩ := Option.map_eq_some_iff.1 hnext
      obtain ⟨c, hc, hvisit⟩ := Option.bind_eq_some_iff.1 hv
      obtain ⟨n, hn, rfl⟩ := Option.map_eq_some_iff.1 hvisit
      have hI := ht.saved c (List.mem_of_getElem? hc)
      rw [hn] at hI
      refine ⟨ht.saved, fun w hw => ?_, ht.asked⟩
      obtain rfl := Option.some.inj hw
      exact ⟨hI, hG.visit hI⟩
    · cases hnext
  | answer answers =>
    simp only [Flow.next] at hnext
    split at hnext
    · rename_i n s d q k hvisiting
      obtain rfl := Option.some.inj hnext
      obtain ⟨hI, hrule, hrest⟩ := ht.visiting _ hvisiting
      refine ⟨fun c hc => hG.mono _ (ht.saved c hc), fun v hv => ?_, fun e h heh => ?_⟩
      · obtain rfl := Option.some.inj hv
        exact ⟨hG.mono _ hI, hrest _⟩
      · -- The last exchange is the one that is answered here; the others were there before.
        rcases List.suffix_cons_iff.1 heh with heq | hsuffix
        · obtain ⟨rfl, rfl⟩ := List.cons.inj heq
          exact ⟨d, n, s, hI, hrule⟩
        · exact ht.asked e h hsuffix
    · cases hnext
  | leave =>
    simp only [Flow.next] at hnext
    split at hnext
    · rename_i n s d s' hvisiting
      obtain rfl := Option.some.inj hnext
      obtain ⟨-, hrest⟩ := ht.visiting _ hvisiting
      refine ⟨fun c hc => ?_, fun v hv => (by cases hv), ht.asked⟩
      rcases List.mem_cons.1 hc with rfl | hc
      · exact hrest s' rfl
      · exact ht.saved c hc
    · obtain rfl := Option.some.inj hnext
      exact ht.lost
    · cases hnext
  | stop =>
    obtain rfl := Option.some.inj hnext
    exact ht.lost

/-- **The rule of a graph**: in every run the annotation holds. -/
theorem Annotated.holds_of_reachable (hG : G.Annotated I rule) (hs : I 0 [] (some node) s₀)
    (h : Transition.Reachable G.next (start node s₀) t) : G.Holds I rule t := by
  refine Transition.Reachable.invariant ⟨fun c hc => ?_, fun v hv => (by cases hv), ?_⟩
    (fun _ _ _ ht => hG.next ht) h
  · obtain rfl := List.mem_singleton.1 hc
    exact hs
  · intro e h heh
    cases List.suffix_nil.1 heh

/-- **A rank bounds the visits**: an annotation with a rank is one that counts them. -/
theorem Ranked.annotated {I : History Q A → Option N → σ → Prop} {rank : Option N → σ → ℕ}
    (hG : G.Ranked I rule rank) (bound : ℕ) :
    G.Annotated (fun d h o s => I h o s ∧ d + rank o s ≤ bound) rule where
  mono e hI := ⟨hG.mono e hI.1, hI.2⟩
  visit {d h n s} hI := by
    refine (hG.visit hI.1).mono fun s' h' hs' => ⟨hs'.1, ?_⟩
    have hrank := hs'.2
    have hbound := hI.2
    omega

end Flow

end IncidentAgent
