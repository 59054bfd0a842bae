import IncidentAgent.Lib.JsonDict
import IncidentAgent.Lib.JsonPatch

/-!
# What a guarded replacement changes

A replacement puts its value at its path and leaves every other place as it was: two paths that
part, `Json.Apart`, are of different places, whatever the document. A patch of tests and
replacements that goes through has found what it tested for, in the document as it was at that
moment.

A test compares up to the order of members; a value without parts is the very value.
-/

namespace IncidentAgent

namespace Json

/-! ### Members -/

theorem lookup_setMember (name k : String) (w : Json) (members : List (String × Json)) :
    (setMember name w members).lookup k =
      if k = name then (members.lookup k).map fun _ => w else members.lookup k := by
  induction members with
  | nil => simp [setMember]
  | cons head rest ih =>
    obtain ⟨l, v⟩ := head
    unfold setMember
    split
    · rename_i hl
      subst hl
      rw [lookup_cons_ite, lookup_cons_ite]
      split <;> rfl
    · rename_i hl
      rw [lookup_cons_ite, lookup_cons_ite, ih]
      split
      · rename_i hk
        rw [if_neg fun he => hl (he.symm.trans hk)]
      · rfl

/-! ### Children -/

/-- What was put one token below is there. -/
theorem child?_setChild_self {v c w : Json} {t : Token} (h : v.child? t = some c) :
    (v.setChild t w).child? t = some w := by
  cases v with
  | obj members =>
    have hlookup : members.lookup t.text = some c := h
    show (setMember t.text w members).lookup t.text = some w
    rw [lookup_setMember, if_pos rfl, hlookup]
    rfl
  | arr items =>
    cases t with
    | item i =>
      have hitem : items[i]? = some c := h
      have hlt : i < items.length := (List.getElem?_eq_some_iff.1 hitem).1
      show (items.set i w)[i]? = some w
      rw [List.getElem?_set_self hlt]
    | member name => cases h
  | _ => cases h

/-- Another token is of another place. -/
theorem child?_setChild_ne {v w : Json} {t u : Token} (h : t.text ≠ u.text) :
    (v.setChild t w).child? u = v.child? u := by
  cases v with
  | obj members =>
    show (setMember t.text w members).lookup u.text = members.lookup u.text
    rw [lookup_setMember, if_neg (Ne.symm h)]
  | arr items =>
    cases t with
    | item i =>
      cases u with
      | item j =>
        have hij : i ≠ j := fun he => h (congrArg toString he)
        exact List.getElem?_set_ne hij
      | member name => rfl
    | member name => rfl
  | _ => rfl

/-! ### Paths -/

/-- Two paths **part**: after a common beginning they go on with tokens of different names. -/
def Apart : (p q : List Token) → Prop
  | t :: p, u :: q => t.text ≠ u.text ∨ t = u ∧ Apart p q
  | _, _ => False

theorem apart_append {r p q : List Token} (h : Apart p q) : Apart (r ++ p) (r ++ q) := by
  induction r with
  | nil => exact h
  | cons t r ih => exact Or.inr ⟨rfl, ih⟩

/-- **A replacement puts its value at its path.** -/
theorem at?_replaceAt?_self {v v' w : Json} {p : List Token} (h : v.replaceAt? p w = some v') :
    v'.at? p = some w := by
  induction p generalizing v v' with
  | nil =>
    obtain rfl := Option.some.inj h
    rfl
  | cons t p ih =>
    obtain ⟨c, hc, hmap⟩ := Option.bind_eq_some_iff.1 h
    obtain ⟨c', hc', rfl⟩ := Option.map_eq_some_iff.1 hmap
    show ((v.setChild t c').child? t).bind (fun w => w.at? p) = some w
    rw [child?_setChild_self hc]
    exact ih hc'

/-- **A replacement leaves what is apart of its path.** -/
theorem at?_replaceAt?_apart {v v' w : Json} {p q : List Token} (hpq : Apart p q)
    (h : v.replaceAt? p w = some v') : v'.at? q = v.at? q := by
  induction p generalizing v v' q with
  | nil => exact hpq.elim
  | cons t p ih =>
    cases q with
    | nil => exact hpq.elim
    | cons u q =>
      obtain ⟨c, hc, hmap⟩ := Option.bind_eq_some_iff.1 h
      obtain ⟨c', hc', rfl⟩ := Option.map_eq_some_iff.1 hmap
      show ((v.setChild t c').child? u).bind (fun w => w.at? q) =
        (v.child? u).bind fun w => w.at? q
      rcases hpq with hne | ⟨rfl, hrest⟩
      · rw [child?_setChild_ne hne]
      · rw [child?_setChild_self hc, hc]
        exact ih hrest hc'

/-! ### Equality up to the order of members -/

theorem same_str {w : Json} {text : String} (h : w.same (.str text) = true) : w = .str text := by
  cases w with
  | str s => exact congrArg Json.str (of_decide_eq_true h)
  | _ => cases h

theorem same_num {w : Json} {n : Int} (h : w.same (.num n) = true) : w = .num n := by
  cases w with
  | num m => exact congrArg Json.num (of_decide_eq_true h)
  | _ => cases h

theorem same_null {w : Json} (h : w.same .null = true) : w = .null := by
  cases w with
  | null => rfl
  | _ => cases h

end Json

/-! ### Patches -/

open Json

theorem applyPatch_append {doc doc' : Json} {ops ops' : List PatchOp}
    (h : applyPatch doc (ops ++ ops') = some doc') :
    ∃ mid, applyPatch doc ops = some mid ∧ applyPatch mid ops' = some doc' := by
  induction ops generalizing doc with
  | nil => exact ⟨doc, rfl, h⟩
  | cons op ops ih =>
    obtain ⟨next, hnext, hrest⟩ := Option.bind_eq_some_iff.1 h
    obtain ⟨mid, hmid, hdone⟩ := ih hrest
    exact ⟨mid, Option.bind_eq_some_iff.2 ⟨next, hnext, hmid⟩, hdone⟩

/-- **A test that goes through** has found its value, and leaves the document. -/
theorem applyPatch_test {doc doc' value : Json} {path : List Token} {ops : List PatchOp}
    (h : applyPatch doc (.test path value :: ops) = some doc') :
    (∃ w, doc.at? path = some w ∧ w.same value = true) ∧ applyPatch doc ops = some doc' := by
  obtain ⟨next, hnext, hrest⟩ := Option.bind_eq_some_iff.1 h
  obtain ⟨w, hw, hsame⟩ := Option.bind_eq_some_iff.1 hnext
  split at hsame
  · rename_i htrue
    obtain rfl := Option.some.inj hsame
    exact ⟨⟨w, hw, htrue⟩, hrest⟩
  · cases hsame

theorem applyPatch_replace {doc doc' value : Json} {path : List Token} {ops : List PatchOp}
    (h : applyPatch doc (.replace path value :: ops) = some doc') :
    ∃ next, doc.replaceAt? path value = some next ∧ applyPatch next ops = some doc' :=
  Option.bind_eq_some_iff.1 h

end IncidentAgent
