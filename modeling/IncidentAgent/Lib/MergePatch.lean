import IncidentAgent.Lib.Entries
import IncidentAgent.Lib.JsonDict

/-!
# Merge patches

A merge patch has the shape of the document that it changes. A member that the patch has
takes the place of the one of the document, member by member where the patch has an object;
`null` removes a member; and what the patch does not name stays (`Json.mergePatch`, after
RFC 7386).

What a patch does to a document is said one member at a time: `Json.get?_mergePatch` reads a
member of the patched document off the same member of the document and of the patch. A patch
whose values have no parts, and that names every member of the document, leaves nothing of it
(`Json.get?_mergePatch_of_covers`).
-/

namespace IncidentAgent

namespace Json

mutual

/-- `MergePatch(target, patch)`. -/
def mergePatch : (patch target : Json) → Json
  | .obj patch, target => .obj (mergeMembers patch target.members)
  | v, _ => v

/-- The members of an object after those of a patch, from the first to the last. -/
def mergeMembers : (patch members : List (String × Json)) → List (String × Json)
  | [], members => members
  | (name, value) :: rest, members =>
    mergeMembers rest
      (if value = .null then members.filter fun m => m.1 ≠ name
        else insertMember name (mergePatch value ((members.lookup name).getD .null)) members)

end

/-- A member after a patch, from the member and from what the patch has for it. -/
def mergeMember (old : Option Json) : Option Json → Option Json
  | none => old
  | some value => if value = .null then none else some (mergePatch value (old.getD .null))

variable {patch : List (String × Json)}

theorem lookup_mergeMembers (hkeys : (patch.map Prod.fst).Nodup)
    (members : List (String × Json)) (k : String) :
    (mergeMembers patch members).lookup k = mergeMember (members.lookup k) (patch.lookup k) := by
  induction patch generalizing members with
  | nil => simp [mergeMembers, mergeMember]
  | cons head rest ih =>
    obtain ⟨name, value⟩ := head
    obtain ⟨hname, hrest⟩ := List.nodup_cons.1 hkeys
    rw [mergeMembers, ih hrest, lookup_cons_ite]
    by_cases hk : k = name
    · -- The rest of the patch is silent about a name that has been seen.
      subst hk
      rw [Entries.lookup_eq_none_iff.2 hname, if_pos rfl]
      by_cases hnull : value = .null
      · rw [if_pos hnull, lookup_filter_ne, if_pos rfl, mergeMember, mergeMember, if_pos hnull]
      · rw [if_neg hnull, lookup_insertMember, if_pos rfl, mergeMember, mergeMember,
          if_neg hnull]
    · rw [if_neg hk]
      congr 1
      split
      · rw [lookup_filter_ne, if_neg hk]
      · rw [lookup_insertMember, if_neg hk]

/-- **A member of a patched document** is determined by the member of the document and by what
the patch has for it. -/
theorem get?_mergePatch (hkeys : (patch.map Prod.fst).Nodup) (target : Json) (k : String) :
    (mergePatch (.obj patch) target).get? k = mergeMember (target.get? k) (patch.lookup k) := by
  rw [mergePatch, ← lookup_members target]
  exact lookup_mergeMembers hkeys target.members k

/-- Where a patch has an object, that object is a patch of the member. -/
theorem get_mergePatch_of_obj (hkeys : (patch.map Prod.fst).Nodup) {k : String}
    {inner : List (String × Json)} (h : patch.lookup k = some (.obj inner)) (target : Json) :
    (mergePatch (.obj patch) target).get k = mergePatch (.obj inner) (target.get k) := by
  rw [get, get?_mergePatch hkeys, h, mergeMember, if_neg (by simp), Option.getD_some, get]

/-- A patch without parts takes the place of the document. -/
theorem Plain.mergePatch {value : Json} (h : value.Plain) (target : Json) :
    value.mergePatch target = value := by
  cases value with
  | obj members => exact h.elim
  | _ => simp [Json.mergePatch]

/-- **A patch that names every member of a document replaces it** by its own members, but for
those that are `null`. -/
theorem get?_mergePatch_of_covers (hkeys : (patch.map Prod.fst).Nodup)
    (hplain : ∀ m ∈ patch, m.2.Plain) {target : Json} {k : String}
    (hcovers : patch.lookup k = none → target.get? k = none) :
    (mergePatch (.obj patch) target).get? k =
      (patch.lookup k).filter fun value => value ≠ .null := by
  rw [get?_mergePatch hkeys]
  cases hvalue : patch.lookup k with
  | none => rw [mergeMember, hcovers hvalue, Option.filter_none]
  | some value =>
    have hmerge : value.mergePatch ((target.get? k).getD .null) = value :=
      Plain.mergePatch (hplain _ (mem_of_lookup hvalue)) _
    rw [mergeMember, hmerge, Option.filter]
    by_cases hnull : value = .null <;> simp [hnull]

end Json

end IncidentAgent
