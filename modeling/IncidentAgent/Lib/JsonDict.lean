import IncidentAgent.Lib.Json
import IncidentAgent.Lib.SortedMap

/-!
# JSON objects as dictionaries

What a program does with a JSON object beyond reading a member of it: it sets a member
(`Json.insert`), and it compares two documents by the text that they have once the members of
their objects are sorted (`Json.canonical`). The second is an equality up to the order of
members in which a truth value is not a number, and it is preserved by reading a member.

The values that have no parts, `Json.Plain`, are their own canonical form.
-/

namespace IncidentAgent

namespace Json

/-! ### Reading with a default -/

/-- `value.get(key)`, where an absent member reads as `null`. -/
def get (v : Json) (key : String) : Json := (v.get? key).getD .null

/-- `value.get(key) or []`, as far as it is a list. -/
def items : Json → List Json
  | .arr vs => vs
  | _ => []

/-- The members of an object. -/
def members : Json → List (String × Json)
  | .obj ms => ms
  | _ => []

theorem lookup_members (v : Json) (key : String) : v.members.lookup key = v.get? key := by
  cases v <;> rfl

/-- A number, as far as the value is one. -/
def toInt : Json → Int
  | .num n => n
  | _ => 0

/-- A text, as far as the value is one. -/
def toText : Json → String
  | .str s => s
  | _ => ""

/-- Whether a value is an array. -/
def isArray : Json → Bool
  | .arr _ => true
  | _ => false

/-- `set(value) == keys`. -/
def hasKeys (v : Json) (keys : List String) : Bool :=
  v.isObject && (v.members.all fun m => m.1 ∈ keys) && keys.all fun k => (v.get? k).isSome

/-! ### Setting a member -/

/-- The members of a dictionary with one of them set, in its place or at the end. -/
def insertMember (key : String) (w : Json) : List (String × Json) → List (String × Json)
  | [] => [(key, w)]
  | (k, v) :: rest => if key = k then (k, w) :: rest else (k, v) :: insertMember key w rest

/-- A member that is set for the first time comes last. -/
theorem insertMember_of_notMem {key : String} {w : Json} {members : List (String × Json)}
    (h : ∀ m ∈ members, m.1 ≠ key) : insertMember key w members = members ++ [(key, w)] := by
  induction members with
  | nil => rfl
  | cons head rest ih =>
    obtain ⟨k, v⟩ := head
    rw [insertMember, if_neg (h (k, v) List.mem_cons_self).symm,
      ih fun m hm => h m (List.mem_cons_of_mem _ hm), List.cons_append]

/-- `value[key] = w`. -/
def insert (v : Json) (key : String) (w : Json) : Json :=
  match v with
  | .obj members => .obj (insertMember key w members)
  | v => v

theorem lookup_cons_ite (k l : String) (v : Json) (rest : List (String × Json)) :
    ((l, v) :: rest).lookup k = if k = l then some v else rest.lookup k := by
  by_cases hk : k = l
  · rw [if_pos hk, hk, List.lookup_cons_self]
  · rw [if_neg hk, List.lookup_cons, beq_false_of_ne hk]

theorem mem_of_lookup {k : String} {v : Json} {members : List (String × Json)}
    (h : members.lookup k = some v) : (k, v) ∈ members := by
  obtain ⟨before, after, rfl, -⟩ := List.lookup_eq_some_iff.1 h
  exact List.mem_append_right _ List.mem_cons_self

theorem lookup_insertMember {key : String} {w : Json} {members : List (String × Json)}
    (k : String) : (insertMember key w members).lookup k =
      if k = key then some w else members.lookup k := by
  induction members with
  | nil => exact lookup_cons_ite k key w []
  | cons head rest ih =>
    obtain ⟨l, v⟩ := head
    unfold insertMember
    split
    · rename_i hl
      subst hl
      rw [lookup_cons_ite, lookup_cons_ite]
      split <;> rfl
    · rename_i hl
      rw [lookup_cons_ite, lookup_cons_ite, ih]
      split
      · rename_i hk
        rw [if_neg fun he => hl (he.symm.trans hk)]
      · rfl

/-- **The member that was set is there, and the others are as they were.** -/
@[simp] theorem get?_insert {members : List (String × Json)} {key : String} {w : Json}
    (k : String) : ((Json.obj members).insert key w).get? k =
      if k = key then some w else (Json.obj members).get? k :=
  lookup_insertMember k

@[simp] theorem isObject_insert {v : Json} {key : String} {w : Json} :
    (v.insert key w).isObject = v.isObject := by
  cases v <;> rfl

/-- The members of an object after one of them was set. -/
theorem get?_insert_of_isObject {v : Json} (h : v.isObject = true) {key : String} {w : Json}
    (k : String) : (v.insert key w).get? k = if k = key then some w else v.get? k := by
  cases v with
  | obj members => exact get?_insert k
  | _ => cases h

/-- A value of which a member is read is an object. -/
theorem exists_of_get? {v : Json} {key : String} {w : Json} (h : v.get? key = some w) :
    ∃ members, v = .obj members := by
  cases v with
  | obj members => exact ⟨members, rfl⟩
  | _ => cases h

/-- `value.pop(key, None)`. -/
def erase (v : Json) (key : String) : Json :=
  match v with
  | .obj members => .obj (members.filter fun m => m.1 ≠ key)
  | v => v

theorem lookup_filter_ne {members : List (String × Json)} {key : String} (k : String) :
    (members.filter fun m => m.1 ≠ key).lookup k =
      if k = key then none else members.lookup k := by
  induction members with
  | nil => exact (ite_self _).symm
  | cons head rest ih =>
    obtain ⟨l, w⟩ := head
    rw [List.filter_cons, lookup_cons_ite]
    by_cases hl : l = key
    · rw [if_neg (by simpa using hl), ih, hl]
      split <;> rfl
    · rw [if_pos (by simpa using hl), lookup_cons_ite, ih]
      by_cases hk : k = l
      · rw [if_pos hk, if_pos hk, if_neg fun he => hl (hk.symm.trans he)]
      · rw [if_neg hk, if_neg hk]

/-- A member that was not removed. -/
theorem get?_erase {v : Json} {key k : String} (h : k ≠ key) : (v.erase key).get? k = v.get? k := by
  cases v with
  | obj members => exact (lookup_filter_ne k).trans (if_neg h)
  | _ => rfl

/-! ### Canonical forms -/

mutual

/-- The value with the members of its objects sorted by name, `json.dumps(value,
sort_keys=True)` up to its text. -/
def canonical : Json → Json
  | .arr items => .arr (canonicalItems items)
  | .obj members => .obj (canonicalMembers members)
  | v => v

/-- The items of an array in canonical form. -/
def canonicalItems : List Json → List Json
  | [] => []
  | v :: vs => v.canonical :: canonicalItems vs

/-- The members of an object in canonical form. Of two members of one name the first
counts, as it does when a member is read. -/
def canonicalMembers : List (String × Json) → List (String × Json)
  | [] => []
  | (k, v) :: rest => SortedMap.setEntry k v.canonical (canonicalMembers rest)

end

theorem canonicalItems_eq (items : List Json) : canonicalItems items = items.map canonical := by
  induction items with
  | nil => rfl
  | cons v vs ih => exact congrArg (v.canonical :: ·) ih

theorem sorted_canonicalMembers (members : List (String × Json)) :
    (canonicalMembers members).Pairwise fun a b => a.1 < b.1 := by
  induction members with
  | nil => simp [canonicalMembers]
  | cons head rest ih => exact SortedMap.sorted_setEntry ih

/-- **A member of the canonical form is the canonical form of the member.** -/
theorem get?_canonical (v : Json) (key : String) :
    v.canonical.get? key = (v.get? key).map canonical := by
  cases v with
  | obj members =>
    show (canonicalMembers members).lookup key = (members.lookup key).map canonical
    induction members with
    | nil => rfl
    | cons head rest ih =>
      obtain ⟨k, w⟩ := head
      rw [canonicalMembers, SortedMap.lookup_setEntry (sorted_canonicalMembers rest), ih,
        lookup_cons_ite]
      split <;> rfl
  | _ => rfl

/-- Documents that agree up to the order of members agree so in each member. -/
theorem get?_of_canonical {a b : Json} (h : a.canonical = b.canonical) (key : String) :
    (a.get? key).map canonical = (b.get? key).map canonical := by
  rw [← get?_canonical, ← get?_canonical, h]

mutual

/-- The value with truth values read as numbers. -/
def unbool : Json → Json
  | .bool b => .num (if b then 1 else 0)
  | .arr items => .arr (unboolItems items)
  | .obj members => .obj (unboolMembers members)
  | v => v

/-- The items of an array with truth values read as numbers. -/
def unboolItems : List Json → List Json
  | [] => []
  | v :: vs => v.unbool :: unboolItems vs

/-- The members of an object with truth values read as numbers. -/
def unboolMembers : List (String × Json) → List (String × Json)
  | [] => []
  | (k, v) :: rest => (k, v.unbool) :: unboolMembers rest

end

/-- `value == other`, for which neither the order of members nor the difference between a
truth value and a number counts. -/
def pyEq (v w : Json) : Bool := v.unbool.canonical = w.unbool.canonical

/-- A value without parts. -/
def Plain : Json → Prop
  | .arr _ | .obj _ => False
  | _ => True

instance (v : Json) : Decidable v.Plain := by
  unfold Plain
  split <;> infer_instance

theorem Plain.canonical {v : Json} (h : v.Plain) : v.canonical = v := by
  cases v with
  | arr items => exact h.elim
  | obj members => exact h.elim
  | _ => rfl

/-- A value that agrees with a plain one is that value. -/
theorem Plain.eq_of_canonical {v w : Json} (h : v.Plain) (he : w.canonical = v.canonical) :
    w = v := by
  rw [h.canonical] at he
  cases w with
  | arr items =>
    rw [← he] at h
    exact h.elim
  | obj members =>
    rw [← he] at h
    exact h.elim
  | _ => exact he

/-- The member that agrees with a plain one. -/
theorem get?_of_plain {a b w : Json} {key : String} (h : a.canonical = b.canonical)
    (hb : b.get? key = some w) (hw : w.Plain) : a.get? key = some w := by
  have hmember := get?_of_canonical h key
  rw [hb] at hmember
  obtain ⟨u, hu, hcanonical⟩ := Option.map_eq_some_iff.1 hmember
  rw [hu, hw.eq_of_canonical hcanonical]

end Json

end IncidentAgent
