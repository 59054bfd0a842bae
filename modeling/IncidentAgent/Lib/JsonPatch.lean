import IncidentAgent.Lib.Json

/-!
# JSON Patch: guarded replacement

The two operations of JSON Patch that a guarded write is made of: `test`, which refuses a
document whose value at a path is not the expected one, and `replace`, which puts a value
at a path that exists. A patch is applied **atomically**: either every operation goes
through, in order, or the document is left as it was, which here is the answer `none`.

A path is a list of tokens, kept as what they were written from: the name of a member, or
the index of an item. An index applied to an object is the member of that name.

`test` compares values as JSON does, with `Json.same`: the members of an object are not
ordered.
-/

namespace IncidentAgent

namespace Json

/-! ### Equality up to the order of members -/

mutual

/-- **Equality of JSON values**: objects are equal when they have the same members,
whatever their order. -/
def same : (a b : Json) → Bool
  | .null, .null => true
  | .bool a, .bool b => a == b
  | .num a, .num b => a == b
  | .str a, .str b => a == b
  | .arr as, .arr bs => sameItems as bs
  | .obj as, .obj bs => as.length == bs.length && sameMembers as bs
  | _, _ => false

/-- Arrays are equal item by item. -/
def sameItems : (as bs : List Json) → Bool
  | [], [] => true
  | a :: as, b :: bs => same a b && sameItems as bs
  | _, _ => false

/-- Every member of the first object is a member of the second, with an equal value. -/
def sameMembers : (as bs : List (String × Json)) → Bool
  | [], _ => true
  | (k, a) :: as, bs =>
    (match bs.lookup k with
      | some b => same a b
      | none => false) && sameMembers as bs

end

/-! ### Paths -/

/-- A token of a path. -/
inductive Token
  /-- The member of an object. -/
  | member (name : String)
  /-- The item of an array. -/
  | item (index : Nat)
  deriving DecidableEq, Repr

/-- The text of a token: the name of the member it is in an object. -/
def Token.text : Token → String
  | .member name => name
  | .item index => toString index

/-- The value one token below `v`. -/
def child? (v : Json) (t : Token) : Option Json :=
  match v, t with
  | .obj members, t => members.lookup t.text
  | .arr items, .item i => items[i]?
  | _, _ => none

/-- The value at a path. -/
def at? (v : Json) : List Token → Option Json
  | [] => some v
  | t :: path => (v.child? t).bind fun w => w.at? path

/-- The members of an object with the first member of a name replaced. -/
def setMember (name : String) (w : Json) : List (String × Json) → List (String × Json)
  | [] => []
  | (k, v) :: rest => if name = k then (k, w) :: rest else (k, v) :: setMember name w rest

/-- `v` with the value one token below replaced. -/
def setChild (v : Json) (t : Token) (w : Json) : Json :=
  match v, t with
  | .obj members, t => .obj (setMember t.text w members)
  | .arr items, .item i => .arr (items.set i w)
  | v, _ => v

/-- `v` with the value at an existing path replaced. -/
def replaceAt? (v : Json) (path : List Token) (w : Json) : Option Json :=
  match path with
  | [] => some w
  | t :: path => (v.child? t).bind fun c => (c.replaceAt? path w).map fun c' => v.setChild t c'

end Json

/-! ### Patches -/

/-- An operation of a patch. -/
inductive PatchOp
  /-- The document must hold this value at this path. -/
  | test (path : List Json.Token) (value : Json)
  /-- Put this value at this path, which must exist. -/
  | replace (path : List Json.Token) (value : Json)
  deriving DecidableEq, Repr

/-- One operation: the document it leaves, if it goes through. -/
def PatchOp.apply (doc : Json) : PatchOp → Option Json
  | .test path value => (doc.at? path).bind fun w => if w.same value then some doc else none
  | .replace path value => doc.replaceAt? path value

/-- **A patch is atomic**: it leaves a document only if each of its operations went
through. -/
def applyPatch (doc : Json) : List PatchOp → Option Json
  | [] => some doc
  | op :: ops => (op.apply doc).bind fun doc' => applyPatch doc' ops

end IncidentAgent
