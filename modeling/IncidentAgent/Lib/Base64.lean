import Mathlib.Tactic.Common

/-!
# Base 64 with the alphabet of URLs

Three bytes are written as four digits of six bits each. Of the last group, one byte is written
as two digits and two bytes as three, and the group is filled up with `=` (`Base64.encode`).
The signs that fill up a text carry nothing: they can be taken off and put back from the length
of what is left (`Base64.pad_body`), and a text that was encoded is decoded to its bytes
(`Base64.decode_encode`).
-/

namespace IncidentAgent

namespace Base64

/-! ### Digits -/

/-- A digit of the alphabet. -/
def digit (n : Nat) : Char :=
  if n < 26 then Char.ofNat (65 + n)
  else if n < 52 then Char.ofNat (71 + n)
  else if n < 62 then Char.ofNat (n - 4)
  else if n = 62 then '-'
  else '_'

/-- The value of a digit. -/
def value (c : Char) : Option Nat :=
  if 65 ≤ c.toNat ∧ c.toNat < 91 then some (c.toNat - 65)
  else if 97 ≤ c.toNat ∧ c.toNat < 123 then some (c.toNat - 71)
  else if 48 ≤ c.toNat ∧ c.toNat < 58 then some (c.toNat + 4)
  else if c = '-' then some 62
  else if c = '_' then some 63
  else none

/-- Whether a character is a digit. -/
def isDigit (c : Char) : Bool := (value c).isSome

theorem value_digit {n : Nat} (h : n < 64) : value (digit n) = some n := by
  have hall : ((List.range 64).all fun n => value (digit n) = some n) = true := by decide
  simpa using List.all_eq_true.1 hall n (List.mem_range.2 h)

theorem isDigit_digit {n : Nat} (h : n < 64) : isDigit (digit n) = true := by
  rw [isDigit, value_digit h]
  rfl

/-! ### Texts -/

/-- The digits of bytes. -/
def body : List UInt8 → List Char
  | [] => []
  | [x] => [digit (x.toNat / 4), digit (x.toNat % 4 * 16)]
  | [x, y] =>
    [digit (x.toNat / 4), digit (x.toNat % 4 * 16 + y.toNat / 16), digit (y.toNat % 16 * 4)]
  | x :: y :: z :: rest =>
    digit (x.toNat / 4) :: digit (x.toNat % 4 * 16 + y.toNat / 16) ::
      digit (y.toNat % 16 * 4 + z.toNat / 64) :: digit (z.toNat % 64) :: body rest

/-- `"=" * (-len(text) % 4)` behind a text. -/
def pad (text : List Char) : List Char := text ++ List.replicate ((4 - text.length % 4) % 4) '='

/-- `base64.urlsafe_b64encode`. -/
def encode (bytes : List UInt8) : List Char := pad (body bytes)

/-- `text.rstrip("=")`. -/
def unpadded (text : List Char) : List Char := (text.reverse.dropWhile (· = '=')).reverse

/-- `base64.b64decode`, where nothing but digits and the signs that fill up the last group is
accepted. -/
def decode : List Char → Option (List UInt8)
  | [] => some []
  | a :: b :: c :: d :: rest => do
    let x ← value a
    let y ← value b
    if c = '=' ∧ d = '=' ∧ rest = [] then
      some [UInt8.ofNat (x * 4 + y / 16)]
    else
      let z ← value c
      if d = '=' ∧ rest = [] then
        some [UInt8.ofNat (x * 4 + y / 16), UInt8.ofNat (y % 16 * 16 + z / 4)]
      else
        let w ← value d
        let bytes ← decode rest
        some (UInt8.ofNat (x * 4 + y / 16) :: UInt8.ofNat (y % 16 * 16 + z / 4) ::
          UInt8.ofNat (z % 4 * 64 + w) :: bytes)
  | _ => none

/-! ### Texts that are filled up -/

/-- The digits of bytes are digits. -/
theorem isDigit_body (bytes : List UInt8) : ∀ c ∈ body bytes, isDigit c = true := by
  induction bytes using body.induct with
  | case1 => simp [body]
  | case2 x =>
    have hx := x.toNat_lt
    simp only [body, List.mem_cons, List.not_mem_nil, or_false]
    rintro c (rfl | rfl) <;> exact isDigit_digit (by omega)
  | case3 x y =>
    have hx := x.toNat_lt
    have hy := y.toNat_lt
    simp only [body, List.mem_cons, List.not_mem_nil, or_false]
    rintro c (rfl | rfl | rfl) <;> exact isDigit_digit (by omega)
  | case4 x y z rest ih =>
    have hx := x.toNat_lt
    have hy := y.toNat_lt
    have hz := z.toNat_lt
    simp only [body, List.mem_cons]
    rintro c (rfl | rfl | rfl | rfl | hc)
    · exact isDigit_digit (by omega)
    · exact isDigit_digit (by omega)
    · exact isDigit_digit (by omega)
    · exact isDigit_digit (by omega)
    · exact ih c hc

theorem length_body_le (bytes : List UInt8) :
    (body bytes).length ≤ 4 * ((bytes.length + 2) / 3) := by
  induction bytes using body.induct with
  | case1 => simp [body]
  | case2 x => simp [body]
  | case3 x y => simp [body]
  | case4 x y z rest ih =>
    simp only [body, List.length_cons]
    omega

theorem body_ne_nil {bytes : List UInt8} (h : bytes ≠ []) : body bytes ≠ [] := by
  cases bytes using body.induct with
  | case1 => exact absurd rfl h
  | case2 x => simp [body]
  | case3 x y => simp [body]
  | case4 x y z rest => simp [body]

/-- **What fills up a text can be taken off.** -/
theorem unpadded_encode (bytes : List UInt8) : unpadded (encode bytes) = body bytes := by
  have hnone : ∀ c ∈ (body bytes).reverse, c ≠ '=' := by
    rintro c hc rfl
    have hdigit := isDigit_body bytes '=' (List.mem_reverse.1 hc)
    revert hdigit
    decide
  have hdrop (n : ℕ) (text : List Char) (htext : ∀ c ∈ text, c ≠ '=') :
      (List.replicate n '=' ++ text).dropWhile (· = '=') = text := by
    induction n with
    | zero =>
      cases text with
      | nil => rfl
      | cons c rest => exact List.dropWhile_cons_of_neg (by simpa using htext c List.mem_cons_self)
    | succ n ih =>
      rw [List.replicate_succ, List.cons_append, List.dropWhile_cons_of_pos (by simp), ih]
  rw [unpadded, encode, pad, List.reverse_append, List.reverse_replicate, hdrop _ _ hnone,
    List.reverse_reverse]

/-- **What was taken off can be put back.** -/
theorem pad_body (bytes : List UInt8) : pad (body bytes) = encode bytes := rfl

/-! ### The bytes of a text -/

theorem digit_ne_pad {n : Nat} (h : n < 64) : digit n ≠ '=' := by
  intro he
  have hdigit := isDigit_digit h
  rw [he] at hdigit
  revert hdigit
  decide

theorem ofNat_eq {x : UInt8} {n : Nat} (h : n = x.toNat) : UInt8.ofNat n = x := by
  rw [h, UInt8.ofNat_toNat]

/-- A text of full groups is filled up with nothing before the last one. -/
theorem pad_cons (a b c d : Char) (text : List Char) :
    pad (a :: b :: c :: d :: text) = a :: b :: c :: d :: pad text := by
  have hlength : (text.length + 1 + 1 + 1 + 1) % 4 = text.length % 4 := by omega
  simp only [pad, List.length_cons, hlength, List.cons_append]

/-- **What was encoded is decoded.** -/
theorem decode_encode (bytes : List UInt8) : decode (encode bytes) = some bytes := by
  rw [encode]
  induction bytes using body.induct with
  | case1 => rfl
  | case2 x =>
    have hx := x.toNat_lt
    have hpad : pad (body [x]) = [digit (x.toNat / 4), digit (x.toNat % 4 * 16), '=', '='] := rfl
    rw [hpad, decode, value_digit (by omega), value_digit (by omega)]
    simp only [Option.bind_eq_bind, Option.bind_some, and_self, if_true]
    rw [ofNat_eq (x := x) (by omega)]
  | case3 x y =>
    have hx := x.toNat_lt
    have hy := y.toNat_lt
    have hpad : pad (body [x, y]) = [digit (x.toNat / 4),
      digit (x.toNat % 4 * 16 + y.toNat / 16), digit (y.toNat % 16 * 4), '='] := rfl
    rw [hpad, decode, value_digit (by omega), value_digit (by omega), value_digit (by omega)]
    simp only [Option.bind_eq_bind, Option.bind_some, and_self, if_true,
      digit_ne_pad (show y.toNat % 16 * 4 < 64 by omega), false_and, if_false]
    rw [ofNat_eq (x := x) (by omega), ofNat_eq (x := y) (by omega)]
  | case4 x y z rest ih =>
    have hx := x.toNat_lt
    have hy := y.toNat_lt
    have hz := z.toNat_lt
    rw [body, pad_cons, decode, value_digit (by omega), value_digit (by omega),
      value_digit (by omega), value_digit (by omega)]
    simp only [Option.bind_eq_bind, Option.bind_some, ih,
      digit_ne_pad (show y.toNat % 16 * 4 + z.toNat / 64 < 64 by omega),
      digit_ne_pad (show z.toNat % 64 < 64 by omega), false_and, if_false]
    rw [ofNat_eq (x := x) (by omega), ofNat_eq (x := y) (by omega), ofNat_eq (x := z) (by omega)]

end Base64

end IncidentAgent
