import IncidentAgent.Lib.JsonText

/-!
# A reader of JSON texts

The text that `json.dumps(value, separators=(",", ":"))` writes for a value, in which every
character beyond ASCII is escaped (`Json.asciiDumps`), and the reader `json.loads` of JSON texts
(`Json.loads`). A character beyond the basic plane is written as a pair of surrogates; the reader
accepts surrogates in pairs only, since an unpaired one is no character.

The reader goes through a text from the left, and gives with what it has read what is left
(`Json.readValue`). A number bounds its steps; it is never used up, as it is larger than the
text. The result is `Json.loads_asciiDumps`: what was written is read as it was, where names are
distinct and numbers can be written at all.
-/

namespace IncidentAgent

/-! ### Characters -/

/-- The escape of a code unit. -/
def unitEscape (n : Nat) : List Char :=
  ['\\', 'u', hexDigit (n / 4096), hexDigit (n / 256 % 16), hexDigit (n / 16 % 16),
    hexDigit (n % 16)]

/-- The code units of a character: a pair of surrogates, beyond the basic plane. -/
def unitsOf (c : Char) : List Nat :=
  if c.toNat < 0x10000 then [c.toNat]
  else [0xD800 + (c.toNat - 0x10000) / 1024, 0xDC00 + (c.toNat - 0x10000) % 1024]

/-- A character in a JSON text of ASCII characters. -/
def asciiEscaped (c : Char) : List Char :=
  if c = '"' then ['\\', '"']
  else if c = '\\' then ['\\', '\\']
  else if c = '\n' then ['\\', 'n']
  else if c = '\r' then ['\\', 'r']
  else if c = '\t' then ['\\', 't']
  else if c.toNat = 8 then ['\\', 'b']
  else if c.toNat = 12 then ['\\', 'f']
  else if 32 ≤ c.toNat ∧ c.toNat < 127 then [c]
  else (unitsOf c).flatMap unitEscape

/-- A text in quotation marks. -/
def asciiQuoted (s : String) : List Char := '"' :: (s.toList.flatMap asciiEscaped ++ ['"'])

namespace Json

mutual

/-- `json.dumps(value, separators=(",", ":"))`. -/
def asciiDumps : Json → List Char
  | .null => ['n', 'u', 'l', 'l']
  | .bool true => ['t', 'r', 'u', 'e']
  | .bool false => ['f', 'a', 'l', 's', 'e']
  | .num n => (toString n).toList
  | .str s => asciiQuoted s
  | .arr items => '[' :: (asciiItems items ++ [']'])
  | .obj members => '\x7b' :: (asciiMembers members ++ ['\x7d'])

/-- The items of an array, with commas between them. -/
def asciiItems : List Json → List Char
  | [] => []
  | [v] => v.asciiDumps
  | v :: w :: rest => v.asciiDumps ++ ',' :: asciiItems (w :: rest)

/-- The members of an object, with commas between them. -/
def asciiMembers : List (String × Json) → List Char
  | [] => []
  | [(k, v)] => asciiQuoted k ++ ':' :: v.asciiDumps
  | (k, v) :: m :: rest => asciiQuoted k ++ ':' :: (v.asciiDumps ++ ',' :: asciiMembers (m :: rest))

end

/-! ### The reader -/

/-- The value of a digit of the base 16. -/
def hexValue (c : Char) : Option Nat :=
  if '0' ≤ c ∧ c ≤ '9' then some (c.toNat - 48)
  else if 'a' ≤ c ∧ c ≤ 'f' then some (c.toNat - 87)
  else if 'A' ≤ c ∧ c ≤ 'F' then some (c.toNat - 55)
  else none

/-- The code unit of four digits. -/
def hexUnit (a b c d : Char) : Option Nat := do
  let x ← hexValue a
  let y ← hexValue b
  let z ← hexValue c
  let w ← hexValue d
  pure (x * 4096 + y * 256 + z * 16 + w)

/-- The character that a letter behind a backslash stands for. -/
def shortEscape (c : Char) : Option Nat :=
  if c = '"' then some 34
  else if c = '\\' then some 92
  else if c = '/' then some 47
  else if c = 'b' then some 8
  else if c = 'f' then some 12
  else if c = 'n' then some 10
  else if c = 'r' then some 13
  else if c = 't' then some 9
  else none

/-- The code units of a text up to its quotation mark, and what is behind it. -/
def readUnits : List Char → Option (List Nat × List Char)
  | [] => none
  | '"' :: rest => some ([], rest)
  | '\\' :: 'u' :: a :: b :: c :: d :: rest => do
    let unit ← hexUnit a b c d
    let (units, left) ← readUnits rest
    pure (unit :: units, left)
  | '\\' :: c :: rest => do
    let unit ← shortEscape c
    let (units, left) ← readUnits rest
    pure (unit :: units, left)
  | c :: rest => do
    let (units, left) ← readUnits rest
    if c.toNat < 32 ∨ c = '\\' then none else pure (c.toNat :: units, left)

/-- The characters of code units, with the surrogates in pairs. -/
def joinUnits : List Nat → Option (List Char)
  | [] => some []
  | [n] => if 0xD800 ≤ n ∧ n < 0xE000 then none else some [Char.ofNat n]
  | n :: m :: rest =>
    if 0xD800 ≤ n ∧ n < 0xDC00 then
      if 0xDC00 ≤ m ∧ m < 0xE000 then
        (joinUnits rest).map (Char.ofNat (0x10000 + (n - 0xD800) * 1024 + (m - 0xDC00)) :: ·)
      else none
    else if 0xDC00 ≤ n ∧ n < 0xE000 then none
    else (joinUnits (m :: rest)).map (Char.ofNat n :: ·)

/-- A text, behind its first quotation mark. -/
def readText (input : List Char) : Option (String × List Char) := do
  let (units, left) ← readUnits input
  let text ← joinUnits units
  pure (String.ofList text, left)

/-- What is behind white space. -/
def skipSpace (input : List Char) : List Char :=
  input.dropWhile fun c => c = ' ' ∨ c = '\t' ∨ c = '\n' ∨ c = '\r'

/-- The characters of a fraction at the beginning. -/
def fraction (input : List Char) : List Char :=
  match input with
  | '.' :: rest =>
    if rest.takeWhile Char.isDigit = [] then [] else '.' :: rest.takeWhile Char.isDigit
  | _ => []

/-- The characters of an exponent at the beginning. -/
def exponent (input : List Char) : List Char :=
  match input with
  | e :: rest =>
    let sign := if rest.head? = some '+' ∨ rest.head? = some '-' then rest.take 1 else []
    let digits := (rest.drop sign.length).takeWhile Char.isDigit
    if (e = 'e' ∨ e = 'E') ∧ digits ≠ [] then e :: (sign ++ digits) else []
  | _ => []

/-- A number without its sign: the digits before a fraction, and the characters behind them. -/
def readDigits (input : List Char) : Option (List Char × List Char × List Char) :=
  let digits := if input.head? = some '0' then ['0'] else input.takeWhile Char.isDigit
  if digits = [] then none
  else
    let rest := input.drop digits.length
    let part := fraction rest
    let tail := part ++ exponent (rest.drop part.length)
    some (digits, tail, rest.drop tail.length)

/-- `sys.int_info.default_max_str_digits`: a number with more digits cannot be read. -/
@[irreducible] def digitLimit : Nat := 4300

theorem digitLimit_pos : 0 < digitLimit := by
  unfold digitLimit
  decide

/-- A number. What has a fraction or an exponent is left to a function. -/
def readNumber (float : List Char → Json) (input : List Char) : Option (Json × List Char) := do
  let negative := input.head? = some '-'
  let (digits, tail, left) ← readDigits (if negative then input.drop 1 else input)
  let n := Nat.ofDigitChars 10 digits 0
  if tail ≠ [] then
    pure (float ((if negative then ['-'] else []) ++ digits ++ tail), left)
  else if digitLimit < digits.length then none
  else pure (.num (if negative then -(n : Int) else n), left)

/-- The constants. Those that are no JSON are left to a function. -/
def constants (float : List Char → Json) : List (List Char × Json) :=
  [(['n', 'u', 'l', 'l'], .null), (['t', 'r', 'u', 'e'], .bool true),
    (['f', 'a', 'l', 's', 'e'], .bool false), (['N', 'a', 'N'], float ['N', 'a', 'N']),
    (['I', 'n', 'f', 'i', 'n', 'i', 't', 'y'], float ['I', 'n', 'f', 'i', 'n', 'i', 't', 'y']),
    (['-', 'I', 'n', 'f', 'i', 'n', 'i', 't', 'y'],
      float ['-', 'I', 'n', 'f', 'i', 'n', 'i', 't', 'y'])]

/-- A constant at the beginning of a text. -/
def readConstant (float : List Char → Json) (input : List Char) : Option (Json × List Char) :=
  (constants float).findSome? fun constant =>
    if constant.1 <+: input then some (constant.2, input.drop constant.1.length) else none

mutual

/-- A value at the beginning of a text, and what is behind it. -/
def readValue (float : List Char → Json) : Nat → List Char → Option (Json × List Char)
  | 0, _ => none
  | n + 1, input =>
    match input with
    | '"' :: rest => (readText rest).map fun r => (.str r.1, r.2)
    | '[' :: rest =>
      match skipSpace rest with
      | ']' :: left => some (.arr [], left)
      | rest => (readItems float n rest).map fun r => (.arr r.1, r.2)
    | '\x7b' :: rest =>
      match skipSpace rest with
      | '\x7d' :: left => some (.obj [], left)
      | rest => (readMembers float n [] rest).map fun r => (.obj r.1, r.2)
    | input => (readConstant float input).or (readNumber float input)

/-- The items of an array, from one of them on. -/
def readItems (float : List Char → Json) : Nat → List Char → Option (List Json × List Char)
  | 0, _ => none
  | n + 1, input => do
    let (v, rest) ← readValue float n input
    match skipSpace rest with
    | ']' :: left => pure ([v], left)
    | ',' :: rest =>
      let (vs, left) ← readItems float n (skipSpace rest)
      pure (v :: vs, left)
    | _ => none

/-- The members of an object, from one of them on, with those that were read before. -/
def readMembers (float : List Char → Json) :
    Nat → List (String × Json) → List Char → Option (List (String × Json) × List Char)
  | 0, _, _ => none
  | n + 1, before, input =>
    match input with
    | '"' :: rest => do
      let (k, rest) ← readText rest
      match skipSpace rest with
      | ':' :: rest => do
        let (v, rest) ← readValue float n (skipSpace rest)
        match skipSpace rest with
        | '\x7d' :: left => pure (insertMember k v before, left)
        | ',' :: rest => readMembers float n (insertMember k v before) (skipSpace rest)
        | _ => none
      | _ => none
    | _ => none

end

/-- `json.loads`. -/
def loads (float : List Char → Json) (input : List Char) : Option Json := do
  let (v, rest) ← readValue float (2 * input.length + 1) (skipSpace input)
  if skipSpace rest = [] then pure v else none

/-! ### Texts that were written are read -/

theorem hexValue_hexDigit {n : Nat} (h : n < 16) : hexValue (hexDigit n) = some n := by
  have hall : ((List.range 16).all fun n => hexValue (hexDigit n) = some n) = true := by decide
  simpa using List.all_eq_true.1 hall n (List.mem_range.2 h)

theorem readUnits_unitEscape {n : Nat} (h : n < 65536) (rest : List Char) :
    readUnits (unitEscape n ++ rest) = (readUnits rest).map fun r => (n :: r.1, r.2) := by
  have hunit : n / 4096 * 4096 + n / 256 % 16 * 256 + n / 16 % 16 * 16 + n % 16 = n := by omega
  have hhex : hexUnit (hexDigit (n / 4096)) (hexDigit (n / 256 % 16)) (hexDigit (n / 16 % 16))
      (hexDigit (n % 16)) = some n := by
    rw [hexUnit, hexValue_hexDigit (by omega), hexValue_hexDigit (by omega),
      hexValue_hexDigit (by omega), hexValue_hexDigit (by omega)]
    exact congrArg some hunit
  rw [unitEscape, List.cons_append, List.cons_append, List.cons_append, List.cons_append,
    List.cons_append, List.cons_append, List.nil_append, readUnits, hhex]
  cases readUnits rest with
  | none => rfl
  | some r => rfl

/-- A character behind a backslash. -/
theorem readUnits_shortEscape {c : Char} {n : Nat} (hc : c ≠ 'u') (h : shortEscape c = some n)
    (rest : List Char) :
    readUnits ('\\' :: c :: rest) = (readUnits rest).map fun r => (n :: r.1, r.2) := by
  rw [readUnits, h]
  · cases readUnits rest with
    | none => rfl
    | some r => rfl
  · intro a b d e left hu
    exact absurd hu hc

/-- A character that stands for itself. -/
theorem readUnits_plain {c : Char} (hquote : c ≠ '"') (hback : c ≠ '\\') (h : 32 ≤ c.toNat)
    (rest : List Char) :
    readUnits (c :: rest) = (readUnits rest).map fun r => (c.toNat :: r.1, r.2) := by
  have hnot : ¬(c.toNat < 32 ∨ c = '\\') := by
    rintro (hlt | hc)
    · omega
    · exact hback hc
  rw [readUnits]
  · cases readUnits rest with
    | none => rfl
    | some r => simp [hnot]
  · exact hquote
  · intro a b d e left hc
    exact absurd hc hback
  · intro d left hc
    exact absurd hc hback

theorem toNat_lt (c : Char) : c.toNat < 0x110000 := by
  have hvalid := c.valid
  simp only [UInt32.isValidChar, Nat.isValidChar] at hvalid
  show c.val.toNat < 0x110000
  omega

theorem toNat_not_surrogate (c : Char) : ¬(0xD800 ≤ c.toNat ∧ c.toNat < 0xE000) := by
  have hvalid := c.valid
  simp only [UInt32.isValidChar, Nat.isValidChar] at hvalid
  show ¬(0xD800 ≤ c.val.toNat ∧ c.val.toNat < 0xE000)
  omega

/-- **A character that was escaped** is read as its code units. -/
theorem readUnits_asciiEscaped (c : Char) (rest : List Char) :
    readUnits (asciiEscaped c ++ rest) =
      (readUnits rest).map fun r => (unitsOf c ++ r.1, r.2) := by
  have hone (h : c.toNat < 0x10000) : unitsOf c = [c.toNat] := if_pos h
  unfold asciiEscaped
  split
  · rename_i hc
    subst hc
    exact readUnits_shortEscape (by decide) rfl rest
  split
  · rename_i hc
    subst hc
    exact readUnits_shortEscape (by decide) rfl rest
  split
  · rename_i hc
    subst hc
    exact readUnits_shortEscape (by decide) rfl rest
  split
  · rename_i hc
    subst hc
    exact readUnits_shortEscape (by decide) rfl rest
  split
  · rename_i hc
    subst hc
    exact readUnits_shortEscape (by decide) rfl rest
  split
  · rename_i hc
    rw [hone (by omega), hc]
    exact readUnits_shortEscape (by decide) rfl rest
  split
  · rename_i hc
    rw [hone (by omega), hc]
    exact readUnits_shortEscape (by decide) rfl rest
  split
  · rename_i hquote hback _ _ _ _ _ hc
    rw [hone (by omega)]
    exact readUnits_plain hquote hback hc.1 rest
  · have hlt := toNat_lt c
    unfold unitsOf
    split
    · rename_i hbasic
      rw [List.flatMap_cons, List.flatMap_nil, List.append_nil, readUnits_unitEscape (by omega)]
      rfl
    · rw [List.flatMap_cons, List.flatMap_cons, List.flatMap_nil, List.append_nil,
        List.append_assoc, readUnits_unitEscape (by omega), readUnits_unitEscape (by omega)]
      cases readUnits rest <;> rfl

theorem readUnits_escapedText (text rest : List Char) :
    readUnits (text.flatMap asciiEscaped ++ '"' :: rest) = some (text.flatMap unitsOf, rest) := by
  induction text with
  | nil => rfl
  | cons c text ih =>
    rw [List.flatMap_cons, List.append_assoc, readUnits_asciiEscaped, ih, List.flatMap_cons]
    rfl

/-- **The code units of a character** are joined to the character. -/
theorem joinUnits_unitsOf (c : Char) (units : List Nat) :
    joinUnits (unitsOf c ++ units) = (joinUnits units).map (c :: ·) := by
  have hsurrogate := toNat_not_surrogate c
  have hlt := toNat_lt c
  unfold unitsOf
  split
  · have hlow : ¬(0xD800 ≤ c.toNat ∧ c.toNat < 0xDC00) := fun h => hsurrogate ⟨h.1, by omega⟩
    have hhigh : ¬(0xDC00 ≤ c.toNat ∧ c.toNat < 0xE000) := fun h => hsurrogate ⟨by omega, h.2⟩
    cases units with
    | nil =>
      have hjoin : joinUnits [c.toNat] = some [Char.ofNat c.toNat] := if_neg hsurrogate
      rw [List.append_nil, hjoin, Char.ofNat_toNat]
      rfl
    | cons m rest =>
      rw [List.cons_append, List.nil_append, joinUnits, if_neg hlow, if_neg hhigh,
        Char.ofNat_toNat]
  · rename_i hbasic
    have hjoin : 0x10000 + (0xD800 + (c.toNat - 0x10000) / 1024 - 0xD800) * 1024 +
        (0xDC00 + (c.toNat - 0x10000) % 1024 - 0xDC00) = c.toNat := by omega
    rw [List.cons_append, List.cons_append, List.nil_append, joinUnits,
      if_pos (by omega), if_pos (by omega), hjoin, Char.ofNat_toNat]

theorem joinUnits_text (text : List Char) : joinUnits (text.flatMap unitsOf) = some text := by
  induction text with
  | nil => rfl
  | cons c text ih => rw [List.flatMap_cons, joinUnits_unitsOf, ih, Option.map_some]

/-- **A text that was written is read.** -/
theorem readText_asciiQuoted (s : String) (rest : List Char) :
    readText (s.toList.flatMap asciiEscaped ++ '"' :: rest) = some (s, rest) := by
  rw [readText, readUnits_escapedText]
  simp only [Option.bind_eq_bind, Option.bind_some, joinUnits_text, String.ofList_toList]
  rfl

/-! ### Numbers that were written are read -/

/-- Whether no number goes on at the beginning of a text. -/
def stopsNumber : List Char → Bool
  | [] => true
  | c :: _ => !(c.isDigit || c = '.' || c = 'e' || c = 'E')

theorem head_toDigits {n : Nat} (h : (Nat.toDigits 10 n).head? = some '0') : n = 0 := by
  induction n using Nat.strongRecOn with
  | ind n ih =>
    by_cases hn : n < 10
    · have hall : ((List.range 10).all fun n => n.digitChar != '0' || n = 0) = true := by decide
      have hone := List.all_eq_true.1 hall n (List.mem_range.2 hn)
      rw [Nat.toDigits_of_lt_base hn, List.head?_cons, Option.some.injEq] at h
      simpa [h] using hone
    · have hne : Nat.toDigits 10 (n / 10) ≠ [] := List.ne_nil_of_length_pos Nat.length_toDigits_pos
      rw [Nat.toDigits_of_base_le (by omega) (by omega), List.head?_append_of_ne_nil _ hne] at h
      have hzero := ih (n / 10) (by omega) h
      omega

theorem fraction_of_stops {rest : List Char} (h : stopsNumber rest = true) : fraction rest = [] := by
  unfold fraction
  split
  · simp [stopsNumber] at h
  · rfl

theorem exponent_of_stops {rest : List Char} (h : stopsNumber rest = true) : exponent rest = [] := by
  cases rest with
  | nil => rfl
  | cons c rest =>
    simp only [stopsNumber, Bool.not_eq_true', Bool.or_eq_false_iff, decide_eq_false_iff_not] at h
    have hc : ¬((c = 'e' ∨ c = 'E') ∧ (List.drop (if rest.head? = some '+' ∨
        rest.head? = some '-' then rest.take 1 else []).length rest).takeWhile Char.isDigit ≠
          []) := by
      rintro ⟨he | he, -⟩
      · exact h.1.2 he
      · exact h.2 he
    exact if_neg hc

/-- The digits of a number are taken, and what is behind them is left. -/
theorem readDigits_toDigits (n : Nat) {rest : List Char} (h : stopsNumber rest = true) :
    readDigits (Nat.toDigits 10 n ++ rest) = some (Nat.toDigits 10 n, [], rest) := by
  have hne : Nat.toDigits 10 n ≠ [] := List.ne_nil_of_length_pos Nat.length_toDigits_pos
  have hdigits : (if (Nat.toDigits 10 n ++ rest).head? = some '0' then ['0']
      else (Nat.toDigits 10 n ++ rest).takeWhile Char.isDigit) = Nat.toDigits 10 n := by
    split
    · rename_i hhead
      rw [List.head?_append_of_ne_nil _ hne] at hhead
      rw [head_toDigits hhead, Nat.toDigits_zero]
    · have hrest : rest.takeWhile Char.isDigit = [] := by
        cases rest with
        | nil => rfl
        | cons c rest =>
          simp only [stopsNumber, Bool.not_eq_true', Bool.or_eq_false_iff] at h
          exact List.takeWhile_cons_of_neg (by simp [h.1.1.1])
      rw [List.takeWhile_append_of_pos fun c hc =>
        Nat.isDigit_of_mem_toDigits (by omega) (by omega) hc, hrest, List.append_nil]
  rw [readDigits]
  simp only [hdigits, hne, if_false, List.drop_left, fraction_of_stops h, List.length_nil,
    List.drop_zero, exponent_of_stops h, List.append_nil]

/-- The text of a natural number begins with a digit. -/
theorem exists_toDigits (n : Nat) :
    ∃ c rest, Nat.toDigits 10 n = c :: rest ∧ c.isDigit = true := by
  cases hdigits : Nat.toDigits 10 n with
  | nil =>
    have hpos : 0 < (Nat.toDigits 10 n).length := Nat.length_toDigits_pos
    rw [hdigits] at hpos
    cases hpos
  | cons c rest =>
    have hmem : c ∈ Nat.toDigits 10 n := by
      rw [hdigits]
      exact List.mem_cons_self
    exact ⟨c, rest, rfl, Nat.isDigit_of_mem_toDigits (by decide) (by decide) hmem⟩

/-- The text of a number. -/
theorem toList_toString (n : Int) : (toString n).toList =
    if 0 ≤ n then Nat.toDigits 10 n.natAbs else '-' :: Nat.toDigits 10 n.natAbs := by
  rw [Int.toString_eq_repr, Int.repr_eq_if]
  split
  · rename_i hn
    rw [Nat.repr_eq_ofList_toDigits, String.toList_ofList]
    congr 1
    omega
  · rename_i hn
    have hneg : (-n).toNat = n.natAbs := by omega
    rw [String.toList_append, hneg, Nat.repr_eq_ofList_toDigits]
    simp only [String.toList_ofList]
    rfl

/-- **A number that was written is read.** -/
theorem readNumber_toString (float : List Char → Json) {n : Int} (hn : n.natAbs < 10 ^ digitLimit)
    {rest : List Char} (h : stopsNumber rest = true) :
    readNumber float ((toString n).toList ++ rest) = some (.num n, rest) := by
  have hlong : ¬digitLimit < (Nat.toDigits 10 n.natAbs).length :=
    Nat.not_lt.2 ((Nat.length_toDigits_le_iff (by decide) digitLimit_pos).2 hn)
  rw [toList_toString, readNumber]
  split
  · rename_i hpos
    obtain ⟨c, digits, hdigits, hc⟩ := exists_toDigits n.natAbs
    have hhead : (Nat.toDigits 10 n.natAbs ++ rest).head? ≠ some '-' := by
      rw [hdigits, List.cons_append, List.head?_cons]
      intro he
      rw [Option.some.inj he] at hc
      revert hc
      decide
    have hvalue : ((n.natAbs : Nat) : Int) = n := Int.natAbs_of_nonneg hpos
    simp only [hhead, if_false, readDigits_toDigits _ h,
      Option.bind_eq_bind, Option.bind_some, ne_eq, not_true_eq_false, hlong,
      Nat.ofDigitChars_ten_toDigits, hvalue]
    rfl
  · rename_i hneg
    have hvalue : -((n.natAbs : Nat) : Int) = n := by omega
    simp only [List.cons_append, List.head?_cons, if_true, List.drop_succ_cons,
      List.drop_zero, readDigits_toDigits _ h, Option.bind_eq_bind, Option.bind_some, ne_eq,
      not_true_eq_false, if_false, hlong, Nat.ofDigitChars_ten_toDigits, hvalue]
    rfl

/-! ### Values that were written are read -/

mutual

/-- Whether the numbers of a value have no more digits than can be read. -/
def shortNumbers : Json → Bool
  | .num n => n.natAbs < 10 ^ digitLimit
  | .arr items => shortItems items
  | .obj members => shortMembers members
  | _ => true

def shortItems : List Json → Bool
  | [] => true
  | v :: rest => v.shortNumbers && shortItems rest

def shortMembers : List (String × Json) → Bool
  | [] => true
  | (_, v) :: rest => v.shortNumbers && shortMembers rest

end

/-- The characters that a value that was written begins with: none of them is white space or
closes an array or an object. -/
theorem exists_asciiDumps (v : Json) : ∃ c rest, v.asciiDumps = c :: rest ∧
    (c.isDigit = true ∨ c ∈ ['"', '[', '\x7b', 'n', 't', 'f', '-']) := by
  cases v with
  | null => exact ⟨'n', _, rfl, Or.inr (by simp)⟩
  | bool b =>
    cases b with
    | false => exact ⟨'f', _, rfl, Or.inr (by simp)⟩
    | true => exact ⟨'t', _, rfl, Or.inr (by simp)⟩
  | num n =>
    obtain ⟨c, rest, hdigits, hc⟩ := exists_toDigits n.natAbs
    rw [asciiDumps, toList_toString]
    split
    · exact ⟨c, rest, hdigits, Or.inl hc⟩
    · exact ⟨'-', _, rfl, Or.inr (by simp)⟩
  | str s => exact ⟨'"', _, rfl, Or.inr (by simp)⟩
  | arr items => exact ⟨'[', _, rfl, Or.inr (by simp)⟩
  | obj members => exact ⟨'\x7b', _, rfl, Or.inr (by simp)⟩

/-- No value begins with one of these characters. -/
theorem asciiDumps_head {v : Json} {c : Char} {rest : List Char} (h : v.asciiDumps = c :: rest) :
    c ∉ [' ', '\t', '\n', '\r', ']', '\x7d'] := by
  obtain ⟨d, rest', hd, hkind⟩ := exists_asciiDumps v
  obtain rfl : c = d := (List.cons.inj (h.symm.trans hd)).1
  intro hmem
  have hnone : ([' ', '\t', '\n', '\r', ']', '\x7d'].all fun c => !c.isDigit &&
      c ∉ ['"', '[', '\x7b', 'n', 't', 'f', '-']) = true := by decide
  have hone := List.all_eq_true.1 hnone c hmem
  rw [Bool.and_eq_true, Bool.not_eq_true'] at hone
  rcases hkind with hdigit | hin
  · rw [hone.1] at hdigit
    cases hdigit
  · exact of_decide_eq_true hone.2 hin

theorem skipSpace_cons {c : Char} (h : c ∉ [' ', '\t', '\n', '\r']) (rest : List Char) :
    skipSpace (c :: rest) = c :: rest := by
  refine List.dropWhile_cons_of_neg ?_
  simpa only [List.mem_cons, List.not_mem_nil, or_false, decide_eq_true_eq] using h

/-- There is no white space before a value that was written. -/
theorem skipSpace_asciiDumps (v : Json) (rest : List Char) :
    skipSpace (v.asciiDumps ++ rest) = v.asciiDumps ++ rest := by
  obtain ⟨c, text, htext, -⟩ := exists_asciiDumps v
  have hc := asciiDumps_head htext
  rw [htext, List.cons_append]
  refine skipSpace_cons (fun hmem => hc ?_) _
  exact List.mem_append_left [']', '\x7d'] hmem

variable {float : List Char → Json}

/-- What is no text, no array and no object. -/
theorem readValue_scalar {n : Nat} {c : Char} {rest : List Char}
    (h : c ≠ '"' ∧ c ≠ '[' ∧ c ≠ '\x7b') : readValue float (n + 1) (c :: rest) =
      (readConstant float (c :: rest)).or (readNumber float (c :: rest)) := by
  rw [readValue]
  · exact fun left he => h.1 (List.cons.inj he).1
  · exact fun left he => h.2.1 (List.cons.inj he).1
  · exact fun left he => h.2.2 (List.cons.inj he).1

/-- No constant begins like a number. -/
theorem readConstant_number (n : Int) (rest : List Char) :
    readConstant float ((toString n).toList ++ rest) = none := by
  obtain ⟨c, digits, hdigits, hc⟩ := exists_toDigits n.natAbs
  have hletters : (['n', 't', 'f', 'N', 'I', '-'].all fun c => !c.isDigit) = true := by decide
  have hne (d : Char) (hd : d ∈ ['n', 't', 'f', 'N', 'I', '-']) : d ≠ c := by
    rintro rfl
    have hnot := List.all_eq_true.1 hletters d hd
    rw [hc] at hnot
    cases hnot
  rw [toList_toString, readConstant, List.findSome?_eq_none_iff]
  intro constant hconstant
  refine if_neg ?_
  simp only [constants, List.mem_cons, List.not_mem_nil, or_false] at hconstant
  rw [hdigits]
  split
  · rcases hconstant with rfl | rfl | rfl | rfl | rfl | rfl <;>
      exact fun hprefix => hne _ (by simp) (List.cons_prefix_cons.1 hprefix).1
  · rcases hconstant with rfl | rfl | rfl | rfl | rfl | rfl <;> intro hprefix
    all_goals obtain ⟨hfirst, hrest⟩ := List.cons_prefix_cons.1 hprefix
    -- Only `-Infinity` begins like a negative number, and not for long.
    on_goal 6 => exact hne 'I' (by simp) (List.cons_prefix_cons.1 hrest).1
    all_goals exact absurd hfirst (by decide)

theorem readValue_text (n : Nat) (s : String) (rest : List Char) :
    readValue float (n + 1) (asciiQuoted s ++ rest) = some (.str s, rest) := by
  have hinput : asciiQuoted s ++ rest = '"' :: (s.toList.flatMap asciiEscaped ++ '"' :: rest) := by
    rw [asciiQuoted, List.cons_append, List.append_assoc]
    rfl
  rw [hinput, readValue, readText_asciiQuoted]
  rfl

/-- An array with items. -/
theorem readValue_items {n : Nat} {input : List Char} (hspace : skipSpace input = input)
    (h : ∀ left, input ≠ ']' :: left) : readValue float (n + 1) ('[' :: input) =
      (readItems float n input).map fun r => (.arr r.1, r.2) := by
  rw [readValue, hspace]
  split
  · rename_i left
    exact absurd rfl (h left)
  · rfl

/-- An object with members. -/
theorem readValue_members {n : Nat} {rest : List Char} :
    readValue float (n + 1) ('\x7b' :: '"' :: rest) =
      (readMembers float n [] ('"' :: rest)).map fun r => (.obj r.1, r.2) := by
  rw [readValue, skipSpace_cons (by decide)]
  rfl

/-- A member whose value was read. -/
theorem readMembers_cons {n : Nat} {before : List (String × Json)} {k : String} {v : Json}
    {rest left : List Char} (hspace : skipSpace rest = rest)
    (h : readValue float n rest = some (v, left)) :
    readMembers float (n + 1) before (asciiQuoted k ++ ':' :: rest) =
      match skipSpace left with
      | '\x7d' :: left => some (insertMember k v before, left)
      | ',' :: left => readMembers float n (insertMember k v before) (skipSpace left)
      | _ => none := by
  have hinput : asciiQuoted k ++ ':' :: rest =
      '"' :: (k.toList.flatMap asciiEscaped ++ '"' :: ':' :: rest) := by
    rw [asciiQuoted, List.cons_append, List.append_assoc]
    rfl
  rw [hinput, readMembers, readText_asciiQuoted]
  simp only [Option.bind_eq_bind, Option.bind_some, skipSpace_cons (show ':' ∉ [' ', '\t', '\n',
    '\r'] by decide), hspace, h]
  rfl

/-- An item that was read. -/
theorem readItems_cons {n : Nat} {v : Json} {input left : List Char}
    (h : readValue float n input = some (v, left)) :
    readItems float (n + 1) input =
      match skipSpace left with
      | ']' :: left => some ([v], left)
      | ',' :: left => (readItems float n (skipSpace left)).map fun r => (v :: r.1, r.2)
      | _ => none := by
  rw [readItems, h]
  simp only [Option.bind_eq_bind, Option.bind_some]
  split
  · rfl
  · rename_i left _
    cases readItems float n (skipSpace left) <;> rfl
  · rfl

mutual

theorem readValue_asciiDumps : ∀ (v : Json) (n : Nat) (rest : List Char), v.distinct = true →
    v.shortNumbers = true → 2 * v.asciiDumps.length + 1 ≤ n → stopsNumber rest = true →
    readValue float n (v.asciiDumps ++ rest) = some (v, rest)
  | .null, n + 1, rest, _, _, _, _ => by
    rw [asciiDumps, List.cons_append, readValue_scalar (by decide)]
    rfl
  | .bool true, n + 1, rest, _, _, _, _ => by
    rw [asciiDumps, List.cons_append, readValue_scalar (by decide)]
    rfl
  | .bool false, n + 1, rest, _, _, _, _ => by
    rw [asciiDumps, List.cons_append, readValue_scalar (by decide)]
    rfl
  | .num k, n + 1, rest, _, hshort, _, hstops => by
    obtain ⟨c, text, htext, hkind⟩ := exists_asciiDumps (.num k)
    have hc : c ≠ '"' ∧ c ≠ '[' ∧ c ≠ '\x7b' := by
      have hhead := htext
      obtain ⟨d, digits, hdigits, hd⟩ := exists_toDigits k.natAbs
      rw [asciiDumps, toList_toString, hdigits] at hhead
      split at hhead
      · obtain rfl := (List.cons.inj hhead).1
        refine ⟨?_, ?_, ?_⟩ <;>
        · rintro rfl
          revert hd
          decide
      · obtain rfl := (List.cons.inj hhead).1
        decide
    rw [htext, List.cons_append, readValue_scalar hc, ← List.cons_append, ← htext, asciiDumps,
      readConstant_number, Option.none_or,
      readNumber_toString float (of_decide_eq_true hshort) hstops]
  | .str s, n + 1, rest, _, _, _, _ => readValue_text n s rest
  | .arr [], n + 1, rest, _, _, _, _ => by
    rw [asciiDumps, asciiItems, List.nil_append, List.cons_append, List.cons_append,
      List.nil_append, readValue, skipSpace_cons (by decide)]
    rfl
  | .arr (v :: vs), n + 1, rest, hdistinct, hshort, hn, _ => by
    have hread := readItems_asciiItems v vs n rest hdistinct hshort (by
      rw [asciiDumps, List.length_cons, List.length_append, List.length_singleton] at hn
      omega)
    obtain ⟨c, text, htext, -⟩ := exists_asciiDumps v
    have hhead := asciiDumps_head htext
    have hitems : ∃ more, asciiItems (v :: vs) ++ ']' :: rest = c :: more := by
      cases vs with
      | nil => exact ⟨_, by rw [asciiItems, htext]; rfl⟩
      | cons w ws => exact ⟨_, by rw [asciiItems, htext]; rfl⟩
    obtain ⟨more, hmore⟩ := hitems
    rw [asciiDumps, List.cons_append, List.append_assoc, List.singleton_append, readValue_items,
      hread]
    · rfl
    · rw [hmore]
      exact skipSpace_cons (fun hmem => hhead (List.mem_append_left [']', '\x7d'] hmem)) _
    · intro left he
      rw [hmore] at he
      exact hhead (by rw [(List.cons.inj he).1]; decide)
  | .obj [], n + 1, rest, _, _, _, _ => by
    rw [asciiDumps, asciiMembers, List.nil_append, List.cons_append, List.cons_append,
      List.nil_append, readValue, skipSpace_cons (by decide)]
    rfl
  | .obj ((k, v) :: members), n + 1, rest, hdistinct, hshort, hn, _ => by
    have hread := readMembers_asciiMembers k v members n rest [] hdistinct hshort
      (fun _ hb => absurd hb List.not_mem_nil) (by
        rw [asciiDumps, List.length_cons, List.length_append, List.length_singleton] at hn
        omega)
    have hquote : ∃ more, asciiMembers ((k, v) :: members) ++ '\x7d' :: rest = '"' :: more := by
      cases members with
      | nil => exact ⟨_, by rw [asciiMembers, asciiQuoted]; rfl⟩
      | cons m ms => exact ⟨_, by rw [asciiMembers, asciiQuoted]; rfl⟩
    obtain ⟨more, hmore⟩ := hquote
    rw [hmore] at hread
    rw [asciiDumps, List.cons_append, List.append_assoc, List.singleton_append, hmore,
      readValue_members, hread]
    rfl

theorem readItems_asciiItems : ∀ (v : Json) (vs : List Json) (n : Nat) (rest : List Char),
    distinctItems (v :: vs) = true → shortItems (v :: vs) = true →
    2 * (asciiItems (v :: vs)).length + 2 ≤ n →
    readItems float n (asciiItems (v :: vs) ++ ']' :: rest) = some (v :: vs, rest)
  | v, [], n + 1, rest, hdistinct, hshort, hn => by
    rw [distinctItems, Bool.and_eq_true] at hdistinct
    rw [shortItems, Bool.and_eq_true] at hshort
    rw [asciiItems] at hn ⊢
    rw [readItems_cons (readValue_asciiDumps v n (']' :: rest) hdistinct.1 hshort.1 (by omega)
      (by rfl)), skipSpace_cons (by decide)]
    rfl
  | v, w :: vs, n + 1, rest, hdistinct, hshort, hn => by
    rw [distinctItems, Bool.and_eq_true] at hdistinct
    rw [shortItems, Bool.and_eq_true] at hshort
    have hspace : skipSpace (asciiItems (w :: vs) ++ ']' :: rest) =
        asciiItems (w :: vs) ++ ']' :: rest := by
      cases vs with
      | nil => exact skipSpace_asciiDumps w _
      | cons x xs =>
        rw [asciiItems, List.append_assoc]
        exact skipSpace_asciiDumps w _
    rw [asciiItems] at hn ⊢
    rw [List.length_append, List.length_cons] at hn
    rw [List.append_assoc, List.cons_append, readItems_cons (readValue_asciiDumps v n
      (',' :: (asciiItems (w :: vs) ++ ']' :: rest)) hdistinct.1 hshort.1 (by omega) (by rfl)),
      skipSpace_cons (by decide)]
    simp only [hspace]
    rw [readItems_asciiItems w vs n rest hdistinct.2 hshort.2 (by omega)]
    rfl

theorem readMembers_asciiMembers : ∀ (k : String) (v : Json) (members : List (String × Json))
    (n : Nat) (rest : List Char) (before : List (String × Json)),
    distinctMembers ((k, v) :: members) = true → shortMembers ((k, v) :: members) = true →
    (∀ b ∈ before, ∀ m ∈ (k, v) :: members, b.1 ≠ m.1) →
    2 * (asciiMembers ((k, v) :: members)).length + 2 ≤ n →
    readMembers float n before (asciiMembers ((k, v) :: members) ++ '\x7d' :: rest) =
      some (before ++ (k, v) :: members, rest)
  | k, v, [], n + 1, rest, before, hdistinct, hshort, hfresh, hn => by
    rw [distinctMembers, Bool.and_eq_true, Bool.and_eq_true] at hdistinct
    rw [shortMembers, Bool.and_eq_true] at hshort
    rw [asciiMembers] at hn ⊢
    rw [List.length_append, List.length_cons] at hn
    have hinsert : insertMember k v before = before ++ [(k, v)] :=
      insertMember_of_notMem fun b hb => hfresh b hb (k, v) List.mem_cons_self
    rw [List.append_assoc, List.cons_append, readMembers_cons (skipSpace_asciiDumps v _)
      (readValue_asciiDumps v n ('\x7d' :: rest) hdistinct.1.1 hshort.1 (by omega) (by rfl)),
      skipSpace_cons (by decide)]
    simp only [hinsert]
  | k, v, (l, w) :: members, n + 1, rest, before, hdistinct, hshort, hfresh, hn => by
    rw [distinctMembers, Bool.and_eq_true, Bool.and_eq_true, Bool.not_eq_true'] at hdistinct
    rw [shortMembers, Bool.and_eq_true] at hshort
    have hspace : skipSpace (asciiMembers ((l, w) :: members) ++ '\x7d' :: rest) =
        asciiMembers ((l, w) :: members) ++ '\x7d' :: rest := by
      cases members with
      | nil =>
        rw [asciiMembers, asciiQuoted]
        exact skipSpace_cons (by decide) _
      | cons m ms =>
        rw [asciiMembers, asciiQuoted]
        exact skipSpace_cons (by decide) _
    have hinsert : insertMember k v before = before ++ [(k, v)] :=
      insertMember_of_notMem fun b hb => hfresh b hb (k, v) List.mem_cons_self
    have hnext : ∀ b ∈ before ++ [(k, v)], ∀ m ∈ (l, w) :: members, b.1 ≠ m.1 := by
      intro b hb m hm
      rcases List.mem_append.1 hb with hb | hb
      · exact hfresh b hb m (List.mem_cons_of_mem _ hm)
      · obtain rfl := List.mem_singleton.1 hb
        exact fun he => List.any_eq_false.1 hdistinct.1.2 m hm (decide_eq_true he.symm)
    rw [asciiMembers] at hn ⊢
    rw [List.length_append, List.length_cons, List.length_append, List.length_cons] at hn
    rw [List.append_assoc, List.cons_append, List.append_assoc, List.cons_append,
      readMembers_cons (skipSpace_asciiDumps v _) (readValue_asciiDumps v n
        (',' :: (asciiMembers ((l, w) :: members) ++ '\x7d' :: rest)) hdistinct.1.1 hshort.1
        (by omega) (by rfl)), skipSpace_cons (by decide)]
    simp only [hspace, hinsert]
    rw [readMembers_asciiMembers l w members n rest _ hdistinct.2 hshort.2 hnext (by omega),
      List.append_assoc]
    rfl

end

/-- **What was written is read as it was.** -/
theorem loads_asciiDumps (float : List Char → Json) {v : Json} (hdistinct : v.distinct = true)
    (hshort : v.shortNumbers = true) : loads float v.asciiDumps = some v := by
  have hread : readValue float (2 * v.asciiDumps.length + 1) (v.asciiDumps ++ []) = some (v, []) :=
    readValue_asciiDumps v (2 * v.asciiDumps.length + 1) [] hdistinct hshort le_rfl rfl
  have hspace := skipSpace_asciiDumps v []
  rw [List.append_nil] at hread hspace
  rw [loads, hspace, hread]
  rfl

end Json

end IncidentAgent
