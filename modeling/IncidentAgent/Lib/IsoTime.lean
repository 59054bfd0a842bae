import Mathlib.Algebra.Group.Nat.Defs
import Mathlib.Tactic.Common

/-!
# Times and their ISO texts

A time of a calendar, with the offset of its zone if it has one (`DateTime`), its text in the
format of `isoformat`, and its place on the line of time (`DateTime.instant`). The text has a
part for the microseconds only if there are some, and so has the offset. A text of this format is
read back as the time that it was written for (`readIso_isoformat`); other formats that a reader
accepts are left to a function.
-/

namespace IncidentAgent

/-! ### Times -/

/-- Whether a year is a leap year. -/
def isLeap (year : Nat) : Bool := year % 4 = 0 && (year % 100 ≠ 0 || year % 400 = 0)

/-- The number of days of a month. -/
def daysInMonth (year month : Nat) : Nat :=
  if month = 2 then (if isLeap year then 29 else 28)
  else if month ∈ [4, 6, 9, 11] then 30
  else 31

/-- The fields of a time, before they are checked. The offset is one of microseconds. -/
structure DateFields where
  year : Nat
  month : Nat
  day : Nat
  hour : Nat
  minute : Nat
  second : Nat
  microsecond : Nat
  offset : Option Int
  deriving DecidableEq

/-- Whether fields are those of a time: `datetime(…)` does not raise. -/
def DateFields.Valid (f : DateFields) : Prop :=
  (1 ≤ f.year ∧ f.year ≤ 9999) ∧ (1 ≤ f.month ∧ f.month ≤ 12) ∧
    (1 ≤ f.day ∧ f.day ≤ daysInMonth f.year f.month) ∧
    (f.hour < 24 ∧ f.minute < 60 ∧ f.second < 60 ∧ f.microsecond < 1000000) ∧
    ∀ offset ∈ f.offset, offset.natAbs < 86400000000

instance DateFields.decidableValid (f : DateFields) : Decidable f.Valid := by
  unfold DateFields.Valid
  infer_instance

/-- `datetime`. -/
structure DateTime where
  fields : DateFields
  valid : fields.Valid
  deriving DecidableEq

namespace DateTime

/-- `value.tzinfo is not None`. -/
def aware (t : DateTime) : Bool := t.fields.offset.isSome

/-- `date.toordinal`: the number of a day, where the first of January of the year 1 is the
first. -/
def ordinal (f : DateFields) : Nat :=
  (f.year - 1) * 365 + (f.year - 1) / 4 - (f.year - 1) / 100 + (f.year - 1) / 400 +
    ((List.range' 1 (f.month - 1)).foldl (fun days month => days + daysInMonth f.year month) 0) +
    f.day

/-- The place of a time on the line of time, in microseconds. -/
def instant (t : DateTime) : Int :=
  ((((ordinal t.fields * 24 + t.fields.hour) * 60 + t.fields.minute) * 60 + t.fields.second) *
    1000000 + t.fields.microsecond : Nat) - t.fields.offset.getD 0

end DateTime

/-! ### Texts -/

/-- So many digits of a number. -/
def fixedDigits : Nat → Nat → List Char
  | 0, _ => []
  | w + 1, n => fixedDigits w (n / 10) ++ [Nat.digitChar (n % 10)]

/-- A part for microseconds, if there are some. -/
def isoMicroseconds (n : Nat) : List Char := if n = 0 then [] else '.' :: fixedDigits 6 n

/-- The seconds of an offset, if there are some. -/
def isoOffsetSeconds (n : Nat) : List Char :=
  if n % 60000000 = 0 then []
  else ':' :: (fixedDigits 2 (n % 60000000 / 1000000) ++ isoMicroseconds (n % 1000000))

/-- `_format_offset`. -/
def isoOffset : Option Int → List Char
  | none => []
  | some offset =>
    (if offset < 0 then '-' else '+') :: (fixedDigits 2 (offset.natAbs / 3600000000) ++
      ':' :: (fixedDigits 2 (offset.natAbs / 60000000 % 60) ++ isoOffsetSeconds offset.natAbs))

/-- `datetime.isoformat`. -/
def DateTime.isoformat (t : DateTime) : List Char :=
  let f := t.fields
  fixedDigits 4 f.year ++ '-' :: (fixedDigits 2 f.month ++ '-' :: (fixedDigits 2 f.day ++
    'T' :: (fixedDigits 2 f.hour ++ ':' :: (fixedDigits 2 f.minute ++ ':' ::
      (fixedDigits 2 f.second ++ (isoMicroseconds f.microsecond ++ isoOffset f.offset))))))

/-! ### Readers -/

/-- A number of so many digits. -/
def readFixed (w : Nat) (input : List Char) : Option (Nat × List Char) :=
  if (input.take w).length = w ∧ (input.take w).all Char.isDigit then
    some (Nat.ofDigitChars 10 (input.take w) 0, input.drop w)
  else none

/-- What is behind a character. -/
def readMark (c : Char) : List Char → Option (List Char)
  | [] => none
  | d :: rest => if d = c then some rest else none

/-- Microseconds, if there is a part for them. -/
def readMicroseconds (input : List Char) : Option (Nat × List Char) :=
  match readMark '.' input with
  | none => some (0, input)
  | some rest => readFixed 6 rest

/-- The seconds of an offset in microseconds, if there is a part for them. -/
def readOffsetSeconds (input : List Char) : Option (Nat × List Char) :=
  match readMark ':' input with
  | none => some (0, input)
  | some rest => do
    let (second, rest) ← readFixed 2 rest
    let (micro, rest) ← readMicroseconds rest
    if second < 60 then some (second * 1000000 + micro, rest) else none

/-- An offset up to the end of a text, or nothing. -/
def readOffset (input : List Char) : Option (Option Int) :=
  match input with
  | [] => some none
  | sign :: rest => do
    let (hour, rest) ← readFixed 2 rest
    let rest ← readMark ':' rest
    let (minute, rest) ← readFixed 2 rest
    let (seconds, rest) ← readOffsetSeconds rest
    let n := hour * 3600000000 + minute * 60000000 + seconds
    if rest ≠ [] ∨ 60 ≤ minute then none
    else if sign = '+' then some (some n)
    else if sign = '-' then some (some (-(n : Int)))
    else none

/-- A time in the format of `isoformat`. -/
def readIso (input : List Char) : Option DateTime := do
  let (year, rest) ← readFixed 4 input
  let rest ← readMark '-' rest
  let (month, rest) ← readFixed 2 rest
  let rest ← readMark '-' rest
  let (day, rest) ← readFixed 2 rest
  let rest ← readMark 'T' rest
  let (hour, rest) ← readFixed 2 rest
  let rest ← readMark ':' rest
  let (minute, rest) ← readFixed 2 rest
  let rest ← readMark ':' rest
  let (second, rest) ← readFixed 2 rest
  let (microsecond, rest) ← readMicroseconds rest
  let offset ← readOffset rest
  let fields : DateFields := ⟨year, month, day, hour, minute, second, microsecond, offset⟩
  if h : fields.Valid then some ⟨fields, h⟩ else none

/-! ### A text that was written is read -/

theorem length_fixedDigits (w n : Nat) : (fixedDigits w n).length = w := by
  induction w generalizing n with
  | zero => rfl
  | succ w ih => rw [fixedDigits, List.length_append, ih, List.length_singleton]

theorem isDigit_fixedDigits (w n : Nat) : ∀ c ∈ fixedDigits w n, c.isDigit = true := by
  induction w generalizing n with
  | zero => simp [fixedDigits]
  | succ w ih =>
    intro c hc
    rw [fixedDigits, List.mem_append, List.mem_singleton] at hc
    rcases hc with hc | rfl
    · exact ih _ c hc
    · have hall : ((List.range 10).all fun n => n.digitChar.isDigit) = true := by decide
      exact List.all_eq_true.1 hall _ (List.mem_range.2 (Nat.mod_lt n (by decide)))

theorem ofDigitChars_fixedDigits {w n : Nat} (h : n < 10 ^ w) :
    Nat.ofDigitChars 10 (fixedDigits w n) 0 = n := by
  induction w generalizing n with
  | zero =>
    rw [Nat.pow_zero] at h
    rw [fixedDigits, Nat.ofDigitChars_nil]
    omega
  | succ w ih =>
    rw [Nat.pow_succ] at h
    have hrest : n / 10 < 10 ^ w := by omega
    rw [fixedDigits, Nat.ofDigitChars_append, ih hrest,
      Nat.ofDigitChars_cons_digitChar_of_lt_ten (Nat.mod_lt n (by decide)), Nat.ofDigitChars_nil]
    omega

/-- **A number of so many digits is read.** -/
theorem readFixed_fixedDigits {w n : Nat} (h : n < 10 ^ w) (rest : List Char) :
    readFixed w (fixedDigits w n ++ rest) = some (n, rest) := by
  have htake : (fixedDigits w n ++ rest).take w = fixedDigits w n := by
    rw [List.take_append_of_le_length (Nat.le_of_eq (length_fixedDigits w n).symm),
      List.take_of_length_le (Nat.le_of_eq (length_fixedDigits w n))]
  have hdrop : (fixedDigits w n ++ rest).drop w = rest := by
    rw [List.drop_append_of_le_length (Nat.le_of_eq (length_fixedDigits w n).symm),
      List.drop_of_length_le (Nat.le_of_eq (length_fixedDigits w n)), List.nil_append]
  rw [readFixed, htake, hdrop, if_pos ⟨length_fixedDigits w n, List.all_eq_true.2
    (isDigit_fixedDigits w n)⟩, ofDigitChars_fixedDigits h]

theorem readMark_cons (c : Char) (rest : List Char) : readMark c (c :: rest) = some rest :=
  if_pos rfl

/-- **Microseconds are read**, with or without a part for them, before anything but a point. -/
theorem readMicroseconds_iso {n : Nat} (h : n < 1000000) {rest : List Char}
    (hrest : readMark '.' rest = none) :
    readMicroseconds (isoMicroseconds n ++ rest) = some (n, rest) := by
  by_cases hzero : n = 0
  · rw [isoMicroseconds, if_pos hzero, List.nil_append, readMicroseconds, hrest, hzero]
  · rw [isoMicroseconds, if_neg hzero, List.cons_append, readMicroseconds, readMark_cons]
    exact readFixed_fixedDigits h rest

theorem readOffsetSeconds_iso (n : Nat) :
    readOffsetSeconds (isoOffsetSeconds n) = some (n % 60000000, []) := by
  by_cases hzero : n % 60000000 = 0
  · rw [isoOffsetSeconds, if_pos hzero, hzero]
    rfl
  · have hmicro : readMicroseconds (isoMicroseconds (n % 1000000) ++ []) =
        some (n % 1000000, []) := readMicroseconds_iso (Nat.mod_lt n (by decide)) rfl
    rw [List.append_nil] at hmicro
    have hsecond : n % 60000000 / 1000000 < 60 := by omega
    have hsum : n % 60000000 / 1000000 * 1000000 + n % 1000000 = n % 60000000 := by omega
    rw [isoOffsetSeconds, if_neg hzero, readOffsetSeconds, readMark_cons]
    simp only [readFixed_fixedDigits (show n % 60000000 / 1000000 < 10 ^ 2 by omega),
      hmicro, Option.bind_eq_bind, Option.bind_some]
    rw [if_pos hsecond, hsum]

/-- **An offset is read.** -/
theorem readOffset_iso {offset : Option Int} (h : ∀ n ∈ offset, n.natAbs < 86400000000) :
    readOffset (isoOffset offset) = some offset := by
  cases offset with
  | none => rfl
  | some n =>
    have hn := h n rfl
    have hsum : n.natAbs / 3600000000 * 3600000000 + n.natAbs / 60000000 % 60 * 60000000 +
        n.natAbs % 60000000 = n.natAbs := by omega
    have hminute : ¬60 ≤ n.natAbs / 60000000 % 60 := by omega
    simp only [isoOffset, readOffset, Option.bind_eq_bind,
      readFixed_fixedDigits (show n.natAbs / 3600000000 < 10 ^ 2 by omega), Option.bind_some,
      readMark_cons, readFixed_fixedDigits (show n.natAbs / 60000000 % 60 < 10 ^ 2 by omega),
      readOffsetSeconds_iso, hsum, hminute, ne_eq, not_true_eq_false, or_self, if_false]
    by_cases hneg : n < 0
    · rw [if_pos hneg, if_neg (by decide), if_pos rfl]
      congr 2
      omega
    · rw [if_neg hneg, if_pos rfl]
      congr 2
      omega

/-- What follows the seconds begins with no point. -/
theorem readMark_isoOffset (offset : Option Int) : readMark '.' (isoOffset offset) = none := by
  cases offset with
  | none => rfl
  | some n =>
    rw [isoOffset, readMark]
    by_cases hneg : n < 0
    · rw [if_pos hneg, if_neg (by decide)]
    · rw [if_neg hneg, if_neg (by decide)]

/-- **A time is read from its text.** -/
theorem readIso_isoformat (t : DateTime) : readIso t.isoformat = some t := by
  obtain ⟨⟨year, month, day, hour, minute, second, microsecond, offset⟩, hvalid⟩ := t
  obtain ⟨hyear, hmonth, ⟨-, hday⟩, ⟨hhour, hminute, hsecond, hmicro⟩, hoffset⟩ := id hvalid
  have hdays : daysInMonth year month ≤ 31 := by
    unfold daysInMonth
    split
    · split <;> omega
    · split <;> omega
  simp only at hyear hmonth hday hhour hminute hsecond hmicro hoffset
  have hyear' : year < 10 ^ 4 := by omega
  have hmonth' : month < 10 ^ 2 := by omega
  have hday' : day < 10 ^ 2 := by omega
  have hhour' : hour < 10 ^ 2 := by omega
  have hminute' : minute < 10 ^ 2 := by omega
  have hsecond' : second < 10 ^ 2 := by omega
  -- The parts are read one after the other, each before what is left of the text.
  refine Option.bind_eq_some_iff.2 ⟨_, readFixed_fixedDigits hyear' _, ?_⟩
  refine Option.bind_eq_some_iff.2 ⟨_, readMark_cons '-' _, ?_⟩
  refine Option.bind_eq_some_iff.2 ⟨_, readFixed_fixedDigits hmonth' _, ?_⟩
  refine Option.bind_eq_some_iff.2 ⟨_, readMark_cons '-' _, ?_⟩
  refine Option.bind_eq_some_iff.2 ⟨_, readFixed_fixedDigits hday' _, ?_⟩
  refine Option.bind_eq_some_iff.2 ⟨_, readMark_cons 'T' _, ?_⟩
  refine Option.bind_eq_some_iff.2 ⟨_, readFixed_fixedDigits hhour' _, ?_⟩
  refine Option.bind_eq_some_iff.2 ⟨_, readMark_cons ':' _, ?_⟩
  refine Option.bind_eq_some_iff.2 ⟨_, readFixed_fixedDigits hminute' _, ?_⟩
  refine Option.bind_eq_some_iff.2 ⟨_, readMark_cons ':' _, ?_⟩
  refine Option.bind_eq_some_iff.2 ⟨_, readFixed_fixedDigits hsecond' _, ?_⟩
  refine Option.bind_eq_some_iff.2 ⟨_, readMicroseconds_iso hmicro (readMark_isoOffset offset), ?_⟩
  refine Option.bind_eq_some_iff.2 ⟨_, readOffset_iso hoffset, ?_⟩
  exact dif_pos hvalid

/-! ### The characters of a text -/

/-- Whether a character occurs in texts of times. -/
def isIsoChar (c : Char) : Bool := c.isDigit || c ∈ ['-', ':', '.', '+', 'T']

theorem isIsoChar_fixedDigits {w n : Nat} {c : Char} (h : c ∈ fixedDigits w n) :
    isIsoChar c = true := by
  rw [isIsoChar, isDigit_fixedDigits w n c h, Bool.true_or]

theorem isoMicroseconds_spec (n : Nat) :
    (isoMicroseconds n).length ≤ 7 ∧ ∀ c ∈ isoMicroseconds n, isIsoChar c = true := by
  unfold isoMicroseconds
  split
  · simp
  · refine ⟨by simp [length_fixedDigits], fun c hc => ?_⟩
    rcases List.mem_cons.1 hc with rfl | hc
    · decide
    · exact isIsoChar_fixedDigits hc

theorem isoOffset_spec (offset : Option Int) :
    (isoOffset offset).length ≤ 16 ∧ ∀ c ∈ isoOffset offset, isIsoChar c = true := by
  cases offset with
  | none => simp [isoOffset]
  | some n =>
    obtain ⟨hlength, hchars⟩ := isoMicroseconds_spec (n.natAbs % 1000000)
    have hseconds : (isoOffsetSeconds n.natAbs).length ≤ 10 ∧
        ∀ c ∈ isoOffsetSeconds n.natAbs, isIsoChar c = true := by
      unfold isoOffsetSeconds
      split
      · simp
      · constructor
        · rw [List.length_cons, List.length_append, length_fixedDigits]
          omega
        · intro c hc
          rw [List.mem_cons, List.mem_append] at hc
          rcases hc with rfl | hc | hc
          · decide
          · exact isIsoChar_fixedDigits hc
          · exact hchars c hc
    constructor
    · rw [isoOffset, List.length_cons, List.length_append, List.length_cons, List.length_append,
        length_fixedDigits, length_fixedDigits]
      omega
    · intro c hc
      rw [isoOffset, List.mem_cons, List.mem_append, List.mem_cons, List.mem_append] at hc
      rcases hc with rfl | hc | rfl | hc | hc
      · split <;> decide
      · exact isIsoChar_fixedDigits hc
      · decide
      · exact isIsoChar_fixedDigits hc
      · exact hseconds.2 c hc

/-- **The text of a time** has at most 42 characters, all of them of one small kind. -/
theorem isoformat_spec (t : DateTime) :
    t.isoformat.length ≤ 42 ∧ ∀ c ∈ t.isoformat, isIsoChar c = true := by
  obtain ⟨hmicro, hmicroChars⟩ := isoMicroseconds_spec t.fields.microsecond
  obtain ⟨hoffset, hoffsetChars⟩ := isoOffset_spec t.fields.offset
  constructor
  · simp only [DateTime.isoformat, List.length_append, List.length_cons, length_fixedDigits]
    omega
  · intro c hc
    simp only [DateTime.isoformat, List.mem_append, List.mem_cons] at hc
    rcases hc with hc | rfl | hc | rfl | hc | rfl | hc | rfl | hc | rfl | hc | hc | hc
    all_goals first
      | exact isIsoChar_fixedDigits hc
      | decide
      | exact hmicroChars c hc
      | exact hoffsetChars c hc

end IncidentAgent
