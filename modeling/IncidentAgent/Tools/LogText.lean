import IncidentAgent.Investigation.Logs
import IncidentAgent.Lib.Utf8

/-!
# Samples of logs

A log is cut twice before it is saved: only its last lines are kept, and of these only the last
bytes. The second cut can fall into a line, between the two characters that end one, or into a
character. What is saved is an end of the log all the same, within both bounds, it has lost no
more than the bounds ask for and the rest of one character, and it is called complete only where
it is the whole log (`sampleLogText_sampled`).
-/

namespace IncidentAgent

/-- `LOG_LINES`. -/
def logLines : Nat := 1000

/-- `LOG_BYTES`. -/
def logBytes : Nat := 256 * 1024

/-- `lines[-n:]`, where `n` is positive. -/
def lastOf {α : Type} (n : Nat) (items : List α) : List α := items.drop (items.length - n)

/-- The last lines of a log. -/
def lastLines (content : String) : List Char :=
  ((lastOf logLines (keptLines content)).map String.toList).flatten

/-- `sample_log_text`. -/
def sampleLogText (content : String) : String × Bool :=
  let lines := keptLines content
  let sampled := lastLines content
  let encoded := utf8 sampled
  let limited := decide (logLines ≤ lines.length) || decide (logBytes ≤ encoded.length)
  (String.ofList (if logBytes < encoded.length then decodeIgnore (lastOf logBytes encoded)
    else sampled), limited)

/-- **A sample of a log**: an end of it within both bounds, which has lost fewer than four bytes
more than the bounds ask for, and nothing where they ask for nothing. -/
structure Sampled (content : String) (sample : String) (limited : Bool) : Prop where
  suffix : sample.toList <:+ content.toList
  lines : (keptLines sample).length ≤ logLines
  bytes : (utf8 sample.toList).length ≤ logBytes
  lost : min (utf8 (lastLines content)).length logBytes < (utf8 sample.toList).length + 4
  whole : (utf8 (lastLines content)).length ≤ logBytes → sample.toList = lastLines content
  complete : limited = false → sample = content

/-! ### Lines of a text -/

section Lines

/-- The lines behind the first one are the lines of what is behind it. -/
theorem linesFrom_tail {line text first : List Char} {rest : List (List Char)}
    (h : linesFrom line text = first :: rest) : linesFrom [] rest.flatten = rest := by
  induction text generalizing line with
  | nil =>
    rw [linesFrom] at h
    split at h
    · cases h
    · rw [← (List.cons.inj h).2]
      rfl
  | cons c text ih =>
    rw [linesFrom] at h
    split at h
    · rw [← (List.cons.inj h).2, flatten_linesFrom, List.nil_append]
    · exact ih h

/-- **The last lines of a text are lines by themselves.** -/
theorem linesFrom_drop (n : ℕ) (text : List Char) :
    linesFrom [] ((linesFrom [] text).drop n).flatten = (linesFrom [] text).drop n := by
  induction n generalizing text with
  | zero => rw [List.drop_zero, flatten_linesFrom, List.nil_append]
  | succ n ih =>
    cases hlines : linesFrom [] text with
    | nil => rfl
    | cons first rest =>
      rw [List.drop_succ_cons, ← linesFrom_tail hlines]
      exact ih rest.flatten

/-- How far a line has come changes nothing in the number of lines, once it has begun. -/
theorem length_linesFrom_begun {line line' : List Char} (h : line ≠ []) (h' : line' ≠ [])
    (text : List Char) : (linesFrom line text).length = (linesFrom line' text).length := by
  induction text generalizing line line' with
  | nil => simp [linesFrom, h, h']
  | cons c rest ih =>
    rw [linesFrom, linesFrom]
    split
    · rfl
    · exact ih (by simp) (by simp)

theorem length_linesFrom_le (line text : List Char) :
    (linesFrom [] text).length ≤ (linesFrom line text).length := by
  cases text with
  | nil => simp [linesFrom]
  | cons c rest =>
    rw [linesFrom, linesFrom]
    split
    · exact le_rfl
    · exact (length_linesFrom_begun (by simp) (by simp) rest).le

/-- **An end of a text has no more lines.** -/
theorem length_linesFrom_suffix {text text' : List Char} (h : text <:+ text') :
    (linesFrom [] text).length ≤ (linesFrom [] text').length := by
  obtain ⟨before, rfl⟩ := h
  induction before with
  | nil => exact le_rfl
  | cons c before ih =>
    refine ih.trans ?_
    rw [List.cons_append, linesFrom]
    split
    · exact Nat.le_succ _
    · exact length_linesFrom_le _ _

end Lines

/-! ### The sample -/

section Sample

variable {content : String}

theorem lastLines_eq : lastLines content =
    (lastOf logLines (linesFrom [] content.toList)).flatten := by
  rw [lastLines, keptLines, lastOf, List.length_map, ← List.map_drop, List.map_map, lastOf]
  simp [Function.comp_def]

theorem lastLines_suffix : lastLines content <:+ content.toList := by
  have hwhole := flatten_linesFrom [] content.toList
  rw [List.nil_append] at hwhole
  have hsplit := congrArg List.flatten (List.take_append_drop
    ((linesFrom [] content.toList).length - logLines) (linesFrom [] content.toList))
  rw [List.flatten_append, hwhole] at hsplit
  rw [lastLines_eq]
  exact ⟨_, hsplit⟩

/-- The last lines are as many as they should be at most. -/
theorem length_lines_lastLines : (linesFrom [] (lastLines content)).length ≤ logLines := by
  rw [lastLines_eq, lastOf, linesFrom_drop, List.length_drop]
  omega

/-- **What is sampled is a sample.** -/
theorem sampleLogText_sampled (content : String) :
    Sampled content (sampleLogText content).1 (sampleLogText content).2 := by
  have hlines : ∀ {text : List Char}, text <:+ lastLines content →
      (keptLines (String.ofList text)).length ≤ logLines := by
    intro text htext
    rw [keptLines, List.length_map, String.toList_ofList]
    exact (length_linesFrom_suffix htext).trans length_lines_lastLines
  have hcomplete : (sampleLogText content).2 = false → lastLines content = content.toList ∧
      ¬logBytes < (utf8 (lastLines content)).length := by
    intro hfalse
    simp only [sampleLogText, Bool.or_eq_false_iff, decide_eq_false_iff_not, not_le] at hfalse
    obtain ⟨hfew, hshort⟩ := hfalse
    refine ⟨?_, by omega⟩
    rw [keptLines, List.length_map] at hfew
    have hall : (linesFrom [] content.toList).length - logLines = 0 := by omega
    rw [lastLines_eq, lastOf, hall, List.drop_zero, flatten_linesFrom, List.nil_append]
  by_cases hlong : logBytes < (utf8 (lastLines content)).length
  · have hsample : (sampleLogText content).1 =
        String.ofList (decodeIgnore (lastOf logBytes (utf8 (lastLines content)))) := by
      rw [sampleLogText, if_pos hlong]
    obtain ⟨hsuffix, hlost, hkept⟩ := decodeIgnore_drop (lastLines content)
      ((utf8 (lastLines content)).length - logBytes)
    rw [hsample, lastOf]
    refine ⟨?_, hlines hsuffix, ?_, ?_, fun h => absurd hlong (by omega), fun h => ?_⟩
    · rw [String.toList_ofList]
      exact hsuffix.trans lastLines_suffix
    · rw [String.toList_ofList]
      omega
    · rw [String.toList_ofList]
      omega
    · exact absurd hlong (hcomplete h).2
  · have hsample : (sampleLogText content).1 = String.ofList (lastLines content) := by
      rw [sampleLogText, if_neg hlong]
    rw [hsample]
    refine ⟨?_, hlines (List.suffix_refl _), ?_, ?_, fun h => String.toList_ofList, fun h => ?_⟩
    · rw [String.toList_ofList]
      exact lastLines_suffix
    · rw [String.toList_ofList]
      omega
    · rw [String.toList_ofList]
      omega
    · rw [(hcomplete h).1, String.ofList_toList]

end Sample

end IncidentAgent
