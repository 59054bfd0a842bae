import IncidentAgent.Investigation.Cards
import IncidentAgent.Investigation.Projection
import IncidentAgent.Lib.Classes
import IncidentAgent.Lib.Mentions
import IncidentAgent.Lib.Untouched

/-!
# Groups of log lines

A card about a log shows its lines in groups, by what stands behind their timestamps. Three things
are left out: the lines behind the place where scanning stops, the groups between the first four
and the last four, and what is too long or may not be shown. The numbers of the card account for
all of it (`groupedLogs_conserved`): the groups divide the lines that were scanned, before anything
of them is cleaned, and each group that is shown tells its own size and place.
-/

namespace IncidentAgent

open Classes

/-! ### What is scanned -/

/-- A line and its number. -/
abbrev NumberedLine := String × ℕ

/-- What stands behind the timestamp of a line. -/
def groupKey (lib : TextLibrary) (p : NumberedLine) : String := (splitTimestamp lib p.1).2

/-- The timestamp of a line. -/
def stampOf (lib : TextLibrary) (p : NumberedLine) : Option String := (splitTimestamp lib p.1).1

/-- How much of the limit some lines take. -/
def scanCost : List String → ℕ
  | [] => 0
  | line :: rest => line.toList.length + 1 + scanCost rest

/-- How many lines are scanned, after so much of the limit. -/
def scannedFrom (scanned : ℕ) : List String → ℕ
  | [] => 0
  | line :: rest =>
    if scanLimit < scanned + line.toList.length + 1 then 0
    else scannedFrom (scanned + line.toList.length + 1) rest + 1

/-- A group, made of its lines. -/
def groupOf (lib : TextLibrary) (lines : List NumberedLine) : LogGroup where
  message := (lines.head?.map (groupKey lib)).getD ""
  count := lines.length
  firstLine := (lines.head?.map Prod.snd).getD 0
  firstTimestamp := lines.head?.bind (stampOf lib)
  lastLine := (lines.getLast?.map Prod.snd).getD 0
  lastTimestamp := lines.getLast?.bind (stampOf lib)

/-- All of a list, or its first and last items. -/
def firstAndLast {α : Type} (items : List α) : List α :=
  if items.length ≤ groupLimit then items else items.take 4 ++ items.drop (items.length - 4)

/-! ### What is shown -/

/-- A timestamp in a card. -/
def stampJson (shown : String → String) (stamp : Option String) : Json :=
  stamp.elim .null fun t => .str (shown t)

/-- A group that is shown for a class of lines. -/
structure ShowsLines (lib : TextLibrary) (shown : String → String) (item : Json)
    (lines : List NumberedLine) : Prop where
  count : item.get "count" = .num lines.length
  first : ∃ p, lines.head? = some p ∧ item.get "first_line" = .num p.2 ∧
    item.get "first_timestamp" = stampJson shown (stampOf lib p)
  last : ∃ p, lines.getLast? = some p ∧ item.get "last_line" = .num p.2 ∧
    item.get "last_timestamp" = stampJson shown (stampOf lib p)

/-- The number that a group tells. -/
def countOf (item : Json) : Int :=
  match item.get "count" with
  | .num n => n
  | _ => 0

/-- The numbers that groups tell, together. -/
def totalShown : List Json → Int
  | [] => 0
  | item :: rest => countOf item + totalShown rest

/-- The characters of ISO timestamps. -/
def isStampChar (c : Char) : Bool := c.isDigit || c ∈ ['-', ':', '.', ',', '+', 'T', 'Z']

/-- **A card that accounts for all lines** of a log. The timestamps are shown in some way. -/
structure LinesConserved (lib : TextLibrary) (shown : String → String) (content : String)
    (scanned : ℕ) (classes : List (List NumberedLine)) : Prop where
  /-- Scanning goes as far as the limit allows. -/
  limit : scanned ≤ (splitLines content).length ∧
    scanCost ((splitLines content).take scanned) ≤ scanLimit ∧
    (scanned < (splitLines content).length →
      scanLimit < scanCost ((splitLines content).take (scanned + 1)))
  inputLines : (groupedLogs lib content).get "input_lines" = .num (splitLines content).length
  scannedLines : (groupedLogs lib content).get "scanned_lines" = .num scanned
  omittedLines : (groupedLogs lib content).get "omitted_lines" =
    .num ((splitLines content).drop scanned).length
  /-- The classes divide the scanned lines. -/
  divided : classes.flatten.Perm (((splitLines content).zipIdx 1).take scanned)
  ordered : ∀ c ∈ classes, c.Sublist (((splitLines content).zipIdx 1).take scanned)
  same : ∀ a ∈ ((splitLines content).zipIdx 1).take scanned,
    ∀ b ∈ ((splitLines content).zipIdx 1).take scanned,
      (∃ c ∈ classes, a ∈ c ∧ b ∈ c) ↔ groupKey lib a = groupKey lib b
  /-- The groups that are shown are the selected classes, and the others are counted. -/
  groups : ∃ items omitted, (groupedLogs lib content).get "groups" = .arr items ∧
    (groupedLogs lib content).get "omitted_group_occurrences" = .num omitted ∧
    List.Forall₂ (ShowsLines lib shown) items (firstAndLast classes) ∧
    totalShown items + omitted = scanned
  /-- A timestamp of usual characters and length is shown as it is. -/
  stamps : ∀ t : String, (∀ c ∈ t.toList, isStampChar c = true) → t.toList.length ≤ textLimit →
    shown t = t

/-- How a text is shown in a card: redacted, without control characters, and cut. -/
def shownText (lib : TextLibrary) (text : String) : String :=
  String.ofList ((plainText (redactText lib.isAlnum text)).toList.take textLimit)

/-! ### Scanning -/

section Scanning

variable {lib : TextLibrary}

theorem groupOf_concat {c : List NumberedLine} (hne : c ≠ []) (p : NumberedLine) :
    groupOf lib (c ++ [p]) =
      { groupOf lib c with
        count := (groupOf lib c).count + 1
        lastLine := p.2
        lastTimestamp := stampOf lib p } := by
  obtain ⟨q, rest, rfl⟩ := List.exists_cons_of_ne_nil hne
  have hlast : (q :: rest ++ [p]).getLast? = some p := List.getLast?_concat
  rw [groupOf, hlast, List.length_append]
  rfl

/-- A line is added to its group as to its class. -/
theorem addLine_groupOf {classes : List (List NumberedLine)} (hne : ∀ c ∈ classes, c ≠ [])
    (line : String) (number : ℕ) :
    addLine number (splitTimestamp lib line).1 (splitTimestamp lib line).2
        (classes.map (groupOf lib)) =
      (addTo (groupKey lib) (line, number) classes).map (groupOf lib) := by
  induction classes with
  | nil => rfl
  | cons c rest ih =>
    have hrest := ih fun d hd => hne d (List.mem_cons_of_mem _ hd)
    obtain ⟨q, c, rfl⟩ := List.exists_cons_of_ne_nil (hne c List.mem_cons_self)
    rw [List.map_cons, addLine, addTo]
    have hsame : (groupOf lib (q :: c)).message = (splitTimestamp lib line).2 ↔
        (q :: c).head?.map (groupKey lib) = some (groupKey lib (line, number)) := by
      rw [List.head?_cons, Option.map_some, Option.some.injEq]
      exact Iff.rfl
    by_cases h : (groupOf lib (q :: c)).message = (splitTimestamp lib line).2
    · rw [if_pos h, if_pos (hsame.1 h), List.map_cons, groupOf_concat (List.cons_ne_nil q c)]
      rfl
    · rw [if_neg h, if_neg fun he => h (hsame.2 he), List.map_cons, hrest]

/-- **The groups are those of the classes** of the scanned lines. -/
theorem scanLines_eq (scanned number : ℕ) (lines : List String)
    (classes : List (List NumberedLine)) (hne : ∀ c ∈ classes, c ≠ []) :
    scanLines lib scanned number (classes.map (groupOf lib)) lines =
      (((lines.zipIdx number).take (scannedFrom scanned lines)).foldl
        (fun classes p => addTo (groupKey lib) p classes) classes).map (groupOf lib) := by
  induction lines generalizing scanned number classes with
  | nil => simp [scanLines, scannedFrom]
  | cons line rest ih =>
    rw [scanLines, scannedFrom]
    split
    · rfl
    · rw [List.zipIdx_cons, List.take_succ_cons, List.foldl_cons, ← ih]
      · simp only
        rw [addLine_groupOf hne]
      · intro c hc
        rcases mem_addTo hc with hc | ⟨d, -, rfl, -⟩ | rfl
        · exact hne c hc
        · simp
        · simp

theorem totalCount_groupOf (classes : List (List NumberedLine)) :
    totalCount (classes.map (groupOf lib)) = classes.flatten.length := by
  induction classes with
  | nil => rfl
  | cons c rest ih =>
    rw [List.map_cons, totalCount, ih, List.flatten_cons, List.length_append]
    rfl

/-- Scanning stops where the limit would be exceeded. -/
theorem scannedFrom_spec (scanned : ℕ) (lines : List String) :
    scannedFrom scanned lines ≤ lines.length ∧
      (scanned ≤ scanLimit → scanned + scanCost (lines.take (scannedFrom scanned lines)) ≤ scanLimit) ∧
      (scannedFrom scanned lines < lines.length →
        scanLimit < scanned + scanCost (lines.take (scannedFrom scanned lines + 1))) := by
  induction lines generalizing scanned with
  | nil => simp [scannedFrom, scanCost]
  | cons line rest ih =>
    rw [scannedFrom]
    split
    · rename_i hover
      refine ⟨Nat.zero_le _, fun h => by simpa [scanCost] using h, fun _ => ?_⟩
      simp only [List.take_succ_cons, List.take_zero, scanCost]
      omega
    · rename_i hfits
      obtain ⟨hlength, hcost, hstop⟩ := ih (scanned + line.toList.length + 1)
      rw [List.take_succ_cons, List.take_succ_cons, List.length_cons, scanCost, scanCost]
      refine ⟨by omega, fun _ => ?_, fun h => ?_⟩
      · have hbound := hcost (by omega)
        omega
      · have hbound := hstop (by omega)
        omega

theorem selectedGroups_map (classes : List (List NumberedLine)) :
    selectedGroups (classes.map (groupOf lib)) = (firstAndLast classes).map (groupOf lib) := by
  rw [selectedGroups, firstAndLast, List.length_map]
  split
  · rfl
  · rw [List.map_append, List.map_take, List.map_drop]

theorem firstAndLast_length {α : Type} (items : List α) : (firstAndLast items).length ≤ groupLimit := by
  rw [firstAndLast]
  split
  · assumption
  · rw [List.length_append, List.length_take, List.length_drop, groupLimit]
    omega

theorem firstAndLast_sublist {α : Type} (items : List α) : (firstAndLast items).Sublist items := by
  rw [firstAndLast]
  split
  · exact List.Sublist.refl items
  · rename_i hmany
    rw [groupLimit] at hmany
    have hsplit : items = items.take 4 ++ items.drop 4 := (List.take_append_drop 4 items).symm
    have hdrop : items.drop (items.length - 4) = (items.drop 4).drop (items.length - 8) := by
      rw [List.drop_drop]
      congr 1
      omega
    have hparts : (items.take 4 ++ items.drop (items.length - 4)).Sublist
        (items.take 4 ++ items.drop 4) := by
      rw [hdrop]
      exact (List.Sublist.refl _).append (List.drop_sublist _ _)
    rwa [← hsplit] at hparts

/-- Fewer classes have fewer lines. -/
theorem length_flatten_le {α : Type} {xs ys : List (List α)} (h : xs.Sublist ys) :
    xs.flatten.length ≤ ys.flatten.length := by
  induction h with
  | slnil => exact le_rfl
  | cons x h ih =>
    rw [List.flatten_cons, List.length_append]
    omega
  | cons_cons x h ih =>
    rw [List.flatten_cons, List.flatten_cons, List.length_append, List.length_append]
    omega

end Scanning

/-! ### Showing -/

section Showing

variable {lib : TextLibrary}

/-- A group as it is shown. -/
def shownGroup (lib : TextLibrary) (g : LogGroup) : Json :=
  .obj [("count", .num g.count), ("first_line", .num g.firstLine),
    ("first_timestamp", stampJson (shownText lib) g.firstTimestamp),
    ("last_line", .num g.lastLine),
    ("last_timestamp", stampJson (shownText lib) g.lastTimestamp),
    ("message", .str (shownText lib g.message))]

/-- The groups, cleaned. -/
def cleanedGroup (lib : TextLibrary) (g : LogGroup) : Json :=
  .obj [("message", .str (redactText lib.isAlnum g.message)), ("count", .num g.count),
    ("first_line", .num g.firstLine),
    ("first_timestamp", stampJson (redactText lib.isAlnum) g.firstTimestamp),
    ("last_line", .num g.lastLine),
    ("last_timestamp", stampJson (redactText lib.isAlnum) g.lastTimestamp)]

theorem cleaned_stamp (stamp : Option String) :
    redact lib.isAlnum (removeExecutionDetails (stamp.elim .null .str)) =
      stampJson (redactText lib.isAlnum) stamp := by
  rcases stamp with _ | t
  · rw [Option.elim_none, removeExecutionDetails, redact]
    · rfl
    all_goals simp
  · rw [Option.elim_some, removeExecutionDetails, redact]
    · rfl
    all_goals simp

/-- The members of a group are no credentials and nothing that is executed. -/
theorem plain_keys : ∀ key ∈ ["message", "count", "first_line", "first_timestamp", "last_line",
    "last_timestamp"], isExecutionKey key = false ∧ isSensitiveKey key = false := by
  have hall : (["message", "count", "first_line", "first_timestamp", "last_line",
      "last_timestamp"].all fun key => !isExecutionKey key && !isSensitiveKey key) = true := by
    decide
  intro key hkey
  have hone := List.all_eq_true.1 hall key hkey
  rwa [Bool.and_eq_true, Bool.not_eq_true', Bool.not_eq_true'] at hone

/-- A member with a plain name is cleaned by its value. -/
theorem clean_member {key : String} (h : isExecutionKey key = false ∧ isSensitiveKey key = false)
    (v : Json) (rest : List (String × Json)) :
    redactMembers lib.isAlnum (removeFromMembers ((key, v) :: rest)) =
      (key, redact lib.isAlnum (removeExecutionDetails v)) ::
        redactMembers lib.isAlnum (removeFromMembers rest) := by
  rw [removeFromMembers, redactMembers, h.1, h.2]
  rfl

theorem clean_group (g : LogGroup) :
    redact lib.isAlnum (removeExecutionDetails g.dump) = cleanedGroup lib g := by
  have hnum : ∀ n : ℤ, redact lib.isAlnum (removeExecutionDetails (.num n)) = .num n := by
    intro n
    rw [removeExecutionDetails, redact] <;> simp
  have htext : ∀ t : String, redact lib.isAlnum (removeExecutionDetails (.str t)) =
      .str (redactText lib.isAlnum t) := by
    intro t
    rw [removeExecutionDetails, redact] <;> simp
  have hkeys := plain_keys
  simp only [List.forall_mem_cons, List.not_mem_nil, false_implies, implies_true, and_true] at hkeys
  obtain ⟨hmessage, hcount, hfirst, hfirstAt, hlast, hlastAt⟩ := hkeys
  rw [LogGroup.dump, removeExecutionDetails, redact, clean_member hmessage, clean_member hcount,
    clean_member hfirst, clean_member hfirstAt, clean_member hlast, clean_member hlastAt, htext,
    hnum, hnum, cleaned_stamp, hnum, cleaned_stamp]
  rfl

theorem clean_groups (groups : List LogGroup) :
    clean lib (.arr (groups.map LogGroup.dump)) = .arr (groups.map (cleanedGroup lib)) := by
  rw [clean, removeExecutionDetails, redact]
  congr 1
  induction groups with
  | nil => rfl
  | cons g rest ih =>
    rw [List.map_cons, List.map_cons, removeFromItems, redactItems, ih, clean_group]

theorem bounded_stamp (n : ℕ) (path : String) (stamp : Option String) :
    (boundedAt n path (stampJson (redactText lib.isAlnum) stamp)).1 =
      stampJson (shownText lib) stamp := by
  rcases stamp with _ | t
  · cases n <;> rfl
  · cases n <;> rfl

theorem setEntry_first {key k : String} {v w : Json} {rest : List (String × Json)} (h : key < k) :
    SortedMap.setEntry key v ((k, w) :: rest) = (key, v) :: (k, w) :: rest := by
  rw [SortedMap.setEntry, if_pos h]

theorem setEntry_behind {key k : String} {v w : Json} {rest : List (String × Json)} (h : k < key) :
    SortedMap.setEntry key v ((k, w) :: rest) = (k, w) :: SortedMap.setEntry key v rest := by
  rw [SortedMap.setEntry, if_neg h.asymm, if_pos h]

/-- The bounds leave a group its members and cut its texts. -/
theorem bounded_group (n : ℕ) (path : String) (g : LogGroup) :
    (boundedAt (n + 2) path (cleanedGroup lib g)).1 = shownGroup lib g := by
  have hsorted : sortedMembers [("message", .str (redactText lib.isAlnum g.message)),
      ("count", .num g.count), ("first_line", .num g.firstLine),
      ("first_timestamp", stampJson (redactText lib.isAlnum) g.firstTimestamp),
      ("last_line", .num g.lastLine),
      ("last_timestamp", stampJson (redactText lib.isAlnum) g.lastTimestamp)] =
      [("count", .num g.count), ("first_line", .num g.firstLine),
        ("first_timestamp", stampJson (redactText lib.isAlnum) g.firstTimestamp),
        ("last_line", .num g.lastLine),
        ("last_timestamp", stampJson (redactText lib.isAlnum) g.lastTimestamp),
        ("message", .str (redactText lib.isAlnum g.message))] := by
    have hlast : "last_line" < "last_timestamp" := by decide
    have hfirstAt : "first_timestamp" < "last_line" := by decide
    have hfirst : "first_line" < "first_timestamp" := by decide
    have hcount : "count" < "first_line" := by decide
    have hmessage : "last_timestamp" < "message" := by decide
    simp only [sortedMembers, List.foldr_cons, List.foldr_nil]
    rw [SortedMap.setEntry, setEntry_first hlast, setEntry_first hfirstAt, setEntry_first hfirst,
      setEntry_first hcount, setEntry_behind (hcount.trans (hfirst.trans (hfirstAt.trans
        (hlast.trans hmessage)))), setEntry_behind (hfirst.trans (hfirstAt.trans
        (hlast.trans hmessage))), setEntry_behind (hfirstAt.trans (hlast.trans hmessage)),
      setEntry_behind (hlast.trans hmessage), setEntry_behind hmessage, SortedMap.setEntry]
  rw [cleanedGroup, boundedAt, hsorted]
  simp only [listLimit, List.take_succ_cons, List.take_nil, List.map_cons, List.map_nil,
    bounded_stamp, shownGroup]
  rfl

/-- **The groups that are shown** are the selected ones, with their texts as they are shown. -/
theorem shown_groups (path : String) {groups : List LogGroup} (h : groups.length ≤ listLimit) :
    (bounded path (clean lib (.arr (groups.map LogGroup.dump)))).1 =
      .arr (groups.map (shownGroup lib)) := by
  rw [clean_groups, bounded, boundedAt]
  simp only [Json.arr.injEq]
  rw [List.take_of_length_le (by rw [List.length_map]; exact h), List.map_map]
  refine List.ext_getElem (by simp) fun i hi hi' => ?_
  simp only [List.getElem_map, Function.comp_apply, List.getElem_zipIdx]
  exact bounded_group 2 _ _

/-- A group of a class shows its lines. -/
theorem showsLines_groupOf {c : List NumberedLine} (hne : c ≠ []) :
    ShowsLines lib (shownText lib) (shownGroup lib (groupOf lib c)) c := by
  obtain ⟨p, rest, rfl⟩ := List.exists_cons_of_ne_nil hne
  have hlast : (p :: rest).getLast? = some ((p :: rest).getLast hne) :=
    List.getLast?_eq_some_getLast hne
  refine ⟨rfl, ⟨p, rfl, rfl, rfl⟩, _, hlast, ?_, ?_⟩
  · show Json.num (((p :: rest).getLast?.map Prod.snd).getD 0 : ℕ) = _
    rw [hlast]
    rfl
  · show stampJson _ ((p :: rest).getLast?.bind (stampOf lib)) = _
    rw [hlast]
    rfl

theorem totalShown_groups (classes : List (List NumberedLine)) :
    totalShown (classes.map fun c => shownGroup lib (groupOf lib c)) = classes.flatten.length := by
  induction classes with
  | nil => rfl
  | cons c rest ih =>
    rw [List.map_cons, totalShown, ih, List.flatten_cons, List.length_append]
    exact (Int.natCast_add _ _).symm

end Showing

/-! ### Timestamps -/

section Timestamps

open Regex

theorem toNat_of_isDigit {c : Char} (h : c.isDigit = true) : c.toNat < 128 := by
  rw [Char.isDigit, Bool.and_eq_true] at h
  exact lt_of_le_of_lt (of_decide_eq_true h.2) (by decide)

/-- A letter of a pattern that no timestamp has. -/
theorem not_stamp_of_sameLetter {c : Char} (hc : c ∈ ['b', 'a', 'o']) (d : Char)
    (h : sameLetter c d = true) : ¬isStampChar d = true := by
  intro hd
  have hnone : (['b', 'a', 'o'].all fun c =>
      (List.range 128).all fun n => !sameLetter c (Char.ofNat n) || !isStampChar (Char.ofNat n)) =
        true := by decide
  have hlow : d.toNat < 128 := by
    rw [isStampChar, Bool.or_eq_true] at hd
    rcases hd with hdigit | hother
    · exact toNat_of_isDigit hdigit
    · simp only [decide_eq_true_eq, List.mem_cons, List.not_mem_nil, or_false] at hother
      rcases hother with rfl | rfl | rfl | rfl | rfl | rfl | rfl <;> decide
  have hone := List.all_eq_true.1 (List.all_eq_true.1 hnone c hc) d.toNat (List.mem_range.2 hlow)
  rw [Char.ofNat_toNat, h, hd] at hone
  cases hone

/-- Each pattern needs a character that no timestamp has. -/
theorem needs_redactions (isAlnum : Char → Bool) :
    ∀ r ∈ redactions isAlnum, r.1.Needs fun c => ¬isStampChar c = true := by
  have hletter : ∀ {c : Char} {text : String}, c ∈ text.toList → c ∈ ['b', 'a', 'o'] →
      (word text).Needs fun c => ¬isStampChar c = true := fun hc hmem =>
    needs_textBy hc (not_stamp_of_sameLetter hmem)
  have hexact : ∀ {c : Char} {text : String}, c ∈ text.toList → isStampChar c = false →
      (exactly text).Needs fun c => ¬isStampChar c = true := fun {c text} hc hstamp =>
    needs_textBy hc fun d hd => by
      rw [← of_decide_eq_true hd, hstamp]
      exact Bool.false_ne_true
  intro r hr
  simp only [redactions, List.mem_cons, List.not_mem_nil, or_false] at hr
  rcases hr with rfl | rfl | rfl | rfl | rfl
  · exact Or.inr (Or.inl (hletter (c := 'b') (by decide) (by decide)))
  · exact Or.inl (Or.inr (Or.inl ⟨hletter (c := 'a') (by decide) (by decide),
      hletter (c := 'o') (by decide) (by decide), hletter (c := 'a') (by decide) (by decide)⟩))
  · exact Or.inl (Or.inl (hexact (c := '"') (by decide) (by decide)))
  · exact Or.inl (Or.inl (hexact (c := '/') (by decide) (by decide)))
  · refine Or.inl ⟨hletter (c := 'a') (by decide) (by decide), ?_, ?_, ?_⟩
    · exact Or.inl (hletter (c := 'a') (by decide) (by decide))
    · exact hletter (c := 'o') (by decide) (by decide)
    · exact hletter (c := 'a') (by decide) (by decide)

/-- **A timestamp of at most 600 characters is shown as it is.** -/
theorem shownText_stamp {lib : TextLibrary} {text : String}
    (h : ∀ c ∈ text.toList, isStampChar c = true) (hlength : text.toList.length ≤ textLimit) :
    shownText lib text = text := by
  have habsent : ∀ c ∈ text.toList, ¬¬isStampChar c = true := fun c hc => not_not.2 (h c hc)
  have hredact : redactText lib.isAlnum text = text := by
    have hrun : ∀ rs : List (Regex × List Piece),
        (∀ r ∈ rs, r.1.Needs fun c => ¬isStampChar c = true) →
          rs.foldl (fun text r => r.1.sub r.2 text) text = text := by
      intro rs hrs
      induction rs with
      | nil => rfl
      | cons r rs ih =>
        rw [List.foldl_cons, sub_eq_of_absent (hrs r List.mem_cons_self) r.2 habsent]
        exact ih fun r' hr' => hrs r' (List.mem_cons_of_mem _ hr')
    exact hrun _ (needs_redactions lib.isAlnum)
  have hansi : ansi.sub [] text = text := by
    refine sub_eq_of_absent (p := fun c => c.toNat = 0x1b) ?_ [] fun c hc hesc => ?_
    · exact Or.inl fun c hc => of_decide_eq_true hc
    · have hstamp := h c hc
      rw [show c = Char.ofNat 0x1b by rw [← hesc, Char.ofNat_toNat]] at hstamp
      revert hstamp
      decide
  have hplain : plainText text = text := by
    rw [plainText, hansi, List.filter_eq_self.2 fun c hc => ?_, String.ofList_toList]
    by_contra hcontrol
    have hsmall : c.toNat < 128 := by
      simp only [isControl, Bool.not_eq_true', Bool.not_eq_false, Bool.or_eq_true,
        Bool.and_eq_true, decide_eq_true_eq] at hcontrol
      omega
    have hnone : ((List.range 128).all fun n =>
        !isControl (Char.ofNat n) || !isStampChar (Char.ofNat n)) = true := by decide
    have hone := List.all_eq_true.1 hnone c.toNat (List.mem_range.2 hsmall)
    rw [Char.ofNat_toNat, h c hc] at hone
    simp only [Bool.not_eq_true', Bool.not_eq_false] at hcontrol
    rw [hcontrol] at hone
    cases hone
  rw [shownText, hredact, hplain, List.take_of_length_le hlength, String.ofList_toList]

end Timestamps

/-! ### The card -/

/-- The groups of a card. -/
theorem get_groups (lib : TextLibrary) (content : String) :
    (groupedLogs lib content).get "groups" =
      .arr ((selectedGroups (scanLines lib 0 1 [] (splitLines content))).map (shownGroup lib)) := by
  have hlength : ∀ groups : List LogGroup, (selectedGroups groups).length ≤ listLimit := by
    intro groups
    have hbound := firstAndLast_length groups
    rw [firstAndLast, groupLimit] at hbound
    rw [selectedGroups, listLimit, groupLimit]
    omega
  exact shown_groups "logs.groups" (hlength _)

/-- **A card about a log accounts for all of its lines.** -/
theorem groupedLogs_conserved (lib : TextLibrary) (content : String) :
    ∃ scanned classes, LinesConserved lib (shownText lib) content scanned classes := by
  obtain ⟨hlength, hcost, hstop⟩ := scannedFrom_spec 0 (splitLines content)
  have hdivides := classesOf_spec (groupKey lib)
    (((splitLines content).zipIdx 1).take (scannedFrom 0 (splitLines content)))
  have hgroups : scanLines lib 0 1 [] (splitLines content) = (classesOf (groupKey lib)
      (((splitLines content).zipIdx 1).take (scannedFrom 0 (splitLines content)))).map
        (groupOf lib) := scanLines_eq 0 1 (splitLines content) [] (by simp)
  refine ⟨scannedFrom 0 (splitLines content), classesOf (groupKey lib)
    (((splitLines content).zipIdx 1).take (scannedFrom 0 (splitLines content))), ?_⟩
  generalize hscanned : scannedFrom 0 (splitLines content) = scanned at *
  generalize hclasses : classesOf (groupKey lib)
    (((splitLines content).zipIdx 1).take scanned) = classes at *
  have htotal : classes.flatten.length = scanned := by
    rw [hdivides.perm.length_eq, List.length_take, List.length_zipIdx]
    omega
  have hcount : totalCount (scanLines lib 0 1 [] (splitLines content)) = scanned := by
    rw [hgroups, totalCount_groupOf, htotal]
  have hselected : totalCount (selectedGroups (scanLines lib 0 1 [] (splitLines content))) =
      (firstAndLast classes).flatten.length := by
    rw [hgroups, selectedGroups_map, totalCount_groupOf]
  have hshown : (groupedLogs lib content).get "groups" =
      .arr ((firstAndLast classes).map fun c => shownGroup lib (groupOf lib c)) := by
    rw [get_groups, hgroups, selectedGroups_map, List.map_map]
    rfl
  have hpart : (firstAndLast classes).flatten.length ≤ scanned := by
    rw [← htotal]
    exact length_flatten_le (firstAndLast_sublist classes)
  refine ⟨⟨hlength, by simpa using hcost (Nat.zero_le _), fun h => by simpa using hstop h⟩, rfl, ?_,
    ?_, hdivides.perm, hdivides.sublist, fun a ha b hb => hdivides.same_iff ha hb,
    ⟨_, ((scanned - (firstAndLast classes).flatten.length : ℕ) : ℤ), hshown, ?_, ?_, ?_⟩,
    fun t h hshort => shownText_stamp h hshort⟩
  · show Json.num ((totalCount (scanLines lib 0 1 [] (splitLines content)) : ℕ) : ℤ) = _
    rw [hcount]
  · show Json.num (((splitLines content).length : ℤ) -
      (totalCount (scanLines lib 0 1 [] (splitLines content)) : ℕ)) = _
    rw [hcount, List.length_drop, Int.ofNat_sub hlength]
  · show Json.num ((totalCount (scanLines lib 0 1 [] (splitLines content)) : ℤ) -
      (totalCount (selectedGroups (scanLines lib 0 1 [] (splitLines content))) : ℕ)) = _
    rw [hcount, hselected, Int.ofNat_sub hpart]
  · rw [List.forall₂_map_left_iff]
    refine List.forall₂_same.2 fun c hc => ?_
    exact showsLines_groupOf (hdivides.nonempty c ((firstAndLast_sublist classes).subset hc))
  · rw [totalShown_groups]
    omega

/-! ### Lines with a timestamp -/

section Stamped

open Regex

variable {lib : TextLibrary}

theorem within_timestamp (hdecimal : ∀ c, lib.isDecimal c = true → isSpace c = false) :
    (timestamp lib).Within fun c => isSpace c = false := by
  have hdash : (exactly "-").Within fun c => isSpace c = false :=
    ⟨fun c hc => by rw [← of_decide_eq_true hc]; decide, trivial⟩
  have ht : (exactly "T").Within fun c => isSpace c = false :=
    ⟨fun c hc => by rw [← of_decide_eq_true hc]; decide, trivial⟩
  have hvisible : ∀ c, (!isSpace c) = true → isSpace c = false := fun c hc => by simpa using hc
  exact ⟨⟨hdecimal, hdecimal, hdecimal, hdecimal, trivial⟩, hdash, ⟨hdecimal, hdecimal, trivial⟩,
    hdash, ⟨hdecimal, hdecimal, trivial⟩, ht, ⟨hvisible, hvisible⟩, trivial⟩

/-- **A line with a timestamp** is split behind it, if the timestamp has a time zone. -/
theorem splitTimestamp_of_stamp (hdecimal : ∀ c, lib.isDecimal c = true → isSpace c = false)
    {stamp message : List Char} {c : Char} (hstamp : (timestamp lib).Accepts stamp)
    (hc : isSpace c = true) (hmessage : ∀ x ∈ message, (decide (x ≠ '\n')) = true)
    (hzone : lib.hasZone (withOffset (String.ofList stamp)) = some true) :
    splitTimestamp lib (String.ofList (stamp ++ c :: message)) =
      (some (String.ofList stamp), String.ofList message) := by
  have haccepts : (stamped lib isSpace).Accepts (stamp ++ c :: message) :=
    ⟨stamp, c :: message, rfl, hstamp, [c], message, rfl, ⟨c, rfl, hc⟩, message, [],
      (List.append_nil _).symm, accepts_star_char.2 hmessage, rfl⟩
  obtain ⟨d, hd, hrest⟩ := (mem_ways_iff (show (stamped lib isSpace).assertionFree = true from rfl)
    ⟨none, stamp ++ c :: message, []⟩ []).2 ⟨_, (List.append_nil _).symm, haccepts⟩
  have hfound : (((stamped lib isSpace).ways ⟨none, (String.ofList (stamp ++ c :: message)).toList,
      []⟩).find? fun d => d.rest = []).isSome := by
    rw [String.toList_ofList]
    exact List.find?_isSome.2 ⟨d, hd, by simpa using hrest⟩
  obtain ⟨e, he⟩ := Option.isSome_iff_exists.1 hfound
  have hmatch : fullmatch (stamped lib isSpace) (String.ofList (stamp ++ c :: message)) =
      some e.groups := by
    rw [fullmatch, he]
    rfl
  obtain ⟨c', hc', htext, hfirst⟩ := fullmatch_stamped hmatch
  -- No timestamp has white space, so that both end at the same place.
  have hvisible : ∀ {text : List Char}, (timestamp lib).Accepts text →
      ∀ x ∈ text, isSpace x = false := by
    intro text htext
    obtain ⟨f, hf, hnil⟩ := (mem_ways_iff (show (timestamp lib).assertionFree = true from rfl)
      ⟨none, text, []⟩ []).2 ⟨text, (List.append_nil _).symm, htext⟩
    obtain ⟨consumed, hconsumed, hall⟩ := consumed_of_mem_ways (within_timestamp hdecimal) _ f hf
    rw [hnil, List.append_nil] at hconsumed
    have hsame : text = consumed := hconsumed
    rw [hsame]
    exact hall
  have hlists := congrArg String.toList htext
  rw [String.toList_ofList, String.toList_append, String.toList_append, String.toList_singleton,
    List.append_assoc, List.singleton_append] at hlists
  have hends : ∀ {text rest : List Char} {x : Char}, (∀ y ∈ text, isSpace y = false) →
      isSpace x = true → (text ++ x :: rest).takeWhile (fun y => !isSpace y) = text := by
    intro text rest x htext hx
    rw [List.takeWhile_append_of_pos fun y hy => by rw [htext y hy]; rfl, List.takeWhile_cons_of_neg
      (by rw [hx]; exact Bool.false_ne_true), List.append_nil]
  have hone : stamp = (groupText 1 e.groups).toList := by
    rw [← hends (hvisible hstamp) hc, hlists, hends (hvisible hfirst) hc']
  rw [← hone, List.append_cancel_left_eq, List.cons.injEq] at hlists
  have hstampText : groupText 1 e.groups = String.ofList stamp := by
    rw [hone, String.ofList_toList]
  have hmessageText : groupText 2 e.groups = String.ofList message := by
    rw [hlists.2, String.ofList_toList]
  rw [splitTimestamp, hmatch]
  simp only
  rw [hstampText, if_pos hzone, hmessageText]

theorem accepts_times {p : Char → Bool} {text : List Char} (h : ∀ c ∈ text, p c = true) :
    (times text.length (.char p)).Accepts text := by
  induction text with
  | nil => rfl
  | cons c rest ih =>
    exact accepts_char_seq.2 ⟨c, rest, rfl, h c List.mem_cons_self,
      ih fun x hx => h x (List.mem_cons_of_mem _ hx)⟩

/-- A date, and anything visible. -/
theorem accepts_timestamp {y m d time : List Char} (hy : y.length = 4) (hm : m.length = 2)
    (hd : d.length = 2) (hdigits : ∀ c ∈ y ++ m ++ d, lib.isDecimal c = true) (hne : time ≠ [])
    (htime : ∀ c ∈ time, (!isSpace c) = true) :
    (timestamp lib).Accepts (y ++ ('-' :: (m ++ ('-' :: (d ++ ('T' :: time)))))) := by
  have hpart : ∀ {n : ℕ} {part : List Char}, part.length = n → part ⊆ y ++ m ++ d →
      (times n (.char lib.isDecimal)).Accepts part := by
    rintro n part rfl hsub
    exact accepts_times fun c hc => hdigits c (hsub hc)
  have hexact : ∀ c : Char, (exactly (String.ofList [c])).Accepts [c] := by
    intro c
    rw [exactly, textBy, String.toList_ofList]
    exact accepts_char_seq.2 ⟨c, [], rfl, decide_eq_true rfl, rfl⟩
  refine ⟨y, _, rfl, hpart hy (by simp), ['-'], _, rfl, hexact '-', m, _, rfl, hpart hm (by simp),
    ['-'], _, rfl, hexact '-', d, _, rfl, hpart hd (by simp), ['T'], time, rfl, hexact 'T', ?_⟩
  exact accepts_plus_seq.2 ⟨time, [], (List.append_nil _).symm, hne, htime, rfl⟩

end Stamped

/-! ### A timestamp that is cut -/

/-- A library that reads timestamps with an offset, however many digits their seconds have. -/
def stampLibrary : TextLibrary where
  isAlnum := Char.isAlphanum
  isDecimal := Char.isDigit
  hasZone text := if "+00:00".toList <:+ text.toList then some true else none
  loads _ := none
  digest _ := ""

theorem hasZone_of_suffix {text : String} (h : "+00:00".toList <:+ text.toList) :
    stampLibrary.hasZone text = some true := if_pos h

/-- A time with 600 digits behind its seconds, before its time zone. -/
def longTime : List Char :=
  ['0', '0', ':', '0', '0', ':', '0', '0', '.'] ++ List.replicate 600 '0'

/-- A timestamp with that time, before its time zone. -/
def longStart : List Char :=
  ['2', '0', '2', '5'] ++ ('-' :: (['0', '1'] ++ ('-' :: (['0', '1'] ++ ('T' :: longTime)))))

/-- A timestamp with that time. -/
def longStamp : List Char := longStart ++ ['Z']

/-- A line with that timestamp. -/
def longLine : String := String.ofList (longStamp ++ ' ' :: ['r', 'e', 'a', 'd', 'y'])

/-- Characters of that time. -/
theorem longTime_chars {p : Char → Bool} (h : ∀ c ∈ ['0', ':', '.'], p c = true) :
    ∀ c ∈ longTime, p c = true := by
  intro c hc
  refine h c ?_
  rcases List.mem_append.1 hc with hc | hc
  · simp only [List.mem_cons, List.not_mem_nil, or_false] at hc ⊢
    tauto
  · rw [(List.mem_replicate.1 hc).2]
    exact List.mem_cons_self

/-- Characters of that timestamp. -/
theorem longStamp_chars {p : Char → Bool}
    (h : ∀ c ∈ ['0', ':', '.', '1', '2', '5', '-', 'T', 'Z'], p c = true) :
    ∀ c ∈ longStamp, p c = true := by
  have htime : ∀ c ∈ longTime, p c = true :=
    longTime_chars fun c hc => h c (List.mem_append_left ['1', '2', '5', '-', 'T', 'Z'] hc)
  intro c hc
  simp only [longStamp, longStart, List.mem_append, List.mem_cons, List.not_mem_nil, or_false] at hc
  by_cases hmem : c ∈ longTime
  · exact htime c hmem
  · refine h c ?_
    simp only [List.mem_cons, List.not_mem_nil, or_false]
    tauto

theorem length_longStamp : longStamp.length = 621 := by
  rw [longStamp, longStart, longTime]
  simp only [List.length_append, List.length_cons, List.length_nil, List.length_replicate]

/-- A text that ends with `Z` ends with an offset instead. -/
theorem suffix_withOffset (text : List Char) :
    "+00:00".toList <:+ (withOffset (String.ofList (text ++ ['Z']))).toList := by
  have hsplit : (withOffset (String.ofList (text ++ ['Z']))).toList =
      text.flatMap (fun c => if c = 'Z' then "+00:00".toList else [c]) ++ "+00:00".toList := by
    simp only [withOffset, String.toList_ofList, List.flatMap_append]
    rfl
  exact ⟨_, hsplit.symm⟩

theorem splitTimestamp_longLine :
    splitTimestamp stampLibrary longLine = (some (String.ofList longStamp), "ready") := by
  have hdecimal : ∀ c, stampLibrary.isDecimal c = true → isSpace c = false := by
    intro c hc
    have hnone : ((List.range 128).all fun n =>
        !(Char.ofNat n).isDigit || !isSpace (Char.ofNat n)) = true := by decide
    have hone := List.all_eq_true.1 hnone c.toNat (List.mem_range.2 (toNat_of_isDigit hc))
    have hdigit : c.isDigit = true := hc
    rw [Char.ofNat_toNat, hdigit] at hone
    simpa using hone
  have hstamp : (timestamp stampLibrary).Accepts longStamp := by
    have htime : ∀ c ∈ longTime ++ ['Z'], (!isSpace c) = true := by
      intro c hc
      rcases List.mem_append.1 hc with hc | hc
      · exact longTime_chars (p := fun c => !isSpace c) (List.all_eq_true.1 (by decide)) c hc
      · rw [List.mem_singleton.1 hc]
        decide
    have hshape : longStamp = ['2', '0', '2', '5'] ++ ('-' :: (['0', '1'] ++ ('-' ::
        (['0', '1'] ++ ('T' :: (longTime ++ ['Z'])))))) := rfl
    have hne : longTime ++ ['Z'] ≠ [] := List.append_ne_nil_of_right_ne_nil _ (List.cons_ne_nil _ _)
    rw [hshape]
    have hdigits : ∀ c ∈ ['2', '0', '2', '5'] ++ ['0', '1'] ++ ['0', '1'],
        stampLibrary.isDecimal c = true := List.all_eq_true.1 (by decide)
    exact accepts_timestamp rfl rfl rfl hdigits hne htime
  have hmessage : ∀ x ∈ ['r', 'e', 'a', 'd', 'y'], (decide (x ≠ '\n')) = true :=
    List.all_eq_true.1 (by decide)
  have hzone : stampLibrary.hasZone (withOffset (String.ofList longStamp)) = some true := by
    rw [longStamp]
    exact hasZone_of_suffix (suffix_withOffset longStart)
  rw [longLine, splitTimestamp_of_stamp hdecimal hstamp (by decide) hmessage hzone]

/-- A text without line breaks is one line. -/
theorem linesFrom_of_plain {text line : List Char} (h : ∀ c ∈ text, isLineBreak c = false)
    (hne : line ++ text ≠ []) : linesFrom line text = [line ++ text] := by
  induction text generalizing line with
  | nil => rw [linesFrom, if_neg (by simpa using hne), List.append_nil]
  | cons c rest ih =>
    rw [linesFrom, h c List.mem_cons_self, Bool.false_and, if_neg Bool.false_ne_true,
      ih (fun x hx => h x (List.mem_cons_of_mem _ hx)) (by simp), List.append_assoc]
    rfl

theorem splitLines_longLine : splitLines longLine = [longLine] := by
  have hplain : ∀ c ∈ longStamp ++ ' ' :: ['r', 'e', 'a', 'd', 'y'], isLineBreak c = false := by
    intro c hc
    rcases List.mem_append.1 hc with hc | hc
    · have hstamp : ∀ c ∈ longStamp, (!isLineBreak c) = true :=
        longStamp_chars (List.all_eq_true.1 (by decide))
      simpa using hstamp c hc
    · have hall : ([' ', 'r', 'e', 'a', 'd', 'y'].all fun c => !isLineBreak c) = true := by decide
      simpa using List.all_eq_true.1 hall c hc
  rw [splitLines, longLine, String.toList_ofList, linesFrom_of_plain hplain (by simp),
    List.nil_append, List.map_singleton, List.filter_eq_self.2 fun c hc => by rw [hplain c hc]; rfl]

/-- **A timestamp can be cut**: a card does not show the timestamps of lines as they are. -/
theorem groupedLogs_cut :
    ¬∃ scanned classes, LinesConserved stampLibrary id longLine scanned classes := by
  rintro ⟨scanned, classes, h⟩
  obtain ⟨items, omitted, hitems, -, hshows, -⟩ := h.groups
  have hfits : ¬scanLimit < 0 + longLine.toList.length + 1 := by
    rw [longLine, String.toList_ofList, List.length_append, length_longStamp]
    decide
  rw [get_groups, splitLines_longLine, scanLines, if_neg hfits, splitTimestamp_longLine] at hitems
  have hshown : items = [shownGroup stampLibrary
      ⟨"ready", 1, 1, some (String.ofList longStamp), 1, some (String.ofList longStamp)⟩] :=
    (Json.arr.inj hitems).symm
  -- The only group is the one of the only line.
  rw [hshown] at hshows
  cases hselected : firstAndLast classes with
  | nil =>
    rw [hselected] at hshows
    cases hshows
  | cons c rest =>
    rw [hselected, List.forall₂_cons] at hshows
    obtain ⟨p, hp, -, hstamp⟩ := hshows.1.first
    have hmem : c ∈ classes := (firstAndLast_sublist classes).subset (by
      rw [hselected]
      exact List.mem_cons_self)
    have hline := List.mem_of_mem_take ((h.ordered c hmem).subset (List.mem_of_mem_head? hp))
    rw [splitLines_longLine, List.zipIdx_singleton, List.mem_singleton] at hline
    rw [hline, stampOf, splitTimestamp_longLine] at hstamp
    have hsame : shownText stampLibrary (String.ofList longStamp) = String.ofList longStamp :=
      Json.str.inj hstamp
    have hcut := congrArg (fun t => t.toList.length) hsame
    simp only [shownText, String.toList_ofList, List.length_take, length_longStamp, textLimit]
      at hcut
    omega

end IncidentAgent
