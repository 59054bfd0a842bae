import IncidentAgent.Investigation.Logs
import IncidentAgent.Lib.Language
import IncidentAgent.Lib.Ranges

/-!
# The projection of a log loses nothing

`projectLogs` shows a log with the lines of probes grouped by their message, and all other lines
as they are. Both parts of the view are built line by line. `occurrences` are the lines with one
message and their numbers; each group is determined by the occurrences of its message
(`Describes`), and the spans by the lines that are in no group (`Shows`). Together they have each
line once.
-/

namespace IncidentAgent

open Ranges Regex

variable {lib : TextLibrary}

/-! ### Lines -/

/-- The message of a line, if it is one of a probe. -/
def messageOf (lib : TextLibrary) (line : String) : Option String :=
  (probeLine lib line).map Prod.fst

/-- The lines with a message, with their numbers. -/
def occurrences (lib : TextLibrary) (message : String) (lines : List String) :
    List (String × Nat) :=
  (lines.zipIdx 1).filter fun p => messageOf lib p.1 = some message

theorem zipIdx_concat (lines : List String) (line : String) :
    (lines ++ [line]).zipIdx 1 = lines.zipIdx 1 ++ [(line, lines.length + 1)] := by
  rw [List.zipIdx_append, List.zipIdx_singleton, Nat.add_comm]

theorem occurrences_concat_of_eq {message line : String} (lines : List String)
    (h : messageOf lib line = some message) :
    occurrences lib message (lines ++ [line]) =
      occurrences lib message lines ++ [(line, lines.length + 1)] := by
  rw [occurrences, zipIdx_concat, List.filter_append, occurrences]
  simp [h]

theorem occurrences_concat_of_ne {message line : String} (lines : List String)
    (h : messageOf lib line ≠ some message) :
    occurrences lib message (lines ++ [line]) = occurrences lib message lines := by
  rw [occurrences, zipIdx_concat, List.filter_append, occurrences]
  simp [h]

theorem getElem?_of_mem_occurrences {message : String} {lines : List String} {p : String × Nat}
    (h : p ∈ occurrences lib message lines) :
    lines[p.2 - 1]? = some p.1 ∧ 1 ≤ p.2 ∧ p.2 ≤ lines.length ∧
      ∃ timestamp, probeLine lib p.1 = some (message, timestamp) := by
  obtain ⟨hmem, hmessage⟩ := List.mem_filter.1 h
  rw [decide_eq_true_eq, messageOf, Option.map_eq_some_iff] at hmessage
  obtain ⟨⟨m, timestamp⟩, hparsed, rfl⟩ := hmessage
  obtain ⟨line, n⟩ := p
  have hget := List.mem_zipIdx_iff_le_and_getElem?_sub.1 hmem
  have hlt : n - 1 < lines.length := (List.getElem?_eq_some_iff.1 hget.2).1
  exact ⟨hget.2, hget.1, by omega, timestamp, hparsed⟩

/-! ### Groups -/

theorem addToRanges_eq (number : Nat) (ranges : List (Nat × Nat)) :
    addToRanges number ranges = extend number ranges := by
  induction ranges with
  | nil => rfl
  | cons r rest ih =>
    cases rest with
    | nil => rfl
    | cons s rest => rw [addToRanges, extend, ih]

/-- A group with one more line. -/
def ProbeGroup.more (g : ProbeGroup) (number : Nat) (timestamp : Option String) : ProbeGroup :=
  { g with
    count := g.count + 1
    lastTimestamp := timestamp
    lineRanges := addToRanges number g.lineRanges }

/-- The groups after a line, of a probe or not. -/
def probeStep (lib : TextLibrary) (number : Nat) (line : String) (groups : List ProbeGroup) :
    List ProbeGroup :=
  (probeLine lib line).elim groups fun parsed => addProbe number line parsed.1 parsed.2 groups

theorem probeGroups_cons (number : Nat) (groups : List ProbeGroup) (line : String)
    (rest : List String) : probeGroups lib number groups (line :: rest) =
      probeGroups lib (number + 1) (probeStep lib number line groups) rest := by
  rw [probeGroups, probeStep]
  cases probeLine lib line <;> rfl

/-- A group is the one of the occurrences of its message. -/
structure Describes (lib : TextLibrary) (lines : List String) (g : ProbeGroup) : Prop where
  covers : numbers g.lineRanges = (occurrences lib g.message lines).map Prod.snd
  separated : Separated g.lineRanges
  bound : ∀ r ∈ g.lineRanges, r.2 < lines.length + 1
  count : g.count = (occurrences lib g.message lines).length
  /-- The example is the first line, with its timestamp. -/
  first : (occurrences lib g.message lines).head?.map Prod.fst = some g.sampleRaw
  firstTimestamp : probeLine lib g.sampleRaw = some (g.message, g.firstTimestamp)
  /-- The last timestamp is the one of the last line. -/
  last : ∀ p ∈ (occurrences lib g.message lines).getLast?,
    probeLine lib p.1 = some (g.message, g.lastTimestamp)

/-- Groups are those of the lines of probes. -/
structure Groups (lib : TextLibrary) (lines : List String) (groups : List ProbeGroup) : Prop where
  messages : (groups.map (·.message)).Nodup
  describes : ∀ g ∈ groups, Describes lib lines g
  complete : ∀ line ∈ lines, ∀ parsed ∈ probeLine lib line, parsed.1 ∈ groups.map (·.message)

section Groups

variable {lines : List String} {line message : String} {timestamp : Option String}
  {g : ProbeGroup} {groups : List ProbeGroup}

theorem messageOf_eq (h : probeLine lib line = some (message, timestamp)) :
    messageOf lib line = some message := by
  rw [messageOf, h]
  rfl

/-- A line with another message, or with none, leaves a group as it is. -/
theorem Describes.other (h : Describes lib lines g) (hline : messageOf lib line ≠ some g.message) :
    Describes lib (lines ++ [line]) g := by
  have hsame := occurrences_concat_of_ne lines hline
  refine ⟨by rw [hsame]; exact h.covers, h.separated, fun r hr => ?_, by rw [hsame]; exact h.count,
    by rw [hsame]; exact h.first, h.firstTimestamp, by rw [hsame]; exact h.last⟩
  rw [List.length_append]
  exact (h.bound r hr).trans_le (by simp)

/-- A group with one more line of its message. -/
theorem Describes.same (h : Describes lib lines g)
    (hline : probeLine lib line = some (g.message, timestamp)) :
    Describes lib (lines ++ [line]) (g.more (lines.length + 1) timestamp) := by
  have hmore : occurrences lib g.message (lines ++ [line]) =
      occurrences lib g.message lines ++ [(line, lines.length + 1)] :=
    occurrences_concat_of_eq lines (messageOf_eq hline)
  constructor
  · show numbers (addToRanges _ _) = List.map Prod.snd (occurrences lib g.message _)
    rw [addToRanges_eq, numbers_extend h.separated.nonempty, h.covers, hmore, List.map_append]
    rfl
  · show Separated (addToRanges _ _)
    rw [addToRanges_eq]
    exact h.separated.extend h.bound
  · intro r hr
    rw [List.length_append]
    rw [ProbeGroup.more, addToRanges_eq] at hr
    exact extend_bound h.bound r hr
  · show g.count + 1 = (occurrences lib g.message _).length
    rw [hmore, List.length_append, h.count]
    rfl
  · show (occurrences lib g.message _).head?.map Prod.fst = some g.sampleRaw
    have hfirst := h.first
    rw [hmore]
    cases hocc : occurrences lib g.message lines with
    | nil => simp [hocc] at hfirst
    | cons p rest => simpa [hocc] using hfirst
  · exact h.firstTimestamp
  · intro p hp
    rw [ProbeGroup.more, hmore, List.getLast?_concat, Option.mem_some_iff] at hp
    rw [← hp]
    exact hline

/-- The group of the first line with a message. -/
theorem Describes.new (hnone : occurrences lib message lines = [])
    (hline : probeLine lib line = some (message, timestamp)) :
    Describes lib (lines ++ [line]) ⟨message, line, 1, timestamp, timestamp,
      [(lines.length + 1, lines.length + 1)]⟩ := by
  have hone : occurrences lib message (lines ++ [line]) = [(line, lines.length + 1)] := by
    rw [occurrences_concat_of_eq lines (messageOf_eq hline), hnone, List.nil_append]
  refine ⟨?_, ⟨by simp, by simp⟩, by simp, by rw [hone]; rfl, by rw [hone]; rfl, hline, ?_⟩
  · rw [hone]
    simp [numbers, numbersOf]
  · intro p hp
    rw [hone] at hp
    rw [← (by simpa using hp : (line, lines.length + 1) = p)]
    exact hline

theorem addProbe_of_notMem {number : Nat} (h : message ∉ groups.map (·.message)) :
    addProbe number line message timestamp groups =
      groups ++ [⟨message, line, 1, timestamp, timestamp, [(number, number)]⟩] := by
  induction groups with
  | nil => rfl
  | cons g rest ih =>
    rw [List.map_cons, List.mem_cons, not_or] at h
    rw [addProbe, if_neg fun he => h.1 he.symm, ih h.2, List.cons_append]

theorem addProbe_of_mem (h : message ∈ groups.map (·.message)) (line : String)
    (timestamp : Option String) (number : Nat) :
    ∃ before g after, groups = before ++ g :: after ∧ g.message = message ∧
      addProbe number line message timestamp groups =
        before ++ g.more number timestamp :: after := by
  induction groups with
  | nil => cases h
  | cons g rest ih =>
    by_cases hg : g.message = message
    · exact ⟨[], g, rest, rfl, hg, by rw [addProbe, if_pos hg]; rfl⟩
    · rw [List.map_cons, List.mem_cons] at h
      obtain ⟨before, g', after, rfl, hmessage, hadd⟩ := ih (h.resolve_left fun he => hg he.symm)
      refine ⟨g :: before, g', after, rfl, hmessage, ?_⟩
      rw [addProbe, if_neg hg, hadd, List.cons_append]

/-- **One more line**, of a probe or not. -/
theorem Groups.step (h : Groups lib lines groups) (line : String) :
    Groups lib (lines ++ [line]) (probeStep lib (lines.length + 1) line groups) := by
  unfold probeStep
  cases hline : probeLine lib line with
  | none =>
    have hnone : ∀ m, messageOf lib line ≠ some m := by simp [messageOf, hline]
    refine ⟨h.messages, fun g hg => (h.describes g hg).other (hnone _), fun l hl parsed hp => ?_⟩
    rcases List.mem_append.1 hl with hl | hl
    · exact h.complete l hl parsed hp
    · rw [List.mem_singleton.1 hl, hline] at hp
      cases hp
  | some parsed =>
    obtain ⟨message, timestamp⟩ := parsed
    have hmessage := messageOf_eq hline
    -- Whether the message is new or not, its group is there afterwards.
    have hcomplete : ∀ groups' : List ProbeGroup,
        (∀ m, m = message ∨ m ∈ groups.map (·.message) → m ∈ groups'.map (·.message)) →
        ∀ l ∈ lines ++ [line], ∀ parsed ∈ probeLine lib l, parsed.1 ∈ groups'.map (·.message) := by
      intro groups' hsub l hl parsed hp
      rcases List.mem_append.1 hl with hl | hl
      · exact hsub _ (Or.inr (h.complete l hl parsed hp))
      · rw [List.mem_singleton.1 hl, hline] at hp
        rw [← Option.some.inj hp]
        exact hsub _ (Or.inl rfl)
    by_cases hmem : message ∈ groups.map (·.message)
    · obtain ⟨before, g, after, rfl, rfl, hadd⟩ :=
        addProbe_of_mem hmem line timestamp (lines.length + 1)
      rw [Option.elim_some, hadd]
      have hmap : (before ++ g.more (lines.length + 1) timestamp :: after).map (·.message) =
          (before ++ g :: after).map (·.message) := by
        simp [ProbeGroup.more]
      refine ⟨by rw [hmap]; exact h.messages, fun x hx => ?_, hcomplete _ fun m hm => ?_⟩
      · have hnodup := h.messages
        rw [List.map_append, List.map_cons, List.nodup_append, List.nodup_cons] at hnodup
        have hother : x ∈ before ++ after → messageOf lib line ≠ some x.message := by
          intro hx he
          have hsame : x.message = g.message := Option.some.inj (he.symm.trans hmessage)
          rcases List.mem_append.1 hx with hx | hx
          · exact hnodup.2.2 x.message (List.mem_map_of_mem hx) g.message List.mem_cons_self hsame
          · exact hnodup.2.1.1 (hsame ▸ List.mem_map_of_mem hx)
        rcases List.mem_append.1 hx with hx | hx
        · exact (h.describes x (List.mem_append_left _ hx)).other
            (hother (List.mem_append_left _ hx))
        · rcases List.mem_cons.1 hx with rfl | hx
          · exact (h.describes g (by simp)).same hline
          · exact (h.describes x (by simp [hx])).other (hother (List.mem_append_right _ hx))
      · rw [hmap]
        rcases hm with rfl | hm
        · exact hmem
        · exact hm
    · rw [Option.elim_some, addProbe_of_notMem hmem]
      have hnone : occurrences lib message lines = [] := by
        refine List.eq_nil_iff_forall_not_mem.2 fun p hp => hmem ?_
        obtain ⟨hget, -, -, t, hparsed⟩ := getElem?_of_mem_occurrences hp
        exact h.complete p.1 (List.mem_of_getElem? hget) (message, t) hparsed
      refine ⟨?_, fun x hx => ?_, hcomplete _ fun m hm => ?_⟩
      · rw [List.map_append, List.nodup_append]
        refine ⟨h.messages, by simp, fun a ha b hb hab => hmem ?_⟩
        rw [← (by simpa using hb : b = message), ← hab]
        exact ha
      · rcases List.mem_append.1 hx with hx | hx
        · refine (h.describes x hx).other fun he => hmem ?_
          rw [Option.some.inj (hmessage.symm.trans he)]
          exact List.mem_map_of_mem hx
        · rw [List.mem_singleton.1 hx]
          exact Describes.new hnone hline
      · rw [List.map_append, List.mem_append]
        rcases hm with rfl | hm
        · exact Or.inr (by simp)
        · exact Or.inl hm

/-- **All lines.** -/
theorem Groups.run (h : Groups lib lines groups) (rest : List String) :
    Groups lib (lines ++ rest) (probeGroups lib (lines.length + 1) groups rest) := by
  induction rest generalizing lines groups with
  | nil => rwa [List.append_nil]
  | cons line rest ih =>
    have hstep := ih (h.step line)
    rw [List.append_assoc, List.length_append, List.length_singleton, List.singleton_append]
      at hstep
    rw [probeGroups_cons]
    exact hstep

end Groups

/-! ### Spans -/

/-- The lines of a span. -/
def RawSpan.range (s : RawSpan) : Nat × Nat := (s.startLine, s.endLine)

/-- Whether a line is in one of the groups. -/
def hidden (lib : TextLibrary) (repeated : List ProbeGroup) (line : String) : Bool :=
  (probeLine lib line).any fun parsed => repeated.any fun g => g.message = parsed.1

/-- The lines from one number to another. -/
def slice (lines : List String) (r : Nat × Nat) : List String :=
  (lines.drop (r.1 - 1)).take (r.2 + 1 - r.1)

/-- Spans are the lines that are in no group. -/
structure Shows (lib : TextLibrary) (repeated : List ProbeGroup) (lines : List String)
    (spans : List RawSpan) : Prop where
  covers : numbers (spans.map RawSpan.range) =
    ((lines.zipIdx 1).filter fun p => !hidden lib repeated p.1).map Prod.snd
  separated : Separated (spans.map RawSpan.range)
  bound : ∀ s ∈ spans, 1 ≤ s.startLine ∧ s.endLine < lines.length + 1
  content : ∀ s ∈ spans, s.content = String.join (slice lines s.range)

section Spans

variable {lines : List String} {line : String} {repeated : List ProbeGroup} {spans : List RawSpan}

/-- What a new line does to spans: it extends the last of them, or comes after them. -/
theorem addToSpans_cases (number : Nat) (line : String) (spans : List RawSpan) :
    (∃ init s, spans = init ++ [s] ∧ s.endLine + 1 = number ∧ addToSpans number line spans =
        init ++ [{ s with content := s.content ++ line, endLine := number }]) ∨
      addToSpans number line spans = spans ++ [⟨number, number, line⟩] := by
  induction spans with
  | nil => exact Or.inr rfl
  | cons s rest ih =>
    cases rest with
    | nil =>
      by_cases hs : s.endLine + 1 = number
      · exact Or.inl ⟨[], s, rfl, hs, by rw [addToSpans, if_pos hs]; rfl⟩
      · exact Or.inr (by rw [addToSpans, if_neg hs]; rfl)
    | cons t rest =>
      rcases ih with ⟨init, u, he, hu, hx⟩ | hx
      · exact Or.inl ⟨s :: init, u, by rw [he]; rfl, hu, by rw [addToSpans, hx]; rfl⟩
      · exact Or.inr (by rw [addToSpans, hx]; rfl)

theorem range_addToSpans (number : Nat) (line : String) (spans : List RawSpan) :
    (addToSpans number line spans).map RawSpan.range =
      extend number (spans.map RawSpan.range) := by
  induction spans with
  | nil => rfl
  | cons s rest ih =>
    cases rest with
    | nil =>
      by_cases hs : s.endLine + 1 = number <;> simp [addToSpans, extend, RawSpan.range, hs]
    | cons t rest => simpa [addToSpans, extend] using ih

/-- Lines that are there already are not changed by one more. -/
theorem slice_concat {r : Nat × Nat} (hstart : 1 ≤ r.1) (hle : r.1 ≤ r.2)
    (hend : r.2 < lines.length + 1) : slice (lines ++ [line]) r = slice lines r := by
  rw [slice, slice, List.drop_append_of_le_length (by omega),
    List.take_append_of_le_length (by rw [List.length_drop]; omega)]

/-- The lines up to the last one. -/
theorem slice_to_end {start : Nat} (hstart : 1 ≤ start) (hend : start ≤ lines.length + 1) :
    slice (lines ++ [line]) (start, lines.length + 1) =
      slice lines (start, lines.length) ++ [line] := by
  rw [slice, slice, List.drop_append_of_le_length (by omega)]
  rw [List.take_of_length_le (by rw [List.length_append, List.length_drop]; simp; omega),
    List.take_of_length_le (by rw [List.length_drop]; show lines.length - (start - 1) ≤ _; omega)]

/-- **One more line**, shown or not. -/
theorem Shows.step (h : Shows lib repeated lines spans) (line : String) :
    Shows lib repeated (lines ++ [line]) (if hidden lib repeated line then spans
      else addToSpans (lines.length + 1) line spans) := by
  have hold : ∀ s ∈ spans, (1 ≤ s.startLine ∧ s.endLine < (lines ++ [line]).length + 1) ∧
      s.content = String.join (slice (lines ++ [line]) s.range) := by
    intro s hs
    obtain ⟨hstart, hend⟩ := h.bound s hs
    have hle : s.startLine ≤ s.endLine := h.separated.nonempty _ (List.mem_map_of_mem hs)
    refine ⟨⟨hstart, by rw [List.length_append]; omega⟩, ?_⟩
    rw [h.content s hs, slice_concat hstart hle hend]
  split
  · rename_i hhidden
    refine ⟨?_, h.separated, fun s hs => (hold s hs).1, fun s hs => (hold s hs).2⟩
    rw [h.covers, zipIdx_concat, List.filter_append]
    simp [hhidden]
  · rename_i hshown
    have hranges : ∀ r ∈ spans.map RawSpan.range, r.2 < lines.length + 1 := by
      intro r hr
      obtain ⟨s, hs, rfl⟩ := List.mem_map.1 hr
      exact (h.bound s hs).2
    have hnew : ∀ s ∈ addToSpans (lines.length + 1) line spans, s ∈ spans ∨
        ((1 ≤ s.startLine ∧ s.endLine < (lines ++ [line]).length + 1) ∧
          s.content = String.join (slice (lines ++ [line]) s.range)) := by
      intro s hs
      rcases addToSpans_cases (lines.length + 1) line spans with ⟨init, t, rfl, ht, hx⟩ | hx <;>
        rw [hx] at hs <;> rcases List.mem_append.1 hs with hs | hs
      · exact Or.inl (List.mem_append_left _ hs)
      · rw [List.mem_singleton.1 hs]
        have hmem : t ∈ init ++ [t] := by simp
        have hle : t.startLine ≤ t.endLine := h.separated.nonempty _ (List.mem_map_of_mem hmem)
        have hstart := (h.bound t hmem).1
        refine Or.inr ⟨⟨hstart, by simp⟩, ?_⟩
        show t.content ++ line = String.join (slice _ (t.startLine, lines.length + 1))
        have hend : t.range = (t.startLine, lines.length) := by
          rw [RawSpan.range, Nat.succ.inj ht]
        rw [slice_to_end hstart (by omega), h.content t hmem, hend]
        refine String.toList_injective ?_
        simp [String.toList_join]
      · exact Or.inl hs
      · rw [List.mem_singleton.1 hs]
        refine Or.inr ⟨by simp, ?_⟩
        show line = String.join (slice _ (lines.length + 1, lines.length + 1))
        rw [slice_to_end (by omega) le_rfl]
        refine String.toList_injective ?_
        simp [slice]
    refine ⟨?_, ?_, fun s hs => (hnew s hs).elim (fun hs => (hold s hs).1) (·.1),
      fun s hs => (hnew s hs).elim (fun hs => (hold s hs).2) (·.2)⟩
    · rw [range_addToSpans, numbers_extend h.separated.nonempty, h.covers, zipIdx_concat,
        List.filter_append]
      simp [hshown]
    · rw [range_addToSpans]
      exact h.separated.extend hranges

theorem Shows.run (h : Shows lib repeated lines spans) (rest : List String) :
    Shows lib repeated (lines ++ rest)
      (rawSpans lib repeated (lines.length + 1) spans rest) := by
  induction rest generalizing lines spans with
  | nil => rwa [List.append_nil]
  | cons line rest ih =>
    have hstep := ih (h.step line)
    rw [List.append_assoc, List.length_append, List.length_singleton, List.singleton_append]
      at hstep
    rw [rawSpans]
    exact hstep

end Spans

/-! ### Lines of probes -/

theorem groupFree_times {r : Regex} (h : r.groupFree = true) (n : Nat) :
    (times n r).groupFree = true := by
  induction n with
  | zero => rfl
  | succ n ih =>
    show (r.groupFree && (times n r).groupFree) = true
    rw [h, ih]
    rfl

theorem groupFree_timestamp (lib : TextLibrary) : (timestamp lib).groupFree = true := by
  have htimes := fun n => groupFree_times (show (Regex.char lib.isDecimal).groupFree = true from rfl) n
  have hexactly : ∀ text : String, (exactly text).groupFree = true := by
    intro text
    rw [exactly, textBy]
    induction text.toList with
    | nil => rfl
    | cons c cs ih => exact ih
  simp only [timestamp, inOrder, List.foldr, groupFree, htimes, hexactly, plus, Bool.and_self]

/-- **A line that begins with a timestamp** is the timestamp, the separator and the rest. -/
theorem fullmatch_stamped {separator : Char → Bool} {text : String}
    {groups : List (Nat × List Char)} (h : fullmatch (stamped lib separator) text = some groups) :
    ∃ c, separator c = true ∧
      text = groupText 1 groups ++ String.singleton c ++ groupText 2 groups ∧
      (timestamp lib).Accepts (groupText 1 groups).toList := by
  rw [fullmatch, Option.map_eq_some_iff] at h
  obtain ⟨d, hd, rfl⟩ := h
  have hend : d.rest = [] := by simpa using List.find?_some hd
  have hmem := List.mem_of_find?_eq_some hd
  simp only [stamped, inOrder, List.foldr] at hmem
  rw [ways, List.mem_flatMap] at hmem
  obtain ⟨e, he, hmem⟩ := hmem
  rw [ways, List.mem_flatMap] at hmem
  obtain ⟨f, hf, hmem⟩ := hmem
  rw [ways, List.mem_flatMap] at hmem
  obtain ⟨g, hg, hmem⟩ := hmem
  rw [ways, List.mem_singleton] at hmem
  subst hmem
  obtain ⟨first, hfirst, htext⟩ := group_of_mem_ways he (groupFree_timestamp lib)
  obtain ⟨second, hsecond, hrest⟩ := group_of_mem_ways hg rfl
  rw [ways] at hf
  cases hc : e.rest with
  | nil => simp [hc] at hf
  | cons c rest =>
    simp only [hc] at hf
    split at hf
    · rename_i hseparator
      rw [List.mem_singleton] at hf
      subst hf
      refine ⟨c, hseparator, ?_⟩
      have hfirst' : e.groups = [(1, first)] := hfirst
      have hgroups : d.groups = [(2, second), (1, first)] := by rw [hsecond, hfirst']
      have hrest' : rest = second ++ d.rest := hrest
      have htext' : text.toList = first ++ c :: rest := by rw [← hc]; exact htext
      have hone : groupText 1 d.groups = String.ofList first := by rw [hgroups]; rfl
      have htwo : groupText 2 d.groups = String.ofList second := by rw [hgroups]; rfl
      rw [hone, htwo]
      constructor
      · refine String.toList_injective ?_
        rw [htext', hrest', hend]
        simp
      · obtain ⟨stamp, hstamp, haccepts⟩ := (mem_ways_iff
          (show (group 1 (timestamp lib)).assertionFree = true from rfl) _ e.rest).1 ⟨e, he, rfl⟩
        rw [String.toList_ofList, ← List.append_cancel_right (hstamp.symm.trans htext)]
        exact haccepts
    · simp at hf

end IncidentAgent
