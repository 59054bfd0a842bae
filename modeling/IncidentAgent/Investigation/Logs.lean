import IncidentAgent.Business.Protocol
import IncidentAgent.Lib.JsonText
import IncidentAgent.Tools.Redaction

/-!
# Saved logs as they are shown

A saved log is shown in two ways. `groupedLogs` groups the lines that have the same message after
their timestamps, and shows at most eight groups. `projectLogs` groups only the lines of health
probes, and shows all others as they are; where that is not shorter, there is no projection.
-/

namespace IncidentAgent

open Regex

/-- What the projections of saved evidence take from libraries. -/
structure TextLibrary where
  /-- `str.isalnum` of a character. -/
  isAlnum : Char → Bool
  /-- `str.isdecimal` of a character. -/
  isDecimal : Char → Bool
  /-- `datetime.fromisoformat(text).tzinfo is not None`, and nothing where it raises. -/
  hasZone : String → Option Bool
  /-- `json.loads`, before its hooks. -/
  loads : String → Option Parsed
  /-- `digest`, the SHA-256 of a saved value. -/
  digest : Json → String

/-! ### Lines -/

/-- The characters that end a line. -/
def isLineBreak (c : Char) : Bool :=
  [10, 11, 12, 13, 28, 29, 30, 0x85, 0x2028, 0x2029].contains c.toNat

/-- `splitlines(keepends=True)`, after the beginning of a line. A carriage return before a line
feed does not end a line. -/
def linesFrom (line : List Char) : List Char → List (List Char)
  | [] => if line = [] then [] else [line]
  | c :: rest =>
    if isLineBreak c && !(c = '\r' && rest.head? = some '\n') then
      (line ++ [c]) :: linesFrom [] rest
    else linesFrom (line ++ [c]) rest

/-- The lines of a text are the text. -/
theorem flatten_linesFrom (line text : List Char) : (linesFrom line text).flatten = line ++ text := by
  induction text generalizing line with
  | nil =>
    unfold linesFrom
    split
    · rename_i hline
      rw [hline]
      rfl
    · simp
  | cons c rest ih =>
    unfold linesFrom
    split
    · rw [List.flatten_cons, ih, List.append_assoc]
      rfl
    · rw [ih, List.append_assoc]
      rfl

/-- `text.splitlines(keepends=True)`. -/
def keptLines (text : String) : List String := (linesFrom [] text.toList).map String.ofList

/-- `text.splitlines()`. Line breaks stand only at the end of a line. -/
def splitLines (text : String) : List String :=
  (linesFrom [] text.toList).map fun line => String.ofList (line.filter fun c => !isLineBreak c)

/-! ### Patterns -/

/-- An expression so many times. -/
def times (n : Nat) (r : Regex) : Regex := inOrder (List.replicate n r)

/-- `fullmatch`, the groups of the match. -/
def fullmatch (r : Regex) (text : String) : Option (List (Nat × List Char)) :=
  ((r.ways ⟨none, text.toList, []⟩).find? fun d => d.rest = []).map fun d => d.groups

/-- The text of a group. -/
def groupText (n : Nat) (groups : List (Nat × List Char)) : String :=
  String.ofList ((groups.lookup n).getD [])

/-- `\d{4}-\d{2}-\d{2}T\S+`. -/
def timestamp (lib : TextLibrary) : Regex :=
  inOrder [times 4 (.char lib.isDecimal), exactly "-", times 2 (.char lib.isDecimal), exactly "-",
    times 2 (.char lib.isDecimal), exactly "T", plus (.char fun c => !isSpace c)]

/-- A line that begins with a timestamp: the timestamp, a separator and the message. -/
def stamped (lib : TextLibrary) (separator : Char → Bool) : Regex :=
  inOrder [.group 1 (timestamp lib), .char separator, .group 2 (.star (.char fun c => c ≠ '\n'))]

/-- `text.replace("Z", "+00:00")`. -/
def withOffset (text : String) : String :=
  String.ofList (text.toList.flatMap fun c => if c = 'Z' then "+00:00".toList else [c])

/-! ### Groups of equal messages -/

/-- `SCAN_LIMIT`. -/
def scanLimit : Nat := 120000

/-- `GROUP_LIMIT`. -/
def groupLimit : Nat := 8

/-- The lines with one message. -/
structure LogGroup where
  message : String
  count : Nat
  firstLine : Nat
  firstTimestamp : Option String
  lastLine : Nat
  lastTimestamp : Option String
  deriving DecidableEq

/-- A group as it is shown. -/
def LogGroup.dump (g : LogGroup) : Json :=
  .obj [("message", .str g.message), ("count", .num g.count), ("first_line", .num g.firstLine),
    ("first_timestamp", g.firstTimestamp.elim .null .str), ("last_line", .num g.lastLine),
    ("last_timestamp", g.lastTimestamp.elim .null .str)]

/-- The timestamp of a line, where it begins with one that has a time zone, and its message. -/
def splitTimestamp (lib : TextLibrary) (line : String) : Option String × String :=
  match fullmatch (stamped lib isSpace) line with
  | some groups =>
    if lib.hasZone (withOffset (groupText 1 groups)) = some true then
      (some (groupText 1 groups), groupText 2 groups)
    else (none, line)
  | none => (none, line)

/-- The groups after one more line. -/
def addLine (number : Nat) (timestamp : Option String) (message : String) :
    List LogGroup → List LogGroup
  | [] => [⟨message, 1, number, timestamp, number, timestamp⟩]
  | g :: rest =>
    if g.message = message then
      { g with count := g.count + 1, lastLine := number, lastTimestamp := timestamp } :: rest
    else g :: addLine number timestamp message rest

/-- The groups of the lines from a number on, as far as they are scanned. -/
def scanLines (lib : TextLibrary) (scanned number : Nat) (groups : List LogGroup) :
    List String → List LogGroup
  | [] => groups
  | line :: rest =>
    if scanLimit < scanned + line.toList.length + 1 then groups
    else
      let (timestamp, message) := splitTimestamp lib line
      scanLines lib (scanned + line.toList.length + 1) (number + 1)
        (addLine number timestamp message groups) rest

/-- The groups that are shown: all, or the first and the last ones. -/
def selectedGroups (groups : List LogGroup) : List LogGroup :=
  if groups.length ≤ groupLimit then groups
  else groups.take 4 ++ groups.drop (groups.length - 4)

/-- The number of lines in groups. -/
def totalCount : List LogGroup → Nat
  | [] => 0
  | first :: rest => first.count + totalCount rest

/-! ### Groups of probes -/

/-- `PROJECTION`. -/
def probeProjection : String := "exact-probe-groups-v1"

/-- `ACCESS`. -/
def access : Regex :=
  inOrder [exactly "\"GET /", oneOf [exactly "readyz", exactly "livez"], exactly " HTTP/1.",
    .char fun c => c ∈ ['0', '1'], exactly "\" ", .char fun c => '1' ≤ c && c ≤ '5',
    times 2 (.char fun c => '0' ≤ c && c ≤ '9'), exactly " -"]

/-- The names of services, `[A-Za-z0-9_.-]+`. -/
def serviceName : Regex :=
  plus (.char fun c => ('A' ≤ c && c ≤ 'Z') || ('a' ≤ c && c ≤ 'z') || ('0' ≤ c && c ≤ '9') ||
    c ∈ ['_', '.', '-'])

/-- Whether a message is one of a probe: an object with a service and an access line, and nothing
else. -/
def isProbe (lib : TextLibrary) (message : String) : Bool :=
  message.toList.head? = some '\x7b' && (lib.loads message).any fun document =>
    match document with
    | .obj [(k, v), (l, w)] =>
      let value := fun key => if l = key then some w else if k = key then some v else none
      (match value "service" with
        | some (.str service) => (fullmatch serviceName service).isSome
        | _ => false) &&
      match value "message" with
        | some (.str line) => (fullmatch access line).isSome
        | _ => false
    | _ => false

/-- `line.rstrip("\r\n")`. -/
def withoutNewline (line : String) : String :=
  String.ofList (line.toList.reverse.dropWhile fun c => c = '\r' || c = '\n').reverse

/-- `probe_line`: the message and the timestamp of a line of a probe. -/
def probeLine (lib : TextLibrary) (line : String) : Option (String × Option String) :=
  let message := withoutNewline line
  match fullmatch (stamped lib (· = ' ')) message with
  | some groups =>
    if lib.hasZone (withOffset (groupText 1 groups)) = some true then
      if isProbe lib (groupText 2 groups) then some (groupText 2 groups, some (groupText 1 groups))
      else none
    else none
  | none => if isProbe lib message then some (message, none) else none

/-- The lines of probes with one message. -/
structure ProbeGroup where
  message : String
  sampleRaw : String
  count : Nat
  firstTimestamp : Option String
  lastTimestamp : Option String
  lineRanges : List (Nat × Nat)
  deriving DecidableEq

/-- A group as it is shown. -/
def ProbeGroup.dump (g : ProbeGroup) : Json :=
  .obj [("sample_raw", .str g.sampleRaw), ("count", .num g.count),
    ("first_timestamp", g.firstTimestamp.elim .null .str),
    ("last_timestamp", g.lastTimestamp.elim .null .str),
    ("line_ranges", .arr (g.lineRanges.map fun r => .arr [.num r.1, .num r.2]))]

/-- Ranges with one more line, which extends the last one where it follows it. -/
def addToRanges (number : Nat) : List (Nat × Nat) → List (Nat × Nat)
  | [] => [(number, number)]
  | [r] => if r.2 + 1 = number then [(r.1, number)] else [r, (number, number)]
  | r :: s :: rest => r :: addToRanges number (s :: rest)

/-- The groups after one more line of a probe. -/
def addProbe (number : Nat) (line message : String) (timestamp : Option String) :
    List ProbeGroup → List ProbeGroup
  | [] => [⟨message, line, 1, timestamp, timestamp, [(number, number)]⟩]
  | g :: rest =>
    if g.message = message then
      { g with
        count := g.count + 1
        lastTimestamp := timestamp
        lineRanges := addToRanges number g.lineRanges } :: rest
    else g :: addProbe number line message timestamp rest

/-- The groups of the lines from a number on. -/
def probeGroups (lib : TextLibrary) (number : Nat) (groups : List ProbeGroup) :
    List String → List ProbeGroup
  | [] => groups
  | line :: rest => probeGroups lib (number + 1) (match probeLine lib line with
      | some (message, timestamp) => addProbe number line message timestamp groups
      | none => groups) rest

/-- Lines that follow each other and are shown as they are. -/
structure RawSpan where
  startLine : Nat
  endLine : Nat
  content : String
  deriving DecidableEq

/-- A span as it is shown. -/
def RawSpan.dump (s : RawSpan) : Json :=
  .obj [("start_line", .num s.startLine), ("end_line", .num s.endLine), ("content", .str s.content)]

/-- Spans with one more line, which extends the last one where it follows it. -/
def addToSpans (number : Nat) (line : String) : List RawSpan → List RawSpan
  | [] => [⟨number, number, line⟩]
  | [s] =>
    if s.endLine + 1 = number then [{ s with content := s.content ++ line, endLine := number }]
    else [s, ⟨number, number, line⟩]
  | s :: t :: rest => s :: addToSpans number line (t :: rest)

/-- The spans of the lines from a number on that are in no group. -/
def rawSpans (lib : TextLibrary) (repeated : List ProbeGroup) (number : Nat)
    (spans : List RawSpan) : List String → List RawSpan
  | [] => spans
  | line :: rest =>
    rawSpans lib repeated (number + 1)
      (if (probeLine lib line).any fun parsed => repeated.any fun g => g.message = parsed.1 then
        spans else addToSpans number line spans) rest

/-- `encoded_bytes`. -/
def encodedBytes (v : Json) : Nat := Json.byteSize v.compact

/-- The view of a log in which the lines of probes are grouped. -/
def probeView (lines : List String) (repeated : List ProbeGroup) (spans : List RawSpan) : Json :=
  .obj [("format", .str probeProjection), ("sampled_lines", .num lines.length),
    ("omitted_lines", .num 0),
    ("scope", .str ("Counts and 1-based line ranges refer only to this saved sample. " ++
      "First/last timestamps follow source order. Repeated probe access lines share one raw " ++
      "example; individual occurrence timestamps remain in saved evidence. All other lines are " ++
      "verbatim.")),
    ("probe_groups", .arr (repeated.map ProbeGroup.dump)),
    ("raw_spans", .arr (spans.map RawSpan.dump))]

/-- `project_logs`. -/
def projectLogs (lib : TextLibrary) (content : String) : Option Json :=
  let lines := keptLines content
  let repeated := (probeGroups lib 1 [] lines).filter fun g => 1 < g.count
  if repeated = [] then none
  else
    let view := probeView lines repeated (rawSpans lib repeated 1 [] lines)
    let text := Json.str content
    if encodedBytes (.obj [("log_view", view)]) < encodedBytes (.obj [("content", text)]) then
      some view
    else none

end IncidentAgent
