import IncidentAgent.Lib.Base64
import IncidentAgent.Lib.IsoTime
import IncidentAgent.Lib.JsonReader
import IncidentAgent.Lib.Keyset
import IncidentAgent.Lib.Utf8
import IncidentAgent.Store.Rows

/-!
# Lists of incidents and of runs

Incidents, and the runs of an incident, are listed page by page, the newest first and ids in
descending order among those of one time. A page ends with a cursor, if there is more: a JSON
document with the place of its last row and the scope of the list, in base 64. The next page is
asked for with that cursor, and has the rows below it.

Two things are shown. A cursor that was encoded is decoded to the place that it was made for, in
the scope that it was made for and in no other (`Listing.decodeCursor_encodeCursor`,
`Listing.decodeCursor_otherScope`). And who follows the cursors from the first page on, while
rows are inserted between any two statements, is given each row that there was in the beginning
exactly once, in order, and comes to an end (`Listing.listMetadata_keyset`).

Statements read the database one after the other, each with a connection of its own: a list of
incidents first reads its page and then the newest diagnosis of each row, a list of runs first
looks for the incident. That rows are compared by a collation of the database is a parameter;
reads that fail are left out. The zone of a time is kept as its offset.
-/

namespace IncidentAgent

/-- `InvalidRunQuery` and `RunNotFound`. -/
inductive QueryError
  | invalidRunQuery
  | runNotFound
  deriving DecidableEq

/-- What the standard library reads that no cursor of this program has: texts of times in other
formats than that of `isoformat`, and JSON texts in other encodings than UTF-8. -/
structure CursorLibrary where
  fromisoformat : String → Option DateTime
  decodeText : List UInt8 → Option (List Char)

/-! ### Cursors -/

/-- `datetime.fromisoformat`. -/
def CursorLibrary.readTime (lib : CursorLibrary) (text : String) : Option DateTime :=
  (readIso text.toList).or (lib.fromisoformat text)

/-- `json.detect_encoding(data) != "utf-8"`: a byte order mark, or a zero byte where an ASCII
character has one in the wider encodings. -/
def otherEncoding (bytes : List UInt8) : Bool :=
  ([[0, 0, 0xFE, 0xFF], [0xFE, 0xFF], [0xFF, 0xFE], [0xEF, 0xBB, 0xBF]].any (· <+: bytes)) ||
    ((bytes.length = 2 || 4 ≤ bytes.length) && 0 ∈ bytes.take 2)

/-- `data.decode("utf-8")`. -/
def utf8Text (bytes : List UInt8) : Option (List Char) :=
  if utf8 (decodeIgnore bytes) = bytes then some (decodeIgnore bytes) else none

/-- The text that `json.loads` reads in bytes. -/
def CursorLibrary.readText (lib : CursorLibrary) (bytes : List UInt8) : Option (List Char) :=
  if otherEncoding bytes then lib.decodeText bytes else utf8Text bytes

/-- `[A-Za-z0-9-]`. -/
def isRowIdChar (c : Char) : Bool :=
  (65 ≤ c.toNat && c.toNat < 91) || (97 ≤ c.toNat && c.toNat < 123) ||
    (48 ≤ c.toNat && c.toNat < 58) || c = '-'

/-- `[A-Za-z0-9-]{1,128}`. -/
def isRowId (id : String) : Bool :=
  id.toList.all isRowIdChar && 1 ≤ id.toList.length && id.toList.length ≤ 128

/-- The place of a row in a list: its time and its id. -/
abbrev Position := DateTime × String

/-- The document in a cursor. -/
def cursorDocument (scope : String) (row : Position) : Json :=
  .obj [("v", .num 1), ("scope", .str scope), ("created_at", .str (String.ofList row.1.isoformat)),
    ("id", .str row.2)]

/-- `encode_cursor`. -/
def encodeCursor (scope : String) (row : Position) : String :=
  String.ofList (Base64.unpadded (Base64.encode (utf8 (cursorDocument scope row).asciiDumps)))

/-- What a document says, if it is that of a cursor of a scope. -/
def CursorLibrary.position (lib : CursorLibrary) (scope : String) (value : Json) :
    Option Position := do
  guard (value.hasKeys ["v", "scope", "created_at", "id"])
  guard (value.get? "v" = some (.num 1) ∧ value.get? "scope" = some (.str scope))
  match value.get? "created_at", value.get? "id" with
  | some (.str createdAt), some (.str id) =>
    let timestamp ← lib.readTime createdAt
    guard (timestamp.aware ∧ isRowId id)
    pure (timestamp, id)
  | _, _ => none

/-- `decode_cursor`. Whatever is wrong with a cursor, the error is the same. -/
def decodeCursor (lib : CursorLibrary) (cursor : Option String) (scope : String) :
    Except QueryError (Option Position) :=
  match cursor with
  | none => .ok none
  | some text =>
    let read : Option Position := do
      guard (text.toList.all Base64.isDigit ∧ 1 ≤ text.toList.length ∧ text.toList.length ≤ 1024)
      let bytes ← Base64.decode (Base64.pad text.toList)
      let value ← Json.loads (fun _ => .null) (← lib.readText bytes)
      lib.position scope value
    match read with
    | some position => .ok (some position)
    | none => .error .invalidRunQuery

/-! ### Lists -/

/-- A row of `incidents`, with the columns that are listed. -/
structure IncidentRow where
  incidentId : String
  namespaceName : String
  serviceName : String
  phase : String
  createdAt : DateTime
  updatedAt : DateTime
  deriving DecidableEq

/-- A row of `runs`, with the columns that are listed. -/
structure RunRow where
  runId : String
  incidentId : String
  status : RunStatus
  runKind : RunKind
  createdAt : DateTime
  updatedAt : DateTime
  finishedAt : Option DateTime
  attempt : Nat
  lastError : Option Json
  stopRequested : Bool
  invalidatedAt : Option DateTime
  questionPayload : Option Json
  adoptedMessageIds : Json
  deriving DecidableEq

/-- The tables that are listed. -/
structure MetadataDb where
  incidents : List IncidentRow
  runs : List RunRow

/-- `[A-Z][A-Z0-9_]{0,63}`. -/
def isErrorCode (code : String) : Bool :=
  match code.toList with
  | [] => false
  | c :: rest => c.isUpper && (rest.all fun d => d.isUpper || d.isDigit || d = '_') &&
      rest.length ≤ 63

/-- What is told of a run. -/
structure RunSummary where
  runId : String
  status : RunStatus
  runKind : RunKind
  createdAt : DateTime
  updatedAt : DateTime
  finishedAt : Option DateTime
  attempt : Nat
  lastErrorCode : Option String
  stopRequested : Bool
  invalidatedAt : Option DateTime
  question : Option Json
  adoptedMessageIds : Json
  deriving DecidableEq

/-- The code of an error, if it is a code and no other text. -/
def lastErrorCode (error : Option Json) : Option String :=
  match error.bind fun e => e.get? "code" with
  | some (.str code) => if isErrorCode code then some code else none
  | _ => none

/-- `run_summary`. -/
def runSummary (row : RunRow) : RunSummary where
  runId := row.runId
  status := row.status
  runKind := row.runKind
  createdAt := row.createdAt
  updatedAt := row.updatedAt
  finishedAt := row.finishedAt
  attempt := row.attempt
  lastErrorCode := lastErrorCode row.lastError
  stopRequested := row.stopRequested
  invalidatedAt := row.invalidatedAt
  question := row.questionPayload
  adoptedMessageIds := row.adoptedMessageIds

/-- An item of a page. -/
inductive MetadataItem
  | incident (row : IncidentRow) (run : Option RunSummary)
  | run (summary : RunSummary)
  deriving DecidableEq

def IncidentRow.position (row : IncidentRow) : Position := (row.createdAt, row.incidentId)

def RunRow.position (row : RunRow) : Position := (row.createdAt, row.runId)

/-- The place of the row that an item was made from. -/
def MetadataItem.position : MetadataItem → Position
  | .incident row _ => row.position
  | .run summary => (summary.createdAt, summary.runId)

namespace Listing

variable {κ : Type} [LinearOrder κ]

/-- `(created_at, id)`, as the database compares it. -/
def key (collate : String → κ) (position : Position) : Lex (Int × κ) :=
  toLex (position.1.instant, collate position.2)

/-- The runs of an incident. -/
def runsOf (db : MetadataDb) (incidentId : String) : List RunRow :=
  db.runs.filter fun row => row.incidentId = incidentId

/-- The newest diagnosis of an incident. -/
def latestDiagnosis (collate : String → κ) (db : MetadataDb) (incidentId : String) :
    Option RunRow :=
  (Keyset.descending (fun row => key collate row.position)
    ((runsOf db incidentId).filter fun row => row.runKind = .diagnosis) none).head?

/-- `"runs:" + incident_id`. -/
def runScope (incidentId : String) : String := "runs:" ++ incidentId

/-- `PostgresRunRepository.list_metadata`. The database is given as it is at each of the
statements. -/
def listMetadata (lib : CursorLibrary) (collate : String → κ) (db : Nat → MetadataDb)
    (incidentId : Option String) (limit : Int) (cursor : Option String) :
    Except QueryError (List MetadataItem × Option String) := do
  raiseIf (¬(1 ≤ limit ∧ limit ≤ 50)) .invalidRunQuery
  match incidentId with
  | none =>
    let position ← decodeCursor lib cursor "incidents"
    let page := Keyset.page (fun row => key collate row.position) (db 0).incidents limit.toNat
      (position.map (key collate))
    pure (page.1.mapIdx fun i row => .incident row
        ((latestDiagnosis collate (db (i + 1)) row.incidentId).map runSummary),
      page.2.map fun row => encodeCursor "incidents" row.position)
  | some incidentId =>
    let position ← decodeCursor lib cursor (runScope incidentId)
    raiseIf (¬(db 0).incidents.any fun row => row.incidentId = incidentId) .runNotFound
    let page := Keyset.page (fun row => key collate row.position) (runsOf (db 1) incidentId)
      limit.toNat (position.map (key collate))
    pure (page.1.map fun row => .run (runSummary row),
      page.2.map fun row => encodeCursor (runScope incidentId) row.position)

/-! ### The text of a cursor -/

/-- Whether a character is written in a JSON text as it is. -/
def isPlain (c : Char) : Bool := 32 ≤ c.toNat && c.toNat < 127 && c ≠ '"' && c ≠ '\\'

theorem asciiEscaped_of_isPlain {c : Char} (h : isPlain c = true) : asciiEscaped c = [c] := by
  simp only [isPlain, Bool.and_eq_true, decide_eq_true_eq] at h
  obtain ⟨⟨⟨hlow, hhigh⟩, hquote⟩, hback⟩ := h
  have hcontrol : c ≠ '\n' ∧ c ≠ '\r' ∧ c ≠ '\t' := by
    refine ⟨?_, ?_, ?_⟩ <;>
      · rintro rfl
        exact absurd hlow (by decide)
  rw [asciiEscaped, if_neg hquote, if_neg hback, if_neg hcontrol.1, if_neg hcontrol.2.1,
    if_neg hcontrol.2.2, if_neg (by omega), if_neg (by omega), if_pos ⟨hlow, hhigh⟩]

/-- **A text of plain characters** is written as it is, between quotation marks. -/
theorem asciiQuoted_of_isPlain {s : String} (h : ∀ c ∈ s.toList, isPlain c = true) :
    asciiQuoted s = '"' :: (s.toList ++ ['"']) := by
  have hsame : s.toList.flatMap asciiEscaped = s.toList := by
    rw [List.flatMap_congr fun c hc => asciiEscaped_of_isPlain (h c hc), List.flatMap_singleton']
  rw [asciiQuoted, hsame]

theorem isPlain_of_isRowIdChar {c : Char} (h : isRowIdChar c = true) : isPlain c = true := by
  have hmark : '"'.toNat = 34 ∧ '\\'.toNat = 92 ∧ '-'.toNat = 45 := ⟨rfl, rfl, rfl⟩
  have hnat : (65 ≤ c.toNat ∧ c.toNat < 91) ∨ (97 ≤ c.toNat ∧ c.toNat < 123) ∨
      (48 ≤ c.toNat ∧ c.toNat < 58) ∨ c.toNat = 45 := by
    simp only [isRowIdChar, Bool.or_eq_true, Bool.and_eq_true, decide_eq_true_eq] at h
    rcases h with ((h | h) | h) | rfl
    · exact Or.inl h
    · exact Or.inr (Or.inl h)
    · exact Or.inr (Or.inr (Or.inl h))
    · exact Or.inr (Or.inr (Or.inr rfl))
  have hquote : c ≠ '"' := by
    rintro rfl
    omega
  have hback : c ≠ '\\' := by
    rintro rfl
    omega
  simp only [isPlain, Bool.and_eq_true, decide_eq_true_eq]
  exact ⟨⟨⟨by omega, by omega⟩, hquote⟩, hback⟩

theorem isPlain_of_isIsoChar {c : Char} (h : isIsoChar c = true) : isPlain c = true := by
  rw [isIsoChar, Bool.or_eq_true, decide_eq_true_eq] at h
  rcases h with h | h
  · apply isPlain_of_isRowIdChar
    have hdigit : 48 ≤ c.toNat ∧ c.toNat ≤ 57 := Char.isDigit_iff_toNat.1 h
    simp only [isRowIdChar, Bool.or_eq_true, Bool.and_eq_true, decide_eq_true_eq]
    exact Or.inl (Or.inr ⟨hdigit.1, by omega⟩)
  · exact List.all_eq_true.1 (show ['-', ':', '.', '+', 'T'].all isPlain = true by decide) c h

/-- The text of the document in a cursor. -/
theorem asciiDumps_cursorDocument (scope : String) (row : Position) :
    (cursorDocument scope row).asciiDumps =
      "\x7b\"v\":1,\"scope\":".toList ++ (asciiQuoted scope ++ (",\"created_at\":".toList ++
        (asciiQuoted (String.ofList row.1.isoformat) ++ (",\"id\":".toList ++
          (asciiQuoted row.2 ++ ['\x7d']))))) := by
  have hone : (toString (1 : Int)).toList = ['1'] := rfl
  simp only [cursorDocument, Json.asciiDumps, Json.asciiMembers, hone]
  have hv : asciiQuoted "v" = ['"', 'v', '"'] := rfl
  have hscope : asciiQuoted "scope" = '"' :: "scope\"".toList := rfl
  have hcreated : asciiQuoted "created_at" = '"' :: "created_at\"".toList := rfl
  have hid : asciiQuoted "id" = '"' :: "id\"".toList := rfl
  simp [hv, hscope, hcreated, hid]

/-- The bytes of a document are read as its text. -/
theorem readText_cursorDocument (lib : CursorLibrary) (scope : String) (row : Position) :
    lib.readText (utf8 (cursorDocument scope row).asciiDumps) =
      some (cursorDocument scope row).asciiDumps := by
  have hother : otherEncoding (utf8 (cursorDocument scope row).asciiDumps) = false := by
    obtain ⟨rest, hrest⟩ : ∃ rest, (cursorDocument scope row).asciiDumps =
        '\x7b' :: '"' :: rest := by
      rw [asciiDumps_cursorDocument]
      exact ⟨_, rfl⟩
    have hopen : String.utf8EncodeChar '\x7b' = [123] := rfl
    have hquote : String.utf8EncodeChar '"' = [34] := rfl
    rw [hrest, utf8_cons, utf8_cons, hopen, hquote]
    simp [otherEncoding]
  rw [CursorLibrary.readText, hother, if_neg (by decide), utf8Text, decodeIgnore_utf8, if_pos rfl]

/-- **A document is read back** from the bytes in a cursor. -/
theorem loads_cursorDocument (scope : String) (row : Position) :
    Json.loads (fun _ => .null) (cursorDocument scope row).asciiDumps =
      some (cursorDocument scope row) := by
  have hone : 1 < 10 ^ Json.digitLimit := Nat.one_lt_pow Json.digitLimit_pos.ne' (by decide)
  refine Json.loads_asciiDumps _ rfl ?_
  simpa [cursorDocument, Json.shortNumbers, Json.shortMembers] using hone

/-- What the text of a cursor holds, when its digits are decoded. -/
theorem toList_encodeCursor (scope : String) (row : Position) :
    (encodeCursor scope row).toList = Base64.body (utf8 (cursorDocument scope row).asciiDumps) := by
  rw [encodeCursor, String.toList_ofList, Base64.unpadded_encode]

/-- **The decoder of an encoded cursor** is left with the document that was encoded, if the cursor
is not too long. -/
theorem decodeCursor_eq (lib : CursorLibrary) (scope other : String) (row : Position) :
    decodeCursor lib (some (encodeCursor scope row)) other =
      if (encodeCursor scope row).toList.length ≤ 1024 then
        match lib.position other (cursorDocument scope row) with
        | some position => .ok (some position)
        | none => .error .invalidRunQuery
      else .error .invalidRunQuery := by
  have hbytes : utf8 (cursorDocument scope row).asciiDumps ≠ [] := by
    rw [asciiDumps_cursorDocument]
    exact List.cons_ne_nil _ _
  have hpos : 1 ≤ (Base64.body (utf8 (cursorDocument scope row).asciiDumps)).length :=
    List.length_pos_iff.2 (Base64.body_ne_nil hbytes)
  have hdigits : (Base64.body (utf8 (cursorDocument scope row).asciiDumps)).all Base64.isDigit =
      true := List.all_eq_true.2 (Base64.isDigit_body _)
  rw [decodeCursor, toList_encodeCursor, Base64.pad_body, Base64.decode_encode]
  by_cases hlength : (Base64.body (utf8 (cursorDocument scope row).asciiDumps)).length ≤ 1024
  · simp only [hdigits, hpos, hlength, and_self, guard_true, Option.bind_eq_bind,
      Option.pure_def, Option.bind_some, readText_cursorDocument, loads_cursorDocument, if_true]
  · simp only [hlength, and_false, guard_false, Option.bind_eq_bind, Option.bind_none,
      Option.failure_eq_none, if_false]

theorem get?_cursorDocument (scope : String) (row : Position) :
    (cursorDocument scope row).get? "v" = some (.num 1) ∧
      (cursorDocument scope row).get? "scope" = some (.str scope) ∧
      (cursorDocument scope row).get? "created_at" =
        some (.str (String.ofList row.1.isoformat)) ∧
      (cursorDocument scope row).get? "id" = some (.str row.2) := ⟨rfl, rfl, rfl, rfl⟩

/-- **A document is understood** as the place that it was made for, in its scope. -/
theorem position_cursorDocument (lib : CursorLibrary) (scope : String) {row : Position}
    (haware : row.1.aware = true) (hid : isRowId row.2 = true) :
    lib.position scope (cursorDocument scope row) = some row := by
  obtain ⟨hv, hscope, hcreated, hrow⟩ := get?_cursorDocument scope row
  have hkeys : (cursorDocument scope row).hasKeys ["v", "scope", "created_at", "id"] = true := rfl
  have htime : lib.readTime (String.ofList row.1.isoformat) = some row.1 := by
    rw [CursorLibrary.readTime, String.toList_ofList, readIso_isoformat, Option.some_or]
  simp only [CursorLibrary.position, hkeys, hv, hscope, hcreated, hrow, htime, haware, hid,
    and_self, guard_true, Option.pure_def, Option.bind_eq_bind, Option.bind_some]

/-- A document is not understood in another scope. -/
theorem position_otherScope (lib : CursorLibrary) {scope other : String} (h : other ≠ scope)
    (row : Position) : lib.position other (cursorDocument scope row) = none := by
  obtain ⟨-, hscope, -, -⟩ := get?_cursorDocument scope row
  have hother : ¬(cursorDocument scope row).get? "scope" = some (.str other) := by
    rw [hscope]
    intro he
    exact h (Json.str.inj (Option.some.inj he)).symm
  have hkeys : (cursorDocument scope row).hasKeys ["v", "scope", "created_at", "id"] = true := rfl
  simp only [CursorLibrary.position, hkeys, hother, and_false, guard_true, guard_false,
    Option.pure_def, Option.bind_eq_bind, Option.bind_some, Option.failure_eq_none,
    Option.bind_none]

/-- **A cursor is decoded to the place that it was encoded for**, in its scope. -/
theorem decodeCursor_encodeCursor (lib : CursorLibrary) {scope : String} {row : Position}
    (haware : row.1.aware = true) (hid : isRowId row.2 = true)
    (hlength : (encodeCursor scope row).toList.length ≤ 1024) :
    decodeCursor lib (some (encodeCursor scope row)) scope = .ok (some row) := by
  rw [decodeCursor_eq, if_pos hlength, position_cursorDocument lib scope haware hid]

/-- **A cursor is refused in every other scope.** -/
theorem decodeCursor_otherScope (lib : CursorLibrary) {scope other : String} (h : other ≠ scope)
    (row : Position) :
    decodeCursor lib (some (encodeCursor scope row)) other = .error .invalidRunQuery := by
  rw [decodeCursor_eq, position_otherScope lib h row]
  exact ite_self _

/-! ### The length of a cursor -/

theorem isPlain_isoformat (t : DateTime) :
    ∀ c ∈ (String.ofList t.isoformat).toList, isPlain c = true := by
  intro c hc
  rw [String.toList_ofList] at hc
  exact isPlain_of_isIsoChar ((isoformat_spec t).2 c hc)

theorem isPlain_of_isRowId {id : String} (h : isRowId id = true) :
    ∀ c ∈ id.toList, isPlain c = true := by
  intro c hc
  simp only [isRowId, Bool.and_eq_true] at h
  exact isPlain_of_isRowIdChar (List.all_eq_true.1 h.1.1 c hc)

theorem length_of_isRowId {id : String} (h : isRowId id = true) : id.toList.length ≤ 128 := by
  simp only [isRowId, Bool.and_eq_true, decide_eq_true_eq] at h
  exact h.2

/-- A text of ASCII characters has as many bytes as characters. -/
theorem length_utf8_of_ascii {text : List Char} (h : ∀ c ∈ text, c.toNat < 128) :
    (utf8 text).length = text.length := by
  induction text with
  | nil => rfl
  | cons c text ih =>
    have hc : c.utf8Size = 1 := by
      have hlow := h c (List.mem_cons_self ..)
      rw [Char.utf8Size_eq_one_iff]
      exact UInt32.le_iff_toNat_le.2 (Nat.le_of_lt_succ hlow)
    rw [utf8_cons, List.length_append, String.length_utf8EncodeChar, hc,
      ih fun d hd => h d (List.mem_cons_of_mem _ hd), List.length_cons, Nat.add_comm]

theorem toNat_lt_of_isPlain {c : Char} (h : isPlain c = true) : c.toNat < 128 := by
  simp only [isPlain, Bool.and_eq_true, decide_eq_true_eq] at h
  omega

/-- **The cursor of a row fits**, if the scope is as long as that of the runs of an incident. -/
theorem length_encodeCursor_le {scope : String} {row : Position}
    (hscope : ∀ c ∈ scope.toList, isPlain c = true) (hlength : scope.toList.length ≤ 133)
    (hid : isRowId row.2 = true) : (encodeCursor scope row).toList.length ≤ 1024 := by
  have hiso := (isoformat_spec row.1).1
  have hrow := length_of_isRowId hid
  have htext := asciiDumps_cursorDocument scope row
  rw [asciiQuoted_of_isPlain hscope, asciiQuoted_of_isPlain (isPlain_isoformat row.1),
    asciiQuoted_of_isPlain (isPlain_of_isRowId hid)] at htext
  have hascii : ∀ c ∈ (cursorDocument scope row).asciiDumps, c.toNat < 128 := by
    have hplain : ∀ text : List Char, (text.all fun c => isPlain c || c = '"') = true →
        ∀ c ∈ text, c.toNat < 128 := by
      intro text htext c hc
      have hall := List.all_eq_true.1 htext c hc
      rw [Bool.or_eq_true, decide_eq_true_eq] at hall
      rcases hall with hall | rfl
      · exact toNat_lt_of_isPlain hall
      · decide
    rw [htext]
    intro c hc
    simp only [List.mem_append, List.mem_cons, List.not_mem_nil, or_false] at hc
    rcases hc with hc | (rfl | hc | rfl) | hc | (rfl | hc | rfl) | hc | (rfl | hc | rfl) | rfl
    · exact hplain _ (by decide) c hc
    · decide
    · exact toNat_lt_of_isPlain (hscope c hc)
    · decide
    · exact hplain _ (by decide) c hc
    · decide
    · exact toNat_lt_of_isPlain (isPlain_isoformat row.1 c hc)
    · decide
    · exact hplain _ (by decide) c hc
    · decide
    · exact toNat_lt_of_isPlain (isPlain_of_isRowId hid c hc)
    · decide
    · decide
  have hbytes : (utf8 (cursorDocument scope row).asciiDumps).length ≤ 345 := by
    rw [length_utf8_of_ascii hascii, htext]
    have hparts : "\x7b\"v\":1,\"scope\":".toList.length = 15 ∧
        ",\"created_at\":".toList.length = 14 ∧ ",\"id\":".toList.length = 6 := ⟨rfl, rfl, rfl⟩
    simp only [List.length_append, List.length_cons, List.length_nil, String.toList_ofList]
    omega
  have hbody := Base64.length_body_le (utf8 (cursorDocument scope row).asciiDumps)
  rw [toList_encodeCursor]
  omega

theorem length_incidents_cursor {row : Position} (hid : isRowId row.2 = true) :
    (encodeCursor "incidents" row).toList.length ≤ 1024 :=
  length_encodeCursor_le (List.all_eq_true.1 (by decide)) (by decide) hid

theorem length_runs_cursor {incidentId : String} {row : Position}
    (hincident : isRowId incidentId = true) (hid : isRowId row.2 = true) :
    (encodeCursor (runScope incidentId) row).toList.length ≤ 1024 := by
  have hlength := length_of_isRowId hincident
  have hscope : (runScope incidentId).toList = "runs:".toList ++ incidentId.toList :=
    String.toList_append
  refine length_encodeCursor_le (fun c hc => ?_) ?_ hid
  · rw [hscope, List.mem_append] at hc
    rcases hc with hc | hc
    · exact List.all_eq_true.1 (show "runs:".toList.all isPlain = true by decide) c hc
    · exact isPlain_of_isRowId hincident c hc
  · have hruns : "runs:".toList.length = 5 := rfl
    rw [hscope, List.length_append]
    omega

/-! ### Following the cursors -/

/-- The database at each statement of each of the pages that are read one after the other. -/
abbrev History := Nat → Nat → MetadataDb

/-- Rows are inserted and stay what they are, each with an id of its own, and in the end there are
finitely many of them. -/
structure InsertsOnly (positions : MetadataDb → List Position) (history : History)
    (all : List Position) : Prop where
  kept : ∀ page statement page' statement', page < page' ∨ page = page' ∧ statement ≤ statement' →
    ∀ a ∈ positions (history page statement), a ∈ positions (history page' statement')
  identified : ∀ page statement, ((positions (history page statement)).map Prod.snd).Nodup
  bounded : ∀ page statement, ∀ a ∈ positions (history page statement), a ∈ all
  ids : ∀ a ∈ all, ∀ b ∈ all, a.2 = b.2 → a = b
  rows : ∀ a ∈ all, a.1.aware = true ∧ isRowId a.2 = true

def incidentPositions (db : MetadataDb) : List Position := db.incidents.map IncidentRow.position

def runPositions (incidentId : String) (db : MetadataDb) : List Position :=
  (runsOf db incidentId).map RunRow.position

variable {collate : String → κ} {positions : MetadataDb → List Position} {history : History}
  {all : List Position}

omit [LinearOrder κ] in
/-- **A table to which rows are only added grows**, whichever statement of a page it is that reads
it. -/
theorem InsertsOnly.grows (h : InsertsOnly positions history all)
    (hcollate : Function.Injective collate) (statement : Nat) :
    Keyset.Grows (key collate) (fun page => positions (history page statement)) all where
  nodup page := (h.identified page statement).of_map
  grows page := h.kept page statement (page + 1) statement (Or.inl (Nat.lt_succ_self page))
  bounded page := h.bounded page statement
  keys a ha b hb hkey := h.ids a ha b hb (hcollate (Prod.ext_iff.1 (toLex.injective hkey)).2)

/-- What has been listed: the rows in descending order, none twice, and among them all that there
were in the beginning. -/
structure ListsOnce (collate : String → κ) (first all : List Position)
    (items : List MetadataItem) : Prop where
  descending : (items.map MetadataItem.position).Pairwise fun a b => key collate b < key collate a
  present : ∀ a ∈ first, a ∈ items.map MetadataItem.position
  once : ((items.map MetadataItem.position).map Prod.snd).Nodup
  rows : ∀ a ∈ items.map MetadataItem.position, a ∈ all

/-- **Who follows the cursors lists each row once**, if behind each row a page can be asked for by
its cursor. -/
theorem InsertsOnly.follow (h : InsertsOnly positions history all)
    (hcollate : Function.Injective collate) {limit statement : Nat} (hlimit : 1 ≤ limit)
    {code : Position → String}
    {read : Nat → Option String → Except QueryError (List MetadataItem × Option String)}
    (hread : Keyset.ReadsPages (key collate) (fun page => positions (history page statement)) limit
      code MetadataItem.position all read) :
    ∃ items, Keyset.follow read (all.length + 1) 0 none = .ok (items, true) ∧
      ListsOnce collate (positions (history 0 0)) all items := by
  obtain ⟨items, hitems, hsorted, hall, hfirst⟩ :=
    Keyset.follow_spec (h.grows hcollate statement) hlimit hread
  refine ⟨items, hitems, hsorted, fun a ha => ?_, ?_, hall⟩
  · exact hfirst a (h.kept 0 0 0 statement (Or.inr ⟨rfl, Nat.zero_le statement⟩) a ha)
  · refine List.pairwise_map.2 (hsorted.imp_of_mem fun {a b} ha hb hlt he => ?_)
    rw [h.ids a (hall a ha) b (hall b hb) he] at hlt
    exact lt_irrefl _ hlt

/-- The cursor of a row that is in the list is decoded. -/
theorem InsertsOnly.decodeCursor (h : InsertsOnly positions history all) (lib : CursorLibrary)
    {scope : String} (hscope : ∀ row : Position, isRowId row.2 = true →
      (encodeCursor scope row).toList.length ≤ 1024)
    {last : Option Position} (hlast : ∀ a ∈ last, a ∈ all) :
    IncidentAgent.decodeCursor lib (last.map (encodeCursor scope)) scope = .ok last := by
  cases last with
  | none => rfl
  | some row =>
    obtain ⟨haware, hid⟩ := h.rows row (hlast row rfl)
    exact decodeCursor_encodeCursor lib haware hid (hscope row hid)

/-- **A list of incidents is a page of their places**, once the cursor has been decoded. -/
theorem listMetadata_incidents {lib : CursorLibrary} {db : Nat → MetadataDb} {limit : Int}
    (hlow : 1 ≤ limit) (hhigh : limit ≤ 50) {cursor : Option String} {last : Option Position}
    (hdecode : decodeCursor lib cursor "incidents" = .ok last) : ∃ items,
    listMetadata lib collate db none limit cursor = .ok (items,
        (Keyset.page (key collate) (incidentPositions (db 0)) limit.toNat
          (last.map (key collate))).2.map (encodeCursor "incidents")) ∧
      items.map MetadataItem.position = (Keyset.page (key collate) (incidentPositions (db 0))
        limit.toNat (last.map (key collate))).1 := by
  obtain ⟨hitems, hnext⟩ := @Keyset.page_map Position _ _ (key collate) _ IncidentRow.position
    (db 0).incidents limit.toNat (last.map (key collate))
  rw [incidentPositions, ← hitems, ← hnext, Option.map_map, listMetadata,
    raiseIf_of_not (not_not_intro ⟨hlow, hhigh⟩), hdecode]
  refine ⟨_, rfl, ?_⟩
  exact List.ext_getElem (by simp) fun i hi hi' => by simp [MetadataItem.position]

/-- **A list of runs is a page of their places**, once the cursor has been decoded and the
incident has been found. -/
theorem listMetadata_runs {lib : CursorLibrary} {db : Nat → MetadataDb} {incidentId : String}
    {limit : Int} (hlow : 1 ≤ limit) (hhigh : limit ≤ 50) {cursor : Option String}
    {last : Option Position} (hdecode : decodeCursor lib cursor (runScope incidentId) = .ok last)
    (hfound : ((db 0).incidents.any fun row => row.incidentId = incidentId) = true) : ∃ items,
    listMetadata lib collate db (some incidentId) limit cursor = .ok (items,
        (Keyset.page (key collate) (runPositions incidentId (db 1)) limit.toNat
          (last.map (key collate))).2.map (encodeCursor (runScope incidentId))) ∧
      items.map MetadataItem.position = (Keyset.page (key collate) (runPositions incidentId (db 1))
        limit.toNat (last.map (key collate))).1 := by
  obtain ⟨hitems, hnext⟩ := @Keyset.page_map Position _ _ (key collate) _ RunRow.position
    (runsOf (db 1) incidentId) limit.toNat (last.map (key collate))
  rw [runPositions, ← hitems, ← hnext, Option.map_map, listMetadata,
    raiseIf_of_not (not_not_intro ⟨hlow, hhigh⟩), hdecode]
  simp only [hfound, not_true_eq_false, raiseIf_of_not not_false, ok_bind]
  exact ⟨_, rfl, List.map_map ..⟩

/-- **Incidents are read in pages.** -/
theorem readsPages_incidents (h : InsertsOnly incidentPositions history all) (lib : CursorLibrary)
    {limit : Int} (hlow : 1 ≤ limit) (hhigh : limit ≤ 50) :
    Keyset.ReadsPages (key collate) (fun page => incidentPositions (history page 0)) limit.toNat
      (encodeCursor "incidents") MetadataItem.position all
      (fun page cursor => listMetadata lib collate (history page) none limit cursor) :=
  fun _ _ hlast => listMetadata_incidents hlow hhigh
    (h.decodeCursor lib (fun _ => length_incidents_cursor) hlast)

/-- **The runs of an incident are read in pages.** -/
theorem readsPages_runs {incidentId : String} {incidents : List Position}
    (h : InsertsOnly (runPositions incidentId) history all)
    (hincidents : InsertsOnly incidentPositions history incidents)
    (hexists : incidentId ∈ (incidentPositions (history 0 0)).map Prod.snd) (lib : CursorLibrary)
    {limit : Int} (hlow : 1 ≤ limit) (hhigh : limit ≤ 50) :
    Keyset.ReadsPages (key collate) (fun page => runPositions incidentId (history page 1))
      limit.toNat (encodeCursor (runScope incidentId)) MetadataItem.position all
      (fun page cursor => listMetadata lib collate (history page) (some incidentId) limit
        cursor) := by
  obtain ⟨incident, hincident, hsame⟩ := List.mem_map.1 hexists
  have hid : isRowId incidentId = true := by
    rw [← hsame]
    exact (hincidents.rows incident (hincidents.bounded 0 0 incident hincident)).2
  intro page last hlast
  have hfound : ((history page 0).incidents.any fun row => row.incidentId = incidentId) = true := by
    have hkept : incident ∈ incidentPositions (history page 0) :=
      hincidents.kept 0 0 page 0 (by omega) incident hincident
    obtain ⟨row, hrow, rfl⟩ := List.mem_map.1 hkept
    exact List.any_eq_true.2 ⟨row, hrow, decide_eq_true hsame⟩
  exact listMetadata_runs hlow hhigh
    (h.decodeCursor lib (fun _ => length_runs_cursor hid) hlast) hfound

/-- What is promised of lists and their cursors. -/
structure KeysetListing (lib : CursorLibrary) (collate : String → κ) : Prop where
  /-- A cursor is decoded to the time and the id that it was encoded for. -/
  roundTrip : ∀ (scope : String) (createdAt : DateTime) (id : String), createdAt.aware = true →
    isRowId id = true → (encodeCursor scope (createdAt, id)).toList.length ≤ 1024 →
    decodeCursor lib (some (encodeCursor scope (createdAt, id))) scope = .ok (some (createdAt, id))
  /-- It is refused in every other scope. -/
  otherScope : ∀ (scope other : String) (createdAt : DateTime) (id : String), other ≠ scope →
    decodeCursor lib (some (encodeCursor scope (createdAt, id))) other = .error .invalidRunQuery
  /-- Who follows the cursors of incidents lists each of them once, in order, to the end. -/
  incidents : ∀ (history : History) (all : List Position) (limit : Int), 1 ≤ limit → limit ≤ 50 →
    InsertsOnly incidentPositions history all → ∃ items,
      Keyset.follow (fun page cursor => listMetadata lib collate (history page) none limit cursor)
        (all.length + 1) 0 none = .ok (items, true) ∧
      ListsOnce collate (incidentPositions (history 0 0)) all items
  /-- And so do the runs of an incident. -/
  runs : ∀ (history : History) (incidents all : List Position) (incidentId : String) (limit : Int),
    1 ≤ limit → limit ≤ 50 → InsertsOnly incidentPositions history incidents →
    InsertsOnly (runPositions incidentId) history all →
    incidentId ∈ (incidentPositions (history 0 0)).map Prod.snd → ∃ items,
      Keyset.follow (fun page cursor =>
          listMetadata lib collate (history page) (some incidentId) limit cursor)
        (all.length + 1) 0 none = .ok (items, true) ∧
      ListsOnce collate (runPositions incidentId (history 0 0)) all items

/-- **Lists are complete, and their cursors are read back.** Distinct ids are distinct for the
database, as they are under each collation that is deterministic. -/
theorem listMetadata_keyset (lib : CursorLibrary) {collate : String → κ}
    (hcollate : Function.Injective collate) : KeysetListing lib collate where
  roundTrip _ _ _ haware hid hlength := decodeCursor_encodeCursor lib haware hid hlength
  otherScope _ _ _ _ hother := decodeCursor_otherScope lib hother _
  incidents _ _ _ hlow hhigh h :=
    h.follow hcollate (by omega) (readsPages_incidents h lib hlow hhigh)
  runs _ _ _ _ _ hlow hhigh hincidents h hexists :=
    h.follow hcollate (by omega) (readsPages_runs h hincidents hexists lib hlow hhigh)

/-! ### An example -/

/-- A time in the first minutes of a year. -/
def newYear (minute : Fin 60) : DateTime where
  fields := ⟨2026, 1, 1, 0, minute, 0, 0, some 0⟩
  valid := by decide +revert

/-- An incident of that time. -/
def newYearIncident (incidentId : String) (minute : Fin 60) : IncidentRow :=
  ⟨incidentId, "agent-demo", "web", "created", newYear minute, newYear minute⟩

/-- Two incidents of one time, and an earlier one that is committed after the first page. -/
def lateCommit : History := fun page _ =>
  ⟨[newYearIncident "a" 5, newYearIncident "b" 5] ++
    if page = 0 then [] else [newYearIncident "c" 1], []⟩

theorem insertsOnly_lateCommit :
    InsertsOnly incidentPositions lateCommit (incidentPositions (lateCommit 1 0)) where
  kept page statement page' statement' hlater a ha := by
    simp only [incidentPositions, lateCommit, List.map_append, List.mem_append] at ha ⊢
    rcases ha with ha | ha
    · exact Or.inl ha
    · split at ha
      · cases ha
      · rw [if_neg (by omega)]
        exact Or.inr ha
  identified page statement := by
    by_cases hpage : page = 0
    · simp only [incidentPositions, lateCommit, if_pos hpage]
      decide
    · simp only [incidentPositions, lateCommit, if_neg hpage]
      decide
  bounded page statement a ha := by
    simp only [incidentPositions, lateCommit, List.map_append, List.mem_append] at ha ⊢
    rcases ha with ha | ha
    · exact Or.inl ha
    · split at ha
      · cases ha
      · exact Or.inr ha
  ids := by decide
  rows := by decide

theorem listMetadata_keyset_lateCommit : ∃ items,
    Keyset.follow (fun page cursor =>
        listMetadata ⟨fun _ => none, fun _ => none⟩ id (lateCommit page) none 1 cursor)
      4 0 none = .ok (items, true) ∧
      ListsOnce id (incidentPositions (lateCommit 0 0)) (incidentPositions (lateCommit 1 0))
        items :=
  (listMetadata_keyset ⟨fun _ => none, fun _ => none⟩ Function.injective_id).incidents lateCommit _
    1 (by decide) (by decide) insertsOnly_lateCommit

end Listing

end IncidentAgent
