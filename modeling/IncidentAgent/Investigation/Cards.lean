import IncidentAgent.Investigation.Logs

/-!
# Cards and blocks of saved evidence

What a model is shown of a saved item of evidence: a card with the fields that are known for its
kind (`evidenceCard`), or a block with its data (`structuredBlock`). Both are made of the item
alone. What the item keeps under the name of a credential or of an execution detail is removed
first (`clean`).

A saved item is a JSON document: its texts can be encoded and its numbers written.
-/

namespace IncidentAgent

/-! ### Cleaning -/

/-- The names of members that tell how a container is executed. -/
def isExecutionKey (key : String) : Bool := lowerKey key ∈ ["command", "args", "env", "envfrom"]

mutual

/-- `remove_execution_details`. -/
def removeExecutionDetails : Json → Json
  | .arr items => .arr (removeFromItems items)
  | .obj members => .obj (removeFromMembers members)
  | v => v

def removeFromItems : List Json → List Json
  | [] => []
  | v :: rest => removeExecutionDetails v :: removeFromItems rest

def removeFromMembers : List (String × Json) → List (String × Json)
  | [] => []
  | (k, v) :: rest =>
    (k, if isExecutionKey k then .str "[OMITTED]" else removeExecutionDetails v) ::
      removeFromMembers rest

end

/-- `clean`. The text that `redact_output` writes is read back as the value. -/
def clean (lib : TextLibrary) (v : Json) : Json := redact lib.isAlnum (removeExecutionDetails v)

/-! ### Bounds -/

/-- `TEXT_LIMIT`. -/
def textLimit : Nat := 600

/-- `LIST_LIMIT`. -/
def listLimit : Nat := 20

/-- `ANSI`. -/
def ansi : Regex :=
  inOrder [.char fun c => c.toNat = 0x1b, exactly "[", .star (.char fun c => '0' ≤ c && c ≤ '?'),
    .star (.char fun c => ' ' ≤ c && c ≤ '/'), .char fun c => '@' ≤ c && c ≤ '~']

/-- `CONTROL`. -/
def isControl (c : Char) : Bool :=
  c.toNat ≤ 8 || (0xb ≤ c.toNat && c.toNat ≤ 0x1f) || c.toNat = 0x7f

/-- A text without escape sequences and control characters. -/
def plainText (text : String) : String :=
  String.ofList ((ansi.sub [] text).toList.filter fun c => !isControl c)

/-- The members of an object in the order of their names. -/
def sortedMembers (members : List (String × Json)) : List (String × Json) :=
  members.foldr (fun m sorted => SortedMap.setEntry m.1 m.2 sorted) []

/-- An omission, where a list has more than `listLimit` elements. -/
def omittedBeyond (path what : String) (length : Nat) : List Json :=
  if listLimit < length then [.obj [("path", .str path), (what, .num (length - listLimit))]] else []

/-- `bounded`, with so many levels left: the value within the bounds, and what was omitted. -/
def boundedAt : Nat → String → Json → Json × List Json
  | _, path, .str text =>
    let text := plainText text
    (.str (String.ofList (text.toList.take textLimit)),
      if textLimit < text.toList.length then
        [.obj [("path", .str path), ("characters", .num (text.toList.length - textLimit))]]
      else [])
  | 0, path, .arr _ | 0, path, .obj _ =>
    (.null, [.obj [("path", .str path), ("reason", .str "depth_limit")]])
  | n + 1, path, .arr items =>
    let parts := (items.take listLimit).zipIdx.map fun item =>
      boundedAt n (path ++ "[" ++ toString item.2 ++ "]") item.1
    (.arr (parts.map Prod.fst), omittedBeyond path "items" items.length ++ parts.flatMap Prod.snd)
  | n + 1, path, .obj members =>
    let parts := ((sortedMembers members).take listLimit).map fun m =>
      (m.1, boundedAt n (path ++ "." ++ m.1) m.2)
    (.obj (parts.map fun part => (part.1, part.2.1)),
      omittedBeyond path "keys" members.length ++ parts.flatMap fun part => part.2.2)
  | _, _, v => (v, [])

/-- `bounded`. -/
def bounded (path : String) (v : Json) : Json × List Json := boundedAt 5 path v

/-- `grouped_logs`. -/
def groupedLogs (lib : TextLibrary) (content : String) : Json :=
  let lines := splitLines content
  let groups := scanLines lib 0 1 [] lines
  let selected := selectedGroups groups
  let shown := bounded "logs.groups" (clean lib (.arr (selected.map LogGroup.dump)))
  .obj [("groups", shown.1), ("input_lines", .num lines.length),
    ("scanned_lines", .num (totalCount groups)),
    ("omitted_lines", .num (lines.length - totalCount groups)),
    ("omitted_groups", .num (groups.length - selected.length)),
    ("omitted_group_occurrences", .num (totalCount groups - totalCount selected)),
    ("projection_omissions", .arr shown.2),
    ("scope", .str ("Counts describe scanned saved lines only; first/last follow source order, " ++
      "not time sorting."))]

/-! ### Fields -/

/-- `FIELDS`. -/
def fieldsOf : String → Option (List String)
  | "Service" => some ["namespace", "name", "selector", "ports", "service_type"]
  | "Deployment" => some ["namespace", "name", "generation", "desired_replicas", "ready_replicas",
      "available_replicas", "unavailable_replicas", "selector", "template_labels", "containers"]
  | "PodStatus" => some ["namespace", "name", "phase", "ready", "containers"]
  | "EndpointSlice" => some ["namespace", "name", "service_uid", "service_name", "endpoints"]
  | "BusinessCheck" => some ["check_id", "status", "http_status", "content_matches", "error_code",
      "scope"]
  | "PodSelection" => some ["namespace", "service_pod_names", "namespace_pod_names",
      "matched_count", "selected_count", "truncated", "pod_names"]
  | "OwnerChain" => some ["owner_chain"]
  | "Node" => some ["name", "ready", "conditions"]
  | "PodEvents" => some ["events"]
  | _ => none

/-- `CONTAINER_FIELDS`. -/
def containerFields : List String :=
  ["name", "state", "ready", "restart_count", "waiting_reason", "waiting_message",
    "terminated_reason", "terminated_exit_code", "last_terminated_reason",
    "last_terminated_exit_code", "image", "requests", "limits", "resources", "readiness_probe",
    "liveness_probe"]

/-- `{k: value[k] for k in names if k in value}`. -/
def select (names : List String) (v : Json) : Json :=
  .obj (names.filterMap fun name => (v.get? name).map fun w => (name, w))

/-- What a projection finds: the fields, whether they were parsed, and why not. -/
structure Projection where
  fields : Json
  status : String
  reason : Json

/-- A projection of data that could not be parsed. -/
def unparsed (reason : String) : Projection := ⟨.obj [], "unparsed", .str reason⟩

/-- A projection with fields, unless there are none. -/
def parsedFields (fields : Json) : Projection :=
  if fields.truthy then ⟨fields, "parsed", .null⟩ else ⟨fields, "unparsed", .str "NO_KNOWN_FIELDS"⟩

/-- Whether a value is nothing or a truth value. -/
def isBoolOrNone : Json → Bool
  | .null | .bool _ => true
  | _ => false

/-- Whether a value is nothing or a number. -/
def isIntOrNone : Json → Bool
  | .null | .num _ => true
  | _ => false

/-- Whether a value is a list of dictionaries. -/
def isCollection : Json → Bool
  | .arr items => items.all Json.isObject
  | _ => false

/-- Whether each of some fields, as far as it is there, satisfies a condition. -/
def fieldsAre (condition : Json → Bool) (names : List String) (fields : Json) : Bool :=
  names.all fun name => (fields.get? name).all condition

/-- The known fields of data of a kind. -/
def projectFields (kind : String) (data : Json) : Projection :=
  match fieldsOf kind with
  | none => unparsed "UNSUPPORTED_RESOURCE_TYPE"
  | some names =>
    let fields := select names data
    if ¬fieldsAre isBoolOrNone ["ready", "content_matches", "truncated"] fields then
      unparsed "INVALID_BOOLEAN_FIELD"
    else if ¬fieldsAre isIntOrNone ["desired_replicas", "ready_replicas", "available_replicas",
        "unavailable_replicas", "http_status"] fields then
      unparsed "INVALID_INTEGER_FIELD"
    else if ¬fieldsAre isCollection ["containers", "endpoints", "events", "conditions"] fields then
      unparsed "INVALID_COLLECTION_SHAPE"
    else match fields.get? "containers" with
      | some containers => parsedFields
          (fields.insert "containers" (.arr (containers.items.map (select containerFields))))
      | none => parsedFields fields

/-- The fields of the payload of a tool. -/
def projectPayload (tool : Option Json) (payload : Json) : Projection :=
  if tool = some (.str "pod_events") ∧ payload.isArray then
    projectFields "PodEvents" (.obj [("events", payload)])
  else if tool = some (.str "endpoint_slice") ∧ (payload.get "endpoints").isArray then
    projectFields "EndpointSlice" (.obj [("endpoints", payload.get "endpoints")])
  else if tool = some (.str "replica_set") ∧ payload.isObject then
    let fields := select ["replicas", "ready_replicas"] payload
    if ¬fieldsAre isIntOrNone ["replicas", "ready_replicas"] fields then
      unparsed "INVALID_INTEGER_FIELD"
    else parsedFields fields
  else unparsed "UNSUPPORTED_TOOL_PAYLOAD"

/-- The fields of what a tool observed: of its payload where that is complete, else of its text,
which has to be a whole JSON text. -/
def projectObservation (lib : TextLibrary) (data : Json) (truncated : Bool) : Projection :=
  let payload := data.get "payload"
  if data.get "payload_complete" = .bool true ∧ (payload.isObject ∨ payload.isArray) then
    projectPayload (data.get? "tool") payload
  else match truncated, data.get "text" with
    | false, .str text => match lib.loads text with
      | some document => projectPayload (data.get? "tool") document.toJson
      | none => unparsed "TOOL_TEXT_NOT_JSON"
    | _, _ => unparsed "TOOL_TEXT_INCOMPLETE_OR_MISSING"

/-- The fields of a saved log. -/
def projectLog (lib : TextLibrary) (data : Json) : Projection :=
  match data.get "content" with
  | .str content =>
    if "b'".toList.isPrefixOf content.toList || "b\"".toList.isPrefixOf content.toList then
      unparsed "POSSIBLE_LEGACY_BYTES_REPR"
    else ⟨.obj [("logs", groupedLogs lib content)], "parsed", .null⟩
  | _ => unparsed "LOG_CONTENT_NOT_TEXT"

/-- `project`. A kind that cannot be looked up raises. -/
def project (lib : TextLibrary) (kind data : Json) (truncated : Bool) : Except Raised Projection :=
  if ¬data.isObject then pure (unparsed "DATA_NOT_OBJECT")
  else match kind with
    | .str "PodLogs" => pure (projectLog lib data)
    | .str "ToolObservation" => pure (projectObservation lib data truncated)
    | .str name => pure (projectFields name data)
    | .arr _ | .obj _ => .error typeError
    | _ => pure (unparsed "UNSUPPORTED_RESOURCE_TYPE")

/-! ### Cards -/

/-- `VERSION`. -/
def cardVersion : String := "evidence-card-v1"

/-- `left or right`. -/
def orElse (left right : Json) : Json := if left.truthy then left else right

/-- An item that is a dictionary, or one with the item as its data. -/
def asItem (item : Json) : Json := if item.isObject then item else .obj [("data", item)]

/-- `canonical`, the compact text of a value. -/
def canonicalText (v : Json) : String := String.ofList v.compact

/-- Whether the saved data of an item was cut. -/
def isTruncated (item mapping : Json) : Bool :=
  item.get "truncated" = .bool true || mapping.get "truncated" = .bool true

/-- The data of an item, where it is a dictionary. -/
def mappingOf (data : Json) : Json := if data.isObject then data else .obj []

/-- What a card shows of a projection: whether the fields were parsed, and the fields within their
bounds with what was omitted of them. -/
structure Shown where
  status : String
  reason : Json
  fields : Json
  omissions : List Json

/-- What is shown of a projection. The groups of a log have their own bounds. -/
def Projection.shown (lib : TextLibrary) (kind : Json) (p : Projection) : Shown :=
  if kind = .str "PodLogs" ∧ p.status = "parsed" then
    let logs := p.fields.get "logs"
    ⟨p.status, p.reason, p.fields, (logs.get "projection_omissions").items ++
      if (logs.get "omitted_lines").truthy ∨ (logs.get "omitted_groups").truthy then
        [.obj [("path", .str "logs"), ("reason", .str "log_selection_limit")]]
      else []⟩
  else
    let (fields, omissions) := bounded "fields" (clean lib p.fields)
    ⟨p.status, p.reason, fields, omissions⟩

/-- The part of the data of an item that its excerpt is of. -/
def excerptSource (kind data : Json) : Json :=
  if kind = .str "PodLogs" then (mappingOf data).get "content"
  else if kind = .str "ToolObservation" then (mappingOf data).get "text"
  else data

/-- The text of an excerpt, before its bounds. -/
def excerptText (lib : TextLibrary) (raw : Json) : Json :=
  match clean lib raw with
  | .str text => .str text
  | v => .str (canonicalText v)

/-- The card of an item, with what is shown of its projection. -/
def cardOf (lib : TextLibrary) (item recordPath : Json) (shown : Shown) : Json :=
  let data := item.get "data"
  let mapping := mappingOf data
  let kind := item.get "resource_type"
  let (excerpt, cut) := bounded "excerpt" (excerptText lib (excerptSource kind data))
  let error := orElse (item.get "error") (mapping.get "error_code")
  let coverage := orElse (item.get "coverage") (.str "unspecified_legacy_snapshot")
  .obj [("schema_version", .str cardVersion), ("evidence_id", item.get "evidence_id"),
    ("source_ref", .obj [("record_path", recordPath), ("request_id", item.get "request_id"),
      ("record_digest", .str (lib.digest item))]),
    ("identity", clean lib (.obj [("resource_type", kind),
      ("resource_name", item.get "resource_name"), ("namespace", mapping.get "namespace"),
      ("uid", mapping.get "uid"), ("container", mapping.get "container_name"),
      ("previous", mapping.get "previous")])),
    ("source", clean lib (item.get "source")), ("collected_at", item.get "collected_at"),
    ("coverage", clean lib coverage), ("source_truncated", .bool (isTruncated item mapping)),
    ("error", clean lib error),
    ("observation_status", .str (if error.truthy ∨ coverage = .str "unknown" then
      "failed_or_unknown" else "recorded_not_health_verified")),
    ("parse_status", .str shown.status), ("parse_reason", shown.reason), ("fields", shown.fields),
    ("projection_omissions", .arr shown.omissions), ("excerpt", excerpt),
    ("excerpt_source", .str "saved_data"), ("excerpt_truncated", .bool (cut ≠ [])),
    ("untrusted", .bool true),
    ("limitations", .arr [.str "Selected fields are not complete evidence or a diagnosis.",
      .str "Missing identity/time/coverage stays unknown; no evidence is resampled."])]

/-- `evidence_card`. -/
def evidenceCard (lib : TextLibrary) (item recordPath : Json) : Except Raised Json :=
  let item := asItem item
  let data := item.get "data"
  let kind := item.get "resource_type"
  (project lib kind data (isTruncated item (mappingOf data))).map fun p =>
    cardOf lib item recordPath (p.shown lib kind)

/-! ### Blocks -/

/-- The data of a block. The text of a payload that is there in full is left out. -/
def blockData (lib : TextLibrary) (item : Json) : Json :=
  let data := clean lib ((item.get? "data").getD (.obj []))
  if (data.get? "payload").isSome ∧ data.flag "payload_complete" then data.erase "text" else data

/-- The text of a saved log. -/
def logContent (kind data : Json) : Option String :=
  match data.get? "content" with
  | some (.str content) => if kind = .str "PodLogs" then some content else none
  | _ => none

/-- The body of a block: how the data is projected, the sizes of a log, and the data. -/
structure BlockBody where
  projection : Json
  sizes : List (String × Json)
  data : Json

/-- The body of a block with data: a log is shown by its view, where there is one. -/
def blockBody (lib : TextLibrary) (kind data : Json) : BlockBody :=
  let whole := Json.str "saved-evidence-object-v1"
  match logContent kind data with
  | none => ⟨whole, [], data⟩
  | some content =>
    let (projection, shown) := match projectLogs lib content with
      | some view => (view.get "format", (data.erase "content").insert "log_view" view)
      | none => (whole, data)
    ⟨projection, [("representation_bytes", .obj [("raw_data", .num (encodedBytes data)),
      ("model_data", .num (encodedBytes shown))])], shown⟩

/-- A member of a dictionary under another name, where it is there. -/
def renamed (data : Json) (source target : String) : List (String × Json) :=
  ((data.get? source).map fun v => (target, v)).toList

/-- What a block tells of an item besides its data. -/
def blockHeader (item data : Json) (projection : Json) : List (String × Json) :=
  [("evidence_id", item.get "evidence_id"), ("resource_type", item.get "resource_type"),
    ("resource_name", item.get "resource_name"), ("collected_at", item.get "collected_at"),
    ("coverage", orElse (item.get "coverage") (.str "unspecified_legacy_snapshot")),
    ("source_truncated", .bool (isTruncated item (mappingOf data))),
    ("error", orElse (item.get "error") ((mappingOf data).get "error_code")),
    ("untrusted", .bool true), ("projection", projection), ("input_body_clipped", .bool false),
    ("excerpt_truncated", .bool false)]

/-- `structured_block`. -/
def structuredBlock (lib : TextLibrary) (item : Json) : Except Raised Json :=
  if item.isObject then
    let data := blockData lib item
    let body := blockBody lib (item.get "resource_type") data
    .ok (clean lib (.obj (blockHeader item data body.projection ++
      ("source_digest", .str (lib.digest item)) ::
        (renamed data "container_name" "container" ++ renamed data "previous" "previous" ++
          body.sizes ++ [("data", body.data)]))))
  else .error ⟨"AttributeError", none, none⟩

end IncidentAgent
