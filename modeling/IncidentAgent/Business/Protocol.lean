import IncidentAgent.Lib.Regex
import IncidentAgent.Policy.Profile

/-!
# The protocol of business checks

What the checker in the cluster does: it validates the target that it is registered with,
resolves the name of the Service, asks the application at the address of the Service, and
compares the document that the application answers with what the check expects, value by value
and type by type. A check that could not be made leaves the status `unknown`.

The document of an application is read by a JSON reader that refuses an object with two
members of one name and a constant that is not a number; the reader before that refusal is
part of the library.
-/

namespace IncidentAgent

/-! ### Documents -/

/-- What a JSON reader makes of a text: fractional numbers and constants occur, and an object
has its pairs as they were written. -/
inductive Parsed
  | null
  | bool (b : Bool)
  | int (n : Int)
  | float (text : String)
  | constant (name : String)
  | str (s : String)
  | arr (items : List Parsed)
  | obj (pairs : List (String × Parsed))
  deriving Inhabited

namespace Parsed

mutual

/-- Whether neither `unique_object` nor `parse_constant` refuses a document. -/
def accepted : Parsed → Bool
  | .constant _ => false
  | .arr items => acceptedItems items
  | .obj pairs => acceptedPairs pairs
  | _ => true

def acceptedItems : List Parsed → Bool
  | [] => true
  | v :: vs => v.accepted && acceptedItems vs

def acceptedPairs : List (String × Parsed) → Bool
  | [] => true
  | (k, v) :: rest => v.accepted && !(rest.any fun p => p.1 = k) && acceptedPairs rest

end

/-- `document.get(key)`, where a document that is no dictionary has none. -/
def get? (v : Parsed) (key : String) : Option Parsed :=
  match v with
  | .obj pairs => pairs.lookup key
  | _ => none

/-- `isinstance(document, dict)`. -/
def isDict : Parsed → Bool
  | .obj _ => true
  | _ => false

/-- `type(value) is type(expected) and value == expected`. -/
def equals (v : Parsed) (expected : Json) : Bool :=
  match v, expected with
  | .str a, .str b => a = b
  | .int a, .num b => a = b
  | .bool a, .bool b => a = b
  | .null, .null => true
  | _, _ => false

mutual

/-- The value of a document: of two members of one name the last one counts. Fractions and
constants are kept as texts. -/
def toJson : Parsed → Json
  | .null => .null
  | .bool b => .bool b
  | .int n => .num n
  | .float text => .str text
  | .constant name => .str name
  | .str s => .str s
  | .arr items => .arr (toItems items)
  | .obj pairs => .obj (toMembers [] pairs)

def toItems : List Parsed → List Json
  | [] => []
  | v :: rest => v.toJson :: toItems rest

/-- The members of a dictionary after some pairs. -/
def toMembers (members : List (String × Json)) : List (String × Parsed) → List (String × Json)
  | [] => members
  | (k, v) :: rest => toMembers (Json.insertMember k v.toJson members) rest

end

end Parsed

/-- What the checker takes from libraries besides. -/
structure CheckLibrary extends Library where
  /-- `json.loads`, before its hooks. -/
  loads : List UInt8 → Option Parsed
  /-- `str` of a document. -/
  pyStr : Parsed → String
  /-- `hashlib.sha256(body).hexdigest()`. -/
  sha256 : List UInt8 → String

/-- `decode_json`. -/
def decodeJson (lib : CheckLibrary) (raw : List UInt8) : Option Parsed :=
  (lib.loads raw).filter (·.accepted)

/-! ### Targets -/

/-- `[a-z0-9]`. -/
def isLowerAlnum (c : Char) : Bool := ('a' ≤ c && c ≤ 'z') || ('0' ≤ c && c ≤ '9')

/-- Whether a text is a name: of letters, digits and other characters, which it neither begins
nor ends with. -/
def isNameOf (other : List Char) (limit : Nat) (text : String) : Bool :=
  text.toList.length ≤ limit && (text.toList.all fun c => isLowerAlnum c || c ∈ other) &&
    text.toList.head?.any isLowerAlnum && text.toList.getLast?.any isLowerAlnum

/-- `NAME.fullmatch`. -/
def isName (text : String) : Bool := isNameOf ['-'] 63 text

/-- `CHECK_ID.fullmatch`. -/
def isCheckId (text : String) : Bool := isNameOf ['.', '-'] 253 text

/-- Whether a text has so many hexadecimal digits and nothing else. -/
def isHex (length : Nat) (text : String) : Bool :=
  text.toList.length = length &&
    text.toList.all fun c => ('a' ≤ c && c ≤ 'f') || ('0' ≤ c && c ≤ '9')

/-- `DIGEST.fullmatch`. -/
def isDigest : String → Bool := isHex 64

/-- `NONCE.fullmatch`. -/
def isNonce : String → Bool := isHex 32

/-- A text of a target. -/
def textOf : Json → Except Raised String
  | .str s => .ok s
  | _ => .error typeError

/-- Whether a path is one of a local request. -/
def isLocalPath : Json → Bool
  | .str path =>
    ['/'].isPrefixOf path.toList && !(['/', '/'].isPrefixOf path.toList) &&
      path.toList.length ≤ 300 &&
      path.toList.all fun c => c ∉ ['\\', '?', '#'] && !isSpace c && 32 ≤ c.toNat
  | _ => false

/-- Whether a value is a number within bounds. -/
def isBounded (lower upper : Int) : Json → Bool
  | .num n => lower ≤ n && n ≤ upper
  | _ => false

/-- Whether a value is one that a check may expect. -/
def isAssertable : Json → Bool
  | .str s => s.toList.length ≤ 300
  | .num _ | .bool _ => true
  | _ => false

/-- Whether the assertions of a check are acceptable. -/
def validAssertions : Json → Bool
  | .obj members => members.length ≤ 20 &&
      members.all fun m => m.1.toList.length ≤ 100 && isAssertable m.2
  | _ => false

/-- The check of a target, validated. -/
def validateCheck (check : Json) : Except Raised Unit := do
  raiseIf (¬check.hasKeys ["check_id", "path", "port", "scheme", "method", "expected_status",
    "expected_json_subset", "timeout_seconds", "max_response_bytes", "follow_redirects",
    "read_only"]) (valueError "invalid check fields")
  let checkId ← textOf (check.get "check_id")
  raiseIf (¬isCheckId checkId) (valueError "invalid check ID")
  raiseIf (¬isLocalPath (check.get "path")) (valueError "invalid local request path")
  raiseIf (¬(check.hasText "scheme" "HTTP" ∧ check.hasText "method" "GET"))
    (valueError "only HTTP GET is supported in stage 3")
  raiseIf (¬(check.get "follow_redirects" = .bool false ∧ check.get "read_only" = .bool true))
    (valueError "unsafe check settings")
  raiseIf (¬isBounded 1 10 (check.get "timeout_seconds")) (valueError "invalid check bound")
  raiseIf (¬isBounded 1 65536 (check.get "max_response_bytes")) (valueError "invalid check bound")
  raiseIf (¬isBounded 200 299 (check.get "expected_status")) (valueError "invalid check bound")
  raiseIf (¬validAssertions (check.get "expected_json_subset"))
    (valueError "invalid JSON assertions")

/-- `validate_target`. -/
def validateTarget (lib : CheckLibrary) (target : Json) : Except Raised Json := do
  raiseIf (¬target.hasKeys ["namespace", "service_name", "profile_digest", "cluster_ip", "port",
    "check"]) (valueError "invalid target fields")
  let namespaceName ← textOf (target.get "namespace")
  raiseIf (¬isName namespaceName) (valueError "invalid resource name")
  let serviceName ← textOf (target.get "service_name")
  raiseIf (¬isName serviceName) (valueError "invalid resource name")
  let digest ← textOf (target.get "profile_digest")
  raiseIf (¬isDigest digest) (valueError "invalid digest")
  let address ← lib.ipAddress (target.get "cluster_ip")
  raiseIf (address.isLoopback ∨ address.isLinkLocal ∨ address.isUnspecified ∨
    address.isMulticast) (valueError "unsafe Service address")
  raiseIf (¬isBounded 1 65535 (target.get "port")) (valueError "invalid Service port")
  validateCheck (target.get "check")
  pure target

theorem textOf_eq_ok {v : Json} {text : String} (h : textOf v = .ok text) : v = .str text := by
  unfold textOf at h
  split at h
  · rw [Except.ok.inj h]
  · cases h

/-- The identifier of a check that is valid. -/
theorem validateCheck_checkId {check : Json} {u : Unit} (h : validateCheck check = .ok u) :
    ∃ checkId, check.get "check_id" = .str checkId ∧ isCheckId checkId := by
  simp only [validateCheck, bind_eq_ok, raiseIf_eq_ok, not_not] at h
  obtain ⟨-, -, checkId, hid, -, hvalid, -⟩ := h
  exact ⟨checkId, textOf_eq_ok hid, hvalid⟩

/-- A target that is valid is returned as it is; its port is a number, and its check is valid. -/
theorem validateTarget_spec {lib : CheckLibrary} {target target' : Json}
    (h : validateTarget lib target = .ok target') :
    target' = target ∧ (∃ n, target.get "port" = .num n) ∧
      validateCheck (target.get "check") = .ok () := by
  simp only [validateTarget, bind_eq_ok, raiseIf_eq_ok, pure_eq_ok, not_not] at h
  obtain ⟨-, -, -, -, -, -, -, -, -, -, -, -, -, -, -, -, -, -, -, hport, ⟨⟩, hcheck, hsame⟩ := h
  refine ⟨hsame.symm, ?_, hcheck⟩
  unfold isBounded at hport
  split at hport
  · rename_i n hn
    exact ⟨n, hn⟩
  · cases hport

/-! ### Performing a check -/

/-- How an exchange with the application may fail. -/
inductive CheckFault
  | dns
  | timeout
  | connection
  deriving DecidableEq, Inhabited

/-- `result["error_code"]` after a fault. -/
def CheckFault.code : CheckFault → String
  | .dns => "DNS_ERROR"
  | .timeout => "CHECK_TIMEOUT"
  | .connection => "CONNECTION_ERROR"

/-- What a check finds: the addresses that the name resolves to, the HTTP status, and the body
that the application sends, each of which may fail; and the readings of the clocks. -/
structure Exchange where
  addresses : Except CheckFault (List Json)
  status : Except CheckFault Int
  body : Except CheckFault (List UInt8)
  checkedAt : String
  elapsedMs : Int

/-- The result of a check. -/
structure ProbeResult where
  requestId : String
  target : Json
  status : String
  errorCode : Option String
  httpStatus : Option Int
  contentMatches : Option Bool
  observedFields : List (String × Json)
  responseBytes : Nat
  bodySha256 : Option String
  elapsedMs : Int
  checkedAt : String

/-- `PROTOCOL_VERSION`. -/
def protocolVersion : Int := 1

/-- `CHECKER_VERSION`. -/
def checkerVersion : String := "business-probe-v0.2.0"

/-- The result as it is sent. -/
def ProbeResult.dump (r : ProbeResult) : Json :=
  .obj [("protocol_version", .num protocolVersion), ("checker_version", .str checkerVersion),
    ("request_id", .str r.requestId), ("target", r.target), ("scope", .str "cluster_service_http"),
    ("status", .str r.status), ("error_code", r.errorCode.elim .null .str),
    ("http_status", r.httpStatus.elim .null .num),
    ("content_matches", r.contentMatches.elim .null .bool),
    ("observed_fields", .obj r.observedFields), ("response_bytes", .num r.responseBytes),
    ("body_sha256", r.bodySha256.elim .null .str), ("elapsed_ms", .num r.elapsedMs),
    ("checked_at", .str r.checkedAt)]

/-- `result_base`. -/
def resultBase (target : Json) (requestId checkedAt : String) : ProbeResult where
  requestId := requestId
  target := target
  status := "unknown"
  errorCode := none
  httpStatus := none
  contentMatches := none
  observedFields := []
  responseBytes := 0
  bodySha256 := none
  elapsedMs := 0
  checkedAt := checkedAt

/-- Whether a document has what a check expects, with the types that it expects. -/
def contentMatches (expected : List (String × Json)) (document : Parsed) : Bool :=
  document.isDict && expected.all fun e => (document.get? e.1).any fun v => v.equals e.2

/-- A value as a result reports it. -/
def observedValue (lib : CheckLibrary) : Option Parsed → Json
  | none | some .null => .null
  | some (.int n) => .num n
  | some (.bool b) => .bool b
  | some v => .str (String.ofList ((lib.pyStr v).toList.take 300))

/-- The fields that a result reports. -/
def observedFields (lib : CheckLibrary) (expected : List (String × Json)) (document : Parsed) :
    List (String × Json) :=
  if document.isDict then expected.map fun e => (e.1, observedValue lib (document.get? e.1))
  else []

/-- The verdict on a body. -/
def judgeBody (lib : CheckLibrary) (check : Json) (r : ProbeResult) (status : Int)
    (body : List UInt8) : ProbeResult :=
  let limit := (check.get "max_response_bytes").toInt
  let body := body.take (limit.toNat + 1)
  let r := { r with responseBytes := body.length }
  if limit < body.length then { r with errorCode := some "RESPONSE_TOO_LARGE" }
  else
    let r := { r with bodySha256 := some (lib.sha256 body) }
    if check.get "expected_status" ≠ .num status then
      { r with status := "failed", errorCode := some "HTTP_STATUS_MISMATCH" }
    else match decodeJson lib body with
      | none => { r with
          status := "failed"
          errorCode := some "INVALID_JSON"
          contentMatches := some false }
      | some document =>
        let expected := (check.get "expected_json_subset").members
        let found := contentMatches expected document
        { r with
          observedFields := observedFields lib expected document
          status := if found then "passed" else "failed"
          contentMatches := some found
          errorCode := if found then none else some "JSON_CONTENT_MISMATCH" }

/-- The exchange with an application at an address. -/
def exchange (lib : CheckLibrary) (check : Json) (r : ProbeResult) (x : Exchange) : ProbeResult :=
  match x.status with
  | .error fault => { r with errorCode := some fault.code }
  | .ok status =>
    match x.body with
    | .error fault => { r with httpStatus := some status, errorCode := some fault.code }
    | .ok body => judgeBody lib check { r with httpStatus := some status } status body

/-- The attempt of a check, once its target is valid. -/
def attemptCheck (lib : CheckLibrary) (target : Json) (r : ProbeResult) (x : Exchange) :
    Except Raised ProbeResult :=
  match x.addresses with
  | .error fault => pure { r with errorCode := some fault.code }
  | .ok addresses => do
    let found ← addresses.mapM lib.ipAddress
    let expected ← lib.ipAddress (target.get "cluster_ip")
    -- The name has to resolve to the registered address and to no other.
    if found = [] ∨ ∃ a ∈ found, a.text ≠ expected.text then
      pure { r with errorCode := some "SERVICE_DNS_MISMATCH" }
    else pure (exchange lib (target.get "check") r x)

/-- `perform_check`. -/
def performCheck (lib : CheckLibrary) (target : Json) (requestId : String) (x : Exchange) :
    Except Raised ProbeResult := do
  let target ← validateTarget lib target
  let r ← attemptCheck lib target (resultBase target requestId x.checkedAt) x
  pure { r with elapsedMs := x.elapsedMs }

/-- What the application answered when a check passes: the expected status, and a body within
the bound that is a JSON object with each expected member, of the expected type. -/
structure Answered (lib : CheckLibrary) (check : Json) (x : Exchange) : Prop where
  expected_status : ∃ status, x.status = .ok status ∧ check.get "expected_status" = .num status
  body : ∃ body document, x.body = .ok body ∧
    body.length ≤ (check.get "max_response_bytes").toInt ∧
    decodeJson lib body = some document ∧ document.isDict = true ∧
    ∀ e ∈ (check.get "expected_json_subset").members,
      ∃ v, document.get? e.1 = some v ∧ v.equals e.2 = true

theorem judgeBody_passed {lib : CheckLibrary} {check : Json} {r : ProbeResult} {x : Exchange}
    {status : Int} {body : List UInt8} (hr : r.status = "unknown") (hstatus : x.status = .ok status)
    (hbody : x.body = .ok body) (h : (judgeBody lib check r status body).status = "passed") :
    Answered lib check x := by
  have hlength : (check.get "max_response_bytes").toInt.toNat + 1 < body.length + 1 →
      (check.get "max_response_bytes").toInt <
        ((body.take ((check.get "max_response_bytes").toInt.toNat + 1)).length : Int) := by
    intro hlong
    rw [List.length_take]
    omega
  unfold judgeBody at h
  simp only at h
  split at h
  · simp [hr] at h
  · rename_i hsize
    have hwhole : body.length ≤ (check.get "max_response_bytes").toInt.toNat := by
      by_contra hlong
      exact hsize (hlength (by omega))
    have htake : body.take ((check.get "max_response_bytes").toInt.toNat + 1) = body :=
      List.take_of_length_le (by omega)
    rw [htake] at h hsize
    split at h
    · simp at h
    · rename_i hexpected
      split at h
      · simp at h
      · rename_i document hdecoded
        by_cases hfound : contentMatches (check.get "expected_json_subset").members document = true
        · rw [contentMatches, Bool.and_eq_true, List.all_eq_true] at hfound
          refine ⟨⟨status, hstatus, not_not.1 hexpected⟩, body, document, hbody, by omega, hdecoded,
            hfound.1, fun e he => ?_⟩
          have hmember := hfound.2 e he
          rw [Option.any_eq_true] at hmember
          exact hmember
        · simp [hfound] at h

theorem exchange_passed {lib : CheckLibrary} {check : Json} {r : ProbeResult} {x : Exchange}
    (hr : r.status = "unknown") (h : (exchange lib check r x).status = "passed") :
    Answered lib check x := by
  unfold exchange at h
  split at h
  · simp [hr] at h
  · rename_i status hstatus
    split at h
    · simp [hr] at h
    · rename_i body hbody
      exact judgeBody_passed (by exact hr) hstatus hbody h

/-- Whatever comes of an exchange, its result is about the target and the request. -/
theorem exchange_bound {lib : CheckLibrary} {check : Json} {r : ProbeResult} {x : Exchange} :
    (exchange lib check r x).target = r.target ∧
      (exchange lib check r x).requestId = r.requestId := by
  unfold exchange judgeBody
  split
  · exact ⟨rfl, rfl⟩
  · split
    · exact ⟨rfl, rfl⟩
    · simp only
      split
      · exact ⟨rfl, rfl⟩
      · split
        · exact ⟨rfl, rfl⟩
        · split <;> exact ⟨rfl, rfl⟩

/-- What an attempt says is about the target and the request, and it passes only when the
application answered what is expected. -/
theorem attemptCheck_spec {lib : CheckLibrary} {target : Json} {r r' : ProbeResult} {x : Exchange}
    (hr : r.status = "unknown") (h : attemptCheck lib target r x = .ok r') :
    r'.target = r.target ∧ r'.requestId = r.requestId ∧
      (r'.status = "passed" → Answered lib (target.get "check") x) := by
  unfold attemptCheck at h
  split at h
  · rw [← pure_eq_ok.1 h]
    exact ⟨rfl, rfl, fun hpassed => (by simp [hr] at hpassed)⟩
  · simp only [bind_eq_ok] at h
    obtain ⟨found, -, expected, -, h⟩ := h
    split at h
    · rw [← pure_eq_ok.1 h]
      exact ⟨rfl, rfl, fun hpassed => (by simp [hr] at hpassed)⟩
    · rw [← pure_eq_ok.1 h]
      exact ⟨exchange_bound.1, exchange_bound.2, exchange_passed hr⟩

/-- **What a check says is about its target and its request**, and when it says that the check
has passed, the application answered what the check of the target expects. -/
theorem performCheck_spec {lib : CheckLibrary} {target : Json} {requestId : String} {x : Exchange}
    {r : ProbeResult} (h : performCheck lib target requestId x = .ok r) :
    r.target = target ∧ r.requestId = requestId ∧
      (r.status = "passed" → Answered lib (target.get "check") x) := by
  simp only [performCheck, bind_eq_ok, pure_eq_ok] at h
  obtain ⟨target', hvalid, result, hresult, rfl⟩ := h
  obtain ⟨rfl, -, -⟩ := validateTarget_spec hvalid
  have hspec := attemptCheck_spec rfl hresult
  exact hspec

end IncidentAgent
