import IncidentAgent.Executor.Authorization
import IncidentAgent.Investigation.Logs
import IncidentAgent.Lib.MergePatch

/-!
# The selector of a Service is patched

The remediation of a wrong selector is one merge patch (`patchServiceSelector`). It names
every label of the proposed selector, and removes the labels that the current one has beyond
them, so that nothing of the current selector is left. The patch is sent only if the Service
is the one that was approved and its selector is the one that was expected, and it carries the
version that was read: the API server refuses it when the Service has changed since.

With the answer comes a patch that undoes the change. It is made like the first one, with the
two selectors exchanged (`selectorBody`), so that one lemma is about both:
`serviceSelector_mergePatch` says that such a patch, applied to a Service with the old
selector, leaves the new one. The result is `patchServiceSelector_exact`.
-/

namespace IncidentAgent

/-- A failure of a call to the API server. -/
inductive ClientFailure
  /-- `ApiException`, with its status and its reason. -/
  | api (status : Option Int) (reason : Option String)
  /-- `TimeoutError`, with its text. -/
  | timeout (text : String)
  /-- Another exception, with its text. -/
  | other (text : String)
  deriving DecidableEq, Inhabited

/-- `ResourceMutationResult`. -/
structure ResourceMutationResult where
  status : ExecutionStatus
  beforeSnapshot : Option ResourceSnapshot
  afterSnapshot : Option ResourceSnapshot
  appliedPatch : Json
  rollbackPatch : Json
  message : String
  errorCode : Option String
  errorMessage : Option String
  deriving DecidableEq

/-- What a call of the tool does: its result, and the body of the `PATCH` that it sends, if it
sends one. -/
structure Mutation where
  result : ResourceMutationResult
  issued : Option Json
  deriving DecidableEq

/-- The calls of the client for Services, by namespace and name. -/
structure ServiceApi where
  /-- `read_namespaced_service`. -/
  read : (namespaceName name : String) → Except ClientFailure Json
  /-- `patch_namespaced_service`, with a merge patch. -/
  patch : (namespaceName name : String) → Json → Except ClientFailure Json

/-! ### The arguments -/

/-- `UnsafeRemediationTarget(message)`. -/
def unsafeTarget (message : String) : Raised := ⟨"UnsafeRemediationTarget", none, some message⟩

/-- `[a-z0-9]`. -/
def isNameChar (c : Char) : Bool := c.isLower || c.isDigit

/-- `KUBERNETES_NAME_PATTERN`. -/
def kubernetesName : Regex :=
  .seq (.char isNameChar)
    (Regex.optional (.seq (.star (.char fun c => c = '-' || isNameChar c)) (.char isNameChar)))

/-- `_validate_resource_name`. -/
def validateResourceName (value fieldName : String) : Except Raised String := do
  raiseIf ((fullmatch kubernetesName (strip value)).isNone)
    (unsafeTarget (fieldName ++ " is not a valid Kubernetes resource name"))
  pure (strip value)

/-- `_validate_namespace`. -/
def validateNamespace (namespaceName : String) : Except Raised String := do
  raiseIf (strip namespaceName ≠ safeNamespace)
    (unsafeTarget ("write operations are restricted to namespace '" ++ safeNamespace ++ "'"))
  pure (strip namespaceName)

/-- The value of a label, which has to be a text. -/
def labelText (fieldName : String) : Json → Except Raised String
  | .str text => .ok text
  | _ => .error (unsafeTarget (fieldName ++ " contains a non-string value"))

/-- The loop of `_validate_selector`. -/
def normalizeLabels (fieldName : String) : List (String × Json) → Labels → Except Raised Labels
  | [], normalized => .ok normalized
  | (key, value) :: rest, normalized => do
    let text ← labelText fieldName value
    raiseIf (strip key = "") (unsafeTarget (fieldName ++ " contains an empty key"))
    raiseIf (strip text = "") (unsafeTarget (fieldName ++ " contains an empty value"))
    normalizeLabels fieldName rest (normalized.set (strip key) (strip text))

/-- `_validate_selector`. -/
def validateSelector (selector : Json) (fieldName : String) (allowEmpty : Bool) :
    Except Raised Labels := do
  raiseIf (!selector.isObject) (unsafeTarget (fieldName ++ " must be a dictionary"))
  let normalized ← normalizeLabels fieldName selector.members SortedMap.empty
  raiseIf (!allowEmpty ∧ normalized.entries = [])
    (unsafeTarget (fieldName ++ " must not be empty"))
  pure normalized

/-! ### A Service -/

/-- `metadata.resource_version`, as it stands in the document. -/
def versionOf (service : Json) : Json := (service.get "metadata").get "resourceVersion"

/-- `_resource_version`. -/
def resourceVersion (service : Json) : Except String String :=
  match versionOf service with
  | .str version => if version = "" then
      .error "Kubernetes resource does not contain metadata.resourceVersion" else .ok version
  | _ => .error "Kubernetes resource does not contain metadata.resourceVersion"

/-- `getattr(service.metadata, "uid", None)`. -/
def serviceUid (service : Json) : Option String :=
  match (service.get "metadata").get "uid" with
  | .null => none
  | uid => some (shown uid)

/-- The labels that the members of an object are. Of two members of one name the first counts,
as it does when a member is read. -/
def labelsOf (members : List (String × Json)) : Labels :=
  members.foldr (fun m labels => labels.set m.1 (shown m.2)) SortedMap.empty

/-- `_service_selector`. -/
def serviceSelector (service : Json) : Labels :=
  labelsOf ((service.get "spec").get "selector").members

/-- `_service_snapshot`. The name is bounded by the model of a snapshot, whose complaint is a
parameter. -/
def serviceSnapshot (tooLong : String → String) (namespaceName serviceName : String)
    (service : Json) : Except String ResourceSnapshot := do
  let version ← resourceVersion service
  raiseIf (253 < serviceName.length) (tooLong serviceName)
  pure {
    uid := serviceUid service
    generation := none
    namespaceName := namespaceName
    resourceKind := .service
    resourceName := serviceName
    resourceVersion := version
    configuration := .selector (serviceSelector service) }

/-! ### Results -/

/-- `_failed_result`. -/
def failedResult (errorCode errorMessage : String) (before : Option ResourceSnapshot)
    (applied : Json) : ResourceMutationResult where
  status := .failed
  beforeSnapshot := before
  afterSnapshot := none
  appliedPatch := applied
  rollbackPatch := .obj []
  message := "Kubernetes remediation failed."
  errorCode := some errorCode
  errorMessage := some errorMessage

/-- `_conflict_result`. -/
def conflictResult (errorCode errorMessage : String) (before : Option ResourceSnapshot)
    (applied : Json) : ResourceMutationResult where
  status := .conflict
  beforeSnapshot := before
  afterSnapshot := none
  appliedPatch := applied
  rollbackPatch := .obj []
  message := "Kubernetes resource changed after the remediation plan was approved."
  errorCode := some errorCode
  errorMessage := some errorMessage

/-- `error_codes.get(status, "KUBERNETES_API_ERROR")`. -/
def apiErrorCode (status : Option Int) : String :=
  if status = some 403 then "KUBERNETES_FORBIDDEN"
  else if status = some 404 then "RESOURCE_NOT_FOUND"
  else "KUBERNETES_API_ERROR"

/-- The reason of an API error, or what stands for it. -/
def apiErrorReason (reason : Option String) : String :=
  match reason with
  | some text => if text = "" then "Kubernetes API request failed." else text
  | none => "Kubernetes API request failed."

/-- `_api_error_result` and `_unexpected_error_result`. -/
def errorResult (error : ClientFailure) (before : Option ResourceSnapshot) (applied : Json) :
    ResourceMutationResult :=
  match error with
  | .api status reason =>
    if status = some 409 then
      conflictResult "RESOURCE_VERSION_CONFLICT"
        "Kubernetes rejected the patch because resourceVersion changed." before applied
    else failedResult (apiErrorCode status) (apiErrorReason reason) before applied
  | .timeout text => failedResult "KUBERNETES_TIMEOUT" text before applied
  | .other text => failedResult "KUBERNETES_API_ERROR" text before applied

/-! ### The patch -/

/-- `{**{key: None for key in old if key not in new}, **new}`. -/
def selectorPatch (old new : Labels) : List (String × Json) :=
  ((old.entries.filter fun e => (new.entries.lookup e.1).isNone).map fun e => (e.1, Json.null)) ++
    new.entries.map fun e => (e.1, Json.str e.2)

/-- The body of a patch from one selector to another, at a version of the Service, and at a
`uid` if there is one. -/
def selectorBody (uid : Option String) (version : String) (old new : Labels) : Json :=
  .obj [
    ("metadata", .obj ((uid.elim [] fun uid => [("uid", .str uid)]) ++
      [("resourceVersion", .str version)])),
    ("spec", .obj [("selector", .obj (selectorPatch old new))])]

/-- The `PATCH` from the current selector to the proposed one, and what comes of it. -/
def issuePatch (tooLong : String → String) (api : ServiceApi)
    (namespaceName serviceName : String) (proposed : Labels) (expectedUid : Option String)
    (current : Labels) (before : ResourceSnapshot) : Mutation :=
  let body := selectorBody expectedUid before.resourceVersion current proposed
  match api.patch namespaceName serviceName body with
  | .error error => ⟨errorResult error (some before) body, some body⟩
  | .ok patched =>
    match serviceSnapshot tooLong namespaceName serviceName patched with
    | .error text =>
      ⟨failedResult "INVALID_KUBERNETES_RESPONSE" text (some before) body, some body⟩
    | .ok after => {
        result := {
          status := .succeeded
          beforeSnapshot := some before
          afterSnapshot := some after
          appliedPatch := body
          rollbackPatch := selectorBody none after.resourceVersion proposed current
          message := "Service selector was patched successfully."
          errorCode := none
          errorMessage := none }
        issued := some body }

/-- What is done with the Service that was read. -/
def patchRead (tooLong : String → String) (api : ServiceApi)
    (namespaceName serviceName : String) (expected proposed : Labels)
    (expectedUid : Option String) (service : Json) : Mutation :=
  match serviceSnapshot tooLong namespaceName serviceName service with
  | .error text => ⟨failedResult "INVALID_KUBERNETES_RESPONSE" text none (.obj []), none⟩
  | .ok before =>
    let current := serviceSelector service
    if expectedUid.isSome ∧ before.uid ≠ expectedUid then
      ⟨conflictResult "TARGET_UID_CHANGED" "Service was recreated after approval." (some before)
        (.obj []), none⟩
    else if current = proposed then {
        result := {
          status := .alreadyApplied
          beforeSnapshot := some before
          afterSnapshot := some before
          appliedPatch := .obj []
          rollbackPatch := .obj []
          message := "Service selector already matches the approved target."
          errorCode := none
          errorMessage := none }
        issued := none }
    else if current ≠ expected then
      ⟨conflictResult "CURRENT_CONFIGURATION_CONFLICT"
        "Current Service selector does not match the approved previous value." (some before)
        (.obj []), none⟩
    else issuePatch tooLong api namespaceName serviceName proposed expectedUid current before

/-- `patch_service_selector`. -/
def patchServiceSelector (tooLong : String → String) (api : ServiceApi)
    (namespaceName serviceName : String) (expectedSelector proposedSelector : Json)
    (expectedUid : Option String) : Except Raised Mutation := do
  let safeNamespaceName ← validateNamespace namespaceName
  let safeServiceName ← validateResourceName serviceName "service_name"
  let expected ← validateSelector expectedSelector "expected_selector" true
  let proposed ← validateSelector proposedSelector "proposed_selector" false
  match api.read safeNamespaceName safeServiceName with
  | .error error => pure ⟨errorResult error none (.obj []), none⟩
  | .ok service =>
    pure (patchRead tooLong api safeNamespaceName safeServiceName expected proposed expectedUid
      service)

/-! ### What such a patch makes of a selector -/

theorem lookup_labelsOf (members : List (String × Json)) (k : String) :
    (labelsOf members).entries.lookup k = (members.lookup k).map shown := by
  induction members with
  | nil => rfl
  | cons head rest ih =>
    obtain ⟨name, value⟩ := head
    have hset : (labelsOf ((name, value) :: rest)).entries =
        SortedMap.setEntry name (shown value) (labelsOf rest).entries := rfl
    rw [hset, SortedMap.lookup_setEntry (labelsOf rest).sorted, ih, Json.lookup_cons_ite]
    split <;> rfl

/-- A label of the patch: one of the new selector, or one that is removed. -/
theorem lookup_selectorPatch (old new : Labels) (k : String) :
    (selectorPatch old new).lookup k = ((new.entries.lookup k).map Json.str).or
      ((old.entries.lookup k).map fun _ => Json.null) := by
  rw [selectorPatch, Entries.lookup_append, Entries.lookup_map (fun _ => Json.null),
    Entries.lookup_map Json.str,
    Entries.lookup_filter_key (fun key => (new.entries.lookup key).isNone)]
  cases new.entries.lookup k with
  | none => simp
  | some text => rfl

theorem nodup_selectorPatch (old new : Labels) :
    ((selectorPatch old new).map Prod.fst).Nodup := by
  rw [selectorPatch, List.map_append, List.map_map, List.map_map, List.nodup_append]
  refine ⟨old.nodup_keys.sublist (List.filter_sublist.map _), new.nodup_keys, ?_⟩
  -- What is removed is not in the new selector.
  rintro removed hremoved kept hkept rfl
  obtain ⟨e, he, rfl⟩ := List.mem_map.1 hremoved
  have habsent := Option.isNone_iff_eq_none.1 (List.mem_filter.1 he).2
  exact Entries.lookup_eq_none_iff.1 habsent hkept

theorem plain_selectorPatch {old new : Labels} {m : String × Json}
    (h : m ∈ selectorPatch old new) : m.2.Plain := by
  rcases List.mem_append.1 h with h | h
  · obtain ⟨e, -, rfl⟩ := List.mem_map.1 h
    trivial
  · obtain ⟨e, -, rfl⟩ := List.mem_map.1 h
    trivial

/-- **The patch from the selector of a Service to a new one** leaves the new one: each label
that the Service had is replaced or removed. -/
theorem serviceSelector_mergePatch (uid : Option String) (version : String) (new : Labels)
    (service : Json) :
    serviceSelector ((selectorBody uid version (serviceSelector service) new).mergePatch service) =
      new := by
  set labels := selectorPatch (serviceSelector service) new with hlabels
  have hspec : ((selectorBody uid version (serviceSelector service) new).mergePatch service).get
      "spec" = Json.mergePatch (.obj [("selector", .obj labels)]) (service.get "spec") :=
    Json.get_mergePatch_of_obj (by simp) rfl service
  have hselector : (Json.mergePatch (.obj [("selector", .obj labels)]) (service.get "spec")).get
      "selector" = Json.mergePatch (.obj labels) ((service.get "spec").get "selector") :=
    Json.get_mergePatch_of_obj (by simp) rfl _
  refine SortedMap.ext_lookup fun k => ?_
  rw [serviceSelector, hspec, hselector, lookup_labelsOf, Json.lookup_members, hlabels,
    Json.get?_mergePatch_of_covers (nodup_selectorPatch _ _) fun m hm => plain_selectorPatch hm,
    lookup_selectorPatch]
  · cases new.entries.lookup k with
    | none => cases (serviceSelector service).entries.lookup k <;> simp
    | some text => simp [shown]
  · -- A label that the patch does not name is not one of the Service.
    intro hsilent
    rw [lookup_selectorPatch, Option.or_eq_none_iff, Option.map_eq_none_iff,
      Option.map_eq_none_iff, serviceSelector, lookup_labelsOf, Json.lookup_members,
      Option.map_eq_none_iff] at hsilent
    exact hsilent.2

/-! ### Selectors that are taken as given -/

/-- A selector whose keys and values have no white space around them and are not blank. -/
def Trimmed (labels : Labels) : Prop :=
  ∀ e ∈ labels.entries, (strip e.1 = e.1 ∧ e.1 ≠ "") ∧ strip e.2 = e.2 ∧ e.2 ≠ ""

theorem normalizeLabels_trimmed (fieldName : String) {entries : List (String × String)}
    (hkeys : (entries.map Prod.fst).Nodup)
    (htrimmed : ∀ e ∈ entries, (strip e.1 = e.1 ∧ e.1 ≠ "") ∧ strip e.2 = e.2 ∧ e.2 ≠ "")
    (normalized : Labels) :
    ∃ labels, normalizeLabels fieldName (entries.map fun e => (e.1, .str e.2)) normalized =
        .ok labels ∧
      ∀ k, labels.entries.lookup k = (entries.lookup k).or (normalized.entries.lookup k) := by
  induction entries generalizing normalized with
  | nil => exact ⟨normalized, rfl, fun k => rfl⟩
  | cons head rest ih =>
    obtain ⟨key, text⟩ := head
    obtain ⟨hkey, hrest⟩ := List.nodup_cons.1 hkeys
    obtain ⟨⟨hk, hkne⟩, ht, htne⟩ := htrimmed _ List.mem_cons_self
    obtain ⟨labels, hlabels, hlookup⟩ := ih hrest
      (fun e he => htrimmed e (List.mem_cons_of_mem _ he)) (normalized.set key text)
    refine ⟨labels, ?_, fun k => ?_⟩
    · rw [List.map_cons, normalizeLabels, labelText, ok_bind, hk, ht, raiseIf_of_not hkne,
        ok_bind, raiseIf_of_not htne, ok_bind, hlabels]
    · rw [hlookup, SortedMap.set, SortedMap.lookup_setEntry normalized.sorted, Entries.lookup_cons]
      by_cases he : k = key
      · rw [if_pos he, if_pos he, he, Entries.lookup_eq_none_iff.2 hkey, Option.none_or,
          Option.some_or]
      · rw [if_neg he, if_neg he]

/-- **A trimmed selector is taken as it is.** -/
theorem validateSelector_trimmed {labels : Labels} (h : Trimmed labels) (fieldName : String)
    {allowEmpty : Bool} (hempty : labels.entries = [] → allowEmpty = true) :
    validateSelector (textMap labels) fieldName allowEmpty = .ok labels := by
  obtain ⟨normalized, hnormalized, hlookup⟩ :=
    normalizeLabels_trimmed fieldName labels.nodup_keys h SortedMap.empty
  obtain rfl : normalized = labels := by
    refine SortedMap.ext_lookup fun k => (hlookup k).trans ?_
    exact Option.or_none
  have hmembers : (textMap normalized).members =
      normalized.entries.map fun e => (e.1, .str e.2) := rfl
  have hnotEmpty : ¬((!allowEmpty) = true ∧ normalized.entries = []) := by
    rintro ⟨hallow, hnil⟩
    rw [hempty hnil] at hallow
    cases hallow
  have hobject : ¬(!(textMap normalized).isObject) = true := by
    rw [textMap, Json.isObject]
    decide
  rw [validateSelector, raiseIf_of_not hobject, ok_bind, hmembers, hnormalized, ok_bind,
    raiseIf_of_not hnotEmpty]
  rfl

/-! ### The API server -/

/-- A document at a version of its own. -/
def atVersion (version : String) (v : Json) : Json :=
  v.insert "metadata" ((v.get "metadata").insert "resourceVersion" (.str version))

@[simp] theorem serviceSelector_atVersion (version : String) (service : Json) :
    serviceSelector (atVersion version service) = serviceSelector service := by
  have hspec : (atVersion version service).get "spec" = service.get "spec" := by
    cases service with
    | obj members =>
      rw [Json.get, atVersion, Json.get?_insert, if_neg (by decide), Json.get]
    | _ => rfl
  rw [serviceSelector, hspec, serviceSelector]

/-- **The API server applies merge patches at the given version**: a patch that it accepts at
the version that was read is a merge patch of what was read, and the answer has a version of its
own. -/
structure ServiceApi.AppliesPatches (api : ServiceApi) : Prop where
  applied : ∀ namespaceName name service body after, api.read namespaceName name = .ok service →
    api.patch namespaceName name body = .ok after → versionOf body = versionOf service →
    ∃ version, version ≠ "" ∧ after = atVersion version (body.mergePatch service)

/-! ### The patch and its rollback -/

variable {tooLong : String → String} {api : ServiceApi} {namespaceName serviceName : String}
  {expectedSelector proposedSelector : Json} {expectedUid : Option String}

/-- What a call that goes through has validated. -/
theorem validated_of_patched {m : Mutation}
    (h : patchServiceSelector tooLong api namespaceName serviceName expectedSelector
      proposedSelector expectedUid = .ok m) {service : Json}
    (hread : api.read safeNamespace (strip serviceName) = .ok service) :
    ∃ expected proposed, validateSelector expectedSelector "expected_selector" true = .ok expected ∧
      validateSelector proposedSelector "proposed_selector" false = .ok proposed ∧
      m = patchRead tooLong api safeNamespace (strip serviceName) expected proposed expectedUid
        service := by
  simp only [patchServiceSelector, validateNamespace, validateResourceName, bind_eq_ok,
    raiseIf_eq_ok, pure_eq_ok] at h
  obtain ⟨_, ⟨_, hnamespace, rfl⟩, _, ⟨_, -, rfl⟩, expected, hexpected, proposed, hproposed, h⟩ := h
  rw [not_not.1 hnamespace, hread] at h
  exact ⟨expected, proposed, hexpected, hproposed, (pure_eq_ok.1 h).symm⟩

/-- The patch is sent for a Service that is the expected one in each respect. -/
theorem patchRead_issued {expected proposed : Labels} {service body : Json} {name : String}
    (h : (patchRead tooLong api safeNamespace name expected proposed expectedUid service).issued =
      some body) :
    ∃ before, serviceSnapshot tooLong safeNamespace name service = .ok before ∧
      (∀ uid, expectedUid = some uid → serviceUid service = some uid) ∧
      serviceSelector service ≠ proposed ∧ serviceSelector service = expected ∧
      patchRead tooLong api safeNamespace name expected proposed expectedUid service =
        issuePatch tooLong api safeNamespace name proposed expectedUid (serviceSelector service)
          before := by
  unfold patchRead at h ⊢
  cases hbefore : serviceSnapshot tooLong safeNamespace name service with
  | error text =>
    rw [hbefore] at h
    cases h
  | ok before =>
    rw [hbefore] at h
    have huid : before.uid = serviceUid service := by
      simp only [serviceSnapshot, bind_eq_ok, pure_eq_ok] at hbefore
      obtain ⟨version, -, _, -, rfl⟩ := hbefore
      rfl
    simp only at h ⊢
    by_cases hsame : expectedUid.isSome ∧ before.uid ≠ expectedUid
    · rw [if_pos hsame] at h
      cases h
    rw [if_neg hsame] at h ⊢
    by_cases happlied : serviceSelector service = proposed
    · rw [if_pos happlied] at h
      cases h
    rw [if_neg happlied] at h ⊢
    by_cases hchanged : serviceSelector service ≠ expected
    · rw [if_pos hchanged] at h
      cases h
    rw [if_neg hchanged]
    refine ⟨before, rfl, fun uid he => ?_, happlied, not_not.1 hchanged, rfl⟩
    by_contra hne
    exact hsame ⟨by rw [he]; rfl, by rw [huid, he]; exact hne⟩

theorem versionOf_selectorBody (uid : Option String) (version : String) (old new : Labels) :
    versionOf (selectorBody uid version old new) = .str version := by
  cases uid <;> rfl

/-- The version of a Service that was patched. -/
theorem versionOf_patched (uid : Option String) (before version : String) (old new : Labels)
    (service : Json) : versionOf (atVersion version
      ((selectorBody uid before old new).mergePatch service)) = .str version := by
  have hmetadata : ∃ members, ((selectorBody uid before old new).mergePatch service).get
      "metadata" = .obj members :=
    ⟨_, (Json.get_mergePatch_of_obj (by simp) rfl service).trans (by rw [Json.mergePatch])⟩
  obtain ⟨members, hmembers⟩ := hmetadata
  rw [selectorBody, Json.mergePatch] at hmembers ⊢
  rw [versionOf, atVersion, Json.get, Json.get, Json.get?_insert, if_pos rfl, Option.getD_some,
    hmembers, Json.get?_insert, if_pos rfl, Option.getD_some]

/-- **A patch that is accepted** leaves the proposed selector, and succeeds with a patch back. -/
theorem issuePatch_accepted (hlaw : api.AppliesPatches) {name : String} {service after : Json}
    {before : ResourceSnapshot} {proposed : Labels}
    (hread : api.read safeNamespace name = .ok service)
    (hbefore : serviceSnapshot tooLong safeNamespace name service = .ok before)
    (hpatch : api.patch safeNamespace name (selectorBody expectedUid before.resourceVersion
      (serviceSelector service) proposed) = .ok after) :
    serviceSelector after = proposed ∧ ∃ version,
      (issuePatch tooLong api safeNamespace name proposed expectedUid (serviceSelector service)
        before).result.rollbackPatch =
          selectorBody none version proposed (serviceSelector service) ∧
      (issuePatch tooLong api safeNamespace name proposed expectedUid (serviceSelector service)
        before).result.status = .succeeded := by
  simp only [serviceSnapshot, bind_eq_ok, raiseIf_eq_ok, pure_eq_ok] at hbefore
  obtain ⟨read, hversion, _, hlength, rfl⟩ := hbefore
  have hsame : versionOf service = .str read := by
    unfold resourceVersion at hversion
    split at hversion
    · rename_i version hv
      split at hversion
      · cases hversion
      · rw [hv, Except.ok.inj hversion]
    · cases hversion
  obtain ⟨version, hne, rfl⟩ := hlaw.applied _ _ _ _ _ hread hpatch
    ((versionOf_selectorBody _ _ _ _).trans hsame.symm)
  have hafter : resourceVersion (atVersion version ((selectorBody expectedUid read
      (serviceSelector service) proposed).mergePatch service)) = .ok version := by
    rw [resourceVersion, versionOf_patched]
    exact if_neg hne
  refine ⟨by rw [serviceSelector_atVersion, serviceSelector_mergePatch], version, ?_⟩
  rw [issuePatch, hpatch]
  simp only [serviceSnapshot, hafter, ok_bind, raiseIf_of_not hlength]
  exact ⟨rfl, rfl⟩

/-- What `patch_service_selector` does to a selector, for all arguments. -/
structure PatchesExactly (tooLong : String → String) (api : ServiceApi)
    (namespaceName serviceName : String) (expectedSelector proposedSelector : Json)
    (expectedUid : Option String) : Prop where
  /-- When the `PATCH` is issued and accepted, the selector is the proposed one, and the rollback
  gives back the selector that was there, at whatever version the server then has. -/
  patched : ∀ m service body after proposed,
    patchServiceSelector tooLong api namespaceName serviceName expectedSelector proposedSelector
      expectedUid = .ok m → api.read safeNamespace (strip serviceName) = .ok service →
    m.issued = some body → api.patch safeNamespace (strip serviceName) body = .ok after →
    validateSelector proposedSelector "proposed_selector" false = .ok proposed →
      m.result.status = .succeeded ∧ serviceSelector after = proposed ∧
      ∀ version, serviceSelector (atVersion version (m.result.rollbackPatch.mergePatch after)) =
        serviceSelector service
  /-- No `PATCH` is issued for a Service with another `uid`. -/
  uidChanged : ∀ m service uid,
    patchServiceSelector tooLong api namespaceName serviceName expectedSelector proposedSelector
      expectedUid = .ok m → api.read safeNamespace (strip serviceName) = .ok service →
    expectedUid = some uid → serviceUid service ≠ some uid → m.issued = none
  /-- None is issued when the selector already is the proposed one. -/
  alreadyApplied : ∀ m service proposed,
    patchServiceSelector tooLong api namespaceName serviceName expectedSelector proposedSelector
      expectedUid = .ok m → api.read safeNamespace (strip serviceName) = .ok service →
    validateSelector proposedSelector "proposed_selector" false = .ok proposed →
    serviceSelector service = proposed → m.issued = none
  /-- None is issued when the selector is not the expected one. -/
  changed : ∀ m service expected,
    patchServiceSelector tooLong api namespaceName serviceName expectedSelector proposedSelector
      expectedUid = .ok m → api.read safeNamespace (strip serviceName) = .ok service →
    validateSelector expectedSelector "expected_selector" true = .ok expected →
    serviceSelector service ≠ expected → m.issued = none
  /-- Selectors whose keys and values are trimmed and not blank are taken as they are given, the
  expected one also when it is empty. -/
  asGiven : ∀ labels, Trimmed labels →
    validateSelector (textMap labels) "expected_selector" true = .ok labels ∧
    (labels.entries ≠ [] →
      validateSelector (textMap labels) "proposed_selector" false = .ok labels)

/-- **The patch of a selector and its rollback are inverse**, and no patch is sent for a Service
that is not the one that was approved. -/
theorem patchServiceSelector_exact (tooLong : String → String) {api : ServiceApi}
    (hlaw : api.AppliesPatches) (namespaceName serviceName : String)
    (expectedSelector proposedSelector : Json) (expectedUid : Option String) :
    PatchesExactly tooLong api namespaceName serviceName expectedSelector proposedSelector
      expectedUid where
  patched := by
    intro m service body after proposed hm hread hissued hpatch hproposed
    obtain ⟨expected, proposed', -, hproposed', rfl⟩ := validated_of_patched hm hread
    obtain rfl := Except.ok.inj (hproposed.symm.trans hproposed')
    obtain ⟨before, hbefore, -, -, -, hrun⟩ := patchRead_issued hissued
    have hbody : body = selectorBody expectedUid before.resourceVersion (serviceSelector service)
        proposed := by
      rw [hrun, issuePatch] at hissued
      repeat' split at hissued
      all_goals exact (Option.some.inj hissued).symm
    rw [hbody] at hpatch
    obtain ⟨hafter, version, hrollback, hstatus⟩ := issuePatch_accepted hlaw hread hbefore hpatch
    refine ⟨by rw [hrun, hstatus], hafter, fun final => ?_⟩
    rw [hrun, hrollback, serviceSelector_atVersion, ← hafter, serviceSelector_mergePatch]
  uidChanged := by
    intro m service uid hm hread huid hne
    obtain ⟨expected, proposed, -, -, rfl⟩ := validated_of_patched hm hread
    refine Option.eq_none_iff_forall_ne_some.2 fun body hissued => ?_
    obtain ⟨_, -, hsame, -⟩ := patchRead_issued hissued
    exact hne (hsame uid huid)
  alreadyApplied := by
    intro m service proposed hm hread hproposed happlied
    obtain ⟨expected, proposed', -, hproposed', rfl⟩ := validated_of_patched hm hread
    obtain rfl := Except.ok.inj (hproposed.symm.trans hproposed')
    refine Option.eq_none_iff_forall_ne_some.2 fun body hissued => ?_
    obtain ⟨_, -, -, hother, -⟩ := patchRead_issued hissued
    exact hother happlied
  changed := by
    intro m service expected hm hread hexpected hchanged
    obtain ⟨expected', proposed, hexpected', -, rfl⟩ := validated_of_patched hm hread
    obtain rfl := Except.ok.inj (hexpected.symm.trans hexpected')
    refine Option.eq_none_iff_forall_ne_some.2 fun body hissued => ?_
    obtain ⟨_, -, -, -, hsame, -⟩ := patchRead_issued hissued
    exact hchanged hsame
  asGiven := by
    intro labels htrimmed
    exact ⟨validateSelector_trimmed htrimmed _ fun _ => rfl,
      fun hne => validateSelector_trimmed htrimmed _ fun hnil => absurd hnil hne⟩

/-! ### A Service that is patched -/

/-- A server that keeps one Service. -/
def keptService (stored : Json) : ServiceApi where
  read _ _ := .ok stored
  patch _ _ body :=
    if versionOf body = versionOf stored then .ok (atVersion "2" (body.mergePatch stored))
    else .error (.api (some 409) (some "Conflict"))

theorem keptService_applies (stored : Json) : (keptService stored).AppliesPatches where
  applied := by
    intro namespaceName name service body after hread hpatch hversion
    obtain rfl := Except.ok.inj hread
    have haccepted : (keptService stored).patch namespaceName name body =
        .ok (atVersion "2" (body.mergePatch stored)) := if_pos hversion
    exact ⟨"2", by decide, Except.ok.inj (hpatch.symm.trans haccepted)⟩

/-- A Service with a label that the proposed selector does not have. -/
def ordersService : Json := .obj [
  ("metadata", .obj [("uid", .str "uid-1"), ("resourceVersion", .str "1")]),
  ("spec", .obj [("selector", .obj [("app", .str "orders"), ("track", .str "old")])])]

/-- The selector that it has. -/
def ordersSelector : Json := .obj [("app", .str "orders"), ("track", .str "old")]

/-- The selector that it should have. -/
def proposedOrdersSelector : Json := .obj [("app", .str "orders-api"), ("tier", .str "web")]

theorem patchServiceSelector_exact_orders :
    ((patchServiceSelector id (keptService ordersService) "agent-demo" "orders" ordersSelector
      proposedOrdersSelector (some "uid-1")).map fun m => (m.issued.isSome, m.result.status)) =
        .ok (true, .succeeded) ∧
    PatchesExactly id (keptService ordersService) "agent-demo" "orders" ordersSelector
      proposedOrdersSelector (some "uid-1") :=
  ⟨by decide +kernel, patchServiceSelector_exact id (keptService_applies ordersService) _ _ _ _ _⟩

end IncidentAgent
