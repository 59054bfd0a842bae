import IncidentAgent.Investigation.Cards

/-!
# What is hidden does not show

Two saved items that differ only in what their data keeps under the name of a credential or of an
execution detail are shown in the same way (`evidenceCard_of_alike`, `structuredBlock_of_alike`):
only the digests of the items differ.

Values that differ only so are those with the same `mask`, in which what is hidden is blanked. All
that the projections do with data respects it: they read members with other names, ask what kind
of value they have read, and clean the value before they measure it.
-/

namespace IncidentAgent

/-! ### Values that differ in what is hidden -/

/-- The names of members whose values are hidden. -/
def isHiddenKey (key : String) : Bool := isSensitiveKey key || isExecutionKey key

mutual

/-- A value in which what is hidden is blanked. -/
def mask : Json → Json
  | .arr items => .arr (maskItems items)
  | .obj members => .obj (maskMembers members)
  | v => v

def maskItems : List Json → List Json
  | [] => []
  | v :: rest => mask v :: maskItems rest

def maskMembers : List (String × Json) → List (String × Json)
  | [] => []
  | (k, v) :: rest => (k, if isHiddenKey k then .null else mask v) :: maskMembers rest

end

/-- Two values differ only in what is hidden. -/
def Alike (a b : Json) : Prop := mask a = mask b

mutual

/-- What is hidden is blanked once. -/
theorem mask_mask : ∀ v : Json, mask (mask v) = mask v
  | .null | .bool _ | .num _ | .str _ => rfl
  | .arr items => congrArg Json.arr (maskItems_maskItems items)
  | .obj members => congrArg Json.obj (maskMembers_maskMembers members)

theorem maskItems_maskItems : ∀ items : List Json, maskItems (maskItems items) = maskItems items
  | [] => rfl
  | v :: rest => by rw [maskItems, maskItems, mask_mask v, maskItems_maskItems rest]

theorem maskMembers_maskMembers : ∀ members : List (String × Json),
    maskMembers (maskMembers members) = maskMembers members
  | [] => rfl
  | (k, v) :: rest => by
    rw [maskMembers, maskMembers, maskMembers_maskMembers rest]
    split
    · rfl
    · rw [mask_mask v]

end

mutual

/-- **Cleaning removes what is hidden.** -/
theorem clean_mask (lib : TextLibrary) : ∀ v : Json, clean lib (mask v) = clean lib v
  | .null | .bool _ | .num _ | .str _ => rfl
  | .arr items => congrArg Json.arr (cleanItems_mask lib items)
  | .obj members => congrArg Json.obj (cleanMembers_mask lib members)

theorem cleanItems_mask (lib : TextLibrary) : ∀ items : List Json,
    redactItems lib.isAlnum (removeFromItems (maskItems items)) =
      redactItems lib.isAlnum (removeFromItems items)
  | [] => rfl
  | v :: rest => by
    have hv : redact lib.isAlnum (removeExecutionDetails (mask v)) =
        redact lib.isAlnum (removeExecutionDetails v) := clean_mask lib v
    rw [maskItems, removeFromItems, removeFromItems, redactItems, redactItems, hv,
      cleanItems_mask lib rest]

theorem cleanMembers_mask (lib : TextLibrary) : ∀ members : List (String × Json),
    redactMembers lib.isAlnum (removeFromMembers (maskMembers members)) =
      redactMembers lib.isAlnum (removeFromMembers members)
  | [] => rfl
  | (k, v) :: rest => by
    have hv : redact lib.isAlnum (removeExecutionDetails (mask v)) =
        redact lib.isAlnum (removeExecutionDetails v) := clean_mask lib v
    rw [maskMembers, removeFromMembers, removeFromMembers, redactMembers, redactMembers,
      cleanMembers_mask lib rest]
    cases hexecution : isExecutionKey k with
    | true => rfl
    | false =>
      cases hsensitive : isSensitiveKey k with
      | true => rfl
      | false =>
        rw [isHiddenKey, hexecution, hsensitive]
        exact congrArg (fun w => (k, w) :: _) hv

end

/-- Values that differ only in what is hidden are cleaned to the same value. -/
theorem Alike.clean_eq {a b : Json} (h : Alike a b) (lib : TextLibrary) :
    clean lib a = clean lib b := by
  rw [← clean_mask lib a, h, clean_mask lib b]

/-- A member of a masked value that is not hidden. -/
theorem get?_mask (v : Json) {key : String} (h : isHiddenKey key = false) :
    (mask v).get? key = (v.get? key).map mask := by
  cases v with
  | obj members =>
    show (maskMembers members).lookup key = (members.lookup key).map mask
    induction members with
    | nil => rfl
    | cons head rest ih =>
      obtain ⟨k, w⟩ := head
      rw [maskMembers, Json.lookup_cons_ite, Json.lookup_cons_ite, ih]
      split
      · rename_i hk
        rw [← hk, h]
        rfl
      · rfl
  | _ => rfl

theorem get_mask (v : Json) {key : String} (h : isHiddenKey key = false) :
    (mask v).get key = mask (v.get key) := by
  rw [Json.get, Json.get, get?_mask v h]
  cases v.get? key <;> rfl

theorem maskItems_eq_map (items : List Json) : maskItems items = items.map mask := by
  induction items with
  | nil => rfl
  | cons v rest ih => rw [maskItems, ih, List.map_cons]

theorem items_mask (v : Json) : (mask v).items = v.items.map mask := by
  cases v with
  | arr items => exact maskItems_eq_map items
  | _ => rfl

theorem isObject_mask (v : Json) : (mask v).isObject = v.isObject := by
  cases v <;> rfl

theorem isArray_mask (v : Json) : (mask v).isArray = v.isArray := by
  cases v <;> rfl

theorem truthy_mask (v : Json) : (mask v).truthy = v.truthy := by
  cases v with
  | arr items => cases items <;> rfl
  | obj members => cases members <;> rfl
  | _ => rfl

theorem isBoolOrNone_mask (v : Json) : isBoolOrNone (mask v) = isBoolOrNone v := by
  cases v <;> rfl

theorem isIntOrNone_mask (v : Json) : isIntOrNone (mask v) = isIntOrNone v := by
  cases v <;> rfl

theorem isCollection_mask (v : Json) : isCollection (mask v) = isCollection v := by
  cases v with
  | arr items =>
    show (maskItems items).all Json.isObject = items.all Json.isObject
    rw [maskItems_eq_map, List.all_map]
    exact congrArg items.all (funext isObject_mask)
  | _ => rfl

/-- A masked value without parts is the value. -/
theorem mask_eq_iff {v w : Json} (h : w.Plain) : mask v = w ↔ v = w := by
  cases v with
  | arr items =>
    constructor
    · rintro rfl
      exact h.elim
    · rintro rfl
      exact h.elim
  | obj members =>
    constructor
    · rintro rfl
      exact h.elim
    · rintro rfl
      exact h.elim
  | _ => rfl

/-! ### Projections -/

/-- The fields of a masked value are those of the value, masked. -/
theorem select_mask {names : List String} (hnames : ∀ name ∈ names, isHiddenKey name = false)
    (v : Json) : select names (mask v) = mask (select names v) := by
  rw [select, select, mask]
  congr 1
  induction names with
  | nil => rfl
  | cons name rest ih =>
    have hname := hnames name List.mem_cons_self
    have hrest := ih fun n hn => hnames n (List.mem_cons_of_mem _ hn)
    rw [List.filterMap_cons, List.filterMap_cons, get?_mask v hname]
    cases v.get? name with
    | none => exact hrest
    | some w =>
      show (name, mask w) :: rest.filterMap _ = maskMembers ((name, w) :: rest.filterMap _)
      rw [hrest, maskMembers, hname]
      rfl

/-- A condition that does not depend on what is hidden. -/
theorem fieldsAre_mask {condition : Json → Bool} (h : ∀ v, condition (mask v) = condition v)
    {names : List String} (hnames : ∀ name ∈ names, isHiddenKey name = false) (v : Json) :
    fieldsAre condition names (mask v) = fieldsAre condition names v := by
  rw [fieldsAre, fieldsAre, Bool.eq_iff_iff, List.all_eq_true, List.all_eq_true]
  refine forall₂_congr fun name hname => ?_
  rw [get?_mask v (hnames name hname)]
  cases v.get? name with
  | none => rfl
  | some w => exact (congrArg (· = true) (h w)).to_iff

/-- A projection with what is hidden in its fields blanked. -/
def Projection.mask (p : Projection) : Projection :=
  { p with fields := IncidentAgent.mask p.fields }

theorem parsedFields_mask (fields : Json) :
    parsedFields (mask fields) = (parsedFields fields).mask := by
  rw [parsedFields, parsedFields, truthy_mask]
  split <;> rfl

/-- A member with a name that is not hidden is masked after it was set as before. -/
theorem mask_insert (v : Json) {key : String} (h : isHiddenKey key = false) (w : Json) :
    mask (v.insert key w) = (mask v).insert key (mask w) := by
  cases v with
  | obj members =>
    show Json.obj (maskMembers (Json.insertMember key w members)) =
      .obj (Json.insertMember key (mask w) (maskMembers members))
    congr 1
    induction members with
    | nil =>
      simp only [Json.insertMember, maskMembers, h]
      rfl
    | cons head rest ih =>
      obtain ⟨k, u⟩ := head
      by_cases hk : key = k
      · subst hk
        simp only [Json.insertMember, if_pos, maskMembers, h]
        rfl
      · simp only [Json.insertMember, if_neg hk, maskMembers, ih]
  | _ => rfl

/-- The names of the fields of a kind are not hidden. -/
theorem fieldsOf_visible {kind : String} {names : List String} (h : fieldsOf kind = some names) :
    ∀ name ∈ names, isHiddenKey name = false := by
  unfold fieldsOf at h
  split at h <;> first | (obtain rfl := Option.some.inj h; decide) | cases h

/-- The known fields of masked data. -/
theorem projectFields_mask (kind : String) (data : Json) :
    projectFields kind (mask data) = (projectFields kind data).mask := by
  have hflags : ∀ name ∈ ["ready", "content_matches", "truncated"], isHiddenKey name = false := by
    decide
  have hcounts : ∀ name ∈ ["desired_replicas", "ready_replicas", "available_replicas",
      "unavailable_replicas", "http_status"], isHiddenKey name = false := by decide
  have hlists : ∀ name ∈ ["containers", "endpoints", "events", "conditions"],
      isHiddenKey name = false := by decide
  have hcontainer : ∀ name ∈ containerFields, isHiddenKey name = false := by decide
  have hcontainers : isHiddenKey "containers" = false := hlists _ List.mem_cons_self
  unfold projectFields
  cases hnames : fieldsOf kind with
  | none => rfl
  | some names =>
    simp only [select_mask (fieldsOf_visible hnames), fieldsAre_mask isBoolOrNone_mask hflags,
      fieldsAre_mask isIntOrNone_mask hcounts, fieldsAre_mask isCollection_mask hlists,
      get?_mask _ hcontainers]
    generalize select names data = fields
    split
    · rfl
    · split
      · rfl
      · split
        · rfl
        · cases hcontainers' : fields.get? "containers" with
          | none => exact parsedFields_mask fields
          | some containers =>
            have hselected : (mask containers).items.map (select containerFields) =
                (containers.items.map (select containerFields)).map mask := by
              rw [items_mask, List.map_map, List.map_map]
              exact List.map_congr_left fun c _ => select_mask hcontainer c
            simp only [Option.map_some]
            rw [hselected, ← maskItems_eq_map, ← mask, ← mask_insert _ hcontainers]
            exact parsedFields_mask _

/-- The name of a tool does not depend on what is hidden. -/
theorem projectPayload_tool (tool : Option Json) (payload : Json) :
    projectPayload (tool.map mask) payload = projectPayload tool payload := by
  have htool : ∀ name : String, tool.map mask = some (.str name) ↔ tool = some (.str name) := by
    intro name
    cases tool with
    | none => simp
    | some v =>
      rw [Option.map_some, Option.some_inj, Option.some_inj]
      exact mask_eq_iff (w := .str name) trivial
  simp only [projectPayload, htool]

/-- The fields of a masked payload. -/
theorem projectPayload_mask (tool : Option Json) (payload : Json) :
    projectPayload tool (mask payload) = (projectPayload tool payload).mask := by
  have hreplicas : ∀ name ∈ ["replicas", "ready_replicas"], isHiddenKey name = false := by
    decide
  have hendpoints : isHiddenKey "endpoints" = false := rfl
  have hevents : isHiddenKey "events" = false := rfl
  unfold projectPayload
  simp only [isArray_mask, isObject_mask, get_mask _ hendpoints, select_mask hreplicas,
    fieldsAre_mask isIntOrNone_mask hreplicas]
  split
  · have hfields : Json.obj [("events", mask payload)] = mask (.obj [("events", payload)]) := by
      simp only [mask, maskMembers, hevents]
      rfl
    rw [hfields, projectFields_mask]
  · split
    · have hfields : Json.obj [("endpoints", mask (payload.get "endpoints"))] =
          mask (.obj [("endpoints", payload.get "endpoints")]) := by
        simp only [mask, maskMembers, hendpoints]
        rfl
      rw [hfields, projectFields_mask]
    · split
      · split
        · rfl
        · exact parsedFields_mask _
      · rfl

/-- The fields of what a tool observed, of masked data. -/
theorem projectObservation_mask (lib : TextLibrary) (data : Json) (truncated : Bool) :
    (projectObservation lib (mask data) truncated).mask =
      (projectObservation lib data truncated).mask := by
  have hpayload : isHiddenKey "payload" = false := rfl
  have hcomplete : isHiddenKey "payload_complete" = false := rfl
  have htool : isHiddenKey "tool" = false := rfl
  have htext : isHiddenKey "text" = false := rfl
  have hidem (p : Projection) : p.mask.mask = p.mask :=
    congrArg (fun fields => { p with fields := fields }) (mask_mask p.fields)
  unfold projectObservation
  simp only [get_mask _ hpayload, get_mask _ hcomplete, get_mask _ htext, get?_mask _ htool,
    isObject_mask, isArray_mask, mask_eq_iff (w := .bool true) trivial, projectPayload_tool]
  split
  · rw [projectPayload_mask, hidem]
  · -- The text is not masked, and neither is what is read of it.
    cases truncated with
    | true => rfl
    | false => cases data.get "text" <;> rfl

/-- The fields of a saved log, of masked data. -/
theorem projectLog_mask (lib : TextLibrary) (data : Json) :
    projectLog lib (mask data) = projectLog lib data := by
  have hcontent : isHiddenKey "content" = false := rfl
  rw [projectLog, projectLog, get_mask _ hcontent]
  cases data.get "content" <;> rfl

/-- What is hidden in the fields of a projection is not shown. -/
theorem Projection.shown_mask (lib : TextLibrary) {kind : Json} (h : kind ≠ .str "PodLogs")
    (p : Projection) : p.mask.shown lib kind = p.shown lib kind := by
  rw [shown, shown, if_neg fun hlog => h hlog.1, if_neg fun hlog => h hlog.1]
  simp only [mask, clean_mask]

/-- What is shown of a projection of masked data. -/
theorem project_mask (lib : TextLibrary) (kind data : Json) (truncated : Bool) :
    (project lib kind (mask data) truncated).map (Projection.shown lib kind) =
      (project lib kind data truncated).map (Projection.shown lib kind) := by
  unfold project
  rw [isObject_mask]
  split
  · rfl
  · split
    · rw [projectLog_mask]
    · have hkind : Json.str "ToolObservation" ≠ .str "PodLogs" := by decide
      show Except.ok (Projection.shown lib _ (projectObservation lib (mask data) truncated)) = _
      rw [← Projection.shown_mask lib hkind, projectObservation_mask,
        Projection.shown_mask lib hkind]
      rfl
    · rename_i name hlog hobservation
      have hkind : Json.str name ≠ .str "PodLogs" := fun hname => hlog (Json.str.inj hname)
      rw [projectFields_mask]
      exact congrArg Except.ok (Projection.shown_mask lib hkind _)
    · rfl
    · rfl
    · rfl

/-- **What is shown of the fields of data does not depend on what is hidden in it.** -/
theorem project_alike (lib : TextLibrary) (kind : Json) {a b : Json} (h : Alike a b)
    (truncated : Bool) :
    (project lib kind a truncated).map (Projection.shown lib kind) =
      (project lib kind b truncated).map (Projection.shown lib kind) := by
  rw [← project_mask lib kind a, h, project_mask lib kind b]

/-! ### Items -/

/-- A saved item in which what is hidden in its data is blanked. -/
def maskItem : Json → Json
  | .obj members => .obj (members.map fun m => (m.1, if m.1 = "data" then mask m.2 else m.2))
  | v => mask v

/-- Two saved items differ only in what is hidden in their data. -/
def AlikeItems (a b : Json) : Prop := maskItem a = maskItem b

theorem isObject_maskItem (v : Json) : (maskItem v).isObject = v.isObject := by
  cases v <;> rfl

/-- A masked item is the item but for its data. -/
theorem get?_maskItem (v : Json) (key : String) :
    (maskItem v).get? key = if key = "data" then (v.get? key).map mask else v.get? key := by
  cases v with
  | obj members =>
    show (members.map fun m => (m.1, if m.1 = "data" then mask m.2 else m.2)).lookup key =
      if key = "data" then (members.lookup key).map mask else members.lookup key
    induction members with
    | nil => split <;> rfl
    | cons head rest ih =>
      obtain ⟨k, w⟩ := head
      rw [List.map_cons, Json.lookup_cons_ite, Json.lookup_cons_ite, ih]
      by_cases hk : key = k
      · subst hk
        rw [if_pos rfl, if_pos rfl]
        split <;> rfl
      · rw [if_neg hk, if_neg hk]
  | _ => exact (ite_self _).symm

theorem maskItem_asItem (v : Json) : maskItem (asItem v) = asItem (maskItem v) := by
  rw [asItem, asItem, isObject_maskItem]
  cases v <;> rfl

section

variable {a b : Json} (h : AlikeItems a b)

include h

theorem AlikeItems.asItem : AlikeItems (asItem a) (asItem b) := by
  rw [AlikeItems, maskItem_asItem, maskItem_asItem, h]

theorem AlikeItems.get (key : String) (hkey : key ≠ "data") : a.get key = b.get key := by
  have hmember := congrArg (Json.get? · key) h
  simp only [get?_maskItem, if_neg hkey] at hmember
  rw [Json.get, Json.get, hmember]

theorem AlikeItems.data : (a.get? "data").map mask = (b.get? "data").map mask := by
  have hmember := congrArg (Json.get? · "data") h
  simp only [get?_maskItem, if_pos] at hmember
  exact hmember

theorem AlikeItems.get_data : Alike (a.get "data") (b.get "data") := by
  have hdata := h.data
  rw [Json.get, Json.get]
  cases ha : a.get? "data" <;> cases hb : b.get? "data" <;> rw [ha, hb] at hdata
  · rfl
  · cases hdata
  · cases hdata
  · exact Option.some.inj hdata

end

theorem Alike.get {a b : Json} (h : Alike a b) (key : String) (hkey : isHiddenKey key = false) :
    Alike (a.get key) (b.get key) := by
  rw [Alike, ← get_mask a hkey, h, get_mask b hkey]

theorem Alike.truthy_eq {a b : Json} (h : Alike a b) : a.truthy = b.truthy := by
  rw [← truthy_mask a, h, truthy_mask b]

theorem Alike.mappingOf {a b : Json} (h : Alike a b) : Alike (mappingOf a) (mappingOf b) := by
  have hobject : a.isObject = b.isObject := by rw [← isObject_mask a, h, isObject_mask b]
  rw [IncidentAgent.mappingOf, IncidentAgent.mappingOf, hobject]
  split
  · exact h
  · rfl

theorem Alike.orElse (v : Json) {a b : Json} (h : Alike a b) : Alike (orElse v a) (orElse v b) := by
  rw [IncidentAgent.orElse, IncidentAgent.orElse]
  split
  · rfl
  · exact h

theorem isTruncated_alike {a b : Json} (h : AlikeItems a b) :
    isTruncated a (mappingOf (a.get "data")) = isTruncated b (mappingOf (b.get "data")) := by
  have htruncated := h.get_data.mappingOf.get "truncated" rfl
  have hiff : (mappingOf (a.get "data")).get "truncated" = .bool true ↔
      (mappingOf (b.get "data")).get "truncated" = .bool true := by
    rw [← mask_eq_iff (w := .bool true) trivial, htruncated, mask_eq_iff (w := .bool true) trivial]
  simp only [isTruncated, h.get "truncated" (by decide), hiff]

/-! ### Cards -/

/-- A card without the digest of its item. -/
def forgetDigest (card : Json) : Json :=
  card.insert "source_ref" ((card.get "source_ref").erase "record_digest")

/-- The cards of two items that differ only in what is hidden, with the same fields. -/
theorem cardOf_alike (lib : TextLibrary) {a b : Json} (h : AlikeItems a b) (recordPath : Json)
    (shown : Shown) : forgetDigest (cardOf lib a recordPath shown) =
      forgetDigest (cardOf lib b recordPath shown) := by
  have hdata := h.get_data
  have hmapping := hdata.mappingOf
  have herror : Alike (orElse (b.get "error") ((mappingOf (a.get "data")).get "error_code"))
      (orElse (b.get "error") ((mappingOf (b.get "data")).get "error_code")) :=
    (hmapping.get "error_code" rfl).orElse _
  have hsource : Alike (excerptSource (b.get "resource_type") (a.get "data"))
      (excerptSource (b.get "resource_type") (b.get "data")) := by
    unfold excerptSource
    split
    · exact hmapping.get "content" rfl
    · split
      · exact hmapping.get "text" rfl
      · exact hdata
  have hexcerpt : excerptText lib (excerptSource (b.get "resource_type") (a.get "data")) =
      excerptText lib (excerptSource (b.get "resource_type") (b.get "data")) := by
    rw [excerptText, excerptText, hsource.clean_eq lib]
  have hidentity : Alike (.obj [("resource_type", b.get "resource_type"),
      ("resource_name", b.get "resource_name"),
      ("namespace", (mappingOf (a.get "data")).get "namespace"),
      ("uid", (mappingOf (a.get "data")).get "uid"),
      ("container", (mappingOf (a.get "data")).get "container_name"),
      ("previous", (mappingOf (a.get "data")).get "previous")])
    (.obj [("resource_type", b.get "resource_type"),
      ("resource_name", b.get "resource_name"),
      ("namespace", (mappingOf (b.get "data")).get "namespace"),
      ("uid", (mappingOf (b.get "data")).get "uid"),
      ("container", (mappingOf (b.get "data")).get "container_name"),
      ("previous", (mappingOf (b.get "data")).get "previous")]) := by
    have hnamespace := hmapping.get "namespace" rfl
    have huid := hmapping.get "uid" rfl
    have hcontainer := hmapping.get "container_name" rfl
    have hprevious := hmapping.get "previous" rfl
    unfold Alike at *
    simp only [mask, maskMembers, hnamespace, huid, hcontainer, hprevious]
  simp only [cardOf, h.get "evidence_id" (by decide), h.get "request_id" (by decide),
    h.get "resource_type" (by decide), h.get "resource_name" (by decide),
    h.get "source" (by decide), h.get "collected_at" (by decide), h.get "error" (by decide),
    h.get "coverage" (by decide), isTruncated_alike h, hexcerpt, hidentity.clean_eq lib,
    herror.clean_eq lib, herror.truthy_eq]
  rfl

/-- **What is hidden does not show in a card**: two items that differ only in it have the same
card, but for the digest of the item, or raise the same. -/
theorem evidenceCard_of_alike (lib : TextLibrary) {a b : Json} (h : AlikeItems a b)
    (recordPath : Json) :
    (evidenceCard lib a recordPath).map forgetDigest =
      (evidenceCard lib b recordPath).map forgetDigest := by
  have hitem := h.asItem
  have hprojected := project_alike lib ((asItem b).get "resource_type") hitem.get_data
    (isTruncated (asItem b) (mappingOf ((asItem b).get "data")))
  unfold evidenceCard
  simp only
  rw [hitem.get "resource_type" (by decide), isTruncated_alike hitem]
  generalize project lib ((asItem b).get "resource_type") ((asItem a).get "data") _ = left at *
  generalize project lib ((asItem b).get "resource_type") ((asItem b).get "data") _ = right at *
  cases left with
  | error e =>
    cases right with
    | error e' => exact congrArg Except.error (Except.error.inj hprojected)
    | ok q => cases hprojected
  | ok p =>
    cases right with
    | error e' => cases hprojected
    | ok q =>
      have hshown : p.shown lib _ = q.shown lib _ := Except.ok.inj hprojected
      show Except.ok (forgetDigest (cardOf lib _ recordPath _)) = .ok _
      rw [cardOf_alike lib hitem, hshown]

/-! ### Blocks -/

/-- The data of a block does not depend on what is hidden. -/
theorem blockData_alike (lib : TextLibrary) {a b : Json} (h : AlikeItems a b) :
    blockData lib a = blockData lib b := by
  have hdata : Alike ((a.get? "data").getD (.obj [])) ((b.get? "data").getD (.obj [])) := by
    have hmember := h.data
    cases ha : a.get? "data" <;> cases hb : b.get? "data" <;> rw [ha, hb] at hmember
    · rfl
    · cases hmember
    · cases hmember
    · exact Option.some.inj hmember
  rw [blockData, blockData, hdata.clean_eq lib]

/-- The members of a cleaned value without one of them. -/
theorem erase_clean (lib : TextLibrary) (v : Json) (key : String) :
    (clean lib v).erase key = clean lib (v.erase key) := by
  cases v with
  | obj members =>
    show Json.obj ((redactMembers lib.isAlnum (removeFromMembers members)).filter _) =
      .obj (redactMembers lib.isAlnum (removeFromMembers (members.filter _)))
    congr 1
    induction members with
    | nil => rfl
    | cons head rest ih =>
      obtain ⟨k, w⟩ := head
      rw [removeFromMembers, redactMembers, List.filter_cons, List.filter_cons, ih]
      by_cases hk : k = key
      · simp only [hk, ne_eq, not_true_eq_false, decide_false, Bool.false_eq_true, if_false]
      · simp only [hk, ne_eq, not_false_eq_true, decide_true, if_true]
        rw [removeFromMembers, redactMembers]
  | _ => rfl

/-- A member that is removed does not matter. -/
theorem erase_middle (front back : List (String × Json)) (key : String) (v w : Json) :
    (Json.obj (front ++ (key, v) :: back)).erase key =
      (Json.obj (front ++ (key, w) :: back)).erase key := by
  simp [Json.erase, List.filter_append]

/-- **What is hidden does not show in a block**: two items that differ only in it have the same
block, but for the digest of the item, or raise the same. -/
theorem structuredBlock_of_alike (lib : TextLibrary) {a b : Json} (h : AlikeItems a b) :
    (structuredBlock lib a).map (Json.erase · "source_digest") =
      (structuredBlock lib b).map (Json.erase · "source_digest") := by
  have hobject : a.isObject = b.isObject := by
    rw [← isObject_maskItem a, h, isObject_maskItem b]
  have htruncated : isTruncated a (mappingOf (blockData lib b)) =
      isTruncated b (mappingOf (blockData lib b)) := by
    rw [isTruncated, isTruncated, h.get "truncated" (by decide)]
  have hheader (projection : Json) : blockHeader a (blockData lib b) projection =
      blockHeader b (blockData lib b) projection := by
    simp only [blockHeader, htruncated, h.get "evidence_id" (by decide),
      h.get "resource_type" (by decide), h.get "resource_name" (by decide),
      h.get "collected_at" (by decide), h.get "error" (by decide), h.get "coverage" (by decide)]
  rw [structuredBlock, structuredBlock, hobject]
  split
  · simp only [blockData_alike lib h, h.get "resource_type" (by decide), hheader, Except.map,
      erase_clean]
    rw [erase_middle]
  · rfl

/-! ### What is shown -/

/-- **Sensitive fields do not influence what is shown.** Of two saved items that differ only in
what is hidden in their data, whatever their kind, the cards differ at most in the digest of the
record, and so do the blocks. -/
theorem shown_of_alike (lib : TextLibrary) {a b : Json} (h : AlikeItems a b) :
    (∀ recordPath, (evidenceCard lib a recordPath).map forgetDigest =
      (evidenceCard lib b recordPath).map forgetDigest) ∧
    (structuredBlock lib a).map (Json.erase · "source_digest") =
      (structuredBlock lib b).map (Json.erase · "source_digest") :=
  ⟨evidenceCard_of_alike lib h, structuredBlock_of_alike lib h⟩

/-- A library for texts of few kinds of characters. -/
def plainTextLibrary : TextLibrary where
  isAlnum := Char.isAlphanum
  isDecimal := Char.isDigit
  hasZone text := some ("+00:00".toList.isSuffixOf text.toList)
  loads _ := none
  digest := Json.text

/-- An item about a Deployment with a credential and a command. -/
def secretItem (password command : Json) : Json :=
  .obj [("evidence_id", .str "ev-1"), ("resource_type", .str "Deployment"),
    ("resource_name", .str "web"), ("data", .obj [("name", .str "web"),
      ("template_labels", .obj [("Password", password)]),
      ("containers", .arr [.obj [("name", .str "web"), ("Command", command)]])])]

/-- Neither a credential nor a command shows, whatever its type and its length. -/
theorem shown_of_alike_password :
    (∀ recordPath,
      (evidenceCard plainTextLibrary (secretItem (.str "pw") (.str "run")) recordPath).map
        forgetDigest =
      (evidenceCard plainTextLibrary (secretItem .null (.arr [.num 1])) recordPath).map
        forgetDigest) ∧
    (structuredBlock plainTextLibrary (secretItem (.str "pw") (.str "run"))).map
        (Json.erase · "source_digest") =
      (structuredBlock plainTextLibrary (secretItem .null (.arr [.num 1]))).map
        (Json.erase · "source_digest") :=
  shown_of_alike plainTextLibrary (show maskItem _ = maskItem _ by decide +kernel)

end IncidentAgent
