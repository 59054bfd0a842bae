import IncidentAgent.Policy.Remediation

/-!
# The verification of the resources after a repair

After a write the verifier polls the cluster until the object that was written is as the plan
wants it and the workload behind it is ready, or until its time is over. Each attempt reads the
cluster anew, and takes nothing from the evidence that the plan was made of.

The cluster is a world that answers each attempt (`PollWorld`); what an attempt makes of the
answers is `observeCluster`, and the attempts one after the other are `poll`.
-/

namespace IncidentAgent

/-- `VerificationStatus`. -/
inductive VerificationStatus
  | succeeded
  | failed
  | timeout
  | skipped
  deriving DecidableEq, Inhabited

/-- `VerificationCheck`. -/
structure VerificationCheck where
  name : String
  passed : Bool
  observed : Json
  expected : Json
  message : String
  deriving DecidableEq, Inhabited

/-- A state in which a repair has been executed. A plan or a result that is missing or invalid
is none. -/
structure RepairState extends RemediationState where
  /-- `state["remediation_plan"]`. -/
  remediationPlan : Option RemediationPlan
  /-- `state["action_result"]`. -/
  actionResult : Option ActionExecutionResult
  deriving DecidableEq, Inhabited

/-! ### What the cluster answers -/

/-- The `http_get` of a readiness probe. -/
structure HttpGet where
  path : Option String
  port : Option Port
  deriving DecidableEq, Inhabited

/-- A Deployment, as far as the verifier reads it. -/
structure ClusterDeployment where
  /-- The containers, with the `http_get` of their readiness probes. -/
  containers : List (String × Option HttpGet)
  generation : Option Int
  observedGeneration : Option Int
  replicas : Option Int
  updatedReplicas : Option Int
  availableReplicas : Option Int
  matchLabels : Labels
  deriving DecidableEq, Inhabited

/-- A failure of a call: whether it is an `ApiException`, and the text that is reported. -/
structure ReadFailure where
  api : Bool
  text : String
  deriving DecidableEq, Inhabited

/-- What the cluster answers in one attempt. -/
structure ClusterReads where
  /-- The selector of the Service. -/
  service : Except ReadFailure Labels
  deployment : Except ReadFailure ClusterDeployment
  /-- The types and the status of the conditions of each pod. -/
  pods : Except ReadFailure (List (List (String × String)))
  /-- `conditions.ready` of the endpoints of each slice. -/
  slices : Except ReadFailure (List (List (Option Bool)))

/-- The world of a verification: what each attempt reads, after which attempts the time is over,
and the clock. -/
structure PollWorld where
  reads : Nat → ClusterReads
  overdue : Nat → Bool
  startedAt : String
  finishedAt : String

/-! ### One attempt -/

/-- `VerificationObservation`. -/
structure VerificationObservation where
  checks : List VerificationCheck
  desiredReplicas : Option Int
  availableReplicas : Option Int
  readyPods : Option Int
  readyEndpoints : Option Int
  deriving DecidableEq, Inhabited

/-- `observation.succeeded`. -/
def VerificationObservation.succeeded (o : VerificationObservation) : Bool :=
  !o.checks.isEmpty && o.checks.all (·.passed)

/-- `_ready_endpoint_count`. -/
def readyEndpointCount (slices : List (List (Option Bool))) : Nat :=
  slices.flatten.countP fun ready => ready = some true

/-- `_pod_is_ready`. -/
def podIsReady (conditions : List (String × String)) : Bool :=
  conditions.any fun c => c.1 = "Ready" && c.2 = "True"

/-- `_deployment_probe`. -/
def deploymentProbe (deployment : ClusterDeployment) (containerName : String) :
    Option String × Option Port :=
  match deployment.containers.find? fun c => c.1 = containerName with
  | some (_, some get) => (get.path, get.port)
  | _ => (none, none)

/-- A check whose message depends on whether it has passed. -/
def checkOf (name : String) (passed : Bool) (observed expected : Json) (yes no : String) :
    VerificationCheck :=
  ⟨name, passed, observed, expected, if passed then yes else no⟩

/-- The check that an endpoint is ready. -/
def endpointsCheck (count : Nat) : VerificationCheck :=
  checkOf "ready_endpoints" (0 < count) (.num count) (.str "at least 1")
    "EndpointSlice contains a Ready endpoint." "EndpointSlice does not contain a Ready endpoint."

/-- The name of the requested Service, which has to be a text. -/
def requestedService (request : Json) : Except ReadFailure String :=
  match request.get "service_name" with
  | .str name =>
    if name = "" then .error ⟨false, "incident request does not contain service_name"⟩
    else .ok name
  | _ => .error ⟨false, "incident request does not contain service_name"⟩

/-- `_observe_selector`. -/
def observeSelector (request : Json) (plan : RemediationPlan) (reads : ClusterReads) :
    Except ReadFailure VerificationObservation := do
  let proposed := Labels.ofPairs plan.parameters.proposedSelector
  let current ← reads.service
  let _ ← requestedService request
  let slices ← reads.slices
  let endpoints := readyEndpointCount slices
  pure { checks := [
      checkOf "service_selector" (current = proposed) (textMap current) (textMap proposed)
        "Service selector matches the approved target."
        "Service selector has not reached the approved target.",
      endpointsCheck endpoints]
         desiredReplicas := none
         availableReplicas := none
         readyPods := none
         readyEndpoints := some endpoints }

/-- The pods of a Deployment that are ready: none when it has no selector. -/
def readyPodsOf (deployment : ClusterDeployment) (reads : ClusterReads) : Except ReadFailure Nat :=
  if deployment.matchLabels.entries = [] then .ok 0
  else do
    let pods ← reads.pods
    pure (pods.countP podIsReady)

/-- The checks of a Deployment whose readiness probe was patched. -/
def readinessChecks (p : RemediationParameters) (deployment : ClusterDeployment)
    (readyPods endpoints : Nat) : List VerificationCheck :=
  let observed := deploymentProbe deployment (p.containerName.getD "")
  let shown (path : Option String) (port : Option Port) : Json :=
    .obj [("path", textOr path), ("port", portOr port)]
  let generation := deployment.generation.getD 0
  let observedGeneration := deployment.observedGeneration.getD 0
  let desired := deployment.replicas.getD 0
  let updated := deployment.updatedReplicas.getD 0
  let available := deployment.availableReplicas.getD 0
  [checkOf "readiness_probe" (observed = (p.proposedProbePath, p.proposedProbePort))
      (shown observed.1 observed.2) (shown p.proposedProbePath p.proposedProbePort)
      "Deployment readiness probe matches the approved target."
      "Deployment readiness probe does not match the target.",
    checkOf "deployment_observed_generation" (generation ≤ observedGeneration)
      (.num observedGeneration) (.str ("at least " ++ toString generation))
      "Deployment controller observed the latest generation."
      "Deployment controller has not observed the latest generation.",
    checkOf "updated_replicas" (0 < desired && desired ≤ updated) (.num updated) (.num desired)
      "All desired replicas were updated." "Deployment update is incomplete.",
    checkOf "available_replicas" (0 < desired && desired ≤ available) (.num available)
      (.num desired) "All desired replicas are available."
      "Deployment replicas are not fully available.",
    checkOf "ready_pods" (0 < desired && desired ≤ (readyPods : Int)) (.num readyPods)
      (.num desired) "All desired Pods are Ready." "Not all desired Pods are Ready.",
    endpointsCheck endpoints]

/-- `_observe_readiness`. -/
def observeReadiness (request : Json) (plan : RemediationPlan) (reads : ClusterReads) :
    Except ReadFailure VerificationObservation := do
  let p := plan.parameters
  raiseIf (p.containerName = none) ⟨false, "readiness verification requires container_name"⟩
  raiseIf (p.proposedProbePath = none)
    ⟨false, "readiness verification requires proposed_probe_path"⟩
  raiseIf (p.proposedProbePort = none)
    ⟨false, "readiness verification requires proposed_probe_port"⟩
  let deployment ← reads.deployment
  let readyPods ← readyPodsOf deployment reads
  let _ ← requestedService request
  let slices ← reads.slices
  let endpoints := readyEndpointCount slices
  pure { checks := readinessChecks p deployment readyPods endpoints
         desiredReplicas := some (deployment.replicas.getD 0)
         availableReplicas := some (deployment.availableReplicas.getD 0)
         readyPods := some readyPods
         readyEndpoints := some endpoints }

/-- `_observe`. -/
def observeCluster (request : Json) (plan : RemediationPlan) (reads : ClusterReads) :
    Except ReadFailure VerificationObservation :=
  match plan.action with
  | .patchServiceSelector => observeSelector request plan reads
  | .patchReadinessProbe => observeReadiness request plan reads
  | .manualInvestigation =>
    .error ⟨false, "action '" ++ plan.action.value ++ "' cannot be recovery-verified"⟩

/-! ### The attempts -/

/-- `RecoveryVerificationResult`, of the resources. -/
structure ResourceVerification where
  executionId : String
  action : RemediationActionName
  status : VerificationStatus
  startedAt : String
  finishedAt : String
  attempts : Nat
  checks : List VerificationCheck
  desiredReplicas : Option Int
  availableReplicas : Option Int
  readyPods : Option Int
  readyEndpoints : Option Int
  message : String
  errorCode : Option String
  errorMessage : Option String
  deriving DecidableEq, Inhabited

/-- A result without an observation. -/
def unobserved (world : PollWorld) (executionId : String) (action : RemediationActionName)
    (status : VerificationStatus) (message : String) (error : Option (String × String)) :
    ResourceVerification where
  executionId := executionId
  action := action
  status := status
  startedAt := world.startedAt
  finishedAt := world.finishedAt
  attempts := 0
  checks := []
  desiredReplicas := none
  availableReplicas := none
  readyPods := none
  readyEndpoints := none
  message := message
  errorCode := error.map (·.1)
  errorMessage := error.map (·.2)

/-- A result with what an attempt has observed. -/
def ResourceVerification.observed (r : ResourceVerification) (attempts : Nat)
    (o : VerificationObservation) : ResourceVerification :=
  { r with
    attempts := attempts
    checks := o.checks
    desiredReplicas := o.desiredReplicas
    availableReplicas := o.availableReplicas
    readyPods := o.readyPods
    readyEndpoints := o.readyEndpoints }

/-- The result when an attempt has failed, with the checks of the attempt before it. -/
def failedAttempt (world : PollWorld) (result : ActionExecutionResult) (attempts : Nat)
    (checks : List VerificationCheck) (failure : ReadFailure) : ResourceVerification :=
  { unobserved world result.executionId result.action .failed
      (if failure.api then "Kubernetes API recovery verification failed."
        else "Recovery verification raised an unexpected exception.")
      (some (if failure.api then "KUBERNETES_VERIFICATION_ERROR" else
        "RECOVERY_VERIFICATION_ERROR", failure.text)) with
    attempts := attempts
    checks := checks }

/-- The attempts from one on, where `checks` are those of the attempt before it. The number
bounds the attempts; a world in which the time is over ends them (`exists_poll`). -/
def poll (world : PollWorld) (request : Json) (plan : RemediationPlan)
    (result : ActionExecutionResult) :
    Nat → Nat → List VerificationCheck → Option ResourceVerification
  | 0, _, _ => none
  | fuel + 1, n, checks =>
    match observeCluster request plan (world.reads n) with
    | .error failure => some (failedAttempt world result (n + 1) checks failure)
    | .ok o =>
      if o.succeeded then
        some ((unobserved world result.executionId result.action .succeeded
          "Kubernetes recovery verification succeeded." none).observed (n + 1) o)
      else if world.overdue n then
        some ((unobserved world result.executionId result.action .timeout
          "Kubernetes recovery verification timed out."
          (some ("RECOVERY_VERIFICATION_TIMEOUT",
            "The approved resource change did not recover before the timeout."))).observed
              (n + 1) o)
      else poll world request plan result fuel (n + 1) o.checks

/-- `KubernetesRecoveryVerifier.verify`, in a number of attempts. -/
def verifyResources (world : PollWorld) (attempts : Nat) (state : RepairState) :
    Option ResourceVerification :=
  match state.actionResult, state.remediationPlan with
  | some result, some plan =>
    if result.action ≠ plan.action then
      some (unobserved world result.executionId result.action .failed
        "Execution result does not match the remediation plan."
        (some ("INVALID_VERIFICATION_STATE",
          "action_result.action does not match remediation_plan.action")))
    else if result.status ≠ .succeeded ∧ result.status ≠ .alreadyApplied then
      some (unobserved world result.executionId result.action .skipped
        "Recovery verification was skipped because execution did not complete." none)
    else poll world state.request plan result attempts 0 []
  | none, _ =>
    some (unobserved world "exec-0000000000000000" .manualInvestigation .failed
      "Recovery verification state is invalid."
      (some ("INVALID_VERIFICATION_STATE", "action_result is required")))
  | some _, none =>
    some (unobserved world "exec-0000000000000000" .manualInvestigation .failed
      "Recovery verification state is invalid."
      (some ("INVALID_VERIFICATION_STATE", "remediation_plan is required")))

/-! ### What the attempts find -/

/-- An attempt of a plan that executes nothing fails. -/
theorem executable_of_observeCluster {request : Json} {plan : RemediationPlan} {reads : ClusterReads}
    {o : VerificationObservation} (h : observeCluster request plan reads = .ok o) :
    plan.action.executable = true := by
  unfold observeCluster at h
  split at h
  · rename_i haction
    rw [haction]
    rfl
  · rename_i haction
    rw [haction]
    rfl
  · cases h

/-- Attempts that succeed have observed a plan that executes something, and all their checks
have passed. -/
theorem poll_succeeded {world : PollWorld} {request : Json} {plan : RemediationPlan}
    {result : ActionExecutionResult} {fuel n : Nat} {checks : List VerificationCheck}
    {r : ResourceVerification} (h : poll world request plan result fuel n checks = some r)
    (hstatus : r.status = .succeeded) :
    plan.action.executable = true ∧ r.action = result.action ∧
      ∀ check ∈ r.checks, check.passed = true := by
  induction fuel generalizing n checks with
  | zero => cases h
  | succ fuel ih =>
    unfold poll at h
    split at h
    · rw [← Option.some.inj h] at hstatus
      cases hstatus
    · rename_i o hobserve
      split at h
      · rename_i hsucceeded
        rw [← Option.some.inj h]
        refine ⟨executable_of_observeCluster hobserve, rfl, fun check hcheck => ?_⟩
        rw [VerificationObservation.succeeded, Bool.and_eq_true, List.all_eq_true] at hsucceeded
        exact hsucceeded.2 check hcheck
      · split at h
        · rw [← Option.some.inj h] at hstatus
          cases hstatus
        · exact ih h

/-- **A verification ends** when the time is over after some attempt. -/
theorem exists_poll (world : PollWorld) (request : Json) (plan : RemediationPlan)
    (result : ActionExecutionResult) {last : Nat} (h : world.overdue last = true) (n fuel : Nat)
    (hn : n ≤ last) (hfuel : last - n < fuel) (checks : List VerificationCheck) :
    ∃ r, poll world request plan result fuel n checks = some r := by
  induction fuel generalizing n checks with
  | zero => omega
  | succ fuel ih =>
    unfold poll
    split
    · exact ⟨_, rfl⟩
    · rename_i o hobserve
      split
      · exact ⟨_, rfl⟩
      · rcases Nat.lt_or_ge n last with hlt | hge
        · split
          · exact ⟨_, rfl⟩
          · exact ih (n + 1) (by omega) (by omega) o.checks
        · obtain rfl : n = last := by omega
          rw [if_pos h]
          exact ⟨_, rfl⟩

/-- What a successful verification of the resources says of the state. -/
theorem verifyResources_succeeded {world : PollWorld} {attempts : Nat} {state : RepairState}
    {r : ResourceVerification} (h : verifyResources world attempts state = some r)
    (hstatus : r.status = .succeeded) :
    ∃ result plan, state.actionResult = some result ∧ state.remediationPlan = some plan ∧
      result.action = plan.action ∧ plan.action.executable = true ∧
      ∀ check ∈ r.checks, check.passed = true := by
  unfold verifyResources at h
  split at h
  · rename_i result plan hresult hplan
    split at h
    · rw [← Option.some.inj h] at hstatus
      cases hstatus
    · rename_i haction
      split at h
      · rw [← Option.some.inj h] at hstatus
        cases hstatus
      · obtain ⟨hexec, -, hchecks⟩ := poll_succeeded h hstatus
        exact ⟨result, plan, hresult, hplan, not_not.1 haction, hexec, hchecks⟩
  · rw [← Option.some.inj h] at hstatus
    cases hstatus
  · rw [← Option.some.inj h] at hstatus
    cases hstatus

end IncidentAgent
