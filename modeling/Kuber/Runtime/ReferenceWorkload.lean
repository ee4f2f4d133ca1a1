import Kuber.Library.Raising
import Kuber.Runtime.TrackedKubeClient

/-!
# The reference workload

The service that is optimized in the sandbox.  Its endpoints reach the
Kubernetes API through the tracked client only, so what a request prints
accounts for all of its calls.  A request stops at its first denied call and is
answered with the status of the denial; the calls whose refusal it tolerates
are never the denied ones.  What the API was asked for is known from a log that
the API keeps itself.
-/

namespace Kuber.Runtime

open Kuber.Library Kuber.Rules

/-- The functions of the Kubernetes client library that the workload calls.  A
lease is handed back as it was read. -/
structure KubernetesApi (σ lease : Type) where
  readNamespacedConfigMap :
    String → String → Raising OperationError σ (Option Document)
  readNamespacedSecret :
    String → String → Raising OperationError σ (Option Document)
  listNamespacedPod : String → Raising OperationError σ (List Json)
  createNamespacedJob : String → Document → Raising OperationError σ Unit
  readNamespacedJob : String → String → Raising OperationError σ Json
  deleteNamespacedJob : String → String → Raising OperationError σ Unit
  readNamespacedLease : String → String → Raising OperationError σ lease
  replaceNamespacedLease :
    String → String → lease → Raising OperationError σ Unit
  createNamespacedLease : String → Document → Raising OperationError σ lease

/-- What the API is asked for, and the reason for which it refused. -/
structure ApiOperation where
  apiGroup : String
  resource : String
  verb : String
  «namespace» : String
  resourceName : Option String
  denied : Option (Option String)

/-- An API that notes what it is asked for. -/
structure Watched (σ : Type) where
  api : σ
  operations : List ApiOperation

/-- The API behind a workload, and the objects that the workload has printed
so far. -/
structure Serving (σ : Type) where
  api : σ
  printed : List Document

variable {σ lease α β : Type}

def OperationError.status? : OperationError → Option Int
  | .apiException status _ => status
  | .other _ => none

def denialOf? : Except OperationError α → Option (Option String)
  | .error (.apiException status reason) =>
      if status = some 403 then some reason else none
  | _ => none

def watching (apiGroup resource verb «namespace» : String)
    (resourceName : Option String) (operation : Raising OperationError σ α) :
    Raising OperationError (Watched σ) α :=
  fun watched =>
    let (outcome, api) := operation watched.api
    (outcome, ⟨api, watched.operations ++ [⟨apiGroup, resource, verb,
      «namespace», resourceName, denialOf? outcome⟩]⟩)

/-- The name of the object that a request creates. -/
def createdName (body : Document) : String :=
  match body.field "metadata" with
  | .mapping metadata => (Document.field metadata "name").str
  | _ => ""

/-- The same API, noting what it is asked for whoever asks. -/
def KubernetesApi.watched (api : KubernetesApi σ lease) :
    KubernetesApi (Watched σ) lease where
  readNamespacedConfigMap name scope :=
    watching "" "configmaps" "get" scope name
      (api.readNamespacedConfigMap name scope)
  readNamespacedSecret name scope :=
    watching "" "secrets" "get" scope name
      (api.readNamespacedSecret name scope)
  listNamespacedPod scope :=
    watching "" "pods" "list" scope none (api.listNamespacedPod scope)
  createNamespacedJob scope body :=
    watching "batch" "jobs" "create" scope (createdName body)
      (api.createNamespacedJob scope body)
  readNamespacedJob name scope :=
    watching "batch" "jobs" "get" scope name (api.readNamespacedJob name scope)
  deleteNamespacedJob name scope :=
    watching "batch" "jobs" "delete" scope name
      (api.deleteNamespacedJob name scope)
  readNamespacedLease name scope :=
    watching "coordination.k8s.io" "leases" "get" scope name
      (api.readNamespacedLease name scope)
  replaceNamespacedLease name scope body :=
    watching "coordination.k8s.io" "leases" "update" scope name
      (api.replaceNamespacedLease name scope body)
  createNamespacedLease scope body :=
    watching "coordination.k8s.io" "leases" "create" scope (createdName body)
      (api.createNamespacedLease scope body)

/-- `_call`, with the operation. -/
def TrackedCall.tracked (call : TrackedCall)
    (operation : Raising OperationError σ α) :
    Raising OperationError (Serving σ) α :=
  fun serving =>
    let (outcome, api) := operation serving.api
    let (records, result) := TrackedKubeClient.call call.event outcome
    (result, ⟨api, serving.printed ++ records⟩)

/-- `try: body`, where an exception of the API with this status is left behind
for what follows. -/
def tolerating (status : Int) (body after : Raising OperationError σ α) :
    Raising OperationError σ α :=
  fun state =>
    match body state with
    | (.ok value, reached) => (.ok value, reached)
    | (.error error, reached) =>
        if error.status? = some status then after reached
        else (.error error, reached)

namespace TrackedKubeClient

variable (client : TrackedKubeClient) (api : KubernetesApi σ lease)

/-- A call on a named object, or on all objects of a kind. -/
def calling (apiGroup resource verb : String)
    (resourceName : Option String := none) : TrackedCall where
  client := client
  apiGroup := apiGroup
  resource := resource
  verb := verb
  resourceName := resourceName

def readConfigMap (name : String) :
    Raising OperationError (Serving σ) Document := do
  let value ← (client.calling "" "configmaps" "get" name).tracked
    (api.readNamespacedConfigMap name client.namespace)
  return value.getD []

def readSecret (name : String) :
    Raising OperationError (Serving σ) Document := do
  let value ← (client.calling "" "secrets" "get" name).tracked
    (api.readNamespacedSecret name client.namespace)
  return value.getD []

def listPods : Raising OperationError (Serving σ) (List Json) :=
  (client.calling "" "pods" "list").tracked
    (api.listNamespacedPod client.namespace)

def jobBody (name : String) : Document :=
  [("metadata", .mapping [("name", .string name)]),
    ("spec", .mapping
      [("template", .mapping
        [("metadata", .mapping [("labels", .mapping [("app", .string name)])]),
          ("spec", .mapping
            [("restart_policy", .string "Never"),
              ("containers", .list [.mapping
                [("name", .string "reconcile"),
                  ("image", .string "busybox:1.36"),
                  ("command", .list [.string "sh", .string "-c",
                    .string "echo reconciled"])]])])]),
        ("backoff_limit", .int 0)])]

/-- A job that is there already is left alone. -/
def createJob (name : String) : Raising OperationError (Serving σ) Unit :=
  tolerating 409
    ((client.calling "batch" "jobs" "create" name).tracked
      (api.createNamespacedJob client.namespace (jobBody name)))
    (pure ())

def getJob (name : String) :
    Raising OperationError (Serving σ) (Option String) := do
  let jobName ← (client.calling "batch" "jobs" "get" name).tracked
    (api.readNamespacedJob name client.namespace)
  return jobName.asText?

def deleteJob (name : String) : Raising OperationError (Serving σ) Unit :=
  (client.calling "batch" "jobs" "delete" name).tracked
    (api.deleteNamespacedJob name client.namespace)

def leaseBody (name : String) : Document :=
  [("metadata", .mapping [("name", .string name)]),
    ("spec", .mapping
      [("holder_identity", .string "kuber-reference-workload")])]

def updateLease (name : String) (body : lease) :
    Raising OperationError (Serving σ) Unit :=
  (client.calling "coordination.k8s.io" "leases" "update" name).tracked
    (api.replaceNamespacedLease name client.namespace body)

/-- A lease that is missing is created, and then renewed at once. -/
def renewLeaderLease (name : String) :
    Raising OperationError (Serving σ) String :=
  tolerating 404
    (do
      let body ← (client.calling "coordination.k8s.io" "leases" "get"
        name).tracked (api.readNamespacedLease name client.namespace)
      client.updateLease api name body
      return "updated")
    (do
      let body ← (client.calling "coordination.k8s.io" "leases" "create"
        name).tracked
          (api.createNamespacedLease client.namespace (leaseBody name))
      client.updateLease api name body
      return "created-and-renewed")

end TrackedKubeClient

/-- What a request ends in that is not answered normally. -/
inductive RequestError where
  | httpException (statusCode : Int) (detail : String)
  | other (error : PyException)

/-- `_forbidden`; what is not an exception of the API is not caught. -/
def forbidden : OperationError → RequestError
  | .apiException status reason =>
      .httpException
        (match status with
        | none => 500
        | some status => if status = 0 then 500 else status)
        (match reason with
        | none => "Kubernetes API failure"
        | some reason =>
            if reason = "" then "Kubernetes API failure" else reason)
  | .other error => .other error

/-- `except ApiException as exc: raise _forbidden(exc) from exc`. -/
def answering (body : Raising OperationError σ α) :
    Raising RequestError σ α :=
  fun state =>
    match body state with
    | (.ok value, reached) => (.ok value, reached)
    | (.error error, reached) => (.error (forbidden error), reached)

inductive Endpoint where
  | health
  | config
  | secret
  | pods
  | reconcile (name : String)
  | leaderElection
  | profile
  | rareWorkflow

/-- The module's settings. -/
structure ReferenceWorkload where
  «namespace» : String := "kuber-sandbox"
  serviceId : String := "payment-service"

namespace ReferenceWorkload

variable (workload : ReferenceWorkload) (api : KubernetesApi σ lease)

def kube : TrackedKubeClient :=
  ⟨workload.namespace, some workload.serviceId⟩

def config : Raising RequestError (Serving σ) Document :=
  answering do
    let data ← workload.kube.readConfigMap api "app-config"
    return [("data", .mapping data)]

/-- `sorted` of a dictionary. -/
def sortedKeys (data : Document) : Json :=
  .list ((sortBy id (data.map Prod.fst)).map .string)

def secret : Raising RequestError (Serving σ) Document :=
  answering do
    let data ← workload.kube.readSecret api "payment-secret"
    return [("keys", sortedKeys data)]

def pods : Raising RequestError (Serving σ) Document :=
  answering do
    let names ← workload.kube.listPods api
    return [("pods", .list names)]

def reconcile (name : String) : Raising RequestError (Serving σ) Document :=
  answering do
    workload.kube.createJob api name
    let found ← workload.kube.getJob api name
    workload.kube.deleteJob api name
    return [("job", .ofOptionText found), ("status", .string "reconciled")]

def leaderElection : Raising RequestError (Serving σ) Document :=
  answering do
    let status ← workload.kube.renewLeaderLease api "kuber-reference-leader"
    return [("status", .string status)]

/-- The profile of a service that reads its configuration only. -/
def configProfile : Raising RequestError (Serving σ) Document :=
  answering do
    let data ← workload.kube.readConfigMap api "app-config"
    return [("service", .string workload.serviceId),
      ("config", .mapping data)]

def profile : Raising RequestError (Serving σ) Document :=
  if workload.serviceId = "api-gateway" then workload.configProfile api
  else if workload.serviceId = "auth-service" then
    answering do
      let data ← workload.kube.readConfigMap api "app-config"
      let keys ← workload.kube.readSecret api "auth-secret"
      return [("service", .string workload.serviceId),
        ("config", .mapping data), ("secret_keys", sortedKeys keys)]
  else if workload.serviceId = "order-service" then
    workload.configProfile api
  else if workload.serviceId = "payment-service" then
    answering do
      let data ← workload.kube.readConfigMap api "app-config"
      let keys ← workload.kube.readSecret api "payment-secret"
      let names ← workload.kube.listPods api
      return [("service", .string workload.serviceId),
        ("config", .mapping data), ("secret_keys", sortedKeys keys),
        ("pods", .list names)]
  else if workload.serviceId = "worker-service" then
    workload.configProfile api
  else
    Raising.raise (.httpException 500
      ("unknown SERVICE_ID " ++ workload.serviceId))

def rareWorkflow : Raising RequestError (Serving σ) Document :=
  if workload.serviceId = "worker-service" then
    workload.reconcile api "kuber-worker-smoke"
  else
    Raising.raise (.httpException 404
      "rare workflow belongs to worker-service")

/-- The handler of an endpoint. -/
def handle : Endpoint → Raising RequestError (Serving σ) Document
  | .health => pure [("status", .string "ok")]
  | .config => workload.config api
  | .secret => workload.secret api
  | .pods => workload.pods api
  | .reconcile name => workload.reconcile api name
  | .leaderElection => workload.leaderElection api
  | .profile => workload.profile api
  | .rareWorkflow => workload.rareWorkflow api

end ReferenceWorkload

/-- The status that a request is answered with. -/
def statusOf : Except RequestError Document → Int
  | .ok _ => 200
  | .error (.httpException statusCode _) => statusCode
  | .error (.other _) => 500

/-- A call that was made, with the reason for which it was denied. -/
structure MadeCall where
  call : TrackedCall
  denied : Option (Option String)

/-- What is printed for a call. -/
def MadeCall.records (made : MadeCall) : List Document :=
  made.call.event :: made.denied.elim [] fun reason =>
    [TrackedKubeClient.denial made.call.event reason]

/-- What the API is asked for by a call. -/
def MadeCall.operation (made : MadeCall) : ApiOperation :=
  ⟨made.call.apiGroup, made.call.resource, made.call.verb,
    made.call.client.namespace, made.call.resourceName, made.denied⟩

def Undenied (calls : List MadeCall) : Prop :=
  ∀ made ∈ calls, made.denied = none

/-- The last call was denied, and no other. -/
def DeniedLast (calls : List MadeCall) : Prop :=
  ∃ earlier call reason, calls = earlier ++ [⟨call, some reason⟩] ∧
    Undenied earlier

/-- The calls of a part of a request that was or was not stopped by a
denial. -/
structure Closed (stopped : Prop) (calls : List MadeCall) : Prop where
  denied : stopped → DeniedLast calls
  undenied : ¬stopped → Undenied calls

/-- The calls that account for what is printed. -/
structure Accounts (client : TrackedKubeClient) (before after : Serving σ)
    (calls : List MadeCall) : Prop where
  printed : after.printed = before.printed ++ calls.flatMap MadeCall.records
  own : ∀ made ∈ calls, made.call.client = client

/-- They are moreover what the API was asked for. -/
structure Registers (client : TrackedKubeClient)
    (before after : Serving (Watched σ)) (calls : List MadeCall) : Prop extends
    Accounts client before after calls where
  logged : after.api.operations =
    before.api.operations ++ calls.map MadeCall.operation

section Accounting

open Raising

variable {client : TrackedKubeClient} {first second third : Serving σ}
  {calls more : List MadeCall} {stopped : Prop}

theorem Undenied.append (earlier : Undenied calls) (later : Undenied more) :
    Undenied (calls ++ more) := by
  intro made member
  exact (List.mem_append.mp member).elim (earlier made) (later made)

theorem Closed.after (closed : Closed stopped more)
    (earlier : Undenied calls) : Closed stopped (calls ++ more) where
  denied := by
    intro isStopped
    obtain ⟨before, call, reason, rfl, undenied⟩ := closed.denied isStopped
    exact ⟨calls ++ before, call, reason, (List.append_assoc _ _ _).symm,
      earlier.append undenied⟩
  undenied := fun goesOn => earlier.append (closed.undenied goesOn)

theorem Accounts.nothing (client : TrackedKubeClient) (serving : Serving σ) :
    Accounts client serving serving [] :=
  ⟨(List.append_nil _).symm, by simp⟩

theorem Accounts.trans (earlier : Accounts client first second calls)
    (later : Accounts client second third more) :
    Accounts client first third (calls ++ more) where
  printed := by
    rw [later.printed, earlier.printed, List.append_assoc,
      List.flatMap_append]
  own := by
    intro made member
    exact (List.mem_append.mp member).elim (earlier.own made) (later.own made)

theorem Registers.nothing (client : TrackedKubeClient)
    (serving : Serving (Watched σ)) : Registers client serving serving [] :=
  ⟨.nothing client serving, (List.append_nil _).symm⟩

theorem Registers.trans {first second third : Serving (Watched σ)}
    (earlier : Registers client first second calls)
    (later : Registers client second third more) :
    Registers client first third (calls ++ more) where
  toAccounts := earlier.toAccounts.trans later.toAccounts
  logged := by
    rw [later.logged, earlier.logged, List.append_assoc, List.map_append]

/-- The announcement of what the API is asked for. -/
def TrackedCall.watching (call : TrackedCall)
    (operation : Raising OperationError σ α) :
    Raising OperationError (Watched σ) α :=
  Kuber.Runtime.watching call.apiGroup call.resource call.verb
    call.client.namespace call.resourceName operation

theorem statusOf_forbidden (error : OperationError) :
    statusOf (.error (forbidden error)) = 403 ↔
      error.status? = some 403 := by
  cases error with
  | other error => simp [forbidden, statusOf, OperationError.status?]
  | apiException status reason =>
      cases status with
      | none => simp [forbidden, statusOf, OperationError.status?]
      | some status =>
          by_cases zero : status = 0
          · simp [forbidden, statusOf, OperationError.status?, zero]
          · simp [forbidden, statusOf, OperationError.status?, zero]

end Accounting

namespace ReferenceWorkload

open Raising

variable (workload : ReferenceWorkload) (api : KubernetesApi σ lease)

section Clients

variable {client : TrackedKubeClient} (name : String)

end Clients

/-- A request with its answer and what was printed for it. -/
structure AnsweredRequest where
  endpoint : Endpoint
  status : Int
  records : List Document

def answer (endpoint : Endpoint) (state : σ) : AnsweredRequest × σ :=
  let (result, reached) := workload.handle api endpoint ⟨state, []⟩
  (⟨endpoint, statusOf result, reached.printed⟩, reached.api)

/-- Requests that are answered one after another. -/
def answerAll : List Endpoint → σ → List AnsweredRequest × σ
  | [], state => ([], state)
  | endpoint :: endpoints, state =>
      let (answered, reached) := workload.answer api endpoint state
      let (later, last) := answerAll endpoints reached
      (answered :: later, last)

/-- The calls of an answered request. -/
structure AnsweredBy (client : TrackedKubeClient) (request : AnsweredRequest)
    (calls : List MadeCall) : Prop where
  records : request.records = calls.flatMap MadeCall.records
  own : ∀ made ∈ calls, made.call.client = client
  closed : Closed (request.status = 403) calls

end ReferenceWorkload

end Kuber.Runtime
