import Kuber.Runtime.AdapterEffects
import Kuber.Runtime.Observation

/-!
# The commands of the live adapter

The calls of the adapter with the mutating commands they issue, preparing the
sandbox included.  Without the record of commands, applying and restoring a
policy are the methods of the live environment.
-/

namespace Kuber.Runtime

open Kuber.Library Kuber.Rules Kuber.Agent

/-- The adapter, with what only its sandbox uses: the manifest is the file
that the adapter was created from. -/
structure SandboxAdapter where
  environment : KubernetesEnvironment
  deploymentName : String := "payment-service"
  initialManifest : String := "deploy/kind/reference-rbac.yaml"
  manifest : List Json

/-- The commands that change the cluster. -/
inductive AdapterCommand where
  | rbac (command : KubectlCommand)
  | deleteNamed (kind name : String)
  | applyManifest
  | restart

/-- Where an object is.  An object of a namespaced kind whose namespace is not
given is in the current namespace of the kubectl context. -/
inductive Placement where
  | cluster
  | inNamespace (name : String)
  | contextNamespace
deriving DecidableEq, Repr

def placementOf (key : ObjectKey) : Placement :=
  match key.kind, key.namespace with
  | .clusterRole, _ => .cluster
  | .clusterRoleBinding, _ => .cluster
  | _, some name => .inNamespace name
  | _, none => .contextNamespace

/-- The attributes of the adapter, and the mutating commands so far. -/
structure SandboxState where
  kubernetes : KubernetesState
  podName : Option String := none
  logLineCursor : Nat := 0
  issued : List AdapterCommand := []

namespace SandboxAdapter

variable (adapter : SandboxAdapter)

def account : ServiceAccountRef := adapter.environment.account

/-- The arguments of a command, and how long it may take. -/
def arguments : AdapterCommand → List String
  | .rbac command => command.arguments
  | .deleteNamed kind name =>
      ["delete", kind, name, "-n", adapter.account.namespace,
        "--ignore-not-found"]
  | .applyManifest => ["apply", "-f", adapter.initialManifest]
  | .restart =>
      ["rollout", "restart", "deployment/" ++ adapter.deploymentName, "-n",
        adapter.account.namespace]

/-- The objects that a command creates, changes or deletes. -/
def placements : AdapterCommand → List Placement
  | .rbac (.apply documents) =>
      match parseObjects documents with
      | .ok objects => objects.map fun object => placementOf (objectKey object)
      | .error _ => []
  | .rbac (.delete key) => [placementOf key]
  | .deleteNamed _ _ => [.inNamespace adapter.account.namespace]
  | .applyManifest =>
      match parseObjects adapter.manifest with
      | .ok objects => objects.map fun object => placementOf (objectKey object)
      | .error _ => []
  | .restart => [.inNamespace adapter.account.namespace]

def processText (arguments : List String) : String :=
  "Command '(" ++ ", ".intercalate
    ((["kubectl", "--context", adapter.environment.settings.context] ++
      arguments).map fun argument => "'" ++ argument ++ "'") ++ ")' "

/-- The exception of a process that ended this way. -/
def processResult (arguments : List String) (check : Bool) (timeout : Nat)
    (outcome : Outcome) : Except PyException Unit :=
  match outcome with
  | .works => .ok ()
  | .fails _ =>
      if check = true then
        .error ⟨.calledProcessError, adapter.processText arguments ++
          "returned non-zero exit status 1."⟩
      else .ok ()
  | .timesOut _ =>
      .error ⟨.other "TimeoutExpired", adapter.processText arguments ++
        "timed out after " ++ toString timeout ++ " seconds"⟩

/-- A process with this outcome and this effect on the RBAC objects. -/
def process (arguments : List String) (check : Bool) (timeout : Nat)
    (accepted : Bool) (effect : (ObjectKey → Bool) → Cluster → Cluster) :
    Raising PyException KubernetesState Unit :=
  fun state =>
    let outcome := match state.outcomes.head?.getD .works with
      | .works => if accepted = true then .works else .fails fun _ => false
      | other => other
    (adapter.processResult arguments check timeout outcome,
      { state with
        cluster := effect outcome.landed state.cluster
        outcomes := state.outcomes.tail })

/-- `_kubectl` of a mutating command. -/
def perform (command : AdapterCommand) (check : Bool) :
    Raising PyException KubernetesState Unit :=
  match command with
  | .rbac command => adapter.environment.kubectl command check
  | .applyManifest =>
      let manifest := KubectlCommand.apply adapter.manifest
      adapter.process (adapter.arguments .applyManifest) check 90
        manifest.accepted manifest.effect
  | other => adapter.process (adapter.arguments other) check 90 true
      fun _ cluster => cluster

/-- Perform a mutating command and record it. -/
def issue (command : AdapterCommand) (check : Bool) :
    Raising PyException SandboxState Unit :=
  fun state =>
    let ended := adapter.perform command check state.kubernetes
    (ended.1, { state with
      kubernetes := ended.2
      issued := state.issued ++ [command] })

/-- `_kubectl` of a command that changes nothing. -/
def inquire (arguments : List String) (check : Bool) (timeout : Nat) :
    Raising PyException SandboxState Unit :=
  fun state =>
    let ended := adapter.process arguments check timeout true
      (fun _ cluster => cluster) state.kubernetes
    (ended.1, { state with kubernetes := ended.2 })

def setKubernetes (change : KubernetesState → KubernetesState) :
    Raising PyException SandboxState Unit :=
  Raising.modify fun state =>
    { state with kubernetes := change state.kubernetes }

def applyCandidate (policy : Policy) : Raising PyException SandboxState Unit :=
  if policyToDocuments policy = [] then pure ()
  else adapter.issue
    (.rbac (.apply (KubernetesEnvironment.policyInput policy))) true

def applyPolicy (policy : Policy) : Raising PyException SandboxState Unit := do
  Raising.ofExcept (adapter.environment.validatePolicy policy)
  Raising.ofExcept adapter.environment.requireLive
  setKubernetes fun state =>
    { state with candidateDocuments := policyToDocuments policy }
  adapter.applyCandidate policy
  adapter.issue
    (.rbac (.delete adapter.environment.originalRoleBindingKey)) true
  adapter.issue
    (.rbac (.delete adapter.environment.originalClusterRoleBindingKey)) true
  setKubernetes fun state => { state with currentPolicy := policy }

def deleteEach : List Document → Raising PyException SandboxState Unit
  | [] => pure ()
  | document :: documents => do
      let key ← Raising.ofExcept (KubernetesEnvironment.deleteTarget document)
      adapter.issue (.rbac (.delete key)) false
      deleteEach documents

/-- `_delete_candidates`. -/
def deleteCandidates : Raising PyException SandboxState Unit := do
  let state ← Raising.get
  adapter.deleteEach state.kubernetes.candidateDocuments
  setKubernetes fun state => { state with candidateDocuments := [] }

def resetCurrentPolicy : Raising PyException SandboxState Unit :=
  setKubernetes fun state =>
    { state with currentPolicy := adapter.environment.originalPolicy }

def restorePolicy : Raising PyException SandboxState Unit :=
  if adapter.environment.dryRun = true then adapter.resetCurrentPolicy
  else do
    adapter.deleteCandidates
    adapter.issue (.rbac (.apply (KubernetesEnvironment.policyInput
      adapter.environment.originalPolicy))) true
    adapter.resetCurrentPolicy

/-- The names that Kuber generates in the sandbox, and the jobs and the lease
of the workload. -/
def knownResources : List AdapterCommand :=
  let account := adapter.account
  let role := account.name ++ "-kuber-" ++ account.namespace
  let clusterRole := account.name ++ "-kuber-cluster"
  [.rbac (.delete ⟨.roleBinding, some account.namespace, role ++ "-binding"⟩),
    .rbac (.delete ⟨.role, some account.namespace, role⟩),
    .rbac (.delete ⟨.clusterRoleBinding, none, clusterRole ++ "-binding"⟩),
    .rbac (.delete ⟨.clusterRole, none, clusterRole⟩),
    .deleteNamed "job" "kuber-warmup", .deleteNamed "job" "kuber-smoke",
    .deleteNamed "job" "kuber-worker-smoke",
    .deleteNamed "lease" adapter.deploymentName]

def issueAll : List AdapterCommand → Raising PyException SandboxState Unit
  | [] => pure ()
  | command :: commands => do
      adapter.issue command false
      issueAll commands

def requireSandbox : Except PyException Unit :=
  if adapter.environment.dryRun = true then
    .error ⟨.dryRunOnlyError,
      "live preparation requires the recognized sandbox"⟩
  else .ok ()

def rolloutStatus : List String :=
  ["rollout", "status", "deployment/" ++ adapter.deploymentName, "-n",
    adapter.account.namespace, "--timeout=120s"]

def newestPod : List String :=
  ["get", "pods", "-n", adapter.account.namespace, "-l",
    "app=" ++ adapter.deploymentName, "--field-selector=status.phase=Running",
    "--sort-by=.metadata.creationTimestamp", "-o",
    "jsonpath=\x7b.items[-1].metadata.name\x7d"]

/-- `prepare_sandbox`, when the newest pod has this name. -/
def prepareSandbox (pod : String) : Raising PyException SandboxState Unit := do
  Raising.ofExcept adapter.requireSandbox
  adapter.deleteCandidates
  adapter.issueAll adapter.knownResources
  adapter.issue .applyManifest true
  adapter.issue .restart true
  adapter.inquire adapter.rolloutStatus true 130
  adapter.inquire adapter.newestPod false 90
  Raising.modify fun state =>
    { state with podName := if pod = "" then none else some pod }
  adapter.resetCurrentPolicy
  Raising.modify fun state => { state with logLineCursor := 0 }

/-- `get_observed_usage`, from what `kubectl logs` answers. -/
def getObservedUsage (reader : TextReader)
    (readings : Except PyException (List CompletedProcess)) :
    Raising PyException SandboxState (List KubeEvent) := do
  let outputs ← Raising.ofExcept readings
  let observed := Runtime.getObservedUsage reader outputs
  Raising.modify fun state => { state with logLineCursor := observed.2 }
  return observed.1

/-- `verify_workload`, from a smoke run and what `kubectl logs` answers. -/
def verifyWorkload (reader : TextReader) (smoke : Except PyException
    CompletedProcess) (readings : Except PyException (List CompletedProcess)) :
    Raising PyException SandboxState VerificationResult := do
  let result ← Raising.ofExcept smoke
  let outputs ← Raising.ofExcept readings
  let state ← Raising.get
  let verified := Runtime.verifyWorkload reader state.logLineCursor result
    outputs
  Raising.modify fun state => { state with logLineCursor := verified.2 }
  return verified.1

end SandboxAdapter

end Kuber.Runtime
