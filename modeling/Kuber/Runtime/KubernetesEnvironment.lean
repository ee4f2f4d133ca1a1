import Kuber.Library.Raising
import Kuber.Runtime.GeneratedObjects

/-!
# The live Kubernetes environment

The adapter mutates the cluster through kubectl only.  A command ends in one
of three ways, and one that fails may have changed some of its objects all the
same.  A YAML text is represented by the documents it holds; the text of an
empty policy holds none.
-/

namespace Kuber.Runtime

open Kuber.Library Kuber.Rules

structure KubernetesSettings where
  context : String := "kind-kuber"
  «namespace» : String := "kuber-sandbox"
  serviceAccount : String := "payment-service-sa"
  workloadId : String := "payment-service"
  originalBindingName : String := "payment-service-overprivileged"
  dryRun : Option Bool := none
  allowUnsafeContext : Bool := false
  artifactDirectory : String := "artifacts/policies"

/-- The answers of the two commands that look for the sandbox, as far as they
ran. -/
structure SandboxProbe where
  currentContext : Option String
  sandboxLabel : Option String

/-- `_is_recognized_sandbox`. -/
def isRecognizedSandbox (settings : KubernetesSettings)
    (probe : SandboxProbe) : Bool :=
  decide (probe.currentContext = some settings.context ∧
    settings.context = "kind-kuber" ∧ probe.sandboxLabel = some "true")

/-- The attributes of an adapter that never change. -/
structure KubernetesEnvironment where
  settings : KubernetesSettings
  originalPolicy : Policy
  safe : Bool
  dryRun : Bool

/-- How a command ends, with the objects it has changed when it fails. -/
inductive Outcome where
  | works
  | fails (landed : ObjectKey → Bool)
  | timesOut (landed : ObjectKey → Bool)

def Outcome.landed : Outcome → ObjectKey → Bool
  | .works => fun _ => true
  | .fails landed => landed
  | .timesOut landed => landed

/-- The attributes that change, and the cluster with the outcomes of the
following commands; commands after these work. -/
structure KubernetesState where
  cluster : Cluster
  outcomes : List Outcome
  currentPolicy : Policy
  candidateDocuments : List Document

/-- The commands that change the cluster.  A deletion of a missing object
works. -/
inductive KubectlCommand where
  | apply (documents : List Json)
  | delete (key : ObjectKey)

def kindArgument : ObjectKind → String
  | .serviceAccount => "serviceaccount"
  | .role => "role"
  | .clusterRole => "clusterrole"
  | .roleBinding => "rolebinding"
  | .clusterRoleBinding => "clusterrolebinding"

namespace KubectlCommand

def arguments : KubectlCommand → List String
  | .apply _ => ["apply", "-f", "-"]
  | .delete key =>
      ["delete", kindArgument key.kind, key.name, "--ignore-not-found"] ++
        (key.namespace.elim [] fun scope => ["-n", scope])

/-- The change of the cluster, as far as it has landed. -/
def effect (landed : ObjectKey → Bool) (cluster : Cluster) :
    KubectlCommand → Cluster
  | .apply documents =>
      match parseObjects documents with
      | .ok objects =>
          cluster.applyAll (objects.filter fun object =>
            landed (objectKey object))
      | .error _ => cluster
  | .delete key => if landed key then cluster.remove key else cluster

/-- kubectl refuses a text without objects. -/
def accepted : KubectlCommand → Bool
  | .apply documents =>
      match parseObjects documents with
      | .ok objects => decide (objects ≠ [])
      | .error _ => false
  | .delete _ => true

end KubectlCommand

namespace KubernetesEnvironment

variable (environment : KubernetesEnvironment)

def account : ServiceAccountRef :=
  ⟨environment.settings.serviceAccount, environment.settings.namespace⟩

def commandText (command : KubectlCommand) : String :=
  "Command '(" ++ ", ".intercalate
    ((["kubectl", "--context", environment.settings.context] ++
      command.arguments).map fun argument => "'" ++ argument ++ "'") ++ ")' "

def exitError (command : KubectlCommand) : PyException :=
  ⟨.calledProcessError, environment.commandText command ++
    "returned non-zero exit status 1."⟩

def timeoutError (command : KubectlCommand) : PyException :=
  ⟨.other "TimeoutExpired", environment.commandText command ++
    "timed out after 90 seconds"⟩

/-- The exception of a command that ended this way. -/
def commandResult (command : KubectlCommand) (check : Bool) :
    Outcome → Except PyException Unit
  | .works =>
      if check = true ∧ command.accepted = false then
        .error (environment.exitError command)
      else .ok ()
  | .fails _ =>
      if check = true then .error (environment.exitError command) else .ok ()
  | .timesOut _ => .error (environment.timeoutError command)

/-- `_kubectl`. -/
def kubectl (command : KubectlCommand) (check : Bool) :
    Raising PyException KubernetesState Unit :=
  fun state =>
    let outcome := state.outcomes.head?.getD .works
    (environment.commandResult command check outcome,
      { state with
        cluster := command.effect outcome.landed state.cluster
        outcomes := state.outcomes.tail })

def refuseUnsafe (settings : KubernetesSettings) (safe dryRun : Bool) :
    Except PyException Unit :=
  if safe = false ∧ dryRun = false ∧ settings.allowUnsafeContext = false then
    .error ⟨.safetyError, "live mutation refused: context and sandbox " ++
      "namespace label were not both recognized"⟩
  else .ok ()

/-- The constructor, on the loaded documents of the initial manifest. -/
def create (settings : KubernetesSettings) (manifest : List Json)
    (probe : SandboxProbe) : Except PyException KubernetesEnvironment := do
  let parsed ← parseRbac manifest
  let safe := isRecognizedSandbox settings probe
  let dryRun := settings.dryRun.getD (!safe)
  refuseUnsafe settings safe dryRun
  return ⟨settings, resolveEffectivePolicy parsed
    ⟨settings.serviceAccount, settings.namespace⟩, safe, dryRun⟩

/-- A new instance in front of a cluster. -/
def opened (cluster : Cluster) (outcomes : List Outcome) : KubernetesState :=
  ⟨cluster, outcomes, environment.originalPolicy, []⟩

def name : String :=
  "kubernetes:" ++ environment.settings.context ++ "/" ++
    environment.settings.namespace ++ ":" ++ environment.settings.workloadId ++
    ":" ++ if environment.dryRun then "dry-run" else "live"

def getCurrentPolicy : Raising PyException KubernetesState Policy :=
  fun state => (.ok state.currentPolicy, state)

/-- The documents that a policy is applied as. -/
def policyInput (policy : Policy) : List Json :=
  (policyToDocuments policy).map .mapping

/-- The comparison of two policies by their sets of keys. -/
def sameKeys (left right : Policy) : Bool :=
  left.permissions.all (fun permission =>
      decide (permission.key ∈ right.permissions.map Permission.key)) &&
    right.permissions.all (fun permission =>
      decide (permission.key ∈ left.permissions.map Permission.key))

def requireSameKeys (validated policy : Policy) : Except PyException Unit :=
  if sameKeys validated policy = false then
    .error (.valueError
      "generated policy failed deterministic round-trip validation")
  else .ok ()

/-- Parse and resolve the generated text before it can reach kubectl. -/
def validatePolicy (policy : Policy) : Except PyException Unit := do
  let parsed ← parseRbac (policyInput policy)
  requireSameKeys (resolveEffectivePolicy parsed environment.account) policy

def requireLive : Except PyException Unit :=
  if environment.dryRun = true then
    .error ⟨.dryRunOnlyError, "proposal written to " ++
      environment.settings.artifactDirectory ++ "/" ++
      environment.settings.serviceAccount ++
      ".yaml; explicit approval is required outside the sandbox"⟩
  else .ok ()

def applyCandidate (policy : Policy) :
    Raising PyException KubernetesState Unit :=
  if policyToDocuments policy = [] then pure ()
  else environment.kubectl (.apply (policyInput policy)) true

/-- The binding by which the account was overprivileged, as either kind. -/
def originalRoleBindingKey : ObjectKey :=
  ⟨.roleBinding, some environment.settings.namespace,
    environment.settings.originalBindingName⟩

def originalClusterRoleBindingKey : ObjectKey :=
  ⟨.clusterRoleBinding, none, environment.settings.originalBindingName⟩

def applyPolicy (policy : Policy) :
    Raising PyException KubernetesState Unit := do
  Raising.ofExcept (environment.validatePolicy policy)
  Raising.ofExcept environment.requireLive
  Raising.modify fun state =>
    { state with candidateDocuments := policyToDocuments policy }
  environment.applyCandidate policy
  environment.kubectl (.delete environment.originalRoleBindingKey) true
  environment.kubectl (.delete environment.originalClusterRoleBindingKey) true
  Raising.modify fun state => { state with currentPolicy := policy }

/-- The object that a document names for deletion; an empty namespace is
left out. -/
def deleteTarget (document : Document) : Except PyException ObjectKey :=
  match document.field "metadata" with
  | .mapping metadata =>
      match document.field "kind", Document.field metadata "name" with
      | .string kind, .string name =>
          match ObjectKind.ofText? kind with
          | some kind =>
              let scope := (Document.field metadata "namespace").asText?
              .ok ⟨kind, scope.filter (fun text => decide (text ≠ "")), name⟩
          | none => .error (.keyError "kind")
      | _, _ => .error (.keyError "name")
  | _ => .error ⟨.assertionError, ""⟩

def deleteEach : List Document → Raising PyException KubernetesState Unit
  | [] => pure ()
  | document :: documents => do
      let key ← Raising.ofExcept (deleteTarget document)
      environment.kubectl (.delete key) false
      deleteEach documents

/-- `_delete_candidates`. -/
def deleteCandidates : Raising PyException KubernetesState Unit := do
  let state ← Raising.get
  environment.deleteEach state.candidateDocuments
  Raising.modify fun state => { state with candidateDocuments := [] }

def resetCurrentPolicy : Raising PyException KubernetesState Unit :=
  Raising.modify fun state =>
    { state with currentPolicy := environment.originalPolicy }

def restorePolicy : Raising PyException KubernetesState Unit :=
  if environment.dryRun = true then environment.resetCurrentPolicy
  else do
    environment.deleteCandidates
    environment.kubectl (.apply (policyInput environment.originalPolicy)) true
    environment.resetCurrentPolicy

end KubernetesEnvironment

end Kuber.Runtime
