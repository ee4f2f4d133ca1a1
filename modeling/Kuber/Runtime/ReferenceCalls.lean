import Kuber.Rules.Authorization
import Kuber.Runtime.RequestLogs

/-!
# What the reference workload calls

Against an API that enforces a policy, a request makes the calls it needs, up
to the first one that the policy denies.  So the status of its answer tells
whether the policy authorizes all of them.
-/

namespace Kuber.Runtime

open Kuber.Library Kuber.Rules

variable {σ lease α β : Type}

/-- The API decides about a call by the policy: it denies the call, or does
it. -/
structure Decides (policy : Policy) (call : TrackedCall)
    (works : Except OperationError α × σ → Prop)
    (outcome : Except OperationError α × σ) : Prop where
  granted : isAuthorized policy call.kubeEvent = true → works outcome
  denied : isAuthorized policy call.kubeEvent = false →
    outcome.1 = .error (.apiException (some 403) (some "Forbidden"))

/-- An API that enforces the policy and has what the workload reads.  A job
that was created, or was there when it should be, is there to be read and
deleted. -/
structure Enforces (policy : Policy) (client : TrackedKubeClient)
    (present : String → σ → Prop) (api : KubernetesApi σ lease) : Prop where
  configMap : ∀ (name : String) state,
    Decides policy (client.calling "" "configmaps" "get" name)
      (fun outcome => ∃ value, outcome.1 = .ok value)
      (api.readNamespacedConfigMap name client.namespace state)
  secret : ∀ (name : String) state,
    Decides policy (client.calling "" "secrets" "get" name)
      (fun outcome => ∃ value, outcome.1 = .ok value)
      (api.readNamespacedSecret name client.namespace state)
  pods : ∀ state,
    Decides policy (client.calling "" "pods" "list")
      (fun outcome => ∃ value, outcome.1 = .ok value)
      (api.listNamespacedPod client.namespace state)
  createJob : ∀ (name : String) state,
    Decides policy (client.calling "batch" "jobs" "create" name)
      (fun outcome => present name outcome.2 ∧
        (outcome.1 = .ok () ∨
          ∃ reason, outcome.1 = .error (.apiException (some 409) reason)))
      (api.createNamespacedJob client.namespace
        (TrackedKubeClient.jobBody name) state)
  readJob : ∀ (name : String) state, present name state →
    Decides policy (client.calling "batch" "jobs" "get" name)
      (fun outcome => present name outcome.2 ∧
        ∃ value, outcome.1 = .ok value)
      (api.readNamespacedJob name client.namespace state)
  deleteJob : ∀ (name : String) state, present name state →
    Decides policy (client.calling "batch" "jobs" "delete" name)
      (fun outcome => outcome.1 = .ok ())
      (api.deleteNamespacedJob name client.namespace state)

section Performing

open Raising

variable {policy : Policy} {client : TrackedKubeClient}
  {required more : List TrackedCall} {pre mid post : σ → Prop}

/-- A call that was not denied. -/
def answered (call : TrackedCall) : MadeCall := ⟨call, none⟩

/-- A call that was denied. -/
def refused (call : TrackedCall) : MadeCall := ⟨call, some (some "Forbidden")⟩

def Authorizes (policy : Policy) (calls : List TrackedCall) : Prop :=
  ∀ call ∈ calls, isAuthorized policy call.kubeEvent = true

/-- The required calls were made up to the first one that the policy denies. -/
structure Refused (policy : Policy) (required : List TrackedCall)
    (calls : List MadeCall) : Prop where
  split : ∃ earlier call later, required = earlier ++ call :: later ∧
    Authorizes policy earlier ∧
    isAuthorized policy call.kubeEvent = false ∧
    calls = earlier.map answered ++ [refused call]

/-- The computation makes the required calls, up to the first denied one. -/
def Performs (policy : Policy) (client : TrackedKubeClient)
    (required : List TrackedCall) (pre post : σ → Prop)
    (body : Raising OperationError (Serving σ) α) : Prop :=
  ∀ serving, pre serving.api → Ends
    (fun _ reached => post reached.api ∧ Authorizes policy required ∧
      Accounts client serving reached (required.map answered))
    (fun error reached => error.status? = some 403 ∧
      ∃ calls, Refused policy required calls ∧
        Accounts client serving reached calls)
    (body serving)

theorem Authorizes.append (first : Authorizes policy required)
    (second : Authorizes policy more) :
    Authorizes policy (required ++ more) := by
  intro call member
  exact (List.mem_append.mp member).elim (first call) (second call)

theorem Refused.append {calls : List MadeCall}
    (refusal : Refused policy required calls) (more : List TrackedCall) :
    Refused policy (required ++ more) calls := by
  obtain ⟨earlier, call, later, rfl, authorized, denied, made⟩ := refusal.split
  exact ⟨earlier, call, later ++ more, by simp, authorized, denied, made⟩

theorem Refused.after {calls : List MadeCall}
    (refusal : Refused policy more calls)
    (authorized : Authorizes policy required) :
    Refused policy (required ++ more) (required.map answered ++ calls) := by
  obtain ⟨earlier, call, later, rfl, before, denied, rfl⟩ := refusal.split
  exact ⟨required ++ earlier, call, later, by simp, authorized.append before,
    denied, by simp⟩

theorem performs_pure (value : α) :
    Performs policy client [] pre pre
      (pure value : Raising OperationError (Serving σ) α) :=
  fun serving holds => ⟨holds, by simp [Authorizes],
    .nothing client serving⟩

theorem performs_bind {body : Raising OperationError (Serving σ) α}
    {next : α → Raising OperationError (Serving σ) β}
    (earlier : Performs policy client required pre mid body)
    (later : ∀ value, Performs policy client more mid post (next value)) :
    Performs policy client (required ++ more) pre post (body >>= next) := by
  intro serving holds
  apply ends_bind
  apply (earlier serving holds).imp
  · intro value middle ⟨between, authorized, accounts⟩
    apply (later value middle between).imp
    · intro _ reached ⟨after, moreAuthorized, moreAccounts⟩
      refine ⟨after, authorized.append moreAuthorized, ?_⟩
      rw [List.map_append]
      exact accounts.trans moreAccounts
    · intro error reached ⟨denied, calls, refusal, moreAccounts⟩
      exact ⟨denied, _, refusal.after authorized,
        accounts.trans moreAccounts⟩
  · intro error reached ⟨denied, calls, refusal, accounts⟩
    exact ⟨denied, calls, refusal.append more, accounts⟩

theorem performs_return {body : Raising OperationError (Serving σ) α}
    (performs : Performs policy client required pre post body)
    (value : α → β) :
    Performs policy client required pre post (do
      let found ← body
      return value found) := by
  have followed := performs_bind performs
    fun found => @performs_pure _ _ policy client post (value found)
  rw [List.append_nil] at followed
  exact followed

theorem accounts_made (serving : Serving σ) (api : σ) (made : MadeCall) :
    Accounts made.call.client serving
      ⟨api, serving.printed ++ made.records⟩ [made] := by
  refine ⟨by simp, fun other member => ?_⟩
  rw [List.mem_singleton.mp member]

theorem refused_only {call : TrackedCall}
    (denied : isAuthorized policy call.kubeEvent = false) :
    Refused policy [call] [refused call] :=
  ⟨[], call, [], rfl, by simp [Authorizes], denied, rfl⟩

theorem performs_tracked (call : TrackedCall)
    {operation : Raising OperationError σ α}
    (decides : ∀ state, pre state → Decides policy call
      (fun outcome => post outcome.2 ∧ ∃ value, outcome.1 = .ok value)
      (operation state)) :
    Performs policy call.client [call] pre post (call.tracked operation) := by
  intro serving holds
  have decided := decides serving.api holds
  cases run : operation serving.api with
  | mk outcome api =>
      rw [run] at decided
      simp only [TrackedCall.tracked, run]
      cases allowed : isAuthorized policy call.kubeEvent with
      | true =>
          obtain ⟨after, value, rfl⟩ := decided.granted allowed
          refine ⟨after, ?_, accounts_made serving api (answered call)⟩
          intro other member
          rw [List.mem_singleton.mp member]
          exact allowed
      | false =>
          obtain rfl : outcome = _ := decided.denied allowed
          exact ⟨rfl, _, refused_only allowed,
            accounts_made serving api (refused call)⟩

end Performing

namespace Enforces

open Raising

variable {policy : Policy} {client : TrackedKubeClient}
  {present : String → σ → Prop} {api : KubernetesApi σ lease}
  (enforces : Enforces policy client present api)

include enforces

theorem performs_readConfigMap (name : String) :
    Performs policy client [client.calling "" "configmaps" "get" name]
      (fun _ => True) (fun _ => True) (client.readConfigMap api name) := by
  refine performs_return (performs_tracked (client.calling _ _ _ _)
    fun state _ => ?_) _
  have decides := enforces.configMap name state
  exact ⟨fun allowed => ⟨trivial, decides.granted allowed⟩, decides.denied⟩

theorem performs_readSecret (name : String) :
    Performs policy client [client.calling "" "secrets" "get" name]
      (fun _ => True) (fun _ => True) (client.readSecret api name) := by
  refine performs_return (performs_tracked (client.calling _ _ _ _)
    fun state _ => ?_) _
  have decides := enforces.secret name state
  exact ⟨fun allowed => ⟨trivial, decides.granted allowed⟩, decides.denied⟩

theorem performs_listPods :
    Performs policy client [client.calling "" "pods" "list"]
      (fun _ => True) (fun _ => True) (client.listPods api) := by
  refine performs_tracked (client.calling _ _ _) fun state _ => ?_
  have decides := enforces.pods state
  exact ⟨fun allowed => ⟨trivial, decides.granted allowed⟩, decides.denied⟩

/-- The job is there afterwards, also when it was there before. -/
theorem performs_createJob (name : String) :
    Performs policy client [client.calling "batch" "jobs" "create" name]
      (fun _ => True) (present name) (client.createJob api name) := by
  intro serving _
  have decides := enforces.createJob name serving.api
  unfold TrackedKubeClient.createJob tolerating TrackedCall.tracked
  cases run : api.createNamespacedJob client.namespace
      (TrackedKubeClient.jobBody name) serving.api with
  | mk outcome reached =>
      rw [run] at decides
      have accounts : ∀ made : MadeCall, made.call.client = client →
          Accounts client serving ⟨reached, serving.printed ++ made.records⟩
            [made] :=
        fun made own => own ▸ accounts_made serving reached made
      cases allowed : isAuthorized policy
          (client.calling "batch" "jobs" "create" name).kubeEvent with
      | true =>
          have authorizes : Authorizes policy
              [client.calling "batch" "jobs" "create" name] := by
            intro other member
            rw [List.mem_singleton.mp member]
            exact allowed
          obtain ⟨isThere, rfl | ⟨reason, rfl⟩⟩ := decides.granted allowed
          · exact ⟨isThere, authorizes, accounts (answered _) rfl⟩
          · exact ⟨isThere, authorizes, accounts (answered _) rfl⟩
      | false =>
          obtain rfl : outcome = _ := decides.denied allowed
          exact ⟨rfl, _, refused_only allowed, accounts (refused _) rfl⟩

theorem performs_getJob (name : String) :
    Performs policy client [client.calling "batch" "jobs" "get" name]
      (present name) (present name) (client.getJob api name) :=
  performs_return (performs_tracked (client.calling _ _ _ _)
    (enforces.readJob name)) _

theorem performs_deleteJob (name : String) :
    Performs policy client [client.calling "batch" "jobs" "delete" name]
      (present name) (fun _ => True) (client.deleteJob api name) := by
  refine performs_tracked (client.calling _ _ _ _) fun state isThere => ?_
  have decides := enforces.deleteJob name state isThere
  exact ⟨fun allowed => ⟨trivial, (), decides.granted allowed⟩,
    decides.denied⟩

end Enforces

/-- The same of a request, by the status of its answer. -/
def Fulfils (policy : Policy) (client : TrackedKubeClient)
    (required : List TrackedCall)
    (body : Raising RequestError (Serving σ) Document) : Prop :=
  ∀ serving, ∃ calls, Accounts client serving (body serving).2 calls ∧
    (statusOf (body serving).1 = 200 ∧ Authorizes policy required ∧
        calls = required.map answered ∨
      statusOf (body serving).1 = 403 ∧ Refused policy required calls)

theorem fulfils_answering {policy : Policy} {client : TrackedKubeClient}
    {required : List TrackedCall} {post : σ → Prop}
    {body : Raising OperationError (Serving σ) Document}
    (performs : Performs policy client required (fun _ => True) post body) :
    Fulfils policy client required (answering body) := by
  intro serving
  have ended := performs serving trivial
  unfold answering
  cases run : body serving with
  | mk outcome reached =>
      rw [run] at ended
      cases outcome with
      | ok value =>
          obtain ⟨-, authorized, accounts⟩ := ended
          exact ⟨_, accounts, Or.inl ⟨rfl, authorized, rfl⟩⟩
      | error error =>
          obtain ⟨denied, calls, refusal, accounts⟩ := ended
          exact ⟨calls, accounts,
            Or.inr ⟨(statusOf_forbidden error).mpr denied, refusal⟩⟩

/-- The services that have a profile, and a port in the smoke script. -/
def profiledServices : List String :=
  ["api-gateway", "auth-service", "order-service", "payment-service",
    "worker-service"]

/-- `curl -f` fails from status 400 on. -/
def ReferenceWorkload.AnsweredRequest.passes
    (request : ReferenceWorkload.AnsweredRequest) : Bool :=
  decide (request.status < 400)

namespace ReferenceWorkload

section Calls

variable (workload : ReferenceWorkload)

/-- The calls of the profile, when all of them are authorized. -/
def profileCalls : List TrackedCall :=
  let configured := [workload.kube.calling "" "configmaps" "get" "app-config"]
  if workload.serviceId = "api-gateway" then configured
  else if workload.serviceId = "auth-service" then
    configured ++ [workload.kube.calling "" "secrets" "get" "auth-secret"]
  else if workload.serviceId = "order-service" then configured
  else if workload.serviceId = "payment-service" then
    configured ++
      [workload.kube.calling "" "secrets" "get" "payment-secret",
        workload.kube.calling "" "pods" "list"]
  else if workload.serviceId = "worker-service" then configured
  else []

def reconcileCalls (name : String) : List TrackedCall :=
  [workload.kube.calling "batch" "jobs" "create" name,
    workload.kube.calling "batch" "jobs" "get" name,
    workload.kube.calling "batch" "jobs" "delete" name]

/-- The calls of a test. -/
def testCalls : Endpoint → List TrackedCall
  | .profile => workload.profileCalls
  | .rareWorkflow => workload.reconcileCalls "kuber-worker-smoke"
  | _ => []

end Calls

variable {workload : ReferenceWorkload} {policy : Policy}
  {present : String → σ → Prop} {api : KubernetesApi σ lease}

theorem fulfils_health :
    Fulfils policy workload.kube [] (workload.handle api .health) :=
  fun serving => ⟨[], .nothing _ serving,
    Or.inl ⟨rfl, by simp [Authorizes], rfl⟩⟩

theorem fulfils_profile
    (enforces : Enforces policy workload.kube present api)
    (known : workload.serviceId ∈ profiledServices) :
    Fulfils policy workload.kube workload.profileCalls
      (workload.handle api .profile) := by
  have configured : Fulfils policy workload.kube
      [workload.kube.calling "" "configmaps" "get" "app-config"]
      (workload.configProfile api) :=
    fulfils_answering
      (performs_return (enforces.performs_readConfigMap _) _)
  simp only [profiledServices, List.mem_cons, List.not_mem_nil, or_false]
    at known
  simp only [handle, profile, profileCalls]
  split_ifs
  · exact configured
  · exact fulfils_answering (performs_bind
      (enforces.performs_readConfigMap _) fun data =>
        performs_return (enforces.performs_readSecret _) _)
  · exact configured
  · exact fulfils_answering (performs_bind
      (enforces.performs_readConfigMap _) fun data => performs_bind
        (enforces.performs_readSecret _) fun keys =>
          performs_return enforces.performs_listPods _)
  · exact configured
  · simp_all

theorem fulfils_rareWorkflow
    (enforces : Enforces policy workload.kube present api)
    (worker : workload.serviceId = "worker-service") :
    Fulfils policy workload.kube (workload.testCalls .rareWorkflow)
      (workload.handle api .rareWorkflow) := by
  simp only [handle, rareWorkflow, if_pos worker]
  exact fulfils_answering (performs_bind (enforces.performs_createJob _)
    fun _ => performs_bind (enforces.performs_getJob _) fun found =>
      performs_return (enforces.performs_deleteJob _) _)

/-- The first call that the policy denies. -/
def firstDenied (policy : Policy) (required : List TrackedCall) :
    Option TrackedCall :=
  required.find? fun call => !isAuthorized policy call.kubeEvent

/-- A request of a test, and the calls that were made for it. -/
structure Tested (policy : Policy) (client : TrackedKubeClient)
    (required : List TrackedCall) (request : AnsweredRequest)
    (calls : List MadeCall) : Prop extends
    AnsweredBy client request calls where
  among : ∀ made ∈ calls, ∃ call ∈ required,
    made = answered call ∨ made = refused call
  stopped : stoppedBy? calls = firstDenied policy required
  passes : request.passes = true ↔ Authorizes policy required

theorem tested_of_fulfils {required : List TrackedCall} {endpoint : Endpoint}
    (fulfils : Fulfils policy workload.kube required
      (workload.handle api endpoint)) (state : σ) :
    ∃ calls, Tested policy workload.kube required
      (workload.answer api endpoint state).1 calls := by
  obtain ⟨calls, accounts, ⟨status, authorized, rfl⟩ | ⟨status, refusal⟩⟩ :=
    fulfils ⟨state, []⟩
  · have undenied : Undenied (required.map answered) := by
      intro made member
      obtain ⟨call, -, rfl⟩ := List.mem_map.mp member
      rfl
    refine ⟨_, ⟨accounts.printed, accounts.own, ?_, fun _ => undenied⟩,
      ?_, ?_, ?_⟩
    · intro stopped
      exact absurd (status.symm.trans stopped) (by decide)
    · intro made member
      obtain ⟨call, isRequired, rfl⟩ := List.mem_map.mp member
      exact ⟨call, isRequired, Or.inl rfl⟩
    · rw [firstDenied, undenied.stoppedBy?, eq_comm, List.find?_eq_none]
      intro call member
      simp [authorized call member]
    · have passed : (workload.answer api endpoint state).1.passes = true :=
        decide_eq_true (status.trans_lt (by decide))
      exact ⟨fun _ => authorized, fun _ => passed⟩
  · obtain ⟨earlier, call, later, rfl, authorized, denied, rfl⟩ :=
      refusal.split
    have undenied : Undenied (earlier.map answered) := by
      intro made member
      obtain ⟨call, -, rfl⟩ := List.mem_map.mp member
      rfl
    refine ⟨_, ⟨accounts.printed, accounts.own, ?_, ?_⟩, ?_, ?_, ?_⟩
    · exact fun _ => ⟨_, call, some "Forbidden", rfl, undenied⟩
    · exact fun goesOn => absurd status goesOn
    · intro made member
      rcases List.mem_append.mp member with before | last
      · obtain ⟨other, isEarlier, rfl⟩ := List.mem_map.mp before
        exact ⟨other, List.mem_append_left _ isEarlier, Or.inl rfl⟩
      · exact ⟨call, by simp, Or.inr (List.mem_singleton.mp last)⟩
    · have passed : earlier.find? (fun call =>
          !isAuthorized policy call.kubeEvent) = none := by
        rw [List.find?_eq_none]
        intro call member
        simp [authorized call member]
      simp [stoppedBy?, refused, firstDenied, passed, denied]
    · constructor
      · intro passes
        have below := of_decide_eq_true passes
        exact absurd (status.symm.trans_lt below) (by decide)
      · intro all
        have allowed := all call (by simp)
        rw [denied] at allowed
        cases allowed

theorem answerAll_tested {endpoints : List Endpoint}
    (fulfils : ∀ endpoint ∈ endpoints, Fulfils policy workload.kube
      (workload.testCalls endpoint) (workload.handle api endpoint))
    (state : σ) :
    ∃ calls : List (List MadeCall),
      List.Forall₂ (AnsweredBy workload.kube)
        (workload.answerAll api endpoints state).1 calls ∧
      (∀ made ∈ calls.flatten,
        ∃ call ∈ endpoints.flatMap workload.testCalls,
          made = answered call ∨ made = refused call) ∧
      calls.map stoppedBy? = endpoints.map (fun endpoint =>
        firstDenied policy (workload.testCalls endpoint)) ∧
      ((workload.answerAll api endpoints state).1.all
          AnsweredRequest.passes = true ↔
        Authorizes policy (endpoints.flatMap workload.testCalls)) := by
  induction endpoints generalizing state with
  | nil => exact ⟨[], .nil, by simp, rfl, by simp [answerAll, Authorizes]⟩
  | cons endpoint endpoints induction =>
      obtain ⟨first, tested⟩ := tested_of_fulfils
        (fulfils endpoint List.mem_cons_self) state
      obtain ⟨later, others, required, stopped, passes⟩ := induction
        (fun other member => fulfils other (List.mem_cons_of_mem _ member))
        (workload.answer api endpoint state).2
      refine ⟨first :: later, .cons tested.toAnsweredBy others, ?_, ?_, ?_⟩
      · intro made member
        rw [List.flatten_cons] at member
        rcases List.mem_append.mp member with here | there
        · obtain ⟨call, isRequired, ended⟩ := tested.among made here
          exact ⟨call, List.mem_append_left _ isRequired, ended⟩
        · obtain ⟨call, isRequired, ended⟩ := required made there
          exact ⟨call, List.mem_append_right _ isRequired, ended⟩
      · rw [List.map_cons, List.map_cons, tested.stopped, stopped]
      · have split : (workload.answerAll api (endpoint :: endpoints)
            state).1 = (workload.answer api endpoint state).1 ::
              (workload.answerAll api endpoints
                (workload.answer api endpoint state).2).1 := rfl
        rw [split, List.all_cons, Bool.and_eq_true, passes, tested.passes]
        simp [Authorizes, or_imp, forall_and]

end ReferenceWorkload

/-- Do what is asked for a call that the policy authorizes. -/
def enforcing (policy : Policy) (call : TrackedCall)
    (body : Raising OperationError σ α) : Raising OperationError σ α :=
  if isAuthorized policy call.kubeEvent = true then body
  else Raising.raise (.apiException (some 403) (some "Forbidden"))

/-- The API of a cluster with a policy for this client.  Its state is the names
of the jobs; there are no leases. -/
def clusterApi (client : TrackedKubeClient) (policy : Policy) :
    KubernetesApi (List String) Unit where
  readNamespacedConfigMap name _ :=
    enforcing policy (client.calling "" "configmaps" "get" name)
      (pure (some []))
  readNamespacedSecret name _ :=
    enforcing policy (client.calling "" "secrets" "get" name) (pure (some []))
  listNamespacedPod _ :=
    enforcing policy (client.calling "" "pods" "list") (pure [])
  createNamespacedJob _ body :=
    enforcing policy (client.calling "batch" "jobs" "create" (createdName body))
      fun jobs =>
        if createdName body ∈ jobs then
          (.error (.apiException (some 409) (some "Conflict")), jobs)
        else (.ok (), createdName body :: jobs)
  readNamespacedJob name _ :=
    enforcing policy (client.calling "batch" "jobs" "get" name) fun jobs =>
      if name ∈ jobs then (.ok (.string name), jobs)
      else (.error (.apiException (some 404) (some "Not Found")), jobs)
  deleteNamespacedJob name _ :=
    enforcing policy (client.calling "batch" "jobs" "delete" name) fun jobs =>
      if name ∈ jobs then (.ok (), jobs.filter (· ≠ name))
      else (.error (.apiException (some 404) (some "Not Found")), jobs)
  readNamespacedLease name _ :=
    enforcing policy (client.calling "coordination.k8s.io" "leases" "get" name)
      (Raising.raise (.apiException (some 404) (some "Not Found")))
  replaceNamespacedLease name _ _ :=
    enforcing policy
      (client.calling "coordination.k8s.io" "leases" "update" name)
      (Raising.raise (.apiException (some 404) (some "Not Found")))
  createNamespacedLease _ body :=
    enforcing policy
      (client.calling "coordination.k8s.io" "leases" "create" (createdName body))
      (pure ())

theorem decides_enforcing {policy : Policy} {call : TrackedCall}
    {works : Except OperationError α × σ → Prop}
    {body : Raising OperationError σ α} {state : σ}
    (granted : works (body state)) :
    Decides policy call works (enforcing policy call body state) := by
  unfold enforcing
  constructor
  · intro allowed
    rw [if_pos allowed]
    exact granted
  · intro denied
    rw [if_neg (by simp [denied])]
    rfl

theorem enforces_clusterApi (client : TrackedKubeClient) (policy : Policy) :
    Enforces policy client (fun name jobs => name ∈ jobs)
      (clusterApi client policy) where
  configMap := fun _ _ => decides_enforcing ⟨_, rfl⟩
  secret := fun _ _ => decides_enforcing ⟨_, rfl⟩
  pods := fun _ => decides_enforcing ⟨_, rfl⟩
  createJob := by
    intro name jobs
    have named : createdName (TrackedKubeClient.jobBody name) = name := rfl
    simp only [clusterApi, named]
    apply decides_enforcing
    by_cases present : name ∈ jobs
    · simp [present]
    · simp [present]
  readJob := by
    intro name jobs present
    apply decides_enforcing
    simp [present]
  deleteJob := by
    intro name jobs present
    apply decides_enforcing
    simp [present]

end Kuber.Runtime
