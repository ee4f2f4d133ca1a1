import Kuber.Event.LockScope
import Kuber.System.Deployment
import Mathlib.Data.List.Perm.Subperm

/-!
# What a passed system has passed

The coordinator counts results and never asks which task a result is about.
If every counted result answers another request, then enough of them answer
all requests; hence a passed system has an accepted result of every service.
-/

namespace Kuber.System

open Kuber.Library Kuber.Rules Kuber.Agent Kuber.Event

variable {ι σ : Type}

/-- The requests of a run, with their records. -/
def ownRequests (runId : String) (requests : List PublishedRequest) :
    List (PublishedRequest × Nat) :=
  requests.zipIdx.filter fun entry => decide (entry.1.event.runId = runId)

/-- The run has requested the tasks of these services, in this order. -/
def Requested (runId : String) (requests : List PublishedRequest)
    (services : List ServiceContext) : Prop :=
  (ownRequests runId requests).map
      (fun entry => payloadText entry.1.event.payload "task_id") =
    services.map fun service => .ok (taskIdOf runId service)

section

variable {runId : String} {requests : List PublishedRequest}
  {request : PublishedRequest} {record : Nat}
  {services : List ServiceContext}

theorem mem_ownRequests_iff :
    (request, record) ∈ ownRequests runId requests ↔
      requests[record]? = some request ∧ request.event.runId = runId := by
  rw [ownRequests, List.mem_filter, List.mem_zipIdx_iff_getElem?,
    decide_eq_true_eq]

theorem ownRequests_append_foreign (foreign : request.event.runId ≠ runId) :
    ownRequests runId (requests ++ [request]) =
      ownRequests runId requests := by
  simp [ownRequests, List.zipIdx_append, foreign]

theorem ownRequests_append_own (own : request.event.runId = runId) :
    ownRequests runId (requests ++ [request]) =
      ownRequests runId requests ++ [(request, requests.length)] := by
  simp [ownRequests, List.zipIdx_append, own]

theorem ownRequests_nil (foreign : ∀ request ∈ requests,
    request.event.runId ≠ runId) : ownRequests runId requests = [] := by
  rw [ownRequests, List.filter_eq_nil_iff]
  rintro ⟨request, record⟩ member
  have present := List.mem_zipIdx_iff_getElem?.mp member
  simpa using foreign request (List.mem_of_getElem? present)

theorem Requested.length (requested : Requested runId requests services) :
    (ownRequests runId requests).length = services.length := by
  have lengths := congrArg List.length requested
  simpa using lengths

end

/-- The counted results answer different requests of the run. -/
structure Counted (runId : String) (requests : List PublishedRequest)
    (results : List PublishedResult) : Prop where
  distinct : (results.map PublishedResult.origin).Nodup
  own : ∀ result ∈ results, result.event.runId = runId ∧
    Answers (Recorded requests) result

/-- Every service has a result about its task. -/
def Covered (state : SystemGraphState) : Prop :=
  ∀ service ∈ state.services, ∃ event ∈ state.resultEvents,
    Names (taskIdOf state.runId service) event.payload

section

variable {runId : String} {requests : List PublishedRequest}
  {results : List PublishedResult} {services : List ServiceContext}

theorem Counted.record_mem (counted : Counted runId requests results)
    {result : PublishedResult} (member : result ∈ results) :
    result.origin ∈ (ownRequests runId requests).map Prod.snd := by
  obtain ⟨own, payload, taskId, ⟨request, present, ran, -⟩, -, -⟩ :=
    counted.own result member
  exact List.mem_map.mpr ⟨(request, result.origin),
    mem_ownRequests_iff.mpr ⟨present, ran.trans own⟩, rfl⟩

/-- As many different answers as there are requests answer all of them. -/
theorem Counted.mem_origins (counted : Counted runId requests results)
    (enough : (ownRequests runId requests).length ≤ results.length)
    {request : PublishedRequest} {record : Nat}
    (own : (request, record) ∈ ownRequests runId requests) :
    ∃ result ∈ results, result.origin = record := by
  have answered : results.map PublishedResult.origin ⊆
      (ownRequests runId requests).map Prod.snd := by
    intro origin member
    obtain ⟨result, among, rfl⟩ := List.mem_map.mp member
    exact counted.record_mem among
  have all := (List.subperm_of_subset counted.distinct answered)
    |>.perm_of_length_le (by simpa using enough)
  have member : record ∈ results.map PublishedResult.origin :=
    all.mem_iff.mpr (List.mem_map.mpr ⟨(request, record), own, rfl⟩)
  exact List.mem_map.mp member

theorem Counted.covers (counted : Counted runId requests results)
    (requested : Requested runId requests services)
    (enough : services.length ≤ results.length) {service : ServiceContext}
    (member : service ∈ services) :
    ∃ result ∈ results,
      Names (taskIdOf runId service) result.event.payload := by
  have asked : Except.ok (taskIdOf runId service) ∈
      services.map fun service => (.ok (taskIdOf runId service) :
        Except PyException String) :=
    List.mem_map.mpr ⟨service, member, rfl⟩
  rw [← requested] at asked
  obtain ⟨⟨request, record⟩, own, named⟩ := List.mem_map.mp asked
  obtain ⟨result, among, rfl⟩ :=
    counted.mem_origins (requested.length ▸ enough) own
  obtain ⟨-, payload, taskId, ⟨other, present, -, rfl⟩, otherNamed, names⟩ :=
    counted.own result among
  have same : other = request := by
    have there := (mem_ownRequests_iff.mp own).1
    rw [present] at there
    exact Option.some.inj there
  subst same
  rw [named] at otherNamed
  cases otherNamed
  exact ⟨result, among, names⟩

theorem Counted.append (counted : Counted runId requests results)
    {result : PublishedResult} (own : result.event.runId = runId)
    (answers : Answers (Recorded requests) result)
    (fresh : result.origin ∉ results.map PublishedResult.origin) :
    Counted runId requests (results ++ [result]) := by
  constructor
  · rw [List.map_append, List.map_singleton, List.nodup_append]
    refine ⟨counted.distinct, List.nodup_singleton _, ?_⟩
    intro origin among other isNew same
    rw [List.mem_singleton.mp isNew] at same
    exact fresh (same ▸ among)
  · intro other member
    rcases List.mem_append.mp member with before | new
    · exact counted.own other before
    · rw [List.mem_singleton.mp new]
      exact ⟨own, answers⟩

end

/-- Every service has a result about its task, and all results are accepted. -/
structure Passed (state : SystemGraphState) : Prop where
  covered : Covered state
  accepted : ∀ event ∈ state.resultEvents, accepted event.payload = true

/-- What holds before each node. -/
def CoordinatorSound (requests : List PublishedRequest)
    (coordinator : Coordinator) : Prop :=
  let state := coordinator.state
  match coordinator.phase with
  | .discoverSystem | .buildServiceRegistry | .indexServiceContexts =>
      Requested state.runId requests []
  | .dispatchWorkloadEvents remaining =>
      ∃ done, state.services = done ++ remaining ∧
        Requested state.runId requests done
  | .waitForCompletionEvents results =>
      Requested state.runId requests state.services ∧
        state.expectedResults = state.services.length ∧
          Counted state.runId requests results
  | .aggregateResults | .systemVerify | .systemVerifying _ => Covered state
  | .systemReport => Passed state
  | .systemDiagnosis => state.systemPassed = false
  | .ended => state.systemPassed = true → Passed state
  | .failed _ => True

section

variable {graph : SystemOptimizationGraph} {tick : SystemTick}
  {state : SystemGraphState} {published : Published}
  {next : Coordinator × Published}

/-- What a step of the coordinator preserves: soundness, and the requests so
far. -/
structure Proceeds (published : Published) (next : Coordinator × Published) :
    Prop where
  sound : CoordinatorSound next.2.requests next.1
  grows : ∃ more, next.2.requests = published.requests ++ more

theorem Fate.publish_cases {fate : Fate}
    {effect : Published → Published} {returned : Coordinator}
    {raised : PyException → Coordinator}
    {property : Coordinator × Published → Prop}
    (step : some (Fate.publish fate effect published returned raised) =
      some next)
    (onReturn : property (returned, effect published))
    (onRaise : ∀ failure, property (raised failure, published))
    (onLanded : ∀ failure, property (raised failure, effect published)) :
    property next := by
  cases fate with
  | returns =>
      cases step
      exact onReturn
  | raises failure landed =>
      cases landed with
      | false =>
          cases step
          exact onRaise failure
      | true =>
          cases step
          exact onLanded failure

theorem proceeds_of_sound {coordinator : Coordinator} {after : Published}
    (sound : CoordinatorSound published.requests coordinator)
    (sameRequests : after.requests = published.requests) :
    Proceeds published (coordinator, after) := by
  refine ⟨?_, [], ?_⟩
  · rw [sameRequests]
    exact sound
  · rw [sameRequests, List.append_nil]

theorem proceeds_of_failure {failure : PyException} :
    Proceeds published (⟨.failed failure, state⟩, published) :=
  proceeds_of_sound trivial rfl

theorem dispatch_proceeds {remaining : List ServiceContext}
    (sound : CoordinatorSound published.requests
      ⟨.dispatchWorkloadEvents remaining, state⟩)
    (step : graph.proceed tick ⟨.dispatchWorkloadEvents remaining, state⟩
      published = some next) : Proceeds published next := by
  obtain ⟨done, services, requested⟩ := sound
  cases remaining with
  | nil =>
      cases step
      refine proceeds_of_sound ⟨?_, rfl, List.nodup_nil, ?_⟩ rfl
      · rw [services, List.append_nil]
        exact requested
      · intro result member
        cases member
  | cons service remaining =>
      simp only [SystemOptimizationGraph.proceed] at step
      split at step
      · cases step
        exact proceeds_of_failure
      · rename_i context _
        apply Fate.publish_cases step
        · refine ⟨⟨done ++ [service], ?_, ?_⟩, _, rfl⟩
          · rw [services, List.append_assoc, List.singleton_append]
          · have mine : (graph.request state service context
                tick.stamp).event.runId = state.runId := rfl
            simp only [Requested, Published.request,
              ownRequests_append_own mine, List.map_append]
            rw [requested]
            rfl
        · exact fun _ => proceeds_of_failure
        · exact fun _ => ⟨trivial, _, rfl⟩

theorem wait_proceeds {results : List PublishedResult}
    (sound : CoordinatorSound published.requests
      ⟨.waitForCompletionEvents results, state⟩)
    (step : graph.proceed tick ⟨.waitForCompletionEvents results, state⟩
      published = some next) : Proceeds published next := by
  obtain ⟨requested, expected, counted⟩ := sound
  simp only [SystemOptimizationGraph.proceed] at step
  split at step
  · cases step
  · rename_i enough
    cases step
    refine proceeds_of_sound ?_ rfl
    intro service member
    have reached : state.services.length ≤ results.length :=
      expected ▸ Nat.le_of_not_lt enough
    obtain ⟨result, among, named⟩ := counted.covers requested reached member
    exact ⟨result.event, List.mem_map.mpr ⟨result, among, rfl⟩, named⟩

theorem verify_proceeds {requested : EventEnvelope}
    (covered : Covered state)
    (step : graph.proceed tick ⟨.systemVerifying requested, state⟩ published =
      some next) : Proceeds published next := by
  simp only [SystemOptimizationGraph.proceed] at step
  split at step
  · cases step
    exact proceeds_of_failure
  · rename_i endToEndPassed _
    apply Fate.publish_cases step
    · cases passes : workloadPassed state && endToEndPassed with
      | false => exact proceeds_of_sound rfl rfl
      | true =>
          have all := (Bool.and_eq_true_iff.mp passes).1
          rw [workloadPassed, Bool.and_eq_true, List.all_eq_true] at all
          exact proceeds_of_sound ⟨covered, all.2⟩ rfl
    · exact fun _ => proceeds_of_failure
    · exact fun _ => proceeds_of_sound trivial rfl

theorem proceed_proceeds {phase : SystemPhase}
    (sound : CoordinatorSound published.requests ⟨phase, state⟩)
    (step : graph.proceed tick ⟨phase, state⟩ published = some next) :
    Proceeds published next := by
  cases phase with
  | discoverSystem =>
      simp only [SystemOptimizationGraph.proceed] at step
      split at step
      · cases step
        exact proceeds_of_failure
      · cases step
        exact proceeds_of_sound sound rfl
  | buildServiceRegistry =>
      simp only [SystemOptimizationGraph.proceed] at step
      split at step
      · cases step
        exact proceeds_of_failure
      · cases step
        exact proceeds_of_sound sound rfl
  | indexServiceContexts =>
      simp only [SystemOptimizationGraph.proceed] at step
      split at step
      · cases step
        exact proceeds_of_failure
      · cases step
        exact proceeds_of_sound ⟨[], rfl, sound⟩ rfl
  | dispatchWorkloadEvents remaining => exact dispatch_proceeds sound step
  | waitForCompletionEvents results => exact wait_proceeds sound step
  | aggregateResults =>
      cases step
      exact proceeds_of_sound sound rfl
  | systemVerify =>
      apply Fate.publish_cases step
      · exact proceeds_of_sound sound rfl
      · exact fun _ => proceeds_of_failure
      · exact fun _ => proceeds_of_sound trivial rfl
  | systemVerifying requested => exact verify_proceeds sound step
  | systemReport =>
      simp only [SystemOptimizationGraph.proceed] at step
      split at step
      · cases step
        exact proceeds_of_failure
      · cases step
        exact proceeds_of_sound
          (fun _ => ⟨sound.covered, sound.accepted⟩) rfl
  | systemDiagnosis =>
      cases step
      refine proceeds_of_sound ?_ rfl
      intro passed
      have failed : state.systemPassed = false := sound
      rw [passed] at failed
      cases failed
  | ended => cases step
  | failed failure => cases step

end

section

variable {requests more : List PublishedRequest} {coordinator : Coordinator}

theorem Recorded.append {record : Nat} {runId : String} {payload : Document}
    (recorded : Recorded requests record runId payload) :
    Recorded (requests ++ more) record runId payload := by
  obtain ⟨request, present, ran, said⟩ := recorded
  refine ⟨request, ?_, ran, said⟩
  rw [List.getElem?_append_left (List.getElem?_eq_some_iff.mp present).1]
  exact present

theorem Counted.grow {runId : String} {results : List PublishedResult}
    (counted : Counted runId requests results) :
    Counted runId (requests ++ more) results := by
  refine ⟨counted.distinct, ?_⟩
  intro result member
  obtain ⟨own, answers⟩ := counted.own result member
  exact ⟨own, answers.mono fun _ _ _ => Recorded.append⟩

/-- What a run that ended and passed has passed. -/
theorem CoordinatorSound.of_result {result : SystemRunResult}
    (sound : CoordinatorSound requests coordinator)
    (returned : coordinator.result = some result)
    (passed : result.systemPassed = true) {service : ServiceContext}
    (member : service ∈ result.services) :
    ∃ event ∈ result.results,
      Names (taskIdOf result.runId service) event.payload ∧
        accepted event.payload = true := by
  obtain ⟨phase, state⟩ := coordinator
  cases phase with
  | ended =>
      cases returned
      have all : Passed state := sound passed
      obtain ⟨event, among, named⟩ := all.covered service member
      exact ⟨event, among, named, all.accepted event among⟩
  | _ => cases returned

theorem CoordinatorSound.foreign {request : PublishedRequest}
    (sound : CoordinatorSound requests coordinator)
    (foreign : request.event.runId ≠ coordinator.state.runId) :
    CoordinatorSound (requests ++ [request]) coordinator := by
  obtain ⟨phase, state⟩ := coordinator
  have same := @ownRequests_append_foreign state.runId requests request foreign
  cases phase with
  | discoverSystem =>
      rw [CoordinatorSound, Requested, same]
      exact sound
  | buildServiceRegistry =>
      rw [CoordinatorSound, Requested, same]
      exact sound
  | indexServiceContexts =>
      rw [CoordinatorSound, Requested, same]
      exact sound
  | dispatchWorkloadEvents remaining =>
      obtain ⟨done, services, requested⟩ := sound
      refine ⟨done, services, ?_⟩
      rw [Requested, same]
      exact requested
  | waitForCompletionEvents results =>
      obtain ⟨requested, expected, counted⟩ := sound
      refine ⟨?_, expected, counted.grow⟩
      rw [Requested, same]
      exact requested
  | _ => exact sound

theorem collect_sound {fate : Fate} {result : PublishedResult}
    {after : Coordinator}
    (sound : CoordinatorSound requests coordinator)
    (answers : Answers (Recorded requests) result)
    (fresh : result.event.runId = coordinator.state.runId →
      ∀ results, coordinator.phase = .waitForCompletionEvents results →
        result.origin ∉ results.map PublishedResult.origin)
    (step : SystemOptimizationGraph.collect fate result coordinator =
      some after) : CoordinatorSound requests after := by
  obtain ⟨phase, state⟩ := coordinator
  cases phase with
  | waitForCompletionEvents results =>
      simp only [SystemOptimizationGraph.collect] at step
      split at step
      · split at step
        · cases step
          trivial
        · split at step
          · rename_i own
            cases step
            obtain ⟨requested, expected, counted⟩ := sound
            exact ⟨requested, expected,
              counted.append own answers (fresh own results rfl)⟩
          · cases step
            exact sound
      · cases step
  | _ => cases step

theorem timeOut_sound {after : Coordinator}
    (step : SystemOptimizationGraph.timeOut coordinator = some after) :
    CoordinatorSound requests after := by
  obtain ⟨phase, state⟩ := coordinator
  cases phase with
  | waitForCompletionEvents results =>
      simp only [SystemOptimizationGraph.timeOut] at step
      split at step
      · cases step
        trivial
      · cases step
  | _ => cases step

end

/-- Everything is traced to the requests, and the coordinator is sound. -/
structure SystemSound (state : SystemState ι σ) : Prop where
  traced : PoolTraced (Recorded state.published.requests) state.pool
  coordinator : CoordinatorSound state.published.requests state.coordinator

theorem SystemState.Opened.sound {state : SystemState ι σ}
    (opened : state.Opened) : SystemSound state := by
  refine ⟨opened.pool.traced opened.traced, ?_⟩
  rw [CoordinatorSound, opened.begins]
  rw [Requested, ownRequests_nil opened.foreign]
  rfl

section

variable [DecidableEq ι] {graph : SystemOptimizationGraph}
  {workers : ι → OptimizationWorker σ} {state next : SystemState ι σ}

theorem act_sound {action : PoolAction ι} (sound : SystemSound state)
    (claims : ∀ worker message, action = .act worker (.claim message) →
      Delivers (Recorded state.published.requests) message)
    (step : state.act workers action = some next) : SystemSound next := by
  obtain ⟨pool, acted, rfl⟩ := Option.map_eq_some_iff.mp step
  exact ⟨poolStep_traced sound.traced claims acted, sound.coordinator⟩

theorem systemStep_sound (state : SystemState ι σ) (action : SystemAction ι)
    (next : SystemState ι σ) (sound : SystemSound state)
    (unanswered : Unanswered state action)
    (step : systemStep graph workers state action = some next) :
    SystemSound next := by
  cases action with
  | proceed tick =>
      obtain ⟨⟨coordinator, published⟩, proceeded, rfl⟩ :=
        Option.map_eq_some_iff.mp step
      have proceeds := proceed_proceeds sound.coordinator proceeded
      obtain ⟨more, grown⟩ := proceeds.grows
      refine ⟨?_, proceeds.sound⟩
      change PoolTraced (Recorded published.requests) state.pool
      rw [grown]
      exact sound.traced.mono fun _ _ _ => Recorded.append
  | collect position fate =>
      simp only [systemStep] at step
      split at step
      · cases step
      · rename_i result present
        obtain ⟨coordinator, collected, rfl⟩ :=
          Option.map_eq_some_iff.mp step
        have answers := sound.traced.shared.results result
          (List.mem_of_getElem? present)
        refine ⟨sound.traced, collect_sound sound.coordinator answers ?_
          collected⟩
        intro own results waiting
        have fresh := unanswered result present own
        rw [SystemState.counted, waiting] at fresh
        exact fresh
  | timeOut =>
      obtain ⟨coordinator, timedOut, rfl⟩ := Option.map_eq_some_iff.mp step
      exact ⟨sound.traced, timeOut_sound timedOut⟩
  | request request =>
      simp only [systemStep] at step
      split at step
      · cases step
      · rename_i foreign
        cases step
        exact ⟨sound.traced.mono fun _ _ _ => Recorded.append,
          sound.coordinator.foreign foreign⟩
  | deliver worker record deliveryCount =>
      simp only [systemStep] at step
      split at step
      · cases step
      · rename_i request present
        apply act_sound sound _ step
        intro other message claims
        cases claims
        exact ⟨request, present, rfl, rfl⟩
  | redeliver worker index =>
      simp only [systemStep] at step
      split at step
      · cases step
      · rename_i message present
        apply act_sound sound _ step
        intro other claimed claims
        cases claims
        exact sound.traced.shared.retries message
          (List.mem_of_getElem? present)
  | tick worker tick =>
      apply act_sound sound _ step
      intro other message claims
      cases claims
  | crash worker =>
      apply act_sound sound _ step
      intro other message claims
      cases claims
  | call worker call =>
      apply act_sound sound _ step
      intro other message claims
      cases claims

/-- If the coordinator counts only answers to requests that are not answered
yet, then a run that passes the system has an accepted result of every
service. -/
theorem system_pass_is_sound {start final : SystemState ι σ}
    {actions : List (SystemAction ι)} (opened : start.Opened)
    (unanswered : Meets (systemStep graph workers) Unanswered start actions)
    (played : play (systemStep graph workers) start actions = some final) :
    ∀ result, final.coordinator.result = some result →
      result.systemPassed = true → ∀ service ∈ result.services,
        ∃ event ∈ result.results,
          Names (taskIdOf result.runId service) event.payload ∧
            accepted event.payload = true := by
  have sound :=
    invariant_play systemStep_sound opened.sound unanswered played
  intro result returned passed service member
  exact sound.coordinator.of_result returned passed member

end

def shopService (serviceId : String) : ServiceContext :=
  ⟨serviceId, "shop", serviceId, serviceId ++ "-sa", "default"⟩

/-- The coordinator of a namespace with two services. -/
def shopGraph : SystemOptimizationGraph where
  discovery := fun _ => .ok [shopService "web", shopService "api"]
  registry := fun _ => .ok ()
  indexer := fun service => .ok ⟨service.serviceId ++ "@1", service.serviceId⟩

/-- Two workers that know the contexts of both services. -/
def shopWorkers : Fin 2 → OptimizationWorker Policy :=
  fun _ => { watcherWorker with
    contextStore := fun contextRef =>
      .ok (if contextRef = "web@1" then some ⟨"web@1", "web"⟩
        else if contextRef = "api@1" then some ⟨"api@1", "api"⟩
        else none) }

def shopStart : SystemState (Fin 2) Policy where
  coordinator :=
    ⟨.discoverSystem,
      { runId := "run", «namespace» := "shop", hasRun := run_ne_empty }⟩
  published := {}
  pool := watcherPool

theorem shopStart_opened : shopStart.Opened := by
  refine ⟨rfl, watcherPool_opened, ?_, ?_, ?_, ?_⟩
  · intro request member
    cases member
  · intro message member
    cases member
  · intro taskId payload present
    cases present
  · intro result member
    cases member

def proceeds (count : Nat) : List (SystemAction (Fin 2)) :=
  List.replicate count (.proceed {})

def workerTicks (worker : Fin 2) (count : Nat) :
    List (SystemAction (Fin 2)) :=
  List.replicate count (.tick worker {})

/-- The first worker publishes the result for one service and dies; its
request is delivered again, and the stored result is published once more. -/
def redeliveredRun : List (SystemAction (Fin 2)) :=
  proceeds 6 ++ [.deliver 0 0 1] ++ workerTicks 0 7 ++ [.crash 0] ++
    [.deliver 1 0 1] ++ workerTicks 1 4 ++
    [.collect 0 .returns, .collect 1 .returns] ++ proceeds 5

/-- Both copies of one result are counted: the system passes although the
request of the other service was never delivered. -/
theorem redelivery_passes_the_system :
    ∃ final result,
      play (systemStep shopGraph shopWorkers) shopStart redeliveredRun =
        some final ∧
      final.coordinator.result = some result ∧
      result.systemPassed = true ∧
      shopService "api" ∈ result.services ∧
      ∀ event ∈ result.results,
        ¬Names (taskIdOf result.runId (shopService "api")) event.payload := by
  obtain ⟨final, result, played, returned, passed, ran, services, tasks⟩ :
      ∃ final result,
        play (systemStep shopGraph shopWorkers) shopStart redeliveredRun =
          some final ∧
        final.coordinator.result = some result ∧
        result.systemPassed = true ∧
        result.runId = "run" ∧
        result.services = [shopService "web", shopService "api"] ∧
        result.results.map (fun event => event.payload.field "task_id") =
          [.string "run:web", .string "run:web"] :=
    ⟨_, _, rfl, rfl, rfl, rfl, rfl, rfl⟩
  refine ⟨final, result, played, returned, passed, ?_, ?_⟩
  · rw [services]
    exact List.mem_cons_of_mem _ List.mem_cons_self
  · intro event member named
    have said : event.payload.field "task_id" ∈
        [Json.string "run:web", Json.string "run:web"] :=
      tasks ▸ List.mem_map.mpr ⟨event, member, rfl⟩
    rw [named, ran] at said
    simp [taskIdOf, shopService] at said

/-- Each worker is given one request. -/
def dispatchedRun : List (SystemAction (Fin 2)) :=
  proceeds 6 ++ [.deliver 0 0 1, .deliver 1 1 1] ++ workerTicks 0 9 ++
    workerTicks 1 9 ++ [.collect 1 .returns, .collect 0 .returns] ++
    proceeds 5

theorem system_pass_is_sound_shop :
    ∃ final result,
      play (systemStep shopGraph shopWorkers) shopStart dispatchedRun =
        some final ∧
      final.coordinator.result = some result ∧
      ∃ event ∈ result.results,
        Names (taskIdOf result.runId (shopService "api")) event.payload ∧
          accepted event.payload = true := by
  obtain ⟨final, result, played, returned, passed, services⟩ :
      ∃ final result,
        play (systemStep shopGraph shopWorkers) shopStart dispatchedRun =
          some final ∧
        final.coordinator.result = some result ∧
        result.systemPassed = true ∧
        result.services = [shopService "web", shopService "api"] :=
    ⟨_, _, rfl, rfl, rfl, rfl⟩
  refine ⟨final, result, played, returned, ?_⟩
  apply system_pass_is_sound shopStart_opened (by decide +kernel) played result
    returned passed
  rw [services]
  exact List.mem_cons_of_mem _ List.mem_cons_self

end Kuber.System
