import Kuber.Event.DeliveryCost
import Kuber.Library.Progress
import Kuber.System.CountedOnce

/-!
# Runs that end

Nothing that the coordinator or a worker does goes on for ever, where every
message is handed out once: a message is put back a bounded number of times,
and every result is collected once.  How many steps there are depends on the
requests only, whatever call fails and whenever it does.
-/

namespace Kuber.System

open Kuber.Library Kuber.Rules Kuber.Agent Kuber.Event

variable {ι σ : Type}

/-- The services whose optimization is still to be requested. -/
def SystemOptimizationGraph.toRequest (graph : SystemOptimizationGraph)
    (coordinator : Coordinator) : List ServiceContext :=
  match coordinator.phase with
  | .discoverSystem =>
      match graph.discovery coordinator.state.namespace with
      | .ok services => services
      | .error _ => []
  | .buildServiceRegistry => coordinator.state.services
  | .indexServiceContexts => coordinator.state.services
  | .dispatchWorkloadEvents remaining => remaining
  | _ => []

/-- The nodes that are still to come. -/
def SystemPhase.nodesLeft : SystemPhase → Nat
  | .discoverSystem => 9
  | .buildServiceRegistry => 8
  | .indexServiceContexts => 7
  | .dispatchWorkloadEvents _ => 6
  | .waitForCompletionEvents _ => 5
  | .aggregateResults => 4
  | .systemVerify => 3
  | .systemVerifying _ => 2
  | .systemReport => 1
  | .systemDiagnosis => 1
  | .ended => 0
  | .failed _ => 0

/-- What the steps of the coordinator may cost, and the deliveries of what it
requests. -/
def coordinatorCost (graph : SystemOptimizationGraph) (bound : Nat)
    (coordinator : Coordinator) : Nat :=
  coordinator.phase.nodesLeft +
    (25 * max 1 bound + 1) * (graph.toRequest coordinator).length

def requestCost (bound : Nat) (request : PublishedRequest) : Nat :=
  deliveryCost bound request.event.attempt

/-- A step of the coordinator has used something up: its requests are paid
for. -/
def Affords (graph : SystemOptimizationGraph) (bound : Nat)
    (coordinator : Coordinator) (published : Published)
    (after : Coordinator × Published) : Prop :=
  ∃ requests, after.2.requests = published.requests ++ requests ∧
    coordinatorCost graph bound after.1 +
        (requests.map (requestCost bound)).sum + 1 ≤
      coordinatorCost graph bound coordinator

section

variable {graph : SystemOptimizationGraph} {bound : Nat} {tick : SystemTick}
  {coordinator : Coordinator} {published : Published}
  {after : Coordinator × Published}

theorem affords_quietly (requests : after.2.requests = published.requests)
    (cheaper : coordinatorCost graph bound after.1 <
      coordinatorCost graph bound coordinator) :
    Affords graph bound coordinator published after := by
  refine ⟨[], ?_, ?_⟩
  · rw [requests, List.append_nil]
  · simpa using cheaper

/-- The next node requests what is still to be requested. -/
theorem affords_node (requests : after.2.requests = published.requests)
    (nodes : after.1.phase.nodesLeft < coordinator.phase.nodesLeft)
    (fewer : (graph.toRequest after.1).length ≤
      (graph.toRequest coordinator).length) :
    Affords graph bound coordinator published after := by
  apply affords_quietly requests
  exact Nat.add_lt_add_of_lt_of_le nodes (Nat.mul_le_mul_left _ fewer)

theorem affords_failed {failure : PyException} {state : SystemGraphState}
    {later : Published} (requests : later.requests = published.requests)
    (nodes : 0 < coordinator.phase.nodesLeft) :
    Affords graph bound coordinator published (⟨.failed failure, state⟩,
      later) :=
  affords_node requests nodes (Nat.zero_le _)

theorem dispatch_affords {service : ServiceContext}
    {remaining : List ServiceContext} {state : SystemGraphState}
    (step : graph.proceed tick
      ⟨.dispatchWorkloadEvents (service :: remaining), state⟩ published =
        some after) :
    Affords graph bound ⟨.dispatchWorkloadEvents (service :: remaining), state⟩
      published after := by
  simp only [SystemOptimizationGraph.proceed] at step
  split at step
  · cases step
    exact affords_failed rfl (Nat.succ_pos _)
  · rename_i context _
    have requested : ∀ reached : Coordinator,
        coordinatorCost graph bound reached ≤ coordinatorCost graph bound
          ⟨.dispatchWorkloadEvents remaining, state⟩ →
        Affords graph bound
          ⟨.dispatchWorkloadEvents (service :: remaining), state⟩ published
          (reached, published.request
            (graph.request state service context tick.stamp)) := by
      intro reached cheaper
      refine ⟨_, rfl, ?_⟩
      have first : requestCost bound
          (graph.request state service context tick.stamp) ≤
            25 * max 1 bound := deliveryCost_le bound _
      have more : (25 * max 1 bound + 1) * (remaining.length + 1) =
          (25 * max 1 bound + 1) * remaining.length +
            (25 * max 1 bound + 1) := Nat.mul_succ _ _
      simp only [coordinatorCost, SystemOptimizationGraph.toRequest,
        SystemPhase.nodesLeft] at cheaper
      simp only [coordinatorCost, SystemOptimizationGraph.toRequest,
        SystemPhase.nodesLeft, List.map_cons, List.map_nil, List.sum_cons,
        List.sum_nil, List.length_cons, more]
      omega
    apply Fate.publish_cases step
    · exact requested _ (Nat.le_refl _)
    · exact fun failure => affords_failed rfl (Nat.succ_pos _)
    · intro failure
      apply requested
      simp only [coordinatorCost, SystemOptimizationGraph.toRequest,
        SystemPhase.nodesLeft, List.length_nil]
      omega

theorem proceed_affords
    (step : graph.proceed tick coordinator published = some after) :
    Affords graph bound coordinator published after := by
  obtain ⟨phase, state⟩ := coordinator
  cases phase with
  | discoverSystem =>
      simp only [SystemOptimizationGraph.proceed] at step
      split at step
      · cases step
        exact affords_failed rfl (Nat.succ_pos _)
      · rename_i services discovered
        cases step
        refine affords_node rfl (Nat.lt_add_one _) ?_
        simp only [SystemOptimizationGraph.toRequest, discovered]
        exact Nat.le_refl _
  | buildServiceRegistry =>
      simp only [SystemOptimizationGraph.proceed] at step
      split at step
      · cases step
        exact affords_failed rfl (Nat.succ_pos _)
      · cases step
        exact affords_node rfl (Nat.lt_add_one _) (Nat.le_refl _)
  | indexServiceContexts =>
      simp only [SystemOptimizationGraph.proceed] at step
      split at step
      · cases step
        exact affords_failed rfl (Nat.succ_pos _)
      · cases step
        exact affords_node rfl (Nat.lt_add_one _) (Nat.le_refl _)
  | dispatchWorkloadEvents remaining =>
      cases remaining with
      | nil =>
          cases step
          exact affords_node rfl (Nat.lt_add_one _) (Nat.le_refl _)
      | cons service remaining => exact dispatch_affords step
  | waitForCompletionEvents results =>
      simp only [SystemOptimizationGraph.proceed] at step
      split at step
      · cases step
      · cases step
        exact affords_node rfl (Nat.lt_add_one _) (Nat.le_refl _)
  | aggregateResults =>
      cases step
      exact affords_node rfl (Nat.lt_add_one _) (Nat.le_refl _)
  | systemVerify =>
      apply Fate.publish_cases step
      · exact affords_node rfl (Nat.lt_add_one _) (Nat.le_refl _)
      · exact fun _ => affords_failed rfl (Nat.succ_pos _)
      · exact fun _ => affords_failed rfl (Nat.succ_pos _)
  | systemVerifying requested =>
      simp only [SystemOptimizationGraph.proceed] at step
      split at step
      · cases step
        exact affords_failed rfl (Nat.succ_pos _)
      · rename_i endToEndPassed _
        apply Fate.publish_cases step
        · cases workloadPassed state && endToEndPassed with
          | false => exact affords_node rfl (Nat.lt_add_one _) (Nat.le_refl _)
          | true => exact affords_node rfl (Nat.lt_add_one _) (Nat.le_refl _)
        · exact fun _ => affords_failed rfl (Nat.succ_pos _)
        · exact fun _ => affords_failed rfl (Nat.succ_pos _)
  | systemReport =>
      simp only [SystemOptimizationGraph.proceed] at step
      split at step
      · cases step
        exact affords_failed rfl (Nat.succ_pos _)
      · cases step
        exact affords_node rfl (Nat.lt_add_one _) (Nat.le_refl _)
  | systemDiagnosis =>
      cases step
      exact affords_node rfl (Nat.lt_add_one _) (Nat.le_refl _)
  | ended => cases step
  | failed failure => cases step

end

/-- Only what is there has been handed out. -/
structure HandedOut.Within (out : HandedOut) (state : SystemState ι σ) :
    Prop where
  requests : TakenFrom out.requests state.published.requests
  retries : TakenFrom out.retries state.pool.shared.retries
  results : TakenFrom out.results state.pool.shared.results

theorem HandedOut.within_start (state : SystemState ι σ) :
    HandedOut.Within {} state := by
  constructor
  · intro position member
    cases member
  · intro position member
    cases member
  · intro position member
    cases member

/-- What the run may still cost: the steps of the coordinator, the deliveries
of what waits, the results to be collected, and what the workers are at. -/
def systemCost [Fintype ι] (graph : SystemOptimizationGraph) (bound : Nat)
    (run : SystemState ι σ × HandedOut) : Nat :=
  coordinatorCost graph bound run.1.coordinator +
    waitingWeight (requestCost bound) run.2.requests
      run.1.published.requests +
    waitingWeight (fun message => deliveryCost bound message.event.attempt)
      run.2.retries run.1.pool.shared.retries +
    waitingWeight (fun _ => 1) run.2.results run.1.pool.shared.results +
    Finset.univ.sum fun worker => (run.1.pool.workers worker).phase.cost bound

/-- The steps of the run itself: nobody dies or calls in between, and nobody
else requests anything. -/
def SystemAction.own : SystemAction ι → Bool
  | .request _ => false
  | .crash _ => false
  | .call .. => false
  | _ => true

/-- Requests of other runs. -/
def SystemAction.foreign : SystemAction ι → Bool
  | .request _ => true
  | _ => false

/-- A step keeps to what is there, and is paid for. -/
def Paid [Fintype ι] (graph : SystemOptimizationGraph) (bound : Nat)
    (action : SystemAction ι) (run next : SystemState ι σ × HandedOut) :
    Prop :=
  next.2.Within next.1 ∧
    systemCost graph bound next + action.own.toNat ≤
      systemCost graph bound run + 25 * max 1 bound * action.foreign.toNat

theorem SystemState.Fresh.systemCost_le [Fintype ι]
    {state : SystemState ι σ} (fresh : state.Fresh)
    (graph : SystemOptimizationGraph) (bound : Nat) :
    systemCost graph bound (state, {}) ≤
      9 + (25 * max 1 bound + 1) * (graph.toRequest state.coordinator).length +
        25 * max 1 bound * state.published.requests.length := by
  have nobody : (Finset.univ.sum fun worker =>
      (state.pool.workers worker).phase.cost bound) = 0 := by
    apply Finset.sum_eq_zero
    intro worker _
    rw [fresh.opened.pool.idle worker]
    rfl
  have waiting : waitingWeight (requestCost bound) []
      state.published.requests ≤
        25 * max 1 bound * state.published.requests.length :=
    waitingWeight_le fun request _ => deliveryCost_le bound _
  simp only [systemCost, coordinatorCost, fresh.opened.begins, fresh.results,
    fresh.retries, nobody, SystemPhase.nodesLeft, waitingWeight_nil]
  omega

section

variable [Fintype ι] [DecidableEq ι] {graph : SystemOptimizationGraph}
  {workers : ι → OptimizationWorker σ} {bound : Nat}
  {state next : SystemState ι σ} {out later : HandedOut} {worker : ι}

theorem workers_cost_moved {before after : PoolState ι σ}
    (others : ∀ other, other ≠ worker →
      after.workers other = before.workers other) :
    (Finset.univ.sum fun worker => (after.workers worker).phase.cost bound) +
        (before.workers worker).phase.cost bound =
      (Finset.univ.sum fun worker =>
        (before.workers worker).phase.cost bound) +
        (after.workers worker).phase.cost bound := by
  have costs : ∀ other, other ≠ worker →
      (after.workers other).phase.cost bound =
        (before.workers other).phase.cost bound := by
    intro other different
    rw [others other different]
  exact sum_moved costs

/-- A step of a worker that uses up what it is at. -/
theorem act_paid {action : OptimizationWorker.Action}
    (within : out.Within state)
    (step : state.act workers (.act worker action) = some next)
    (spends : ∀ after, (workers worker).act action (state.pool.workers worker)
        state.pool.shared = some after →
      Spends bound (state.pool.workers worker).phase state.pool.shared after) :
    out.Within next ∧ systemCost graph bound (next, out) + 1 ≤
      systemCost graph bound (state, out) := by
  obtain ⟨pool, acted, rfl⟩ := Option.map_eq_some_iff.mp step
  obtain ⟨stepped, others⟩ := poolStep_act acted
  obtain ⟨retries, results, putBack, published, cheaper⟩ := spends _ stepped
  simp only at putBack published cheaper
  have total := @workers_cost_moved _ _ _ _ bound _ _ _ others
  have counted : (results.map fun _ => 1).sum = results.length := by simp
  refine ⟨⟨within.requests, ?_, ?_⟩, ?_⟩
  · rw [putBack]
    exact within.retries.append retries
  · rw [published]
    exact within.results.append results
  · simp only [systemCost, putBack, published, counted,
      waitingWeight_append within.retries, waitingWeight_append within.results]
    omega

theorem crash_paid (within : out.Within state)
    (step : state.act workers (.act worker .crash) = some next) :
    out.Within next ∧ systemCost graph bound (next, out) ≤
      systemCost graph bound (state, out) := by
  obtain ⟨pool, acted, rfl⟩ := Option.map_eq_some_iff.mp step
  obtain ⟨stepped, others⟩ := poolStep_act acted
  have spent : (pool.workers worker).phase.cost bound = 0 ∧
      pool.shared.retries = state.pool.shared.retries ∧
      pool.shared.results = state.pool.shared.results := by
    simp only [OptimizationWorker.act, Option.some.injEq, Prod.mk.injEq]
      at stepped
    rw [← stepped.1, ← stepped.2]
    refine ⟨rfl, ?_⟩
    cases OptimizationWorker.heldKey (state.pool.workers worker).phase with
    | none => exact ⟨rfl, rfl⟩
    | some key => exact ⟨rfl, rfl⟩
  obtain ⟨nothing, retries, results⟩ := spent
  have total := @workers_cost_moved _ _ _ _ bound _ _ _ others
  refine ⟨⟨within.requests, ?_, ?_⟩, ?_⟩
  · rw [retries]
    exact within.retries
  · rw [results]
    exact within.results
  · simp only [systemCost, retries, results]
    omega

/-- A claim costs less than the delivery that it begins. -/
theorem act_claim_cost {message : ConsumedEvent}
    (step : state.act workers (.act worker (.claim message)) = some next) :
    next.coordinator = state.coordinator ∧ next.published = state.published ∧
      next.pool.shared = state.pool.shared ∧
      (Finset.univ.sum fun worker =>
          (next.pool.workers worker).phase.cost bound) + 1 ≤
        (Finset.univ.sum fun worker =>
          (state.pool.workers worker).phase.cost bound) +
        deliveryCost bound message.event.attempt := by
  obtain ⟨pool, acted, rfl⟩ := Option.map_eq_some_iff.mp step
  obtain ⟨stepped, others⟩ := poolStep_act acted
  have total := @workers_cost_moved _ _ _ _ bound _ _ _ others
  obtain ⟨begun, shared⟩ : (pool.workers worker).phase = .validating message ∧
      pool.shared = state.pool.shared := claim_begins stepped
  have cheaper := @validating_cost σ bound message
  refine ⟨rfl, rfl, shared, ?_⟩
  change (Finset.univ.sum fun worker =>
    (pool.workers worker).phase.cost bound) + 1 ≤ _
  simp only [begun] at total
  omega

theorem proceed_paid {tick : SystemTick} (within : out.Within state)
    (step : systemStep graph workers state (.proceed tick) = some next) :
    Paid graph bound (.proceed tick) (state, out) (next, out) := by
  obtain ⟨⟨coordinator, published⟩, proceeded, rfl⟩ :=
    Option.map_eq_some_iff.mp step
  obtain ⟨requests, requested, cheaper⟩ :=
    @proceed_affords graph bound _ _ _ _ proceeded
  simp only at requested cheaper
  refine ⟨⟨?_, within.retries, within.results⟩, ?_⟩
  · simp only [requested]
    exact within.requests.append requests
  · simp only [systemCost, requested, waitingWeight_append within.requests,
      SystemAction.own, SystemAction.foreign, Bool.toNat_true,
      Bool.toNat_false]
    omega

theorem collect_cost {fate : Fate} {result : PublishedResult}
    {coordinator after : Coordinator}
    (collected : SystemOptimizationGraph.collect fate result coordinator =
      some after) :
    coordinatorCost graph bound after ≤
      coordinatorCost graph bound coordinator := by
  obtain ⟨results, waits, -, ⟨failure, rfl⟩ | rfl | rfl⟩ :=
    collect_cases collected
  · simp [coordinatorCost, SystemOptimizationGraph.toRequest,
      SystemPhase.nodesLeft]
  · exact Nat.le_refl _
  · simp [coordinatorCost, SystemOptimizationGraph.toRequest,
      SystemPhase.nodesLeft, waits]

theorem collect_paid {position : Nat} {fate : Fate}
    (within : out.Within state) (anew : position ∉ out.results)
    (step : systemStep graph workers state (.collect position fate) =
      some next) :
    Paid graph bound (.collect position fate) (state, out)
      (next, { out with results := position :: out.results }) := by
  simp only [systemStep] at step
  split at step
  · cases step
  · rename_i result present
    obtain ⟨coordinator, collected, rfl⟩ := Option.map_eq_some_iff.mp step
    refine ⟨⟨within.requests, within.retries, within.results.take present⟩, ?_⟩
    have fewer := waitingWeight_take (fun _ => 1) anew present
    have cheaper := @collect_cost graph bound _ _ _ _ collected
    simp only [systemCost, SystemAction.own, SystemAction.foreign,
      Bool.toNat_true, Bool.toNat_false]
    omega

theorem timeOut_paid (within : out.Within state)
    (step : systemStep graph workers state .timeOut = some next) :
    Paid graph bound .timeOut (state, out) (next, out) := by
  obtain ⟨coordinator, timedOut, rfl⟩ := Option.map_eq_some_iff.mp step
  obtain ⟨⟨results, waits⟩, failure, rfl⟩ := timeOut_fails timedOut
  refine ⟨⟨within.requests, within.retries, within.results⟩, ?_⟩
  simp only [systemCost, coordinatorCost, SystemOptimizationGraph.toRequest,
    SystemPhase.nodesLeft, waits, SystemAction.own, SystemAction.foreign,
    Bool.toNat_true, Bool.toNat_false, List.length_nil]
  omega

/-- The request of another run pays for what it may cost. -/
theorem request_paid {request : PublishedRequest} (within : out.Within state)
    (step : systemStep graph workers state (.request request) = some next) :
    Paid graph bound (.request request) (state, out) (next, out) := by
  simp only [systemStep] at step
  split at step
  · cases step
  · cases step
    refine ⟨⟨within.requests.append [request], within.retries,
      within.results⟩, ?_⟩
    have paid : requestCost bound request ≤ 25 * max 1 bound :=
      deliveryCost_le bound _
    simp only [systemCost, Published.request,
      waitingWeight_append within.requests, SystemAction.own,
      SystemAction.foreign, Bool.toNat_true, Bool.toNat_false, List.map_cons,
      List.map_nil, List.sum_cons, List.sum_nil]
    omega

theorem deliver_paid {record deliveryCount : Nat} (within : out.Within state)
    (anew : record ∉ out.requests)
    (step : systemStep graph workers state
      (.deliver worker record deliveryCount) = some next) :
    Paid graph bound (.deliver worker record deliveryCount) (state, out)
      (next, { out with requests := record :: out.requests }) := by
  simp only [systemStep] at step
  split at step
  · cases step
  · rename_i request present
    obtain ⟨coordinator, published, shared, cheaper⟩ :=
      @act_claim_cost _ _ _ _ _ bound _ _ _ _ step
    have fewer := waitingWeight_take (requestCost bound) anew present
    have same : deliveryCost bound
        (request.delivered record deliveryCount).event.attempt =
          requestCost bound request := rfl
    refine ⟨⟨?_, ?_, ?_⟩, ?_⟩
    · rw [published]
      exact within.requests.take present
    · rw [shared]
      exact within.retries
    · rw [shared]
      exact within.results
    · simp only [systemCost, coordinator, published, shared, SystemAction.own,
        SystemAction.foreign, Bool.toNat_true, Bool.toNat_false]
      omega

theorem redeliver_paid {index : Nat} (within : out.Within state)
    (anew : index ∉ out.retries)
    (step : systemStep graph workers state (.redeliver worker index) =
      some next) :
    Paid graph bound (.redeliver worker index) (state, out)
      (next, { out with retries := index :: out.retries }) := by
  simp only [systemStep] at step
  split at step
  · cases step
  · rename_i message present
    obtain ⟨coordinator, published, shared, cheaper⟩ :=
      @act_claim_cost _ _ _ _ _ bound _ _ _ _ step
    have fewer := waitingWeight_take (fun message : ConsumedEvent =>
      deliveryCost bound message.event.attempt) anew present
    refine ⟨⟨?_, ?_, ?_⟩, ?_⟩
    · rw [published]
      exact within.requests
    · rw [shared]
      exact within.retries.take present
    · rw [shared]
      exact within.results
    · simp only [systemCost, coordinator, published, shared, SystemAction.own,
        SystemAction.foreign, Bool.toNat_true, Bool.toNat_false]
      omega

theorem handOutStep_paid
    (bounded : ∀ worker, (workers worker).maxDeliveryAttempts ≤ bound)
    (run : SystemState ι σ × HandedOut) (action : SystemAction ι)
    (next : SystemState ι σ × HandedOut) (within : run.2.Within run.1)
    (step : handOutStep graph workers run action = some next) :
    Paid graph bound action run next := by
  obtain ⟨state, out⟩ := run
  simp only [handOutStep] at step
  split at step
  · rename_i anew
    obtain ⟨after, stepped, rfl⟩ := Option.map_eq_some_iff.mp step
    cases action with
    | proceed tick => exact proceed_paid within stepped
    | collect position fate => exact collect_paid within anew stepped
    | timeOut => exact timeOut_paid within stepped
    | request request => exact request_paid within stepped
    | deliver worker record deliveryCount =>
        exact deliver_paid within anew stepped
    | redeliver worker index => exact redeliver_paid within anew stepped
    | tick worker tick =>
        obtain ⟨withinAfter, cheaper⟩ := @act_paid _ _ _ _ graph _ bound _ _ _
          _ _ within stepped fun _ advanced =>
            advance_spends (bounded worker) advanced
        refine ⟨withinAfter, ?_⟩
        simp only [HandedOut.note, SystemAction.own, SystemAction.foreign,
          Bool.toNat_true, Bool.toNat_false]
        omega
    | crash worker =>
        obtain ⟨withinAfter, cheaper⟩ :=
          @crash_paid _ _ _ _ graph _ bound _ _ _ _ within stepped
        refine ⟨withinAfter, ?_⟩
        simp only [HandedOut.note, SystemAction.own, SystemAction.foreign,
          Bool.toNat_false]
        omega
    | call worker call =>
        obtain ⟨pool, called, rfl⟩ := Option.map_eq_some_iff.mp stepped
        obtain ⟨same, world, shared⟩ := poolStep_call called
        obtain ⟨workersAfter, sharedAfter⟩ := pool
        cases same
        cases shared
        exact ⟨⟨within.requests, within.retries, within.results⟩,
          Nat.le_refl _⟩
  · cases step

/-- Where every message is handed out once, no run goes on for ever: how many
steps the coordinator and the workers take is bounded by the number of
services and of requests of other runs, whatever fails and whoever dies. -/
theorem runs_end
    (bounded : ∀ worker, (workers worker).maxDeliveryAttempts ≤ bound)
    {start final : SystemState ι σ} (fresh : start.Fresh)
    {actions : List (SystemAction ι)}
    (played : play (handOutStep graph workers) (start, {}) actions =
      some (final, out)) :
    actions.countP SystemAction.own ≤
      9 + (25 * max 1 bound + 1) * (graph.toRequest start.coordinator).length +
        25 * max 1 bound * (start.published.requests.length +
          actions.countP SystemAction.foreign) := by
  have spent := @play_spends _ _ (handOutStep graph workers)
    (fun run => run.2.Within run.1) (systemCost graph bound) SystemAction.own
    SystemAction.foreign (25 * max 1 bound)
    (fun run action next sound step =>
      handOutStep_paid bounded run action next sound step)
    _ _ _ (HandedOut.within_start _) played
  have begins := fresh.systemCost_le graph bound
  rw [Nat.mul_add]
  omega

end

/-- Both workers publish their results; the second one cannot acknowledge its
request, which is put back and answered again by the first one. -/
def answeredTwiceRun : List (SystemAction (Fin 2)) :=
  proceeds 6 ++ [.deliver 0 0 1, .deliver 1 1 1] ++ workerTicks 0 9 ++
    workerTicks 1 7 ++
    [.tick 1 { fate := .raises ⟨.other "OSError", ""⟩ true }] ++
    workerTicks 1 3 ++ [.redeliver 0 0] ++ workerTicks 0 4 ++
    [.collect 2 .returns, .collect 0 .returns] ++ proceeds 5

/-- The run of two services ends, with a call that fails after the publication
of a result, and a retry. -/
theorem runs_end_shop : ∃ final out,
    play (handOutStep shopGraph shopWorkers) (shopStart, {}) answeredTwiceRun =
        some (final, out) ∧
      answeredTwiceRun.countP SystemAction.own ≤ 161 := by
  obtain ⟨final, out, played⟩ : ∃ final out,
      play (handOutStep shopGraph shopWorkers) (shopStart, {})
        answeredTwiceRun = some (final, out) := ⟨_, _, rfl⟩
  have few := @runs_end _ _ _ _ shopGraph shopWorkers 3 _
    (fun _ => Int.le_refl 3) _ _ ⟨shopStart_opened, rfl, rfl⟩ _ played
  exact ⟨final, out, played, few⟩

end Kuber.System
