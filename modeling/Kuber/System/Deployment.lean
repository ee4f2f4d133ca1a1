import Kuber.Event.WorkerPool
import Kuber.System.Coordinator

/-!
# The coordinator and its workers

One run of the coordinator next to any number of workers.  Requests, including
those of other runs, may be delivered to any worker any number of times, and
workers may die; results may be given to the coordinator in any order.
-/

namespace Kuber.System

open Kuber.Library Kuber.Rules Kuber.Agent Kuber.Event

variable {ι σ : Type}

structure SystemState (ι σ : Type) where
  coordinator : Coordinator
  published : Published
  pool : PoolState ι σ

inductive SystemAction (ι : Type) where
  | proceed (tick : SystemTick)
  | collect (position : Nat) (fate : Fate)
  | timeOut
  | request (request : PublishedRequest)
  | deliver (worker : ι) (record deliveryCount : Nat)
  | redeliver (worker : ι) (index : Nat)
  | tick (worker : ι) (tick : Tick)
  | crash (worker : ι)
  | call (worker : ι) (call : EnvironmentCall)

/-- The message in which a request is delivered. -/
def PublishedRequest.delivered (request : PublishedRequest)
    (record deliveryCount : Nat) : ConsumedEvent where
  key := request.key
  record := record
  event := request.event
  deliveryCount := deliveryCount
  keyed := request.keyed

variable [DecidableEq ι]

def SystemState.act (workers : ι → OptimizationWorker σ)
    (state : SystemState ι σ) (action : PoolAction ι) :
    Option (SystemState ι σ) :=
  (poolStep workers state.pool action).map
    fun pool => { state with pool := pool }

/-- A request that somebody else publishes is of another run. -/
def systemStep (graph : SystemOptimizationGraph)
    (workers : ι → OptimizationWorker σ) (state : SystemState ι σ) :
    SystemAction ι → Option (SystemState ι σ)
  | .proceed tick =>
      (graph.proceed tick state.coordinator state.published).map
        fun (coordinator, published) =>
          { state with coordinator := coordinator, published := published }
  | .collect position fate =>
      match state.pool.shared.results[position]? with
      | none => none
      | some result =>
          (SystemOptimizationGraph.collect fate result
            state.coordinator).map
            fun coordinator => { state with coordinator := coordinator }
  | .timeOut =>
      (SystemOptimizationGraph.timeOut state.coordinator).map
        fun coordinator => { state with coordinator := coordinator }
  | .request request =>
      if request.event.runId = state.coordinator.state.runId then none
      else some { state with published := state.published.request request }
  | .deliver worker record deliveryCount =>
      match state.published.requests[record]? with
      | none => none
      | some request =>
          state.act workers (.act worker
            (.claim (request.delivered record deliveryCount)))
  | .redeliver worker index =>
      match state.pool.shared.retries[index]? with
      | none => none
      | some message => state.act workers (.act worker (.claim message))
  | .tick worker tick => state.act workers (.act worker (.tick tick))
  | .crash worker => state.act workers (.act worker .crash)
  | .call worker call => state.act workers (.call worker call)

/-- There is a request at this record, of this run and with this payload. -/
def Recorded (requests : List PublishedRequest) (record : Nat)
    (runId : String) (payload : Document) : Prop :=
  ∃ request, requests[record]? = some request ∧
    request.event.runId = runId ∧ request.event.payload = payload

/-- The run has not begun, and whatever earlier runs have left is traced to
their requests. -/
structure SystemState.Opened (state : SystemState ι σ) : Prop where
  begins : state.coordinator.phase = .discoverSystem
  pool : state.pool.Opened
  foreign : ∀ request ∈ state.published.requests,
    request.event.runId ≠ state.coordinator.state.runId
  traced : SharedTraced (Recorded state.published.requests)
    state.pool.shared

/-- The results that the coordinator has counted so far. -/
def SystemState.counted (state : SystemState ι σ) : List PublishedResult :=
  match state.coordinator.phase with
  | .waitForCompletionEvents results => results
  | _ => []

/-- A result of the run that is given to the coordinator answers a request
that no counted result answers. -/
def Unanswered (state : SystemState ι σ) : SystemAction ι → Prop
  | .collect position _ =>
      ∀ result ∈ state.pool.shared.results[position]?,
        result.event.runId = state.coordinator.state.runId →
          result.origin ∉ state.counted.map PublishedResult.origin
  | _ => True

instance (state : SystemState ι σ) (action : SystemAction ι) :
    Decidable (Unanswered state action) :=
  match action with
  | .collect position _ =>
      inferInstanceAs (Decidable (∀ result ∈
        state.pool.shared.results[position]?,
        result.event.runId = state.coordinator.state.runId →
          result.origin ∉ state.counted.map PublishedResult.origin))
  | .proceed _ => .isTrue trivial
  | .timeOut => .isTrue trivial
  | .request _ => .isTrue trivial
  | .deliver .. => .isTrue trivial
  | .redeliver .. => .isTrue trivial
  | .tick .. => .isTrue trivial
  | .crash _ => .isTrue trivial
  | .call .. => .isTrue trivial

end Kuber.System
