import Kuber.Event.RecordMoves
import Kuber.System.Soundness

/-!
# Answers that are counted once

The coordinator cannot tell a second answer to a request from the first answer
to another one.  There are no second answers if every message is handed out
once and no call of a worker fails from the publication of a result on,
whatever fails before and whoever dies.  Then the results that the coordinator
counts are one for each service.
-/

namespace Kuber.System

open Kuber.Library Kuber.Rules Kuber.Agent Kuber.Event

variable {ι σ : Type}

/-- The records, the positions of retries and the positions of results that
have been handed out. -/
structure HandedOut where
  requests : List Nat := []
  retries : List Nat := []
  results : List Nat := []

namespace HandedOut

def note (out : HandedOut) : SystemAction ι → HandedOut
  | .deliver _ record _ => { out with requests := record :: out.requests }
  | .redeliver _ index => { out with retries := index :: out.retries }
  | .collect position _ => { out with results := position :: out.results }
  | _ => out

/-- Nothing is handed out again. -/
def Anew (out : HandedOut) : SystemAction ι → Prop
  | .deliver _ record _ => record ∉ out.requests
  | .redeliver _ index => index ∉ out.retries
  | .collect position _ => position ∉ out.results
  | _ => True

instance (out : HandedOut) (action : SystemAction ι) :
    Decidable (out.Anew action) :=
  match action with
  | .deliver _ record _ => inferInstanceAs (Decidable (record ∉ out.requests))
  | .redeliver _ index => inferInstanceAs (Decidable (index ∉ out.retries))
  | .collect position _ =>
      inferInstanceAs (Decidable (position ∉ out.results))
  | .proceed _ => .isTrue trivial
  | .timeOut => .isTrue trivial
  | .request _ => .isTrue trivial
  | .tick .. => .isTrue trivial
  | .crash _ => .isTrue trivial
  | .call .. => .isTrue trivial

end HandedOut

/-- No result is published in vain. -/
def SystemState.Lasts (state : SystemState ι σ) : SystemAction ι → Prop
  | .tick worker tick => Lasting (state.pool.workers worker).phase tick
  | _ => True

instance (state : SystemState ι σ) (action : SystemAction ι) :
    Decidable (state.Lasts action) :=
  match action with
  | .tick worker tick =>
      inferInstanceAs (Decidable
        (Lasting (state.pool.workers worker).phase tick))
  | .proceed _ => .isTrue trivial
  | .collect .. => .isTrue trivial
  | .timeOut => .isTrue trivial
  | .request _ => .isTrue trivial
  | .deliver .. => .isTrue trivial
  | .redeliver .. => .isTrue trivial
  | .crash _ => .isTrue trivial
  | .call .. => .isTrue trivial

/-- Nothing is handed out again, and no result is published in vain. -/
def HandedOut.Permits (out : HandedOut) (state : SystemState ι σ)
    (action : SystemAction ι) : Prop :=
  out.Anew action ∧ state.Lasts action

instance (out : HandedOut) (state : SystemState ι σ) (action : SystemAction ι) :
    Decidable (out.Permits state action) :=
  inferInstanceAs (Decidable (_ ∧ _))

/-- Nothing has been published yet but requests of other runs. -/
structure SystemState.Fresh (state : SystemState ι σ) : Prop where
  opened : state.Opened
  results : state.pool.shared.results = []
  retries : state.pool.shared.retries = []

/-- A record is carried by one worker, waits to be taken again, or is
answered; and the results that the coordinator counts were handed out. -/
structure Single (state : SystemState ι σ) (out : HandedOut) : Prop where
  circulates : Circulates
    (fun worker => carriedRecord (state.pool.workers worker).phase)
    (untaken out.retries state.pool.shared.putBack)
    state.pool.shared.answered out.requests
  taken : ∀ index ∈ out.retries, index < state.pool.shared.putBack.length
  counted : ∀ result ∈ state.counted, ∃ position ∈ out.results,
    state.pool.shared.answered[position]? = some result.origin

section

variable {state : SystemState ι σ} {out : HandedOut}
  {action : SystemAction ι}

theorem SystemState.Fresh.single (fresh : state.Fresh) : Single state {} := by
  have nobody : ∀ worker,
      carriedRecord (state.pool.workers worker).phase = none := by
    intro worker
    rw [fresh.opened.pool.idle worker]
    rfl
  refine ⟨?_, fun _ member => (List.not_mem_nil member).elim, ?_⟩
  · rw [Shared.putBack, Shared.answered, fresh.results, fresh.retries]
    exact Circulates.initial nobody []
  · intro result member
    rw [SystemState.counted, fresh.opened.begins] at member
    cases member

theorem Single.unanswered (single : Single state out)
    (anew : out.Anew action) : Unanswered state action := by
  cases action with
  | collect position fate =>
      intro result present _ again
      obtain ⟨other, among, same⟩ := List.mem_map.mp again
      obtain ⟨earlier, handedOut, answered⟩ := single.counted other among
      have here : state.pool.shared.answered[position]? =
          some result.origin := by
        rw [Shared.answered, List.getElem?_map, Option.mem_def.mp present]
        rfl
      rw [same] at answered
      have equal : earlier = position :=
        (List.getElem?_inj (List.getElem?_eq_some_iff.mp answered).1
          single.circulates.spent_nodup).mp (answered.trans here.symm)
      exact anew (equal ▸ handedOut)
  | _ => trivial

end

section

variable [DecidableEq ι] {graph : SystemOptimizationGraph}
  {workers : ι → OptimizationWorker σ} {state next : SystemState ι σ}
  {out : HandedOut} {action : SystemAction ι}

/-- A step of the system in which every message is handed out once. -/
def handOutStep (graph : SystemOptimizationGraph)
    (workers : ι → OptimizationWorker σ)
    (run : SystemState ι σ × HandedOut) (action : SystemAction ι) :
    Option (SystemState ι σ × HandedOut) :=
  if run.2.Anew action then
    (systemStep graph workers run.1 action).map
      fun next => (next, run.2.note action)
  else none

/-- Such a step in which moreover no result is published in vain. -/
def onceStep (graph : SystemOptimizationGraph)
    (workers : ι → OptimizationWorker σ)
    (run : SystemState ι σ × HandedOut) (action : SystemAction ι) :
    Option (SystemState ι σ × HandedOut) :=
  if run.2.Permits run.1 action then
    (systemStep graph workers run.1 action).map
      fun next => (next, run.2.note action)
  else none

theorem handOutStep_of_onceStep {run after : SystemState ι σ × HandedOut}
    (step : onceStep graph workers run action = some after) :
    handOutStep graph workers run action = some after := by
  simp only [onceStep] at step
  split at step
  · rename_i permits
    rw [handOutStep, if_pos permits.1]
    exact step
  · cases step

theorem Single.move (single : Single state out) {worker : ι}
    {action : OptimizationWorker.Action}
    (step : state.act workers (.act worker action) = some next)
    (moves : ∀ after, (workers worker).act action (state.pool.workers worker)
        state.pool.shared = some after →
      RecordMove (carriedRecord (state.pool.workers worker).phase)
        state.pool.shared after) : Single next out := by
  obtain ⟨pool, acted, rfl⟩ := Option.map_eq_some_iff.mp step
  obtain ⟨stepped, others⟩ := poolStep_act acted
  have move : TokenMove (carriedRecord (state.pool.workers worker).phase)
      (carriedRecord (pool.workers worker).phase) state.pool.shared.putBack
      pool.shared.putBack state.pool.shared.answered pool.shared.answered :=
    moves _ stepped
  have fresh : state.pool.shared.putBack.length ∉ out.retries :=
    fun member => Nat.lt_irrefl _ (single.taken _ member)
  refine ⟨?_, ?_, ?_⟩
  · refine Circulates.move single.circulates (move.untaken fresh) ?_
    intro other different
    simp only [others other different]
  · intro index member
    have before := single.taken index member
    exact Nat.lt_of_lt_of_le before move.waiting_length
  · intro result member
    obtain ⟨position, handedOut, answered⟩ := single.counted result member
    exact ⟨position, handedOut, move.spent_getElem? answered⟩

theorem act_claim {worker : ι} {message : ConsumedEvent}
    (step : state.act workers (.act worker (.claim message)) = some next) :
    carriedRecord (state.pool.workers worker).phase = none ∧
      carriedRecord (next.pool.workers worker).phase = some message.record ∧
      (∀ other, other ≠ worker →
        next.pool.workers other = state.pool.workers other) ∧
      next.pool.shared = state.pool.shared ∧
      next.coordinator = state.coordinator := by
  obtain ⟨pool, acted, rfl⟩ := Option.map_eq_some_iff.mp step
  obtain ⟨stepped, others⟩ := poolStep_act acted
  obtain ⟨idle, carries, same⟩ := claim_carries stepped
  exact ⟨idle, carries, others, same, rfl⟩

theorem Single.deliver (single : Single state out) {worker : ι}
    {message : ConsumedEvent} (fresh : message.record ∉ out.requests)
    (step : state.act workers (.act worker (.claim message)) = some next) :
    Single next { out with requests := message.record :: out.requests } := by
  obtain ⟨idle, carries, others, shared, coordinator⟩ := act_claim step
  constructor
  · rw [shared]
    refine Circulates.issue single.circulates idle fresh carries ?_
    intro other different
    simp only [others other different]
  · rw [shared]
    exact single.taken
  · rw [shared, SystemState.counted, coordinator]
    exact single.counted

theorem Single.redeliver (single : Single state out) {worker : ι}
    {index : Nat} {message : ConsumedEvent} (fresh : index ∉ out.retries)
    (present : state.pool.shared.retries[index]? = some message)
    (step : state.act workers (.act worker (.claim message)) = some next) :
    Single next { out with retries := index :: out.retries } := by
  obtain ⟨idle, carries, others, shared, coordinator⟩ := act_claim step
  have waits : state.pool.shared.putBack[index]? = some message.record := by
    rw [Shared.putBack, List.getElem?_map, present]
    rfl
  constructor
  · rw [shared]
    refine Circulates.take single.circulates idle carries
      (untaken_take fresh waits) ?_
    intro other different
    simp only [others other different]
  · rw [shared]
    intro other member
    cases List.mem_cons.mp member with
    | inl new => exact new ▸ (List.getElem?_eq_some_iff.mp waits).1
    | inr old => exact single.taken other old
  · rw [shared, SystemState.counted, coordinator]
    exact single.counted

end

/-- The results have been counted. -/
def SystemPhase.tallied : SystemPhase → Bool
  | .aggregateResults => true
  | .systemVerify => true
  | .systemVerifying _ => true
  | .systemReport => true
  | .systemDiagnosis => true
  | .ended => true
  | _ => false

/-- How a step of the coordinator goes on with the results. -/
inductive Tallying (coordinator : Coordinator) (published : Published)
    (after : Coordinator × Published) : Prop where
  | apart : after.1.phase.tallied = false →
      (∀ results, after.1.phase ≠ .waitForCompletionEvents results) →
      Tallying coordinator published after
  | begins : after.1.phase = .waitForCompletionEvents [] →
      Tallying coordinator published after
  | counts {results : List PublishedResult} :
      coordinator.phase = .waitForCompletionEvents results →
      ¬ results.length < coordinator.state.expectedResults →
      after = (⟨.aggregateResults, { coordinator.state with
        resultEvents := results.map PublishedResult.event }⟩, published) →
      Tallying coordinator published after
  | keeps : coordinator.phase.tallied = true → after.1.phase.tallied = true →
      after.1.state.runId = coordinator.state.runId →
      after.1.state.services = coordinator.state.services →
      after.1.state.resultEvents = coordinator.state.resultEvents →
      after.2.requests = published.requests →
      Tallying coordinator published after

section

variable {graph : SystemOptimizationGraph} {tick : SystemTick}
  {coordinator : Coordinator} {published : Published}
  {after : Coordinator × Published} {state : SystemGraphState}

theorem tallying_failed {failure : PyException} {later : Published} :
    Tallying coordinator published (⟨.failed failure, state⟩, later) :=
  .apart rfl fun _ same => by cases same

theorem Tallying.nothing_counted
    (goesOn : Tallying coordinator published after)
    {results : List PublishedResult}
    (waits : after.1.phase = .waitForCompletionEvents results) :
    results = [] := by
  cases goesOn with
  | apart uncounted notWaiting => exact absurd waits (notWaiting results)
  | begins begins =>
      rw [begins] at waits
      cases waits
      rfl
  | counts before enough same =>
      rw [same] at waits
      cases waits
  | keeps before later =>
      rw [waits] at later
      cases later

theorem proceed_tallying
    (step : graph.proceed tick coordinator published = some after) :
    Tallying coordinator published after := by
  obtain ⟨phase, state⟩ := coordinator
  cases phase with
  | discoverSystem =>
      simp only [SystemOptimizationGraph.proceed] at step
      split at step
      · cases step
        exact tallying_failed
      · cases step
        exact .apart rfl fun _ same => by cases same
  | buildServiceRegistry =>
      simp only [SystemOptimizationGraph.proceed] at step
      split at step
      · cases step
        exact tallying_failed
      · cases step
        exact .apart rfl fun _ same => by cases same
  | indexServiceContexts =>
      simp only [SystemOptimizationGraph.proceed] at step
      split at step
      · cases step
        exact tallying_failed
      · cases step
        exact .apart rfl fun _ same => by cases same
  | dispatchWorkloadEvents remaining =>
      cases remaining with
      | nil =>
          cases step
          exact .begins rfl
      | cons service remaining =>
          simp only [SystemOptimizationGraph.proceed] at step
          split at step
          · cases step
            exact tallying_failed
          · apply Fate.publish_cases step
            · exact .apart rfl fun _ same => by cases same
            · exact fun _ => tallying_failed
            · exact fun _ => tallying_failed
  | waitForCompletionEvents results =>
      simp only [SystemOptimizationGraph.proceed] at step
      split at step
      · cases step
      · rename_i enough
        cases step
        exact .counts rfl enough rfl
  | aggregateResults =>
      cases step
      exact .keeps rfl rfl rfl rfl rfl rfl
  | systemVerify =>
      apply Fate.publish_cases step
      · exact .keeps rfl rfl rfl rfl rfl rfl
      · exact fun _ => tallying_failed
      · exact fun _ => tallying_failed
  | systemVerifying requested =>
      simp only [SystemOptimizationGraph.proceed] at step
      split at step
      · cases step
        exact tallying_failed
      · rename_i endToEndPassed _
        apply Fate.publish_cases step
        · cases passes : workloadPassed state && endToEndPassed with
          | false => exact .keeps rfl rfl rfl rfl rfl rfl
          | true => exact .keeps rfl rfl rfl rfl rfl rfl
        · exact fun _ => tallying_failed
        · exact fun _ => tallying_failed
  | systemReport =>
      simp only [SystemOptimizationGraph.proceed] at step
      split at step
      · cases step
        exact tallying_failed
      · cases step
        exact .keeps rfl rfl rfl rfl rfl rfl
  | systemDiagnosis =>
      cases step
      exact .keeps rfl rfl rfl rfl rfl rfl
  | ended => cases step
  | failed failure => cases step

end

/-- The counted results are as many as the services, and answer different
requests of the run. -/
def Tallied (requests : List PublishedRequest) (state : SystemGraphState) :
    Prop :=
  ∃ results, Requested state.runId requests state.services ∧
    Counted state.runId requests results ∧
    results.length = state.services.length ∧
    state.resultEvents = results.map PublishedResult.event

/-- What holds of the results before each node. -/
structure Tallies (requests : List PublishedRequest)
    (coordinator : Coordinator) : Prop where
  few : ∀ results, coordinator.phase = .waitForCompletionEvents results →
    results.length ≤ coordinator.state.expectedResults
  tallied : coordinator.phase.tallied = true →
    Tallied requests coordinator.state

section

variable {graph : SystemOptimizationGraph} {requests : List PublishedRequest}
  {coordinator after : Coordinator}

theorem Tallied.append {state : SystemGraphState} {request : PublishedRequest}
    (tallied : Tallied requests state)
    (foreign : request.event.runId ≠ state.runId) :
    Tallied (requests ++ [request]) state := by
  obtain ⟨results, requested, counted, length, events⟩ := tallied
  refine ⟨results, ?_, counted.grow, length, events⟩
  rw [Requested, ownRequests_append_foreign foreign]
  exact requested

theorem Tallies.proceed {published : Published}
    {next : Coordinator × Published}
    (tallies : Tallies published.requests coordinator)
    (sound : CoordinatorSound published.requests coordinator)
    (goesOn : Tallying coordinator published next) :
    Tallies next.2.requests next.1 := by
  cases goesOn with
  | apart uncounted notWaiting =>
      constructor
      · exact fun results waits => absurd waits (notWaiting results)
      · intro tallied
        rw [uncounted] at tallied
        cases tallied
  | begins waits =>
      constructor
      · intro results same
        rw [waits] at same
        cases same
        exact Nat.zero_le _
      · intro tallied
        rw [waits] at tallied
        cases tallied
  | @counts results waits enough same =>
      subst same
      obtain ⟨phase, state⟩ := coordinator
      cases waits
      obtain ⟨requested, expected, counted⟩ := sound
      have few := tallies.few results rfl
      have all : results.length = state.services.length :=
        (Nat.le_antisymm few (Nat.le_of_not_lt enough)).trans expected
      constructor
      · intro others same
        cases same
      · exact fun _ => ⟨results, requested, counted, all, rfl⟩
  | keeps before later runId services resultEvents same =>
      constructor
      · intro results waits
        rw [waits] at later
        cases later
      · intro _
        rw [Tallied, same, runId, services, resultEvents]
        exact tallies.tallied before

theorem tallies_failed {failure : PyException} {state : SystemGraphState} :
    Tallies requests ⟨.failed failure, state⟩ := by
  constructor
  · intro results same
    cases same
  · intro tallied
    cases tallied

/-- The turn of the waiting loop fails, passes a result over, or counts
it. -/
theorem collect_cases {fate : Fate} {result : PublishedResult}
    (step : SystemOptimizationGraph.collect fate result coordinator =
      some after) :
    ∃ results, coordinator.phase = .waitForCompletionEvents results ∧
      results.length < coordinator.state.expectedResults ∧
      ((∃ failure, after = ⟨.failed failure, coordinator.state⟩) ∨
        after = coordinator ∨
        after = ⟨.waitForCompletionEvents (results ++ [result]),
          coordinator.state⟩) := by
  obtain ⟨phase, state⟩ := coordinator
  cases phase with
  | waitForCompletionEvents results =>
      simp only [SystemOptimizationGraph.collect] at step
      split at step
      · rename_i waits
        split at step
        · cases step
          exact ⟨results, rfl, waits, Or.inl ⟨_, rfl⟩⟩
        · split at step
          · cases step
            exact ⟨results, rfl, waits, Or.inr (Or.inr rfl)⟩
          · cases step
            exact ⟨results, rfl, waits, Or.inr (Or.inl rfl)⟩
      · cases step
  | _ => cases step

theorem collect_tallies {fate : Fate} {result : PublishedResult}
    (tallies : Tallies requests coordinator)
    (step : SystemOptimizationGraph.collect fate result coordinator =
      some after) : Tallies requests after := by
  obtain ⟨results, -, waits, ⟨failure, rfl⟩ | rfl | rfl⟩ := collect_cases step
  · exact tallies_failed
  · exact tallies
  · constructor
    · intro others same
      cases same
      rw [List.length_append]
      exact waits
    · intro tallied
      cases tallied

theorem timeOut_fails
    (step : SystemOptimizationGraph.timeOut coordinator = some after) :
    (∃ results, coordinator.phase = .waitForCompletionEvents results) ∧
      ∃ failure, after = ⟨.failed failure, coordinator.state⟩ := by
  obtain ⟨phase, state⟩ := coordinator
  cases phase with
  | waitForCompletionEvents results =>
      simp only [SystemOptimizationGraph.timeOut] at step
      split at step
      · cases step
        exact ⟨⟨results, rfl⟩, _, rfl⟩
      · cases step
  | _ => cases step

end

/-- A counted result was counted before, or is the one that is collected. -/
theorem collect_counts {fate : Fate} {result counted : PublishedResult}
    {coordinator after : Coordinator} {results : List PublishedResult}
    (step : SystemOptimizationGraph.collect fate result coordinator =
      some after)
    (waits : after.phase = .waitForCompletionEvents results)
    (member : counted ∈ results) :
    counted = result ∨ ∃ earlier,
      coordinator.phase = .waitForCompletionEvents earlier ∧
        counted ∈ earlier := by
  obtain ⟨earlier, waited, -, ⟨failure, rfl⟩ | rfl | rfl⟩ := collect_cases step
  · cases waits
  · exact Or.inr ⟨results, waits, member⟩
  · cases waits
    cases List.mem_append.mp member with
    | inl before => exact Or.inr ⟨earlier, waited, before⟩
    | inr new => exact Or.inl (List.mem_singleton.mp new)

theorem mem_counted_iff {state : SystemState ι σ} {result : PublishedResult} :
    result ∈ state.counted ↔ ∃ results,
      state.coordinator.phase = .waitForCompletionEvents results ∧
        result ∈ results := by
  rw [SystemState.counted]
  cases phase : state.coordinator.phase with
  | waitForCompletionEvents results =>
      constructor
      · exact fun member => ⟨results, rfl, member⟩
      · rintro ⟨others, same, member⟩
        cases same
        exact member
  | _ =>
      constructor
      · intro member
        cases member
      · rintro ⟨others, same, -⟩
        cases same

/-- Everything that the coordinator counts is known. -/
structure Knows (known : EventEnvelope → Prop) (coordinator : Coordinator) :
    Prop where
  counted : ∀ results, coordinator.phase = .waitForCompletionEvents results →
    ∀ result ∈ results, known result.event
  tallied : coordinator.phase.tallied = true →
    ∀ event ∈ coordinator.state.resultEvents, known event

section

variable {known : EventEnvelope → Prop} {coordinator after : Coordinator}

theorem Knows.proceed {published : Published}
    {next : Coordinator × Published} (knows : Knows known coordinator)
    (goesOn : Tallying coordinator published next) : Knows known next.1 := by
  constructor
  · intro results waits result member
    rw [goesOn.nothing_counted waits] at member
    cases member
  · intro tallied event member
    cases goesOn with
    | apart uncounted =>
        rw [uncounted] at tallied
        cases tallied
    | begins waits =>
        rw [waits] at tallied
        cases tallied
    | @counts results waits enough same =>
        rw [same] at member
        obtain ⟨result, among, rfl⟩ := List.mem_map.mp member
        exact knows.counted results waits result among
    | keeps before later runId services resultEvents =>
        rw [resultEvents] at member
        exact knows.tallied before event member

theorem Knows.collect {fate : Fate} {result : PublishedResult}
    (knows : Knows known coordinator) (new : known result.event)
    (step : SystemOptimizationGraph.collect fate result coordinator =
      some after) : Knows known after := by
  constructor
  · intro results waits counted member
    rcases collect_counts step waits member with rfl | ⟨earlier, waited, among⟩
    · exact new
    · exact knows.counted earlier waited counted among
  · intro tallied
    obtain ⟨results, -, -, ⟨failure, rfl⟩ | rfl | rfl⟩ := collect_cases step
    · cases tallied
    · exact knows.tallied tallied
    · cases tallied

end

/-- All that holds of a run in which messages are handed out once. -/
structure OnceSound (run : SystemState ι σ × HandedOut) : Prop where
  sound : SystemSound run.1
  single : Single run.1 run.2
  tallies : Tallies run.1.published.requests run.1.coordinator

theorem SystemState.Fresh.onceSound {state : SystemState ι σ}
    (fresh : state.Fresh) : OnceSound (state, {}) := by
  refine ⟨fresh.opened.sound, fresh.single, ?_⟩
  constructor
  · intro results waits
    rw [fresh.opened.begins] at waits
    cases waits
  · intro tallied
    rw [fresh.opened.begins] at tallied
    cases tallied

section

variable [DecidableEq ι] {graph : SystemOptimizationGraph}
  {workers : ι → OptimizationWorker σ}

theorem act_tallies {state next : SystemState ι σ} {action : PoolAction ι}
    (tallies : Tallies state.published.requests state.coordinator)
    (step : state.act workers action = some next) :
    Tallies next.published.requests next.coordinator := by
  obtain ⟨pool, -, rfl⟩ := Option.map_eq_some_iff.mp step
  exact tallies

theorem onceStep_sound (run : SystemState ι σ × HandedOut)
    (action : SystemAction ι) (next : SystemState ι σ × HandedOut)
    (before : OnceSound run)
    (step : onceStep graph workers run action = some next) :
    OnceSound next := by
  obtain ⟨state, out⟩ := run
  obtain ⟨sound, single, tallies⟩ := before
  simp only [onceStep] at step
  split at step
  · rename_i permits
    obtain ⟨after, stepped, rfl⟩ := Option.map_eq_some_iff.mp step
    have soundAfter := systemStep_sound state action after sound
      (single.unanswered permits.1) stepped
    suffices rest : Single after (out.note action) ∧
        Tallies after.published.requests after.coordinator by
      exact ⟨soundAfter, rest.1, rest.2⟩
    cases action with
    | proceed tick =>
        obtain ⟨⟨coordinator, published⟩, proceeded, rfl⟩ :=
          Option.map_eq_some_iff.mp stepped
        have goesOn := proceed_tallying proceeded
        refine ⟨⟨single.circulates, single.taken, ?_⟩,
          tallies.proceed sound.coordinator goesOn⟩
        intro result member
        obtain ⟨results, waits, among⟩ := mem_counted_iff.mp member
        rw [goesOn.nothing_counted waits] at among
        cases among
    | collect position fate =>
        simp only [systemStep] at stepped
        split at stepped
        · cases stepped
        · rename_i result present
          obtain ⟨coordinator, collected, rfl⟩ :=
            Option.map_eq_some_iff.mp stepped
          refine ⟨⟨single.circulates, single.taken, ?_⟩,
            collect_tallies tallies collected⟩
          intro counted member
          obtain ⟨results, waits, among⟩ := mem_counted_iff.mp member
          rcases collect_counts collected waits among with
            rfl | ⟨earlier, waited, counted⟩
          · refine ⟨position, List.mem_cons_self, ?_⟩
            rw [Shared.answered, List.getElem?_map, present]
            rfl
          · obtain ⟨other, handedOut, answered⟩ :=
              single.counted _ (mem_counted_iff.mpr ⟨earlier, waited, counted⟩)
            exact ⟨other, List.mem_cons_of_mem _ handedOut, answered⟩
    | timeOut =>
        obtain ⟨coordinator, timedOut, rfl⟩ :=
          Option.map_eq_some_iff.mp stepped
        obtain ⟨-, failure, rfl⟩ := timeOut_fails timedOut
        exact ⟨⟨single.circulates, single.taken, fun _ => by rintro ⟨⟩⟩,
          tallies_failed⟩
    | request request =>
        simp only [systemStep] at stepped
        split at stepped
        · cases stepped
        · rename_i foreign
          cases stepped
          refine ⟨⟨single.circulates, single.taken, single.counted⟩,
            tallies.few, fun tallied => ?_⟩
          exact (tallies.tallied tallied).append foreign
    | deliver worker record deliveryCount =>
        simp only [systemStep] at stepped
        split at stepped
        · cases stepped
        · rename_i request present
          have fresh :
              (request.delivered record deliveryCount).record ∉
                out.requests := permits.1
          exact ⟨single.deliver fresh stepped, act_tallies tallies stepped⟩
    | redeliver worker index =>
        simp only [systemStep] at stepped
        split at stepped
        · cases stepped
        · rename_i message present
          exact ⟨single.redeliver permits.1 present stepped,
            act_tallies tallies stepped⟩
    | tick worker tick =>
        refine ⟨single.move stepped ?_, act_tallies tallies stepped⟩
        exact fun _ advanced => advance_recordMove permits.2 advanced
    | crash worker =>
        refine ⟨single.move stepped ?_, act_tallies tallies stepped⟩
        exact fun _ crashed => crash_recordMove crashed
    | call worker call =>
        refine ⟨?_, act_tallies tallies stepped⟩
        obtain ⟨pool, called, rfl⟩ := Option.map_eq_some_iff.mp stepped
        obtain ⟨same, world, shared⟩ := poolStep_call called
        obtain ⟨workersAfter, sharedAfter⟩ := pool
        cases same
        cases shared
        exact ⟨single.circulates, single.taken, single.counted⟩
  · cases step

end

/-- How a result names a requested task. -/
def taskName : Except PyException String → Json
  | .ok taskId => .string taskId
  | .error _ => .null

/-- The task that is requested at a record. -/
def taskAt (requests : List PublishedRequest) (record : Nat) : Json :=
  (requests[record]?.map fun request =>
    taskName (payloadText request.event.payload "task_id")).getD .null

section

variable {requests : List PublishedRequest} {runId : String}
  {services : List ServiceContext} {results : List PublishedResult}

theorem Counted.task (counted : Counted runId requests results)
    {result : PublishedResult} (member : result ∈ results) :
    result.event.payload.field "task_id" =
      taskAt requests result.origin := by
  obtain ⟨-, payload, taskId, ⟨request, present, -, rfl⟩, asked, named⟩ :=
    counted.own result member
  rw [taskAt, present, Option.map_some, asked]
  exact named

theorem Requested.tasks (requested : Requested runId requests services) :
    ((ownRequests runId requests).map Prod.snd).map (taskAt requests) =
      services.map fun service => .string (taskIdOf runId service) := by
  have recorded : ∀ entry ∈ ownRequests runId requests,
      taskAt requests entry.2 =
        taskName (payloadText entry.1.event.payload "task_id") := by
    rintro ⟨request, record⟩ member
    rw [taskAt, (mem_ownRequests_iff.mp member).1]
    rfl
  have tasks := congrArg (List.map taskName) requested
  rw [List.map_map, List.map_map] at tasks
  rw [List.map_map]
  exact (List.map_congr_left recorded).trans tasks

/-- As many answers as requests name the tasks of all services. -/
theorem Counted.tasks (counted : Counted runId requests results)
    (requested : Requested runId requests services)
    (all : results.length = services.length) :
    (results.map fun result => result.event.payload.field "task_id").Perm
      (services.map fun service => .string (taskIdOf runId service)) := by
  have answered : results.map PublishedResult.origin ⊆
      (ownRequests runId requests).map Prod.snd := by
    intro origin member
    obtain ⟨result, among, rfl⟩ := List.mem_map.mp member
    exact counted.record_mem among
  have records := (List.subperm_of_subset counted.distinct answered)
    |>.perm_of_length_le (by simp [all, requested.length])
  have tasks := records.map (taskAt requests)
  rw [requested.tasks, List.map_map] at tasks
  rw [List.map_congr_left fun _ => counted.task]
  exact tasks

end

section

variable [DecidableEq ι] {graph : SystemOptimizationGraph}
  {workers : ι → OptimizationWorker σ}

/-- Where every message is handed out once, and no call of a worker fails from
the publication of a result on, the results of a run that returns are one for
each service, whatever fails before and whoever dies; and in a run that passes
the system all of them are accepted. -/
theorem results_are_counted_once {start final : SystemState ι σ}
    {out : HandedOut} {actions : List (SystemAction ι)} (fresh : start.Fresh)
    (played : play (onceStep graph workers) (start, {}) actions =
      some (final, out)) :
    ∀ result, final.coordinator.result = some result →
      (result.results.map fun event => event.payload.field "task_id").Perm
          (result.services.map fun service =>
            .string (taskIdOf result.runId service)) ∧
        (result.systemPassed = true →
          ∀ event ∈ result.results, accepted event.payload = true) := by
  have once := @invariant_play _ _ (onceStep graph workers)
    (fun _ _ => True) OnceSound
    (fun run action next before _ step =>
      onceStep_sound run action next before step)
    _ _ _ fresh.onceSound (meets_of_forall (fun _ _ _ => trivial) _) played
  intro result returned
  obtain ⟨⟨phase, state⟩, published, pool⟩ := final
  cases phase with
  | ended =>
      cases returned
      obtain ⟨results, requested, counted, all, events⟩ :=
        once.tallies.tallied rfl
      constructor
      · have tasks := counted.tasks requested all
        rw [events, List.map_map]
        exact tasks
      · exact fun passed => (once.sound.coordinator passed).accepted
  | _ => cases returned

end

/-- Both workers are given a request; the second one cannot store its result
and its request is put back, and the first one takes it. -/
def retriedOnceRun : List (SystemAction (Fin 2)) :=
  proceeds 6 ++ [.deliver 0 0 1, .deliver 1 1 1] ++ workerTicks 0 9 ++
    workerTicks 1 5 ++
    [.tick 1 { fate := .raises ⟨.other "OSError", ""⟩ false }] ++
    workerTicks 1 3 ++ [.redeliver 0 0] ++ workerTicks 0 9 ++
    [.collect 1 .returns, .collect 0 .returns] ++ proceeds 5

/-- The retried request is answered once. -/
theorem results_are_counted_once_shop :
    ∃ final out result,
      play (onceStep shopGraph shopWorkers) (shopStart, {}) retriedOnceRun =
        some (final, out) ∧
      final.coordinator.result = some result ∧
      result.systemPassed = true ∧
      (result.results.map fun event =>
        event.payload.field "task_id").Perm
          [.string "run:web", .string "run:api"] := by
  obtain ⟨final, out, result, played, returned, passed, services, runId⟩ :
      ∃ final out result,
        play (onceStep shopGraph shopWorkers) (shopStart, {})
          retriedOnceRun = some (final, out) ∧
        final.coordinator.result = some result ∧
        result.systemPassed = true ∧
        result.services = [shopService "web", shopService "api"] ∧
        result.runId = "run" :=
    ⟨_, _, _, rfl, rfl, rfl, rfl, rfl⟩
  refine ⟨final, out, result, played, returned, passed, ?_⟩
  have once := (results_are_counted_once ⟨shopStart_opened, rfl, rfl⟩ played
    result returned).1
  rw [services, runId] at once
  exact once

end Kuber.System
