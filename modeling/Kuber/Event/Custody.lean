import Kuber.Event.Delivery

/-!
# Custody of delivered events

The in-memory bus together with the iterators of its consumers, which may end
at any point.  A message that was taken from a queue is nowhere but with its
consumer until it is acknowledged or put back, so every event stays deliverable
exactly as long as no consumer ends in between.
-/

namespace Kuber.Event

open Kuber.Library Kuber.Rules InMemoryEventBus

/-- An iterator of `consume`, which is running until it is closed or the task
that reads it is cancelled. -/
structure GroupConsumer where
  topic : String
  group : String
  consumerId : String
  running : Bool := true

/-- A claimed message, the consumer it was given to, and whether it was put
back since. -/
structure Claim where
  message : InMemoryEventBus.ConsumedEvent
  holder : Nat
  returned : Bool := false

structure CustodyState where
  bus : InMemoryEventBus
  consumers : List GroupConsumer := []
  claims : List Claim := []

/-- Consumers and claims are named by their positions.  A dead letter is a
publication followed by an acknowledgement. -/
inductive CustodyAction where
  | publish (topic key : String) (event : EventEnvelope)
  | consume (topic group consumerId : String)
  | take (consumer : Nat)
  | acknowledge (claim : Nat)
  | retry (claim : Nat) (reason : String) (stamp : Stamp)
  | terminate (consumer : Nat)

namespace CustodyState

/-- The state as the bus alone sees it. -/
def view (state : CustodyState) : BusState :=
  ⟨state.bus, state.claims.map Claim.message⟩

def publish (state : CustodyState) (topic key : String)
    (event : EventEnvelope) : CustodyState :=
  match state.bus.publish topic event key with
  | .ok (_, bus) => { state with bus := bus }
  | .error _ => state

def consume (state : CustodyState) (topic group consumerId : String) :
    CustodyState :=
  match state.bus.consume topic group consumerId with
  | .ok bus =>
      { state with
        bus := bus
        consumers := state.consumers ++ [⟨topic, group, consumerId, true⟩] }
  | .error _ => state

/-- A running consumer takes the next message of its queue. -/
def take (state : CustodyState) (index : Nat) : Option CustodyState :=
  match state.consumers[index]? with
  | none => none
  | some consumer =>
      if consumer.running = true then
        (state.bus.take consumer.topic consumer.group consumer.consumerId).map
          fun (claimed, bus) =>
            { state with
              bus := bus
              claims := state.claims ++
                claimed.toList.map fun message => ⟨message, index, false⟩ }
      else none

def retry (state : CustodyState) (index : Nat) (claim : Claim)
    (reason : String) (stamp : Stamp) : CustodyState :=
  match state.bus.retry claim.message reason stamp with
  | .ok bus =>
      { state with
        bus := bus
        claims := state.claims.set index { claim with returned := true } }
  | .error _ => state

end CustodyState

def custodyStep (state : CustodyState) : CustodyAction → Option CustodyState
  | .publish topic key event => some (state.publish topic key event)
  | .consume topic group consumerId =>
      some (state.consume topic group consumerId)
  | .take index => state.take index
  | .acknowledge index =>
      state.claims[index]?.map fun claim =>
        { state with bus := state.bus.acknowledge claim.message }
  | .retry index reason stamp =>
      state.claims[index]?.map fun claim =>
        state.retry index claim reason stamp
  | .terminate index =>
      state.consumers[index]?.map fun consumer =>
        { state with
          consumers :=
            state.consumers.set index { consumer with running := false } }

/-- What identifies an event for a group. -/
def deliveryKey (published : PublishedEvent) (group : String) :
    String × String × Nat × Nat :=
  (published.topic, group, published.partition, published.offset)

/-- The event is acknowledged for the group, or waits in its queue, or is with
a running consumer of the group. -/
inductive InCustody (state : CustodyState) (topic group : String)
    (key : String × String × Nat × Nat) : Prop where
  | acknowledged (settled : key ∈ state.bus.acknowledged)
  | queued {queue : Queue} {message : InMemoryEventBus.ConsumedEvent}
      (owned : state.bus.queues.get? (topic, group) = some queue)
      (waiting : message ∈ queue.waiting)
      (same : ackKey message group = key)
  | claimed {index : Nat} {claim : Claim} {consumer : GroupConsumer}
      (present : state.claims[index]? = some claim)
      (holder : state.consumers[claim.holder]? = some consumer)
      (running : consumer.running = true)
      (member : consumer.topic = topic ∧ consumer.group = group)
      (kept : claim.returned = false)
      (addressed : claim.message.consumerGroup = group)
      (same : ackKey claim.message group = key)

/-- No published event is lost to a subscribed group. -/
def Conserved (state : CustodyState) : Prop :=
  ∀ topic group queue, state.bus.queues.get? (topic, group) = some queue →
    ∀ published ∈ state.bus.topicEvents topic,
      InCustody state topic group (deliveryKey published group)

/-- A consumer ends only when each message it was given is acknowledged for
its group or was put back by it. -/
def Orderly (state : CustodyState) : CustodyAction → Prop
  | .terminate index =>
      ∀ claim ∈ state.claims, claim.holder = index →
        claim.returned = true ∨
          ackKey claim.message claim.message.consumerGroup ∈
            state.bus.acknowledged
  | _ => True

instance Orderly.decidable (state : CustodyState) :
    ∀ action, Decidable (Orderly state action)
  | .terminate index =>
      inferInstanceAs (Decidable (∀ claim ∈ state.claims,
        claim.holder = index → claim.returned = true ∨
          ackKey claim.message claim.message.consumerGroup ∈
            state.bus.acknowledged))
  | .publish .. | .consume .. | .take _ | .acknowledge _ | .retry .. =>
      .isTrue trivial

/-- The queue of a new group. -/
def InMemoryEventBus.replay (bus : InMemoryEventBus) (topic group : String) :
    Queue :=
  { waiting := (bus.topicEvents topic).map fun item => consumed item group "" }

theorem get?_setQueue_self (bus : InMemoryEventBus) (topic group : String)
    (queue : Queue) :
    (bus.setQueue topic group queue).queues.get? (topic, group) =
      some queue := by
  rw [setQueue, OrderedDict.get?_set, if_pos rfl]

theorem get?_setQueue_of_ne (bus : InMemoryEventBus) (queue : Queue)
    {topic group : String} {groupKey : String × String}
    (other : groupKey ≠ (topic, group)) :
    (bus.setQueue topic group queue).queues.get? groupKey =
      bus.queues.get? groupKey := by
  rw [setQueue, OrderedDict.get?_set, if_neg other]

section

variable {state next : CustodyState} {action : CustodyAction}

/-- Every step is a call of the bus, or changes nothing of it. -/
theorem custodyStep_view (step : custodyStep state action = some next) :
    next.view = state.view ∨
      ∃ call, busStep state.view call = some next.view := by
  cases action with
  | publish topic key event =>
      cases step
      refine Or.inr ⟨.publish topic key event, ?_⟩
      simp only [busStep, CustodyState.view, CustodyState.publish]
      cases state.bus.publish topic event key with
      | error failure => rfl
      | ok pair => rfl
  | consume topic group consumerId =>
      cases step
      refine Or.inr ⟨.consume topic group consumerId, ?_⟩
      simp only [busStep, CustodyState.view, CustodyState.consume]
      cases state.bus.consume topic group consumerId with
      | error failure => rfl
      | ok bus => rfl
  | take index =>
      simp only [custodyStep, CustodyState.take] at step
      split at step
      · cases step
      · rename_i consumer _
        split at step
        · obtain ⟨⟨claimed, bus⟩, taken, rfl⟩ := Option.map_eq_some_iff.mp step
          refine Or.inr ⟨.take consumer.topic consumer.group
            consumer.consumerId, ?_⟩
          simp only [busStep, CustodyState.view, taken, Option.map_some,
            List.map_append, List.map_map]
          congr 3
          exact (List.map_id _).symm
        · cases step
  | acknowledge index =>
      obtain ⟨claim, present, rfl⟩ := Option.map_eq_some_iff.mp step
      refine Or.inr ⟨.acknowledge index, ?_⟩
      simp [busStep, CustodyState.view, present]
  | retry index reason stamp =>
      obtain ⟨claim, present, rfl⟩ := Option.map_eq_some_iff.mp step
      refine Or.inr ⟨.retry index reason stamp, ?_⟩
      simp only [busStep, CustodyState.view, CustodyState.retry,
        List.getElem?_map, present, Option.map_some]
      cases state.bus.retry claim.message reason stamp with
      | error failure => rfl
      | ok bus =>
          simp only [BusState.after, List.map_set]
          congr 2
          obtain ⟨bound, rfl⟩ := List.getElem?_eq_some_iff.mp present
          rw [← List.map_set, List.set_getElem_self]
  | terminate index =>
      obtain ⟨consumer, present, rfl⟩ := Option.map_eq_some_iff.mp step
      exact Or.inl rfl

variable {topic group : String} {key : String × String × Nat × Nat}

/-- A step that forgets no acknowledgement, takes nothing from a queue and
neither ends a consumer nor settles a claim keeps all events in custody. -/
theorem InCustody.of_grows (custody : InCustody state topic group key)
    (remembers : state.bus.acknowledged ⊆ next.bus.acknowledged)
    (queues : ∀ queue, state.bus.queues.get? (topic, group) = some queue →
      ∃ later, next.bus.queues.get? (topic, group) = some later ∧
        queue.waiting ⊆ later.waiting)
    (claims : state.claims <+: next.claims)
    (consumers : state.consumers <+: next.consumers) :
    InCustody next topic group key := by
  cases custody with
  | acknowledged settled => exact .acknowledged (remembers settled)
  | queued owned waiting same =>
      obtain ⟨later, laterOwned, subset⟩ := queues _ owned
      exact .queued laterOwned (subset waiting) same
  | claimed present holder running member kept addressed same =>
      exact .claimed (getElem?_of_grows claims present)
        (getElem?_of_grows consumers holder) running member kept addressed same

theorem waiting_subset_fanOut (published : PublishedEvent)
    (groupKey : String × String) (queue : Queue) :
    queue.waiting ⊆ (fanOut published groupKey queue).waiting := by
  rw [fanOut]
  split
  · exact List.subset_append_left _ _
  · exact List.Subset.refl _

theorem record_conserves (conserved : Conserved state)
    (published : PublishedEvent) :
    Conserved { state with bus := state.bus.record published } := by
  intro topic group queue owned other recorded
  rw [get?_record] at owned
  obtain ⟨earlier, earlierOwned, rfl⟩ := Option.map_eq_some_iff.mp owned
  have before : other ∈ state.bus.topicEvents topic →
      InCustody { state with bus := state.bus.record published } topic group
        (deliveryKey other group) := by
    intro known
    apply (conserved topic group earlier earlierOwned other known).of_grows
    · exact Finset.Subset.refl _
    · intro queue owned
      refine ⟨fanOut published (topic, group) queue, ?_,
        waiting_subset_fanOut _ _ _⟩
      rw [get?_record, owned]
      rfl
    · exact List.prefix_rfl
    · exact List.prefix_rfl
  rw [topicEvents_record] at recorded
  split at recorded
  · rename_i own
    rcases List.mem_append.mp recorded with known | new
    · exact before known
    · rw [List.mem_singleton.mp new]
      have delivered : consumed published "" "" ∈
          (fanOut published (topic, group) earlier).waiting := by
        rw [fanOut, if_pos own]
        exact List.mem_append_right _ (List.mem_singleton_self _)
      refine .queued ?_ delivered rfl
      rw [get?_record, earlierOwned]
      rfl
  · exact before recorded

theorem publish_conserves (conserved : Conserved state) (topic key : String)
    (event : EventEnvelope) : Conserved (state.publish topic key event) := by
  rw [CustodyState.publish, InMemoryEventBus.publish]
  by_cases unkeyed : key = ""
  · rw [if_pos unkeyed]
    exact conserved
  · rw [if_neg unkeyed]
    by_cases closed : state.bus.closed = true
    · rw [if_pos closed]
      exact conserved
    · rw [if_neg closed]
      exact record_conserves conserved _

theorem consume_cases {bus after : InMemoryEventBus} {consumerId : String}
    (ok : bus.consume topic group consumerId = .ok after) :
    after = bus ∨ after = bus.setQueue topic group (replay bus topic group) := by
  rw [InMemoryEventBus.consume] at ok
  split at ok
  · cases ok
  · exact subscribe_cases ok

theorem consume_conserves (conserved : Conserved state)
    (topic group consumerId : String) :
    Conserved (state.consume topic group consumerId) := by
  rw [CustodyState.consume]
  cases ok : state.bus.consume topic group consumerId with
  | error failure => exact conserved
  | ok bus =>
      dsimp only
      rcases consume_cases ok with rfl | rfl
      · intro topic group queue owned published recorded
        exact (conserved topic group queue owned published recorded).of_grows
          (Finset.Subset.refl _)
          (fun queue owned => ⟨queue, owned, List.Subset.refl _⟩)
          List.prefix_rfl (List.prefix_append _ _)
      · intro other otherGroup queue owned published recorded
        change published ∈ state.bus.topicEvents other at recorded
        by_cases same : (other, otherGroup) = (topic, group)
        · cases same
          exact .queued (get?_setQueue_self _ _ _ _)
            (List.mem_map_of_mem recorded) rfl
        · have kept := get?_setQueue_of_ne state.bus
            (replay state.bus topic group) same
          refine (conserved other otherGroup queue (kept ▸ owned) published
            recorded).of_grows (Finset.Subset.refl _) ?_ List.prefix_rfl
              (List.prefix_append _ _)
          exact fun found present =>
            ⟨found, kept.trans present, List.Subset.refl _⟩

theorem take_conserves (conserved : Conserved state) {index : Nat}
    (taken : state.take index = some next) : Conserved next := by
  rw [CustodyState.take] at taken
  split at taken
  · cases taken
  · rename_i consumer present
    split at taken
    · rename_i running
      obtain ⟨⟨claimed, bus⟩, took, rfl⟩ := Option.map_eq_some_iff.mp taken
      obtain ⟨source, head, rest, sourceOwned, waiting, rfl, result⟩ :=
        take_cases took
      intro topic group queue owned published recorded
      change published ∈ state.bus.topicEvents topic at recorded
      by_cases own : (topic, group) = (consumer.topic, consumer.group)
      · cases own
        cases conserved _ _ source sourceOwned published recorded with
        | acknowledged settled => exact .acknowledged settled
        | claimed present holder running member kept addressed same =>
            exact .claimed
              (getElem?_of_grows (List.prefix_append _ _) present)
              holder running member kept addressed same
        | queued found waits same =>
            rw [sourceOwned] at found
            cases found
            rw [waiting] at waits
            rcases List.mem_cons.mp waits with rfl | later
            · rcases result with ⟨rfl, settled⟩ | ⟨rfl, -⟩
              · exact .acknowledged (same ▸ settled)
              · exact .claimed List.getElem?_concat_length present running
                  ⟨rfl, rfl⟩ rfl rfl same
            · exact .queued (get?_setQueue_self _ _ _ _) later same
      · have kept := get?_setQueue_of_ne state.bus
          ⟨source.taken ++ [head], rest⟩ own
        refine (conserved topic group queue (kept ▸ owned) published
          recorded).of_grows (Finset.Subset.refl _) ?_
            (List.prefix_append _ _) List.prefix_rfl
        exact fun found present =>
          ⟨found, kept.trans present, List.Subset.refl _⟩
    · cases taken

theorem acknowledge_conserves (conserved : Conserved state)
    (message : InMemoryEventBus.ConsumedEvent) :
    Conserved { state with bus := state.bus.acknowledge message } := by
  intro topic group queue owned published recorded
  exact (conserved topic group queue owned published recorded).of_grows
    (Finset.subset_insert _ _)
    (fun queue owned => ⟨queue, owned, List.Subset.refl _⟩)
    List.prefix_rfl List.prefix_rfl

theorem retry_conserves (conserved : Conserved state)
    (sound : BusSound state.bus) {index : Nat} {claim : Claim}
    (present : state.claims[index]? = some claim) (reason : String)
    (stamp : Stamp) : Conserved (state.retry index claim reason stamp) := by
  rw [CustodyState.retry]
  cases ok : state.bus.retry claim.message reason stamp with
  | error failure => exact conserved
  | ok bus =>
      dsimp only
      obtain ⟨source, sourceOwned, rfl⟩ := retry_cases ok
      intro topic group queue owned published recorded
      change published ∈ state.bus.topicEvents topic at recorded
      have others : ∀ position other, position ≠ index →
          state.claims[position]? = some other →
          (state.claims.set index { claim with returned := true
            })[position]? = some other := by
        intro position other different found
        rw [List.getElem?_set_ne different.symm, found]
      by_cases own : (topic, group) =
          (claim.message.topic, claim.message.consumerGroup)
      · cases own
        have put := get?_setQueue_self state.bus claim.message.topic
          claim.message.consumerGroup
          (source.put (claim.message.retried stamp))
        cases conserved _ _ source sourceOwned published recorded with
        | acknowledged settled => exact .acknowledged settled
        | queued found waits same =>
            rw [sourceOwned] at found
            cases found
            exact .queued put (List.mem_append_left _ waits) same
        | @claimed position other keeper found holder running member kept
            addressed same =>
            by_cases ours : position = index
            · subst ours
              rw [present] at found
              cases found
              exact .queued put
                (List.mem_append_right _ (List.mem_singleton_self _)) same
            · exact .claimed (others position other ours found) holder
                running member kept addressed same
      · have unchanged := get?_setQueue_of_ne state.bus
          (source.put (claim.message.retried stamp)) own
        rw [unchanged] at owned
        cases conserved topic group queue owned published recorded with
        | acknowledged settled => exact .acknowledged settled
        | queued found waits same =>
            exact .queued (unchanged.trans found) waits same
        | @claimed position other keeper found holder running member kept
            addressed same =>
            refine .claimed (others position other ?_ found) holder running
              member kept addressed same
            -- a claim of this queue is none of the message that went back
            intro ours
            rw [ours, present] at found
            cases found
            have filed := ((sound.logs topic).filed published recorded).topic
            have sameTopic : claim.message.topic = published.topic :=
              congrArg Prod.fst same
            exact own (by rw [sameTopic, filed, addressed])

theorem terminate_conserves (conserved : Conserved state) {index : Nat}
    (consumer : GroupConsumer)
    (orderly : Orderly state (.terminate index)) :
    Conserved { state with
      consumers := state.consumers.set index
        { consumer with running := false } } := by
  intro topic group queue owned published recorded
  cases conserved topic group queue owned published recorded with
  | acknowledged settled => exact .acknowledged settled
  | queued owned waiting same => exact .queued owned waiting same
  | @claimed position claim keeper claimPresent holder running member kept
      addressed same =>
      by_cases ends : claim.holder = index
      · rcases orderly claim (List.mem_of_getElem? claimPresent) ends with
          returned | settled
        · rw [kept] at returned
          cases returned
        · rw [addressed, same] at settled
          exact .acknowledged settled
      · refine .claimed claimPresent ?_ running member kept addressed same
        rw [List.getElem?_set_ne (Ne.symm ends)]
        exact holder

/-- Every orderly step keeps all events in custody. -/
theorem custodyStep_conserves (conserved : Conserved state)
    (sound : state.view.Sound) (orderly : Orderly state action)
    (step : custodyStep state action = some next) : Conserved next := by
  cases action with
  | publish topic key event =>
      cases step
      exact publish_conserves conserved topic key event
  | consume topic group consumerId =>
      cases step
      exact consume_conserves conserved topic group consumerId
  | take index => exact take_conserves conserved step
  | acknowledge index =>
      obtain ⟨claim, -, rfl⟩ := Option.map_eq_some_iff.mp step
      exact acknowledge_conserves conserved claim.message
  | retry index reason stamp =>
      obtain ⟨claim, present, rfl⟩ := Option.map_eq_some_iff.mp step
      exact retry_conserves conserved sound.bus present reason stamp
  | terminate index =>
      obtain ⟨consumer, -, rfl⟩ := Option.map_eq_some_iff.mp step
      exact terminate_conserves conserved consumer orderly

theorem custodyStep_sound (sound : state.view.Sound)
    (step : custodyStep state action = some next) : next.view.Sound := by
  rcases custodyStep_view step with same | ⟨call, called⟩
  · exact same ▸ sound
  · exact (busStep_advances sound called).sound

/-- A new bus without consumers. -/
def CustodyState.opened (partitions : Nat) (positive : 1 ≤ partitions) :
    CustodyState :=
  ⟨{ partitions := partitions, positive := positive }, [], []⟩

/-- In every run in which consumers end in order, no published event is lost
to a group that has subscribed: it is acknowledged for the group, waits in its
queue or is with a running consumer of the group. -/
theorem events_stay_in_custody {partitions : Nat} {positive : 1 ≤ partitions}
    {actions : List CustodyAction} {final : CustodyState}
    (orderly : Meets custodyStep Orderly
      (CustodyState.opened partitions positive) actions)
    (played : play custodyStep (CustodyState.opened partitions positive)
      actions = some final) : Conserved final := by
  have start : (CustodyState.opened partitions positive).view.Sound ∧
      Conserved (CustodyState.opened partitions positive) := by
    refine ⟨opened_sound partitions positive, ?_⟩
    intro topic group queue owned
    cases owned
  have kept := @invariant_play _ _ custodyStep Orderly
    (fun state => state.view.Sound ∧ Conserved state) ?_ _ final actions start
    orderly played
  · exact kept.2
  · rintro state action next ⟨sound, conserved⟩ orderly step
    exact ⟨custodyStep_sound sound step,
      custodyStep_conserves conserved sound orderly step⟩

end

/-- A consumer ends after its message was put back, and another one ends after
the acknowledgement. -/
def orderlyRun : List CustodyAction :=
  [.publish "requests" "payment" optimizationRequest,
    .consume "requests" "workers" "worker-1",
    .take 0,
    .retry 0 "transient" ⟨"2", "", two_ne_empty⟩,
    .terminate 0,
    .consume "requests" "workers" "worker-2",
    .take 1,
    .acknowledge 1,
    .terminate 1]

theorem events_stay_in_custody_orderly :
    ∃ final,
      play custodyStep (CustodyState.opened 3 (by decide)) orderlyRun =
        some final ∧
      Conserved final ∧
      (final.bus.topicEvents "requests").length = 1 := by
  obtain ⟨final, played, length⟩ : ∃ final,
      play custodyStep (CustodyState.opened 3 (by decide)) orderlyRun =
        some final ∧
      (final.bus.topicEvents "requests").length = 1 := ⟨_, rfl, rfl⟩
  exact ⟨final, played, events_stay_in_custody (by decide) played, length⟩

/-- A consumer is cancelled between its claim and the acknowledgement. -/
def cancelledRun : List CustodyAction :=
  [.publish "requests" "payment" optimizationRequest,
    .consume "requests" "workers" "worker-1",
    .take 0,
    .terminate 0]

/-- The event of the cancelled consumer is neither acknowledged nor queued nor
with a running consumer. -/
theorem cancelled_consumer_loses_event :
    ∃ final,
      play custodyStep (CustodyState.opened 3 (by decide)) cancelledRun =
        some final ∧
      final.bus.closed = false ∧
      ¬Conserved final := by
  refine ⟨_, rfl, rfl, ?_⟩
  intro conserved
  cases conserved "requests" "workers" _ rfl _ List.mem_cons_self with
  | acknowledged settled => cases settled
  | queued owned waiting same =>
      cases owned
      cases waiting
  | @claimed index claim consumer present holder running member kept addressed
      same =>
      cases index with
      | zero =>
          cases present
          cases holder
          cases running
      | succ index => cases present

end Kuber.Event
