import Kuber.Event.Bus
import Kuber.Event.Provenance
import Kuber.Library.ExceptResult

/-!
# What consumer groups see

Whatever the clients of a bus do, in whichever order, a group is given every
event of its topic once for the first time, in the order of the log; offsets
number the partitions of a log; and a delivered message is a copy of an event
in the log that accounts for its deliveries.
-/

namespace Kuber.Event

open Kuber.Library Kuber.Rules InMemoryEventBus

namespace InMemoryEventBus

/-- The events that a group was given for the first time. -/
def firstDeliveries (messages : List ConsumedEvent) : List PublishedEvent :=
  (messages.filter fun message => decide (message.deliveryCount = 1)).map
    ConsumedEvent.toPublishedEvent

/-- The event belongs to the topic and has a key, which gives its
partition. -/
structure Filed (partitions : Nat) (topic : String)
    (published : PublishedEvent) : Prop where
  topic : published.topic = topic
  keyed : published.key ≠ ""
  partition : published.partition = partitionFor partitions published.key

/-- The events of a topic are filed under it, and numbered. -/
structure LogSound (partitions : Nat) (topic : String)
    (log : List PublishedEvent) : Prop where
  filed : ∀ published ∈ log, Filed partitions topic published
  numbered : Numbered PublishedEvent.partition PublishedEvent.offset log

/-- The message delivers an event, possibly not for the first time; every
further delivery was a further attempt. -/
structure CopyOf (message : ConsumedEvent) (published : PublishedEvent) :
    Prop where
  key : message.key = published.key
  partition : message.partition = published.partition
  offset : message.offset = published.offset
  delivered : 1 ≤ message.deliveryCount
  attempt : message.event.attempt =
    published.event.attempt + (message.deliveryCount - 1)
  runId : message.event.runId = published.event.runId
  correlationId : message.event.correlationId = published.event.correlationId
  eventType : message.event.eventType = published.event.eventType
  payload : message.event.payload = published.event.payload

/-- The message is a copy of an event in the log of its topic. -/
def Accounted (bus : InMemoryEventBus) (message : ConsumedEvent) : Prop :=
  ∃ published ∈ bus.topicEvents message.topic, CopyOf message published

/-- A queue was given the events of its topic, and otherwise copies. -/
structure QueueSound (bus : InMemoryEventBus) (topic : String)
    (queue : Queue) : Prop where
  replayed : firstDeliveries queue.enqueued = bus.topicEvents topic
  accounted : ∀ message ∈ queue.enqueued,
    message.topic = topic ∧ Accounted bus message

structure BusSound (bus : InMemoryEventBus) : Prop where
  logs : ∀ topic, LogSound bus.partitions topic (bus.topicEvents topic)
  queues : ∀ topic group queue,
    bus.queues.get? (topic, group) = some queue → QueueSound bus topic queue

variable {bus after : InMemoryEventBus} {published : PublishedEvent}
  {message : ConsumedEvent} {queue : Queue} {topic group : String}

theorem firstDeliveries_append (first second : List ConsumedEvent) :
    firstDeliveries (first ++ second) =
      firstDeliveries first ++ firstDeliveries second := by
  simp only [firstDeliveries, List.filter_append, List.map_append]

theorem firstDeliveries_map_consumed (log : List PublishedEvent)
    (group consumer : String) :
    firstDeliveries (log.map fun item => consumed item group consumer) =
      log := by
  induction log with
  | nil => rfl
  | cons head tail induction =>
      rw [List.map_cons, ← List.singleton_append, firstDeliveries_append,
        induction]
      rfl

theorem firstDeliveries_retried {stamp : Stamp}
    (delivered : 1 ≤ message.deliveryCount) :
    firstDeliveries [message.retried stamp] = [] := by
  have later : ¬(message.retried stamp).deliveryCount = 1 := by
    change ¬message.deliveryCount + 1 = 1
    omega
  simp [firstDeliveries, later]

@[simp] theorem topicEvents_record (bus : InMemoryEventBus)
    (published : PublishedEvent) (topic : String) :
    (bus.record published).topicEvents topic =
      if topic = published.topic then bus.topicEvents topic ++ [published]
      else bus.topicEvents topic := by
  rw [topicEvents, record, OrderedDict.get?_set]
  split
  · rename_i same
    rw [same]
    rfl
  · rfl

theorem get?_record (bus : InMemoryEventBus) (published : PublishedEvent)
    (groupKey : String × String) :
    (bus.record published).queues.get? groupKey =
      (bus.queues.get? groupKey).map (fanOut published groupKey) :=
  OrderedDict.get?_mapValues _ _ _

theorem copyOf_consumed (published : PublishedEvent)
    (group consumer : String) :
    CopyOf (consumed published group consumer) published :=
  ⟨rfl, rfl, rfl, Nat.le_refl 1, rfl, rfl, rfl, rfl, rfl⟩

theorem CopyOf.retried (copy : CopyOf message published) (stamp : Stamp) :
    CopyOf (message.retried stamp) published := by
  refine ⟨copy.key, copy.partition, copy.offset, ?_, ?_, copy.runId,
    copy.correlationId, copy.eventType, copy.payload⟩
  · exact Nat.le_add_left 1 message.deliveryCount
  · have before := copy.attempt
    have delivered := copy.delivered
    change message.event.attempt + 1 =
      published.event.attempt + (message.deliveryCount + 1 - 1)
    omega

theorem Accounted.record (accounted : Accounted bus message)
    (published : PublishedEvent) :
    Accounted (bus.record published) message := by
  obtain ⟨original, recorded, copy⟩ := accounted
  refine ⟨original, ?_, copy⟩
  rw [topicEvents_record]
  split
  · exact List.mem_append_left _ recorded
  · exact recorded

theorem LogSound.append {partitions : Nat} {log : List PublishedEvent}
    (sound : LogSound partitions topic log)
    (filed : Filed partitions topic published)
    (next : published.offset =
      nextOffset PublishedEvent.partition log published.partition) :
    LogSound partitions topic (log ++ [published]) := by
  refine ⟨?_, sound.numbered.append next⟩
  intro other member
  rcases List.mem_append.mp member with before | new
  · exact sound.filed other before
  · rw [List.mem_singleton.mp new]
    exact filed

theorem QueueSound.fanOut (sound : QueueSound bus topic queue)
    (published : PublishedEvent) :
    QueueSound (bus.record published) topic
      (fanOut published (topic, group) queue) := by
  have kept : ∀ message ∈ queue.enqueued,
      message.topic = topic ∧ Accounted (bus.record published) message := by
    intro message member
    obtain ⟨filed, accounted⟩ := sound.accounted message member
    exact ⟨filed, accounted.record published⟩
  by_cases own : topic = published.topic
  · subst own
    rw [InMemoryEventBus.fanOut, if_pos rfl]
    have enqueued : (queue.put (consumed published "" "")).enqueued =
        queue.enqueued ++ [consumed published "" ""] :=
      (List.append_assoc _ _ _).symm
    refine ⟨?_, ?_⟩
    · rw [enqueued, firstDeliveries_append, sound.replayed,
        topicEvents_record, if_pos rfl]
      rfl
    · intro message member
      rw [enqueued] at member
      rcases List.mem_append.mp member with before | new
      · exact kept message before
      · rw [List.mem_singleton.mp new]
        refine ⟨rfl, published, ?_, copyOf_consumed published "" ""⟩
        change published ∈ (bus.record published).topicEvents published.topic
        rw [topicEvents_record, if_pos rfl]
        exact List.mem_append_right _ (List.mem_singleton_self _)
  · rw [InMemoryEventBus.fanOut, if_neg own]
    refine ⟨?_, kept⟩
    rw [topicEvents_record, if_neg own]
    exact sound.replayed

theorem BusSound.record (sound : BusSound bus) (topic : String)
    {key : String} (keyed : key ≠ "") (event : EventEnvelope) :
    BusSound (bus.record (bus.nextEvent topic key event)) := by
  constructor
  · intro other
    rw [topicEvents_record]
    split
    · rename_i same
      exact (sound.logs other).append ⟨same.symm, keyed, rfl⟩ (same ▸ rfl)
    · exact sound.logs other
  · intro other group queue present
    rw [get?_record] at present
    obtain ⟨earlier, owned, rfl⟩ := Option.map_eq_some_iff.mp present
    exact (sound.queues other group earlier owned).fanOut _

theorem BusSound.setQueue (sound : BusSound bus)
    (queueSound : QueueSound bus topic queue) (group : String) :
    BusSound (bus.setQueue topic group queue) := by
  refine ⟨sound.logs, ?_⟩
  intro other otherGroup found present
  have kept : QueueSound bus other found := by
    rw [InMemoryEventBus.setQueue, OrderedDict.get?_set] at present
    split at present
    · rename_i same
      cases same
      cases present
      exact queueSound
    · exact sound.queues other otherGroup found present
  exact ⟨kept.replayed, kept.accounted⟩

/-- What a successful operation keeps: the bus is sound, and neither a log nor
the set of acknowledgements shrinks. -/
structure Keeps (bus after : InMemoryEventBus) : Prop where
  sound : BusSound after
  grows : ∀ message, Accounted bus message → Accounted after message
  remembers : bus.acknowledged ⊆ after.acknowledged

/-- An operation on nothing but the queues. -/
theorem Keeps.of_sound (sound : BusSound after)
    (sameLogs : after.logs = bus.logs)
    (sameAcknowledged : after.acknowledged = bus.acknowledged) :
    Keeps bus after := by
  refine ⟨sound, ?_, sameAcknowledged ▸ Finset.Subset.refl _⟩
  rintro message ⟨original, recorded, copy⟩
  refine ⟨original, ?_, copy⟩
  rw [topicEvents, sameLogs]
  exact recorded

theorem publish_keeps (sound : BusSound bus) {topic key : String}
    {event : EventEnvelope}
    (ok : bus.publish topic event key = .ok (published, after)) :
    Keeps bus after := by
  rw [publish] at ok
  split at ok
  · cases ok
  · rename_i keyed
    split at ok
    · cases ok
    · cases ok
      exact ⟨sound.record topic keyed event,
        fun message accounted => accounted.record _, Finset.Subset.refl _⟩

/-- A subscription leaves the bus as it is or adds one queue, which holds the
whole log. -/
theorem subscribe_cases (ok : bus.subscribe topic group = .ok after) :
    after = bus ∨ after = bus.setQueue topic group
      { waiting := (bus.topicEvents topic).map
          fun item => consumed item group "" } := by
  rw [subscribe] at ok
  split at ok
  · cases ok
  · split at ok
    · cases ok
      exact Or.inl rfl
    · cases ok
      exact Or.inr rfl

/-- The replay of a log is all that a new group was given. -/
theorem subscribe_keeps (sound : BusSound bus)
    (ok : bus.subscribe topic group = .ok after) : Keeps bus after := by
  rcases subscribe_cases ok with rfl | rfl
  · exact .of_sound sound rfl rfl
  · refine .of_sound (sound.setQueue ⟨?_, ?_⟩ group) rfl rfl
    · exact firstDeliveries_map_consumed _ _ _
    · intro message member
      obtain ⟨item, recorded, rfl⟩ := List.mem_map.mp member
      have filed := ((sound.logs topic).filed item recorded).topic
      refine ⟨filed, item, ?_, copyOf_consumed item group ""⟩
      change item ∈ bus.topicEvents item.topic
      rw [filed]
      exact recorded

theorem consume_keeps (sound : BusSound bus) {consumer : String}
    (ok : bus.consume topic group consumer = .ok after) : Keeps bus after := by
  rw [consume] at ok
  split at ok
  · cases ok
  · exact subscribe_keeps sound ok

/-- What one turn of the claiming loop does: the first waiting message leaves
the queue, and is claimed unless the group has acknowledged it. -/
theorem take_cases {consumer : String} {claimed : Option ConsumedEvent}
    (taken : bus.take topic group consumer = some (claimed, after)) :
    ∃ queue message rest, bus.queues.get? (topic, group) = some queue ∧
      queue.waiting = message :: rest ∧
      after = bus.setQueue topic group ⟨queue.taken ++ [message], rest⟩ ∧
      (claimed = none ∧ ackKey message group ∈ bus.acknowledged ∨
        claimed = some { message with
          consumerGroup := group, consumerId := consumer } ∧
          ackKey message group ∉ bus.acknowledged) := by
  rw [take] at taken
  split at taken
  · cases taken
  · rename_i queue owned
    split at taken
    · cases taken
    · rename_i message rest waiting
      dsimp only at taken
      split at taken
      · rename_i acknowledged
        cases taken
        exact ⟨queue, message, rest, owned, waiting, rfl,
          Or.inl ⟨rfl, acknowledged⟩⟩
      · rename_i open_
        cases taken
        exact ⟨queue, message, rest, owned, waiting, rfl,
          Or.inr ⟨rfl, open_⟩⟩

theorem take_keeps (sound : BusSound bus) {consumer : String}
    {claimed : Option ConsumedEvent}
    (taken : bus.take topic group consumer = some (claimed, after)) :
    Keeps bus after ∧ ∀ message ∈ claimed, Accounted bus message := by
  obtain ⟨queue, message, rest, owned, waiting, rfl, result⟩ :=
    take_cases taken
  have queueSound := sound.queues topic group queue owned
  have same : (⟨queue.taken ++ [message], rest⟩ : Queue).enqueued =
      queue.enqueued := by
    simp only [Queue.enqueued, waiting, List.append_assoc,
      List.singleton_append]
  refine ⟨.of_sound (sound.setQueue ⟨?_, ?_⟩ group) rfl rfl, ?_⟩
  · rw [same]
    exact queueSound.replayed
  · rw [same]
    exact queueSound.accounted
  · intro claim isClaim
    have member : message ∈ queue.enqueued := by
      rw [Queue.enqueued, waiting]
      exact List.mem_append_right _ List.mem_cons_self
    obtain ⟨-, original, recorded, copy⟩ :=
      queueSound.accounted message member
    rcases result with ⟨rfl, -⟩ | ⟨rfl, -⟩
    · cases isClaim
    · cases isClaim
      exact ⟨original, recorded, copy.key, copy.partition, copy.offset,
        copy.delivered, copy.attempt, copy.runId, copy.correlationId,
        copy.eventType, copy.payload⟩

theorem acknowledge_keeps (sound : BusSound bus) (message : ConsumedEvent) :
    Keeps bus (bus.acknowledge message) := by
  refine ⟨⟨sound.logs, ?_⟩, fun _ accounted => accounted,
    Finset.subset_insert _ _⟩
  intro topic group queue present
  have kept := sound.queues topic group queue present
  exact ⟨kept.replayed, kept.accounted⟩

theorem retry_cases {reason : String} {stamp : Stamp}
    (ok : bus.retry message reason stamp = .ok after) :
    ∃ queue,
      bus.queues.get? (message.topic, message.consumerGroup) = some queue ∧
      after = bus.setQueue message.topic message.consumerGroup
        (queue.put (message.retried stamp)) := by
  rw [retry] at ok
  split at ok
  · cases ok
  · split at ok
    · cases ok
    · rename_i queue owned
      cases ok
      exact ⟨queue, owned, rfl⟩

theorem retry_keeps (sound : BusSound bus) (accounted : Accounted bus message)
    {reason : String} {stamp : Stamp}
    (ok : bus.retry message reason stamp = .ok after) : Keeps bus after := by
  obtain ⟨original, recorded, copy⟩ := accounted
  obtain ⟨queue, owned, rfl⟩ := retry_cases ok
  have queueSound := sound.queues _ _ queue owned
  have enqueued : (queue.put (message.retried stamp)).enqueued =
      queue.enqueued ++ [message.retried stamp] :=
    (List.append_assoc _ _ _).symm
  refine .of_sound (sound.setQueue ⟨?_, ?_⟩ _) rfl rfl
  · rw [enqueued, firstDeliveries_append, queueSound.replayed,
      firstDeliveries_retried copy.delivered, List.append_nil]
  · intro other member
    rw [enqueued] at member
    rcases List.mem_append.mp member with before | new
    · exact queueSound.accounted other before
    · rw [List.mem_singleton.mp new]
      exact ⟨rfl, original, recorded, copy.retried stamp⟩

theorem deadLetter_keeps (sound : BusSound bus) {reason : String}
    {stamp : Stamp}
    (ok : bus.deadLetter message reason stamp = .ok (published, after)) :
    Keeps bus after := by
  obtain ⟨⟨recorded, middle⟩, published, ended⟩ := bind_eq_ok_iff.mp ok
  cases ended
  have first := publish_keeps sound published
  have second := acknowledge_keeps first.sound message
  exact ⟨second.sound,
    fun other accounted => second.grows other (first.grows other accounted),
    first.remembers.trans second.remembers⟩

theorem close_keeps (sound : BusSound bus) : Keeps bus bus.close := by
  refine .of_sound ⟨sound.logs, ?_⟩ rfl rfl
  intro topic group queue present
  have kept := sound.queues topic group queue present
  exact ⟨kept.replayed, kept.accounted⟩

end InMemoryEventBus

/-- The bus is sound, and every claimed message is accounted for. -/
structure BusState.Sound (state : BusState) : Prop where
  bus : BusSound state.bus
  claims : ∀ message ∈ state.claims, Accounted state.bus message

/-- From one state to a later one: the bus is sound and has forgotten no
acknowledgement, and a message that was claimed had not been acknowledged for
the group. -/
structure Advances (state next : BusState) : Prop where
  sound : next.Sound
  remembers : state.bus.acknowledged ⊆ next.bus.acknowledged
  claimed : ∃ claimed, next.claims = state.claims ++ claimed ∧
    ∀ message ∈ claimed,
      ackKey message message.consumerGroup ∉ state.bus.acknowledged

section

variable {state next : BusState}

theorem advances_of_keeps (sound : state.Sound) {bus : InMemoryEventBus}
    (keeps : Keeps state.bus bus)
    {claimed : List InMemoryEventBus.ConsumedEvent}
    (accounted : ∀ message ∈ claimed, Accounted state.bus message)
    (fresh : ∀ message ∈ claimed,
      ackKey message message.consumerGroup ∉ state.bus.acknowledged) :
    Advances state ⟨bus, state.claims ++ claimed⟩ := by
  refine ⟨⟨keeps.sound, ?_⟩, keeps.remembers, claimed, rfl, fresh⟩
  intro message member
  apply keeps.grows
  rcases List.mem_append.mp member with before | new
  · exact sound.claims message before
  · exact accounted message new

theorem advances_after (sound : state.Sound)
    {result : Except PyException InMemoryEventBus}
    (keeps : ∀ bus, result = .ok bus → Keeps state.bus bus) :
    Advances state (state.after result) := by
  cases result with
  | error failure =>
      exact ⟨sound, Finset.Subset.refl _, [], (List.append_nil _).symm,
        List.forall_mem_nil _⟩
  | ok bus =>
      have advances := advances_of_keeps sound (keeps bus rfl)
        (List.forall_mem_nil _) (List.forall_mem_nil _)
      rw [List.append_nil] at advances
      exact advances

theorem keeps_of_map {bus : InMemoryEventBus}
    {result : Except PyException (PublishedEvent × InMemoryEventBus)}
    (keeps : ∀ published after, result = .ok (published, after) →
      Keeps bus after) :
    ∀ after, result.map Prod.snd = .ok after → Keeps bus after := by
  intro after ok
  cases result with
  | error failure => cases ok
  | ok pair =>
      cases ok
      exact keeps pair.1 pair.2 rfl

theorem busStep_advances {action : BusAction} (sound : state.Sound)
    (step : busStep state action = some next) : Advances state next := by
  cases action with
  | publish topic key event =>
      cases step
      exact advances_after sound
        (keeps_of_map fun _ _ ok => publish_keeps sound.bus ok)
  | consume topic group consumer =>
      cases step
      exact advances_after sound fun _ ok => consume_keeps sound.bus ok
  | take topic group consumer =>
      obtain ⟨⟨claimed, bus⟩, taken, rfl⟩ := Option.map_eq_some_iff.mp step
      obtain ⟨keeps, accounted⟩ := take_keeps sound.bus taken
      obtain ⟨queue, message, rest, -, -, -, result⟩ := take_cases taken
      apply advances_of_keeps sound keeps
      · intro claim member
        exact accounted claim (Option.mem_toList.mp member)
      · intro claim member
        rcases result with ⟨rfl, -⟩ | ⟨rfl, fresh⟩
        · cases member
        · cases Option.mem_toList.mp member
          exact fresh
  | acknowledge claim =>
      obtain ⟨message, -, rfl⟩ := Option.map_eq_some_iff.mp step
      exact @advances_after state sound
        (.ok (state.bus.acknowledge message)) fun bus ok => by
          cases ok
          exact acknowledge_keeps sound.bus message
  | retry claim reason stamp =>
      obtain ⟨message, claimed, rfl⟩ := Option.map_eq_some_iff.mp step
      have accounted := sound.claims message (List.mem_of_getElem? claimed)
      exact advances_after sound fun _ ok =>
        retry_keeps sound.bus accounted ok
  | deadLetter claim reason stamp =>
      obtain ⟨message, -, rfl⟩ := Option.map_eq_some_iff.mp step
      exact advances_after sound
        (keeps_of_map fun _ _ ok => deadLetter_keeps sound.bus ok)
  | close =>
      cases step
      exact @advances_after state sound (.ok state.bus.close) fun bus ok => by
        cases ok
        exact close_keeps sound.bus

end

/-- A new bus, without topics and groups. -/
def opened (partitions : Nat) (positive : 1 ≤ partitions) : BusState :=
  ⟨{ partitions := partitions, positive := positive }, []⟩

theorem opened_sound (partitions : Nat) (positive : 1 ≤ partitions) :
    (opened partitions positive).Sound := by
  refine ⟨⟨?_, ?_⟩, ?_⟩
  · intro topic
    refine ⟨?_, numbered_nil _ _⟩
    intro published member
    cases member
  · intro topic group queue present
    cases present
  · intro message member
    cases member

section

variable {partitions : Nat} {positive : 1 ≤ partitions}
  {middle final : BusState} {actions later : List BusAction}

theorem Advances.trans {state middle next : BusState}
    (first : Advances state middle) (second : Advances middle next) :
    Advances state next := by
  obtain ⟨claimed, made, fresh⟩ := first.claimed
  obtain ⟨more, makes, newer⟩ := second.claimed
  refine ⟨second.sound, first.remembers.trans second.remembers,
    claimed ++ more, ?_, ?_⟩
  · rw [makes, made, List.append_assoc]
  · intro message member
    rcases List.mem_append.mp member with before | new
    · exact fresh message before
    · exact fun known => newer message new (first.remembers known)

theorem run_advances (sound : middle.Sound)
    (played : play busStep middle later = some final) :
    Advances middle final := by
  have start : Advances middle middle :=
    ⟨sound, Finset.Subset.refl _, [], (List.append_nil _).symm,
      List.forall_mem_nil _⟩
  apply invariant_play _ start
    (meets_of_forall (fun _ _ _ => trivial) _) played
  intro state action next advances _ step
  exact advances.trans (busStep_advances advances.sound step)

/-- Whatever happens on a new bus, every subscribed group is given the log of
its topic in order, each event once for the first time, and the events of a
log are identified by partition and offset, which count from 0. -/
theorem groups_see_the_log
    (played : play busStep (opened partitions positive) actions =
      some final) :
    (∀ topic group queue,
      final.bus.queues.get? (topic, group) = some queue →
        firstDeliveries queue.enqueued = final.bus.topicEvents topic) ∧
    ∀ topic,
      (∀ published ∈ final.bus.topicEvents topic,
        published.topic = topic) ∧
      (∀ part, ((final.bus.topicEvents topic).filter
          fun published => decide (published.partition = part)).map
            PublishedEvent.offset =
        List.range ((final.bus.topicEvents topic).countP
          fun published => decide (published.partition = part))) ∧
      (∀ first ∈ final.bus.topicEvents topic,
        ∀ second ∈ final.bus.topicEvents topic,
          first.key = second.key → first.partition = second.partition) ∧
      ((final.bus.topicEvents topic).map
        fun published => (published.partition, published.offset)).Nodup := by
  have sound :=
    (run_advances (opened_sound partitions positive) played).sound.bus
  refine ⟨fun topic group queue owned =>
    (sound.queues topic group queue owned).replayed, ?_⟩
  intro topic
  have log := sound.logs topic
  refine ⟨fun published recorded => (log.filed published recorded).topic,
    log.numbered, ?_, log.numbered.nodup⟩
  intro first firstRecorded second secondRecorded sameKey
  rw [(log.filed first firstRecorded).partition,
    (log.filed second secondRecorded).partition, sameKey]

end

/-- The message as a worker sees it, which names the record that it delivers
instead of its partition and offset. -/
def InMemoryEventBus.ConsumedEvent.atRecord
    (message : InMemoryEventBus.ConsumedEvent) (record : Nat)
    (keyed : message.key ≠ "") : Kuber.Event.ConsumedEvent where
  key := message.key
  record := record
  event := message.event
  deliveryCount := message.deliveryCount
  keyed := keyed

def optimizationRequest : EventEnvelope where
  eventType := .workloadOptimizationRequested
  runId := "run-1"
  correlationId := "correlation-1"
  payload := [("task_id", .string "task-1")]
  eventId := "1"
  timestamp := ""
  identified := one_ne_empty
  hasRun := by decide
  correlated := by decide

/-- One group subscribes before the second event, the other one after it; a
claimed message is retried and acknowledged while its copy is queued. -/
def auditedRun : List BusAction :=
  [.publish "requests" "payment" optimizationRequest,
    .consume "requests" "workers" "worker-1",
    .publish "requests" "checkout" optimizationRequest,
    .consume "requests" "audit" "audit-1",
    .take "requests" "workers" "worker-1",
    .retry 0 "transient" ⟨"2", "", two_ne_empty⟩,
    .acknowledge 0]

theorem groups_see_the_log_audited :
    ∃ final queue,
      play busStep (opened 3 (by decide)) auditedRun = some final ∧
      final.bus.queues.get? ("requests", "audit") = some queue ∧
      firstDeliveries queue.enqueued = final.bus.topicEvents "requests" ∧
      (final.bus.topicEvents "requests").length = 2 := by
  obtain ⟨final, queue, played, owned, length⟩ : ∃ final queue,
      play busStep (opened 3 (by decide)) auditedRun = some final ∧
      final.bus.queues.get? ("requests", "audit") = some queue ∧
      (final.bus.topicEvents "requests").length = 2 :=
    ⟨_, _, rfl, rfl, rfl⟩
  exact ⟨final, queue, played, owned,
    (groups_see_the_log played).1 _ _ _ owned, length⟩

/-- One more acknowledgement. -/
def InMemoryEventBus.acknowledging (key : String × String × Nat × Nat)
    (bus : InMemoryEventBus) : InMemoryEventBus :=
  { bus with acknowledged := insert key bus.acknowledged }

def BusState.acknowledging (key : String × String × Nat × Nat)
    (state : BusState) : BusState :=
  { state with bus := state.bus.acknowledging key }

/-- A consumer of the group takes the next message. -/
def BusAction.takesFor (group : String) : BusAction → Prop
  | .take _ taker _ => taker = group
  | _ => False

section

variable {state : BusState} {key : String × String × Nat × Nat}

theorem after_acknowledging
    (result : Except PyException InMemoryEventBus) :
    (state.acknowledging key).after
        (result.map (InMemoryEventBus.acknowledging key)) =
      (state.after result).acknowledging key := by
  cases result with
  | error failure => rfl
  | ok bus => rfl

variable {bus : InMemoryEventBus}

theorem publish_acknowledging (topic partitionKey : String)
    (event : EventEnvelope) :
    (bus.acknowledging key).publish topic event partitionKey =
      (bus.publish topic event partitionKey).map
        (Prod.map id (InMemoryEventBus.acknowledging key)) := by
  obtain ⟨partitions, positive, logs, queues, acknowledged, closed⟩ := bus
  by_cases empty : partitionKey = ""
  · simp only [publish, if_pos empty]
    rfl
  · simp only [publish, if_neg empty]
    cases closed with
    | true => rfl
    | false => rfl

theorem consume_acknowledging (topic group consumer : String) :
    (bus.acknowledging key).consume topic group consumer =
      (bus.consume topic group consumer).map
        (InMemoryEventBus.acknowledging key) := by
  obtain ⟨partitions, positive, logs, queues, acknowledged, closed⟩ := bus
  by_cases unnamed : group = "" ∨ consumer = ""
  · simp only [consume, if_pos unnamed]
    rfl
  · simp only [consume, if_neg unnamed]
    cases closed with
    | true => rfl
    | false =>
        simp only [subscribe, InMemoryEventBus.acknowledging]
        cases queues.get? (topic, group) with
        | none => rfl
        | some queue => rfl

theorem take_acknowledging {group : String} (other : group ≠ key.2.1)
    (topic consumer : String) :
    (bus.acknowledging key).take topic group consumer =
      (bus.take topic group consumer).map
        (Prod.map id (InMemoryEventBus.acknowledging key)) := by
  have own : ∀ message,
      ackKey message group ∈ insert key bus.acknowledged ↔
        ackKey message group ∈ bus.acknowledged := by
    intro message
    rw [Finset.mem_insert]
    refine ⟨fun among => among.resolve_left ?_, Or.inr⟩
    intro same
    exact other (congrArg (fun key => key.2.1) same)
  simp only [take, InMemoryEventBus.acknowledging, own]
  cases bus.queues.get? (topic, group) with
  | none => rfl
  | some queue =>
      dsimp only
      cases queue.waiting with
      | nil => rfl
      | cons message rest =>
          dsimp only
          split
          · rfl
          · rfl

theorem acknowledge_acknowledging (message : InMemoryEventBus.ConsumedEvent) :
    (bus.acknowledging key).acknowledge message =
      (bus.acknowledge message).acknowledging key := by
  simp only [acknowledge, InMemoryEventBus.acknowledging, Finset.insert_comm]

theorem retry_acknowledging (message : InMemoryEventBus.ConsumedEvent)
    (reason : String) (stamp : Stamp) :
    (bus.acknowledging key).retry message reason stamp =
      (bus.retry message reason stamp).map
        (InMemoryEventBus.acknowledging key) := by
  by_cases empty : reason = ""
  · simp only [retry, if_pos empty]
    rfl
  · simp only [retry, if_neg empty, InMemoryEventBus.acknowledging]
    cases bus.queues.get? (message.topic, message.consumerGroup) with
    | none => rfl
    | some queue => rfl

theorem deadLetter_acknowledging (message : InMemoryEventBus.ConsumedEvent)
    (reason : String) (stamp : Stamp) :
    (bus.acknowledging key).deadLetter message reason stamp =
      (bus.deadLetter message reason stamp).map
        (Prod.map id (InMemoryEventBus.acknowledging key)) := by
  rw [deadLetter, publish_acknowledging, deadLetter]
  cases bus.publish dlq (deadLetterEvent message reason stamp)
      message.key with
  | error failure => rfl
  | ok pair =>
      obtain ⟨published, after⟩ := pair
      exact congrArg (fun bus => Except.ok (published, bus))
        (acknowledge_acknowledging message)

/-- An acknowledgement for one group commutes with every call, unless that
group takes a message. -/
theorem busStep_acknowledging {action : BusAction}
    (other : ¬action.takesFor key.2.1) :
    busStep (state.acknowledging key) action =
      (busStep state action).map (BusState.acknowledging key) := by
  have second : ∀ {result : Except PyException
      (PublishedEvent × InMemoryEventBus)},
      (result.map (Prod.map id (InMemoryEventBus.acknowledging key))).map
        Prod.snd =
      (result.map Prod.snd).map (InMemoryEventBus.acknowledging key) := by
    intro result
    cases result with
    | error failure => rfl
    | ok pair => rfl
  cases action with
  | publish topic partitionKey event =>
      simp only [busStep, Option.map_some]
      rw [← after_acknowledging, ← second, ← publish_acknowledging]
      rfl
  | consume topic group consumer =>
      simp only [busStep, Option.map_some]
      rw [← after_acknowledging, ← consume_acknowledging]
      rfl
  | take topic group consumer =>
      simp only [busStep]
      change (((state.bus.acknowledging key).take topic group consumer).map
        _) = _
      rw [take_acknowledging other]
      cases state.bus.take topic group consumer with
      | none => rfl
      | some pair => rfl
  | acknowledge claim =>
      simp only [busStep, BusState.acknowledging]
      cases state.claims[claim]? with
      | none => rfl
      | some message =>
          rw [Option.map_some, acknowledge_acknowledging]
          rfl
  | retry claim reason stamp =>
      simp only [busStep, BusState.acknowledging]
      cases state.claims[claim]? with
      | none => rfl
      | some message =>
          simp only [Option.map_some]
          rw [← after_acknowledging, ← retry_acknowledging]
          rfl
  | deadLetter claim reason stamp =>
      simp only [busStep, BusState.acknowledging]
      cases state.claims[claim]? with
      | none => rfl
      | some message =>
          simp only [Option.map_some]
          rw [← after_acknowledging, ← second, ← deadLetter_acknowledging]
          rfl
  | close => rfl

theorem play_acknowledging {actions : List BusAction}
    (others : ∀ action ∈ actions, ¬action.takesFor key.2.1) :
    play busStep (state.acknowledging key) actions =
      (play busStep state actions).map (BusState.acknowledging key) := by
  induction actions generalizing state with
  | nil => rfl
  | cons action actions induction =>
      rw [play, play,
        busStep_acknowledging (others action List.mem_cons_self)]
      cases busStep state action with
      | none => rfl
      | some next =>
          exact induction fun action member =>
            others action (List.mem_cons_of_mem _ member)

end

/-- In every run, what was acknowledged for a group is not claimed by it any
more; a run in which a group takes nothing goes the same with one more
acknowledgement for it; and a claimed message is a copy of an event in the log
that accounts for its deliveries. -/
theorem acknowledgement_is_final {partitions : Nat}
    {positive : 1 ≤ partitions} {earlier later : List BusAction}
    {middle final : BusState}
    (first : play busStep (opened partitions positive) earlier = some middle)
    (second : play busStep middle later = some final) :
    (∃ claimed, final.claims = middle.claims ++ claimed ∧
      ∀ message ∈ claimed,
        ackKey message message.consumerGroup ∉ middle.bus.acknowledged) ∧
    (∀ key, (∀ action ∈ later, ¬action.takesFor key.2.1) →
      play busStep (middle.acknowledging key) later =
        some (final.acknowledging key)) ∧
    ∀ message ∈ final.claims,
      ∃ published ∈ final.bus.topicEvents message.topic,
        CopyOf message published := by
  have sound := (run_advances (opened_sound partitions positive) first).sound
  have advances := run_advances sound second
  refine ⟨advances.claimed, ?_, advances.sound.claims⟩
  intro key others
  rw [play_acknowledging others, second, Option.map_some]

/-- The queued copy of the acknowledged message is dropped, and the other group
still claims the event. -/
theorem acknowledgement_is_final_audited :
    ∃ middle final claimed,
      play busStep (opened 3 (by decide)) auditedRun = some middle ∧
      play busStep middle
        [.take "requests" "workers" "worker-2",
          .take "requests" "workers" "worker-2",
          .take "requests" "audit" "audit-1"] = some final ∧
      final.claims = middle.claims ++ claimed ∧
      (∀ message ∈ claimed,
        ackKey message message.consumerGroup ∉ middle.bus.acknowledged) ∧
      final.claims.length = 3 := by
  obtain ⟨middle, final, first, second, length⟩ : ∃ middle final,
      play busStep (opened 3 (by decide)) auditedRun = some middle ∧
      play busStep middle
        [.take "requests" "workers" "worker-2",
          .take "requests" "workers" "worker-2",
          .take "requests" "audit" "audit-1"] = some final ∧
      final.claims.length = 3 := ⟨_, _, rfl, rfl, rfl⟩
  obtain ⟨claimed, made, fresh⟩ := (acknowledgement_is_final first second).1
  exact ⟨middle, final, claimed, first, second, made, fresh, length⟩

end Kuber.Event
