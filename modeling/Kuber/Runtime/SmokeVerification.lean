import Kuber.Runtime.FreshLogs
import Kuber.Runtime.ReferenceCalls

/-!
# Verification by the smoke script

The smoke script requests what a service does, and the verification reads the
denials from the log of the service.  Against an API that enforces a policy,
the verification passes exactly if the policy authorizes all calls of the
tests, and otherwise reports the first denied call of every test, provided that
no reading of the log lags behind the service.  The line that a verification
skips is never a denial, since the announcement of a call is printed before its
denial.
-/

namespace Kuber.Runtime

open Kuber.Library Kuber.Rules Kuber.Agent

variable {σ lease : Type}

structure SmokeTest where
  name : String
  endpoint : Endpoint

namespace ReferenceWorkload

variable (workload : ReferenceWorkload) (api : KubernetesApi σ lease)

def smokeTests : List SmokeTest :=
  [⟨"health", .health⟩, ⟨"profile", .profile⟩] ++
    if workload.serviceId = "worker-service" then
      [⟨"rare-job-reconciliation", .rareWorkflow⟩]
    else []

/-- The line of one test. -/
def testLine (test : SmokeTest) (request : AnsweredRequest) : String :=
  "KUBER_TEST_RESULT " ++ test.name ++
    if request.passes = true then "=PASS\n" else "=FAIL\n"

/-- What the script prints for the answers to its tests, and its exit status. -/
def smokeProcess (tests : List SmokeTest) (answers : List AnsweredRequest) :
    CompletedProcess where
  returncode := if answers.all AnsweredRequest.passes = true then 0 else 1
  stdout := String.join (List.zipWith testLine tests answers) ++
    "KUBER_TEST_SUMMARY=" ++
      toString (answers.countP AnsweredRequest.passes) ++ "/" ++
      toString tests.length ++ "\n"
  stderr := ""

/-- The requests of the script.  The first one finds the service ready. -/
def smokeEndpoints : List Endpoint :=
  .health :: workload.smokeTests.map SmokeTest.endpoint

/-- A run of the script, with all answered requests. -/
def smoke (state : σ) : CompletedProcess × List AnsweredRequest × σ :=
  if workload.serviceId ∈ profiledServices then
    let (served, reached) :=
      workload.answerAll api workload.smokeEndpoints state
    (smokeProcess workload.smokeTests served.tail, served, reached)
  else
    (⟨2, "", "Unknown reference service: " ++ workload.serviceId ++ "\n"⟩,
      [], state)

/-- The lines that the service writes for a request: the records, and what its
server has to say. -/
def AnsweredRequest.lines (access : AnsweredRequest → List (List Char))
    (request : AnsweredRequest) : List (List Char) :=
  request.records.map TrackedKubeClient.recordText ++ access request

/-- The calls that the service is tested for. -/
def requiredCalls : List TrackedCall :=
  workload.smokeTests.flatMap fun test => workload.testCalls test.endpoint

end ReferenceWorkload

/-- The answer of `kubectl logs` for a container that has written these
lines. -/
def podLogs (lines : List (List Char)) : CompletedProcess where
  returncode := 0
  stdout := String.ofList (terminateAll lines)
  stderr := ""

/-- A container with the lines that it has written, next to the API that it
calls, and the cursor of the adapter that reads them. -/
structure Pod (σ : Type) where
  api : σ
  lines : List (List Char)
  cursor : Nat

/-- How a container is read: by a JSON module, with what `kubectl logs` answers
one call after another when these lines were written, and with these lines of
its server between the records. -/
structure PodReader where
  reader : TextReader
  readings : List (List Char) → List CompletedProcess
  access : ReferenceWorkload.AnsweredRequest → List (List Char)

namespace PodReader

open ReferenceWorkload

variable (reading : PodReader)

/-- `get_observed_usage`. -/
def observe (pod : Pod σ) : List KubeEvent × Pod σ :=
  let (events, cursor) :=
    getObservedUsage reading.reader (reading.readings pod.lines)
  (events, { pod with cursor := cursor })

/-- `verify_workload`, which reads the log after the run of the script. -/
def verify (workload : ReferenceWorkload) (api : KubernetesApi σ lease)
    (pod : Pod σ) : VerificationResult × Pod σ :=
  let (process, served, reached) := workload.smoke api pod.api
  let lines :=
    pod.lines ++ served.flatMap (AnsweredRequest.lines reading.access)
  let (result, cursor) := verifyWorkload reading.reader pod.cursor process
    (reading.readings lines)
  (result, ⟨reached, lines, cursor⟩)

/-- Every reading of the log shows all lines that were written. -/
structure Complete : Prop where
  nonempty : ∀ lines, reading.readings lines ≠ []
  whole : ∀ lines, ∀ output ∈ reading.readings lines, output = podLogs lines

/-- The assumption on the log: a reader that lags nowhere behind, gets the
records of the required calls back, and sees no event in the lines between
them. -/
structure Faithful (workload : ReferenceWorkload) : Prop where
  complete : reading.Complete
  empty : reading.reader.loads "" = none
  event : ∀ call ∈ workload.requiredCalls,
    reading.reader.Inverts call.event
  denial : ∀ call ∈ workload.requiredCalls,
    reading.reader.Inverts
      (TrackedKubeClient.denial call.event (some "Forbidden"))
  unbroken : ∀ request, ∀ line ∈ reading.access request, Unbroken line
  silent : ∀ request, ∀ line ∈ reading.access request,
    ¬ HoldsEvent reading.reader line

end PodReader

section Reading

open ReferenceWorkload

variable {reader : TextReader} {lines : List (List Char)} {cursor : Nat}

theorem exists_logLines (unbroken : ∀ line ∈ lines, Unbroken line) :
    ∃ log : List LogLine, log.map LogLine.text = lines := by
  refine ⟨lines.pmap LogLine.mk fun line member feed => ?_, ?_⟩
  · exact unbroken line member '\n' feed (by decide)
  · rw [List.map_pmap, List.pmap_eq_map, List.map_id']

theorem freshDenials_podLogs (unbroken : ∀ line ∈ lines, Unbroken line)
    (near : cursor ≤ lines.length + 1) :
    freshDenials reader cursor (podLogs lines) =
      lineEvents reader true (lines.drop cursor) := by
  obtain ⟨log, rfl⟩ := exists_logLines unbroken
  have written : writtenLines log log.length = log.map LogLine.text := by
    rw [writtenLines, List.take_length]
    exact splitlines_terminateAll_unbroken unbroken
  have output : podLogs (log.map LogLine.text) =
      logOutput log log.length := by
    rw [podLogs, logOutput, List.take_length]
  have reached : cursor ≤ offset log log.length + 1 := by
    rw [offset, written]
    exact near
  rw [output, freshDenials_logOutput reached, written]

theorem splitlines_podLogs (unbroken : ∀ line ∈ lines, Unbroken line) :
    splitlines (logs (podLogs lines)) = lines ++ [[]] := by
  have text : logs (podLogs lines) = terminateAll lines ++ ['\n'] := by
    simp [logs, podLogs]
  rw [text, splitlines_append (terminated_terminateAll _),
    splitlines_terminateAll_unbroken unbroken]
  rfl

theorem lineEvent?_recordText {call : TrackedCall} {record : Document}
    (prints : call.Prints record) (inverts : reader.Inverts record)
    (deniedOnly : Bool) :
    lineEvent? reader deniedOnly (TrackedKubeClient.recordText record) =
      (recordEvent? deniedOnly record).map .ofKubeEvent := by
  have wellFormed :
      LoggedLine.WellFormed reader (.record [] call record) :=
    ⟨by simp, prints⟩
  have read : lineEvent? reader deniedOnly
      ([] ++ TrackedKubeClient.recordText record) =
        (LoggedLine.event? deniedOnly (.record [] call record)).map
          .ofKubeEvent :=
    lineEvent?_record wellFormed.1 prints inverts
  exact read.trans
    (congrArg _ (event?_eq_recordEvent? wellFormed deniedOnly))

end Reading

/-- The calls are required ones, and a denied one is marked as forbidden. -/
def MadeFor (workload : ReferenceWorkload) (calls : List MadeCall) : Prop :=
  ∀ made ∈ calls, ∃ call ∈ workload.requiredCalls,
    made = answered call ∨ made = refused call

namespace PodReader.Faithful

open ReferenceWorkload

variable {workload : ReferenceWorkload} {reading : PodReader}
  {served : List AnsweredRequest} {calls : List (List MadeCall)}
  (faithful : reading.Faithful workload)

include faithful

theorem printed {calls : List MadeCall} (made : MadeFor workload calls)
    {record : Document} (member : record ∈ calls.flatMap MadeCall.records) :
    (∃ call : TrackedCall, call.Prints record) ∧
      reading.reader.Inverts record := by
  obtain ⟨entry, isMade, printed⟩ := List.mem_flatMap.mp member
  obtain ⟨call, required, rfl | rfl⟩ := made entry isMade
  · obtain rfl : record = call.event := List.mem_singleton.mp printed
    exact ⟨⟨call, call.prints_event⟩, faithful.event call required⟩
  · rcases List.mem_cons.mp printed with rfl | denial
    · exact ⟨⟨call, call.prints_event⟩, faithful.event call required⟩
    · obtain rfl : record = _ := List.mem_singleton.mp denial
      exact ⟨⟨call, call.prints_denial _⟩, faithful.denial call required⟩

theorem lineEvent?_printed {calls : List MadeCall}
    (made : MadeFor workload calls) {record : Document}
    (member : record ∈ calls.flatMap MadeCall.records) :
    lineEvent? reading.reader true (TrackedKubeClient.recordText record) =
      (recordEvent? true record).map .ofKubeEvent := by
  obtain ⟨⟨call, prints⟩, inverts⟩ := faithful.printed made member
  exact lineEvent?_recordText prints inverts true

theorem lineEvent?_access (request : AnsweredRequest) {line : List Char}
    (member : line ∈ reading.access request) :
    lineEvent? reading.reader true line = none :=
  lineEvent?_of_not_holdsEvent faithful.empty
    (faithful.silent request line member)

theorem filterMap_lines {request : AnsweredRequest} {calls : List MadeCall}
    (answeredBy : AnsweredBy workload.kube request calls)
    (made : MadeFor workload calls) :
    (request.lines reading.access).filterMap
        (lineEvent? reading.reader true) =
      ((stoppedBy? calls).map TrackedCall.kubeEvent).toList.map
        .ofKubeEvent := by
  have others : (reading.access request).filterMap
      (lineEvent? reading.reader true) = [] := by
    rw [List.filterMap_eq_nil_iff]
    exact fun line member => faithful.lineEvent?_access request member
  rw [AnsweredRequest.lines, List.filterMap_append, others, List.append_nil,
    ← answeredBy.closed.filterMap_denial?, answeredBy.records,
    List.filterMap_map, ← MadeCall.filterMap_flatMap_records,
    List.map_filterMap]
  exact List.filterMap_congr fun record member =>
    faithful.lineEvent?_printed made member

theorem denials_of_served
    (answeredBy : List.Forall₂ (AnsweredBy workload.kube) served calls)
    (made : MadeFor workload calls.flatten) :
    (served.flatMap (AnsweredRequest.lines reading.access)).filterMap
        (lineEvent? reading.reader true) =
      ((calls.filterMap stoppedBy?).map TrackedCall.kubeEvent).map
        .ofKubeEvent := by
  induction answeredBy with
  | nil => rfl
  | @cons request first _ _ here _ induction =>
      rw [List.flatten_cons, MadeFor, List.forall_mem_append] at made
      rw [List.flatMap_cons, List.filterMap_append, induction made.2,
        faithful.filterMap_lines here made.1, List.filterMap_cons]
      cases stoppedBy? first <;> rfl

theorem unbroken_of_served
    (answeredBy : List.Forall₂ (AnsweredBy workload.kube) served calls)
    (made : MadeFor workload calls.flatten) :
    ∀ line ∈ served.flatMap (AnsweredRequest.lines reading.access),
      Unbroken line := by
  induction answeredBy with
  | nil => simp
  | @cons request first _ _ here _ induction =>
      rw [List.flatten_cons, MadeFor, List.forall_mem_append] at made
      rw [List.flatMap_cons, List.forall_mem_append]
      refine ⟨fun line member => ?_, induction made.2⟩
      rcases List.mem_append.mp member with recorded | access
      · obtain ⟨record, isRecord, rfl⟩ := List.mem_map.mp recorded
        rw [here.records] at isRecord
        obtain ⟨⟨call, prints⟩, -⟩ := faithful.printed made.1 isRecord
        exact TrackedCall.unbroken_recordText prints
      · exact faithful.unbroken request line access

/-- The first line is no denial: the announcement stands before it. -/
theorem head_of_served
    (answeredBy : List.Forall₂ (AnsweredBy workload.kube) served calls)
    (made : MadeFor workload calls.flatten) :
    ∀ line ∈ (served.flatMap (AnsweredRequest.lines reading.access)).head?,
      lineEvent? reading.reader true line = none := by
  induction answeredBy with
  | nil => simp
  | @cons request first _ _ here _ induction =>
      rw [List.flatten_cons, MadeFor, List.forall_mem_append] at made
      intro line found
      rw [List.flatMap_cons, AnsweredRequest.lines, here.records,
        List.append_assoc] at found
      cases first with
      | cons entry others =>
          obtain rfl : TrackedKubeClient.recordText entry.call.event = line :=
            Option.some.inj found
          rw [faithful.lineEvent?_printed made.1 (by simp [MadeCall.records])]
          simp [recordEvent?, MadeCall.announced]
      | nil =>
          rw [List.flatMap_nil, List.map_nil, List.nil_append] at found
          cases access : reading.access request with
          | nil =>
              rw [access, List.nil_append] at found
              exact induction made.2 line found
          | cons next others =>
              rw [access] at found
              obtain rfl : next = line := Option.some.inj found
              exact faithful.lineEvent?_access request
                (access ▸ List.mem_cons_self)

end PodReader.Faithful

namespace ReferenceWorkload

/-- The denials that a verification under the policy reports: the first denied
call of every test. -/
def testDenials (workload : ReferenceWorkload) (policy : Policy) :
    List KubeEvent :=
  ((workload.smokeTests.filterMap fun test =>
    firstDenied policy (workload.testCalls test.endpoint)).map
      TrackedCall.kubeEvent).eraseDups

end ReferenceWorkload

/-- A container whose log was read to its end. -/
structure Pod.ReadUp (pod : Pod σ) : Prop where
  unbroken : ∀ line ∈ pod.lines, Unbroken line
  cursor : pod.cursor = pod.lines.length + 1

namespace PodReader

open ReferenceWorkload

variable {workload : ReferenceWorkload} {reading : PodReader}

/-- Polling ends with a reading of the whole log. -/
theorem Complete.getLast?_pollUntil (complete : reading.Complete)
    (found : CompletedProcess → Bool) (lines : List (List Char)) :
    (pollUntil found (reading.readings lines)).getLast? =
      some (podLogs lines) := by
  have nonempty : pollUntil found (reading.readings lines) ≠ [] :=
    pollUntil_ne_nil (complete.nonempty lines)
  have last := List.getLast_mem nonempty
  rw [List.getLast?_eq_getLast_of_ne_nil nonempty,
    complete.whole lines _ (pollUntil_sublist.subset last)]

theorem Complete.verifyWorkload (complete : reading.Complete)
    {lines : List (List Char)} {cursor : Nat}
    (unbroken : ∀ line ∈ lines, Unbroken line)
    (near : cursor ≤ lines.length + 1) (process : CompletedProcess) :
    let (result, reached) := Kuber.Runtime.verifyWorkload reading.reader cursor
      process (reading.readings lines)
    result.passed = decide (process.returncode = 0) ∧
      result.deniedEvents =
        (lineEvents reading.reader true (lines.drop cursor)).map
          CollectedEvent.kubeEvent ∧
      reached = lines.length + 1 := by
  simp only [Kuber.Runtime.verifyWorkload, verificationTurns,
    complete.getLast?_pollUntil, Option.elim_some, true_and]
  constructor
  · exact congrArg _ (freshDenials_podLogs unbroken near)
  · rw [splitlines_podLogs unbroken, List.length_append]
    rfl

/-- What is skipped at the start of the fresh lines holds no denial. -/
theorem lineEvents_drop_one {reader : TextReader} {lines : List (List Char)}
    (first : ∀ line ∈ lines.head?, lineEvent? reader true line = none) :
    lineEvents reader true (lines.drop 1) =
      firstBy CollectedEvent.compared
        (lines.filterMap (lineEvent? reader true)) := by
  rw [lineEvents]
  cases lines with
  | nil => rfl
  | cons line lines =>
      rw [List.filterMap_cons, first line rfl]
      rfl

variable {policy : Policy} {present : String → σ → Prop}
  {api : KubernetesApi σ lease}

theorem fulfils_smokeEndpoints (known : workload.serviceId ∈ profiledServices)
    (enforces : Enforces policy workload.kube present api) :
    ∀ endpoint ∈ workload.smokeEndpoints,
      Fulfils policy workload.kube (workload.testCalls endpoint)
        (workload.handle api endpoint) := by
  intro endpoint member
  by_cases worker : workload.serviceId = "worker-service"
  · simp only [smokeEndpoints, smokeTests, if_pos worker, List.map_cons,
      List.map_nil, List.cons_append, List.nil_append,
      List.mem_cons, List.not_mem_nil, or_false] at member
    rcases member with rfl | rfl | rfl | rfl
    · exact fulfils_health
    · exact fulfils_health
    · exact fulfils_profile enforces known
    · exact fulfils_rareWorkflow enforces worker
  · simp only [smokeEndpoints, smokeTests, if_neg worker, List.map_cons,
      List.map_nil, List.append_nil, List.mem_cons,
      List.not_mem_nil, or_false] at member
    rcases member with rfl | rfl | rfl
    · exact fulfils_health
    · exact fulfils_health
    · exact fulfils_profile enforces known

theorem testCalls_smokeEndpoints :
    workload.smokeEndpoints.flatMap workload.testCalls =
      workload.requiredCalls := by
  rw [smokeEndpoints, List.flatMap_cons, List.flatMap_map]
  rfl

/-- A run of the script: its exit status, and the denials in the lines that
the service has written. -/
theorem smoke_exact (faithful : reading.Faithful workload)
    (known : workload.serviceId ∈ profiledServices)
    (enforces : Enforces policy workload.kube present api) (state : σ) :
    let (process, served, _) := workload.smoke api state
    let lines := served.flatMap (AnsweredRequest.lines reading.access)
    (process.returncode = 0 ↔ Authorizes policy workload.requiredCalls) ∧
      lineEvents reading.reader true (lines.drop 1) =
        (workload.testDenials policy).map .ofKubeEvent ∧
      ∀ line ∈ lines, Unbroken line := by
  obtain ⟨calls, answeredBy, made, stopped, passes⟩ :=
    answerAll_tested (fulfils_smokeEndpoints known enforces) state
  rw [testCalls_smokeEndpoints] at made passes
  have first := faithful.head_of_served answeredBy made
  simp only [smoke, if_pos known]
  refine ⟨?_, ?_, faithful.unbroken_of_served answeredBy made⟩
  · rw [← passes]
    have ready : (workload.answerAll api workload.smokeEndpoints
        state).1.all AnsweredRequest.passes =
          (workload.answerAll api workload.smokeEndpoints
            state).1.tail.all AnsweredRequest.passes := rfl
    rw [ready]
    simp only [smokeProcess, smokeEndpoints]
    split_ifs with all
    · simp [all]
    · simp [all]
  · have listed : calls.filterMap stoppedBy? =
        workload.smokeTests.filterMap fun test =>
          firstDenied policy (workload.testCalls test.endpoint) := by
      have mapped := congrArg (List.filterMap id) stopped
      rw [List.filterMap_map, List.filterMap_map, smokeEndpoints,
        List.filterMap_cons, List.filterMap_map] at mapped
      exact mapped
    rw [lineEvents_drop_one first, testDenials, ← listed,
      faithful.denials_of_served answeredBy made,
      CollectedEvent.firstBy_ofKubeEvent]

theorem verify_exact (faithful : reading.Faithful workload)
    (known : workload.serviceId ∈ profiledServices)
    (enforces : Enforces policy workload.kube present api) {pod : Pod σ}
    (readUp : pod.ReadUp) :
    ((reading.verify workload api pod).1.passed = true ↔
        Authorizes policy workload.requiredCalls) ∧
      (reading.verify workload api pod).1.deniedEvents =
        workload.testDenials policy ∧
      (reading.verify workload api pod).2.ReadUp := by
  have exact := smoke_exact faithful known enforces pod.api
  unfold verify
  cases run : workload.smoke api pod.api with
  | mk process rest =>
      obtain ⟨served, reached⟩ := rest
      rw [run] at exact
      obtain ⟨status, denials, fresh⟩ := exact
      have unbroken := List.forall_mem_append.mpr ⟨readUp.unbroken, fresh⟩
      have near : pod.cursor ≤ (pod.lines ++ served.flatMap
          (AnsweredRequest.lines reading.access)).length + 1 := by
        rw [readUp.cursor, List.length_append]
        omega
      obtain ⟨passed, denied, cursor⟩ :=
        faithful.complete.verifyWorkload unbroken near process
      refine ⟨?_, ?_, unbroken, cursor⟩
      · rw [← status]
        exact passed ▸ decide_eq_true_iff
      · refine denied.trans ?_
        rw [readUp.cursor, List.drop_append, List.drop_eq_nil_of_le (by omega),
          List.nil_append, Nat.add_sub_cancel_left, denials,
          CollectedEvent.map_kubeEvent_ofKubeEvent]

theorem Complete.observe (complete : reading.Complete) {pod : Pod σ}
    (unbroken : ∀ line ∈ pod.lines, Unbroken line) :
    (reading.observe pod).1 =
        (collectEvents reading.reader (logs (podLogs pod.lines)) false).map
          CollectedEvent.kubeEvent ∧
      (reading.observe pod).2.ReadUp := by
  have last : (observationTurns reading.reader
      (reading.readings pod.lines)).getLast? = some (podLogs pod.lines) :=
    complete.getLast?_pollUntil _ _
  simp only [PodReader.observe, getObservedUsage, last, true_and]
  refine ⟨unbroken, ?_⟩
  rw [splitlines_podLogs unbroken, List.length_append]
  rfl

/-- Verifications one after another, each under another policy. -/
def verifyAll (reading : PodReader) (workload : ReferenceWorkload)
    (api : Policy → KubernetesApi σ lease) :
    List Policy → Pod σ → List VerificationResult × Pod σ
  | [], pod => ([], pod)
  | policy :: policies, pod =>
      let (result, reached) := reading.verify workload (api policy) pod
      let (results, last) := verifyAll reading workload api policies reached
      (result :: results, last)

theorem verifyAll_exact {api : Policy → KubernetesApi σ lease}
    (faithful : reading.Faithful workload)
    (known : workload.serviceId ∈ profiledServices)
    (enforces : ∀ policy,
      Enforces policy workload.kube present (api policy)) {pod : Pod σ}
    (readUp : pod.ReadUp) (policies : List Policy) :
    List.Forall₂ (fun policy (result : VerificationResult) =>
        (result.passed = true ↔
          Authorizes policy workload.requiredCalls) ∧
        result.deniedEvents = workload.testDenials policy)
      policies (reading.verifyAll workload api policies pod).1 := by
  induction policies generalizing pod with
  | nil => exact .nil
  | cons policy policies induction =>
      obtain ⟨passed, denied, reached⟩ :=
        verify_exact faithful known (enforces policy) readUp
      exact .cons ⟨passed, denied⟩ (induction reached)

theorem mem_testDenials {event : KubeEvent}
    (member : event ∈ workload.testDenials policy) :
    ∃ call ∈ workload.requiredCalls, call.kubeEvent = event ∧
      isAuthorized policy event = false := by
  rw [testDenials, List.mem_eraseDups] at member
  obtain ⟨call, found, rfl⟩ := List.mem_map.mp member
  obtain ⟨test, isTest, first⟩ := List.mem_filterMap.mp found
  refine ⟨call, List.mem_flatMap.mpr ⟨test, isTest,
    List.mem_of_find?_eq_some first⟩, rfl, ?_⟩
  simpa using List.find?_some first

theorem testDenials_ne_nil
    (insufficient : ¬ Authorizes policy workload.requiredCalls) :
    workload.testDenials policy ≠ [] := by
  intro none
  apply insufficient
  intro call required
  obtain ⟨test, isTest, needed⟩ := List.mem_flatMap.mp required
  by_contra denied
  cases found : firstDenied policy (workload.testCalls test.endpoint) with
  | none =>
      have allowed := List.find?_eq_none.mp found call needed
      simp at allowed
      exact denied allowed
  | some first =>
      have reported : first.kubeEvent ∈ workload.testDenials policy := by
        rw [testDenials, List.mem_eraseDups]
        exact List.mem_map_of_mem (List.mem_filterMap.mpr
          ⟨test, isTest, found⟩)
      rw [none] at reported
      cases reported

/-- Verifications of the reference workload are exact when every reading of
its log is complete, whatever the log held before and whatever the server
writes between the records: each one passes exactly if the policy in force
authorizes the calls of all tests, and one that fails reports the first denied
call of each test, and nothing else, in spite of the line that it skips. -/
theorem verifications_are_exact {api : Policy → KubernetesApi σ lease}
    (faithful : reading.Faithful workload)
    (known : workload.serviceId ∈ profiledServices)
    (enforces : ∀ policy,
      Enforces policy workload.kube present (api policy)) (pod : Pod σ)
    (unbroken : ∀ line ∈ pod.lines, Unbroken line)
    (policies : List Policy) :
    List.Forall₂ (fun policy (result : VerificationResult) =>
        (result.passed = true ↔ ∀ call ∈ workload.requiredCalls,
          isAuthorized policy call.kubeEvent = true) ∧
        result.deniedEvents = workload.testDenials policy ∧
        (result.passed = false → result.deniedEvents ≠ []) ∧
        ∀ event ∈ result.deniedEvents,
          ∃ call ∈ workload.requiredCalls, call.kubeEvent = event ∧
            isAuthorized policy event = false)
      policies
      (reading.verifyAll workload api policies (reading.observe pod).2).1 := by
  have exact := verifyAll_exact faithful known enforces
    (faithful.complete.observe unbroken).2 policies
  refine exact.imp fun policy result ⟨passed, denied⟩ =>
    ⟨passed, denied, ?_, ?_⟩
  · intro failed
    rw [denied]
    apply testDenials_ne_nil
    rw [← passed, failed]
    decide
  · intro event member
    exact mem_testDenials (denied ▸ member)

/-- The worker of the shop, whose rare workflow its profile does not show. -/
def shopWorker : ReferenceWorkload := ⟨"shop", "worker-service"⟩

def workerRecords : List Document :=
  shopWorker.requiredCalls.flatMap fun call =>
    [call.event, TrackedKubeClient.denial call.event (some "Forbidden")]

def workerReading : PodReader where
  reader := recordReader workerRecords
  readings lines := List.replicate 25 (podLogs lines)
  access _ := ["INFO: request answered".toList]

theorem workerReading_faithful : workerReading.Faithful shopWorker := by
  have distinct : (workerRecords.map
      TrackedKubeClient.recordText).Nodup := by decide +kernel
  have braceless : '\x7b' ∉ "INFO: request answered".toList := by decide
  have records : ∀ call ∈ shopWorker.requiredCalls,
      call.event ∈ workerRecords ∧
        TrackedKubeClient.denial call.event (some "Forbidden") ∈
          workerRecords := by
    intro call required
    constructor
    · exact List.mem_flatMap.mpr ⟨call, required, by simp⟩
    · exact List.mem_flatMap.mpr ⟨call, required, by simp⟩
  have complete : workerReading.Complete :=
    ⟨fun _ => List.cons_ne_nil _ _, fun _ _ => List.eq_of_mem_replicate⟩
  refine ⟨complete, recordReader_empty _, ?_, ?_, ?_, ?_⟩
  · exact fun call required =>
      inverts_recordReader distinct (records call required).1
  · exact fun call required =>
      inverts_recordReader distinct (records call required).2
  · intro request line member
    rw [List.mem_singleton.mp member]
    decide
  · intro request line member holds
    rw [List.mem_singleton.mp member] at holds
    exact braceless holds.1

/-- The worker's verification under a policy for its profile only, and then
under one that also lets it create jobs. -/
theorem verifications_are_exact_worker :
    List.Forall₂ (fun policy (result : VerificationResult) =>
        (result.passed = true ↔ ∀ call ∈ shopWorker.requiredCalls,
          isAuthorized policy call.kubeEvent = true) ∧
        result.deniedEvents = shopWorker.testDenials policy ∧
        (result.passed = false → result.deniedEvents ≠ []) ∧
        ∀ event ∈ result.deniedEvents,
          ∃ call ∈ shopWorker.requiredCalls, call.kubeEvent = event ∧
            isAuthorized policy event = false)
      [Policy.build [⟨"", "configmaps", "get", some "shop",
          some "app-config", none⟩] "web" "web" "shop",
        Policy.build [⟨"", "configmaps", "get", some "shop",
          some "app-config", none⟩,
          ⟨"batch", "jobs", "create", some "shop", none, none⟩]
          "web" "web" "shop"]
      (workerReading.verifyAll shopWorker (clusterApi shopWorker.kube)
        [Policy.build [⟨"", "configmaps", "get", some "shop",
            some "app-config", none⟩] "web" "web" "shop",
          Policy.build [⟨"", "configmaps", "get", some "shop",
            some "app-config", none⟩,
            ⟨"batch", "jobs", "create", some "shop", none, none⟩]
            "web" "web" "shop"]
        (workerReading.observe ⟨[], [], 0⟩).2).1 :=
  verifications_are_exact workerReading_faithful (by decide)
    (enforces_clusterApi shopWorker.kube) ⟨[], [], 0⟩ (by simp) _

end PodReader

end Kuber.Runtime
