import Kuber.Runtime.Observation

/-!
# The log lines that a verification examines

A container writes lines, and every reading of its log returns the ones written
so far.  The text that is cut into lines has one more line break than the log,
so the cursor that a call leaves stands behind the first line that is still to
be written.  That line is examined by no call; every other line is examined by
the first call whose last reading has it, and by no other.
-/

namespace Kuber.Runtime

open Kuber.Library Kuber.Rules

/-- A line that a container writes, up to its line feed. -/
structure LogLine where
  text : List Char
  whole : '\n' ∉ text

/-- The lines of the first `count` log lines, as they are cut. -/
def writtenLines (log : List LogLine) (count : Nat) : List (List Char) :=
  splitlines (terminateAll ((log.take count).map LogLine.text))

/-- The answer of `kubectl logs` after `count` lines. -/
def logOutput (log : List LogLine) (count : Nat) : CompletedProcess where
  returncode := 0
  stdout := String.ofList (terminateAll ((log.take count).map LogLine.text))
  stderr := ""

/-- Where a log line starts. -/
def offset (log : List LogLine) (index : Nat) : Nat :=
  (writtenLines log index).length

section Offsets

variable {log : List LogLine} {index count : Nat}

theorem splitlines_logs : splitlines (logs (logOutput log count)) =
    writtenLines log count ++ [[]] := by
  have text : logs (logOutput log count) =
      terminateAll ((log.take count).map LogLine.text) ++ ['\n'] := by
    simp [logs, logOutput]
  rw [text, splitlines_append (terminated_terminateAll _)]
  rfl

theorem splitlines_stdout : splitlines (logOutput log count).stdout.toList =
    writtenLines log count := by
  simp [logOutput, writtenLines]

theorem offset_lt_succ (written : index < log.length) :
    offset log index < offset log (index + 1) := by
  have line : splitlines (log[index].text ++ ['\n']) ≠ [] :=
    splitlines_ne_nil (by simp)
  have positive := List.length_pos_iff.mpr line
  simp only [offset, writtenLines, List.take_add_one,
    List.getElem?_eq_getElem written, Option.toList_some, List.map_append,
    List.map_singleton, splitlines_terminateAll, List.flatMap_append,
    List.flatMap_singleton, List.length_append]
  omega

theorem offset_lt (earlier : index < count) (written : count ≤ log.length) :
    offset log index < offset log count := by
  induction count with
  | zero => omega
  | succ count induction =>
      have last := @offset_lt_succ log count (by omega)
      by_cases same : index = count
      · exact same ▸ last
      · exact Nat.lt_trans (induction (by omega) (by omega)) last

theorem offset_lt_iff (index_le : index ≤ log.length)
    (count_le : count ≤ log.length) :
    offset log index < offset log count ↔ index < count := by
  constructor
  · intro less
    by_contra later
    rcases Nat.lt_or_eq_of_le (Nat.not_lt.mp later) with behind | same
    · exact Nat.lt_asymm less (offset_lt behind index_le)
    · exact Nat.lt_irrefl _ (same ▸ less)
  · intro earlier
    exact offset_lt earlier count_le

theorem offset_le_iff (index_le : index ≤ log.length)
    (count_le : count ≤ log.length) :
    offset log index ≤ offset log count ↔ index ≤ count := by
  rw [← Nat.not_lt, ← Nat.not_lt, offset_lt_iff count_le index_le]

end Offsets

/-- The lines that are searched for denials are the written ones from the
cursor on. -/
theorem freshDenials_logOutput {reader : TextReader} {log : List LogLine}
    {cursor count : Nat} (near : cursor ≤ offset log count + 1) :
    freshDenials reader cursor (logOutput log count) =
      lineEvents reader true ((writtenLines log count).drop cursor) := by
  have fits : cursor ≤ (writtenLines log count ++ [[]]).length := by
    rw [List.length_append]
    exact near
  have unbroken : ∀ line ∈ (writtenLines log count).drop cursor,
      Unbroken line := by
    intro line member
    exact unbroken_of_mem_splitlines (List.mem_of_mem_drop member)
  rw [freshDenials, collectEvents, freshLogs, freshLines, splitlines_logs,
    freshStart, if_pos fits]
  rcases Nat.lt_or_eq_of_le near with inside | behind
  · have reached : cursor - (writtenLines log count).length = 0 := by
      rw [offset] at inside
      omega
    rw [List.drop_append, reached, List.drop_zero, intercalate_lineFeed,
      splitlines_terminateAll_unbroken unbroken]
  · have passed : (writtenLines log count).drop cursor = [] :=
      List.drop_eq_nil_of_le (by rw [behind, offset]; omega)
    have all : (writtenLines log count ++ [[]]).drop cursor = [] :=
      List.drop_eq_nil_of_le (by rw [behind, List.length_append]; rfl)
    rw [passed, all]
    rfl

/-- The last of the readings that a call took. -/
def lastReading (readings : List Nat) : Nat := readings.getLast?.getD 0

section Readings

variable {readings : List Nat}

theorem lastReading_mem (nonempty : readings ≠ []) :
    lastReading readings ∈ readings := by
  rw [lastReading, List.getLast?_eq_getLast_of_ne_nil nonempty]
  exact List.getLast_mem nonempty

theorem le_lastReading (grows : readings.Pairwise (· ≤ ·)) {count : Nat}
    (member : count ∈ readings) : count ≤ lastReading readings := by
  have nonempty := List.ne_nil_of_mem member
  rw [lastReading, List.getLast?_eq_getLast_of_ne_nil nonempty]
  rw [← List.dropLast_append_getLast nonempty, List.pairwise_append] at grows
  rw [← List.dropLast_append_getLast nonempty] at member
  rcases List.mem_append.mp member with earlier | last
  · exact grows.2.2 count earlier _ List.mem_cons_self
  · exact Nat.le_of_eq (List.mem_singleton.mp last)

end Readings

/-- One call of `verify_workload`: the smoke run, and how many lines the log
has at each reading. -/
structure Verification where
  smoke : CompletedProcess
  readings : List Nat
  read : readings ≠ []

/-- A call with the cursor that it starts at. -/
structure VerificationCall extends Verification where
  cursor : Nat

section Calls

variable (reader : TextReader) (log : List LogLine)

/-- The readings that a call takes. -/
def VerificationCall.reads (call : VerificationCall) : List Nat :=
  pollUntil (fun count => decide (call.smoke.returncode = 0 ∨
    freshDenials reader call.cursor (logOutput log count) ≠ [])) call.readings

def VerificationCall.lastRead (call : VerificationCall) : Nat :=
  lastReading (call.reads reader log)

/-- Some turn of the call hands the whole line to `collect_events`. -/
def VerificationCall.examines (index : Nat) (call : VerificationCall) :
    Bool :=
  (verificationTurns reader call.cursor call.smoke
    (call.readings.map (logOutput log))).any fun output =>
      decide (freshStart call.cursor (splitlines (logs output)) ≤
        offset log index ∧ offset log (index + 1) ≤
          (splitlines output.stdout.toList).length)

/-- The calls of `verify_workload` after one another. -/
def verificationCalls : Nat → List Verification → List VerificationCall
  | _, [] => []
  | cursor, verification :: verifications =>
      ⟨verification, cursor⟩ ::
        verificationCalls (verifyWorkload reader cursor verification.smoke
          (verification.readings.map (logOutput log))).2 verifications

end Calls

/-- A log, the readings that `get_observed_usage` makes of it, and the calls of
`verify_workload` that follow.  The log grows from reading to reading. -/
structure LogRun where
  log : List LogLine
  observed : List Nat
  verifications : List Verification
  read : observed ≠ []
  grows : (observed ++ verifications.flatMap Verification.readings).Pairwise
    (· ≤ ·)
  written : ∀ count ∈ observed ++
    verifications.flatMap Verification.readings, count ≤ log.length

namespace LogRun

variable (reader : TextReader) (run : LogRun)

/-- The lines at the observation's last reading. -/
def observedCount : Nat :=
  lastReading (pollUntil (fun count => decide (collectEvents reader
    (logs (logOutput run.log count)) false ≠ [])) run.observed)

def calls : List VerificationCall :=
  verificationCalls reader run.log
    (getObservedUsage reader (run.observed.map (logOutput run.log))).2
    run.verifications

/-- The lines at the last reading of every call. -/
def lastReads : List Nat :=
  (run.calls reader).map (VerificationCall.lastRead reader run.log)

/-- The line is written after the observation's last reading and before the
last reading of a verification. -/
def Appended (index : Nat) : Prop :=
  run.observedCount reader ≤ index ∧ ∃ last ∈ run.lastReads reader, index < last

/-- How many calls examine a line. -/
def examinations (index : Nat) : Nat :=
  (run.calls reader).countP (VerificationCall.examines reader run.log index)

end LogRun

section Examination

variable {reader : TextReader} {log : List LogLine} {seen index : Nat}

namespace VerificationCall

variable (call : VerificationCall)

theorem reads_ne_nil : call.reads reader log ≠ [] :=
  pollUntil_ne_nil call.read

theorem lastRead_mem_reads :
    call.lastRead reader log ∈ call.reads reader log :=
  lastReading_mem call.reads_ne_nil

theorem lastRead_mem : call.lastRead reader log ∈ call.readings :=
  pollUntil_sublist.subset call.lastRead_mem_reads

theorem turns_eq : verificationTurns reader call.cursor call.smoke
    (call.readings.map (logOutput log)) =
      (call.reads reader log).map (logOutput log) := by
  rw [verificationTurns, pollUntil_map]
  rfl

theorem cursor_after : (verifyWorkload reader call.cursor call.smoke
    (call.readings.map (logOutput log))).2 =
      offset log (call.lastRead reader log) + 1 := by
  have last : (call.reads reader log).getLast? =
      some (call.lastRead reader log) := by
    rw [lastRead, lastReading,
      List.getLast?_eq_getLast_of_ne_nil call.reads_ne_nil, Option.getD_some]
  rw [verifyWorkload, turns_eq, List.getLast?_map, last]
  simp [splitlines_logs, offset]

/-- A call that starts behind `seen` lines examines what is written up to its
last reading, except for the first line. -/
theorem examines_iff {call : VerificationCall}
    (start : call.cursor = offset log seen + 1)
    (grows : call.readings.Pairwise (· ≤ ·))
    (bounds : ∀ count ∈ call.readings, seen ≤ count ∧ count ≤ log.length)
    (line : index < log.length) :
    call.examines reader log index = true ↔
      seen < index ∧ index < call.lastRead reader log := by
  have fresh : ∀ count ∈ call.readings, freshStart call.cursor
      (splitlines (logs (logOutput log count))) = offset log seen + 1 := by
    intro count member
    have seen_le := (bounds count member).1
    have before : offset log seen ≤ offset log count :=
      (offset_le_iff (seen_le.trans (bounds count member).2)
        (bounds count member).2).mpr seen_le
    rw [freshStart, splitlines_logs, start, if_pos]
    rw [List.length_append]
    exact Nat.add_le_add_right before 1
  have covers : ∀ count ∈ call.readings,
      (freshStart call.cursor (splitlines (logs (logOutput log count))) ≤
          offset log index ∧ offset log (index + 1) ≤
            (splitlines (logOutput log count).stdout.toList).length ↔
        seen < index ∧ index < count) := by
    intro count member
    obtain ⟨seen_le, count_le⟩ := bounds count member
    rw [fresh count member, splitlines_stdout]
    exact and_congr (offset_lt_iff (seen_le.trans count_le) line.le)
      (offset_le_iff line count_le)
  rw [examines, turns_eq, List.any_map, List.any_eq_true]
  simp only [Function.comp_apply, decide_eq_true_eq]
  constructor
  · intro ⟨count, taken, covered⟩
    have inside := (covers count (pollUntil_sublist.subset taken)).mp covered
    have last := le_lastReading (grows.sublist pollUntil_sublist) taken
    exact ⟨inside.1, Nat.lt_of_lt_of_le inside.2 last⟩
  · intro inside
    exact ⟨_, call.lastRead_mem_reads,
      (covers _ call.lastRead_mem).mpr inside⟩

end VerificationCall

theorem cursor_after_observation (run : LogRun) :
    (getObservedUsage reader (run.observed.map (logOutput run.log))).2 =
      offset run.log (run.observedCount reader) + 1 := by
  have nonempty : pollUntil (fun count => decide (collectEvents reader
      (logs (logOutput run.log count)) false ≠ [])) run.observed ≠ [] :=
    pollUntil_ne_nil run.read
  rw [getObservedUsage, observationTurns, pollUntil_map, List.getLast?_map,
    LogRun.observedCount, lastReading,
    List.getLast?_eq_getLast_of_ne_nil nonempty]
  simp [splitlines_logs, offset]

/-- The calls to come, when the log has `seen` lines. -/
structure Follows (log : List LogLine) (seen : Nat)
    (verifications : List Verification) : Prop where
  grows : (verifications.flatMap Verification.readings).Pairwise (· ≤ ·)
  written : ∀ count ∈ verifications.flatMap Verification.readings,
    seen ≤ count ∧ count ≤ log.length

section Following

variable {verification : Verification} {verifications : List Verification}

theorem Follows.readings_grow
    (follows : Follows log seen (verification :: verifications)) :
    verification.readings.Pairwise (· ≤ ·) := by
  have grows := follows.grows
  rw [List.flatMap_cons, List.pairwise_append] at grows
  exact grows.1

theorem Follows.bounds
    (follows : Follows log seen (verification :: verifications)) :
    ∀ count ∈ verification.readings, seen ≤ count ∧ count ≤ log.length := by
  intro count member
  apply follows.written
  rw [List.flatMap_cons]
  exact List.mem_append_left _ member

theorem Follows.next {count : Nat}
    (follows : Follows log seen (verification :: verifications))
    (member : count ∈ verification.readings) :
    Follows log count verifications := by
  have grows := follows.grows
  rw [List.flatMap_cons, List.pairwise_append] at grows
  refine ⟨grows.2.1, fun later laterMember => ⟨?_, ?_⟩⟩
  · exact grows.2.2 count member later laterMember
  · apply (follows.written later _).2
    rw [List.flatMap_cons]
    exact List.mem_append_right _ laterMember

/-- The calls that start when the cursor is behind `seen` lines. -/
def callsBehind (reader : TextReader) (log : List LogLine) (seen : Nat)
    (verifications : List Verification) : List VerificationCall :=
  verificationCalls reader log (offset log seen + 1) verifications

theorem callsBehind_cons : callsBehind reader log seen
    (verification :: verifications) =
      ⟨verification, offset log seen + 1⟩ ::
        callsBehind reader log (VerificationCall.lastRead reader log
          ⟨verification, offset log seen + 1⟩) verifications := by
  rw [callsBehind, verificationCalls, callsBehind,
    ← VerificationCall.cursor_after]

theorem Follows.examines_iff
    (follows : Follows log seen (verification :: verifications))
    (line : index < log.length) :
    VerificationCall.examines reader log index
        ⟨verification, offset log seen + 1⟩ = true ↔
      seen < index ∧ index < VerificationCall.lastRead reader log
        ⟨verification, offset log seen + 1⟩ :=
  VerificationCall.examines_iff rfl follows.readings_grow follows.bounds line

theorem lastRead_bounds (follows : Follows log seen verifications) :
    ∀ call ∈ callsBehind reader log seen verifications,
      seen ≤ call.lastRead reader log ∧
        call.lastRead reader log ≤ log.length := by
  induction verifications generalizing seen with
  | nil =>
      intro call member
      cases member
  | cons verification verifications induction =>
      rw [callsBehind_cons, List.forall_mem_cons]
      have last := @VerificationCall.lastRead_mem reader log
        ⟨verification, offset log seen + 1⟩
      have bounds := follows.bounds _ last
      refine ⟨bounds, fun call member => ?_⟩
      have rest := induction (follows.next last) call member
      exact ⟨bounds.1.trans rest.1, rest.2⟩

theorem countP_examines_eq_zero (follows : Follows log seen verifications)
    (line : index < log.length) (before : index ≤ seen) :
    (callsBehind reader log seen verifications).countP
      (VerificationCall.examines reader log index) = 0 := by
  induction verifications generalizing seen with
  | nil => rfl
  | cons verification verifications induction =>
      have last := @VerificationCall.lastRead_mem reader log
        ⟨verification, offset log seen + 1⟩
      have later := (follows.bounds _ last).1
      have skipped : ¬ VerificationCall.examines reader log index
          ⟨verification, offset log seen + 1⟩ = true := by
        rw [follows.examines_iff line]
        omega
      rw [callsBehind_cons, List.countP_cons, if_neg skipped,
        induction (follows.next last) (before.trans later)]

theorem countP_examines_le_one (follows : Follows log seen verifications)
    (line : index < log.length) :
    (callsBehind reader log seen verifications).countP
      (VerificationCall.examines reader log index) ≤ 1 := by
  induction verifications generalizing seen with
  | nil => exact Nat.zero_le 1
  | cons verification verifications induction =>
      have last := @VerificationCall.lastRead_mem reader log
        ⟨verification, offset log seen + 1⟩
      rw [callsBehind_cons, List.countP_cons]
      by_cases here : VerificationCall.examines reader log index
          ⟨verification, offset log seen + 1⟩ = true
      · have inside := (follows.examines_iff line).mp here
        rw [if_pos here, countP_examines_eq_zero (follows.next last) line
          inside.2.le]
      · rw [if_neg here]
        exact induction (follows.next last)

/-- A line is examined once unless it is the first one after a reading. -/
theorem countP_examines_eq_one_iff
    (follows : Follows log seen verifications) (line : index < log.length)
    (after : seen ≤ index)
    (read : ∃ call ∈ callsBehind reader log seen verifications,
      index < call.lastRead reader log) :
    (callsBehind reader log seen verifications).countP
        (VerificationCall.examines reader log index) = 1 ↔
      index ≠ seen ∧ ∀ call ∈ callsBehind reader log seen verifications,
        index ≠ call.lastRead reader log := by
  induction verifications generalizing seen with
  | nil =>
      obtain ⟨call, member, -⟩ := read
      cases member
  | cons verification verifications induction =>
      have last := @VerificationCall.lastRead_mem reader log
        ⟨verification, offset log seen + 1⟩
      have later := (follows.bounds _ last).1
      have rest := @lastRead_bounds reader log _ verifications
        (follows.next last)
      rw [callsBehind_cons, List.exists_mem_cons_iff] at read
      rw [callsBehind_cons, List.countP_cons, List.forall_mem_cons]
      rcases Nat.lt_or_ge index (VerificationCall.lastRead reader log
        ⟨verification, offset log seen + 1⟩) with inside | beyond
      · have others : ∀ call ∈ callsBehind reader log
            (VerificationCall.lastRead reader log
              ⟨verification, offset log seen + 1⟩) verifications,
            index ≠ call.lastRead reader log := by
          intro call member
          exact Nat.ne_of_lt (Nat.lt_of_lt_of_le inside
            (rest call member).1)
        have examined := (@Follows.examines_iff reader log seen index _ _
          follows line).trans (and_iff_left inside)
        rw [countP_examines_eq_zero (follows.next last) line inside.le]
        by_cases first : index = seen
        · rw [if_neg (by rw [examined]; omega)]
          exact iff_of_false (by omega) fun other => other.1 first
        · rw [if_pos (examined.mpr (by omega))]
          exact iff_of_true rfl ⟨first, inside.ne, others⟩
      · have skipped : ¬ VerificationCall.examines reader log index
            ⟨verification, offset log seen + 1⟩ = true := by
          rw [follows.examines_iff line]
          omega
        have readLater := read.resolve_left (by omega)
        rw [if_neg skipped, Nat.add_zero,
          induction (follows.next last) beyond readLater]
        constructor
        · intro ⟨notLast, others⟩
          exact ⟨by omega, notLast, others⟩
        · intro ⟨_, notLast, others⟩
          exact ⟨notLast, others⟩

end Following

namespace LogRun

variable {run : LogRun}

theorem observedCount_mem : run.observedCount reader ∈ run.observed :=
  pollUntil_sublist.subset (lastReading_mem (pollUntil_ne_nil run.read))

theorem follows : Follows run.log (run.observedCount reader)
    run.verifications := by
  have grows := List.pairwise_append.mp run.grows
  refine ⟨grows.2.1, fun count member => ⟨?_, ?_⟩⟩
  · exact grows.2.2 _ observedCount_mem count member
  · exact run.written count (List.mem_append_right _ member)

theorem calls_eq : run.calls reader =
    callsBehind reader run.log (run.observedCount reader)
      run.verifications := by
  rw [calls, cursor_after_observation, callsBehind]

theorem lastRead_le {call : VerificationCall}
    (member : call ∈ run.calls reader) :
    call.lastRead reader run.log ≤ run.log.length := by
  rw [calls_eq] at member
  exact (lastRead_bounds follows call member).2

theorem Appended.exists_call (appended : run.Appended reader index) :
    ∃ call ∈ run.calls reader, index < call.lastRead reader run.log := by
  obtain ⟨-, last, member, before⟩ := appended
  obtain ⟨call, made, rfl⟩ := List.mem_map.mp member
  exact ⟨call, made, before⟩

theorem Appended.lt_length (appended : run.Appended reader index) :
    index < run.log.length := by
  obtain ⟨call, made, before⟩ := appended.exists_call
  exact Nat.lt_of_lt_of_le before (lastRead_le made)

theorem examinations_le_one (appended : run.Appended reader index) :
    run.examinations reader index ≤ 1 := by
  rw [examinations, calls_eq]
  exact countP_examines_le_one follows appended.lt_length

theorem examinations_eq_one_iff (appended : run.Appended reader index) :
    run.examinations reader index = 1 ↔
      index ∉ run.observedCount reader :: run.lastReads reader := by
  have line := appended.lt_length
  have read := appended.exists_call
  rw [List.mem_cons, not_or, lastReads, examinations]
  rw [calls_eq] at read ⊢
  rw [countP_examines_eq_one_iff follows line appended.1 read]
  simp [eq_comm]

/-- Every appended line is examined by exactly one call if and only if the
last reading of every call has as many lines as the observation's. -/
theorem lines_examined_once_iff (reader : TextReader) (run : LogRun) :
    (∀ index, run.Appended reader index →
        (run.examinations reader index = 1 ↔
          index ∉ run.observedCount reader :: run.lastReads reader)) ∧
      ((∀ index, run.Appended reader index →
          run.examinations reader index = 1) ↔
        ∀ last ∈ run.lastReads reader, last = run.observedCount reader) := by
  refine ⟨fun index appended => examinations_eq_one_iff appended, ?_⟩
  constructor
  · intro examined last member
    by_contra more
    have later : run.observedCount reader ≤ last := by
      obtain ⟨call, made, rfl⟩ := List.mem_map.mp member
      rw [calls_eq] at made
      exact (lastRead_bounds follows call made).1
    have appended : run.Appended reader (run.observedCount reader) :=
      ⟨Nat.le_refl _, last, member, by omega⟩
    exact (examinations_eq_one_iff appended).mp (examined _ appended)
      List.mem_cons_self
  · intro quiet index ⟨after, last, member, before⟩
    have same := quiet last member
    omega

end LogRun

end Examination

def denialText : String :=
  "\x7b\"kuber_event\":true,\"kuber_denied\":true," ++
    "\"resource\":\"jobs\",\"verb\":\"get\"\x7d"

def denialFields : Document :=
  [("kuber_event", .bool true), ("kuber_denied", .bool true),
    ("resource", .string "jobs"), ("verb", .string "get")]

/-- A JSON module, as far as this text goes. -/
def denialReader : TextReader where
  loads text :=
    if text = denialText then some (.mapping denialFields) else none
  decimal character :=
    if character.isDigit = true then some (character.toNat - '0'.toNat)
    else none

/-- The smoke run fails, and the denial that explains it is the first line
after the observation. -/
def denialRun : LogRun where
  log := [⟨"started".toList, by decide⟩, ⟨denialText.toList, by decide⟩]
  observed := [1]
  verifications := [⟨⟨1, "KUBER_TEST_SUMMARY=5/6\n", ""⟩, [2, 2], by decide⟩]
  read := by decide
  grows := by decide
  written := by decide

theorem lineEvent?_denialText :
    lineEvent? denialReader true denialText.toList =
      some ⟨"", "jobs", "get", .null, .null, .null⟩ := by
  have whole : denialText.toList.dropWhile (· != '\x7b') =
      denialText.toList := by decide
  rw [lineEvent?, whole, String.ofList_toList]
  rfl

theorem observedCount_denialRun (reader : TextReader) :
    denialRun.observedCount reader = 1 := by
  rw [LogRun.observedCount, denialRun, pollUntil]
  split <;> rfl

theorem lastReads_denialRun (reader : TextReader) :
    denialRun.lastReads reader = [2] := by
  simp only [LogRun.lastReads, LogRun.calls, denialRun, verificationCalls,
    List.map_cons, List.map_nil, VerificationCall.lastRead,
    VerificationCall.reads, pollUntil]
  split
  · rfl
  · rfl

theorem denial_after_observation_escapes :
    lineEvent? denialReader true denialText.toList =
        some ⟨"", "jobs", "get", .null, .null, .null⟩ ∧
      ¬ ∀ index, denialRun.Appended denialReader index →
        denialRun.examinations denialReader index = 1 := by
  refine ⟨lineEvent?_denialText, fun examined => ?_⟩
  have appended : denialRun.Appended denialReader 1 := by
    rw [LogRun.Appended, observedCount_denialRun, lastReads_denialRun]
    decide
  have once := (LogRun.examinations_eq_one_iff appended).mp
    (examined 1 appended)
  rw [observedCount_denialRun] at once
  exact once List.mem_cons_self

end Kuber.Runtime
