import Kuber.Context.Indexer
import Kuber.Library.LastValueCache

/-!
# Incremental indexing

The store of contexts, used by the indexer alone, is a cache of the last
context of every service, keyed by the content hash.  The hash covers the names
and contents of the files in one stream of bytes, and nothing else of what a
context is made of: neither the dependencies nor the declared usage, nor where
one file ends and the next begins.
-/

namespace Kuber.Context

open Kuber.Library Kuber.Rules Kuber.Event

/-- What a context holds besides its hash: the paths, the dependencies and the
usage of two states of a service are the same. -/
structure SameInputs (left right : Gathered) : Prop where
  paths : left.files.map LoadedFile.relative =
    right.files.map LoadedFile.relative
  dependencies : ∀ dependency, dependency ∈ left.service.dependencies ↔
    dependency ∈ right.service.dependencies
  usage : ∀ name, name ∈ left.usage ↔ name ∈ right.usage

section Gathering

variable {disk : FileSystem} {maximumFileBytes : Nat}

theorem isFile_of_selectable {path : Path}
    (selected : selectable disk maximumFileBytes path = .ok true) :
    disk.isFile path = .ok true := by
  rw [selectable, bind_eq_ok_iff] at selected
  obtain ⟨found, isFile, selected⟩ := selected
  cases found with
  | true => exact isFile
  | false => simp [pure_eq_ok_iff] at selected

theorem isFile_of_mem_selectPaths {paths selected : List Path} {path : Path}
    (run : selectPaths disk maximumFileBytes paths = .ok selected)
    (member : path ∈ selected) : disk.isFile path = .ok true := by
  induction paths generalizing selected with
  | nil =>
      rw [selectPaths, pure_eq_ok_iff] at run
      rw [← run] at member
      cases member
  | cons first paths induction =>
      simp only [selectPaths, bind_eq_ok_iff, pure_eq_ok_iff] at run
      obtain ⟨chosen, selectFirst, rest, selectRest, rfl⟩ := run
      cases chosen with
      | false => exact induction selectRest member
      | true =>
          rcases List.mem_cons.mp member with rfl | later
          · exact isFile_of_selectable selectFirst
          · exact induction selectRest later

theorem isFile_of_mem_selectFiles {root path : Path}
    {importantPaths : List String} {selected : List Path}
    (run : selectFiles disk maximumFileBytes root importantPaths =
      .ok selected) (member : path ∈ selected) :
    disk.isFile path = .ok true := by
  induction importantPaths generalizing selected with
  | nil =>
      rw [selectFiles, pure_eq_ok_iff] at run
      rw [← run] at member
      cases member
  | cons relative importantPaths induction =>
      simp only [selectFiles, bind_eq_ok_iff, pure_eq_ok_iff] at run
      obtain ⟨paths, -, chosen, choose, rest, selectRest, rfl⟩ := run
      rcases List.mem_append.mp member with here | later
      · exact isFile_of_mem_selectPaths choose here
      · exact induction selectRest later

theorem resolveFiles_below {root : Path} {importantPaths : List String}
    {selected : List Path}
    (run : resolveFiles disk maximumFileBytes root importantPaths =
      .ok selected) : root ∉ selected := by
  rw [resolveFiles, bind_eq_ok_iff] at run
  obtain ⟨found, isDir, run⟩ := run
  cases found with
  | false => simp at run
  | true =>
      simp only [if_true, bind_eq_ok_iff, pure_eq_ok_iff] at run
      obtain ⟨files, select, rfl⟩ := run
      intro member
      rw [mem_sortBy] at member
      exact disk.apart root isDir
        (isFile_of_mem_selectFiles select (mem_of_mem_uniqueBy member))

theorem nameOf_of_gather {service : ServiceContext} {gathered : Gathered}
    (run : gather disk maximumFileBytes service = .ok gathered) :
    ∀ file ∈ gathered.files, nameOf file.path.parts = nameOf file.relative := by
  simp only [gather, bind_eq_ok_iff, pure_eq_ok_iff] at run
  obtain ⟨root, -, paths, resolved, files, load, rfl⟩ := run
  intro file member
  obtain ⟨path, pathMember, loaded⟩ :=
    forall₂_mem_right (mapM_eq_ok_iff.mp load) member
  simp only [loadFile, bind_eq_ok_iff, pure_eq_ok_iff] at loaded
  obtain ⟨relative, below, content, -, rfl⟩ := loaded
  rw [Path.relativeTo_eq_ok_iff] at below
  have nonempty : relative ≠ [] := by
    intro empty
    have same : path = root := by
      obtain ⟨anchor, parts⟩ := path
      obtain ⟨rootAnchor, rootParts⟩ := root
      rw [empty, List.append_nil] at below
      exact Path.mk.injEq .. ▸ below
    exact resolveFiles_below resolved (same ▸ pathMember)
  rw [nameOf, nameOf, below.2, List.getLast?_append_of_ne_nil _ nonempty]

end Gathering

section Contexts

/-- Every file is named by its path below the root. -/
def Gathered.Named (gathered : Gathered) : Prop :=
  ∀ file ∈ gathered.files, nameOf file.path.parts = nameOf file.relative

variable {left right : Gathered}

theorem map_texts_eq_iff :
    left.files.map LoadedFile.text = right.files.map LoadedFile.text ↔
      left.files.map LoadedFile.relative =
        right.files.map LoadedFile.relative := by
  have texts : ∀ files : List LoadedFile, files.map LoadedFile.text =
      (files.map LoadedFile.relative).map posixText := by
    intro files
    rw [List.map_map]
    rfl
  rw [texts, texts]
  exact (List.map_injective_iff.mpr posixText_injective).eq_iff

theorem length_stream (gathered : Gathered) :
    gathered.stream.length = ((gathered.files.map LoadedFile.relative).map
      fun parts => (encode (posixText parts)).length + 1).sum +
        gathered.bytesLoaded := by
  rw [Gathered.stream, Gathered.bytesLoaded]
  induction gathered.files with
  | nil => rfl
  | cons file files induction =>
      simp only [List.flatMap_cons, List.length_append, List.length_cons,
        List.map_cons, List.sum_cons, induction]
      simp only [LoadedFile.text]
      omega

theorem filterMap_eq_of_named {α : Type} (choose : String → String → Option α)
    (leftNamed : left.Named) (rightNamed : right.Named)
    (paths : left.files.map LoadedFile.relative =
      right.files.map LoadedFile.relative) :
    left.files.filterMap (fun file =>
        choose (nameOf file.path.parts) file.text) =
      right.files.filterMap fun file =>
        choose (nameOf file.path.parts) file.text := by
  have byPath : ∀ gathered : Gathered, gathered.Named →
      gathered.files.filterMap (fun file =>
          choose (nameOf file.path.parts) file.text) =
        (gathered.files.map LoadedFile.relative).filterMap fun relative =>
          choose (nameOf relative) (posixText relative) := by
    intro gathered named
    rw [List.filterMap_map]
    apply List.filterMap_congr
    intro file member
    rw [named file member]
    rfl
  rw [byPath left leftNamed, byPath right rightNamed, paths]

theorem languages_eq (leftNamed : left.Named) (rightNamed : right.Named)
    (paths : left.files.map LoadedFile.relative =
      right.files.map LoadedFile.relative) :
    left.files.filterMap LoadedFile.language? =
      right.files.filterMap LoadedFile.language? :=
  filterMap_eq_of_named
    (fun name _ => languages.lookup (suffixOf name).toLower)
    leftNamed rightNamed paths

theorem entryPoints_eq (leftNamed : left.Named) (rightNamed : right.Named)
    (paths : left.files.map LoadedFile.relative =
      right.files.map LoadedFile.relative) :
    (left.files.filter LoadedFile.isEntryPoint).map LoadedFile.text =
      (right.files.filter LoadedFile.isEntryPoint).map LoadedFile.text := by
  have chosen : ∀ files : List LoadedFile,
      (files.filter LoadedFile.isEntryPoint).map LoadedFile.text =
        files.filterMap fun file =>
          if nameOf file.path.parts ∈ entryNames then some file.text
          else none := by
    intro files
    rw [← List.filterMap_eq_map, List.filterMap_filter]
    apply List.filterMap_congr
    intro file _
    simp [LoadedFile.isEntryPoint]
  rw [chosen, chosen]
  exact filterMap_eq_of_named
    (fun name text => if name ∈ entryNames then some text else none)
    leftNamed rightNamed paths

/-- Two states of a service with the same stream have the same context when
their inputs are the same. -/
theorem context_eq_iff {hexdigest : List UInt8 → String}
    (leftNamed : left.Named) (rightNamed : right.Named)
    (service : left.service.serviceId = right.service.serviceId)
    (stream : left.stream = right.stream) :
    left.context hexdigest = right.context hexdigest ↔
      SameInputs left right := by
  constructor
  · intro same
    have files := congrArg IndexedServiceContext.files same
    have usage := congrArg IndexedServiceContext.kubernetesUsage same
    have dependencies := congrArg IndexedServiceContext.dependencies same
    exact ⟨map_texts_eq_iff.mp files, sortedSet_eq_iff.mp dependencies,
      sortedSet_eq_iff.mp usage⟩
  · intro ⟨paths, dependencies, usage⟩
    have bytes : left.bytesLoaded = right.bytesLoaded := by
      have lengths := congrArg List.length stream
      rw [length_stream, length_stream, paths] at lengths
      omega
    rw [Gathered.context, Gathered.context, service, stream,
      map_texts_eq_iff.mpr paths, bytes,
      languages_eq leftNamed rightNamed paths,
      entryPoints_eq leftNamed rightNamed paths,
      sortedSet_eq_iff.mpr dependencies, sortedSet_eq_iff.mpr usage]

end Contexts

/-- References of contexts tell their services apart. -/
theorem contextRef_service {serviceId other contentHash otherHash : String}
    (digits : 16 ≤ contentHash.length) (otherDigits : 16 ≤ otherHash.length)
    (same : Gathered.contextRef serviceId contentHash =
      Gathered.contextRef other otherHash) : serviceId = other := by
  have texts := congrArg String.toList same
  simp only [Gathered.contextRef, String.toList_append,
    String.toList_ofList] at texts
  have lengths : (contentHash.toList.take 16).length =
      (otherHash.toList.take 16).length := by
    rw [List.length_take, List.length_take, String.length_toList,
      String.length_toList, Nat.min_eq_left digits,
      Nat.min_eq_left otherDigits]
  have fronts := (List.append_inj' texts lengths).1
  have names := (List.append_inj' fronts rfl).1
  exact String.ext (List.append_cancel_left names)

/-- One call of `index`: the indexer at that time, and the service. -/
structure IndexCall where
  indexer : ServiceContextIndexer
  service : ServiceContext

namespace IndexCall

variable (loader : Loader) (hexdigest : List UInt8 → String)
  (call : IndexCall)

/-- What the call reads before it asks the store. -/
def gathered : Except PyException Gathered :=
  gather call.indexer.disk call.indexer.maximumFileBytes call.service

/-- The context that the call returns. -/
def returned (store : SQLiteContextStore) :
    Except PyException IndexedServiceContext :=
  (call.indexer.index loader hexdigest call.service store).1.map
    IndexResult.context

/-- The store that the call leaves. -/
def leaves (store : SQLiteContextStore) : SQLiteContextStore :=
  (call.indexer.index loader hexdigest call.service store).2

end IndexCall

/-- The store after some calls. -/
def storeAfter (loader : Loader) (hexdigest : List UInt8 → String)
    (calls : List IndexCall) : SQLiteContextStore :=
  calls.foldl (fun store call => call.leaves loader hexdigest store) .empty

/-- The states of services that some calls have read, without the calls that
raised. -/
def gatheredBy (calls : List IndexCall) : List Gathered :=
  calls.filterMap fun call => call.gathered.toOption

/-- The last state of a service among some. -/
def lastOf (serviceId : String) (states : List Gathered) : Option Gathered :=
  states.reverse.find? fun state =>
    decide (state.service.serviceId = serviceId)

/-- The contexts as a cache: a slot for every service, keyed by the hash. -/
def contextCache (hexdigest : List UInt8 → String) :
    LastValueCache String Gathered IndexedServiceContext String where
  slot gathered := gathered.service.serviceId
  key gathered := hexdigest gathered.stream
  keyOf := IndexedServiceContext.contentHash
  compute gathered := gathered.context hexdigest
  keyOf_compute _ := rfl

section Simulation

variable {loader : Loader} {hexdigest : List UInt8 → String}
  {calls : List IndexCall} {call : IndexCall} {gathered : Gathered}
  {store : SQLiteContextStore}
  {stored : String → Option IndexedServiceContext}

/-- The table holds the cache that calls have left. -/
structure Represents (loader : Loader) (hexdigest : List UInt8 → String)
    (calls : List IndexCall) (store : SQLiteContextStore)
    (stored : String → Option IndexedServiceContext) : Prop where
  latest : ∀ serviceId, store.latest loader serviceId = .ok (stored serviceId)
  past : ∀ row ∈ store.rows, ∃ call ∈ calls, row.createdAt = call.indexer.now
  own : ∀ row ∈ store.rows, ∃ stream, row.contextRef =
    Gathered.contextRef row.serviceId (hexdigest stream)

theorem represents_empty :
    Represents loader hexdigest [] .empty fun _ => none where
  latest _ := rfl
  past row member := by cases member
  own row member := by cases member

theorem Represents.more (represents :
    Represents loader hexdigest calls store stored) (call : IndexCall) :
    Represents loader hexdigest (calls ++ [call]) store stored where
  latest := represents.latest
  past row member := by
    obtain ⟨earlier, made, time⟩ := represents.past row member
    exact ⟨earlier, List.mem_append_left _ made, time⟩
  own := represents.own

theorem index_of_error {error : PyException}
    (run : call.gathered = .error error) :
    call.indexer.index loader hexdigest call.service store =
      (.error error, store) := by
  rw [ServiceContextIndexer.index, ← IndexCall.gathered, run]
  rfl

theorem index_of_ok (run : call.gathered = .ok gathered) :
    call.indexer.index loader hexdigest call.service store =
      call.indexer.reuseOrStore loader hexdigest gathered store := by
  rw [ServiceContextIndexer.index, ← IndexCall.gathered, run]
  rfl

theorem reuseOrStore_reuses {indexer : ServiceContextIndexer}
    {previous : IndexedServiceContext}
    (latest : store.latest loader gathered.service.serviceId =
      .ok (some previous))
    (same : previous.contentHash = hexdigest gathered.stream) :
    indexer.reuseOrStore loader hexdigest gathered store =
      (.ok ⟨previous, true⟩, store) := by
  simp only [ServiceContextIndexer.reuseOrStore, Raising.bind_run,
    Raising.get_run, Raising.ofExcept_run, latest, Gathered.context]
  simp [Option.filter, same]

theorem reuseOrStore_stores {indexer : ServiceContextIndexer}
    {latest : Option IndexedServiceContext}
    (found : store.latest loader gathered.service.serviceId = .ok latest)
    (other : ∀ previous, latest = some previous →
      previous.contentHash ≠ hexdigest gathered.stream) :
    indexer.reuseOrStore loader hexdigest gathered store =
      (.ok ⟨gathered.context hexdigest, false⟩,
        store.put indexer.now (gathered.context hexdigest)) := by
  have none : latest.filter (fun previous => decide (previous.contentHash =
      (gathered.context hexdigest).contentHash)) = none := by
    rw [Option.filter_eq_none_iff]
    intro previous is same
    exact other previous is (of_decide_eq_true same)
  simp only [ServiceContextIndexer.reuseOrStore, Raising.bind_run,
    Raising.get_run, Raising.ofExcept_run, found, none]
  rfl

theorem Represents.step_error {error : PyException}
    (represents : Represents loader hexdigest calls store stored)
    (run : call.gathered = .error error) :
    Represents loader hexdigest (calls ++ [call])
      (call.leaves loader hexdigest store) stored := by
  rw [IndexCall.leaves, index_of_error run]
  exact represents.more call

theorem Represents.put (represents :
    Represents loader hexdigest calls store stored)
    (digits : ∀ stream, (hexdigest stream).length = 64)
    (clock : ∀ earlier ∈ calls, earlier.indexer.now ≤ call.indexer.now) :
    Represents loader hexdigest (calls ++ [call])
      (store.put call.indexer.now (gathered.context hexdigest))
      (Function.update stored gathered.service.serviceId
        (some (gathered.context hexdigest))) where
  latest serviceId := by
    by_cases here : serviceId = gathered.service.serviceId
    · rw [here, Function.update_self]
      apply SQLiteContextStore.latest_put_self
      intro row member
      obtain ⟨earlier, made, time⟩ := represents.past row member
      exact time ▸ clock earlier made
    · rw [Function.update_of_ne here, ← represents.latest serviceId]
      apply SQLiteContextStore.latest_put_of_ne here
      intro row member same
      obtain ⟨stream, reference⟩ := represents.own row member
      rw [reference] at same
      exact contextRef_service (by rw [digits]; decide)
        (by rw [digits]; decide) same
  past row member := by
    rcases List.mem_append.mp member with kept | added
    · obtain ⟨earlier, made, time⟩ :=
        represents.past row (List.mem_filter.mp kept).1
      exact ⟨earlier, List.mem_append_left _ made, time⟩
    · rw [List.mem_singleton.mp added]
      exact ⟨call, by simp, rfl⟩
  own row member := by
    rcases List.mem_append.mp member with kept | added
    · exact represents.own row (List.mem_filter.mp kept).1
    · rw [List.mem_singleton.mp added]
      exact ⟨gathered.stream, rfl⟩

/-- A call that does not raise is answered as the cache answers it. -/
theorem Represents.step (represents :
    Represents loader hexdigest calls store stored)
    (digits : ∀ stream, (hexdigest stream).length = 64)
    (clock : ∀ earlier ∈ calls, earlier.indexer.now ≤ call.indexer.now)
    (run : call.gathered = .ok gathered) :
    call.returned loader hexdigest store =
        .ok ((contextCache hexdigest).answer stored gathered) ∧
      Represents loader hexdigest (calls ++ [call])
        (call.leaves loader hexdigest store)
        ((contextCache hexdigest).store stored gathered) := by
  have latest := represents.latest gathered.service.serviceId
  rw [IndexCall.returned, IndexCall.leaves, index_of_ok run,
    LastValueCache.store]
  by_cases reused : ∃ previous,
      stored gathered.service.serviceId = some previous ∧
        previous.contentHash = hexdigest gathered.stream
  · obtain ⟨previous, here, same⟩ := reused
    have answer : (contextCache hexdigest).answer stored gathered =
        previous := by
      simp [LastValueCache.answer, contextCache, here, same]
    rw [here] at latest
    rw [reuseOrStore_reuses latest same, answer]
    refine ⟨rfl, ?_⟩
    have unchanged : Function.update stored
        ((contextCache hexdigest).slot gathered) (some previous) = stored :=
      Function.update_eq_self_iff.mpr here.symm
    rw [unchanged]
    exact represents.more call
  · have other : ∀ previous,
        stored gathered.service.serviceId = some previous →
          previous.contentHash ≠ hexdigest gathered.stream :=
      fun previous here same => reused ⟨previous, here, same⟩
    have answer : (contextCache hexdigest).answer stored gathered =
        gathered.context hexdigest := by
      cases here : stored gathered.service.serviceId with
      | none => simp [LastValueCache.answer, contextCache, here]
      | some previous =>
          simp [LastValueCache.answer, contextCache, here,
            other previous here]
    rw [reuseOrStore_stores latest other, answer]
    exact ⟨rfl, represents.put digits clock⟩

/-- The table refines the cache over all runs. -/
theorem represents_storeAfter
    (digits : ∀ stream, (hexdigest stream).length = 64)
    (clock : calls.Pairwise fun earlier later =>
      earlier.indexer.now ≤ later.indexer.now) :
    Represents loader hexdigest calls (storeAfter loader hexdigest calls)
      ((contextCache hexdigest).storedAfter (gatheredBy calls)) := by
  induction calls using List.reverseRecOn with
  | nil => exact represents_empty
  | append_singleton calls call induction =>
      obtain ⟨earlier, -, last⟩ := List.pairwise_append.mp clock
      have represents := induction earlier
      have times : ∀ earlier ∈ calls,
          earlier.indexer.now ≤ call.indexer.now :=
        fun earlier member => last earlier member call List.mem_cons_self
      have store : storeAfter loader hexdigest (calls ++ [call]) =
          call.leaves loader hexdigest (storeAfter loader hexdigest calls) := by
        rw [storeAfter, List.foldl_append]
        rfl
      rw [store, gatheredBy, List.filterMap_append]
      cases run : call.gathered with
      | error error =>
          have none : [call].filterMap (fun call =>
              call.gathered.toOption) = [] := by
            simp [run, Except.toOption]
          rw [none, List.append_nil]
          exact represents.step_error run
      | ok gathered =>
          have one : [call].filterMap (fun call =>
              call.gathered.toOption) = [gathered] := by
            simp [run, Except.toOption]
          rw [one, LastValueCache.storedAfter_append]
          exact (represents.step digits times run).2

end Simulation

/-- Every call returns what it would return from an empty store. -/
def IncrementalIsFull (loader : Loader) (hexdigest : List UInt8 → String)
    (calls : List IndexCall) : Prop :=
  ∀ earlier call later, calls = earlier ++ call :: later →
    call.returned loader hexdigest (storeAfter loader hexdigest earlier) =
      call.returned loader hexdigest .empty

/-- Where a service is read as the same stream as the last time, its paths,
dependencies and usage are the same as well. -/
def StreamsDetermine (calls : List IndexCall) : Prop :=
  ∀ earlier state later, gatheredBy calls = earlier ++ state :: later →
    ∀ previous, lastOf state.service.serviceId earlier = some previous →
      previous.stream = state.stream → SameInputs previous state

section Equivalence

variable {loader : Loader} {hexdigest : List UInt8 → String}
  {calls : List IndexCall} {call : IndexCall} {gathered : Gathered}

theorem gatheredBy_append (first second : List IndexCall) :
    gatheredBy (first ++ second) = gatheredBy first ++ gatheredBy second :=
  List.filterMap_append

theorem gatheredBy_cons_ok (run : call.gathered = .ok gathered) :
    gatheredBy (call :: calls) = gathered :: gatheredBy calls := by
  simp [gatheredBy, run, Except.toOption]

theorem named_of_mem_gatheredBy (member : gathered ∈ gatheredBy calls) :
    gathered.Named := by
  obtain ⟨call, -, found⟩ := List.mem_filterMap.mp member
  cases run : call.gathered with
  | error error => simp [run, Except.toOption] at found
  | ok other =>
      simp only [run, Except.toOption, Option.some.injEq] at found
      exact found ▸ nameOf_of_gather run

theorem exists_call_of_gatheredBy {earlier later : List Gathered}
    (split : gatheredBy calls = earlier ++ gathered :: later) :
    ∃ before call after, calls = before ++ call :: after ∧
      gatheredBy before = earlier ∧ call.gathered = .ok gathered := by
  obtain ⟨front, rest, rfl, frontStates, restStates⟩ :=
    List.filterMap_eq_append_iff.mp split
  obtain ⟨silent, call, after, rfl, silentStates, state, -⟩ :=
    List.filterMap_eq_cons_iff.mp restStates
  refine ⟨front ++ silent, call, after, by simp, ?_, ?_⟩
  · have none : gatheredBy silent = [] :=
      List.filterMap_eq_nil_iff.mpr silentStates
    rw [gatheredBy_append, none, List.append_nil]
    exact frontStates
  · cases run : call.gathered with
    | error error => simp [run, Except.toOption] at state
    | ok other =>
        simp only [run, Except.toOption, Option.some.injEq] at state
        rw [state]

theorem returned_empty (digits : ∀ stream, (hexdigest stream).length = 64)
    (run : call.gathered = .ok gathered) :
    call.returned loader hexdigest .empty =
      .ok (gathered.context hexdigest) :=
  (represents_empty.step digits (by simp) run).1

/-- What a call returns after others is the answer of the cache. -/
theorem returned_storeAfter {earlier later : List IndexCall}
    (digits : ∀ stream, (hexdigest stream).length = 64)
    (clock : calls.Pairwise fun earlier later =>
      earlier.indexer.now ≤ later.indexer.now)
    (split : calls = earlier ++ call :: later)
    (run : call.gathered = .ok gathered) :
    call.returned loader hexdigest (storeAfter loader hexdigest earlier) =
      .ok ((contextCache hexdigest).answer ((contextCache
        hexdigest).storedAfter (gatheredBy earlier)) gathered) := by
  rw [split] at clock
  obtain ⟨before, -, last⟩ := List.pairwise_append.mp clock
  have times : ∀ other ∈ earlier, other.indexer.now ≤ call.indexer.now :=
    fun other member => last other member call List.mem_cons_self
  exact ((represents_storeAfter digits before).step digits times run).1

theorem incremental_iff_exact
    (digits : ∀ stream, (hexdigest stream).length = 64)
    (clock : calls.Pairwise fun earlier later =>
      earlier.indexer.now ≤ later.indexer.now) :
    IncrementalIsFull loader hexdigest calls ↔
      (contextCache hexdigest).Exact (gatheredBy calls) := by
  constructor
  · intro full earlier gathered later split
    obtain ⟨before, call, after, parts, rfl, run⟩ :=
      exists_call_of_gatheredBy split
    have same := full before call after parts
    rw [returned_storeAfter digits clock parts run,
      returned_empty digits run] at same
    exact Except.ok.inj same
  · intro answers earlier call later split
    cases run : call.gathered with
    | error error =>
        rw [IndexCall.returned, IndexCall.returned, index_of_error run,
          index_of_error run]
    | ok gathered =>
        rw [returned_storeAfter digits clock split run,
          returned_empty digits run]
        apply congrArg
        apply answers (gatheredBy earlier) gathered (gatheredBy later)
        rw [split, gatheredBy_append, gatheredBy_cons_ok run]

theorem determined_iff
    (distinct : ∀ left ∈ gatheredBy calls, ∀ right ∈ gatheredBy calls,
      hexdigest left.stream = hexdigest right.stream →
        left.stream = right.stream) :
    (contextCache hexdigest).Determined (gatheredBy calls) ↔
      StreamsDetermine calls := by
  have iff : ∀ earlier state later,
      gatheredBy calls = earlier ++ state :: later → ∀ previous,
        lastOf state.service.serviceId earlier = some previous →
          ((hexdigest previous.stream = hexdigest state.stream →
              previous.context hexdigest = state.context hexdigest) ↔
            (previous.stream = state.stream → SameInputs previous state)) := by
    intro earlier state later split previous last
    have previousMember : previous ∈ gatheredBy calls := by
      rw [split]
      exact List.mem_append_left _
        (List.mem_reverse.mp (List.mem_of_find?_eq_some last))
    have stateMember : state ∈ gatheredBy calls := by
      rw [split]
      exact List.mem_append_right _ List.mem_cons_self
    have service : previous.service.serviceId = state.service.serviceId := by
      rw [lastOf] at last
      simpa using List.find?_some last
    have streams : hexdigest previous.stream = hexdigest state.stream ↔
        previous.stream = state.stream :=
      ⟨distinct previous previousMember state stateMember,
        congrArg hexdigest⟩
    rw [streams]
    apply imp_congr_right
    intro stream
    exact context_eq_iff (named_of_mem_gatheredBy previousMember)
      (named_of_mem_gatheredBy stateMember) service stream
  constructor
  · intro determined earlier state later split previous last
    exact (iff earlier state later split previous last).mp
      (determined earlier state later split previous last)
  · intro determine earlier state later split previous last
    exact (iff earlier state later split previous last).mpr
      (determine earlier state later split previous last)

end Equivalence

/-- Incremental indexing equals full indexing exactly when equal streams of a
service, one after the other, come with equal inputs. -/
theorem incremental_index_is_full_iff (loader : Loader)
    (hexdigest : List UInt8 → String) (calls : List IndexCall)
    (digits : ∀ stream, (hexdigest stream).length = 64)
    (distinct : ∀ left ∈ gatheredBy calls, ∀ right ∈ gatheredBy calls,
      hexdigest left.stream = hexdigest right.stream →
        left.stream = right.stream)
    (clock : calls.Pairwise fun earlier later =>
      earlier.indexer.now ≤ later.indexer.now) :
    IncrementalIsFull loader hexdigest calls ↔ StreamsDetermine calls := by
  rw [incremental_iff_exact digits clock,
    LastValueCache.exact_iff_determined, determined_iff distinct]

def checkout : Path := .ofText "/srv/payment"

def mainFile : Path := checkout.join "main.py"

/-- A disk with one file in the checkout. -/
def checkoutDisk (content : List UInt8) : FileSystem where
  resolve path := .ok path
  isDir path := .ok (decide (path = checkout))
  isFile path := .ok (decide (path = mainFile))
  rglob _ := .ok [mainFile]
  size _ := .ok content.length
  readBytes _ := .ok content
  apart := by
    intro path isDir isFile
    have directory := of_decide_eq_true (Except.ok.inj isDir)
    have file := of_decide_eq_true (Except.ok.inj isFile)
    exact absurd (directory.symm.trans file) (by decide)

def paymentService (dependencies : List String) : ServiceContext where
  serviceId := "payment"
  «namespace» := "kuber-sandbox"
  workloadKind := "Deployment"
  deploymentName := "payment"
  serviceAccount := "payment-sa"
  sourceRepository := ⟨"payment", "/srv/payment", none, none⟩
  importantPaths := ["."]
  verificationProfile := "payment"
  dependencies := dependencies
  ownRepository := @rfl String "payment"

def sampleLoader : Loader where
  loads _ := .error (.valueError "")
  intOfText _ := .error (.valueError "")
  intOfFloat _ := .error (.valueError "")

/-- The hash of the one stream that is read here: `main.py`, zero, `pass`. -/
def sampleDigest (stream : List UInt8) : String :=
  if stream = [109, 97, 105, 110, 46, 112, 121, 0, 112, 97, 115, 115] then
    "05d39103356366568b9aba65283d344b5a267ced5c549f5024a0876450d91915"
  else String.ofList (List.replicate 64 '0')

theorem length_sampleDigest (stream : List UInt8) :
    (sampleDigest stream).length = 64 := by
  rw [sampleDigest]
  split
  · rfl
  · rw [String.length_ofList, List.length_replicate]

/-- A call while the one file of the service says `pass`. -/
def callAt (now : Nat) (dependencies : List String) : IndexCall where
  indexer := ⟨checkoutDisk [112, 97, 115, 115], 1000000, now⟩
  service := paymentService dependencies

theorem mainPart_named :
    "main.py" ≠ "" ∧ "main.py" ≠ "." ∧ '/' ∉ "main.py".toList := by decide

def paymentState (dependencies : List String) : Gathered where
  service := paymentService dependencies
  files := [⟨mainFile, [⟨"main.py", mainPart_named⟩], [112, 97, 115, 115]⟩]

/-- The service is indexed twice and does not change. -/
def unchangedCalls : List IndexCall :=
  [callAt 0 ["orders"], callAt 60 ["orders"]]

/-- The service gets a dependency, and its files stay as they are. -/
def changedCalls : List IndexCall :=
  [callAt 0 ["orders"], callAt 60 ["ledger", "orders"]]

theorem gatheredBy_unchangedCalls : gatheredBy unchangedCalls =
    [paymentState ["orders"], paymentState ["orders"]] := by rfl

theorem gatheredBy_changedCalls : gatheredBy changedCalls =
    [paymentState ["orders"], paymentState ["ledger", "orders"]] := by rfl

theorem incremental_index_is_full_unchanged :
    IncrementalIsFull sampleLoader sampleDigest unchangedCalls := by
  have states : ∀ state ∈ gatheredBy unchangedCalls,
      state = paymentState ["orders"] := by
    simp [gatheredBy_unchangedCalls]
  refine (incremental_index_is_full_iff sampleLoader sampleDigest
    unchangedCalls length_sampleDigest ?_ ?_).mpr ?_
  · intro left leftMember right rightMember _
    rw [states left leftMember, states right rightMember]
  · simp [unchangedCalls, callAt]
  · intro earlier state later split previous last _
    have member := List.mem_reverse.mp (List.mem_of_find?_eq_some last)
    rw [split] at states
    rw [states previous (List.mem_append_left _ member),
      states state (List.mem_append_right _ List.mem_cons_self)]
    exact ⟨rfl, fun _ => Iff.rfl, fun _ => Iff.rfl⟩

theorem added_dependency_is_missed :
    (∀ left ∈ gatheredBy changedCalls, ∀ right ∈ gatheredBy changedCalls,
        sampleDigest left.stream = sampleDigest right.stream →
          left.stream = right.stream) ∧
      ¬ IncrementalIsFull sampleLoader sampleDigest changedCalls := by
  constructor
  · have streams : ∀ state ∈ gatheredBy changedCalls,
        state.stream = (paymentState []).stream := by
      rw [gatheredBy_changedCalls]
      intro state member
      rcases List.mem_pair.mp member with rfl | rfl <;> rfl
    intro left leftMember right rightMember _
    rw [streams left leftMember, streams right rightMember]
  · intro full
    have same := congrArg (Except.map IndexedServiceContext.dependencies)
      (full [callAt 0 ["orders"]] (callAt 60 ["ledger", "orders"]) [] rfl)
    have stale : ((callAt 60 ["ledger", "orders"]).returned sampleLoader
        sampleDigest (storeAfter sampleLoader sampleDigest
          [callAt 0 ["orders"]])).map IndexedServiceContext.dependencies =
            .ok ["orders"] := by rfl
    have fresh : ((callAt 60 ["ledger", "orders"]).returned sampleLoader
        sampleDigest .empty).map IndexedServiceContext.dependencies =
          .ok ["ledger", "orders"] := by rfl
    rw [stale, fresh] at same
    exact absurd (Except.ok.inj same) (by decide)

end Kuber.Context
