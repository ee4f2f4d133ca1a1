import Kuber.Context.Containment
import Kuber.Context.ContentDigest
import Kuber.Context.Incremental

/-!
# Where a repository is checked out

The same tree at two places.  Paths are sorted, hashed and reported below the
root, but they are filtered as a whole: a directory above the root that has an
ignored name makes every file ignored.
-/

namespace Kuber.Context

open Kuber.Library Kuber.Rules Kuber.Event

/-! ### The order of absolute paths -/

theorem sortKey_of_ne_nil {parts : List Part} (nonempty : parts ≠ []) :
    Path.sortKey ⟨"/", parts⟩ = "" :: relativeKey parts := by
  have texts : (Path.text ⟨"/", parts⟩).toList =
      '/' :: (posixText parts).toList := by
    simp [Path.text, nonempty]
  have front : ('/' :: (posixText parts).toList).splitOn '/' =
      [] :: (posixText parts).toList.splitOn '/' :=
    List.splitOn_append_cons_self [] _
  rw [Path.sortKey, texts, front, posixText_of_ne_nil nonempty, List.map_cons,
    List.map_map]
  have same : String.ofList ∘ (fun part : Part => part.val.toList) =
      Subtype.val := by
    funext part
    exact String.ofList_toList
  rw [same]
  rfl

theorem append_lt_append_iff {front left right : List String} :
    front ++ left < front ++ right ↔ left < right := by
  induction front with
  | nil => rfl
  | cons first front induction =>
      rw [List.cons_append, List.cons_append, List.cons_lt_cons_self, induction]

theorem relativeKey_injective : Function.Injective relativeKey :=
  List.map_injective_iff.mpr Subtype.val_injective

theorem eq_of_ascending {left right : List (List Part)}
    (leftAscending : left.Pairwise fun first second =>
      relativeKey first < relativeKey second)
    (rightAscending : right.Pairwise fun first second =>
      relativeKey first < relativeKey second)
    (same : ∀ path, path ∈ left ↔ path ∈ right) : left = right := by
  have distinct : ∀ {paths : List (List Part)},
      paths.Pairwise (fun first second =>
        relativeKey first < relativeKey second) → paths.Nodup := by
    intro paths ascending
    apply ascending.imp
    intro first second before equal
    exact lt_irrefl _ (equal ▸ before)
  have permuted := (List.perm_ext_iff_of_nodup (distinct leftAscending)
    (distinct rightAscending)).mpr same
  refine permuted.eq_of_pairwise ?_ leftAscending rightAscending
  intro first second _ _ before after
  exact absurd (lt_trans before after) (lt_irrefl _)

/-! ### What is gathered -/

section Gathering

variable {disk : Disk} {maximumFileBytes : Nat}

theorem selectable_returns (path : Path) :
    ∃ selected, selectable disk.fileSystem maximumFileBytes path =
      .ok selected := by
  rw [selectable]
  cases found : disk.content? path with
  | none =>
      exact ⟨false, by
        simp [Disk.fileSystem, found, pure, Except.pure, bind, Except.bind]⟩
  | some content =>
      cases skipped : ignored path with
      | true =>
          exact ⟨false, by
            simp [Disk.fileSystem, found, pure, Except.pure, bind,
              Except.bind]⟩
      | false =>
          exact ⟨decide (content.length ≤ maximumFileBytes), by
            simp [Disk.fileSystem, Disk.readContent, found, pure, Except.pure,
              bind, Except.bind, Except.map]⟩

theorem selectPaths_returns (paths : List Path) :
    ∃ selected, selectPaths disk.fileSystem maximumFileBytes paths =
      .ok selected := by
  induction paths with
  | nil => exact ⟨[], rfl⟩
  | cons path paths induction =>
      obtain ⟨chosen, selectFirst⟩ : ∃ selected,
          selectable disk.fileSystem maximumFileBytes path = .ok selected :=
        selectable_returns path
      obtain ⟨rest, selectRest⟩ := induction
      exact ⟨if chosen = true then path :: rest else rest, by
        simp only [selectPaths, selectFirst, selectRest]
        rfl⟩

/-- Every declared path leads below the root. -/
def Accepts (disk : Disk) (root : List Part) (importantPaths : List String) :
    Prop :=
  ∀ relative ∈ importantPaths, ∃ candidate,
    Leads disk ⟨"/", root⟩ relative candidate

theorem selectFiles_returns_iff {root : List Part}
    {importantPaths : List String} :
    (∃ selected, selectFiles disk.fileSystem maximumFileBytes ⟨"/", root⟩
        importantPaths = .ok selected) ↔
      Accepts disk root importantPaths := by
  induction importantPaths with
  | nil =>
      constructor
      · intro _ relative impossible
        cases impossible
      · intro _
        exact ⟨[], rfl⟩
  | cons relative importantPaths induction =>
      rw [Accepts, List.forall_mem_cons, ← Accepts, ← induction]
      simp only [selectFiles, bind_eq_ok_iff, pure_eq_ok_iff]
      constructor
      · rintro ⟨_, paths, candidates, _, _, rest, selectRest, _⟩
        exact ⟨exists_leads_of_candidatePaths candidates, rest, selectRest⟩
      · rintro ⟨⟨candidate, leads⟩, rest, selectRest⟩
        obtain ⟨selected, choose⟩ : ∃ selected,
            selectPaths disk.fileSystem maximumFileBytes
              (namedBy disk candidate) = .ok selected :=
          selectPaths_returns _
        exact ⟨_, _, candidatePaths_of_leads leads, selected, choose, rest,
          selectRest, rfl⟩

/-- The path is a directory of the declared ones, or one of their files. -/
def Covers (disk : Disk) (root : List Part) (importantPaths : List String)
    (key : List Part) : Prop :=
  ∃ relative ∈ importantPaths, ∃ candidate,
    Leads disk ⟨"/", root⟩ relative candidate ∧ candidate <+: key

/-- A file that is small enough, and no part of whose path is ignored. -/
def Eligible (disk : Disk) (maximumFileBytes : Nat) (key : List Part) : Prop :=
  ∃ content, disk.entryAt key = some (.file content) ∧
    ignored ⟨"/", key⟩ = false ∧ content.length ≤ maximumFileBytes

end Gathering

/-- A directory tree without links, at a place. -/
structure Checkout where
  disk : Disk
  localPath : String
  root : List Part
  resolved : disk.realpath (.ofText localPath) = some root
  directory : disk.entryAt root = some .directory
  linkFree : ∀ relative target,
    disk.entryAt (root ++ relative) ≠ some (.link target)

namespace Checkout

variable {checkout : Checkout} {maximumFileBytes : Nat}

theorem real_of_present {relative : List Part} {entry : Entry}
    (present : checkout.disk.entryAt (checkout.root ++ relative) =
      some entry) : checkout.disk.Real (checkout.root ++ relative) := by
  apply Disk.real_of_entry present
  intro target linked
  exact checkout.linkFree relative target (linked ▸ present)

theorem mem_resolveFiles_iff {importantPaths : List String}
    {paths : List Path} {path : Path}
    (run : resolveFiles checkout.disk.fileSystem maximumFileBytes
      ⟨"/", checkout.root⟩ importantPaths = .ok paths) :
    path ∈ paths ↔ ∃ relative, path = ⟨"/", checkout.root ++ relative⟩ ∧
      Eligible checkout.disk maximumFileBytes (checkout.root ++ relative) ∧
      Covers checkout.disk checkout.root importantPaths
        (checkout.root ++ relative) := by
  rw [Context.mem_resolveFiles_iff run, selectable_iff]
  constructor
  · intro ⟨⟨declaredPath, declared, named⟩, content, found, kept, small⟩
    obtain ⟨candidate, leads, member⟩ := mem_candidatePaths_iff.mp named
    obtain ⟨key, rfl, isPrefix, real⟩ : ∃ key, path = ⟨"/", key⟩ ∧
        candidate <+: key ∧ checkout.disk.Real key := by
      cases mem_namedBy_iff.mp member with
      | inl walked =>
          obtain ⟨_, key, below, same⟩ := walked
          obtain ⟨present, isPrefix, _⟩ := mem_below_iff.mp below
          obtain ⟨entry, here⟩ := Option.ne_none_iff_exists'.mp present
          obtain ⟨relative, rfl⟩ :=
            (isRelativeTo_root.mp leads.2).trans isPrefix
          exact ⟨_, same, isPrefix, real_of_present here⟩
      | inr itself =>
          exact ⟨candidate, itself.2, List.prefix_rfl,
            Disk.realpath_real leads.1⟩
    obtain ⟨relative, rfl⟩ := (isRelativeTo_root.mp leads.2).trans isPrefix
    exact ⟨relative, rfl,
      ⟨content, (content?_of_real real).mp found, kept, small⟩,
      declaredPath, declared, candidate, leads, isPrefix⟩
  · intro ⟨relative, same, ⟨content, entry, kept, small⟩, declaredPath,
      declared, candidate, leads, isPrefix⟩
    subst same
    have found := (content?_of_real (real_of_present entry)).mpr entry
    refine ⟨⟨declaredPath, declared, mem_candidatePaths_iff.mpr
      ⟨candidate, leads, mem_namedBy_iff.mpr ?_⟩⟩, content, found, kept, small⟩
    by_cases whole : candidate = checkout.root ++ relative
    · refine Or.inr ⟨?_, by rw [whole]⟩
      rw [whole, entry]
      simp
    · have present : checkout.disk.entryAt (checkout.root ++ relative) ≠
          none := by
        rw [entry]
        exact Option.some_ne_none _
      exact Or.inl ⟨Disk.entryAt_of_isPrefix isPrefix whole present, _,
        mem_below_iff.mpr ⟨present, isPrefix, whole⟩, rfl⟩

theorem loadFile_below {relative : List Part} {content : List UInt8}
    (entry : checkout.disk.entryAt (checkout.root ++ relative) =
      some (.file content)) :
    loadFile checkout.disk.fileSystem ⟨"/", checkout.root⟩
        ⟨"/", checkout.root ++ relative⟩ =
      .ok ⟨⟨"/", checkout.root ++ relative⟩, relative, content⟩ := by
  have found := (content?_of_real (real_of_present entry)).mpr entry
  have relativeTo : Path.relativeTo ⟨"/", checkout.root ++ relative⟩
      ⟨"/", checkout.root⟩ = .ok relative :=
    Path.relativeTo_eq_ok_iff.mpr ⟨rfl, rfl⟩
  rw [loadFile, relativeTo]
  simp [Disk.fileSystem, Disk.readContent, found, bind, Except.bind, pure,
    Except.pure]

/-- A declared path leads to the file or above it, and it is eligible. -/
def Chooses (checkout : Checkout) (maximumFileBytes : Nat)
    (importantPaths : List String) (relative : List Part) : Prop :=
  Eligible checkout.disk maximumFileBytes (checkout.root ++ relative) ∧
    Covers checkout.disk checkout.root importantPaths
      (checkout.root ++ relative)

/-- The service, checked out here. -/
def service (checkout : Checkout) (service : ServiceContext) :
    ServiceContext :=
  { service with
    sourceRepository :=
      { service.sourceRepository with localPath := checkout.localPath }
    ownRepository := service.ownRepository }

/-- All that is known of the gathered files. -/
structure Gathers (checkout : Checkout) (maximumFileBytes : Nat)
    (service : ServiceContext) (gathered : Gathered) : Prop where
  sameService : gathered.service = checkout.service service
  chosen : ∀ relative, relative ∈ gathered.paths ↔
    checkout.Chooses maximumFileBytes service.importantPaths relative
  ascending : gathered.paths.Pairwise fun left right =>
    relativeKey left < relativeKey right
  loaded : ∀ file ∈ gathered.files,
    checkout.disk.entryAt (checkout.root ++ file.relative) =
      some (.file file.content)
  named : gathered.Named

theorem resolveFiles_ascending {disk : FileSystem} {root : Path}
    {importantPaths : List String} {paths : List Path}
    (run : resolveFiles disk maximumFileBytes root importantPaths =
      .ok paths) :
    paths.Nodup ∧ paths.Pairwise fun left right =>
      left.sortKey ≤ right.sortKey := by
  rw [resolveFiles, bind_eq_ok_iff] at run
  obtain ⟨found, isDir, run⟩ := run
  cases found with
  | false => simp at run
  | true =>
      simp only [if_true, bind_eq_ok_iff, pure_eq_ok_iff] at run
      obtain ⟨selected, _, rfl⟩ := run
      have unique := uniqueBy_keysNodup id selected
      rw [List.map_id] at unique
      exact ⟨(sortBy_perm Path.sortKey _).nodup_iff.mpr unique,
        sortBy_ordered Path.sortKey _⟩

theorem below_ne_nil {relative : List Part} {content : List UInt8}
    (entry : checkout.disk.entryAt (checkout.root ++ relative) =
      some (.file content)) : relative ≠ [] := by
  intro empty
  rw [empty, List.append_nil, checkout.directory] at entry
  cases entry

/-- Below one root, the order of the absolute paths is that of the relative
ones. -/
theorem relativeKey_lt_of_sortKey_le {root left right : List Part}
    (leftNonempty : root ++ left ≠ []) (rightNonempty : root ++ right ≠ [])
    (different : left ≠ right)
    (before : Path.sortKey ⟨"/", root ++ left⟩ ≤
      Path.sortKey ⟨"/", root ++ right⟩) :
    relativeKey left < relativeKey right := by
  rw [sortKey_of_ne_nil leftNonempty, sortKey_of_ne_nil rightNonempty]
    at before
  cases lt_trichotomy (relativeKey left) (relativeKey right) with
  | inl ascending => exact ascending
  | inr other =>
      exfalso
      cases other with
      | inl equal => exact different (relativeKey_injective equal)
      | inr descending =>
          apply absurd before (not_le_of_gt _)
          rw [List.cons_lt_cons_self, relativeKey, relativeKey,
            List.map_append, List.map_append]
          exact append_lt_append_iff.mpr descending

theorem loaded_below {importantPaths : List String} {paths : List Path}
    {files : List LoadedFile}
    (resolve : resolveFiles checkout.disk.fileSystem maximumFileBytes
      ⟨"/", checkout.root⟩ importantPaths = .ok paths)
    (load : List.Forall₂ (fun path file =>
      loadFile checkout.disk.fileSystem ⟨"/", checkout.root⟩ path = .ok file)
      paths files) :
    List.Forall₂ (fun path file =>
      path = ⟨"/", checkout.root ++ file.relative⟩ ∧
        checkout.disk.entryAt (checkout.root ++ file.relative) =
          some (.file file.content)) paths files := by
  have selected : ∀ path ∈ paths, ∃ relative content,
      path = ⟨"/", checkout.root ++ relative⟩ ∧
        checkout.disk.entryAt (checkout.root ++ relative) =
          some (.file content) := by
    intro path member
    obtain ⟨relative, here, ⟨content, entry, _, _⟩, _⟩ :=
      (mem_resolveFiles_iff resolve).mp member
    exact ⟨relative, content, here, entry⟩
  apply List.Forall₂.imp _
    ((List.forall₂_and_left paths files).mpr ⟨selected, load⟩)
  intro path file ⟨⟨relative, content, here, entry⟩, loaded⟩
  rw [here, loadFile_below entry, Except.ok.injEq] at loaded
  rw [← loaded]
  exact ⟨here, entry⟩

theorem gathers_of_gather {service : ServiceContext} {gathered : Gathered}
    (run : gather checkout.disk.fileSystem maximumFileBytes
      (checkout.service service) = .ok gathered) :
    checkout.Gathers maximumFileBytes service gathered := by
  obtain ⟨same, root, resolved, paths, resolve, load⟩ := gather_ok run
  have rootIs : root = checkout.root :=
    Option.some.inj (resolved.symm.trans checkout.resolved)
  subst rootIs
  have each := loaded_below resolve load
  have written : paths = gathered.files.map fun file =>
      ⟨"/", checkout.root ++ file.relative⟩ := by
    rw [← List.forall₂_eq_eq_eq, List.forall₂_map_right_iff]
    exact each.imp fun _ _ facts => facts.1
  have loaded : ∀ file ∈ gathered.files,
      checkout.disk.entryAt (checkout.root ++ file.relative) =
        some (.file file.content) := by
    intro file member
    obtain ⟨_, _, _, entry⟩ := forall₂_mem_right each member
    exact entry
  have nonempty : ∀ file ∈ gathered.files,
      checkout.root ++ file.relative ≠ [] := by
    intro file member empty
    exact below_ne_nil (loaded file member)
      (List.append_eq_nil_iff.mp empty).2
  constructor
  · exact same
  · intro relative
    have onPaths : relative ∈ gathered.paths ↔
        (⟨"/", checkout.root ++ relative⟩ : Path) ∈ paths := by
      rw [written, Gathered.paths, List.mem_map, List.mem_map]
      simp
    rw [onPaths, mem_resolveFiles_iff resolve]
    constructor
    · rintro ⟨other, equal, chosen⟩
      rw [Path.mk.injEq, List.append_cancel_left_eq] at equal
      exact equal.2 ▸ chosen
    · intro chosen
      exact ⟨relative, rfl, chosen⟩
  · obtain ⟨distinct, ordered⟩ := resolveFiles_ascending resolve
    rw [written] at distinct ordered
    rw [Gathered.paths, List.pairwise_map]
    have both := (List.pairwise_map.mp distinct).and
      (List.pairwise_map.mp ordered)
    refine both.imp_of_mem ?_
    rintro left right leftMember rightMember ⟨different, before⟩
    apply relativeKey_lt_of_sortKey_le (nonempty left leftMember)
      (nonempty right rightMember) _ before
    intro equal
    exact different (by rw [equal])
  · exact loaded
  · exact nameOf_of_gather run

theorem gather_returns_iff {service : ServiceContext} :
    (∃ gathered, gather checkout.disk.fileSystem maximumFileBytes
        (checkout.service service) = .ok gathered) ↔
      Accepts checkout.disk checkout.root service.importantPaths := by
  constructor
  · intro ⟨gathered, run⟩
    obtain ⟨_, root, resolved, paths, resolve, _⟩ := gather_ok run
    have rootIs : root = checkout.root :=
      Option.some.inj (resolved.symm.trans checkout.resolved)
    subst rootIs
    rw [resolveFiles, bind_eq_ok_iff] at resolve
    obtain ⟨found, _, resolve⟩ := resolve
    cases found with
    | false => simp at resolve
    | true =>
        simp only [if_true, bind_eq_ok_iff, pure_eq_ok_iff] at resolve
        obtain ⟨selected, select, _⟩ := resolve
        exact selectFiles_returns_iff.mp ⟨selected, select⟩
  · intro accepts
    have root : checkout.disk.fileSystem.resolve
        (.ofText (checkout.service service).sourceRepository.localPath) =
          .ok ⟨"/", checkout.root⟩ := by
      simp only [Disk.fileSystem, Checkout.service, checkout.resolved]
    have isDir : checkout.disk.fileSystem.isDir ⟨"/", checkout.root⟩ =
        .ok true := by
      rw [isDir_of_real (Disk.real_of_directory checkout.directory)]
      simp [checkout.directory]
    obtain ⟨selected, select⟩ : ∃ selected,
        selectFiles checkout.disk.fileSystem maximumFileBytes
          ⟨"/", checkout.root⟩ service.importantPaths = .ok selected :=
      selectFiles_returns_iff.mpr accepts
    have resolve : resolveFiles checkout.disk.fileSystem maximumFileBytes
        ⟨"/", checkout.root⟩ service.importantPaths =
          .ok (sortBy Path.sortKey (uniqueBy id selected)) := by
      simp only [resolveFiles, isDir, select, bind, Except.bind]
      rfl
    obtain ⟨files, load⟩ : ∃ files,
        (sortBy Path.sortKey (uniqueBy id selected)).mapM
          (loadFile checkout.disk.fileSystem ⟨"/", checkout.root⟩) =
            .ok files := by
      apply mapM_returns
      intro path member
      obtain ⟨relative, rfl, ⟨content, entry, _, _⟩, _⟩ :=
        (mem_resolveFiles_iff resolve).mp member
      exact ⟨_, loadFile_below entry⟩
    refine ⟨⟨checkout.service service, files⟩, ?_⟩
    rw [gather, root]
    simp only [bind, Except.bind, Checkout.service, resolve]
    rw [load]
    rfl

/-- The context that indexing the service here stores first. -/
def indexed (checkout : Checkout) (loader : Loader)
    (hexdigest : List UInt8 → String) (maximumFileBytes now : Nat)
    (service : ServiceContext) : Option IndexedServiceContext :=
  (IndexCall.returned loader hexdigest
    ⟨⟨checkout.disk.fileSystem, maximumFileBytes, now⟩,
      checkout.service service⟩ .empty).toOption

theorem indexed_eq_some {loader : Loader} {hexdigest : List UInt8 → String}
    {now : Nat} {service : ServiceContext} {gathered : Gathered}
    (run : gather checkout.disk.fileSystem maximumFileBytes
      (checkout.service service) = .ok gathered) :
    checkout.indexed loader hexdigest maximumFileBytes now service =
      some (gathered.context hexdigest) := by
  have index := @index_of_ok loader hexdigest
    ⟨⟨checkout.disk.fileSystem, maximumFileBytes, now⟩,
      checkout.service service⟩ gathered .empty run
  have stores := @reuseOrStore_stores loader hexdigest gathered .empty
    ⟨checkout.disk.fileSystem, maximumFileBytes, now⟩ none
    SQLiteContextStore.latest_empty (by simp)
  rw [indexed, IndexCall.returned, index, stores]
  rfl

theorem indexed_eq_none {loader : Loader} {hexdigest : List UInt8 → String}
    {now : Nat} {service : ServiceContext}
    (refuses : ¬ Accepts checkout.disk checkout.root service.importantPaths) :
    checkout.indexed loader hexdigest maximumFileBytes now service = none := by
  cases run : gather checkout.disk.fileSystem maximumFileBytes
      (checkout.service service) with
  | ok gathered =>
      exact absurd (gather_returns_iff.mp ⟨gathered, run⟩) refuses
  | error error =>
      have index := @index_of_error loader hexdigest
        ⟨⟨checkout.disk.fileSystem, maximumFileBytes, now⟩,
          checkout.service service⟩ .empty error run
      rw [indexed, IndexCall.returned, index]
      rfl

/-- No part of the path to the checkout is ignored. -/
def Clean (checkout : Checkout) : Prop :=
  ignored ⟨"/", checkout.root⟩ = false

/-- A small file of the tree, below which no part is ignored. -/
def Indexable (checkout : Checkout) (maximumFileBytes : Nat)
    (relative : List Part) : Prop :=
  ∃ content, checkout.disk.entryAt (checkout.root ++ relative) =
      some (.file content) ∧
    ignored ⟨"/", relative⟩ = false ∧ content.length ≤ maximumFileBytes

theorem chooses_iff {importantPaths : List String} {relative : List Part} :
    checkout.Chooses maximumFileBytes importantPaths relative ↔
      checkout.Indexable maximumFileBytes relative ∧ checkout.Clean ∧
        Covers checkout.disk checkout.root importantPaths
          (checkout.root ++ relative) := by
  have parts : ignored ⟨"/", checkout.root ++ relative⟩ = false ↔
      checkout.Clean ∧ ignored ⟨"/", relative⟩ = false := by
    rw [Clean, ignored, ignored, ignored, List.any_append, Bool.or_eq_false_iff]
  simp only [Chooses, Eligible, Indexable, parts]
  constructor
  · intro ⟨⟨content, entry, ⟨clean, kept⟩, small⟩, covers⟩
    exact ⟨⟨content, entry, kept, small⟩, clean, covers⟩
  · intro ⟨⟨content, entry, kept, small⟩, clean, covers⟩
    exact ⟨⟨content, entry, ⟨clean, kept⟩, small⟩, covers⟩

/-- Both places hold the same tree. -/
def SameTree (left right : Checkout) : Prop :=
  ∀ relative, left.disk.entryAt (left.root ++ relative) =
    right.disk.entryAt (right.root ++ relative)

section Places

variable {left right : Checkout} {service : ServiceContext}
  {leftGathered rightGathered : Gathered}

theorem contents_held {checkout : Checkout} {gathered : Gathered}
    (gathers : checkout.Gathers maximumFileBytes service gathered) :
    gathered.contents.map
        (Prod.map id fun content => some (Entry.file content)) =
      gathered.paths.map fun relative =>
        (relative, checkout.disk.entryAt (checkout.root ++ relative)) := by
  rw [Gathered.contents, Gathered.paths, List.map_map, List.map_map]
  apply List.map_congr_left
  intro file member
  simp only [Function.comp, Prod.map, id, gathers.loaded file member]

theorem contents_eq_of_paths_eq (same : SameTree left right)
    (leftGathers : left.Gathers maximumFileBytes service leftGathered)
    (rightGathers : right.Gathers maximumFileBytes service rightGathered)
    (paths : leftGathered.paths = rightGathered.paths) :
    leftGathered.contents = rightGathered.contents := by
  have filed : Function.Injective fun content => some (Entry.file content) := by
    intro content other equal
    exact Entry.file.inj (Option.some.inj equal)
  apply (Function.injective_id.prodMap filed).list_map
  rw [contents_held leftGathers, contents_held rightGathers, paths]
  apply List.map_congr_left
  intro relative _
  rw [same relative]

theorem usage_eq_of_contents_eq
    (declared : leftGathered.service.kubernetesUsage =
      rightGathered.service.kubernetesUsage)
    (contents : leftGathered.contents = rightGathered.contents) :
    leftGathered.usage = rightGathered.usage := by
  have shown : ∀ gathered : Gathered,
      (gathered.files.filter LoadedFile.mentionsKubernetes).map
          LoadedFile.text =
        (gathered.contents.filter fun entry => usageWords.any fun word =>
          decide (encode word <:+: lowerBytes entry.2)).map
            fun entry => posixText entry.1 := by
    intro gathered
    rw [Gathered.contents, List.filter_map, List.map_map]
    rfl
  rw [Gathered.usage, Gathered.usage, declared, shown, shown, contents]

theorem context_eq_iff_paths {hexdigest : List UInt8 → String}
    (same : SameTree left right)
    (leftGathers : left.Gathers maximumFileBytes service leftGathered)
    (rightGathers : right.Gathers maximumFileBytes service rightGathered) :
    leftGathered.context hexdigest = rightGathered.context hexdigest ↔
      leftGathered.paths = rightGathered.paths := by
  constructor
  · intro contexts
    exact map_texts_eq_iff.mp (congrArg IndexedServiceContext.files contexts)
  · intro paths
    have contents :=
      contents_eq_of_paths_eq same leftGathers rightGathers paths
    have streams : leftGathered.stream = rightGathered.stream := by
      rw [Gathered.stream_eq_frame, Gathered.stream_eq_frame,
        Gathered.contents_eq_iff.mpr contents]
    have usage := usage_eq_of_contents_eq
      (by rw [leftGathers.sameService, rightGathers.sameService]; rfl) contents
    apply (context_eq_iff leftGathers.named rightGathers.named
      (by rw [leftGathers.sameService, rightGathers.sameService]; rfl)
      streams).mpr
    refine ⟨paths, ?_, ?_⟩
    · intro dependency
      rw [leftGathers.sameService, rightGathers.sameService]
      rfl
    · intro name
      rw [usage]

theorem paths_eq_iff_chooses
    (leftGathers : left.Gathers maximumFileBytes service leftGathered)
    (rightGathers : right.Gathers maximumFileBytes service rightGathered) :
    leftGathered.paths = rightGathered.paths ↔ ∀ relative,
      left.Chooses maximumFileBytes service.importantPaths relative ↔
        right.Chooses maximumFileBytes service.importantPaths relative := by
  constructor
  · intro paths relative
    rw [← leftGathers.chosen, ← rightGathers.chosen, paths]
  · intro chosen
    apply eq_of_ascending leftGathers.ascending rightGathers.ascending
    intro relative
    rw [leftGathers.chosen, rightGathers.chosen, chosen]

end Places

/-- The declared paths are accepted at both places or at none; if they are,
every file of the tree that could be indexed is declared at both, below a path
that is not ignored, or at none. -/
def Agree (left right : Checkout) (maximumFileBytes : Nat)
    (importantPaths : List String) : Prop :=
  (Accepts left.disk left.root importantPaths ↔
      Accepts right.disk right.root importantPaths) ∧
    (Accepts left.disk left.root importantPaths → ∀ relative,
      left.Indexable maximumFileBytes relative →
        (left.Clean ∧ Covers left.disk left.root importantPaths
            (left.root ++ relative) ↔
          right.Clean ∧ Covers right.disk right.root importantPaths
            (right.root ++ relative)))

/-- A declared path that is relative and never climbs. -/
def Plain (relative : String) : Prop :=
  (Path.ofText relative).anchor = "" ∧
    ∀ part ∈ (Path.ofText relative).parts, part.val ≠ ".."

/-- A plain path leads to the same place in every checkout. -/
theorem leads_iff_of_plain {relative : String} (plain : Plain relative)
    {candidate : List Part} :
    Leads checkout.disk ⟨"/", checkout.root⟩ relative candidate ↔
      candidate = checkout.root ++ (Path.ofText relative).parts := by
  have root := Disk.real_of_directory checkout.directory
  have real : checkout.disk.Real
      (checkout.root ++ (Path.ofText relative).parts) := by
    constructor
    · intro part member
      cases List.mem_append.mp member with
      | inl upper => exact root.named part upper
      | inr lower => exact plain.2 part lower
    · intro upper shorter
      cases List.prefix_or_prefix_of_prefix shorter
          (List.prefix_append checkout.root _) with
      | inl above => exact root.unlinked upper above
      | inr inside =>
          obtain ⟨rest, same⟩ := inside
          rw [← same]
          exact checkout.linkFree rest
  have joined : Path.join ⟨"/", checkout.root⟩ relative =
      ⟨"/", checkout.root ++ (Path.ofText relative).parts⟩ := by
    rw [Path.join]
    exact if_pos plain.1
  rw [Leads, joined, Disk.realpath_of_real real, Option.some.injEq,
    isRelativeTo_root]
  constructor
  · intro ⟨same, _⟩
    exact same.symm
  · intro same
    exact ⟨same.symm, same ▸ List.prefix_append _ _⟩

/-- Places that are not ignored agree on plain declared paths. -/
theorem agree_of_plain {left right : Checkout} {importantPaths : List String}
    (leftClean : left.Clean) (rightClean : right.Clean)
    (plain : ∀ relative ∈ importantPaths, Plain relative) :
    Agree left right maximumFileBytes importantPaths := by
  have accepts : ∀ checkout : Checkout,
      Accepts checkout.disk checkout.root importantPaths := by
    intro checkout relative declared
    exact ⟨_, (leads_iff_of_plain (plain relative declared)).mpr rfl⟩
  have covers : ∀ (checkout : Checkout) (path : List Part),
      Covers checkout.disk checkout.root importantPaths
          (checkout.root ++ path) ↔
        ∃ relative ∈ importantPaths,
          (Path.ofText relative).parts <+: path := by
    intro checkout path
    apply exists_congr
    intro relative
    apply and_congr_right
    intro declared
    simp only [leads_iff_of_plain (plain relative declared),
      exists_eq_left, List.prefix_append_right_inj]
  refine ⟨⟨fun _ => accepts right, fun _ => accepts left⟩, ?_⟩
  intro _ relative _
  rw [covers, covers]
  simp [leftClean, rightClean]

end Checkout

open Checkout in
/-- Indexing does not depend on the place of the checkout exactly when the
places agree on the declared paths and on being ignored. -/
theorem indexed_eq_iff_agree (loader : Loader)
    (hexdigest : List UInt8 → String)
    (maximumFileBytes leftNow rightNow : Nat) (service : ServiceContext)
    (left right : Checkout) (same : SameTree left right) :
    left.indexed loader hexdigest maximumFileBytes leftNow service =
        right.indexed loader hexdigest maximumFileBytes rightNow service ↔
      Agree left right maximumFileBytes service.importantPaths := by
  have indexable : ∀ relative, left.Indexable maximumFileBytes relative ↔
      right.Indexable maximumFileBytes relative := by
    intro relative
    rw [Indexable, Indexable, same relative]
  by_cases leftAccepts : Accepts left.disk left.root service.importantPaths
  · obtain ⟨leftGathered, leftRun⟩ : ∃ gathered,
        gather left.disk.fileSystem maximumFileBytes (left.service service) =
          .ok gathered :=
      gather_returns_iff.mpr leftAccepts
    rw [indexed_eq_some leftRun]
    by_cases rightAccepts :
        Accepts right.disk right.root service.importantPaths
    · obtain ⟨rightGathered, rightRun⟩ : ∃ gathered,
          gather right.disk.fileSystem maximumFileBytes
            (right.service service) = .ok gathered :=
        gather_returns_iff.mpr rightAccepts
      have leftGathers := gathers_of_gather leftRun
      have rightGathers := gathers_of_gather rightRun
      rw [indexed_eq_some rightRun, Option.some.injEq,
        context_eq_iff_paths same leftGathers rightGathers,
        paths_eq_iff_chooses leftGathers rightGathers]
      simp only [Agree, leftAccepts, rightAccepts, true_and, forall_const,
        chooses_iff, ← indexable, and_congr_right_iff]
    · rw [indexed_eq_none rightAccepts]
      simp [Agree, leftAccepts, rightAccepts]
  · rw [indexed_eq_none leftAccepts]
    by_cases rightAccepts :
        Accepts right.disk right.root service.importantPaths
    · obtain ⟨rightGathered, rightRun⟩ : ∃ gathered,
          gather right.disk.fileSystem maximumFileBytes
            (right.service service) = .ok gathered :=
        gather_returns_iff.mpr rightAccepts
      rw [indexed_eq_some rightRun]
      simp [Agree, leftAccepts, rightAccepts]
    · rw [indexed_eq_none rightAccepts]
      simp [Agree, leftAccepts, rightAccepts]

/-! ### One file at three places -/

namespace PaymentCheckout

open LinkedCheckout (payment srv)

def home : Part := ⟨"home", by decide⟩

def venv : Part := ⟨".venv", by decide⟩

def mainPart : Part := ⟨"main.py", mainPart_named⟩

def entries (parent : Part) : List (List Part × Entry) :=
  [([], .directory), ([parent], .directory), ([parent, payment], .directory),
    ([parent, payment, mainPart], .file [112, 97, 115, 115])]

theorem get?_below (parent : Part) (relative : List Part) :
    (OrderedDict.ofList (entries parent)).get?
        ([parent, payment] ++ relative) =
      if relative = [mainPart] then some (.file [112, 97, 115, 115])
      else if relative = [] then some .directory
      else none := by
  rw [OrderedDict.ofList, OrderedDict.get?_setAll]
  by_cases file : relative = [mainPart]
  · simp [entries, file]
  · by_cases top : relative = []
    · simp [entries, top]
    · simp [entries, file, top, eq_comm]

/-- The checkout in a directory of the root, named by its absolute path. -/
def checkoutOf (parent : Part) (disk : Disk) (localPath : String)
    (entries : disk.entries = .ofList (entries parent))
    (resolved : disk.realpath (.ofText localPath) = some [parent, payment]) :
    Checkout where
  disk := disk
  localPath := localPath
  root := [parent, payment]
  resolved := resolved
  directory := by
    rw [Disk.entryAt, entries]
    exact get?_below parent []
  linkFree := by
    intro relative target
    rw [Disk.entryAt, entries, get?_below]
    split_ifs <;> simp

def atSrv : Checkout :=
  checkoutOf srv (.ofEntries (entries srv) (by rfl) (by decide +kernel)
    (by decide +kernel)) "/srv/payment" rfl (by rfl)

def atHome : Checkout :=
  checkoutOf home (.ofEntries (entries home) (by rfl) (by decide +kernel)
    (by decide +kernel)) "/home/payment" rfl (by rfl)

/-- The same file, below a directory whose name is ignored. -/
def atVenv : Checkout :=
  checkoutOf venv (.ofEntries (entries venv) (by rfl) (by decide +kernel)
    (by decide +kernel)) "/.venv/payment" rfl (by rfl)

theorem sameTree_home : Checkout.SameTree atSrv atHome := by
  intro relative
  exact (get?_below srv relative).trans (get?_below home relative).symm

theorem sameTree_venv : Checkout.SameTree atSrv atVenv := by
  intro relative
  exact (get?_below srv relative).trans (get?_below venv relative).symm

def service : ServiceContext :=
  { LinkedCheckout.service with
    importantPaths := ["."]
    ownRepository := LinkedCheckout.service.ownRepository }

end PaymentCheckout

open PaymentCheckout in
/-- Below an ignored directory nothing is indexed. -/
theorem indexed_depends_on_place :
    ¬ ∀ (loader : Loader) (hexdigest : List UInt8 → String)
        (maximumFileBytes leftNow rightNow : Nat) (service : ServiceContext)
        (left right : Checkout), Checkout.SameTree left right →
      left.indexed loader hexdigest maximumFileBytes leftNow service =
        right.indexed loader hexdigest maximumFileBytes rightNow service := by
  intro independent
  have equal := independent sampleLoader sampleDigest 1000000 0 0 service
    atSrv atVenv sameTree_venv
  have files := congrArg (Option.map IndexedServiceContext.files) equal
  have srv : (atSrv.indexed sampleLoader sampleDigest 1000000 0 service).map
      IndexedServiceContext.files = some ["main.py"] := by rfl
  have venv : (atVenv.indexed sampleLoader sampleDigest 1000000 0 service).map
      IndexedServiceContext.files = some [] := by rfl
  rw [srv, venv] at files
  exact absurd files (by decide)

open PaymentCheckout in
/-- Neither `/srv` nor `/home` is ignored. -/
theorem indexed_eq_iff_agree_home :
    atSrv.indexed sampleLoader sampleDigest 1000000 0 service =
      atHome.indexed sampleLoader sampleDigest 1000000 1 service := by
  apply (indexed_eq_iff_agree sampleLoader sampleDigest 1000000 0 1 service
    atSrv atHome sameTree_home).mpr
  apply Checkout.agree_of_plain (by rfl) (by rfl)
  intro relative declared
  rw [List.mem_singleton.mp declared]
  exact ⟨by rfl, by decide +kernel⟩

end Kuber.Context
