import Kuber.Context.Disk
import Kuber.Context.Indexer

/-!
# Where the indexer reads

A declared path is resolved before it is compared with the root, so it cannot
lead out.  The files that are read come from a walk below it, and a link that
the walk meets is read without being resolved.
-/

namespace Kuber.Context

open Kuber.Library Kuber.Rules

section Selection

variable {disk : FileSystem} {maximumFileBytes : Nat}

theorem mem_selectPaths_iff {paths selected : List Path} {path : Path}
    (run : selectPaths disk maximumFileBytes paths = .ok selected) :
    path ∈ selected ↔
      path ∈ paths ∧ selectable disk maximumFileBytes path = .ok true := by
  induction paths generalizing selected with
  | nil =>
      rw [selectPaths, pure_eq_ok_iff] at run
      simp [← run]
  | cons first paths induction =>
      simp only [selectPaths, bind_eq_ok_iff, pure_eq_ok_iff] at run
      obtain ⟨chosen, selectFirst, rest, selectRest, rfl⟩ := run
      have later := induction selectRest
      by_cases here : path = first
      · subst here
        cases chosen with
        | false => simp [later, selectFirst]
        | true => simp [selectFirst]
      · cases chosen with
        | false => simp [later, here]
        | true => simp [later, here]

/-- A selected file is a selectable path under one of the declared paths. -/
theorem mem_selectFiles_iff {root path : Path} {importantPaths : List String}
    {selected : List Path}
    (run : selectFiles disk maximumFileBytes root importantPaths =
      .ok selected) :
    path ∈ selected ↔
      (∃ relative ∈ importantPaths, ∃ paths,
        candidatePaths disk root relative = .ok paths ∧ path ∈ paths) ∧
      selectable disk maximumFileBytes path = .ok true := by
  induction importantPaths generalizing selected with
  | nil =>
      rw [selectFiles, pure_eq_ok_iff] at run
      simp [← run]
  | cons relative importantPaths induction =>
      simp only [selectFiles, bind_eq_ok_iff, pure_eq_ok_iff] at run
      obtain ⟨paths, candidates, chosen, choose, rest, selectRest, rfl⟩ := run
      rw [List.mem_append, mem_selectPaths_iff choose, induction selectRest]
      simp only [List.mem_cons, exists_eq_or_imp, candidates, Except.ok.injEq,
        exists_eq_left']
      tauto

theorem mem_resolveFiles_iff {root path : Path}
    {importantPaths : List String} {files : List Path}
    (run : resolveFiles disk maximumFileBytes root importantPaths =
      .ok files) :
    path ∈ files ↔
      (∃ relative ∈ importantPaths, ∃ paths,
        candidatePaths disk root relative = .ok paths ∧ path ∈ paths) ∧
      selectable disk maximumFileBytes path = .ok true := by
  rw [resolveFiles, bind_eq_ok_iff] at run
  obtain ⟨found, isDir, run⟩ := run
  cases found with
  | false => simp at run
  | true =>
      simp only [if_true, bind_eq_ok_iff, pure_eq_ok_iff] at run
      obtain ⟨selected, select, rfl⟩ := run
      have kept := @mem_map_uniqueBy_iff Path Path _ id selected path
      rw [List.map_id, List.map_id] at kept
      rw [mem_sortBy, kept, mem_selectFiles_iff select]

end Selection

section Disks

variable {disk : Disk} {maximumFileBytes : Nat}

theorem content?_eq_some_iff {path : Path} {content : List UInt8} :
    disk.content? path = some content ↔
      ∃ real, disk.located path = some real ∧
        disk.entryAt real = some (.file content) := by
  rw [Disk.content?, Disk.stat]
  cases disk.located path with
  | none => simp
  | some real =>
      simp only [Option.bind_some, Option.some.injEq, exists_eq_left']
      cases disk.entryAt real with
      | none => simp
      | some entry => cases entry <;> simp

theorem content?_of_real {key : List Part} (real : disk.Real key)
    {content : List UInt8} :
    disk.content? ⟨"/", key⟩ = some content ↔
      disk.entryAt key = some (.file content) := by
  rw [content?_eq_some_iff]
  constructor
  · intro ⟨there, located, entry⟩
    exact Disk.located_eq_of_real real located ▸ entry
  · intro entry
    exact ⟨key, Disk.located_of_entry entry (by simp), entry⟩

theorem selectable_iff {path : Path} :
    selectable disk.fileSystem maximumFileBytes path = .ok true ↔
      ∃ content, disk.content? path = some content ∧ ignored path = false ∧
        content.length ≤ maximumFileBytes := by
  rw [selectable]
  cases found : disk.content? path with
  | none => simp [Disk.fileSystem, found, pure, Except.pure, bind, Except.bind]
  | some content =>
      cases skipped : ignored path with
      | true =>
          simp [Disk.fileSystem, found, pure, Except.pure, bind, Except.bind]
      | false =>
          simp [Disk.fileSystem, Disk.readContent, found, pure, Except.pure,
            bind, Except.bind, Except.map]

/-- The declared path leads to `candidate`, below the root. -/
def Leads (disk : Disk) (root : Path) (relative : String)
    (candidate : List Part) : Prop :=
  disk.realpath (root.join relative) = some candidate ∧
    Path.isRelativeTo ⟨"/", candidate⟩ root = true

/-- What a declared path names: itself, or what is below a directory. -/
def namedBy (disk : Disk) (candidate : List Part) : List Path :=
  if disk.entryAt candidate = some .directory then
    (disk.below candidate).map fun key => ⟨"/", key⟩
  else [⟨"/", candidate⟩]

theorem isDir_of_real {path : List Part} (real : disk.Real path) :
    disk.fileSystem.isDir ⟨"/", path⟩ =
      .ok (decide (disk.entryAt path = some .directory)) := by
  have same : disk.stat ⟨"/", path⟩ = some .directory ↔
      disk.entryAt path = some .directory := by
    rw [Disk.stat, Option.bind_eq_some_iff]
    constructor
    · intro ⟨there, located, entry⟩
      exact Disk.located_eq_of_real real located ▸ entry
    · intro directory
      exact ⟨path, Disk.located_of_entry directory (by simp), directory⟩
  simp only [Disk.fileSystem, same]

theorem rglob_of_directory {path : List Part}
    (directory : disk.entryAt path = some .directory) :
    disk.fileSystem.rglob ⟨"/", path⟩ =
      .ok ((disk.below path).map fun key => ⟨"/", key⟩) := by
  have here := Disk.located_of_entry directory (by simp)
  simp only [Disk.fileSystem, here, Except.ok.injEq]
  apply List.map_congr_left
  intro key member
  have isPrefix := (of_decide_eq_true (List.mem_filter.mp member).2).1
  rw [List.prefix_iff_eq_append.mp isPrefix]

theorem candidatePaths_of_leads {root : Path} {relative : String}
    {candidate : List Part} (leads : Leads disk root relative candidate) :
    candidatePaths disk.fileSystem root relative =
      .ok (namedBy disk candidate) := by
  obtain ⟨resolved, inside⟩ := leads
  have resolve : disk.fileSystem.resolve (root.join relative) =
      .ok ⟨"/", candidate⟩ := by
    simp only [Disk.fileSystem, resolved]
  have isDir := isDir_of_real (Disk.realpath_real resolved)
  simp only [candidatePaths, resolve, bind, Except.bind, inside,
    Bool.true_eq_false, if_false, isDir, namedBy, decide_eq_true_eq]
  split
  · rename_i directory
    exact rglob_of_directory directory
  · rfl

theorem exists_leads_of_candidatePaths {root : Path} {relative : String}
    {paths : List Path}
    (run : candidatePaths disk.fileSystem root relative = .ok paths) :
    ∃ candidate, Leads disk root relative candidate := by
  rw [candidatePaths, bind_eq_ok_iff] at run
  obtain ⟨candidate, resolve, run⟩ := run
  simp only [Disk.fileSystem] at resolve
  split at resolve
  · rename_i parts resolved
    cases resolve
    split at run
    · cases run
    · rename_i inside
      exact ⟨parts, resolved, Bool.eq_true_of_not_eq_false inside⟩
  · cases resolve

theorem mem_candidatePaths_iff {root path : Path} {relative : String} :
    (∃ paths, candidatePaths disk.fileSystem root relative = .ok paths ∧
        path ∈ paths) ↔
      ∃ candidate, Leads disk root relative candidate ∧
        path ∈ namedBy disk candidate := by
  constructor
  · intro ⟨paths, run, member⟩
    obtain ⟨candidate, leads⟩ := exists_leads_of_candidatePaths run
    rw [candidatePaths_of_leads leads] at run
    cases run
    exact ⟨candidate, leads, member⟩
  · intro ⟨candidate, leads, member⟩
    exact ⟨_, candidatePaths_of_leads leads, member⟩

theorem mem_namedBy_iff {candidate : List Part} {path : Path} :
    path ∈ namedBy disk candidate ↔
      (disk.entryAt candidate = some .directory ∧
          ∃ key ∈ disk.below candidate, path = ⟨"/", key⟩) ∨
        (disk.entryAt candidate ≠ some .directory ∧
          path = ⟨"/", candidate⟩) := by
  rw [namedBy]
  by_cases directory : disk.entryAt candidate = some .directory
  · simp [directory, eq_comm]
  · simp [directory]

theorem mem_below_iff {here key : List Part} :
    key ∈ disk.below here ↔
      disk.entryAt key ≠ none ∧ here <+: key ∧ here ≠ key := by
  rw [Disk.below, List.mem_filter, decide_eq_true_eq]
  apply and_congr_left
  intro _
  rw [OrderedDict.keys, List.mem_map, Option.ne_none_iff_exists']
  constructor
  · rintro ⟨⟨name, entry⟩, member, same⟩
    exact ⟨entry, OrderedDict.get?_eq_some_iff.mpr (same ▸ member)⟩
  · rintro ⟨entry, found⟩
    exact ⟨(key, entry), OrderedDict.get?_eq_some_iff.mp found, rfl⟩

/-- Every file that is read lies below the resolved root. -/
def ReadsInside (disk : Disk) (gathered : Gathered) : Prop :=
  ∃ root, disk.realpath (.ofText gathered.service.sourceRepository.localPath) =
      some root ∧
    ∀ file ∈ gathered.files, ∃ real, disk.located file.path = some real ∧
      root <+: real

/-- The links below the declared directories that could be selected lead to
files below the root. -/
def LinksStayInside (disk : Disk) (maximumFileBytes : Nat)
    (service : ServiceContext) : Prop :=
  ∀ root, disk.realpath (.ofText service.sourceRepository.localPath) =
      some root →
    ∀ relative ∈ service.importantPaths, ∀ candidate,
      Leads disk ⟨"/", root⟩ relative candidate →
      disk.entryAt candidate = some .directory →
      ∀ key ∈ disk.below candidate, ∀ target,
        disk.entryAt key = some (.link target) →
        ignored ⟨"/", key⟩ = false →
        ∀ real content, disk.located ⟨"/", key⟩ = some real →
          disk.entryAt real = some (.file content) →
          content.length ≤ maximumFileBytes → root <+: real

theorem gather_ok {service : ServiceContext} {gathered : Gathered}
    (run : gather disk.fileSystem maximumFileBytes service = .ok gathered) :
    gathered.service = service ∧ ∃ root,
      disk.realpath (.ofText service.sourceRepository.localPath) = some root ∧
      ∃ paths, resolveFiles disk.fileSystem maximumFileBytes ⟨"/", root⟩
          service.importantPaths = .ok paths ∧
        List.Forall₂ (fun path file =>
            loadFile disk.fileSystem ⟨"/", root⟩ path = .ok file)
          paths gathered.files := by
  simp only [gather, bind_eq_ok_iff, pure_eq_ok_iff] at run
  obtain ⟨resolvedRoot, resolve, paths, resolved, files, load, rfl⟩ := run
  refine ⟨rfl, ?_⟩
  simp only [Disk.fileSystem] at resolve
  split at resolve
  · rename_i root found
    cases resolve
    exact ⟨root, found, paths, resolved, mapM_eq_ok_iff.mp load⟩
  · cases resolve

theorem path_of_loadFile {root path : Path} {file : LoadedFile}
    (loaded : loadFile disk.fileSystem root path = .ok file) :
    file.path = path := by
  simp only [loadFile, bind_eq_ok_iff, pure_eq_ok_iff] at loaded
  obtain ⟨_, _, _, _, rfl⟩ := loaded
  rfl

theorem isRelativeTo_root {candidate root : List Part} :
    Path.isRelativeTo ⟨"/", candidate⟩ ⟨"/", root⟩ = true ↔
      root <+: candidate := by
  simp [Path.isRelativeTo]

/-- A selected path that is no link lies where it says, below the root. -/
theorem located_inside_of_not_link {candidate key root : List Part}
    (inside : root <+: candidate) (isPrefix : candidate <+: key)
    (present : disk.entryAt key ≠ none)
    (unlinked : ∀ target, disk.entryAt key ≠ some (.link target)) :
    ∃ real, disk.located ⟨"/", key⟩ = some real ∧ root <+: real := by
  obtain ⟨entry, here⟩ := Option.ne_none_iff_exists'.mp present
  refine ⟨key, Disk.located_of_entry here ?_, inside.trans isPrefix⟩
  intro target linked
  exact unlinked target (linked ▸ here)

/-- The indexer reads below the root only, exactly when the links that its
walks meet stay there. -/
theorem reads_inside_iff (disk : Disk) (maximumFileBytes : Nat)
    (service : ServiceContext) (gathered : Gathered)
    (run : gather disk.fileSystem maximumFileBytes service = .ok gathered) :
    ReadsInside disk gathered ↔
      LinksStayInside disk maximumFileBytes service := by
  obtain ⟨rfl, root, resolved, paths, resolve, load⟩ := gather_ok run
  have selected : ∀ path, path ∈ paths ↔
      ∃ file ∈ gathered.files, file.path = path := by
    intro path
    constructor
    · intro member
      obtain ⟨file, fileMember, loaded⟩ := forall₂_mem_left load member
      exact ⟨file, fileMember, path_of_loadFile loaded⟩
    · intro ⟨file, fileMember, same⟩
      obtain ⟨other, member, loaded⟩ := forall₂_mem_right load fileMember
      rw [← same, path_of_loadFile loaded]
      exact member
  constructor
  · intro ⟨other, otherResolved, reads⟩ again againResolved
    rw [resolved, Option.some.injEq] at otherResolved againResolved
    subst otherResolved againResolved
    intro relative declared candidate leads directory key member target linked
      kept real content located entry small
    have found := content?_eq_some_iff.mpr ⟨real, located, entry⟩
    have chosen : (⟨"/", key⟩ : Path) ∈ paths := by
      rw [mem_resolveFiles_iff resolve]
      refine ⟨⟨relative, declared, mem_candidatePaths_iff.mpr
        ⟨candidate, leads, mem_namedBy_iff.mpr
          (Or.inl ⟨directory, key, member, rfl⟩)⟩⟩, ?_⟩
      exact selectable_iff.mpr ⟨content, found, kept, small⟩
    obtain ⟨file, fileMember, same⟩ := (selected _).mp chosen
    obtain ⟨there, fileLocated, inside⟩ := reads file fileMember
    rw [same, located, Option.some.injEq] at fileLocated
    exact fileLocated ▸ inside
  · intro stay
    refine ⟨root, resolved, ?_⟩
    intro file fileMember
    have chosen := (selected file.path).mpr ⟨file, fileMember, rfl⟩
    rw [mem_resolveFiles_iff resolve] at chosen
    obtain ⟨⟨relative, declared, named⟩, eligible⟩ := chosen
    obtain ⟨candidate, leads, member⟩ := mem_candidatePaths_iff.mp named
    obtain ⟨content, found, kept, small⟩ := selectable_iff.mp eligible
    have inside := isRelativeTo_root.mp leads.2
    have located := content?_eq_some_iff.mp found
    cases mem_namedBy_iff.mp member with
    | inl walked =>
        obtain ⟨directory, key, member, same⟩ := walked
        rw [same] at found kept located ⊢
        obtain ⟨present, isPrefix, -⟩ := mem_below_iff.mp member
        by_cases linked : ∃ target, disk.entryAt key = some (.link target)
        · obtain ⟨target, linked⟩ := linked
          obtain ⟨real, located, entry⟩ := located
          exact ⟨real, located, stay root resolved relative declared candidate
            leads directory key member target linked kept real content located
            entry small⟩
        · rw [not_exists] at linked
          exact located_inside_of_not_link inside isPrefix present linked
    | inr itself =>
        rw [itself.2] at located ⊢
        obtain ⟨real, there, _⟩ := located
        have same := Disk.located_eq_of_real (Disk.realpath_real leads.1) there
        exact ⟨real, there, same ▸ inside⟩

end Disks

/-! ### A link in the checkout -/

namespace LinkedCheckout

def srv : Part := ⟨"srv", by decide⟩

def payment : Part := ⟨"payment", by decide⟩

def src : Part := ⟨"src", by decide⟩

def linked : Part := ⟨"linked.py", by decide⟩

def data : Part := ⟨"data.py", by decide⟩

def etc : Part := ⟨"etc", by decide⟩

/-- A checkout whose sources hold nothing but a link. -/
def entries (target : String) : List (List Part × Entry) :=
  [([], .directory), ([srv], .directory), ([srv, payment], .directory),
    ([srv, payment, src], .directory),
    ([srv, payment, src, linked], .link (.ofText target)),
    ([srv, payment, data], .file [112, 97, 115, 115]),
    ([etc], .directory), ([etc, data], .file [107, 101, 121])]

/-- The link leads to a file of the host. -/
def leakingDisk : Disk :=
  .ofEntries (entries "/etc/data.py") (by rfl) (by decide +kernel)
    (by decide +kernel)

/-- The link leads to another file of the checkout. -/
def innerDisk : Disk :=
  .ofEntries (entries "../data.py") (by rfl) (by decide +kernel)
    (by decide +kernel)

def service : ServiceContext where
  serviceId := "payment"
  «namespace» := "kuber-sandbox"
  workloadKind := "Deployment"
  deploymentName := "payment"
  serviceAccount := "payment-sa"
  sourceRepository := ⟨"payment", "/srv/payment", none, none⟩
  importantPaths := ["src"]
  verificationProfile := "payment"
  ownRepository := @rfl String "payment"

def gathered (content : List UInt8) : Gathered where
  service := service
  files := [⟨⟨"/", [srv, payment, src, linked]⟩, [src, linked], content⟩]

theorem gather_leakingDisk :
    gather leakingDisk.fileSystem 1000000 service =
      .ok (gathered [107, 101, 121]) := by rfl

theorem gather_innerDisk :
    gather innerDisk.fileSystem 1000000 service =
      .ok (gathered [112, 97, 115, 115]) := by rfl

end LinkedCheckout

open LinkedCheckout in
/-- The file of the host is read. -/
theorem link_is_read_outside :
    ¬ ∀ (disk : Disk) (maximumFileBytes : Nat) (service : ServiceContext)
        (gathered : Gathered),
      gather disk.fileSystem maximumFileBytes service = .ok gathered →
        ReadsInside disk gathered := by
  intro inside
  obtain ⟨root, resolved, reads⟩ := inside _ _ _ _ gather_leakingDisk
  have here : leakingDisk.realpath (.ofText "/srv/payment") =
      some [srv, payment] := by rfl
  have there : leakingDisk.located ⟨"/", [srv, payment, src, linked]⟩ =
      some [etc, data] := by rfl
  obtain ⟨real, located, below⟩ := reads _ List.mem_cons_self
  have rootIs := Option.some.inj (here.symm.trans resolved)
  have realIs := Option.some.inj (there.symm.trans located)
  rw [← rootIs, ← realIs] at below
  exact absurd below (by decide)

open LinkedCheckout in
/-- A link to another file of the checkout stays inside. -/
theorem reads_inside_iff_inner :
    ReadsInside innerDisk (gathered [112, 97, 115, 115]) := by
  apply (reads_inside_iff innerDisk 1000000 service _ gather_innerDisk).mpr
  intro root resolved relative declared candidate ⟨led, _⟩ _ key member _ _ _
    real _ located _ _
  have here : innerDisk.realpath (.ofText "/srv/payment") =
      some [srv, payment] := by rfl
  have sources : innerDisk.realpath (Path.join ⟨"/", [srv, payment]⟩ "src") =
      some [srv, payment, src] := by rfl
  have walked : innerDisk.below [srv, payment, src] =
      [[srv, payment, src, linked]] := by rfl
  have there : innerDisk.located ⟨"/", [srv, payment, src, linked]⟩ =
      some [srv, payment, data] := by rfl
  have rootIs := Option.some.inj (here.symm.trans resolved)
  rw [List.mem_singleton.mp declared, ← rootIs] at led
  rw [← Option.some.inj (sources.symm.trans led), walked,
    List.mem_singleton] at member
  rw [member] at located
  rw [← rootIs, ← Option.some.inj (there.symm.trans located)]
  decide

end Kuber.Context
