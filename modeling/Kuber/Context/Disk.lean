import Kuber.Context.Paths
import Kuber.Library.OrderedDict

/-!
# Disks with symbolic links

A disk gives every real path its entry; the parent of an entry is a directory.
Resolving a path follows the links in it.  The operations of `pathlib` are read
off such a disk: a walk lists the links it meets and does not follow them, and
the operations on files do.
-/

namespace Kuber.Context

open Kuber.Library Kuber.Rules

inductive Entry where
  | file (content : List UInt8)
  | directory
  | link (target : Path)
deriving DecidableEq

structure Disk where
  entries : OrderedDict (List Part) Entry
  workingDirectory : List Part := []
  rooted : entries.get? [] = some .directory
  parents : ∀ path name, entries.get? (path ++ [name]) ≠ none →
    entries.get? path = some .directory
  named : ∀ path, entries.get? path ≠ none → ∀ part ∈ path, part.val ≠ ".."
  working : entries.get? workingDirectory = some .directory

namespace Disk

/-- A disk from a list of its entries; the working directory is the root. -/
def ofEntries (listed : List (List Part × Entry))
    (rooted : (OrderedDict.ofList listed).get? [] = some .directory)
    (parents : ∀ entry ∈ listed, entry.1 ≠ [] →
      (OrderedDict.ofList listed).get? entry.1.dropLast = some .directory)
    (named : ∀ entry ∈ listed, ∀ part ∈ entry.1, part.val ≠ "..") : Disk where
  entries := .ofList listed
  rooted := rooted
  parents := by
    intro path name present
    obtain ⟨entry, found⟩ := Option.ne_none_iff_exists'.mp present
    have parent := parents _ (OrderedDict.mem_of_get?_ofList found) (by simp)
    simpa using parent
  named := by
    intro path present
    obtain ⟨entry, found⟩ := Option.ne_none_iff_exists'.mp present
    exact named _ (OrderedDict.mem_of_get?_ofList found)
  working := rooted

variable (disk : Disk)

def entryAt (path : List Part) : Option Entry := disk.entries.get? path

/-- Follow names from a real path.  When strict, every name has to exist, as
it has for the operating system; otherwise a missing name is kept. -/
def follow (strict : Bool) (goto : List Part → Path → Option (List Part)) :
    List Part → List Part → Option (List Part)
  | here, [] => some here
  | here, name :: rest =>
      if strict = true ∧ disk.entryAt here ≠ some .directory then none
      else if name.val = ".." then follow strict goto here.dropLast rest
      else
        match disk.entryAt (here ++ [name]) with
        | some (.link target) =>
            match goto here target with
            | some there => follow strict goto there rest
            | none => none
        | some _ => follow strict goto (here ++ [name]) rest
        | none =>
            if strict = true then none
            else follow strict goto (here ++ [name]) rest

/-- Where following a path begins. -/
def start (here : List Part) (path : Path) : List Part :=
  if path.anchor = "" then here else []

/-- Follow a path through links within links, down to a depth. -/
def resolveWithin (strict : Bool) :
    Nat → List Part → Path → Option (List Part)
  | 0, here, path =>
      disk.follow strict (fun _ _ => none) (start here path) path.parts
  | depth + 1, here, path =>
      disk.follow strict (resolveWithin strict depth) (start here path)
        path.parts

/-- Links that are nested deeper than there are links form a loop. -/
def depth : Nat :=
  disk.entries.values.countP fun entry =>
    match entry with
    | .link _ => true
    | _ => false

/-- `os.path.realpath`, unless there is a loop. -/
def realpath (path : Path) : Option (List Part) :=
  disk.resolveWithin false disk.depth disk.workingDirectory path

/-- The real path of what a path names. -/
def located (path : Path) : Option (List Part) :=
  disk.resolveWithin true disk.depth disk.workingDirectory path

/-- `os.stat`. -/
def stat (path : Path) : Option Entry :=
  (disk.located path).bind disk.entryAt

def content? (path : Path) : Option (List UInt8) :=
  match disk.stat path with
  | some (.file content) => some content
  | _ => none

def readContent (path : Path) : Except PyException (List UInt8) :=
  match disk.content? path with
  | some content => .ok content
  | none => .error ⟨.other "FileNotFoundError",
      "[Errno 2] No such file or directory: " ++ Json.quoteText path.text⟩

/-- The real paths strictly below one. -/
def below (here : List Part) : List (List Part) :=
  disk.entries.keys.filter fun key => decide (here <+: key ∧ here ≠ key)

/-- What `pathlib` sees of the disk. -/
def fileSystem : FileSystem where
  resolve path :=
    match disk.realpath path with
    | some parts => .ok ⟨"/", parts⟩
    | none => .error ⟨.other "RuntimeError",
        "Symlink loop from " ++ Json.quoteText path.text⟩
  isDir path := .ok (decide (disk.stat path = some .directory))
  isFile path := .ok (disk.content? path).isSome
  rglob path :=
    match disk.located path with
    | some here => .ok ((disk.below here).map fun key =>
        ⟨path.anchor, path.parts ++ key.drop here.length⟩)
    | none => .ok []
  size path := (disk.readContent path).map List.length
  readBytes path := disk.readContent path
  apart := by
    intro path isDir isFile
    have directory := of_decide_eq_true (Except.ok.inj isDir)
    have file := Except.ok.inj isFile
    simp [content?, directory] at file

/-! ### Paths without links -/

variable {disk}

theorem entryAt_of_append {path rest : List Part} (nonempty : rest ≠ [])
    (present : disk.entryAt (path ++ rest) ≠ none) :
    disk.entryAt path = some .directory := by
  induction rest using List.reverseRecOn with
  | nil => exact absurd rfl nonempty
  | append_singleton rest name induction =>
      rw [← List.append_assoc] at present
      have parent := disk.parents (path ++ rest) name present
      by_cases last : rest = []
      · rw [last, List.append_nil] at parent
        exact parent
      · apply induction last
        rw [entryAt, parent]
        exact Option.some_ne_none _

theorem entryAt_of_isPrefix {path longer : List Part}
    (isPrefix : path <+: longer) (other : path ≠ longer)
    (present : disk.entryAt longer ≠ none) :
    disk.entryAt path = some .directory := by
  obtain ⟨rest, rfl⟩ := isPrefix
  apply entryAt_of_append _ present
  intro empty
  exact other (by rw [empty, List.append_nil])

/-- A path that a resolution may end in: no name climbs, and no link is met on
the way. -/
structure Real (disk : Disk) (path : List Part) : Prop where
  named : ∀ part ∈ path, part.val ≠ ".."
  unlinked : ∀ upper, upper <+: path → ∀ target,
    disk.entryAt upper ≠ some (.link target)

theorem Real.ofPrefix {path upper : List Part} (real : disk.Real path)
    (isPrefix : upper <+: path) : disk.Real upper where
  named part member := real.named part (isPrefix.subset member)
  unlinked other shorter := real.unlinked other (shorter.trans isPrefix)

theorem real_of_entry {path : List Part} {entry : Entry}
    (present : disk.entryAt path = some entry)
    (notLink : ∀ target, entry ≠ .link target) : disk.Real path where
  named := disk.named path (by
    rw [← entryAt, present]
    exact Option.some_ne_none _)
  unlinked := by
    intro upper shorter target linked
    by_cases same : upper = path
    · rw [same, present, Option.some.injEq] at linked
      exact notLink target linked
    · have whole : disk.entryAt path ≠ none := by
        rw [present]
        exact Option.some_ne_none _
      rw [entryAt_of_isPrefix shorter same whole] at linked
      cases linked

theorem real_of_directory {path : List Part}
    (directory : disk.entryAt path = some .directory) : disk.Real path :=
  real_of_entry directory (by simp)

theorem Real.append {path : List Part} {name : Part} (real : disk.Real path)
    (plain : name.val ≠ "..")
    (unlinked : ∀ target, disk.entryAt (path ++ [name]) ≠ some (.link target)) :
    disk.Real (path ++ [name]) where
  named part member := by
    cases List.mem_append.mp member with
    | inl upper => exact real.named part upper
    | inr last => exact List.mem_singleton.mp last ▸ plain
  unlinked upper shorter := by
    cases List.prefix_concat_iff.mp shorter with
    | inl whole => exact whole ▸ unlinked
    | inr inside => exact real.unlinked upper inside

theorem follow_real {strict : Bool}
    {goto : List Part → Path → Option (List Part)}
    (onward : ∀ here target there, disk.Real here →
      goto here target = some there → disk.Real there)
    {here rest there : List Part} (real : disk.Real here)
    (followed : disk.follow strict goto here rest = some there) :
    disk.Real there := by
  induction rest generalizing here with
  | nil =>
      rw [follow, Option.some.injEq] at followed
      exact followed ▸ real
  | cons name rest induction =>
      rw [follow] at followed
      split at followed
      · cases followed
      · split at followed
        · exact induction (real.ofPrefix (List.dropLast_prefix here)) followed
        · rename_i plain
          split at followed
          · rename_i target _
            split at followed
            · rename_i middle reached
              exact induction (onward here target middle real reached) followed
            · cases followed
          · rename_i entry notLink present
            apply induction (real.append plain _) followed
            intro target linked
            rw [present, Option.some.injEq] at linked
            exact notLink target linked
          · rename_i absent
            split at followed
            · cases followed
            · apply induction (real.append plain _) followed
              intro target linked
              rw [absent] at linked
              cases linked

theorem start_real {here : List Part} {path : Path} (real : disk.Real here) :
    disk.Real (start here path) := by
  rw [start]
  split
  · exact real
  · exact real_of_directory disk.rooted

theorem resolveWithin_real {strict : Bool} {depth : Nat}
    {here there : List Part} {path : Path} (real : disk.Real here)
    (resolved : disk.resolveWithin strict depth here path = some there) :
    disk.Real there := by
  induction depth generalizing here path there with
  | zero =>
      rw [resolveWithin] at resolved
      refine follow_real ?_ (start_real real) resolved
      intro _ _ _ _ impossible
      cases impossible
  | succ depth induction =>
      rw [resolveWithin] at resolved
      refine follow_real ?_ (start_real real) resolved
      intro middle target there middleReal reached
      exact induction middleReal reached

/-- What `resolve` returns is a real path. -/
theorem realpath_real {path : Path} {there : List Part}
    (resolved : disk.realpath path = some there) : disk.Real there :=
  resolveWithin_real (real_of_directory disk.working) resolved

theorem follow_eq_of_real {strict : Bool}
    {goto : List Part → Path → Option (List Part)}
    {here rest there : List Part} (real : disk.Real (here ++ rest))
    (followed : disk.follow strict goto here rest = some there) :
    there = here ++ rest := by
  induction rest generalizing here with
  | nil =>
      rw [follow, Option.some.injEq] at followed
      rw [List.append_nil, followed]
  | cons name rest induction =>
      have split : here ++ name :: rest = here ++ [name] ++ rest := by simp
      have upper : here ++ [name] <+: here ++ name :: rest :=
        split ▸ List.prefix_append _ _
      rw [follow] at followed
      split at followed
      · cases followed
      · split at followed
        · rename_i climbs
          exact absurd climbs (real.named name (by simp))
        · split at followed
          · rename_i target linked
            exact absurd linked (real.unlinked _ upper target)
          · rw [split]
            exact induction (split ▸ real) followed
          · split at followed
            · cases followed
            · rw [split]
              exact induction (split ▸ real) followed

/-- A real path resolves to itself, whether it exists or not. -/
theorem realpath_of_real {path : List Part} (real : disk.Real path) :
    disk.realpath ⟨"/", path⟩ = some path := by
  have follows : ∀ goto here rest, disk.Real (here ++ rest) →
      disk.follow false goto here rest = some (here ++ rest) := by
    intro goto here rest whole
    induction rest generalizing here with
    | nil => rw [follow, List.append_nil]
    | cons name rest induction =>
        have split : here ++ name :: rest = here ++ [name] ++ rest := by simp
        have upper : here ++ [name] <+: here ++ name :: rest :=
          split ▸ List.prefix_append _ _
        have onward := induction (here ++ [name]) (split ▸ whole)
        rw [follow, if_neg (by simp), if_neg (whole.named name (by simp)),
          split]
        cases present : disk.entryAt (here ++ [name]) with
        | none => exact onward
        | some entry =>
            cases entry with
            | file content => exact onward
            | directory => exact onward
            | link target => exact absurd present (whole.unlinked _ upper target)
  have begins : start disk.workingDirectory ⟨"/", path⟩ = [] := by
    simp [start]
  rw [realpath]
  cases disk.depth with
  | zero =>
      rw [resolveWithin, begins]
      exact follows _ [] path real
  | succ depth =>
      rw [resolveWithin, begins]
      exact follows _ [] path real

theorem follow_eq_some_of_entry {strict : Bool}
    {goto : List Part → Path → Option (List Part)}
    {here rest : List Part} {entry : Entry}
    (present : disk.entryAt (here ++ rest) = some entry)
    (unlinked : ∀ target, entry ≠ .link target) :
    disk.follow strict goto here rest = some (here ++ rest) := by
  induction rest generalizing here with
  | nil => rw [follow, List.append_nil]
  | cons name rest induction =>
      have whole : disk.entryAt (here ++ name :: rest) ≠ none := by
        rw [present]
        exact Option.some_ne_none _
      have directory : disk.entryAt here = some .directory :=
        entryAt_of_append (by simp) whole
      have plain : name.val ≠ ".." := disk.named _ whole name (by simp)
      have split : here ++ name :: rest = here ++ [name] ++ rest := by simp
      rw [split] at present
      have onward := induction present
      rw [follow, if_neg (by simp [directory]), if_neg plain, split]
      by_cases last : rest = []
      · rw [last, List.append_nil] at present
        rw [present]
        cases entry with
        | file content => exact onward
        | directory => exact onward
        | link target => exact absurd rfl (unlinked target)
      · have upper : disk.entryAt (here ++ [name]) = some .directory := by
          apply entryAt_of_append last
          rw [present]
          exact Option.some_ne_none _
        rw [upper]
        exact onward

theorem located_of_entry {path : List Part} {entry : Entry}
    (present : disk.entryAt path = some entry)
    (unlinked : ∀ target, entry ≠ .link target) :
    disk.located ⟨"/", path⟩ = some path := by
  rw [located]
  have begins : start disk.workingDirectory ⟨"/", path⟩ = [] := by
    simp [start]
  cases disk.depth with
  | zero =>
      rw [resolveWithin, begins]
      exact @follow_eq_some_of_entry _ _ _ [] _ _ present unlinked
  | succ depth =>
      rw [resolveWithin, begins]
      exact @follow_eq_some_of_entry _ _ _ [] _ _ present unlinked

theorem located_eq_of_real {path there : List Part} (real : disk.Real path)
    (found : disk.located ⟨"/", path⟩ = some there) : there = path := by
  rw [located] at found
  have begins : start disk.workingDirectory ⟨"/", path⟩ = [] := by
    simp [start]
  cases nested : disk.depth with
  | zero =>
      rw [nested, resolveWithin, begins] at found
      exact @follow_eq_of_real _ _ _ [] _ _ real found
  | succ depth =>
      rw [nested, resolveWithin, begins] at found
      exact @follow_eq_of_real _ _ _ [] _ _ real found

end Disk

end Kuber.Context
