import Mathlib.Data.List.Infix
import Kuber.Context.Paths
import Kuber.Context.Store
import Kuber.Library.Canonical
import Kuber.Library.ExceptResult
import Kuber.Library.Raising

/-!
# The service indexer

Indexing a service selects the files of its declared paths, feeds their names
and contents to a hash, and returns the latest context of the service when that
has the same hash; otherwise it builds a context and stores it.  The hash and
the file system are parameters.
-/

namespace Kuber.Context

open Kuber.Library Kuber.Rules Kuber.Event

/-- `_LANGUAGES`. -/
def languages : List (String × String) :=
  [(".py", "Python"), (".go", "Go"), (".js", "JavaScript"),
    (".ts", "TypeScript"), (".java", "Java"), (".yaml", "YAML"),
    (".yml", "YAML")]

/-- `_IGNORED_PARTS`. -/
def ignoredParts : List String :=
  [".git", ".mypy_cache", ".pytest_cache", ".ruff_cache", ".venv",
    "__pycache__"]

/-- `_ENTRY_NAMES`. -/
def entryNames : List String :=
  ["main.py", "app.py", "server.py", "Dockerfile", "pyproject.toml"]

/-- The words that show a use of Kubernetes. -/
def usageWords : List String := ["kubernetes", "kubectl", "client-go"]

def ignored (path : Path) : Bool :=
  path.parts.any fun part => decide (part.val ∈ ignoredParts)

/-- `text.encode()`. -/
def encode (text : String) : List UInt8 := text.toUTF8.data.toList

/-- `bytes.lower`. -/
def lowerBytes (content : List UInt8) : List UInt8 :=
  content.map fun byte => if 65 ≤ byte ∧ byte ≤ 90 then byte + 32 else byte

/-- A selected file: its path below the root, and its content. -/
structure LoadedFile where
  path : Path
  relative : List Part
  content : List UInt8

namespace LoadedFile

def text (file : LoadedFile) : String := posixText file.relative

def language? (file : LoadedFile) : Option String :=
  languages.lookup (suffixOf (nameOf file.path.parts)).toLower

def isEntryPoint (file : LoadedFile) : Bool :=
  decide (nameOf file.path.parts ∈ entryNames)

def mentionsKubernetes (file : LoadedFile) : Bool :=
  usageWords.any fun word =>
    decide (encode word <:+: lowerBytes file.content)

end LoadedFile

section Files

variable (disk : FileSystem) (maximumFileBytes : Nat)

def selectable (path : Path) : Except PyException Bool := do
  if (← disk.isFile path) = true then
    if ignored path = true then return false
    else return decide ((← disk.size path) ≤ maximumFileBytes)
  else return false

/-- The selectable paths among some. -/
def selectPaths : List Path → Except PyException (List Path)
  | [] => return []
  | path :: paths => do
      let selected ← selectable disk maximumFileBytes path
      let rest ← selectPaths paths
      return if selected = true then path :: rest else rest

/-- What an important path names. -/
def candidatePaths (root : Path) (relative : String) :
    Except PyException (List Path) := do
  let candidate ← disk.resolve (root.join relative)
  if candidate.isRelativeTo root = false then
    .error (.valueError ("important path escapes repository root: " ++
      relative))
  else if (← disk.isDir candidate) = true then disk.rglob candidate
  else return [candidate]

/-- The files that the important paths select. -/
def selectFiles (root : Path) : List String → Except PyException (List Path)
  | [] => return []
  | relative :: importantPaths => do
      let paths ← candidatePaths disk root relative
      let selected ← selectPaths disk maximumFileBytes paths
      let rest ← selectFiles root importantPaths
      return selected ++ rest

/-- `_resolve_files`. -/
def resolveFiles (root : Path) (importantPaths : List String) :
    Except PyException (List Path) := do
  if (← disk.isDir root) = true then
    let selected ← selectFiles disk maximumFileBytes root importantPaths
    return sortBy Path.sortKey (uniqueBy id selected)
  else .error ⟨.other "FileNotFoundError",
    "service repository does not exist: " ++ root.text⟩

def loadFile (root path : Path) : Except PyException LoadedFile := do
  let relative ← path.relativeTo root
  let content ← disk.readBytes path
  return ⟨path, relative, content⟩

/-- A service with its selected files. -/
structure Gathered where
  service : ServiceContext
  files : List LoadedFile

/-- The part of `index` before it asks the store. -/
def gather (service : ServiceContext) : Except PyException Gathered := do
  let root ← disk.resolve (.ofText service.sourceRepository.localPath)
  let paths ← resolveFiles disk maximumFileBytes root service.importantPaths
  let files ← paths.mapM (loadFile disk root)
  return ⟨service, files⟩

end Files

namespace Gathered

variable (gathered : Gathered)

/-- The bytes that the hash is fed. -/
def stream : List UInt8 :=
  gathered.files.flatMap fun file => encode file.text ++ 0 :: file.content

def bytesLoaded : Nat :=
  (gathered.files.map fun file => file.content.length).sum

/-- The declared usage, and the files that show one. -/
def usage : List String :=
  gathered.service.kubernetesUsage ++
    (gathered.files.filter LoadedFile.mentionsKubernetes).map LoadedFile.text

def contextRef (serviceId contentHash : String) : String :=
  "context://" ++ serviceId ++ "/" ++
    String.ofList (contentHash.toList.take 16)

/-- The context that `index` builds. -/
def context (hexdigest : List UInt8 → String) : IndexedServiceContext where
  contextRef := contextRef gathered.service.serviceId
    (hexdigest gathered.stream)
  serviceId := gathered.service.serviceId
  contentHash := hexdigest gathered.stream
  files := gathered.files.map LoadedFile.text
  bytesLoaded := gathered.bytesLoaded
  languages := sortedSet (gathered.files.filterMap LoadedFile.language?)
  kubernetesUsage := sortedSet gathered.usage
  dependencies := sortedSet gathered.service.dependencies
  entryPoints := sortBy id
    ((gathered.files.filter LoadedFile.isEntryPoint).map LoadedFile.text)

end Gathered

structure IndexResult where
  context : IndexedServiceContext
  reused : Bool

/-- An indexer, with the clock of its store and the disk at the time. -/
structure ServiceContextIndexer where
  disk : FileSystem
  maximumFileBytes : Nat := 1000000
  now : Nat

namespace ServiceContextIndexer

variable (loader : Loader) (hexdigest : List UInt8 → String)
  (indexer : ServiceContextIndexer)

/-- The part of `index` that asks the store. -/
def reuseOrStore (gathered : Gathered) :
    Raising PyException SQLiteContextStore IndexResult := do
  let store ← Raising.get
  let previous ← Raising.ofExcept
    (store.latest loader gathered.service.serviceId)
  let context := gathered.context hexdigest
  match previous.filter fun previous =>
      decide (previous.contentHash = context.contentHash) with
  | some previous => return ⟨previous, true⟩
  | none =>
      Raising.modify fun store => store.put indexer.now context
      return ⟨context, false⟩

def index (service : ServiceContext) :
    Raising PyException SQLiteContextStore IndexResult := do
  let gathered ← Raising.ofExcept
    (gather indexer.disk indexer.maximumFileBytes service)
  indexer.reuseOrStore loader hexdigest gathered

end ServiceContextIndexer

end Kuber.Context
