import Mathlib
import Sd700.Logic.Checks

/-! The artifact cleaner: `clean_generated_artifacts.py` up to `apply_plan`, on a tree of files. What Python, Git
and the file system decide by themselves is the environment. -/

namespace Sd700.Tools.Cleanup
open Logic.Checks

abbrev Text := List Char
abbrev Bytes := List (BitVec 8)

abbrev Path := List Text

inductive Node
  | file (bytes : Bytes) (readOnly : Bool)
  | dir
  | link (bytes : Option Bytes)
  deriving DecidableEq

def GoodName (name : Text) : Prop := name ≠ [] ∧ '/' ∉ name ∧ name ≠ ['.']

instance (name : Text) : Decidable (GoodName name) := inferInstanceAs (Decidable (_ ∧ _))

structure Tree where
  nodes : List (Path × Node)
  distinct : (nodes.map Prod.fst).Nodup
  named : ∀ q ∈ nodes.map Prod.fst, ∀ name ∈ q, GoodName name

def Tree.at (t : Tree) (q : Path) : Option Node := (t.nodes.find? fun entry => entry.1 = q).map Prod.snd

def Tree.remove (t : Tree) (q : Path) : Tree where
  nodes := t.nodes.filter fun entry => entry.1 ≠ q
  distinct := t.distinct.sublist (List.filter_sublist.map _)
  named := fun p listed => t.named p (List.Sublist.mem listed (List.filter_sublist.map _))

def Tree.put (t : Tree) (q : Path) (node : Node) : Tree where
  nodes := t.nodes.map fun entry => if entry.1 = q then (entry.1, node) else entry
  distinct := by
    rw [List.map_map, List.map_congr_left fun entry _ => show _ = entry.1 by
      dsimp only [Function.comp]; split <;> rfl]
    exact t.distinct
  named := by
    rw [List.map_map, List.map_congr_left fun entry _ => show _ = entry.1 by
      dsimp only [Function.comp]; split <;> rfl]
    exact t.named

def Tree.children (t : Tree) (q : Path) : List Path :=
  (t.nodes.map Prod.fst).filter fun p => p ≠ [] ∧ p.dropLast = q

def Tree.read (t : Tree) (q : Path) : Option Bytes :=
  match t.at q with
  | some (.file bytes _) => some bytes
  | some (.link bytes) => bytes
  | _ => none

/-- A value of a JSON object: whether it is a string, and its `str`. -/
structure Value where
  isText : Bool
  str : Text

def suffixes : List Text :=
  [".metadata.json".toList, ".meta.json".toList, ".report.txt".toList, ".csv".toList]

structure Env where
  /-- `str.lower`; what becomes one of the suffixes is as long and holds no separator -/
  lower : Text → Text
  lower_suffix : ∀ text, ∀ suffix ∈ suffixes, suffix <:+ lower text →
    suffix.length ≤ text.length ∧ '/' ∉ text.drop (text.length - suffix.length)
  /-- the `\w` and `\d` of `re` -/
  isWord : Char → Bool
  isDigit : Char → Bool
  /-- the SHA-256 digest, in hexadecimal -/
  sha : Bytes → Text
  /-- UTF-8, with replacements -/
  decode : Bytes → Text
  /-- a JSON object, by its keys -/
  loads : Bytes → Option (Text → Option Value)
  root : Text
  rootParts : Path
  isCheckout : Tree → Except String Bool
  lsFiles : Tree → Except String (List Text)
  checkIgnore : Tree → Except String (Text → Bool)
  head : Tree → Except String Text
  status : Tree → Except String Text
  /-- whether the system refuses to remove a node -/
  refuses : Path → Node → Bool

def require (condition : Prop) [Decidable condition] (message : String) : Except String Unit :=
  demand condition message

/-- Code point order, as `sorted` has it. -/
def textLE (a b : Text) : Bool := a.map Char.toNat ≤ b.map Char.toNat

def sortedBy {α : Type} (le : α → α → Bool) (list : List α) : List α := list.insertionSort fun a b => le a b = true

def sorted (texts : List Text) : List Text := sortedBy textLE texts

/-! ### Paths -/

def joined (q : Path) : Text := ['/'].intercalate q

/-- `PurePosixPath(relative).parts`, of a relative path. -/
def partsOf (relative : Text) : Path := (relative.splitOn '/').filter fun part => part ≠ [] ∧ part ≠ ['.']

def baseName (relative : Text) : Text := (partsOf relative).getLastD []

/-- `PurePosixPath(relative).parent.as_posix()`. -/
def parentOf (relative : Text) : Text :=
  if (partsOf relative).dropLast = [] then ['.'] else joined (partsOf relative).dropLast

def message (front : String) (relative : Text) : String := front ++ String.ofList relative

variable (env : Env)

/-- A `.git` that may be removed: one in a `clone_verification`. -/
def gitAllowed (parts : Path) : Prop :=
  ∀ i < parts.length, env.lower (parts.getD i []) = ".git".toList →
    2 ≤ i ∧ parts.getD (i - 1) [] = "clone_verification".toList

instance (parts : Path) : Decidable (gitAllowed env parts) := Nat.decidableBallLT _ _

def isLink : Option Node → Bool
  | some (.link _) => true
  | _ => false

/-- `safe_output`. Where no part is a link, the resolved path is the path itself. -/
def safeOutput (t : Tree) (relative : Text) : Except String Path := do
  require ('\\' ∉ relative ∧ ':' ∉ relative) "Noncanonical path"
  let parts := partsOf relative
  require (parts.head? = some "output".toList ∧ joined parts = relative ∧
    ∀ part ∈ parts, part ≠ ['.', '.'] ∧ part.getLast? ≠ some ' ' ∧ part.getLast? ≠ some '.')
    "Not a canonical output path"
  require (gitAllowed env parts) "Only nested clone_verification/.git is removable"
  require (∀ n ≤ parts.length, isLink (t.at (parts.take n)) = false) (message "Symlink/junction rejected: " relative)
  .ok parts

/-! ### The inventory -/

structure Info where
  bytes : ℕ
  sha256 : Text
  deriving DecidableEq

structure Inventory where
  files : List (Text × Info)
  directories : List Text
  protectedTrees : List Text

/-- A directory `os.walk` goes down into. -/
def entered (t : Tree) (q : Path) : Bool :=
  t.at q = some .dir ∧ ¬(env.lower (q.getLastD []) = ".git".toList ∧ q.dropLast.getLastD [] ≠ "clone_verification".toList)

/-- What `os.walk` lists below `output`: what is in directories it goes down into. -/
def walked (t : Tree) (q : Path) : Bool :=
  2 ≤ q.length ∧ q.head? = some "output".toList ∧ t.at ["output".toList] = some .dir ∧
    ∀ n < q.length, 2 ≤ n → entered env t (q.take n) = true

def fileInfo (q : Path) : Node → Option (Text × Info)
  | .file bytes _ =>
    if env.lower (q.getLastD []) = ".git".toList then none else some (joined q, ⟨bytes.length, env.sha bytes⟩)
  | _ => none

def walk (t : Tree) : List (Path × Node) := t.nodes.filter fun entry => walked env t entry.1

def inventory (t : Tree) : Except String Inventory := do
  let _ ← safeOutput env t "output".toList
  let files := (walk env t).filterMap fun entry => fileInfo env entry.1 entry.2
  files.forM fun file => do
    let _ ← safeOutput env t file.1
    .ok ()
  .ok
    { files := files
      directories := sorted (((walk env t).filter fun entry => entered env t entry.1).map fun entry => joined entry.1)
      protectedTrees := sorted (((walk env t).filter fun entry =>
        ¬entered env t entry.1 ∧ fileInfo env entry.1 entry.2 = none).map fun entry => joined entry.1) }

/-- The candidates `git check-ignore` names. -/
def ignoredOf (t : Tree) (candidates : List Text) : Except String (List Text) :=
  if candidates = [] then .ok []
  else do
    let verdict ← env.checkIgnore t
    .ok (candidates.filter verdict)

/-! ### Captures -/

def stemOf (relative : Text) : Option Text :=
  (suffixes.find? fun suffix => suffix <:+ env.lower relative).map fun suffix =>
    relative.take (relative.length - suffix.length)

/-- `str(d.get(key, ''))`. -/
def strOf (d : Text → Option Value) (key : String) : Text := ((d key.toList).map Value.str).getD []

/-- `OM\d+\b` at the front. -/
def portFront : Text → Bool
  | o :: m :: text =>
    (o = 'O' ∨ o = 'o') ∧ (m = 'M' ∨ m = 'm') ∧ text.takeWhile env.isDigit ≠ [] ∧
      ((text.dropWhile env.isDigit).head?.map env.isWord).getD false = false
  | _ => false

/-- `re.search(r'\bCOM\d+\b', text, re.I)`, from a place on; `before` is the character in front of it. -/
def namesPort : Option Char → Text → Bool
  | _, [] => false
  | before, c :: text =>
    ((before.map env.isWord).getD false = false ∧ (c = 'C' ∨ c = 'c') ∧ portFront env text = true) ∨
      namesPort (some c) text = true

def synthetic (stem : Text) (d : Text → Option Value) : Bool :=
  baseName stem = "SYNTHETIC".toList ∧
    (∃ v ∈ (d "firmware_sha256".toList).toList, v.isText = true ∧
      (v.str = "SYNTHETIC_NOT_DEVICE".toList ∨ v.str = "SYNTHETIC_NO_HARDWARE".toList)) ∧
    "SYNTHETIC".toList <+: strOf d "initial_gap" ∧ "SYNTHETIC".toList <+: strOf d "current_limit_setting" ∧
    ∀ key ∈ ["port", "serial_port", "bus"], namesPort env none (strOf d key) = false

def provenSynthetic (t : Tree) (stem : Text) : Bool :=
  match (t.read (partsOf (stem ++ ".metadata.json".toList))).bind env.loads with
  | some d => synthetic env stem d
  | none => false

structure Captures where
  keepDirs : List Text
  audit : List (Text × Text)

def captureAudit (t : Tree) (files : List (Text × Info)) : Captures :=
  let families := sorted ((files.filterMap fun file => stemOf env file.1).dedup)
  let named := (files.filter fun file =>
    env.lower (baseName file.1) ∈ ["metadata.json".toList, "report.txt".toList]).map fun file => parentOf file.1
  let uncertain := (families.filter fun stem => ¬provenSynthetic env t stem).map parentOf
  { keepDirs := sorted (named ++ uncertain).dedup
    audit := families.map fun stem =>
      (stem, (if provenSynthetic env t stem then "SYNTHETIC" else "PHYSICAL_OR_UNCERTAIN_KEEP").toList) }

/-! ### Literal references -/

/-- `[A-Za-z0-9_./\\-]`. -/
def isPathChar (c : Char) : Bool :=
  ('A' ≤ c ∧ c ≤ 'Z') ∨ ('a' ≤ c ∧ c ≤ 'z') ∨ ('0' ≤ c ∧ c ≤ '9') ∨ c ∈ ['_', '.', '/', '\\', '-']

/-- The match of `output[/\\][A-Za-z0-9_./\\-]+` at the front of a text. -/
def matchFront (source : Text) : Option Text :=
  if "output".toList <+: source then
    match source.drop 6 with
    | separator :: rest =>
      if (separator = '/' ∨ separator = '\\') ∧ rest.takeWhile isPathChar ≠ [] then
        some ("output".toList ++ separator :: rest.takeWhile isPathChar)
      else none
    | [] => none
  else none

/-- `re.findall`: from the left, each match behind the one before; `skip` characters are in a match. -/
def findall : ℕ → Text → List Text
  | _, [] => []
  | skip + 1, _ :: source => findall skip source
  | 0, c :: source =>
    match matchFront (c :: source) with
    | some found => found :: findall (found.length - 1) source
    | none => findall 0 source

def slashed (literal : Text) : Text := literal.map fun c => if c = '\\' then '/' else c

/-- `Path(relative).suffix`. -/
def suffixOf (relative : Text) : Text :=
  let name := baseName relative
  let tail := name.reverse.takeWhile (· ≠ '.')
  if '.' ∈ name ∧ tail ≠ [] ∧ tail.length + 1 < name.length then '.' :: tail.reverse else []

def isSource (relative : Text) : Bool :=
  ("tools/".toList <+: relative ∨ "Tests/".toList <+: relative) ∧
    suffixOf relative ∈ [".py".toList, ".ps1".toList, ".c".toList, ".h".toList]

def sourceText (t : Tree) (relative : Text) : Except String Text :=
  match t.read (partsOf relative) with
  | some bytes => .ok (env.decode bytes)
  | none => .error (message "No such file: " relative)

def explicitInputs (t : Tree) (tracked : List Text) (files : List (Text × Info)) : Except String (List Text) := do
  let sources ← (tracked.filter fun relative => isSource relative).mapM (sourceText env t)
  .ok (sorted (((sources.flatMap (findall 0)).map slashed).filter fun path => path ∈ files.map Prod.fst).dedup)

/-! ### The plan -/

structure Row where
  path : Text
  bytes : ℕ
  sha256 : Text
  reason : String
  deriving DecidableEq

structure Plan where
  version : ℤ
  root : Text
  head : Text
  gitStatus : Text
  keep : List Text
  beforeFiles : ℕ
  beforeBytes : ℕ
  removedFiles : ℕ
  removedBytes : ℕ
  expectedAfterFiles : ℕ
  expectedAfterBytes : ℕ
  directoryGroups : List (Text × ℕ × ℕ)
  captureAudit : List (Text × Text)
  explicitInputs : List Text
  skipped : List Text
  entries : List Row
  retained : List Row
  directories : List Text
  trackedSha256 : List (Text × Text)
  deriving DecidableEq

def fieldNames : List Text :=
  ["field".toList, "captures".toList, "physical".toList, "physical_captures".toList]

def isField (parts : Path) : Bool := parts.any fun part => env.lower part ∈ fieldNames

def atOrBelow (paths : List Text) (relative : Text) : Bool :=
  paths.any fun p => relative = p ∨ (p ++ ['/']) <+: relative

structure Verdicts where
  tracked : List Text
  ignored : List Text
  references : List Text
  guarded : List Text

def reasonOf (v : Verdicts) (relative : Text) : Option String :=
  if env.lower relative ∈ v.tracked.map env.lower then some "GIT_TRACKED"
  else if relative ∉ v.ignored then some "NOT_IGNORED"
  else if relative ∈ v.references then some "EXPLICIT_TEST_TOOL_INPUT"
  else if isField env (partsOf relative).tail.dropLast then some "FIELD_DIRECTORY"
  else if atOrBelow v.guarded relative then some "PHYSICAL_UNCERTAIN_CAPTURE_OR_EXPLICIT_KEEP"
  else none

def rowOf (v : Verdicts) (file : Text × Info) : Row :=
  ⟨file.1, file.2.bytes, file.2.sha256, (reasonOf env v file.1).getD "IGNORED_GENERATED_OUTPUT"⟩

/-- `groups[group]` with one more row. -/
def addToGroup (row : Row) : List (Text × ℕ × ℕ) → List (Text × ℕ × ℕ)
  | [] => [(joined ((row.path.splitOn '/').take 2), 1, row.bytes)]
  | group :: groups =>
    if group.1 = joined ((row.path.splitOn '/').take 2) then (group.1, group.2.1 + 1, group.2.2 + row.bytes) :: groups
    else group :: addToGroup row groups

def trackedSha (t : Tree) (relative : Text) : Except String (Text × Text) :=
  match t.read (partsOf relative) with
  | some bytes => .ok (relative, env.sha bytes)
  | none => .error (message "Tracked file missing: " relative)

def rowLE (a b : Text × Info) : Bool := textLE a.1 b.1

def snapshot (t : Tree) (keep : List Text) : Except String Plan := do
  let isRoot ← env.isCheckout t
  require (isRoot = true) "Root must be the Git checkout"
  let listed ← env.lsFiles t
  let tracked := sorted listed
  let found ← inventory env t
  let candidates := found.files.map Prod.fst ++ found.directories.map (· ++ ['/'])
  let ignored ← ignoredOf env t candidates
  let captures := captureAudit env t found.files
  let references ← explicitInputs env t tracked found.files
  let keep := sorted keep.dedup
  keep.forM fun p => do
    let _ ← safeOutput env t p
    .ok ()
  let v : Verdicts := ⟨tracked, ignored, references, captures.keepDirs ++ keep⟩
  let files := sortedBy rowLE found.files
  let entries := (files.filter fun file => (reasonOf env v file.1).isNone).map (rowOf env v)
  let retained := (files.filter fun file => (reasonOf env v file.1).isSome).map (rowOf env v)
  let trackedSha256 ← tracked.mapM (trackedSha env t)
  let head ← env.head t
  let status ← env.status t
  .ok
    { version := 1
      root := env.root
      head := head
      gitStatus := status
      keep := keep
      beforeFiles := found.files.length
      beforeBytes := (found.files.map fun file => file.2.bytes).sum
      removedFiles := entries.length
      removedBytes := (entries.map Row.bytes).sum
      expectedAfterFiles := retained.length
      expectedAfterBytes := (retained.map Row.bytes).sum
      directoryGroups := entries.foldl (fun groups row => addToGroup row groups) []
      captureAudit := captures.audit
      explicitInputs := references
      skipped := found.protectedTrees
      entries := entries
      retained := retained
      directories := sorted (found.directories.filter fun p => p ++ ['/'] ∈ ignored ∧
        ¬atOrBelow v.guarded p ∧ ¬isField env (partsOf p).tail)
      trackedSha256 := trackedSha256 }

/-! ### The removal -/

abbrev Removal (α : Type) := Except (Tree × String) α

def raising {α : Type} (t : Tree) : Except String α → Removal α
  | .ok a => .ok a
  | .error m => .error (t, m)

/-- `p.unlink()`, and once more behind `os.chmod` where a read-only file of a disposable clone is refused. -/
def unlink (t : Tree) (p : Path) : Removal Tree :=
  match t.at p with
  | some (.file bytes readOnly) =>
    if env.refuses p (.file bytes readOnly) = false then .ok (t.remove p)
    else if ".git".toList ∈ env.rootParts ++ p ∧ readOnly = true then
      if env.refuses p (.file bytes false) = false then .ok (t.remove p)
      else .error (t.put p (.file bytes false), "PermissionError")
    else .error (t, "Unexpected deletion permission failure")
  | _ => .error (t, "OSError")

def removeFile (t : Tree) (row : Row) : Removal Tree := do
  let p ← raising t (safeOutput env t row.path)
  raising t (require ((t.read p).map env.sha = some row.sha256) (message "Artifact changed during apply: " row.path))
  unlink env t p

structure Cleared where
  tree : Tree
  removedDirs : List Text

def removeDirectory (c : Cleared) (relative : Text) : Removal Cleared := do
  let p ← raising c.tree (safeOutput env c.tree relative)
  if c.tree.at p = some .dir ∧ c.tree.children p = [] then
    if env.refuses p .dir = false then .ok ⟨c.tree.remove p, c.removedDirs ++ [relative]⟩
    else .error (c.tree, "OSError")
  else .ok c

def deeperLE (a b : Text) : Bool :=
  b.count '/' < a.count '/' ∨ (b.count '/' = a.count '/' ∧ textLE a b = true)

structure Receipt where
  tree : Tree
  head : Text
  gitStatus : Text
  beforeSize : ℕ
  afterSize : ℕ
  removedFiles : ℕ
  removedBytes : ℕ
  removedDirectories : List Text

def checkAfter (plan : Plan) (c : Cleared) : Except String Receipt := do
  plan.trackedSha256.forM fun entry =>
    require ((c.tree.read (partsOf entry.1)).map env.sha = some entry.2) (message "Tracked bytes changed: " entry.1)
  let after ← inventory env c.tree
  require (sortedBy rowLE after.files = sortedBy rowLE (plan.retained.map fun row => (row.path, ⟨row.bytes, row.sha256⟩)))
    "Retained output differs"
  let status ← env.status c.tree
  require (status = plan.gitStatus) "Git status changed during cleanup"
  .ok ⟨c.tree, plan.head, status, plan.beforeBytes, (after.files.map fun file => file.2.bytes).sum, plan.removedFiles,
    plan.removedBytes, c.removedDirs⟩

/-- The checks in front of the first deletion. `active` are the tasks the idle check found. -/
def admitPlan (t : Tree) (plan : Plan) (active : Except String (List Text)) : Except String Unit := do
  require (plan.version = 1) "Unsupported inventory"
  let current ← snapshot env t plan.keep
  require (current = plan) "Inventory changed since dry-run; no files deleted"
  let tasks ← active
  require (tasks = []) "Active build/test/capture tasks; no cleanup: "

/-- `apply_plan`. -/
def applyPlan (t : Tree) (plan : Plan) (active : Except String (List Text)) : Removal Receipt := do
  raising t (admitPlan env t plan active)
  let emptied ← plan.entries.foldlM (removeFile env) t
  let c ← (sortedBy deeperLE plan.directories).foldlM (removeDirectory env) ⟨emptied, []⟩
  raising c.tree (checkAfter env plan c)

end Sd700.Tools.Cleanup
