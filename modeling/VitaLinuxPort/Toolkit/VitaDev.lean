import VitaLinuxPort.Lib.Text
import VitaLinuxPort.Machine

/-!
# Building programs on the target

`toolkit/bin/vita-dev`: its actions `build` and `project`, from their arguments to the last call of the
compiler. The files, the directories and the compiler are oracles. A failure has the code that `--machine`
prints and the message that goes to the error output otherwise.
-/

namespace VitaLinuxPort

namespace VitaDev

/-- How an action stops: with its usage, with a failure, or at a command that fails (`set -e`). -/
inductive Stop where
  | usage
  | help
  | failed (code message : CString)
  | aborted
  deriving DecidableEq

/-- What `pwd` prints. -/
structure Directory where
  text : CString
  absolute : text.head? = some '/'

/-- The directories are those that `cd` enters; `sourcedCc` is `CC` after the environment file, and
`commandPath` what `command -v` prints. `compile` and `produced` answer for a call of the compiler and for
what it leaves. -/
structure World where
  envFile : CString
  ccOverride : CString
  envWorkdir : CString
  envSource : CString
  isFile : CString → Bool
  isReadable : CString → Bool
  isExecutable : CString → Bool
  content : CString → CString
  makeDir : CString → Bool
  writes : CString → Bool
  enter : CString → Option Directory
  enterDirname : CString → Option Directory
  sourcedCc : Option CString
  commandPath : CString → CString
  compile : (cc : CString) → (inputs : List CString) → (output : CString) → Bool
  produced : CString → Bool

def require (condition : Prop) [Decidable condition] (stop : Stop) : Except Stop Unit :=
  if condition then .ok () else .error stop

/-- `$(cd … && pwd)`. -/
def directory (entered : Option Directory) : Except Stop CString :=
  match entered with
  | none => .error .aborted
  | some dir => .ok (Text.dropTrailing '\n' dir.text)

section Actions

variable (w : World)

def loadCompiler : Except Stop CString := do
  let cc ←
    if w.ccOverride ≠ [] then .ok w.ccOverride
    else do
      require (w.isFile w.envFile) (.failed "missing_toolchain_env".toList
        ("missing toolchain environment: ".toList ++ w.envFile))
      match w.sourcedCc with
      | none => .error .aborted
      | some cc => .ok (if cc = [] then "cc".toList else cc)
  require (w.commandPath cc ≠ [])
    (.failed "compiler_not_found".toList ("compiler not found: ".toList ++ cc))
  require (w.isExecutable (w.commandPath cc)) (.failed "compiler_not_executable".toList
    ("compiler is not executable: ".toList ++ w.commandPath cc))
  return cc

/-- `SOURCE_PATH`. -/
def absoluteSource (source : CString) : Except Stop CString := do
  require (w.isFile source)
    (.failed "source_missing".toList ("source file not found: ".toList ++ source))
  require (w.isReadable source)
    (.failed "source_unreadable".toList ("source file is not readable: ".toList ++ source))
  let sourceDir ← directory (w.enterDirname source)
  return sourceDir ++ '/' :: Text.afterLast '/' source

/-- `WORKDIR`. -/
def prepareWorkdir (workdir : CString) : Except Stop CString := do
  require (workdir ≠ [])
    (.failed "workdir_required".toList "build requires --workdir DIR".toList)
  require (w.makeDir workdir)
    (.failed "workdir_unavailable".toList ("cannot create workdir: ".toList ++ workdir))
  directory (w.enter workdir)

/-! ### The manifest of a project -/

structure Manifest where
  sources : CString
  output : CString
  expected : CString
  deriving DecidableEq

/-- The body of the loop over the lines. -/
def manifestLine (dir : CString) (m : Manifest) (line : CString) : Except Stop Manifest :=
  if line = [] ∨ line.head? = some '#' then .ok m
  else if '=' ∉ line then
    .error (.failed "manifest_malformed".toList "manifest lines must use key=value".toList)
  else
    let key := line.takeWhile (· ≠ '=')
    let value := (line.dropWhile (· ≠ '=')).tail
    if key = "source".toList then
      if value = [] then
        .error (.failed "manifest_empty_source".toList "manifest source cannot be empty".toList)
      else
        let resolved := if value.head? = some '/' then value else dir ++ '/' :: value
        .ok { m with sources := m.sources ++ resolved ++ ['\n'] }
    else if key = "output".toList then
      if value = [] then
        .error (.failed "manifest_empty_output".toList "manifest output cannot be empty".toList)
      else if m.output ≠ [] then
        .error (.failed "manifest_duplicate_output".toList
          "manifest output may appear only once".toList)
      else .ok { m with output := value }
    else if key = "expect_status".toList then
      if value = [] ∨ ¬ value.all Char.isDigit then
        .error (.failed "invalid_expected_status".toList
          "manifest expected status must be a non-negative integer".toList)
      else if m.expected ≠ [] then
        .error (.failed "manifest_duplicate_expect".toList
          "manifest expect_status may appear only once".toList)
      else .ok { m with expected := value }
    else
      .error (.failed "manifest_unknown_key".toList ("unknown manifest key: ".toList ++ key))

def loadManifest (manifest : CString) : Except Stop Manifest := do
  let dir ← directory (w.enterDirname manifest)
  require (w.isFile manifest)
    (.failed "manifest_missing".toList ("manifest file not found: ".toList ++ manifest))
  (Text.lines '\n' (w.content manifest)).foldlM (manifestLine dir)
    { sources := [], output := [], expected := [] }

/-! ### Arguments -/

/-- The variables that the arguments set. `sources` is the one source of `build` and the lines of
`SOURCE_ARGS` of `project`. -/
structure Options where
  machine : Bool
  workdir : CString
  output : CString
  manifest : CString
  sources : CString
  deriving DecidableEq

inductive Action where
  | build
  | project
  deriving DecidableEq

/-- An argument that is no option. -/
def Action.source (action : Action) (o : Options) (arg : CString) : Except Stop Options :=
  match action with
  | .build => if o.sources = [] then .ok { o with sources := arg } else .error .usage
  | .project => .ok { o with sources := o.sources ++ arg ++ ['\n'] }

/-- The loop over the arguments; only `project` has a manifest. -/
def parseArgs (action : Action) (o : Options) : List CString → Except Stop Options
  | [] => .ok o
  | arg :: rest =>
      if arg = "--machine".toList then parseArgs action { o with machine := true } rest
      else if arg = "--help".toList ∨ arg = "-h".toList then .error .help
      else if arg.head? ≠ some '-' then
        match action.source o arg with
        | .error stop => .error stop
        | .ok o => parseArgs action o rest
      else
        match rest with
        | [] => .error .usage
        | value :: rest =>
            if arg = "--workdir".toList then parseArgs action { o with workdir := value } rest
            else if arg = "--output".toList then parseArgs action { o with output := value } rest
            else if arg = "--manifest".toList ∧ action = .project then
              parseArgs action { o with manifest := value } rest
            else .error .usage

/-! ### The output -/

/-- `OUTPUT` once `WORKDIR` stands before it, `named` being the name for an output that is not given. -/
def placeOutput (workdir named output : CString) : CString :=
  if output = [] then workdir ++ '/' :: named
  else if output.head? ≠ some '/' then workdir ++ '/' :: output
  else output

/-- `"$WORKDIR"/*`. -/
def inWorkdir (workdir output : CString) : Except Stop Unit :=
  require (workdir ++ ['/'] <+: output) (.failed "output_outside_workdir".toList
    ("output must be inside workdir: ".toList ++ workdir))

/-- What the compiler is asked for in the end: `requested` is `OUTPUT` as it was given, and `sources` the
source or the lines of the source list. -/
structure Job where
  compiler : CString
  sources : CString
  workdir : CString
  named : CString
  requested : CString
  output : CString
  deriving DecidableEq

/-- The name of a source without its last suffix. -/
def stem (sourcePath : CString) : CString :=
  Text.beforeLast '.' (Text.afterLast '/' sourcePath)

def buildJob (args : List CString) : Except Stop Job := do
  let o ← parseArgs .build
    { machine := false, workdir := w.envWorkdir, output := [], manifest := [],
      sources := w.envSource } args
  require (o.sources ≠ []) .usage
  let compiler ← loadCompiler w
  let sourcePath ← absoluteSource w o.sources
  let workdir ← prepareWorkdir w o.workdir
  let output := placeOutput workdir (stem sourcePath) o.output
  inWorkdir workdir output
  return { compiler, sources := sourcePath, workdir, named := stem sourcePath,
           requested := o.output, output }

/-- `SOURCE_ARGS` and `OUTPUT` with what the manifest says. -/
def withManifest (o : Options) : Except Stop (CString × CString) :=
  if o.manifest = [] then .ok (o.sources, o.output)
  else do
    let m ← loadManifest w o.manifest
    require (o.sources = []) (.failed "manifest_mixed_sources".toList
      "manifest and command-line sources cannot be combined".toList)
    return (m.sources, if o.output ≠ [] then o.output else m.output)

def projectJob (args : List CString) : Except Stop Job := do
  let o ← parseArgs .project
    { machine := false, workdir := w.envWorkdir, output := [], manifest := [], sources := [] } args
  let (sources, requested) ← withManifest w o
  require (sources ≠ []) .usage
  let compiler ← loadCompiler w
  let workdir ← prepareWorkdir w o.workdir
  require (w.writes (workdir ++ "/.vita-dev-sources".toList)) .aborted
  let output := placeOutput workdir "app".toList requested
  inWorkdir workdir output
  return { compiler, sources, workdir, named := "app".toList, requested, output }

/-- What an action asks for, before any call of the compiler. -/
def job : Action → List CString → Except Stop Job
  | .build => buildJob w
  | .project => projectJob w

/-! ### The calls of the compiler -/

/-- The last call. -/
def finish (j : Job) (inputs : List CString) (failure : Stop) (leaves : CString) :
    Except Stop Job := do
  require (w.compile j.compiler inputs j.output) failure
  require (w.produced j.output)
    (.failed "output_not_executable".toList (leaves ++ j.output))
  return j

/-- The turn of the loop for a source: its object, which no earlier source has, goes to the list. -/
def compileSource (j : Job) (objects source : CString) : Except Stop CString := do
  let sourcePath ← absoluteSource w source
  let object := j.workdir ++ '/' :: stem sourcePath ++ ".o".toList
  require (∀ pattern ∈ object.splitOn '\n', ¬ (Text.terminatedLines '\n' objects).contains pattern)
    (.failed "object_collision".toList
      ("multiple sources produce the same object: ".toList ++ object))
  require (w.compile j.compiler ["-c".toList, sourcePath] object)
    (.failed "compile_failed".toList ("compiler failed for ".toList ++ sourcePath))
  require (w.produced object)
    (.failed "object_missing".toList ("compiler did not produce: ".toList ++ object))
  return objects ++ object ++ ['\n']

def build (args : List CString) : Except Stop Job := do
  let j ← buildJob w args
  finish w j [j.sources] (.failed "compile_failed".toList "compiler failed".toList)
    "compiler did not produce an executable: ".toList

def project (args : List CString) : Except Stop Job := do
  let j ← projectJob w args
  require (w.writes (j.workdir ++ "/.vita-dev-objects".toList)) .aborted
  let objects ← (Text.terminatedLines '\n' j.sources).foldlM (compileSource w j) []
  finish w j (Text.terminatedLines '\n' objects)
    (.failed "link_failed".toList "linker failed".toList)
    "linker did not produce an executable: ".toList

def run : Action → List CString → Except Stop Job
  | .build => build w
  | .project => project w

end Actions

end VitaDev

end VitaLinuxPort
