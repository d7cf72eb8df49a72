import VitaLinuxPort.Lib.Path
import VitaLinuxPort.Lib.Python
import VitaLinuxPort.Toolkit.VitaDev

/-!
# Where the output of a build goes

The output is refused by its text: it must begin with the work directory and a slash. What follows that
slash may still lead out, or nowhere. It leads below the work directory exactly where its names, once each
`..` has taken one away, go down again what they climbed out of, and further.
-/

namespace VitaLinuxPort

namespace VitaDev

open Python (bind_eq_ok)

variable {w : World} {action : Action} {args : List CString} {j : Job}

/-- What is asked for below the work directory: the name, a relative output, or what an absolute one has
after the work directory and a slash. -/
def Job.below (j : Job) : CString :=
  if j.requested = [] then j.named
  else if j.requested.head? ≠ some '/' then j.requested
  else j.requested.drop (j.workdir.length + 1)

/-- The names below the work directory lead back to where they climbed out of it, if they did, and
further down. -/
def Job.StaysBelow (j : Job) : Prop :=
  Path.left j.workdir j.below <+: (Path.climb (Path.components j.below)).names.reverse ∧
    (Path.climb (Path.components j.below)).names.reverse ≠ Path.left j.workdir j.below

theorem require_eq_ok {condition : Prop} [Decidable condition] {stop : Stop} {u : Unit} :
    require condition stop = .ok u ↔ condition := by
  unfold require
  split_ifs with h
  · exact iff_of_true rfl h
  · exact iff_of_false (fun h => nomatch h) h

/-- What every job has passed. -/
theorem job_spec (h : job w action args = .ok j) :
    j.output = placeOutput j.workdir j.named j.requested ∧ j.workdir ++ ['/'] <+: j.output := by
  cases action with
  | build =>
      obtain ⟨o, -, h⟩ := bind_eq_ok.mp h
      obtain ⟨-, -, h⟩ := bind_eq_ok.mp h
      obtain ⟨compiler, -, h⟩ := bind_eq_ok.mp h
      obtain ⟨sourcePath, -, h⟩ := bind_eq_ok.mp h
      obtain ⟨workdir, -, h⟩ := bind_eq_ok.mp h
      obtain ⟨_, hinside, h⟩ := bind_eq_ok.mp h
      obtain rfl := Except.ok.inj h
      exact ⟨rfl, require_eq_ok.mp hinside⟩
  | project =>
      obtain ⟨o, -, h⟩ := bind_eq_ok.mp h
      obtain ⟨⟨sources, requested⟩, -, h⟩ := bind_eq_ok.mp h
      obtain ⟨-, -, h⟩ := bind_eq_ok.mp h
      obtain ⟨compiler, -, h⟩ := bind_eq_ok.mp h
      obtain ⟨workdir, -, h⟩ := bind_eq_ok.mp h
      obtain ⟨-, -, h⟩ := bind_eq_ok.mp h
      obtain ⟨_, hinside, h⟩ := bind_eq_ok.mp h
      obtain rfl := Except.ok.inj h
      exact ⟨rfl, require_eq_ok.mp hinside⟩

theorem output_eq (h : job w action args = .ok j) : j.output = j.workdir ++ '/' :: j.below := by
  obtain ⟨houtput, hinside⟩ := job_spec h
  rw [Job.below]
  rw [houtput] at hinside ⊢
  unfold placeOutput at hinside ⊢
  split_ifs at hinside ⊢ with hnone hrelative
  · rfl
  · rfl
  · obtain ⟨rest, hrest⟩ := hinside
    rw [← hrest]
    simp

theorem finish_eq_ok {asked : Job} {inputs : List CString} {failure : Stop} {leaves : CString}
    (h : finish w asked inputs failure leaves = .ok j) :
    j = asked ∧ w.compile j.compiler inputs j.output = true := by
  obtain ⟨_, hcompile, h⟩ := bind_eq_ok.mp h
  obtain ⟨-, -, h⟩ := bind_eq_ok.mp h
  obtain rfl := Except.ok.inj h
  exact ⟨rfl, require_eq_ok.mp hcompile⟩

/-- An action that ends well has made the output of its job. -/
theorem job_of_run (h : run w action args = .ok j) :
    job w action args = .ok j ∧ ∃ inputs, w.compile j.compiler inputs j.output = true := by
  cases action with
  | build =>
      obtain ⟨asked, hjob, h⟩ := bind_eq_ok.mp h
      obtain ⟨rfl, hcompile⟩ := finish_eq_ok h
      exact ⟨hjob, _, hcompile⟩
  | project =>
      obtain ⟨asked, hjob, h⟩ := bind_eq_ok.mp h
      obtain ⟨-, -, h⟩ := bind_eq_ok.mp h
      obtain ⟨objects, -, h⟩ := bind_eq_ok.mp h
      obtain ⟨rfl, hcompile⟩ := finish_eq_ok h
      exact ⟨hjob, _, hcompile⟩

theorem output_strictlyInside_iff (h : job w action args = .ok j) :
    Path.StrictlyInside j.workdir j.output ↔ j.StaysBelow := by
  rw [output_eq h, Path.strictlyInside_append_iff]
  rfl

/-- A target on which all files are there, all calls succeed and a directory is where it is said to be. -/
def plainWorld : World where
  envFile := []
  ccOverride := "cc".toList
  envWorkdir := []
  envSource := []
  isFile := fun _ => true
  isReadable := fun _ => true
  isExecutable := fun _ => true
  content := fun _ => []
  makeDir := fun _ => true
  writes := fun _ => true
  enter := fun dir => if h : dir.head? = some '/' then some ⟨dir, h⟩ else none
  enterDirname := fun _ => some ⟨"/src".toList, rfl⟩
  sourcedCc := none
  commandPath := fun _ => "/usr/bin/cc".toList
  compile := fun _ _ _ => true
  produced := fun _ => true

/-- The job of `build` in `/work` for `main.c`. -/
def workJob (requested output : CString) : Job where
  compiler := "cc".toList
  sources := "/src/main.c".toList
  workdir := "/work".toList
  named := "main".toList
  requested
  output

theorem output_strictlyInside_bin_app :
    Path.StrictlyInside "/work".toList "/work/bin/app".toList :=
  (@output_strictlyInside_iff plainWorld .build
    ["--workdir".toList, "/work".toList, "--output".toList, "bin/app".toList, "main.c".toList]
    (workJob "bin/app".toList "/work/bin/app".toList) (by decide)).mpr
    (by unfold Job.StaysBelow; decide)

/-- The compiler is asked for `/work/../etc/app`. -/
theorem not_strictlyInside_parent :
    run plainWorld .build
        ["--workdir".toList, "/work".toList, "--output".toList, "../etc/app".toList,
          "main.c".toList] =
      .ok (workJob "../etc/app".toList "/work/../etc/app".toList) ∧
      ¬ Path.StrictlyInside "/work".toList "/work/../etc/app".toList := by
  decide

/-- Without `..` an output stays below the work directory where it has a name. -/
theorem staysBelow_iff_of_parent_notMem (h : Path.parent ∉ Path.components j.below) :
    j.StaysBelow ↔ Path.components j.below ≠ [] := by
  have hleft : Path.left j.workdir j.below = [] := by
    rw [Path.left, Path.climb_eq_of_parent_notMem h]
    simp
  rw [Job.StaysBelow, hleft, Path.climb_eq_of_parent_notMem h]
  simp

end VitaDev

end VitaLinuxPort
