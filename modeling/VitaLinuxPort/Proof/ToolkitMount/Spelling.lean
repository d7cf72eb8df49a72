import VitaLinuxPort.Lib.Path
import VitaLinuxPort.Toolkit.ToolkitMount

/-!
# The spellings of a mountpoint

The guard refuses the system directories by the text of the path, and the mount table is searched for that
text too. A system directory with a slash or a `.` more is accepted; and where the table lists the
normalized path, another spelling of it is not found. Both go right exactly for one text whose names are
not those of a system directory.
-/

namespace VitaLinuxPort

namespace ToolkitMount

/-- What the guard is there for: the path is absolute, stays below where it goes and ends in no system
directory. -/
structure Guarded (path : CString) : Prop where
  absolute : (Path.normalize path).head? = some '/'
  noParent : Path.parent ∉ Path.components (Path.normalize path)
  notSystem : Path.normalize path ∉ systemDirs

def Lists (table : List CString) (path : CString) : Prop := ∃ line ∈ table, field line 2 = path

/-- Two spellings of a path lead to the same answer wherever the path itself is listed. -/
def SameMountpoint (target other : CString) : Prop :=
  ∀ table, Lists table (Path.normalize target) →
    mountedSource table target = mountedSource table other

/-- The names of the path are not those of a system directory. -/
def NamesNoSystemDir (path : CString) : Prop :=
  Path.components path ∉ systemDirs.map Path.components

/-! ### What is accepted -/

theorem validPath_iff {path : CString} :
    validPath path = true ↔
      path.head? = some '/' ∧ ¬ ['.', '.'] <:+: path ∧ path.all allowed ∧ path ∉ systemDirs := by
  unfold validPath
  split_ifs with habsolute hpattern hsystem <;> grind

theorem parent_notMem_of_validPath {path : CString} (h : validPath path = true) :
    Path.parent ∉ Path.components path :=
  fun hmem => (validPath_iff.mp h).2.1 (Path.infix_of_mem_components hmem)

theorem blank_of_validPath {path : CString} (h : validPath path = true) {c : Char} (hc : c ∈ path) :
    blank c = false := by
  have hallowed : allowed c = true := List.all_eq_true.mp (validPath_iff.mp h).2.2.1 c hc
  by_contra hblank
  obtain rfl | rfl : c = ' ' ∨ c = '\t' := by
    simpa [blank, Classical.or_iff_not_imp_left] using hblank
  · simp [allowed] at hallowed
  · simp [allowed] at hallowed

theorem systemDirs_absolute {dir : CString} (h : dir ∈ systemDirs) :
    dir.head? = some '/' ∧ Path.normalize dir = dir := by
  revert dir
  decide

theorem normalize_mem_systemDirs_iff {path : CString} (h : path.head? = some '/') :
    Path.normalize path ∈ systemDirs ↔ Path.components path ∈ systemDirs.map Path.components := by
  rw [List.mem_map]
  constructor
  · intro hmem
    exact ⟨_, hmem, Path.components_normalize path⟩
  · rintro ⟨dir, hdir, hnames⟩
    obtain ⟨habsolute, hnormal⟩ := systemDirs_absolute hdir
    rwa [(Path.normalize_eq_iff h habsolute).mpr hnames.symm, hnormal]

/-- Of an accepted path only the last of the three is in doubt. -/
theorem guarded_iff {path : CString} (h : validPath path = true) :
    Guarded path ↔ NamesNoSystemDir path := by
  have habsolute := (validPath_iff.mp h).1
  rw [NamesNoSystemDir, ← normalize_mem_systemDirs_iff habsolute]
  constructor
  · exact Guarded.notSystem
  · intro hnot
    refine ⟨Path.head?_normalize habsolute, ?_, hnot⟩
    rw [Path.components_normalize]
    exact parent_notMem_of_validPath h

/-! ### The mount table -/

theorem mountedSource_cons (line : CString) (table : List CString) (target : CString) :
    mountedSource (line :: table) target =
      if field line 2 = target then some (field line 1 :: (mountedSource table target).getD [])
      else mountedSource table target := by
  unfold mountedSource
  split_ifs with hline
  · rw [List.filter_cons_of_pos (by simpa using hline)]
    cases h : table.filter fun line => field line 2 = target with
    | nil => simp
    | cons first rest => simp
  · rw [List.filter_cons_of_neg (by simpa using hline)]

theorem mountedSource_eq_none_iff {table : List CString} {target : CString} :
    mountedSource table target = none ↔ ¬ Lists table target := by
  induction table with
  | nil => simp [mountedSource, Lists]
  | cons line table ih =>
      rw [mountedSource_cons]
      split_ifs with hline
      · simp [Lists, hline]
      · rw [ih]
        simp [Lists, hline]

/-- A line that lists a source at a place. -/
def listing (source place : CString) : CString := source ++ ' ' :: place

theorem words_listing {source place : CString} (hsource : source ≠ [])
    (hsourceBlank : ∀ c ∈ source, blank c = false) (hplace : place ≠ [])
    (hplaceBlank : ∀ c ∈ place, blank c = false) :
    Text.words blank (listing source place) = [source, place] := by
  rw [listing, Text.words_append_cons place rfl hsource hsourceBlank,
    Text.words_eq_singleton hplace hplaceBlank]

theorem mountedSource_listing_cons {source place : CString} (hsource : source ≠ [])
    (hsourceBlank : ∀ c ∈ source, blank c = false) (hplace : place ≠ [])
    (hplaceBlank : ∀ c ∈ place, blank c = false) (table : List CString) (target : CString) :
    mountedSource (listing source place :: table) target =
      if place = target then some (source :: (mountedSource table target).getD [])
      else mountedSource table target := by
  rw [mountedSource_cons, field, field, words_listing hsource hsourceBlank hplace hplaceBlank]
  rfl

theorem blank_of_mem_normalize {path : CString} (h : validPath path = true) :
    ∀ c ∈ Path.normalize path, blank c = false := by
  intro c hc
  rcases Path.mem_of_mem_normalize hc with rfl | hc
  · rfl
  · exact blank_of_validPath h hc

theorem ne_nil_of_head? {path : CString} (h : path.head? = some '/') : path ≠ [] := by
  rintro rfl
  simp at h

/-- The table that lists the normalized path and beside it another spelling, with another source, gives
every other text another answer. -/
theorem eq_of_sameMountpoint_of_ne {path other : CString} (hpath : validPath path = true)
    (hne : path ≠ Path.normalize path)
    (hsame : ∀ table, Lists table (Path.normalize path) →
      mountedSource table path = mountedSource table other) :
    path = other := by
  have habsolute := (validPath_iff.mp hpath).1
  have hnormal : Path.normalize path ≠ [] := ne_nil_of_head? (Path.head?_normalize habsolute)
  have hcons := @mountedSource_listing_cons ['a'] (Path.normalize path) (by simp) (by simp [blank])
    hnormal (blank_of_mem_normalize hpath) [listing ['b'] path]
  have hsingle := @mountedSource_listing_cons ['b'] path (by simp) (by simp [blank])
    (ne_nil_of_head? habsolute) (fun c => blank_of_validPath hpath) []
  have hlists : Lists [listing ['a'] (Path.normalize path), listing ['b'] path]
      (Path.normalize path) := by
    by_contra hnot
    rw [← mountedSource_eq_none_iff, hcons, if_pos rfl] at hnot
    simp at hnot
  have hanswer := hsame _ hlists
  rw [hcons, hcons, if_neg hne.symm, hsingle, if_pos rfl, hsingle] at hanswer
  by_contra hother
  rw [if_neg hother] at hanswer
  split_ifs at hanswer <;> simp [mountedSource] at hanswer

theorem sameMountpoint_iff {target other : CString} (htarget : validPath target = true)
    (hother : validPath other = true)
    (hnormal : Path.normalize target = Path.normalize other) :
    SameMountpoint target other ↔ target = other := by
  constructor
  · intro hsame
    by_cases hne : target = Path.normalize target
    · by_cases hne' : other = Path.normalize other
      · rw [hne, hnormal, ← hne']
      · refine (eq_of_sameMountpoint_of_ne hother hne' fun table hlists => ?_).symm
        exact (hsame table (hnormal ▸ hlists)).symm
    · exact eq_of_sameMountpoint_of_ne htarget hne hsame
  · rintro rfl table -
    rfl

/-- Both guards of two accepted targets that lead to the same place do what they are there for exactly
where the targets are one text and its names are not those of a system directory. -/
theorem guarded_sameMountpoint_iff {target other : CString} (htarget : validPath target = true)
    (hother : validPath other = true)
    (hnormal : Path.normalize target = Path.normalize other) :
    Guarded target ∧ Guarded other ∧ SameMountpoint target other ↔
      target = other ∧ NamesNoSystemDir target := by
  rw [guarded_iff htarget, guarded_iff hother, sameMountpoint_iff htarget hother hnormal]
  constructor
  · rintro ⟨hnames, -, heq⟩
    exact ⟨heq, hnames⟩
  · rintro ⟨rfl, hnames⟩
    exact ⟨hnames, hnames, rfl⟩

theorem guarded_sameMountpoint_opt_vita_toolkit :
    Guarded "/opt/vita-toolkit".toList ∧ Guarded "/opt/vita-toolkit".toList ∧
      SameMountpoint "/opt/vita-toolkit".toList "/opt/vita-toolkit".toList :=
  (guarded_sameMountpoint_iff (by decide) (by decide) rfl).mpr
    ⟨rfl, by unfold NamesNoSystemDir; decide⟩

/-- `/etc/` is accepted and is `/etc`; `/mnt/` is not found where the table lists `/mnt`. -/
theorem not_guarded_etc_not_sameMountpoint_mnt :
    validPath "/etc/".toList = true ∧ ¬ Guarded "/etc/".toList ∧
      validPath "/mnt".toList = true ∧ validPath "/mnt/".toList = true ∧
      Path.normalize "/mnt".toList = Path.normalize "/mnt/".toList ∧
      ¬ SameMountpoint "/mnt".toList "/mnt/".toList := by
  refine ⟨by decide, fun h => h.notSystem (by decide), by decide, by decide, by decide, fun h => ?_⟩
  have hlisted : Lists ["/dev/loop0 /mnt squashfs ro 0 0".toList] "/mnt".toList :=
    ⟨_, List.mem_singleton_self _, by decide⟩
  have hsame := h _ hlisted
  revert hsame
  decide

/-! ### What a run does -/

section Run

variable {w : World} {o : Options}

theorem unmountTarget_cases {table : List CString} (h : (unmountTarget w o table).1 ≠ []) :
    Lists table o.target ∧ (unmountTarget w o table).1 = [.unmount o.target] := by
  unfold unmountTarget at h ⊢
  cases hsources : mountedSource table o.target with
  | none => simp [hsources] at h
  | some sources =>
      refine ⟨?_, rfl⟩
      by_contra hnot
      simp [mountedSource_eq_none_iff.mpr hnot] at hsources

/-- A run gives a command only for an accepted target, and then it takes away what the table lists there
or mounts an accepted source where the table lists nothing. -/
theorem run_cases (h : (run w o).1 ≠ []) :
    validPath o.target = true ∧ ∃ table, w.mounts = some table ∧
      ((Lists table o.target ∧ (run w o).1 = [.unmount o.target]) ∨
        (¬ Lists table o.target ∧ validPath o.source = true ∧ run w o = mountSource w o)) := by
  unfold run at h ⊢
  by_cases htarget : validPath o.target = true
  swap
  · rw [if_pos (by simpa using htarget)] at h
    simp at h
  rw [if_neg (by simpa using htarget)] at h ⊢
  refine ⟨htarget, ?_⟩
  cases hmounts : w.mounts with
  | none => simp [hmounts] at h
  | some table =>
      refine ⟨table, rfl, ?_⟩
      simp only [hmounts] at h ⊢
      split_ifs at h ⊢ with hunmount hsource hvalid hfile hdevice
      · exact .inl (unmountTarget_cases h)
      · exact absurd rfl h
      · exact absurd rfl h
      · exact absurd rfl h
      · exact absurd rfl h
      · right
        cases hsources : mountedSource table o.target with
        | none => exact ⟨mountedSource_eq_none_iff.mp hsources, by simpa using hvalid, rfl⟩
        | some sources => simp [hsources] at h

theorem mountSource_cases {command : Command} (h : command ∈ (mountSource w o).1) :
    command = .makeDir o.target ∨ command = .mount (mountOptions o) o.source o.target := by
  unfold mountSource at h
  split_ifs at h with hdir hisDir hmount
  · exact .inl (List.mem_singleton.mp h)
  · exact .inl (List.mem_singleton.mp h)
  · simpa using h
  · simpa using h

/-- Whatever a run asks for, it asks for it at its target, which is accepted. -/
theorem target_of_mem_run {command : Command} (h : command ∈ (run w o).1) :
    command.target = o.target ∧ validPath o.target = true := by
  obtain ⟨hvalid, table, -, ⟨-, hrun⟩ | ⟨-, -, hrun⟩⟩ := run_cases (List.ne_nil_of_mem h)
  · rw [hrun, List.mem_singleton] at h
    exact ⟨h ▸ rfl, hvalid⟩
  · refine ⟨?_, hvalid⟩
    rw [hrun] at h
    obtain rfl | rfl := mountSource_cases h
    · rfl
    · rfl

/-- In a table of normalized paths no other spelling is listed: a target that is spelled otherwise is
mounted over what is there. -/
theorem not_lists_of_ne_normalize {table : List CString} {target : CString}
    (htable : ∀ line ∈ table, field line 2 = Path.normalize (field line 2))
    (hne : target ≠ Path.normalize target) : ¬ Lists table target := by
  rintro ⟨line, hline, rfl⟩
  exact hne (htable line hline)

end Run

end ToolkitMount

end VitaLinuxPort
