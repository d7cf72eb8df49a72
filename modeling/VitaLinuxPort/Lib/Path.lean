import VitaLinuxPort.Lib.Text

/-!
# Paths

A path is read as the names between its slashes. An empty name and `.` stay where they are; `..` goes
up, and from the root it goes nowhere. Two spellings lead to the same place when the same names are left
of them.
-/

namespace VitaLinuxPort

namespace Path

/-- The name that stands for the directory above. -/
def parent : List Char := ['.', '.']

/-- The names of a path that lead somewhere. -/
def components (path : List Char) : List (List Char) :=
  (path.splitOn '/').filter fun name => name ≠ [] ∧ name ≠ ['.']

/-- A path without repeated slashes, `.` and trailing slashes. -/
def normalize (path : List Char) : List Char :=
  (if path.head? = some '/' then ['/'] else []) ++ ['/'].intercalate (components path)

/-! ### Spelling -/

theorem mem_components {path name : List Char} :
    name ∈ components path ↔ name ∈ path.splitOn '/' ∧ name ≠ [] ∧ name ≠ ['.'] := by
  simp [components]

theorem infix_of_mem_components {path name : List Char} (h : name ∈ components path) :
    name <:+: path :=
  Text.infix_of_mem_splitOn (mem_components.mp h).1

theorem components_append_slash (path rest : List Char) :
    components (path ++ '/' :: rest) = components path ++ components rest := by
  rw [components, List.splitOn_append_cons_self, List.filter_append]
  rfl

theorem components_cons_slash (path : List Char) : components ('/' :: path) = components path :=
  components_append_slash [] path

/-- Names that lead somewhere are read back from the path they make. -/
theorem components_intercalate {names : List (List Char)}
    (h : ∀ name ∈ names, '/' ∉ name ∧ name ≠ [] ∧ name ≠ ['.']) :
    components (['/'].intercalate names) = names := by
  by_cases hnil : names = []
  · subst hnil
    rfl
  rw [components, List.splitOn_intercalate '/' (fun name hname => (h name hname).1) hnil,
    List.filter_eq_self]
  intro name hname
  simpa using (h name hname).2

theorem components_normalize (path : List Char) : components (normalize path) = components path := by
  have hnames : components (['/'].intercalate (components path)) = components path := by
    refine components_intercalate fun name hname => ?_
    obtain ⟨hsplit, hnames⟩ := mem_components.mp hname
    exact ⟨Text.notMem_of_mem_splitOn hsplit, hnames⟩
  rw [normalize]
  split_ifs with habsolute
  · rw [List.singleton_append, components_cons_slash, hnames]
  · rw [List.nil_append, hnames]

theorem mem_of_mem_normalize {path : List Char} {c : Char} (h : c ∈ normalize path) :
    c = '/' ∨ c ∈ path := by
  rw [normalize, List.mem_append] at h
  rcases h with hslash | hnames
  · split_ifs at hslash with habsolute
    · exact .inl (List.mem_singleton.mp hslash)
    · simp at hslash
  · refine (Text.mem_of_mem_intercalate hnames).imp_right ?_
    rintro ⟨name, hname, hc⟩
    exact (infix_of_mem_components hname).subset hc

theorem head?_normalize {path : List Char} (h : path.head? = some '/') :
    (normalize path).head? = some '/' := by
  rw [normalize, if_pos h]
  rfl

/-- Absolute paths are spelled the same way, normalized, where the same names are left of them. -/
theorem normalize_eq_iff {path other : List Char} (h : path.head? = some '/')
    (hother : other.head? = some '/') :
    normalize path = normalize other ↔ components path = components other := by
  constructor
  · intro heq
    rw [← components_normalize path, heq, components_normalize]
  · intro heq
    rw [normalize, normalize, if_pos h, if_pos hother, heq]

/-! ### Where a path leads -/

/-- The directories above a place, the last first, once a name is followed. -/
def follow (dirs : List (List Char)) (name : List Char) : List (List Char) :=
  if name = parent then dirs.tail else name :: dirs

/-- The names of the place that an absolute path leads to. -/
def resolve (path : List Char) : List (List Char) :=
  ((components path).foldl follow []).reverse

/-- The path leads to a place below the directory. -/
def StrictlyInside (dir path : List Char) : Prop :=
  resolve dir <+: resolve path ∧ resolve path ≠ resolve dir

instance (dir path : List Char) : Decidable (StrictlyInside dir path) :=
  inferInstanceAs (Decidable (_ ∧ _))

/-- What is left of names that are followed from an unknown place: how far they go up, and the names that
they go down from there, the last first. -/
structure Climb where
  ups : Nat
  names : List (List Char)
  deriving DecidableEq

def Climb.follow (c : Climb) (name : List Char) : Climb :=
  if name = parent then
    match c.names with
    | [] => { c with ups := c.ups + 1 }
    | _ :: names => { c with names }
  else { c with names := name :: c.names }

def climb (names : List (List Char)) : Climb := names.foldl Climb.follow { ups := 0, names := [] }

theorem follow_climb (c : Climb) (dirs : List (List Char)) (name : List Char) :
    follow (c.names ++ dirs.drop c.ups) name =
      (c.follow name).names ++ dirs.drop (c.follow name).ups := by
  unfold follow Climb.follow
  split_ifs with hparent
  · cases c.names with
    | nil => simp
    | cons first names => rfl
  · rfl

theorem foldl_follow (dirs names : List (List Char)) :
    names.foldl follow dirs = (climb names).names ++ dirs.drop (climb names).ups := by
  have hfollow : ∀ c : Climb, names.foldl follow (c.names ++ dirs.drop c.ups) =
      (names.foldl Climb.follow c).names ++ dirs.drop (names.foldl Climb.follow c).ups := by
    induction names with
    | nil => intro c; rfl
    | cons name names ih =>
        intro c
        rw [List.foldl_cons, List.foldl_cons, follow_climb, ih]
  exact hfollow { ups := 0, names := [] }

/-- Names without `..` go down only. -/
theorem climb_eq_of_parent_notMem {names : List (List Char)} (h : parent ∉ names) :
    climb names = { ups := 0, names := names.reverse } := by
  have hfollow : ∀ c : Climb, names.foldl Climb.follow c =
      { c with names := names.reverse ++ c.names } := by
    induction names with
    | nil => intro c; rfl
    | cons name names ih =>
        intro c
        rw [List.mem_cons, not_or] at h
        rw [List.foldl_cons, ih h.2, Climb.follow, if_neg (Ne.symm h.1)]
        simp
  rw [climb, hfollow, List.append_nil]

theorem resolve_append_slash (dir rest : List Char) :
    resolve (dir ++ '/' :: rest) =
      (resolve dir).take ((resolve dir).length - (climb (components rest)).ups) ++
        (climb (components rest)).names.reverse := by
  have hdirs : (components dir).foldl follow [] = (resolve dir).reverse := by
    rw [resolve, List.reverse_reverse]
  rw [resolve, components_append_slash, List.foldl_append, hdirs, foldl_follow, List.reverse_append,
    List.drop_reverse, List.reverse_reverse]

/-- The names that a rest of a path climbs out of. -/
def left (dir rest : List Char) : List (List Char) :=
  (resolve dir).drop ((resolve dir).length - (climb (components rest)).ups)

/-- A path that goes on from a directory leads to a place below it exactly where it goes down again the
names that it climbed out of, and further. -/
theorem strictlyInside_append_iff (dir rest : List Char) :
    StrictlyInside dir (dir ++ '/' :: rest) ↔
      left dir rest <+: (climb (components rest)).names.reverse ∧
        (climb (components rest)).names.reverse ≠ left dir rest := by
  rw [StrictlyInside, resolve_append_slash, left]
  generalize (resolve dir).length - (climb (components rest)).ups = k
  generalize (climb (components rest)).names.reverse = names
  generalize resolve dir = dirs
  have hprefix : dirs.drop k <+: names ↔ dirs <+: dirs.take k ++ names := by
    rw [← List.prefix_append_right_inj (dirs.take k), List.take_append_drop]
  have heq : names = dirs.drop k ↔ dirs.take k ++ names = dirs := by
    rw [← List.append_right_inj (dirs.take k), List.take_append_drop]
  exact and_congr hprefix.symm (not_congr heq.symm)

end Path

end VitaLinuxPort
