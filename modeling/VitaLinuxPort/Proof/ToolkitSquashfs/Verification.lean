import VitaLinuxPort.Lib.Python
import VitaLinuxPort.Tools.ToolkitSquashfs

/-!
# What the verification of a toolchain tree vouches for

Each line that the loop reads names a path whose mode, size and hash it has compared, and the paths are
those that `find` prints, each once. So a verified tree is listed, compared and confined except for what
`find` does not print, what the shell or `sha256sum` gives otherwise than it is, and a line that `read`
does not see.
-/

namespace VitaLinuxPort

namespace ToolkitSquashfs

open Python (bind_eq_ok)

/-- The path is not absolute and has no `..` component. -/
def Confined (path : CString) : Prop :=
  path.head? ≠ some '/' ∧ "..".toList ∉ path.splitOn '/'

/-- The line of the manifest is about `rel`. -/
def lists (rel line : CString) : Bool :=
  (Text.words (· = ' ') line).head? = some rel

/-- One line of the manifest is about `rel`, and it has this mode with the size and the hash of `bytes`. -/
def Root.ListedAs (r : Root) (text rel mode bytes : CString) : Prop :=
  ∃ line, (Text.lines '\n' text).filter (lists rel) = [line] ∧
    Text.words (· = ' ') line = [rel, mode, Nat.toDigits 10 bytes.length, r.sha256 bytes]

/-- What a verified tree is to be: `text` is its manifest, and `listed` are the paths that were checked.
What is staged was checked, the manifest of the tree apart. -/
structure Vouched (r : Root) (text : CString) (listed : List CString) : Prop where
  files : ∀ rel mode content, (rel, .file mode content) ∈ r.tree.leaves → rel ≠ manifestName →
    r.ListedAs text rel mode content
  links : ∀ rel mode target, (rel, .symlink mode target) ∈ r.tree.leaves → rel ≠ manifestName →
    r.ListedAs text rel mode target
  present : ∀ line ∈ Text.lines '\n' text, ∀ rel, lists rel line = true →
    ∃ leaf, (rel, leaf) ∈ r.tree.leaves ∧ leaf.isFileOrLink = true
  paths : ∀ line ∈ Text.lines '\n' text, ∀ rel, lists rel line = true → Confined rel
  targets : ∀ rel mode target, (rel, .symlink mode target) ∈ r.tree.leaves → rel ≠ manifestName →
    Confined target
  staged : ∀ taken out, stageToolchain r taken = .ok out → ∀ rel ∈ out, rel ≠ manifestName →
    rel ∈ listed

/-- Besides the manifest there are files and links only, none of which is named like it; no link text ends
in a newline, `sha256sum` prints each path as it is, and what follows the last newline of the manifest is
about no other path. -/
structure NothingSlips (r : Root) (text : CString) : Prop where
  plain : ∀ rel leaf, (rel, leaf) ∈ r.tree.leaves → rel ≠ manifestName →
    leaf.isFileOrLink = true ∧ Text.afterLast '/' rel ≠ manifestName
  targets : ∀ rel mode target, (rel, .symlink mode target) ∈ r.tree.leaves → rel ≠ manifestName →
    target.getLast? ≠ some '\n'
  marks : ∀ rel mode content, (rel, .file mode content) ∈ r.tree.leaves → rel ≠ manifestName →
    r.marks (r.pathOf rel) = false
  tail : ∀ rel, lists rel (Text.afterLast '\n' text) = true → rel = manifestName

theorem confined_of_not_isUnsafe {path : CString} (h : isUnsafe path = false) : Confined path := by
  simp only [isUnsafe, decide_eq_false_iff_not, not_or] at h
  obtain ⟨hslash, hparent, hstart, hinside, hend⟩ := h
  refine ⟨hslash, fun hmem => ?_⟩
  obtain ⟨before, after, heq, hbefore, hafter⟩ := Text.exists_of_mem_splitOn hmem
  rcases hbefore with rfl | ⟨start, rfl⟩ <;> rcases hafter with rfl | ⟨rest, rfl⟩
  · exact hparent (by simpa using heq)
  · exact hstart ⟨rest, by simp [heq]⟩
  · exact hend ⟨start, by simp [heq]⟩
  · exact hinside ⟨start, rest, by simp [heq]⟩

/-! ### The loop over the lines -/

section Loop

variable {r : Root}

/-- What the loop has seen of a line with the path `rel`. -/
structure Checked (r : Root) (rel line : CString) : Prop where
  safe : isUnsafe rel = false
  columns : ∃ mode size hash, Text.words (· = ' ') line = [rel, mode, size, hash] ∧
    columns r rel (r.leafAt rel) = .ok (mode, size, hash)

theorem compare_eq_ok {rel : CString} {actual expected : CString × CString × CString} {u : Unit} :
    compare rel actual expected = .ok u ↔ actual = expected := by
  obtain ⟨mode, size, hash⟩ := actual
  unfold compare
  split_ifs <;> simp_all [Prod.ext_iff]

theorem verifyLine_spec {state final : CString × List CString} {line : CString}
    (h : verifyLine r state line = .ok final) :
    ∃ rel, final = (rel, state.2 ++ [rel]) ∧ Checked r rel line := by
  unfold verifyLine at h
  split at h
  next rel mode size hash hwords =>
    split_ifs at h with hunsafe hprevious
    rw [not_or] at hunsafe
    obtain ⟨actual, hactual, hrest⟩ := bind_eq_ok.mp h
    obtain ⟨_, hcompare, hfinal⟩ := bind_eq_ok.mp hrest
    rw [compare_eq_ok.mp hcompare] at hactual
    exact ⟨rel, (Except.ok.inj hfinal).symm, by simpa using hunsafe.1, mode, size, hash, hwords, hactual⟩
  next => cases h

theorem foldlM_verifyLine {lines : List CString} {state final : CString × List CString}
    (h : lines.foldlM (verifyLine r) state = .ok final) :
    ∃ rels, final.2 = state.2 ++ rels ∧ List.Forall₂ (Checked r) rels lines := by
  induction lines generalizing state with
  | nil =>
      obtain rfl := Except.ok.inj h
      exact ⟨[], (List.append_nil _).symm, .nil⟩
  | cons line lines ih =>
      rw [List.foldlM_cons] at h
      obtain ⟨next, hnext, h⟩ := bind_eq_ok.mp h
      obtain ⟨rel, rfl, hchecked⟩ := verifyLine_spec hnext
      obtain ⟨rels, hfinal, hrels⟩ := ih h
      exact ⟨rel :: rels, by simpa using hfinal, .cons hchecked hrels⟩

theorem verifyToolchain_spec {listed : List CString} (h : verifyToolchain r = .ok listed) :
    ∃ text, r.manifest = some text ∧ listed = actual r ∧
      List.Forall₂ (Checked r) listed (Text.terminatedLines '\n' text) := by
  unfold verifyToolchain at h
  split_ifs at h with hdir
  split at h
  next => cases h
  next text htext =>
    split at h
    next => cases h
    next =>
      obtain ⟨⟨previous, rels⟩, hloop, h⟩ := bind_eq_ok.mp h
      dsimp only at h
      split_ifs at h with hsorted hactual hforbidden
      obtain rfl := Except.ok.inj h
      obtain ⟨rels', hrels, hchecked⟩ := foldlM_verifyLine hloop
      obtain rfl : rels = rels' := by simpa using hrels
      exact ⟨text, htext, by simpa using hactual, hchecked⟩

theorem Checked.lists_iff {rel line : CString} (h : Checked r rel line) (other : CString) :
    lists other line = true ↔ other = rel := by
  obtain ⟨mode, size, hash, hwords, -⟩ := h.columns
  simp [lists, hwords, eq_comm]

theorem filter_lists_eq_nil {rels lines : List CString} (h : List.Forall₂ (Checked r) rels lines)
    {rel : CString} (hrel : rel ∉ rels) : lines.filter (lists rel) = [] := by
  induction h with
  | nil => rfl
  | cons hchecked _ ih =>
      rw [List.mem_cons, not_or] at hrel
      rw [List.filter_cons_of_neg (by simpa [hchecked.lists_iff] using hrel.1), ih hrel.2]

/-- A path that was listed once is on one line. -/
theorem filter_lists {rels lines : List CString} (h : List.Forall₂ (Checked r) rels lines)
    (hnodup : rels.Nodup) {rel : CString} (hrel : rel ∈ rels) :
    ∃ line, lines.filter (lists rel) = [line] ∧ Checked r rel line := by
  induction h with
  | nil => simp at hrel
  | @cons first line rels lines hchecked hrest ih =>
      rw [List.nodup_cons] at hnodup
      rcases List.mem_cons.mp hrel with rfl | hmem
      · refine ⟨line, ?_, hchecked⟩
        rw [List.filter_cons_of_pos ((hchecked.lists_iff _).mpr rfl),
          filter_lists_eq_nil hrest hnodup.1]
      · have hne : rel ≠ first := by
          rintro rfl
          exact hnodup.1 hmem
        rw [List.filter_cons_of_neg (by simpa [hchecked.lists_iff] using hne)]
        exact ih hnodup.2 hmem

theorem exists_checked_of_mem {rels lines : List CString} (h : List.Forall₂ (Checked r) rels lines)
    {line : CString} (hline : line ∈ lines) : ∃ rel ∈ rels, Checked r rel line := by
  induction h with
  | nil => simp at hline
  | cons hchecked _ ih =>
      rcases List.mem_cons.mp hline with rfl | hline
      · exact ⟨_, List.mem_cons_self, hchecked⟩
      · obtain ⟨rel, hrel, hline⟩ := ih hline
        exact ⟨rel, List.mem_cons_of_mem _ hrel, hline⟩

end Loop

/-! ### The tree -/

section Tree

variable {r : Root} {rel : CString} {leaf : Leaf}

theorem lookup_leaves (h : (rel, leaf) ∈ r.tree.leaves) :
    r.tree.leaves.lookup rel = some leaf := by
  have hnodup := r.tree.nodup
  generalize r.tree.leaves = leaves at h hnodup
  induction leaves with
  | nil => simp at h
  | cons entry leaves ih =>
      rw [List.map_cons, List.nodup_cons] at hnodup
      rcases List.mem_cons.mp h with rfl | h
      · exact List.lookup_cons_self
      · have hne : rel ≠ entry.1 := fun heq => hnodup.1 (heq ▸ List.mem_map_of_mem h)
        rw [List.lookup_cons, beq_false_of_ne hne]
        exact ih h hnodup.2

theorem leafAt_of_mem (h : (rel, leaf) ∈ r.tree.leaves) : r.leafAt rel = some leaf := by
  rw [Root.leafAt, lookup_leaves h]

theorem withoutDot_append (path : CString) : withoutDot ("./".toList ++ path) = path := by
  rw [withoutDot, if_pos (List.prefix_append _ _)]
  rfl

theorem actual_perm (r : Root) :
    (actual r).Perm ((r.tree.leaves.filter fun entry =>
      entry.2.isFileOrLink && Text.afterLast '/' entry.1 ≠ manifestName).map Prod.fst) := by
  have hwithout : (find r).map withoutDot = (r.tree.leaves.filter fun entry =>
      entry.2.isFileOrLink && Text.afterLast '/' entry.1 ≠ manifestName).map Prod.fst := by
    rw [find, List.map_map]
    exact List.map_congr_left fun entry _ => withoutDot_append entry.1
  rw [actual, hwithout]
  exact List.perm_insertionSort _ _

theorem nodup_actual (r : Root) : (actual r).Nodup :=
  (actual_perm r).nodup_iff.mpr
    (r.tree.nodup.sublist (List.filter_sublist.map Prod.fst))

theorem mem_actual_iff :
    rel ∈ actual r ↔ ∃ leaf, (rel, leaf) ∈ r.tree.leaves ∧ leaf.isFileOrLink = true ∧
      Text.afterLast '/' rel ≠ manifestName := by
  rw [(actual_perm r).mem_iff]
  simp

theorem manifest_mem {text : CString} (h : r.manifest = some text) :
    ∃ leaf, (manifestName, leaf) ∈ r.tree.leaves ∧ leaf.isFileOrLink = true := by
  unfold Root.manifest at h
  cases hlookup : r.tree.leaves.lookup manifestName with
  | none => simp [hlookup] at h
  | some leaf =>
      obtain ⟨before, after, hleaves, -⟩ := List.lookup_eq_some_iff.mp hlookup
      refine ⟨leaf, by simp [hleaves], ?_⟩
      cases leaf with
      | special => simp [hlookup] at h
      | _ => rfl

end Tree

/-! ### What is vouched for -/

section Vouched

variable {r : Root} {text rel mode content target bytes : CString} {listed : List CString}

theorem listed_eq (h : verifyToolchain r = .ok listed) : listed = actual r := by
  obtain ⟨-, -, hlisted, -⟩ := verifyToolchain_spec h
  exact hlisted

theorem mem_lines_cases {line : CString} (h : line ∈ Text.lines '\n' text) :
    line ∈ Text.terminatedLines '\n' text ∨ line = Text.afterLast '\n' text := by
  rcases List.mem_append.mp h with hline | hlast
  · exact .inl hline
  · split_ifs at hlast
    · simp at hlast
    · exact .inr (List.mem_singleton.mp hlast)

theorem afterLast_mem_lines (h : lists rel (Text.afterLast '\n' text) = true) :
    Text.afterLast '\n' text ∈ Text.lines '\n' text := by
  refine List.mem_append_right _ ?_
  cases hlast : Text.afterLast '\n' text with
  | nil => simp [hlast, lists, Text.words] at h
  | cons c last => simp

theorem filter_lines (rel text : CString) :
    (Text.lines '\n' text).filter (lists rel) =
      (Text.terminatedLines '\n' text).filter (lists rel) ++
        if lists rel (Text.afterLast '\n' text) then [Text.afterLast '\n' text] else [] := by
  rw [Text.lines, List.filter_append]
  cases hlast : Text.afterLast '\n' text with
  | nil => rfl
  | cons c last => simp [List.filter_cons]

/-- A checked path is listed with a leaf's columns where those are what was compared, and what follows
the last newline does not list it again. -/
theorem listedAs_iff (h : verifyToolchain r = .ok listed) (htext : r.manifest = some text)
    (hrel : rel ∈ listed) :
    r.ListedAs text rel mode bytes ↔ lists rel (Text.afterLast '\n' text) = false ∧
      columns r rel (r.leafAt rel) = .ok (mode, Nat.toDigits 10 bytes.length, r.sha256 bytes) := by
  obtain ⟨text', htext', hlisted, hchecked⟩ := verifyToolchain_spec h
  obtain rfl := Option.some.inj (htext.symm.trans htext')
  obtain ⟨line, hfilter, hline⟩ := filter_lists hchecked (hlisted ▸ nodup_actual r) hrel
  obtain ⟨mode', size, hash, hwords, hcolumns⟩ := hline.columns
  rw [Root.ListedAs, filter_lines, hfilter, hcolumns]
  cases lists rel (Text.afterLast '\n' text) with
  | true => simp
  | false => simp [eq_comm, hwords]

theorem columns_file_iff (h : (rel, .file mode content) ∈ r.tree.leaves) :
    columns r rel (r.leafAt rel) =
        .ok (mode, Nat.toDigits 10 content.length, r.sha256 content) ↔
      r.marks (r.pathOf rel) = false := by
  rw [leafAt_of_mem h, columns, hashFile]
  cases r.marks (r.pathOf rel) with
  | true => simp
  | false => simp

theorem columns_symlink_iff (h : (rel, .symlink mode target) ∈ r.tree.leaves)
    (hsafe : isUnsafe (Text.dropTrailing '\n' target) = false) :
    columns r rel (r.leafAt rel) =
        .ok (mode, Nat.toDigits 10 target.length, r.sha256 target) ↔
      target.getLast? ≠ some '\n' := by
  rw [leafAt_of_mem h, ← Text.dropTrailing_eq_self_iff]
  simp only [columns, hsafe, Bool.false_eq_true, if_false, Except.ok.injEq, Prod.mk.injEq, true_and,
    Text.toDigits_eq_iff]
  constructor
  · rintro ⟨hlength, -⟩
    exact (Text.dropTrailing_prefix target).eq_of_length hlength
  · intro htarget
    rw [htarget]
    exact ⟨rfl, rfl⟩

/-- The loop lets a link pass only where what the shell has of its text is safe. -/
theorem safe_of_checked {line : CString} (h : (rel, .symlink mode target) ∈ r.tree.leaves)
    (hline : Checked r rel line) : isUnsafe (Text.dropTrailing '\n' target) = false := by
  obtain ⟨mode', size, hash, -, hcolumns⟩ := hline.columns
  rw [leafAt_of_mem h, columns] at hcolumns
  split_ifs at hcolumns with hunsafe
  simpa using hunsafe

theorem safe_of_mem (h : verifyToolchain r = .ok listed) (hrel : rel ∈ listed)
    (hleaf : (rel, .symlink mode target) ∈ r.tree.leaves) :
    isUnsafe (Text.dropTrailing '\n' target) = false := by
  obtain ⟨text, -, hlisted, hchecked⟩ := verifyToolchain_spec h
  obtain ⟨line, -, hline⟩ := filter_lists hchecked (hlisted ▸ nodup_actual r) hrel
  exact safe_of_checked hleaf hline

/-- A line that the loop has read lists a path that `find` prints. -/
theorem checked_of_lists {line : CString} (h : verifyToolchain r = .ok listed)
    (htext : r.manifest = some text) (hline : line ∈ Text.terminatedLines '\n' text)
    (hlists : lists rel line = true) : rel ∈ actual r ∧ Confined rel := by
  obtain ⟨text', htext', rfl, hchecked⟩ := verifyToolchain_spec h
  obtain rfl := Option.some.inj (htext.symm.trans htext')
  obtain ⟨other, hother, hline⟩ := exists_checked_of_mem hchecked hline
  obtain rfl := (hline.lists_iff rel).mp hlists
  exact ⟨hother, confined_of_not_isUnsafe hline.safe⟩

theorem stageToolchain_of_verified (h : verifyToolchain r = .ok listed) :
    stageToolchain r (fun _ => false) = .ok (copied r) := by
  have hfind : listed.find? (fun _ => false) = none := List.find?_eq_none.mpr (by simp)
  refine bind_eq_ok.mpr ⟨listed, h, ?_⟩
  rw [hfind]

theorem stageToolchain_eq_ok {taken : CString → Bool} {out : List CString}
    (h : stageToolchain r taken = .ok out) : out = copied r := by
  obtain ⟨listed, -, h⟩ := bind_eq_ok.mp h
  split at h
  · cases h
  · exact (Except.ok.inj h).symm

/-- What is staged of a tree of which nothing unchecked is staged has been compared. -/
theorem Vouched.mem_listed (hvouched : Vouched r text listed) (h : verifyToolchain r = .ok listed)
    {leaf : Leaf} (hleaf : (rel, leaf) ∈ r.tree.leaves) (hne : rel ≠ manifestName) : rel ∈ listed :=
  hvouched.staged _ _ (stageToolchain_of_verified h) rel (List.mem_map_of_mem hleaf) hne

theorem Vouched.file (hvouched : Vouched r text listed) (h : verifyToolchain r = .ok listed)
    (htext : r.manifest = some text) (hleaf : (rel, .file mode content) ∈ r.tree.leaves)
    (hne : rel ≠ manifestName) :
    lists rel (Text.afterLast '\n' text) = false ∧ r.marks (r.pathOf rel) = false := by
  obtain ⟨htail, hcolumns⟩ := (listedAs_iff h htext (hvouched.mem_listed h hleaf hne)).mp
    (hvouched.files rel mode content hleaf hne)
  exact ⟨htail, (columns_file_iff hleaf).mp hcolumns⟩

theorem Vouched.link (hvouched : Vouched r text listed) (h : verifyToolchain r = .ok listed)
    (htext : r.manifest = some text) (hleaf : (rel, .symlink mode target) ∈ r.tree.leaves)
    (hne : rel ≠ manifestName) :
    lists rel (Text.afterLast '\n' text) = false ∧ target.getLast? ≠ some '\n' := by
  have hmem := hvouched.mem_listed h hleaf hne
  obtain ⟨htail, hcolumns⟩ := (listedAs_iff h htext hmem).mp
    (hvouched.links rel mode target hleaf hne)
  exact ⟨htail, (columns_symlink_iff hleaf (safe_of_mem h hmem hleaf)).mp hcolumns⟩

theorem Vouched.nothingSlips (hvouched : Vouched r text listed)
    (h : verifyToolchain r = .ok listed) (htext : r.manifest = some text) : NothingSlips r text := by
  refine { plain := ?_, targets := ?_, marks := ?_, tail := ?_ }
  · intro rel leaf hleaf hne
    have hmem := hvouched.mem_listed h hleaf hne
    rw [listed_eq h] at hmem
    obtain ⟨other, hother, hplain⟩ := mem_actual_iff.mp hmem
    obtain rfl := Option.some.inj ((lookup_leaves hother).symm.trans (lookup_leaves hleaf))
    exact hplain
  · intro rel mode target hleaf hne
    exact (hvouched.link h htext hleaf hne).2
  · intro rel mode content hleaf hne
    exact (hvouched.file h htext hleaf hne).2
  · intro rel htail
    by_contra hne
    obtain ⟨leaf, hleaf, hkind⟩ := hvouched.present _ (afterLast_mem_lines htail) rel htail
    cases leaf with
    | file mode content => simp [(hvouched.file h htext hleaf hne).1] at htail
    | symlink mode target => simp [(hvouched.link h htext hleaf hne).1] at htail
    | special => cases hkind

theorem NothingSlips.mem_listed (hslips : NothingSlips r text) (h : verifyToolchain r = .ok listed)
    {leaf : Leaf} (hleaf : (rel, leaf) ∈ r.tree.leaves) (hne : rel ≠ manifestName) :
    rel ∈ listed := by
  rw [listed_eq h]
  exact mem_actual_iff.mpr ⟨leaf, hleaf, hslips.plain rel leaf hleaf hne⟩

/-- Whatever a line lists, the loop has checked it, or it is the manifest. -/
theorem NothingSlips.listed_cases {line : CString} (hslips : NothingSlips r text)
    (h : verifyToolchain r = .ok listed) (htext : r.manifest = some text)
    (hline : line ∈ Text.lines '\n' text) (hlists : lists rel line = true) :
    rel ∈ actual r ∧ Confined rel ∨ rel = manifestName := by
  rcases mem_lines_cases hline with hread | rfl
  · exact .inl (checked_of_lists h htext hread hlists)
  · exact .inr (hslips.tail rel hlists)

theorem NothingSlips.vouched (hslips : NothingSlips r text) (h : verifyToolchain r = .ok listed)
    (htext : r.manifest = some text) : Vouched r text listed := by
  have htail : ∀ rel, rel ≠ manifestName → lists rel (Text.afterLast '\n' text) = false :=
    fun rel hne => Bool.eq_false_iff.mpr (mt (hslips.tail rel) hne)
  refine { files := ?_, links := ?_, present := ?_, paths := ?_, targets := ?_, staged := ?_ }
  · intro rel mode content hleaf hne
    exact (listedAs_iff h htext (hslips.mem_listed h hleaf hne)).mpr
      ⟨htail rel hne, (columns_file_iff hleaf).mpr (hslips.marks rel mode content hleaf hne)⟩
  · intro rel mode target hleaf hne
    have hmem := hslips.mem_listed h hleaf hne
    exact (listedAs_iff h htext hmem).mpr ⟨htail rel hne, (columns_symlink_iff hleaf
      (safe_of_mem h hmem hleaf)).mpr (hslips.targets rel mode target hleaf hne)⟩
  · intro line hline rel hlists
    rcases hslips.listed_cases h htext hline hlists with ⟨hactual, -⟩ | rfl
    · obtain ⟨leaf, hleaf, hkind, -⟩ := mem_actual_iff.mp hactual
      exact ⟨leaf, hleaf, hkind⟩
    · exact manifest_mem htext
  · intro line hline rel hlists
    rcases hslips.listed_cases h htext hline hlists with ⟨-, hconfined⟩ | rfl
    · exact hconfined
    · exact confined_of_not_isUnsafe (by decide)
  · intro rel mode target hleaf hne
    have hsafe := safe_of_mem h (hslips.mem_listed h hleaf hne) hleaf
    rw [Text.dropTrailing_eq_self_iff.mpr (hslips.targets rel mode target hleaf hne)] at hsafe
    exact confined_of_not_isUnsafe hsafe
  · intro taken out hout rel hrel hne
    obtain rfl := stageToolchain_eq_ok hout
    obtain ⟨⟨_, leaf⟩, hleaf, rfl⟩ := List.mem_map.mp hrel
    exact hslips.mem_listed h hleaf hne

end Vouched

/-! ### Two trees -/

def emptyHash : CString :=
  "e3b0c44298fc1c149afbf4c8996fb92427ae41e4649b934ca495991b7852b855".toList

def tccHash : CString :=
  "87af7e6bcacb6bae57c9818402ee31439a082bcd74a8c73780b70350726e79b9".toList

/-- A root without links to directories, whose files besides the manifest are empty. Of the texts of
links, only `tcc` is hashed. -/
def rootOf (isPresent : CString → Bool) (tree : Tree) : Root where
  path := "toolchain".toList
  isDir := true
  tree := tree
  elsewhere := fun _ => none
  linked := none
  isPresent := isPresent
  sha256 := fun bytes =>
    if bytes = [] then emptyHash else if bytes = "tcc".toList then tccHash else []
  marks := fun path => '\\' ∈ path ∨ '\n' ∈ path ∨ '\r' ∈ path

def compilersText : CString :=
  "bin/cc 777 3 ".toList ++ tccHash ++ "\nbin/tcc 755 0 ".toList ++ emptyHash ++ ['\n']

/-- A compiler and a link to it. -/
def compilersTree : Tree where
  leaves := [(manifestName, .file "644".toList compilersText),
    ("bin/cc".toList, .symlink "777".toList "tcc".toList), ("bin/tcc".toList, .file "755".toList [])]
  nodup := by decide +kernel
  names := by decide +kernel

/-- The other paths that are required lead to directories. -/
def compilers : Root := rootOf (fun _ => true) compilersTree

/-- A manifest of the files that are required, all of them empty. -/
def requiredText : CString :=
  (required.insertionSort (· ≤ ·)).flatMap fun rel => rel ++ " 644 0 ".toList ++ emptyHash ++ ['\n']

def nestedName : CString := "share/".toList ++ manifestName

/-- The files that are required, and one more that is named like the manifest. -/
def nestedTree : Tree where
  leaves := (manifestName, .file "644".toList requiredText) ::
    (nestedName, .file "755".toList "anything".toList) ::
    required.map fun rel => (rel, .file "644".toList [])
  nodup := by decide +kernel
  names := by decide +kernel

def nested : Root := rootOf (nestedTree.leaves.map Prod.fst).contains nestedTree

end ToolkitSquashfs

end VitaLinuxPort
