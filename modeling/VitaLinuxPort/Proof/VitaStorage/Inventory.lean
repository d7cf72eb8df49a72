import Mathlib.Data.Bool.AllAny
import VitaLinuxPort.Proof.VitaStorage.Attributes

/-!
# What the inventory prints

The records go into one text and come out of it by word splitting, which also expands patterns. Every
field comes out in its place, whatever files there are, exactly where no field holds a separator and no
record is a pattern. Then the attributes that are printed are those of `blkid` exactly where each of the
three names is last read at its own key.
-/

namespace VitaLinuxPort

namespace VitaStorage

/-- The fields of the record hold no separator, and the shell does not take the record for a pattern. -/
def Fields.Plain (f : Fields) : Prop :=
  (∀ text ∈ f.toList, '|' ∉ text ∧ '\n' ∉ text) ∧ isPattern f.text = false

/-! ### Patterns -/

theorem afterNegation_append {text : CString} (more : CString) (h : afterNegation text ≠ []) :
    afterNegation (text ++ more) = afterNegation text ++ more := by
  cases text with
  | nil => exact absurd rfl h
  | cons c text =>
      unfold afterNegation
      rw [List.cons_append]
      split <;> simp_all

theorem closesBracket_append {text : CString} (more : CString) (h : closesBracket text = true) :
    closesBracket (text ++ more) = true := by
  unfold closesBracket at h ⊢
  cases hbody : afterNegation text with
  | nil => simp [hbody] at h
  | cons c rest =>
      rw [hbody] at h
      rw [afterNegation_append more (by simp [hbody]), hbody, List.cons_append]
      simp only [Bool.and_eq_true, decide_eq_true_eq] at h ⊢
      refine ⟨h.1, ?_⟩
      rw [List.takeWhile_append]
      split_ifs
      · exact List.mem_append_left _ ((List.takeWhile_sublist _).mem h.2)
      · exact h.2

theorem isPattern_append {text : CString} (more : CString) (h : isPattern text = true) :
    isPattern (text ++ more) = true := by
  induction text with
  | nil => simp [isPattern] at h
  | cons c text ih =>
      simp only [isPattern, Bool.or_eq_true, Bool.and_eq_true, List.cons_append] at h ⊢
      rcases h with (h | ⟨hc, hcloses⟩) | hrest
      · exact .inl (.inl h)
      · exact .inl (.inr ⟨hc, closesBracket_append more hcloses⟩)
      · exact .inr (ih hrest)

theorem isPattern_of_part {text whole : CString} (hpart : text <:+: whole)
    (h : isPattern text = true) : isPattern whole = true := by
  obtain ⟨start, rest, rfl⟩ := hpart
  rw [List.append_assoc]
  induction start with
  | nil => exact isPattern_append rest h
  | cons c start ih =>
      rw [List.cons_append, isPattern, ih, Bool.or_true]

/-! ### Taking the fields out -/

theorem expand_of_not_isPattern (found : CString → List CString) {word : CString}
    (h : isPattern word = false) : expand found word = [word] := by
  rw [expand, h]
  rfl

theorem flatMap_expand (found : CString → List CString) {words : List CString}
    (h : ∀ word ∈ words, isPattern word = false) : words.flatMap (expand found) = words := by
  induction words with
  | nil => rfl
  | cons word words ih =>
      rw [List.forall_mem_cons] at h
      rw [List.flatMap_cons, expand_of_not_isPattern found h.1, ih h.2]
      rfl

theorem part_of_mem {f : Fields} {text : CString} (h : text ∈ f.toList) : text <:+: f.text :=
  Text.infix_intercalate_of_mem h

theorem ofList_toList (f : Fields) : Fields.ofList f.toList = some f := rfl

theorem printRecord_of_plain (found : CString → List CString) {f : Fields} (h : f.Plain)
    (hmountpoint : f.mountpoint ≠ []) : printRecord found f.text = some f := by
  have hlines : Text.lines '|' f.text = f.toList :=
    @Text.lines_intercalate _ _ _ _ [f.device, f.parent, f.removable, f.filesystem, f.label, f.uuid,
      f.mounted] f.mountpoint (fun text htext => (h.1 text htext).1) hmountpoint
  have hfields : ∀ text ∈ f.toList, isPattern text = false := by
    intro text htext
    by_contra hpattern
    have hwhole := isPattern_of_part (part_of_mem htext) (by simpa using hpattern)
    rw [h.2] at hwhole
    exact absurd hwhole (by decide)
  rw [printRecord, hlines, flatMap_expand found hfields, ofList_toList]

theorem flatMap_expand_nil (words : List CString) :
    words.flatMap (expand fun _ => []) = words := by
  have hexpand : expand (fun _ => []) = fun word => [word] := by
    funext word
    rw [expand]
    split_ifs <;> rfl
  rw [hexpand, List.flatMap_singleton']

theorem mem_of_ofList {f : Fields} {texts : List CString} (h : Fields.ofList texts = some f) :
    ∀ text ∈ f.toList, text ∈ texts := by
  unfold Fields.ofList at h
  split at h
  · obtain rfl := Option.some.inj h
    intro text htext
    simp only [Fields.toList, List.mem_cons, List.not_mem_nil, or_false] at htext ⊢
    tauto
  · cases h

/-- Fields that come out of a word hold no separator. -/
theorem separators_of_printRecord {f : Fields} {word : CString} (hword : '\n' ∉ word)
    (h : printRecord (fun _ => []) word = some f) :
    ∀ text ∈ f.toList, '|' ∉ text ∧ '\n' ∉ text := by
  rw [printRecord, flatMap_expand_nil] at h
  intro text htext
  have hpiece := Text.mem_splitOn_of_mem_lines (mem_of_ofList h text htext)
  exact ⟨Text.notMem_of_mem_splitOn hpiece,
    fun hline => hword ((Text.infix_of_mem_splitOn hpiece).subset hline)⟩

theorem forall_of_mapM_eq_some {α β : Type} {g : α → Option β} {l : List α} {out : List β}
    (h : l.mapM g = some out) :
    (∀ a ∈ l, ∃ b, g a = some b) ∧ ∀ b ∈ out, ∃ a ∈ l, g a = some b := by
  induction l generalizing out with
  | nil =>
      obtain rfl : out = [] := by simpa using h.symm
      simp
  | cons a l ih =>
      rw [List.mapM_cons] at h
      obtain ⟨b, hb, h⟩ := Option.bind_eq_some_iff.mp h
      obtain ⟨rest, hrest, h⟩ := Option.bind_eq_some_iff.mp h
      obtain rfl := Option.some.inj h
      obtain ⟨hall, hmem⟩ := ih hrest
      refine ⟨List.forall_mem_cons.mpr ⟨⟨b, hb⟩, hall⟩, List.forall_mem_cons.mpr ⟨?_, ?_⟩⟩
      · exact ⟨a, List.mem_cons_self, hb⟩
      · intro c hc
        obtain ⟨x, hx, hg⟩ := hmem c hc
        exact ⟨x, List.mem_cons_of_mem a hx, hg⟩

/-- Records without a separator are the words of the packed text. -/
theorem words_packed {records : List Fields}
    (h : ∀ f ∈ records, ∀ text ∈ f.toList, '|' ∉ text ∧ '\n' ∉ text) :
    Text.words (· = '\n') (packed records) = records.map Fields.text := by
  refine Text.words_intercalate fun text htext => ?_
  obtain ⟨f, hf, rfl⟩ := List.mem_map.mp htext
  refine ⟨fun hline => ?_, ?_⟩
  · rcases Text.mem_of_mem_intercalate hline with hbar | ⟨piece, hpiece, hmem⟩
    · exact absurd hbar (by decide)
    · exact (h f hf piece hpiece).2 hmem
  · simp [Fields.text, Fields.toList]

theorem mapM_texts {g : CString → Option Fields} {records : List Fields}
    (h : ∀ f ∈ records, g f.text = some f) : (records.map Fields.text).mapM g = some records := by
  induction records with
  | nil => rfl
  | cons f records ih =>
      rw [List.forall_mem_cons] at h
      rw [List.map_cons, List.mapM_cons, h.1, ih h.2]
      rfl

/-- All fields come out in their places, whatever files there are, exactly where the records are plain. -/
theorem printed_iff {records : List Fields} (hmountpoint : ∀ f ∈ records, f.mountpoint ≠ []) :
    (∀ found, printed found records = some records) ↔ ∀ f ∈ records, f.Plain := by
  constructor
  · intro h
    have hseparators : ∀ f ∈ records, ∀ text ∈ f.toList, '|' ∉ text ∧ '\n' ∉ text := by
      have hnone := h fun _ => []
      rw [printed, flatMap_expand_nil] at hnone
      intro f hf
      obtain ⟨word, hword, hprint⟩ := (forall_of_mapM_eq_some hnone).2 f hf
      refine separators_of_printRecord ?_ hprint
      exact Text.notMem_of_mem_splitOn (Text.mem_words_iff.mp hword).1
    intro f hf
    refine ⟨hseparators f hf, ?_⟩
    by_contra hpattern
    -- a file whose name has one field only, found wherever a pattern stands
    have hfile := h fun _ => [['x']]
    have hword : ['x'] ∈ (Text.words (· = '\n') (packed records)).flatMap (expand fun _ => [['x']]) := by
      rw [words_packed hseparators, List.mem_flatMap]
      refine ⟨f.text, List.mem_map_of_mem hf, ?_⟩
      rw [expand, if_pos (by simpa using hpattern)]
      exact List.mem_singleton_self _
    obtain ⟨out, hout⟩ := (forall_of_mapM_eq_some hfile).1 _ hword
    have hshort : printRecord (fun _ => [['x']]) ['x'] = none := by decide
    rw [hshort] at hout
    cases hout
  · intro h found
    rw [printed, words_packed fun f hf => (h f hf).1, flatMap_expand found, mapM_texts]
    · intro f hf
      exact printRecord_of_plain found (h f hf) (hmountpoint f hf)
    · intro word hword
      obtain ⟨f, hf, rfl⟩ := List.mem_map.mp hword
      exact (h f hf).2

/-! ### The attributes -/

section Blkid

variable (w : World) (line : CString → Line)

/-- `blkid` prints a line of pairs for every device. -/
def World.withBlkid : World := { w with blkid := fun path => (line path).text }

def lineOf (name : CString) : Line := line (w.devRoot ++ '/' :: name)

def Fields.attributes (f : Fields) : CString × CString × CString := (f.filesystem, f.label, f.uuid)

/-- What is to be reported of a line. -/
def Line.reported (l : Line) (name : CString) : CString := known ((valueOf name l.pairs).getD [])

def Line.attributes (l : Line) : CString × CString × CString :=
  (l.reported "TYPE".toList, l.reported "LABEL".toList, l.reported "UUID".toList)

/-- The partitions that are reported. -/
def listed : List CString := w.partitions.filter (isListed w)

/-- Whatever files there are, the inventory comes to its end, all the fields of its records come out in
their places, and the attributes among them are those of the lines. -/
def ReportsBlkid : Prop :=
  ∀ found, ∃ out, printed found (records (w.withBlkid line)) = some out ∧
    out = records (w.withBlkid line) ∧
    out.map Fields.attributes = (listed w).map fun name => (lineOf w line name).attributes

/-- The record of a partition with the attributes of its line. -/
def lineRecord (name : CString) : Fields :=
  fieldsOf w name ((valueOf "TYPE".toList (lineOf w line name).pairs).getD [])
    ((valueOf "LABEL".toList (lineOf w line name).pairs).getD [])
    ((valueOf "UUID".toList (lineOf w line name).pairs).getD [])

variable {w line}

theorem record_withBlkid (name : CString) :
    record (w.withBlkid line) name =
      fieldsOf w name ((lastText "TYPE".toList (lineOf w line name).pairs).getD [])
        ((lastText "LABEL".toList (lineOf w line name).pairs).getD [])
        ((lastText "UUID".toList (lineOf w line name).pairs).getD []) := by
  have hinfo : (w.withBlkid line).blkid ((w.withBlkid line).devRoot ++ '/' :: name) =
      (lineOf w line name).text := rfl
  rw [record, hinfo, extracted_text (by decide) (by decide), extracted_text (by decide) (by decide),
    extracted_text (by decide) (by decide)]
  rfl

theorem records_withBlkid : records (w.withBlkid line) = (listed w).map (record (w.withBlkid line)) :=
  rfl

theorem attributes_fieldsOf (w : World) (name filesystem label uuid : CString) :
    (fieldsOf w name filesystem label uuid).attributes = (known filesystem, known label, known uuid) :=
  rfl

theorem attributes_record_iff (name : CString) :
    (record (w.withBlkid line) name).attributes = (lineOf w line name).attributes ↔
      ∀ key ∈ ["TYPE".toList, "LABEL".toList, "UUID".toList], (lineOf w line name).ReadsOwn key := by
  rw [record_withBlkid, attributes_fieldsOf]
  simp [Line.attributes, Line.reported, Line.ReadsOwn]

theorem record_eq_lineRecord {name : CString}
    (h : ∀ key ∈ ["TYPE".toList, "LABEL".toList, "UUID".toList], (lineOf w line name).ReadsOwn key) :
    record (w.withBlkid line) name = lineRecord w line name := by
  simp only [List.forall_mem_cons, Line.ReadsOwn] at h
  rw [record_withBlkid, lineRecord]
  unfold fieldsOf
  rw [h.1, h.2.1, h.2.2.1]

theorem mountpoint_fieldsOf (w : World) (name filesystem label uuid : CString) :
    (fieldsOf w name filesystem label uuid).mountpoint =
      if mountpoint w ("/dev/".toList ++ name) = [] then "NONE".toList
      else mountpoint w ("/dev/".toList ++ name) :=
  rfl

theorem mountpoint_ne_nil {f : Fields} (h : f ∈ records (w.withBlkid line)) : f.mountpoint ≠ [] := by
  rw [records_withBlkid] at h
  obtain ⟨name, -, rfl⟩ := List.mem_map.mp h
  rw [record_withBlkid, mountpoint_fieldsOf]
  split_ifs with hnone
  · decide
  · exact hnone

/-- A removable disk with one partition. -/
def oneDisk : World where
  devRoot := "/dev".toList
  partitions := ["sdb1".toList]
  realEntry _ := "/sys/devices/usb/block/sdb/sdb1".toList
  removable _ := ['1']
  isPresent _ := true
  blkid _ := []
  mounts := []

/-- The order in which `blkid` prints the keys of a partition of an MBR disk. -/
def usualLine : Line where
  device := "/dev/sdb1".toList
  pairs :=
    [⟨"UUID".toList, "806A-41E2".toList, List.all_iff_forall_prop.mp (by decide), by decide⟩,
      ⟨"TYPE".toList, "exfat".toList, List.all_iff_forall_prop.mp (by decide), by decide⟩,
      ⟨"PARTUUID".toList, "c3072e18-01".toList, List.all_iff_forall_prop.mp (by decide), by decide⟩]
  device_plain := by decide

end Blkid

end VitaStorage

end VitaLinuxPort
