import Mathlib.Data.Bool.AllAny
import Mathlib.Data.List.TakeWhile
import VitaLinuxPort.Proof.Manifest.References
import VitaLinuxPort.Tools.Console

/-!
# The gate on the console device

Of the lines that end in `dev/console`, or in a path that does, the first one decides: its mode begins the
text of all the modes, and the first pair of numbers is its own where it is a device. So the gate passes
exactly where that entry is the character device 5:1, whatever its path is.
-/

namespace VitaLinuxPort

namespace Manifest

open Checklist

/-- The path of an entry is `dev/console` from the root of the archive. -/
def Entry.AtConsole (e : Entry) : Prop :=
  e.path = "dev/console".toList ∨ e.path = "./dev/console".toList ∨ e.path = "/dev/console".toList

def Entry.IsConsole (e : Entry) : Prop := e.node = .device .char 5 1

def HasConsole (entries : List Entry) : Prop := ∃ e ∈ entries, e.AtConsole ∧ e.IsConsole

/-- The first entry that the script looks at is not the character device 5:1, or such a device is at
`dev/console` too. -/
def ChoosesConsole (entries : List Entry) : Prop :=
  ∀ e, entries.find? (fun e => isConsoleLine e.line) = some e → e.IsConsole → HasConsole entries

/-! ### The columns of a line -/

theorem isSpace_of_blank {c : Char} (h : blank c = true) : isSpace c = true := by
  obtain rfl | rfl : c = ' ' ∨ c = '\t' := by
    simpa [blank, Classical.or_iff_not_imp_left] using h
  · rfl
  · rfl

theorem isDigit_of_mem {n : Nat} {c : Char} (h : c ∈ Nat.toDigits 10 n) : c.isDigit = true :=
  Nat.isDigit_of_mem_toDigits (by decide) (by decide) h

theorem comma_notMem_padLeft (width n : Nat) : ',' ∉ padLeft width n := by
  rw [padLeft, List.mem_append, not_or]
  refine ⟨fun h => ?_, fun h => absurd (isDigit_of_mem h) (by decide)⟩
  exact absurd (List.eq_of_mem_replicate h) (by decide)

theorem comma_notMem_padRight (column : Column) : ',' ∉ padRight column.text := by
  rw [padRight, List.mem_append, not_or]
  refine ⟨fun h => (column.plain _ (List.mem_of_mem_take h)).1 rfl, fun h => ?_⟩
  exact absurd (List.eq_of_mem_replicate h) (by decide)

theorem letter_mem (node : Node) : node.letter ∈ ['-', 'd', 'p', 's', '?', 'l', 'c', 'b'] := by
  cases node with
  | plain kind size => cases kind <;> simp [Node.letter]
  | symlink size target => simp [Node.letter]
  | device kind major minor => cases kind <;> simp [Node.letter]

theorem letter_plain (node : Node) : node.letter ≠ ',' ∧ blank node.letter = false := by
  have hplain : ∀ c ∈ ['-', 'd', 'p', 's', '?', 'l', 'c', 'b'], c ≠ ',' ∧ blank c = false :=
    List.all_iff_forall_prop.mp (by decide)
  exact hplain _ (letter_mem node)

theorem comma_notMem_columns (e : Entry) : ',' ∉ e.columns := by
  have hpermissions : ',' ∉ e.permissions.text := fun h => (e.permissions.plain _ h).1 rfl
  simp [Entry.columns, Entry.mode, (letter_plain e.node).1.symm, hpermissions,
    comma_notMem_padLeft, comma_notMem_padRight]

theorem words_line (e : Entry) :
    ∃ rest, Text.words blank e.line = e.mode :: rest := by
  have hblank : ∀ c ∈ e.mode, blank c = false := by
    intro c hc
    rcases List.mem_cons.mp hc with rfl | hc
    · exact (letter_plain e.node).2
    · by_contra hblank
      have hspace := isSpace_of_blank (by simpa using hblank)
      rw [(e.permissions.plain c hc).2] at hspace
      exact absurd hspace (by decide)
  rw [Entry.line, Entry.columns, List.append_assoc, List.cons_append,
    Text.words_append_cons _ rfl (by simp [Entry.mode]) hblank]
  exact ⟨_, rfl⟩

/-! ### The first pair of numbers -/

theorem numberPair_append_eq_none {start rest : CString} (hspace : ' ' ∈ start)
    (hcomma : ',' ∉ start) : numberPair (start ++ rest) = none := by
  obtain ⟨c, tail, htail⟩ : ∃ c tail, start.dropWhile Char.isDigit = c :: tail := by
    refine List.exists_cons_of_ne_nil fun hnil => ?_
    exact absurd (List.dropWhile_eq_nil_iff.mp hnil ' ' hspace) (by decide)
  have hc : c ≠ ',' := by
    rintro rfl
    exact hcomma ((List.dropWhile_suffix _).subset (htail ▸ List.mem_cons_self))
  rw [numberPair, List.dropWhile_append, htail]
  simp [hc]

/-- The digits end where something else follows. -/
theorem takeWhile_digits (n : Nat) {c : Char} (rest : CString) (hc : c.isDigit = false) :
    (Nat.toDigits 10 n ++ c :: rest).takeWhile Char.isDigit = Nat.toDigits 10 n ∧
      (Nat.toDigits 10 n ++ c :: rest).dropWhile Char.isDigit = c :: rest := by
  have hdigits : ∀ d ∈ Nat.toDigits 10 n, d.isDigit = true := fun d => isDigit_of_mem
  rw [List.takeWhile_append_of_pos hdigits, List.dropWhile_append_of_pos hdigits,
    List.takeWhile_cons_of_neg (by simp [hc]), List.dropWhile_cons_of_neg (by simp [hc]),
    List.append_nil]
  exact ⟨rfl, rfl⟩

theorem isSpace_digit {c : Char} (h : c.isDigit = true) : isSpace c = false := by
  have hdigit : 48 ≤ c.toNat := by
    simp only [Char.isDigit, ge_iff_le, Bool.and_eq_true, decide_eq_true_eq] at h
    exact h.1
  have hblank : c ≠ ' ' := by
    rintro rfl
    exact absurd hdigit (by decide)
  simp only [isSpace, hblank, decide_false, Bool.false_or, Bool.and_eq_false_iff,
    decide_eq_false_iff_not]
  omega

/-- The spaces before a padded number. -/
theorem spaces_padLeft (width n : Nat) (rest : CString) :
    (padLeft width n ++ rest).takeWhile isSpace =
        List.replicate (width - (Nat.toDigits 10 n).length) ' ' ∧
      (padLeft width n ++ rest).dropWhile isSpace = Nat.toDigits 10 n ++ rest := by
  obtain ⟨c, digits, hdigits⟩ := List.exists_cons_of_ne_nil (Nat.toDigits_ne_nil (n := n) (b := 10))
  have hc : ¬ isSpace c = true := by
    have hdigit : c.isDigit = true := @isDigit_of_mem n c (by rw [hdigits]; exact List.mem_cons_self)
    simp [isSpace_digit hdigit]
  have hspaces : ∀ d ∈ List.replicate (width - (Nat.toDigits 10 n).length) ' ', isSpace d = true := by
    intro d hd
    rw [List.eq_of_mem_replicate hd]
    rfl
  rw [padLeft, List.append_assoc, List.takeWhile_append_of_pos hspaces,
    List.dropWhile_append_of_pos hspaces, hdigits, List.cons_append,
    List.takeWhile_cons_of_neg hc, List.dropWhile_cons_of_neg hc, List.append_nil]
  exact ⟨rfl, rfl⟩

theorem numberPair_pair (major minor width : Nat) (rest : CString) :
    numberPair (Nat.toDigits 10 major ++ ',' :: ' ' :: (padLeft width minor ++ ' ' :: rest)) =
      some (Nat.toDigits 10 major ++ ',' :: ' ' :: padLeft width minor) := by
  obtain ⟨hmajor, hcomma⟩ := @takeWhile_digits major ',' (' ' :: (padLeft width minor ++ ' ' :: rest))
    rfl
  obtain ⟨hspaces, hdigits⟩ := spaces_padLeft width minor (' ' :: rest)
  have hminor := (@takeWhile_digits minor ' ' rest rfl).1
  simp only [numberPair, hmajor, hcomma]
  rw [List.dropWhile_cons_of_pos (by rfl), List.takeWhile_cons_of_pos (by rfl), hspaces, hdigits,
    hminor, if_neg (by simp [Nat.toDigits_ne_nil]), padLeft, List.cons_append]

theorem getLast?_columns (e : Entry) (k : Nat) :
    (e.columns ++ List.replicate k ' ').getLast? = some ' ' := by
  have hcolumns : e.columns = (e.mode ++ ' ' :: (padLeft 3 e.links ++ ' ' ::
      (padRight e.owner.text ++ ' ' :: padRight e.group.text))) ++ [' '] := by
    simp [Entry.columns]
  cases k with
  | zero => rw [List.replicate_zero, List.append_nil, hcolumns, List.getLast?_concat]
  | succ k => rw [List.replicate_succ', ← List.append_assoc, List.getLast?_concat]

/-- The first pair on a device's line is the device's. -/
theorem firstMatch_line {e : Entry} {kind : DeviceKind} {major minor : Nat}
    (h : e.node = .device kind major minor) :
    Text.firstMatch numberPair e.line =
      some (Nat.toDigits 10 major ++ ',' :: ' ' :: padLeft 3 minor) := by
  have hline : e.line =
      (e.columns ++ List.replicate (3 - (Nat.toDigits 10 major).length) ' ') ++
        (Nat.toDigits 10 major ++ ',' :: ' ' :: (padLeft 3 minor ++
          ' ' :: (e.date ++ ' ' :: (e.path ++ e.node.arrow)))) := by
    simp [Entry.line, h, Node.numbers, padLeft]
  rw [hline, Text.firstMatch_append]
  · exact Text.firstMatch_of_some (numberPair_pair major minor 3 _)
  · intro tail hne htail
    have hlast : tail.getLast? = some ' ' := by
      obtain ⟨start, hstart⟩ := htail
      rw [← getLast?_columns e _, ← hstart, List.getLast?_append_of_ne_nil _ hne]
    refine numberPair_append_eq_none (List.mem_of_getLast? hlast) fun hcomma => ?_
    rcases List.mem_append.mp (htail.subset hcomma) with hcolumns | hspaces
    · exact comma_notMem_columns e hcolumns
    · exact absurd (List.eq_of_mem_replicate hspaces) (by decide)

theorem filter_digits (n : Nat) : (Nat.toDigits 10 n).filter (· ≠ ' ') = Nat.toDigits 10 n := by
  rw [List.filter_eq_self]
  intro c hc
  have hdigit := isDigit_of_mem hc
  simpa using (by rintro rfl; exact absurd hdigit (by decide) : c ≠ ' ')

/-- The text of the numbers is the one of the console just for its numbers. -/
theorem pair_eq_iff (major minor : Nat) :
    (Nat.toDigits 10 major ++ ',' :: ' ' :: padLeft 3 minor).filter (· ≠ ' ') = "5,1".toList ↔
      major = 5 ∧ minor = 1 := by
  have hcomma : ∀ n, ',' ∉ Nat.toDigits 10 n := fun n h => absurd (isDigit_of_mem h) (by decide)
  have hpair : (Nat.toDigits 10 major ++ ',' :: ' ' :: padLeft 3 minor).filter (· ≠ ' ') =
      Nat.toDigits 10 major ++ ',' :: Nat.toDigits 10 minor := by
    rw [padLeft, List.filter_append, filter_digits, List.filter_cons_of_pos (by decide),
      List.filter_cons_of_neg (by decide), List.filter_append, filter_digits,
      List.filter_eq_nil_iff.mpr (by simp), List.nil_append]
  have hconsole : "5,1".toList = Nat.toDigits 10 5 ++ ',' :: Nat.toDigits 10 1 := by decide
  rw [hpair, hconsole, List.append_cons_inj_of_notMem (hcomma major) (hcomma minor), Text.toDigits_eq_iff,
    Text.toDigits_eq_iff]
  simp

/-! ### The verdict -/

theorem letter_eq_c_iff (node : Node) :
    node.letter = 'c' ↔ ∃ major minor, node = .device .char major minor := by
  cases node with
  | plain kind size => cases kind <;> simp [Node.letter]
  | symlink size target => simp [Node.letter]
  | device kind major minor => cases kind <;> simp [Node.letter]

/-- The first chosen line decides. -/
theorem passes_iff (e : Entry) (lines : List CString) :
    ((perm (e.line :: lines)).head? = some 'c' ∧ majmin (e.line :: lines) = "5,1".toList) ↔
      e.IsConsole := by
  obtain ⟨words, hwords⟩ := words_line e
  have hperm : (perm (e.line :: lines)).head? = some e.node.letter := by
    rw [perm, List.map_cons, hwords, List.headD_cons]
    cases lines with
    | nil => rfl
    | cons second lines => rw [List.map_cons, List.intercalate_cons_cons]; rfl
  rw [hperm, Option.some.injEq, letter_eq_c_iff, Entry.IsConsole]
  constructor
  · rintro ⟨⟨major, minor, hnode⟩, hmajmin⟩
    rw [majmin, List.findSome?_cons, firstMatch_line hnode, Option.getD_some, pair_eq_iff] at hmajmin
    rw [hnode, hmajmin.1, hmajmin.2]
  · intro hnode
    refine ⟨⟨5, 1, hnode⟩, ?_⟩
    rw [majmin, List.findSome?_cons, firstMatch_line hnode, Option.getD_some, pair_eq_iff]
    exact ⟨rfl, rfl⟩

section Gate

variable (w : World) (o : Options) (listing : CString → Option (List Entry))

/-- The files with the listings of the archives among them. -/
def World.withListings : World := { w with archive := fun src => inspect (listing src) }

def RecordsPass : Prop :=
  .check { name := "rootfs:dev-console".toList, status := .pass } ∈ consoleCheck w o

variable {w o listing}

theorem mem_record_iff {name : CString} {status : Status} :
    .check { name, status := .pass } ∈ record [name] status ↔ status = .pass := by
  simp [record, eq_comm]

theorem inspect_of_find?_eq_none {entries : List Entry}
    (h : entries.find? (fun e => isConsoleLine e.line) = none) :
    inspect (some entries) = .missing := by
  have hfilter : (entries.map Entry.line).filter isConsoleLine = [] := by
    rw [List.filter_map, List.map_eq_nil_iff, ← List.head?_eq_none_iff, List.head?_filter]
    exact h
  simp only [inspect, hfilter]

theorem inspect_of_find?_eq_some {entries : List Entry} {e : Entry}
    (h : entries.find? (fun e => isConsoleLine e.line) = some e) :
    ∃ lines, inspect (some entries) = .console (perm (e.line :: lines)) (majmin (e.line :: lines)) := by
  rw [← List.head?_filter] at h
  obtain ⟨rest, hrest⟩ := List.head?_eq_some_iff.mp h
  have hfilter : (entries.map Entry.line).filter isConsoleLine = e.line :: rest.map Entry.line := by
    rw [List.filter_map, ← List.map_cons]
    exact congrArg (List.map Entry.line) hrest
  exact ⟨rest.map Entry.line, by simp only [inspect, hfilter]⟩

/-- The gate passes exactly where the first chosen entry of the archive is the console. -/
theorem recordsPass_iff :
    RecordsPass (w.withListings listing) o ↔
      ∃ src entries e, cpioSrc w o = some src ∧ listing src = some entries ∧
        entries.find? (fun e => isConsoleLine e.line) = some e ∧ e.IsConsole := by
  have hsrc : cpioSrc (w.withListings listing) o = cpioSrc w o := rfl
  rw [RecordsPass, consoleCheck, hsrc]
  cases cpioSrc w o with
  | none => simp [mem_record_iff]
  | some src =>
      have harchive : (w.withListings listing).archive src = inspect (listing src) := rfl
      simp only [harchive, Option.some.injEq, exists_and_left, exists_eq_left']
      cases hentries : listing src with
      | none => simp [inspect, mem_record_iff]
      | some entries =>
          cases hfind : entries.find? (fun e => isConsoleLine e.line) with
          | none => simp [inspect_of_find?_eq_none hfind, mem_record_iff, hfind]
          | some e =>
              obtain ⟨lines, hinspect⟩ := inspect_of_find?_eq_some hfind
              simp [hinspect, mem_record_iff, ← passes_iff e lines, hfind]

/-- A pass means that the archive has its console exactly where the gate chooses the console, should it
choose such a device at all. -/
theorem console_of_pass_iff :
    (RecordsPass (w.withListings listing) o →
        ∃ src entries, cpioSrc w o = some src ∧ listing src = some entries ∧ HasConsole entries) ↔
      ∀ src entries, cpioSrc w o = some src → listing src = some entries → ChoosesConsole entries := by
  rw [recordsPass_iff]
  constructor
  · intro h src entries hsrc hentries e hfind hconsole
    obtain ⟨src', entries', hsrc', hentries', hhas⟩ := h ⟨src, entries, e, hsrc, hentries, hfind, hconsole⟩
    obtain rfl := Option.some.inj (hsrc.symm.trans hsrc')
    obtain rfl := Option.some.inj (hentries.symm.trans hentries')
    exact hhas
  · rintro h ⟨src, entries, e, hsrc, hentries, hfind, hconsole⟩
    exact ⟨src, entries, hsrc, hentries, h src entries hsrc hentries e hfind hconsole⟩

end Gate

/-- The character device 5:1 below another directory. -/
def nestedConsole : Entry where
  node := .device .char 5 1
  permissions := ⟨"rw--w--w-".toList, by decide, List.all_iff_forall_prop.mp (by decide)⟩
  links := 1
  owner := ⟨"root".toList, by decide, List.all_iff_forall_prop.mp (by decide)⟩
  group := ⟨"root".toList, by decide, List.all_iff_forall_prop.mp (by decide)⟩
  date := "Jan  1 00:00".toList
  path := "target/dev/console".toList
  one_line := by decide

/-- An archive passes that has no `dev/console`. -/
theorem nested_console_passes :
    ¬ ∀ (w : World) (o : Options) (listing : CString → Option (List Entry)),
      RecordsPass (w.withListings listing) o →
        ∃ src entries, cpioSrc w o = some src ∧ listing src = some entries ∧
          HasConsole entries := by
  intro h
  have hpass : RecordsPass (oldTree.withListings fun _ => some [nestedConsole])
      (stagedOptions "pstv=new.dtb") := by
    have hchosen : isConsoleLine nestedConsole.line = true := by decide
    rw [recordsPass_iff]
    exact ⟨_, _, nestedConsole, rfl, rfl, List.find?_cons_of_pos hchosen, rfl⟩
  obtain ⟨src, entries, -, hentries, e, he, hpath, -⟩ := h _ _ _ hpass
  obtain rfl := Option.some.inj hentries
  obtain rfl := List.mem_singleton.mp he
  revert hpath
  unfold Entry.AtConsole
  decide

/-! ### What the script looks at -/

/-- An entry at `dev/console` that is no link is always looked at. -/
theorem isConsoleLine_of_atConsole {e : Entry} (h : e.AtConsole) (hnode : e.node.arrow = []) :
    isConsoleLine e.line = true := by
  have hword : ∀ c ∈ e.path, blank c = false := by
    refine List.all_iff_forall_prop.mp ?_
    rcases h with h | h | h <;> rw [h] <;> decide
  have hne : e.path ≠ [] := by
    rcases h with h | h | h <;> rw [h] <;> decide
  have hline : e.line = (e.columns ++ (e.node.numbers ++ ' ' :: e.date)) ++ ' ' :: e.path := by
    simp [Entry.line, hnode]
  rw [isConsoleLine, hline, Text.words_append_word _ rfl hne hword, List.getLastD_concat]
  rcases h with h | h | h <;> rw [h] <;> decide

/-- The gate is right of an archive in which nothing else is looked at. -/
theorem choosesConsole_of_atConsole {entries : List Entry}
    (h : ∀ e ∈ entries, isConsoleLine e.line = true → e.AtConsole) : ChoosesConsole entries := by
  intro e hfind hconsole
  have hmem := List.mem_of_find?_eq_some hfind
  exact ⟨e, hmem, h e hmem (by simpa using List.find?_some hfind), hconsole⟩

end Manifest

end VitaLinuxPort
