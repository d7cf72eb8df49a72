import Mathlib.Data.List.TakeWhile
import VitaLinuxPort.Toolkit.VitaStorage

/-!
# What is extracted of a line of `blkid`

The pattern for a name takes the last place at which the name, an equals sign and a quote stand. That is
the start of a value whose key ends with the name, or the end of a value that ends with the name and the
sign; then what is taken is the text up to the next quote, which belongs to the next key.
-/

namespace VitaLinuxPort

namespace VitaStorage

structure Pair where
  key : CString
  value : CString
  key_plain : ∀ c ∈ key, c ≠ '"' ∧ c ≠ '=' ∧ c ≠ ' ' ∧ c ≠ '\n'
  value_plain : '"' ∉ value ∧ '\n' ∉ value

/-- A line: a device and its pairs, in any order. -/
structure Line where
  device : CString
  pairs : List Pair
  device_plain : '"' ∉ device ∧ '\n' ∉ device

def Pair.text (p : Pair) : CString := ' ' :: p.key ++ '=' :: '"' :: (p.value ++ ['"'])

def Line.text (l : Line) : CString := l.device ++ ':' :: l.pairs.flatMap Pair.text

/-- The value of a key, the first one where a key stands twice. -/
def valueOf (name : CString) (pairs : List Pair) : Option CString :=
  (pairs.find? fun p => p.key = name).map Pair.value

/-- What follows the last quote before the pairs, up to the first quote in them. -/
def following : List Pair → Option CString
  | [] => none
  | p :: _ => some (' ' :: p.key ++ ['='])

/-- What stands at the last place that looks like the name's value. -/
def lastText (name : CString) : List Pair → Option CString
  | [] => none
  | p :: pairs =>
      ((lastText name pairs).or (if name ++ ['='] <:+ p.value then following pairs else none)).or
        (if name <:+ p.key then some p.value else none)

/-- The last such place is the key's own, or what stands there is reported as the same. -/
def Line.ReadsOwn (l : Line) (name : CString) : Prop :=
  known ((lastText name l.pairs).getD []) = known ((valueOf name l.pairs).getD [])

/-! ### Places before a quote -/

/-- What is taken after a quote. -/
def quoted (rest : CString) : Option CString :=
  if '"' ∈ rest then some (rest.takeWhile (· ≠ '"')) else none

theorem quoted_append {start : CString} (rest : CString) (h : '"' ∉ start) :
    quoted (start ++ '"' :: rest) = some start := by
  have hstart : ∀ c ∈ start, (decide (c ≠ '"')) = true := by
    intro c hc
    simpa using (by rintro rfl; exact h hc : c ≠ '"')
  rw [quoted, if_pos (by simp), List.takeWhile_append_of_pos hstart,
    List.takeWhile_cons_of_neg (by simp), List.append_nil]

theorem valueAt_of_notMem {name text : CString} (h : '"' ∉ text) : valueAt name text = none := by
  unfold valueAt
  rw [if_neg]
  intro hstarts
  exact h (hstarts.subset (by simp))

theorem lastMatch_of_notMem {name text : CString} (h : '"' ∉ text) :
    Text.lastMatch (valueAt name) text = none := by
  induction text with
  | nil => exact valueAt_of_notMem h
  | cons c text ih =>
      rw [Text.lastMatch, ih fun hmem => h (List.mem_cons_of_mem c hmem), valueAt_of_notMem h]
      rfl

/-- Before the first quote a value can begin only where the name and the sign end there. -/
theorem valueAt_append {name start : CString} (rest : CString) (hname : '"' ∉ name)
    (hstart : '"' ∉ start) :
    valueAt name (start ++ '"' :: rest) = if name ++ ['='] = start then quoted rest else none := by
  have hsign : '"' ∉ name ++ ['='] := by simpa using hname
  by_cases heq : name ++ ['='] = start
  · have htext : start ++ '"' :: rest = (name ++ ['=', '"']) ++ rest := by simp [← heq]
    have hlength : name.length + 2 = (name ++ ['=', '"']).length := by simp
    rw [if_pos heq, valueAt, htext, if_pos (List.prefix_append _ rest), hlength, List.drop_left,
      quoted]
  · rw [if_neg heq, valueAt, if_neg]
    rintro ⟨tail, htail⟩
    have hboth : quoted ((name ++ ['=']) ++ '"' :: tail) = quoted (start ++ '"' :: rest) := by
      rw [← htail]
      simp
    rw [quoted_append tail hsign, quoted_append rest hstart] at hboth
    exact heq (Option.some.inj hboth)

/-- Up to a quote the last place is the quote's own, where the name and the sign end there. -/
theorem lastMatch_append {name start : CString} (rest : CString) (hname : '"' ∉ name)
    (hstart : '"' ∉ start) :
    Text.lastMatch (valueAt name) (start ++ '"' :: rest) =
      (Text.lastMatch (valueAt name) rest).or
        (if name ++ ['='] <:+ start then quoted rest else none) := by
  induction start with
  | nil =>
      rw [List.nil_append, Text.lastMatch, ← List.nil_append ('"' :: rest),
        valueAt_append rest hname hstart]
      simp
  | cons c start ih =>
      rw [List.mem_cons, not_or] at hstart
      rw [List.cons_append, Text.lastMatch, ih hstart.2, ← List.cons_append,
        valueAt_append rest hname (by simp [hstart.1, hstart.2]), Option.or_assoc]
      congr 1
      simp only [List.suffix_cons_iff]
      by_cases hhere : name ++ ['='] = c :: start
      · have hnot : ¬ name ++ ['='] <:+ start := fun h => by
          have hle := h.length_le
          rw [hhere, List.length_cons] at hle
          omega
        rw [if_pos hhere, if_neg hnot, if_pos (.inl hhere), Option.none_or]
      · simp [hhere]

/-! ### The places of a line -/

theorem quoted_flatMap (pairs : List Pair) :
    quoted (pairs.flatMap Pair.text) = following pairs := by
  cases pairs with
  | nil => rfl
  | cons p pairs =>
      have hkey : '"' ∉ ' ' :: p.key ++ ['='] := by
        have hplain : '"' ∉ p.key := fun h => (p.key_plain _ h).1 rfl
        simpa using hplain
      have htext : (p :: pairs).flatMap Pair.text =
          (' ' :: p.key ++ ['=']) ++ '"' :: (p.value ++ '"' :: pairs.flatMap Pair.text) := by
        simp [Pair.text]
      rw [htext, quoted_append _ hkey, following]

/-- A name without a blank ends a key with what is before it exactly where it ends the key. -/
theorem suffix_key_iff {name : CString} (start key : CString) (hname : ' ' ∉ name) :
    name ++ ['='] <:+ start ++ ' ' :: key ++ ['='] ↔ name <:+ key := by
  rw [List.suffix_append_inj_of_length_eq rfl]
  constructor
  · rintro ⟨h, -⟩
    rcases List.suffix_or_suffix_of_suffix h (List.suffix_append start (' ' :: key)) with hend | hend
    · rcases List.suffix_cons_iff.mp hend with rfl | hend
      · exact absurd List.mem_cons_self hname
      · exact hend
    · exact absurd (hend.subset List.mem_cons_self) hname
  · intro h
    exact ⟨h.trans ((List.suffix_cons ' ' key).trans (List.suffix_append start _)), rfl⟩

theorem lastMatch_pairs {name : CString} (hquote : '"' ∉ name) (hblank : ' ' ∉ name)
    (pairs : List Pair) {start : CString} (hstart : '"' ∉ start) :
    Text.lastMatch (valueAt name) (start ++ pairs.flatMap Pair.text) = lastText name pairs := by
  induction pairs generalizing start with
  | nil =>
      rw [List.flatMap_nil, List.append_nil, lastMatch_of_notMem hstart]
      rfl
  | cons p pairs ih =>
      have hkey : '"' ∉ start ++ ' ' :: p.key ++ ['='] := by
        have hplain : '"' ∉ p.key := fun h => (p.key_plain _ h).1 rfl
        simpa using ⟨hstart, hplain⟩
      have htext : start ++ (p :: pairs).flatMap Pair.text =
          (start ++ ' ' :: p.key ++ ['=']) ++ '"' :: (p.value ++ '"' :: pairs.flatMap Pair.text) := by
        simp [Pair.text]
      rw [htext, lastMatch_append _ hquote hkey, lastMatch_append _ hquote p.value_plain.1,
        quoted_flatMap, quoted_append _ p.value_plain.1, ← List.nil_append (pairs.flatMap Pair.text),
        ih List.not_mem_nil, lastText]
      simp only [suffix_key_iff start p.key hblank]

theorem newline_notMem_text (l : Line) : '\n' ∉ l.text := by
  have hpair : ∀ p ∈ l.pairs, '\n' ∉ p.text := by
    intro p _
    have hkey : '\n' ∉ p.key := fun h => (p.key_plain _ h).2.2.2 rfl
    simpa [Pair.text] using ⟨hkey, p.value_plain.2⟩
  simpa [Line.text, l.device_plain.2] using hpair

theorem newline_notMem_lastText {name text : CString} {pairs : List Pair}
    (h : lastText name pairs = some text) : '\n' ∉ text := by
  induction pairs with
  | nil => simp [lastText] at h
  | cons p pairs ih =>
      rw [lastText, Option.or_eq_some_iff, Option.or_eq_some_iff] at h
      rcases h with (hlater | ⟨-, hsign⟩) | ⟨-, hown⟩
      · exact ih hlater
      · split_ifs at hsign
        cases pairs with
        | nil => cases hsign
        | cons q pairs =>
            obtain rfl := Option.some.inj hsign
            have hkey : '\n' ∉ q.key := fun h => (q.key_plain _ h).2.2.2 rfl
            simpa using hkey
      · split_ifs at hown
        exact Option.some.inj hown ▸ p.value_plain.2

/-- What is extracted of a line. -/
theorem extracted_text {name : CString} (hquote : '"' ∉ name) (hblank : ' ' ∉ name) (l : Line) :
    extracted name (substituted l.text) = (lastText name l.pairs).getD [] := by
  have hdevice : '"' ∉ l.device ++ [':'] := by simpa using l.device_plain.1
  have hsed : sedValue name l.text = lastText name l.pairs := by
    have htext : l.text = (l.device ++ [':']) ++ l.pairs.flatMap Pair.text := by simp [Line.text]
    rw [sedValue, htext, lastMatch_pairs hquote hblank l.pairs hdevice]
  rw [substituted, Text.dropTrailing_of_notMem (newline_notMem_text l), extracted,
    List.splitOn_eq_singleton (newline_notMem_text l), List.filterMap_cons, hsed]
  cases hlast : lastText name l.pairs with
  | none => rfl
  | some text =>
      show substituted (['\n'].intercalate [text]) = text
      rw [List.intercalate_singleton, substituted,
        Text.dropTrailing_of_notMem (newline_notMem_lastText hlast)]

/-- Where no other key ends with the name and no value ends with it and the sign, the value is read. -/
theorem readsOwn_of_unshadowed {l : Line} {name : CString}
    (hnodup : (l.pairs.map Pair.key).Nodup)
    (hkeys : ∀ p ∈ l.pairs, name <:+ p.key → p.key = name)
    (hvalues : ∀ p ∈ l.pairs, ¬ name ++ ['='] <:+ p.value) : l.ReadsOwn name := by
  have hlast : ∀ pairs : List Pair, (∀ p ∈ pairs, name <:+ p.key → p.key = name) →
      (∀ p ∈ pairs, ¬ name ++ ['='] <:+ p.value) → (pairs.map Pair.key).Nodup →
      lastText name pairs = valueOf name pairs := by
    intro pairs hkeys hvalues hnodup
    induction pairs with
    | nil => rfl
    | cons p pairs ih =>
        rw [List.forall_mem_cons] at hkeys hvalues
        rw [List.map_cons, List.nodup_cons] at hnodup
        rw [lastText, if_neg hvalues.1, Option.or_none, ih hkeys.2 hvalues.2 hnodup.2, valueOf, valueOf]
        by_cases hkey : p.key = name
        · have hnone : pairs.find? (fun q => q.key = name) = none := by
            rw [List.find?_eq_none]
            intro q hq hname
            refine hnodup.1 (List.mem_map.mpr ⟨q, hq, ?_⟩)
            rw [hkey]
            simpa using hname
          rw [hnone, List.find?_cons_of_pos (by simpa using hkey), if_pos (hkey ▸ List.suffix_rfl)]
          rfl
        · rw [List.find?_cons_of_neg (by simpa using hkey), if_neg fun h => hkey (hkeys.1 h),
            Option.or_none]
  rw [Line.ReadsOwn, hlast l.pairs hkeys hvalues hnodup]

end VitaStorage

end VitaLinuxPort
