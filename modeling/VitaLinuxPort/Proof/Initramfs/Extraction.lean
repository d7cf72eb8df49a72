import VitaLinuxPort.Tools.Initramfs

/-!
# What the extracted initramfs is

Where the script succeeds, the addresses lie in the sections chosen for them and everything it reads is
in the file. It does not look where a section ends: past the end the bytes are those of whatever the
file has there.
-/

namespace VitaLinuxPort

namespace Initramfs

/-- The byte of the file that a section has at an address in memory. -/
def Section.byteAt (sec : Section) (data : List UInt8) (addr : Nat) : Option UInt8 :=
  if sec.Contains addr then data[sec.fileOff addr]? else none

theorem sectionOf_eq_ok {sections : List Section} {symbol : CString} {addr : Nat} {sec : Section}
    (h : sectionOf sections symbol addr = .ok sec) : sec ∈ sections ∧ sec.Contains addr := by
  rw [sectionOf] at h
  split at h
  case h_1 found hfound =>
    obtain rfl := Except.ok.inj h
    exact ⟨List.mem_of_find?_eq_some hfound, by simpa using List.find?_some hfound⟩
  case h_2 => exact nomatch h

theorem readAll_eq_ok {data bytes : List UInt8} {off length : Nat} {what : String} :
    readAll data off length what = .ok bytes ↔
      bytes = Python.slice data off (off + length) ∧ bytes.length = length := by
  simp only [readAll]
  split
  case isTrue hshort =>
    refine iff_of_false (fun h => nomatch h) ?_
    rintro ⟨rfl, hlength⟩
    exact hshort hlength
  case isFalse hlength =>
    rw [Except.ok.injEq, eq_comm]
    constructor
    · rintro rfl
      exact ⟨rfl, not_not.mp hlength⟩
    · exact And.left

/-- Consecutive bytes of the file are those that a section has from an address on, exactly where the
section goes on as long. -/
theorem forall_byteAt_iff {sec : Section} {data bytes : List UInt8} {addr length : Nat} {what : String}
    (hcontains : sec.Contains addr) (hread : readAll data (sec.fileOff addr) length what = .ok bytes) :
    (∀ i < length, sec.byteAt data (addr + i) = bytes[i]?) ↔ addr + length ≤ sec.addr + sec.size := by
  obtain ⟨rfl, hlength⟩ := readAll_eq_ok.mp hread
  obtain ⟨hfirst, hlast⟩ := hcontains
  have hbyte : ∀ i < length, (Python.slice data (sec.fileOff addr) (sec.fileOff addr + length))[i]?
      = data[sec.fileOff (addr + i)]? := by
    intro i hi
    rw [Python.getElem?_slice, if_pos (by omega), Section.fileOff, Section.fileOff,
      Nat.add_assoc, ← Nat.sub_add_comm hfirst]
  constructor
  · intro hbytes
    by_contra hends
    have hend := hbytes (sec.addr + sec.size - addr) (by omega)
    have hpresent := List.getElem?_eq_getElem
      (show sec.addr + sec.size - addr < (Python.slice data _ _).length by
        rw [hlength]; omega)
    have hpast : ¬sec.Contains (addr + (sec.addr + sec.size - addr)) := by
      rintro ⟨-, hbelow⟩
      omega
    rw [Section.byteAt, if_neg hpast, hpresent] at hend
    exact nomatch hend
  · intro hends i hi
    have hinside : sec.Contains (addr + i) := ⟨by omega, by omega⟩
    rw [Section.byteAt, if_pos hinside, hbyte i hi]

/-- The script's work, step by step. -/
theorem main_eq_ok {kernel : Kernel} {found : Extraction} (h : main kernel = .ok found) :
    checkEndianness kernel.header = .ok found.endianness ∧
      findSymbolAddr kernel.symbolLines startSymbol = .ok found.startAddr ∧
      findSymbolAddr kernel.symbolLines sizeSymbol = .ok found.sizeAddr ∧
      sectionOf (listSections kernel.sectionLines) startSymbol found.startAddr
        = .ok found.startSection ∧
      sectionOf (listSections kernel.sectionLines) sizeSymbol found.sizeAddr
        = .ok found.sizeSection ∧
      (∃ stored, readAll kernel.data (found.sizeSection.fileOff found.sizeAddr) 4 "__initramfs_size"
          = .ok stored ∧ found.size = fromBytes found.endianness stored) ∧
      0 < found.size ∧
      readAll kernel.data (found.startSection.fileOff found.startAddr) found.size "initramfs blob"
        = .ok found.blob := by
  simp only [main, Python.bind_eq_ok] at h
  obtain ⟨endianness, hendianness, startAddr, hstart, sizeAddr, hsize, startSection, hstartSection,
    sizeSection, hsizeSection, stored, hstored, h⟩ := h
  split at h
  case isTrue => exact nomatch h
  case isFalse hplausible =>
    obtain ⟨blob, hblob, h⟩ := Python.bind_eq_ok.mp h
    obtain rfl := Except.ok.inj h
    exact ⟨hendianness, hstart, hsize, hstartSection, hsizeSection, ⟨stored, hstored, rfl⟩,
      Nat.pos_of_ne_zero fun hzero => hplausible (.inl hzero.le), hblob⟩

/-- What is extracted is what the section table says: the sections are in the table and contain the
symbols' addresses; the size is the integer at the one address, and the blob the bytes from the other
on, as many; and it ends inside its section. -/
structure FollowsTable (kernel : Kernel) (found : Extraction) : Prop where
  start : findSymbolAddr kernel.symbolLines startSymbol = .ok found.startAddr ∧
    found.startSection ∈ listSections kernel.sectionLines ∧
    found.startSection.Contains found.startAddr
  size : findSymbolAddr kernel.symbolLines sizeSymbol = .ok found.sizeAddr ∧
    found.sizeSection ∈ listSections kernel.sectionLines ∧
    found.sizeSection.Contains found.sizeAddr
  stored : ∃ stored : List UInt8, stored.length = 4 ∧
    (∀ i < 4, found.sizeSection.byteAt kernel.data (found.sizeAddr + i) = stored[i]?) ∧
    found.size = fromBytes found.endianness stored
  length : found.blob.length = found.size
  bytes : ∀ i < found.size,
    found.startSection.byteAt kernel.data (found.startAddr + i) = found.blob[i]?
  inside : found.startAddr + found.size ≤ found.startSection.addr + found.startSection.size

/-- The sections that contain the symbols go on to the end of what is stored there: the four bytes of
the size, and as many bytes as those four say. -/
def Kernel.EndsInside (kernel : Kernel) : Prop :=
  ∀ endianness startAddr sizeAddr startSection sizeSection,
    checkEndianness kernel.header = .ok endianness →
    findSymbolAddr kernel.symbolLines startSymbol = .ok startAddr →
    findSymbolAddr kernel.symbolLines sizeSymbol = .ok sizeAddr →
    sectionOf (listSections kernel.sectionLines) startSymbol startAddr = .ok startSection →
    sectionOf (listSections kernel.sectionLines) sizeSymbol sizeAddr = .ok sizeSection →
    sizeAddr + 4 ≤ sizeSection.addr + sizeSection.size ∧
      startAddr + fromBytes endianness (Python.slice kernel.data (sizeSection.fileOff sizeAddr)
        (sizeSection.fileOff sizeAddr + 4)) ≤ startSection.addr + startSection.size

/-- An extraction follows the section table exactly where neither the size nor the initramfs goes on
past the end of its section. -/
theorem extraction_follows_table_iff {kernel : Kernel} {found : Extraction}
    (h : main kernel = .ok found) : FollowsTable kernel found ↔ kernel.EndsInside := by
  obtain ⟨hendianness, hstart, hsize, hstartSection, hsizeSection, ⟨stored, hread, hsizeEq⟩, hpos,
    hblob⟩ := main_eq_ok h
  obtain ⟨hstartMem, hstartContains⟩ := sectionOf_eq_ok hstartSection
  obtain ⟨hsizeMem, hsizeContains⟩ := sectionOf_eq_ok hsizeSection
  obtain ⟨hstored, hfour⟩ := readAll_eq_ok.mp hread
  have hblobIff := forall_byteAt_iff hstartContains hblob
  have hsizeIff := forall_byteAt_iff hsizeContains hread
  constructor
  · intro hfollows
    obtain ⟨other, hother, hbytes, -⟩ := hfollows.stored
    have hsizeInside : found.sizeAddr + 4 ≤ found.sizeSection.addr + found.sizeSection.size := by
      have hthird := hbytes 3 (by decide)
      rw [List.getElem?_eq_getElem (by omega), Section.byteAt] at hthird
      split at hthird
      case isTrue hcontains =>
        have := hcontains.2
        omega
      case isFalse => exact nomatch hthird
    intro endianness startAddr sizeAddr startSection sizeSection hendianness' hstart' hsize'
      hstartSection' hsizeSection'
    obtain rfl := Except.ok.inj (hendianness.symm.trans hendianness')
    obtain rfl := Except.ok.inj (hstart.symm.trans hstart')
    obtain rfl := Except.ok.inj (hsize.symm.trans hsize')
    obtain rfl := Except.ok.inj (hstartSection.symm.trans hstartSection')
    obtain rfl := Except.ok.inj (hsizeSection.symm.trans hsizeSection')
    rw [← hstored, ← hsizeEq]
    exact ⟨hsizeInside, hfollows.inside⟩
  · intro hends
    obtain ⟨hsizeInside, hstartInside⟩ :=
      hends _ _ _ _ _ hendianness hstart hsize hstartSection hsizeSection
    rw [← hstored, ← hsizeEq] at hstartInside
    exact ⟨⟨hstart, hstartMem, hstartContains⟩, ⟨hsize, hsizeMem, hsizeContains⟩,
      ⟨stored, hfour, hsizeIff.mpr hsizeInside, hsizeEq⟩, (readAll_eq_ok.mp hblob).2,
      hblobIff.mpr hstartInside, hstartInside⟩

section Examples

/-- A kernel of ten bytes: a section of data, in which the size is `size`, and two bytes after it. -/
def tinyKernel (size : UInt8) : Kernel where
  header := "  Data: 2's complement, little endian".toList
  symbolLines := [⟨4096, sizeSymbol⟩, ⟨4100, startSymbol⟩]
  sectionLines := [⟨⟨".init.data".toList, 4096, 0, 8⟩, "PROGBITS".toList⟩]
  data := [size, 0, 0, 0, 1, 2, 3, 4, 9, 9]

/-- What is taken out of it. -/
def tinyExtraction (size : UInt8) (blob : List UInt8) : Extraction where
  startAddr := 4100
  startSection := ⟨".init.data".toList, 4096, 0, 8⟩
  sizeAddr := 4096
  sizeSection := ⟨".init.data".toList, 4096, 0, 8⟩
  endianness := .little
  size := size.toNat
  blob

theorem main_tinyKernel :
    main (tinyKernel 4) = .ok (tinyExtraction 4 [1, 2, 3, 4]) ∧
      main (tinyKernel 6) = .ok (tinyExtraction 6 [1, 2, 3, 4, 9, 9]) := by
  decide

theorem extraction_follows_table_iff_tinyKernel :
    FollowsTable (tinyKernel 4) (tinyExtraction 4 [1, 2, 3, 4]) ↔ (tinyKernel 4).EndsInside :=
  extraction_follows_table_iff main_tinyKernel.1

/-- With the size 6 the last two bytes are not the section's. -/
theorem extraction_follows_table_iff_past_end :
    ¬∀ (kernel : Kernel) (found : Extraction), main kernel = .ok found →
      FollowsTable kernel found := by
  intro h
  exact absurd (h _ _ main_tinyKernel.2).inside (by decide)

end Examples

end Initramfs

end VitaLinuxPort
