import VitaLinuxPort.Proof.FlashCheck.Errors

/-!
# The exit code

Status 3 is what `die` exits with. What goes wrong elsewhere is an exception, which exits 1 as if there
were flash pairs, or is no more than a warning, so that the code can be trusted exactly when nothing
goes wrong but what the script dies at.
-/

namespace VitaLinuxPort

namespace FlashCheck

open Python Ppm

section Contract

variable {F : Type} [PyFloat F] (w : World F) (table : UInt8 → F) (args : Args F)

/-- The series of the regions that are analysed. -/
def analysed : List (List F) :=
  match regionSeries w table args with
  | .ok (_, regions) => regions.map (·.2)
  | .error _ => []

/-- The frames of a second, 0 where nothing is analysed. -/
def analysisWindow : Nat :=
  match regionSeries w table args with
  | .ok (fps, _) => (rateWindow fps).getD 0
  | .error _ => 0

/-- The exit code means what the documentation says. -/
structure Trustworthy : Prop where
  zero : exitCode w table args = 0 →
    Decoded w args ∧ ∀ series ∈ analysed w table args, ¬ HasFlashPair series
  one : exitCode w table args = 1 →
    (∃ series ∈ analysed w table args, HasFlashPair series) ∧
      ∀ series ∈ analysed w table args, ¬ ExceedsRate (analysisWindow w table args) series
  two : exitCode w table args = 2 ↔
    ∃ series ∈ analysed w table args, ExceedsRate (analysisWindow w table args) series
  three : InputError w args → exitCode w table args = 3

end Contract

section Codes

variable {F : Type} [PyFloat F] {w : World F} {table : UInt8 → F} {args : Args F}

omit [PyFloat F] in
theorem verdict_le (worst : Region F) : verdict worst ≤ 2 := by
  unfold verdict
  split
  · exact le_rfl
  · split
    · decide
    · decide

theorem main_le {status : Nat} (h : main w table args = .ok status) : status ≤ 2 := by
  unfold main at h
  cases hchecked : checkRegions w table args with
  | error failure =>
    rw [hchecked] at h
    cases h
  | ok regions =>
    rw [hchecked] at h
    cases regions with
    | nil => cases h
    | cons first rest =>
      dsimp only [bind, Except.bind] at h
      split at h
      · cases h
      · split at h
        · cases h
        · cases h
          exact verdict_le _

/-- No verdict is the status of an error. -/
theorem exitCode_eq_three_iff : exitCode w table args = 3 ↔ Handled w args := by
  rw [← regionSeries_eq_died_iff table, ← main_eq_died_iff, exitCode]
  cases hmain : main w table args with
  | ok status =>
    have hle := main_le hmain
    constructor
    · intro h
      dsimp only at h
      omega
    · intro h
      cases h
  | error failure =>
    cases failure with
    | died => exact ⟨fun _ => rfl, fun _ => rfl⟩
    | raised =>
      constructor
      · intro h
        cases h
      · intro h
        cases h

variable (table) in
/-- Where nothing goes wrong, the status is the verdict on the regions. -/
theorem exists_exitCode_eq (h : ¬ InputError w args) :
    ∃ fps window first rest, regionSeries w table args = .ok (fps, first :: rest) ∧
      rateWindow fps = some window ∧
      exitCode w table args = verdict (maxBy worseThan (regionOf window first.1 first.2)
        (rest.map fun region => regionOf window region.1 region.2)) := by
  obtain ⟨fps, window, first, rest, hseries, hwindow⟩ := exists_regionSeries_eq table h
  refine ⟨fps, window, first, rest, hseries, hwindow, ?_⟩
  have hchecked : checkRegions w table args
      = .ok ((first :: rest).map fun region => regionOf window region.1 region.2) := by
    rw [checkRegions, hseries]
    exact mapM_eq_map fun region _ => analyse_eq hwindow region.2 region.1
  have hstdout : ¬ (!w.stdout) = true := by
    intro hout
    exact h (.noStdout (Bool.not_eq_true' _ ▸ hout))
  have hreport : ¬ (args.json ≠ [] ∧ (!w.writable args.json) = true) := by
    rintro ⟨hjson, hno⟩
    exact h (.noReport hjson (Bool.not_eq_true' _ ▸ hno))
  have hmain : main w table args = .ok (verdict (maxBy worseThan (regionOf window first.1 first.2)
      (rest.map fun region => regionOf window region.1 region.2))) := by
    rw [main, hchecked]
    exact (if_neg hstdout).trans (if_neg hreport)
  rw [exitCode, hmain]

/-- What the verdict says about the series of the regions. -/
theorem verdict_regionOf {window : Nat} (hwindow : 0 < window) (first : CString × List F)
    (rest : List (CString × List F)) {status : Nat}
    (hstatus : status = verdict (maxBy worseThan (regionOf window first.1 first.2)
      (rest.map fun region => regionOf window region.1 region.2))) :
    (status = 0 ∧ ∀ region ∈ first :: rest,
      ¬ ExceedsRate window region.2 ∧ ¬ HasFlashPair region.2) ∨
    (status = 1 ∧ (∃ region ∈ first :: rest, HasFlashPair region.2) ∧
      ∀ region ∈ first :: rest, ¬ ExceedsRate window region.2) ∨
    (status = 2 ∧ ∃ region ∈ first :: rest, ExceedsRate window region.2) := by
  have hregions : regionOf window first.1 first.2
        :: rest.map (fun region => regionOf window region.1 region.2)
      = (first :: rest).map fun region => regionOf window region.1 region.2 := rfl
  have hrate : ∀ region : CString × List F,
      (regionOf window region.1 region.2).rateExceeded = false ↔ ¬ ExceedsRate window region.2 := by
    intro region
    rw [← rateExceeded_regionOf hwindow region.1, Bool.not_eq_true]
  have hpairs : ∀ region : CString × List F,
      (regionOf window region.1 region.2).flashPairs = 0 ↔ ¬ HasFlashPair region.2 := by
    intro region
    rw [← flashPairs_regionOf window region.1, not_not]
  rw [hstatus]
  obtain ⟨h, hall⟩ | ⟨h, ⟨worst, hworst, hsome⟩, hall⟩ | ⟨h, worst, hworst, hsome⟩ :=
    verdict_worst (regionOf window first.1 first.2)
      (rest.map fun region => regionOf window region.1 region.2)
  · rw [hregions, List.forall_mem_map] at hall
    refine .inl ⟨h, fun region hregion => ?_⟩
    exact ⟨(hrate region).mp (hall region hregion).1, (hpairs region).mp (hall region hregion).2⟩
  · rw [hregions] at hworst hall
    obtain ⟨region, hregion, rfl⟩ := List.mem_map.mp hworst
    rw [List.forall_mem_map] at hall
    refine .inr (.inl ⟨h, ⟨region, hregion, (flashPairs_regionOf _ _ _).mp hsome⟩, ?_⟩)
    exact fun other hother => (hrate other).mp (hall other hother)
  · rw [hregions] at hworst
    obtain ⟨region, hregion, rfl⟩ := List.mem_map.mp hworst
    exact .inr (.inr ⟨h, region, hregion, (rateExceeded_regionOf hwindow _ _).mp hsome⟩)

theorem trustworthy_of_not_inputError (h : ¬ InputError w args) : Trustworthy w table args := by
  obtain ⟨fps, window, first, rest, hseries, hwindow, hexit⟩ := exists_exitCode_eq table h
  have hpos := pos_of_rateWindow hwindow
  have hanalysed : analysed w table args = (first :: rest).map (·.2) := by
    unfold analysed
    rw [hseries]
  have hrate : analysisWindow w table args = window := by
    unfold analysisWindow
    rw [hseries]
    dsimp only
    rw [hwindow]
    rfl
  have hdecoded := decoded_of_not_inputError h
  have hall : ∀ {p : List F → Prop},
      (∀ series ∈ analysed w table args, p series) ↔ ∀ region ∈ first :: rest, p region.2 := by
    intro p
    rw [hanalysed, List.forall_mem_map]
  have hsome : ∀ {p : List F → Prop},
      (∃ series ∈ analysed w table args, p series) ↔ ∃ region ∈ first :: rest, p region.2 := by
    intro p
    simp only [hanalysed, List.mem_map, exists_exists_and_eq_and]
  rw [← hrate] at hpos hexit
  obtain ⟨hstatus, hnone⟩ | ⟨hstatus, hflash, hnone⟩ | ⟨hstatus, hexceeds⟩ :=
    verdict_regionOf hpos first rest hexit
  · constructor
    · exact fun _ => ⟨hdecoded, hall.mpr fun region hregion => (hnone region hregion).2⟩
    · intro hone
      omega
    · refine ⟨fun htwo => by omega, fun hexceeds => ?_⟩
      obtain ⟨region, hregion, h⟩ := hsome.mp hexceeds
      exact absurd h (hnone region hregion).1
    · exact fun herror => absurd herror h
  · constructor
    · intro hzero
      omega
    · exact fun _ => ⟨hsome.mpr hflash, hall.mpr hnone⟩
    · refine ⟨fun htwo => by omega, fun hexceeds => ?_⟩
      obtain ⟨region, hregion, h⟩ := hsome.mp hexceeds
      exact absurd h (hnone region hregion)
    · exact fun herror => absurd herror h
  · constructor
    · intro hzero
      omega
    · intro hone
      omega
    · exact ⟨fun _ => hsome.mpr hexceeds, fun _ => hstatus⟩
    · exact fun herror => absurd herror h

/-- A run that dies analyses nothing. -/
theorem trustworthy_of_handled (h : Handled w args) : Trustworthy w table args := by
  have hexit : exitCode w table args = 3 := exitCode_eq_three_iff.mpr h
  have hanalysed : analysed w table args = [] := by
    unfold analysed
    rw [(regionSeries_eq_died_iff table).mpr h]
  constructor
  · intro hzero
    omega
  · intro hone
    omega
  · rw [hanalysed, hexit]
    constructor
    · intro htwo
      omega
    · rintro ⟨series, hseries, -⟩
      exact absurd hseries List.not_mem_nil
  · exact fun _ => hexit

end Codes

section Misled

/-- A decoder that stops after two black frames of one pixel, and two files that are no pictures. -/
def damagedInput : World ℚ where
  glob _ _ := ["frames/0.ppm".toList, "frames/1.ppm".toList]
  readFile _ := some [0x50, 0x35]
  which _ := true
  pathExists _ := true
  ffprobe _ := some
    { returncode := 0
      stdout := some (.object [("streams".toList, .array [.object
        [("width".toList, .int 1920), ("height".toList, .int 1080),
          ("r_frame_rate".toList, .string "30/1".toList),
          ("nb_frames".toList, .string "900".toList)]])]) }
  ffmpeg _ _ _ := some { output := List.replicate 12 0, broken := false, returncode := 1 }
  float text := (intOfBytes (text.map fun c => c.toNat.toUInt8)).map fun n => (n : ℚ)
  intOfText text := intOfBytes (text.map fun c => c.toNat.toUInt8)
  intOfFloat x := .value (if x < 0 then -(-x).floor else x.floor)
  setOrder := List.dedup
  stdout := true
  writable _ := true

/-- `capture.mp4 --cols 1 --rows 1 --grid 0`. -/
def videoArgs : Args ℚ where
  video := "capture.mp4".toList
  ppmDir := []
  ppmGlob := "*.ppm".toList
  fps := none
  cols := 1
  rows := 1
  grid := 0
  json := []

/-- `--ppm-dir frames --fps 30`. -/
def ppmArgs : Args ℚ where
  video := []
  ppmDir := "frames".toList
  ppmGlob := "*.ppm".toList
  fps := some 30
  cols := 32
  rows := 18
  grid := 4
  json := []

end Misled

end FlashCheck

end VitaLinuxPort
