import VitaLinuxPort.Proof.FlashCheck.Analysis
import VitaLinuxPort.Proof.FlashCheck.Ppm

/-!
# What goes wrong, and what the script dies at

The conditions are on the arguments, on what the tools and the files give, and on the frames; which of
them the script dies at depends on what comes first in a run.
-/

namespace VitaLinuxPort

namespace FlashCheck

open Python Ppm

section Conditions

variable {F : Type} [PyFloat F] (w : World F) (table : UInt8 → F) (args : Args F)

/-- The file is there and is a picture. -/
def FileDecoded (path : CString) : Prop :=
  ∃ data width height raster, w.readFile path = some data ∧ IsPpm data width height raster

/-- The decoder says that it has decoded the whole video, and has written whole frames. -/
def VideoDecoded : Prop :=
  ∃ decoder, w.ffmpeg args.video args.cols args.rows = some decoder ∧ decoder.broken = false ∧
    decoder.returncode = 0 ∧ (frameBytes args.cols args.rows).toNat ∣ decoder.output.length

def Decoded : Prop :=
  if args.ppmDir ≠ [] then ∀ path ∈ w.glob args.ppmDir args.ppmGlob, FileDecoded w path
  else VideoDecoded w args

/-- The cells of the frame are inside it. -/
def CellsInside (frame : List Nat) : Prop :=
  0 < args.grid → luminanceCells (F := F) frame args.cols args.rows args.grid ≠ none

/-- What can go wrong with the input and the tools. -/
inductive InputError : Prop where
  | tooFewFiles (hdir : args.ppmDir ≠ []) (h : (w.glob args.ppmDir args.ppmGlob).length < 2)
  | badFile (hdir : args.ppmDir ≠ []) {path : CString}
      (hpath : path ∈ w.glob args.ppmDir args.ppmGlob) (h : ¬ FileDecoded w path)
  | noTool (hvideo : args.ppmDir = []) (h : toolsFound w = false)
  | noVideo (hvideo : args.ppmDir = []) (h : w.pathExists args.video = false)
  | noProbe (hvideo : args.ppmDir = []) (h : ∀ found, probeVideo w args.video ≠ .ok found)
  | badSize (hvideo : args.ppmDir = []) (h : frameBytes args.cols args.rows ≤ 0)
  | notDecoded (hvideo : args.ppmDir = []) (h : ¬ VideoDecoded w args)
  | tooFewFrames (hvideo : args.ppmDir = []) {frames : List (List Nat)}
      (hframes : videoFrames w args = .ok frames) (h : frames.length < 2)
  | cellOutside (hvideo : args.ppmDir = []) {frames : List (List Nat)}
      (hframes : videoFrames w args = .ok frames) {frame : List Nat} (hframe : frame ∈ frames)
      (h : ¬ CellsInside args frame)
  | badFileRate (hdir : args.ppmDir ≠ []) (h : rateWindow (fpsOr args (ofInt 30)) = none)
  | badVideoRate (hvideo : args.ppmDir = []) {found : F × Int × Int}
      (hfound : probeVideo w args.video = .ok found) (h : rateWindow (fpsOr args found.1) = none)
  | noStdout (h : w.stdout = false)
  | noReport (hjson : args.json ≠ []) (h : w.writable args.json = false)

/-- The errors that come first in a run and that the script dies at. -/
inductive Handled : Prop where
  | tooFewFiles (hdir : args.ppmDir ≠ []) (h : (w.glob args.ppmDir args.ppmGlob).length < 2)
  | noTool (hvideo : args.ppmDir = []) (h : toolsFound w = false)
  | noVideo (hvideo : args.ppmDir = []) (htools : toolsFound w = true)
      (h : w.pathExists args.video = false)
  | noStream (hvideo : args.ppmDir = []) (htools : toolsFound w = true)
      (hexists : w.pathExists args.video = true) (h : probeVideo w args.video = die)
  | tooFewFrames (hvideo : args.ppmDir = []) (htools : toolsFound w = true)
      (hexists : w.pathExists args.video = true) {found : F × Int × Int}
      (hfound : probeVideo w args.video = .ok found) {frames : List (List Nat)}
      (hframes : videoFrames w args = .ok frames) (hcells : ∀ frame ∈ frames, CellsInside args frame)
      (h : frames.length < 2)

end Conditions

section Sequences

variable {α β : Type} {f : α → Run β} {l : List α}

theorem exists_mapM_eq_ok (hf : ∀ a ∈ l, ∃ b, f a = .ok b) : ∃ bs, l.mapM f = .ok bs := by
  induction l with
  | nil => exact ⟨[], rfl⟩
  | cons a l ih =>
    obtain ⟨hhead, htail⟩ := List.forall_mem_cons.mp hf
    obtain ⟨b, hb⟩ := hhead
    obtain ⟨bs, hbs⟩ := ih htail
    refine ⟨b :: bs, ?_⟩
    rw [List.mapM_cons, hb]
    dsimp only [bind, Except.bind]
    rw [hbs]
    rfl

theorem forall_of_mapM_eq_ok {bs : List β} (h : l.mapM f = .ok bs) :
    bs.length = l.length ∧ ∀ a ∈ l, ∃ b, f a = .ok b := by
  induction l generalizing bs with
  | nil =>
    cases h
    exact ⟨rfl, fun a ha => absurd ha List.not_mem_nil⟩
  | cons a l ih =>
    rw [List.mapM_cons] at h
    cases hb : f a with
    | error failure => rw [hb] at h; cases h
    | ok b =>
      rw [hb] at h
      cases hbs : l.mapM f with
      | error failure => rw [hbs] at h; cases h
      | ok rest =>
        rw [hbs] at h
        cases h
        obtain ⟨hlength, hall⟩ := ih hbs
        exact ⟨by rw [List.length_cons, List.length_cons, hlength],
          List.forall_mem_cons.mpr ⟨⟨b, hb⟩, hall⟩⟩

theorem mapM_eq_map {g : α → β} (hf : ∀ a ∈ l, f a = .ok (g a)) : l.mapM f = .ok (l.map g) := by
  induction l with
  | nil => rfl
  | cons a l ih =>
    obtain ⟨hhead, htail⟩ := List.forall_mem_cons.mp hf
    rw [List.mapM_cons, hhead, ih htail]
    rfl

end Sequences

section Died

variable {F : Type} [PyFloat F] {w : World F} {table : UInt8 → F} {args : Args F}

theorem bind_eq_died_iff {α β : Type} {x : Run α} {f : α → Run β} :
    (x >>= f) = .error .died ↔ x = .error .died ∨ ∃ a, x = .ok a ∧ f a = .error .died := by
  cases x with
  | error failure =>
    constructor
    · intro h
      cases h
      exact .inl rfl
    · rintro (h | ⟨a, h, -⟩)
      · cases h
        rfl
      · cases h
  | ok a =>
    constructor
    · exact fun h => .inr ⟨a, rfl, h⟩
    · rintro (h | ⟨b, h, hdied⟩)
      · cases h
      · cases h
        exact hdied

theorem bind_eq_died {α β : Type} {x : Run α} {f : α → Run β} (hf : ∀ a, f a ≠ .error .died) :
    (x >>= f) = .error .died ↔ x = .error .died := by
  rw [bind_eq_died_iff, or_iff_left]
  rintro ⟨a, -, h⟩
  exact hf a h

theorem ok_ne_died {α : Type} (a : α) : (pure a : Run α) ≠ .error .died := fun h => nomatch h

theorem raise_ne_died {α : Type} : (raise : Run α) ≠ .error .died := fun h => nomatch h

theorem mapM_ne_died {α β : Type} {f : α → Run β} (hf : ∀ a, f a ≠ .error .died) (l : List α) :
    l.mapM f ≠ .error .died := by
  induction l with
  | nil => exact ok_ne_died []
  | cons a l ih =>
    rw [List.mapM_cons, Ne, bind_eq_died]
    · exact hf a
    · intro b
      rw [Ne, bind_eq_died fun bs => ok_ne_died _]
      exact ih

theorem orRaise_ne_died {α : Type} (value : Option α) : orRaise value ≠ .error .died := by
  cases value with
  | none => exact raise_ne_died
  | some a => exact ok_ne_died a

theorem analyse_ne_died (series : List F) (fps : F) (label : CString) :
    analyse series fps label ≠ .error .died := by
  rw [analyse, Ne, bind_eq_died fun window => ok_ne_died _]
  exact orRaise_ne_died _

theorem fileLuminance_ne_died (path : CString) : fileLuminance w table path ≠ .error .died := by
  rw [fileLuminance, Ne, bind_eq_died]
  · exact orRaise_ne_died _
  · intro data
    rw [Ne, bind_eq_died]
    · exact orRaise_ne_died _
    · rintro ⟨_, _, pixels⟩
      dsimp only
      unfold ppmLuminance
      split
      · exact raise_ne_died
      · exact ok_ne_died _

theorem luminanceGlobal_ne_died (values : List Nat) :
    (luminanceGlobal values : Run F) ≠ .error .died := by
  unfold luminanceGlobal
  dsimp only
  split
  · exact raise_ne_died
  · exact ok_ne_died _

theorem streamFrames_ne_died (decoder : Option Decoder) (cols rows : Int) :
    streamFrames decoder cols rows ≠ .error .died := by
  unfold streamFrames
  split
  · exact raise_ne_died
  · split
    · exact raise_ne_died
    · split
      · exact ok_ne_died _
      · split
        · exact raise_ne_died
        · exact ok_ne_died _

/-- Nothing dies after the series are there. -/
theorem main_eq_died_iff :
    main w table args = .error .died ↔ regionSeries w table args = .error .died := by
  rw [main, bind_eq_died]
  · rw [checkRegions, bind_eq_died]
    intro (fps, regions)
    exact mapM_ne_died (fun region => analyse_ne_died _ _ _) _
  · intro results
    split
    · exact raise_ne_died
    · dsimp only
      split
      · exact raise_ne_died
      · split
        · exact raise_ne_died
        · exact ok_ne_died _

theorem ppmSeries_eq_died_iff :
    ppmSeries w table args = .error .died ↔ (w.glob args.ppmDir args.ppmGlob).length < 2 := by
  unfold ppmSeries
  dsimp only
  split
  · rename_i h
    exact ⟨fun _ => h, fun _ => rfl⟩
  · rename_i h
    rw [bind_eq_died fun series => ok_ne_died _]
    exact ⟨fun hdied => absurd hdied (mapM_ne_died fileLuminance_ne_died _), fun hlt => absurd hlt h⟩

theorem frameCells_ne_died (frame : List Nat) : frameCells args frame ≠ .error .died := by
  unfold frameCells
  split
  · exact orRaise_ne_died _
  · exact ok_ne_died _

theorem exists_frameCells_iff (frame : List Nat) :
    (∃ cells : List F, frameCells args frame = .ok cells) ↔ CellsInside args frame := by
  unfold frameCells CellsInside
  split
  · rename_i hgrid
    cases hcells : luminanceCells (F := F) frame args.cols args.rows args.grid with
    | none =>
      constructor
      · rintro ⟨cells, h⟩
        cases h
      · exact fun h => absurd rfl (h hgrid)
    | some cells =>
      constructor
      · intro _ _ h
        cases h
      · exact fun _ => ⟨cells, rfl⟩
  · rename_i hgrid
    exact ⟨fun _ h => absurd h hgrid, fun _ => ⟨[], rfl⟩⟩

/-- What the run does with a video that is there and has a frame rate. -/
theorem videoSeries_eq (htools : toolsFound w = true) (hexists : w.pathExists args.video = true)
    {found : F × Int × Int} (hfound : probeVideo w args.video = .ok found) :
    videoSeries w args = videoFrames w args >>= fun frames =>
      frames.mapM luminanceGlobal >>= fun globals =>
        frames.mapM (frameCells args) >>= fun cells =>
          if globals.length < 2 then die
          else if !w.stdout then raise
          else pure (fpsOr args found.1, ("global".toList, globals) :: cellSeries args.grid cells) := by
  unfold videoSeries
  rw [htools, hexists, hfound]
  rfl

theorem mem_readFrames {size fuel : Nat} {output chunk : List UInt8}
    (h : chunk ∈ readFrames size fuel output) : chunk.length = size := by
  induction fuel generalizing output with
  | zero => exact absurd h List.not_mem_nil
  | succ fuel ih =>
    rw [readFrames] at h
    split at h
    · exact absurd h List.not_mem_nil
    · split at h
      · exact absurd h List.not_mem_nil
      · rename_i hlength
        obtain rfl | h := List.mem_cons.mp h
        · rw [List.length_take] at hlength ⊢
          omega
        · exact ih h

theorem length_frameValues (bytes : List UInt8) : (frameValues bytes).length = bytes.length / 2 := by
  induction bytes using frameValues.induct with
  | case1 low high rest ih =>
    rw [frameValues, List.length_cons, ih, List.length_cons, List.length_cons]
    omega
  | case2 bytes h =>
    cases bytes with
    | nil => rfl
    | cons low bytes =>
      cases bytes with
      | nil => simp [frameValues]
      | cons high rest => exact absurd rfl (h low high rest)

/-- Every frame has a pixel. -/
theorem exists_luminanceGlobal {frames : List (List Nat)} (hframes : videoFrames w args = .ok frames) :
    ∀ frame ∈ frames, ∃ luminance : F, luminanceGlobal frame = .ok luminance := by
  intro frame hframe
  unfold videoFrames streamFrames at hframes
  split at hframes
  · cases hframes
  · split at hframes
    · cases hframes
    · split at hframes
      · cases hframes
        exact absurd hframe List.not_mem_nil
      · split at hframes
        · cases hframes
        · cases hframes
          obtain ⟨chunk, hchunk, rfl⟩ := List.mem_map.mp hframe
          have hlength := mem_readFrames hchunk
          refine ⟨_, if_neg ?_⟩
          rw [length_frameValues, hlength]
          unfold frameBytes at *
          omega

/-- What it does once there are frames. -/
theorem exists_videoSeries_eq (htools : toolsFound w = true) (hexists : w.pathExists args.video = true)
    {found : F × Int × Int} (hfound : probeVideo w args.video = .ok found) {frames : List (List Nat)}
    (hframes : videoFrames w args = .ok frames) (hcells : ∀ frame ∈ frames, CellsInside args frame) :
    ∃ first rest, videoSeries w args =
      if frames.length < 2 then die
      else if !w.stdout then raise
      else pure (fpsOr args found.1, first :: rest) := by
  obtain ⟨globals, hglobals⟩ := exists_mapM_eq_ok (exists_luminanceGlobal (F := F) hframes)
  obtain ⟨cells, hcells⟩ := exists_mapM_eq_ok fun frame hframe =>
    (exists_frameCells_iff frame).mpr (hcells frame hframe)
  have hlength := (forall_of_mapM_eq_ok hglobals).1
  refine ⟨("global".toList, globals), cellSeries args.grid cells, ?_⟩
  rw [videoSeries_eq htools hexists hfound, hframes, ← hlength]
  dsimp only [bind, Except.bind]
  rw [hglobals, hcells]

theorem videoSeries_eq_died_iff (hvideo : args.ppmDir = []) :
    videoSeries w args = .error .died ↔ Handled w args := by
  cases htools : toolsFound w with
  | false =>
    refine ⟨fun _ => .noTool hvideo htools, fun _ => ?_⟩
    unfold videoSeries
    rw [htools]
    rfl
  | true =>
  cases hexists : w.pathExists args.video with
  | false =>
    refine ⟨fun _ => .noVideo hvideo htools hexists, fun _ => ?_⟩
    unfold videoSeries
    rw [htools, hexists]
    rfl
  | true =>
  constructor
  · intro h
    cases hfound : probeVideo w args.video with
    | error failure =>
      unfold videoSeries at h
      rw [htools, hexists, hfound] at h
      cases h
      exact .noStream hvideo htools hexists hfound
    | ok found =>
      rw [videoSeries_eq htools hexists hfound] at h
      -- nothing before the count of the frames dies
      obtain hframes | ⟨frames, hframes, h⟩ := bind_eq_died_iff.mp h
      · exact absurd hframes (streamFrames_ne_died _ _ _)
      obtain hglobals | ⟨globals, hglobals, h⟩ := bind_eq_died_iff.mp h
      · exact absurd hglobals (mapM_ne_died luminanceGlobal_ne_died _)
      obtain hcells | ⟨cells, hcells, h⟩ := bind_eq_died_iff.mp h
      · exact absurd hcells (mapM_ne_died frameCells_ne_died _)
      split at h
      · rename_i hlength
        refine .tooFewFrames hvideo htools hexists hfound hframes ?_ ?_
        · intro frame hframe
          exact (exists_frameCells_iff frame).mp ((forall_of_mapM_eq_ok hcells).2 frame hframe)
        · rw [← (forall_of_mapM_eq_ok hglobals).1]
          exact hlength
      · split at h
        · cases h
        · cases h
  · intro h
    cases h with
    | tooFewFiles hdir _ => exact absurd hvideo hdir
    | noTool _ h => rw [htools] at h; cases h
    | noVideo _ _ h => rw [hexists] at h; cases h
    | noStream _ _ _ h =>
      unfold videoSeries
      rw [htools, hexists, h]
      rfl
    | tooFewFrames _ _ _ hfound hframes hcells h =>
      obtain ⟨first, rest, heq⟩ := exists_videoSeries_eq htools hexists hfound hframes hcells
      rw [heq, if_pos h]
      rfl

variable (table) in
theorem regionSeries_eq_died_iff :
    regionSeries w table args = .error .died ↔ Handled w args := by
  unfold regionSeries
  split
  · rename_i hdir
    rw [ppmSeries_eq_died_iff]
    constructor
    · exact fun h => .tooFewFiles hdir h
    · intro h
      cases h with
      | tooFewFiles _ h => exact h
      | noTool hvideo _ => exact absurd hvideo hdir
      | noVideo hvideo _ _ => exact absurd hvideo hdir
      | noStream hvideo _ _ _ => exact absurd hvideo hdir
      | tooFewFrames hvideo _ _ _ _ _ _ => exact absurd hvideo hdir
  · rename_i hdir
    exact videoSeries_eq_died_iff (not_not.mp hdir)

end Died

section Fine

variable {F : Type} [PyFloat F] {w : World F} {table : UInt8 → F} {args : Args F}

variable (table) in
theorem exists_fileLuminance_eq {path : CString} (h : FileDecoded w path) :
    ∃ luminance, fileLuminance w table path = .ok luminance := by
  obtain ⟨data, width, height, raster, hread, hppm⟩ := h
  have hraster : 3 ≤ raster.length := by
    obtain ⟨_, _, _, _, _, _, _, _, _, _, hwidth, hheight, hraster⟩ := hppm
    have hpixels : 0 < width * height := Nat.mul_pos hwidth hheight
    omega
  obtain ⟨luminance, hluminance⟩ := ppmLuminance_ne_raise w.setOrder table hraster
  refine ⟨luminance, ?_⟩
  rw [fileLuminance, hread, ← hluminance]
  dsimp only [orRaise, bind, Except.bind]
  rw [readPpm_of_isPpm hppm]

theorem decoded_of_not_inputError (h : ¬ InputError w args) : Decoded w args := by
  unfold Decoded
  split
  · rename_i hdir
    intro path hpath
    by_contra hbad
    exact h (.badFile hdir hpath hbad)
  · rename_i hdir
    by_contra hbad
    exact h (.notDecoded (not_not.mp hdir) hbad)

omit [PyFloat F] in
theorem exists_videoFrames_eq (h : VideoDecoded w args) (hsize : 0 < frameBytes args.cols args.rows) :
    ∃ frames, videoFrames w args = .ok frames := by
  obtain ⟨decoder, hdecoder, hwhole, -, -⟩ := h
  refine ⟨(readFrames (frameBytes args.cols args.rows).toNat (decoder.output.length + 1)
    decoder.output).map frameValues, ?_⟩
  unfold videoFrames streamFrames
  rw [hdecoder]
  dsimp only
  rw [if_neg (by omega), if_neg (by omega), hwhole, if_neg Bool.false_ne_true]

variable (table) in
theorem exists_ppmSeries_eq_ok (hdir : args.ppmDir ≠ []) (h : ¬ InputError w args) :
    ∃ fps window first rest, ppmSeries w table args = .ok (fps, first :: rest) ∧
      rateWindow fps = some window := by
  have hdecoded := decoded_of_not_inputError h
  unfold Decoded at hdecoded
  rw [if_pos hdir] at hdecoded
  have henough : ¬ (w.glob args.ppmDir args.ppmGlob).length < 2 := fun hfew =>
    h (.tooFewFiles hdir hfew)
  obtain ⟨series, hseries⟩ := exists_mapM_eq_ok fun path hpath =>
    exists_fileLuminance_eq table (hdecoded path hpath)
  cases hrate : rateWindow (fpsOr args (ofInt 30)) with
  | none => exact absurd (.badFileRate hdir hrate) h
  | some window =>
    refine ⟨_, window, ("global".toList, series), [], ?_, hrate⟩
    rw [ppmSeries, if_neg henough, hseries]
    rfl

theorem exists_videoSeries_eq_ok (hvideo : args.ppmDir = []) (h : ¬ InputError w args) :
    ∃ fps window first rest, videoSeries w args = .ok (fps, first :: rest) ∧
      rateWindow fps = some window := by
  have hdecoded := decoded_of_not_inputError h
  unfold Decoded at hdecoded
  rw [if_neg (not_not.mpr hvideo)] at hdecoded
  have htools : toolsFound w = true := by
    by_contra hno
    exact h (.noTool hvideo (Bool.not_eq_true _ ▸ hno))
  have hexists : w.pathExists args.video = true := by
    by_contra hno
    exact h (.noVideo hvideo (Bool.not_eq_true _ ▸ hno))
  have hstdout : (!w.stdout) = false := by
    cases hout : w.stdout with
    | false => exact absurd (.noStdout hout) h
    | true => rfl
  have hsize : 0 < frameBytes args.cols args.rows := by
    by_contra hno
    exact h (.badSize hvideo (not_lt.mp hno))
  obtain ⟨frames, hframes⟩ := exists_videoFrames_eq hdecoded hsize
  have henough : ¬ frames.length < 2 := fun hfew => h (.tooFewFrames hvideo hframes hfew)
  have hcells : ∀ frame ∈ frames, CellsInside args frame := by
    intro frame hframe
    by_contra hout
    exact h (.cellOutside hvideo hframes hframe hout)
  cases hfound : probeVideo w args.video with
  | error failure =>
    refine absurd (.noProbe hvideo ?_) h
    intro found hok
    rw [hfound] at hok
    cases hok
  | ok found =>
    obtain ⟨first, rest, heq⟩ := exists_videoSeries_eq htools hexists hfound hframes hcells
    cases hrate : rateWindow (fpsOr args found.1) with
    | none => exact absurd (.badVideoRate hvideo hfound hrate) h
    | some window =>
      refine ⟨_, window, first, rest, ?_, hrate⟩
      rw [heq, if_neg henough, hstdout, if_neg Bool.false_ne_true]
      rfl

variable (table) in
/-- Where nothing goes wrong, there are series and a window to analyse them with. -/
theorem exists_regionSeries_eq (h : ¬ InputError w args) :
    ∃ fps window first rest, regionSeries w table args = .ok (fps, first :: rest) ∧
      rateWindow fps = some window := by
  unfold regionSeries
  split
  · rename_i hdir
    exact exists_ppmSeries_eq_ok table hdir h
  · rename_i hdir
    exact exists_videoSeries_eq_ok (not_not.mp hdir) h

end Fine

end FlashCheck

end VitaLinuxPort
