import Mathlib.Algebra.Ring.Nat
import VitaLinuxPort.Lib.Ppm
import VitaLinuxPort.Machine

/-!
# The flash checker

`cart/scripts/capture-flash-check.py` past its argument parser, over any type of floats. The files,
`ffprobe`, `ffmpeg` and the two outputs are oracles. A run ends in `die`, which exits 3, in an exception
that nothing catches, which exits 1, or with the status that `main` returns. What is printed does not
matter here but that printing may raise; the table from sRGB to linear light is a parameter.
-/

namespace VitaLinuxPort

namespace FlashCheck

open Python PyFloat

/-- How a run ends without a status. -/
inductive Failure where
  | died
  | raised
  deriving DecidableEq, Repr

abbrev Run (α : Type) := Except Failure α

def die {α : Type} : Run α := .error .died

def raise {α : Type} : Run α := .error .raised

/-- The value, or an exception. -/
def orRaise {α : Type} (value : Option α) : Run α :=
  match value with
  | none => raise
  | some a => .ok a

/-- What `json.loads` returns. -/
inductive Json (F : Type) where
  | null
  | bool (b : Bool)
  | int (n : Int)
  | float (x : F)
  | string (text : CString)
  | array (items : List (Json F))
  | object (fields : List (CString × Json F))

/-- What `int` makes of a value, and whether `ValueError` and `TypeError` or another exception comes
instead. -/
inductive IntResult where
  | value (n : Int)
  | caught
  | overflow
  deriving DecidableEq, Repr

/-- How `ffprobe` ends; `none` where what it prints is no JSON. -/
structure ProbeOutput (F : Type) where
  returncode : Int
  stdout : Option (Json F)

/-- What `ffmpeg` writes until its output ends, which it does by a read that raises where it is
`broken`. -/
structure Decoder where
  output : List UInt8
  broken : Bool
  returncode : Int

/-- `glob` is sorted; `ffprobe` and `ffmpeg` are `none` where they cannot be run or their output cannot
be read as text; `setOrder` is the order in which a set of bytes is gone through. -/
structure World (F : Type) where
  glob : (dir pattern : CString) → List CString
  readFile : CString → Option (List UInt8)
  which : CString → Bool
  pathExists : CString → Bool
  ffprobe : CString → Option (ProbeOutput F)
  ffmpeg : (path : CString) → (cols rows : Int) → Option Decoder
  float : CString → Option F
  intOfText : CString → Option Int
  intOfFloat : F → IntResult
  setOrder : List UInt8 → List UInt8
  stdout : Bool
  writable : CString → Bool

/-- `args`, where an empty text is an argument that is not given. -/
structure Args (F : Type) where
  video : CString
  ppmDir : CString
  ppmGlob : CString
  fps : Option F
  cols : Int
  rows : Int
  grid : Int
  json : CString

/-- What `analyse` returns. -/
structure Region (F : Type) where
  label : CString
  frames : Nat
  flashPairs : Nat
  worstDelta : F
  worstDeltaFrame : Int
  worstRatePerSecond : Nat
  worstRateAtFrame : Int
  rateExceeded : Bool
  flashFrames : List Nat

section Probe

variable {F : Type} [PyFloat F] (w : World F)

/-- `json.loads(result.stdout)["streams"][0]` under its `except`. -/
def firstStream : Json F → Run (Json F)
  | .object fields =>
      match fields.reverse.lookup "streams".toList with
      | none | some (.array []) | some (.string []) | some (.object _) => die
      | some (.array (stream :: _)) => .ok stream
      | some (.string (c :: _)) => .ok (.string [c])
      | some .null | some (.bool _) | some (.int _) | some (.float _) => raise
  | _ => raise

def intOfJson : Json F → IntResult
  | .bool b => .value (if b then 1 else 0)
  | .int n => .value n
  | .float x => w.intOfFloat x
  | .string text =>
      match w.intOfText text with
      | none => .caught
      | some n => .value n
  | .null | .array _ | .object _ => .caught

/-- `int(stream["width"])`. -/
def intField (fields : List (CString × Json F)) (key : CString) : Run Int :=
  match (fields.reverse.lookup key).map (intOfJson w) with
  | some (.value n) => .ok n
  | none | some .caught | some .overflow => raise

/-- The quotient of the two parts of `r_frame_rate`, 0 where there is none. -/
def frameRate (rate : CString) : F :=
  let numerator := rate.takeWhile (· ≠ '/')
  let denominator := (rate.dropWhile (· ≠ '/')).tail
  match w.float numerator, w.float denominator with
  | some n, some d => if PyFloat.eq d (ofInt 0) then ofInt 0 else div n d
  | _, _ => ofInt 0

/-- The frame rate, the width and the height; the number of frames is not used. -/
def probeVideo (path : CString) : Run (F × Int × Int) :=
  match w.ffprobe path with
  | none => raise
  | some result =>
      if result.returncode ≠ 0 then die
      else
        match result.stdout with
        | none => die
        | some json => do
            match ← firstStream json with
            | .object fields =>
                match (fields.reverse.lookup "r_frame_rate".toList).getD (.string "0/0".toList) with
                | .string rate =>
                    let fps := frameRate w rate
                    if le fps (ofInt 0) then die
                    else
                      let frames := (fields.reverse.lookup "nb_frames".toList).getD .null
                      if intOfJson w frames = .overflow then raise
                      else do
                        let width ← intField w fields "width".toList
                        let height ← intField w fields "height".toList
                        return (fps, width, height)
                | _ => raise
            | _ => raise

end Probe

section Frames

/-- `frame_bytes`. -/
def frameBytes (cols rows : Int) : Int := cols * rows * 3 * 2

/-- The chunks of whole frames; `fuel` is more than there are bytes. -/
def readFrames (size : Nat) : (fuel : Nat) → List UInt8 → List (List UInt8)
  | 0, _ => []
  | fuel + 1, output =>
      let chunk := output.take size
      if chunk = [] then []
      else if chunk.length < size then []
      else chunk :: readFrames size fuel (output.drop size)

/-- The little-endian numbers of `array('H')`. -/
def frameValues : List UInt8 → List Nat
  | low :: high :: rest => (low.toNat + 256 * high.toNat) :: frameValues rest
  | _ => []

/-- The frames that `stream_frames` yields before it ends or raises. A read of a negative length
raises, and one of length 0 is the end. The exit status of `ffmpeg` has no effect but a warning. -/
def streamFrames (decoder : Option Decoder) (cols rows : Int) : Run (List (List Nat)) :=
  match decoder with
  | none => raise
  | some decoder =>
      if frameBytes cols rows < 0 then raise
      else if frameBytes cols rows = 0 then .ok []
      else if decoder.broken then raise
      else
        .ok ((readFrames (frameBytes cols rows).toNat (decoder.output.length + 1)
          decoder.output).map frameValues)

end Frames

section Luminance

variable {F : Type} [PyFloat F]

def lumaR : F := lit 2126 10000

def lumaG : F := lit 7152 10000

def lumaB : F := lit 722 10000

/-- `l[0::3]`. -/
def everyThird {α : Type} : List α → List α
  | a :: _ :: _ :: rest => a :: everyThird rest
  | a :: _ => [a]
  | [] => []

/-- The quotient raises where there are no pixels. -/
def luminanceGlobal (values : List Nat) : Run F :=
  let red := (everyThird values).sum
  let green := (everyThird (values.drop 1)).sum
  let blue := (everyThird (values.drop 2)).sum
  let pixels := values.length / 3
  if pixels = 0 then raise
  else
    .ok (div (add (add (mul lumaR (ofInt red)) (mul lumaG (ofInt green))) (mul lumaB (ofInt blue)))
      (mul (ofInt pixels) (ofInt 65535)))

/-- The loops over `y` and `x` for one cell: `total` and `count`. -/
def cellTotal (values : List Nat) (cols y0 y1 x0 x1 : Int) : Option (F × Nat) :=
  (Int.range y0 y1).foldlM (fun state y =>
    (Int.range x0 x1).foldlM (fun (total, count) x => do
      let position := y * cols * 3 + x * 3
      let red ← index values position
      let green ← index values (position + 1)
      let blue ← index values (position + 2)
      return (add total (add (add (mul lumaR (ofInt red)) (mul lumaG (ofInt green)))
        (mul lumaB (ofInt blue))), count + 1)) state) (ofInt 0, 0)

def luminanceCell (values : List Nat) (cols rows grid gy gx : Int) : Option F := do
  let cellW := max 1 (cols / grid)
  let cellH := max 1 (rows / grid)
  let y0 := gy * cellH
  let y1 := if gy = grid - 1 then rows else (gy + 1) * cellH
  let x0 := gx * cellW
  let x1 := if gx = grid - 1 then cols else (gx + 1) * cellW
  let (total, count) ← cellTotal values cols y0 y1 x0 x1
  return if count = 0 then ofInt 0 else div total (mul (ofInt count) (ofInt 65535))

/-- `none` where an index is out of range; the grid is positive. -/
def luminanceCells (values : List Nat) (cols rows grid : Int) : Option (List F) :=
  (Int.range 0 grid).flatMapM fun gy =>
    (Int.range 0 grid).mapM fun gx => luminanceCell values cols rows grid gy gx

end Luminance

section Analysis

variable {F : Type} [PyFloat F]

def flashDelta : F := lit 10 100

def darkLimit : F := lit 80 100

def flashesPerSecond : Nat := 3

def isFlashPair (first second : F) : Bool :=
  le flashDelta (PyFloat.abs (sub second first)) && lt (Python.min first second) darkLimit

/-- `flags`: one entry for each two adjacent frames. -/
def flashFlags (series : List F) : List Bool :=
  (series.zip series.tail).map fun (first, second) => isFlashPair first second

/-- `worst_delta` and `worst_index`. -/
def worstDelta (series : List F) : F × Int :=
  (series.zip series.tail).zipIdx.foldl (fun worst ((first, second), i) =>
    let delta := PyFloat.abs (sub second first)
    if lt worst.1 delta then (delta, (i : Int) + 1) else worst) (ofInt 0, -1)

/-- `sum(flags[start:start + window])`. -/
def windowCount (flags : List Bool) (window start : Nat) : Nat :=
  ((flags.drop start).take window).count true

/-- `worst_rate` and `worst_rate_at`. -/
def worstRate (flags : List Bool) (window : Nat) : Nat × Int :=
  (List.range (max 1 (flags.length + 1 - window))).foldl (fun worst start =>
    let count := windowCount flags window start
    if count > worst.1 then (count, (start : Int)) else worst) (0, -1)

/-- The frames of the window, none where `round` raises. -/
def rateWindow (fps : F) : Option Nat := (PyFloat.round fps).map fun n => (max 1 n).toNat

def analyse (series : List F) (fps : F) (label : CString) : Run (Region F) := do
  let flags := flashFlags series
  let window ← orRaise (rateWindow fps)
  let rate := worstRate flags window
  return {
    label
    frames := series.length
    flashPairs := flags.count true
    worstDelta := (worstDelta series).1
    worstDeltaFrame := (worstDelta series).2
    worstRatePerSecond := rate.1
    worstRateAtFrame := rate.2
    rateExceeded := rate.1 > flashesPerSecond
    flashFrames := ((flags.zipIdx.filter (·.1)).map (·.2 + 1)).take 50 }

end Analysis

section Ppm

/-- The loops that skip blanks and comments; in a comment everything but the end of the line is
skipped. -/
def skipGap (comment : Bool) : List UInt8 → List UInt8
  | [] => []
  | c :: rest =>
      if comment then
        if Ppm.isNewline c then skipGap false rest else skipGap true rest
      else if Ppm.isBlank c then skipGap false rest
      else if c = 35 then skipGap true rest
      else c :: rest

/-- A token and what follows it. -/
def readToken (data : List UInt8) : List UInt8 × List UInt8 :=
  let rest := skipGap false data
  (rest.takeWhile (!Ppm.isBlank ·), rest.dropWhile (!Ppm.isBlank ·))

/-- On the bytes of the file; `none` where it raises. -/
def readPpm (data : List UInt8) : Option (Int × Int × List UInt8) := do
  if data.take 2 ≠ [0x50, 0x36] then none
  else
    let (first, rest) := readToken (data.drop 2)
    let (second, rest) := readToken rest
    let (third, rest) := readToken rest
    let width ← intOfBytes first
    let height ← intOfBytes second
    let maxval ← intOfBytes third
    if maxval ≠ 255 then none
    else
      let body := rest.drop 1
      if (body.length : Int) < width * height * 3 then none
      else return (width, height, takeTo body (width * height * 3))

variable {F : Type} [PyFloat F]

/-- The quotient raises where there are no pixels. -/
def ppmLuminance (setOrder : List UInt8 → List UInt8) (table : UInt8 → F) (pixels : List UInt8) :
    Run F :=
  let total := [(0, lumaR), (1, lumaG), (2, lumaB)].foldl (fun total (offset, weight) =>
    let plane := everyThird (pixels.drop offset)
    (setOrder plane).foldl (fun total value =>
      add total (mul (mul weight (table value)) (ofInt (plane.count value)))) total) (ofInt 0)
  if pixels.length / 3 = 0 then raise else .ok (div total (ofInt (pixels.length / 3 : Nat)))

end Ppm

section Main

variable {F : Type} [PyFloat F] (w : World F) (table : UInt8 → F) (args : Args F)

/-- `args.fps or default`. -/
def fpsOr (default : F) : F :=
  match args.fps with
  | none => default
  | some fps => if truthy fps then fps else default

/-- One turn of the loop over the PPM files. -/
def fileLuminance (path : CString) : Run F := do
  let data ← orRaise (w.readFile path)
  let (_, _, pixels) ← orRaise (readPpm data)
  ppmLuminance w.setOrder table pixels

/-- The frame rate and the labelled series of a directory of PPM files. -/
def ppmSeries : Run (F × List (CString × List F)) := do
  let files := w.glob args.ppmDir args.ppmGlob
  if files.length < 2 then die
  else
    let series ← files.mapM (fileLuminance w table)
    return (fpsOr args (ofInt 30), [("global".toList, series)])

def cellLabel (grid : Int) (cell : Nat) : CString :=
  "cell r".toList ++ Nat.toDigits 10 (cell / grid.toNat) ++ "c".toList ++
    Nat.toDigits 10 (cell % grid.toNat)

/-- The series of the grid cells, which are there if the grid is positive. -/
def cellSeries (grid : Int) (cells : List (List F)) : List (CString × List F) :=
  match cells with
  | [] => []
  | first :: _ =>
      (List.range first.length).map fun cell =>
        (cellLabel grid cell, cells.map fun frame => frame.getD cell (ofInt 0))

/-- `require_tools` returns. -/
def toolsFound : Bool := w.which "ffmpeg".toList && w.which "ffprobe".toList

/-- The frames of the loop over `stream_frames`. -/
def videoFrames : Run (List (List Nat)) :=
  streamFrames (w.ffmpeg args.video args.cols args.rows) args.cols args.rows

/-- The cells of one frame in that loop. -/
def frameCells (frame : List Nat) : Run (List F) :=
  if args.grid > 0 then orRaise (luminanceCells frame args.cols args.rows args.grid) else .ok []

/-- The frame rate and the labelled series of a video. -/
def videoSeries : Run (F × List (CString × List F)) := do
  if !toolsFound w then die
  else if !w.pathExists args.video then die
  else
    let (fps, _, _) ← probeVideo w args.video
    let fps := fpsOr args fps
    let frames ← videoFrames w args
    let globals ← frames.mapM luminanceGlobal
    let cells ← frames.mapM (frameCells args)
    if globals.length < 2 then die
    else if !w.stdout then raise
    else return (fps, ("global".toList, globals) :: cellSeries args.grid cells)

def regionSeries : Run (F × List (CString × List F)) :=
  if args.ppmDir ≠ [] then ppmSeries w table args else videoSeries w args

/-- `results`. -/
def checkRegions : Run (List (Region F)) := do
  let (fps, regions) ← regionSeries w table args
  regions.mapM fun (label, series) => analyse series fps label

/-- `>` of the keys by which the worst region is chosen. -/
def worseThan (a b : Region F) : Bool :=
  if a.rateExceeded ≠ b.rateExceeded then a.rateExceeded
  else if a.flashPairs ≠ b.flashPairs then a.flashPairs > b.flashPairs
  else if PyFloat.eq a.worstDelta b.worstDelta then false
  else lt b.worstDelta a.worstDelta

/-- The status of a worst region. -/
def verdict (worst : Region F) : Nat :=
  if worst.rateExceeded then 2 else if worst.flashPairs ≠ 0 then 1 else 0

/-- `max` raises where there are no regions. -/
def main : Run Nat := do
  match ← checkRegions w table args with
  | [] => raise
  | first :: rest =>
      let status := verdict (maxBy worseThan first rest)
      if !w.stdout then raise
      else if args.json ≠ [] ∧ !w.writable args.json then raise
      else return status

def exitCode : Nat :=
  match main w table args with
  | .ok status => status
  | .error .died => 3
  | .error .raised => 1

end Main

end FlashCheck

end VitaLinuxPort
