import VitaLinuxPort.Lib.Bitmap
import VitaLinuxPort.Proof.Presentation.Upscale
import VitaLinuxPort.Toolkit.FbServe

/-!
# The remote screenshot

The server reads the bytes of the framebuffer, takes the first pixel of every block that shows one
logical pixel, and stores the rows bottom-up and the channels reversed. Read as a bitmap file, what it
builds has the channels of the logical frame.
-/

namespace VitaLinuxPort

namespace FbServe

section Read

variable {device framebuffer frame : List UInt8}

/-- However `read` cuts it up, what has been read is the beginning of what the device holds. -/
theorem readLoop_eq {results : List ReadResult} {offset : Nat}
    (hlength : framebuffer.length = fbBytes) (hoffset : offset ≤ fbBytes)
    (hdone : framebuffer.take offset = device.take offset)
    (h : readLoop device results offset framebuffer = some frame) :
    frame = device.take fbBytes := by
  induction results generalizing offset framebuffer with
  | nil =>
    rw [readLoop.eq_def] at h
    split at h
    · cases h
    · rw [← Option.some.inj h, ← List.take_of_length_le hlength.le,
        show fbBytes = offset by omega, hdone]
  | cons result results ih =>
    rw [readLoop.eq_def] at h
    split at h
    case isFalse hend =>
      rw [← Option.some.inj h, ← List.take_of_length_le hlength.le,
        show fbBytes = offset by omega, hdone]
    case isTrue hmore =>
      cases result with
      | failed => cases h
      | interrupted => exact ih hlength hoffset hdone h
      | bytes count =>
        dsimp only at h
        split at h
        · cases h
        have hdata : ((device.drop offset).take (min count (fbBytes - offset))).length
            ≤ fbBytes - offset := by
          rw [List.length_take]
          omega
        apply ih _ _ _ h
        · rw [Painting.length_overwrite (by omega), hlength]
        · omega
        · rw [Painting.take_overwrite (by omega), hdone, List.take_add]
          congr 1
          rw [List.length_take, List.take_eq_take_iff]
          omega

theorem readFrame_eq {results : List ReadResult} (hlength : framebuffer.length = fbBytes)
    (h : readFrame (some device) results framebuffer = some frame) :
    frame = device.take fbBytes :=
  readLoop_eq hlength (Nat.zero_le _) rfl h

/-- A read that returns all of a frame is the only one. -/
theorem readFrame_whole (framebuffer : List UInt8) (hdevice : fbBytes ≤ device.length) :
    readFrame (some device) [.bytes fbBytes] framebuffer
      = some (Painting.overwrite framebuffer 0 (device.take fbBytes)) := by
  have hlength : (device.take fbBytes).length = fbBytes := by
    rw [List.length_take, Nat.min_eq_left hdevice]
  rw [readFrame, readLoop.eq_def, if_pos (by decide)]
  simp only [List.drop_zero, Nat.sub_zero, Nat.min_self, hlength, Nat.zero_add]
  rw [if_neg (by decide), readLoop.eq_def, if_neg (Nat.lt_irrefl _)]

end Read

section Build

variable {framebuffer bitmap : List UInt8}

/-- The byte at a place of the pixel rows. -/
def bitmapByte (framebuffer : List UInt8) (place : Nat) : UInt8 :=
  let row := (place - 54) / bmpRowBytes
  let column := (place - 54) % bmpRowBytes
  framebuffer.getD
    (((imageHeight - 1 - row) * scale * fbWidth + column / 3 * scale) * fbBpp + (2 - column % 3)) 0

/-- The places of a stored row. -/
def rowPlaces (y : Nat) : List Nat := (List.range bmpRowBytes).map (54 + y * bmpRowBytes + ·)

theorem foldl_buildPixel (value : Nat → UInt8) (sourceY destination count : Nat)
    (hvalue : ∀ x < count, ∀ c < 3, value (destination + 3 * x + c)
      = framebuffer.getD ((sourceY * scale * fbWidth + x * scale) * fbBpp + (2 - c)) 0) :
    (List.range count).foldl (buildPixel framebuffer sourceY) (bitmap, destination)
      = (Painting.paint value ((List.range (3 * count)).map (destination + ·)) bitmap,
          destination + 3 * count) := by
  induction count with
  | zero => rfl
  | succ count ih =>
    have hbefore := ih fun x hx => hvalue x (by omega)
    have hblue := hvalue count (by omega) 0 (by omega)
    have hgreen := hvalue count (by omega) 1 (by omega)
    have hred := hvalue count (by omega) 2 (by omega)
    rw [Nat.add_zero] at hblue
    rw [List.range_succ, List.foldl_append, hbefore, List.foldl_cons, List.foldl_nil, buildPixel,
      show 3 * (count + 1) = 3 * count + 1 + 1 + 1 by omega, List.range_succ, List.range_succ,
      List.range_succ, List.map_append, List.map_append, List.map_append, Painting.paint_append,
      Painting.paint_append, Painting.paint_append]
    simp only [List.map_cons, List.map_nil, Painting.paint_cons, ← Nat.add_assoc, hblue, hgreen, hred]
    rfl

theorem buildRow_eq (y : Nat) :
    buildRow framebuffer bitmap y
      = Painting.paint (bitmapByte framebuffer) (rowPlaces y) bitmap := by
  rw [buildRow, foldl_buildPixel (bitmapByte framebuffer) _ _ _ ?_, rowPlaces, bmpRowBytes,
    Nat.mul_comm 3]
  intro x hx c hc
  have hrow : (54 + y * bmpRowBytes + 3 * x + c - 54) / bmpRowBytes = y := by
    unfold bmpRowBytes imageWidth fbWidth scale at *
    omega
  have hcolumn : (54 + y * bmpRowBytes + 3 * x + c - 54) % bmpRowBytes = 3 * x + c := by
    unfold bmpRowBytes imageWidth fbWidth scale at *
    omega
  rw [bitmapByte, hrow, hcolumn, show (3 * x + c) / 3 = x by omega,
    show (3 * x + c) % 3 = c by omega]

/-- The places of all the stored rows. -/
def rasterPlaces : List Nat := (List.range imageHeight).flatMap rowPlaces

theorem mem_rasterPlaces (place : Nat) :
    place ∈ rasterPlaces ↔ 54 ≤ place ∧ place < bmpBytes := by
  simp only [rasterPlaces, rowPlaces, List.mem_flatMap, List.mem_map, List.mem_range, bmpBytes,
    bmpRowBytes, imageWidth, imageHeight, fbWidth, fbHeight, scale]
  constructor
  · rintro ⟨y, hy, x, hx, rfl⟩
    omega
  · rintro ⟨hfirst, hlast⟩
    exact ⟨(place - 54) / 960, by omega, (place - 54) % 960, by omega, by omega⟩

theorem buildBitmap_eq :
    buildBitmap framebuffer bitmap
      = Painting.paint (bitmapByte framebuffer) rasterPlaces (buildHeader bitmap) := by
  apply Painting.foldl_eq_paint
  intro bitmap _ y _
  exact buildRow_eq y

theorem length_buildHeader : (buildHeader bitmap).length = bitmap.length := by
  simp only [buildHeader, putU32, putU16, List.length_set, List.length_replicate]

theorem length_buildBitmap (hbitmap : bitmap.length = bmpBytes) :
    (buildBitmap framebuffer bitmap).length = bmpBytes := by
  rw [buildBitmap_eq, Painting.length_paint, length_buildHeader, hbitmap]

theorem getElem?_buildBitmap (hbitmap : bitmap.length = bmpBytes) {place : Nat}
    (hfirst : 54 ≤ place) (hlast : place < bmpBytes) :
    (buildBitmap framebuffer bitmap)[place]? = some (bitmapByte framebuffer place) := by
  rw [buildBitmap_eq, Painting.getElem?_paint, length_buildHeader, hbitmap,
    if_pos ⟨(mem_rasterPlaces place).mpr ⟨hfirst, hlast⟩, hlast⟩]

theorem take_buildBitmap (hbitmap : bitmap.length = bmpBytes) :
    (buildBitmap framebuffer bitmap).take 54 = buildHeader (List.replicate 54 0) := by
  have hheader : (buildHeader bitmap).take 54 = buildHeader (List.replicate 54 0) := by
    simp only [buildHeader, putU32, putU16, List.take_set, List.take_replicate, hbitmap,
      List.length_replicate, show min 54 bmpBytes = 54 by decide]
  rw [← hheader, buildBitmap_eq]
  apply List.ext_getElem?
  intro i
  by_cases hi : i < 54
  · rw [List.getElem?_take_of_lt hi, List.getElem?_take_of_lt hi, Painting.getElem?_paint, if_neg]
    rw [mem_rasterPlaces]
    omega
  · rw [List.getElem?_eq_none (by rw [List.length_take]; omega),
      List.getElem?_eq_none (by rw [List.length_take]; omega)]

/-- The header of every screenshot. -/
def bitmapHeader : Bitmap.Header where
  offBits := 54
  width := imageWidth
  height := imageHeight
  bitCount := 24

theorem header_buildBitmap (hbitmap : bitmap.length = bmpBytes) :
    Bitmap.header (buildBitmap framebuffer bitmap) = some bitmapHeader := by
  rw [Bitmap.header, take_buildBitmap hbitmap, length_buildBitmap hbitmap]
  decide

theorem pixel_buildBitmap (hbitmap : bitmap.length = bmpBytes) {x y : Nat} (hx : x < imageWidth)
    (hy : y < imageHeight) {red green blue : UInt8}
    (hred : framebuffer[(y * scale * fbWidth + x * scale) * fbBpp]? = some red)
    (hgreen : framebuffer[(y * scale * fbWidth + x * scale) * fbBpp + 1]? = some green)
    (hblue : framebuffer[(y * scale * fbWidth + x * scale) * fbBpp + 2]? = some blue) :
    Bitmap.pixel (buildBitmap framebuffer bitmap) bitmapHeader x y = some (red, green, blue) := by
  have hoffset : bitmapHeader.offset x y = 54 + (imageHeight - 1 - y) * bmpRowBytes + 3 * x := by
    rfl
  have hbyte : ∀ c < 3, (buildBitmap framebuffer bitmap)[bitmapHeader.offset x y + c]?
      = some (framebuffer.getD ((y * scale * fbWidth + x * scale) * fbBpp + (2 - c)) 0) := by
    intro c hc
    have hrow : (bitmapHeader.offset x y + c - 54) / bmpRowBytes = imageHeight - 1 - y := by
      rw [hoffset]
      unfold bmpRowBytes imageHeight imageWidth fbHeight fbWidth scale at *
      omega
    have hcolumn : (bitmapHeader.offset x y + c - 54) % bmpRowBytes = 3 * x + c := by
      rw [hoffset]
      unfold bmpRowBytes imageHeight imageWidth fbHeight fbWidth scale at *
      omega
    rw [getElem?_buildBitmap hbitmap, bitmapByte, hrow, hcolumn,
      show imageHeight - 1 - (imageHeight - 1 - y) = y by omega, show (3 * x + c) / 3 = x by omega,
      show (3 * x + c) % 3 = c by omega]
    · omega
    · rw [hoffset]
      unfold bmpBytes bmpRowBytes imageHeight imageWidth fbHeight fbWidth scale at *
      omega
  apply Bitmap.pixel_eq hx hy
  · rw [← Nat.add_zero (bitmapHeader.offset x y), hbyte 0 (by omega), List.getD_eq_getElem?_getD,
      hblue, Option.getD_some]
  · rw [hbyte 1 (by omega), List.getD_eq_getElem?_getD, hgreen, Option.getD_some]
  · rw [hbyte 2 (by omega), Nat.sub_self, Nat.add_zero, List.getD_eq_getElem?_getD, hred,
      Option.getD_some]

end Build

end FbServe

theorem getElem?_flatMap_pixelBytes (pixels : Image) (index : Nat) {k : Nat} (hk : k < 4) :
    (pixels.flatMap pixelBytes)[index * 4 + k]? = pixels[index]?.bind fun p => (pixelBytes p)[k]? :=
  @Painting.getElem?_flatMap_block _ _ pixelBytes 4 pixels (fun _ _ => rfl) index k hk

theorem length_flatMap_pixelBytes (pixels : Image) :
    (pixels.flatMap pixelBytes).length = pixels.length * 4 :=
  @Painting.length_flatMap_block _ _ pixelBytes 4 pixels fun _ _ => rfl

/-- The bytes that the server samples for a logical pixel. -/
theorem getElem?_shown {logical framebuffer row : Image} {x y : Nat} {pixel : UInt32}
    (hframebuffer : framebuffer.length
      = cartPresentationFramebufferHeight * cartPresentationFramebufferWidth)
    (hrow : row.length = cartPresentationFramebufferWidth) (hx : x < FbServe.imageWidth)
    (hy : y < FbServe.imageHeight) (hpixel : logical[y * 320 + x]? = some pixel) {k : Nat}
    (hk : k < 4) :
    (((cartPresentationUpscale framebuffer logical row).1.flatMap pixelBytes).take FbServe.fbBytes)[
        (y * FbServe.scale * FbServe.fbWidth + x * FbServe.scale) * FbServe.fbBpp + k]?
      = (pixelBytes pixel)[k]? := by
  have hplace : y * FbServe.scale * FbServe.fbWidth + x * FbServe.scale
      < cartPresentationFramebufferHeight * cartPresentationFramebufferWidth := by
    unfold FbServe.imageWidth FbServe.imageHeight FbServe.fbHeight FbServe.fbWidth FbServe.scale
      cartPresentationFramebufferHeight cartPresentationFramebufferWidth
      cartPresentationLogicalHeight cartPresentationLogicalWidth cartPresentationScale at *
    omega
  have hcolumn : x * cartPresentationScale + 0 < cartPresentationFramebufferWidth := by
    unfold FbServe.imageWidth FbServe.fbWidth FbServe.scale cartPresentationFramebufferWidth
      cartPresentationLogicalWidth cartPresentationScale at *
    omega
  have hshown : shownPixel logical (y * FbServe.scale * FbServe.fbWidth + x * FbServe.scale)
      = logical.getD (y * 320 + x) 0 :=
    (shownPixel_row logical y (k := 0) (by decide) hcolumn).trans
      (rowPixel_column logical y x (by decide))
  rw [List.getD_eq_getElem?_getD, hpixel, Option.getD_some] at hshown
  rw [List.getElem?_take_of_lt, FbServe.fbBpp, getElem?_flatMap_pixelBytes _ _ hk,
    cartPresentationUpscale_eq logical hframebuffer hrow, List.getElem?_map,
    List.getElem?_range hplace, Option.map_some, hshown]
  · rfl
  · unfold FbServe.fbBytes FbServe.fbBpp FbServe.fbHeight FbServe.fbWidth at *
    unfold cartPresentationFramebufferHeight cartPresentationFramebufferWidth
      cartPresentationLogicalHeight cartPresentationLogicalWidth cartPresentationScale at hplace
    omega

/-- The remote screenshot is the rendered frame, and a dump of the frame is what the framebuffer
shows. -/
theorem screenshot_eq_logical {logical framebuffer row : Image} {bitmap static frame : List UInt8}
    {results : List FbServe.ReadResult}
    (hlogical : logical.length = cartPresentationLogicalHeight * cartPresentationLogicalWidth)
    (hframebuffer : framebuffer.length
      = cartPresentationFramebufferHeight * cartPresentationFramebufferWidth)
    (hrow : row.length = cartPresentationFramebufferWidth)
    (hstatic : static.length = FbServe.fbBytes) (hbitmap : bitmap.length = FbServe.bmpBytes)
    (hread : FbServe.readFrame
      (some ((cartPresentationUpscale framebuffer logical row).1.flatMap pixelBytes)) results static
      = some frame) :
    (∃ header, Bitmap.header (FbServe.buildBitmap frame bitmap) = some header ∧
      header.bitCount = 24 ∧ header.BottomUp ∧ header.width = 320 ∧ header.rows = 180 ∧
      ∀ x < 320, ∀ y < 180, ∃ pixel : UInt32, logical[y * 320 + x]? = some pixel ∧
        Bitmap.pixel (FbServe.buildBitmap frame bitmap) header x y
          = some (pixel.toUInt8, (pixel >>> 8).toUInt8, (pixel >>> 16).toUInt8)) ∧
      dumpPpm logical = ppmHeader ++
        (cartPresentationUpscale framebuffer logical row).1.flatMap
          fun pixel => (pixelBytes pixel).take 3 := by
  have hframe : frame = ((cartPresentationUpscale framebuffer logical row).1.flatMap pixelBytes).take
      FbServe.fbBytes :=
    FbServe.readFrame_eq hstatic hread
  constructor
  · have hheader : Bitmap.header (FbServe.buildBitmap frame bitmap) = some FbServe.bitmapHeader :=
      FbServe.header_buildBitmap hbitmap
    refine ⟨FbServe.bitmapHeader, hheader, rfl, by decide, rfl, rfl, ?_⟩
    intro x hx y hy
    have hplace : y * 320 + x < logical.length := by
      rw [hlogical, cartPresentationLogicalHeight, cartPresentationLogicalWidth]
      omega
    have hpixel := List.getElem?_eq_getElem hplace
    have hbyte := fun k (hk : k < 4) => getElem?_shown hframebuffer hrow hx hy hpixel hk
    rw [← hframe] at hbyte
    exact ⟨_, hpixel, FbServe.pixel_buildBitmap hbitmap hx hy (hbyte 0 (by omega))
      (hbyte 1 (by omega)) (hbyte 2 (by omega))⟩
  · rw [dumpPpm, ppmRaster_eq logical hframebuffer hrow]

/-- A frame that numbers its pixels. -/
def numberedFrame : Image :=
  (List.range (cartPresentationLogicalHeight * cartPresentationLogicalWidth)).map UInt32.ofNat

def numberedShown : Image :=
  (cartPresentationUpscale
    (.replicate (cartPresentationFramebufferHeight * cartPresentationFramebufferWidth) 7)
    numberedFrame (.replicate cartPresentationFramebufferWidth 9)).1

theorem length_numberedFrame :
    numberedFrame.length = cartPresentationLogicalHeight * cartPresentationLogicalWidth := by
  rw [numberedFrame, List.length_map, List.length_range]

theorem length_numberedShown :
    numberedShown.length
      = cartPresentationFramebufferHeight * cartPresentationFramebufferWidth := by
  rw [numberedShown, cartPresentationUpscale_eq _ List.length_replicate List.length_replicate,
    List.length_map, List.length_range]

/-- The pixel in column 5 and row 1. -/
theorem screenshot_eq_logical_numbered :
    ∃ frame, FbServe.readFrame (some (numberedShown.flatMap pixelBytes)) [.bytes FbServe.fbBytes]
        (.replicate FbServe.fbBytes 0) = some frame ∧
      ∃ header, Bitmap.header (FbServe.buildBitmap frame (.replicate FbServe.bmpBytes 0))
          = some header ∧
        Bitmap.pixel (FbServe.buildBitmap frame (.replicate FbServe.bmpBytes 0)) header 5 1
          = some (0x45, 1, 0) := by
  have hdevice : FbServe.fbBytes ≤ (numberedShown.flatMap pixelBytes).length := by
    rw [length_flatMap_pixelBytes, length_numberedShown]
    decide
  have hread := FbServe.readFrame_whole (.replicate FbServe.fbBytes 0) hdevice
  obtain ⟨⟨header, hheader, -, -, -, -, hpixels⟩, -⟩ := screenshot_eq_logical length_numberedFrame
    List.length_replicate List.length_replicate List.length_replicate List.length_replicate hread
  obtain ⟨pixel, hpixel, hdecoded⟩ := hpixels 5 (by decide) 1 (by decide)
  have hnumber : numberedFrame[1 * 320 + 5]? = some 325 := by
    rw [numberedFrame, List.getElem?_map, List.getElem?_range (by decide)]
    rfl
  rw [hnumber, Option.some_inj] at hpixel
  subst hpixel
  exact ⟨_, hread, header, hheader, hdecoded⟩

end VitaLinuxPort
