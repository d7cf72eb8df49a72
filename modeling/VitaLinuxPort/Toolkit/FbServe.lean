import Mathlib.Data.List.Infix
import VitaLinuxPort.Lib.Painting
import VitaLinuxPort.Machine

/-!
# The framebuffer server

`toolkit/share/vita-fbserve.c`: how it reads the framebuffer and builds a bitmap of it in its two
static buffers, and which response it gives to the bytes that a client sends.
-/

namespace VitaLinuxPort

namespace FbServe

def fbWidth : Nat := 1280

def fbHeight : Nat := 720

def fbBpp : Nat := 4

def scale : Nat := 4

def imageWidth : Nat := fbWidth / scale

def imageHeight : Nat := fbHeight / scale

def fbBytes : Nat := fbWidth * fbHeight * fbBpp

def bmpRowBytes : Nat := imageWidth * 3

def bmpBytes : Nat := 54 + bmpRowBytes * imageHeight

def putU16 (destination : List UInt8) (offset : Nat) (value : UInt16) : List UInt8 :=
  (destination.set offset (value &&& 0xff).toUInt8).set (offset + 1) (value >>> 8).toUInt8

def putU32 (destination : List UInt8) (offset : Nat) (value : UInt32) : List UInt8 :=
  (((destination.set offset (value &&& 0xff).toUInt8).set (offset + 1)
    ((value >>> 8) &&& 0xff).toUInt8).set (offset + 2) ((value >>> 16) &&& 0xff).toUInt8).set
    (offset + 3) (value >>> 24).toUInt8

/-- How a `read` or a `recv` ends: with an error, interrupted by a signal, or with at most so many bytes. -/
inductive ReadResult where
  | failed
  | interrupted
  | bytes (count : Nat)
  deriving Repr

/-- The loop of `read_frame` on what the device holds. A `read` returns no more than it is asked for
and no more than there is. `none` where `read_frame` fails, or where it has not returned yet when the
results end. -/
def readLoop (device : List UInt8) (results : List ReadResult) (offset : Nat)
    (framebuffer : List UInt8) : Option (List UInt8) :=
  if offset < fbBytes then
    match results with
    | [] | .failed :: _ => none
    | .interrupted :: results => readLoop device results offset framebuffer
    | .bytes count :: results =>
        let data := (device.drop offset).take (min count (fbBytes - offset))
        if data.length = 0 then none
        else
          readLoop device results (offset + data.length)
            (Painting.overwrite framebuffer offset data)
  else some framebuffer

def readFrame (device : Option (List UInt8)) (results : List ReadResult)
    (framebuffer : List UInt8) : Option (List UInt8) :=
  match device with
  | none => none
  | some device => readLoop device results 0 framebuffer

/-- `build_bitmap` up to its loops. -/
def buildHeader (bitmap : List UInt8) : List UInt8 :=
  let bitmap := List.replicate bitmap.length 0
  let bitmap := bitmap.set 0 0x42
  let bitmap := bitmap.set 1 0x4d
  let bitmap := putU32 bitmap 2 (.ofNat bmpBytes)
  let bitmap := putU32 bitmap 10 54
  let bitmap := putU32 bitmap 14 40
  let bitmap := putU32 bitmap 18 (.ofNat imageWidth)
  let bitmap := putU32 bitmap 22 (.ofNat imageHeight)
  let bitmap := putU16 bitmap 26 1
  let bitmap := putU16 bitmap 28 24
  let bitmap := putU32 bitmap 34 (.ofNat (bmpRowBytes * imageHeight))
  let bitmap := putU32 bitmap 38 2835
  putU32 bitmap 42 2835

/-- The body of the inner loop: the bitmap, and `destination`, which it counts up. -/
def buildPixel (framebuffer : List UInt8) (sourceY : Nat) (state : List UInt8 × Nat) (x : Nat) :
    List UInt8 × Nat :=
  let (bitmap, destination) := state
  let source := (sourceY * scale * fbWidth + x * scale) * fbBpp
  let bitmap := bitmap.set destination (framebuffer.getD (source + 2) 0)
  let bitmap := bitmap.set (destination + 1) (framebuffer.getD (source + 1) 0)
  (bitmap.set (destination + 2) (framebuffer.getD source 0), destination + 3)

/-- The body of the outer loop. -/
def buildRow (framebuffer bitmap : List UInt8) (y : Nat) : List UInt8 :=
  let sourceY := imageHeight - 1 - y
  let destination := 54 + y * bmpRowBytes
  ((List.range imageWidth).foldl (buildPixel framebuffer sourceY) (bitmap, destination)).1

def buildBitmap (framebuffer bitmap : List UInt8) : List UInt8 :=
  (List.range imageHeight).foldl (buildRow framebuffer) (buildHeader bitmap)

section Request

def requestBytes : Nat := 4096

/-- The string in a buffer whose last byte is 0. -/
def cString (buffer : List UInt8) : List UInt8 := buffer.takeWhile (· ≠ 0)

/-- Whether one of the calls of `strstr` finds the end of the header. -/
def headerEnds (request : List UInt8) : Bool :=
  [13, 10, 13, 10] <:+: cString request ∨ [10, 10] <:+: cString request

/-- The loop of `handle_request` for a client that sends the bytes `sent`, of which `request` has been
received. A `recv` returns no more than it is asked for and no more than there is. `none` where
`handle_request` returns 0, or where it has not returned yet when the results end. -/
def recvLoop (sent : List UInt8) (results : List ReadResult) (request : List UInt8) :
    Option (List UInt8) :=
  if request.length < requestBytes then
    match results with
    | [] | .failed :: _ => none
    | .interrupted :: results => recvLoop sent results request
    | .bytes count :: results =>
        let data := (sent.drop request.length).take (min count (requestBytes - request.length))
        if data.length = 0 then none
        else
          let request := request ++ data
          if headerEnds request then some request else recvLoop sent results request
  else some request

/-- `isspace`. -/
def isSpace (c : UInt8) : Bool := [32, 9, 10, 11, 12, 13].contains c

/-- A directive `%s` of `sscanf` with a width: what it stores, and what it leaves. -/
def scanString (width : Nat) (text : List UInt8) : Option (List UInt8 × List UInt8) :=
  let text := text.dropWhile isSpace
  let field := (text.takeWhile (!isSpace ·)).take width
  if field = [] then none else some (field, text.drop field.length)

structure RequestLine where
  method : List UInt8
  path : List UInt8
  version : List UInt8

/-- The call of `sscanf`; `none` where it does not store three strings. -/
def scanRequest (request : List UInt8) : Option RequestLine := do
  let (method, rest) ← scanString 15 (cString request)
  let (path, rest) ← scanString 127 rest
  let (version, _) ← scanString 15 rest
  return ⟨method, path, version⟩

/-- What `send_response` is called with. -/
structure Response where
  status : Nat
  reason : CString
  contentType : CString
  body : List UInt8

def ascii (text : String) : List UInt8 := text.toList.map fun c => .ofNat c.toNat

def textResponse (status : Nat) (reason body : String) : Response :=
  ⟨status, reason.toList, "text/plain; charset=utf-8".toList, ascii body⟩

variable (device : Option (List UInt8)) (reads : List ReadResult) (framebuffer bitmap : List UInt8)

/-- `handle_request` after its loop. -/
def respond (request : List UInt8) : Response :=
  if request.length = requestBytes then
    textResponse 413 "Payload Too Large" "request too large\n"
  else
    match scanRequest request with
    | none => textResponse 400 "Bad Request" "bad request\n"
    | some line =>
        if line.method ≠ ascii "GET" then textResponse 405 "Method Not Allowed" "GET only\n"
        else if line.path = ascii "/health" then textResponse 200 "OK" "status=ok\nread_only=1\n"
        else if line.path ≠ ascii "/" ∧ line.path ≠ ascii "/frame.bmp" then
          textResponse 404 "Not Found" "not found\n"
        else
          match readFrame device reads framebuffer with
          | none => textResponse 503 "Service Unavailable" "framebuffer read failed\n"
          | some framebuffer =>
              ⟨200, "OK".toList, "image/bmp".toList, buildBitmap framebuffer bitmap⟩

/-- The response to a client; `none` where `handle_request` sends none. -/
def handleRequest (sent : List UInt8) (results : List ReadResult) : Option Response :=
  (recvLoop sent results []).map (respond device reads framebuffer bitmap)

end Request

end FbServe

end VitaLinuxPort
