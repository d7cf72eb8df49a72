import VitaLinuxPort.Toolkit.FbServe

/-!
# The connections of the framebuffer server

`toolkit/share/vita-fbserve.c`: how a response goes out, and the loop of `main` that takes one client
after the other. The two static buffers live on from client to client, also where a frame could be read
in part only. A client is what it sends and how the calls that serve it end.
-/

namespace VitaLinuxPort

namespace FbServe

/-- The loop of `send_all`, after which so much of `data` has been sent: whether it returns 0, how much
has been sent, and the results that are left. A `send` sends no more than it is given. Where the
results end it has not returned yet. -/
def sendLoop (data : List UInt8) : (results : List ReadResult) → (sent : Nat) →
    Bool × Nat × List ReadResult
  | [], sent => (decide (data.length ≤ sent), sent, [])
  | result :: results, sent =>
      if sent < data.length then
        match result with
        | .failed => (false, sent, results)
        | .interrupted => sendLoop data results sent
        | .bytes count =>
            let moved := min count (data.length - sent)
            if moved = 0 then (false, sent, results) else sendLoop data results (sent + moved)
      else (true, sent, result :: results)

/-- The texts of the format string in `send_response`. -/
def statusText : CString := "HTTP/1.0 ".toList

def typeText : CString := "\r\nContent-Type: ".toList

def lengthText : CString := "\r\nContent-Length: ".toList

def closeText : CString := "\r\nConnection: close\r\n\r\n".toList

/-- What `snprintf` writes. -/
def responseHeader (response : Response) : CString :=
  statusText ++ Nat.toDigits 10 response.status ++ ' ' :: response.reason ++ typeText ++
    response.contentType ++ lengthText ++ Nat.toDigits 10 response.body.length ++ closeText

def headerBytes (response : Response) : List UInt8 :=
  (responseHeader response).map fun c => .ofNat c.toNat

/-- `sizeof(header)`. -/
def headerSize : Nat := 512

/-- `send_response`: what it returns, and what the client receives. -/
def sendResponse (response : Response) (results : List ReadResult) : Int32 × List UInt8 :=
  let header := headerBytes response
  if header.length ≥ headerSize then (-1, [])
  else
    let (done, sent, rest) := sendLoop header results 0
    if !done then (-1, header.take sent)
    else
      let (done, sent, _) := sendLoop response.body rest 0
      (if done then 0 else -1, header ++ response.body.take sent)

/-- The loop of `read_frame`: whether it returns 0, and the framebuffer where it leaves it. -/
def readInto (device : List UInt8) : (results : List ReadResult) → (offset : Nat) →
    (framebuffer : List UInt8) → Bool × List UInt8
  | [], offset, framebuffer => (decide (fbBytes ≤ offset), framebuffer)
  | result :: results, offset, framebuffer =>
      if offset < fbBytes then
        match result with
        | .failed => (false, framebuffer)
        | .interrupted => readInto device results offset framebuffer
        | .bytes count =>
            let data := (device.drop offset).take (min count (fbBytes - offset))
            if data.length = 0 then (false, framebuffer)
            else
              readInto device results (offset + data.length)
                (Painting.overwrite framebuffer offset data)
      else (true, framebuffer)

/-- A connection: the bytes the client sends and how they arrive, the device at that time and how it is
read, and how the response is sent. -/
structure Client where
  sent : List UInt8
  recvs : List ReadResult
  device : Option (List UInt8)
  reads : List ReadResult
  sends : List ReadResult

/-- The static buffers. -/
structure Buffers where
  framebuffer : List UInt8
  bitmap : List UInt8

def Buffers.zero : Buffers := ⟨.replicate fbBytes 0, .replicate bmpBytes 0⟩

/-- `handle_request` after its loop, and the buffers where it leaves them. -/
def respondInto (device : Option (List UInt8)) (reads : List ReadResult) (request : List UInt8)
    (buffers : Buffers) : Response × Buffers :=
  if request.length = requestBytes then
    (textResponse 413 "Payload Too Large" "request too large\n", buffers)
  else
    match scanRequest request with
    | none => (textResponse 400 "Bad Request" "bad request\n", buffers)
    | some line =>
        if line.method ≠ ascii "GET" then
          (textResponse 405 "Method Not Allowed" "GET only\n", buffers)
        else if line.path = ascii "/health" then
          (textResponse 200 "OK" "status=ok\nread_only=1\n", buffers)
        else if line.path ≠ ascii "/" ∧ line.path ≠ ascii "/frame.bmp" then
          (textResponse 404 "Not Found" "not found\n", buffers)
        else
          match device.map fun device => readInto device reads 0 buffers.framebuffer with
          | none => (textResponse 503 "Service Unavailable" "framebuffer read failed\n", buffers)
          | some (false, framebuffer) =>
              (textResponse 503 "Service Unavailable" "framebuffer read failed\n",
                { buffers with framebuffer })
          | some (true, framebuffer) =>
              let bitmap := buildBitmap framebuffer buffers.bitmap
              (⟨200, "OK".toList, "image/bmp".toList, bitmap⟩, ⟨framebuffer, bitmap⟩)

/-- `handle_request`: what it returns, what the client receives, and the buffers. -/
def handle (client : Client) (buffers : Buffers) : Bool × List UInt8 × Buffers :=
  match recvLoop client.sent client.recvs [] with
  | none => (false, [], buffers)
  | some request =>
      let (response, buffers) := respondInto client.device client.reads request buffers
      (true, (sendResponse response client.sends).2, buffers)

/-- How an `accept` ends. -/
inductive AcceptResult where
  | interrupted
  | failed
  | client (client : Client)

/-- The loop of `main`: what each client receives, and the exit status, if it has come to one when the
results end. -/
def acceptLoop (once : Bool) : List AcceptResult → Buffers → List (List UInt8) × Option Int32
  | [], _ => ([], none)
  | .interrupted :: results, buffers => acceptLoop once results buffers
  | .failed :: _, _ => ([], some 1)
  | .client client :: results, buffers =>
      let (answered, received, buffers) := handle client buffers
      if answered && once then ([received], some 0)
      else
        let (others, status) := acceptLoop once results buffers
        (received :: others, status)

end FbServe

end VitaLinuxPort
