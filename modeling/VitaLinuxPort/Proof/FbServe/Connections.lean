import Mathlib.Data.Nat.Digits.Defs
import VitaLinuxPort.Lib.Format
import VitaLinuxPort.Proof.Presentation.Screenshot
import VitaLinuxPort.Toolkit.FbServe.Connections

/-!
# What the clients of the framebuffer server receive

The response to a client depends on nothing an earlier client left in the static buffers: a frame is
sent only after all of it has been read. Where a send fails the client receives the beginning of the
response, and no such beginning can be taken for a response, since the header says how long the body is.
-/

namespace VitaLinuxPort

namespace FbServe

section Send

/-- However `send` cuts it up, what has been sent is a beginning, and `send_all` returns 0 where it is
all of it. -/
theorem sendLoop_spec (data : List UInt8) (results : List ReadResult) {sent : Nat}
    (hsent : sent ≤ data.length) :
    sent ≤ (sendLoop data results sent).2.1 ∧ (sendLoop data results sent).2.1 ≤ data.length ∧
      ((sendLoop data results sent).1 = true ↔ (sendLoop data results sent).2.1 = data.length) := by
  induction results generalizing sent with
  | nil =>
      rw [sendLoop]
      refine ⟨Nat.le_refl _, hsent, ?_⟩
      rw [decide_eq_true_iff]
      exact ⟨Nat.le_antisymm hsent, Eq.ge⟩
  | cons result results ih =>
      rw [sendLoop.eq_def]
      dsimp only
      split
      · next hmore =>
          cases result with
          | failed => exact ⟨Nat.le_refl _, hsent, iff_of_false Bool.false_ne_true hmore.ne⟩
          | interrupted => exact ih hsent
          | bytes count =>
              dsimp only
              split
              · exact ⟨Nat.le_refl _, hsent, iff_of_false Bool.false_ne_true hmore.ne⟩
              · obtain ⟨hle, hrest⟩ := @ih (sent + min count (data.length - sent)) (by omega)
                exact ⟨Nat.le_trans (Nat.le_add_right _ _) hle, hrest⟩
      · next hend =>
          exact ⟨Nat.le_refl _, hsent, iff_of_true rfl (Nat.le_antisymm hsent (Nat.le_of_not_lt hend))⟩

/-- All of a response. -/
def Response.wire (response : Response) : List UInt8 := headerBytes response ++ response.body

theorem sendResponse_spec {response : Response} (hheader : (headerBytes response).length < headerSize)
    (results : List ReadResult) :
    (sendResponse response results).2 <+: response.wire ∧
      ((sendResponse response results).1 = 0 ↔
        (sendResponse response results).2 = response.wire) := by
  have hhead := sendLoop_spec (headerBytes response) results (Nat.zero_le _)
  rw [sendResponse, if_neg (Nat.not_le.mpr hheader)]
  rcases hsend : sendLoop (headerBytes response) results 0 with ⟨done, sent, rest⟩
  rw [hsend] at hhead
  obtain ⟨-, hsent, hdone⟩ := hhead
  cases done with
  | false =>
      have hless : sent < (headerBytes response).length :=
        Nat.lt_of_le_of_ne hsent fun heq => Bool.false_ne_true (hdone.mpr heq)
      refine ⟨(List.take_prefix _ _).trans (List.prefix_append _ _), ?_⟩
      refine iff_of_false (show ¬((-1 : Int32) = 0) by decide) fun heq => ?_
      have hlength := congrArg List.length heq
      simp only [Bool.not_false, if_true, List.length_take, Response.wire, List.length_append]
        at hlength
      omega
  | true =>
      have hbody := sendLoop_spec response.body rest (Nat.zero_le _)
      rcases hsend' : sendLoop response.body rest 0 with ⟨done', sent', rest'⟩
      rw [hsend'] at hbody
      obtain ⟨-, hsent', hdone'⟩ := hbody
      simp only [Bool.not_true, Bool.false_eq_true, if_false, hsend']
      refine ⟨?_, ?_⟩
      · rw [Response.wire, List.prefix_append_right_inj]
        exact List.take_prefix _ _
      · rw [Response.wire, List.append_cancel_left_eq]
        cases done' with
        | false =>
            refine iff_of_false (show ¬((-1 : Int32) = 0) by decide) fun heq => ?_
            have hlength := congrArg List.length heq
            rw [List.length_take] at hlength
            exact Bool.false_ne_true (hdone'.mpr (by simp only at *; omega))
        | true =>
            have hall : sent' = response.body.length := hdone'.mp rfl
            rw [hall]
            exact iff_of_true rfl List.take_length

end Send

section Wire

def bytes (text : CString) : List UInt8 := text.map fun c => .ofNat c.toNat

/-- What a client makes of a response. -/
structure Received where
  status : Nat
  reason : List UInt8
  contentType : List UInt8
  body : List UInt8

/-- How a client reads a response: by the length in its header. -/
def wireFormat : Format UInt8 Received :=
  ((Format.literal (bytes statusText)).andThen fun _ => (Format.number 32).andThen fun _ =>
    (Format.upTo 13).andThen fun _ => (Format.literal (bytes typeText).tail).andThen fun _ =>
    (Format.upTo 13).andThen fun _ => (Format.literal (bytes lengthText).tail).andThen fun _ =>
    (Format.number 13).andThen fun length =>
    (Format.literal (bytes closeText).tail).andThen fun _ => Format.sized length).reading
    (fun r => ((), r.status, r.reason, (), r.contentType, (), r.body.length, (), r.body))
    (fun (_, status, reason, _, contentType, _, _, _, body) => some ⟨status, reason, contentType, body⟩)
    fun _ => rfl

def Response.received (response : Response) : Received where
  status := response.status
  reason := bytes response.reason
  contentType := bytes response.contentType
  body := response.body

/-- Its texts hold no line end, and its header fits the buffer it is printed to. -/
structure Response.Sendable (response : Response) : Prop where
  status : response.status < 1000
  reason : (13 : UInt8) ∉ response.received.reason ∧ response.reason.length ≤ 64
  contentType : (13 : UInt8) ∉ response.received.contentType ∧ response.contentType.length ≤ 64
  body : response.body.length < 10 ^ 9

theorem headerBytes_eq (response : Response) :
    headerBytes response = bytes statusText ++ Format.digits response.status ++
      32 :: bytes response.reason ++ bytes typeText ++ bytes response.contentType ++
      bytes lengthText ++ Format.digits response.body.length ++ bytes closeText := by
  unfold headerBytes responseHeader bytes Format.digits
  simp only [List.map_append, List.map_cons]
  rfl

theorem encode_received (response : Response) :
    wireFormat.encode response.received = response.wire := by
  have htype : bytes typeText = 13 :: (bytes typeText).tail := by decide
  have hlength : bytes lengthText = 13 :: (bytes lengthText).tail := by decide
  have hclose : bytes closeText = 13 :: (bytes closeText).tail := by decide
  rw [Response.wire, headerBytes_eq, htype, hlength, hclose]
  simp only [wireFormat, Response.received, Format.reading_encode, Format.andThen_encode,
    Format.literal_encode, Format.number_encode, Format.upTo_encode, Format.sized_encode,
    List.append_assoc, List.cons_append, List.nil_append]

theorem Response.Sendable.valid {response : Response} (h : response.Sendable) :
    wireFormat.valid response.received := by
  have hstatus : (Format.number 32).valid response.received.status :=
    Format.number_valid (by decide) _
  have hlength : (Format.number 13).valid response.received.body.length :=
    Format.number_valid (by decide) _
  simp only [wireFormat, Format.reading_valid, Format.andThen_valid, Format.literal_valid,
    Format.upTo_valid, Format.sized_valid]
  exact ⟨trivial, hstatus, h.reason.1, trivial, h.contentType.1, trivial, hlength, trivial, trivial⟩

theorem Response.Sendable.length_header {response : Response} (h : response.Sendable) :
    (headerBytes response).length < headerSize := by
  have hstatus := Nat.toDigits_length 10 response.status 3 (by decide) h.status
  have hlength := Nat.toDigits_length 10 response.body.length 9 (by decide) h.body
  have hreason := h.reason.2
  have htype := h.contentType.2
  have htexts : statusText.length = 9 ∧ typeText.length = 16 ∧ lengthText.length = 18 ∧
    closeText.length = 23 := by decide
  unfold headerBytes responseHeader headerSize
  simp only [List.length_map, List.length_append, List.length_cons]
  omega

/-- The client reads the response where all of it has been sent, and nothing where it has not. -/
theorem decode_sendResponse {response : Response} (h : response.Sendable)
    (results : List ReadResult) :
    wireFormat.decode (sendResponse response results).2 =
      if (sendResponse response results).1 = 0 then some (response.received, []) else none := by
  obtain ⟨hfront, hall⟩ := sendResponse_spec h.length_header results
  rw [← encode_received] at hfront hall
  split
  · next hdone =>
      rw [hall.mp hdone]
      exact wireFormat.decode_self h.valid
  · next hcut =>
      exact wireFormat.decode_of_prefix h.valid hfront fun heq => hcut (hall.mpr heq)

end Wire

section Buffers

variable {device : List UInt8} {reads : List ReadResult} {request : List UInt8}

/-- The loop with the buffer it leaves is the loop of the frame it reads. -/
theorem readLoop_eq_readInto {offset : Nat} {framebuffer : List UInt8} :
    readLoop device reads offset framebuffer =
      if (readInto device reads offset framebuffer).1 then
        some (readInto device reads offset framebuffer).2
      else none := by
  induction reads generalizing offset framebuffer with
  | nil =>
      rw [readLoop.eq_def, readInto]
      by_cases hmore : offset < fbBytes
      · simp [hmore]
      · simp [hmore, Nat.le_of_not_lt hmore]
  | cons result reads ih =>
      rw [readLoop.eq_def, readInto.eq_def]
      dsimp only
      split
      · cases result with
        | failed => rfl
        | interrupted => exact ih
        | bytes count =>
            dsimp only
            split
            · rfl
            · exact ih
      · rfl

/-- The framebuffer keeps its size, and whether a frame is read does not depend on what it held. -/
theorem readInto_spec {offset : Nat} (hoffset : offset ≤ fbBytes) {first second : List UInt8}
    (hfirst : first.length = fbBytes) (hsecond : second.length = fbBytes) :
    (readInto device reads offset first).2.length = fbBytes ∧
      (readInto device reads offset first).1 = (readInto device reads offset second).1 := by
  induction reads generalizing offset first second with
  | nil => exact ⟨hfirst, rfl⟩
  | cons result reads ih =>
      rw [readInto.eq_def, readInto.eq_def]
      dsimp only
      split
      · next hmore =>
          cases result with
          | failed => exact ⟨hfirst, rfl⟩
          | interrupted => exact ih hoffset hfirst hsecond
          | bytes count =>
              dsimp only
              have hdata : ((device.drop offset).take (min count (fbBytes - offset))).length
                  ≤ fbBytes - offset := by
                rw [List.length_take]
                omega
              split
              · exact ⟨hfirst, rfl⟩
              · apply ih
                · omega
                · rw [Painting.length_overwrite (by omega), hfirst]
                · rw [Painting.length_overwrite (by omega), hsecond]
      · exact ⟨hfirst, rfl⟩

theorem readInto_done {framebuffer : List UInt8} (hlength : framebuffer.length = fbBytes)
    (h : (readInto device reads 0 framebuffer).1 = true) :
    (readInto device reads 0 framebuffer).2 = device.take fbBytes := by
  refine @readFrame_eq device _ _ reads hlength ?_
  rw [readFrame, readLoop_eq_readInto, if_pos h]

/-- The buffers have their sizes. -/
structure Buffers.Sized (buffers : Buffers) : Prop where
  framebuffer : buffers.framebuffer.length = fbBytes
  bitmap : buffers.bitmap.length = bmpBytes

theorem Buffers.sized_zero : Buffers.zero.Sized :=
  ⟨List.length_replicate, List.length_replicate⟩

theorem buildBitmap_congr {framebuffer first second : List UInt8}
    (h : first.length = second.length) :
    buildBitmap framebuffer first = buildBitmap framebuffer second := by
  unfold buildBitmap buildHeader
  rw [h]

theorem respondInto_sized {device : Option (List UInt8)} {buffers : Buffers} (h : buffers.Sized) :
    (respondInto device reads request buffers).2.Sized := by
  unfold respondInto
  split
  · exact h
  split
  · exact h
  split
  · exact h
  split
  · exact h
  split
  · exact h
  cases device with
  | none => exact h
  | some device =>
      have hread := @readInto_spec device reads 0 (Nat.zero_le _) _ _ h.framebuffer h.framebuffer
      rcases hresult : readInto device reads 0 buffers.framebuffer with ⟨done, framebuffer⟩
      rw [hresult] at hread
      simp only [Option.map_some, hresult]
      cases done with
      | false => exact ⟨hread.1, h.bitmap⟩
      | true =>
          dsimp only
          refine ⟨hread.1, ?_⟩
          dsimp only
          exact length_buildBitmap h.bitmap

/-- The response depends on the buffers' sizes only. -/
theorem respondInto_congr {device : Option (List UInt8)} {first second : Buffers}
    (hfirst : first.Sized) (hsecond : second.Sized) :
    (respondInto device reads request first).1 = (respondInto device reads request second).1 := by
  unfold respondInto
  split
  · rfl
  split
  · rfl
  split
  · rfl
  split
  · rfl
  split
  · rfl
  cases device with
  | none => rfl
  | some device =>
      have hsame := (@readInto_spec device reads 0 (Nat.zero_le _) _ _ hfirst.framebuffer
        hsecond.framebuffer).2
      have hdone := @readInto_done device reads _ hfirst.framebuffer
      have hdone' := @readInto_done device reads _ hsecond.framebuffer
      rcases hresult : readInto device reads 0 first.framebuffer with ⟨done, framebuffer⟩
      rcases hresult' : readInto device reads 0 second.framebuffer with ⟨done', framebuffer'⟩
      rw [hresult] at hsame hdone
      rw [hresult'] at hsame hdone'
      obtain rfl : done = done' := hsame
      simp only [Option.map_some, hresult, hresult']
      cases done with
      | false => rfl
      | true =>
          obtain rfl : framebuffer = device.take fbBytes := hdone rfl
          obtain rfl : framebuffer' = device.take fbBytes := hdone' rfl
          dsimp only
          rw [buildBitmap_congr (hfirst.bitmap.trans hsecond.bitmap.symm)]

/-- It is the response without a view of the buffers. -/
theorem respondInto_eq_respond (device : Option (List UInt8)) (buffers : Buffers) :
    (respondInto device reads request buffers).1 =
      respond device reads buffers.framebuffer buffers.bitmap request := by
  unfold respondInto respond
  split
  · rfl
  cases scanRequest request with
  | none => rfl
  | some line =>
      dsimp only
      split
      · rfl
      split
      · rfl
      split
      · rfl
      cases device with
      | none => rfl
      | some device =>
          rw [readFrame, readLoop_eq_readInto]
          rcases hresult : readInto device reads 0 buffers.framebuffer with ⟨done, framebuffer⟩
          simp only [Option.map_some, hresult]
          cases done with
          | false => rfl
          | true => rfl

end Buffers

section Clients

theorem textResponse_sendable {status : Nat} {reason body : String} (hstatus : status < 1000)
    (hreason : (13 : UInt8) ∉ bytes reason.toList ∧ reason.toList.length ≤ 64)
    (hbody : (ascii body).length < 10 ^ 9) : (textResponse status reason body).Sendable where
  status := hstatus
  reason := hreason
  contentType := by
    show (13 : UInt8) ∉ bytes "text/plain; charset=utf-8".toList ∧
      "text/plain; charset=utf-8".toList.length ≤ 64
    decide
  body := hbody

theorem respondInto_sendable {device : Option (List UInt8)} {reads : List ReadResult}
    {request : List UInt8} {buffers : Buffers} (h : buffers.Sized) :
    (respondInto device reads request buffers).1.Sendable := by
  have hunavailable :
      (textResponse 503 "Service Unavailable" "framebuffer read failed\n").Sendable :=
    textResponse_sendable (by decide) (by decide) (by decide)
  unfold respondInto
  split
  · exact textResponse_sendable (by decide) (by decide) (by decide)
  split
  · exact textResponse_sendable (by decide) (by decide) (by decide)
  split
  · exact textResponse_sendable (by decide) (by decide) (by decide)
  split
  · exact textResponse_sendable (by decide) (by decide) (by decide)
  split
  · exact textResponse_sendable (by decide) (by decide) (by decide)
  split
  · exact hunavailable
  · exact hunavailable
  · next framebuffer _ =>
      have hlength := @length_buildBitmap framebuffer _ h.bitmap
      refine ⟨?_, ?_, ?_, ?_⟩
      · show 200 < 1000
        decide
      · show (13 : UInt8) ∉ bytes "OK".toList ∧ "OK".toList.length ≤ 64
        decide
      · show (13 : UInt8) ∉ bytes "image/bmp".toList ∧ "image/bmp".toList.length ≤ 64
        decide
      · dsimp only
        rw [hlength]
        decide

/-- The request of a client is received in whole, and answered. -/
def Client.request? (client : Client) : Option (List UInt8) := recvLoop client.sent client.recvs []

/-- The response to a client of a server that has had no other. -/
def Client.response? (client : Client) : Option Response :=
  client.request?.map
    (respond client.device client.reads Buffers.zero.framebuffer Buffers.zero.bitmap)

/-- What such a client receives. -/
def Client.receives (client : Client) : List UInt8 :=
  match client.response? with
  | none => []
  | some response => (sendResponse response client.sends).2

/-- `handle_request` serves a client as if it were the first. -/
theorem handle_spec (client : Client) {buffers : Buffers} (h : buffers.Sized) :
    (handle client buffers).1 = client.response?.isSome ∧
      (handle client buffers).2.1 = client.receives ∧ (handle client buffers).2.2.Sized := by
  unfold handle Client.receives Client.response? Client.request?
  cases hrequest : recvLoop client.sent client.recvs [] with
  | none => exact ⟨rfl, rfl, h⟩
  | some request =>
      have hsized := @respondInto_sized client.reads request client.device _ h
      have hsame := @respondInto_congr client.reads request client.device _ _ h Buffers.sized_zero
      rw [respondInto_eq_respond _ Buffers.zero] at hsame
      dsimp only [Option.map_some]
      rw [← hsame]
      exact ⟨rfl, rfl, hsized⟩

/-- The connections until `accept` fails. -/
def clientsOf : List AcceptResult → List Client
  | [] | .failed :: _ => []
  | .interrupted :: results => clientsOf results
  | .client client :: results => client :: clientsOf results

/-- The clients that are served: with `--once`, those up to the first that is answered. -/
def servedClients (once : Bool) (results : List AcceptResult) : List Client :=
  let waiting := (clientsOf results).takeWhile fun client => !(once && client.response?.isSome)
  waiting ++ ((clientsOf results).drop waiting.length).take 1

def AcceptResult.isFailure : AcceptResult → Bool
  | .failed => true
  | _ => false

theorem servedClients_last {once : Bool} {client : Client} {results : List AcceptResult}
    (h : (once && client.response?.isSome) = true) :
    servedClients once (.client client :: results) = [client] := by
  unfold servedClients
  rw [clientsOf, List.takeWhile_cons_of_neg (by rw [h]; exact Bool.false_ne_true)]
  rfl

theorem servedClients_next {once : Bool} {client : Client} {results : List AcceptResult}
    (h : (once && client.response?.isSome) = false) :
    servedClients once (.client client :: results) = client :: servedClients once results := by
  unfold servedClients
  rw [clientsOf, List.takeWhile_cons_of_pos (by rw [h]; rfl)]
  rfl

/-- Every client is served as if it were the first, and the server ends with 0 when `--once` is given and
a client has been answered, with 1 when `accept` fails before that. -/
theorem acceptLoop_spec (once : Bool) (results : List AcceptResult) {buffers : Buffers}
    (h : buffers.Sized) :
    acceptLoop once results buffers =
      ((servedClients once results).map Client.receives,
        if once && (clientsOf results).any (·.response?.isSome) then some 0
        else if results.any AcceptResult.isFailure then some 1 else none) := by
  induction results generalizing buffers with
  | nil => cases once <;> rfl
  | cons result results ih =>
      cases result with
      | interrupted => exact ih h
      | failed => cases once <;> rfl
      | client client =>
          obtain ⟨hanswered, hreceived, hsized⟩ := handle_spec client h
          have hrest := ih hsized
          have hany : (once && (clientsOf (.client client :: results)).any (·.response?.isSome)) =
              ((once && client.response?.isSome) ||
                (once && (clientsOf results).any (·.response?.isSome))) := by
            rw [clientsOf, List.any_cons, Bool.and_or_distrib_left]
          rw [acceptLoop, hany]
          simp only [hanswered, hreceived, hrest]
          cases hlast : once && client.response?.isSome with
          | true =>
              have hleft : (client.response?.isSome && once) = true := by rw [Bool.and_comm, hlast]
              rw [servedClients_last hlast, hleft]
              rfl
          | false =>
              have hleft : (client.response?.isSome && once) = false := by rw [Bool.and_comm, hlast]
              rw [servedClients_next hlast, hleft]
              rfl

/-- A client that hangs up, and one that asks for `/health` and reads slowly. -/
private def hangsUp : Client := ⟨[], [.bytes 0], none, [], []⟩

private def asksHealth : Client :=
  ⟨ascii "GET /health HTTP/1.0\r\n\r\n", [.bytes 20, .interrupted, .bytes 4], none, [],
    [.bytes 100, .interrupted, .bytes 100, .bytes 22]⟩

theorem acceptLoop_spec_health :
    acceptLoop true [.client hangsUp, .interrupted, .client asksHealth, .client asksHealth]
      Buffers.zero = ([hangsUp.receives, asksHealth.receives], some 0) := by
  have hnone : hangsUp.response?.isSome = false := by decide
  have hsome : asksHealth.response?.isSome = true := by decide
  rw [acceptLoop_spec true _ Buffers.sized_zero]
  have hserved : servedClients true [.client hangsUp, .interrupted, .client asksHealth,
      .client asksHealth] = [hangsUp, asksHealth] := by
    rw [servedClients_next (by rw [hnone]; rfl)]
    exact congrArg (hangsUp :: ·) (servedClients_last (by rw [hsome]; rfl))
  rw [hserved]
  simp [clientsOf, hsome]

end Clients

end FbServe

end VitaLinuxPort
