import VitaLinuxPort.Lib.Segmentation
import VitaLinuxPort.Toolkit.FbServe

/-!
# Requests in parts

Where `handle_request` stops receiving depends on the parts in which the bytes arrive. Once the header
has ended and holds the three strings of the request line, no more bytes change what is read of them.
But it answers that the request is too large wherever the buffer is full, also when the header has
ended in it, and of a header without three strings it takes what is missing from the bytes behind it.
-/

namespace VitaLinuxPort

namespace FbServe

section Scan

theorem cString_append (request more : List UInt8) :
    ∃ more', cString (request ++ more) = cString request ++ more' := by
  rw [cString, cString, List.takeWhile_append]
  split
  · next hall =>
    have hwhole := List.takeWhile_prefix (l := request) (· ≠ 0)
    exact ⟨_, by rw [hwhole.eq_of_length hall]⟩
  · exact ⟨[], (List.append_nil _).symm⟩

theorem headerEnds_append {request : List UInt8} (h : headerEnds request = true)
    (more : List UInt8) : headerEnds (request ++ more) = true := by
  obtain ⟨more', hmore⟩ := cString_append request more
  have hinfix : cString request <:+: cString (request ++ more) :=
    hmore ▸ (List.prefix_append _ _).isInfix
  rw [headerEnds, decide_eq_true_eq] at h ⊢
  exact h.imp (List.IsInfix.trans · hinfix) (List.IsInfix.trans · hinfix)

/-- More text changes a string only where nothing was left behind it. -/
theorem scanString_append {width : Nat} {text field rest : List UInt8}
    (h : scanString width text = some (field, rest)) (more : List UInt8) :
    ∃ field' rest', scanString width (text ++ more) = some (field', rest') ∧
      (rest ≠ [] → field' = field ∧ rest' = rest ++ more) := by
  rw [scanString] at h ⊢
  rw [List.dropWhile_append]
  generalize text.dropWhile isSpace = tail at h ⊢
  split at h
  · exact absurd h nofun
  · next hfield =>
    obtain ⟨rfl, rfl⟩ := Prod.mk.inj (Option.some.inj h)
    have hword := List.takeWhile_prefix (l := tail) (!isSpace ·)
    have hnonempty : tail.isEmpty = false := by
      cases tail with
      | nil => exact absurd List.take_nil hfield
      | cons c tail => rfl
    rw [hnonempty, if_neg Bool.false_ne_true, List.takeWhile_append]
    split
    · next hall =>
      -- The text ends in the middle of the string, or where the width does.
      rw [hword.eq_of_length hall] at hfield ⊢
      rw [List.take_append, if_neg (List.append_ne_nil_of_left_ne_nil hfield _)]
      refine ⟨_, _, rfl, fun hrest => ?_⟩
      have hwidth : width < tail.length := by
        rw [ne_eq, List.drop_eq_nil_iff, List.length_take] at hrest
        omega
      rw [Nat.sub_eq_zero_of_le hwidth.le, List.take_zero, List.append_nil,
        List.drop_append_of_le_length (List.length_take_le' _ _)]
      exact ⟨rfl, rfl⟩
    · refine ⟨_, _, rfl, fun _ => ⟨rfl, List.drop_append_of_le_length ?_⟩⟩
      exact (List.length_take_le' _ _).trans hword.length_le

/-- More bytes change neither the method nor the path of a request line that is there. -/
theorem scanRequest_append {request : List UInt8} {line : RequestLine}
    (h : scanRequest request = some line) (more : List UInt8) :
    ∃ version, scanRequest (request ++ more) = some { line with version } := by
  obtain ⟨more', hmore⟩ := cString_append request more
  simp only [scanRequest, Option.bind_eq_bind, Option.bind_eq_some_iff, Prod.exists] at h
  obtain ⟨method, rest, hmethod, path, rest', hpath, version, rest'', hversion, hline⟩ := h
  obtain rfl := Option.some.inj hline
  have hrest : rest ≠ [] := by
    rintro rfl
    exact absurd hpath nofun
  have hrest' : rest' ≠ [] := by
    rintro rfl
    exact absurd hversion nofun
  obtain ⟨_, _, hmethod', hsame⟩ := scanString_append hmethod more'
  obtain ⟨rfl, rfl⟩ := hsame hrest
  obtain ⟨_, _, hpath', hsame'⟩ := scanString_append hpath more'
  obtain ⟨rfl, rfl⟩ := hsame' hrest'
  obtain ⟨version', _, hversion', _⟩ := scanString_append hversion more'
  refine ⟨version', ?_⟩
  rw [scanRequest, hmore, hmethod']
  simp only [Option.bind_eq_bind, Option.bind_some, hpath', hversion']
  rfl

end Scan

section Loop

variable (sent : List UInt8)

/-- The header has ended with so many bytes. -/
def endsAt (received : Nat) : Bool := headerEnds (sent.take received)

theorem endsAt_mono {few more : Nat} (hle : few ≤ more) (h : endsAt sent few = true) :
    endsAt sent more = true := by
  obtain ⟨count, rfl⟩ := Nat.exists_eq_add_of_le hle
  rw [endsAt, List.take_add]
  exact headerEnds_append h _

/-- The loop is a receiver that stops where the header has ended or the buffer is full. -/
theorem recvLoop_eq_stop {parts : List Nat} (hparts : ∀ part ∈ parts, 0 < part) {received : Nat}
    (hsum : received + parts.sum ≤ sent.length) :
    recvLoop sent (parts.map .bytes) (sent.take received) =
      (Segmentation.stop (endsAt sent) requestBytes parts received).map sent.take := by
  induction parts generalizing received with
  | nil =>
    have hlength : (sent.take received).length = received := List.length_take_of_le hsum
    rw [List.map_nil, recvLoop, Segmentation.stop, hlength]
    split
    · rfl
    · rfl
  | cons part parts ih =>
    have hpart := hparts part List.mem_cons_self
    rw [List.sum_cons] at hsum
    have hlength : (sent.take received).length = received :=
      List.length_take_of_le (by omega)
    have htake : sent.take received ++
          (sent.drop received).take (min part (requestBytes - received)) =
        sent.take (received + min part (requestBytes - received)) := List.take_add.symm
    rw [List.map_cons, recvLoop, hlength]
    dsimp only
    rw [htake]
    obtain hlt | hge := Nat.lt_or_ge received requestBytes
    · have hnext : received + min part (requestBytes - received) = min (received + part) requestBytes := by
        omega
      have hdata : ((sent.drop received).take (min part (requestBytes - received))).length ≠ 0 := by
        rw [List.length_take, List.length_drop]
        omega
      rw [if_pos hlt, if_neg hdata, Segmentation.stop_cons hlt, hnext]
      by_cases hends : endsAt sent (min (received + part) requestBytes) = true
      · rw [if_pos hends]
        exact if_pos hends
      · rw [if_neg hends, ← ih (fun part hmem => hparts part (List.mem_cons_of_mem _ hmem)) (by omega)]
        exact if_neg hends
    · rw [if_neg (Nat.not_lt.mpr hge), Segmentation.stop, if_neg (Nat.not_lt.mpr hge)]
      rfl

end Loop

section Respond

variable {device : Option (List UInt8)} {reads : List ReadResult} {framebuffer bitmap : List UInt8}

theorem status_respond_full {request : List UInt8} (hfull : request.length = requestBytes) :
    (respond device reads framebuffer bitmap request).status = 413 := by
  rw [respond, if_pos hfull]
  rfl

theorem respond_none {request : List UInt8} (hfits : request.length ≠ requestBytes)
    (hnone : scanRequest request = none) :
    respond device reads framebuffer bitmap request
      = textResponse 400 "Bad Request" "bad request\n" := by
  rw [respond, if_neg hfits, hnone]

theorem status_respond_line {request : List UInt8} {line : RequestLine}
    (hfits : request.length ≠ requestBytes) (hline : scanRequest request = some line) :
    (respond device reads framebuffer bitmap request).status ∈ [200, 404, 405, 503] := by
  rw [respond, if_neg hfits, hline]
  dsimp only
  split
  · exact List.mem_of_elem_eq_true rfl
  split
  · exact List.mem_of_elem_eq_true rfl
  split
  · exact List.mem_of_elem_eq_true rfl
  split
  · exact List.mem_of_elem_eq_true rfl
  · exact List.mem_of_elem_eq_true rfl

theorem status_respond_fits {request : List UInt8} (hfits : request.length ≠ requestBytes) :
    (respond device reads framebuffer bitmap request).status ≠ 413 := by
  cases hline : scanRequest request with
  | none =>
    rw [respond_none hfits hline]
    exact of_decide_eq_true rfl
  | some line =>
    intro hstatus
    have hmem := @status_respond_line device reads framebuffer bitmap _ _ hfits hline
    rw [hstatus] at hmem
    exact absurd hmem (by decide)

/-- Bytes behind a request line that is there do not change the response. -/
theorem respond_append {request : List UInt8} {line : RequestLine}
    (hline : scanRequest request = some line) {more : List UInt8}
    (hfits : (request ++ more).length < requestBytes) :
    respond device reads framebuffer bitmap (request ++ more)
      = respond device reads framebuffer bitmap request := by
  obtain ⟨version, hmore⟩ := scanRequest_append hline more
  have hrequest : request.length < requestBytes := by
    rw [List.length_append] at hfits
    omega
  rw [respond, respond, if_neg hfits.ne, if_neg hrequest.ne, hline, hmore]

end Respond

section Handled

variable (device : Option (List UInt8)) (reads : List ReadResult) (framebuffer bitmap : List UInt8)

/-- The response to a client whose bytes arrive in these parts. -/
def handled (sent : List UInt8) (parts : Composition sent.length) : Option Response :=
  handleRequest device reads framebuffer bitmap sent (parts.blocks.map .bytes)

/-- The parts do not matter for the response, and they never make the request too large. -/
structure SegmentationIndependent (sent : List UInt8) : Prop where
  same : ∀ first second : Composition sent.length,
    handled device reads framebuffer bitmap sent first
      = handled device reads framebuffer bitmap sent second
  notTooLarge : ∀ parts : Composition sent.length,
    ∀ response ∈ handled device reads framebuffer bitmap sent parts, response.status ≠ 413

variable {device reads framebuffer bitmap} {sent : List UInt8}

theorem handled_eq (parts : Composition sent.length) :
    handled device reads framebuffer bitmap sent parts =
      (Segmentation.stop (endsAt sent) requestBytes parts.blocks 0).map fun received =>
        respond device reads framebuffer bitmap (sent.take received) := by
  have hstop := @recvLoop_eq_stop sent _ (fun _ hmem => parts.blocks_pos hmem) 0
    (by rw [parts.blocks_sum, Nat.zero_add])
  rw [List.take_zero] at hstop
  rw [handled, handleRequest, hstop, Option.map_map]
  rfl

theorem endsAt_zero : endsAt sent 0 = false := by
  rw [endsAt, List.take_zero]
  rfl

theorem handled_of_isStop {place : Nat}
    (hplace : Segmentation.IsStop (endsAt sent) requestBytes sent.length place) :
    ∃ parts, handled device reads framebuffer bitmap sent parts
      = some (respond device reads framebuffer bitmap (sent.take place)) := by
  obtain ⟨parts, hstop⟩ := Segmentation.exists_stop (by decide) hplace
  exact ⟨parts, by rw [handled_eq, hstop, Option.map_some]⟩

theorem handled_full (hfull : requestBytes ≤ sent.length) :
    ∃ parts, ∃ response ∈ handled device reads framebuffer bitmap sent parts,
      response.status = 413 := by
  obtain ⟨parts, hparts⟩ := @handled_of_isStop device reads framebuffer bitmap sent _
    ⟨by decide, hfull, Nat.le_refl _, .inr rfl⟩
  exact ⟨parts, _, hparts, status_respond_full (List.length_take_of_le hfull)⟩

/-- Wherever the receiver stops, the response is the one to all the bytes. -/
theorem handled_of_header (hfits : sent.length < requestBytes)
    (hheader : ∀ header, header <+: sent → headerEnds header = true →
      (scanRequest header).isSome = (scanRequest sent).isSome)
    (parts : Composition sent.length) :
    handled device reads framebuffer bitmap sent parts =
      if endsAt sent sent.length then some (respond device reads framebuffer bitmap sent)
      else none := by
  rw [handled_eq]
  cases hstop : Segmentation.stop (endsAt sent) requestBytes parts.blocks 0 with
  | none =>
    have hnot := (Segmentation.stop_eq_none_iff (by decide) endsAt_zero (endsAt_mono sent) parts).mp hstop
    rw [hnot.2]
    rfl
  | some place =>
    have hplace := Segmentation.isStop_composition (by decide) hstop
    have hends : endsAt sent place = true := by
      obtain hends | rfl := hplace.reached
      · exact hends
      · exact absurd hplace.le_total (by omega)
    rw [endsAt_mono sent hplace.le_total hends, Option.map_some, if_pos rfl]
    have htake : sent.take place <+: sent := List.take_prefix place sent
    have hsame := hheader _ htake hends
    have hwhole : (sent.take place ++ sent.drop place).length < requestBytes := by
      rwa [List.take_append_drop]
    have hlength : (sent.take place).length < requestBytes := by
      rw [List.length_append] at hwhole
      omega
    cases hline : scanRequest (sent.take place) with
    | none =>
      have hnone : scanRequest sent = none := by
        rw [← Option.not_isSome_iff_eq_none, ← hsame, hline]
        exact Bool.false_ne_true
      rw [respond_none hlength.ne hline, respond_none hfits.ne hnone]
    | some line =>
      have happend := @respond_append device reads framebuffer bitmap _ _ hline _ hwhole
      rw [List.take_append_drop] at happend
      rw [happend]

theorem SegmentationIndependent.fits
    (h : SegmentationIndependent device reads framebuffer bitmap sent) :
    sent.length < requestBytes := by
  by_contra hfull
  obtain ⟨parts, response, hresponse, hstatus⟩ := handled_full (Nat.not_lt.mp hfull)
  exact h.notTooLarge parts response hresponse hstatus

/-- The receiver can stop behind a header that has ended, and behind all the bytes. -/
theorem SegmentationIndependent.respond_header
    (h : SegmentationIndependent device reads framebuffer bitmap sent) {header : List UInt8}
    (hheader : header <+: sent) (hends : headerEnds header = true) :
    respond device reads framebuffer bitmap header
      = respond device reads framebuffer bitmap sent := by
  have htake : sent.take header.length = header := (List.prefix_iff_eq_take.mp hheader).symm
  have hendsAt : endsAt sent header.length = true := by rwa [endsAt, htake]
  have hpos : 0 < header.length := by
    cases header with
    | nil => exact absurd hends Bool.false_ne_true
    | cons c header => exact Nat.succ_pos _
  have hle := hheader.length_le
  obtain ⟨first, hfirst⟩ := @handled_of_isStop device reads framebuffer bitmap _ _
    ⟨hpos, hle, hle.trans h.fits.le, .inl hendsAt⟩
  obtain ⟨second, hsecond⟩ := @handled_of_isStop device reads framebuffer bitmap _ _
    ⟨hpos.trans_le hle, Nat.le_refl _, h.fits.le, .inl (endsAt_mono _ hle hendsAt)⟩
  have hsame := h.same first second
  rw [hfirst, hsecond, htake, List.take_length] at hsame
  exact Option.some.inj hsame

/-- The response tells whether there is a request line. -/
theorem isSome_scanRequest_of_respond_eq {header : List UInt8} (hheader : header <+: sent)
    (hfits : sent.length < requestBytes)
    (hsame : respond device reads framebuffer bitmap header
      = respond device reads framebuffer bitmap sent) :
    (scanRequest header).isSome = (scanRequest sent).isSome := by
  have hlength : header.length < requestBytes := hheader.length_le.trans_lt hfits
  cases hline : scanRequest header with
  | some line =>
    obtain ⟨more, rfl⟩ := hheader
    obtain ⟨version, hmore⟩ := scanRequest_append hline more
    rw [hmore]
    rfl
  | none =>
    cases hall : scanRequest sent with
    | none => rfl
    | some line =>
      have hstatus := @status_respond_line device reads framebuffer bitmap _ _ hfits.ne hall
      rw [← hsame, respond_none hlength.ne hline] at hstatus
      exact absurd hstatus (of_decide_eq_true rfl)

/-- The parts do not matter exactly where fewer bytes are sent than the buffer takes, and a header that
has ended holds three strings if there are three in all the bytes. -/
theorem segmentationIndependent_iff (device : Option (List UInt8)) (reads : List ReadResult)
    (framebuffer bitmap sent : List UInt8) :
    SegmentationIndependent device reads framebuffer bitmap sent ↔
      sent.length < requestBytes ∧ ∀ header, header <+: sent → headerEnds header = true →
        (scanRequest header).isSome = (scanRequest sent).isSome := by
  constructor
  · intro h
    refine ⟨h.fits, fun header hheader hends => ?_⟩
    exact isSome_scanRequest_of_respond_eq hheader h.fits (h.respond_header hheader hends)
  · rintro ⟨hfits, hheader⟩
    have hhandled := @handled_of_header device reads framebuffer bitmap sent hfits hheader
    refine ⟨fun first second => by rw [hhandled, hhandled], fun parts response hresponse => ?_⟩
    rw [hhandled, Option.mem_def] at hresponse
    split at hresponse
    · rw [← Option.some.inj hresponse]
      exact status_respond_fits hfits.ne
    · exact absurd hresponse nofun

/-- The bytes begin with a header that ends where the buffer does or before. -/
def HasHeader (sent : List UInt8) : Prop :=
  ∃ header, header <+: sent ∧ header.length ≤ requestBytes ∧
    ([13, 10, 13, 10] <:+ header ∨ [10, 10] <:+ header)

/-- A request for `/health` with blanks behind it, as many as the buffer takes. -/
theorem segmentationIndependent_iff_padded :
    ¬∀ (device : Option (List UInt8)) (reads : List ReadResult)
      (framebuffer bitmap sent : List UInt8), HasHeader sent →
      SegmentationIndependent device reads framebuffer bitmap sent := by
  intro h
  let header := ascii "GET /health HTTP/1.0\r\n\r\n"
  have hheader : HasHeader (header ++ List.replicate 4072 32) :=
    ⟨header, List.prefix_append _ _, by decide, .inl (by decide)⟩
  have hfull : requestBytes ≤ (header ++ List.replicate 4072 32).length := by
    rw [List.length_append, List.length_replicate]
    decide
  obtain ⟨parts, response, hresponse, hstatus⟩ := @handled_full none [] [] [] _ hfull
  exact (h none [] [] [] _ hheader).notTooLarge parts response hresponse hstatus

end Handled

end FbServe

end VitaLinuxPort
