import PortableAirplay.Config
import PortableAirplay.Library.Framing
import PortableAirplay.Util.Text

/-!
# RTSP requests

The request parser of `protocol/rtsp.c`. `parseRequest` looks at the filled part
of a receive buffer: it wants more input, rejects, or returns a request and the
number of bytes it took. The body is the list of its bytes.

`requestFraming` says that the parser is a stable framing rule on the stream of a
connection, of which it sees at most one buffer.
-/

set_option autoImplicit false

namespace PortableAirplay.Protocol

open PortableAirplay.Library
open PortableAirplay.Platform
open PortableAirplay.Util

/-! ## Requests -/

/-- `rtsp_method_t`. -/
inductive RtspMethod where
  | unknown
  | get
  | post
  | options
  | announce
  | describe
  | setup
  | record
  | flush
  | flushBuffered
  | play
  | pause
  | teardown
  | getParameter
  | setParameter
  | setPeers
  | setRateAnchorTime
  deriving DecidableEq, Repr

/-- `rtsp_header_t`. -/
structure RtspHeader where
  name : CString
  value : CString
  deriving DecidableEq, Repr

/-- `rtsp_request_t`. -/
structure RtspRequest where
  method : RtspMethod
  uri : CString
  version : CString
  cseq : UInt32
  headers : List RtspHeader
  body : List UInt8
  deriving DecidableEq, Repr

/-- The request after `memset(request, 0, sizeof(*request))`. -/
def RtspRequest.zero : RtspRequest := ⟨.unknown, [], [], 0, [], []⟩

/-- The table of `parse_method`. -/
def methods : List (CString × RtspMethod) :=
  [(ascii "GET", .get), (ascii "POST", .post), (ascii "OPTIONS", .options),
    (ascii "ANNOUNCE", .announce), (ascii "DESCRIBE", .describe), (ascii "SETUP", .setup),
    (ascii "RECORD", .record), (ascii "FLUSH", .flush), (ascii "FLUSHBUFFERED", .flushBuffered),
    (ascii "PLAY", .play), (ascii "PAUSE", .pause), (ascii "TEARDOWN", .teardown),
    (ascii "GET_PARAMETER", .getParameter), (ascii "SET_PARAMETER", .setParameter),
    (ascii "SETPEERS", .setPeers), (ascii "SETPEERSX", .setPeers),
    (ascii "SETRATEANCHORTIME", .setRateAnchorTime)]

/-- `parse_method`. -/
def parseMethod (method : CString) : RtspMethod :=
  match methods.find? fun entry => netAsciiCaseEq method entry.1 with
  | some entry => entry.2
  | none => .unknown

/-- The blanks that `trim` removes. -/
def isBlank (c : UInt8) : Bool := c == 32 || c == 9

/-- `trim`. -/
def trim (value : CString) : CString :=
  ((value.dropWhile isBlank).reverse.dropWhile isBlank).reverse

/-- `parse_uint32`. -/
def parseUint32 (text : CString) : Option UInt32 :=
  if text = [] then none else go 0 text
where
  /-- The loop, with the value so far. -/
  go : ℕ → CString → Option UInt32
  | value, [] => some (UInt32.ofNat value)
  | value, c :: rest =>
      if isDigit c = false ∨ value > (0xffffffff - digitValue c) / 10 then none
      else go (value * 10 + digitValue c) rest

/-! ## The head -/

/-- `headers_end`: the bytes up to and with the first `"\r\n\r\n"`. -/
def headersEnd : List UInt8 → Option ℕ
  | [] => none
  | c :: rest =>
      if startsWith (c :: rest) [13, 10, 13, 10] then some 4
      else (headersEnd rest).map (· + 1)

/-- The next line and what comes after its `"\r\n"`. -/
def nextLine : List UInt8 → Option (CString × List UInt8)
  | [] => none
  | c :: rest =>
      if startsWith (c :: rest) [13, 10] then some ([], rest.drop 1)
      else (nextLine rest).map fun found => (c :: found.1, found.2)

/-- The variables of the loop over the lines. -/
structure HeadState where
  request : RtspRequest
  contentLength : UInt32
  firstLine : Bool
  hasLength : Bool
  deriving DecidableEq

/-- The start of the loop. -/
def HeadState.start : HeadState := ⟨RtspRequest.zero, 0, true, false⟩

/-- The version is one of RTSP, or `HTTP/1.1`. -/
def knownVersion (version : CString) : Bool :=
  startsWith version (ascii "RTSP/") || version == ascii "HTTP/1.1"

/-- `sscanf(line, "%63s %255s %31s %c", …) == 3` and the version check. -/
def parseFirstLine (st : HeadState) (line : CString) : Option HeadState := do
  let (method, rest) ← scanWord 63 line
  let (uri, rest) ← scanWord 255 rest
  let (version, rest) ← scanWord 31 rest
  if rest.dropWhile isSpace ≠ [] ∨ knownVersion version = false then none
  else
    some { st with
      request :=
        { st.request with uri := uri, version := version, method := parseMethod method }
      firstLine := false }

/-- `sizeof(request->headers) / sizeof(request->headers[0])`. -/
def maxHeaders : ℕ := 32

/-- A header line. -/
def parseHeaderLine (st : HeadState) (line : CString) : Option HeadState := do
  let colon ← strchr 58 line
  -- the table is full, whatever the line says
  if st.request.headers.length = maxHeaders then none
  else
    let name := trim (line.take (line.length - colon.length))
    let value := trim (colon.drop 1)
    if name = [] ∨ 128 ≤ name.length ∨ 256 ≤ value.length then none
    else
      -- every header goes into the table, `CSeq` and `Content-Length` among them
      let request := { st.request with headers := st.request.headers ++ [⟨name, value⟩] }
      if netAsciiCaseEq name (ascii "CSeq") then
        let cseq ← parseUint32 value
        some { st with request := { request with cseq := cseq } }
      else if netAsciiCaseEq name (ascii "Content-Length") then
        -- a second `Content-Length` is refused, a second `CSeq` is not
        if st.hasLength then none
        else
          let contentLength ← parseUint32 value
          some { st with request := request, contentLength := contentLength, hasLength := true }
      else some { st with request := request }

/-- One line of the head. -/
def parseLine (st : HeadState) (line : CString) : Option HeadState :=
  if 1024 ≤ line.length then none
  else if st.firstLine then parseFirstLine st line
  else parseHeaderLine st line

/-- The loop over the lines of the head, which ends at the empty line. At most
`fuel` lines. -/
def parseLines : ℕ → HeadState → List UInt8 → Option HeadState
  | 0, _, _ => none
  | fuel + 1, st, head =>
      match head with
      | [] => some st
      | _ :: _ =>
          match nextLine head with
          | none => none
          | some ([], _) => some st
          | some (line, rest) =>
              match parseLine st line with
              | none => none
              | some st => parseLines fuel st rest

/-- The whole head: no zero byte, well-formed lines and a first line. -/
def parseHead (head : List UInt8) : Option HeadState :=
  if (0 : UInt8) ∈ head then none
  else
    match parseLines (head.length + 1) HeadState.start head with
    | none => none
    | some st => if st.firstLine then none else some st

/-- `parse_request` on the filled part of a buffer. -/
def parseRequest (buffer : List UInt8) : Verdict RtspRequest :=
  match headersEnd buffer with
  | none => if buffer.length = rtspRxBufferSize then .reject else .incomplete
  | some headEnd =>
      match parseHead (buffer.take headEnd) with
      | none => .reject
      | some st =>
          let bodyLength := st.contentLength.toNat
          if bodyLength > rtspRxBufferSize - headEnd then .reject
          else if buffer.length - headEnd < bodyLength then .incomplete
          else
            .accept { st.request with body := (buffer.drop headEnd).take bodyLength }
              (headEnd + bodyLength)

/-! ## Stability -/

theorem headersEnd_bounds {s : List UInt8} {n : ℕ} (h : headersEnd s = some n) :
    4 ≤ n ∧ n ≤ s.length := by
  induction s generalizing n with
  | nil => simp [headersEnd] at h
  | cons c s ih =>
      rw [headersEnd] at h
      split at h
      · rename_i hstart
        rw [Option.some.injEq] at h
        have hlen := (List.isPrefixOf_iff_prefix.mp hstart).length_le
        simp only [List.length_cons, List.length_nil] at hlen ⊢
        omega
      · rw [Option.map_eq_some_iff] at h
        obtain ⟨k, hk, rfl⟩ := h
        have hk' := ih hk
        rw [List.length_cons]
        omega

theorem startsWith_append {s start : List UInt8} (h : startsWith s start = true)
    (t : List UInt8) : startsWith (s ++ t) start = true :=
  List.isPrefixOf_iff_prefix.mpr
    ((List.isPrefixOf_iff_prefix.mp h).trans (List.prefix_append s t))

theorem startsWith_append_of_length (s start : List UInt8) (hlen : start.length ≤ s.length)
    (t : List UInt8) : startsWith (s ++ t) start = startsWith s start := by
  rw [startsWith, startsWith, Bool.eq_iff_iff, List.isPrefixOf_iff_prefix,
    List.isPrefixOf_iff_prefix]
  constructor
  · intro h
    exact List.prefix_of_prefix_length_le h (List.prefix_append s t) hlen
  · intro h
    exact h.trans (List.prefix_append s t)

/-- The end of the head does not move when more input comes. -/
theorem headersEnd_append {s : List UInt8} {n : ℕ} (h : headersEnd s = some n)
    (t : List UInt8) : headersEnd (s ++ t) = some n := by
  induction s generalizing n with
  | nil => simp [headersEnd] at h
  | cons c s ih =>
      rw [headersEnd] at h
      rw [List.cons_append, headersEnd]
      split at h
      · rename_i hstart
        have hstart' := startsWith_append hstart t
        rw [List.cons_append] at hstart'
        rw [if_pos hstart', h]
      · rename_i hno
        rw [Option.map_eq_some_iff] at h
        obtain ⟨k, hk, rfl⟩ := h
        -- the pattern cannot start here later: it lies within the bytes already there
        have hlen := headersEnd_bounds hk
        have hsame := startsWith_append_of_length (c :: s) [13, 10, 13, 10]
          (by simp only [List.length_cons, List.length_nil]; omega) t
        rw [List.cons_append] at hsame
        rw [hsame, if_neg hno, ih hk]
        rfl

/-- The head is found in every prefix that holds it. -/
theorem headersEnd_take {s : List UInt8} {n m : ℕ} (h : headersEnd s = some n) (hm : n ≤ m) :
    headersEnd (s.take m) = some n := by
  induction s generalizing n m with
  | nil => simp [headersEnd] at h
  | cons c s ih =>
      have hbounds := headersEnd_bounds h
      obtain ⟨k, rfl⟩ : ∃ k, m = k + 1 := ⟨m - 1, by omega⟩
      have hsame := startsWith_append_of_length ((c :: s).take (k + 1)) [13, 10, 13, 10]
        (by rw [List.length_take]; simp only [List.length_cons, List.length_nil] at *; omega)
        ((c :: s).drop (k + 1))
      rw [List.take_append_drop] at hsame
      rw [headersEnd] at h
      rw [List.take_succ_cons] at hsame ⊢
      rw [headersEnd, ← hsame]
      split at h
      · rename_i hstart
        rw [if_pos hstart, h]
      · rename_i hno
        rw [Option.map_eq_some_iff] at h
        obtain ⟨j, hj, rfl⟩ := h
        rw [if_neg hno, ih hj (by omega)]
        rfl

/-- What an accepted request looks like. -/
theorem parseRequest_eq_accept {s : List UInt8} {request : RtspRequest} {n : ℕ} :
    parseRequest s = .accept request n ↔
      ∃ headEnd st, headersEnd s = some headEnd ∧ parseHead (s.take headEnd) = some st ∧
        st.contentLength.toNat ≤ rtspRxBufferSize - headEnd ∧
        headEnd + st.contentLength.toNat ≤ s.length ∧
        request =
          { st.request with body := (s.drop headEnd).take st.contentLength.toNat } ∧
        n = headEnd + st.contentLength.toNat := by
  constructor
  · intro h
    rw [parseRequest] at h
    cases hend : headersEnd s with
    | none =>
        rw [hend] at h
        dsimp only at h
        split at h
        · simp at h
        · simp at h
    | some headEnd =>
        have hbounds := headersEnd_bounds hend
        rw [hend] at h
        dsimp only at h
        cases hhead : parseHead (s.take headEnd) with
        | none => simp [hhead] at h
        | some st =>
            rw [hhead] at h
            dsimp only at h
            split at h
            · simp at h
            · split at h
              · simp at h
              · rw [Verdict.accept.injEq] at h
                exact ⟨headEnd, st, rfl, hhead, by omega, by omega, h.1.symm, h.2.symm⟩
  · rintro ⟨headEnd, st, hend, hhead, hfits, hlen, rfl, rfl⟩
    rw [parseRequest, hend]
    dsimp only
    rw [hhead]
    dsimp only
    rw [if_neg (by omega), if_neg (by omega)]

/-- A rejection comes from a head that is there, or from a full buffer without one. -/
theorem parseRequest_eq_reject {s : List UInt8} :
    parseRequest s = .reject ↔
      (headersEnd s = none ∧ s.length = rtspRxBufferSize) ∨
        ∃ headEnd, headersEnd s = some headEnd ∧
          ∀ st, parseHead (s.take headEnd) = some st →
            rtspRxBufferSize - headEnd < st.contentLength.toNat := by
  rw [parseRequest]
  cases hend : headersEnd s with
  | none =>
      dsimp only
      -- without the end of the head only a full buffer is refused
      by_cases hfull : s.length = rtspRxBufferSize
      · rw [if_pos hfull]
        exact ⟨fun _ => Or.inl ⟨rfl, hfull⟩, fun _ => rfl⟩
      · rw [if_neg hfull]
        constructor
        · intro h
          simp at h
        · rintro (⟨-, h⟩ | ⟨headEnd, h, -⟩)
          · exact absurd h hfull
          · simp at h
  | some headEnd =>
      dsimp only
      cases hhead : parseHead (s.take headEnd) with
      | none =>
          -- a head that does not parse is refused whatever its length says
          refine ⟨fun _ => Or.inr ⟨headEnd, rfl, ?_⟩, fun _ => rfl⟩
          intro st hst
          rw [hhead] at hst
          simp at hst
      | some st =>
          dsimp only
          by_cases hlong : st.contentLength.toNat > rtspRxBufferSize - headEnd
          · rw [if_pos hlong]
            refine ⟨fun _ => Or.inr ⟨headEnd, rfl, ?_⟩, fun _ => rfl⟩
            intro st' hst
            rw [hhead, Option.some.injEq] at hst
            rw [← hst]
            exact hlong
          · rw [if_neg hlong]
            constructor
            · intro h
              split at h
              · simp at h
              · simp at h
            · rintro (⟨h, -⟩ | ⟨headEnd', h, hall⟩)
              · simp at h
              · rw [Option.some.injEq] at h
                rw [← h] at hall
                exact absurd (hall st hhead) (by omega)

theorem parseRequest_accept_append {s : List UInt8} {request : RtspRequest} {n : ℕ}
    (h : parseRequest s = .accept request n) (t : List UInt8) :
    parseRequest (s ++ t) = .accept request n := by
  obtain ⟨headEnd, st, hend, hhead, hfits, hlen, hrequest, hn⟩ := parseRequest_eq_accept.mp h
  have hbounds := headersEnd_bounds hend
  apply parseRequest_eq_accept.mpr
  refine ⟨headEnd, st, headersEnd_append hend t, ?_, hfits, ?_, ?_, hn⟩
  · rw [List.take_append_of_le_length hbounds.2]
    exact hhead
  · rw [List.length_append]
    omega
  · rw [List.drop_append_of_le_length hbounds.2,
      List.take_append_of_le_length (by rw [List.length_drop]; omega)]
    exact hrequest

/-- A request depends on its own bytes only. -/
theorem parseRequest_accept_take {s : List UInt8} {request : RtspRequest} {n : ℕ}
    (h : parseRequest s = .accept request n) :
    n ≤ s.length ∧ parseRequest (s.take n) = .accept request n := by
  obtain ⟨headEnd, st, hend, hhead, hfits, hlen, hrequest, hn⟩ := parseRequest_eq_accept.mp h
  refine ⟨by omega, parseRequest_eq_accept.mpr
    ⟨headEnd, st, headersEnd_take hend (by omega), ?_, hfits, ?_, ?_, hn⟩⟩
  · rw [List.take_take, Nat.min_eq_left (by omega)]
    exact hhead
  · rw [List.length_take]
    omega
  · rw [hrequest, List.drop_take, List.take_take, Nat.min_eq_left (by omega)]

theorem parseRequest_reject_append {s : List UInt8} (h : parseRequest s = .reject)
    (hroom : s.length < rtspRxBufferSize) (t : List UInt8) :
    parseRequest (s ++ t) = .reject := by
  rcases parseRequest_eq_reject.mp h with ⟨-, hfull⟩ | ⟨headEnd, hend, hall⟩
  · omega
  · apply parseRequest_eq_reject.mpr
    refine Or.inr ⟨headEnd, headersEnd_append hend t, ?_⟩
    rw [List.take_append_of_le_length (headersEnd_bounds hend).2]
    exact hall

/-- **A full buffer always has a verdict.** -/
theorem parseRequest_incomplete_room {s : List UInt8} (hle : s.length ≤ rtspRxBufferSize)
    (h : parseRequest s = .incomplete) : s.length < rtspRxBufferSize := by
  by_contra hfull
  rw [parseRequest] at h
  cases hend : headersEnd s with
  | none =>
      rw [hend] at h
      dsimp only at h
      rw [if_pos (by omega)] at h
      simp at h
  | some headEnd =>
      have hbounds := headersEnd_bounds hend
      rw [hend] at h
      dsimp only at h
      cases hhead : parseHead (s.take headEnd) with
      | none => simp [hhead] at h
      | some st =>
          rw [hhead] at h
          dsimp only at h
          split at h
          · simp at h
          · rw [if_neg (by omega)] at h
            simp at h

/-- The part of a stream that a receive buffer can hold. -/
theorem take_append_buffer (s t : List UInt8) :
    (s ++ t).take rtspRxBufferSize =
      s.take rtspRxBufferSize ++ t.take (rtspRxBufferSize - s.length) := List.take_append

/-- Requests of a stream, of which the parser sees one buffer at a time. -/
def requestFraming : Framing UInt8 RtspRequest where
  parse stream := parseRequest (stream.take rtspRxBufferSize)
  size_pos := by
    intro s f n h
    obtain ⟨headEnd, st, hend, -, -, -, -, hn⟩ := parseRequest_eq_accept.mp h
    -- the empty line alone is four bytes
    have hbounds := headersEnd_bounds hend
    omega
  size_le := by
    intro s f n h
    obtain ⟨headEnd, st, -, -, -, hlen, -, hn⟩ := parseRequest_eq_accept.mp h
    have htake := List.length_take_le rtspRxBufferSize s
    rw [List.length_take] at hlen
    omega
  accept_append := by
    intro s f n h t
    rw [take_append_buffer]
    exact parseRequest_accept_append h _
  reject_append := by
    intro s h t
    -- a full buffer shows the parser the same bytes, whatever follows
    by_cases hroom : s.length < rtspRxBufferSize
    · rw [take_append_buffer]
      rw [List.take_of_length_le (Nat.le_of_lt hroom)] at h ⊢
      exact parseRequest_reject_append h hroom _
    · rw [List.take_append_of_le_length (by omega)]
      exact h

end PortableAirplay.Protocol
