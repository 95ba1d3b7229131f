import PortableAirplay.Protocol.RequestGrammar
import PortableAirplay.Protocol.RtspState

/-!
# Reading responses

What a sender makes of the bytes of a response: it reads the lines up to the empty one, of which
the first must be a status line and no other may be one, and the body that `Content-Length`
counts. `readResponse_responseBytes` says that the bytes of `rtsp_send_response` are read as one
response with its status and its number, whatever follows them, if the text and the headers that
a handler gives are well formed (`IsPhrase`, `IsHeaders`).
-/

set_option autoImplicit false

namespace PortableAirplay.Protocol

open PortableAirplay.Airplay
open PortableAirplay.Platform
open PortableAirplay.Util

/-! ## The reader -/

/-- What is read of a response. -/
structure ReadResponse where
  version : CString
  status : ℕ
  cseq : ℕ
  body : List UInt8
  deriving DecidableEq

/-- The lines up to the empty one, and what follows it. At most `fuel` lines. -/
def readHead : ℕ → List UInt8 → Option (List CString × List UInt8)
  | 0, _ => none
  | fuel + 1, text =>
      match nextLine text with
      | none => none
      | some ([], rest) => some ([], rest)
      | some (line, rest) => (readHead fuel rest).map fun head => (line :: head.1, head.2)

/-- A line that begins like a status line. -/
def isStatusLine (line : CString) : Bool :=
  startsWith line (ascii "RTSP/") || startsWith line (ascii "HTTP/")

/-- A decimal number. -/
def readNumber (text : CString) : Option ℕ :=
  if text = [] ∨ text.all isDigit = false then none else some (decimalFrom 0 text)

/-- The version and the status of a status line. -/
def readStatusLine (line : CString) : Option (CString × ℕ) :=
  if isStatusLine line = false ∨ startsWith (line.drop 8) (ascii " ") = false then none
  else (readNumber ((line.drop 9).takeWhile isDigit)).map fun status => (line.take 8, status)

/-- The name of a header line. -/
def headerName (line : CString) : CString := line.takeWhile (· != 58)

/-- The header line has a name. -/
def isNamed (name line : CString) : Bool := netAsciiCaseEq (headerName line) name

/-- The value of the first header of a name. -/
def headerOf (name : CString) (headers : List CString) : Option CString :=
  (headers.find? (isNamed name)).map fun line => trim (line.drop ((headerName line).length + 1))

/-- The length of the body. -/
def readContentLength (headers : List CString) : Option ℕ :=
  match headerOf (ascii "Content-Length") headers with
  | none => some 0
  | some length => readNumber length

/-- One response, and what follows it. -/
def readResponse (text : List UInt8) : Option (ReadResponse × List UInt8) :=
  match readHead (text.length + 1) text with
  | none => none
  | some ([], _) => none
  | some (first :: headers, rest) =>
      if headers.any isStatusLine then none
      else
        match readStatusLine first, (headerOf (ascii "CSeq") headers).bind readNumber,
            readContentLength headers with
        | some (version, status), some cseq, some length =>
            if rest.length < length then none
            else some (⟨version, status, cseq, rest.take length⟩, rest.drop length)
        | _, _, _ => none

/-! ## What handlers give -/

/-- A status text of one line. -/
def IsPhrase (text : CString) : Prop := text.length ≤ 64 ∧ 13 ∉ text

instance (text : CString) : Decidable (IsPhrase text) := inferInstanceAs (Decidable (_ ∧ _))

/-- A header line that a handler adds: no status line and no length. -/
structure HandlerLine (line : CString) : Prop where
  oneLine : OneLine line
  nonempty : line ≠ []
  header : isStatusLine line = false
  named : isNamed (ascii "Content-Length") line = false

/-- Headers are whole lines. -/
def IsHeaders (headers : CString) : Prop :=
  ∃ lines, headers = lineBytes lines ∧ ∀ line ∈ lines, HandlerLine line

/-- A text without a carriage return is a line. -/
theorem OneLine.of_plain {line : CString} (h : 13 ∉ line) : OneLine line :=
  fun hin => h (hin.subset List.mem_cons_self)

/-- A line goes on behind a text without a carriage return. -/
theorem OneLine.behind {front line : CString} (hfront : 13 ∉ front) (h : OneLine line) :
    OneLine (front ++ line) := by
  induction front with
  | nil => exact h
  | cons c front ih =>
      rw [List.mem_cons, not_or] at hfront
      intro hin
      rcases List.infix_cons_iff.mp hin with hprefix | htail
      · obtain ⟨rest, hrest⟩ := hprefix
        exact hfront.1 (List.cons.inj hrest).1
      · exact ih hfront.2 htail

theorem isHeaders_nil : IsHeaders [] := ⟨[], rfl, fun _ hline => absurd hline List.not_mem_nil⟩

theorem lineBytes_append (lines more : List CString) :
    lineBytes (lines ++ more) = lineBytes lines ++ lineBytes more := by
  rw [lineBytes, List.map_append, List.flatten_append]
  rfl

theorem IsHeaders.append {headers more : CString} (h : IsHeaders headers) (hmore : IsHeaders more) :
    IsHeaders (headers ++ more) := by
  obtain ⟨lines, rfl, hlines⟩ := h
  obtain ⟨others, rfl, hothers⟩ := hmore
  refine ⟨lines ++ others, (lineBytes_append lines others).symm, fun line hline => ?_⟩
  rcases List.mem_append.mp hline with hfirst | hsecond
  · exact hlines line hfirst
  · exact hothers line hsecond

theorem IsHeaders.one {line : CString} (h : HandlerLine line) :
    IsHeaders (line ++ ascii "\r\n") := by
  refine ⟨[line], ?_, fun other hother => ?_⟩
  · rw [lineBytes, List.map_singleton, List.flatten_singleton]
    rfl
  · rw [List.mem_singleton.mp hother]
    exact h

/-- Fixed header lines. -/
theorem IsHeaders.of_plain (lines : List CString) (h : ∀ line ∈ lines, 13 ∉ line ∧ line ≠ [] ∧
    isStatusLine line = false ∧ isNamed (ascii "Content-Length") line = false) :
    IsHeaders (lineBytes lines) := by
  refine ⟨lines, rfl, fun line hline => ?_⟩
  obtain ⟨hplain, hne, hheader, hnamed⟩ := h line hline
  exact ⟨OneLine.of_plain hplain, hne, hheader, hnamed⟩

/-- The line of a content type. -/
theorem contentType_lines (type : CString) (h : 13 ∉ type) :
    IsHeaders (ascii "Content-Type: " ++ type ++ ascii "\r\n") :=
  IsHeaders.one ⟨OneLine.behind (by decide) (OneLine.of_plain h), by simp [ascii], rfl, rfl⟩

/-- The values of the headers of a request are short and of one line. -/
def Lined (request : RtspRequest) : Prop :=
  ∀ header ∈ request.headers, OneLine header.value ∧ header.value.length < 256

theorem OneLine.within {part line : CString} (h : OneLine line) (hpart : part <:+: line) :
    OneLine part :=
  fun hin => h (hin.trans hpart)

theorem HeaderLine.value_lined {line : CString} {header : RtspHeader} (h : HeaderLine line header)
    (hline : OneLine line) : OneLine header.value ∧ header.value.length < 256 := by
  obtain ⟨before, after, rfl, -, -, hvalue⟩ := h.split
  obtain ⟨left, right, rfl, -, -⟩ := hvalue.split
  refine ⟨hline.within ⟨before ++ 58 :: left, right, ?_⟩, h.valueWidth⟩
  simp only [List.append_assoc, List.cons_append]

theorem headerLines_lined {lines : List CString} {headers : List RtspHeader}
    (h : List.Forall₂ HeaderLine lines headers) (hlines : ∀ line ∈ lines, OneLine line) :
    ∀ header ∈ headers, OneLine header.value ∧ header.value.length < 256 := by
  induction h with
  | nil => exact fun header hheader => absurd hheader List.not_mem_nil
  | cons hspelled _ ih =>
      rw [List.forall_mem_cons] at hlines ⊢
      exact ⟨hspelled.value_lined hlines.1, ih hlines.2⟩

/-- **Every request that is parsed** has headers of one line. -/
theorem parseRequest_lined {buffer : List UInt8} {request : RtspRequest} {size : ℕ}
    (h : parseRequest buffer = .accept request size) : Lined request := by
  obtain ⟨headEnd, st, hend, hhead, -, -, rfl, -⟩ := parseRequest_eq_accept.mp h
  -- the head as lines, of which the first is not empty
  obtain ⟨first, lines, htake, hfirst, hlines⟩ := exists_headBytes hend
  have hne : first ≠ [] := by
    rintro rfl
    rw [htake, headBytes_cons, List.nil_append, parseHead_empty] at hhead
    cases hhead
  rw [htake] at hhead
  obtain ⟨method, uri, version, headers, cseqs, lengths, htext, -, rfl⟩ :=
    (parseHead_iff ⟨hfirst, hne⟩ hlines st).mp hhead
  exact headerLines_lined htext.spelled fun line hline => (hlines line hline).1

/-! ## Reading what was written -/

theorem readHead_headBytes {lines : List CString}
    (hlines : ∀ line ∈ lines, OneLine line ∧ line ≠ []) (rest : List UInt8) {fuel : ℕ}
    (hfuel : lines.length < fuel) :
    readHead fuel (headBytes lines ++ rest) = some (lines, rest) := by
  induction lines generalizing fuel with
  | nil =>
      obtain ⟨fuel, rfl⟩ : ∃ k, fuel = k + 1 := ⟨fuel - 1, by omega⟩
      rfl
  | cons line lines ih =>
      obtain ⟨fuel, rfl⟩ : ∃ k, fuel = k + 1 := ⟨fuel - 1, by omega⟩
      obtain ⟨hline, hne⟩ := hlines line List.mem_cons_self
      obtain ⟨c, tail, rfl⟩ := List.exists_cons_of_ne_nil hne
      have hmore := ih (fun l hl => hlines l (List.mem_cons_of_mem _ hl))
        (Nat.lt_of_succ_lt_succ hfuel)
      have hnext := nextLine_line hline (headBytes lines ++ rest)
      rw [headBytes_cons, List.append_assoc, List.append_assoc, readHead, hnext]
      dsimp only
      rw [hmore]
      rfl

theorem readNumber_decimal {n : ℕ} (h : n < 10 ^ 20) : readNumber (decimal n) = some n := by
  obtain ⟨hne, hdigits, hvalue⟩ := decimal_value h
  have hall : (decimal n).all isDigit = true := List.all_eq_true.mpr hdigits
  rw [readNumber, hall, if_neg (by simp [hne]), hvalue]

theorem isBlank_of_digit {c : UInt8} (h : isDigit c = true) : isBlank c = false := by
  rw [isDigit, Bool.and_eq_true, decide_eq_true_eq, decide_eq_true_eq, UInt8.le_iff_toNat_le,
    UInt8.le_iff_toNat_le] at h
  have hlower : 48 ≤ c.toNat := h.1
  rw [isBlank, Bool.or_eq_false_iff, beq_eq_false_iff_ne, beq_eq_false_iff_ne]
  constructor
  · rintro rfl
    exact absurd hlower (by decide)
  · rintro rfl
    exact absurd hlower (by decide)

theorem dropWhile_digits {digits : CString} (h : ∀ c ∈ digits, isDigit c = true) :
    digits.dropWhile isBlank = digits := by
  cases digits with
  | nil => rfl
  | cons c digits =>
      rw [List.dropWhile_cons_of_neg]
      rw [isBlank_of_digit (h c List.mem_cons_self)]
      exact Bool.false_ne_true

/-- The blank before a number is taken away. -/
theorem trim_number {digits : CString} (h : ∀ c ∈ digits, isDigit c = true) :
    trim (ascii " " ++ digits) = digits := by
  have hblank : (ascii " " ++ digits).dropWhile isBlank = digits.dropWhile isBlank := rfl
  rw [trim, hblank, dropWhile_digits h,
    dropWhile_digits (fun c hc => h c (List.mem_reverse.mp hc)), List.reverse_reverse]

theorem takeWhile_digits {digits rest : CString} (h : ∀ c ∈ digits, isDigit c = true) :
    (digits ++ (ascii " " ++ rest)).takeWhile isDigit = digits := by
  rw [List.takeWhile_append_of_pos h]
  exact List.append_nil digits

/-- The version of a response. -/
def RtspClient.version (client : RtspClient) : CString :=
  if client.http then ascii "HTTP/1.1" else ascii "RTSP/1.0"

theorem version_facts (client : RtspClient) :
    client.version.length = 8 ∧ 13 ∉ client.version ∧
      ∀ rest, isStatusLine (client.version ++ rest) = true := by
  rw [RtspClient.version]
  cases client.http with
  | true => exact ⟨rfl, by decide, fun _ => rfl⟩
  | false => exact ⟨rfl, by decide, fun _ => rfl⟩

/-- The status line of a response. -/
def statusLine (client : RtspClient) (code : ℕ) (text : CString) : CString :=
  client.version ++ (ascii " " ++ (decimal code ++ (ascii " " ++ text)))

theorem readStatusLine_statusLine (client : RtspClient) {code : ℕ} (hcode : code < 10 ^ 20)
    (text : CString) :
    readStatusLine (statusLine client code text) = some (client.version, code) := by
  obtain ⟨hlength, -, hstatus⟩ := version_facts client
  have hdrop : (statusLine client code text).drop 8 =
      ascii " " ++ (decimal code ++ (ascii " " ++ text)) := by
    rw [statusLine, List.drop_left' hlength]
  have hblank : startsWith (ascii " " ++ (decimal code ++ (ascii " " ++ text))) (ascii " ") =
      true := rfl
  have hnumber : (statusLine client code text).drop 9 = decimal code ++ (ascii " " ++ text) := by
    have hmore : (statusLine client code text).drop (8 + 1) =
        ((statusLine client code text).drop 8).drop 1 := List.drop_drop.symm
    rw [hmore, hdrop]
    rfl
  have htake : (statusLine client code text).take 8 = client.version := by
    rw [statusLine, List.take_left' hlength]
  have hstart : isStatusLine (statusLine client code text) = true := hstatus _
  rw [readStatusLine, hstart, hdrop, hblank, if_neg (by decide), hnumber,
    takeWhile_digits (decimal_value hcode).2.1, readNumber_decimal hcode, htake]
  rfl

/-- The bytes of a response: one status line, the headers and the body. -/
def responseBytes (client : RtspClient) (code : ℕ) (text : CString) (cseq : UInt32)
    (headers : CString) (body : List UInt8) : List UInt8 :=
  responseHead client code text cseq headers ++ contentLengthLine client body ++
    ascii "\r\n" ++ body

/-- The line of `Content-Length`, if there is one. -/
def lengthLines (client : RtspClient) (body : List UInt8) : List CString :=
  if body ≠ [] ∨ client.http then [ascii "Content-Length:" ++ (ascii " " ++ decimal body.length)]
  else []

/-- The header lines of a response. -/
def responseHeaders (client : RtspClient) (cseq : UInt32) (lines : List CString)
    (body : List UInt8) : List CString :=
  (ascii "CSeq:" ++ (ascii " " ++ decimal cseq.toNat)) ::
    (ascii "Server: AirTunes/" ++ serverVersion) :: (lines ++ lengthLines client body)

/-- A response is a head of lines and its body. -/
theorem responseBytes_lines (client : RtspClient) (code : ℕ) (text : CString) (cseq : UInt32)
    (lines : List CString) (body : List UInt8) :
    responseBytes client code text cseq (lineBytes lines) body =
      headBytes (statusLine client code text :: responseHeaders client cseq lines body) ++
        body := by
  have hlength : contentLengthLine client body = lineBytes (lengthLines client body) := by
    rw [contentLengthLine, lengthLines]
    split
    · simp only [lineBytes, List.map_cons, List.map_nil, List.flatten_cons, List.flatten_nil,
        List.append_nil, List.append_assoc]
      rfl
    · rfl
  have hcseq : ascii "\r\nCSeq: " = crlf ++ (ascii "CSeq:" ++ ascii " ") := rfl
  have hserver : ascii "\r\nServer: AirTunes/" = crlf ++ ascii "Server: AirTunes/" := rfl
  have hend : ascii "\r\n" = crlf := rfl
  rw [responseBytes, responseHead, hlength, hcseq, hserver, hend, responseHeaders, headBytes_cons,
    headBytes_cons, headBytes_cons, headBytes, lineBytes_append, statusLine, RtspClient.version]
  simp only [List.append_assoc]

theorem digits_plain {digits : CString} (h : ∀ c ∈ digits, isDigit c = true) : 13 ∉ digits :=
  fun hmem => absurd (h 13 hmem) (by decide)

/-- The number of a response is read from its own line. -/
theorem headerOf_cseq {digits : CString} (h : ∀ c ∈ digits, isDigit c = true)
    (more : List CString) :
    headerOf (ascii "CSeq") ((ascii "CSeq:" ++ (ascii " " ++ digits)) :: more) = some digits := by
  have hname : headerName (ascii "CSeq:" ++ (ascii " " ++ digits)) = ascii "CSeq" := rfl
  have hfound : isNamed (ascii "CSeq") (ascii "CSeq:" ++ (ascii " " ++ digits)) = true := by
    rw [isNamed, hname]
    decide
  have hvalue : (ascii "CSeq:" ++ (ascii " " ++ digits)).drop ((ascii "CSeq").length + 1) =
      ascii " " ++ digits := rfl
  rw [headerOf, List.find?_cons_of_pos hfound, Option.map_some, hname, hvalue, trim_number h]

/-- The length of the body is read from the line that `rtsp_send_response` adds. -/
theorem readContentLength_lines (client : RtspClient) (body : List UInt8)
    (hbody : body.length < 10 ^ 20) {lines : List CString}
    (hlines : ∀ line ∈ lines, HandlerLine line) (cseq : UInt32) :
    readContentLength (responseHeaders client cseq lines body) = some body.length := by
  have hcseq : ¬isNamed (ascii "Content-Length")
      (ascii "CSeq:" ++ (ascii " " ++ decimal cseq.toNat)) = true := by
    have hname : headerName (ascii "CSeq:" ++ (ascii " " ++ decimal cseq.toNat)) = ascii "CSeq" :=
      rfl
    rw [isNamed, hname]
    decide
  have hserver :
      ¬isNamed (ascii "Content-Length") (ascii "Server: AirTunes/" ++ serverVersion) = true := by
    decide
  have hnone : lines.find? (isNamed (ascii "Content-Length")) = none := by
    rw [List.find?_eq_none]
    intro line hline
    rw [(hlines line hline).named]
    exact Bool.false_ne_true
  rw [readContentLength, headerOf, responseHeaders, List.find?_cons_of_neg hcseq,
    List.find?_cons_of_neg hserver, List.find?_append, hnone, Option.none_or, lengthLines]
  by_cases hlength : body ≠ [] ∨ client.http = true
  · have hname : headerName (ascii "Content-Length:" ++ (ascii " " ++ decimal body.length)) =
        ascii "Content-Length" := rfl
    have hfound : isNamed (ascii "Content-Length")
        (ascii "Content-Length:" ++ (ascii " " ++ decimal body.length)) = true := by
      rw [isNamed, hname]
      decide
    have hvalue : (ascii "Content-Length:" ++ (ascii " " ++ decimal body.length)).drop
        ((ascii "Content-Length").length + 1) = ascii " " ++ decimal body.length := rfl
    rw [if_pos hlength, List.find?_cons_of_pos hfound, Option.map_some, hname, hvalue]
    dsimp only
    rw [trim_number (decimal_value hbody).2.1, readNumber_decimal hbody]
  · rw [if_neg hlength]
    rw [not_or, not_not] at hlength
    rw [hlength.1]
    rfl

/-- Every line of a head is one line, and only the first is a status line. -/
theorem responseHeaders_lines (client : RtspClient) (cseq : UInt32) {lines : List CString}
    (hlines : ∀ line ∈ lines, HandlerLine line) {body : List UInt8}
    (hbody : body.length < 10 ^ 20) :
    ∀ line ∈ responseHeaders client cseq lines body,
      OneLine line ∧ line ≠ [] ∧ isStatusLine line = false := by
  have hdigits := (decimal_value (cseq.toNat_lt.trans (by decide : 2 ^ 32 < 10 ^ 20))).2.1
  have hnumber : OneLine (ascii "CSeq:" ++ (ascii " " ++ decimal cseq.toNat)) :=
    OneLine.behind (by decide) (OneLine.behind (by decide)
      (OneLine.of_plain (digits_plain hdigits)))
  have hserver : OneLine (ascii "Server: AirTunes/" ++ serverVersion) :=
    OneLine.of_plain (by decide)
  have hlength : ∀ line ∈ lengthLines client body,
      OneLine line ∧ line ≠ [] ∧ isStatusLine line = false := by
    intro line hline
    rw [lengthLines] at hline
    split at hline
    · rw [List.mem_singleton.mp hline]
      exact ⟨OneLine.behind (by decide) (OneLine.behind (by decide)
        (OneLine.of_plain (digits_plain (decimal_value hbody).2.1))), by simp [ascii], rfl⟩
    · exact absurd hline List.not_mem_nil
  rw [responseHeaders]
  simp only [List.forall_mem_cons, List.forall_mem_append]
  exact ⟨⟨hnumber, by simp [ascii], rfl⟩, ⟨hserver, by simp [ascii], rfl⟩, fun line hline =>
    ⟨(hlines line hline).oneLine, (hlines line hline).nonempty, (hlines line hline).header⟩,
    hlength⟩

theorem statusLine_line (client : RtspClient) {code : ℕ} (hcode : code < 10 ^ 20) {text : CString}
    (htext : 13 ∉ text) :
    OneLine (statusLine client code text) ∧ statusLine client code text ≠ [] := by
  obtain ⟨hversion, hplain, -⟩ := version_facts client
  refine ⟨OneLine.of_plain ?_, fun hnil => ?_⟩
  · have hblank : 13 ∉ ascii " " := by decide
    have hnumber := digits_plain (decimal_value hcode).2.1
    rw [statusLine]
    simp only [List.mem_append, hplain, hblank, hnumber, htext, or_self, not_false_eq_true]
  · have hlength := congrArg List.length hnil
    rw [statusLine, List.length_append, hversion] at hlength
    exact absurd hlength (by simp)

/-- **The bytes of a response are read as one response**, whatever follows them. -/
theorem readResponse_responseBytes (client : RtspClient) {code : ℕ} (hcode : code < 10 ^ 20)
    {text : CString} (htext : 13 ∉ text) (cseq : UInt32) {headers : CString}
    (hheaders : IsHeaders headers) {body : List UInt8} (hbody : body.length < 10 ^ 20)
    (rest : List UInt8) :
    readResponse (responseBytes client code text cseq headers body ++ rest) =
      some (⟨client.version, code, cseq.toNat, body⟩, rest) := by
  obtain ⟨lines, rfl, hlines⟩ := hheaders
  have hcseq : cseq.toNat < 10 ^ 20 := cseq.toNat_lt.trans (by decide)
  have hfirst := statusLine_line client hcode htext
  have hmore := responseHeaders_lines client cseq hlines hbody
  have hhead : ∀ line ∈ statusLine client code text :: responseHeaders client cseq lines body,
      OneLine line ∧ line ≠ [] :=
    List.forall_mem_cons.mpr
      ⟨hfirst, fun line hline => ⟨(hmore line hline).1, (hmore line hline).2.1⟩⟩
  have honly : (responseHeaders client cseq lines body).any isStatusLine = false := by
    rw [List.any_eq_false]
    intro line hline
    rw [(hmore line hline).2.2]
    exact Bool.false_ne_true
  have hnumber : (headerOf (ascii "CSeq") (responseHeaders client cseq lines body)).bind
      readNumber = some cseq.toNat := by
    rw [responseHeaders, headerOf_cseq (decimal_value hcseq).2.1, Option.bind_some,
      readNumber_decimal hcseq]
  have hfuel : (statusLine client code text :: responseHeaders client cseq lines body).length <
      (headBytes (statusLine client code text :: responseHeaders client cseq lines body) ++
        (body ++ rest)).length + 1 := by
    have hlength := length_lt_headBytes
      (statusLine client code text :: responseHeaders client cseq lines body)
    rw [List.length_append]
    omega
  have henough : ¬(body ++ rest).length < body.length := by
    rw [List.length_append]
    omega
  rw [responseBytes_lines, List.append_assoc, readResponse,
    readHead_headBytes hhead (body ++ rest) hfuel]
  dsimp only
  rw [honly, if_neg Bool.false_ne_true, readStatusLine_statusLine client hcode text, hnumber,
    readContentLength_lines client body hbody hlines cseq]
  dsimp only
  rw [if_neg henough, List.take_left, List.drop_left]

end PortableAirplay.Protocol
