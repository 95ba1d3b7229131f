import Mathlib.Data.List.TakeWhile
import PortableAirplay.Protocol.MdnsNames

/-!
# mDNS queries

`mdns_handle_packet_from` of `protocol/mdns.c`: the questions of a packet are read one
after the other, and the first one that asks for the service is answered, to the sender or
to the group.

The decoded name is compared as a C string, so a zero byte within a label ends it. A
question whose name goes on behind such a byte is taken for one that asks for the service
(`Question.Taken` against `Question.Asks`); `mdns_queries_answered` says that this is the
only way in which the handler does not do what its questions ask for.
-/

set_option autoImplicit false

namespace PortableAirplay.Protocol

open PortableAirplay.Library
open PortableAirplay.Platform
open PortableAirplay.Util

/-! ## The handler -/

/-- `mdns_error_t`. -/
inductive MdnsResult where
  | ok
  | invalidArgs
  | bufferOverflow
  | socketError
  | invalidData
  deriving DecidableEq, Repr

/-- A datagram that is given to `net_udp_send`, with the time to live it was built with. -/
structure MdnsResponse where
  destination : NetAddr
  ttl : UInt32
  packet : List UInt8
  deriving DecidableEq, Repr

/-- What a handler returns, and the datagrams it gives to `net_udp_send`. -/
structure MdnsOutcome where
  result : MdnsResult
  sent : List MdnsResponse
  deriving DecidableEq, Repr

/-- `name_matches` on what `decode_name` left in the buffer, up to the first zero byte. -/
def nameMatches (config : MdnsConfig) (buffer : List UInt8) : Bool :=
  let name := buffer.takeWhile (· ≠ 0)
  if config.fullName.length ≥ 256 then false
  else
    netAsciiCaseEq name config.serviceType || netAsciiCaseEq name config.fullName ||
      netAsciiCaseEq name config.hostname

/-- The source endpoint, if one is given that a datagram can be sent to. -/
def usableSource (source : Option NetAddr) : Option NetAddr :=
  source.filter fun peer => peer.ip ≠ [] ∧ peer.port ≠ 0

section Handler

variable (udpSend : List UInt8 → NetAddr → Int) (config : MdnsConfig)

/-- A handler's `return send_response(…)`. -/
def respondTo (destination : NetAddr) (ttl : UInt32) : MdnsOutcome where
  result :=
    match sendResponse udpSend config destination ttl with
    | .ok _ => .ok
    | .error .bufferOverflow => .bufferOverflow
    | .error .socketError => .socketError
  sent :=
    match buildPacket 1500 config ttl with
    | .error _ => []
    | .ok packet => [⟨destination, ttl, packet⟩]

/-- The types of the records that the service has, and ANY. -/
def answersType (type : UInt16) : Bool :=
  type == 1 || type == 12 || type == 16 || type == 33 || type == 255

/-- The answer to a question with this class: to the source if the unicast bit is set and
the source is usable, else `mdns_announce`. -/
def answerQuestion (source : Option NetAddr) (rawClass : UInt16) : MdnsOutcome :=
  match usableSource source with
  | none => respondTo udpSend config mdnsGroup 60
  | some peer =>
      if rawClass &&& 0x8000 ≠ 0 then respondTo udpSend config peer 4500
      else respondTo udpSend config mdnsGroup 60

/-- The loop of `mdns_handle_packet_from` with the questions that are left. -/
def handleQuestions (data : List UInt8) (source : Option NetAddr) : ℕ → ℕ → MdnsOutcome
  | 0, _ => ⟨.ok, []⟩
  | questions + 1, position =>
      match decodeName data position 256 with
      | none => ⟨.invalidData, []⟩
      | some (name, next) =>
          if next + 4 > data.length then ⟨.invalidData, []⟩
          else
            let type := read16 data next
            -- the top bit of the class asks for a unicast answer
            let rawClass := read16 data (next + 2)
            let recordClass := rawClass &&& 0x7fff
            if !nameMatches config name || !answersType type ||
                !(recordClass == 1 || recordClass == 255) then
              handleQuestions data source questions (next + 4)
            -- the first question that is ours is answered, and the rest are not read
            else answerQuestion udpSend config source rawClass

/-- `mdns_handle_packet_from`. -/
def mdnsHandlePacketFrom (data : List UInt8) (source : Option NetAddr) : MdnsOutcome :=
  if data.length < 12 then ⟨.invalidArgs, []⟩
  else if read16 data 2 &&& 0x8000 ≠ 0 then ⟨.ok, []⟩
  else handleQuestions udpSend config data source (read16 data 4).toNat 12

/-- `mdns_handle_packet`. -/
def mdnsHandlePacket (data : List UInt8) : MdnsOutcome :=
  mdnsHandlePacketFrom udpSend config data none

end Handler

/-! ## What questions ask for -/

/-- A text is one of the names of the service, ignoring ASCII case. -/
def MdnsConfig.Names (config : MdnsConfig) (text : List UInt8) : Prop :=
  netAsciiCaseEq text config.serviceType = true ∨ netAsciiCaseEq text config.fullName = true ∨
    netAsciiCaseEq text config.hostname = true

/-- The type and the class, without the unicast bit, are those of a record of the service,
or ANY. -/
def AnswerableKind (q : Question) : Prop :=
  q.type ∈ [1, 12, 16, 33, 255] ∧ q.recordClass % 0x8000 ∈ [1, 255]

/-- The question asks for a record of the service. -/
def Asks (config : MdnsConfig) (q : Question) : Prop := AnswerableKind q ∧ config.Names q.text

/-- The question is taken for one that asks for a record of the service: its name, up to
the first zero byte, is one of the names. -/
def Taken (config : MdnsConfig) (q : Question) : Prop :=
  AnswerableKind q ∧ config.Names (q.text.takeWhile (· ≠ 0))

instance (config : MdnsConfig) (text : List UInt8) : Decidable (config.Names text) :=
  inferInstanceAs (Decidable (_ ∨ _ ∨ _))

instance (config : MdnsConfig) (q : Question) : Decidable (Asks config q) :=
  inferInstanceAs (Decidable ((_ ∧ _) ∧ _))

instance (config : MdnsConfig) (q : Question) : Decidable (Taken config q) :=
  inferInstanceAs (Decidable ((_ ∧ _) ∧ _))

/-- Where the response to a question goes, and its time to live. -/
def replyTo (source : Option NetAddr) (q : Question) : NetAddr × UInt32 :=
  match usableSource source with
  | none => (mdnsGroup, 60)
  | some peer => if 0x8000 ≤ q.recordClass then (peer, 4500) else (mdnsGroup, 60)

/-- The times to live of responses to the group and to a source. -/
def responseTtls : List UInt32 := [60, 4500]

theorem replyTo_ttl (source : Option NetAddr) (q : Question) :
    (replyTo source q).2 ∈ responseTtls := by
  rw [replyTo]
  cases usableSource source with
  | none => exact List.mem_cons_self
  | some peer =>
      dsimp only
      split
      · exact List.mem_cons_of_mem 60 List.mem_cons_self
      · exact List.mem_cons_self

/-- The names of a config are C strings. -/
structure MdnsConfig.Strings (config : MdnsConfig) : Prop where
  serviceType : 0 ∉ config.serviceType
  instanceName : 0 ∉ config.instanceName
  hostname : 0 ∉ config.hostname

/-! ## Names and masks -/

theorem netAsciiCaseEq_zero {a b : CString} (h : netAsciiCaseEq a b = true) (hb : 0 ∉ b) :
    0 ∉ a := by
  intro ha
  rw [netAsciiCaseEq, beq_iff_eq] at h
  have hzero : ∀ c : UInt8, asciiLower c = 0 → c = 0 := by
    intro c hc
    rw [asciiLower] at hc
    split at hc
    · rename_i hupper
      rw [Bool.and_eq_true, decide_eq_true_eq, decide_eq_true_eq, UInt8.le_iff_toNat_le,
        UInt8.le_iff_toNat_le] at hupper
      have hsum := congrArg UInt8.toNat hc
      rw [UInt8.toNat_add] at hsum
      simp only [UInt8.reduceToNat] at hsum hupper
      omega
    · exact hc
  have hmem : asciiLower 0 ∈ a.map asciiLower := List.mem_map_of_mem ha
  rw [h] at hmem
  obtain ⟨c, hc, hlower⟩ := List.mem_map.mp hmem
  rw [hzero c hlower] at hc
  exact hb hc

section Names

variable {config : MdnsConfig} {q : Question}

theorem names_zero (hstrings : config.Strings) {text : List UInt8} (h : config.Names text) :
    0 ∉ text := by
  have hfull : 0 ∉ config.fullName := by
    intro hzero
    rcases List.mem_append.mp hzero with hinstance | hrest
    · exact hstrings.instanceName hinstance
    · rcases List.mem_cons.mp hrest with hdot | hservice
      · exact absurd hdot (by decide)
      · exact hstrings.serviceType hservice
  rcases h with hservice | hname | hhost
  · exact netAsciiCaseEq_zero hservice hstrings.serviceType
  · exact netAsciiCaseEq_zero hname hfull
  · exact netAsciiCaseEq_zero hhost hstrings.hostname

theorem takeWhile_of_no_zero {text : List UInt8} (h : 0 ∉ text) :
    text.takeWhile (· ≠ 0) = text := by
  apply List.takeWhile_eq_self_iff.mpr
  intro c hc
  rw [decide_eq_true_eq]
  rintro rfl
  exact h hc

/-- A question that asks for the service is taken for one. -/
theorem Asks.taken (hstrings : config.Strings) (h : Asks config q) : Taken config q := by
  refine ⟨h.1, ?_⟩
  rw [takeWhile_of_no_zero (names_zero hstrings h.2)]
  exact h.2

theorem nameMatches_iff (hname : config.fullName.length < 256) (buffer : List UInt8) :
    nameMatches config buffer = true ↔ config.Names (buffer.takeWhile (· ≠ 0)) := by
  rw [nameMatches, if_neg (Nat.not_le_of_lt hname), Bool.or_eq_true, Bool.or_eq_true, or_assoc]
  rfl

end Names

theorem answersType_iff (type : UInt16) :
    answersType type = true ↔ type.toNat ∈ [1, 12, 16, 33, 255] := by
  simp only [answersType, Bool.or_eq_true, beq_iff_eq, ← UInt16.toNat_inj, UInt16.reduceToNat,
    List.mem_cons, List.not_mem_nil, or_false, or_assoc]

theorem toNat_and_7fff (raw : UInt16) : (raw &&& 0x7fff).toNat = raw.toNat % 0x8000 := by
  rw [UInt16.toNat_and]
  exact Nat.and_two_pow_sub_one_eq_mod raw.toNat 15

theorem answersClass_iff (raw : UInt16) :
    (raw &&& 0x7fff == 1 || raw &&& 0x7fff == 255) = true ↔ raw.toNat % 0x8000 ∈ [1, 255] := by
  simp only [Bool.or_eq_true, beq_iff_eq, ← UInt16.toNat_inj, toNat_and_7fff, UInt16.reduceToNat,
    List.mem_cons, List.not_mem_nil, or_false]

theorem topBit_iff (raw : UInt16) : raw &&& 0x8000 ≠ 0 ↔ 0x8000 ≤ raw.toNat := by
  have hlt := raw.toNat_lt
  have hand : (raw &&& 0x8000).toNat = (raw.toNat.testBit 15).toNat * 2 ^ 15 := by
    rw [UInt16.toNat_and]
    exact Nat.and_two_pow raw.toNat 15
  have hbit : raw.toNat.testBit 15 = decide (raw.toNat / 2 ^ 15 % 2 = 1) :=
    Nat.testBit_eq_decide_div_mod_eq
  rw [Ne, ← UInt16.toNat_inj, hand, hbit]
  by_cases hlarge : 0x8000 ≤ raw.toNat
  · rw [decide_eq_true (by omega)]
    exact ⟨fun _ => hlarge, fun _ => by decide⟩
  · rw [decide_eq_false (by omega)]
    exact ⟨fun h => absurd rfl h, fun h => absurd h hlarge⟩

/-! ## Questions are handled one after the other -/

section Loop

variable (udpSend : List UInt8 → NetAddr → Int) {config : MdnsConfig} (data : List UInt8)
  (source : Option NetAddr)

/-- A handler's response to a question. -/
def reply (config : MdnsConfig) (q : Question) : MdnsOutcome :=
  respondTo udpSend config (replyTo source q).1 (replyTo source q).2

theorem answerQuestion_eq {next : ℕ} (hnext : next + 4 ≤ data.length) (labels : List (List UInt8)) :
    answerQuestion udpSend config source (read16 data (next + 2)) =
      reply udpSend source config ⟨labels, beNat ((data.drop next).take 2),
        beNat ((data.drop (next + 2)).take 2)⟩ := by
  have hclass : (read16 data (next + 2)).toNat = beNat ((data.drop (next + 2)).take 2) :=
    toNat_read16 (by omega)
  have hunicast := topBit_iff (read16 data (next + 2))
  rw [hclass] at hunicast
  rw [answerQuestion, reply, replyTo]
  cases usableSource source with
  | none => rfl
  | some peer =>
      dsimp only
      by_cases hbit : 0x8000 ≤ beNat ((data.drop (next + 2)).take 2)
      · rw [if_pos (hunicast.mpr hbit), if_pos hbit]
      · rw [if_neg (fun h => hbit (hunicast.mp h)), if_neg hbit]

/-- A question that is there is answered if it is taken for one that asks for the service. -/
theorem handleQuestions_question (hname : config.fullName.length < 256) {p next : ℕ} {q : Question}
    (h : QuestionAt data 255 p q next) (n : ℕ) :
    handleQuestions udpSend config data source (n + 1) p =
      if Taken config q then reply udpSend source config q
      else handleQuestions udpSend config data source n next := by
  cases h with
  | @mk labels next name short fits =>
      have hdecoded : decodeName data p 256 = some ([nameDot].intercalate labels, next) := by
        rw [← dotted_dropLast_eq_intercalate] at short ⊢
        exact (decodeName_iff data p (by decide) _ _).mpr
          ⟨labels, name, (dotted_dropLast_lt (by decide)).mp short, rfl⟩
      -- the byte tests of the code, as statements about the two numbers of the question
      have htype := answersType_iff (read16 data next)
      have hclass := answersClass_iff (read16 data (next + 2))
      have hmatches := nameMatches_iff hname ([nameDot].intercalate labels)
      rw [toNat_read16 (by omega)] at htype hclass
      rw [handleQuestions, hdecoded]
      dsimp only
      rw [if_neg (Nat.not_lt_of_le fits), answerQuestion_eq udpSend data source fits labels]
      by_cases htaken : Taken config
          ⟨labels, beNat ((data.drop next).take 2), beNat ((data.drop (next + 2)).take 2)⟩
      · rw [if_pos htaken, hmatches.mpr htaken.2, htype.mpr htaken.1.1, hclass.mpr htaken.1.2]
        rfl
      · -- one of the three tests failed, and the code goes on to the next question
        rw [if_neg htaken, if_pos]
        by_contra hno
        simp only [Bool.or_eq_true, Bool.not_eq_true', not_or, Bool.not_eq_false] at hno
        rw [← Bool.or_eq_true] at hno
        exact htaken ⟨⟨htype.mp hno.1.2, hclass.mp hno.2⟩, hmatches.mp hno.1.1⟩

/-- Where no question stands the packet is malformed. -/
theorem handleQuestions_malformed {p : ℕ} (h : ∀ q next, ¬QuestionAt data 255 p q next) (n : ℕ) :
    handleQuestions udpSend config data source (n + 1) p = ⟨.invalidData, []⟩ := by
  rw [handleQuestions]
  cases hdecoded : decodeName data p 256 with
  | none => rfl
  | some r =>
      obtain ⟨text, next⟩ := r
      dsimp only
      rw [if_pos]
      by_contra hfits
      obtain ⟨labels, name, short, -⟩ := (decodeName_iff data p (by decide) _ _).mp hdecoded
      rw [← dotted_dropLast_lt (by decide), dotted_dropLast_eq_intercalate] at short
      exact h _ _ ⟨name, short, Nat.le_of_not_lt hfits⟩

/-- Questions that are not taken for one that asks for the service are passed over. -/
theorem handleQuestions_run (hname : config.fullName.length < 256) {p stop : ℕ}
    {before : List Question} (h : QuestionsFrom data 255 p before stop)
    (hpass : ∀ b ∈ before, ¬Taken config b) (n : ℕ) :
    handleQuestions udpSend config data source (before.length + n) p =
      handleQuestions udpSend config data source n stop := by
  induction h with
  | nil => rw [List.length_nil, Nat.zero_add]
  | @cons p mid stop q questions first _ ih =>
      rw [List.length_cons, Nat.add_right_comm,
        handleQuestions_question udpSend data source hname first,
        if_neg (hpass q List.mem_cons_self)]
      exact ih fun b hb => hpass b (List.mem_cons_of_mem q hb)

end Loop

/-- How `n` questions from a place are: a first one is of a kind, or all are there and none
is, or none is before a place where no question stands. -/
theorem questions_cases (kind : Question → Prop) (data : List UInt8) (limit : ℕ) :
    ∀ n p : ℕ,
      (∃ before q stop, QuestionsFrom data limit p (before ++ [q]) stop ∧ before.length < n ∧
        kind q ∧ ∀ b ∈ before, ¬kind b) ∨
      (∃ before stop, QuestionsFrom data limit p before stop ∧ before.length = n ∧
        ∀ b ∈ before, ¬kind b) ∨
      ∃ before stop, QuestionsFrom data limit p before stop ∧ before.length < n ∧
        (∀ b ∈ before, ¬kind b) ∧ ∀ q next, ¬QuestionAt data limit stop q next := by
  intro n
  -- the induction is on the questions declared; the first one decides, or the next ones do
  induction n with
  | zero =>
      intro p
      exact .inr (.inl ⟨[], p, .nil, rfl, fun b hb => absurd hb List.not_mem_nil⟩)
  | succ n ih =>
      intro p
      by_cases hthere : ∃ q next, QuestionAt data limit p q next
      · obtain ⟨q, next, hq⟩ := hthere
        by_cases hkind : kind q
        · exact .inl ⟨[], q, next, .singleton hq, Nat.succ_pos n, hkind,
            fun b hb => absurd hb List.not_mem_nil⟩
        · have hcons : ∀ before : List Question, (∀ b ∈ before, ¬kind b) →
              ∀ b ∈ q :: before, ¬kind b :=
            fun before h => List.forall_mem_cons.mpr ⟨hkind, h⟩
          rcases ih next with ⟨before, q', stop, hread, hlt, hq', hnone⟩ |
            ⟨before, stop, hread, hlength, hnone⟩ | ⟨before, stop, hread, hlt, hnone, hend⟩
          · exact .inl ⟨q :: before, q', stop, .cons hq hread, Nat.succ_lt_succ hlt, hq',
              hcons before hnone⟩
          · exact .inr (.inl ⟨q :: before, stop, .cons hq hread, congrArg (· + 1) hlength,
              hcons before hnone⟩)
          · exact .inr (.inr ⟨q :: before, stop, .cons hq hread, Nat.succ_lt_succ hlt,
              hcons before hnone, hend⟩)
      · refine .inr (.inr ⟨[], p, .nil, Nat.succ_pos n,
          fun b hb => absurd hb List.not_mem_nil, ?_⟩)
        intro q next hq
        exact hthere ⟨q, next, hq⟩

/-! ## Answers -/

/-- The number of questions that a packet declares. -/
def questionCount (data : List UInt8) : ℕ := beNat ((data.drop 4).take 2)

section Answers

variable (udpSend : List UInt8 → NetAddr → Int) (config : MdnsConfig) (data : List UInt8)
  (source : Option NetAddr)

/-- The handler does what the questions of a packet ask for: at most one response is sent;
one is sent if and only if a question, among those that the packet declares and behind
well-formed ones, asks for the service; it is the response to the first of these; and a
malformed question before the first is an error without a response. -/
structure AnswersQuestions : Prop where
  once : (mdnsHandlePacketFrom udpSend config data source).sent.length ≤ 1
  answers : (mdnsHandlePacketFrom udpSend config data source).sent ≠ [] ↔
    ∃ before q stop, QuestionsFrom data 255 12 (before ++ [q]) stop ∧
      before.length < questionCount data ∧ Asks config q
  first : ∀ before q stop, QuestionsFrom data 255 12 (before ++ [q]) stop →
    before.length < questionCount data → Asks config q → (∀ b ∈ before, ¬Asks config b) →
    ∃ packet, buildPacket 1500 config (replyTo source q).2 = .ok packet ∧
      mdnsHandlePacketFrom udpSend config data source =
        ⟨.ok, [⟨(replyTo source q).1, (replyTo source q).2, packet⟩]⟩
  malformed : ∀ before stop, 12 ≤ data.length → QuestionsFrom data 255 12 before stop →
    before.length < questionCount data → (∀ b ∈ before, ¬Asks config b) →
    (∀ q next, ¬QuestionAt data 255 stop q next) →
    mdnsHandlePacketFrom udpSend config data source = ⟨.invalidData, []⟩

/-- The first question that is taken for one that asks for the service has no zero byte in
its name, or a question follows that asks for the service and for the same response. -/
def NotMistaken : Prop :=
  ∀ before q stop, QuestionsFrom data 255 12 (before ++ [q]) stop →
    before.length < questionCount data → Taken config q → (∀ b ∈ before, ¬Taken config b) →
    0 ∉ q.text ∨
      ∃ more q' stop', QuestionsFrom data 255 12 ((before ++ q :: more) ++ [q']) stop' ∧
        (before ++ q :: more).length < questionCount data ∧ Asks config q' ∧
        (∀ b ∈ more, ¬Asks config b) ∧ replyTo source q' = replyTo source q

variable {udpSend config data source}

theorem Taken.asks {q : Question} (h : Taken config q) (hzero : 0 ∉ q.text) : Asks config q := by
  have hnames := h.2
  rw [takeWhile_of_no_zero hzero] at hnames
  exact ⟨h.1, hnames⟩

theorem Asks.no_zero (hstrings : config.Strings) {q : Question} (h : Asks config q) :
    0 ∉ q.text := names_zero hstrings h.2

/-- A response that can be built and sent. -/
theorem reply_sent (source : Option NetAddr)
    (hbuilt : ∀ ttl ∈ responseTtls, ∃ packet, buildPacket 1500 config ttl = .ok packet)
    (hsends : ∀ packet destination, udpSend packet destination = packet.length) (q : Question) :
    ∃ packet, buildPacket 1500 config (replyTo source q).2 = .ok packet ∧
      reply udpSend source config q =
        ⟨.ok, [⟨(replyTo source q).1, (replyTo source q).2, packet⟩]⟩ := by
  obtain ⟨packet, hpacket⟩ := hbuilt (replyTo source q).2 (replyTo_ttl source q)
  have hsent : sendResponse udpSend config (replyTo source q).1 (replyTo source q).2 =
      .ok packet := by
    rw [sendResponse, hpacket]
    dsimp only
    rw [if_pos (hsends packet _)]
  refine ⟨packet, hpacket, ?_⟩
  rw [reply, respondTo, hsent, hpacket]

/-- The name of the instance fits where a packet can be built. -/
theorem fullName_fits {ttl : UInt32} {packet : List UInt8}
    (h : buildPacket 1500 config ttl = .ok packet) : config.fullName.length < 256 := by
  by_contra hlong
  have hstop : buildPacket 1500 config ttl = refuse := by
    rw [buildPacket, refuseIf_neg (by decide), building_bind, emit_ok (by decide), building_bind,
      refuseIf, if_pos (Nat.le_of_not_lt hlong)]
    rfl
  rw [hstop] at h
  simp [refuse] at h

/-- A query with a header is handled question by question. -/
theorem mdnsHandlePacketFrom_query (hheader : 12 ≤ data.length)
    (hquery : beNat ((data.drop 2).take 2) < 0x8000) :
    mdnsHandlePacketFrom udpSend config data source =
      handleQuestions udpSend config data source (questionCount data) 12 := by
  have hflags := topBit_iff (read16 data 2)
  rw [toNat_read16 (by omega)] at hflags
  rw [mdnsHandlePacketFrom, if_neg (by omega), if_neg (fun h => by have := hflags.mp h; omega),
    toNat_read16 (by omega)]
  rfl

/-- Without a header there are no questions. -/
theorem questions_of_short (hshort : data.length < 12) {questions : List Question} {stop : ℕ}
    (h : QuestionsFrom data 255 12 questions stop) : questions = [] := by
  cases h with
  | nil => rfl
  | cons first _ =>
      cases first with
      | mk name _ _ =>
          have hout : data[12]? = none := List.getElem?_eq_none (by omega)
          cases name with
          | root hempty => simp [hout] at hempty
          | label hlength _ _ _ _ => simp [hout] at hlength
          | pointer hhigh _ _ _ => simp [hout] at hhigh

section Outcomes

variable (udpSend source)
variable (hquery : beNat ((data.drop 2).take 2) < 0x8000) (hname : config.fullName.length < 256)
  (hheader : 12 ≤ data.length) {before : List Question} {stop : ℕ}
include hquery hname hheader

/-- The first question that is taken for one that asks for the service is answered. -/
theorem outcome_taken {q : Question} (h : QuestionsFrom data 255 12 (before ++ [q]) stop)
    (hlt : before.length < questionCount data) (hq : Taken config q)
    (hbefore : ∀ b ∈ before, ¬Taken config b) :
    mdnsHandlePacketFrom udpSend config data source = reply udpSend source config q := by
  obtain ⟨n, hn⟩ := Nat.exists_eq_add_of_lt hlt
  obtain ⟨mid, hpassed, hlast⟩ := h.split
  cases hlast with
  | cons first _ =>
      rw [mdnsHandlePacketFrom_query hheader hquery, hn, Nat.add_assoc,
        handleQuestions_run udpSend data source hname hpassed hbefore,
        handleQuestions_question udpSend data source hname first, if_pos hq]

theorem outcome_passed (h : QuestionsFrom data 255 12 before stop)
    (hlength : before.length = questionCount data) (hbefore : ∀ b ∈ before, ¬Taken config b) :
    mdnsHandlePacketFrom udpSend config data source = ⟨.ok, []⟩ := by
  rw [mdnsHandlePacketFrom_query hheader hquery, ← hlength, ← Nat.add_zero before.length,
    handleQuestions_run udpSend data source hname h hbefore]
  rfl

theorem outcome_malformed (h : QuestionsFrom data 255 12 before stop)
    (hlt : before.length < questionCount data) (hbefore : ∀ b ∈ before, ¬Taken config b)
    (hend : ∀ q next, ¬QuestionAt data 255 stop q next) :
    mdnsHandlePacketFrom udpSend config data source = ⟨.invalidData, []⟩ := by
  obtain ⟨n, hn⟩ := Nat.exists_eq_add_of_lt hlt
  rw [mdnsHandlePacketFrom_query hheader hquery, hn, Nat.add_assoc,
    handleQuestions_run udpSend data source hname h hbefore,
    handleQuestions_malformed udpSend data source hend]

end Outcomes

/-- The right response to the first question that asks for the service. -/
theorem answersQuestions_of_first
    (hbuilt : ∀ ttl ∈ responseTtls, ∃ packet, buildPacket 1500 config ttl = .ok packet)
    (hsends : ∀ packet destination, udpSend packet destination = packet.length)
    {before : List Question} {q q' : Question} {stop : ℕ}
    (h : QuestionsFrom data 255 12 (before ++ [q]) stop)
    (hlt : before.length < questionCount data) (hq : Asks config q)
    (hbefore : ∀ b ∈ before, ¬Asks config b) (hreply : replyTo source q = replyTo source q')
    (hout : mdnsHandlePacketFrom udpSend config data source = reply udpSend source config q') :
    AnswersQuestions udpSend config data source := by
  obtain ⟨packet, hpacket, hsent⟩ := reply_sent source hbuilt hsends q'
  rw [hsent, ← hreply] at hout
  rw [← hreply] at hpacket
  -- one field of the conclusion after the other
  refine ⟨?_, ?_, ?_, ?_⟩
  · rw [hout]
    exact Nat.le_refl 1
  · rw [hout]
    exact ⟨fun _ => ⟨before, q, stop, h, hlt, hq⟩, fun _ => List.cons_ne_nil _ _⟩
  · intro before' r stop' h' _ hr hbefore'
    obtain ⟨-, rfl⟩ := h'.first_unique hr hbefore' h hq hbefore
    exact ⟨packet, hpacket, hout⟩
  · intro before' stop' _ h' _ hbefore' hend
    -- the question stands before the malformed one
    have hle := h'.maximal hend h
    rw [List.length_append, List.length_singleton] at hle
    exact absurd hq (hbefore' q (h.mem h' hle))

/-- No response where no question asks for the service. -/
theorem answersQuestions_of_none
    (hnone : ∀ before q stop, QuestionsFrom data 255 12 (before ++ [q]) stop →
      before.length < questionCount data → ¬Asks config q)
    (hsent : (mdnsHandlePacketFrom udpSend config data source).sent = [])
    (hmalformed : ∀ before stop, 12 ≤ data.length → QuestionsFrom data 255 12 before stop →
      before.length < questionCount data → (∀ q next, ¬QuestionAt data 255 stop q next) →
      mdnsHandlePacketFrom udpSend config data source = ⟨.invalidData, []⟩) :
    AnswersQuestions udpSend config data source := by
  refine ⟨?_, ?_, ?_, ?_⟩
  · rw [hsent]
    exact Nat.zero_le 1
  · constructor
    · intro h
      exact absurd hsent h
    · rintro ⟨before, q, stop, h, hlt, hq⟩
      exact absurd hq (hnone before q stop h hlt)
  · intro before q stop h hlt hq _
    exact absurd hq (hnone before q stop h hlt)
  · intro before stop hheader h hlt _ hend
    exact hmalformed before stop hheader h hlt hend

/-- The handler is not mistaken, so it does what the questions ask for. -/
theorem NotMistaken.answers (hstrings : config.Strings)
    (hquery : beNat ((data.drop 2).take 2) < 0x8000)
    (hbuilt : ∀ ttl ∈ responseTtls, ∃ packet, buildPacket 1500 config ttl = .ok packet)
    (hsends : ∀ packet destination, udpSend packet destination = packet.length)
    (h : NotMistaken config data source) : AnswersQuestions udpSend config data source := by
  obtain ⟨packet, hpacket⟩ := hbuilt 60 List.mem_cons_self
  have hname := fullName_fits hpacket
  by_cases hheader : 12 ≤ data.length
  · -- the code meets a match, or comes to the end of the count, or to a malformed question
    rcases questions_cases (Taken config) data 255 (questionCount data) 12 with
      ⟨before, q, stop, hread, hlt, hq, hbefore⟩ | ⟨before, stop, hread, hlength, hbefore⟩ |
      ⟨before, stop, hread, hlt, hbefore, hend⟩
    · have hout := outcome_taken udpSend source hquery hname hheader hread hlt hq hbefore
      have hpassed : ∀ b ∈ before, ¬Asks config b :=
        fun b hb hasks => hbefore b hb (hasks.taken hstrings)
      -- a match with a zero byte in its name was mistaken for one of the three names
      by_cases hzero : 0 ∈ q.text
      · rcases h before q stop hread hlt hq hbefore with hno | ⟨more, q', stop', hread', hlt', hq',
          hmore, hreply⟩
        · exact absurd hzero hno
        · refine answersQuestions_of_first hbuilt hsends hread' hlt' hq' ?_ hreply hout
          intro b hb
          rcases List.mem_append.mp hb with hb | hb
          · exact hpassed b hb
          · rcases List.mem_cons.mp hb with rfl | hb
            · exact fun hasks => hasks.no_zero hstrings hzero
            · exact hmore b hb
      · exact answersQuestions_of_first hbuilt hsends hread hlt (hq.asks hzero) hpassed rfl hout
    · -- no match: a question that asks for the service would have been one
      have hout := outcome_passed udpSend source hquery hname hheader hread hlength hbefore
      refine answersQuestions_of_none ?_ (by rw [hout]) ?_
      · intro before' q stop' hread' hlt' hasks
        exact hbefore q (hread'.mem hread (by omega)) (hasks.taken hstrings)
      · intro before' stop' _ hread' hlt' hend
        have hle := hread'.maximal hend hread
        omega
    · -- malformed before any match: no question that can be read asks for the service
      have hout := outcome_malformed udpSend source hquery hname hheader hread hlt hbefore hend
      refine answersQuestions_of_none ?_ (by rw [hout]) fun _ _ _ _ _ _ => hout
      intro before' q stop' hread' _ hasks
      have hle := hread.maximal hend hread'
      rw [List.length_append, List.length_singleton] at hle
      exact hbefore q (hread'.mem hread hle) (hasks.taken hstrings)
  · -- a packet without a whole header has no question at all
    have hshort : data.length < 12 := Nat.lt_of_not_le hheader
    have hout : mdnsHandlePacketFrom udpSend config data source = ⟨.invalidArgs, []⟩ := if_pos hshort
    refine answersQuestions_of_none ?_ (by rw [hout]) fun _ _ hlong => absurd hlong hheader
    intro before q stop hread _
    have hempty := questions_of_short hshort hread
    simp at hempty

/-- The handler does what the questions ask for, so it is not mistaken. -/
theorem AnswersQuestions.notMistaken (hstrings : config.Strings)
    (hquery : beNat ((data.drop 2).take 2) < 0x8000)
    (hbuilt : ∀ ttl ∈ responseTtls, ∃ packet, buildPacket 1500 config ttl = .ok packet)
    (hsends : ∀ packet destination, udpSend packet destination = packet.length)
    (h : AnswersQuestions udpSend config data source) : NotMistaken config data source := by
  intro before q stop hread hlt hq hbefore
  obtain ⟨packet, hpacket⟩ := hbuilt 60 List.mem_cons_self
  have hheader : 12 ≤ data.length := by
    by_contra hshort
    have hempty := questions_of_short (Nat.lt_of_not_le hshort) hread
    simp at hempty
  have hout := outcome_taken udpSend source hquery (fullName_fits hpacket) hheader hread hlt hq
    hbefore
  obtain ⟨sent, -, hsent⟩ := reply_sent source hbuilt hsends q
  -- without a zero byte in its name the match is no mistake
  by_cases hzero : 0 ∈ q.text
  · right
    -- something was sent, so a question asks for the service; the first one decides
    obtain ⟨front, r, mid, hfront, hfront_lt, hr⟩ :=
      h.answers.mp (by rw [hout, hsent]; exact List.cons_ne_nil _ _)
    obtain ⟨first, q', stop', hread', hfirst_lt, hq', hnone⟩ :=
      hfront.exists_first ⟨r, List.mem_append_right front (List.mem_singleton_self r), hr⟩
    rw [List.length_append, List.length_singleton] at hfirst_lt
    have hpassed : ∀ b ∈ before ++ [q], ¬Asks config b := by
      intro b hb hasks
      rcases List.mem_append.mp hb with hb | hb
      · exact hbefore b hb (hasks.taken hstrings)
      · rw [List.mem_singleton.mp hb] at hasks
        exact hasks.no_zero hstrings hzero
    -- the questions up to the mistaken one come before the first that truly asks
    have hle : (before ++ [q]).length ≤ first.length := by
      by_contra hlong
      exact hpassed q' (hread'.mem hread (by omega)) hq'
    obtain ⟨mid', hfirst, -⟩ := hread'.split
    have htake := (hread.take hfirst hle).1
    have hsplit : first = before ++ q :: first.drop (before ++ [q]).length := by
      calc first = first.take (before ++ [q]).length ++ first.drop (before ++ [q]).length :=
            (List.take_append_drop _ _).symm
        _ = before ++ q :: first.drop (before ++ [q]).length := by
            rw [htake, List.append_assoc]
            rfl
    -- both give the same response, because one packet is sent
    obtain ⟨packet', -, hanswer⟩ := h.first first q' stop' hread' (by omega) hq' hnone
    rw [hout, hsent] at hanswer
    simp only [MdnsOutcome.mk.injEq, List.cons.injEq, MdnsResponse.mk.injEq, true_and,
      and_true] at hanswer
    rw [hsplit] at hread'
    refine ⟨first.drop (before ++ [q]).length, q', stop', hread', ?_, hq', ?_, ?_⟩
    · rw [← hsplit]
      omega
    · intro b hb
      exact hnone b (List.mem_of_mem_drop hb)
    · exact Prod.ext hanswer.1.symm hanswer.2.1.symm
  · exact .inl hzero

end Answers

/-- **mDNS queries are answered** as their questions ask, for every packet without the
response bit, every config and every source, if and only if the first question that is taken
for one that asks for the service has no zero byte in its name, or one that asks for it
follows and gets the same response. -/
theorem mdns_queries_answered (udpSend : List UInt8 → NetAddr → Int) (config : MdnsConfig)
    (data : List UInt8) (source : Option NetAddr) (hstrings : config.Strings)
    (hquery : beNat ((data.drop 2).take 2) < 0x8000)
    (hbuilt : ∀ ttl ∈ responseTtls, ∃ packet, buildPacket 1500 config ttl = .ok packet)
    (hsends : ∀ packet destination, udpSend packet destination = packet.length) :
    AnswersQuestions udpSend config data source ↔ NotMistaken config data source :=
  ⟨fun h => h.notMistaken hstrings hquery hbuilt hsends,
    fun h => h.answers hstrings hquery hbuilt hsends⟩

/-! ## Single questions -/

/-- The text of the only question of a packet. -/
theorem text_of_only {data : List UInt8} {text : List UInt8} {next : ℕ}
    (hdecoded : decodeName data 12 256 = some (text, next)) (hone : questionCount data = 1)
    {before : List Question} {q : Question} {stop : ℕ}
    (h : QuestionsFrom data 255 12 (before ++ [q]) stop) (hlt : before.length < questionCount data) :
    q.text = text := by
  rw [hone, Nat.lt_one_iff, List.length_eq_zero_iff] at hlt
  rw [hlt] at h
  cases h with
  | cons first _ =>
      cases first with
      | @mk labels next' name short fits =>
          rw [← dotted_dropLast_eq_intercalate, dotted_dropLast_lt (by decide)] at short
          have hfound := (decodeName_iff data 12 (by decide) _ next').mpr
            ⟨labels, name, short, rfl⟩
          rw [hdecoded, Option.some.injEq, Prod.mk.injEq] at hfound
          rw [hfound.1, dotted_dropLast_eq_intercalate]
          rfl

/-- A service on a host. -/
def queriedConfig : MdnsConfig where
  serviceType := ascii "_raop._tcp.local"
  instanceName := ascii "001122334455@Kitchen"
  hostname := ascii "kitchen.local"
  port := 5000
  ipv4 := some (ascii "192.168.1.9")
  txtEntries := [some (ascii "cn=0,1")]

theorem queriedConfig_strings : queriedConfig.Strings :=
  ⟨by decide +kernel, by decide +kernel, by decide +kernel⟩

theorem queriedConfig_built :
    ∀ ttl ∈ responseTtls, ∃ packet, buildPacket 1500 queriedConfig ttl = .ok packet := by
  have hok : (responseTtls.all fun ttl =>
      (buildPacket 1500 queriedConfig ttl).toOption.isSome) = true := by decide +kernel
  intro ttl httl
  have hbuilt := List.all_eq_true.mp hok ttl httl
  cases hpacket : buildPacket 1500 queriedConfig ttl with
  | error stop =>
      rw [hpacket] at hbuilt
      exact absurd hbuilt Bool.false_ne_true
  | ok packet => exact ⟨packet, rfl⟩

/-- A query for the address of the host `kitchen.<last>` with a unicast answer. -/
def hostQuery (last : List UInt8) : List UInt8 :=
  [0, 0, 0, 0, 0, 1, 0, 0, 0, 0, 0, 0] ++ nameBytes [ascii "kitchen", last] ++ [0, 1, 0x80, 1]

/-- A query in other letters for the address of the host is answered, to the querier alone. -/
theorem mdns_queries_answered_host :
    AnswersQuestions (fun packet _ => packet.length) queriedConfig (hostQuery (ascii "LOCAL"))
      (some ⟨ascii "192.168.1.20", 5353⟩) := by
  apply (mdns_queries_answered _ queriedConfig (hostQuery (ascii "LOCAL")) _ queriedConfig_strings
    (by decide) queriedConfig_built fun _ _ => rfl).mpr
  intro before q stop hread hlt _ _
  left
  have hdecoded : decodeName (hostQuery (ascii "LOCAL")) 12 256 =
      some (ascii "kitchen.LOCAL", 27) := by decide +kernel
  rw [text_of_only hdecoded (by decide) hread hlt]
  decide

/-- A query for `kitchen.local` with a zero byte and more in its last label is answered,
though it asks for another name. -/
theorem mdns_query_zero_byte :
    ¬AnswersQuestions (fun packet _ => packet.length) queriedConfig
      (hostQuery (ascii "local" ++ [0, 120])) (some ⟨ascii "192.168.1.20", 5353⟩) := by
  intro h
  have hsent : (mdnsHandlePacketFrom (fun packet _ => packet.length) queriedConfig
      (hostQuery (ascii "local" ++ [0, 120])) (some ⟨ascii "192.168.1.20", 5353⟩)).sent ≠ [] := by
    decide +kernel
  have hdecoded : decodeName (hostQuery (ascii "local" ++ [0, 120])) 12 256 =
      some (ascii "kitchen.local" ++ [0, 120], 29) := by decide +kernel
  obtain ⟨before, q, stop, hread, hlt, hasks⟩ := h.answers.mp hsent
  apply hasks.no_zero queriedConfig_strings
  rw [text_of_only hdecoded (by decide) hread hlt]
  decide

end PortableAirplay.Protocol
