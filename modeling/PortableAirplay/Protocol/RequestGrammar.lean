import PortableAirplay.Library.TextWords
import PortableAirplay.Protocol.Numerals

/-!
# The grammar of requests

What a request looks like, in terms of its lines and their words (`IsRequest`), against
`parse_request`, which splits the first line with widths of 63, 255 and 31 bytes. A word that is
longer than its width is split there, so that a first line of fewer than three words may still
give three pieces (`GluedWords`). `request_grammar` says that the parser accepts exactly the
grammar if and only if the buffer is no such request (`GluedRequest`).

The lines are read by `parseLines_lines`, the words of the first one by `parseFirstLine_iff`,
and the header lines by `headers_iff`.
-/

set_option autoImplicit false

namespace PortableAirplay.Protocol

open PortableAirplay.Library
open PortableAirplay.Platform
open PortableAirplay.Util

/-! ## Lines -/

/-- `"\r\n"`. -/
def crlf : List UInt8 := [13, 10]

/-- A text without a line break. -/
def OneLine (line : List UInt8) : Prop := ¬crlf <:+: line

/-- Lines, each with its line break. -/
def lineBytes (lines : List (List UInt8)) : List UInt8 := (lines.map (· ++ crlf)).flatten

/-- The head of a request: its lines and an empty line. -/
def headBytes (lines : List (List UInt8)) : List UInt8 := lineBytes lines ++ crlf

@[simp] theorem headBytes_nil : headBytes [] = crlf := rfl

theorem headBytes_cons (line : List UInt8) (lines : List (List UInt8)) :
    headBytes (line :: lines) = line ++ (crlf ++ headBytes lines) := by
  simp [headBytes, lineBytes, List.append_assoc]

theorem OneLine.tail {c : UInt8} {line : List UInt8} (h : OneLine (c :: line)) : OneLine line :=
  fun hin => h (hin.trans (List.suffix_cons c line).isInfix)

/-- No line break starts inside a line, also not at its last byte. -/
theorem OneLine.not_startsWith {c : UInt8} {line : List UInt8} (h : OneLine (c :: line))
    (rest : List UInt8) : startsWith (c :: (line ++ (crlf ++ rest))) crlf = false := by
  rw [Bool.eq_false_iff]
  intro hstart
  rw [startsWith, List.isPrefixOf_iff_prefix] at hstart
  cases line with
  | nil =>
      simp [crlf] at hstart
  | cons d line =>
      apply h
      have hlen : crlf.length ≤ (c :: d :: line).length := by simp [crlf]
      have hwhole : c :: (d :: line ++ (crlf ++ rest)) = (c :: d :: line) ++ (crlf ++ rest) := rfl
      rw [hwhole] at hstart
      exact (List.prefix_of_prefix_length_le hstart (List.prefix_append _ _) hlen).isInfix

/-- The next line of a text that is put together from lines. -/
theorem nextLine_line {line : List UInt8} (h : OneLine line) (rest : List UInt8) :
    nextLine (line ++ (crlf ++ rest)) = some (line, rest) := by
  induction line with
  | nil => rfl
  | cons c line ih =>
      rw [List.cons_append, nextLine, if_neg]
      · rw [ih h.tail]
        rfl
      · have hno := h.not_startsWith rest
        rw [crlf] at hno ⊢
        rw [hno]
        exact Bool.false_ne_true

/-- The end of the head is looked for line by line. -/
theorem headersEnd_line {line : List UInt8} (h : OneLine line) (rest : List UInt8) :
    headersEnd (line ++ (crlf ++ rest)) =
      if startsWith rest crlf then some (line.length + 4)
      else (headersEnd rest).map (· + (line.length + 2)) := by
  induction line with
  | nil =>
      have hboth : startsWith (13 :: 10 :: rest) [13, 10, 13, 10] = startsWith rest crlf := rfl
      have hinside : startsWith (10 :: rest) [13, 10, 13, 10] = false := rfl
      rw [List.nil_append, crlf, List.cons_append, List.cons_append, List.nil_append, headersEnd,
        hboth, headersEnd, hinside]
      simp only [Bool.false_eq_true, if_false, Option.map_map]
      rfl
  | cons c line ih =>
      have hno : startsWith (c :: (line ++ (crlf ++ rest))) [13, 10, 13, 10] = false := by
        rw [Bool.eq_false_iff]
        intro hstart
        have htwo : startsWith (c :: (line ++ (crlf ++ rest))) crlf = true := by
          rw [startsWith, List.isPrefixOf_iff_prefix] at hstart ⊢
          exact (List.prefix_append crlf crlf).trans hstart
        rw [h.not_startsWith rest] at htwo
        exact Bool.false_ne_true htwo
      rw [List.cons_append, headersEnd, hno, if_neg Bool.false_ne_true, ih h.tail]
      by_cases hrest : startsWith rest crlf = true
      · rw [if_pos hrest, if_pos hrest]
        rfl
      · rw [if_neg hrest, if_neg hrest, Option.map_map]
        rfl

/-- A head that is put together from lines ends where its empty line ends. -/
theorem headersEnd_headBytes {first : List UInt8} {lines : List (List UInt8)}
    (hfirst : OneLine first) (hlines : ∀ line ∈ lines, OneLine line ∧ line ≠ [])
    (rest : List UInt8) :
    headersEnd (headBytes (first :: lines) ++ rest) = some (headBytes (first :: lines)).length := by
  induction lines generalizing first with
  | nil =>
      rw [headBytes_cons, List.append_assoc, List.append_assoc, headersEnd_line hfirst]
      simp [startsWith, crlf]
  | cons line lines ih =>
      obtain ⟨hline, hne⟩ := hlines line List.mem_cons_self
      have hmore := ih hline fun l hl => hlines l (List.mem_cons_of_mem _ hl)
      have hno : startsWith (headBytes (line :: lines) ++ rest) crlf = false := by
        obtain ⟨c, tail, rfl⟩ := List.exists_cons_of_ne_nil hne
        rw [headBytes_cons, List.append_assoc, List.append_assoc]
        exact hline.not_startsWith _
      rw [headBytes_cons, List.append_assoc, List.append_assoc, headersEnd_line hfirst, hno,
        if_neg Bool.false_ne_true, hmore]
      simp only [Option.map_some, List.length_append, crlf, List.length_cons, List.length_nil]
      congr 1
      omega

/-- **Every head is put together from lines,** of which only the first may be empty. -/
theorem exists_headBytes {s : List UInt8} {n : ℕ} (h : headersEnd s = some n) :
    ∃ first lines, s.take n = headBytes (first :: lines) ∧ OneLine first ∧
      ∀ line ∈ lines, OneLine line ∧ line ≠ [] := by
  -- the induction is on the bytes in front of the empty line
  induction s generalizing n with
  | nil => simp [headersEnd] at h
  | cons c s ih =>
      rw [headersEnd] at h
      split at h
      · rename_i hstart
        rw [Option.some.injEq] at h
        obtain ⟨rest, hrest⟩ := List.isPrefixOf_iff_prefix.mp hstart
        refine ⟨[], [], ?_, ?_, fun line hline => absurd hline List.not_mem_nil⟩
        · rw [← hrest, ← h]
          rfl
        · intro hin
          simpa [crlf] using hin.length_le
      · rename_i hstart
        rw [Option.map_eq_some_iff] at h
        obtain ⟨k, hk, rfl⟩ := h
        obtain ⟨first, lines, htake, hfirst, hlines⟩ := ih hk
        by_cases hbreak : crlf <+: c :: first
        · -- a line break starts here, so the line ends and `first` is its line feed and the next
          obtain ⟨next, hnext⟩ := hbreak
          have hc : (13 : UInt8) = c := (List.cons.inj hnext).1
          have hnext' : 10 :: next = first := (List.cons.inj hnext).2
          subst hc
          subst hnext'
          refine ⟨[], next :: lines, ?_, ?_, ?_⟩
          · rw [List.take_succ_cons, htake, headBytes_cons, headBytes_cons, headBytes_cons]
            rfl
          · intro hin
            simpa [crlf] using hin.length_le
          · intro line hline
            rcases List.mem_cons.mp hline with rfl | hline
            · refine ⟨hfirst.tail, ?_⟩
              rintro rfl
              apply hstart
              rw [startsWith, List.isPrefixOf_iff_prefix]
              have hprefix : [13, 10, 13, 10] <+: 13 :: s.take k := by
                rw [htake, headBytes_cons]
                exact List.prefix_append [13, 10, 13, 10] (headBytes lines)
              exact hprefix.trans ((List.cons_prefix_cons).mpr ⟨rfl, List.take_prefix k s⟩)
            · exact hlines line hline
        · -- the byte belongs to the first line
          refine ⟨c :: first, lines, ?_, ?_, hlines⟩
          · rw [List.take_succ_cons, htake, headBytes_cons, headBytes_cons]
            rfl
          · intro hin
            rcases List.infix_cons_iff.mp hin with hprefix | htail
            · exact hbreak hprefix
            · exact hfirst htail

/-- The loop over the lines reads them one by one. -/
theorem parseLines_lines {lines : List (List UInt8)}
    (hlines : ∀ line ∈ lines, OneLine line ∧ line ≠ []) {fuel : ℕ} (hfuel : lines.length < fuel)
    (st : HeadState) :
    parseLines fuel st (headBytes lines) = lines.foldlM parseLine st := by
  induction lines generalizing fuel st with
  | nil =>
      obtain ⟨fuel, rfl⟩ : ∃ k, fuel = k + 1 := ⟨fuel - 1, by omega⟩
      rfl
  | cons line lines ih =>
      obtain ⟨fuel, rfl⟩ : ∃ k, fuel = k + 1 := ⟨fuel - 1, by omega⟩
      obtain ⟨hline, hne⟩ := hlines line List.mem_cons_self
      obtain ⟨c, tail, rfl⟩ := List.exists_cons_of_ne_nil hne
      have hmore : ∀ l ∈ lines, OneLine l ∧ l ≠ [] :=
        fun l hl => hlines l (List.mem_cons_of_mem _ hl)
      rw [List.length_cons] at hfuel
      have hnext := nextLine_line hline (headBytes lines)
      rw [headBytes_cons]
      rw [List.cons_append] at hnext ⊢
      rw [parseLines, hnext]
      dsimp only
      rw [List.foldlM_cons]
      cases hparse : parseLine st (c :: tail) with
      | none => rfl
      | some st' => exact ih hmore (by omega) st'

theorem length_lt_headBytes (lines : List (List UInt8)) :
    lines.length < (headBytes lines).length + 1 := by
  induction lines with
  | nil => simp
  | cons line lines ih =>
      rw [headBytes_cons, List.length_append, List.length_append, List.length_cons]
      have hbreak : crlf.length = 2 := rfl
      omega

/-- The lines of a head are read one by one, if it has no zero byte. -/
theorem parseHead_headBytes {first : List UInt8} {lines : List (List UInt8)}
    (hfirst : OneLine first ∧ first ≠ []) (hlines : ∀ line ∈ lines, OneLine line ∧ line ≠ [])
    (st : HeadState) :
    parseHead (headBytes (first :: lines)) = some st ↔
      0 ∉ headBytes (first :: lines) ∧ (first :: lines).foldlM parseLine HeadState.start = some st ∧
        st.firstLine = false := by
  have hall : ∀ line ∈ first :: lines, OneLine line ∧ line ≠ [] := by
    intro line hline
    rcases List.mem_cons.mp hline with rfl | hline
    · exact hfirst
    · exact hlines line hline
  rw [parseHead, parseLines_lines hall (length_lt_headBytes _)]
  -- the loop runs only on a head without a zero byte, and must have met the first line
  by_cases hzero : 0 ∈ headBytes (first :: lines)
  · rw [if_pos hzero]
    constructor
    · intro h
      cases h
    · rintro ⟨h, -⟩
      exact absurd hzero h
  · rw [if_neg hzero]
    cases hlast : (first :: lines).foldlM parseLine HeadState.start with
    | none => simp
    | some last =>
        dsimp only
        cases hline : last.firstLine with
        | true =>
            rw [if_pos rfl]
            constructor
            · intro h
              cases h
            · rintro ⟨-, hst, hno⟩
              rw [Option.some.injEq] at hst
              rw [hst, hno] at hline
              cases hline
        | false =>
            rw [if_neg Bool.false_ne_true, Option.some.injEq]
            constructor
            · rintro rfl
              exact ⟨hzero, rfl, hline⟩
            · rintro ⟨-, hst, -⟩
              exact hst

/-- A head that starts with an empty line has no first line. -/
theorem parseHead_empty (rest : List UInt8) : parseHead (crlf ++ rest) = none := by
  rw [parseHead]
  split
  · rfl
  · have hlines : parseLines ((crlf ++ rest).length + 1) HeadState.start (crlf ++ rest) =
        some HeadState.start := rfl
    rw [hlines]
    rfl

/-! ## The first line -/

/-- A word is scanned, and a longer one leaves its rest behind as the next word. -/
theorem scanWord_words {width : ℕ} (hwidth : 0 < width) {text word : CString}
    {more : List CString} (h : words isSpace text = word :: more) :
    ∃ rest, scanWord width text = some (word.take width, rest) ∧
      words isSpace rest = if word.length ≤ width then more else word.drop width :: more := by
  obtain ⟨start, hstart, hword, hrest⟩ := words_drop_width width h
  have hne : word.take width ≠ [] := by
    have hmem : word ∈ words isSpace text := by
      rw [h]
      exact List.mem_cons_self
    have hword' := ne_nil_of_mem_words hmem
    simp only [ne_eq, List.take_eq_nil_iff, not_or]
    exact ⟨by omega, hword'⟩
  refine ⟨start.drop (word.take width).length, ?_, hrest⟩
  simp only [scanWord]
  rw [hstart, hword, if_neg hne]

theorem scanWord_eq_none {width : ℕ} {text : CString} (h : words isSpace text = []) :
    scanWord width text = none := by
  simp [scanWord, words_eq_nil.mp h]

/-- The words of a first line that is read as three pieces although it has fewer words: a word
that is as long as its width runs into the next one. -/
inductive GluedWords (method uri version : CString) : List CString → Prop where
  | atMethod : method.length = 63 → uri ≠ [] → GluedWords method uri version [method ++ uri, version]
  | atUri : uri.length = 255 → GluedWords method uri version [method, uri ++ version]
  | atBoth : method.length = 63 → uri.length = 255 →
      GluedWords method uri version [method ++ uri ++ version]

/-- The words of a first line that is three words. -/
def ThreeWords (method uri version : CString) (found : List CString) : Prop :=
  found = [method, uri, version]

/-- What every first line that is read must meet. -/
structure RequestLine (method uri version : CString) : Prop where
  methodWidth : method.length ≤ 63
  uriWidth : uri.length ≤ 255
  versionWidth : version.length ≤ 31
  known : ascii "RTSP/" <+: version ∨ version = ascii "HTTP/1.1"

theorem knownVersion_iff (version : CString) :
    knownVersion version = true ↔ ascii "RTSP/" <+: version ∨ version = ascii "HTTP/1.1" := by
  rw [knownVersion, Bool.or_eq_true, startsWith, List.isPrefixOf_iff_prefix, beq_iff_eq]

/-- One piece of a first line: a whole word, or the start of a word that is longer than the
width. -/
theorem scanPiece_iff {width : ℕ} (hwidth : 0 < width) {text piece : CString}
    {behind : List CString} :
    (∃ rest, scanWord width text = some (piece, rest) ∧ words isSpace rest = behind) ↔
      (words isSpace text = piece :: behind ∧ piece.length ≤ width) ∨
        ∃ tail more, tail ≠ [] ∧ behind = tail :: more ∧
          words isSpace text = (piece ++ tail) :: more ∧ piece.length = width := by
  cases hwords : words isSpace text with
  | nil =>
      rw [scanWord_eq_none hwords]
      simp
  | cons word more =>
      obtain ⟨rest, hscan, hrest⟩ := scanWord_words hwidth hwords
      rw [hscan]
      constructor
      · -- a conversion takes the whole word, or its first `width` bytes
        rintro ⟨rest', hsame, rfl⟩
        rw [Option.some.injEq, Prod.mk.injEq] at hsame
        obtain ⟨rfl, rfl⟩ := hsame
        by_cases hshort : word.length ≤ width
        · left
          rw [if_pos hshort] at hrest
          rw [List.take_of_length_le hshort, hrest]
          exact ⟨rfl, hshort⟩
        · right
          rw [if_neg hshort] at hrest
          refine ⟨word.drop width, more, ?_, hrest, ?_, ?_⟩
          · rw [ne_eq, List.drop_eq_nil_iff]
            omega
          · rw [List.take_append_drop]
          · rw [List.length_take]
            omega
      · -- both give back the conversion that cuts the word there
        rintro (⟨hword, hshort⟩ | ⟨tail, more', htail, rfl, hword, hlen⟩)
        · rw [List.cons.injEq] at hword
          obtain ⟨rfl, rfl⟩ := hword
          rw [if_pos hshort] at hrest
          exact ⟨rest, by rw [List.take_of_length_le hshort], hrest⟩
        · rw [List.cons.injEq] at hword
          obtain ⟨rfl, rfl⟩ := hword
          have hlong : ¬(piece ++ tail).length ≤ width := by
            have := List.length_pos_of_ne_nil htail
            rw [List.length_append]
            omega
          rw [if_neg hlong, List.drop_left' hlen] at hrest
          exact ⟨rest, by rw [List.take_left' hlen], hrest⟩

/-- The last piece of a first line, when nothing comes behind it. -/
theorem scanLast_iff {width : ℕ} (hwidth : 0 < width) {text piece : CString} :
    (∃ rest, scanWord width text = some (piece, rest) ∧ words isSpace rest = []) ↔
      words isSpace text = [piece] ∧ piece.length ≤ width := by
  rw [scanPiece_iff hwidth]
  constructor
  · rintro (h | ⟨tail, more, -, hnil, -⟩)
    · exact h
    · exact absurd hnil.symm (List.cons_ne_nil tail more)
  · exact Or.inl

/-- The three conversions of a first line, by the words that it has. -/
theorem scanLine_iff {line method uri version : CString} (hversion : version ≠ []) :
    (∃ afterMethod afterUri afterVersion, scanWord 63 line = some (method, afterMethod) ∧
      scanWord 255 afterMethod = some (uri, afterUri) ∧
      scanWord 31 afterUri = some (version, afterVersion) ∧ words isSpace afterVersion = []) ↔
      (method.length ≤ 63 ∧ uri.length ≤ 255 ∧ version.length ≤ 31) ∧
        (ThreeWords method uri version (words isSpace line) ∨
          GluedWords method uri version (words isSpace line)) := by
  constructor
  · -- from the last conversion to the first: each word ends here or was cut
    rintro ⟨afterMethod, afterUri, afterVersion, hmethod, huri, hlast, hend⟩
    obtain ⟨htwo, hv⟩ := (scanLast_iff (by decide)).mp ⟨afterVersion, hlast, hend⟩
    rcases (scanPiece_iff (by decide)).mp ⟨afterUri, huri, htwo⟩ with
      ⟨hone, hu⟩ | ⟨tail, more, -, hsame, hone, hu⟩
    · rcases (scanPiece_iff (by decide)).mp ⟨afterMethod, hmethod, hone⟩ with
        ⟨hline, hm⟩ | ⟨tail, more, htail, hsame, hline, hm⟩
      · exact ⟨⟨hm, hu, hv⟩, Or.inl hline⟩
      · rw [List.cons.injEq] at hsame
        obtain ⟨rfl, rfl⟩ := hsame
        rw [hline]
        exact ⟨⟨by omega, hu, hv⟩, Or.inr (.atMethod hm htail)⟩
    · rw [List.cons.injEq] at hsame
      obtain ⟨rfl, rfl⟩ := hsame
      rcases (scanPiece_iff (by decide)).mp ⟨afterMethod, hmethod, hone⟩ with
        ⟨hline, hm⟩ | ⟨tail, more, -, hsame, hline, hm⟩
      · rw [hline]
        exact ⟨⟨hm, by omega, hv⟩, Or.inr (.atUri hu)⟩
      · rw [List.cons.injEq] at hsame
        obtain ⟨rfl, rfl⟩ := hsame
        rw [hline, ← List.append_assoc]
        exact ⟨⟨by omega, by omega, hv⟩, Or.inr (.atBoth hm hu)⟩
  · rintro ⟨⟨hm, hu, hv⟩, hline⟩
    -- what is left for the second conversion, and for the third
    have hparts : ∃ one, (∃ rest, scanWord 63 line = some (method, rest) ∧
        words isSpace rest = one) ∧
        (one = [uri, version] ∨ one = [uri ++ version] ∧ uri.length = 255) := by
      rcases hline with hthree | hglued
      · exact ⟨[uri, version], (scanPiece_iff (by decide)).mpr (Or.inl ⟨hthree, hm⟩), Or.inl rfl⟩
      · generalize hwords : words isSpace line = found at hglued
        cases hglued with
        | atMethod hlen hne =>
            exact ⟨[uri, version], (scanPiece_iff (by decide)).mpr
              (Or.inr ⟨uri, [version], hne, rfl, hwords, hlen⟩), Or.inl rfl⟩
        | atUri hlen =>
            exact ⟨[uri ++ version], (scanPiece_iff (by decide)).mpr (Or.inl ⟨hwords, hm⟩),
              Or.inr ⟨rfl, hlen⟩⟩
        | atBoth hlen hlen' =>
            refine ⟨[uri ++ version], (scanPiece_iff (by decide)).mpr
              (Or.inr ⟨uri ++ version, [], ?_, rfl, ?_, hlen⟩), Or.inr ⟨rfl, hlen'⟩⟩
            · exact List.append_ne_nil_of_right_ne_nil uri hversion
            · rw [hwords, List.append_assoc]
    obtain ⟨one, ⟨afterMethod, hmethod, hone⟩, hcase⟩ := hparts
    have hnext : ∃ rest, scanWord 255 afterMethod = some (uri, rest) ∧
        words isSpace rest = [version] := by
      apply (scanPiece_iff (by decide)).mpr
      rcases hcase with rfl | ⟨rfl, hlen⟩
      · exact Or.inl ⟨hone, hu⟩
      · exact Or.inr ⟨version, [], hversion, rfl, hone, hlen⟩
    obtain ⟨afterUri, huri, htwo⟩ := hnext
    obtain ⟨afterVersion, hlast, hend⟩ := (scanLast_iff (by decide)).mpr ⟨htwo, hv⟩
    exact ⟨afterMethod, afterUri, afterVersion, hmethod, huri, hlast, hend⟩

/-- **The first line:** three words within their widths, or fewer words that the widths cut
into three. -/
theorem parseFirstLine_iff (st st' : HeadState) (line : CString) :
    parseFirstLine st line = some st' ↔
      ∃ method uri version, RequestLine method uri version ∧
        (ThreeWords method uri version (words isSpace line) ∨
          GluedWords method uri version (words isSpace line)) ∧
        st' = { st with
          request :=
            { st.request with uri := uri, version := version, method := parseMethod method }
          firstLine := false } := by
  -- no version that the code knows is empty
  have hne : ∀ {version : CString},
      (ascii "RTSP/" <+: version ∨ version = ascii "HTTP/1.1") → version ≠ [] := by
    rintro version h rfl
    rcases h with h | h
    · exact absurd (List.prefix_nil.mp h) (by decide)
    · exact absurd h (by decide)
  constructor
  · intro h
    simp only [parseFirstLine, Option.bind_eq_bind, Option.bind_eq_some_iff, Prod.exists] at h
    obtain ⟨method, afterMethod, hmethod, uri, afterUri, huri, version, afterVersion, hlast, h⟩ := h
    split at h
    · cases h
    · rename_i hgood
      rw [not_or, not_not, Bool.not_eq_false, knownVersion_iff] at hgood
      obtain ⟨hend, hknown⟩ := hgood
      obtain ⟨⟨hm, hu, hv⟩, hwords⟩ := (scanLine_iff (hne hknown)).mp
        ⟨afterMethod, afterUri, afterVersion, hmethod, huri, hlast, words_eq_nil.mpr hend⟩
      exact ⟨method, uri, version, ⟨hm, hu, hv, hknown⟩, hwords, (Option.some.inj h).symm⟩
  · rintro ⟨method, uri, version, hline, hwords, rfl⟩
    obtain ⟨afterMethod, afterUri, afterVersion, hmethod, huri, hlast, hend⟩ :=
      (scanLine_iff (hne hline.known)).mpr
        ⟨⟨hline.methodWidth, hline.uriWidth, hline.versionWidth⟩, hwords⟩
    have hgood : ¬(afterVersion.dropWhile isSpace ≠ [] ∨ knownVersion version = false) := by
      rw [not_or, not_not, Bool.not_eq_false, knownVersion_iff]
      exact ⟨words_eq_nil.mp hend, hline.known⟩
    simp only [parseFirstLine, Option.bind_eq_bind, Option.bind_eq_some_iff, Prod.exists]
    refine ⟨method, afterMethod, hmethod, uri, afterUri, huri, version, afterVersion, hlast, ?_⟩
    rw [if_neg hgood]

/-! ## Header lines -/

/-- A value is a text without the blanks at its two ends. -/
structure Trimmed (text value : CString) : Prop where
  split : ∃ left right, text = left ++ (value ++ right) ∧ (∀ c ∈ left, isBlank c = true) ∧
    ∀ c ∈ right, isBlank c = true
  first : ∀ c ∈ value.head?, isBlank c = false
  last : ∀ c ∈ value.getLast?, isBlank c = false

theorem dropWhile_blanks {left rest : CString} (hleft : ∀ c ∈ left, isBlank c = true)
    (hrest : ∀ c ∈ rest.head?, isBlank c = false) : (left ++ rest).dropWhile isBlank = rest := by
  rw [List.dropWhile_append_of_pos hleft]
  cases rest with
  | nil => rfl
  | cons c rest =>
      have hc : isBlank c = false := hrest c rfl
      exact List.dropWhile_cons_of_neg (by simp [hc])

theorem trim_eq {text value : CString} (h : Trimmed text value) : trim text = value := by
  obtain ⟨left, right, rfl, hleft, hright⟩ := h.split
  have hright' : ∀ c ∈ right.reverse, isBlank c = true := by
    intro c hc
    exact hright c (List.mem_reverse.mp hc)
  cases value with
  | nil =>
      -- only blanks: all of them go from the front
      have hall : ∀ c ∈ left ++ right, isBlank c = true := by
        intro c hc
        rcases List.mem_append.mp hc with hc | hc
        · exact hleft c hc
        · exact hright c hc
      rw [trim, List.nil_append, List.dropWhile_eq_nil_iff.mpr hall]
      rfl
  | cons c value =>
      rw [trim, dropWhile_blanks hleft (by simpa using h.first), List.reverse_append,
        dropWhile_blanks hright', List.reverse_reverse]
      intro d hd
      rw [List.head?_reverse] at hd
      exact h.last d hd

theorem trim_trimmed (text : CString) : Trimmed text (trim text) := by
  have hfront := List.takeWhile_append_dropWhile (p := isBlank) (l := text)
  have hback := List.takeWhile_append_dropWhile (p := isBlank)
    (l := (text.dropWhile isBlank).reverse)
  -- the blanks in front go first, then those behind
  have hrest : text.dropWhile isBlank =
      trim text ++ ((text.dropWhile isBlank).reverse.takeWhile isBlank).reverse := by
    rw [trim, ← List.reverse_append, hback, List.reverse_reverse]
  refine ⟨⟨text.takeWhile isBlank, ((text.dropWhile isBlank).reverse.takeWhile isBlank).reverse,
    ?_, ?_, ?_⟩, ?_, ?_⟩
  · rw [← hrest, hfront]
  · intro c hc
    exact List.mem_takeWhile_imp hc
  · intro c hc
    exact List.mem_takeWhile_imp (List.mem_reverse.mp hc)
  · intro c hc
    have hhead := List.head?_dropWhile_not isBlank text
    cases htrim : trim text with
    | nil =>
        rw [htrim] at hc
        cases hc
    | cons d value =>
        rw [htrim] at hc hrest
        rw [hrest] at hhead
        simp only [List.head?_cons, Option.mem_def, Option.some.injEq] at hc
        simpa [hc] using hhead
  · intro c hc
    have hhead := List.head?_dropWhile_not isBlank (text.dropWhile isBlank).reverse
    rw [trim, List.getLast?_reverse] at hc
    rw [hc] at hhead
    simpa using hhead

/-- A line `name ':' value`. -/
structure HeaderLine (line : CString) (header : RtspHeader) : Prop where
  split : ∃ before after, line = before ++ 58 :: after ∧ 58 ∉ before ∧
    Trimmed before header.name ∧ Trimmed after header.value
  named : header.name ≠ []
  nameWidth : header.name.length < 128
  valueWidth : header.value.length < 256

theorem strchr_eq_some {c : UInt8} {text found : CString} :
    strchr c text = some found ↔
      ∃ before after, text = before ++ c :: after ∧ c ∉ before ∧ found = c :: after := by
  -- the induction follows the scan for the byte
  induction text with
  | nil => simp [strchr]
  | cons d text ih =>
      rw [strchr]
      by_cases hd : d = c
      · rw [if_pos hd, Option.some.injEq]
        constructor
        · rintro rfl
          exact ⟨[], text, by rw [hd]; rfl, List.not_mem_nil, by rw [hd]⟩
        · rintro ⟨before, after, htext, hno, rfl⟩
          cases before with
          | nil => exact htext
          | cons e before =>
              rw [List.cons_append, List.cons.injEq] at htext
              exact absurd (List.mem_cons.mpr (Or.inl (hd.symm.trans htext.1))) hno
      · rw [if_neg hd, ih]
        constructor
        · rintro ⟨before, after, rfl, hno, rfl⟩
          refine ⟨d :: before, after, rfl, ?_, rfl⟩
          rw [List.mem_cons, not_or]
          exact ⟨fun h => hd h.symm, hno⟩
        · rintro ⟨before, after, htext, hno, rfl⟩
          cases before with
          | nil => exact absurd (List.cons.inj htext).1 hd
          | cons e before =>
              rw [List.cons_append, List.cons.injEq] at htext
              exact ⟨before, after, htext.2, fun h => hno (List.mem_cons_of_mem _ h), rfl⟩

theorem not_length_of_cseq {name : CString} (h : netAsciiCaseEq name (ascii "CSeq") = true) :
    netAsciiCaseEq name (ascii "Content-Length") = false := by
  rw [netAsciiCaseEq, beq_iff_eq] at h
  rw [netAsciiCaseEq, h]
  decide

/-- What a header line adds to the variables of the loop. -/
inductive HeaderAdded (st : HeadState) (header : RtspHeader) : HeadState → Prop where
  | cseq (value : UInt32) : netAsciiCaseEq header.name (ascii "CSeq") = true →
      IsUint32 header.value value →
      HeaderAdded st header { st with
        request := { st.request with headers := st.request.headers ++ [header], cseq := value } }
  | length (value : UInt32) : netAsciiCaseEq header.name (ascii "Content-Length") = true →
      IsUint32 header.value value → st.hasLength = false →
      HeaderAdded st header { st with
        request := { st.request with headers := st.request.headers ++ [header] }
        contentLength := value
        hasLength := true }
  | other : netAsciiCaseEq header.name (ascii "CSeq") = false →
      netAsciiCaseEq header.name (ascii "Content-Length") = false →
      HeaderAdded st header { st with
        request := { st.request with headers := st.request.headers ++ [header] } }

/-- A header line is read behind the first line, and takes the place of one header. -/
theorem HeaderAdded.keeps {st st' : HeadState} {header : RtspHeader}
    (h : HeaderAdded st header st') : st'.firstLine = st.firstLine ∧
      st'.request.headers.length = st.request.headers.length + 1 := by
  cases h with
  | cseq value _ _ => exact ⟨rfl, List.length_append⟩
  | length value _ _ _ => exact ⟨rfl, List.length_append⟩
  | other _ _ => exact ⟨rfl, List.length_append⟩

/-- The name of a header is what stands in front of the first colon. -/
theorem take_before_colon (before after : CString) :
    (before ++ 58 :: after).take
      ((before ++ 58 :: after).length - (58 :: after).length) = before := by
  rw [List.length_append, Nat.add_sub_cancel, List.take_left]

/-- One header line. -/
theorem parseHeaderLine_iff (st st' : HeadState) (line : CString) :
    parseHeaderLine st line = some st' ↔
      ∃ header, HeaderLine line header ∧ st.request.headers.length ≠ maxHeaders ∧
        HeaderAdded st header st' := by
  constructor
  · intro h
    simp only [parseHeaderLine, Option.bind_eq_bind, Option.bind_eq_some_iff] at h
    obtain ⟨colon, hcolon, h⟩ := h
    obtain ⟨before, after, rfl, hno, rfl⟩ := strchr_eq_some.mp hcolon
    rw [take_before_colon, List.drop_one, List.tail_cons] at h
    -- the tests in the order of the source: room, the two widths, `CSeq`, `Content-Length`
    split at h
    · cases h
    · rename_i hroom
      split at h
      · cases h
      · rename_i hgood
        rw [not_or, not_or, Nat.not_le, Nat.not_le] at hgood
        refine ⟨⟨trim before, trim after⟩, ⟨⟨before, after, rfl, hno, trim_trimmed before,
          trim_trimmed after⟩, hgood.1, hgood.2.1, hgood.2.2⟩, hroom, ?_⟩
        split at h
        · rename_i hcseq
          rw [Option.bind_eq_some_iff] at h
          obtain ⟨value, hvalue, h⟩ := h
          rw [← Option.some.inj h]
          exact .cseq value hcseq ((parseUint32_iff _ _).mp hvalue)
        · rename_i hcseq
          split at h
          · rename_i hlength
            split at h
            · cases h
            · rename_i honce
              rw [Option.bind_eq_some_iff] at h
              obtain ⟨value, hvalue, h⟩ := h
              rw [← Option.some.inj h]
              exact .length value hlength ((parseUint32_iff _ _).mp hvalue) (by simpa using honce)
          · rename_i hlength
            rw [← Option.some.inj h]
            exact .other (by simpa using hcseq) (by simpa using hlength)
  · rintro ⟨⟨name, value⟩, hline, hroom, hadded⟩
    obtain ⟨before, after, rfl, hno, hname, hvalue⟩ := hline.split
    have hgood : ¬(name = [] ∨ 128 ≤ name.length ∨ 256 ≤ value.length) := by
      rw [not_or, not_or, Nat.not_le, Nat.not_le]
      exact ⟨hline.named, hline.nameWidth, hline.valueWidth⟩
    simp only [parseHeaderLine, Option.bind_eq_bind, Option.bind_eq_some_iff]
    refine ⟨58 :: after, strchr_eq_some.mpr ⟨before, after, rfl, hno, rfl⟩, ?_⟩
    rw [take_before_colon, List.drop_one, List.tail_cons, trim_eq hname, trim_eq hvalue, if_neg hroom,
      if_neg hgood]
    -- what was added tells which branch the line takes
    cases hadded with
    | cseq n hcseq hn =>
        rw [if_pos hcseq, (parseUint32_iff _ _).mpr hn]
        rfl
    | length n hlength hn honce =>
        have hcseq : netAsciiCaseEq name (ascii "CSeq") ≠ true := by
          intro h
          rw [not_length_of_cseq h] at hlength
          cases hlength
        rw [if_neg hcseq, if_pos hlength, honce, if_neg Bool.false_ne_true,
          (parseUint32_iff _ _).mpr hn]
        rfl
    | other hcseq hlength =>
        rw [if_neg (by simp [hcseq]), if_neg (by simp [hlength])]

/-- The values of the headers with one name, in order. -/
def valuesOf (name : CString) (headers : List RtspHeader) : List CString :=
  (headers.filter fun header => netAsciiCaseEq header.name name).map RtspHeader.value

theorem valuesOf_cons_of_pos {name : CString} {header : RtspHeader}
    (h : netAsciiCaseEq header.name name = true) (headers : List RtspHeader) :
    valuesOf name (header :: headers) = header.value :: valuesOf name headers := by
  simp [valuesOf, h]

theorem valuesOf_cons_of_neg {name : CString} {header : RtspHeader}
    (h : netAsciiCaseEq header.name name = false) (headers : List RtspHeader) :
    valuesOf name (header :: headers) = valuesOf name headers := by
  simp [valuesOf, h]

/-- Header lines, with what they add to the variables of the loop. -/
structure HeadersRead (st : HeadState) (lines : List CString) (headers : List RtspHeader)
    (cseqs lengths : List UInt32) (st' : HeadState) : Prop where
  spelled : List.Forall₂ HeaderLine lines headers
  count : st.request.headers.length + lines.length ≤ maxHeaders
  cseqValues : List.Forall₂ IsUint32 (valuesOf (ascii "CSeq") headers) cseqs
  lengthValues : List.Forall₂ IsUint32 (valuesOf (ascii "Content-Length") headers) lengths
  once : lengths.length + (if st.hasLength then 1 else 0) ≤ 1
  result : st' =
    { request := { st.request with
        headers := st.request.headers ++ headers
        cseq := cseqs.getLast?.getD st.request.cseq }
      contentLength := lengths.getLast?.getD st.contentLength
      firstLine := st.firstLine
      hasLength := st.hasLength || !lengths.isEmpty }

section HeadersRead

variable {st st' middle : HeadState} {line : CString} {lines : List CString} {header : RtspHeader}
  {headers : List RtspHeader} {cseqs lengths : List UInt32}

theorem HeadersRead.none (hroom : st.request.headers.length ≤ maxHeaders) :
    HeadersRead st [] [] [] [] st where
  spelled := .nil
  count := hroom
  cseqValues := .nil
  lengthValues := .nil
  once := by split <;> simp
  result := by simp

/-- One more header line in front. -/
theorem HeadersRead.cons (hline : HeaderLine line header)
    (hadded : HeaderAdded st header middle)
    (hmore : HeadersRead middle lines headers cseqs lengths st') :
    ∃ cseqs' lengths', HeadersRead st (line :: lines) (header :: headers) cseqs' lengths' st' := by
  have hcount := hmore.count
  have honce := hmore.once
  have hresult := hmore.result
  -- the line is a `CSeq`, the one `Content-Length`, or another header
  cases hadded with
  | cseq value hcseq hvalue =>
      refine ⟨value :: cseqs, lengths, .cons hline hmore.spelled, ?_, ?_, ?_, honce, ?_⟩
      · simp only [List.length_append, List.length_cons] at hcount ⊢
        omega
      · rw [valuesOf_cons_of_pos hcseq]
        exact .cons hvalue hmore.cseqValues
      · rw [valuesOf_cons_of_neg (not_length_of_cseq hcseq)]
        exact hmore.lengthValues
      · rw [hresult, List.getLast?_cons]
        simp [List.append_assoc]
  | length value hlength hvalue hno =>
      have hcseq : netAsciiCaseEq header.name (ascii "CSeq") = false := by
        rw [Bool.eq_false_iff]
        intro h
        rw [not_length_of_cseq h] at hlength
        cases hlength
      have hnil : lengths = [] := by
        rw [← List.length_eq_zero_iff]
        simpa using honce
      subst hnil
      refine ⟨cseqs, [value], .cons hline hmore.spelled, ?_, ?_, ?_, ?_, ?_⟩
      · simp only [List.length_append, List.length_cons] at hcount ⊢
        omega
      · rw [valuesOf_cons_of_neg hcseq]
        exact hmore.cseqValues
      · rw [valuesOf_cons_of_pos hlength]
        exact .cons hvalue hmore.lengthValues
      · simp [hno]
      · rw [hresult]
        simp [List.append_assoc]
  | other hcseq hlength =>
      refine ⟨cseqs, lengths, .cons hline hmore.spelled, ?_, ?_, ?_, honce, ?_⟩
      · simp only [List.length_append, List.length_cons] at hcount ⊢
        omega
      · rw [valuesOf_cons_of_neg hcseq]
        exact hmore.cseqValues
      · rw [valuesOf_cons_of_neg hlength]
        exact hmore.lengthValues
      · rw [hresult]
        simp [List.append_assoc]

/-- The first of the header lines. -/
theorem HeadersRead.uncons
    (h : HeadersRead st (line :: lines) headers cseqs lengths st') :
    ∃ header more cseqs' lengths' middle, HeaderLine line header ∧
      st.request.headers.length ≠ maxHeaders ∧ HeaderAdded st header middle ∧
      HeadersRead middle lines more cseqs' lengths' st' := by
  have hcount := h.count
  have honce := h.once
  have hresult := h.result
  have hcseqs := h.cseqValues
  have hlengths := h.lengthValues
  rw [List.length_cons] at hcount
  cases h.spelled with
  | @cons _ header _ more hline hmore =>
      -- the name of the first header decides which list of values it opens
      by_cases hcseq : netAsciiCaseEq header.name (ascii "CSeq") = true
      · rw [valuesOf_cons_of_pos hcseq] at hcseqs
        rw [valuesOf_cons_of_neg (not_length_of_cseq hcseq)] at hlengths
        cases hcseqs with
        | @cons _ value _ cseqs' hvalue hcseqs' =>
            refine ⟨header, more, cseqs', lengths, _, hline, by omega, .cseq value hcseq hvalue,
              hmore, ?_, hcseqs', hlengths, honce, ?_⟩
            · simp only [List.length_append, List.length_singleton]
              omega
            · rw [hresult, List.getLast?_cons]
              simp [List.append_assoc]
      · rw [Bool.not_eq_true] at hcseq
        rw [valuesOf_cons_of_neg hcseq] at hcseqs
        by_cases hlength : netAsciiCaseEq header.name (ascii "Content-Length") = true
        · rw [valuesOf_cons_of_pos hlength] at hlengths
          cases hlengths with
          | @cons _ value _ lengths' hvalue hlengths' =>
              rw [List.length_cons] at honce
              have hno : st.hasLength = false := by
                by_contra hhas
                rw [Bool.not_eq_false] at hhas
                simp [hhas] at honce
              have hnil : lengths' = [] := by
                rw [← List.length_eq_zero_iff]
                omega
              subst hnil
              refine ⟨header, more, cseqs, [], _, hline, by omega,
                .length value hlength hvalue hno, hmore, ?_, hcseqs, hlengths', ?_, ?_⟩
              · simp only [List.length_append, List.length_singleton]
                omega
              · simp
              · rw [hresult]
                simp [List.append_assoc]
        · rw [Bool.not_eq_true] at hlength
          rw [valuesOf_cons_of_neg hlength] at hlengths
          refine ⟨header, more, cseqs, lengths, _, hline, by omega, .other hcseq hlength,
            hmore, ?_, hcseqs, hlengths, honce, ?_⟩
          · simp only [List.length_append, List.length_singleton]
            omega
          · rw [hresult]
            simp [List.append_assoc]

end HeadersRead

/-- **The header lines,** read one by one. -/
theorem headers_iff (lines : List CString) {st : HeadState} (hfirst : st.firstLine = false)
    (hroom : st.request.headers.length ≤ maxHeaders) (st' : HeadState) :
    lines.foldlM parseLine st = some st' ↔
      (∀ line ∈ lines, line.length < 1024) ∧
        ∃ headers cseqs lengths, HeadersRead st lines headers cseqs lengths st' := by
  -- the induction is on the lines, and follows the loop over them
  induction lines generalizing st with
  | nil =>
      rw [List.foldlM_nil]
      constructor
      · intro h
        rw [← Option.some.inj h]
        exact ⟨fun line hline => absurd hline List.not_mem_nil, [], [], [], .none hroom⟩
      · rintro ⟨-, headers, cseqs, lengths, h⟩
        have hresult := h.result
        have hcseqs := h.cseqValues
        have hlengths := h.lengthValues
        cases h.spelled
        cases hcseqs
        cases hlengths
        rw [hresult]
        simp
  | cons line lines ih =>
      rw [List.foldlM_cons, Option.bind_eq_bind, Option.bind_eq_some_iff]
      constructor
      · -- the first line adds a header, and the others are read behind it
        rintro ⟨middle, hline, hmore⟩
        rw [parseLine] at hline
        split at hline
        · cases hline
        · rename_i hwidth
          rw [hfirst, if_neg Bool.false_ne_true] at hline
          obtain ⟨header, hspelled, hnotfull, hadded⟩ := (parseHeaderLine_iff _ _ _).mp hline
          obtain ⟨hline', hlength⟩ := hadded.keeps
          obtain ⟨hshort, headers, cseqs, lengths, hread⟩ :=
            (ih (hline'.trans hfirst) (by omega)).mp hmore
          obtain ⟨cseqs', lengths', hall⟩ := HeadersRead.cons hspelled hadded hread
          refine ⟨?_, header :: headers, cseqs', lengths', hall⟩
          rw [List.forall_mem_cons]
          exact ⟨by omega, hshort⟩
      · -- the headers in order make the loop pass line by line
        rintro ⟨hshort, headers, cseqs, lengths, hread⟩
        rw [List.forall_mem_cons] at hshort
        obtain ⟨header, more, cseqs', lengths', middle, hspelled, hnotfull, hadded, hmore⟩ :=
          hread.uncons
        obtain ⟨hline', hlength⟩ := hadded.keeps
        refine ⟨middle, ?_, (ih (hline'.trans hfirst) (by omega)).mpr
          ⟨hshort.2, more, cseqs', lengths', hmore⟩⟩
        rw [parseLine, if_neg (by omega), hfirst, if_neg Bool.false_ne_true]
        exact (parseHeaderLine_iff _ _ _).mpr ⟨header, hspelled, hnotfull, hadded⟩

/-! ## Requests -/

/-- The lines of a head: the three pieces of the first one, the headers of the others, and the
numbers of the `CSeq` and `Content-Length` headers. -/
structure HeadText (first : CString) (lines : List CString) (method uri version : CString)
    (headers : List RtspHeader) (cseqs lengths : List UInt32) : Prop where
  oneLine : ∀ line ∈ first :: lines, OneLine line ∧ 0 ∉ line ∧ line.length < 1024
  requestLine : RequestLine method uri version
  spelled : List.Forall₂ HeaderLine lines headers
  count : lines.length ≤ maxHeaders
  cseqValues : List.Forall₂ IsUint32 (valuesOf (ascii "CSeq") headers) cseqs
  lengthValues : List.Forall₂ IsUint32 (valuesOf (ascii "Content-Length") headers) lengths
  once : lengths.length ≤ 1

/-- A buffer starts with a request of `size` bytes, of which the words of the first line give the
method, the URI and the version in some way. -/
def RequestAs (reading : CString → CString → CString → List CString → Prop)
    (buffer : List UInt8) (request : RtspRequest) (size : ℕ) : Prop :=
  ∃ first lines method uri version headers cseqs lengths body rest,
    HeadText first lines method uri version headers cseqs lengths ∧
      reading method uri version (words isSpace first) ∧
      body.length = (lengths.getLast?.getD 0).toNat ∧
      buffer = headBytes (first :: lines) ++ (body ++ rest) ∧
      request = ⟨parseMethod method, uri, version, cseqs.getLast?.getD 0, headers, body⟩ ∧
      size = (headBytes (first :: lines)).length + body.length ∧ size ≤ rtspRxBufferSize

/-- The grammar: the first line is a method, a URI and a version. -/
def IsRequest : List UInt8 → RtspRequest → ℕ → Prop := RequestAs ThreeWords

/-- A buffer starts with what would be a request but for its first line, of which a word is so
long that its width cuts it. -/
def GluedRequest (buffer : List UInt8) : Prop :=
  ∃ request size, RequestAs GluedWords buffer request size

theorem RequestAs.mono {reading reading' : CString → CString → CString → List CString → Prop}
    (hmono : ∀ method uri version found, reading method uri version found →
      reading' method uri version found)
    {buffer : List UInt8} {request : RtspRequest} {size : ℕ}
    (h : RequestAs reading buffer request size) : RequestAs reading' buffer request size := by
  obtain ⟨first, lines, method, uri, version, headers, cseqs, lengths, body, rest, htext, hwords,
    hbytes⟩ := h
  exact ⟨first, lines, method, uri, version, headers, cseqs, lengths, body, rest, htext,
    hmono method uri version _ hwords, hbytes⟩

theorem HeaderLine.ne_nil {line : CString} {header : RtspHeader} (h : HeaderLine line header) :
    line ≠ [] := by
  obtain ⟨before, after, rfl, -⟩ := h.split
  exact List.append_ne_nil_of_right_ne_nil before (List.cons_ne_nil 58 after)

theorem headerLines_ne_nil {lines : List CString} {headers : List RtspHeader}
    (h : List.Forall₂ HeaderLine lines headers) : ∀ line ∈ lines, line ≠ [] := by
  induction h with
  | nil => exact fun line hline => absurd hline List.not_mem_nil
  | cons hline _ ih =>
      rw [List.forall_mem_cons]
      exact ⟨hline.ne_nil, ih⟩

theorem zero_not_mem_headBytes {lines : List CString} :
    0 ∉ headBytes lines ↔ ∀ line ∈ lines, 0 ∉ line := by
  induction lines with
  | nil => simp [crlf]
  | cons line lines ih =>
      rw [headBytes_cons, List.mem_append, List.mem_append, List.forall_mem_cons, ← ih]
      simp [crlf]

/-- The way in which the parser reads a first line. -/
def Scanned (method uri version : CString) (found : List CString) : Prop :=
  ThreeWords method uri version found ∨ GluedWords method uri version found

theorem Scanned.ne_nil {method uri version : CString} {found : List CString}
    (h : Scanned method uri version found) : found ≠ [] := by
  rcases h with rfl | h
  · exact List.cons_ne_nil _ _
  · cases h <;> exact List.cons_ne_nil _ _

/-- The variables of the loop behind a head. -/
def headRead (method uri version : CString) (headers : List RtspHeader)
    (cseqs lengths : List UInt32) : HeadState where
  request := ⟨parseMethod method, uri, version, cseqs.getLast?.getD 0, headers, []⟩
  contentLength := lengths.getLast?.getD 0
  firstLine := false
  hasLength := !lengths.isEmpty

/-- **The lines of a head,** as the parser reads them. -/
theorem parseHead_iff {first : List UInt8} {lines : List (List UInt8)}
    (hfirst : OneLine first ∧ first ≠ []) (hlines : ∀ line ∈ lines, OneLine line ∧ line ≠ [])
    (st : HeadState) :
    parseHead (headBytes (first :: lines)) = some st ↔
      ∃ method uri version headers cseqs lengths,
        HeadText first lines method uri version headers cseqs lengths ∧
          Scanned method uri version (words isSpace first) ∧
          st = headRead method uri version headers cseqs lengths := by
  have hstart : HeadState.start.firstLine = true := rfl
  rw [parseHead_headBytes hfirst hlines, List.foldlM_cons, Option.bind_eq_bind,
    Option.bind_eq_some_iff, zero_not_mem_headBytes]
  constructor
  · -- the first line, then the headers
    rintro ⟨hzero, ⟨afterFirst, hline, hfold⟩, -⟩
    rw [parseLine] at hline
    split at hline
    · cases hline
    · rename_i hwidth
      rw [parseFirstLine_iff] at hline
      obtain ⟨method, uri, version, hline, hwords, rfl⟩ := hline
      obtain ⟨hshort, headers, cseqs, lengths, hread⟩ :=
        (headers_iff lines rfl (Nat.zero_le _) st).mp hfold
      have hcount : 0 + lines.length ≤ maxHeaders := hread.count
      refine ⟨method, uri, version, headers, cseqs, lengths,
        ⟨?_, hline, hread.spelled, by omega, hread.cseqValues, hread.lengthValues, hread.once⟩,
        hwords, hread.result⟩
      rw [List.forall_mem_cons] at hzero ⊢
      exact ⟨⟨hfirst.1, hzero.1, by omega⟩,
        fun line hmem => ⟨(hlines line hmem).1, hzero.2 line hmem, hshort line hmem⟩⟩
  · -- what the first line leaves is where the headers start
    rintro ⟨method, uri, version, headers, cseqs, lengths, htext, hwords, rfl⟩
    have hwidth := htext.oneLine first List.mem_cons_self
    have hcount := htext.count
    refine ⟨fun line hline => (htext.oneLine line hline).2.1, ⟨{ HeadState.start with
      request := { RtspRequest.zero with
        uri := uri, version := version, method := parseMethod method }
      firstLine := false }, ?_, ?_⟩, rfl⟩
    · rw [parseLine, if_neg (by omega), if_pos hstart, parseFirstLine_iff]
      exact ⟨method, uri, version, htext.requestLine, hwords, rfl⟩
    · apply (headers_iff lines rfl (Nat.zero_le _) _).mpr
      refine ⟨fun line hline => (htext.oneLine line (List.mem_cons_of_mem _ hline)).2.2,
        headers, cseqs, lengths, htext.spelled, ?_, htext.cseqValues, htext.lengthValues,
        htext.once, rfl⟩
      change 0 + lines.length ≤ maxHeaders
      omega

/-- What the parser accepts is a request in its own reading of the first line. -/
theorem RequestAs.of_accept {buffer : List UInt8} {request : RtspRequest} {size headEnd : ℕ}
    (hend : headersEnd buffer = some headEnd) (hsize : headEnd ≤ rtspRxBufferSize)
    (h : parseRequest buffer = .accept request size) : RequestAs Scanned buffer request size := by
  obtain ⟨headEnd', st, hend', hhead, hfits, hpresent, rfl, rfl⟩ := parseRequest_eq_accept.mp h
  rw [hend, Option.some.injEq] at hend'
  subst hend'
  -- the head as lines, of which the first is not empty
  obtain ⟨first, lines, htake, hfirst, hlines⟩ := exists_headBytes hend
  have hbounds := headersEnd_bounds hend
  have hlength : (headBytes (first :: lines)).length = headEnd := by
    rw [← htake, List.length_take]
    omega
  have hne : first ≠ [] := by
    rintro rfl
    rw [htake, headBytes_cons, List.nil_append, parseHead_empty] at hhead
    cases hhead
  rw [htake] at hhead
  obtain ⟨method, uri, version, headers, cseqs, lengths, htext, hwords, hst⟩ :=
    (parseHead_iff ⟨hfirst, hne⟩ hlines st).mp hhead
  -- the body is what the head declares, and the rest follows it
  have hbody : ((buffer.drop headEnd).take st.contentLength.toNat).length =
      st.contentLength.toNat := by
    rw [List.length_take, List.length_drop]
    omega
  refine ⟨first, lines, method, uri, version, headers, cseqs, lengths,
    (buffer.drop headEnd).take st.contentLength.toNat,
    (buffer.drop headEnd).drop st.contentLength.toNat, htext, hwords, ?_, ?_, ?_, ?_, by omega⟩
  · rw [hbody, hst]
    rfl
  · rw [← htake, List.take_append_drop, List.take_append_drop]
  · rw [hst]
    rfl
  · rw [hlength, hbody]

/-- A request in the parser's reading of its first line is accepted. -/
theorem RequestAs.accept {buffer : List UInt8} {request : RtspRequest} {size : ℕ}
    (h : RequestAs Scanned buffer request size) : parseRequest buffer = .accept request size := by
  obtain ⟨first, lines, method, uri, version, headers, cseqs, lengths, body, rest, htext, hwords,
    hbody, rfl, rfl, rfl, hsize⟩ := h
  have hfirst : OneLine first ∧ first ≠ [] := by
    refine ⟨(htext.oneLine first List.mem_cons_self).1, ?_⟩
    rintro rfl
    exact hwords.ne_nil words_nil
  have hlines : ∀ line ∈ lines, OneLine line ∧ line ≠ [] := fun line hline =>
    ⟨(htext.oneLine line (List.mem_cons_of_mem _ hline)).1,
      headerLines_ne_nil htext.spelled line hline⟩
  apply parseRequest_eq_accept.mpr
  refine ⟨(headBytes (first :: lines)).length,
    headRead method uri version headers cseqs lengths,
    headersEnd_headBytes hfirst.1 hlines _, ?_, ?_, ?_, ?_, ?_⟩
  · rw [List.take_left]
    exact (parseHead_iff hfirst hlines _).mpr
      ⟨method, uri, version, headers, cseqs, lengths, htext, hwords, rfl⟩
  · rw [headRead, ← hbody]
    omega
  · rw [headRead, ← hbody, List.length_append, List.length_append]
    omega
  · rw [List.drop_left, headRead, ← hbody, List.take_left]
  · rw [headRead, ← hbody]

/-- The first line of a request is the first line of the buffer. -/
theorem RequestAs.nextLine_eq {reading : CString → CString → CString → List CString → Prop}
    {buffer : List UInt8} {request : RtspRequest} {size : ℕ}
    (h : RequestAs reading buffer request size) :
    ∃ first rest method uri version, nextLine buffer = some (first, rest) ∧
      reading method uri version (words isSpace first) := by
  obtain ⟨first, lines, method, uri, version, headers, cseqs, lengths, body, rest, htext, hwords,
    -, hbuffer, -⟩ := h
  refine ⟨first, headBytes lines ++ (body ++ rest), method, uri, version, ?_, hwords⟩
  rw [hbuffer, headBytes_cons, List.append_assoc, List.append_assoc]
  exact nextLine_line (htext.oneLine first List.mem_cons_self).1 _

theorem GluedWords.length_lt {method uri version : CString} {found : List CString}
    (h : GluedWords method uri version found) : found.length < 3 := by
  cases h <;> simp

/-- A request is not glued: its first line has three words. -/
theorem IsRequest.not_glued {buffer : List UInt8} {request : RtspRequest} {size : ℕ}
    (h : IsRequest buffer request size) : ¬GluedRequest buffer := by
  rintro ⟨request', size', hglued⟩
  obtain ⟨first, rest, method, uri, version, hfirst, hthree⟩ := RequestAs.nextLine_eq h
  obtain ⟨first', rest', method', uri', version', hfirst', hwords⟩ := hglued.nextLine_eq
  rw [hfirst, Option.some.injEq, Prod.mk.injEq] at hfirst'
  rw [← hfirst'.1] at hwords
  have hlen := hwords.length_lt
  rw [hthree] at hlen
  simp at hlen

/-- **The request parser accepts exactly its grammar,** for every buffer with a head within the
size of the receive buffer, if and only if the buffer is not a request but for a first line
of which a word is cut at its width. -/
theorem request_grammar (buffer : List UInt8) (headEnd : ℕ)
    (hend : headersEnd buffer = some headEnd) (hsize : headEnd ≤ rtspRxBufferSize) :
    (∀ request size, parseRequest buffer = .accept request size ↔ IsRequest buffer request size) ↔
      ¬GluedRequest buffer := by
  constructor
  · rintro hgrammar ⟨request, size, hglued⟩
    have haccept : parseRequest buffer = .accept request size :=
      (hglued.mono fun _ _ _ _ => Or.inr).accept
    exact ((hgrammar request size).mp haccept).not_glued ⟨request, size, hglued⟩
  · intro hno request size
    constructor
    · intro haccept
      obtain ⟨first, lines, method, uri, version, headers, cseqs, lengths, body, rest, htext,
        hwords, hbytes⟩ := RequestAs.of_accept hend hsize haccept
      rcases hwords with hthree | hglued
      · exact ⟨first, lines, method, uri, version, headers, cseqs, lengths, body, rest, htext,
          hthree, hbytes⟩
      · exact absurd ⟨request, size, first, lines, method, uri, version, headers, cseqs, lengths,
          body, rest, htext, hglued, hbytes⟩ hno
    · intro hrequest
      exact (RequestAs.mono (fun _ _ _ _ => Or.inl) hrequest).accept

/-- A buffer whose first line has three words is no glued request. -/
theorem not_glued_of_words {buffer first rest : List UInt8}
    (hfirst : nextLine buffer = some (first, rest)) (hwords : 3 ≤ (words isSpace first).length) :
    ¬GluedRequest buffer := by
  rintro ⟨request, size, hglued⟩
  obtain ⟨first', rest', method, uri, version, hfirst', hshort⟩ := hglued.nextLine_eq
  rw [hfirst, Option.some.injEq, Prod.mk.injEq] at hfirst'
  rw [← hfirst'.1] at hshort
  have := hshort.length_lt
  omega

/-- A request with one header and the start of the next one. -/
def optionsBytes : List UInt8 := ascii "OPTIONS * RTSP/1.0\r\nCSeq: 7\r\n\r\nOPT"

theorem optionsBytes_first :
    nextLine optionsBytes = some (ascii "OPTIONS * RTSP/1.0", ascii "CSeq: 7\r\n\r\nOPT") := by
  decide +kernel

/-- The request of these bytes, without what comes behind it. -/
theorem request_grammar_options :
    IsRequest optionsBytes
      ⟨.options, ascii "*", ascii "RTSP/1.0", 7, [⟨ascii "CSeq", ascii "7"⟩], []⟩ 31 :=
  ((request_grammar optionsBytes 31 (by decide +kernel) (by decide)).mpr
    (not_glued_of_words optionsBytes_first
      (by decide +kernel)) _ _).mp (by decide +kernel)

/-- A first line of two words, of which the first is 64 bytes long. -/
def gluedBytes : List UInt8 := List.replicate 64 65 ++ ascii " RTSP/1.0\r\n\r\n"

/-- Two words are accepted as three. -/
theorem request_of_two_words :
    ¬∀ request size, parseRequest gluedBytes = .accept request size ↔
      IsRequest gluedBytes request size := by
  intro hgrammar
  have haccept : parseRequest gluedBytes =
      .accept ⟨.unknown, [65], ascii "RTSP/1.0", 0, [], []⟩ 77 := by decide +kernel
  obtain ⟨first, rest, method, uri, version, hfirst, hthree⟩ :=
    RequestAs.nextLine_eq ((hgrammar _ _).mp haccept)
  have hline : nextLine gluedBytes =
      some (List.replicate 64 65 ++ ascii " RTSP/1.0", ascii "\r\n") := by decide +kernel
  rw [hline, Option.some.injEq, Prod.mk.injEq] at hfirst
  have hlen : (words isSpace first).length = 2 := by
    rw [← hfirst.1]
    decide +kernel
  rw [hthree] at hlen
  simp at hlen

end PortableAirplay.Protocol
