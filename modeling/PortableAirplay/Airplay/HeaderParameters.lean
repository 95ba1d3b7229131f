import PortableAirplay.Airplay.AirplayRtsp
import PortableAirplay.Library.TextWords
import PortableAirplay.Protocol.Numerals

/-!
# Parameters of headers

`parameter_u32` of `airplay/airplay_rtsp.c` looks for a key with a substring search, skips what
it finds inside other words, and reads the digits behind `=`. A header text is also a list of
pieces between `;`, `,` and spaces, and the parameter is the first piece `key=...`
(`NamedParameter`). `parameter_by_whole_name` says that these are the same, and that the search
ends.

The search at a place is the search in the pieces from there on, with or without the piece that
the place is in (`parameterSearch_eq`).
-/

set_option autoImplicit false

namespace PortableAirplay.Airplay

open PortableAirplay.Library
open PortableAirplay.Platform
open PortableAirplay.Protocol
open PortableAirplay.Util

/-! ## The parameter of a text -/

/-- The pieces of a header text. -/
def parameterPieces (text : CString) : List CString := text.splitOnP isSeparator

/-- A piece of the form `key=...`. -/
def IsNamed (key piece : CString) : Prop := key ++ [61] <+: piece

/-- What the first piece of the form `key=...` says. -/
inductive NamedParameter (key text : CString) : Parameter → Prop where
  | absent : (∀ piece ∈ parameterPieces text, ¬IsNamed key piece) →
      NamedParameter key text .absent
  | found (before : List CString) (digits : CString) (after : List CString) (value : UInt32) :
      parameterPieces text = before ++ (key ++ 61 :: digits) :: after →
      (∀ piece ∈ before, ¬IsNamed key piece) → IsUint32 digits value →
      NamedParameter key text (.found value)
  | invalid (before : List CString) (rest : CString) (after : List CString) :
      parameterPieces text = before ++ (key ++ 61 :: rest) :: after →
      (∀ piece ∈ before, ¬IsNamed key piece) → (∀ value, ¬IsUint32 rest value) →
      NamedParameter key text .invalid

/-- The value behind `key=`, in a piece. -/
def pieceValue (rest : CString) : Parameter :=
  match parseUint32 rest with
  | none => .invalid
  | some value => .found value

/-- The first piece of the form `key=...`. -/
def firstNamed (key : CString) : List CString → Parameter
  | [] => .absent
  | piece :: more =>
      if startsWith piece (key ++ [61]) then pieceValue (piece.drop (key.length + 1))
      else firstNamed key more

section Pieces

variable {key : CString}

theorem isNamed_iff {piece : CString} :
    startsWith piece (key ++ [61]) = true ↔ IsNamed key piece := by
  rw [startsWith, List.isPrefixOf_iff_prefix, IsNamed]

theorem firstNamed_cons_of_neg {piece : CString} (h : ¬IsNamed key piece)
    (more : List CString) : firstNamed key (piece :: more) = firstNamed key more := by
  rw [firstNamed, if_neg (fun hstart => h (isNamed_iff.mp hstart))]

theorem firstNamed_cons_of_pos (rest : CString) (more : List CString) :
    firstNamed key ((key ++ 61 :: rest) :: more) = pieceValue rest := by
  have hnamed : IsNamed key (key ++ 61 :: rest) := by
    rw [IsNamed, List.prefix_append_right_inj]
    exact List.prefix_append [61] rest
  have hdrop : (key ++ 61 :: rest).drop (key.length + 1) = rest := by
    rw [← List.drop_drop, List.drop_left]
    rfl
  rw [firstNamed, if_pos (isNamed_iff.mpr hnamed), hdrop]

theorem not_isNamed_nil : ¬IsNamed key [] := by
  intro h
  have hlen := h.length_le
  simp at hlen

/-- A piece of the form `key=...`, taken apart. -/
theorem IsNamed.exists_rest {piece : CString} (h : IsNamed key piece) :
    ∃ rest, piece = key ++ 61 :: rest := by
  obtain ⟨rest, hrest⟩ := h
  refine ⟨rest, ?_⟩
  rw [← hrest, List.append_assoc]
  rfl

/-- The pieces before the first one of the form `key=...`. -/
theorem firstNamed_skip {before : List CString} (hbefore : ∀ piece ∈ before, ¬IsNamed key piece)
    (more : List CString) : firstNamed key (before ++ more) = firstNamed key more := by
  induction before with
  | nil => rfl
  | cons piece before ih =>
      rw [List.forall_mem_cons] at hbefore
      rw [List.cons_append, firstNamed_cons_of_neg hbefore.1, ih hbefore.2]

/-- Pieces none of which is named, or the first one that is. -/
theorem exists_first_named (key : CString) (pieces : List CString) :
    (∀ piece ∈ pieces, ¬IsNamed key piece) ∨
      ∃ before rest after, pieces = before ++ (key ++ 61 :: rest) :: after ∧
        ∀ piece ∈ before, ¬IsNamed key piece := by
  induction pieces with
  | nil => exact Or.inl fun piece hpiece => absurd hpiece List.not_mem_nil
  | cons piece pieces ih =>
      by_cases hnamed : IsNamed key piece
      · obtain ⟨rest, rfl⟩ := hnamed.exists_rest
        exact Or.inr ⟨[], rest, pieces, rfl, fun piece hpiece => absurd hpiece List.not_mem_nil⟩
      · rcases ih with hnone | ⟨before, rest, after, rfl, hbefore⟩
        · left
          rw [List.forall_mem_cons]
          exact ⟨hnamed, hnone⟩
        · right
          refine ⟨piece :: before, rest, after, rfl, ?_⟩
          rw [List.forall_mem_cons]
          exact ⟨hnamed, hbefore⟩

/-- The first named piece decides what the parameter is. -/
theorem namedParameter_iff (key text : CString) (r : Parameter) :
    NamedParameter key text r ↔ firstNamed key (parameterPieces text) = r := by
  constructor
  · intro h
    cases h with
    | absent hnone =>
        have hskip := firstNamed_skip hnone []
        rw [List.append_nil] at hskip
        exact hskip
    | found before digits after value hpieces hbefore hdigits =>
        rw [hpieces, firstNamed_skip hbefore, firstNamed_cons_of_pos, pieceValue,
          (parseUint32_iff digits value).mpr hdigits]
    | invalid before rest after hpieces hbefore hrest =>
        rw [hpieces, firstNamed_skip hbefore, firstNamed_cons_of_pos, pieceValue]
        cases hparse : parseUint32 rest with
        | none => rfl
        | some value => exact absurd ((parseUint32_iff rest value).mp hparse) (hrest value)
  · rintro rfl
    -- either no piece has the name, or the first that has decides
    rcases exists_first_named key (parameterPieces text) with
      hnone | ⟨before, rest, after, hpieces, hbefore⟩
    · have hskip := firstNamed_skip hnone []
      rw [List.append_nil] at hskip
      rw [hskip]
      exact .absent hnone
    · rw [hpieces, firstNamed_skip hbefore, firstNamed_cons_of_pos, pieceValue]
      cases hparse : parseUint32 rest with
      | none =>
          refine .invalid before rest after hpieces hbefore ?_
          intro value hvalue
          rw [(parseUint32_iff rest value).mpr hvalue] at hparse
          cases hparse
      | some value =>
          exact .found before rest after value hpieces hbefore ((parseUint32_iff rest value).mp hparse)

end Pieces

/-! ## The search -/

theorem isDigit_not_separator {c : UInt8} (hc : isDigit c = true) : isSeparator c = false := by
  rw [isDigit, Bool.and_eq_true, decide_eq_true_eq, decide_eq_true_eq, UInt8.le_iff_toNat_le,
    UInt8.le_iff_toNat_le] at hc
  have hlower : 48 ≤ c.toNat := hc.1
  have hupper : c.toNat ≤ 57 := hc.2
  have hne : ∀ d : UInt8, d.toNat < 48 ∨ 57 < d.toNat → c ≠ d := by
    rintro d hd rfl
    omega
  simp only [isSeparator, Bool.or_eq_false_iff, beq_eq_false_iff_ne]
  exact ⟨⟨hne 59 (by decide), hne 44 (by decide)⟩, hne 32 (by decide)⟩

/-- The digits behind `=`, up to the next separator. -/
theorem parameterValue_eq (text : CString) :
    parameterValue text = pieceValue (text.takeWhile fun c => !isSeparator c) := by
  have hdigits := List.takeWhile_append_dropWhile (p := isDigit) (l := text)
  have hall : ∀ c ∈ text.takeWhile isDigit, (!isSeparator c) = true := by
    intro c hc
    rw [isDigit_not_separator (List.mem_takeWhile_imp hc)]
    rfl
  -- the piece is its digits and whatever else is before a separator
  have hpiece : (text.takeWhile fun c => !isSeparator c) =
      text.takeWhile isDigit ++
        (text.dropWhile isDigit).takeWhile fun c => !isSeparator c := by
    conv_lhs => rw [← hdigits]
    exact List.takeWhile_append_of_pos hall
  have hdrop : text.drop (text.takeWhile isDigit).length = text.dropWhile isDigit := by
    have hleft : (text.takeWhile isDigit ++ text.dropWhile isDigit).drop
        (text.takeWhile isDigit).length = text.dropWhile isDigit := List.drop_left
    rwa [hdigits] at hleft
  rw [hpiece, parameterValue, hdrop, pieceValue]
  have hend := List.head?_dropWhile_not isDigit text
  cases hrest : text.dropWhile isDigit with
  | nil =>
      rw [List.takeWhile_nil, List.append_nil, parseUint32]
      dsimp only
      split
      · rfl
      · rfl
  | cons c rest =>
      rw [hrest] at hend
      by_cases hc : isSeparator c = true
      · rw [List.takeWhile_cons_of_neg (by simp [hc]), List.append_nil, parseUint32]
        simp only [hc, if_true]
        split
        · rfl
        · rfl
      · -- something else stands directly behind the digits
        have hnone : parseUint32 (text.takeWhile isDigit ++
            (c :: rest).takeWhile fun d => !isSeparator d) = none := by
          rw [Option.eq_none_iff_forall_ne_some]
          intro value hvalue
          have hdigit := ((parseUint32_iff _ _).mp hvalue).digits c
          rw [List.takeWhile_cons_of_pos (by simpa using hc)] at hdigit
          have hmem := hdigit (List.mem_append_right _ List.mem_cons_self)
          simp only [List.head?_cons] at hend
          rw [hmem] at hend
          cases hend
        rw [hnone]
        simp only [hc, Bool.false_eq_true, if_false]
        split
        · rfl
        · split
          · rfl
          · rfl

/-- A word in front of a text stands in front of the first piece. -/
theorem parameterPieces_append {word : CString} (hword : ∀ c ∈ word, isSeparator c = false)
    (text : CString) :
    parameterPieces (word ++ text) =
      (word ++ text.takeWhile fun c => !isSeparator c) :: (parameterPieces text).tail := by
  obtain ⟨more, hmore⟩ := exists_splitOnP_eq_cons isSeparator text
  rw [parameterPieces, parameterPieces, splitOnP_append hword, hmore]
  rfl

/-- A separator ends an empty piece. -/
theorem parameterPieces_separator {c : UInt8} (hc : isSeparator c = true) (text : CString) :
    parameterPieces (c :: text) = [] :: parameterPieces text := by
  rw [parameterPieces, List.splitOnP_cons_eq_if_modifyHead, if_pos hc]
  rfl

/-- The value behind the first `key=` of a text whose first piece is named. -/
theorem firstNamed_value (key : CString) (hkey : ∀ c ∈ key, isSeparator c = false)
    (value : CString) :
    firstNamed key (parameterPieces (key ++ 61 :: value)) = parameterValue value := by
  have hfront : ∀ c ∈ key ++ [61], isSeparator c = false := by
    intro c hc
    rcases List.mem_append.mp hc with hc | hc
    · exact hkey c hc
    · rw [List.mem_singleton.mp hc]
      rfl
  have hpieces := parameterPieces_append hfront value
  rw [List.append_assoc, List.append_assoc, List.singleton_append] at hpieces
  rw [hpieces, List.singleton_append, firstNamed_cons_of_pos, parameterValue_eq]

/-- A key without `=` directly behind it does not name its piece. -/
theorem firstNamed_keyAlone {key after : CString} (hkey : ∀ c ∈ key, isSeparator c = false)
    (hequals : ∀ value, after ≠ 61 :: value) :
    firstNamed key (parameterPieces (key ++ after)) =
      firstNamed key (parameterPieces after).tail := by
  have hno : ¬IsNamed key (key ++ after.takeWhile fun c => !isSeparator c) := by
    rw [IsNamed, List.prefix_append_right_inj]
    rintro ⟨value, hvalue⟩
    have hbegin := List.takeWhile_prefix (fun c => !isSeparator c) (l := after)
    rw [← hvalue] at hbegin
    obtain ⟨behind, hbehind⟩ := hbegin
    exact hequals (value ++ behind) hbehind.symm
  rw [parameterPieces_append hkey, firstNamed_cons_of_neg hno]

/-- A text that the key does not start: the search goes on behind its first byte. -/
theorem firstNamed_step {key : CString} {c : UInt8} {rest : CString} {first : Bool}
    (hstart : ¬(startsWith (c :: rest) key && first) = true) :
    (if isSeparator c then firstNamed key (parameterPieces rest)
      else firstNamed key (parameterPieces rest).tail) =
      if first then firstNamed key (parameterPieces (c :: rest))
      else firstNamed key (parameterPieces (c :: rest)).tail := by
  by_cases hc : isSeparator c = true
  · rw [if_pos hc, parameterPieces_separator hc, firstNamed_cons_of_neg not_isNamed_nil,
      List.tail_cons, ite_self]
  · have hword : ∀ d ∈ [c], isSeparator d = false := by
      intro d hd
      rw [List.mem_singleton.mp hd]
      exact Bool.eq_false_iff.mpr hc
    have hpieces := parameterPieces_append hword rest
    rw [List.singleton_append, List.singleton_append] at hpieces
    rw [if_neg hc, hpieces, List.tail_cons]
    cases first with
    | false => rfl
    | true =>
        -- the key does not start here, so this piece is not named
        rw [if_pos rfl, firstNamed_cons_of_neg]
        intro hnamed
        apply hstart
        rw [Bool.and_true, startsWith, List.isPrefixOf_iff_prefix]
        have hpiece : (c :: rest.takeWhile fun d => !isSeparator d) <+: c :: rest :=
          List.cons_prefix_cons.mpr ⟨rfl, List.takeWhile_prefix _⟩
        exact ((List.prefix_append key [61]).trans hnamed).trans hpiece

/-- **The search from a place.** Behind a separator, and at the start, it is the search in the
pieces from there on; inside a piece the rest of this piece does not count. -/
theorem parameterSearch_eq {key : CString} (hne : key ≠ [])
    (hkey : ∀ c ∈ key, isSeparator c = false) {fuel : ℕ} {previous : Option UInt8}
    {text : CString} (hfuel : text.length < fuel) :
    parameterSearch key fuel previous text =
      if previous.all isSeparator then firstNamed key (parameterPieces text)
      else firstNamed key (parameterPieces text).tail := by
  induction fuel generalizing previous text with
  | zero => omega
  | succ fuel ih =>
      cases text with
      | nil =>
          have hempty : firstNamed key [[]] = .absent := by
            rw [firstNamed_cons_of_neg not_isNamed_nil]
            rfl
          rw [parameterSearch]
          split
          · exact hempty.symm
          · rfl
      | cons c rest =>
          rw [List.length_cons] at hfuel
          rw [parameterSearch]
          dsimp only
          -- the key may begin here only behind a separator
          by_cases hkeyHere : (startsWith (c :: rest) key && previous.all isSeparator) = true
          · rw [if_pos hkeyHere]
            rw [Bool.and_eq_true] at hkeyHere
            obtain ⟨hstart, hprevious⟩ := hkeyHere
            obtain ⟨after, hafter⟩ := List.isPrefixOf_iff_prefix.mp hstart
            rw [if_pos hprevious, ← hafter, List.drop_left]
            by_cases hequals : ∃ value, after = 61 :: value
            · obtain ⟨value, rfl⟩ := hequals
              exact (firstNamed_value key hkey value).symm
            · -- the key stands alone, or at the start of a longer word
              have hlength : after.length < fuel := by
                have := congrArg List.length hafter
                have := List.length_pos_of_ne_nil hne
                simp only [List.length_append, List.length_cons] at *
                omega
              have hlast : ¬(key.getLast?.all isSeparator) = true := by
                rw [List.getLast?_eq_some_getLast hne, Option.all_some,
                  hkey _ (List.getLast_mem hne)]
                exact Bool.false_ne_true
              have hsearch : parameterSearch key fuel key.getLast? after = _ := ih hlength
              rw [if_neg hlast] at hsearch
              rw [firstNamed_keyAlone hkey fun value h => hequals ⟨value, h⟩, ← hsearch]
              split
              · rename_i value
                exact absurd ⟨value, rfl⟩ hequals
              · rfl
          · rw [if_neg hkeyHere, ih (by omega), Option.all_some]
            exact firstNamed_step hkeyHere

/-! ## The parameters of the handlers -/

/-- The keys that the handlers look for. -/
def parameterKeys : List CString := [ascii "timing_port", ascii "rtptime"]

theorem parameterKeys_plain : ∀ key ∈ parameterKeys,
    key ≠ [] ∧ ∀ c ∈ key, isSeparator c = false := by decide +kernel

/-- **Parameters are found by whole name,** and the search ends: any bound on its steps above
the length of the text gives the same. -/
theorem parameter_by_whole_name (text key : CString) (hkey : key ∈ parameterKeys) :
    (∀ r, parameterU32 (some text) key = r ↔ NamedParameter key text r) ∧
      ∀ fuel, text.length < fuel →
        parameterSearch key fuel none text = parameterU32 (some text) key := by
  obtain ⟨hne, hplain⟩ := parameterKeys_plain key hkey
  have hsearch : ∀ fuel, text.length < fuel →
      parameterSearch key fuel none text = firstNamed key (parameterPieces text) := by
    intro fuel hfuel
    rw [parameterSearch_eq hne hplain hfuel]
    rfl
  constructor
  · intro r
    rw [parameterU32, hsearch _ (Nat.lt_succ_self _), namedParameter_iff]
  · intro fuel hfuel
    rw [parameterU32, hsearch fuel hfuel, hsearch _ (Nat.lt_succ_self _)]

/-- The time behind two keys that are no parameters. -/
theorem parameter_by_whole_name_rtptime :
    parameterU32 (some (ascii "url=xrtptime=1;rtptime;seq=7,rtptime=42")) (ascii "rtptime") =
      .found 42 := by
  apply ((parameter_by_whole_name _ _ (by decide)).1 _).mpr
  exact .found [ascii "url=xrtptime=1", ascii "rtptime", ascii "seq=7"] (ascii "42") [] 42
    (by decide +kernel) (by unfold IsNamed; decide +kernel)
    ⟨by decide +kernel, by decide +kernel, by decide +kernel⟩

end PortableAirplay.Airplay
