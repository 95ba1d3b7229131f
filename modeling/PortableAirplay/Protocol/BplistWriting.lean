import Mathlib.Data.List.Basic
import Mathlib.Data.List.Induction
import PortableAirplay.Protocol.BplistReading

/-!
# Reading back a property list that was written

The writer and the reader of `protocol/bplist.c` together. The calls of the add
functions build values (`builtValues`); a list that `bplist_finish` returns is accepted
by `bplist_open`, and the reader finds at its root the value that the calls built there
(`plist_round_trip`). A call that cannot be honoured leaves no list.
-/

set_option autoImplicit false

namespace PortableAirplay.Protocol

open PortableAirplay.Library
open PortableAirplay.Platform

/-! ## Values -/

/-- What a property list stands for. -/
inductive PlistValue where
  | string (text : CString)
  | data (bytes : List UInt8)
  | uint (value : UInt64)
  | array (items : List PlistValue)
  | dict (entries : List (PlistValue × PlistValue))

/-- The value is the string `key`. -/
def PlistValue.isString (key : CString) : PlistValue → Bool
  | .string text => text == key
  | _ => false

/-- The value that is paired with the first key that matches. -/
def dictValue (entries : List (PlistValue × PlistValue)) (key : CString) : Option PlistValue :=
  (entries.find? fun entry => entry.1.isString key).map Prod.snd

/-- A call of an add function. A dictionary is given by its keys and values in turn. -/
inductive PlistCall where
  | string (text : CString)
  | data (bytes : List UInt8)
  | uint (value : UInt64)
  | array (refs : List ℕ)
  | dict (pairs : List (ℕ × ℕ))
  deriving DecidableEq

/-- The call with its result, the reference of the new object. -/
def BplistWriter.add (w : BplistWriter) : PlistCall → BplistWriter × ℕ
  | .string text => bplistAddString w text
  | .data bytes => bplistAddData w bytes
  | .uint value => bplistAddUint w value
  | .array refs => bplistAddArray w refs
  | .dict pairs => bplistAddDict w pairs

/-- `bplist_writer_init`, then the calls. -/
def plistWriter (capacity : ℕ) (calls : List PlistCall) : BplistWriter :=
  calls.foldl (fun w call => (w.add call).1) (bplistWriterInit capacity)

/-- The references that a call hands over. -/
def PlistCall.refs : PlistCall → List ℕ
  | .array refs => refs
  | .dict pairs => pairs.map Prod.fst ++ pairs.map Prod.snd
  | _ => []

/-- The value that a call builds from those built before it. -/
def PlistCall.value (built : List PlistValue) : PlistCall → Option PlistValue
  | .string text => some (.string text)
  | .data bytes => some (.data bytes)
  | .uint value => some (.uint value)
  | .array refs => (refs.mapM (built[·]?)).map .array
  | .dict pairs =>
      match (pairs.map Prod.fst).mapM (built[·]?), (pairs.map Prod.snd).mapM (built[·]?) with
      | some keys, some values => some (.dict (keys.zip values))
      | _, _ => none

/-- The values that the calls build, in the order of their references. -/
def builtValues (calls : List PlistCall) : Option (List PlistValue) :=
  calls.foldlM (fun built call => (call.value built).map (built ++ [·])) []

/-- The reader finds the value `v` at a reference. -/
inductive Bplist.Holds (p : Bplist) : ℕ → PlistValue → Prop where
  | string {ref : ℕ} {text : CString} (hbytes : bplistBytes p ref = some text) :
      p.Holds ref (.string text)
  | data {ref : ℕ} {bytes : List UInt8} (hbytes : bplistBytes p ref = some bytes) :
      p.Holds ref (.data bytes)
  | uint {ref : ℕ} {value : UInt64} (hvalue : bplistUint p ref = some value) :
      p.Holds ref (.uint value)
  | array {ref : ℕ} {items : List PlistValue} (hcount : bplistCount p ref = items.length)
      (hitems : ∀ i item, items[i]? = some item → p.Holds (bplistAt p ref i) item) :
      p.Holds ref (.array items)
  | dict {ref : ℕ} {entries : List (PlistValue × PlistValue)}
      (hcount : bplistCount p ref = entries.length)
      (hvalues : ∀ key value, dictValue entries key = some value →
        p.Holds (bplistGet p ref key) value)
      (hmissing : ∀ key, dictValue entries key = none → bplistGet p ref key = bplistNone) :
      p.Holds ref (.dict entries)

/-! ## The bytes of a call -/

/-- The type of the object that a call adds. -/
def PlistCall.type : PlistCall → ℕ
  | .string _ => 5
  | .data _ => 4
  | .uint _ => 1
  | .array _ => 10
  | .dict _ => 13

/-- The length that `start` writes. -/
def PlistCall.length : PlistCall → ℕ
  | .string text => text.length
  | .data bytes => bytes.length
  | .uint _ => 3
  | .array refs => refs.length
  | .dict pairs => pairs.length

/-- The bytes behind the marker and the length. -/
def PlistCall.payload : PlistCall → List UInt8
  | .string text => text
  | .data bytes => bytes
  | .uint value => beBytes 8 value.toNat
  | .array refs => refs.map UInt8.ofNat
  | .dict pairs => (pairs.map Prod.fst ++ pairs.map Prod.snd).map UInt8.ofNat

/-- The marker, with the length behind it where the marker has no room for it. -/
def plistHeader (type n : ℕ) : List UInt8 :=
  beBytes 1 (type * 16 + if n < 15 then n else 15) ++
    if n ≥ 15 then beBytes 1 0x13 ++ beBytes 8 n else []

/-- The bytes of an object. -/
def PlistCall.encoding (call : PlistCall) : List UInt8 :=
  plistHeader call.type call.length ++ call.payload

/-- The bytes were added, and nothing has failed. -/
structure Appends (w v : BplistWriter) (bytes : List UInt8) : Prop where
  ok : w.failed = false
  room : bytes.length ≤ w.capacity - w.data.length
  result : v = { w with data := w.data ++ bytes }

theorem Appends.trans {w v u : BplistWriter} {xs ys : List UInt8} (hxs : Appends w v xs)
    (hys : Appends v u ys) : Appends w u (xs ++ ys) := by
  obtain ⟨hok, hroom, rfl⟩ := hxs
  obtain ⟨-, hmore, rfl⟩ := hys
  dsimp only at hmore
  rw [List.length_append] at hmore
  refine ⟨hok, ?_, ?_⟩
  · rw [List.length_append]
    omega
  · rw [← List.append_assoc]

theorem appends_nil {w : BplistWriter} (h : w.failed = false) : Appends w w [] :=
  ⟨h, Nat.zero_le _, by rw [List.append_nil]⟩

theorem put_appends {w : BplistWriter} {bytes : List UInt8} (h : (w.put bytes).failed = false) :
    Appends w (w.put bytes) bytes := by
  obtain ⟨hok, hroom, hresult⟩ := put_length h
  exact ⟨hok, hroom, hresult⟩

theorem bplistAppend_appends {w : BplistWriter} {v bytes : ℕ}
    (h : (bplistAppend w v bytes).failed = false) :
    Appends w (bplistAppend w v bytes) (beBytes bytes v) := put_appends h

/-- What the writer can do: nothing has failed, there is room, an entry in the table is
left, and the references of the children exist. -/
structure BplistWriter.Honours (w : BplistWriter) (call : PlistCall) : Prop where
  ready : w.failed = false
  room : call.encoding.length ≤ w.capacity - w.data.length
  entry : w.offsets.length ≠ 128
  offset : w.data.length ≤ 0xffffffff
  children : ∀ r ∈ call.refs, r < w.offsets.length

section Calls

variable {w : BplistWriter}

/-- `start` has noted the offset and has written the marker. -/
theorem bplistStart_appends {type n : ℕ} (h : (bplistStart w type n).1.failed = false) :
    w.offsets.length ≠ 128 ∧ w.data.length ≤ 0xffffffff ∧
      (bplistStart w type n).2 = w.offsets.length ∧
      Appends { w with offsets := w.offsets ++ [w.data.length] } (bplistStart w type n).1
        (plistHeader type n) := by
  rw [bplistStart] at h ⊢
  split at h
  · exact Bool.noConfusion h
  · rename_i hopen
    rw [if_neg hopen]
    rw [not_or, not_or, Nat.not_lt] at hopen
    dsimp only at h ⊢
    refine ⟨hopen.2.1, hopen.2.2, rfl, ?_⟩
    rw [plistHeader]
    by_cases hlong : n ≥ 15
    · rw [if_pos hlong] at h ⊢
      rw [if_pos hlong]
      have hlength := bplistAppend_appends h
      have hmarker := bplistAppend_appends hlength.ok
      exact (bplistAppend_appends hmarker.ok).trans (hmarker.trans hlength)
    · rw [if_neg hlong] at h ⊢
      rw [if_neg hlong, List.append_nil]
      exact bplistAppend_appends h

theorem addRefs_appends {ref : ℕ} (refs : List ℕ) :
    ∀ {w : BplistWriter}, (addRefs ref w refs).failed = false →
      (∀ r ∈ refs, r < ref) ∧ Appends w (addRefs ref w refs) (refs.map UInt8.ofNat) := by
  induction refs with
  | nil => exact fun h => ⟨fun _ hr => absurd hr List.not_mem_nil, appends_nil h⟩
  | cons r rest ih =>
      intro w h
      have hcons : addRefs ref w (r :: rest) =
          addRefs ref (bplistAppend (if r ≥ ref then w.fail else w) r 1) rest := rfl
      rw [hcons] at h ⊢
      obtain ⟨hrest, hbytes⟩ := ih h
      have hfirst := bplistAppend_appends hbytes.ok
      by_cases hr : r ≥ ref
      · rw [if_pos hr] at hfirst
        exact Bool.noConfusion hfirst.ok
      · rw [if_neg hr] at hfirst hbytes ⊢
        refine ⟨?_, hfirst.trans hbytes⟩
        intro child hchild
        rcases List.mem_cons.mp hchild with rfl | hchild
        · exact Nat.not_le.mp hr
        · exact hrest child hchild

theorem bplistAddBytes_appends {type : ℕ} {data : List UInt8}
    (h : (bplistAddBytes w type data).1.failed = false) :
    w.offsets.length ≠ 128 ∧ w.data.length ≤ 0xffffffff ∧
      (bplistAddBytes w type data).2 = w.offsets.length ∧
      Appends { w with offsets := w.offsets ++ [w.data.length] } (bplistAddBytes w type data).1
        (plistHeader type data.length ++ data) := by
  have hstart := @bplistStart_appends w type data.length
  rw [bplistAddBytes] at h ⊢
  generalize bplistStart w type data.length = started at h hstart ⊢
  dsimp only at h ⊢
  split at h
  · exact Bool.noConfusion h
  · rename_i hroom
    rw [if_neg hroom]
    rw [not_or, Bool.not_eq_true, Nat.not_lt] at hroom
    obtain ⟨hentry, hoffset, href, hheader⟩ := hstart hroom.1
    exact ⟨hentry, hoffset, href, hheader.trans ⟨hroom.1, hroom.2, rfl⟩⟩

/-- **A call that does not fail was honoured.** It adds the bytes of the object at the end
and its offset to the table. -/
theorem add_appends {call : PlistCall} (h : (w.add call).1.failed = false) :
    w.Honours call ∧
      w.add call = (⟨w.data ++ call.encoding, w.capacity, w.offsets ++ [w.data.length], w.failed⟩,
        w.offsets.length) := by
  have hcall : w.offsets.length ≠ 128 ∧ w.data.length ≤ 0xffffffff ∧
      (∀ r ∈ call.refs, r < w.offsets.length) ∧ (w.add call).2 = w.offsets.length ∧
      Appends { w with offsets := w.offsets ++ [w.data.length] } (w.add call).1 call.encoding := by
    -- every call starts an object and appends its payload; collections list their references
    cases call with
    | string text =>
        obtain ⟨hentry, hoffset, href, hbytes⟩ := bplistAddBytes_appends h
        exact ⟨hentry, hoffset, fun _ hr => absurd hr List.not_mem_nil, href, hbytes⟩
    | data bytes =>
        obtain ⟨hentry, hoffset, href, hbytes⟩ := bplistAddBytes_appends h
        exact ⟨hentry, hoffset, fun _ hr => absurd hr List.not_mem_nil, href, hbytes⟩
    | uint value =>
        have hvalue : Appends (bplistStart w 1 3).1 (w.add (.uint value)).1
            (beBytes 8 value.toNat) := bplistAppend_appends h
        obtain ⟨hentry, hoffset, href, hheader⟩ := bplistStart_appends hvalue.ok
        exact ⟨hentry, hoffset, fun _ hr => absurd hr List.not_mem_nil, href,
          hheader.trans hvalue⟩
    | array refs =>
        have hadd : w.add (.array refs) =
            (addRefs (bplistStart w 10 refs.length).2 (bplistStart w 10 refs.length).1 refs,
              (bplistStart w 10 refs.length).2) := rfl
        have hstart := @bplistStart_appends w 10 refs.length
        rw [hadd] at h ⊢
        generalize bplistStart w 10 refs.length = started at h hstart ⊢
        obtain ⟨hchildren, hitems⟩ := addRefs_appends refs h
        obtain ⟨hentry, hoffset, href, hheader⟩ := hstart hitems.ok
        rw [href] at hchildren
        exact ⟨hentry, hoffset, hchildren, href, hheader.trans hitems⟩
    | dict pairs =>
        have hadd : w.add (.dict pairs) =
            (addRefs (bplistStart w 13 pairs.length).2
              (addRefs (bplistStart w 13 pairs.length).2 (bplistStart w 13 pairs.length).1
                (pairs.map Prod.fst)) (pairs.map Prod.snd),
              (bplistStart w 13 pairs.length).2) := rfl
        have hstart := @bplistStart_appends w 13 pairs.length
        rw [hadd] at h ⊢
        generalize bplistStart w 13 pairs.length = started at h hstart ⊢
        obtain ⟨hvalues, hright⟩ := addRefs_appends (pairs.map Prod.snd) h
        obtain ⟨hkeys, hleft⟩ := addRefs_appends (pairs.map Prod.fst) hright.ok
        obtain ⟨hentry, hoffset, href, hheader⟩ := hstart hleft.ok
        rw [href] at hkeys hvalues
        refine ⟨hentry, hoffset, ?_, href, ?_⟩
        · intro r hr
          rcases List.mem_append.mp hr with hr | hr
          · exact hkeys r hr
          · exact hvalues r hr
        · have hpayload := hleft.trans hright
          rw [← List.map_append] at hpayload
          exact hheader.trans hpayload
  obtain ⟨hentry, hoffset, hchildren, href, hok, hroom, hresult⟩ := hcall
  exact ⟨⟨hok, hroom, hentry, hoffset, hchildren⟩, Prod.ext hresult href⟩

end Calls

/-! ## Whole runs of the writer -/

/-- The object `i` of the writer lies behind `front` and has the bytes of a call, whose
children are older. -/
structure BplistWriter.WroteAt (w : BplistWriter) (i : ℕ) (call : PlistCall)
    (front rest : List UInt8) : Prop where
  data : w.data = front ++ call.encoding ++ rest
  offset : w.offsets[i]? = some front.length
  start : 8 ≤ front.length
  word : front.length ≤ 0xffffffff
  children : ∀ r ∈ call.refs, r < i

/-- The writer has written the calls. -/
structure BplistWriter.Wrote (w : BplistWriter) (calls : List PlistCall) : Prop where
  magic : w.data.take 8 = ascii "bplist00"
  start : 8 ≤ w.data.length
  room : w.data.length ≤ w.capacity
  count : w.offsets.length = calls.length
  entries : calls.length ≤ 128
  objects : ∀ i call, calls[i]? = some call → ∃ front rest, w.WroteAt i call front rest

theorem BplistWriter.Wrote.add {w : BplistWriter} {calls : List PlistCall} (h : w.Wrote calls)
    {call : PlistCall} (hok : (w.add call).1.failed = false) :
    (w.add call).1.Wrote (calls ++ [call]) := by
  obtain ⟨hhonours, hadd⟩ := add_appends hok
  have hentry := hhonours.entry
  have hentries := h.entries
  have hroom := h.room
  have hspace := hhonours.room
  have hstart := h.start
  have hcount := h.count
  rw [hadd]
  constructor
  · dsimp only
    rw [List.take_append_of_le_length hstart]
    exact h.magic
  · dsimp only
    rw [List.length_append]
    omega
  · dsimp only
    rw [List.length_append]
    omega
  · dsimp only
    rw [List.length_append, List.length_append, hcount]
    rfl
  · rw [List.length_append, List.length_singleton]
    omega
  · intro i c hc
    by_cases hi : i < calls.length
    · -- the older objects stay where they are
      rw [List.getElem?_append_left hi] at hc
      obtain ⟨front, rest, hdata, hoffset, hfront, hword, hchildren⟩ := h.objects i c hc
      refine ⟨front, rest ++ call.encoding, ?_, ?_, hfront, hword, hchildren⟩
      · dsimp only
        rw [hdata, List.append_assoc]
      · dsimp only
        rw [List.getElem?_append_left (by omega)]
        exact hoffset
    · -- the new object is the last one
      rw [List.getElem?_append_right (by omega), List.getElem?_singleton] at hc
      split at hc
      · rename_i hzero
        obtain rfl := Option.some.inj hc
        have hi : i = w.offsets.length := by omega
        refine ⟨w.data, [], ?_, ?_, hstart, hhonours.offset, ?_⟩
        · exact (List.append_nil _).symm
        · dsimp only
          rw [hi, List.getElem?_concat_length]
        · rw [hi]
          exact hhonours.children
      · contradiction

theorem plistWriter_append (capacity : ℕ) (calls : List PlistCall) (call : PlistCall) :
    plistWriter capacity (calls ++ [call]) = ((plistWriter capacity calls).add call).1 := by
  rw [plistWriter, List.foldl_append]
  rfl

theorem plistWriter_wrote {capacity : ℕ} (calls : List PlistCall) :
    (plistWriter capacity calls).failed = false →
      (plistWriter capacity calls).capacity = capacity ∧
        (plistWriter capacity calls).Wrote calls := by
  induction calls using List.reverseRecOn with
  | nil =>
      intro h
      have hnil : plistWriter capacity [] = bplistWriterInit capacity := rfl
      rw [hnil] at h ⊢
      refine ⟨bplistWriterInit_capacity capacity, ?_⟩
      rw [bplistWriterInit] at h ⊢
      split at h
      · exact Bool.noConfusion h
      · rename_i hlarge
        rw [if_neg hlarge]
        refine ⟨rfl, Nat.le_of_eq rfl, ?_, rfl, Nat.zero_le _, ?_⟩
        · have hmagic : (ascii "bplist00").length = 8 := rfl
          dsimp only
          omega
        · intro i call hcall
          rw [List.getElem?_nil] at hcall
          contradiction
  | append_singleton calls call ih =>
      intro h
      rw [plistWriter_append] at h ⊢
      obtain ⟨hhonours, hadd⟩ := add_appends h
      obtain ⟨hcapacity, hwrote⟩ := ih hhonours.ready
      refine ⟨?_, hwrote.add h⟩
      rw [hadd]
      exact hcapacity

/-- The failure flag is sticky: no call of a run that ends well has failed. -/
theorem plistWriter_prefix {capacity : ℕ} (before after : List PlistCall)
    (h : (plistWriter capacity (before ++ after)).failed = false) :
    (plistWriter capacity before).failed = false := by
  induction after using List.reverseRecOn with
  | nil =>
      rw [List.append_nil] at h
      exact h
  | append_singleton after call ih =>
      rw [← List.append_assoc, plistWriter_append] at h
      exact ih (add_appends h).1.ready

/-! ## The values of the calls -/

theorem mapM_eq_some_iff {α β : Type} {f : α → Option β} {xs : List α} {ys : List β} :
    xs.mapM f = some ys ↔ xs.map f = ys.map some := by
  -- the induction is on the list that is read
  induction xs generalizing ys with
  | nil =>
      rw [List.mapM_nil, List.map_nil, Option.pure_def, Option.some.injEq]
      constructor
      · rintro rfl
        rfl
      · intro h
        exact (List.map_eq_nil_iff.mp h.symm).symm
  | cons x xs ih =>
      rw [List.mapM_cons, List.map_cons]
      cases hx : f x with
      | none =>
          constructor
          · intro h
            contradiction
          · intro h
            cases ys with
            | nil => contradiction
            | cons y ys =>
                obtain ⟨hfirst, -⟩ := List.cons.inj h
                contradiction
      | some y =>
          cases hxs : xs.mapM f with
          | none =>
              constructor
              · intro h
                contradiction
              · intro h
                cases ys with
                | nil => contradiction
                | cons z zs =>
                    have hrest := ih.mpr (List.cons.inj h).2
                    rw [hxs] at hrest
                    contradiction
          | some zs =>
              have hzs := ih.mp hxs
              constructor
              · intro h
                obtain rfl := Option.some.inj h
                rw [hzs, List.map_cons]
              · intro h
                rw [hzs, ← List.map_cons] at h
                have hys := List.map_injective_iff.mpr (Option.some_injective β) h
                rw [← hys]
                rfl

/-- References to values that exist. -/
theorem children_found {built items : List PlistValue} {refs : List ℕ}
    (h : refs.mapM (built[·]?) = some items) :
    items.length = refs.length ∧
      ∀ (i r : ℕ), refs[i]? = some r →
        ∃ item, items[i]? = some item ∧ built[r]? = some item := by
  have hmap := mapM_eq_some_iff.mp h
  have hlength := congrArg List.length hmap
  rw [List.length_map, List.length_map] at hlength
  refine ⟨hlength.symm, fun i r hr => ?_⟩
  have hitem := congrArg (·[i]?) hmap
  rw [List.getElem?_map, List.getElem?_map, hr, Option.map_some] at hitem
  cases hi : items[i]? with
  | none =>
      rw [hi] at hitem
      contradiction
  | some item =>
      rw [hi] at hitem
      exact ⟨item, rfl, Option.some.inj hitem⟩

theorem children_exist {built : List PlistValue} {refs : List ℕ}
    (h : ∀ r ∈ refs, r < built.length) : ∃ items, refs.mapM (built[·]?) = some items := by
  induction refs with
  | nil => exact ⟨[], rfl⟩
  | cons r rest ih =>
      obtain ⟨items, hitems⟩ := ih fun child hchild => h child (List.mem_cons_of_mem _ hchild)
      have hr := h r List.mem_cons_self
      refine ⟨built[r] :: items, ?_⟩
      rw [mapM_eq_some_iff, List.map_cons, mapM_eq_some_iff.mp hitems, List.getElem?_eq_getElem hr,
        List.map_cons]

theorem children_stay {built items : List PlistValue} {refs : List ℕ} (more : List PlistValue)
    (h : refs.mapM (built[·]?) = some items) :
    refs.mapM ((built ++ more)[·]?) = some items := by
  rw [mapM_eq_some_iff] at h ⊢
  rw [← h]
  refine List.map_congr_left fun r hr => ?_
  have hmem : built[r]? ∈ refs.map (built[·]?) := List.mem_map_of_mem hr
  rw [h] at hmem
  obtain ⟨item, -, hitem⟩ := List.mem_map.mp hmem
  rw [List.getElem?_append_left (List.getElem?_eq_some_iff.mp hitem.symm).1]

/-- A call whose children exist builds a value. -/
theorem PlistCall.value_exists {built : List PlistValue} (call : PlistCall)
    (h : ∀ r ∈ call.refs, r < built.length) : ∃ v, call.value built = some v := by
  cases call with
  | string text => exact ⟨_, rfl⟩
  | data bytes => exact ⟨_, rfl⟩
  | uint value => exact ⟨_, rfl⟩
  | array refs =>
      obtain ⟨items, hitems⟩ : ∃ items, refs.mapM (built[·]?) = some items := children_exist h
      exact ⟨.array items, by rw [PlistCall.value, hitems]; rfl⟩
  | dict pairs =>
      obtain ⟨keys, hkeys⟩ := children_exist fun r hr => h r (List.mem_append_left _ hr)
      obtain ⟨values, hvalues⟩ := children_exist fun r hr => h r (List.mem_append_right _ hr)
      exact ⟨.dict (keys.zip values), by rw [PlistCall.value, hkeys, hvalues]⟩

/-- Values that are built later do not change it. -/
theorem PlistCall.value_append {built : List PlistValue} {call : PlistCall} {v : PlistValue}
    (h : call.value built = some v) (more : List PlistValue) :
    call.value (built ++ more) = some v := by
  cases call with
  | string text => exact h
  | data bytes => exact h
  | uint value => exact h
  | array refs =>
      rw [PlistCall.value, Option.map_eq_some_iff] at h ⊢
      obtain ⟨items, hitems, hv⟩ := h
      exact ⟨items, children_stay more hitems, hv⟩
  | dict pairs =>
      rw [PlistCall.value] at h ⊢
      split at h
      · rename_i keys values hkeys hvalues
        rw [children_stay more hkeys, children_stay more hvalues]
        exact h
      · contradiction

/-- The values of the calls. -/
structure Builds (calls : List PlistCall) (values : List PlistValue) : Prop where
  built : builtValues calls = some values
  length : values.length = calls.length
  value : ∀ (i : ℕ) (call : PlistCall), calls[i]? = some call →
    ∃ v, values[i]? = some v ∧ call.value values = some v

/-- Calls whose children are older build values. -/
theorem builds_of_older {calls : List PlistCall}
    (h : ∀ (i : ℕ) (call : PlistCall), calls[i]? = some call → ∀ r ∈ call.refs, r < i) :
    ∃ values, Builds calls values := by
  -- the induction is on the calls, the last one at the end
  induction calls using List.reverseRecOn with
  | nil =>
      refine ⟨[], rfl, rfl, fun i call hcall => ?_⟩
      rw [List.getElem?_nil] at hcall
      contradiction
  | append_singleton calls call ih =>
      obtain ⟨values, hbuilt, hlength, hvalue⟩ := ih fun i c hc => h i c (by
        rw [List.getElem?_append_left (List.getElem?_eq_some_iff.mp hc).1]
        exact hc)
      have hchildren := h calls.length call List.getElem?_concat_length
      rw [← hlength] at hchildren
      -- the last call only refers to objects that are there
      obtain ⟨v, hv⟩ := call.value_exists hchildren
      refine ⟨values ++ [v], ?_, ?_, fun i c hc => ?_⟩
      · rw [builtValues] at hbuilt ⊢
        rw [List.foldlM_append, hbuilt]
        show ((call.value values).map (values ++ [·])).bind (fun built => some built) = _
        rw [hv]
        rfl
      · rw [List.length_append, List.length_append, hlength]
        rfl
      · by_cases hi : i < calls.length
        · rw [List.getElem?_append_left hi] at hc
          obtain ⟨u, hu, hcall⟩ := hvalue i c hc
          refine ⟨u, ?_, PlistCall.value_append hcall [v]⟩
          rw [List.getElem?_append_left (by omega)]
          exact hu
        · rw [List.getElem?_append_right (by omega), List.getElem?_singleton] at hc
          split at hc
          · obtain rfl := Option.some.inj hc
            refine ⟨v, ?_, PlistCall.value_append hv [v]⟩
            rw [show i = values.length by omega, List.getElem?_concat_length]
          · contradiction

/-! ## Finished lists -/

/-- Writing a number and reading it. -/
theorem readBe_beBytes {front : List UInt8} {pos : ℕ} (hpos : front.length = pos)
    (rest : List UInt8) {width v : ℕ} (hwidth : width ≤ 8) (hv : v < 256 ^ width) :
    (readBe (front ++ beBytes width v ++ rest) pos width).toNat = v := by
  have hwindow : ((front ++ beBytes width v ++ rest).drop pos).take width = beBytes width v := by
    rw [List.append_assoc, List.drop_left' hpos, List.take_left' (beBytes_length width v)]
  have hword : 256 ^ width ≤ 256 ^ 8 := Nat.pow_le_pow_right (by omega) hwidth
  rw [readBe, beField, hwindow, toNat_shiftIn_foldl, beNat_beBytes, Nat.mod_eq_of_lt hv]
  · simp
  · rw [beBytes_length]
    simp only [UInt64.toNat_zero]
    omega

/-- What `bplist_finish` writes behind the table of offsets. -/
def plistTrailer (count root table : ℕ) : List UInt8 :=
  beBytes 6 0 ++ beBytes 1 4 ++ beBytes 1 1 ++ beBytes 8 count ++ beBytes 8 root ++
    beBytes 8 table

/-- The table of offsets. -/
def offsetTable (offsets : List ℕ) : List UInt8 := offsets.flatMap (beBytes 4)

theorem offsetTable_length (offsets : List ℕ) :
    (offsetTable offsets).length = 4 * offsets.length := by
  induction offsets with
  | nil => rfl
  | cons offset rest ih =>
      rw [offsetTable] at ih ⊢
      rw [List.flatMap_cons, List.length_append, ih, beBytes_length, List.length_cons]
      omega

theorem offsetTable_appends (offsets : List ℕ) :
    ∀ {w : BplistWriter},
      (offsets.foldl (fun w offset => bplistAppend w offset 4) w).failed = false →
        Appends w (offsets.foldl (fun w offset => bplistAppend w offset 4) w)
          (offsetTable offsets) := by
  induction offsets with
  | nil => exact fun h => appends_nil h
  | cons offset rest ih =>
      intro w h
      have hrest := ih h
      exact (bplistAppend_appends hrest.ok).trans hrest

/-- A finished list consists of the objects, the table and the trailer. -/
theorem bplistFinish_bytes {w : BplistWriter} {root : ℕ} (h : bplistFinish w root ≠ []) :
    root < w.offsets.length ∧ w.failed = false ∧
      bplistFinish w root = w.data ++ (offsetTable w.offsets ++
        plistTrailer w.offsets.length root w.data.length) := by
  rw [bplistFinish] at h ⊢
  split at h
  · exact absurd rfl h
  · rename_i hopen
    rw [if_neg hopen]
    rw [not_or, Nat.not_le, Bool.not_eq_true] at hopen
    dsimp only at h ⊢
    split at h
    · exact absurd rfl h
    · rename_i hok
      rw [if_neg hok]
      rw [Bool.not_eq_true] at hok
      have htable := bplistAppend_appends hok
      have hroot := bplistAppend_appends htable.ok
      have hcount := bplistAppend_appends hroot.ok
      have href := bplistAppend_appends hcount.ok
      have hsize := bplistAppend_appends href.ok
      have hzeros := bplistAppend_appends hsize.ok
      have htrailer := ((((hzeros.trans hsize).trans href).trans hcount).trans hroot).trans htable
      have hall := (offsetTable_appends w.offsets hzeros.ok).trans htrailer
      refine ⟨hopen.1, hopen.2, ?_⟩
      exact congrArg BplistWriter.data hall.result

/-- The view of a finished list. -/
structure Bplist.Views (p : Bplist) (w : BplistWriter) (trailer : List UInt8) : Prop where
  data : p.data = w.data ++ (offsetTable w.offsets ++ trailer)
  table : p.table = w.data.length
  count : p.count = w.offsets.length
  offsetSize : p.offsetSize = 4
  refSize : p.refSize = 1

/-- A number of the trailer is read back. -/
theorem readBe_trailer {data table trailer : List UInt8} {value start : ℕ}
    (before after : List UInt8) (htrailer : trailer = before ++ beBytes 8 value ++ after)
    (hstart : (data ++ table).length + before.length = start) (hvalue : value < 2 ^ 64) :
    (readBe (data ++ (table ++ trailer)) start 8).toNat = value := by
  have hfields : data ++ (table ++ trailer) =
      (data ++ table ++ before) ++ beBytes 8 value ++ after := by
    rw [htrailer]
    simp only [List.append_assoc]
  rw [hfields]
  refine readBe_beBytes ?_ _ (Nat.le_refl 8) hvalue
  rw [List.length_append]
  exact hstart

/-- **`bplist_open` accepts a finished list.** -/
theorem bplistOpen_finished {w : BplistWriter} {calls : List PlistCall} {root : ℕ}
    (hw : w.Wrote calls) (hsize : w.data.length < 2 ^ 64)
    (hfinish : bplistFinish w root ≠ []) :
    ∃ p, bplistOpen (bplistFinish w root) = some p ∧ p.root = root ∧
      p.Views w (plistTrailer w.offsets.length root w.data.length) := by
  obtain ⟨hroot, -, hbytes⟩ := bplistFinish_bytes hfinish
  have hcount := hw.count
  have hentries := hw.entries
  have hstart := hw.start
  have htable := offsetTable_length w.offsets
  refine ⟨⟨bplistFinish w root, w.data.length, w.offsets.length, root, 4, 1⟩, ?_, rfl,
    ⟨hbytes, rfl, rfl, rfl, rfl⟩⟩
  rw [hbytes]
  generalize hdata : w.data = data at *
  generalize hoffsets : w.offsets.length = count at *
  generalize offsetTable w.offsets = table at htable ⊢
  have hfront : (data ++ table).length = data.length + 4 * count := by
    rw [List.length_append, htable]
  have hlength : (data ++ (table ++ plistTrailer count root data.length)).length =
      data.length + 4 * count + 32 := by
    rw [← List.append_assoc, List.length_append, hfront]
    rfl
  -- each field of the trailer stands behind the fields before it
  have hcountField : (readBe (data ++ (table ++ plistTrailer count root data.length))
      (data.length + 4 * count + 8) 8).toNat = count := by
    refine readBe_trailer (beBytes 6 0 ++ beBytes 1 4 ++ beBytes 1 1)
      (beBytes 8 root ++ beBytes 8 data.length) ?_ ?_ (by omega)
    · simp only [plistTrailer, List.append_assoc]
    · rw [hfront]
      rfl
  have hrootField : (readBe (data ++ (table ++ plistTrailer count root data.length))
      (data.length + 4 * count + 16) 8).toNat = root := by
    refine readBe_trailer (beBytes 6 0 ++ beBytes 1 4 ++ beBytes 1 1 ++ beBytes 8 count)
      (beBytes 8 data.length) ?_ ?_ (by omega)
    · simp only [plistTrailer, List.append_assoc]
    · rw [hfront]
      simp only [List.length_append, beBytes_length]
  have htableField : (readBe (data ++ (table ++ plistTrailer count root data.length))
      (data.length + 4 * count + 24) 8).toNat = data.length := by
    refine readBe_trailer (beBytes 6 0 ++ beBytes 1 4 ++ beBytes 1 1 ++ beBytes 8 count ++
      beBytes 8 root) [] ?_ ?_ hsize
    · simp only [plistTrailer, List.append_nil]
    · rw [hfront]
      simp only [List.length_append, beBytes_length]
  have hbyte : ∀ k, byteAt (data ++ (table ++ plistTrailer count root data.length))
      (data.length + 4 * count + k) = byteAt (plistTrailer count root data.length) k := by
    intro k
    rw [← List.append_assoc, byteAt_append_right (by omega), hfront, Nat.add_sub_cancel_left]
  have hsizes : (byteAt (plistTrailer count root data.length) 6).toNat = 4 ∧
      (byteAt (plistTrailer count root data.length) 7).toNat = 1 := by
    simp only [plistTrailer, List.append_assoc]
    exact ⟨rfl, rfl⟩
  -- the tests of the reader on the whole file
  have hmagic : (data ++ (table ++ plistTrailer count root data.length)).take 8 =
      ascii "bplist00" := by
    rw [List.take_append_of_le_length hstart, ← hdata]
    exact hw.magic
  have hdiv : (data.length + 4 * count - data.length) / 4 = count := by omega
  have hlarge : ¬((data ++ (table ++ plistTrailer count root data.length)).length < 40 ∨
      (data ++ (table ++ plistTrailer count root data.length)).take 8 ≠ ascii "bplist00") := by
    rw [hmagic, hlength, not_or]
    exact ⟨by omega, fun h => h rfl⟩
  rw [bplistOpen, if_neg hlarge]
  dsimp only
  rw [hlength, Nat.add_sub_cancel, hbyte, hbyte, hcountField, hrootField, htableField, hsizes.1,
    hsizes.2, if_neg (by omega)]

/-- The offset of an object stands in the table. -/
theorem readBe_offset {p : Bplist} {w : BplistWriter} {trailer : List UInt8}
    (hp : p.Views w trailer) {i offset : ℕ} (hoffset : w.offsets[i]? = some offset)
    (hword : offset ≤ 0xffffffff) :
    (readBe p.data (p.table + i * p.offsetSize) p.offsetSize).toNat = offset := by
  obtain ⟨hi, rfl⟩ := List.getElem?_eq_some_iff.mp hoffset
  have hsplit : offsetTable w.offsets = offsetTable (w.offsets.take i) ++
      beBytes 4 w.offsets[i] ++ offsetTable (w.offsets.drop (i + 1)) := by
    conv_lhs => rw [← List.take_append_drop i w.offsets, List.drop_eq_getElem_cons hi]
    simp only [offsetTable, List.flatMap_append, List.flatMap_cons, List.append_assoc]
  have hdata : p.data = w.data ++ offsetTable (w.offsets.take i) ++ beBytes 4 w.offsets[i] ++
      (offsetTable (w.offsets.drop (i + 1)) ++ trailer) := by
    rw [hp.data, hsplit]
    simp only [List.append_assoc]
  rw [hdata, hp.table, hp.offsetSize]
  refine readBe_beBytes ?_ _ (by omega) (by omega)
  rw [List.length_append, offsetTable_length, List.length_take, Nat.min_eq_left (by omega)]
  omega

/-- The length that the reader finds for a length that was written. -/
def readLength (type n : ℕ) : ℕ := if type = 1 ∨ type = 2 then 2 ^ n else n

/-- The marker byte is the type and four bits of the length. -/
theorem marker_read {p : Bplist} {front more : List UInt8} {type low : ℕ}
    (hdata : p.data = front ++ (beBytes 1 (type * 16 + low) ++ more)) (htype : type < 16)
    (hlow : low < 16) :
    (byteAt p.data front.length).toNat / 16 = type ∧
      (byteAt p.data front.length).toNat % 16 = low := by
  have hbyte : byteAt p.data front.length = UInt8.ofNat (type * 16 + low) := by
    rw [hdata, byteAt_append_right (Nat.le_refl _), Nat.sub_self]
    rfl
  rw [hbyte, UInt8.toNat_ofNat_of_lt' (by rw [UInt8.size]; omega)]
  omega

/-- A length that does not fit the marker follows it, as an integer of eight bytes. -/
theorem longCount_written {p : Bplist} {front rest : List UInt8} {n : ℕ}
    (hdata : p.data = front ++ (beBytes 1 0x13 ++ beBytes 8 n) ++ rest)
    (htable : front.length + 9 ≤ p.table) (hword : n < 2 ^ 64) :
    longCount p front.length = some (n, front.length + 9) := by
  have hmarker : (byteAt p.data front.length).toNat = 0x13 := by
    rw [hdata, List.append_assoc, byteAt_append_right (Nat.le_refl _), Nat.sub_self]
    rfl
  have hread : (readBe p.data (front.length + 1) 8).toNat = n := by
    have hfields : p.data = (front ++ beBytes 1 0x13) ++ beBytes 8 n ++ rest := by
      rw [hdata]
      simp only [List.append_assoc]
    rw [hfields]
    refine readBe_beBytes ?_ _ (by omega) (by omega)
    rw [List.length_append, beBytes_length]
  have hbytes : 2 ^ (0x13 % 16) = 8 := rfl
  rw [longCount, hmarker]
  dsimp only
  rw [if_neg (by omega), hbytes, if_neg (by omega), hread]

/-- **The header of an object is read as it was written.** -/
theorem object_header {p : Bplist} {ref : ℕ} {front payload rest : List UInt8} {type n : ℕ}
    (hdata : p.data = front ++ (plistHeader type n ++ payload) ++ rest) (href : ref < p.count)
    (hoffset : (readBe p.data (p.table + ref * p.offsetSize) p.offsetSize).toNat = front.length)
    (hstart : 8 ≤ front.length)
    (htable : front.length + (plistHeader type n ++ payload).length ≤ p.table)
    (htype : type < 16) (hword : n < 2 ^ 64) (hnumber : type = 1 ∨ type = 2 → n ≤ 3)
    (hwidth : 0 < elementWidth p type)
    (hfits : readLength type n * elementWidth p type ≤ payload.length) :
    object p ref =
      some ⟨type, front.length + (plistHeader type n).length, readLength type n⟩ := by
  have hcount : ∀ start, start + payload.length ≤ p.table →
      ¬readLength type n > (p.table - start) / elementWidth p type := by
    intro start hpayload
    rw [gt_iff_lt, Nat.not_lt, Nat.le_div_iff_mul_le hwidth]
    omega
  rw [List.length_append] at htable
  rw [object, if_neg (by omega)]
  dsimp only
  rw [hoffset]
  by_cases hlong : n ≥ 15
  · -- the length follows the marker, in eight bytes
    have hheader : plistHeader type n = beBytes 1 (type * 16 + 15) ++
        (beBytes 1 0x13 ++ beBytes 8 n) := by
      rw [plistHeader, if_pos hlong, if_neg (by omega)]
    have hlength : (plistHeader type n).length = 10 := by
      rw [hheader]
      simp only [List.length_append, beBytes_length]
    have hother : ¬(type = 1 ∨ type = 2) := fun h => absurd (hnumber h) (by omega)
    have hmarker : p.data = front ++
        (beBytes 1 (type * 16 + 15) ++ (beBytes 1 0x13 ++ beBytes 8 n ++ payload ++ rest)) := by
      rw [hdata, hheader]
      simp only [List.append_assoc]
    obtain ⟨hhigh, hlow⟩ := marker_read hmarker htype (by omega)
    have hbehind : p.data = (front ++ beBytes 1 (type * 16 + 15)) ++
        (beBytes 1 0x13 ++ beBytes 8 n) ++ (payload ++ rest) := by
      rw [hmarker]
      simp only [List.append_assoc]
    have hfront : (front ++ beBytes 1 (type * 16 + 15)).length = front.length + 1 := by
      rw [List.length_append, beBytes_length]
    have hlongCount := longCount_written hbehind (by omega) hword
    rw [hfront] at hlongCount
    have hvalue : readLength type n = n := by rw [readLength, if_neg hother]
    rw [if_neg (by omega), hhigh, hlow, if_neg hother, if_pos rfl, hlongCount]
    have hfit := hcount (front.length + 10) (by omega)
    rw [hvalue] at hfit ⊢
    dsimp only
    rw [if_neg hfit, hlength]
  · -- the length is in the marker; that of a number is its exponent
    have hheader : plistHeader type n = beBytes 1 (type * 16 + n) := by
      rw [plistHeader, if_neg hlong, if_pos (by omega), List.append_nil]
    have hlength : (plistHeader type n).length = 1 := by rw [hheader, beBytes_length]
    have hmarker : p.data = front ++ (beBytes 1 (type * 16 + n) ++ (payload ++ rest)) := by
      rw [hdata, hheader]
      simp only [List.append_assoc]
    obtain ⟨hhigh, hlow⟩ := marker_read hmarker htype (by omega)
    have hsized : (if type = 1 ∨ type = 2 then
          (if n > 3 then none else some (2 ^ n, front.length + 1))
        else if n = 15 then longCount p (front.length + 1)
        else some (n, front.length + 1)) = some (readLength type n, front.length + 1) := by
      rw [readLength]
      by_cases hnum : type = 1 ∨ type = 2
      · rw [if_pos hnum, if_pos hnum, if_neg (Nat.not_lt.mpr (hnumber hnum))]
      · rw [if_neg hnum, if_neg hnum, if_neg (by omega)]
    rw [if_neg (by omega), hhigh, hlow, hsized]
    dsimp only
    rw [if_neg (hcount _ (by omega)), hlength]

/-! ## Reading the objects -/

/-- The reader finds the object of a call: its payload lies behind `front`. -/
structure Bplist.Shows (p : Bplist) (ref : ℕ) (call : PlistCall) (front rest : List UInt8) :
    Prop where
  data : p.data = front ++ call.payload ++ rest
  object : object p ref = some ⟨call.type, front.length, readLength call.type call.length⟩
  children : ∀ r ∈ call.refs, r < ref

/-- The reader finds the objects of all calls. -/
structure Bplist.Presents (p : Bplist) (calls : List PlistCall) : Prop where
  refSize : p.refSize = 1
  count : p.count = calls.length
  entries : calls.length ≤ 128
  shows : ∀ (i : ℕ) (call : PlistCall), calls[i]? = some call →
    ∃ front rest, p.Shows i call front rest

/-- The payload of a call has the length that the reader computes. -/
theorem PlistCall.payload_fits {p : Bplist} (hp : p.refSize = 1) (call : PlistCall) :
    call.type < 16 ∧ call.length ≤ call.payload.length ∧
      (call.type = 1 ∨ call.type = 2 → call.length ≤ 3) ∧ 0 < elementWidth p call.type ∧
        readLength call.type call.length * elementWidth p call.type = call.payload.length := by
  cases call with
  | string text => simp [PlistCall.type, length, payload, elementWidth, readLength]
  | data bytes => simp [PlistCall.type, length, payload, elementWidth, readLength]
  | uint value => simp [PlistCall.type, length, payload, elementWidth, readLength]
  | array refs => simp [PlistCall.type, length, payload, elementWidth, readLength, hp]
  | dict pairs =>
      simp [PlistCall.type, length, payload, elementWidth, readLength, hp]
      omega

theorem presents_of_wrote {p : Bplist} {w : BplistWriter} {calls : List PlistCall}
    {trailer : List UInt8} (hp : p.Views w trailer) (hw : w.Wrote calls)
    (hsize : w.data.length < 2 ^ 64) : p.Presents calls := by
  refine ⟨hp.refSize, hp.count.trans hw.count, hw.entries, fun i call hcall => ?_⟩
  obtain ⟨front, rest, hdata, hoffset, hstart, hword, hchildren⟩ := hw.objects i call hcall
  obtain ⟨htype, hlength, hnumber, hwidth, hfits⟩ := call.payload_fits hp.refSize
  have hi := (List.getElem?_eq_some_iff.mp hcall).1
  have hcount := hw.count
  have hlist : p.data = front ++ (plistHeader call.type call.length ++ call.payload) ++
      (rest ++ (offsetTable w.offsets ++ trailer)) := by
    rw [hp.data, hdata, PlistCall.encoding, List.append_assoc]
  have hbefore : front.length + (plistHeader call.type call.length ++ call.payload).length ≤
      w.data.length := by
    have hlengths := congrArg List.length hdata
    rw [PlistCall.encoding, List.length_append, List.length_append] at hlengths
    omega
  have hobject := object_header hlist (by rw [hp.count]; omega) (readBe_offset hp hoffset hword)
    hstart (by rw [hp.table]; exact hbefore) htype
    (by rw [List.length_append] at hbefore; omega) hnumber hwidth (Nat.le_of_eq hfits)
  refine ⟨front ++ plistHeader call.type call.length,
    rest ++ (offsetTable w.offsets ++ trailer), ?_, ?_, hchildren⟩
  · rw [hlist]
    simp only [List.append_assoc]
  · rw [List.length_append]
    exact hobject

section Reading

variable {p : Bplist} {calls : List PlistCall}

/-- The references of the children stand behind each other. -/
theorem reference_child (hp : p.Presents calls) {front rest : List UInt8} {refs : List ℕ}
    (hdata : p.data = front ++ refs.map UInt8.ofNat ++ rest) {j r : ℕ} (hr : refs[j]? = some r)
    (hlisted : r < calls.length) : reference p (front.length + j * p.refSize) = r := by
  obtain ⟨hj, rfl⟩ := List.getElem?_eq_some_iff.mp hr
  have hentries := hp.entries
  have hsplit : p.data = front ++ (refs.take j).map UInt8.ofNat ++ beBytes 1 refs[j] ++
      ((refs.drop (j + 1)).map UInt8.ofNat ++ rest) := by
    have hrefs : refs = refs.take j ++ refs[j] :: refs.drop (j + 1) := by
      rw [← List.drop_eq_getElem_cons hj, List.take_append_drop]
    rw [hdata]
    conv_lhs => rw [hrefs]
    rw [List.map_append, List.map_cons]
    simp only [List.append_assoc]
    rfl
  have hread : (readBe p.data (front.length + j * p.refSize) p.refSize).toNat = refs[j] := by
    rw [hsplit, hp.refSize]
    refine readBe_beBytes ?_ _ (by omega) (by omega)
    rw [List.length_append, List.length_map, List.length_take, Nat.min_eq_left (by omega)]
    omega
  rw [reference, hread, if_pos (by rw [hp.count]; exact hlisted)]

/-- The bytes of a string or of data are returned as they are. -/
theorem bplistBytes_of_shows {ref : ℕ} {call : PlistCall} {front rest : List UInt8}
    (h : p.Shows ref call front rest) (htype : call.type = 4 ∨ call.type = 5)
    (hlength : call.length = call.payload.length) : bplistBytes p ref = some call.payload := by
  have hread : readLength call.type call.length = call.payload.length := by
    rw [readLength, if_neg (by omega), hlength]
  rw [bplistBytes, h.object, hread]
  dsimp only
  rw [if_neg (by omega), h.data, List.append_assoc, List.drop_left, List.take_left]

/-- The test of a key is a comparison with the value that it refers to. -/
theorem key_isString {call : PlistCall} {ref : ℕ} {front rest : List UInt8}
    (h : p.Shows ref call front rest) {values : List PlistValue} {v : PlistValue}
    (hv : call.value values = some v) (key : CString) :
    (match object p ref with
      | none => false
      | some k => k.type == 5 && k.count == key.length && (p.data.drop k.start).take k.count == key)
      = v.isString key := by
  rw [h.object]
  dsimp only
  -- only a string has the type of a key
  cases call with
  | string text =>
      obtain rfl := Option.some.inj hv
      have hdata : p.data = front ++ text ++ rest := h.data
      have hread : readLength (PlistCall.string text).type (PlistCall.string text).length =
          text.length := rfl
      have htype : ((PlistCall.string text).type == 5) = true := rfl
      rw [hread, htype, Bool.true_and, hdata, List.append_assoc, List.drop_left, List.take_left,
        PlistValue.isString, Bool.eq_iff_iff, Bool.and_eq_true, beq_iff_eq, beq_iff_eq]
      constructor
      · exact And.right
      · rintro rfl
        exact ⟨rfl, rfl⟩
  | data bytes =>
      obtain rfl := Option.some.inj hv
      rfl
  | uint value =>
      obtain rfl := Option.some.inj hv
      rfl
  | array refs =>
      rw [PlistCall.value, Option.map_eq_some_iff] at hv
      obtain ⟨items, -, rfl⟩ := hv
      rfl
  | dict pairs =>
      rw [PlistCall.value] at hv
      split at hv
      · obtain rfl := Option.some.inj hv
        rfl
      · contradiction

end Reading

/-- A search over the indexes of a list is a search over the list. -/
theorem find?_range_of_list {α : Type} {xs : List α} {f : ℕ → Bool} {g : α → Bool}
    (h : ∀ (i : ℕ) (x : α), xs[i]? = some x → f i = g x) :
    ((List.range xs.length).find? f = none → xs.find? g = none) ∧
      ∀ i, (List.range xs.length).find? f = some i →
        ∃ x, xs[i]? = some x ∧ xs.find? g = some x := by
  constructor
  · intro hnone
    rw [List.find?_range_eq_none] at hnone
    rw [List.find?_eq_none]
    intro x hx
    obtain ⟨i, hi⟩ := List.mem_iff_getElem?.mp hx
    have hfalse := hnone i (List.getElem?_eq_some_iff.mp hi).1
    rw [h i x hi] at hfalse
    rw [Bool.not_eq_true]
    rw [Bool.not_eq_eq_eq_not, Bool.not_true] at hfalse
    exact hfalse
  · intro i hsome
    obtain ⟨hfound, hi, hfirst⟩ := List.find?_range_eq_some.mp hsome
    have hi := List.mem_range.mp hi
    refine ⟨xs[i], List.getElem?_eq_getElem hi, ?_⟩
    rw [List.find?_eq_some_iff_getElem]
    refine ⟨?_, i, hi, rfl, fun j hj => ?_⟩
    · rw [← h i xs[i] (List.getElem?_eq_getElem hi)]
      exact hfound
    · rw [← h j xs[j] (List.getElem?_eq_getElem (by omega))]
      exact hfirst j hj

section Values

variable {p : Bplist} {calls : List PlistCall} {values : List PlistValue}

/-- The elements of an array are found if the values before it are. -/
theorem array_holds (hp : p.Presents calls) {ref : ℕ} (hlisted : ref < calls.length)
    (holder : ∀ r < ref, ∀ v, values[r]? = some v → p.Holds r v) {refs : List ℕ}
    {front rest : List UInt8} (h : p.Shows ref (.array refs) front rest)
    {items : List PlistValue} (hitems : refs.mapM (values[·]?) = some items) :
    p.Holds ref (.array items) := by
  obtain ⟨hlength, hfound⟩ := children_found hitems
  have hobject : object p ref = some ⟨10, front.length, refs.length⟩ := h.object
  refine .array ?_ ?_
  · rw [bplistCount, hobject, hlength]
    rfl
  · intro i item hitem
    have hi := (List.getElem?_eq_some_iff.mp hitem).1
    have hr : refs[i]? = some refs[i] := List.getElem?_eq_getElem (by omega)
    have hchild := h.children _ (List.mem_of_getElem? hr)
    obtain ⟨found, hsame, hvalue⟩ := hfound i _ hr
    rw [hitem] at hsame
    obtain rfl := Option.some.inj hsame
    have hat : bplistAt p ref i = refs[i] := by
      rw [bplistAt, hobject]
      dsimp only
      rw [if_neg (by omega)]
      exact reference_child hp h.data hr (by omega)
    rw [hat]
    exact holder _ hchild _ hvalue

/-- An entry of a dictionary stands behind its two references. -/
theorem dict_entry (hp : p.Presents calls) {ref : ℕ} {pairs : List (ℕ × ℕ)}
    {front rest : List UInt8} (h : p.Shows ref (.dict pairs) front rest)
    (hlisted : ref < calls.length) {keys items : List PlistValue}
    (hkeys : (pairs.map Prod.fst).mapM (values[·]?) = some keys)
    (hitems : (pairs.map Prod.snd).mapM (values[·]?) = some items)
    {i : ℕ} {entry : PlistValue × PlistValue} (hi : (keys.zip items)[i]? = some entry) :
    ∃ k v : ℕ, (reference p (front.length + i * p.refSize) = k ∧ k < ref ∧
        values[k]? = some entry.1) ∧
      (reference p (front.length + (pairs.length + i) * p.refSize) = v ∧ v < ref ∧
        values[v]? = some entry.2) := by
  obtain ⟨hkeysLength, hkeysFound⟩ := children_found hkeys
  obtain ⟨-, hitemsFound⟩ := children_found hitems
  rw [List.length_map] at hkeysLength
  obtain ⟨hfirst, hsecond⟩ := List.getElem?_zip_eq_some.mp hi
  have hlt := (List.getElem?_eq_some_iff.mp hfirst).1
  have hk : (pairs.map Prod.fst)[i]? = some pairs[i].1 := by
    rw [List.getElem?_map, List.getElem?_eq_getElem (by omega), Option.map_some]
  have hv : (pairs.map Prod.snd)[i]? = some pairs[i].2 := by
    rw [List.getElem?_map, List.getElem?_eq_getElem (by omega), Option.map_some]
  obtain ⟨key, hkey, hkeyValue⟩ := hkeysFound i _ hk
  obtain ⟨item, hitem, hitemValue⟩ := hitemsFound i _ hv
  rw [hfirst] at hkey
  rw [hsecond] at hitem
  obtain rfl := Option.some.inj hkey
  obtain rfl := Option.some.inj hitem
  -- the references of the values follow those of the keys
  have hkRefs : (pairs.map Prod.fst ++ pairs.map Prod.snd)[i]? = some pairs[i].1 := by
    rw [List.getElem?_append_left (by rw [List.length_map]; omega), hk]
  have hvRefs : (pairs.map Prod.fst ++ pairs.map Prod.snd)[pairs.length + i]? =
      some pairs[i].2 := by
    rw [List.getElem?_append_right (by rw [List.length_map]; omega), List.length_map,
      Nat.add_sub_cancel_left, hv]
  have hkLt := h.children _ (List.mem_of_getElem? hkRefs)
  have hvLt := h.children _ (List.mem_of_getElem? hvRefs)
  exact ⟨pairs[i].1, pairs[i].2,
    ⟨reference_child hp h.data hkRefs (by omega), hkLt, hkeyValue⟩,
    ⟨reference_child hp h.data hvRefs (by omega), hvLt, hitemValue⟩⟩

/-- The test of a key is a comparison of strings. -/
theorem keyMatches_isString (hp : p.Presents calls) (hb : Builds calls values)
    {d : BplistObject} {k i : ℕ} {key : PlistValue}
    (href : reference p (d.start + i * p.refSize) = k) (hlisted : k < calls.length)
    (hvalue : values[k]? = some key) (name : CString) :
    keyMatches p d name i = key.isString name := by
  obtain ⟨call, hcall⟩ : ∃ call, calls[k]? = some call := ⟨_, List.getElem?_eq_getElem hlisted⟩
  obtain ⟨v, hv, hcallValue⟩ := hb.value k call hcall
  rw [hvalue] at hv
  obtain rfl := Option.some.inj hv
  obtain ⟨keyFront, keyRest, hshows⟩ := hp.shows k call hcall
  rw [keyMatches, href]
  exact key_isString hshows hcallValue name

/-- The entries of a dictionary are found if the values before it are. -/
theorem dict_holds (hp : p.Presents calls) (hb : Builds calls values) {ref : ℕ}
    (hlisted : ref < calls.length)
    (holder : ∀ r < ref, ∀ v, values[r]? = some v → p.Holds r v) {pairs : List (ℕ × ℕ)}
    {front rest : List UInt8} (h : p.Shows ref (.dict pairs) front rest)
    {keys items : List PlistValue} (hkeys : (pairs.map Prod.fst).mapM (values[·]?) = some keys)
    (hitems : (pairs.map Prod.snd).mapM (values[·]?) = some items) :
    p.Holds ref (.dict (keys.zip items)) := by
  have hobject : object p ref = some ⟨13, front.length, pairs.length⟩ := h.object
  have hzip : (keys.zip items).length = pairs.length := by
    rw [List.length_zip, (children_found hkeys).1, (children_found hitems).1, List.length_map,
      List.length_map, Nat.min_self]
  have hmatch : ∀ (key : CString) (i : ℕ) (entry : PlistValue × PlistValue),
      (keys.zip items)[i]? = some entry →
        keyMatches p ⟨13, front.length, pairs.length⟩ key i = entry.1.isString key := by
    intro key i entry hi
    obtain ⟨k, -, ⟨href, hk, hvalue⟩, -⟩ := dict_entry hp h hlisted hkeys hitems hi
    exact keyMatches_isString hp hb href (by omega) hvalue key
  -- the scan of the keys either misses, or stops at the entry whose key it is
  have hget_miss : ∀ key : CString, (List.range (keys.zip items).length).find?
      (keyMatches p ⟨13, front.length, pairs.length⟩ key) = none →
        bplistGet p ref key = bplistNone := by
    intro key hnone
    rw [hzip] at hnone
    simp only [bplistGet, hobject, hnone, ne_eq, not_true_eq_false, if_false]
  have hget_hit : ∀ (key : CString) (i : ℕ), (List.range (keys.zip items).length).find?
      (keyMatches p ⟨13, front.length, pairs.length⟩ key) = some i →
        bplistGet p ref key =
          reference p (front.length + (pairs.length + i) * p.refSize) := by
    intro key i hsome
    rw [hzip] at hsome
    simp only [bplistGet, hobject, hsome, ne_eq, not_true_eq_false, if_false]
  refine .dict ?_ ?_ ?_
  · rw [bplistCount, hobject, hzip]
    rfl
  · intro key value hvalue
    obtain ⟨hmissing, hfound⟩ := find?_range_of_list (hmatch key)
    rw [dictValue, Option.map_eq_some_iff] at hvalue
    obtain ⟨entry, hentryFound, rfl⟩ := hvalue
    cases hscan : (List.range (keys.zip items).length).find?
        (keyMatches p ⟨13, front.length, pairs.length⟩ key) with
    | none =>
        rw [hmissing hscan] at hentryFound
        contradiction
    | some i =>
        obtain ⟨found, hi, hsame⟩ := hfound i hscan
        rw [hentryFound] at hsame
        obtain rfl := Option.some.inj hsame
        obtain ⟨k, v, -, href, hv, hitem⟩ := dict_entry hp h hlisted hkeys hitems hi
        rw [hget_hit key i hscan, href]
        exact holder v hv _ hitem
  · intro key hnone
    obtain ⟨-, hfound⟩ := find?_range_of_list (hmatch key)
    rw [dictValue, Option.map_eq_none_iff] at hnone
    cases hscan : (List.range (keys.zip items).length).find?
        (keyMatches p ⟨13, front.length, pairs.length⟩ key) with
    | none => exact hget_miss key hscan
    | some i =>
        obtain ⟨found, -, hsame⟩ := hfound i hscan
        rw [hnone] at hsame
        contradiction

/-- **The reader finds every value that was built.** The induction is on the reference:
the children of an object are older. -/
theorem holds_of_builds (hp : p.Presents calls) (hb : Builds calls values) :
    ∀ ref v, values[ref]? = some v → p.Holds ref v := by
  intro ref
  induction ref using Nat.strongRecOn with
  | ind ref ih =>
    intro v hv
    have hlisted : ref < calls.length := by
      rw [← hb.length]
      exact (List.getElem?_eq_some_iff.mp hv).1
    obtain ⟨call, hcall⟩ : ∃ call, calls[ref]? = some call :=
      ⟨_, List.getElem?_eq_getElem hlisted⟩
    obtain ⟨u, hu, hvalue⟩ := hb.value ref call hcall
    rw [hv] at hu
    obtain rfl := Option.some.inj hu
    obtain ⟨front, rest, hshows⟩ := hp.shows ref call hcall
    -- a leaf is read as it was written; a collection holds if its children do
    cases call with
    | string text =>
        obtain rfl := Option.some.inj hvalue
        exact .string (bplistBytes_of_shows hshows (.inr rfl) rfl)
    | data bytes =>
        obtain rfl := Option.some.inj hvalue
        exact .data (bplistBytes_of_shows hshows (.inl rfl) rfl)
    | uint value =>
        obtain rfl := Option.some.inj hvalue
        refine .uint ?_
        have hobject : object p ref = some ⟨1, front.length, 8⟩ := hshows.object
        have hdata : p.data = front ++ beBytes 8 value.toNat ++ rest := hshows.data
        have hread : (readBe p.data front.length 8).toNat = value.toNat := by
          rw [hdata]
          exact readBe_beBytes rfl rest (Nat.le_refl 8) value.toNat_lt
        rw [bplistUint, hobject]
        exact congrArg some (UInt64.toNat_inj.mp hread)
    | array refs =>
        rw [PlistCall.value, Option.map_eq_some_iff] at hvalue
        obtain ⟨items, hitems, rfl⟩ := hvalue
        exact array_holds hp hlisted ih hshows hitems
    | dict pairs =>
        rw [PlistCall.value] at hvalue
        split at hvalue
        · rename_i keys items hkeys hitems
          obtain rfl := Option.some.inj hvalue
          exact dict_holds hp hb hlisted ih hshows hkeys hitems
        · contradiction

end Values

/-- **Property lists round-trip.** A list that `bplist_finish` returns fits the buffer, is
accepted by `bplist_open`, and the reader finds at the root the value that the calls have
built there; each call had returned the number of the calls before it. After a call that the
writer cannot honour, no list is returned. -/
theorem plist_round_trip (capacity : UInt64) (calls : List PlistCall) (root : ℕ) :
    (bplistFinish (plistWriter capacity.toNat calls) root ≠ [] →
      (bplistFinish (plistWriter capacity.toNat calls) root).length ≤ capacity.toNat ∧
        (∀ before call after, calls = before ++ call :: after →
          ((plistWriter capacity.toNat before).add call).2 = before.length) ∧
        ∃ p values v, bplistOpen (bplistFinish (plistWriter capacity.toNat calls) root) = some p ∧
          p.root = root ∧ builtValues calls = some values ∧ values[root]? = some v ∧
            p.Holds p.root v) ∧
    ((∃ before call after, calls = before ++ call :: after ∧
        ¬(plistWriter capacity.toNat before).Honours call) →
      bplistFinish (plistWriter capacity.toNat calls) root = []) := by
  constructor
  · intro hfinish
    obtain ⟨hroot, hok, -⟩ := bplistFinish_bytes hfinish
    obtain ⟨hcapacity, hwrote⟩ := plistWriter_wrote calls hok
    have hroom := hwrote.room
    have hword := capacity.toNat_lt
    have hsize : (plistWriter capacity.toNat calls).data.length < 2 ^ 64 := by omega
    refine ⟨?_, ?_, ?_⟩
    · exact (bplistFinish_length_le _ root).trans (Nat.le_of_eq hcapacity)
    · -- each call returns the number of objects before it
      rintro before call after rfl
      have hbefore := plistWriter_prefix (before ++ [call]) after (by
        rw [List.append_assoc]
        exact hok)
      rw [plistWriter_append] at hbefore
      obtain ⟨hhonours, hadd⟩ := add_appends hbefore
      rw [hadd]
      exact (plistWriter_wrote before hhonours.ready).2.count
    · obtain ⟨p, hopen, hrootSame, hviews⟩ := bplistOpen_finished hwrote hsize hfinish
      obtain ⟨values, hbuilds⟩ := builds_of_older fun i call hcall => by
        obtain ⟨front, rest, hat⟩ := hwrote.objects i call hcall
        exact hat.children
      have hlisted : root < values.length := by
        rw [hbuilds.length, ← hwrote.count]
        exact hroot
      have hvalue := List.getElem?_eq_getElem hlisted
      refine ⟨p, values, values[root], hopen, hrootSame, hbuilds.built, hvalue, ?_⟩
      rw [hrootSame]
      exact holds_of_builds (presents_of_wrote hviews hwrote hsize) hbuilds root _ hvalue
  · -- a file that is finished has honoured every call
    rintro ⟨before, call, after, rfl, hcall⟩
    by_contra hfinish
    obtain ⟨-, hok, -⟩ := bplistFinish_bytes hfinish
    have hbefore := plistWriter_prefix (before ++ [call]) after (by
      rw [List.append_assoc]
      exact hok)
    rw [plistWriter_append] at hbefore
    exact hcall (add_appends hbefore).1

/-- The list `{"a": 5}` is written and found again. -/
example :
    let list := bplistFinish
      (plistWriter 80 [.string (ascii "a"), .uint 5, .dict [(0, 1)]]) 2
    (bplistOpen list).map (fun p => bplistUint p (bplistGet p p.root (ascii "a"))) =
      some (some 5) := by
  decide

end PortableAirplay.Protocol
