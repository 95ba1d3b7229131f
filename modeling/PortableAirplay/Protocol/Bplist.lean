import PortableAirplay.Library.BigEndian
import PortableAirplay.Platform.Net

/-!
# Binary property lists

`protocol/bplist.c`: the bounded reader and writer of AirPlay 2 control messages.
Sizes and positions are natural numbers; `bplistOpen` bounds the table by the
input, and every position is checked against the table before it is used.

A real number is kept in the form in which the list holds it (`BplistReal`); its
comparisons with 0 and 1 are exact.
-/

set_option autoImplicit false

namespace PortableAirplay.Protocol

open PortableAirplay.Library
open PortableAirplay.Platform

/-! ## The reader -/

/-- `bplist_t`. -/
structure Bplist where
  data : List UInt8
  table : ℕ
  count : ℕ
  root : ℕ
  offsetSize : ℕ
  refSize : ℕ
  deriving DecidableEq

/-- `BPLIST_NONE`. -/
def bplistNone : ℕ := 0xffffffff

/-- `read_be`: `n` bytes at position `pos`. -/
def readBe (data : List UInt8) (pos n : ℕ) : UInt64 := beField data pos n

/-- `bplist_open`. -/
def bplistOpen (data : List UInt8) : Option Bplist :=
  if data.length < 40 ∨ data.take 8 ≠ ascii "bplist00" then none
  else
    let tail := data.length - 32
    let offsetSize := (byteAt data (tail + 6)).toNat
    let refSize := (byteAt data (tail + 7)).toNat
    let count := (readBe data (tail + 8) 8).toNat
    let root := (readBe data (tail + 16) 8).toNat
    let table := (readBe data (tail + 24) 8).toNat
    if offsetSize = 0 ∨ offsetSize > 8 ∨ refSize = 0 ∨ refSize > 8 ∨ count = 0 ∨
        count > 0xffffffff ∨ root ≥ count ∨ table < 8 ∨ table > tail ∨
        count > (tail - table) / offsetSize then none
    else some ⟨data, table, count, root, offsetSize, refSize⟩

/-- What `object` returns: the type, the position and the count of an object. -/
structure BplistObject where
  type : ℕ
  start : ℕ
  count : ℕ
  deriving DecidableEq

/-- The length that follows a marker with length nibble 15, with its end. -/
def longCount (p : Bplist) (pos : ℕ) : Option (ℕ × ℕ) :=
  let marker := (byteAt p.data pos).toNat
  if pos ≥ p.table ∨ marker / 16 ≠ 1 ∨ marker % 16 > 3 then none
  else
    -- an integer object of 1, 2, 4 or 8 bytes
    let bytes := 2 ^ (marker % 16)
    if bytes > p.table - (pos + 1) then none
    else some ((readBe p.data (pos + 1) bytes).toNat, pos + 1 + bytes)

/-- Bytes of one element of an object. -/
def elementWidth (p : Bplist) (type : ℕ) : ℕ :=
  if type = 6 then 2 else if type = 10 then p.refSize else if type = 13 then 2 * p.refSize else 1

/-- `object`. -/
def object (p : Bplist) (ref : ℕ) : Option BplistObject :=
  if ref ≥ p.count then none
  else
    let pos := (readBe p.data (p.table + ref * p.offsetSize) p.offsetSize).toNat
    if pos < 8 ∨ pos ≥ p.table then none
    else
      let marker := (byteAt p.data pos).toNat
      let type := marker / 16
      let low := marker % 16
      -- integers and reals have a power of two of bytes, all others a count
      let sized : Option (ℕ × ℕ) :=
        if type = 1 ∨ type = 2 then (if low > 3 then none else some (2 ^ low, pos + 1))
        else if low = 15 then longCount p (pos + 1)
        else some (low, pos + 1)
      match sized with
      | none => none
      | some (n, pos) =>
          -- the elements end before the offset table
          if n > (p.table - pos) / elementWidth p type then none else some ⟨type, pos, n⟩

/-- `reference`. -/
def reference (p : Bplist) (pos : ℕ) : ℕ :=
  let ref := (readBe p.data pos p.refSize).toNat
  if ref < p.count then ref else bplistNone

/-- The key test of `bplist_get`: the `i`-th key is the string `key`. -/
def keyMatches (p : Bplist) (dict : BplistObject) (key : CString) (i : ℕ) : Bool :=
  match object p (reference p (dict.start + i * p.refSize)) with
  | none => false
  | some k => k.type == 5 && k.count == key.length && (p.data.drop k.start).take k.count == key

/-- `bplist_get`. -/
def bplistGet (p : Bplist) (dict : ℕ) (key : CString) : ℕ :=
  match object p dict with
  | none => bplistNone
  | some d =>
      if d.type ≠ 13 then bplistNone
      else
        match (List.range d.count).find? (keyMatches p d key) with
        | none => bplistNone
        | some i => reference p (d.start + (d.count + i) * p.refSize)

/-- `bplist_at`. -/
def bplistAt (p : Bplist) (array index : ℕ) : ℕ :=
  match object p array with
  | none => bplistNone
  | some a =>
      if a.type ≠ 10 ∨ index ≥ a.count then bplistNone
      else reference p (a.start + index * p.refSize)

/-- `bplist_count`. -/
def bplistCount (p : Bplist) (ref : ℕ) : ℕ :=
  match object p ref with
  | none => 0
  | some o => if o.type ≠ 10 ∧ o.type ≠ 13 then 0 else o.count

/-- `bplist_uint`. -/
def bplistUint (p : Bplist) (ref : ℕ) : Option UInt64 :=
  match object p ref with
  | none => none
  | some o => if o.type ≠ 1 then none else some (readBe p.data o.start o.count)

/-- A number read by `bplist_real`: an integer that is converted, or the bits of a
floating-point number. -/
inductive BplistReal where
  | integer (value : UInt64)
  | double (bits : UInt64)
  | float (bits : UInt32)
  deriving DecidableEq, Repr

/-- The number equals 0. -/
def BplistReal.isZero : BplistReal → Bool
  | .integer value => value == 0
  | .double bits => bits &&& 0x7fffffffffffffff == 0
  | .float bits => bits &&& 0x7fffffff == 0

/-- The number equals 1. -/
def BplistReal.isOne : BplistReal → Bool
  | .integer value => value == 1
  | .double bits => bits == 0x3ff0000000000000
  | .float bits => bits == 0x3f800000

/-- `bplist_real`. -/
def bplistReal (p : Bplist) (ref : ℕ) : Option BplistReal :=
  match object p ref with
  | none => none
  | some o =>
      let bits := readBe p.data o.start o.count
      if o.type = 1 then some (.integer bits)
      else if o.type ≠ 2 then none
      else if o.count = 8 then some (.double bits)
      else if o.count = 4 then some (.float bits.toUInt32)
      else none

/-- `bplist_bytes`. -/
def bplistBytes (p : Bplist) (ref : ℕ) : Option (List UInt8) :=
  match object p ref with
  | none => none
  | some o =>
      if o.type ≠ 4 ∧ o.type ≠ 5 then none else some ((p.data.drop o.start).take o.count)

/-! ## The writer -/

/-- `bplist_writer_t`. The filled part of the buffer is `data`. -/
structure BplistWriter where
  data : List UInt8
  capacity : ℕ
  offsets : List ℕ
  failed : Bool
  deriving DecidableEq

/-- `w->failed = 1`. -/
def BplistWriter.fail (w : BplistWriter) : BplistWriter := { w with failed := true }

/-- `bplist_writer_init`. -/
def bplistWriterInit (capacity : ℕ) : BplistWriter :=
  if capacity < 40 then ⟨[], capacity, [], true⟩ else ⟨ascii "bplist00", capacity, [], false⟩

/-- Bytes go to the end of the buffer if there is room. -/
def BplistWriter.put (w : BplistWriter) (bytes : List UInt8) : BplistWriter :=
  if w.failed ∨ bytes.length > w.capacity - w.data.length then w.fail
  else { w with data := w.data ++ bytes }

/-- `append`. -/
def bplistAppend (w : BplistWriter) (v bytes : ℕ) : BplistWriter := w.put (beBytes bytes v)

/-- `start`. -/
def bplistStart (w : BplistWriter) (type n : ℕ) : BplistWriter × ℕ :=
  if w.failed ∨ w.offsets.length = 128 ∨ w.data.length > 0xffffffff then (w.fail, bplistNone)
  else
    let ref := w.offsets.length
    let w := { w with offsets := w.offsets ++ [w.data.length] }
    let w := bplistAppend w (type * 16 + if n < 15 then n else 15) 1
    let w := if n ≥ 15 then bplistAppend (bplistAppend w 0x13 1) n 8 else w
    (w, ref)

/-- `bytes`. -/
def bplistAddBytes (w : BplistWriter) (type : ℕ) (data : List UInt8) : BplistWriter × ℕ :=
  let (w, ref) := bplistStart w type data.length
  if w.failed ∨ data.length > w.capacity - w.data.length then (w.fail, bplistNone)
  else ({ w with data := w.data ++ data }, ref)

/-- `bplist_add_string`. -/
def bplistAddString (w : BplistWriter) (text : CString) : BplistWriter × ℕ :=
  bplistAddBytes w 5 text

/-- `bplist_add_data`. -/
def bplistAddData (w : BplistWriter) (data : List UInt8) : BplistWriter × ℕ :=
  bplistAddBytes w 4 data

/-- `bplist_add_uint`. -/
def bplistAddUint (w : BplistWriter) (value : UInt64) : BplistWriter × ℕ :=
  let (w, ref) := bplistStart w 1 3
  (bplistAppend w value.toNat 8, ref)

/-- References of children are written one byte each; they must exist. -/
def addRefs (ref : ℕ) (w : BplistWriter) (refs : List ℕ) : BplistWriter :=
  refs.foldl (fun w r => bplistAppend (if r ≥ ref then w.fail else w) r 1) w

/-- `bplist_add_array`. -/
def bplistAddArray (w : BplistWriter) (refs : List ℕ) : BplistWriter × ℕ :=
  let (w, ref) := bplistStart w 10 refs.length
  (addRefs ref w refs, ref)

/-- `bplist_add_dict`: first the keys, then the values. -/
def bplistAddDict (w : BplistWriter) (pairs : List (ℕ × ℕ)) : BplistWriter × ℕ :=
  let (w, ref) := bplistStart w 13 pairs.length
  (addRefs ref (addRefs ref w (pairs.map Prod.fst)) (pairs.map Prod.snd), ref)

/-- `bplist_finish`: the finished bytes; none of them stands for 0. -/
def bplistFinish (w : BplistWriter) (root : ℕ) : List UInt8 :=
  if root ≥ w.offsets.length ∨ w.failed then []
  else
    let table := w.data.length
    let count := w.offsets.length
    let w := w.offsets.foldl (fun w offset => bplistAppend w offset 4) w
    let w := bplistAppend (bplistAppend (bplistAppend w 0 6) 4 1) 1 1
    let w := bplistAppend (bplistAppend (bplistAppend w count 8) root 8) table 8
    if w.failed then [] else w.data

/-! ## The buffer of the writer -/

section Capacity

variable (w : BplistWriter)

@[simp] theorem put_capacity (bytes : List UInt8) : (w.put bytes).capacity = w.capacity := by
  rw [BplistWriter.put]
  split
  · rfl
  · rfl

@[simp] theorem bplistAppend_capacity (v bytes : ℕ) :
    (bplistAppend w v bytes).capacity = w.capacity := put_capacity w _

@[simp] theorem bplistStart_capacity (type n : ℕ) :
    (bplistStart w type n).1.capacity = w.capacity := by
  rw [bplistStart]
  split
  · rfl
  · dsimp only
    split
    · simp only [bplistAppend_capacity]
    · simp only [bplistAppend_capacity]

@[simp] theorem bplistAddBytes_capacity (type : ℕ) (data : List UInt8) :
    (bplistAddBytes w type data).1.capacity = w.capacity := by
  have hstart := bplistStart_capacity w type data.length
  rw [bplistAddBytes]
  generalize bplistStart w type data.length = r at hstart ⊢
  dsimp only
  split
  · exact hstart
  · exact hstart

@[simp] theorem bplistAddString_capacity (text : CString) :
    (bplistAddString w text).1.capacity = w.capacity := bplistAddBytes_capacity w 5 text

@[simp] theorem bplistAddUint_capacity (value : UInt64) :
    (bplistAddUint w value).1.capacity = w.capacity :=
  (bplistAppend_capacity _ _ _).trans (bplistStart_capacity w 1 3)

@[simp] theorem addRefs_capacity (ref : ℕ) (refs : List ℕ) :
    ∀ w : BplistWriter, (addRefs ref w refs).capacity = w.capacity := by
  induction refs with
  | nil => exact fun _ => rfl
  | cons r rest ih =>
      intro w
      show (addRefs ref (bplistAppend (if r ≥ ref then w.fail else w) r 1) rest).capacity = _
      rw [ih, bplistAppend_capacity]
      split
      · rfl
      · rfl

@[simp] theorem bplistAddArray_capacity (refs : List ℕ) :
    (bplistAddArray w refs).1.capacity = w.capacity :=
  (addRefs_capacity _ refs _).trans (bplistStart_capacity w 10 refs.length)

@[simp] theorem bplistAddDict_capacity (pairs : List (ℕ × ℕ)) :
    (bplistAddDict w pairs).1.capacity = w.capacity :=
  (addRefs_capacity _ _ _).trans
    ((addRefs_capacity _ _ _).trans (bplistStart_capacity w 13 pairs.length))

theorem bplistWriterInit_capacity (capacity : ℕ) :
    (bplistWriterInit capacity).capacity = capacity := by
  rw [bplistWriterInit]
  split
  · rfl
  · rfl

/-- What was put is within the buffer. -/
theorem put_length {w : BplistWriter} {bytes : List UInt8} (h : (w.put bytes).failed = false) :
    w.failed = false ∧ bytes.length ≤ w.capacity - w.data.length ∧
      w.put bytes = { w with data := w.data ++ bytes } := by
  rw [BplistWriter.put] at h ⊢
  split at h
  · exact Bool.noConfusion h
  · rename_i hroom
    rw [not_or, Bool.not_eq_true, Nat.not_lt] at hroom
    rw [if_neg (by rw [not_or, Bool.not_eq_true, Nat.not_lt]; exact hroom)]
    exact ⟨hroom.1, hroom.2, rfl⟩

theorem offsets_capacity (offsets : List ℕ) :
    ∀ w : BplistWriter,
      (offsets.foldl (fun w offset => bplistAppend w offset 4) w).capacity = w.capacity := by
  induction offsets with
  | nil => exact fun _ => rfl
  | cons offset rest ih => exact fun w => (ih _).trans (bplistAppend_capacity w offset 4)

/-- **The finished list fits the buffer.** -/
theorem bplistFinish_length_le (root : ℕ) : (bplistFinish w root).length ≤ w.capacity := by
  rw [bplistFinish]
  split
  · exact Nat.zero_le _
  · dsimp only
    have hcapacity := offsets_capacity w.offsets w
    generalize w.offsets.foldl (fun w offset => bplistAppend w offset 4) w = v at hcapacity ⊢
    have hcapacity : (bplistAppend (bplistAppend (bplistAppend (bplistAppend (bplistAppend v 0 6)
        4 1) 1 1) w.offsets.length 8) root 8).capacity = w.capacity := by
      simp only [bplistAppend_capacity, hcapacity]
    generalize bplistAppend (bplistAppend (bplistAppend (bplistAppend (bplistAppend v 0 6)
      4 1) 1 1) w.offsets.length 8) root 8 = t at hcapacity ⊢
    cases hfailed : (bplistAppend t w.data.length 8).failed with
    | true => exact Nat.zero_le _
    | false =>
        obtain ⟨-, hroom, hput⟩ := put_length hfailed
        have hlast : bplistAppend t w.data.length 8 =
            { t with data := t.data ++ beBytes 8 w.data.length } := hput
        rw [if_neg Bool.false_ne_true, hlast]
        dsimp only
        rw [beBytes_length] at hroom
        rw [List.length_append, beBytes_length]
        omega

end Capacity

end PortableAirplay.Protocol
