import PortableAirplay.Library.BigEndian

/-!
# DNS messages

The wire format of names, resource records and messages without questions, as values
with their bytes, and the grammar that reads them back. Positions matter, since names may
be looked up in a message again: a record that is read carries where its owner and its
data begin.
-/

set_option autoImplicit false

namespace PortableAirplay.Library

/-! ## Names -/

/-- The byte between two labels of a name in its text form. -/
def nameDot : UInt8 := 46

/-- A label with its length. -/
def labelBytes (label : List UInt8) : List UInt8 := UInt8.ofNat label.length :: label

/-- A name on the wire: its labels and an empty one. -/
def nameBytes (labels : List (List UInt8)) : List UInt8 := labels.flatMap labelBytes ++ [0]

/-- The labels with a dot behind each. -/
def dotted (labels : List (List UInt8)) : List UInt8 := labels.flatMap (· ++ [nameDot])

/-- A label that fits into a name and its text form. -/
def ValidLabel (label : List UInt8) : Prop :=
  0 < label.length ∧ label.length ≤ 63 ∧ nameDot ∉ label

instance (label : List UInt8) : Decidable (ValidLabel label) :=
  inferInstanceAs (Decidable (_ ∧ _ ∧ _))

/-- A name other than the root, within the limits of the wire format. -/
structure DomainName where
  labels : List (List UInt8)
  nonempty : labels ≠ []
  valid : ∀ label ∈ labels, ValidLabel label
  short : (nameBytes labels).length ≤ 255

/-- The name on the wire. -/
def DomainName.bytes (n : DomainName) : List UInt8 := nameBytes n.labels

/-- The name as text, without a dot at its end. -/
def DomainName.text (n : DomainName) : List UInt8 := (dotted n.labels).dropLast

theorem nameBytes_cons (label : List UInt8) (labels : List (List UInt8)) :
    nameBytes (label :: labels) = UInt8.ofNat label.length :: (label ++ nameBytes labels) := by
  rw [nameBytes, List.flatMap_cons, labelBytes, List.cons_append, List.cons_append,
    List.append_assoc]
  rfl

theorem nameBytes_pos (labels : List (List UInt8)) : 0 < (nameBytes labels).length := by
  rw [nameBytes, List.length_append, List.length_singleton]
  omega

theorem dotted_cons (label : List UInt8) (labels : List (List UInt8)) :
    dotted (label :: labels) = label ++ nameDot :: dotted labels := by
  rw [dotted, List.flatMap_cons, List.append_assoc]
  rfl

/-- The text and the wire form of a name differ in length by the empty label. -/
theorem dotted_length (labels : List (List UInt8)) :
    (dotted labels).length + 1 = (nameBytes labels).length := by
  induction labels with
  | nil => rfl
  | cons label labels ih =>
      rw [dotted_cons, nameBytes_cons, List.length_append, List.length_cons, List.length_cons,
        List.length_append, ← ih, Nat.add_right_comm]

theorem dotted_ne_nil (label : List UInt8) (labels : List (List UInt8)) :
    dotted (label :: labels) ≠ [] := by
  rw [dotted_cons]
  exact List.append_ne_nil_of_right_ne_nil _ (List.cons_ne_nil _ _)

/-- Behind the first label of a name is nothing, or a dot and the name of the others. -/
theorem text_cons (label : List UInt8) (labels : List (List UInt8)) :
    (labels = [] ∧ (dotted (label :: labels)).dropLast = label ++ []) ∨
      (labels ≠ [] ∧
        (dotted (label :: labels)).dropLast = label ++ nameDot :: (dotted labels).dropLast) := by
  cases labels with
  | nil =>
      refine .inl ⟨rfl, ?_⟩
      rw [dotted_cons, List.append_nil]
      exact List.dropLast_concat
  | cons next labels =>
      refine .inr ⟨List.cons_ne_nil _ _, ?_⟩
      rw [dotted_cons label, List.dropLast_append_of_ne_nil (List.cons_ne_nil _ _),
        List.dropLast_cons_of_ne_nil (dotted_ne_nil next labels)]

/-- A name with one more label in front. -/
def DomainName.child (n : DomainName) (label : List UInt8) (h : ValidLabel label)
    (hshort : label.length + 1 + n.bytes.length ≤ 255) : DomainName where
  labels := label :: n.labels
  nonempty := List.cons_ne_nil label n.labels
  valid := by
    intro l hl
    rcases List.mem_cons.mp hl with rfl | hl'
    · exact h
    · exact n.valid l hl'
  short := by
    have hbytes : n.bytes.length = (nameBytes n.labels).length := rfl
    rw [nameBytes_cons, List.length_cons, List.length_append]
    omega

section Child

variable {n : DomainName} {label : List UInt8} (h : ValidLabel label)
  (hshort : label.length + 1 + n.bytes.length ≤ 255)

theorem child_text : (n.child label h hshort).text = label ++ nameDot :: n.text := by
  rcases text_cons label n.labels with ⟨hnone, -⟩ | ⟨-, htext⟩
  · exact absurd hnone n.nonempty
  · exact htext

theorem child_bytes_length :
    (n.child label h hshort).bytes.length = label.length + 1 + n.bytes.length := by
  rw [DomainName.bytes, DomainName.child, nameBytes_cons, List.length_cons, List.length_append,
    DomainName.bytes]
  omega

end Child

/-- Labels are read up to the empty one. -/
def readLabels : ℕ → List UInt8 → Option (List (List UInt8) × List UInt8)
  | 0, _ => none
  | _ + 1, [] => none
  | fuel + 1, b :: rest =>
      if b = 0 then some ([], rest)
      else if b.toNat > 63 ∨ rest.length < b.toNat then none
      else (readLabels fuel (rest.drop b.toNat)).map fun r => (rest.take b.toNat :: r.1, r.2)

/-- A name is read; each label takes a byte, so the input has fuel for all of them. -/
def readName (input : List UInt8) : Option (List (List UInt8) × List UInt8) :=
  readLabels input.length input

/-- The byte of the length of a label is its length. -/
theorem ValidLabel.toNat_length {label : List UInt8} (h : ValidLabel label) :
    (UInt8.ofNat label.length).toNat = label.length := by
  obtain ⟨-, hlong, -⟩ := h
  rw [UInt8.toNat_ofNat']
  omega

/-- It is not the byte that ends a name. -/
theorem ValidLabel.length_ne_zero {label : List UInt8} (h : ValidLabel label) :
    UInt8.ofNat label.length ≠ 0 := by
  intro hzero
  have hlength := h.toNat_length
  obtain ⟨hpos, -, -⟩ := h
  rw [hzero, UInt8.toNat_zero] at hlength
  omega

theorem readLabels_nameBytes {labels : List (List UInt8)}
    (h : ∀ label ∈ labels, ValidLabel label) {fuel : ℕ} (hfuel : (nameBytes labels).length ≤ fuel)
    (rest : List UInt8) : readLabels fuel (nameBytes labels ++ rest) = some (labels, rest) := by
  induction labels generalizing fuel with
  | nil =>
      obtain ⟨fuel, rfl⟩ : ∃ n, fuel = n + 1 := ⟨fuel - 1, by have := nameBytes_pos []; omega⟩
      rfl
  | cons label labels ih =>
      have hvalid := h label List.mem_cons_self
      have hlength := hvalid.toNat_length
      have hne := hvalid.length_ne_zero
      obtain ⟨hpos, hlong, -⟩ := hvalid
      rw [nameBytes_cons, List.length_cons, List.length_append] at hfuel
      obtain ⟨fuel, rfl⟩ : ∃ n, fuel = n + 1 := ⟨fuel - 1, by omega⟩
      have hfuel' : (nameBytes labels).length ≤ fuel := by omega
      have htail := ih (fun l hl => h l (List.mem_cons_of_mem label hl)) hfuel'
      rw [nameBytes_cons, List.cons_append, List.append_assoc, readLabels, if_neg hne, hlength,
        if_neg (by rw [List.length_append]; omega), List.drop_left, List.take_left, htail]
      rfl

/-- **A name is read back.** -/
theorem readName_bytes (n : DomainName) (rest : List UInt8) :
    readName (n.bytes ++ rest) = some (n.labels, rest) :=
  readLabels_nameBytes n.valid (by rw [List.length_append]; exact Nat.le_add_right _ _) rest

/-! ## Records -/

/-- A resource record. -/
structure ResourceRecord where
  owner : DomainName
  type : UInt16
  recordClass : UInt16
  ttl : UInt32
  data : List UInt8
  short : data.length < 65536

/-- The fields between the owner and the data of a record. -/
def ResourceRecord.fields (r : ResourceRecord) : List UInt8 :=
  beBytes 2 r.type.toNat ++ (beBytes 2 r.recordClass.toNat ++
    (beBytes 4 r.ttl.toNat ++ beBytes 2 r.data.length))

/-- The record on the wire. -/
def ResourceRecord.bytes (r : ResourceRecord) : List UInt8 := r.owner.bytes ++ (r.fields ++ r.data)

/-- A record that was read, with the positions of its owner and its data. -/
structure RecordAt where
  ownerAt : ℕ
  owner : List (List UInt8)
  type : ℕ
  recordClass : ℕ
  ttl : ℕ
  dataAt : ℕ
  data : List UInt8
  deriving DecidableEq

/-- A record is read from the rest of a message of `size` bytes. -/
def readRecord (size : ℕ) (input : List UInt8) : Option (RecordAt × List UInt8) :=
  match readName input with
  | none => none
  | some (owner, rest) =>
      let length := beNat ((rest.drop 8).take 2)
      let body := rest.drop 10
      if rest.length < 10 ∨ body.length < length then none
      else
        some (⟨size - input.length, owner, beNat (rest.take 2), beNat ((rest.drop 2).take 2),
          beNat ((rest.drop 4).take 4), size - body.length, body.take length⟩, body.drop length)

/-- The record as it is read at a position. -/
def ResourceRecord.located (r : ResourceRecord) (pos : ℕ) : RecordAt :=
  ⟨pos, r.owner.labels, r.type.toNat, r.recordClass.toNat, r.ttl.toNat,
    pos + r.owner.bytes.length + 10, r.data⟩

theorem fields_length (r : ResourceRecord) : r.fields.length = 10 := by
  rw [ResourceRecord.fields, List.length_append, List.length_append, List.length_append,
    beBytes_length, beBytes_length, beBytes_length, beBytes_length]

/-- **A record is read back.** -/
theorem readRecord_bytes (r : ResourceRecord) (pos : ℕ) (rest : List UInt8) :
    readRecord (pos + (r.bytes ++ rest).length) (r.bytes ++ rest) = some (r.located pos, rest) := by
  have hfields := fields_length r
  have htype : beNat ((r.fields ++ (r.data ++ rest)).take 2) = r.type.toNat := by
    rw [ResourceRecord.fields, List.append_assoc, List.take_left' (beBytes_length 2 _),
      beNat_beBytes]
    exact Nat.mod_eq_of_lt r.type.toNat_lt
  have hclass : beNat (((r.fields ++ (r.data ++ rest)).drop 2).take 2) = r.recordClass.toNat := by
    rw [ResourceRecord.fields, List.append_assoc, List.drop_left' (beBytes_length 2 _),
      List.append_assoc, List.take_left' (beBytes_length 2 _), beNat_beBytes]
    exact Nat.mod_eq_of_lt r.recordClass.toNat_lt
  have httl : beNat (((r.fields ++ (r.data ++ rest)).drop 4).take 4) = r.ttl.toNat := by
    have hfour : (4 : ℕ) = 2 + 2 := rfl
    rw [hfour, ← List.drop_drop, ResourceRecord.fields, List.append_assoc,
      List.drop_left' (beBytes_length 2 _), List.append_assoc,
      List.drop_left' (beBytes_length 2 _), List.append_assoc,
      List.take_left' (beBytes_length 4 _), beNat_beBytes]
    exact Nat.mod_eq_of_lt r.ttl.toNat_lt
  have hlength : beNat (((r.fields ++ (r.data ++ rest)).drop 8).take 2) = r.data.length := by
    have height : (8 : ℕ) = 2 + (2 + 4) := rfl
    rw [height, ← List.drop_drop, ← List.drop_drop, ResourceRecord.fields, List.append_assoc,
      List.drop_left' (beBytes_length 2 _), List.append_assoc,
      List.drop_left' (beBytes_length 2 _), List.append_assoc,
      List.drop_left' (beBytes_length 4 _), List.take_left' (beBytes_length 2 _), beNat_beBytes]
    exact Nat.mod_eq_of_lt r.short
  have hbody : (r.fields ++ (r.data ++ rest)).drop 10 = r.data ++ rest := List.drop_left' hfields
  rw [ResourceRecord.bytes, List.append_assoc, List.append_assoc, readRecord, readName_bytes]
  dsimp only
  rw [htype, hclass, httl, hlength, hbody, List.take_left, List.drop_left, if_neg]
  · have hpos : pos + (r.owner.bytes ++ (r.fields ++ (r.data ++ rest))).length -
        (r.owner.bytes ++ (r.fields ++ (r.data ++ rest))).length = pos := Nat.add_sub_cancel _ _
    have hdata : pos + (r.owner.bytes ++ (r.fields ++ (r.data ++ rest))).length -
        (r.data ++ rest).length = pos + r.owner.bytes.length + 10 := by
      rw [List.length_append, List.length_append, hfields]
      omega
    rw [hpos, hdata]
    rfl
  · rw [List.length_append, List.length_append, hfields]
    omega

/-! ## Character strings -/

/-- The strings of a text record; each takes a byte. -/
def readStrings : ℕ → List UInt8 → Option (List (List UInt8))
  | _, [] => some []
  | 0, _ :: _ => none
  | fuel + 1, b :: rest =>
      if rest.length < b.toNat then none
      else (readStrings fuel (rest.drop b.toNat)).map (rest.take b.toNat :: ·)

/-- **Strings are read back in order.** -/
theorem readStrings_bytes {strings : List (List UInt8)} (h : ∀ s ∈ strings, s.length ≤ 255)
    {fuel : ℕ} (hfuel : (strings.flatMap labelBytes).length ≤ fuel) :
    readStrings fuel (strings.flatMap labelBytes) = some strings := by
  induction strings generalizing fuel with
  | nil => rw [List.flatMap_nil, readStrings]
  | cons s strings ih =>
      have hlength : (UInt8.ofNat s.length).toNat = s.length := by
        have hs := h s List.mem_cons_self
        rw [UInt8.toNat_ofNat']
        omega
      have hbytes : (s :: strings).flatMap labelBytes =
          UInt8.ofNat s.length :: (s ++ strings.flatMap labelBytes) := by
        rw [List.flatMap_cons, labelBytes]
        rfl
      rw [hbytes, List.length_cons, List.length_append] at hfuel
      obtain ⟨fuel, rfl⟩ : ∃ n, fuel = n + 1 := ⟨fuel - 1, by omega⟩
      have hfuel' : (strings.flatMap labelBytes).length ≤ fuel := by omega
      rw [hbytes, readStrings, hlength, if_neg (by rw [List.length_append]; omega), List.drop_left,
        List.take_left, ih (fun t ht => h t (List.mem_cons_of_mem s ht)) hfuel']
      rfl

/-! ## Messages -/

/-- The header of a message. -/
structure DnsHeader where
  id : ℕ
  flags : ℕ
  questions : ℕ
  answers : ℕ
  authorities : ℕ
  additionals : ℕ
  deriving DecidableEq

/-- A response with answers only. -/
def responseBytes (flags : UInt16) (answers : List ResourceRecord) : List UInt8 :=
  [0, 0] ++ (beBytes 2 flags.toNat ++ ([0, 0] ++ (beBytes 2 answers.length ++
    ([0, 0, 0, 0] ++ answers.flatMap ResourceRecord.bytes))))

/-- `n` records are read. -/
def readRecords (size : ℕ) : ℕ → List UInt8 → Option (List RecordAt × List UInt8)
  | 0, input => some ([], input)
  | n + 1, input =>
      match readRecord size input with
      | none => none
      | some (r, rest) => (readRecords size n rest).map fun s => (r :: s.1, s.2)

/-- A message without questions: the header, the answers, and what is left. -/
def readResponse : List UInt8 → Option (DnsHeader × List RecordAt × List UInt8)
  | i :: i' :: f :: f' :: q :: q' :: n :: n' :: a :: a' :: m :: m' :: rest =>
      if beNat [q, q'] ≠ 0 then none
      else
        (readRecords (12 + rest.length) (beNat [n, n']) rest).map fun r =>
          (⟨beNat [i, i'], beNat [f, f'], beNat [q, q'], beNat [n, n'], beNat [a, a'],
            beNat [m, m']⟩, r.1, r.2)
  | _ => none

/-- The records as they are read from a position on. -/
def locate : ℕ → List ResourceRecord → List RecordAt
  | _, [] => []
  | pos, r :: rest => r.located pos :: locate (pos + r.bytes.length) rest

@[simp] theorem locate_length (pos : ℕ) (records : List ResourceRecord) :
    (locate pos records).length = records.length := by
  induction records generalizing pos with
  | nil => rfl
  | cons r records ih => rw [locate, List.length_cons, ih, List.length_cons]

theorem locate_append (pos : ℕ) (front back : List ResourceRecord) :
    locate pos (front ++ back) =
      locate pos front ++ locate (pos + (front.flatMap ResourceRecord.bytes).length) back := by
  induction front generalizing pos with
  | nil => rfl
  | cons r front ih =>
      rw [List.cons_append, locate, locate, ih, List.flatMap_cons, List.length_append,
        Nat.add_assoc, List.cons_append]

theorem readRecords_bytes (answers : List ResourceRecord) (pos : ℕ) (rest : List UInt8) :
    readRecords (pos + (answers.flatMap ResourceRecord.bytes ++ rest).length) answers.length
        (answers.flatMap ResourceRecord.bytes ++ rest) =
      some (locate pos answers, rest) := by
  induction answers generalizing pos with
  | nil => rfl
  | cons r answers ih =>
      have hsize : pos + (r.bytes ++ (answers.flatMap ResourceRecord.bytes ++ rest)).length =
          pos + r.bytes.length + (answers.flatMap ResourceRecord.bytes ++ rest).length := by
        rw [List.length_append, Nat.add_assoc]
      rw [List.flatMap_cons, List.append_assoc, List.length_cons, readRecords, readRecord_bytes]
      dsimp only
      rw [hsize, ih]
      rfl

/-- **A response is read back to its last byte.** -/
theorem readResponse_bytes (flags : UInt16) {answers : List ResourceRecord}
    (h : answers.length < 65536) :
    readResponse (responseBytes flags answers) =
      some (⟨0, flags.toNat, 0, answers.length, 0, 0⟩, locate 12 answers, []) := by
  have hflags : beNat [UInt8.ofNat (flags.toNat / 256), UInt8.ofNat flags.toNat] = flags.toNat :=
    (beNat_beBytes 2 flags.toNat).trans (Nat.mod_eq_of_lt flags.toNat_lt)
  have hcount : beNat [UInt8.ofNat (answers.length / 256), UInt8.ofNat answers.length] =
      answers.length := (beNat_beBytes 2 answers.length).trans (Nat.mod_eq_of_lt h)
  have hrecords := readRecords_bytes answers 12 []
  rw [List.append_nil] at hrecords
  have hpacket : responseBytes flags answers =
      0 :: 0 :: UInt8.ofNat (flags.toNat / 256) :: UInt8.ofNat flags.toNat :: 0 :: 0 ::
        UInt8.ofNat (answers.length / 256) :: UInt8.ofNat answers.length :: 0 :: 0 :: 0 :: 0 ::
          answers.flatMap ResourceRecord.bytes := rfl
  have hzero : beNat [0, 0] = 0 := rfl
  rw [hpacket, readResponse, hflags, hcount, hzero, hrecords, if_neg (fun hne => hne rfl)]
  rfl

end PortableAirplay.Library
