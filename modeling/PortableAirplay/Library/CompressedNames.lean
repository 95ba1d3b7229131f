import PortableAirplay.Library.DnsMessage
import PortableAirplay.Library.Walk

/-!
# Compressed names and questions

A name in a message is a row of labels that ends with the empty one or goes on where a
pointer leads, forwards or backwards. `Spells` is this grammar, and `followName` the walk
of a reader through the message. A name has a walk that ends within the message, in fewer
steps than the message has bytes (`Spells.walk`).

A question is a name with a type and a class behind it; `QuestionsFrom` reads one after the
other.
-/

set_option autoImplicit false

namespace PortableAirplay.Library

/-- Where a pointer with these two bytes leads. -/
def pointerTarget (high low : UInt8) : ℕ := high.toNat % 64 * 256 + low.toNat

/-- The name at `p` has these labels, and the message goes on at `next` behind it: behind
its empty label, or behind its first pointer. -/
inductive Spells (data : List UInt8) : ℕ → List (List UInt8) → ℕ → Prop
  | root {p : ℕ} (hempty : data[p]? = some 0) : Spells data p [] (p + 1)
  | label {p next : ℕ} {n : UInt8} {labels : List (List UInt8)} (hlength : data[p]? = some n)
      (hpos : n ≠ 0) (hlabel : n.toNat < 64) (hfits : p + 1 + n.toNat ≤ data.length)
      (hrest : Spells data (p + 1 + n.toNat) labels next) :
      Spells data p ((data.drop (p + 1)).take n.toNat :: labels) next
  | pointer {p next : ℕ} {high low : UInt8} {labels : List (List UInt8)}
      (hhigh : data[p]? = some high) (hpointer : 192 ≤ high.toNat)
      (hlow : data[p + 1]? = some low) (htarget : Spells data (pointerTarget high low) labels next) :
      Spells data p labels (p + 2)

/-- The place where the name at `p` goes on: behind a label, or where a pointer leads. -/
def followName (data : List UInt8) (p : ℕ) : Option ℕ :=
  match data[p]? with
  | none => none
  | some n =>
      if n = 0 then none
      else if n.toNat < 64 then
        if p + 1 + n.toNat ≤ data.length then some (p + 1 + n.toNat) else none
      else if 192 ≤ n.toNat then (data[p + 1]?).map (pointerTarget n)
      else none

/-! ## Text -/

/-- The text of a name is its labels with dots between them. -/
theorem dotted_dropLast_eq_intercalate (labels : List (List UInt8)) :
    (dotted labels).dropLast = [nameDot].intercalate labels := by
  induction labels with
  | nil => rfl
  | cons label labels ih =>
      rcases text_cons label labels with ⟨rfl, htext⟩ | ⟨hne, htext⟩
      · rw [htext, List.append_nil]
        simp [List.intercalate]
      · obtain ⟨next, others, rfl⟩ := List.exists_cons_of_ne_nil hne
        rw [htext, ih]
        simp [List.intercalate]

/-- The dot behind the last label takes a byte. -/
theorem dotted_dropLast_lt {labels : List (List UInt8)} {n : ℕ} (hn : 0 < n) :
    (dotted labels).dropLast.length < n ↔ (dotted labels).length < n + 1 := by
  rw [List.length_dropLast]
  omega

/-! ## The walk of a reader -/

section Walk

variable {data : List UInt8} {p next : ℕ} {labels : List (List UInt8)}

theorem followName_empty (h : data[p]? = some 0) : followName data p = none := by
  rw [followName, h]
  rfl

theorem followName_label {n : UInt8} (hlength : data[p]? = some n) (hpos : n ≠ 0)
    (hlabel : n.toNat < 64) (hfits : p + 1 + n.toNat ≤ data.length) :
    followName data p = some (p + 1 + n.toNat) := by
  rw [followName, hlength]
  dsimp only
  rw [if_neg hpos, if_pos hlabel, if_pos hfits]

theorem followName_pointer {high low : UInt8} (hhigh : data[p]? = some high)
    (hpointer : 192 ≤ high.toNat) (hlow : data[p + 1]? = some low) :
    followName data p = some (pointerTarget high low) := by
  have hne : high ≠ 0 := by
    rintro rfl
    rw [UInt8.toNat_zero] at hpointer
    omega
  rw [followName, hhigh]
  dsimp only
  rw [if_neg hne, if_neg (by omega), if_pos hpointer, hlow]
  rfl

theorem lt_of_followName {q : ℕ} (h : followName data p = some q) : p < data.length := by
  by_contra hout
  rw [followName, List.getElem?_eq_none (Nat.le_of_not_lt hout)] at h
  simp at h

theorem Spells.next_ne_zero (h : Spells data p labels next) : next ≠ 0 := by
  induction h with
  | root _ => exact Nat.succ_ne_zero _
  | label _ _ _ _ _ ih => exact ih
  | pointer _ _ _ _ _ => exact Nat.succ_ne_zero _

/-- The walk over a name ends at an empty label. -/
theorem Spells.ends (h : Spells data p labels next) :
    ∃ n q, EndsAfter (followName data) n p q ∧ data[q]? = some 0 := by
  induction h with
  | @root p hempty => exact ⟨0, p, ⟨rfl, followName_empty hempty⟩, hempty⟩
  | label hlength hpos hlabel hfits _ ih =>
      obtain ⟨n, q, hends, hempty⟩ := ih
      exact ⟨n + 1, q, hends.before (followName_label hlength hpos hlabel hfits), hempty⟩
  | pointer hhigh hpointer hlow _ ih =>
      obtain ⟨n, q, hends, hempty⟩ := ih
      exact ⟨n + 1, q, hends.before (followName_pointer hhigh hpointer hlow), hempty⟩

/-- **The walk over a name takes fewer steps than the message has bytes.** -/
theorem Spells.walk (h : Spells data p labels next) :
    ∃ n q, EndsAfter (followName data) n p q ∧ n < data.length := by
  obtain ⟨n, q, hends, hempty⟩ := h.ends
  refine ⟨n, q, hends, ?_⟩
  -- each place of the walk is one of the bytes: a step leads on from it, or it is the last
  have hinside : ∀ i ≤ n, ∀ c, placeAfter (followName data) i p = some c →
      c ∈ Finset.range data.length := by
    intro i hi c hc
    rw [Finset.mem_range]
    obtain ⟨k, rfl⟩ := Nat.exists_eq_add_of_le hi
    have hrest := hends.rest hc
    cases k with
    | zero =>
        have hlast : some c = some q := hrest.reached
        rw [Option.some.injEq] at hlast
        rw [hlast]
        exact (List.getElem?_eq_some_iff.mp hempty).1
    | succ k =>
        have hon := hrest.reached
        rw [placeAfter_succ] at hon
        obtain ⟨d, hd, -⟩ := Option.bind_eq_some_iff.mp hon
        exact lt_of_followName hd
  have hcard := steps_lt_card hends (Finset.range data.length) hinside
  rwa [Finset.card_range] at hcard

/-- **A loop is no name.** -/
theorem Spells.not_loop (h : Spells data p labels next) {m k q : ℕ}
    (hreach : placeAfter (followName data) m p = some q)
    (hreturn : placeAfter (followName data) (k + 1) q = some q) : False := by
  obtain ⟨n, stop, hends, -⟩ := h.ends
  exact never_ends hreach hreturn hends

end Walk

/-- A name without pointers spells its labels. -/
theorem spells_nameBytes {labels : List (List UInt8)} (h : ∀ label ∈ labels, ValidLabel label)
    (front post : List UInt8) :
    Spells (front ++ (nameBytes labels ++ post)) front.length labels
      (front.length + (nameBytes labels).length) := by
  induction labels generalizing front with
  | nil =>
      refine Spells.root ?_
      rw [List.getElem?_append_right (Nat.le_refl _), Nat.sub_self]
      rfl
  | cons label labels ih =>
      have hvalid := h label List.mem_cons_self
      have hlength := hvalid.toNat_length
      have hne := hvalid.length_ne_zero
      obtain ⟨hpos, hlong, -⟩ := hvalid
      -- The data once more, with the label in front of the position that follows it.
      have hdata : front ++ (nameBytes (label :: labels) ++ post) =
          (front ++ UInt8.ofNat label.length :: label) ++ (nameBytes labels ++ post) := by
        rw [nameBytes_cons, List.append_assoc, List.cons_append, List.cons_append,
          List.append_assoc]
      have hfront : (front ++ UInt8.ofNat label.length :: label).length =
          front.length + 1 + (UInt8.ofNat label.length).toNat := by
        rw [List.length_append, List.length_cons, hlength]
        omega
      have hbyte : (front ++ (nameBytes (label :: labels) ++ post))[front.length]? =
          some (UInt8.ofNat label.length) := by
        rw [List.getElem?_append_right (Nat.le_refl _), Nat.sub_self, nameBytes_cons]
        rfl
      have hwindow : ((front ++ (nameBytes (label :: labels) ++ post)).drop
          (front.length + 1)).take (UInt8.ofNat label.length).toNat = label := by
        rw [hlength, ← List.drop_drop, List.drop_left, nameBytes_cons, List.cons_append,
          List.drop_succ_cons, List.drop_zero, List.append_assoc, List.take_left]
      have hsize : front.length + 1 + (UInt8.ofNat label.length).toNat ≤
          (front ++ (nameBytes (label :: labels) ++ post)).length := by
        rw [hdata, List.length_append, hfront]
        omega
      -- the rest of the name is spelled behind the label
      have htail := ih (fun l hl => h l (List.mem_cons_of_mem label hl))
        (front ++ UInt8.ofNat label.length :: label)
      rw [← hdata, hfront] at htail
      have hnext : front.length + 1 + (UInt8.ofNat label.length).toNat + (nameBytes labels).length =
          front.length + (nameBytes (label :: labels)).length := by
        rw [hlength, nameBytes_cons, List.length_cons, List.length_append]
        omega
      rw [hnext] at htail
      have hspells := Spells.label hbyte hne (by rw [hlength]; omega) hsize htail
      rwa [hwindow] at hspells

/-- A message has one name at a place. -/
theorem Spells.unique {data : List UInt8} {p next next' : ℕ} {labels others : List (List UInt8)}
    (h : Spells data p labels next) (h' : Spells data p others next') :
    labels = others ∧ next = next' := by
  -- both names start with the same byte, which tells the three kinds apart
  induction h generalizing others next' with
  | root hempty =>
      cases h' with
      | root _ => exact ⟨rfl, rfl⟩
      | label hlength hpos _ _ _ =>
          rw [hempty, Option.some.injEq] at hlength
          exact absurd hlength.symm hpos
      | pointer hhigh hpointer _ _ =>
          rw [hempty, Option.some.injEq] at hhigh
          rw [← hhigh, UInt8.toNat_zero] at hpointer
          omega
  | label hlength hpos hlabel hfits _ ih =>
      cases h' with
      | root hempty =>
          rw [hlength, Option.some.injEq] at hempty
          exact absurd hempty hpos
      | label hlength' hpos' hlabel' hfits' hrest' =>
          rw [hlength, Option.some.injEq] at hlength'
          subst hlength'
          obtain ⟨rfl, rfl⟩ := ih hrest'
          exact ⟨rfl, rfl⟩
      | pointer hhigh hpointer _ _ =>
          rw [hlength, Option.some.injEq] at hhigh
          rw [← hhigh] at hpointer
          omega
  | pointer hhigh hpointer hlow _ ih =>
      cases h' with
      | root hempty =>
          rw [hhigh, Option.some.injEq] at hempty
          rw [hempty, UInt8.toNat_zero] at hpointer
          omega
      | label hlength' hpos' hlabel' hfits' hrest' =>
          rw [hhigh, Option.some.injEq] at hlength'
          rw [hlength'] at hpointer
          omega
      | pointer hhigh' hpointer' hlow' htarget' =>
          rw [hhigh, Option.some.injEq] at hhigh'
          rw [hlow, Option.some.injEq] at hlow'
          subst hhigh' hlow'
          exact ⟨(ih htarget').1, rfl⟩

/-! ## Questions -/

/-- A question; the class is as it stands in the message, with the unicast bit. -/
structure Question where
  labels : List (List UInt8)
  type : ℕ
  recordClass : ℕ
  deriving DecidableEq

/-- The name of a question as text. -/
def Question.text (q : Question) : List UInt8 := [nameDot].intercalate q.labels

/-- The question at `p`, with a name whose text has fewer than `limit` bytes, and the place
behind it. -/
inductive QuestionAt (data : List UInt8) (limit p : ℕ) : Question → ℕ → Prop
  | mk {labels : List (List UInt8)} {next : ℕ} (name : Spells data p labels next)
      (short : ([nameDot].intercalate labels).length < limit) (fits : next + 4 ≤ data.length) :
      QuestionAt data limit p
        ⟨labels, beNat ((data.drop next).take 2), beNat ((data.drop (next + 2)).take 2)⟩ (next + 4)

/-- Questions one after the other from `p` to the last place. -/
inductive QuestionsFrom (data : List UInt8) (limit : ℕ) : ℕ → List Question → ℕ → Prop
  | nil {p : ℕ} : QuestionsFrom data limit p [] p
  | cons {p mid stop : ℕ} {q : Question} {questions : List Question}
      (first : QuestionAt data limit p q mid) (rest : QuestionsFrom data limit mid questions stop) :
      QuestionsFrom data limit p (q :: questions) stop

section Questions

variable {data : List UInt8} {limit p mid stop : ℕ} {q : Question} {front back : List Question}

theorem QuestionAt.unique {q' : Question} {mid' : ℕ} (h : QuestionAt data limit p q mid)
    (h' : QuestionAt data limit p q' mid') : q = q' ∧ mid = mid' := by
  cases h with
  | mk name _ _ =>
      cases h' with
      | mk name' _ _ =>
          obtain ⟨rfl, rfl⟩ := name.unique name'
          exact ⟨rfl, rfl⟩

theorem QuestionsFrom.split (h : QuestionsFrom data limit p (front ++ back) stop) :
    ∃ mid, QuestionsFrom data limit p front mid ∧ QuestionsFrom data limit mid back stop := by
  induction front generalizing p with
  | nil => exact ⟨p, .nil, h⟩
  | cons q front ih =>
      cases h with
      | cons first rest =>
          obtain ⟨mid, hfront, hback⟩ := ih rest
          exact ⟨mid, .cons first hfront, hback⟩

theorem QuestionsFrom.singleton (h : QuestionAt data limit p q stop) :
    QuestionsFrom data limit p [q] stop := .cons h .nil

/-- **What a message asks is determined**: of two readings from a place, one is the
beginning of the other, and as many questions are the same ones. -/
theorem QuestionsFrom.take {questions others : List Question} {stop' : ℕ}
    (h : QuestionsFrom data limit p questions stop)
    (h' : QuestionsFrom data limit p others stop') (hle : questions.length ≤ others.length) :
    others.take questions.length = questions ∧ (questions.length = others.length → stop = stop') := by
  -- at every place both sequences read the same question
  induction h generalizing others stop' with
  | nil =>
      refine ⟨rfl, ?_⟩
      intro hlength
      cases h' with
      | nil => rfl
      | cons _ _ => simp at hlength
  | cons first rest ih =>
      cases h' with
      | nil => simp at hle
      | cons first' rest' =>
          obtain ⟨rfl, rfl⟩ := first.unique first'
          rw [List.length_cons, List.length_cons] at hle
          obtain ⟨htake, hstop⟩ := ih rest' (by omega)
          refine ⟨?_, ?_⟩
          · rw [List.length_cons, List.take_succ_cons, htake]
          · intro hlength
            rw [List.length_cons, List.length_cons] at hlength
            exact hstop (by omega)

/-- A reading that is not longer than another one reads the same questions. -/
theorem QuestionsFrom.mem {others : List Question} {stop' : ℕ}
    (h : QuestionsFrom data limit p (front ++ [q]) stop)
    (h' : QuestionsFrom data limit p others stop') (hlt : front.length < others.length) :
    q ∈ others := by
  have hle : (front ++ [q]).length ≤ others.length := by
    rw [List.length_append, List.length_singleton]
    omega
  have htake := (h.take h' hle).1
  apply List.mem_of_mem_take (i := (front ++ [q]).length)
  rw [htake]
  exact List.mem_append_right front (List.mem_singleton_self q)

/-- No reading goes on behind a place where no question stands. -/
theorem QuestionsFrom.maximal {questions others : List Question} {stop' : ℕ}
    (h : QuestionsFrom data limit p questions stop)
    (hnone : ∀ q next, ¬QuestionAt data limit stop q next)
    (h' : QuestionsFrom data limit p others stop') : others.length ≤ questions.length := by
  by_contra hlong
  have htake := (h.take h' (by omega)).1
  have hwhole : QuestionsFrom data limit p
      (others.take questions.length ++ others.drop questions.length) stop' := by
    rwa [List.take_append_drop]
  obtain ⟨mid, hfront, hback⟩ := hwhole.split
  rw [htake] at hfront
  obtain rfl := (hfront.take h (Nat.le_refl _)).2 rfl
  cases hdrop : others.drop questions.length with
  | nil =>
      have hlength := congrArg List.length hdrop
      rw [List.length_drop, List.length_nil] at hlength
      omega
  | cons next rest =>
      rw [hdrop] at hback
      cases hback with
      | cons first _ => exact hnone _ _ first

/-- Two readings up to the first question of a kind are the same. -/
theorem QuestionsFrom.first_unique {kind : Question → Prop} {front' : List Question} {q' : Question}
    {stop' : ℕ} (h : QuestionsFrom data limit p (front ++ [q]) stop) (hq : kind q)
    (hfront : ∀ r ∈ front, ¬kind r) (h' : QuestionsFrom data limit p (front' ++ [q']) stop')
    (hq' : kind q') (hfront' : ∀ r ∈ front', ¬kind r) : front = front' ∧ q = q' := by
  have hlength : front.length = front'.length := by
    rcases Nat.lt_trichotomy front.length front'.length with hlt | heq | hgt
    · obtain ⟨mid, hread, -⟩ := h'.split
      exact absurd hq (hfront' q (h.mem hread hlt))
    · exact heq
    · obtain ⟨mid, hread, -⟩ := h.split
      exact absurd hq' (hfront q' (h'.mem hread hgt))
  have hlengths : (front ++ [q]).length = (front' ++ [q']).length := by
    rw [List.length_append, List.length_append, hlength]
    rfl
  have htake := (h.take h' (Nat.le_of_eq hlengths)).1
  rw [hlengths, List.take_length] at htake
  obtain ⟨hsame, hlast⟩ := List.append_inj' htake.symm rfl
  exact ⟨hsame, (List.cons.inj hlast).1⟩

/-- A reading with a question of a kind has a first one of it. -/
theorem QuestionsFrom.exists_first {kind : Question → Prop} {questions : List Question}
    (h : QuestionsFrom data limit p questions stop) (hkind : ∃ r ∈ questions, kind r) :
    ∃ front q mid, QuestionsFrom data limit p (front ++ [q]) mid ∧
      front.length < questions.length ∧ kind q ∧ ∀ r ∈ front, ¬kind r := by
  induction h with
  | nil =>
      obtain ⟨r, hr, -⟩ := hkind
      exact absurd hr List.not_mem_nil
  | @cons p mid stop q questions first rest ih =>
      by_cases hq : kind q
      · exact ⟨[], q, mid, .singleton first, Nat.succ_pos _, hq,
          fun r hr => absurd hr List.not_mem_nil⟩
      · obtain ⟨r, hr, hr'⟩ := hkind
        rcases List.mem_cons.mp hr with rfl | htail
        · exact absurd hr' hq
        · obtain ⟨front, q', mid', hread, hlt, hq', hfront⟩ := ih ⟨r, htail, hr'⟩
          refine ⟨q :: front, q', mid', .cons first hread, Nat.succ_lt_succ hlt, hq', ?_⟩
          intro r hr
          rcases List.mem_cons.mp hr with rfl | hr
          · exact hq
          · exact hfront r hr

end Questions

end PortableAirplay.Library
