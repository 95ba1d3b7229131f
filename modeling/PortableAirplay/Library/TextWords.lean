import Mathlib.Data.List.Basic
import Mathlib.Data.List.TakeWhile

/-!
# Words of a text

A text is split at separators; its words are the pieces that are not empty
(`words`). A scanner that skips separators and takes a word finds the words one by one
(`words_skip`, `words_word`). A scanner that takes at most `width` elements of a word leaves the
rest of a longer word behind, and this counts as a word of its own (`words_drop_width`).
The pieces themselves are met by a scanner that keeps the place of the last separator
(`splitOnP_append`, `exists_splitOnP_eq_cons`).
-/

set_option autoImplicit false

namespace PortableAirplay.Library

universe u

variable {α : Type u} {sep : α → Bool}

/-- The pieces between separators that are not empty. -/
def words (sep : α → Bool) (text : List α) : List (List α) :=
  (text.splitOnP sep).filter fun piece => !piece.isEmpty

@[simp] theorem words_nil : words sep [] = [] := rfl

theorem words_sep {c : α} (hc : sep c = true) (text : List α) :
    words sep (c :: text) = words sep text := by
  rw [words, List.splitOnP_cons_eq_if_modifyHead, if_pos hc]
  rfl

/-- Separators in front do not matter. -/
theorem words_skip (text : List α) : words sep (text.dropWhile sep) = words sep text := by
  induction text with
  | nil => rfl
  | cons c text ih =>
      by_cases hc : sep c = true
      · rw [List.dropWhile_cons_of_pos hc, ih, words_sep hc]
      · rw [List.dropWhile_cons_of_neg hc]

/-- A word stands in front, up to a separator or the end. -/
theorem words_word {word rest : List α} (hword : ∀ c ∈ word, sep c = false) (hne : word ≠ [])
    (hrest : ∀ c ∈ rest.head?, sep c = true) :
    words sep (word ++ rest) = word :: words sep rest := by
  have hkept : (fun piece : List α => !piece.isEmpty) word = true := by simp [hne]
  cases rest with
  | nil =>
      rw [words, List.append_nil, List.splitOnP_eq_singleton hword]
      exact List.filter_cons_of_pos hkept
  | cons c rest =>
      have hc : sep c = true := hrest c rfl
      rw [words_sep hc, words, List.splitOnP_append_cons_of_forall_mem hword c hc]
      exact List.filter_cons_of_pos hkept

/-- The first word of a text, with what comes behind it. -/
theorem words_eq (text : List α) (hstart : text.dropWhile sep ≠ []) :
    words sep text = (text.dropWhile sep).takeWhile (fun c => !sep c) ::
      words sep ((text.dropWhile sep).dropWhile fun c => !sep c) := by
  have hsplit := List.takeWhile_append_dropWhile (p := fun c => !sep c) (l := text.dropWhile sep)
  conv_lhs => rw [← words_skip, ← hsplit]
  apply words_word
  · intro c hc
    simpa using List.mem_takeWhile_imp hc
  · intro hempty
    obtain ⟨c, start, hcons⟩ := List.exists_cons_of_ne_nil hstart
    have hhead : sep c = false := by
      have := List.head?_dropWhile_not sep text
      simpa [hcons] using this
    rw [hcons, List.takeWhile_cons_of_pos (by simp [hhead])] at hempty
    exact List.cons_ne_nil _ _ hempty
  · intro c hc
    have := List.head?_dropWhile_not (fun c => !sep c) (text.dropWhile sep)
    rw [hc] at this
    simpa using this

theorem words_eq_nil {text : List α} : words sep text = [] ↔ text.dropWhile sep = [] := by
  constructor
  · intro h
    by_contra hstart
    rw [words_eq text hstart] at h
    exact List.cons_ne_nil _ _ h
  · intro h
    rw [← words_skip, h, words_nil]

theorem ne_nil_of_mem_words {text word : List α} (h : word ∈ words sep text) : word ≠ [] := by
  have := (List.mem_filter.mp h).2
  simpa using this

/-- What is left when at most `width` elements of the first word are taken. -/
theorem words_drop_width {text word : List α} {more : List (List α)} (width : ℕ)
    (h : words sep text = word :: more) :
    ∃ start, text.dropWhile sep = start ∧ start.takeWhile (fun c => !sep c) = word ∧
      words sep (start.drop (word.take width).length) =
        if word.length ≤ width then more else word.drop width :: more := by
  have hstart : text.dropWhile sep ≠ [] := by
    intro hnil
    rw [words_eq_nil.mpr hnil] at h
    exact List.cons_ne_nil _ _ h.symm
  rw [words_eq text hstart, List.cons.injEq] at h
  obtain ⟨hword, hmore⟩ := h
  have hsplit := List.takeWhile_append_dropWhile (p := fun c => !sep c) (l := text.dropWhile sep)
  rw [hword] at hsplit
  refine ⟨_, rfl, hword, ?_⟩
  conv_lhs => rw [← hsplit]
  -- the whole word is dropped, or a part of it that does not end at a separator
  by_cases hwidth : word.length ≤ width
  · rw [if_pos hwidth, List.take_of_length_le hwidth, List.drop_left, hmore]
  · have hlen : (word.take width).length = width := by
      rw [List.length_take]
      omega
    rw [if_neg hwidth, hlen, List.drop_append_of_le_length (by omega), words_word, hmore]
    · intro c hc
      have hmem : c ∈ (text.dropWhile sep).takeWhile fun c => !sep c := by
        rw [hword]
        exact List.mem_of_mem_drop hc
      simpa using List.mem_takeWhile_imp hmem
    · intro hnil
      rw [List.drop_eq_nil_iff] at hnil
      omega
    · intro c hc
      have := List.head?_dropWhile_not (fun c => !sep c) (text.dropWhile sep)
      rw [hc] at this
      simpa using this

/-! ## Pieces -/

/-- A front without separators belongs to the first piece. -/
theorem splitOnP_append {front : List α} (hfront : ∀ c ∈ front, sep c = false) (text : List α) :
    (front ++ text).splitOnP sep = (text.splitOnP sep).modifyHead (front ++ ·) := by
  induction front with
  | nil =>
      obtain ⟨piece, more, hpieces⟩ :=
        List.exists_cons_of_ne_nil (List.splitOnP_ne_nil sep text)
      rw [List.nil_append, hpieces]
      rfl
  | cons c front ih =>
      rw [List.forall_mem_cons] at hfront
      rw [List.cons_append, List.splitOnP_cons_eq_if_modifyHead, hfront.1,
        if_neg Bool.false_ne_true, ih hfront.2, List.modifyHead_modifyHead]
      rfl

/-- The first piece reaches up to the first separator. -/
theorem exists_splitOnP_eq_cons (sep : α → Bool) (text : List α) :
    ∃ more, text.splitOnP sep = text.takeWhile (fun c => !sep c) :: more := by
  induction text with
  | nil => exact ⟨[], rfl⟩
  | cons c text ih =>
      rw [List.splitOnP_cons_eq_if_modifyHead]
      by_cases hc : sep c = true
      · rw [if_pos hc, List.takeWhile_cons_of_neg (by simp [hc])]
        exact ⟨_, rfl⟩
      · obtain ⟨more, hmore⟩ := ih
        rw [if_neg hc, List.takeWhile_cons_of_pos (by simpa using hc), hmore]
        exact ⟨more, rfl⟩

end PortableAirplay.Library
