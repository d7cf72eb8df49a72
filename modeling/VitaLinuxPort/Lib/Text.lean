import Mathlib.Data.List.Infix

/-!
# Texts cut into pieces

A text cut at a separator, into words or into lines. The pieces hold none of what they were cut at, and
each is a stretch of the text.
-/

namespace VitaLinuxPort

namespace Text

variable {α : Type*} {sep : α}

/-- A piece stands between separators or at an end. -/
theorem exists_of_mem_intercalate {piece : List α} {pieces : List (List α)} (h : piece ∈ pieces) :
    ∃ before after, [sep].intercalate pieces = before ++ piece ++ after ∧
      (before = [] ∨ ∃ start, before = start ++ [sep]) ∧ (after = [] ∨ ∃ rest, after = sep :: rest) := by
  induction pieces with
  | nil => simp at h
  | cons first rest ih =>
      cases rest with
      | nil =>
          obtain rfl := List.mem_singleton.mp h
          exact ⟨[], [], by simp, .inl rfl, .inl rfl⟩
      | cons second rest =>
          rw [List.intercalate_cons_cons]
          rcases List.mem_cons.mp h with rfl | h
          · exact ⟨[], [sep] ++ [sep].intercalate (second :: rest), by simp, .inl rfl, .inr ⟨_, rfl⟩⟩
          · obtain ⟨before, after, heq, hbefore, hafter⟩ := ih h
            refine ⟨first ++ [sep] ++ before, after, by rw [heq]; simp, .inr ?_, hafter⟩
            rcases hbefore with rfl | ⟨start, rfl⟩
            · exact ⟨first, List.append_nil _⟩
            · exact ⟨first ++ [sep] ++ start, by simp⟩

theorem infix_intercalate_of_mem {piece : List α} {pieces : List (List α)} (h : piece ∈ pieces) :
    piece <:+: [sep].intercalate pieces := by
  obtain ⟨before, after, heq, -, -⟩ := exists_of_mem_intercalate h
  exact ⟨before, after, heq.symm⟩

theorem mem_of_mem_intercalate {c : α} {pieces : List (List α)}
    (h : c ∈ [sep].intercalate pieces) : c = sep ∨ ∃ piece ∈ pieces, c ∈ piece := by
  induction pieces with
  | nil => simp at h
  | cons first rest ih =>
      cases rest with
      | nil => exact .inr ⟨first, List.mem_cons_self, by simpa using h⟩
      | cons second rest =>
          rw [List.intercalate_cons_cons, List.mem_append, List.mem_append, List.mem_singleton] at h
          rcases h with (hfirst | hsep) | hrest
          · exact .inr ⟨first, List.mem_cons_self, hfirst⟩
          · exact .inl hsep
          · refine (ih hrest).imp_right ?_
            rintro ⟨piece, hmem, hc⟩
            exact ⟨piece, List.mem_cons_of_mem first hmem, hc⟩

section Pieces

variable [BEq α] [LawfulBEq α]

theorem infix_of_mem_splitOn {text piece : List α} (h : piece ∈ text.splitOn sep) :
    piece <:+: text := by
  have hmem : piece <:+: [sep].intercalate (text.splitOn sep) := infix_intercalate_of_mem h
  rwa [List.intercalate_splitOn] at hmem

theorem exists_of_mem_splitOn {text piece : List α} (h : piece ∈ text.splitOn sep) :
    ∃ before after, text = before ++ piece ++ after ∧
      (before = [] ∨ ∃ start, before = start ++ [sep]) ∧ (after = [] ∨ ∃ rest, after = sep :: rest) := by
  obtain ⟨before, after, heq, hends⟩ := exists_of_mem_intercalate h
  rw [List.intercalate_splitOn] at heq
  exact ⟨before, after, heq, hends⟩

theorem notMem_of_mem_splitOn {text piece : List α} (h : piece ∈ text.splitOn sep) :
    sep ∉ piece := by
  induction text generalizing piece with
  | nil => simp_all
  | cons c text ih =>
      by_cases hc : c = sep
      · subst hc
        rw [List.splitOn_cons_eq_if_modifyHead, if_pos (BEq.refl c), List.mem_cons] at h
        exact h.elim (by rintro rfl; exact List.not_mem_nil) ih
      · obtain ⟨first, rest, hsplit⟩ := List.exists_cons_of_ne_nil (List.splitOn_ne_nil sep text)
        rw [List.splitOn_cons_eq_if_modifyHead, if_neg (by simpa using hc), hsplit,
          List.modifyHead_cons, List.mem_cons] at h
        rcases h with rfl | h
        · have hfirst : sep ∉ first := ih (hsplit ▸ List.mem_cons_self)
          simpa [hfirst] using Ne.symm hc
        · exact ih (hsplit ▸ List.mem_cons_of_mem first h)

end Pieces

section Lines

variable [BEq α]

/-- The lines of a text, each of which `sep` ends. -/
def terminatedLines (sep : α) (text : List α) : List (List α) := (text.splitOn sep).dropLast

/-- What follows the last `sep`. -/
def afterLast (sep : α) (text : List α) : List α := (text.splitOn sep).getLastD []

/-- The lines of a text, the last of which may lack its end. -/
def lines (sep : α) (text : List α) : List (List α) :=
  terminatedLines sep text ++ if (afterLast sep text).isEmpty then [] else [afterLast sep text]

/-- What precedes the last `sep`, all of a text without one. -/
def beforeLast (sep : α) (text : List α) : List α :=
  if text.contains sep then [sep].intercalate (terminatedLines sep text) else text

/-- A text without its last `sep`s. -/
def dropTrailing (sep : α) (text : List α) : List α := (text.reverse.dropWhile (· == sep)).reverse

theorem mem_splitOn_of_mem_lines {text piece : List α} (h : piece ∈ lines sep text) :
    piece ∈ text.splitOn sep := by
  rcases List.mem_append.mp h with hline | hlast
  · exact List.mem_of_mem_dropLast hline
  · split_ifs at hlast
    · simp at hlast
    · rw [List.mem_singleton.mp hlast, afterLast,
        List.getLastD_eq_getLast?, List.getLast?_eq_getLast_of_ne_nil (List.splitOn_ne_nil sep text)]
      exact List.getLast_mem _

theorem dropTrailing_prefix (text : List α) : dropTrailing sep text <+: text := by
  rw [dropTrailing, ← List.reverse_suffix, List.reverse_reverse]
  exact List.dropWhile_suffix _

section Lawful

variable [LawfulBEq α]

theorem dropTrailing_eq_self_iff {text : List α} :
    dropTrailing sep text = text ↔ text.getLast? ≠ some sep := by
  rw [dropTrailing, ← List.head?_reverse]
  constructor
  · intro h hlast
    obtain ⟨rest, hrest⟩ := List.head?_eq_some_iff.mp hlast
    have hlength := congrArg List.length h
    rw [hrest, List.dropWhile_cons_of_pos (by simp), List.length_reverse] at hlength
    have hle := (List.dropWhile_suffix (l := rest) (· == sep)).length_le
    have htext := congrArg List.length hrest
    rw [List.length_reverse, List.length_cons] at htext
    omega
  · intro hlast
    cases hreverse : text.reverse with
    | nil => simpa using hreverse.symm
    | cons c rest =>
        have hne : c ≠ sep := fun heq => hlast (by rw [hreverse, heq]; rfl)
        rw [List.dropWhile_cons_of_neg (by simpa using hne), ← hreverse, List.reverse_reverse]

theorem dropTrailing_of_notMem {text : List α} (h : sep ∉ text) : dropTrailing sep text = text :=
  dropTrailing_eq_self_iff.mpr fun hlast => h (List.mem_of_getLast? hlast)

/-- Pieces without the separator, the last of which is not empty, are the lines of what they make. -/
theorem lines_intercalate {pieces : List (List α)} {last : List α}
    (h : ∀ piece ∈ pieces ++ [last], sep ∉ piece) (hlast : last ≠ []) :
    lines sep ([sep].intercalate (pieces ++ [last])) = pieces ++ [last] := by
  have hsplit : ([sep].intercalate (pieces ++ [last])).splitOn sep = pieces ++ [last] :=
    List.splitOn_intercalate sep h (by simp)
  rw [lines, terminatedLines, afterLast, hsplit, List.dropLast_concat, List.getLastD_concat,
    if_neg (by simpa using hlast)]

end Lawful

end Lines

/-- The words of a text: its longest stretches without a blank. -/
def words (blank : α → Bool) (text : List α) : List (List α) :=
  (text.splitOnP blank).filter fun word => !word.isEmpty

section Words

variable {blank : α → Bool}

theorem words_eq_singleton {word : List α} (hne : word ≠ []) (h : ∀ c ∈ word, blank c = false) :
    words blank word = [word] := by
  rw [words, List.splitOnP_eq_singleton h]
  simp [hne]

theorem words_append_cons {word : List α} {c : α} (text : List α) (hc : blank c = true)
    (hne : word ≠ []) (h : ∀ c ∈ word, blank c = false) :
    words blank (word ++ c :: text) = word :: words blank text := by
  rw [words, List.splitOnP_append_cons_of_forall_mem h c hc]
  simp [hne, words]

theorem mem_words_iff [DecidableEq α] {text word : List α} :
    word ∈ words (fun c => decide (c = sep)) text ↔ word ∈ text.splitOn sep ∧ word ≠ [] := by
  have hsplit : text.splitOn sep = text.splitOnP fun c => decide (c = sep) := rfl
  rw [words, List.mem_filter, hsplit]
  simp

/-- Words without the separator are the words of the text that they make. -/
theorem words_intercalate [DecidableEq α] {pieces : List (List α)}
    (h : ∀ piece ∈ pieces, sep ∉ piece ∧ piece ≠ []) :
    words (fun c => decide (c = sep)) ([sep].intercalate pieces) = pieces := by
  by_cases hnil : pieces = []
  · subst hnil
    rfl
  have hsplit : ([sep].intercalate pieces).splitOnP (fun c => decide (c = sep)) = pieces :=
    List.splitOn_intercalate sep (fun piece hpiece => (h piece hpiece).1) hnil
  rw [words, hsplit, List.filter_eq_self]
  intro piece hpiece
  simpa using (h piece hpiece).2

/-- The last word is what follows the last blank. -/
theorem words_append_word {word : List α} {c : α} (text : List α) (hc : blank c = true)
    (hne : word ≠ []) (h : ∀ c ∈ word, blank c = false) :
    words blank (text ++ c :: word) = words blank text ++ [word] := by
  rw [words, List.splitOnP_append_cons text word hc, List.filter_append]
  exact congrArg _ (words_eq_singleton hne h)

end Words

section Search

variable {β : Type*} {matchAt : List α → Option β}

/-- The first place of a text at which a pattern matches. -/
def firstMatch (matchAt : List α → Option β) : List α → Option β
  | [] => matchAt []
  | c :: text => (matchAt (c :: text)).or (firstMatch matchAt text)

theorem firstMatch_of_some {text : List α} {b : β} (h : matchAt text = some b) :
    firstMatch matchAt text = some b := by
  cases text with
  | nil => exact h
  | cons c text => rw [firstMatch, h, Option.some_or]

/-- A beginning in which no match starts is passed over. -/
theorem firstMatch_append {start rest : List α}
    (h : ∀ tail, tail ≠ [] → tail <:+ start → matchAt (tail ++ rest) = none) :
    firstMatch matchAt (start ++ rest) = firstMatch matchAt rest := by
  induction start with
  | nil => rfl
  | cons c start ih =>
      have hnone := h (c :: start) (List.cons_ne_nil c start) List.suffix_rfl
      rw [List.cons_append] at hnone ⊢
      rw [firstMatch, hnone, Option.none_or]
      exact ih fun tail hne htail => h tail hne (htail.trans (List.suffix_cons c start))

/-- The last place of a text at which a pattern matches. -/
def lastMatch (matchAt : List α → Option β) : List α → Option β
  | [] => matchAt []
  | c :: text => (lastMatch matchAt text).or (matchAt (c :: text))

end Search

/-- A number is printed in one way only. -/
theorem toDigits_eq_iff (m n : Nat) : Nat.toDigits 10 m = Nat.toDigits 10 n ↔ m = n := by
  constructor
  · intro h
    rw [← @Nat.ofDigitChars_ten_toDigits m, h, Nat.ofDigitChars_ten_toDigits]
  · rintro rfl
    rfl

/-- Only zero is printed with a zero in front. -/
theorem eq_zero_of_toDigits {n : Nat} {rest : List Char} (h : Nat.toDigits 10 n = '0' :: rest) :
    n = 0 := by
  induction n using Nat.strongRecOn generalizing rest with
  | ind n ih =>
      rcases Nat.lt_or_ge n 10 with hsmall | hlarge
      · rw [Nat.toDigits_of_lt_base hsmall] at h
        have hdigit : n.digitChar = '0' := (List.cons.inj h).1
        have hnone : ∀ digit < 10, Nat.digitChar digit = '0' → digit = 0 := by decide
        exact hnone n hsmall hdigit
      · rw [Nat.toDigits_of_base_le (by decide) hlarge] at h
        obtain ⟨front, hfront⟩ : ∃ front, Nat.toDigits 10 (n / 10) = '0' :: front := by
          cases hdigits : Nat.toDigits 10 (n / 10) with
          | nil => exact absurd hdigits Nat.toDigits_ne_nil
          | cons c front =>
              rw [hdigits, List.cons_append] at h
              exact ⟨front, by rw [(List.cons.inj h).1]⟩
        have hnone := ih (n / 10) (by omega) hfront
        omega

end Text

end VitaLinuxPort
