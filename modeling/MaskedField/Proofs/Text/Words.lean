/- # Words and line ends

A word is a row of characters without a blank, and not empty. Words are what
cutting a line at its blanks gives, and a line that is put together from words
gives them back. Blanks in front of a line and end marks behind it are removed
only where the line has them, so a line that starts and ends with a word is left
alone.
-/

import Mathlib.Data.List.DropRight
import MaskedField.Text.Blank
import MaskedField.Text.Decimal

namespace MaskedField.Text

/-- End marks are blank. -/
theorem isBlank_of_isLineEnd {c : Char} (hend : isLineEnd c = true) : isBlank c = true := by
  rw [isLineEnd, Bool.or_eq_true, beq_iff_eq, beq_iff_eq] at hend
  rcases hend with rfl | rfl <;> decide

/-- A row of characters that cutting at blanks leaves whole. -/
structure IsWord (word : List Char) : Prop where
  ne_nil : word ≠ []
  not_blank : ∀ c ∈ word, isBlank c = false

theorem isWord_iff {word : List Char} :
    (!word.isEmpty && word.all fun c => !isBlank c) = true ↔ IsWord word := by
  simp only [Bool.and_eq_true, Bool.not_eq_true', List.isEmpty_eq_false_iff, List.all_eq_true]
  exact ⟨fun ⟨hnonempty, hsolid⟩ => ⟨hnonempty, hsolid⟩,
    fun hword => ⟨hword.ne_nil, hword.not_blank⟩⟩

instance (word : List Char) : Decidable (IsWord word) :=
  decidable_of_iff _ isWord_iff

/-- A word stays one with more characters in front that are not blank. -/
theorem IsWord.append {first second : List Char} (hfirst : ∀ c ∈ first, isBlank c = false)
    (hsecond : IsWord second) : IsWord (first ++ second) where
  ne_nil := List.append_ne_nil_of_right_ne_nil first hsecond.ne_nil
  not_blank := fun c hc =>
    (List.mem_append.1 hc).elim (hfirst c) (hsecond.not_blank c)

/-- No word is cut by the end of a line. -/
theorem IsWord.lineFeed_not_mem {word : List Char} (hword : IsWord word) : '\n' ∉ word := by
  intro hmem
  exact absurd (hword.not_blank '\n' hmem) (by decide)

/-- A line that ends with a word does not end with an end mark. -/
theorem IsWord.not_isLineEnd_getLast? {word : List Char} (hword : IsWord word)
    (front : List Char) : ∀ c ∈ (front ++ word).getLast?, isLineEnd c = false := by
  intro c hc
  rw [List.getLast?_append_of_ne_nil front hword.ne_nil] at hc
  apply Bool.eq_false_iff.2
  intro hend
  have hsolid := hword.not_blank c (List.mem_of_getLast? hc)
  rw [isBlank_of_isLineEnd hend] at hsolid
  cases hsolid

/-- The pieces of a row hold what is in the row, but nothing that it was cut at. -/
theorem mem_of_mem_splitOnP (isCut : Char → Bool) (line : List Char) :
    ∀ piece ∈ line.splitOnP isCut, ∀ c ∈ piece, c ∈ line ∧ isCut c = false := by
  induction line with
  | nil => simp
  | cons c line ih =>
    have hbehind (piece : List Char) (hpiece : piece ∈ line.splitOnP isCut) :
        ∀ d ∈ piece, d ∈ c :: line ∧ isCut d = false :=
      fun d hd => (ih piece hpiece d hd).imp_left (List.mem_cons_of_mem c)
    rw [List.splitOnP_cons_eq_if_modifyHead]
    split
    · simpa using hbehind
    · next hkept =>
      cases hpieces : line.splitOnP isCut with
      | nil => exact absurd hpieces (List.splitOnP_ne_nil isCut line)
      | cons first more =>
        rw [hpieces] at hbehind
        simpa [hkept] using hbehind

/-- Every word of a line is a word. -/
theorem isWord_of_mem_words {line word : List Char} (hword : word ∈ words line) :
    IsWord word := by
  obtain ⟨hpiece, hnonempty⟩ := List.mem_filter.1 hword
  have hsolid : ∀ c ∈ word, isBlank c = false := by
    intro c hc
    exact (mem_of_mem_splitOnP isBlank line word hpiece c hc).2
  exact ⟨by simpa using hnonempty, hsolid⟩

/-- A word is the only word of its line. -/
theorem words_of_isWord {word : List Char} (hword : IsWord word) : words word = [word] := by
  rw [words, List.splitOnP_eq_singleton hword.not_blank]
  simp [hword.ne_nil]

/-- A blank belongs to no word: it ends the words in front of it, and the words behind it
begin anew. -/
theorem words_append_blank {c : Char} (hblank : isBlank c = true) (front back : List Char) :
    words (front ++ c :: back) = words front ++ words back := by
  rw [words, List.splitOnP_append_cons front back hblank, List.filter_append, words, words]

/-- A word in front of a blank is the first word of its line. -/
theorem words_append_cons {word : List Char} (hword : IsWord word) {c : Char}
    (hblank : isBlank c = true) (rest : List Char) :
    words (word ++ c :: rest) = word :: words rest := by
  rw [words_append_blank hblank, words_of_isWord hword, List.singleton_append]

section Blanks

variable {blanks : List Char} (hblanks : ∀ c ∈ blanks, isBlank c = true) (line : List Char)
include hblanks

/-- Blanks in front of a line add no words. -/
theorem words_blanks_append : words (blanks ++ line) = words line := by
  induction blanks with
  | nil => rfl
  | cons c blanks ih =>
    rw [List.forall_mem_cons] at hblanks
    exact (words_append_blank hblanks.1 [] (blanks ++ line)).trans (ih hblanks.2)

/-- Blanks behind a line add no words. -/
theorem words_append_blanks : words (line ++ blanks) = words line := by
  cases blanks with
  | nil => rw [List.append_nil]
  | cons c blanks =>
    rw [List.forall_mem_cons] at hblanks
    have hnone := words_blanks_append hblanks.2 []
    rw [List.append_nil] at hnone
    rw [words_append_blank hblanks.1, hnone]
    exact List.append_nil _

end Blanks

theorem words_trimStart (line : List Char) : words (trimStart line) = words line := by
  have hblanks : ∀ c ∈ line.takeWhile isBlank, isBlank c = true :=
    fun c hc => List.mem_takeWhile_imp hc
  rw [← words_blanks_append hblanks, trimStart, List.takeWhile_append_dropWhile]

theorem trimStart_suffix (line : List Char) : trimStart line <:+ line :=
  List.dropWhile_suffix isBlank

/-- A line that starts with a word has no blanks in front. -/
theorem trimStart_append {word : List Char} (hword : IsWord word) (rest : List Char) :
    trimStart (word ++ rest) = word ++ rest := by
  obtain ⟨c, more, rfl⟩ := List.exists_cons_of_ne_nil hword.ne_nil
  have hsolid := hword.not_blank c List.mem_cons_self
  rw [trimStart, List.cons_append, List.dropWhile_cons_of_neg (by simp [hsolid])]

/-- Digits are not blank. -/
theorem not_isBlank_of_isDigit {c : Char} (hdigit : c.isDigit = true) : isBlank c = false := by
  have hrange : 48 ≤ c.toNat ∧ c.toNat ≤ 57 := by
    simpa [Char.isDigit, UInt32.le_iff_toNat_le] using hdigit
  simp only [isBlank, blankRanges, List.any_cons, List.any_nil, Bool.or_false,
    Bool.or_eq_false_iff, Bool.and_eq_false_iff, decide_eq_false_iff_not]
  omega

/-- Letters are not blank. -/
theorem not_isBlank_of_isAlpha {c : Char} (hletter : c.isAlpha = true) : isBlank c = false := by
  have hrange : 65 ≤ c.toNat ∧ c.toNat ≤ 90 ∨ 97 ≤ c.toNat ∧ c.toNat ≤ 122 := by
    delta Char.isAlpha Char.isUpper Char.isLower at hletter
    simpa [UInt32.le_iff_toNat_le] using hletter
  simp only [isBlank, blankRanges, List.any_cons, List.any_nil, Bool.or_false,
    Bool.or_eq_false_iff, Bool.and_eq_false_iff, decide_eq_false_iff_not]
  omega

/-- A number is written as a word. -/
theorem isWord_print (number : Nat) : IsWord (Decimal.print number) where
  ne_nil := Nat.toDigits_ne_nil
  not_blank := fun _ hc => not_isBlank_of_isDigit (Decimal.isDigit_of_mem_print hc)

section Trailing

variable {α : Type} {isDropped : α → Bool} {list : List α}

/-- Nothing is removed exactly if the last element stays. -/
theorem dropTrailing_eq_self_iff :
    dropTrailing isDropped list = list ↔ ∀ x ∈ list.getLast?, isDropped x = false := by
  have hkeeps : dropTrailing isDropped list = list ↔
      ∀ hnonempty : list ≠ [], ¬ isDropped (list.getLast hnonempty) = true :=
    List.rdropWhile_eq_self_iff
  rw [hkeeps]
  cases list with
  | nil => simp
  | cons x rest => simp [List.getLast?_eq_some_getLast (List.cons_ne_nil x rest)]

theorem dropTrailing_subset : dropTrailing isDropped list ⊆ list :=
  (List.rdropWhile_prefix isDropped list).subset

/-- Nothing is removed in front of an element that stays. -/
theorem dropTrailing_append_cons {x : α} (hkept : isDropped x = false) (front rest : List α) :
    dropTrailing isDropped (front ++ x :: rest) = front ++ x :: dropTrailing isDropped rest := by
  rw [dropTrailing, List.reverse_append, List.reverse_cons, List.append_assoc,
    List.singleton_append, List.dropWhile_append]
  split
  · next hempty =>
    rw [List.isEmpty_iff] at hempty
    simp [dropTrailing, hempty, hkept]
  · simp [dropTrailing]

/-- What is left does not end with an element to be removed. -/
theorem getLast?_dropTrailing :
    ∀ x ∈ (dropTrailing isDropped list).getLast?, isDropped x = false :=
  dropTrailing_eq_self_iff.1 (List.rdropWhile_idempotent isDropped list)

end Trailing

/-- What is dropped at the end of a line is blank. -/
theorem exists_eq_dropLineEnds_append (line : List Char) :
    ∃ ends, (∀ c ∈ ends, isBlank c = true) ∧ line = dropLineEnds line ++ ends :=
  ⟨line.rtakeWhile isLineEnd, fun _ hc => isBlank_of_isLineEnd (List.mem_rtakeWhile_imp hc),
    List.rdropWhile_append_rtakeWhile.symm⟩

theorem words_dropLineEnds (line : List Char) : words (dropLineEnds line) = words line := by
  obtain ⟨ends, hends, hline⟩ := exists_eq_dropLineEnds_append line
  nth_rewrite 2 [hline]
  exact (words_append_blanks hends (dropLineEnds line)).symm

end MaskedField.Text
