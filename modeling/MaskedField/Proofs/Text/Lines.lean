/- # Where lines begin and end

A document is a first line, its line feed and the lines behind it, or one line that
nothing ends. Every fact about lines is an induction along this cut: no line holds a
line feed, the leading lines of a document are a document of their own, and lines
that are written with line feeds between or behind them are found again. A line that
ends with a carriage return is the one that is not; it comes back shorter.
-/

import Mathlib.Data.List.Basic
import MaskedField.Text.Lines

namespace MaskedField.Text

section Alphabet

variable {α : Type} [BEq α] {lineFeed carriageReturn : α}

/-- The leading lines of a document, with their line feeds: everything up to the line
feed that ends the last of them, or all if there is none. -/
def leadingLines (lineFeed : α) : Nat → List α → List α
  | 0, _ => []
  | _ + 1, [] => []
  | number + 1, x :: rest =>
    if x == lineFeed then x :: leadingLines lineFeed number rest
    else x :: leadingLines lineFeed (number + 1) rest

@[simp] theorem leadingLines_nil (number : Nat) : leadingLines lineFeed number [] = [] := by
  cases number <;> rfl

@[simp] theorem linesOf_nil : linesOf lineFeed carriageReturn [] = [] := by
  simp [linesOf, closeLines]

theorem dropReturn_subset (line : List α) : dropReturn carriageReturn line ⊆ line := by
  rw [dropReturn]
  split
  · exact List.dropLast_subset line
  · exact List.Subset.refl line

variable [LawfulBEq α]

/-- The first line of a document and the lines behind its line feed. -/
theorem linesOf_append_cons {front : List α} (hfront : lineFeed ∉ front) (rest : List α) :
    linesOf lineFeed carriageReturn (front ++ lineFeed :: rest) =
      dropReturn carriageReturn front :: linesOf lineFeed carriageReturn rest := by
  obtain ⟨first, more, hpieces⟩ :=
    List.exists_cons_of_ne_nil (List.splitOn_ne_nil lineFeed rest)
  rw [linesOf, linesOf, List.splitOn_append_cons_self_of_not_mem hfront, hpieces, closeLines]
  exact List.cons_ne_nil first more

/-- A document without a line feed is one line, unless it is empty. -/
theorem linesOf_of_not_mem {document : List α} (hline : lineFeed ∉ document)
    (hnonempty : document ≠ []) : linesOf lineFeed carriageReturn document = [document] := by
  rw [linesOf, List.splitOn_eq_singleton hline, closeLines]
  simp [hnonempty]

/-- A document is empty, one unended line, or a line, its end and a shorter document. -/
theorem linesOf_induction (lineFeed : α) {P : List α → Prop} (hempty : P [])
    (hunended : ∀ line, lineFeed ∉ line → line ≠ [] → P line)
    (hended : ∀ line rest, lineFeed ∉ line → P rest → P (line ++ lineFeed :: rest))
    (document : List α) : P document := by
  by_cases hmem : lineFeed ∈ document
  · obtain ⟨line, rest, hdocument, hline⟩ := List.eq_append_cons_of_mem hmem
    have hshorter : rest.length < document.length := by
      rw [hdocument, List.length_append, List.length_cons]
      omega
    rw [hdocument]
    exact hended line rest hline (linesOf_induction lineFeed hempty hunended hended rest)
  · by_cases hnonempty : document = []
    · rwa [hnonempty]
    · exact hunended document hmem hnonempty
termination_by document.length

/-- At most one carriage return is dropped, and nothing else. -/
theorem eq_dropReturn_or (carriageReturn : α) (line : List α) :
    line = dropReturn carriageReturn line ∨
      line = dropReturn carriageReturn line ++ [carriageReturn] := by
  rw [dropReturn]
  split
  · next hends =>
    exact .inr (List.dropLast_append_getLast? carriageReturn (beq_iff_eq.1 hends)).symm
  · exact .inl rfl

theorem dropReturn_concat (line : List α) :
    dropReturn carriageReturn (line ++ [carriageReturn]) = line := by
  simp [dropReturn]

/-- A line that does not end with a carriage return stays as it is. -/
theorem dropReturn_eq_self {line : List α} (hends : carriageReturn ∉ line.getLast?) :
    dropReturn carriageReturn line = line := by
  rw [dropReturn, if_neg]
  simpa using hends

/-- No line holds a line feed. -/
theorem lineFeed_not_mem_of_mem_linesOf {document : List α} :
    ∀ line ∈ linesOf lineFeed carriageReturn document, lineFeed ∉ line := by
  induction document using linesOf_induction lineFeed with
  | hempty => simp
  | hunended line hline hnonempty => simpa [linesOf_of_not_mem hline hnonempty] using hline
  | hended front rest hfront ih =>
    rw [linesOf_append_cons hfront, List.forall_mem_cons]
    exact ⟨fun hmem => hfront (dropReturn_subset front hmem), ih⟩

/-- One line more is one line feed further. -/
theorem leadingLines_append_cons {front : List α} (hfront : lineFeed ∉ front) (number : Nat)
    (rest : List α) :
    leadingLines lineFeed (number + 1) (front ++ lineFeed :: rest) =
      front ++ lineFeed :: leadingLines lineFeed number rest := by
  induction front with
  | nil => simp [leadingLines]
  | cons x front ih =>
    rw [List.mem_cons, not_or] at hfront
    simp [leadingLines, Ne.symm hfront.1, ih hfront.2]

theorem leadingLines_of_not_mem {document : List α} (hline : lineFeed ∉ document)
    (number : Nat) : leadingLines lineFeed (number + 1) document = document := by
  induction document with
  | nil => rfl
  | cons x rest ih =>
    rw [List.mem_cons, not_or] at hline
    simp [leadingLines, Ne.symm hline.1, ih hline.2]

/-- The leading lines have the same lines that they have in the document. -/
theorem linesOf_leadingLines (number : Nat) (document : List α) :
    linesOf lineFeed carriageReturn (leadingLines lineFeed number document) =
      (linesOf lineFeed carriageReturn document).take number := by
  induction document using linesOf_induction lineFeed generalizing number with
  | hempty => simp
  | hunended line hline hnonempty =>
    cases number with
    | zero => simp [leadingLines]
    | succ number => simp [leadingLines_of_not_mem hline, linesOf_of_not_mem hline hnonempty]
  | hended front rest hfront ih =>
    cases number with
    | zero => simp [leadingLines]
    | succ number =>
      simp [leadingLines_append_cons hfront, linesOf_append_cons hfront, ih]

end Alphabet

section Written

variable {texts : List (List Char)} (hlines : ∀ text ∈ texts, '\n' ∉ text)
  (hends : ∀ text ∈ texts, '\r' ∉ text.getLast?)
include hlines hends

/-- Lines that are each ended by a line feed are found again. -/
theorem lines_flatMap_ended : lines (texts.flatMap (· ++ ['\n'])) = texts := by
  induction texts with
  | nil => rfl
  | cons text texts ih =>
    rw [List.forall_mem_cons] at hlines hends
    rw [lines, List.flatMap_cons, List.append_assoc, List.singleton_append,
      linesOf_append_cons hlines.1, dropReturn_eq_self hends.1]
    exact congrArg (text :: ·) (ih hlines.2 hends.2)

/-- So are lines with line feeds between them, unless the last one is empty. -/
theorem lines_intercalate (hlast : [] ∉ texts.getLast?) :
    lines (['\n'].intercalate texts) = texts := by
  induction texts with
  | nil => rfl
  | cons text texts ih =>
    rw [List.forall_mem_cons] at hlines hends
    cases texts with
    | nil =>
      rw [List.intercalate_singleton]
      exact linesOf_of_not_mem hlines.1 (by simpa [eq_comm] using hlast)
    | cons next texts =>
      rw [List.intercalate_cons_cons, lines, List.append_assoc, List.singleton_append,
        linesOf_append_cons hlines.1, dropReturn_eq_self hends.1]
      exact congrArg (text :: ·) (ih hlines.2 hends.2 (by simpa using hlast))

end Written

end MaskedField.Text
