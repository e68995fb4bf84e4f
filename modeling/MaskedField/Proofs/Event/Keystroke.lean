/- # Keystrokes and their words

A keystroke is written as one word. Two readings could disturb it: a blank cuts the
word, and a plus sign cuts it once more, into modifiers and the name of the key.
The keys that survive both, and whose name means nothing else, are the writable
ones; every other keystroke is lost or changed when it is written and read again.
What is read is always writable.
-/

import Mathlib.Tactic.SplitIfs
import MaskedField.Event.Printer
import MaskedField.Event.Reader
import MaskedField.Proofs.Text.Words

namespace MaskedField

open Text

namespace Key

/-- The long names, in lower case, that stand for a key with a form of its own. -/
def reservedNames : List (List Char) :=
  ["space".toList, "left".toList, "arrowleft".toList, "right".toList, "arrowright".toList,
    "backspace".toList, "delete".toList, "del".toList, "tab".toList]

/-- The key is the one that its printed name stands for. -/
def Writable : Key → Prop
  | char c => c = ' ' ∨ isBlank c = false
  | named name =>
    2 ≤ name.length ∧ (∀ c ∈ name, isBlank c = false) ∧ '+' ∉ name.dropLast ∧
      lowerCase name ∉ reservedNames
  | _ => True

/-- A long name that is not reserved names itself. -/
theorem ofLongName_eq_named {name : List Char} (hfree : lowerCase name ∉ reservedNames) :
    ofLongName name = named name := by
  simp only [reservedNames, List.mem_cons, List.not_mem_nil, or_false, not_or] at hfree
  simp only [ofLongName, hfree, decide_false, Bool.or_self, Bool.false_eq_true, if_false]

theorem writable_ofLongName {name : List Char} (hreserved : lowerCase name ∈ reservedNames) :
    (ofLongName name).Writable := by
  simp only [reservedNames, List.mem_cons, List.not_mem_nil, or_false] at hreserved
  simp only [ofLongName, Bool.or_eq_true, decide_eq_true_eq]
  split_ifs with hspace hleft hright hbackspace hdelete htab
  · exact .inl rfl
  · trivial
  · trivial
  · trivial
  · trivial
  · trivial
  · simp_all only [not_or, or_self]

theorem ofName_of_two_le {name : List Char} (hlong : 2 ≤ name.length) :
    ofName name = ofLongName name := by
  match name, hlong with
  | _ :: _ :: _, _ => rfl

/-- The key of a word is writable if no plus sign stands before its last character. -/
theorem writable_ofName {name : List Char} (hword : IsWord name) (hplus : '+' ∉ name.dropLast) :
    (ofName name).Writable := by
  match name, hword, hplus with
  | [], hword, _ => exact absurd rfl hword.ne_nil
  | [c], hword, _ => exact .inr (hword.not_blank c List.mem_cons_self)
  | c :: d :: rest, hword, hplus =>
    rw [ofName_of_two_le (by simp)]
    by_cases hreserved : lowerCase (c :: d :: rest) ∈ reservedNames
    · exact writable_ofLongName hreserved
    · rw [ofLongName_eq_named hreserved]
      exact ⟨by simp, hword.not_blank, hplus, hreserved⟩

/-- The printed name of a writable key is a word, no plus sign stands before its last
character, and it stands for the key. -/
theorem print_of_writable {key : Key} (hwritable : key.Writable) :
    IsWord key.print ∧ '+' ∉ key.print.dropLast ∧ ofName key.print = key := by
  cases key with
  | char c =>
    by_cases hspace : c = ' '
    · subst hspace
      decide +kernel
    · have hprint : (char c).print = [c] := if_neg hspace
      have hsolid : ∀ d ∈ [c], isBlank d = false :=
        List.forall_mem_singleton.2 (hwritable.resolve_left hspace)
      rw [hprint]
      exact ⟨⟨List.cons_ne_nil c [], hsolid⟩, List.not_mem_nil, rfl⟩
  | named name =>
    obtain ⟨hlong, hsolid, hplus, hfree⟩ := hwritable
    have hnonempty : name ≠ [] :=
      List.ne_nil_of_length_pos (Nat.lt_of_lt_of_le Nat.two_pos hlong)
    exact ⟨⟨hnonempty, hsolid⟩, hplus,
      (ofName_of_two_le hlong).trans (ofLongName_eq_named hfree)⟩
  | arrowLeft | arrowRight | backspace | delete | tab => decide +kernel

end Key

namespace Modifier

/-- The word of a modifier, as it stands before its plus sign. -/
def word (modifier : Modifier) : List Char :=
  modifier.label.dropLast

theorem label_eq (modifier : Modifier) : modifier.label = modifier.word ++ ['+'] := by
  cases modifier <;> decide +kernel

theorem ofWord?_word (modifier : Modifier) : ofWord? modifier.word = some modifier := by
  cases modifier <;> decide +kernel

theorem plus_not_mem_word (modifier : Modifier) : '+' ∉ modifier.word := by
  cases modifier <;> decide +kernel

theorem isWord_label (modifier : Modifier) : IsWord modifier.label := by
  cases modifier <;> decide +kernel

end Modifier

/-- The modifiers held are the ones that their labels hold down. -/
theorem Modifiers.foldl_hold (held : Modifiers) :
    (Modifier.all.filter held.holds).foldl Modifiers.hold .none = held := by
  rcases held with ⟨_ | _, _ | _, _ | _, _ | _⟩ <;> rfl

namespace Keystroke

/-- A word in front of others is a modifier, unless it is a name that ends with the
plus sign. -/
theorem ofWords?_cons {held : Modifiers} {word : List Char} {words : List (List Char)}
    (hmore : words ≠ []) (hname : words ≠ [[]]) :
    ofWords? held (word :: words) =
      (Modifier.ofWord? word).bind fun modifier => ofWords? (held.hold modifier) words := by
  rw [ofWords?]
  · cases Modifier.ofWord? word <;> rfl
  · exact hmore
  · exact hname

/-- Only the empty text is cut into one empty piece. -/
theorem splitOn_ne_singleton_nil {name : List Char} (hname : name ≠ []) :
    name.splitOn '+' ≠ [[]] := by
  intro hsplit
  have hjoined : ['+'].intercalate (name.splitOn '+') = name := List.intercalate_splitOn '+'
  rw [hsplit] at hjoined
  exact hname hjoined.symm

/-- What stands in front of a plus sign with something behind it is a modifier. -/
theorem ofWords?_prefix {word rest : List Char} (hword : '+' ∉ word) (hrest : rest ≠ [])
    (held : Modifiers) :
    ofWords? held ((word ++ '+' :: rest).splitOn '+') =
      (Modifier.ofWord? word).bind fun modifier =>
        ofWords? (held.hold modifier) (rest.splitOn '+') := by
  rw [List.splitOn_append_cons_self_of_not_mem hword,
    ofWords?_cons (List.splitOn_ne_nil '+' rest) (splitOn_ne_singleton_nil hrest)]

/-- Labels in front of a name hold their modifiers down, one after another. -/
theorem ofWords?_labels {name : List Char} (hname : name ≠ []) (modifiers : List Modifier)
    (held : Modifiers) :
    ofWords? held ((modifiers.flatMap Modifier.label ++ name).splitOn '+') =
      ofWords? (modifiers.foldl Modifiers.hold held) (name.splitOn '+') := by
  induction modifiers generalizing held with
  | nil => rfl
  | cons modifier modifiers ih =>
    have hrest : modifiers.flatMap Modifier.label ++ name ≠ [] :=
      List.append_ne_nil_of_right_ne_nil _ hname
    rw [List.flatMap_cons, modifier.label_eq, List.append_assoc, List.append_assoc,
      List.singleton_append, ofWords?_prefix modifier.plus_not_mem_word hrest,
      modifier.ofWord?_word, Option.bind_some, ih, List.foldl_cons]

/-- A name without a plus sign before its last character is not cut for good. -/
theorem ofWords?_name {name : List Char} (hname : name ≠ []) (hplus : '+' ∉ name.dropLast)
    (held : Modifiers) :
    ofWords? held (name.splitOn '+') = some ⟨Key.ofName name, held⟩ := by
  rw [← List.dropLast_append_getLast hname]
  generalize name.dropLast = front at hplus ⊢
  by_cases hlast : name.getLast hname = '+'
  · rw [hlast, List.splitOn_append_cons_self_of_not_mem hplus, List.splitOn_nil]
    cases front <;> rfl
  · rw [List.splitOn_eq_singleton (by simp [hplus, Ne.symm hlast])]
    rfl

/-- A keystroke with a writable key is written as a word and read back from it. -/
theorem read?_print {stroke : Keystroke} (hwritable : stroke.key.Writable) :
    read? (stroke.modifiers.print ++ stroke.key.print) = some stroke := by
  obtain ⟨hword, hplus, hname⟩ := Key.print_of_writable hwritable
  rw [read?, Modifiers.print, ofWords?_labels hword.ne_nil, Modifiers.foldl_hold,
    ofWords?_name hword.ne_nil hplus, hname]

theorem isWord_print {stroke : Keystroke} (hwritable : stroke.key.Writable) :
    IsWord (stroke.modifiers.print ++ stroke.key.print) := by
  apply IsWord.append _ (Key.print_of_writable hwritable).1
  intro c hc
  obtain ⟨modifier, -, hlabel⟩ := List.mem_flatMap.1 hc
  exact modifier.isWord_label.not_blank c hlabel

/-- The key of a keystroke can be written if no word that the keystroke is read from
holds a blank or a plus sign. -/
theorem writable_of_ofWords? {held : Modifiers} {words : List (List Char)} {stroke : Keystroke}
    (hread : ofWords? held words = some stroke)
    (hwords : ∀ word ∈ words, ∀ c ∈ word, isBlank c = false ∧ c ≠ '+')
    (hfirst : words ≠ [[]]) : stroke.key.Writable := by
  fun_induction ofWords? held words with
  | case1 held => cases hread
  | case2 held name =>
    obtain rfl := Option.some.inj hread
    have hname := hwords name List.mem_cons_self
    apply Key.writable_ofName ⟨by simpa using hfirst, fun c hc => (hname c hc).1⟩
    intro hplus
    exact (hname '+' (List.dropLast_subset name hplus)).2 rfl
  | case3 held name =>
    obtain rfl := Option.some.inj hread
    have hname := hwords name List.mem_cons_self
    have hsign : IsWord ['+'] := by decide
    apply Key.writable_ofName (IsWord.append (fun c hc => (hname c hc).1) hsign)
    rw [List.dropLast_concat]
    exact fun hplus => (hname '+' hplus).2 rfl
  | case4 held word rest hmore hname modifier hmodifier ih =>
    exact ih hread (fun later hlater => hwords later (List.mem_cons_of_mem word hlater)) hname
  | case5 held word rest hmore hname hmodifier => cases hread

theorem writable_of_read? {word : List Char} {stroke : Keystroke} (hword : IsWord word)
    (hread : read? word = some stroke) : stroke.key.Writable := by
  apply writable_of_ofWords? hread _ (splitOn_ne_singleton_nil hword.ne_nil)
  intro piece hpiece c hc
  obtain ⟨hmem, hplus⟩ := mem_of_mem_splitOnP (· == '+') word piece hpiece c hc
  exact ⟨hword.not_blank c hmem, by simpa using hplus⟩

end Keystroke
end MaskedField
