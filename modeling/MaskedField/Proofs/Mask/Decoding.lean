/- # What an expression says of its mask

Masks can differ and have the same expression, since slots without a meaning leave no trace
in it. The other slots can be told from the expression: the fragments of slots are a prefix
code, so that where one of them ends is seen from the fragment itself, whatever follows it. An
escaped literal starts with a backslash or with a character that means nothing else, and the
fragment of a class with a bracket that is not escaped.

The texts that the expression matches say as much. Each slot takes some character, so that a
row of slots is known slot by slot from the texts that complete it, and no two slots take the
same characters. The expression, the slots with a meaning and the language of the matcher
determine each other; the reader of patterns is used for the language only.
-/

import MaskedField.Proofs.Mask.Strictness

namespace MaskedField

namespace Pattern

variable {c d : Char} {rest tail : List Char}

/-- An escaped character starts with the backslash if it is a metacharacter, and otherwise
with itself. -/
theorem of_escape_append_eq (hsame : escape c ++ rest = d :: tail) :
    (c ∈ metacharacters ∧ d = '\\' ∧ tail = c :: rest) ∨
      (c ∉ metacharacters ∧ d = c ∧ tail = rest) := by
  rw [escape] at hsame
  by_cases hmeta : c ∈ metacharacters
  · rw [if_pos (List.contains_iff_mem.2 hmeta)] at hsame
    obtain ⟨hd, htail⟩ := List.cons.inj hsame
    exact .inl ⟨hmeta, hd.symm, htail.symm⟩
  · rw [if_neg fun hcontains => hmeta (List.contains_iff_mem.1 hcontains)] at hsame
    obtain ⟨hd, htail⟩ := List.cons.inj hsame
    exact .inr ⟨hmeta, hd.symm, htail.symm⟩

/-- Nothing that follows makes an escaped character read as another one. -/
theorem escape_append_inj (hsame : escape c ++ rest = escape d ++ tail) :
    c = d ∧ rest = tail := by
  have hbackslash : '\\' ∈ metacharacters := by decide
  by_cases hmeta : d ∈ metacharacters
  · have hescape : escape d ++ tail = '\\' :: d :: tail := by
      rw [escape, if_pos (List.contains_iff_mem.2 hmeta)]
      rfl
    rcases of_escape_append_eq (hsame.trans hescape) with ⟨-, -, hrest⟩ | ⟨hc, rfl, -⟩
    · obtain ⟨hd, htail⟩ := List.cons.inj hrest
      exact ⟨hd.symm, htail.symm⟩
    · exact absurd hbackslash hc
  · have hescape : escape d ++ tail = d :: tail := by
      rw [escape, if_neg fun hcontains => hmeta (List.contains_iff_mem.1 hcontains)]
      rfl
    rcases of_escape_append_eq (hsame.trans hescape) with ⟨-, rfl, -⟩ | ⟨-, hd, htail⟩
    · exact absurd hbackslash hmeta
    · exact ⟨hd.symm, htail.symm⟩

end Pattern

namespace CharClass

/-- The fragment of a class starts with a bracket that no literal is written with. -/
theorem exists_fragment_eq (charClass : CharClass) :
    ∃ opening back, charClass.fragment = opening :: back ∧
      opening ∈ Pattern.metacharacters ∧ opening ≠ '\\' := by
  cases charClass with
  | digit => exact ⟨'[', _, rfl, by decide, by decide⟩
  | lowercaseLetter => exact ⟨'[', _, rfl, by decide, by decide⟩
  | uppercaseLetter => exact ⟨'[', _, rfl, by decide, by decide⟩
  | anyCharacter => exact ⟨'(', _, rfl, by decide, by decide⟩

/-- The first two characters of a fragment tell its class. -/
theorem eq_of_take_fragment {first second : CharClass}
    (hfront : first.fragment.take 2 = second.fragment.take 2) : first = second := by
  revert hfront
  cases first <;> cases second <;> decide +kernel

theorem fragment_append_inj {first second : CharClass} {rest tail : List Char}
    (hsame : first.fragment ++ rest = second.fragment ++ tail) : first = second ∧ rest = tail := by
  have hfront (charClass : CharClass) (back : List Char) :
      (charClass.fragment ++ back).take 2 = charClass.fragment.take 2 := by
    cases charClass <;> rfl
  obtain rfl : first = second := by
    apply eq_of_take_fragment
    rw [← hfront first rest, hsame, hfront]
  exact ⟨rfl, List.append_cancel_left hsame⟩

/-- A class takes its own designator, and no two classes take each other's. -/
theorem eq_of_contains_designator {first second : CharClass}
    (hfirst : first.contains second.designator = true)
    (hsecond : second.contains first.designator = true) : first = second := by
  revert hfirst hsecond
  cases first <;> cases second <;> decide

/-- No class takes a single character only. -/
theorem exists_contains_ne (charClass : CharClass) :
    ∃ c d, charClass.contains c = true ∧ charClass.contains d = true ∧ c ≠ d := by
  cases charClass with
  | digit => exact ⟨'0', '1', by decide⟩
  | lowercaseLetter => exact ⟨'a', 'b', by decide⟩
  | uppercaseLetter => exact ⟨'A', 'B', by decide⟩
  | anyCharacter => exact ⟨'a', 'b', by decide⟩

end CharClass

namespace Slot

/-- Nothing that follows a fragment makes it read as the fragment of another slot. -/
theorem fragment_append_inj {slot other : Slot} {rest tail : List Char}
    (hslot : slot.isUnclassified = false) (hother : other.isUnclassified = false)
    (hsame : slot.fragment ++ rest = other.fragment ++ tail) : slot = other ∧ rest = tail := by
  -- An escaped literal never starts with the bracket of a class.
  have hbracket {shown : Char} {charClass : CharClass} {back front : List Char} :
      Pattern.escape shown ++ back ≠ charClass.fragment ++ front := by
    intro hclash
    obtain ⟨opening, inside, hfragment, hmeta, hescape⟩ := charClass.exists_fragment_eq
    rw [hfragment] at hclash
    rcases Pattern.of_escape_append_eq hclash with ⟨-, hopening, -⟩ | ⟨hshown, rfl, -⟩
    · exact hescape hopening
    · exact hshown hmeta
  cases slot with
  | unclassified source => cases hslot
  | literal shown =>
    cases other with
    | unclassified source => cases hother
    | placeholder charClass => exact absurd hsame hbracket
    | literal shown =>
      obtain ⟨rfl, hrest⟩ := Pattern.escape_append_inj hsame
      exact ⟨rfl, hrest⟩
  | placeholder charClass =>
    cases other with
    | unclassified source => cases hother
    | literal shown => exact absurd hsame.symm hbracket
    | placeholder charClass =>
      obtain ⟨rfl, hrest⟩ := CharClass.fragment_append_inj hsame
      exact ⟨rfl, hrest⟩

theorem fragment_ne_nil {slot : Slot} (hslot : slot.isUnclassified = false) :
    slot.fragment ≠ [] := by
  cases slot with
  | unclassified source => cases hslot
  | literal shown =>
    rw [fragment, Pattern.escape]
    split <;> exact List.cons_ne_nil _ _
  | placeholder charClass =>
    obtain ⟨opening, back, hfragment, -⟩ := charClass.exists_fragment_eq
    rw [fragment, hfragment]
    exact List.cons_ne_nil _ _

theorem fragment_of_isUnclassified {slot : Slot} (hunclassified : slot.isUnclassified = true) :
    slot.fragment = [] := by
  cases slot with
  | literal shown => cases hunclassified
  | placeholder charClass => cases hunclassified
  | unclassified source => rfl

/-- A slot with a meaning is known from the characters that complete it. -/
theorem eq_of_completes {slot other : Slot} (hslot : slot.isUnclassified = false)
    (hother : other.isUnclassified = false) (hsame : ∀ c, slot.Completes c ↔ other.Completes c) :
    slot = other := by
  -- A literal is completed by one character, a class by more.
  have hsingle {shown : Char} {charClass : CharClass}
      (hclass : ∀ c, charClass.contains c = true → c = shown) : False := by
    obtain ⟨c, d, hc, hd, hne⟩ := charClass.exists_contains_ne
    exact hne ((hclass c hc).trans (hclass d hd).symm)
  cases slot with
  | unclassified source => cases hslot
  | literal shown =>
    cases other with
    | unclassified source => cases hother
    | placeholder charClass => exact (hsingle fun c => (hsame c).2).elim
    | literal other => exact congrArg literal ((hsame shown).1 rfl)
  | placeholder charClass =>
    cases other with
    | unclassified source => cases hother
    | literal shown => exact (hsingle fun c => (hsame c).1).elim
    | placeholder other =>
      have hown : (placeholder charClass).Completes charClass.designator := completes_source hslot
      have hothers : (placeholder other).Completes other.designator := completes_source hother
      exact congrArg placeholder
        (CharClass.eq_of_contains_designator ((hsame _).2 hothers) ((hsame _).1 hown))

end Slot

section Rows

/-- Slots without a meaning can be left out. -/
theorem flatMap_fragment_eq (slots : List Slot) :
    slots.flatMap Slot.fragment =
      (slots.filter fun slot => !slot.isUnclassified).flatMap Slot.fragment := by
  induction slots with
  | nil => rfl
  | cons slot slots ih =>
    cases hclassified : slot.isUnclassified with
    | true =>
      rw [List.flatMap_cons, Slot.fragment_of_isUnclassified hclassified, List.nil_append,
        List.filter_cons_of_neg (by simp [hclassified]), ih]
    | false =>
      rw [List.filter_cons_of_pos (by simp [hclassified]), List.flatMap_cons, List.flatMap_cons, ih]

variable {slots others : List Slot} (hslots : ∀ slot ∈ slots, slot.isUnclassified = false)
  (hothers : ∀ slot ∈ others, slot.isUnclassified = false)
include hslots

/-- A row of slots with a meaning is completed by the mask characters of its slots. -/
theorem forall₂_completes_source :
    List.Forall₂ Slot.Completes slots (slots.map Slot.source) :=
  List.forall₂_map_right_iff.2 (List.forall₂_same.2 fun slot hslot =>
    Slot.completes_source (hslots slot hslot))

include hothers

/-- The fragments of a row can be told apart. -/
theorem eq_of_flatMap_fragment_eq
    (hsame : slots.flatMap Slot.fragment = others.flatMap Slot.fragment) : slots = others := by
  induction slots generalizing others with
  | nil =>
    cases others with
    | nil => rfl
    | cons other others =>
      obtain ⟨hother, -⟩ := List.forall_mem_cons.1 hothers
      have hnil := (List.append_eq_nil_iff.1 hsame.symm).1
      exact absurd hnil (Slot.fragment_ne_nil hother)
  | cons slot slots ih =>
    obtain ⟨hslot, hbehind⟩ := List.forall_mem_cons.1 hslots
    cases others with
    | nil => exact absurd (List.append_eq_nil_iff.1 hsame).1 (Slot.fragment_ne_nil hslot)
    | cons other others =>
      obtain ⟨hother, hotherBehind⟩ := List.forall_mem_cons.1 hothers
      obtain ⟨rfl, hrest⟩ := Slot.fragment_append_inj hslot hother hsame
      rw [ih hbehind hotherBehind hrest]

/-- Rows that the same texts complete are the same. -/
theorem eq_of_forall₂_completes
    (hsame : ∀ text, List.Forall₂ Slot.Completes slots text ↔
      List.Forall₂ Slot.Completes others text) : slots = others := by
  induction slots generalizing others with
  | nil =>
    have hempty := (hsame []).1 .nil
    cases hempty
    rfl
  | cons slot slots ih =>
    obtain ⟨hslot, hbehind⟩ := List.forall_mem_cons.1 hslots
    have hsample := (hsame _).1 (forall₂_completes_source hslots)
    cases others with
    | nil => cases hsample
    | cons other others =>
      obtain ⟨hother, hotherBehind⟩ := List.forall_mem_cons.1 hothers
      have hsplit (c : Char) (text : List Char) :
          slot.Completes c ∧ List.Forall₂ Slot.Completes slots text ↔
            other.Completes c ∧ List.Forall₂ Slot.Completes others text := by
        rw [← List.forall₂_cons, ← List.forall₂_cons, hsame]
      have hbehindSource := forall₂_completes_source hbehind
      have hotherBehindSource := forall₂_completes_source hotherBehind
      -- The rest is completed somehow, so what completes the first slot is seen, and the other
      -- way round.
      obtain rfl : slot = other := Slot.eq_of_completes hslot hother fun c =>
        ⟨fun hc => ((hsplit c _).1 ⟨hc, hbehindSource⟩).1,
          fun hc => ((hsplit c _).2 ⟨hc, hotherBehindSource⟩).1⟩
      have hsource := Slot.completes_source hslot
      have hrest : slots = others := ih hbehind hotherBehind fun text =>
        ⟨fun htext => ((hsplit slot.source text).1 ⟨hsource, htext⟩).2,
          fun htext => ((hsplit slot.source text).2 ⟨hsource, htext⟩).2⟩
      rw [hrest]

end Rows

namespace Mask

variable (mask first second : Mask)

theorem isUnclassified_of_mem_classifiedSlots {slot : Slot} (hslot : slot ∈ mask.classifiedSlots) :
    slot.isUnclassified = false := by
  rw [classifiedSlots, List.mem_filter] at hslot
  simpa using hslot.2

/-- The expression is written by the slots with a meaning. -/
theorem expression_eq :
    mask.expression =
      "^(?:".toList ++ (mask.classifiedSlots.flatMap Slot.fragment ++ ")$".toList) := by
  have hwritten : mask.slots.flatMap Slot.fragment = mask.classifiedSlots.flatMap Slot.fragment :=
    flatMap_fragment_eq mask.slots
  delta expression
  rw [hwritten]

theorem expression_eq_iff :
    first.expression = second.expression ↔ first.classifiedSlots = second.classifiedSlots := by
  rw [expression_eq, expression_eq, List.append_right_inj, List.append_left_inj]
  constructor
  · exact eq_of_flatMap_fragment_eq
      (fun _ => first.isUnclassified_of_mem_classifiedSlots)
      (fun _ => second.isUnclassified_of_mem_classifiedSlots)
  · exact congrArg (List.flatMap Slot.fragment)

theorem isMatch_pattern_eq_iff :
    (∀ text, first.pattern.isMatch text = second.pattern.isMatch text) ↔
      first.classifiedSlots = second.classifiedSlots := by
  constructor
  · intro hsame
    apply eq_of_forall₂_completes
      (fun _ => first.isUnclassified_of_mem_classifiedSlots)
      (fun _ => second.isUnclassified_of_mem_classifiedSlots)
    intro text
    rw [← isMatch_pattern, ← isMatch_pattern, hsame]
  · intro hslots text
    rw [Bool.eq_iff_iff, isMatch_pattern, isMatch_pattern, hslots]

/-- The expressions of two masks are the same exactly if their slots with a meaning are, and,
if an engine prepares them both, exactly if they match the same texts. No fragment can be
misread across the end of a slot: what starts with the fragments of two slots starts with the
fragment of one slot only, and a row of fragments is that of one row of slots. -/
theorem expression_and_language_determine_slots :
    (first.expression = second.expression ↔ first.classifiedSlots = second.classifiedSlots) ∧
      (∀ engine left right, first.matcher engine = .ok left → second.matcher engine = .ok right →
        ((∀ text, left.isMatch text = right.isMatch text) ↔
          first.classifiedSlots = second.classifiedSlots)) ∧
      (∀ slot other : Slot, slot.isUnclassified = false → other.isUnclassified = false →
        ∀ rest tail, slot.fragment ++ rest = other.fragment ++ tail → slot = other ∧ rest = tail) ∧
      ∀ slots others : List Slot, (∀ slot ∈ slots, slot.isUnclassified = false) →
        (∀ slot ∈ others, slot.isUnclassified = false) →
          slots.flatMap Slot.fragment = others.flatMap Slot.fragment → slots = others := by
  refine ⟨expression_eq_iff first second, ?_, ?_, ?_⟩
  · intro engine left right hleft hright
    obtain ⟨-, rfl⟩ := matcher_eq_ok_iff.1 hleft
    obtain ⟨-, rfl⟩ := matcher_eq_ok_iff.1 hright
    exact isMatch_pattern_eq_iff first second
  · intro slot other hslot hother rest tail
    exact Slot.fragment_append_inj hslot hother
  · intro slots others hslots hothers
    exact eq_of_flatMap_fragment_eq hslots hothers

/-- Two masks that differ in a character without a meaning and in its place. The second one's
is a metacharacter of patterns. -/
theorem expression_and_language_determine_slots_between_gaps :
    let first : Mask := compile ['9', 'x', '(', '*']
    let second : Mask := compile ['9', '(', '?', '*']
    let left : Pattern := first.pattern
    let right : Pattern := second.pattern
    let engine := Pattern.Engine.bounded
    first.matcher engine = .ok left ∧ second.matcher engine = .ok right ∧
      first.expression = "^(?:[0-9]\\((?s:.))$".toList ∧
      first.expression = second.expression ∧
      (∀ text, left.isMatch text = right.isMatch text) ∧
      ∀ rest, (Slot.literal '(').fragment ++ rest ≠
        (Slot.placeholder .anyCharacter).fragment ++ rest := by
  intro first second left right engine
  have hleft : first.matcher engine = .ok left := matcher_eq_ok_iff.2 ⟨by decide +kernel, rfl⟩
  have hright : second.matcher engine = .ok right :=
    matcher_eq_ok_iff.2 ⟨by decide +kernel, rfl⟩
  obtain ⟨hexpression, hlanguage, hboundary, -⟩ :=
    expression_and_language_determine_slots first second
  have hsame : first.expression = second.expression := by decide +kernel
  refine ⟨hleft, hright, by decide +kernel, hsame, ?_, ?_⟩
  · exact (hlanguage engine left right hleft hright).2 (hexpression.1 hsame)
  · intro rest hclash
    cases (hboundary _ _ rfl rfl _ _ hclash).1

end Mask
end MaskedField
