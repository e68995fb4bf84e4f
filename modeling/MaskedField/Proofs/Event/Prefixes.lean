/- # The modifiers in front of a key

A keystroke is written as modifiers, each with a plus sign, and the name of a key. The
reader takes them off one by one, from the front, as long as something stands behind
the plus sign. One step either holds one more modifier or refuses the keystroke, so
the modifiers held are a set, and one prefix that is no modifier is enough to refuse.

The plus sign at the end of a name takes no part in this: nothing stands behind it. A
blank does not either. It ends the keystroke before any plus sign is looked for, so
what is said here is said of prefixes without blanks.
-/

import MaskedField.Proofs.Event.RoundTrip

namespace MaskedField

open Text

namespace Modifier

/-- The words for a modifier, in lower case. -/
def names : Modifier → List (List Char)
  | ctrl => ["ctrl".toList, "control".toList]
  | command => ["meta".toList, "cmd".toList, "super".toList]
  | alt => ["alt".toList, "option".toList]
  | shift => ["shift".toList]

/-- The word is one of the modifier's, whatever the case of its letters. -/
def NamedBy (modifier : Modifier) (word : List Char) : Prop :=
  lowerCase word ∈ modifier.names

instance (modifier : Modifier) (word : List Char) : Decidable (modifier.NamedBy word) :=
  inferInstanceAs (Decidable (lowerCase word ∈ modifier.names))

theorem ofWord?_eq_some_iff {word : List Char} {modifier : Modifier} :
    ofWord? word = some modifier ↔ modifier.NamedBy word := by
  rw [ofWord?, NamedBy]
  generalize lowerCase word = lower
  constructor
  · intro hword
    simp only [Bool.or_eq_true, decide_eq_true_eq] at hword
    split_ifs at hword with hctrl hcommand halt hshift
    · obtain rfl := Option.some.inj hword
      simpa [names] using hctrl
    · obtain rfl := Option.some.inj hword
      simpa [names, or_assoc] using hcommand
    · obtain rfl := Option.some.inj hword
      simpa [names] using halt
    · obtain rfl := Option.some.inj hword
      simpa [names] using hshift
  · intro hname
    cases modifier <;>
      simp only [names, List.mem_cons, List.not_mem_nil, or_false] at hname
    · rcases hname with rfl | rfl <;> rfl
    · rcases hname with rfl | rfl | rfl <;> rfl
    · rcases hname with rfl | rfl <;> rfl
    · rcases hname with rfl
      rfl

/-- No word names two modifiers. -/
theorem NamedBy.unique {word : List Char} {first second : Modifier}
    (hfirst : first.NamedBy word) (hsecond : second.NamedBy word) : first = second :=
  Option.some.inj ((ofWord?_eq_some_iff.2 hfirst).symm.trans (ofWord?_eq_some_iff.2 hsecond))

theorem isAlpha_of_isAlpha_toLower {c : Char} (hletter : c.toLower.isAlpha = true) :
    c.isAlpha = true := by
  delta Char.toLower at hletter
  split at hletter
  · next hupper =>
    delta Char.isAlpha Char.isUpper
    simpa using .inl hupper
  · exact hletter

/-- The words for modifiers have no characters but letters. -/
theorem NamedBy.isAlpha {word : List Char} {modifier : Modifier}
    (hword : modifier.NamedBy word) : ∀ c ∈ word, c.isAlpha = true := by
  have hletters : (modifier.names.all fun name => name.all Char.isAlpha) = true := by
    cases modifier <;> decide +kernel
  intro c hc
  have hlower : c.toLower ∈ lowerCase word := List.mem_map_of_mem hc
  apply isAlpha_of_isAlpha_toLower
  exact List.all_eq_true.1 (List.all_eq_true.1 hletters _ hword) _ hlower

end Modifier

theorem Modifiers.holds_hold (held : Modifiers) (first second : Modifier) :
    (held.hold first).holds second = true ↔ held.holds second = true ∨ first = second := by
  cases first <;> cases second <;> simp [hold, holds]

namespace Keystroke

/-- The word of a keystroke that is written with prefixes, each with a plus sign. -/
def prefixed (prefixes : List (List Char)) (name : List Char) : List Char :=
  prefixes.flatMap (· ++ ['+']) ++ name

theorem prefixed_cons (word : List Char) (prefixes : List (List Char)) (name : List Char) :
    prefixed (word :: prefixes) name = word ++ '+' :: prefixed prefixes name := by
  simp [prefixed]

section Prefixed

variable {prefixes : List (List Char)} {name : List Char} (hname : IsWord name)
include hname

theorem prefixed_ne_nil : prefixed prefixes name ≠ [] :=
  List.append_ne_nil_of_right_ne_nil _ hname.ne_nil

theorem isWord_prefixed (hprefixes : ∀ word ∈ prefixes, ∀ c ∈ word, isBlank c = false) :
    IsWord (prefixed prefixes name) := by
  apply IsWord.append _ hname
  intro c hc
  obtain ⟨word, hword, hmem⟩ := List.mem_flatMap.1 hc
  rcases List.mem_append.1 hmem with hmem | hmem
  · exact hprefixes word hword c hmem
  · rw [List.mem_singleton.1 hmem]
    decide

/-- Prefixes that all name a modifier are held in addition to what is held already. -/
theorem exists_ofWords?_prefixed
    (hprefixes : ∀ word ∈ prefixes, ∃ modifier : Modifier, modifier.NamedBy word)
    (held : Modifiers) :
    ∃ next : Modifiers,
      ofWords? held ((prefixed prefixes name).splitOn '+') = ofWords? next (name.splitOn '+') ∧
        ∀ modifier, next.holds modifier = true ↔
          held.holds modifier = true ∨ ∃ word ∈ prefixes, modifier.NamedBy word := by
  induction prefixes generalizing held with
  | nil => exact ⟨held, rfl, by simp⟩
  | cons word prefixes ih =>
    obtain ⟨⟨first, hfirst⟩, hmore⟩ := List.forall_mem_cons.1 hprefixes
    obtain ⟨next, hread, hholds⟩ := ih hmore (held.hold first)
    refine ⟨next, ?_, fun modifier => ?_⟩
    · have hplus : '+' ∉ word := fun hmem => absurd (hfirst.isAlpha '+' hmem) (by decide)
      rw [prefixed_cons, ofWords?_prefix hplus (prefixed_ne_nil hname),
        Modifier.ofWord?_eq_some_iff.2 hfirst, Option.bind_some, hread]
    · have hword : first = modifier ↔ modifier.NamedBy word :=
        ⟨fun heq => heq ▸ hfirst, hfirst.unique⟩
      rw [hholds, Modifiers.holds_hold, hword, List.exists_mem_cons_iff, or_assoc]

/-- Prefixes that all name a modifier leave the key to the name behind them. -/
theorem exists_read?_prefixed
    (hprefixes : ∀ word ∈ prefixes, ∃ modifier : Modifier, modifier.NamedBy word)
    (hplus : '+' ∉ name.dropLast) :
    ∃ held : Modifiers, read? (prefixed prefixes name) = some ⟨Key.ofName name, held⟩ ∧
      ∀ modifier, held.holds modifier = true ↔ ∃ word ∈ prefixes, modifier.NamedBy word := by
  obtain ⟨held, hwords, hholds⟩ := exists_ofWords?_prefixed hname hprefixes .none
  refine ⟨held, ?_, fun modifier => ?_⟩
  · rw [read?, hwords, ofWords?_name hname.ne_nil hplus]
  · rw [hholds]
    cases modifier <;> simp [Modifiers.holds, Modifiers.none]

/-- One prefix that names no modifier is enough to refuse a keystroke. -/
theorem ofWords?_prefixed_eq_none (hplus : ∀ word ∈ prefixes, '+' ∉ word)
    (hprefixes : ∃ word ∈ prefixes, ∀ modifier : Modifier, ¬ modifier.NamedBy word)
    (held : Modifiers) : ofWords? held ((prefixed prefixes name).splitOn '+') = none := by
  induction prefixes generalizing held with
  | nil => simp at hprefixes
  | cons word prefixes ih =>
    rw [List.forall_mem_cons] at hplus
    rw [prefixed_cons, ofWords?_prefix hplus.1 (prefixed_ne_nil hname)]
    cases hfirst : Modifier.ofWord? word with
    | none => rfl
    | some modifier =>
      obtain ⟨bad, hmem, hbad⟩ := hprefixes
      have hmore : bad ∈ prefixes := by
        refine (List.mem_cons.1 hmem).resolve_left ?_
        rintro rfl
        exact hbad modifier (Modifier.ofWord?_eq_some_iff.1 hfirst)
      exact ih hplus.2 ⟨bad, hmore, hbad⟩ (held.hold modifier)

end Prefixed
end Keystroke

namespace Event

/-- The line of a keystroke with prefixes and perhaps a position. -/
def keyLine (prefixes : List (List Char)) (name : List Char) (position? : Option UInt64) :
    List Char :=
  "key ".toList ++ Keystroke.prefixed prefixes name ++ printPosition position?

/-- A line with prefixes without blanks is read as a keystroke with a position. -/
theorem read_keyLine {prefixes : List (List Char)} {name : List Char} (hname : IsWord name)
    (hprefixes : ∀ word ∈ prefixes, ∀ c ∈ word, isBlank c = false)
    (position? : Option UInt64) :
    read (keyLine prefixes name position?) =
      (readStroke (Keystroke.prefixed prefixes name) position?).mapError
        (ReadError.mk (keyLine prefixes name position?)) := by
  have hcommand : IsWord "key".toList := by decide +kernel
  have hword := Keystroke.isWord_prefixed hname hprefixes
  have hkept := dropTrailing_eq_self_iff.2 (not_isLineEnd_getLast?_position hword position?)
  have hread := read_commandLine hcommand
    (Keystroke.prefixed prefixes name ++ printPosition position?)
  rw [dropLineEnds, hkept] at hread
  rw [← readKey_word hword]
  exact hread

/-- Prefixes that are modifiers, in any case, order and number, hold down the modifiers
that they name and no others; the key is the one of the name without them, and the
position is the one that is written. If one of them is no modifier, it is refused, and
nothing else in the line helps. -/
theorem prefixes_are_held_as_a_set (prefixes : List (List Char)) {name : List Char}
    (hname : IsWord name) (position? : Option UInt64) :
    ((∀ word ∈ prefixes, ∃ modifier : Modifier, modifier.NamedBy word) →
      '+' ∉ name.dropLast →
      read ("key ".toList ++ name) = .ok (.key (.plain (Key.ofName name)) none) ∧
        ∃ held : Modifiers,
          read (keyLine prefixes name position?) = .ok (.key ⟨Key.ofName name, held⟩ position?) ∧
            ∀ modifier, held.holds modifier = true ↔
              ∃ word ∈ prefixes, modifier.NamedBy word) ∧
    ((∀ word ∈ prefixes, '+' ∉ word ∧ ∀ c ∈ word, isBlank c = false) →
      (∃ word ∈ prefixes, ∀ modifier : Modifier, ¬ modifier.NamedBy word) →
      read (keyLine prefixes name position?) =
        .error ⟨keyLine prefixes name position?, .unknownModifier⟩) := by
  refine ⟨fun hprefixes hplus => ?_, fun hwords hbad => ?_⟩
  · have hsolid : ∀ word ∈ prefixes, ∀ c ∈ word, isBlank c = false := by
      intro word hword c hc
      obtain ⟨modifier, hnamed⟩ := hprefixes word hword
      exact not_isBlank_of_isAlpha (hnamed.isAlpha c hc)
    have hplain : Keystroke.read? (Keystroke.prefixed [] name) = some (.plain (Key.ofName name)) :=
      Keystroke.ofWords?_name hname.ne_nil hplus .none
    have hbare : keyLine [] name none = "key ".toList ++ name := List.append_nil _
    obtain ⟨held, hread, hholds⟩ := Keystroke.exists_read?_prefixed hname hprefixes hplus
    refine ⟨?_, held, ?_, hholds⟩
    · rw [← hbare, read_keyLine hname (List.forall_mem_nil _), readStroke, hplain]
      rfl
    · rw [read_keyLine hname hsolid, readStroke, hread]
      rfl
  · have hrefused : Keystroke.read? (Keystroke.prefixed prefixes name) = none :=
      Keystroke.ofWords?_prefixed_eq_none hname (fun word hword => (hwords word hword).1) hbad .none
    rw [read_keyLine hname fun word hword => (hwords word hword).2, readStroke, hrefused]
    rfl

/-- A name that is a modifier's word with a plus sign, behind a modifier that is held
twice; and the empty prefix that one plus sign too many makes. -/
theorem prefixes_are_held_as_a_set_before_a_plus :
    (∃ held : Modifiers,
      read "key Shift+CTRL+sHIFT+meta+ @7".toList =
          .ok (.key ⟨.named "meta+".toList, held⟩ (some 7)) ∧
        ∀ modifier, held.holds modifier = true ↔ modifier = .ctrl ∨ modifier = .shift) ∧
    read "key ctrl++x".toList = .error ⟨"key ctrl++x".toList, .unknownModifier⟩ := by
  have hname : IsWord "meta+".toList := by decide +kernel
  have hletter : IsWord "x".toList := by decide +kernel
  constructor
  · have hwords : ∀ word ∈ ["Shift".toList, "CTRL".toList, "sHIFT".toList],
        ∃ modifier : Modifier, modifier.NamedBy word :=
      List.forall_mem_cons.2 ⟨⟨.shift, by decide +kernel⟩, List.forall_mem_cons.2
        ⟨⟨.ctrl, by decide +kernel⟩, List.forall_mem_singleton.2 ⟨.shift, by decide +kernel⟩⟩⟩
    obtain ⟨-, held, hread, hholds⟩ :=
      (prefixes_are_held_as_a_set _ hname (some 7)).1 hwords (by decide +kernel)
    refine ⟨held, hread, fun modifier => (hholds modifier).trans ?_⟩
    cases modifier <;> decide +kernel
  · apply (prefixes_are_held_as_a_set ["ctrl".toList, []] hletter none).2
    · have hword : IsWord "ctrl".toList := by decide +kernel
      exact List.forall_mem_cons.2 ⟨⟨by decide +kernel, hword.not_blank⟩, by simp⟩
    · exact ⟨[], by simp, fun modifier => by cases modifier <;> decide +kernel⟩

end Event
end MaskedField
