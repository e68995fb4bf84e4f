/- # Entries that can be told apart

A value is written into an entry character by character, and the pieces are a prefix
code: a backslash with a mark, a backslash with a number between braces, or a character
as it stands, which then is neither a backslash nor a bar. So a piece ends where it
says, whatever comes next, and the first bar that starts a piece is the one in front
of the cursor. No piece has a control character in it.
-/

import Mathlib.Data.List.Nodup
import Mathlib.Tactic.SplitIfs
import MaskedField.Scenario.Transcript

namespace MaskedField

namespace Text

section Digits

variable {base : Nat} (hbase : 1 < base)
include hbase

theorem exists_digitChar_of_mem_toDigits {number : Nat} {c : Char}
    (hc : c ∈ Nat.toDigits base number) : ∃ digit < base, c = Nat.digitChar digit := by
  induction number using Nat.strongRecOn with
  | ind number ih =>
    rw [Nat.toDigits_eq_if hbase] at hc
    split at hc
    · next hsmall => exact ⟨number, hsmall, List.mem_singleton.1 hc⟩
    · rcases List.mem_append.1 hc with hfront | hlast
      · exact ih (number / base) (Nat.div_lt_self (by omega) hbase) hfront
      · exact ⟨number % base, Nat.mod_lt _ (by omega), List.mem_singleton.1 hlast⟩

/-- Up to base sixteen no two digits are written alike, and so no two numbers. -/
theorem toDigits_inj (hsixteen : base ≤ 16) {first second : Nat}
    (hdigits : Nat.toDigits base first = Nat.toDigits base second) : first = second := by
  have hdigit : ∀ i < 16, ∀ j < 16, Nat.digitChar i = Nat.digitChar j → i = j := by
    decide +kernel
  -- A number below the base has one digit, any other more than one.
  have hlonger {small large : Nat} (hlarge : base ≤ large) :
      [Nat.digitChar small] ≠ Nat.toDigits base large := by
    intro heq
    have hfront : 0 < (Nat.toDigits base (large / base)).length := Nat.length_toDigits_pos
    have hlength := congrArg List.length heq
    rw [Nat.toDigits_of_base_le hbase hlarge, List.length_append, List.length_singleton,
      List.length_singleton] at hlength
    omega
  induction first using Nat.strongRecOn generalizing second with
  | ind first ih =>
    rcases Nat.lt_or_ge first base with hfirst | hfirst <;>
      rcases Nat.lt_or_ge second base with hsecond | hsecond
    · rw [Nat.toDigits_of_lt_base hfirst, Nat.toDigits_of_lt_base hsecond] at hdigits
      exact hdigit first (by omega) second (by omega) (List.singleton_inj.1 hdigits)
    · rw [Nat.toDigits_of_lt_base hfirst] at hdigits
      exact absurd hdigits (hlonger hsecond)
    · rw [Nat.toDigits_of_lt_base hsecond] at hdigits
      exact absurd hdigits.symm (hlonger hfirst)
    · rw [Nat.toDigits_of_base_le hbase hfirst, Nat.toDigits_of_base_le hbase hsecond] at hdigits
      obtain ⟨hfront, hlast⟩ := List.append_inj' hdigits rfl
      have hquotient := ih (first / base) (Nat.div_lt_self (by omega) hbase) hfront
      have hmod (number : Nat) : number % base < 16 :=
        Nat.lt_of_lt_of_le (Nat.mod_lt _ (by omega)) hsixteen
      have hremainder := hdigit _ (hmod first) _ (hmod second) (List.singleton_inj.1 hlast)
      rw [← Nat.div_add_mod first base, hquotient, hremainder, Nat.div_add_mod]

end Digits

theorem Decimal.print_inj {first second : Nat} (hprint : print first = print second) :
    first = second :=
  toDigits_inj (by decide) (by decide) hprint

end Text

namespace Transcript

open Text

theorem isControl_eq_false_iff {c : Char} :
    isControl c = false ↔ ¬ (c.toNat < 0x20 ∨ 0x7f ≤ c.toNat ∧ c.toNat < 0xa0) := by
  simp [isControl]

/-- A numeral has no control character in it. -/
theorem isControl_eq_false_of_mem_toDigits {base : Nat} (hbase : 1 < base) (hsixteen : base ≤ 16)
    {number : Nat} {x : Char} (hx : x ∈ Nat.toDigits base number) : isControl x = false := by
  have hdigit : ∀ digit < 16, isControl (Nat.digitChar digit) = false := by decide +kernel
  obtain ⟨digit, hlt, rfl⟩ := exists_digitChar_of_mem_toDigits hbase hx
  exact hdigit digit (by omega)

/-- The characters with a mark of their own, each with its mark. -/
def marks : List (Char × Char) :=
  [('|', '|'), ('\\', '\\'), ('\t', 't'), ('\r', 'r'), ('\n', 'n')]

theorem eq_of_marks {first second mark : Char} (hfirst : (first, mark) ∈ marks)
    (hsecond : (second, mark) ∈ marks) : first = second := by
  have hmarks : (marks.map Prod.snd).Nodup := by decide
  exact congrArg Prod.fst (List.inj_on_of_nodup_map hmarks hfirst hsecond rfl)

theorem not_marks_u (c : Char) : (c, 'u') ∉ marks := by
  simp [marks]

/-- The ways in which a character is written into an entry. -/
inductive Piece : Char → List Char → Prop where
  | marked {c mark : Char} (hmark : (c, mark) ∈ marks) : Piece c ['\\', mark]
  | numbered (c : Char) :
      Piece c ('\\' :: 'u' :: '\x7b' :: (Nat.toDigits 16 c.toNat ++ ['\x7d']))
  | plain {c : Char} (hbar : c ≠ '|') (hbackslash : c ≠ '\\') (hcontrol : isControl c = false) :
      Piece c [c]

theorem piece_escapeChar (c : Char) : Piece c (escapeChar c) := by
  rw [escapeChar]
  split_ifs with hbar hbackslash htab hreturn hfeed hcontrol
  · exact .marked (by simp [marks, hbar])
  · exact .marked (by simp [marks, hbackslash])
  · exact .marked (by simp [marks, htab])
  · exact .marked (by simp [marks, hreturn])
  · exact .marked (by simp [marks, hfeed])
  · exact .numbered c
  · exact .plain hbar hbackslash (by simpa using hcontrol)

namespace Piece

variable {c d : Char} {first second : List Char}

theorem closing_not_mem (c : Char) : '\x7d' ∉ Nat.toDigits 16 c.toNat := by
  intro hmem
  obtain ⟨digit, -, hdigit⟩ := exists_digitChar_of_mem_toDigits (by decide) hmem
  exact Nat.digitChar_ne '\x7d' (by decide) hdigit.symm

/-- A number ends where its brace is closed. -/
theorem number_append_inj {behind after : List Char}
    (heq : Nat.toDigits 16 c.toNat ++ '\x7d' :: behind =
      Nat.toDigits 16 d.toNat ++ '\x7d' :: after) : c = d ∧ behind = after := by
  have hpieces := congrArg (List.splitOn '\x7d') heq
  rw [List.splitOn_append_cons_self_of_not_mem (closing_not_mem c),
    List.splitOn_append_cons_self_of_not_mem (closing_not_mem d)] at hpieces
  have hdigits := (List.cons.inj hpieces).1
  have hcode : c.toNat = d.toNat := toDigits_inj (by decide) (by decide) hdigits
  rw [hdigits] at heq
  exact ⟨Char.toNat_inj.1 hcode, (List.cons.inj (List.append_cancel_left heq)).2⟩

/-- A piece ends where it says. -/
theorem append_inj (hfirst : Piece c first) (hsecond : Piece d second) {behind after : List Char}
    (heq : first ++ behind = second ++ after) : c = d ∧ behind = after := by
  have hhead := congrArg List.head? heq
  cases hfirst with
  | @marked mark hmark =>
    cases hsecond with
    | @marked other hother =>
      obtain ⟨rfl, rfl⟩ : mark = other ∧ behind = after := by simpa using heq
      exact ⟨eq_of_marks hmark hother, rfl⟩
    | numbered =>
      obtain rfl : mark = 'u' := (List.cons.inj (List.cons.inj heq).2).1
      exact absurd hmark (not_marks_u c)
    | plain _ hbackslash => exact absurd (Option.some.inj hhead).symm hbackslash
  | numbered =>
    cases hsecond with
    | @marked other hother =>
      obtain rfl : 'u' = other := (List.cons.inj (List.cons.inj heq).2).1
      exact absurd hother (not_marks_u d)
    | numbered =>
      apply number_append_inj
      simpa using heq
    | plain _ hbackslash => exact absurd (Option.some.inj hhead).symm hbackslash
  | plain _ hbackslash =>
    cases hsecond with
    | marked => exact absurd (Option.some.inj hhead) hbackslash
    | numbered => exact absurd (Option.some.inj hhead) hbackslash
    | plain => exact List.cons.inj heq

/-- No piece starts with a bar. -/
theorem head?_ne_bar (hfirst : Piece c first) (behind : List Char) :
    (first ++ behind).head? ≠ some '|' := by
  cases hfirst with
  | marked => simp
  | numbered => simp
  | plain hbar => simpa using hbar

/-- No piece has a control character in it. -/
theorem isControl_eq_false (hfirst : Piece c first) : ∀ x ∈ first, isControl x = false := by
  cases hfirst with
  | @marked mark hmark =>
    have hmarks : (marks.all fun pair => !isControl pair.2) = true := by decide
    have hshown : isControl mark = false := by
      simpa using List.all_eq_true.1 hmarks (c, mark) hmark
    simpa [hshown] using (by decide : isControl '\\' = false)
  | numbered =>
    intro x hx
    simp only [List.mem_cons, List.mem_append, List.not_mem_nil, or_false] at hx
    rcases hx with rfl | rfl | rfl | hx | rfl
    · decide
    · decide
    · decide
    · exact isControl_eq_false_of_mem_toDigits (by decide) (by decide) hx
    · decide
  | plain _ _ hcontrol => exact List.forall_mem_singleton.2 hcontrol

end Piece

theorem entry_nil (cursor : Nat) : entry [] cursor = '|' :: Decimal.print cursor :=
  rfl

theorem entry_cons (c : Char) (value : List Char) (cursor : Nat) :
    entry (c :: value) cursor = escapeChar c ++ entry value cursor := by
  simp [entry]

/-- Entries are told apart by the values and the cursors that they are for. -/
theorem entry_inj {first second : List Char} {left right : Nat}
    (hentry : entry first left = entry second right) : first = second ∧ left = right := by
  -- An entry whose value is used up starts with a bar, any other with a piece.
  have hpiece (c : Char) (value : List Char) (cursor other : Nat) :
      entry (c :: value) cursor ≠ entry [] other := by
    intro heq
    apply (piece_escapeChar c).head?_ne_bar (entry value cursor)
    rw [← entry_cons, heq, entry_nil]
    rfl
  induction first generalizing second with
  | nil =>
    cases second with
    | nil => exact ⟨rfl, Decimal.print_inj (List.cons.inj hentry).2⟩
    | cons d second => exact absurd hentry.symm (hpiece d second right left)
  | cons c first ih =>
    cases second with
    | nil => exact absurd hentry (hpiece c first left right)
    | cons d second =>
      rw [entry_cons, entry_cons] at hentry
      obtain ⟨rfl, hbehind⟩ := (piece_escapeChar c).append_inj (piece_escapeChar d) hentry
      obtain ⟨rfl, hcursor⟩ := ih hbehind
      exact ⟨rfl, hcursor⟩

theorem isControl_eq_false_of_mem_entry {value : List Char} {cursor : Nat} {x : Char}
    (hx : x ∈ entry value cursor) : isControl x = false := by
  rcases List.mem_append.1 hx with hx | hx
  · obtain ⟨c, -, hc⟩ := List.mem_flatMap.1 hx
    exact (piece_escapeChar c).isControl_eq_false x hc
  · rcases List.mem_cons.1 hx with rfl | hx
    · decide
    · exact isControl_eq_false_of_mem_toDigits (by decide) (by decide) hx

end Transcript
end MaskedField
