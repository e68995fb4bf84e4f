/- # What navigation finds

Positions are compared with every other editable position of the mask: the next
one is the least behind a position and the previous one the greatest before it,
and neither is found only where there is none. Positions past the end are no
exception. Where a search finds nothing the cursor goes to the end, so that it rests
at an editable slot or behind the last one.
-/

import MaskedField.Mask.Navigation

namespace MaskedField

/-- Nothing is found exactly if no element is wanted. -/
theorem lastIndex?_eq_none_iff {α : Type} {isWanted : α → Bool} {list : List α} :
    lastIndex? isWanted list = none ↔ ∀ index : Nat, list[index]?.any isWanted = false := by
  induction list with
  | nil => simp [lastIndex?]
  | cons x rest ih =>
    cases hrest : lastIndex? isWanted rest with
    | some last =>
      have hfound : ¬ ∀ index : Nat, rest[index]?.any isWanted = false := by
        rw [← ih, hrest]
        simp
      simp only [lastIndex?, hrest, reduceCtorEq, false_iff]
      intro hall
      exact hfound fun index => hall (index + 1)
    | none =>
      have hnone := ih.1 hrest
      simp only [lastIndex?, hrest, ite_eq_right_iff, reduceCtorEq, imp_false]
      constructor
      · intro hx index
        cases index with
        | zero => simpa using hx
        | succ index => exact hnone index
      · intro hall
        simpa using hall 0

/-- What is found is the last index of a wanted element. -/
theorem lastIndex?_eq_some_iff {α : Type} {isWanted : α → Bool} {list : List α} {index : Nat} :
    lastIndex? isWanted list = some index ↔
      list[index]?.any isWanted = true ∧
        ∀ later : Nat, index < later → list[later]?.any isWanted = false := by
  induction list generalizing index with
  | nil => simp [lastIndex?]
  | cons x rest ih =>
    cases hrest : lastIndex? isWanted rest with
    | some last =>
      obtain ⟨hlast, hbehind⟩ := ih.1 hrest
      simp only [lastIndex?, hrest, Option.some.injEq]
      constructor
      · rintro rfl
        refine ⟨hlast, ?_⟩
        intro later hlater
        cases later with
        | zero => omega
        | succ later => exact hbehind later (by omega)
      · rintro ⟨hindex, hlater⟩
        cases index with
        | zero =>
          have hearlier := hlater (last + 1) (by omega)
          rw [List.getElem?_cons_succ, hlast] at hearlier
          cases hearlier
        | succ index =>
          have hsame := ih.2 ⟨hindex, fun later hle => hlater (later + 1) (by omega)⟩
          rw [hrest] at hsame
          rw [Option.some.inj hsame]
    | none =>
      have hnone := lastIndex?_eq_none_iff.1 hrest
      simp only [lastIndex?, hrest]
      cases index with
      | zero =>
        have hbehind : ∀ later : Nat, 0 < later → (x :: rest)[later]?.any isWanted = false := by
          intro later hlater
          obtain ⟨later, rfl⟩ := Nat.exists_eq_succ_of_ne_zero (Nat.ne_of_gt hlater)
          exact hnone later
        simpa using fun _ => hbehind
      | succ index => simp [hnone index]

/-- What a search from the front finds is the first index of a wanted element. -/
theorem findIdx?_eq_some_iff_any {α : Type} {isWanted : α → Bool} {list : List α} {index : Nat} :
    list.findIdx? isWanted = some index ↔
      list[index]?.any isWanted = true ∧
        ∀ earlier : Nat, earlier < index → list[earlier]?.any isWanted = false := by
  rw [List.findIdx?_eq_some_iff_getElem]
  constructor
  · rintro ⟨hinside, hwanted, hbefore⟩
    refine ⟨by simp [hinside, hwanted], ?_⟩
    intro earlier hearlier
    simpa [Nat.lt_trans hearlier hinside] using hbefore earlier hearlier
  · rintro ⟨hwanted, hbefore⟩
    have hinside : index < list.length := by
      apply Nat.lt_of_not_le
      intro houtside
      simp [List.getElem?_eq_none houtside] at hwanted
    refine ⟨hinside, by simpa [hinside] using hwanted, ?_⟩
    intro earlier hearlier
    simpa [Nat.lt_trans hearlier hinside] using hbefore earlier hearlier

namespace Mask

variable {mask : Mask} {position found : Nat}

/-- Editable positions lie in the mask. -/
theorem lt_length_of_isEditable (heditable : mask.isEditable position = true) :
    position < mask.length := by
  apply Nat.lt_of_not_le
  intro houtside
  simp [isEditable, slot?, List.getElem?_eq_none houtside] at heditable

/-- A slot that accepts a character is editable. -/
theorem isEditable_of_accepts {c : Char} (haccepts : mask.accepts position c = true) :
    mask.isEditable position = true := by
  obtain ⟨slot, hslot, hslotAccepts⟩ := (Option.any_eq_true _ _).1 haccepts
  exact (Option.any_eq_true _ _).2 ⟨slot, hslot, Slot.isEditable_of_accepts hslotAccepts⟩

/-- A place for the cursor: an editable slot, or the end. -/
def Rests (mask : Mask) (cursor : Nat) : Prop :=
  mask.isEditable cursor = true ∨ cursor = mask.length

theorem Rests.le (hrests : mask.Rests position) : position ≤ mask.length := by
  rcases hrests with heditable | hend
  · exact Nat.le_of_lt (lt_length_of_isEditable heditable)
  · exact Nat.le_of_eq hend

/-- What a search for an editable slot finds, or else the end, is a place for the cursor. -/
theorem rests_getD {found? : Option Nat}
    (heditable : ∀ found ∈ found?, mask.isEditable found = true) :
    mask.Rests (found?.getD mask.length) := by
  cases found? with
  | none => exact .inr rfl
  | some found => exact .inl (heditable found rfl)

/-- The first editable position has none before it. -/
theorem firstEditable?_eq_some_iff :
    mask.firstEditable? = some found ↔
      mask.isEditable found = true ∧ ∀ other < found, mask.isEditable other = false :=
  findIdx?_eq_some_iff_any

/-- The next editable position is the least behind the given one. -/
theorem nextEditable?_eq_some_iff :
    mask.nextEditable? position = some found ↔
      mask.isEditable found = true ∧ position < found ∧
        ∀ other, position < other → other < found → mask.isEditable other = false := by
  have hdrop (index : Nat) : (mask.slots.drop (position + 1))[index]?.any Slot.isEditable =
      mask.isEditable (position + 1 + index) := by
    rw [List.getElem?_drop, isEditable, slot?]
  simp only [nextEditable?, Option.map_eq_some_iff, findIdx?_eq_some_iff_any, hdrop]
  constructor
  · rintro ⟨offset, ⟨heditable, hbetween⟩, rfl⟩
    refine ⟨heditable, by omega, ?_⟩
    intro other hbehind hother
    have hshift : position + 1 + (other - (position + 1)) = other := by omega
    rw [← hshift]
    exact hbetween _ (by omega)
  · rintro ⟨heditable, hbehind, hbetween⟩
    have hshift : position + 1 + (found - (position + 1)) = found := by omega
    refine ⟨found - (position + 1), ⟨by rwa [hshift], ?_⟩, hshift⟩
    intro earlier hearlier
    exact hbetween _ (by omega) (by omega)

/-- The previous editable position is the greatest before the given one. -/
theorem previousEditable?_eq_some_iff :
    mask.previousEditable? position = some found ↔
      mask.isEditable found = true ∧ found < position ∧
        ∀ other, found < other → other < position → mask.isEditable other = false := by
  have htake (index : Nat) : (mask.slots.take position)[index]?.any Slot.isEditable =
      (decide (index < position) && mask.isEditable index) := by
    rw [List.getElem?_take]
    by_cases hinside : index < position <;> simp [hinside, isEditable, slot?]
  rw [previousEditable?, lastIndex?_eq_some_iff]
  simp only [htake, Bool.and_eq_true, decide_eq_true_eq, Bool.and_eq_false_iff,
    decide_eq_false_iff_not]
  constructor
  · rintro ⟨⟨hbefore, heditable⟩, hbehind⟩
    refine ⟨heditable, hbefore, ?_⟩
    intro other hfound hother
    exact (hbehind other hfound).resolve_left (not_not_intro hother)
  · rintro ⟨heditable, hbefore, hbetween⟩
    refine ⟨⟨hbefore, heditable⟩, ?_⟩
    intro other hfound
    by_cases hother : other < position
    · exact .inr (hbetween other hfound hother)
    · exact .inl hother

end Mask
end MaskedField
