/- # The expression of a mask

The complete values of a mask are described once more, by the text of a pattern:
the fragments of the slots in order, held in place at both ends. A literal is
written so that it stands for itself, a placeholder as the pattern of its class,
and a slot without a meaning leaves no trace.

The matcher of a mask is what its expression reads as, so the two descriptions
of a mask are independent of each other. Reading never fails
(`read?_expression`); only the engine that prepares the expression can object.
-/

import MaskedField.Mask.Basic
import MaskedField.Pattern.Engine

namespace MaskedField

namespace CharClass

/-- The pattern that the class is written as. -/
def fragment : CharClass → List Char
  | digit => "[0-9]".toList
  | lowercaseLetter => "[a-z]".toList
  | uppercaseLetter => "[A-Z]".toList
  | anyCharacter => "(?s:.)".toList

/-- The set that the pattern of the class reads as. -/
def charSet : CharClass → Pattern.CharSet
  | digit => .between '0' '9'
  | lowercaseLetter => .between 'a' 'z'
  | uppercaseLetter => .between 'A' 'Z'
  | anyCharacter => .anything

end CharClass

namespace Slot

/-- What the slot contributes to the expression. -/
def fragment : Slot → List Char
  | literal shown => Pattern.escape shown
  | placeholder charClass => charClass.fragment
  | unclassified _ => []

/-- The items that the slot's fragment reads as. -/
def items : Slot → Pattern
  | literal shown => [.oneOf (.exactly shown)]
  | placeholder charClass => [.oneOf charClass.charSet]
  | unclassified _ => []

end Slot

namespace Pattern

/-- An escaped character reads as itself, whatever follows it. -/
theorem readItems?_escape (depth : Nat) (c : Char) (rest : List Char) :
    readItems? depth (escape c ++ rest) =
      (readItems? depth rest).map (.oneOf (.exactly c) :: ·) := by
  by_cases hmeta : metacharacters.contains c
  · simp only [escape, hmeta, if_true, List.cons_append, List.nil_append]
    rw [readItems?, if_pos hmeta]
  · rw [escape, if_neg hmeta, List.cons_append, List.nil_append, readItems?, if_neg hmeta] <;>
      (intros; simp_all [metacharacters])

/-- The fragment of a slot reads as the items of the slot, whatever follows it. -/
theorem readItems?_fragment (depth : Nat) (slot : Slot) (rest : List Char) :
    readItems? depth (slot.fragment ++ rest) = (readItems? depth rest).map (slot.items ++ ·) := by
  cases slot with
  | literal shown => exact readItems?_escape depth shown rest
  | placeholder charClass => cases charClass <;> rfl
  | unclassified source => simp [Slot.fragment, Slot.items]

/-- So do the fragments of a row of slots. -/
theorem readItems?_fragments (depth : Nat) (slots : List Slot) (rest : List Char) :
    readItems? depth (slots.flatMap Slot.fragment ++ rest) =
      (readItems? depth rest).map (slots.flatMap Slot.items ++ ·) := by
  induction slots with
  | nil => simp
  | cons slot slots ih =>
    simp [readItems?_fragment, ih, Option.map_map, Function.comp_def]

end Pattern

namespace Mask

/-- The text of the pattern that complete values match. -/
def expression (mask : Mask) : List Char :=
  "^(?:".toList ++ (mask.slots.flatMap Slot.fragment ++ ")$".toList)

/-- Every expression can be read. -/
theorem read?_expression (mask : Mask) :
    Pattern.read? mask.expression =
      some (.textStart :: (mask.slots.flatMap Slot.items ++ [.textEnd])) := by
  have hopen : Pattern.read? mask.expression =
      (Pattern.readItems? 1 (mask.slots.flatMap Slot.fragment ++ ")$".toList)).map
        (.textStart :: ·) := rfl
  rw [hopen, Pattern.readItems?_fragments]
  rfl

/-- The pattern that the expression writes. -/
def pattern (mask : Mask) : Pattern :=
  (Pattern.read? mask.expression).get (by rw [read?_expression]; rfl)

/-- The pattern, unless the engine objects to the expression. -/
def matcher (engine : Pattern.Engine) (mask : Mask) : Except MaskError Pattern :=
  match engine.objection? mask.expression with
  | some objection => .error (.expressionRefused objection)
  | none => .ok mask.pattern

/-- Whatever the engine, a matcher is the pattern of its mask. -/
theorem matcher_eq_ok_iff {engine : Pattern.Engine} {mask : Mask} {matcher : Pattern} :
    mask.matcher engine = .ok matcher ↔
      engine.objection? mask.expression = none ∧ matcher = mask.pattern := by
  unfold Mask.matcher
  cases engine.objection? mask.expression with
  | some objection => simp
  | none => simp [eq_comm]

end Mask

namespace MaskError

/-- What is wrong, without saying where. -/
def detail : MaskError → String
  | unclassified _ source => s!"'{source}' is not a literal or class designator"
  | expressionRefused objection => objection

/-- The error as a message. -/
def message (error : MaskError) : String :=
  match error with
  | unclassified position _ => s!"unclassified mask character at {position}: " ++ error.detail
  | expressionRefused _ => "invalid mask match expression: " ++ error.detail

end MaskError
end MaskedField
