/- # Character classes

What a placeholder slot of a mask may hold. Each class has one designator, the
character that stands for it in a mask, and all classes but the last are ASCII
alone.
-/

namespace MaskedField

/-- The classes that a mask can ask for. -/
inductive CharClass where
  | digit
  | lowercaseLetter
  | uppercaseLetter
  | anyCharacter
  deriving DecidableEq

namespace CharClass

/-- The character that stands for the class in a mask. -/
def designator : CharClass → Char
  | digit => '9'
  | lowercaseLetter => 'a'
  | uppercaseLetter => 'A'
  | anyCharacter => '*'

/-- The class that a mask character stands for, if it stands for one. -/
def ofDesignator? (c : Char) : Option CharClass :=
  if c = '9' then some digit
  else if c = 'a' then some lowercaseLetter
  else if c = 'A' then some uppercaseLetter
  else if c = '*' then some anyCharacter
  else none

/-- A character belongs to the class. -/
def contains : CharClass → Char → Bool
  | digit, c => c.isDigit
  | lowercaseLetter, c => c.isLower
  | uppercaseLetter, c => c.isUpper
  | anyCharacter, _ => true

/-- Each class in the order in which they are listed. -/
def all : List CharClass :=
  [digit, lowercaseLetter, uppercaseLetter, anyCharacter]

/-- Designators name exactly their classes. -/
theorem ofDesignator?_eq_some_iff {c : Char} {charClass : CharClass} :
    ofDesignator? c = some charClass ↔ c = charClass.designator := by
  unfold ofDesignator?
  cases charClass <;> grind [designator]

end CharClass
end MaskedField
