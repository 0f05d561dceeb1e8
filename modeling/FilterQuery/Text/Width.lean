import FilterQuery.Text.Emoji
import FilterQuery.Text.Ligature

/-!
# Display width

The number of terminal columns a text takes. Characters that are drawn as one, such as the parts of
an emoji sequence or of a ligature, take the columns of the whole. A text is measured from its end:
what a character adds depends on how the text after it opens.
-/

namespace FilterQuery.Text

/-- Characters that ask for a form of the character before them. -/
inductive Selector where
  /-- The form of an emoji. -/
  | emoji
  /-- The form of a text symbol. -/
  | symbol
  /-- The form of a fullwidth quotation mark. -/
  | fullwidth
  deriving DecidableEq, Repr

/-- The selector that a character is. -/
def selector? (c : Char) : Option Selector :=
  if c = '\uFE0F' then some .emoji
  else if c = '\uFE0E' then some .symbol
  else if c = '\uFE01' then some .fullwidth
  else none

/-- Letters that join with a letter before them, across marks that are ignored. -/
inductive JoiningLetter where
  | hebrewLamed
  | bugineseYa
  /-- The letter ya after the vowel sign i. -/
  | bugineseVowelYa
  | tifinagh
  /-- A consonant after the joiner of consonants. -/
  | tifinaghJoined
  | lisuTone
  | orkhonI
  /-- A letter that has a form below another one. -/
  | khmer
  deriving DecidableEq, Repr

/-- How a text opens, as far as a character before it can join with it. -/
inductive Opening where
  /-- With nothing that joins. -/
  | other
  | lineFeed
  | alef
  /-- With a letter, and whether a zero width joiner stands before it. -/
  | letter (letter : JoiningLetter) (joined : Bool)
  /-- With the Kirat Rai vowel sign e. -/
  | vowelE
  /-- With the Kirat Rai vowel sign ai. -/
  | vowelAi
  | emoji
  | skinTone
  /-- With regional indicators, and whether there are several. -/
  | regions (several : Bool)
  /-- With a zero width joiner and an emoji. -/
  | joinedEmoji
  /-- With the keycap mark of an emoji that is joined to another. -/
  | joinedKeycap
  /-- With one regional indicator that is joined to an emoji. -/
  | joinedRegion
  /-- With several regional indicators of which the last is joined to an emoji, and whether their
  number is even. -/
  | joinedRegions (even : Bool)
  /-- With some tag letters of a flag that is joined to an emoji. -/
  | joinedTagLetters (count : Nat)
  /-- With some tag digits of a flag that is joined to an emoji. -/
  | joinedTagDigits (count : Nat)
  deriving DecidableEq, Repr

/-- How a text begins: with a selector or without, and how it opens after that. -/
structure Beginning where
  selector : Option Selector := none
  opening : Opening := .other
  deriving DecidableEq, Repr

/-- Whether a text opens with a letter that a character before it joins with across a selector that
does not apply to the character. -/
def Opening.isLetter : Opening → Bool
  | .alef | .letter _ _ => true
  | _ => false

/-- Whether an emoji that is followed by its selector joins with the opening of a text. -/
def Opening.isJoined : Opening → Bool
  | .joinedEmoji | .joinedKeycap => true
  | _ => false

/-- The beginning after a further selector, which replaces the one that comes first now. -/
def Beginning.select (selector : Selector) (start : Beginning) : Beginning :=
  let isKept :=
    start.opening.isLetter ||
      start.opening.isJoined && start.selector.isNone && selector == .emoji
  ⟨some selector, if isKept then start.opening else .other⟩

/-- What is open to a character that the selector at the beginning does not apply to. -/
def Beginning.unselected (start : Beginning) : Opening :=
  if start.selector.isNone || start.opening.isLetter then start.opening else .other

/-- What the width of a text grows by with a character that the selector at its beginning applies
to, and how it opens then. -/
def Beginning.applied? (c : Char) (start : Beginning) : Option (Int × Opening) :=
  match start.selector with
  | some .emoji =>
    if !isVariationBase c then none
    else some (if start.opening.isJoined then 0 else 2, .emoji)
  | some .symbol => if isTextBase c then some (1, .other) else none
  | some .fullwidth =>
    if c = '\u2018' ∨ c = '\u2019' ∨ c = '\u201C' ∨ c = '\u201D' then some (2, .other) else none
  | none => none

/-- What the width of a text grows by with a character that joins with its first letter, and how it
opens then. -/
def JoiningLetter.join? (c : Char) (joined : Bool) : JoiningLetter → Option (Int × Opening)
  | .hebrewLamed => if joined ∧ c = '\u05D0' then some (0, .other) else none
  | .bugineseYa => if joined ∧ c = '\u1A17' then some (0, .letter .bugineseVowelYa true) else none
  | .bugineseVowelYa => if c = '\u1A15' then some (0, .other) else none
  | .tifinagh =>
    if c = '\u2D7F' then some (1, .letter .tifinaghJoined true)
    else if joined && isTifinaghConsonant c then some (0, .other)
    else none
  | .tifinaghJoined => if isTifinaghConsonant c then some (-1, .other) else none
  | .lisuTone => if isFirstTone c then some (0, .other) else none
  | .orkhonI => if joined ∧ c.toNat = 0x10C32 then some (0, .other) else none
  | .khmer => if c = '\u17D2' then some (-1, .other) else none

def joiner : Char :=
  '\u200D'

/-- What the width of a text grows by with a character that joins with its opening, and how it opens
then. -/
def Opening.join? (c : Char) : Opening → Option (Int × Opening)
  | .other => none
  | .lineFeed => if c = '\r' then some (0, .other) else none
  | .alef =>
    if isLam c then some (0, .other)
    else if isTransparent c then some (0, .alef)
    else none
  | .letter first joined =>
    if c = joiner then some (0, .letter first true)
    else if isIgnoredMark c then some (0, .letter first joined)
    else first.join? c joined
  | .vowelE =>
    if c.toNat = 0x16D63 ∨ c.toNat = 0x16D69 then some (0, .other)
    else if c.toNat = 0x16D67 then some (0, .vowelAi)
    else if c.toNat = 0x16D68 then some (1, .vowelE)
    else none
  | .vowelAi => if c.toNat = 0x16D63 then some (0, .other) else none
  | .emoji => if c = joiner then some (0, .joinedEmoji) else none
  | .skinTone =>
    if isModifierBase c then some (0, .emoji)
    else if c = joiner then some (0, .joinedEmoji)
    else none
  | .regions several =>
    if isRegionalIndicator c then some (1, .regions true)
    else if several ∧ c = joiner then some (0, .joinedEmoji)
    else none
  | .joinedEmoji =>
    if c = '\u20E3' then some (0, .joinedKeycap)
    else if isRegionalIndicator c then some (1, .joinedRegion)
    else if isModifier c then some (0, .skinTone)
    else if c.toNat = 0xE007F then some (0, .joinedTagLetters 0)
    else if isEmoji c then some (0, .emoji)
    else none
  | .joinedKeycap => none
  | .joinedRegion => if isRegionalIndicator c then some (-1, .joinedRegions true) else none
  | .joinedRegions even =>
    if isRegionalIndicator c then some (if even then 3 else -1, .joinedRegions !even)
    else if c = joiner then some (0, .joinedEmoji)
    else none
  | .joinedTagLetters count =>
    if isTagLetter c ∧ count < 6 then some (0, .joinedTagLetters (count + 1))
    else if isTagDigit c ∧ count < 5 then some (0, .joinedTagDigits 1)
    else if c.toNat = 0x1F3F4 ∧ 3 ≤ count then some (0, .emoji)
    else none
  | .joinedTagDigits count =>
    if isTagDigit c ∧ count < 3 then some (0, .joinedTagDigits (count + 1))
    else if c.toNat = 0x1F3F4 ∧ count = 3 then some (0, .emoji)
    else none

/-- How a text opens with a character that does not join with what follows. -/
def Opening.ofChar (c : Char) : Opening :=
  if c = '\n' then .lineFeed
  else if c.toNat < 0x5DC then .other
  else if c = '\u05DC' then .letter .hebrewLamed false
  else if isAlef c then .alef
  else if hasSubscript c then .letter .khmer true
  else if c = '\u1A10' then .letter .bugineseYa false
  else if isTifinaghConsonant c then .letter .tifinagh false
  else if isLastTone c then .letter .lisuTone true
  else if c.toNat = 0x10C03 then .letter .orkhonI false
  else if c.toNat = 0x16D67 then .vowelE
  else if c.toNat = 0x16D68 then .vowelAi
  else if isRegionalIndicator c then .regions false
  else if isModifier c then .skinTone
  else if isEmoji c then .emoji
  else .other

/-- What the width of a text grows by with a character before it, and how it begins then. -/
def Beginning.prepend (c : Char) (start : Beginning) : Int × Beginning :=
  match selector? c with
  | some selector => (0, start.select selector)
  | none =>
    let (growth, opening) :=
      match start.applied? c with
      | some result => result
      | none => (start.unselected.join? c).getD (charWidth c, .ofChar c)
    (growth, ⟨none, opening⟩)

/-- The width of a text and how it begins. -/
def measure (chars : List Char) : Int × Beginning :=
  chars.foldr
    (fun c after =>
      let (growth, start) := after.2.prepend c
      (growth + after.1, start))
    (0, {})

/-- Columns taken by a text. -/
def width (text : String) : Nat :=
  (measure text.toList).1.toNat

end FilterQuery.Text
