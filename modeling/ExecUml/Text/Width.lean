import ExecUml.Text.Joining
import ExecUml.Text.TerminalCode

/-!
# Display width

The number of columns a text takes on a terminal. Terminal codes take none. Other controls count
like letters, and a carriage return with its line feed counts once.

A text is read from its end, since a character's width can depend on what follows it: a joining
character, or a selector that chooses the style of the character before it.
-/

set_option autoImplicit false

namespace ExecUml.Text

/-- What follows a character: something to join with, and the selectors in front of that. -/
structure WidthContext where
  follower : Follower
  emojiStyle : Bool
  textStyle : Bool
  /-- The selector of fullwidth quotation marks. -/
  fullwidth : Bool
deriving DecidableEq

namespace WidthContext

def ofFollower (f : Follower) : WidthContext := ⟨f, false, false, false⟩

def plain : WidthContext := ofFollower .plain

/-- A selector ends what follows it, unless that is part of a ligature or waits for an emoji. -/
def selectEmoji (x : WidthContext) : WidthContext :=
  if x.follower.inLigature || x.follower = .joinedEmoji || x.follower = .joinedKeycap then
    { x with emojiStyle := true }
  else { plain with emojiStyle := true }

def selectText (x : WidthContext) : WidthContext :=
  if x.follower.inLigature then { x with textStyle := true } else { plain with textStyle := true }

def selectFullwidth (x : WidthContext) : WidthContext :=
  if x.follower.inLigature then { x with fullwidth := true } else { plain with fullwidth := true }

/-- What is left when the emoji selector has no use for the character before it. -/
def dropEmoji (x : WidthContext) : WidthContext :=
  if x.follower.inLigature then { x with emojiStyle := false } else plain

end WidthContext

/-- Emoji that a selector shows as text; enclosed ideographs stay wide. -/
def hasTextStyle (c : Char) : Bool :=
  WidthTable.styled.has c && WidthTable.emoji.has c && !inRange c 0x1F200 0x1F2FF

def isQuotationMark (c : Char) : Bool := inRange c 0x2018 0x2019 || inRange c 0x201C 0x201D

/-- The columns of a character and what it is for the one before it, where no selector has a say any
more. -/
def addJoined (c : Char) (f : Follower) : Int × Follower :=
  match f.pass? c with
  | some f => (0, f)
  | none => (f.join? c).getD (charWidth c, .ofChar c)

/-- Each selector in front of what follows is tried on the character, and then they are spent. -/
def addSelected (c : Char) (x : WidthContext) : Int × WidthContext :=
  if x.textStyle && hasTextStyle c then (1, .plain)
  else if x.fullwidth && isQuotationMark c then (2, .plain)
  else
    let (columns, f) := addJoined c x.follower
    (columns, .ofFollower f)

/-- A character that is not shown in emoji style. -/
def addPlain (c : Char) (x : WidthContext) : Int × WidthContext :=
  if c.toNat ≤ 0xA0 then
    if c = '\r' && x.follower = .lineFeed then (0, .plain)
    else (1, .ofFollower (.ofChar c))
  else if c = '\ufe0f' then (0, x.selectEmoji)
  else if c = '\ufe0e' then (0, x.selectText)
  else if c = '\ufe01' then (0, x.selectFullwidth)
  else addSelected c x

/-- The columns that a character adds to those of the text after it. -/
def addChar (c : Char) (x : WidthContext) : Int × WidthContext :=
  if x.emojiStyle then
    if WidthTable.styled.has c then
      (if x.follower = .joinedEmoji || x.follower = .joinedKeycap then 0 else 2, .ofFollower .emoji)
    else addPlain c x.dropEmoji
  else addPlain c x

def charsWidth (cs : List Char) : Int :=
  (cs.foldr (fun c (columns, x) =>
    let (added, y) := addChar c x
    (columns + added, y)) ((0 : Int), WidthContext.plain)).1

def displayWidth (s : String) : Nat := (charsWidth (withoutCodes s.toList)).toNat

end ExecUml.Text
