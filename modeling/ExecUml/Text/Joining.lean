import ExecUml.Text.WidthTable

/-!
# Joining characters

Some characters form one sign with what follows them: letters that make a ligature, emoji around a
joiner, regional indicators that make a flag. A `Follower` is what a character can meet on its
right. `join?` gives the columns that the character adds to those already counted, which can be less
than none, and what the two are together for the character before.
-/

set_option autoImplicit false

namespace ExecUml.Text

/-- The parts of ligatures that may have ignorable marks and joiners before them. -/
inductive LigaturePart where
  /-- Hebrew lamed, after alef. -/
  | lamed
  /-- Buginese ya, after the vowel sign i. -/
  | ya
  /-- Buginese vowel sign i with ya, after a. -/
  | vowelYa
  /-- A Tifinagh consonant, after another one. -/
  | consonant
  /-- A Tifinagh consonant with its own joiner. -/
  | joinedConsonant
  /-- A Lisu tone letter of the second kind, after one of the first. -/
  | tone
  /-- Old Turkic i, after ec. -/
  | orkhonI
  /-- A Khmer letter that can be written below, after the sign that says so. -/
  | coengLetter
deriving DecidableEq

inductive Follower where
  | plain
  | lineFeed
  | modifier
  | indicator
  | indicators
  | emoji
  /-- A joiner and an emoji. -/
  | joinedEmoji
  | joinedKeycap
  | joinedIndicator
  | joinedIndicators (even : Bool)
  /-- The end of a tag sequence, with the number of its letters or digits. -/
  | tagLetters (n : Nat)
  | tagDigits (n : Nat)
  | vowelE
  | vowelAi
  | alef
  | ligature (part : LigaturePart) (joiner : Bool)
deriving DecidableEq

/-- Whether a code point lies between two others. -/
def inRange (c : Char) (first last : Nat) : Bool := first ≤ c.toNat && c.toNat ≤ last

def joiner : Char := '\u200d'

def isIndicator (c : Char) : Bool := inRange c 0x1F1E6 0x1F1FF

def isModifier (c : Char) : Bool := inRange c 0x1F3FB 0x1F3FF

def isTagLetter (c : Char) : Bool := inRange c 0xE0061 0xE007A

def isTagDigit (c : Char) : Bool := inRange c 0xE0030 0xE0039

def alefs : CharClass :=
  [(0x622, 0x623), (0x625, 0x625), (0x627, 0x627), (0x671, 0x673), (0x675, 0x675), (0x773, 0x774),
    (0x870, 0x882)]

def lams : CharClass :=
  [(0x644, 0x644), (0x6B5, 0x6B8), (0x76A, 0x76A), (0x8A6, 0x8A6), (0x8C7, 0x8C7)]

def coengLetters : CharClass :=
  [(0x1780, 0x1782), (0x1784, 0x1787), (0x1789, 0x178C), (0x178E, 0x1793), (0x1795, 0x1798),
    (0x179B, 0x179D), (0x17A0, 0x17A0), (0x17A2, 0x17A2), (0x17A7, 0x17A7), (0x17AB, 0x17AC),
    (0x17AF, 0x17AF)]

def tifinaghConsonants : CharClass := [(0x2D31, 0x2D65), (0x2D6F, 0x2D6F)]

/-- Marks that are not seen and do not break a ligature. -/
def ignorableMarks : CharClass :=
  [(0x34F, 0x34F), (0x17B4, 0x17B5), (0x180B, 0x180D), (0x180F, 0x180F), (0xFE00, 0xFE0F),
    (0xE0100, 0xE01EF)]

/-- The columns of a character by itself. -/
def charWidth (c : Char) : Nat :=
  if c.toNat ≤ 0xA0 then 1
  else if c.toNat = 0x17D8 then 3
  else if WidthTable.zeroWidth.has c then 0
  else if WidthTable.doubleWidth.has c then 2
  else 1

/-- Marks over which an Arabic ligature reaches. -/
def isTransparent (c : Char) : Bool := charWidth c == 0 && !WidthTable.separating.has c

namespace Follower

/-- What a character is for the one before it, whatever comes after. -/
def ofChar (c : Char) : Follower :=
  if c = '\n' then .lineFeed
  else if isModifier c then .modifier
  else if isIndicator c then .indicator
  else if alefs.has c then .alef
  else if coengLetters.has c then .ligature .coengLetter false
  else if tifinaghConsonants.has c then .ligature .consonant false
  else if inRange c 0xA4FC 0xA4FD then .ligature .tone false
  else if c.toNat = 0x5DC then .ligature .lamed false
  else if c.toNat = 0x1A10 then .ligature .ya false
  else if c.toNat = 0x10C03 then .ligature .orkhonI false
  else if c.toNat = 0x16D67 then .vowelE
  else if c.toNat = 0x16D68 then .vowelAi
  else if WidthTable.emoji.has c then .emoji
  else .plain

/-- The ligatures; some need a joiner in between. -/
def joinLigature? (part : LigaturePart) (joined : Bool) (c : Char) : Option (Int × Follower) :=
  match part with
  | .lamed => if joined && c.toNat = 0x5D0 then some (0, .plain) else none
  | .ya => if joined && c.toNat = 0x1A17 then some (0, .ligature .vowelYa false) else none
  | .vowelYa => if c.toNat = 0x1A15 then some (0, .plain) else none
  | .consonant =>
    if c.toNat = 0x2D7F then some (1, .ligature .joinedConsonant false)
    else if joined && tifinaghConsonants.has c then some (0, .plain)
    else none
  | .joinedConsonant => if tifinaghConsonants.has c then some (-1, .plain) else none
  | .tone => if inRange c 0xA4F8 0xA4FB then some (0, .plain) else none
  | .orkhonI => if joined && c.toNat = 0x10C32 then some (0, .plain) else none
  | .coengLetter => if c.toNat = 0x17D2 then some (-1, .plain) else none

/-- What stands before a joiner and an emoji. -/
def joinEmoji? (c : Char) : Option (Int × Follower) :=
  if c.toNat = 0x20E3 then some (0, .joinedKeycap)
  else if isIndicator c then some (1, .joinedIndicator)
  else if isModifier c then some (0, .modifier)
  else if c.toNat = 0xE007F then some (0, .tagLetters 0)
  else if WidthTable.emoji.has c then some (0, .emoji)
  else none

/-- The flag from which a tag sequence starts. -/
def isTagFlag (c : Char) : Bool := c.toNat = 0x1F3F4

def joinTagLetters? (n : Nat) (c : Char) : Option (Int × Follower) :=
  if isTagLetter c && n < 6 then some (0, .tagLetters (n + 1))
  else if isTagDigit c && n ≤ 4 then some (0, .tagDigits 1)
  else if isTagFlag c && 3 ≤ n then some (0, .emoji)
  else none

def joinTagDigits? (n : Nat) (c : Char) : Option (Int × Follower) :=
  if isTagDigit c && n < 3 then some (0, .tagDigits (n + 1))
  else if isTagFlag c && n = 3 then some (0, .emoji)
  else none

/-- What a character adds when it joins with what follows. -/
def join? (f : Follower) (c : Char) : Option (Int × Follower) :=
  match f with
  | .plain | .lineFeed | .joinedKeycap => none
  | .modifier =>
    if WidthTable.modifierBases.has c then some (0, .emoji)
    else if c = joiner then some (0, .joinedEmoji)
    else none
  | .indicator => if isIndicator c then some (1, .indicators) else none
  | .indicators =>
    if isIndicator c then some (1, .indicators)
    else if c = joiner then some (0, .joinedEmoji)
    else none
  | .emoji => if c = joiner then some (0, .joinedEmoji) else none
  | .joinedEmoji => joinEmoji? c
  | .joinedIndicator => if isIndicator c then some (-1, .joinedIndicators true) else none
  | .joinedIndicators even =>
    if isIndicator c then some (if even then 3 else -1, .joinedIndicators (!even))
    else if c = joiner then some (0, .joinedEmoji)
    else none
  | .tagLetters n => joinTagLetters? n c
  | .tagDigits n => joinTagDigits? n c
  | .vowelE =>
    if c.toNat = 0x16D63 || c.toNat = 0x16D69 then some (0, .plain)
    else if c.toNat = 0x16D67 then some (0, .vowelAi)
    else if c.toNat = 0x16D68 then some (1, .vowelE)
    else none
  | .vowelAi => if c.toNat = 0x16D63 then some (0, .plain) else none
  | .alef =>
    if lams.has c then some (0, .plain) else if isTransparent c then some (0, .alef) else none
  | .ligature part joined => joinLigature? part joined c

/-- Joiners and ignorable marks before a ligature leave it open. -/
def pass? (f : Follower) (c : Char) : Option Follower :=
  match f with
  | .ligature part joined =>
    if c = joiner then some (.ligature part true)
    else if ignorableMarks.has c then some (.ligature part joined)
    else none
  | _ => none

/-- Whether the follower is part of a ligature, which selectors before it do not end. -/
def inLigature : Follower → Bool
  | .alef | .ligature _ _ => true
  | _ => false

end Follower

end ExecUml.Text
