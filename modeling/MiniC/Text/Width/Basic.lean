import MiniC.Text.Width.Table

/-!
# The width of a text

How many columns a text takes on a screen. Most characters take one column whatever their
company, marks take none and the characters of East Asia two. The width of a text is not always
the sum of these: a selector gives a character its plain or its coloured form, a skin tone and a
joiner make one picture of several, and some letters make one sign with the next.

A text is measured from its end, so that at each character what follows is known: `Following`
keeps as much of it as a width depends on.
-/

namespace MiniC

/-- The columns of a character that stands alone. Controls count as visible. -/
def charWidth (c : Char) : Nat :=
  if c.toNat ≤ 0xa0 then 1
  else if zeroWidthChars.contains c then 0
  else if c = '\u17d8' then 3
  else if wideChars.contains c then 2
  else 1

namespace Width

/-- What follows a character, as far as it changes the character's width. -/
inductive Following where
  | plain
  | lineFeed
  /-- A coloured picture. -/
  | picture
  /-- A joiner with a coloured picture after it. -/
  | joiner
  | skinTone
  /-- The selector of the coloured form. `joined` says that a joiner and a picture come after. -/
  | colored (joined : Bool)
  /-- The selector of the plain form. -/
  | uncolored
  /-- Tags that end a flag, a joiner and a picture: digits, then letters. -/
  | tags (digits letters : Nat)
  | alef
  | subscript
  | lisuTone
deriving DecidableEq, Inhabited

/-- The characters that change the form of another. They do not part a letter from its
neighbour. -/
def selectors : CharSet :=
  ⟨[(0x34f, 0x34f), (0x17b4, 0x17b5), (0x180b, 0x180d), (0x180f, 0x180f), (0x200d, 0x200d),
    (0xfe00, 0xfe0f), (0xe0100, 0xe01ef)]⟩

def isSkinTone (c : Char) : Bool := 0x1f3fb ≤ c.toNat && c.toNat ≤ 0x1f3ff

def isTagDigit (c : Char) : Bool := 0xe0030 ≤ c.toNat && c.toNat ≤ 0xe0039

def isTagLetter (c : Char) : Bool := 0xe0061 ≤ c.toNat && c.toNat ≤ 0xe007a

/-- Whether the tags of a flag name a region: three to six letters, or three digits and up to four
letters. -/
def isRegion (digits letters : Nat) : Bool :=
  (digits = 0 && 3 ≤ letters && letters ≤ 6) || (digits = 3 && letters ≤ 4)

/-- What a character is to the one before it, when nothing after it matters. -/
def alone (c : Char) : Following :=
  if c = '\n' then .lineFeed
  else if c = '\ufe0f' then .colored false
  else if c = '\ufe0e' then .uncolored
  else if isSkinTone c then .skinTone
  else if pictureChars.contains c then .picture
  else if alefChars.contains c then .alef
  else if subscriptChars.contains c then .subscript
  else if c = '\ua4fc' || c = '\ua4fd' then .lisuTone
  else .plain

/-- A sign that a character makes with what follows it: the columns it adds to what follows, and
what the sign is to the character before it. -/
def combine? (c : Char) : Following → Option (Int × Following)
  | .plain => none
  | .lineFeed => if c = '\r' then some (0, .plain) else none
  | .colored joined =>
    if twoFormChars.contains c then some (if joined then 0 else 2, .picture) else none
  | .uncolored => if plainFormChars.contains c then some (1, .plain) else none
  | .picture => if c = '\u200d' then some (0, .joiner) else none
  | .skinTone =>
    if toneableChars.contains c then some (0, .picture)
    else if c = '\u200d' then some (0, .joiner)
    else none
  | .joiner =>
    if c = '\ufe0f' then some (0, .colored true)
    else if isSkinTone c then some (0, .skinTone)
    else if c.toNat = 0xe007f then some (0, .tags 0 0)
    else if pictureChars.contains c then some (0, .picture)
    else none
  | .tags digits letters =>
    if isTagLetter c && digits = 0 && letters < 6 then some (0, .tags 0 (letters + 1))
    else if isTagDigit c && digits < 3 && letters ≤ 4 then some (0, .tags (digits + 1) letters)
    else if c.toNat = 0x1f3f4 && isRegion digits letters then some (0, .picture)
    else none
  | .alef => if lamChars.contains c then some (0, .plain) else none
  | .subscript =>
    if selectors.contains c then some (0, .subscript)
    else if c = '\u17d2' then some (-1, .plain)
    else none
  | .lisuTone =>
    if 0xa4f8 ≤ c.toNat && c.toNat ≤ 0xa4fb then some (0, .plain) else none

/-- One character more in front of a text of a width. -/
def extend (c : Char) (after : Int × Following) : Int × Following :=
  let (add, following) := (combine? c after.2).getD (charWidth c, alone c)
  (after.1 + add, following)

end Width

/-- The columns of a text. -/
def textWidth (cs : List Char) : Nat := (cs.foldr Width.extend (0, .plain)).1.toNat

end MiniC
