import ViewTemplate.Text.Ligature

/-!
Display width of text: the number of terminal columns it fills. Wide characters and emoji
sequences fill two columns, combining and invisible characters none. What a character adds depends
on the text behind it, so a text is measured from its end.
-/

namespace ViewTemplate.Text

/-- Characters two columns wide: those whose `East_Asian_Width` is wide or fullwidth, U+115F and
U+17A4. -/
def wideRanges : CodePointRanges := [
    (0x1100, 0x115F), (0x17A4, 0x17A4), (0x231A, 0x231B), (0x2329, 0x232A), (0x23E9, 0x23EC),
    (0x23F0, 0x23F0), (0x23F3, 0x23F3), (0x25FD, 0x25FE), (0x2614, 0x2615), (0x2648, 0x2653),
    (0x267F, 0x267F), (0x2693, 0x2693), (0x26A1, 0x26A1), (0x26AA, 0x26AB), (0x26BD, 0x26BE),
    (0x26C4, 0x26C5), (0x26CE, 0x26CE), (0x26D4, 0x26D4), (0x26EA, 0x26EA), (0x26F2, 0x26F3),
    (0x26F5, 0x26F5), (0x26FA, 0x26FA), (0x26FD, 0x26FD), (0x2705, 0x2705), (0x270A, 0x270B),
    (0x2728, 0x2728), (0x274C, 0x274C), (0x274E, 0x274E), (0x2753, 0x2755), (0x2757, 0x2757),
    (0x2795, 0x2797), (0x27B0, 0x27B0), (0x27BF, 0x27BF), (0x2B1B, 0x2B1C), (0x2B50, 0x2B50),
    (0x2B55, 0x2B55), (0x2E80, 0x2E99), (0x2E9B, 0x2EF3), (0x2F00, 0x2FD5), (0x2FF0, 0x3029),
    (0x3030, 0x303E), (0x3041, 0x3096), (0x309B, 0x30FF), (0x3105, 0x312F), (0x3131, 0x3163),
    (0x3165, 0x318E), (0x3190, 0x31E3), (0x31EF, 0x321E), (0x3220, 0x3247), (0x3250, 0x4DBF),
    (0x4E00, 0xA48C), (0xA490, 0xA4C6), (0xA960, 0xA97C), (0xAC00, 0xD7A3), (0xF900, 0xFAFF),
    (0xFE10, 0xFE19), (0xFE30, 0xFE52), (0xFE54, 0xFE66), (0xFE68, 0xFE6B), (0xFF01, 0xFF60),
    (0xFFE0, 0xFFE6), (0x16FE0, 0x16FE3), (0x16FF0, 0x16FF1), (0x17000, 0x187F7),
    (0x18800, 0x18CD5), (0x18D00, 0x18D08), (0x1AFF0, 0x1AFF3), (0x1AFF5, 0x1AFFB),
    (0x1AFFD, 0x1AFFE), (0x1B000, 0x1B122), (0x1B132, 0x1B132), (0x1B150, 0x1B152),
    (0x1B155, 0x1B155), (0x1B164, 0x1B167), (0x1B170, 0x1B2FB), (0x1F004, 0x1F004),
    (0x1F0CF, 0x1F0CF), (0x1F18E, 0x1F18E), (0x1F191, 0x1F19A), (0x1F200, 0x1F202),
    (0x1F210, 0x1F23B), (0x1F240, 0x1F248), (0x1F250, 0x1F251), (0x1F260, 0x1F265),
    (0x1F300, 0x1F320), (0x1F32D, 0x1F335), (0x1F337, 0x1F37C), (0x1F37E, 0x1F393),
    (0x1F3A0, 0x1F3CA), (0x1F3CF, 0x1F3D3), (0x1F3E0, 0x1F3F0), (0x1F3F4, 0x1F3F4),
    (0x1F3F8, 0x1F43E), (0x1F440, 0x1F440), (0x1F442, 0x1F4FC), (0x1F4FF, 0x1F53D),
    (0x1F54B, 0x1F54E), (0x1F550, 0x1F567), (0x1F57A, 0x1F57A), (0x1F595, 0x1F596),
    (0x1F5A4, 0x1F5A4), (0x1F5FB, 0x1F64F), (0x1F680, 0x1F6C5), (0x1F6CC, 0x1F6CC),
    (0x1F6D0, 0x1F6D2), (0x1F6D5, 0x1F6D7), (0x1F6DC, 0x1F6DF), (0x1F6EB, 0x1F6EC),
    (0x1F6F4, 0x1F6FC), (0x1F7E0, 0x1F7EB), (0x1F7F0, 0x1F7F0), (0x1F90C, 0x1F93A),
    (0x1F93C, 0x1F945), (0x1F947, 0x1F9FF), (0x1FA70, 0x1FA7C), (0x1FA80, 0x1FA88),
    (0x1FA90, 0x1FABD), (0x1FABF, 0x1FAC5), (0x1FACE, 0x1FADB), (0x1FAE0, 0x1FAE8),
    (0x1FAF0, 0x1FAF8), (0x20000, 0x2FFFD), (0x30000, 0x3FFFD)]

/-- The width of a character that stands alone. A line feed has none, every other control
character has one column, and U+17D8 has three. -/
def characterWidth (character : Char) : Nat :=
  if character = '\n' then 0
  else if character.toNat < 0xA0 then 1
  else if character.toNat = 0x17D8 then 3
  else if wideRanges.holds character then 2
  else if isInvisible character then 0
  else 1

/-- The two forms of a character between which a selector chooses. -/
inductive Form where
  | text
  | emoji
deriving DecidableEq

/-- The head of a text that has been measured, as far as it matters to a character in front. -/
inductive Head where
  | plain
  | lineFeed
  | ligature (tail : LigatureTail)
  | emoji (tail : EmojiTail)

def Head.ofChar (character : Char) : Head :=
  if character = '\n' then .lineFeed
  else
    match EmojiTail.ofChar? character, LigatureTail.ofChar? character with
    | some tail, _ => .emoji tail
    | none, some tail => .ligature tail
    | none, none => .plain

/-- What of the head stays open across a selector that the character in front does not heed: a
ligature, but no emoji sequence. -/
def Head.pastSelector : Head → Head
  | .ligature tail => .ligature tail
  | _ => .plain

/-- What of the head stays open behind a selector: a ligature, and behind the emoji selector also
a sequence to which the emoji in front can be joined. -/
def Head.behindSelector (form : Form) (head : Head) : Head :=
  match form, head with
  | .emoji, .emoji tail => if tail.isJoined then .emoji tail else .plain
  | _, head => head.pastSelector

/-- Whether an emoji in front is drawn together with the head. -/
def Head.isJoined : Head → Bool
  | .emoji tail => tail.isJoined
  | _ => false

/-- A text that has been measured: its columns, the form that a selector at its very head asks for,
and its head behind the selector. -/
structure Measured where
  columns : Int
  selected : Option Form
  head : Head

namespace Measured

def empty : Measured := ⟨0, none, .plain⟩

/-- The text with a character in front that adds columns and makes a new head. -/
def grow (measured : Measured) (added : Int) (head : Head) : Measured :=
  ⟨measured.columns + added, none, head⟩

/-- The text, once the character in front has not heeded the selector at its head. -/
def withoutSelector (measured : Measured) : Measured :=
  ⟨measured.columns, none, measured.head.pastSelector⟩

def select (form : Form) (measured : Measured) : Measured :=
  ⟨measured.columns, some form, measured.head.behindSelector form⟩

/-- The text with a character in front, when no selector stands between. A carriage return has no
column before a line feed. -/
def consUnselected (character : Char) (measured : Measured) : Measured :=
  let alone := measured.grow (characterWidth character) (.ofChar character)
  match measured.head with
  | .plain => alone
  | .lineFeed => if character = '\r' then measured.grow 0 .plain else alone
  | .ligature tail =>
      match tail.extend? character with
      | some (added, some longer) => measured.grow added (.ligature longer)
      | some (added, none) => measured.grow added .plain
      | none => alone
  | .emoji tail =>
      match tail.extend? character with
      | some (added, longer) => measured.grow added (.emoji longer)
      | none => alone

def cons (character : Char) (measured : Measured) : Measured :=
  if measured.selected = some .emoji && hasEmojiForm character then
    measured.grow (if measured.head.isJoined then 0 else 2) (.emoji .emoji)
  else if measured.selected = some .text && hasNarrowForm character then
    measured.grow 1 .plain
  else
    let measured := if measured.selected.isSome then measured.withoutSelector else measured
    if character = emojiSelector then measured.select .emoji
    else if character = textSelector then measured.select .text
    else measured.consUnselected character

end Measured

/-- The text, measured from its end. -/
def measure (text : List Char) : Measured :=
  text.foldr Measured.cons Measured.empty

/-- The number of columns that the text fills. -/
def displayWidth (text : List Char) : Nat :=
  (measure text).columns.toNat

end ViewTemplate.Text
