import ViewTemplate.Text.CodePoints

/-!
Emoji sequences. A text is measured from its end, so a sequence is recognised from its last
character on: `EmojiTail` is what of it has been met, and `EmojiTail.extend?` what may stand in
front and how many columns that adds.
-/

namespace ViewTemplate.Text

/-! ## Properties -/

/-- The code points with the `Emoji_Presentation` property, regional indicators apart. -/
def emojiPresentationRanges : CodePointRanges := [
    (0x231A, 0x231B), (0x23E9, 0x23EC), (0x23F0, 0x23F0), (0x23F3, 0x23F3), (0x25FD, 0x25FE),
    (0x2614, 0x2615), (0x2648, 0x2653), (0x267F, 0x267F), (0x2693, 0x2693), (0x26A1, 0x26A1),
    (0x26AA, 0x26AB), (0x26BD, 0x26BE), (0x26C4, 0x26C5), (0x26CE, 0x26CE), (0x26D4, 0x26D4),
    (0x26EA, 0x26EA), (0x26F2, 0x26F3), (0x26F5, 0x26F5), (0x26FA, 0x26FA), (0x26FD, 0x26FD),
    (0x2705, 0x2705), (0x270A, 0x270B), (0x2728, 0x2728), (0x274C, 0x274C), (0x274E, 0x274E),
    (0x2753, 0x2755), (0x2757, 0x2757), (0x2795, 0x2797), (0x27B0, 0x27B0), (0x27BF, 0x27BF),
    (0x2B1B, 0x2B1C), (0x2B50, 0x2B50), (0x2B55, 0x2B55), (0x1F004, 0x1F004), (0x1F0CF, 0x1F0CF),
    (0x1F18E, 0x1F18E), (0x1F191, 0x1F19A), (0x1F201, 0x1F201), (0x1F21A, 0x1F21A),
    (0x1F22F, 0x1F22F), (0x1F232, 0x1F236), (0x1F238, 0x1F23A), (0x1F250, 0x1F251),
    (0x1F300, 0x1F320), (0x1F32D, 0x1F335), (0x1F337, 0x1F37C), (0x1F37E, 0x1F393),
    (0x1F3A0, 0x1F3CA), (0x1F3CF, 0x1F3D3), (0x1F3E0, 0x1F3F0), (0x1F3F4, 0x1F3F4),
    (0x1F3F8, 0x1F43E), (0x1F440, 0x1F440), (0x1F442, 0x1F4FC), (0x1F4FF, 0x1F53D),
    (0x1F54B, 0x1F54E), (0x1F550, 0x1F567), (0x1F57A, 0x1F57A), (0x1F595, 0x1F596),
    (0x1F5A4, 0x1F5A4), (0x1F5FB, 0x1F64F), (0x1F680, 0x1F6C5), (0x1F6CC, 0x1F6CC),
    (0x1F6D0, 0x1F6D2), (0x1F6D5, 0x1F6D7), (0x1F6DC, 0x1F6DF), (0x1F6EB, 0x1F6EC),
    (0x1F6F4, 0x1F6FC), (0x1F7E0, 0x1F7EB), (0x1F7F0, 0x1F7F0), (0x1F90C, 0x1F93A),
    (0x1F93C, 0x1F945), (0x1F947, 0x1F9FF), (0x1FA70, 0x1FA7C), (0x1FA80, 0x1FA88),
    (0x1FA90, 0x1FABD), (0x1FABF, 0x1FAC5), (0x1FACE, 0x1FADB), (0x1FAE0, 0x1FAE8),
    (0x1FAF0, 0x1FAF8)]

/-- The code points with the `Emoji_Modifier_Base` property. -/
def emojiModifierBaseRanges : CodePointRanges := [
    (0x261D, 0x261D), (0x26F9, 0x26F9), (0x270A, 0x270D), (0x1F385, 0x1F385), (0x1F3C2, 0x1F3C4),
    (0x1F3C7, 0x1F3C7), (0x1F3CA, 0x1F3CC), (0x1F442, 0x1F443), (0x1F446, 0x1F450),
    (0x1F466, 0x1F478), (0x1F47C, 0x1F47C), (0x1F481, 0x1F483), (0x1F485, 0x1F487),
    (0x1F48F, 0x1F48F), (0x1F491, 0x1F491), (0x1F4AA, 0x1F4AA), (0x1F574, 0x1F575),
    (0x1F57A, 0x1F57A), (0x1F590, 0x1F590), (0x1F595, 0x1F596), (0x1F645, 0x1F647),
    (0x1F64B, 0x1F64F), (0x1F6A3, 0x1F6A3), (0x1F6B4, 0x1F6B6), (0x1F6C0, 0x1F6C0),
    (0x1F6CC, 0x1F6CC), (0x1F90C, 0x1F90C), (0x1F90F, 0x1F90F), (0x1F918, 0x1F91F),
    (0x1F926, 0x1F926), (0x1F930, 0x1F939), (0x1F93C, 0x1F93E), (0x1F977, 0x1F977),
    (0x1F9B5, 0x1F9B6), (0x1F9B8, 0x1F9B9), (0x1F9BB, 0x1F9BB), (0x1F9CD, 0x1F9CF),
    (0x1F9D1, 0x1F9DD), (0x1FAC3, 0x1FAC5), (0x1FAF0, 0x1FAF8)]

/-- The characters with a text form and an emoji form, between which a selector behind them
chooses. -/
def emojiVariationRanges : CodePointRanges := [
    (0x23, 0x23), (0x2A, 0x2A), (0x30, 0x39), (0xA9, 0xA9), (0xAE, 0xAE), (0x203C, 0x203C),
    (0x2049, 0x2049), (0x2122, 0x2122), (0x2139, 0x2139), (0x2194, 0x2199), (0x21A9, 0x21AA),
    (0x231A, 0x231B), (0x2328, 0x2328), (0x23CF, 0x23CF), (0x23E9, 0x23F3), (0x23F8, 0x23FA),
    (0x24C2, 0x24C2), (0x25AA, 0x25AB), (0x25B6, 0x25B6), (0x25C0, 0x25C0), (0x25FB, 0x25FE),
    (0x2600, 0x2604), (0x260E, 0x260E), (0x2611, 0x2611), (0x2614, 0x2615), (0x2618, 0x2618),
    (0x261D, 0x261D), (0x2620, 0x2620), (0x2622, 0x2623), (0x2626, 0x2626), (0x262A, 0x262A),
    (0x262E, 0x262F), (0x2638, 0x263A), (0x2640, 0x2640), (0x2642, 0x2642), (0x2648, 0x2653),
    (0x265F, 0x2660), (0x2663, 0x2663), (0x2665, 0x2666), (0x2668, 0x2668), (0x267B, 0x267B),
    (0x267E, 0x267F), (0x2692, 0x2697), (0x2699, 0x2699), (0x269B, 0x269C), (0x26A0, 0x26A1),
    (0x26A7, 0x26A7), (0x26AA, 0x26AB), (0x26B0, 0x26B1), (0x26BD, 0x26BE), (0x26C4, 0x26C5),
    (0x26C8, 0x26C8), (0x26CE, 0x26CF), (0x26D1, 0x26D1), (0x26D3, 0x26D4), (0x26E9, 0x26EA),
    (0x26F0, 0x26F5), (0x26F7, 0x26FA), (0x26FD, 0x26FD), (0x2702, 0x2702), (0x2705, 0x2705),
    (0x2708, 0x270D), (0x270F, 0x270F), (0x2712, 0x2712), (0x2714, 0x2714), (0x2716, 0x2716),
    (0x271D, 0x271D), (0x2721, 0x2721), (0x2728, 0x2728), (0x2733, 0x2734), (0x2744, 0x2744),
    (0x2747, 0x2747), (0x274C, 0x274C), (0x274E, 0x274E), (0x2753, 0x2755), (0x2757, 0x2757),
    (0x2763, 0x2764), (0x2795, 0x2797), (0x27A1, 0x27A1), (0x27B0, 0x27B0), (0x27BF, 0x27BF),
    (0x2934, 0x2935), (0x2B05, 0x2B07), (0x2B1B, 0x2B1C), (0x2B50, 0x2B50), (0x2B55, 0x2B55),
    (0x3030, 0x3030), (0x303D, 0x303D), (0x3297, 0x3297), (0x3299, 0x3299), (0x1F004, 0x1F004),
    (0x1F170, 0x1F171), (0x1F17E, 0x1F17F), (0x1F202, 0x1F202), (0x1F21A, 0x1F21A),
    (0x1F22F, 0x1F22F), (0x1F237, 0x1F237), (0x1F30D, 0x1F30F), (0x1F315, 0x1F315),
    (0x1F31C, 0x1F31C), (0x1F321, 0x1F321), (0x1F324, 0x1F32C), (0x1F336, 0x1F336),
    (0x1F378, 0x1F378), (0x1F37D, 0x1F37D), (0x1F393, 0x1F393), (0x1F396, 0x1F397),
    (0x1F399, 0x1F39B), (0x1F39E, 0x1F39F), (0x1F3A7, 0x1F3A7), (0x1F3AC, 0x1F3AE),
    (0x1F3C2, 0x1F3C2), (0x1F3C4, 0x1F3C4), (0x1F3C6, 0x1F3C6), (0x1F3CA, 0x1F3CE),
    (0x1F3D4, 0x1F3E0), (0x1F3ED, 0x1F3ED), (0x1F3F3, 0x1F3F3), (0x1F3F5, 0x1F3F5),
    (0x1F3F7, 0x1F3F7), (0x1F408, 0x1F408), (0x1F415, 0x1F415), (0x1F41F, 0x1F41F),
    (0x1F426, 0x1F426), (0x1F43F, 0x1F43F), (0x1F441, 0x1F442), (0x1F446, 0x1F449),
    (0x1F44D, 0x1F44E), (0x1F453, 0x1F453), (0x1F46A, 0x1F46A), (0x1F47D, 0x1F47D),
    (0x1F4A3, 0x1F4A3), (0x1F4B0, 0x1F4B0), (0x1F4B3, 0x1F4B3), (0x1F4BB, 0x1F4BB),
    (0x1F4BF, 0x1F4BF), (0x1F4CB, 0x1F4CB), (0x1F4DA, 0x1F4DA), (0x1F4DF, 0x1F4DF),
    (0x1F4E4, 0x1F4E6), (0x1F4EA, 0x1F4ED), (0x1F4F7, 0x1F4F7), (0x1F4F9, 0x1F4FB),
    (0x1F4FD, 0x1F4FD), (0x1F508, 0x1F508), (0x1F50D, 0x1F50D), (0x1F512, 0x1F513),
    (0x1F549, 0x1F54A), (0x1F550, 0x1F567), (0x1F56F, 0x1F570), (0x1F573, 0x1F579),
    (0x1F587, 0x1F587), (0x1F58A, 0x1F58D), (0x1F590, 0x1F590), (0x1F5A5, 0x1F5A5),
    (0x1F5A8, 0x1F5A8), (0x1F5B1, 0x1F5B2), (0x1F5BC, 0x1F5BC), (0x1F5C2, 0x1F5C4),
    (0x1F5D1, 0x1F5D3), (0x1F5DC, 0x1F5DE), (0x1F5E1, 0x1F5E1), (0x1F5E3, 0x1F5E3),
    (0x1F5E8, 0x1F5E8), (0x1F5EF, 0x1F5EF), (0x1F5F3, 0x1F5F3), (0x1F5FA, 0x1F5FA),
    (0x1F610, 0x1F610), (0x1F687, 0x1F687), (0x1F68D, 0x1F68D), (0x1F691, 0x1F691),
    (0x1F694, 0x1F694), (0x1F698, 0x1F698), (0x1F6AD, 0x1F6AD), (0x1F6B2, 0x1F6B2),
    (0x1F6B9, 0x1F6BA), (0x1F6BC, 0x1F6BC), (0x1F6CB, 0x1F6CB), (0x1F6CD, 0x1F6CF),
    (0x1F6E0, 0x1F6E5), (0x1F6E9, 0x1F6E9), (0x1F6F0, 0x1F6F0), (0x1F6F3, 0x1F6F3)]

/-- U+FE0E, which asks for the text form of the character before it. -/
def textSelector : Char := Char.ofNat 0xFE0E

/-- U+FE0F, which asks for the emoji form of the character before it. -/
def emojiSelector : Char := Char.ofNat 0xFE0F

/-- U+200D, which joins emoji and letters. -/
def zeroWidthJoiner : Char := Char.ofNat 0x200D

/-- U+20E3, which draws a key around a digit. -/
def enclosingKeycap : Char := Char.ofNat 0x20E3

/-- U+1F3F4, the flag to which tags spell the name of a region. -/
def blackFlag : Char := Char.ofNat 0x1F3F4

/-- U+E007F, which ends the tags of a flag. -/
def cancelTag : Char := Char.ofNat 0xE007F

def isSkinTone (character : Char) : Bool :=
  0x1F3FB ≤ character.toNat && character.toNat ≤ 0x1F3FF

/-- Whether the character is a regional indicator. Two of them are a flag. -/
def isRegionalIndicator (character : Char) : Bool :=
  0x1F1E6 ≤ character.toNat && character.toNat ≤ 0x1F1FF

/-- Whether the character is the tag of a small letter. -/
def isLetterTag (character : Char) : Bool :=
  0xE0061 ≤ character.toNat && character.toNat ≤ 0xE007A

def isDigitTag (character : Char) : Bool :=
  0xE0030 ≤ character.toNat && character.toNat ≤ 0xE0039

/-- Whether the character is one of the enclosed ideographs U+1F200 to U+1F2FF, whose text form is
as wide as their emoji form. -/
def isEnclosedIdeograph (character : Char) : Bool :=
  0x1F200 ≤ character.toNat && character.toNat ≤ 0x1F2FF

/-- Whether the character has an emoji form, for which U+FE0F asks. -/
def hasEmojiForm (character : Char) : Bool :=
  emojiVariationRanges.holds character

/-- Whether the character is an emoji that U+FE0E makes narrow. -/
def hasNarrowForm (character : Char) : Bool :=
  emojiVariationRanges.holds character && emojiPresentationRanges.holds character &&
    !isEnclosedIdeograph character

/-! ## Sequences from their end -/

/-- The end of an emoji sequence. -/
inductive EmojiTail where
  /-- A skin tone. -/
  | skinTone
  /-- One regional indicator, or several. -/
  | indicators (several : Bool)
  /-- An emoji that is complete. -/
  | emoji
  /-- A joiner and an emoji. -/
  | joined
  /-- A keycap in front of what is joined. -/
  | joinedKeycap
  /-- So many regional indicators in front of what is joined. -/
  | joinedIndicators (count : Nat)
  /-- So many letter tags, and the end of tags, in front of what is joined. -/
  | joinedLetters (count : Nat)
  /-- So many digit tags, and more tags, in front of what is joined. -/
  | joinedDigits (count : Nat)

namespace EmojiTail

/-- The tail that a character begins, if it is one of emoji. -/
def ofChar? (character : Char) : Option EmojiTail :=
  if isSkinTone character then some .skinTone
  else if isRegionalIndicator character then some (.indicators false)
  else if emojiPresentationRanges.holds character then some .emoji
  else none

/-- Whether a joiner in front of the tail joins it to an emoji. -/
def isJoinable : EmojiTail → Bool
  | .skinTone => true
  | .indicators several => several
  | .emoji => true
  | .joinedIndicators count => 2 ≤ count
  | _ => false

/-- Whether an emoji in front of the tail is drawn together with it, once a selector between the
two asks for its emoji form. -/
def isJoined : EmojiTail → Bool
  | .joined => true
  | .joinedKeycap => true
  | _ => false

/-- The columns that one more regional indicator adds in front of `count` of them that are joined
to an emoji. They are paired from the front: a pair is a flag of two columns, but the flag next to
the joiner is drawn together with the emoji and adds none, and an indicator left over has one. -/
def indicatorColumns (count : Nat) : Int :=
  if count = 0 then 1 else if count % 2 = 1 then -1 else 3

/-- The columns that a character in front adds and the tail that it makes, when it belongs to the
sequence. -/
def extend? (tail : EmojiTail) (character : Char) : Option (Int × EmojiTail) :=
  if character = zeroWidthJoiner && tail.isJoinable then some (0, .joined)
  else
    match tail with
    | .skinTone =>
        if emojiModifierBaseRanges.holds character then some (0, .emoji) else none
    | .indicators _ =>
        if isRegionalIndicator character then some (1, .indicators true) else none
    | .emoji => none
    | .joined =>
        if character = enclosingKeycap then some (0, .joinedKeycap)
        else if character = cancelTag then some (0, .joinedLetters 0)
        else if isSkinTone character then some (0, .skinTone)
        else if isRegionalIndicator character then
          some (indicatorColumns 0, .joinedIndicators 1)
        else if emojiPresentationRanges.holds character then some (0, .emoji)
        else none
    | .joinedKeycap => none
    | .joinedIndicators count =>
        if isRegionalIndicator character then
          some (indicatorColumns count, .joinedIndicators (count + 1))
        else none
    | .joinedLetters count =>
        if isLetterTag character && count < 6 then some (0, .joinedLetters (count + 1))
        else if isDigitTag character && count < 5 then some (0, .joinedDigits 1)
        else if character = blackFlag && 3 ≤ count then some (0, .emoji)
        else none
    | .joinedDigits count =>
        if isDigitTag character && count < 3 then some (0, .joinedDigits (count + 1))
        else if character = blackFlag && count = 3 then some (0, .emoji)
        else none

end EmojiTail

end ViewTemplate.Text
