import FlowchartSync.Text.Columns.Glyph

/-!
# Columns of a text

Neighbouring characters may be drawn as one.  Text is therefore measured from its end to its
start: each character is counted in the light of what stands right of it, and leaves behind what
the next character to the left has to know.  Joined are

* a carriage return with its line feed;
* emoji with style selectors, skin tones, keycaps and joiners, flags of two letters, and flags
  spelled out in tags;
* the ligatures of Arabic, Hebrew, Khmer, Buginese, Tifinagh, Lisu, Old Turkic and Kirat Rai
  that are no wider than one of their parts.

A control character counts as one column in a text.
-/

namespace FlowchartSync.Text.Columns

/-- What stands right of a character, as far as the character may join with it. -/
inductive Joint where
  | plain
  | lineFeed
  | skinTone
  | flagHalf
  | flags
  | emoji
  | joinedEmoji
  | joinedKeycap
  | joinedFlagHalf
  | joinedFlagsEven
  | joinedFlagsOdd
  | tagLetters (count : Nat)
  | tagDigits (count : Nat)
  | alef
  | lamed (joined : Bool)
  | bugineseYa (joined : Bool)
  | bugineseVowelYa
  | tifinagh (joined : Bool)
  | tifinaghPair
  | lisuTone
  | oldTurkicI (joined : Bool)
  | khmerStacking
  | kiratVowelE
  | kiratVowelAi
  | fullwidthQuote
  deriving DecidableEq, Repr

namespace Joint

/-- Whether invisible characters may stand inside the ligature. -/
def isTransparent : Joint → Bool
  | lamed _ | bugineseYa _ | bugineseVowelYa | tifinagh _ | tifinaghPair | lisuTone
  | oldTurkicI _ | khmerStacking => true
  | _ => false

/-- Whether a style selector may stand inside the ligature. -/
def isLigature (joint : Joint) : Bool :=
  joint.isTransparent || joint == alef

/-- Whether an emoji further right waits for one to its left to join it. -/
def awaitsEmoji : Joint → Bool
  | joinedEmoji | joinedKeycap => true
  | _ => false

/-- The joint with a joiner put before it. -/
def withJoiner : Joint → Joint
  | lamed _ => lamed true
  | bugineseYa _ => bugineseYa true
  | tifinagh _ => tifinagh true
  | oldTurkicI _ => oldTurkicI true
  | joint => joint

end Joint

/-- What a character has to know of the text right of it: the joint, and whether a selector of
the emoji style or of the text style stands between. -/
structure Context where
  joint : Joint
  emojiStyle : Bool
  textStyle : Bool
  deriving DecidableEq, Repr

namespace Context

/-- The context of a joint without a style selector. -/
def of (joint : Joint) : Context :=
  ⟨joint, false, false⟩

/-- The context left of a selector of the emoji style. -/
def withEmojiStyle (context : Context) : Context :=
  if context.joint.isLigature || context.joint.awaitsEmoji then
    { context with emojiStyle := true }
  else ⟨.plain, true, false⟩

/-- The context left of a selector of the text style. -/
def withTextStyle (context : Context) : Context :=
  if context.joint.isLigature then { context with textStyle := true } else ⟨.plain, false, true⟩

end Context

/-- Whether a code point lies between two others. -/
def within (low high code : Nat) : Bool :=
  decide (low ≤ code) && decide (code ≤ high)

/-- One half of a flag of two letters. -/
def isFlagHalf (code : Nat) : Bool :=
  within 0x1F1E6 0x1F1FF code

/-- A skin tone. -/
def isSkinTone (code : Nat) : Bool :=
  within 0x1F3FB 0x1F3FF code

/-- An invisible character that may stand inside a ligature. -/
def isInvisible (code : Nat) : Bool :=
  code = 0x34F || within 0x17B4 0x17B5 code || within 0x180B 0x180D code || code = 0x180F
    || code = 0x200D || within 0xFE00 0xFE0F code || within 0xE0100 0xE01EF code

/-- A Tifinagh consonant. -/
def isTifinagh (code : Nat) : Bool :=
  within 0x2D31 0x2D65 code || code = 0x2D6F

/-- An Arabic letter Lam or one of its variants. -/
def isLam (code : Nat) : Bool :=
  code = 0x644 || within 0x6B5 0x6B8 code || code = 0x76A || code = 0x8A6 || code = 0x8C7

/-- A tag letter of a flag that is spelled out. -/
def isTagLetter (code : Nat) : Bool :=
  within 0xE0061 0xE007A code

/-- A tag digit of a flag that is spelled out. -/
def isTagDigit (code : Nat) : Bool :=
  within 0xE0030 0xE0039 code

/-- A character that joins with what stands right of it: the columns that it adds, and the joint
that it becomes. -/
def join? (code : Nat) : Joint → Option (Int × Joint)
  | .alef =>
      if isLam code then some (0, .plain)
      else if inRanges zeroRanges code && !inRanges joiningOpaqueRanges code then some (0, .alef)
      else none
  | .lamed true => if code = 0x5D0 then some (0, .plain) else none
  | .khmerStacking => if code = 0x17D2 then some (-1, .plain) else none
  | .bugineseYa true =>
      if code = 0x1A17 then some (0, .bugineseVowelYa)
      else if code = 0x1A15 then some (0, .plain)
      else none
  | .bugineseVowelYa => if code = 0x1A15 then some (0, .plain) else none
  | .tifinagh joined =>
      if code = 0x2D7F then some (1, .tifinaghPair)
      else if joined && isTifinagh code then some (0, .plain)
      else none
  | .tifinaghPair => if isTifinagh code then some (-1, .plain) else none
  | .lisuTone => if within 0xA4F8 0xA4FB code then some (0, .plain) else none
  | .oldTurkicI true => if code = 0x10C32 then some (0, .plain) else none
  | .skinTone =>
      if inRanges modifierBaseRanges code then some (0, .emoji)
      else if code = 0x200D then some (0, .joinedEmoji)
      else none
  | .flagHalf => if isFlagHalf code then some (1, .flags) else none
  | .flags =>
      if isFlagHalf code then some (1, .flags)
      else if code = 0x200D then some (0, .joinedEmoji)
      else none
  | .emoji => if code = 0x200D then some (0, .joinedEmoji) else none
  | .joinedEmoji =>
      if code = 0x20E3 then some (0, .joinedKeycap)
      else if isFlagHalf code then some (1, .joinedFlagHalf)
      else if isSkinTone code then some (0, .skinTone)
      else if code = 0xE007F then some (0, .tagLetters 0)
      else if inRanges emojiRanges code then some (0, .emoji)
      else none
  | .joinedFlagHalf =>
      if isFlagHalf code then some (-1, .joinedFlagsEven)
      else if code = 0x200D then some (0, .joinedEmoji)
      else none
  | .joinedFlagsEven =>
      if isFlagHalf code then some (3, .joinedFlagsOdd)
      else if code = 0x200D then some (0, .joinedEmoji)
      else none
  | .joinedFlagsOdd => if isFlagHalf code then some (-1, .joinedFlagsEven) else none
  | .tagLetters count =>
      if isTagLetter code && count < 6 then some (0, .tagLetters (count + 1))
      else if isTagDigit code && count < 5 then some (0, .tagDigits 1)
      else if code = 0x1F3F4 && 3 ≤ count then some (0, .emoji)
      else none
  | .tagDigits count =>
      if isTagDigit code && count < 3 then some (0, .tagDigits (count + 1))
      else if code = 0x1F3F4 && count = 3 then some (0, .emoji)
      else none
  | .kiratVowelE =>
      if code = 0x16D63 || code = 0x16D69 then some (0, .plain)
      else if code = 0x16D67 then some (0, .kiratVowelAi)
      else if code = 0x16D68 then some (1, .kiratVowelE)
      else none
  | .kiratVowelAi => if code = 0x16D63 then some (0, .plain) else none
  | .fullwidthQuote =>
      if within 0x2018 0x2019 code || within 0x201C 0x201D code then some (2, .plain) else none
  | _ => none

/-- The context left of a character that joins with nothing. -/
def contextOf (code : Nat) : Context :=
  if code = 0xFE0F then ⟨.plain, true, false⟩
  else if code = 0xFE0E then ⟨.plain, false, true⟩
  else if code = 0xFE01 then .of .fullwidthQuote
  else if code = 0x5DC then .of (.lamed false)
  else if inRanges alefRanges code then .of .alef
  else if inRanges khmerStackingRanges code then .of .khmerStacking
  else if code = 0x1A10 then .of (.bugineseYa false)
  else if isTifinagh code then .of (.tifinagh false)
  else if within 0xA4FC 0xA4FD code then .of .lisuTone
  else if code = 0x10C03 then .of (.oldTurkicI false)
  else if code = 0x16D67 then .of .kiratVowelE
  else if code = 0x16D68 then .of .kiratVowelAi
  else if isFlagHalf code then .of .flagHalf
  else if isSkinTone code then .of .skinTone
  else if inRanges emojiRanges code then .of .emoji
  else .of .plain

/-- A character beyond Latin-1 counted in the light of its context. -/
def countJoining (code : Nat) (context : Context) : Int × Context :=
  if code = 0xFE0F then (0, context.withEmojiStyle)
  else if code = 0xFE0E then (0, context.withTextStyle)
  else if context.textStyle && inRanges textOnDemandRanges code then (1, .of .plain)
  else
    let joint := context.joint
    if joint.isTransparent && isInvisible code then
      (0, .of (if code = 0x200D then joint.withJoiner else joint))
    else
      match join? code joint with
      | some (columns, left) => (columns, .of left)
      | none => (glyphWidth code, contextOf code)

/-- A character counted in the light of its context, once an emoji style has been dealt with. -/
def countPlain (code : Nat) (context : Context) : Int × Context :=
  if code ≤ 0xA0 then
    if code = 0x0A then (1, .of .lineFeed)
    else if code = 0x0D && context.joint == .lineFeed then (0, .of .plain)
    else (1, .of .plain)
  else countJoining code context

/-- A character counted in the light of its context: the columns that it adds, and the context
that it leaves to the character left of it. -/
def count (c : Char) (context : Context) : Int × Context :=
  let code := c.toNat
  if context.emojiStyle && inRanges emojiOnDemandRanges code then
    (if context.joint.awaitsEmoji then 0 else 2, .of .emoji)
  else countPlain code { context with emojiStyle := false }

/-- The columns of a text, and the context that it is for what stands left of it. -/
def measure : List Char → Int × Context
  | [] => (0, .of .plain)
  | c :: text =>
      let (columns, context) := measure text
      let (own, left) := count c context
      (columns + own, left)

end FlowchartSync.Text.Columns
