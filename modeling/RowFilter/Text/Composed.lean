import RowFilter.Text.CompositionTable

/-!
# Composed texts

Many characters can be written in two ways: as one character, or as a character and marks after it.
The composed form of a text is the same for both. It is reached in three steps: each character is
taken apart, the marks on each character are put in the order of their classes, and a character is
joined again with every mark that nothing keeps from it. The syllables of Hangul are taken apart and
joined by their places in the standard's order. The characters that composed texts never hold,
although each is the same as others together, are not looked for: they are taken out before.
-/

namespace RowFilter.Text

/-- The class of a code point in ranges. -/
def classInRanges (n : Nat) : List (Nat × Nat × Nat) → Nat
  | [] => 0
  | (first, last, combining) :: rest =>
    if n < first then 0 else if n ≤ last then combining else classInRanges n rest

/-- The combining class of a character; marks of one class on a character keep their order. -/
def combiningClass (c : Char) : Nat := classInRanges c.toNat combiningClasses

/-- The character after the given one, the characters being read two by two. -/
def partner? (c : Char) : List Char → Option Char
  | first :: second :: rest => if first = c then some second else partner? c rest
  | _ => none

/-- The character before the given one, the characters being read two by two. -/
def partnerBefore? (c : Char) : List Char → Option Char
  | first :: second :: rest => if second = c then some first else partnerBefore? c rest
  | _ => none

/-- The syllable of two parts: a first consonant and a vowel, or a syllable without last consonant
and such a consonant. -/
def syllable? (first second : Char) : Option Char :=
  let (l, v) := (first.toNat, second.toNat)
  if 0x1100 ≤ l && l < 0x1113 && 0x1161 ≤ v && v < 0x1176 then
    some (Char.ofNat (0xAC00 + ((l - 0x1100) * 21 + (v - 0x1161)) * 28))
  else if 0xAC00 ≤ l && l < 0xD7A4 && (l - 0xAC00) % 28 = 0 && 0x11A8 ≤ v && v < 0x11C3 then
    some (Char.ofNat (l + (v - 0x11A7)))
  else none

/-- The two parts of a syllable. -/
def syllableParts? (c : Char) : Option (Char × Char) :=
  if 0xAC00 ≤ c.toNat && c.toNat < 0xD7A4 then
    let place := c.toNat - 0xAC00
    let last := place % 28
    if last = 0 then
      some (Char.ofNat (0x1100 + place / 28 / 21), Char.ofNat (0x1161 + place / 28 % 21))
    else some (Char.ofNat (c.toNat - last), Char.ofNat (0x11A7 + last))
  else none

/-- The character that two others make together. -/
def compose? (first second : Char) : Option Char :=
  (syllable? first second).or
    (compositions.findSome? fun (mark, pairs) =>
      if mark = second.toNat then partner? first pairs.toList else none)

/-- The two characters that make one. -/
def parts? (c : Char) : Option (Char × Char) :=
  (syllableParts? c).or
    (compositions.findSome? fun (mark, pairs) =>
      (partnerBefore? c pairs.toList).map fun first => (first, Char.ofNat mark))

/-- A character taken apart at most so many times; only what comes first is ever taken apart
again. -/
def takeApart : Nat → Char → List Char
  | 0, c => [c]
  | times + 1, c =>
    match parts? c with
    | some (first, second) => takeApart times first ++ [second]
    | none => [c]

/-- A character taken apart; none is made in more than three steps. -/
def decomposed (c : Char) : List Char := takeApart 3 c

/-- Puts a character before others that are in order: a mark goes after those of lower class that
follow. -/
def insertMark (c : Char) : List Char → List Char
  | [] => [c]
  | next :: rest =>
    if combiningClass next ≠ 0 && combiningClass next < combiningClass c then
      next :: insertMark c rest
    else c :: next :: rest

/-- The characters with the marks on each in the order of their classes. -/
def ordered (text : List Char) : List Char := text.foldr insertMark []

/-- Joins a character with the marks that follow it and goes on with the next. The marks that stay
by themselves so far are given latest first; of those that follow, one of no higher class than the
latest is kept from the character. -/
def joinAfter (base : Char) (marks : List Char) : List Char → List Char
  | [] => base :: marks.reverse
  | c :: rest =>
    match if marks.all (combiningClass · < combiningClass c) then compose? base c else none with
    | some composite => joinAfter composite marks rest
    | none =>
      if combiningClass c = 0 then base :: marks.reverse ++ joinAfter c [] rest
      else joinAfter base (c :: marks) rest

/-- The composed form of a text. -/
def composed (text : List Char) : List Char :=
  match ordered (text.flatMap decomposed) with
  | [] => []
  | base :: rest => joinAfter base [] rest

end RowFilter.Text
