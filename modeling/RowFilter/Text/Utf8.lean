/-!
# UTF-8

Characters as octets and octets as characters. Reading never fails: octets that encode no character
are kept as malformed chunks, each as long as the longest start of some encoding, so that a caller
can refuse them, replace each by a mark, or keep their length.
-/

namespace RowFilter.Text

/-- The octets that encode a character. -/
def encodeChar (c : Char) : List UInt8 :=
  let n := c.toNat
  if n < 0x80 then [UInt8.ofNat n]
  else if n < 0x800 then [UInt8.ofNat (0xC0 + n / 0x40), UInt8.ofNat (0x80 + n % 0x40)]
  else if n < 0x10000 then
    [UInt8.ofNat (0xE0 + n / 0x1000), UInt8.ofNat (0x80 + n / 0x40 % 0x40),
     UInt8.ofNat (0x80 + n % 0x40)]
  else
    [UInt8.ofNat (0xF0 + n / 0x40000), UInt8.ofNat (0x80 + n / 0x1000 % 0x40),
     UInt8.ofNat (0x80 + n / 0x40 % 0x40), UInt8.ofNat (0x80 + n % 0x40)]

/-- The octets that encode a text. -/
def encode (text : String) : List UInt8 := text.toList.flatMap encodeChar

/-- The number of octets that encode a character. -/
def charWidth (c : Char) : Nat :=
  if c.toNat < 0x80 then 1 else if c.toNat < 0x800 then 2 else if c.toNat < 0x10000 then 3 else 4

/-- One unit of decoded octets. -/
inductive Symbol where
  /-- An encoded character. -/
  | char (c : Char)
  /-- Octets that encode no character. -/
  | malformed (octets : List UInt8)
  deriving DecidableEq, Repr

/-- The number of octets that a symbol stands for. -/
def Symbol.width : Symbol → Nat
  | .char c => charWidth c
  | .malformed octets => octets.length

/-- The octet that follows the lead octet of a longer encoding lies between these bounds; a lead
octet below `0xC2` or above `0xF4` starts no such encoding. -/
def secondBounds (lead : UInt8) : Nat × Nat :=
  if lead = 0xE0 then (0xA0, 0xBF)
  else if lead = 0xED then (0x80, 0x9F)
  else if lead = 0xF0 then (0x90, 0xBF)
  else if lead = 0xF4 then (0x80, 0x8F)
  else (0x80, 0xBF)

/-- Whether the octet may come second after the lead octet. -/
def followsLead (lead octet : UInt8) : Bool :=
  (secondBounds lead).1 ≤ octet.toNat && octet.toNat ≤ (secondBounds lead).2

/-- Whether the octet may come third or fourth. -/
def isTail (octet : UInt8) : Bool := 0x80 ≤ octet.toNat && octet.toNat ≤ 0xBF

/-- The symbol that octets start with, and the octets after it. -/
def decodeFirst (lead : UInt8) (rest : List UInt8) : Symbol × List UInt8 :=
  let low (octet : UInt8) : Nat := octet.toNat % 0x40
  if lead < 0x80 then (.char (Char.ofNat lead.toNat), rest)
  else if lead < 0xC2 || 0xF4 < lead then (.malformed [lead], rest)
  else match rest with
    | [] => (.malformed [lead], [])
    | b :: rest₂ =>
      if !followsLead lead b then (.malformed [lead], b :: rest₂)
      else if lead < 0xE0 then (.char (Char.ofNat (0x40 * (lead.toNat - 0xC0) + low b)), rest₂)
      else match rest₂ with
        | [] => (.malformed [lead, b], [])
        | c :: rest₃ =>
          if !isTail c then (.malformed [lead, b], c :: rest₃)
          else if lead < 0xF0 then
            (.char (Char.ofNat (0x1000 * (lead.toNat - 0xE0) + 0x40 * low b + low c)), rest₃)
          else match rest₃ with
            | [] => (.malformed [lead, b, c], [])
            | d :: rest₄ =>
              if !isTail d then (.malformed [lead, b, c], d :: rest₄)
              else
                (.char (Char.ofNat
                  (0x40000 * (lead.toNat - 0xF0) + 0x1000 * low b + 0x40 * low c + low d)),
                  rest₄)

/-- At most the given number of symbols that octets decode to. -/
def decodeUpTo : Nat → List UInt8 → List Symbol
  | 0, _ => []
  | _ + 1, [] => []
  | n + 1, lead :: rest => (decodeFirst lead rest).1 :: decodeUpTo n (decodeFirst lead rest).2

/-- The symbols that octets decode to; there are at most as many as octets. -/
def decode (octets : List UInt8) : List Symbol := decodeUpTo octets.length octets

/-- The text as symbols. -/
def symbols (text : String) : List Symbol := text.toList.map .char

/-- The characters of well-formed symbols. -/
def wellFormedChars? : List Symbol → Option (List Char)
  | [] => some []
  | .char c :: rest => (wellFormedChars? rest).map (c :: ·)
  | .malformed _ :: _ => none

/-- The text that octets encode, if they encode one. -/
def text? (octets : List UInt8) : Option String :=
  (wellFormedChars? (decode octets)).map String.ofList

/-- The text that octets encode, with the replacement character for each malformed chunk. -/
def textWithReplacements (octets : List UInt8) : String :=
  String.ofList ((decode octets).map fun
    | .char c => c
    | .malformed _ => Char.ofNat 0xFFFD)

end RowFilter.Text
