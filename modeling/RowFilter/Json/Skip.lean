import RowFilter.Json.Collection

/-!
# Skipping values

The value of a member that a record does not know is skipped: its brackets, quotes and commas are
checked, but no depth is counted, escaped code units need not pair up, and numbers need not be
finite.
-/

namespace RowFilter.Json

open Text

/-- Skips an escape after its backslash. -/
def skipEscape (text : Source) : Attempt Source :=
  match text with
  | [] => .error (.at .endInString [] 0)
  | .char 'u' :: rest => do
    let (_, rest) ← codeUnit rest
    return rest
  | .char letter :: rest =>
    if (escapeLetter? letter).isSome then .ok rest
    else .error (.at .badEscape (.char letter :: rest) 1)
  | symbol :: rest => .error (.at .badEscape (symbol :: rest) 1)

/-- Skips to the closing quote. -/
def skipQuotation : Nat → Source → Attempt Source
  | 0, text => .error (.at .endInString text 0)
  | _ + 1, [] => .error (.at .endInString [] 0)
  | bound + 1, .malformed _ :: rest => skipQuotation bound rest
  | bound + 1, .char c :: rest =>
    if c = '"' then .ok rest
    else if c = '\\' then do
      let rest ← skipEscape rest
      skipQuotation bound rest
    else if c.toNat < 0x20 then .error (.at .controlCharacter (.char c :: rest) 0)
    else skipQuotation bound rest

/-- Skips a text after its opening quote. -/
def skipString (text : Source) : Attempt Source := skipQuotation (text.length + 1) text

/-- Skips one or more digits. -/
def skipSomeDigits (text : Source) (ahead : Nat) : Attempt Source :=
  match skipDigits text with
  | (0, rest) => .error (.at .badNumber rest ahead)
  | (_, rest) => .ok rest

/-- Skips an exponent after its letter. -/
def skipExponent (text : Source) : Attempt Source :=
  match text with
  | .char '+' :: rest => skipSomeDigits rest 1
  | .char '-' :: rest => skipSomeDigits rest 1
  | _ => skipSomeDigits text 1

/-- Skips an exponent, if there is one. -/
def skipExponentOrEnd (text : Source) : Attempt Source :=
  match text with
  | .char 'e' :: rest => skipExponent rest
  | .char 'E' :: rest => skipExponent rest
  | _ => .ok text

/-- Skips what follows the digits before a point. -/
def skipAfterWhole (text : Source) : Attempt Source :=
  match text with
  | .char '.' :: rest => do
    let rest ← skipSomeDigits rest 1
    skipExponentOrEnd rest
  | _ => skipExponentOrEnd text

/-- Skips a number after its sign. -/
def skipNumeral (text : Source) : Attempt Source :=
  match text with
  | [] => .error (.at .badNumber [] 0)
  | symbol :: rest =>
    match digit? symbol with
    | none => .error (.at .badNumber (symbol :: rest) 1)
    | some 0 =>
      match rest with
      | next :: after =>
        if (digit? next).isSome then .error (.at .badNumber (next :: after) 1)
        else skipAfterWhole rest
      | [] => .ok []
    | some _ => skipAfterWhole (skipDigits rest).2

/-- Skips the items of a list and its closing bracket. -/
def skipItems (item : Source → Attempt Source) : Nat → Bool → Source → Attempt Source
  | 0, _, text => .error (.at .endInList text 0)
  | bound + 1, first, text =>
    match skipBlanks text with
    | [] => .error (.at .endInList [] 0)
    | symbol :: rest =>
      if symbol = .char ']' then .ok rest
      else if first then do
        let rest ← item (symbol :: rest)
        skipItems item bound false rest
      else if symbol = .char ',' then do
        let rest ← item rest
        skipItems item bound false rest
      else .error (.at .expectedListEnd (symbol :: rest) 1)

/-- Skips a name, its colon and its value. -/
def skipMember (item : Source → Attempt Source) (text : Source) : Attempt Source :=
  match skipBlanks text with
  | [] => .error (.at .endInObject [] 0)
  | symbol :: rest =>
    if symbol = .char '"' then do
      let rest ← skipString rest
      let rest ← colon rest
      item rest
    else .error (.at .keyNotString (symbol :: rest) 1)

/-- Skips the members of an object and its closing brace. -/
def skipMembers (item : Source → Attempt Source) : Nat → Bool → Source → Attempt Source
  | 0, _, text => .error (.at .endInObject text 0)
  | bound + 1, first, text =>
    match skipBlanks text with
    | [] => .error (.at .endInObject [] 0)
    | symbol :: rest =>
      if symbol = .char '}' then .ok rest
      else if first then do
        let rest ← skipMember item (symbol :: rest)
        skipMembers item bound false rest
      else if symbol = .char ',' then do
        let rest ← skipMember item rest
        skipMembers item bound false rest
      else .error (.at .expectedObjectEnd (symbol :: rest) 1)

/-- Skips a value; the first argument bounds the steps, for which one more than the length of the
text is enough. -/
def skipValue : Nat → Source → Attempt Source
  | 0, text => .error (.at .endInValue text 0)
  | bound + 1, text =>
    match skipBlanks text with
    | [] => .error (.at .endInValue [] 0)
    | .malformed octets :: rest => .error (.at .expectedValue (.malformed octets :: rest) 1)
    | .char c :: rest =>
      match c with
      | 'n' => keyword ['u', 'l', 'l'] rest
      | 't' => keyword ['r', 'u', 'e'] rest
      | 'f' => keyword ['a', 'l', 's', 'e'] rest
      | '"' => skipString rest
      | '-' => skipNumeral rest
      | '[' => skipItems (skipValue bound) bound true rest
      | '{' => skipMembers (skipValue bound) bound true rest
      | _ =>
        if (digit? (.char c)).isSome then skipNumeral (.char c :: rest)
        else .error (.at .expectedValue (.char c :: rest) 1)

/-- Skips a whole value. -/
def skip (text : Source) : Attempt Source := skipValue (text.length + 1) text

end RowFilter.Json
