import RowFilter.Relation
import RowFilter.TypeName

/-!
# Statements as tokens

The lexical rules by which a database splits a statement: identifiers between double quotes and
texts between single quotes, a doubled quote standing for one quote and a backslash for itself;
words, numerals, numbered placeholders and symbols; and a type name behind two colons, which may
only follow a text. The tokens are read by a machine that takes one character at a time, so nothing
of a statement is passed over. Comments, dollar quoting and characters outside quotes that begin no
token are faults.

Only the tokens are described here, not which statements are well formed.
-/

namespace RowFilter.Sql

/-- The words that mean something in a statement. -/
inductive Keyword where
  | select
  | fromTable
  | whereClause
  | conjunction
  | disjunction
  | member
  | between
  | ilike
  | is
  | not
  | null
  | yes
  | no
  deriving DecidableEq, Repr

namespace Keyword

/-- Every keyword. -/
def all : List Keyword :=
  [.select, .fromTable, .whereClause, .conjunction, .disjunction, .member, .between, .ilike, .is,
    .not, .null, .yes, .no]

/-- The upper-case spelling of a keyword. -/
def spelling : Keyword → String
  | .select => "SELECT"
  | .fromTable => "FROM"
  | .whereClause => "WHERE"
  | .conjunction => "AND"
  | .disjunction => "OR"
  | .member => "IN"
  | .between => "BETWEEN"
  | .ilike => "ILIKE"
  | .is => "IS"
  | .not => "NOT"
  | .null => "NULL"
  | .yes => "TRUE"
  | .no => "FALSE"

/-- The keyword that a word spells, in either case. -/
def ofWord? (word : List Char) : Option Keyword :=
  all.find? fun keyword => keyword.spelling.toList == word.map Char.toUpper

end Keyword

/-- The symbols of a statement. -/
inductive Symbol where
  | opening
  | closing
  | comma
  | star
  | relation (relation : Relation)
  deriving DecidableEq, Repr

namespace Symbol

/-- Every symbol. -/
def all : List Symbol :=
  [.opening, .closing, .comma, .star, .relation .equal, .relation .notEqual, .relation .less,
    .relation .lessOrEqual, .relation .greater, .relation .greaterOrEqual]

/-- The spelling of a symbol. -/
def spelling : Symbol → String
  | .opening => "("
  | .closing => ")"
  | .comma => ","
  | .star => "*"
  | .relation r => r.sign

/-- The symbol that the characters spell. -/
def ofChars? (chars : List Char) : Option Symbol :=
  all.find? fun symbol => symbol.spelling.toList == chars

/-- Whether a symbol begins with the character. -/
def startsWith (c : Char) : Bool := all.any fun symbol => symbol.spelling.toList.head? == some c

end Symbol

/-- A token of a statement, with everything between quotes already decoded. -/
inductive Token where
  /-- A name between double quotes. -/
  | identifier (name : String)
  /-- A text between single quotes. -/
  | text (text : String)
  /-- A type name behind two colons, right behind a text. -/
  | cast (type : String)
  /-- A word that is a keyword. -/
  | keyword (keyword : Keyword)
  /-- Any other word. -/
  | word (chars : String)
  /-- A number. -/
  | numeral (chars : String)
  /-- The placeholder of a parameter. -/
  | placeholder (number : Nat)
  /-- A symbol. -/
  | symbol (symbol : Symbol)
  deriving DecidableEq, Repr

/-- Whether the characters are digits, with or without a point and more digits. -/
def isPlainNumeral (chars : List Char) : Bool :=
  match chars.takeWhile Char.isDigit, chars.dropWhile Char.isDigit with
  | [], _ => false
  | _, [] => true
  | _, c :: fraction => c = '.' && !fraction.isEmpty && fraction.all Char.isDigit

/-- Whether the characters are a numeral, with or without a minus sign. -/
def isNumeral : List Char → Bool
  | '-' :: chars => isPlainNumeral chars
  | chars => isPlainNumeral chars

/-- The two kinds of quotes. -/
inductive Quote where
  /-- Around identifiers. -/
  | double
  /-- Around texts. -/
  | single
  deriving DecidableEq, Repr

/-- The character of a quote. -/
def Quote.char : Quote → Char
  | .double => '"'
  | .single => '\''

/-- The token that stands between two quotes. -/
def Quote.token (chars : List Char) : Quote → Token
  | .double => .identifier (String.ofList chars)
  | .single => .text (String.ofList chars)

/-- Where the reader of tokens stands. -/
inductive Reading where
  /-- Between two tokens. -/
  | between
  /-- Between quotes. -/
  | quoted (quote : Quote) (soFar : List Char)
  /-- Behind a quote that ends its token unless it is doubled. -/
  | closed (quote : Quote) (soFar : List Char)
  /-- Behind the first colon after a text. -/
  | colon (label : List Char)
  /-- In the type that a text is cast to. -/
  | cast (label type : List Char)
  /-- In a word. -/
  | word (soFar : List Char)
  /-- In a numeral. -/
  | numeral (soFar : List Char)
  /-- In the number of a placeholder. -/
  | placeholder (digits : List Char)
  /-- In a symbol, behind its first character. -/
  | symbol (first : Char) (soFar : List Char)

namespace Reading

/-- Where the reader stands after the first character of a token. -/
def start (c : Char) : Option Reading :=
  if c = ' ' then some .between
  else if c = '"' then some (.quoted .double [])
  else if c = '\'' then some (.quoted .single [])
  else if TypeName.isStart c then some (.word [c])
  else if c.isDigit || c = '-' then some (.numeral [c])
  else if c = '$' then some (.placeholder [])
  else if Symbol.startsWith c then some (.symbol c [])
  else none

/-- Where the reader stands after one more character of the same token; none if the token ends
before it. -/
def extend : Reading → Char → Option Reading
  | .between, _ => none
  | .quoted quote soFar, c =>
      some (if c = quote.char then .closed quote soFar else .quoted quote (soFar ++ [c]))
  | .closed quote soFar, c =>
    if c = quote.char then some (.quoted quote (soFar ++ [c]))
    else if quote = .single && c = ':' then some (.colon soFar)
    else none
  | .colon label, c => if c = ':' then some (.cast label []) else none
  | .cast label type, c =>
    if TypeName.isContinuation c || c = '.' then some (.cast label (type ++ [c])) else none
  | .word soFar, c => if TypeName.isContinuation c then some (.word (soFar ++ [c])) else none
  | .numeral soFar, c => if c.isDigit || c = '.' then some (.numeral (soFar ++ [c])) else none
  | .placeholder digits, c => if c.isDigit then some (.placeholder (digits ++ [c])) else none
  | .symbol first soFar, c =>
    if (Symbol.ofChars? (first :: soFar ++ [c])).isSome then some (.symbol first (soFar ++ [c]))
    else none

/-- The tokens that the reader has read when the text or the token ends here; none if something is
unfinished. -/
def finish : Reading → Option (List Token)
  | .between => some []
  | .quoted _ _ => none
  | .closed quote soFar => some [quote.token soFar]
  | .colon _ => none
  | .cast label type =>
    if TypeName.isTypeNameChars type then
      some [.text (String.ofList label), .cast (String.ofList type)]
    else none
  | .word soFar =>
    some [match Keyword.ofWord? soFar with
      | some keyword => .keyword keyword
      | none => .word (String.ofList soFar)]
  | .numeral soFar => if isNumeral soFar then some [.numeral (String.ofList soFar)] else none
  | .placeholder digits =>
      if digits.isEmpty then none else some [.placeholder (Nat.ofDigitChars 10 digits 0)]
  | .symbol first soFar => (Symbol.ofChars? (first :: soFar)).map fun symbol => [.symbol symbol]

end Reading

/-- The tokens of a text, read from where the reader stands. -/
def scan (reading : Reading) : List Char → Option (List Token)
  | [] => reading.finish
  | c :: rest =>
    match reading.extend c with
    | some next => scan next rest
    | none =>
        reading.finish.bind fun read => (Reading.start c).bind fun next =>
          (scan next rest).map (read ++ ·)

/-- The tokens of a row of characters. -/
def lex (chars : List Char) : Option (List Token) := scan .between chars

/-- The tokens of a text. -/
def tokens? (text : String) : Option (List Token) := lex text.toList

@[simp] theorem Reading.extend_between (c : Char) : Reading.between.extend c = none := rfl

@[simp] theorem Reading.finish_between : Reading.between.finish = some [] := rfl

theorem scan_nil (reading : Reading) : scan reading [] = reading.finish := rfl

theorem scan_cons_of_extend {reading next : Reading} {c : Char}
    (step : reading.extend c = some next) (rest : List Char) :
    scan reading (c :: rest) = scan next rest := by
  rw [scan, step]

theorem scan_cons_of_not_extend {reading : Reading} {c : Char} (ended : reading.extend c = none)
    (rest : List Char) :
    scan reading (c :: rest) =
      reading.finish.bind fun read => (Reading.start c).bind fun next =>
        (scan next rest).map (read ++ ·) := by
  rw [scan, ended]

/-- At the start of a token the rest of the text is read by its first character. -/
theorem lex_cons (c : Char) (rest : List Char) :
    lex (c :: rest) = (Reading.start c).bind (scan · rest) := by
  rw [lex, scan_cons_of_not_extend (Reading.extend_between c)]
  simp

/-- Whether the token that is being read cannot go on with the rest of the text. -/
def Reading.Stops (reading : Reading) (rest : List Char) : Prop :=
  ∀ c ∈ rest.head?, reading.extend c = none

/-- Reading goes on over characters that extend the token. -/
theorem scan_append {reading next : Reading} {chars : List Char}
    (extended : chars.foldlM Reading.extend reading = some next) (rest : List Char) :
    scan reading (chars ++ rest) = scan next rest := by
  induction chars generalizing reading with
  | nil =>
      simp only [List.foldlM_nil, Option.pure_def, Option.some.injEq] at extended
      rw [extended, List.nil_append]
  | cons c chars ih =>
      simp only [List.foldlM_cons, Option.bind_eq_bind, Option.bind_eq_some_iff] at extended
      obtain ⟨middle, step, later⟩ := extended
      rw [List.cons_append, scan_cons_of_extend step]
      exact ih later

/-- Where a token stops, its reading is finished and the rest is read on its own. -/
theorem scan_of_stops {reading : Reading} {rest : List Char} (stops : reading.Stops rest) :
    scan reading rest = reading.finish.bind fun read => (lex rest).map (read ++ ·) := by
  cases rest with
  | nil =>
      rw [scan_nil, lex, scan_nil, Reading.finish_between]
      simp
  | cons c rest =>
      have ended : reading.extend c = none := stops c (by simp)
      rw [scan_cons_of_not_extend ended, lex_cons]
      simp only [Option.map_bind, Function.comp_def]

/-- One token of a text: its first character, the characters that extend it, and the rest at which
it stops. -/
theorem lex_of_run {c : Char} {first last : Reading} {chars rest : List Char} {read : List Token}
    (started : Reading.start c = some first)
    (extended : chars.foldlM Reading.extend first = some last) (finished : last.finish = some read)
    (stops : last.Stops rest) :
    lex (c :: chars ++ rest) = (lex rest).map (read ++ ·) := by
  rw [List.cons_append, lex_cons, started, Option.bind_some, scan_append extended,
    scan_of_stops stops, finished, Option.bind_some]

end RowFilter.Sql
