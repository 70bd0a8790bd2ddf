import RowFilter.Json.Fault
import RowFilter.Text.Utf8

/-!
# Texts being read, and where reading stopped

A document is read as a row of symbols. When reading stops on a fault, the place of the fault is
known by how many octets of the text are left after it; line and column are computed from the whole
text at the end. A fault of a value that is well formed but not what was asked for has no place at
first: it gets the place where the list or object around it ends its own reading.
-/

namespace RowFilter.Json

open Text

/-- A text being read. -/
abbrev Source := List Symbol

/-- The number of octets of a text. -/
def size (text : Source) : Nat := Number.total (text.map Symbol.width)

/-- The place of a fault. -/
inductive Place where
  /-- The fault is placed so many octets before the end of the text. -/
  | settled (left : Nat)
  /-- The fault is to be placed by what surrounds it; this text follows what was read. -/
  | pending (rest : Source)
  deriving DecidableEq, Repr

/-- A fault that stopped reading. -/
structure Stop where
  /-- What is wrong. -/
  fault : Fault
  /-- Where it is wrong. -/
  place : Place
  deriving DecidableEq, Repr

/-- A fault placed the given number of octets into the rest of the text, or at its end if that is
nearer. -/
def Stop.at (fault : Fault) (rest : Source) (ahead : Nat) : Stop :=
  ⟨fault, .settled (size rest - ahead)⟩

/-- A fault placed the given number of octets before the rest of the text. -/
def Stop.before (fault : Fault) (rest : Source) (back : Nat) : Stop :=
  ⟨fault, .settled (size rest + back)⟩

/-- A fault whose place is still to be settled. -/
def Stop.after (fault : Fault) (rest : Source) : Stop := ⟨fault, .pending rest⟩

/-- The stop with its place settled: a pending one is placed where the given step leads from where
it stood. -/
def Stop.settle (stop : Stop) (step : Source → Source) : Stop :=
  match stop.place with
  | .settled _ => stop
  | .pending rest => .at stop.fault (step rest) 0

/-- What reading a part of a text gives, or a stop. A reader that hands on a result together with
the rest of the text is an `Attempt` at a pair. -/
abbrev Attempt := Except Stop

/-- A line and a column, counted in octets. -/
structure Position where
  /-- One more than the line feeds before the place. -/
  line : Nat
  /-- The octets between the last line feed and the place. -/
  column : Nat
  deriving DecidableEq, Repr

/-- The position so many octets after a given one. -/
def Position.advance (position : Position) : Nat → Source → Position
  | _, [] => position
  | octets, symbol :: rest =>
    if octets = 0 then position
    else if octets < symbol.width then ⟨position.line, position.column + octets⟩
    else if symbol = .char '\n' then Position.advance ⟨position.line + 1, 0⟩ (octets - 1) rest
    else
      Position.advance ⟨position.line, position.column + symbol.width⟩ (octets - symbol.width) rest

/-- Why a document cannot be read, and where. -/
structure ReadError where
  /-- What is wrong. -/
  fault : Fault
  /-- Where it is wrong, if that is known. -/
  position : Option Position
  deriving DecidableEq, Repr

/-- The wording, with the place at its end. -/
def ReadError.message (error : ReadError) : String :=
  match error.position with
  | none => error.fault.message
  | some position =>
    error.fault.message ++ " at line " ++ toString position.line ++ " column " ++
      toString position.column

/-- The stop as an error in the whole text. -/
def Stop.toError (stop : Stop) (text : Source) : ReadError :=
  match stop.place with
  | .settled left => ⟨stop.fault, some (Position.advance ⟨1, 0⟩ (size text - left) text)⟩
  | .pending _ => ⟨stop.fault, none⟩

end RowFilter.Json
