import RowFilter.Calendar.Reader
import RowFilter.Filter.Value
import RowFilter.Text.Lowercase
import RowFilter.Uuid

/-!
# The order of a column and a value

A column holds plain values without types, so how two texts compare is decided by what they look
like: two dates by instant, two identifiers without regard to case, all other texts by character.
Numbers compare as doubles. Values of different kinds do not compare at all.
-/

namespace RowFilter.Comparison

open RowFilter.Filter

/-- The order of two texts by character. -/
def orderOfCharacters (a b : String) : Ordering := if a < b then .lt else if a = b then .eq else .gt

/-- The order of two texts: as dates, as identifiers, or by character. -/
def orderOfTexts (a b : String) : Ordering :=
  match Calendar.read? a, Calendar.read? b with
  | some a, some b => a.compare b
  | _, _ =>
    if Uuid.isUuid a && Uuid.isUuid b then orderOfCharacters (Text.lowercase a) (Text.lowercase b)
    else orderOfCharacters a b

/-- The order of two booleans: false comes first. -/
def orderOfBooleans : Bool → Bool → Ordering
  | false, true => .lt
  | true, false => .gt
  | _, _ => .eq

/-- The order of a column's value and a value, if they compare. -/
def order? : Json → Value → Option Ordering
  | .number n, value => value.finite?.bind n.toDouble.compare?
  | .boolean a, .boolean b => some (orderOfBooleans a b)
  | .string a, .text b => some (orderOfTexts a b)
  | _, _ => none

end RowFilter.Comparison
