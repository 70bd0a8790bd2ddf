import RowFilter.Filter.Decoding
import RowFilter.Json.Expected

/-!
# Filters from text

The root of a filter is read from text member by member, so that a bucket that stands twice is a
fault with a place. A node is first read as a whole value and then understood; a fault in it is
placed where the list around it ends.
-/

namespace RowFilter.Filter

open Json (Attempt Fault ReadError Source Stop)

/-- Reads a node. -/
def readNode (depth : Nat) (text : Source) : Attempt (Node × Source) := do
  let (value, rest) ← Json.plain depth text
  match nodeOfJson value with
  | .ok node => return (node, rest)
  | .error fault => throw (.after fault rest)

/-- Reads a bucket: null, or a list of nodes. -/
def readBucket (depth : Nat) (text : Source) : Attempt (Option (List Node) × Source) :=
  Json.expectOptional (Json.expectList "a sequence" readNode depth) text

/-- The buckets read so far; one that was read as null is not the same as one that was not read. -/
structure Buckets where
  /-- The bucket of nodes that must all hold. -/
  all : Option (Option (List Node)) := none
  /-- The bucket of nodes of which one must hold. -/
  any : Option (Option (List Node)) := none

/-- The group of the buckets. -/
def Buckets.toGroup (buckets : Buckets) : Group := ⟨buckets.all.join, buckets.any.join⟩

/-- Reads a member that is a bucket, or refuses a name that is none of the known. -/
def readBucketMember (known : List String) (depth : Nat) (name : String) (buckets : Buckets)
    (text : Source) :
    Attempt (Buckets × Source) :=
  if name = "and" then do
    let (bucket, rest) ← Json.memberOnce name buckets.all (readBucket depth) text
    return ({ buckets with all := some bucket }, rest)
  else if name = "or" then do
    let (bucket, rest) ← Json.memberOnce name buckets.any (readBucket depth) text
    return ({ buckets with any := some bucket }, rest)
  else .error (.after (.unknownField name known) text)

/-- Reads buckets by position. -/
def readBucketItems (depth : Nat) (text : Source) : Attempt (Buckets × Source) := do
  let (all, rest) ← Json.itemOrEnd (readBucket depth) true text
  let (any, rest) ← Json.itemOrEnd (readBucket depth) false rest
  return (⟨all, any⟩, rest)

/-- Reads a filter. -/
def readGroup (depth : Nat) (text : Source) : Attempt (Group × Source) :=
  Json.expectRecord "struct FilterGroup"
    (fun depth text => (readBucketItems depth text).map fun read => (read.1.toGroup, read.2))
    (readBucketMember groupFields) {} (fun buckets => .ok buckets.toGroup) depth text

/-- Reads a whole text as a filter. -/
def parse (text : String) : Except ReadError Group := Json.document readGroup (Text.symbols text)

/-- Reads a whole text as a value of a condition. -/
def parseValue (text : String) : Except ReadError Value := (Json.parse text).map .ofJson

end RowFilter.Filter
