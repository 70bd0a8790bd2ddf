import RowFilter.Url.Encoding

/-!
# Paths

A path is segments between slashes. A segment of one dot is passed over and one of two dots takes
back the segment before it, whether the dots are written plainly or encoded. What looks like the
letter of a drive is not taken back.
-/

namespace RowFilter.Url

/-- Whether a segment stands for a dot. -/
def isDot (text : List Char) : Bool :=
  text = ['.'] || text = ['%', '2', 'e'] || text = ['%', '2', 'E']

/-- Whether a segment is one dot. -/
def isSingleDot (segment : List Char) : Bool := isDot segment

/-- Whether a segment is two dots. -/
def isDoubleDot (segment : List Char) : Bool :=
  (isDot (segment.take 1) && isDot (segment.drop 1)) ||
    (isDot (segment.take 3) && isDot (segment.drop 3))

/-- Whether a segment is a letter and a colon or a bar. -/
def isDriveLetter : List Char → Bool
  | [letter, mark] => letter.isAlpha && (mark = ':' || mark = '|')
  | _ => false

/-- The segments, latest first, without the latest, which stays if it is the letter of a drive. -/
def takeBack : List (List Char) → List (List Char)
  | [] => []
  | segment :: rest => if isDriveLetter segment then segment :: rest else rest

/-- What remains of segments after those so far, latest first; the last of them ends the path. -/
def resolve (earlier : List (List Char)) : List (List Char) → List (List Char)
  | [] => earlier.reverse
  | [segment] =>
    if isDoubleDot segment then (takeBack earlier).reverse ++ [[]]
    else if isSingleDot segment then earlier.reverse ++ [[]]
    else earlier.reverse ++ [segment]
  | segment :: next :: rest =>
    if isDoubleDot segment then resolve (takeBack earlier) (next :: rest)
    else if isSingleDot segment then resolve earlier (next :: rest)
    else resolve (segment :: earlier) (next :: rest)

/-- The path of a text that may start with a slash; every segment follows a slash. -/
def pathChars (text : List Char) : List Char :=
  let body := match text with
    | '/' :: rest => rest
    | rest => rest
  (resolve [] ((encodeIf isOutsidePath body).splitOn '/')).flatMap ('/' :: ·)

end RowFilter.Url
