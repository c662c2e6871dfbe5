import SoloScript.Http.Escape
import SoloScript.Http.Scheme
import SoloScript.Text.Substring

/-!
# Paths

A path is a list of segments, each with a slash in front.  Segments of dots are resolved when it is
read.  A segment that names a drive is a root of its own: dots do not lead out of it.
-/

namespace SoloScript.Http.Path

abbrev Segment := List Char

def isDot (segment : Segment) : Bool :=
  [".", "%2e"].contains (String.ofList (segment.map Char.toLower))

def isDoubleDot (segment : Segment) : Bool :=
  ["..", ".%2e", "%2e.", "%2e%2e"].contains (String.ofList (segment.map Char.toLower))

/-- Whether a segment names a drive: a letter and a colon, or a bar in its place. -/
def isDrive : Segment → Bool
  | [letter, mark] => letter.isAlpha && (mark = ':' || mark = '|')
  | _ => false

/-- Whether dots do not lead out of a segment: a drive, also with a backslash behind it. -/
def isRoot (segment : Segment) : Bool := isDrive (segment.takeWhile (· ≠ '\\'))

/-- The segments above the last one. -/
def above (done : List Segment) : List Segment :=
  if done.getLast?.any isRoot then done else done.dropLast

/-- Appends a segment.  The drive that a file's path begins with is written with a colon. -/
def append (family : Family) (done : List Segment) (segment : Segment) : List Segment :=
  if family = .file ∧ done = [] ∧ isDrive segment then [segment.take 1 ++ [':']]
  else done ++ [segment]

/-- Appends segments; a double dot takes one away, and dots at the end leave a slash there. -/
def resolve (family : Family) (done : List Segment) : List Segment → List Segment
  | [] => done
  | [last] =>
    if isDoubleDot last then above done ++ [[]]
    else if isDot last then done ++ [[]]
    else append family done last
  | segment :: rest =>
    if isDoubleDot segment then resolve family (above done) rest
    else if isDot segment then resolve family done rest
    else resolve family (append family done segment) rest

/-- The path that `text`, without a slash in front, stands for below `done`. -/
def below (family : Family) (done : List Segment) (text : List Char) : List Segment :=
  let text := text.map fun c ↦ if family.isSlash c then '/' else c
  resolve family done ((Text.pieces '/' text).map (escape .path))

/-- A path without the empty segments in front, unless there are no others. -/
def trim (segments : List Segment) : List Segment :=
  match segments.dropWhile (· = []) with
  | [] => [[]]
  | trimmed => trimmed

def startsWithDrive (segments : List Segment) : Bool := segments.head?.any isDrive

def render (segments : List Segment) : String := String.ofList (segments.flatMap ('/' :: ·))

/-- The segments of a path but the last. -/
def folder (path : String) : List Segment := (Text.pieces '/' path.toList).dropLast.drop 1

end SoloScript.Http.Path
