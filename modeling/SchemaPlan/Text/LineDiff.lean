/-!
# Differences between texts

Two texts are compared line by line.  The longest run of equal lines is kept, and what stands
before and after it is compared in the same way; of several longest runs the first one is taken.
In a long second text a line that occurs often is no anchor for a run, though a run may grow over
it.  `unifiedDiff` shows the differences with the lines around them.
-/
namespace SchemaPlan.Text.LineDiff

/-! ## Runs of equal lines -/

/-- A run of equal lines: where it begins in either text, and its length. -/
structure Run where
  first : Nat
  second : Nat
  size : Nat
deriving DecidableEq, Inhabited

/-- A second text of so many lines is long. -/
def longText : Nat := 200

/-- How often a line of a long text may occur and still be an anchor. -/
def anchorLimit (size : Nat) : Nat :=
  size / 100 + 1

/-- Where a line stands in a text. -/
def placesOf (text : List String) (line : String) : List Nat :=
  (text.zipIdx.filter fun entry => entry.1 == line).map Prod.snd

/-- Where each line of the first text has its anchors in the second. -/
def anchors (first second : List String) : Array (List Nat) :=
  (first.map fun line =>
    let places := placesOf second line
    if longText ≤ second.length && anchorLimit second.length < places.length then []
    else places).toArray

/-- Two texts with the anchors of the first one in the second. -/
structure Pair where
  first : Array String
  second : Array String
  anchors : Array (List Nat)

/-- A part of two texts: from a line up to, but without, another line. -/
structure Part where
  firstFrom : Nat
  firstTo : Nat
  secondFrom : Nat
  secondTo : Nat

/-- The lengths of the runs that end at a line of the first text, by their end in the second, and
the longest run so far. -/
structure Scan where
  lengths : List (Nat × Nat)
  best : Run

/-- Takes an anchor into account. -/
def Scan.visit (i : Nat) (before : List (Nat × Nat)) (s : Scan) (j : Nat) : Scan :=
  let size := (if j = 0 then 0 else (before.lookup (j - 1)).getD 0) + 1
  ⟨(j, size) :: s.lengths, if s.best.size < size then ⟨i + 1 - size, j + 1 - size, size⟩ else s.best⟩

/-- Takes a line of the first text into account. -/
def Scan.line (p : Pair) (part : Part) (s : Scan) (i : Nat) : Scan :=
  let places := ((p.anchors[i]?).getD []).filter fun j =>
    part.secondFrom ≤ j && j < part.secondTo
  places.foldl (Scan.visit i s.lengths) ⟨[], s.best⟩

/-- Lets a run grow to the front, at most `steps` lines. -/
def growFront (p : Pair) (part : Part) : Nat → Run → Run
  | 0, run => run
  | steps + 1, run =>
    if part.firstFrom < run.first && part.secondFrom < run.second &&
        p.first[run.first - 1]? == p.second[run.second - 1]? then
      growFront p part steps ⟨run.first - 1, run.second - 1, run.size + 1⟩
    else run

/-- Lets a run grow to the end, at most `steps` lines. -/
def growEnd (p : Pair) (part : Part) : Nat → Run → Run
  | 0, run => run
  | steps + 1, run =>
    if run.first + run.size < part.firstTo && run.second + run.size < part.secondTo &&
        p.first[run.first + run.size]? == p.second[run.second + run.size]? then
      growEnd p part steps ⟨run.first, run.second, run.size + 1⟩
    else run

/-- The longest run of a part. -/
def longestRun (p : Pair) (part : Part) : Run :=
  let start : Scan := ⟨[], ⟨part.firstFrom, part.secondFrom, 0⟩⟩
  let rows := List.range' part.firstFrom (part.firstTo - part.firstFrom)
  let best := (rows.foldl (Scan.line p part) start).best
  let grown := growFront p part best.first best
  growEnd p part (part.firstTo - grown.first) grown

/-- The runs of a part in order; `depth` bounds how often it is divided. -/
def runsOf (p : Pair) : Nat → Part → List Run
  | 0, _ => []
  | depth + 1, part =>
    let run := longestRun p part
    if run.size = 0 then []
    else
      (if part.firstFrom < run.first && part.secondFrom < run.second then
        runsOf p depth ⟨part.firstFrom, run.first, part.secondFrom, run.second⟩
      else []) ++
      run ::
      (if run.first + run.size < part.firstTo && run.second + run.size < part.secondTo then
        runsOf p depth
          ⟨run.first + run.size, part.firstTo, run.second + run.size, part.secondTo⟩
      else [])

/-- Joins runs that follow each other without a gap in either text. -/
def joinRuns : List Run → List Run
  | r :: s :: rest =>
    if r.first + r.size = s.first ∧ r.second + r.size = s.second then
      joinRuns (⟨r.first, r.second, r.size + s.size⟩ :: rest)
    else r :: joinRuns (s :: rest)
  | runs => runs
termination_by runs => runs.length

/-- The runs of equal lines of two texts. -/
def equalRuns (first second : List String) : List Run :=
  let p : Pair := ⟨first.toArray, second.toArray, anchors first second⟩
  joinRuns (runsOf p (first.length + 1) ⟨0, first.length, 0, second.length⟩)

/-! ## Edits -/

/-- A piece of the way from the first text to the second; equal pieces stay, all others are taken
away on one side and put in on the other. -/
structure Edit where
  equal : Bool
  part : Part

/-- The edits between a line of either text and the ends of the texts. -/
def editsFrom (firstSize secondSize : Nat) : Nat → Nat → List Run → List Edit
  | i, j, [] =>
    if i < firstSize || j < secondSize then [⟨false, i, firstSize, j, secondSize⟩] else []
  | i, j, run :: rest =>
    (if i < run.first || j < run.second then [⟨false, i, run.first, j, run.second⟩] else []) ++
      ⟨true, run.first, run.first + run.size, run.second, run.second + run.size⟩ ::
      editsFrom firstSize secondSize (run.first + run.size) (run.second + run.size) rest

/-- How many equal lines are shown around a difference. -/
def contextLines : Nat := 3

/-- The end of an equal edit. -/
def Edit.tail (e : Edit) : Edit :=
  ⟨e.equal, Nat.max e.part.firstFrom (e.part.firstTo - contextLines), e.part.firstTo,
    Nat.max e.part.secondFrom (e.part.secondTo - contextLines), e.part.secondTo⟩

/-- The beginning of an equal edit. -/
def Edit.front (e : Edit) : Edit :=
  ⟨e.equal, e.part.firstFrom, Nat.min e.part.firstTo (e.part.firstFrom + contextLines),
    e.part.secondFrom, Nat.min e.part.secondTo (e.part.secondFrom + contextLines)⟩

/-- Whether an equal edit is longer than what is shown of it on both sides. -/
def Edit.isLong (e : Edit) : Bool :=
  e.equal && 2 * contextLines < e.part.firstTo - e.part.firstFrom

/-- Cuts the first edit, if it is equal. -/
def cutFirst : List Edit → List Edit
  | e :: rest => (if e.equal then e.tail else e) :: rest
  | [] => []

/-- Cuts the last edit, if it is equal. -/
def cutLast : List Edit → List Edit
  | [] => []
  | [e] => [if e.equal then e.front else e]
  | e :: rest => e :: cutLast rest

/-- Divides edits at long equal ones; `group` holds the edits since the last division. -/
def groupsFrom (group : List Edit) : List Edit → List (List Edit)
  | [] => [group]
  | e :: rest =>
    if e.isLong then (group ++ [e.front]) :: groupsFrom [e.tail] rest
    else groupsFrom (group ++ [e]) rest

/-- The groups of edits that show a difference. -/
def groups (edits : List Edit) : List (List Edit) :=
  (groupsFrom [] (cutLast (cutFirst edits))).filter fun group => group.any fun e => !e.equal

/-! ## Text -/

/-- The lines of a text from one up to, but without, another. -/
def slice (text : List String) (start stop : Nat) : List String :=
  (text.drop start).take (stop - start)

/-- A number as a text. -/
def number (n : Nat) : String :=
  String.ofList (Nat.toDigits 10 n)

/-- A range of lines: the first one, counted from one, and how many there are. -/
def rangeText (start stop : Nat) : String :=
  let size := stop - start
  if size = 1 then number (start + 1)
  else if size = 0 then number start ++ "," ++ number size
  else number (start + 1) ++ "," ++ number size

/-- The lines of an edit. -/
def Edit.lines (first second : List String) (e : Edit) : List String :=
  if e.equal then (slice first e.part.firstFrom e.part.firstTo).map (" " ++ ·)
  else
    (slice first e.part.firstFrom e.part.firstTo).map ("-" ++ ·) ++
      (slice second e.part.secondFrom e.part.secondTo).map ("+" ++ ·)

/-- The lines of a group of edits, under the ranges that it covers. -/
def groupLines (first second : List String) (group : List Edit) : List String :=
  match group.head?, group.getLast? with
  | some head, some last =>
    ("@@ -" ++ rangeText head.part.firstFrom last.part.firstTo ++ " +" ++
      rangeText head.part.secondFrom last.part.secondTo ++ " @@") ::
      group.flatMap (Edit.lines first second)
  | _, _ => []

/-- The differences between two texts, each with a name; equal texts have none. -/
def unifiedDiff (firstName secondName : String) (first second : List String) : List String :=
  let edits := editsFrom first.length second.length 0 0 (equalRuns first second)
  match groups edits with
  | [] => []
  | shown =>
    ("--- " ++ firstName) :: ("+++ " ++ secondName) :: shown.flatMap (groupLines first second)

end SchemaPlan.Text.LineDiff
