import AgeReport.Text.Blank
import AgeReport.Text.Utf8

/-!
# The lines of a settings file

A settings file is made of physical lines, which end with a newline, and these are joined into
logical lines: a quote that is still open, a backslash at the very end, or a blank at the very end
takes the next physical line into the same logical line. A `#` behind a blank begins a comment,
and a logical line that begins with `#` is one. Reading ends at a physical line that is no
well-formed text, and at a logical line that never becomes complete.

* `flatten_physicalLines`: the physical lines are the file, cut into pieces.
-/

namespace AgeReport.EnvFile

/-! ## Physical lines -/

/-- Drops the mark with which a UTF-8 text may begin. -/
def dropMark : Bytes → Bytes
  | 0xEF :: 0xBB :: 0xBF :: bs => bs
  | bs => bs

/-- Puts a byte before the first line. -/
def consLine (b : UInt8) : List Bytes → List Bytes
  | [] => [[b]]
  | line :: lines => (b :: line) :: lines

/-- The physical lines, each with its newline. -/
def physicalLines : Bytes → List Bytes
  | [] => []
  | b :: bs => if b = 0x0A then [b] :: physicalLines bs else consLine b (physicalLines bs)

theorem flatten_consLine (b : UInt8) (lines : List Bytes) :
    (consLine b lines).flatten = b :: lines.flatten := by
  cases lines <;> simp [consLine]

theorem flatten_physicalLines (bs : Bytes) : (physicalLines bs).flatten = bs := by
  induction bs with
  | nil => rfl
  | cons b bs ih =>
    simp only [physicalLines]
    split <;> simp [flatten_consLine, ih]

/-! ## Joining lines -/

/-- What a logical line is in the middle of. -/
inductive LineState
  /-- Nothing. -/
  | complete
  /-- Behind a blank. -/
  | blank
  /-- Behind a backslash. -/
  | escaped
  /-- Between double quotes. -/
  | weak
  /-- Between double quotes, behind a backslash. -/
  | weakEscaped
  /-- Between single quotes. -/
  | strong
  /-- Between single quotes, behind a backslash. -/
  | strongEscaped
deriving DecidableEq, Repr

namespace LineState

/-- The state behind a character that opens something, if it does. -/
def opening? (c : Char) : Option LineState :=
  if c = '\\' then some escaped
  else if c = '"' then some weak
  else if c = '\'' then some strong
  else none

/-- The state behind a character; `none` where a comment begins. -/
def step : LineState → Char → Option LineState
  | complete, c =>
    if Text.isBlank c ∧ c ≠ '\n' ∧ c ≠ '\r' then some blank else some ((opening? c).getD complete)
  | blank, c => if c = '#' then none else some ((opening? c).getD complete)
  | escaped, _ => some complete
  | weak, c => some (if c = '\\' then weakEscaped else if c = '"' then complete else weak)
  | weakEscaped, _ => some weak
  | strong, c => some (if c = '\\' then strongEscaped else if c = '\'' then complete else strong)
  | strongEscaped, _ => some strong

/-- Runs over characters; answers those before a comment, and the state behind all of them unless
a comment begins. -/
def run (s : LineState) : List Char → List Char × Option LineState
  | [] => ([], some s)
  | c :: cs =>
    match s.step c with
    | none => ([], none)
    | some s' => (c :: (run s' cs).1, (run s' cs).2)

end LineState

/-- Drops the newline at the end of a line, and then a carriage return before it. -/
def dropLineEnd (cs : List Char) : List Char :=
  match cs.reverse with
  | '\n' :: '\r' :: rest => rest.reverse
  | '\n' :: rest => rest.reverse
  | _ => cs

/-- The logical lines, where `before` has been read of the first and is in state `s`. -/
def joinLines (s : LineState) (before : List Char) : List Bytes → List (List Char)
  | [] => []
  | line :: lines =>
    match Text.decode? line with
    | none => []
    | some cs =>
      let whole := before ++ cs
      if (Text.trimLeft whole).head? = some '#' then joinLines .complete [] lines
      else
        match s.run cs with
        | (kept, none) => (before ++ kept) :: joinLines .complete [] lines
        | (_, some .complete) => dropLineEnd whole :: joinLines .complete [] lines
        | (_, some s') => joinLines s' whole lines

/-- The logical lines of a file (`QuotedLines`), behind its mark. -/
def logicalLines (file : Bytes) : List (List Char) :=
  joinLines .complete [] (physicalLines (dropMark file))

end AgeReport.EnvFile
