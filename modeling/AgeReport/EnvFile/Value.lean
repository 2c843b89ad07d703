import AgeReport.Text.Alphanumeric
import AgeReport.Text.Blank

/-!
# Values in a settings file

The text behind the `=` of an assignment, with quotes and escapes taken off and names replaced by
their values. A value ends at its first blank that is neither quoted nor escaped; only a comment
may follow. Between single quotes everything stands for itself; between double quotes escapes and
names keep their meaning.

* `readValue`: the value that a text stands for, if it is well-formed.
-/

namespace AgeReport.EnvFile

/-- What the reading of a value is in the middle of. -/
inductive ValueMode
  /-- Nothing in particular. -/
  | plain
  /-- Behind the end of the value. -/
  | ended
  /-- Behind a backslash. -/
  | escaped
  /-- Between single quotes. -/
  | strong
  /-- In the name behind `$`. -/
  | name (cs : List Char)
  /-- In the name between braces. -/
  | braced (cs : List Char)
deriving DecidableEq, Repr

/-- What a character does to the reading of a value. -/
inductive ValueMove
  /-- Adds to the value and goes on; `weak` says whether a double quote is open. -/
  | go (weak : Bool) (mode : ValueMode) (added : List Char)
  /-- Begins a comment. -/
  | comment
  /-- Cannot stand here. -/
  | malformed
deriving DecidableEq, Repr

/-- The character that an escape stands for. -/
def escapeValue? (c : Char) : Option Char :=
  if c ∈ ['\\', '\'', '"', '$', ' '] then some c
  else if c = 'n' then some '\n'
  else none

/-- A character outside of single quotes, escapes and names. -/
def movePlain (weak : Bool) (c : Char) : ValueMove :=
  if c = '$' then .go weak (.name []) []
  else if c = '\\' then .go weak .escaped []
  else if c = '"' then .go (!weak) .plain []
  else if weak then .go weak .plain [c]
  else if c = '\'' then .go weak .strong []
  else if c = ' ' ∨ c = '\t' then .go weak .ended []
  else .go weak .plain [c]

/-- A character that is not part of the name behind `$`. -/
def moveBehindName (lookup : List Char → List Char) (weak : Bool) (cs : List Char) (c : Char) :
    ValueMove :=
  if c = '\x7b' ∧ cs = [] then .go weak (.braced []) []
  else if c = '$' then .go weak (.name []) (lookup cs)
  else .go weak .plain (lookup cs ++ [c])

/-- What a character does. -/
def move (lookup : List Char → List Char) (weak : Bool) (mode : ValueMode) (c : Char) :
    ValueMove :=
  match mode with
  | .ended =>
    if c = ' ' ∨ c = '\t' then .go weak .ended [] else if c = '#' then .comment else .malformed
  | .escaped =>
    match escapeValue? c with
    | some d => .go weak .plain [d]
    | none => .malformed
  | .strong => if c = '\'' then .go weak .plain [] else .go weak .strong [c]
  | .name cs =>
    if Text.isAlphanumeric c then .go weak (.name (cs ++ [c])) []
    else moveBehindName lookup weak cs c
  | .braced cs =>
    if c = '\x7d' then .go weak .plain (lookup cs) else .go weak (.braced (cs ++ [c])) []
  | .plain => movePlain weak c

/-- What the end of the text adds; quotes and braces must not be open. -/
def atEnd (lookup : List Char → List Char) (weak : Bool) (mode : ValueMode) : Option (List Char) :=
  if weak then none
  else
    match mode with
    | .strong => none
    | .braced _ => none
    | .name cs => some (lookup cs)
    | _ => some []

/-- Reads the rest of a value. -/
def readRest (lookup : List Char → List Char) (weak : Bool) (mode : ValueMode) :
    List Char → Option (List Char)
  | [] => atEnd lookup weak mode
  | c :: cs =>
    match move lookup weak mode c with
    | .malformed => none
    | .comment => some []
    | .go weak' mode' added => (readRest lookup weak' mode' cs).map (added ++ ·)

/-- The value that a text stands for, where `lookup` gives the value of a name (`parse_value`). -/
def readValue (lookup : List Char → List Char) (cs : List Char) : Option (List Char) :=
  readRest lookup false .plain cs

end AgeReport.EnvFile
