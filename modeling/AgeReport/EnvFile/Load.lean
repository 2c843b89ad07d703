import AgeReport.EnvFile.Lines
import AgeReport.EnvFile.Value
import AgeReport.Settings.Environment

/-!
# Assignments in a settings file

A logical line is blank, or sets a variable: a name, perhaps behind the word `export`, `=`, and a
value. Assignments take effect one by one, and a value may use the variables set before it: the
entries of the environment first, then the values that the file has read. A variable that has a
text keeps it. Reading stops at the first malformed line. At an assignment that the system refuses it
does not go on either: the program crashes there.

* `load_eq_offerAll`: the environment afterwards is the one before with each assignment offered to it
  in order.
-/

namespace AgeReport.EnvFile

/-- A name and the value that a line gives it. -/
structure Assignment where
  name : String
  value : String
deriving DecidableEq, Repr

/-! ## One line -/

/-- What a logical line says. -/
inductive Line
  | blank
  | malformed
  | assignment (a : Assignment)
deriving DecidableEq, Repr

/-- Whether a name may begin with the character. -/
def isNameStart (c : Char) : Bool :=
  c.isAlpha || c == '_'

/-- Whether a name may go on with the character. -/
def isNamePart (c : Char) : Bool :=
  c.isAlphanum || c == '_' || c == '.'

/-- Reads a name, and drops the blanks behind it. -/
def readName (cs : List Char) : Option (List Char × List Char) :=
  match cs with
  | [] => none
  | c :: _ =>
    if isNameStart c then some (cs.takeWhile isNamePart, Text.trimLeft (cs.dropWhile isNamePart))
    else none

/-- Reads an equals sign. -/
def readEquals : List Char → Option (List Char)
  | '=' :: cs => some cs
  | _ => none

/-- Reads what stands before the value: the name and the equals sign, and the word `export` before
them unless it is the name itself. -/
def readHead (cs : List Char) : Option (List Char × List Char) := do
  let (name, rest) ← readName cs
  match readEquals rest with
  | some rest => return (name, rest)
  | none =>
    if name = "export".toList then
      let (name, rest) ← readName rest
      return (name, ← readEquals rest)
    else none

/-- Reads what stands behind the equals sign. -/
def readTail (lookup : List Char → List Char) (cs : List Char) : Option (List Char) :=
  match Text.trimLeft cs with
  | [] => some []
  | '#' :: _ => some []
  | rest => readValue lookup rest

/-- Reads a logical line (`parse_line`). -/
def readLine (lookup : List Char → List Char) (cs : List Char) : Line :=
  match Text.trim cs with
  | [] => .blank
  | '#' :: _ => .blank
  | rest =>
    match readHead rest with
    | none => .malformed
    | some (name, rest) =>
      match readTail lookup rest with
      | none => .malformed
      | some value => .assignment ⟨String.ofList name, String.ofList value⟩

/-! ## All lines -/

/-- What names stand for while a file is read. -/
structure Scope where
  /-- The environment so far. -/
  environment : Environment
  /-- The values that the file has read so far. -/
  stored : String → String

namespace Scope

/-- The scope in which the reading of a file begins. -/
def start (e : Environment) : Scope := ⟨e, fun _ => ""⟩

/-- The value of a name. -/
def lookup (s : Scope) (name : List Char) : List Char :=
  let name := String.ofList name
  (((s.environment.find? name).bind Text.text?).getD (s.stored name)).toList

/-- The values that the file has read, with an assignment. -/
def store (s : Scope) (a : Assignment) (name : String) : String :=
  if name = a.name then a.value else s.stored name

/-- The scope after an assignment. -/
def assign (s : Scope) (a : Assignment) : Except Environment.Refusal Scope :=
  (s.environment.offer a.name a.value).map fun e => ⟨e, s.store a⟩

end Scope

/-- Reads lines up to the first that is malformed or whose assignment is refused; answers the
assignments, the refused one among them, and the scope they lead to. -/
def loadLines (s : Scope) :
    List (List Char) → List Assignment × Except Environment.Refusal Scope
  | [] => ([], .ok s)
  | line :: lines =>
    match readLine s.lookup line with
    | .malformed => ([], .ok s)
    | .blank => loadLines s lines
    | .assignment a =>
      match s.assign a with
      | .error r => ([a], .error r)
      | .ok s' => (a :: (loadLines s' lines).1, (loadLines s' lines).2)

/-- The assignments of a file that is read in the given environment. -/
def assignments (e : Environment) (file : Bytes) : List Assignment :=
  (loadLines (.start e) (logicalLines file)).1

/-- The environment after a file has been read (`dotenv`). -/
def load (e : Environment) (file : Bytes) : Except Environment.Refusal Environment :=
  (loadLines (.start e) (logicalLines file)).2.map Scope.environment

/-- Offers assignments to an environment, in order. -/
def offerAll (e : Environment) (given : List Assignment) :
    Except Environment.Refusal Environment :=
  given.foldlM (fun e a => e.offer a.name a.value) e

theorem offerAll_cons (e : Environment) (a : Assignment) (given : List Assignment) :
    offerAll e (a :: given) = e.offer a.name a.value >>= (offerAll · given) :=
  List.foldlM_cons

theorem offer_of_offerAll_cons {e e' : Environment} {a : Assignment} {given : List Assignment}
    (h : offerAll e (a :: given) = .ok e') :
    ∃ e₁, e.offer a.name a.value = .ok e₁ ∧ offerAll e₁ given = .ok e' := by
  rw [offerAll_cons] at h
  cases hoffer : e.offer a.name a.value with
  | error r =>
    rw [hoffer] at h
    cases h
  | ok e₁ =>
    rw [hoffer] at h
    exact ⟨e₁, rfl, h⟩

theorem offer_of_assign {s s' : Scope} {a : Assignment} (h : s.assign a = .ok s') :
    s.environment.offer a.name a.value = .ok s'.environment ∧ s'.stored = s.store a := by
  unfold Scope.assign at h
  cases hoffer : s.environment.offer a.name a.value with
  | error r =>
    rw [hoffer] at h
    cases h
  | ok e =>
    rw [hoffer] at h
    cases h
    exact ⟨rfl, rfl⟩

theorem offer_of_assign_error {s : Scope} {a : Assignment} {r : Environment.Refusal}
    (h : s.assign a = .error r) : s.environment.offer a.name a.value = .error r := by
  unfold Scope.assign at h
  cases hoffer : s.environment.offer a.name a.value with
  | error r' =>
    rw [hoffer] at h
    cases h
    rfl
  | ok e =>
    rw [hoffer] at h
    cases h

theorem environment_loadLines (s : Scope) (lines : List (List Char)) :
    (loadLines s lines).2.map Scope.environment =
      offerAll s.environment (loadLines s lines).1 := by
  induction lines generalizing s with
  | nil => rfl
  | cons line lines ih =>
    rw [loadLines]
    split
    · rfl
    · exact ih s
    · split
      · rename_i hassign
        rw [offerAll_cons, offer_of_assign_error hassign]
        rfl
      · rename_i s' hassign
        rw [offerAll_cons, (offer_of_assign hassign).1]
        exact ih s'

theorem load_eq_offerAll (e : Environment) (file : Bytes) :
    load e file = offerAll e (assignments e file) :=
  environment_loadLines _ _

end AgeReport.EnvFile
