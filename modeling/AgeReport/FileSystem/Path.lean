import AgeReport.FileSystem.Basic

/-!
# Paths

A path leads from the root or from the working directory to a place, name by name; `.` stays, `..`
goes up, and repeated slashes count once. Every name but the last has to lead to a directory. A
path that ends with a slash stands for a directory.

* `FileSystem.find`: what stands where a path leads;
* `FileSystem.openForWriting`: the file or device that a path names, which need not be there yet;
* `nearestFile?_eq_none_iff`: no file of a name is nearest exactly if there is none on the way up.
-/

namespace AgeReport

/-- The longest name, in bytes. -/
def nameLimit : Nat := 255

/-- The longest path, in bytes. -/
def pathLimit : Nat := 4095

/-- A path taken apart. -/
structure Path where
  /-- Whether it begins at the root. -/
  absolute : Bool
  /-- The names, without empty ones. -/
  names : List Bytes
  /-- Whether it ends with a slash. -/
  slashAtEnd : Bool
deriving DecidableEq, Repr

/-- The name for staying in a directory. -/
def stayName : Bytes := [0x2E]

/-- The name for going up from a directory. -/
def upName : Bytes := [0x2E, 0x2E]

/-- Takes a path apart. -/
def Path.ofBytes (bs : Bytes) : Path where
  absolute := bs.head? = some 0x2F
  names := (bs.splitOn 0x2F).filter (· ≠ [])
  slashAtEnd := bs.getLast? = some 0x2F

/-- What is wrong with a path before anything is looked up. -/
def pathFault? (bs : Bytes) : Option IoError :=
  if 0 ∈ bs then some .zeroInPath
  else if bs = [] then some .missing
  else if pathLimit < bs.length then some .nameTooLong
  else none

namespace FileSystem

variable (fs : FileSystem)

/-- Goes from a place that is there to what has the given name in it. -/
def enter (place : Location) (name : Bytes) : Except IoError Location :=
  if fs.isDirectory place then
    if name = stayName then .ok place
    else if name = upName then .ok place.tail
    else if nameLimit < name.length then .error .nameTooLong
    else if (fs.node? (name :: place)).isSome then .ok (name :: place)
    else .error .missing
  else .error .notDirectory

/-- Follows names, one after the other. -/
def follow (place : Location) : List Bytes → Except IoError Location
  | [] => .ok place
  | name :: names => do follow (← fs.enter place name) names

/-- Where a path begins. -/
def origin (cwd : Location) (path : Path) : Location :=
  if path.absolute then [] else cwd

/-- What stands where a path leads. -/
def find (cwd : Location) (bs : Bytes) : Except IoError (Location × Node) :=
  match pathFault? bs with
  | some e => .error e
  | none => do
    let path := Path.ofBytes bs
    let place ← fs.follow (origin cwd path) path.names
    match fs.node? place with
    | none => throw .missing
    | some node =>
      if path.slashAtEnd ∧ node ≠ .directory then throw .notDirectory else return (place, node)

/-- The place of a last name that is to be opened for writing, in a place that is there. -/
def placeForWriting (place : Location) (name : Bytes) (slashAtEnd : Bool) :
    Except IoError Location :=
  if fs.isDirectory place then
    if name = stayName ∨ name = upName ∨ slashAtEnd then .error .isDirectory
    else if nameLimit < name.length then .error .nameTooLong
    else if fs.isDirectory (name :: place) then .error .isDirectory
    else .ok (name :: place)
  else .error .notDirectory

/-- The place of the file or device that a path names, when it is opened for writing (`create`). -/
def openForWriting (cwd : Location) (bs : Bytes) : Except IoError Location :=
  match pathFault? bs with
  | some e => .error e
  | none =>
    let path := Path.ofBytes bs
    match path.names.getLast? with
    | none => .error .isDirectory
    | some name => do
      let place ← fs.follow (origin cwd path) path.names.dropLast
      fs.placeForWriting place name path.slashAtEnd

/-- What a place takes bytes with: a device as it does, and a file by keeping them. -/
def mediumAt (place : Location) : Medium :=
  match fs.node? place with
  | some (.device medium) => medium
  | _ => .keeping

/-- The tree after bytes have been written to a place from its beginning; a device stays what it
is. -/
def store (place : Location) (content : Bytes) : FileSystem :=
  match fs.node? place with
  | some (.device _) => fs
  | _ => fs.put place (.file content)

/-- Makes the directories on the way from a place, where there is nothing yet. -/
def makeDirectories : FileSystem → Location → List Bytes → FileSystem
  | fs, _, [] => fs
  | fs, place, name :: names =>
    if name = stayName then makeDirectories fs place names
    else if name = upName then makeDirectories fs place.tail names
    else if (fs.node? (name :: place)).isSome then makeDirectories fs (name :: place) names
    else makeDirectories (fs.put (name :: place) .directory) (name :: place) names

/-- The content of the file with the given name that is nearest to a place: in it, or in a
directory above it (`find`). -/
def nearestFile? (name : Bytes) : Location → Option Bytes
  | [] => fileIn []
  | dir :: above =>
    match fileIn (dir :: above) with
    | some content => some content
    | none => nearestFile? name above
where
  /-- The content of the file in one directory. -/
  fileIn (place : Location) : Option Bytes :=
    match fs.node? (name :: place) with
    | some (.file content) => some content
    | _ => none

theorem nearestFile?_eq_none_iff {fs : FileSystem} {name : Bytes} {place : Location} :
    fs.nearestFile? name place = none ↔
      ∀ p, p <:+ place → ∀ content, fs.node? (name :: p) ≠ some (.file content) := by
  have hfileIn (p : Location) : nearestFile?.fileIn fs name p = none ↔
      ∀ content, fs.node? (name :: p) ≠ some (.file content) := by
    unfold nearestFile?.fileIn
    split <;> simp_all
  induction place with
  | nil =>
    rw [nearestFile?, hfileIn]
    simp
  | cons dir above ih =>
    have hstep : fs.nearestFile? name (dir :: above) = none ↔
        nearestFile?.fileIn fs name (dir :: above) = none ∧
          fs.nearestFile? name above = none := by
      rw [nearestFile?]
      cases nearestFile?.fileIn fs name (dir :: above) <;> simp
    simp only [hstep, hfileIn, ih, List.suffix_cons_iff, forall_eq_or_imp]

theorem store_of_not_device {fs : FileSystem} {place : Location}
    (h : ∀ m, fs.node? place ≠ some (.device m)) (content : Bytes) :
    fs.store place content = fs.put place (.file content) := by
  unfold store
  split
  · rename_i m hm
    exact absurd hm (h m)
  · rfl

end FileSystem
end AgeReport
