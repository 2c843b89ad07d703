import AgeReport.FileSystem.Path
import Mathlib.Tactic.SplitIfs

/-!
# Which files can be opened

A path goes through directories, and only its end may be a file. What a file holds, and whether
there is one yet, therefore does not matter for what can be opened: trees with the same directories
open the same places.

Results:
* `openForWriting_congr`: trees with the same directories open the same places.
* `isDirectory_put_file`: a new or rewritten file leaves the directories as they are.
* `isRegular_or_device`: what is opened is a file, or nothing yet, or a device.
-/

namespace AgeReport.FileSystem

/-- Whether a file stands at a place, or nothing does, so that one may. -/
def isRegular (fs : FileSystem) (place : Location) : Bool :=
  match fs.node? place with
  | none | some (.file _) => true
  | some .directory | some (.device _) => false

variable {fs fs' : FileSystem} {place p q cwd : Location} {name path : Bytes}

/-! ## Following a path -/

theorem isSome_of_isDirectory (h : fs.isDirectory place = true) : (fs.node? place).isSome := by
  have hnode : fs.node? place = some .directory := of_decide_eq_true h
  rw [hnode, Option.isSome_some]

theorem isDirectory_of_enter (h : fs.enter place name = .ok q) : fs.isDirectory place = true := by
  unfold enter at h
  split_ifs at h <;> assumption

/-- A way that ends in a directory begins in one. -/
theorem isDirectory_of_follow {names : List Bytes} (h : fs.follow place names = .ok p)
    (hp : fs.isDirectory p = true) : fs.isDirectory place = true := by
  cases names with
  | nil =>
    obtain rfl : place = p := Except.ok.inj h
    exact hp
  | cons name names =>
    rw [follow] at h
    cases henter : fs.enter place name with
    | error e => simp [henter, bind, Except.bind] at h
    | ok q => exact isDirectory_of_enter henter

/-- Whoever enters a directory does so in every tree with the same directories. -/
theorem enter_congr (hsame : ∀ p, fs'.isDirectory p = fs.isDirectory p)
    (h : fs.enter place name = .ok q) (hq : fs.isDirectory q = true) :
    fs'.enter place name = .ok q := by
  unfold enter at h ⊢
  rw [hsame]
  split_ifs at h ⊢
  · exact h
  · exact h
  · exact h
  · rename_i hmissing _
    obtain rfl : name :: place = q := Except.ok.inj h
    exact absurd (isSome_of_isDirectory ((hsame _).trans hq)) hmissing

theorem follow_congr (hsame : ∀ p, fs'.isDirectory p = fs.isDirectory p) {names : List Bytes}
    (h : fs.follow place names = .ok p) (hp : fs.isDirectory p = true) :
    fs'.follow place names = .ok p := by
  induction names generalizing place with
  | nil => exact h
  | cons name names ih =>
    rw [follow] at h ⊢
    cases henter : fs.enter place name with
    | error e => simp [henter, bind, Except.bind] at h
    | ok q =>
      rw [henter] at h
      have hq : fs.isDirectory q = true := isDirectory_of_follow h hp
      rw [enter_congr hsame henter hq]
      exact ih h

/-! ## Opening -/

theorem isDirectory_of_placeForWriting {slash : Bool}
    (h : fs.placeForWriting p name slash = .ok q) :
    fs.isDirectory p = true ∧ fs.isDirectory q = false := by
  unfold placeForWriting at h
  split_ifs at h with hp hname hlong hdir
  obtain rfl : name :: p = q := Except.ok.inj h
  exact ⟨hp, Bool.eq_false_iff.2 hdir⟩

theorem placeForWriting_congr (hsame : ∀ p, fs'.isDirectory p = fs.isDirectory p)
    (name : Bytes) (slash : Bool) :
    fs'.placeForWriting p name slash = fs.placeForWriting p name slash := by
  unfold placeForWriting
  rw [hsame, hsame]

/-- A path that can be opened: its names but the last lead to a directory. -/
theorem follow_of_openForWriting (h : fs.openForWriting cwd path = .ok place) :
    ∃ name p, pathFault? path = none ∧ (Path.ofBytes path).names.getLast? = some name ∧
      fs.follow (origin cwd (Path.ofBytes path)) (Path.ofBytes path).names.dropLast = .ok p ∧
      fs.placeForWriting p name (Path.ofBytes path).slashAtEnd = .ok place := by
  unfold openForWriting at h
  split at h
  · simp at h
  rename_i hfault
  dsimp only at h
  split at h
  · simp at h
  rename_i name hname
  cases hfollow :
      fs.follow (origin cwd (Path.ofBytes path)) (Path.ofBytes path).names.dropLast with
  | error e => simp [hfollow, bind, Except.bind] at h
  | ok p =>
    rw [hfollow] at h
    exact ⟨name, p, hfault, hname, rfl, h⟩

/-- Trees with the same directories open the same places. -/
theorem openForWriting_congr (hsame : ∀ p, fs'.isDirectory p = fs.isDirectory p)
    (h : fs.openForWriting cwd path = .ok place) : fs'.openForWriting cwd path = .ok place := by
  obtain ⟨name, p, hfault, hname, hfollow, hplace⟩ := follow_of_openForWriting h
  have hp : fs.isDirectory p = true := (isDirectory_of_placeForWriting hplace).1
  have hfollow' := follow_congr hsame hfollow hp
  have hplace' := (placeForWriting_congr hsame name _).trans hplace
  simp only [openForWriting, hfault, hname, hfollow']
  exact hplace'

/-- What is opened is a file, or nothing yet, or a device. -/
theorem isRegular_or_device (h : fs.openForWriting cwd path = .ok place) :
    fs.isRegular place = true ∨ ∃ m, fs.node? place = some (.device m) := by
  obtain ⟨name, p, -, -, -, hplace⟩ := follow_of_openForWriting h
  have hdir : fs.isDirectory place = false := (isDirectory_of_placeForWriting hplace).2
  unfold isRegular
  unfold isDirectory at hdir
  split
  · exact .inl rfl
  · exact .inl rfl
  · rename_i hnode
    simp [hnode] at hdir
  · rename_i m hnode
    exact .inr ⟨m, hnode⟩

/-! ## Writing a file -/

theorem isDirectory_of_isRegular (h : fs.isRegular place = true) :
    fs.isDirectory place = false := by
  unfold isRegular at h
  unfold isDirectory
  split at h <;> simp_all

theorem store_of_isRegular (h : fs.isRegular place = true) (content : Bytes) :
    fs.store place content = fs.put place (.file content) := by
  refine store_of_not_device (fun m hm => ?_) content
  simp [isRegular, hm] at h

theorem mediumAt_of_isRegular (h : fs.isRegular place = true) : fs.mediumAt place = .keeping := by
  unfold mediumAt
  split
  · rename_i m hm
    simp [isRegular, hm] at h
  · rfl

/-- A device stays the device it is. -/
theorem store_of_device {m : Medium} (h : fs.node? place = some (.device m)) (content : Bytes) :
    fs.store place content = fs := by
  simp only [store, h]

theorem mediumAt_of_device {m : Medium} (h : fs.node? place = some (.device m)) :
    fs.mediumAt place = m := by
  simp only [mediumAt, h]

/-- A new or rewritten file leaves the directories as they are. -/
theorem isDirectory_put_file (h : fs.isRegular place = true) (content : Bytes) (p : Location) :
    (fs.put place (.file content)).isDirectory p = fs.isDirectory p := by
  by_cases hp : p = place
  · subst hp
    rw [isDirectory_of_isRegular h]
    simp [isDirectory, node?_put_self]
  · rw [isDirectory, isDirectory, node?_put_of_ne fs hp]

theorem isRegular_put_file (h : fs.isRegular place = true) (content : Bytes) (p : Location) :
    (fs.put place (.file content)).isRegular p = fs.isRegular p := by
  by_cases hp : p = place
  · subst hp
    rw [h]
    simp [isRegular, node?_put_self]
  · rw [isRegular, isRegular, node?_put_of_ne fs hp]

end AgeReport.FileSystem
