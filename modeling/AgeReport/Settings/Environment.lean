import AgeReport.Settings.Basic
import AgeReport.Text.Quoted
import AgeReport.Text.Split

/-!
# The environment

Entries such as `NAME=value`, in order; where a name has several, the first counts. A value may be
any bytes; where a text is wanted, a value that is not well-formed counts as absent. The system sets
no variable to a value with a zero byte, and a program that asks for it crashes.

* `value?_put_self`, `value?_put_of_ne`: what setting a variable changes;
* `offer_of_isSome`: a variable that has a text keeps it, and nothing is refused;
* `find?_of_not_mem`: a key without an equals sign is the name of a variable.
-/

namespace AgeReport

/-- The variables that are set, in order, by their names and values. -/
structure Environment where
  entries : List (String × Bytes)

namespace Environment

/-- The name and the value of an entry; its first equals sign stands between them. -/
def entry? (bs : Bytes) : Option (String × Bytes) :=
  match Text.splitOnce 0x3D bs with
  | (_, none) => none
  | (name, some value) => (Text.text? name).map (·, value)

/-- The environment with the given entries; what is no entry of a text is left out. -/
def ofEntries (block : List Bytes) : Environment :=
  ⟨block.filterMap entry?⟩

/-- The value of a variable. -/
def value? (e : Environment) (name : String) : Option Bytes :=
  e.entries.lookup name

/-- The value of a variable as a text (`var`). -/
def text? (e : Environment) (name : String) : Option String :=
  (e.value? name).bind Text.text?

/-- What follows `key=` in the first entry that begins with it. What stands in the key behind its
own equals sign is the beginning of a value. The empty key finds nothing. -/
def find? (e : Environment) (key : String) : Option Bytes :=
  match Text.splitOnce '=' key.toList with
  | (_, none) => if key = "" then none else e.value? key
  | (name, some start) =>
    e.entries.findSome? fun v =>
      if v.1 = String.ofList name then (Text.encode start ++ [0x3D]).isPrefixOf? v.2 else none

/-- The environment in which a variable is set: its first entry changes, or a new one is added at the
end. -/
def put (e : Environment) (name : String) (value : Bytes) : Environment :=
  ⟨go e.entries⟩
where
  go : List (String × Bytes) → List (String × Bytes)
    | [] => [(name, value)]
    | v :: vs => if v.1 = name then (name, value) :: vs else v :: go vs

/-- A variable that the system does not set, and why. -/
structure Refusal where
  name : String
  value : String
  error : IoError
deriving DecidableEq, Repr

/-- The message with which the program crashes. -/
def Refusal.message (r : Refusal) : String :=
  "failed to set environment variable `" ++ Text.quoted r.name ++ "` to `" ++
    Text.quoted r.value ++ "`: " ++ r.error.text

/-- Sets a variable to a text (`set_var`). Neither may hold a zero byte; the name may not be empty
nor hold an equals sign. -/
def set (e : Environment) (name value : String) : Except Refusal Environment :=
  if '\x00' ∈ name.toList ∨ '\x00' ∈ value.toList then .error ⟨name, value, .zeroInPath⟩
  else if name = "" ∨ '=' ∈ name.toList then .error ⟨name, value, .invalidArgument⟩
  else .ok (e.put name (Text.bytes value))

/-- Sets a variable to a text unless it already has one. -/
def offer (e : Environment) (name value : String) : Except Refusal Environment :=
  if (e.text? name).isSome then .ok e else e.set name value

/-- The texts of the variables for the bounds. -/
def boundText? (e : Environment) (b : Bound) : Option String :=
  e.text? b.variableName

theorem value?_put_self (e : Environment) (name : String) (value : Bytes) :
    (e.put name value).value? name = some value := by
  obtain ⟨vs⟩ := e
  simp only [value?, put]
  induction vs with
  | nil => simp [put.go]
  | cons v vs ih =>
    rw [put.go]
    split
    · simp
    · rename_i hv
      rw [List.lookup_cons, beq_eq_false_iff_ne.2 (Ne.symm hv)]
      exact ih

theorem value?_put_of_ne (e : Environment) {name other : String} (h : other ≠ name)
    (value : Bytes) : (e.put name value).value? other = e.value? other := by
  have hb : (other == name) = false := beq_eq_false_iff_ne.2 h
  obtain ⟨vs⟩ := e
  simp only [value?, put]
  induction vs with
  | nil => simp [put.go, List.lookup_cons, hb]
  | cons v vs ih =>
    rw [put.go]
    split
    · rename_i hv
      rw [List.lookup_cons, List.lookup_cons, hv, hb]
    · rw [List.lookup_cons, List.lookup_cons, ih]

theorem text?_put_of_ne (e : Environment) {name other : String} (h : other ≠ name)
    (value : Bytes) : (e.put name value).text? other = e.text? other := by
  simp [text?, value?_put_of_ne e h]

theorem offer_of_isSome {e : Environment} {name : String} (h : (e.text? name).isSome)
    (value : String) : e.offer name value = .ok e := by
  simp [offer, h]

theorem offer_of_none {e : Environment} {name : String} (h : e.text? name = none)
    (value : String) : e.offer name value = e.set name value := by
  simp [offer, h]

theorem eq_put_of_set {e e' : Environment} {name value : String} (h : e.set name value = .ok e') :
    e' = e.put name (Text.bytes value) := by
  unfold set at h
  split at h
  · cases h
  · split at h
    · cases h
    · exact (Except.ok.inj h).symm

theorem text?_offer_of_ne {e e' : Environment} {name other value : String}
    (h : e.offer name value = .ok e') (hne : other ≠ name) : e'.text? other = e.text? other := by
  cases htext : e.text? name with
  | some raw =>
    rw [offer_of_isSome (by simp [htext])] at h
    cases h
    rfl
  | none =>
    rw [offer_of_none htext] at h
    rw [eq_put_of_set h]
    exact text?_put_of_ne e hne _

theorem find?_of_not_mem (e : Environment) {key : String} (hk : key ≠ "")
    (h : '=' ∉ key.toList) : e.find? key = e.value? key := by
  simp [find?, Text.splitOnce_of_not_mem h, hk]

end Environment
end AgeReport
