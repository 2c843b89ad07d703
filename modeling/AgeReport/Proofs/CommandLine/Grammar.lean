import AgeReport.CommandLine.Parse
import AgeReport.Proofs.Number.Numerals
import AgeReport.Proofs.Text.Utf8

/-!
# The grammar of the command line

A command line is a sequence of groups, each an option with its value, in any order. The grammar
lists the spellings of a group and says nothing of how arguments are read: no option is ever
pending in it.

* `Group`, `Reads`: the spellings of one option, and of a whole command line;
* `Options.MadeOf`: the options that settings make, whatever their order.

Results:
* `read_eq_ok_iff`: an option reads from a value exactly the setting that the grammar gives it.
* `shape_longName`, `eq_of_shape_long` and others: the arguments with which a group can begin, as
  the forms that the reading tells apart.
-/

namespace AgeReport

namespace CommandLine

/-! ## The grammar -/

/-- The name under which an option is written out. -/
def Opt.longName : Opt → String
  | .year .birth => "--birth-year"
  | .year .current => "--current-year"
  | .format => "--format"
  | .exportPath => "--export"

/-- The letter under which a bound may be given as well. -/
def shortName : Bound → String
  | .birth => "-b"
  | .current => "-c"

/-- The bytes of a value, and the setting that its option makes with it. -/
inductive Gives : Bytes → Setting → Prop
  | year {cs : List Char} {y : Int32} (b : Bound) (h : Numeral.Spells cs y.toInt) :
    Gives (Text.encode cs) (.year b y)
  | text : Gives (Text.bytes "text") (.format .text)
  | json : Gives (Text.bytes "json") (.format .json)
  | exportPath {v : Bytes} (h : v ≠ []) : Gives v (.exportPath v)

/-- Whether a value may stand in an argument of its own: a path may begin with a dash only if it is
nothing but that dash. -/
def StandsApart (v : Bytes) : Setting → Prop
  | .exportPath _ => v.head? = some 0x2D → v = [0x2D]
  | _ => True

/-- The arguments of one option with its value, in every spelling. -/
inductive Group : List Bytes → Setting → Prop
  | apart {v : Bytes} {s : Setting} (hv : Gives v s) (ha : StandsApart v s) :
    Group [Text.bytes s.opt.longName, v] s
  | attached {v : Bytes} {s : Setting} (hv : Gives v s) :
    Group [Text.bytes s.opt.longName ++ 0x3D :: v] s
  | letterApart {v : Bytes} {b : Bound} {y : Int32} (hv : Gives v (.year b y)) :
    Group [Text.bytes (shortName b), v] (.year b y)
  | letterAttached {v : Bytes} {b : Bound} {y : Int32} (hv : Gives v (.year b y)) :
    Group [Text.bytes (shortName b) ++ v] (.year b y)
  | letterEquals {v : Bytes} {b : Bound} {y : Int32} (hv : Gives v (.year b y)) :
    Group [Text.bytes (shortName b) ++ 0x3D :: v] (.year b y)

/-- Option groups one after the other, perhaps with two dashes behind the last. -/
inductive Reads : List Bytes → List Setting → Prop
  | nil : Reads [] []
  | terminator : Reads [Text.bytes "--"] []
  | group {front rest : List Bytes} {s : Setting} {given : List Setting} (hg : Group front s)
    (hr : Reads rest given) : Reads (front ++ rest) (s :: given)

end CommandLine

/-- The options that hold what the settings say, and where they say nothing what holds without. -/
structure Options.MadeOf (o : Options) (given : List CommandLine.Setting) : Prop where
  bound : ∀ b y, o.bound? b = some y ↔ .year b y ∈ given
  format : ∀ f, o.format = f ↔ .format f ∈ given ∨ f = .text ∧ ∀ f', .format f' ∉ given
  exportPath : ∀ path, o.exportPath = some path ↔ .exportPath path ∈ given

theorem Options.MadeOf.of_perm {o : Options} {given given' : List CommandLine.Setting}
    (h : o.MadeOf given) (hperm : given.Perm given') : o.MadeOf given' where
  bound b y := (h.bound b y).trans hperm.mem_iff
  format f := by simpa only [hperm.mem_iff] using h.format f
  exportPath path := (h.exportPath path).trans hperm.mem_iff

namespace CommandLine

/-! ## Values -/

variable {v : Bytes} {s : Setting} {o : Opt} {b : Bound} {y : Int32} {given : List Setting}

theorem readYearValue_eq_ok_iff :
    readYearValue b v = .ok y ↔ ∃ cs, v = Text.encode cs ∧ Numeral.Spells cs y.toInt := by
  rw [readYearValue]
  constructor
  · intro h
    split at h
    · cases h
    rename_i cs hcs
    split at h
    · cases h
    rename_i n hn
    split at h
    · rename_i hyear
      cases h
      refine ⟨cs, Text.decode?_eq_some_iff.1 hcs, ?_⟩
      rw [Numeral.toInt_ofInt_of_contains hyear]
      exact ((Numeral.read_eq_ok_iff (by decide)).1 hn).1
    · cases h
  · rintro ⟨cs, rfl, hspells⟩
    have hyear := Numeral.contains_toInt y
    have hread : Numeral.read .age cs = .ok y.toInt :=
      (Numeral.read_eq_ok_iff (by decide)).2 ⟨hspells, Numeral.contains_age_of_year hyear⟩
    simp only [Text.decode?_eq_some_iff.2 rfl, hread, hyear, ↓reduceIte, Int32.ofInt_toInt]

theorem readFormatValue_eq_ok_iff {f : OutputFormat} :
    readFormatValue v = .ok f ↔ v = Text.bytes f.name := by
  rw [readFormatValue]
  constructor
  · intro h
    split at h
    · rename_i f' hf
      cases h
      obtain ⟨name, hname, hf⟩ := Option.bind_eq_some_iff.1 hf
      rw [Text.text?_eq_some_iff.1 hname, OutputFormat.ofName?_eq_some_iff.1 hf]
    · split at h <;> cases h
  · rintro rfl
    rw [Text.text?_bytes, Option.bind_some, OutputFormat.ofName?_name]

theorem map_eq_ok_iff {α β : Type} {x : Except Fault α} {f : α → β} {d : β} :
    x.map f = .ok d ↔ ∃ a, x = .ok a ∧ f a = d := by
  cases x <;> simp [Except.map]

theorem bind_eq_ok_iff {α β : Type} {x : Except Fault α} {f : α → Except Fault β} {d : β} :
    (x >>= f) = .ok d ↔ ∃ a, x = .ok a ∧ f a = .ok d := by
  cases x <;> simp [bind, Except.bind]

/-- An option reads from bytes exactly the setting that they give it. -/
theorem read_eq_ok_iff : o.read v = .ok s ↔ s.opt = o ∧ Gives v s := by
  constructor
  · intro h
    cases o with
    | year b =>
      obtain ⟨y, hy, rfl⟩ := map_eq_ok_iff.1 h
      obtain ⟨cs, rfl, hspells⟩ := readYearValue_eq_ok_iff.1 hy
      exact ⟨rfl, .year b hspells⟩
    | format =>
      obtain ⟨f, hf, rfl⟩ := map_eq_ok_iff.1 h
      obtain rfl := readFormatValue_eq_ok_iff.1 hf
      cases f with
      | text => exact ⟨rfl, .text⟩
      | json => exact ⟨rfl, .json⟩
    | exportPath =>
      rw [Opt.read] at h
      split at h
      · cases h
      · rename_i hv
        cases h
        exact ⟨rfl, .exportPath hv⟩
  · rintro ⟨rfl, hv⟩
    cases hv with
    | year b hspells => exact map_eq_ok_iff.2 ⟨_, readYearValue_eq_ok_iff.2 ⟨_, rfl, hspells⟩, rfl⟩
    | text => exact map_eq_ok_iff.2 ⟨.text, readFormatValue_eq_ok_iff.2 rfl, rfl⟩
    | json => exact map_eq_ok_iff.2 ⟨.json, readFormatValue_eq_ok_iff.2 rfl, rfl⟩
    | exportPath hv => exact if_neg hv

/-- A value is accepted if its option is new. -/
theorem check_eq_ok_iff {new : List Setting} : check given o (some v) = .ok new ↔
    ∃ s, (s.opt = o ∧ Gives v s) ∧ s.opt ∉ given.map Setting.opt ∧ given ++ [s] = new := by
  rw [check]
  split
  · rename_i hmem
    constructor
    · rintro ⟨⟩
    · rintro ⟨s, ⟨rfl, -⟩, hnew, -⟩
      exact absurd hmem hnew
  · rename_i hmem
    rw [map_eq_ok_iff]
    constructor
    · rintro ⟨s, hs, heq⟩
      obtain ⟨rfl, hv⟩ := read_eq_ok_iff.1 hs
      exact ⟨s, ⟨rfl, hv⟩, hmem, heq⟩
    · rintro ⟨s, hs, -, heq⟩
      exact ⟨s, read_eq_ok_iff.2 hs, heq⟩

/-! ## Forms of arguments -/

theorem bytes_longName (o : Opt) :
    Text.bytes o.longName = 0x2D :: 0x2D :: Text.bytes (Switch.option o).long := by
  rcases o with b | _ | _
  · cases b <;> decide
  · decide
  · decide

theorem not_mem_long (o : Opt) : 0x3D ∉ Text.bytes (Switch.option o).long := by
  rcases o with b | _ | _
  · cases b <;> decide
  · decide
  · decide

theorem long_ne_nil (o : Opt) : Text.bytes (Switch.option o).long ≠ [] := by
  rcases o with b | _ | _
  · cases b <;> decide
  · decide
  · decide

theorem shape_dashes {rest : Bytes} (h : rest ≠ []) :
    shape (0x2D :: 0x2D :: rest) =
      .long (Text.splitOnce 0x3D rest).1 (Text.splitOnce 0x3D rest).2 := by
  cases rest with
  | nil => exact absurd rfl h
  | cons b bs => rfl

theorem shape_longName (o : Opt) :
    shape (Text.bytes o.longName) = .long (Text.bytes (Switch.option o).long) none := by
  rw [bytes_longName, shape_dashes (long_ne_nil o), Text.splitOnce_of_not_mem (not_mem_long o)]

theorem shape_longName_equals (o : Opt) (v : Bytes) :
    shape (Text.bytes o.longName ++ 0x3D :: v) =
      .long (Text.bytes (Switch.option o).long) (some v) := by
  rw [bytes_longName, List.cons_append, List.cons_append, shape_dashes (by simp),
    Text.splitOnce_append_cons (not_mem_long o)]

theorem eq_of_shape_long {a name : Bytes} {value : Option Bytes} (h : shape a = .long name value) :
    a = 0x2D :: 0x2D :: (name ++ value.elim [] (0x3D :: ·)) := by
  unfold shape at h
  split at h
  · cases h
  · cases h
    rw [← Text.eq_append_of_splitOnce rfl]
  · cases h
  · cases h

theorem eq_of_shape_short {a rest : Bytes} (h : shape a = .short rest) :
    a = 0x2D :: rest ∧ rest ≠ [] := by
  unfold shape at h
  split at h
  · cases h
  · cases h
  · cases h
    exact ⟨rfl, by simp⟩
  · cases h

theorem eq_of_shape_terminator {a : Bytes} (h : shape a = .terminator) : a = Text.bytes "--" := by
  unfold shape at h
  split at h
  · decide
  · cases h
  · cases h
  · cases h

theorem eq_long_of_ofLong? {name : Bytes}
    (h : (Text.text? name).bind Switch.ofLong? = some (.option o)) :
    name = Text.bytes (Switch.option o).long := by
  obtain ⟨text, htext, hlong⟩ := Option.bind_eq_some_iff.1 h
  have hfound := List.find?_some hlong
  have hname : (Switch.option o).long = text := of_decide_eq_true hfound
  rw [Text.text?_eq_some_iff.1 htext, hname]

/-- A letter that stands for an option stands for a bound. -/
theorem eq_letter_of_next {c : Char} {d : UInt8} {bs rest : Bytes}
    (hnext : Text.next d bs = (.char c, rest)) (h : Switch.ofShort? c = some (.option o)) :
    ∃ b, o = .year b ∧ 0x2D :: d :: bs = Text.bytes (shortName b) ++ rest := by
  have hfound := List.find?_some h
  have hc : (Switch.option o).short? = some c := of_decide_eq_true hfound
  rw [Text.next_eq_char_iff.1 hnext]
  rcases o with b | _ | _
  · refine ⟨b, rfl, ?_⟩
    cases b <;> cases hc <;> rfl
  · cases hc
  · cases hc

end CommandLine
end AgeReport
