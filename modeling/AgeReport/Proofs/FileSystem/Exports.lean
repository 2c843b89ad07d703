import AgeReport.Export
import AgeReport.Proofs.FileSystem.Opening
import AgeReport.Proofs.Output.Buffered
import AgeReport.Proofs.Report.Delivery

/-!
# What exports leave in the files

An export opens a place, puts the whole document there and touches nothing else; one that cannot
open its place touches nothing at all. Files do not stand in each other's way, so after any number
of exports every file holds the document of the last one that came through to it.

Results:
* `exportTo_of_isRegular`, `state_exportTo_of_device`: an export to a file and to a device.
* `FileExport.perform_cases`: an export puts its document at a file, or changes nothing.
* `node?_afterExports`: what many exports leave, place by place.
* `exportTo_files`: one export, many exports, and two exports in either order.
-/

namespace AgeReport

namespace YearSpan

/-- The export document: the bytes that an unlimited sink gets. -/
def document (s : YearSpan) : Bytes :=
  (Sink.observe s.writeExport {}).held

variable {s : YearSpan} {fs : FileSystem} {cwd place : Location} {path : Bytes}

/-! ## One export -/

/-- The export document comes through the buffer, and nothing of it stays behind. -/
theorem exportThrough_keeping (s : YearSpan) (path : Bytes) {b : Buffered} (hb : b.Keeps) :
    ∃ b', s.exportThrough path b = .ok () b' ∧
      b'.device.held.toList = b.received ++ s.document := by
  have hdocument : s.document = s.exportText .indented ++ [0x0A] := s.held_observe_writeExport
  obtain ⟨b₁, hwrite, hb₁, hreceived⟩ := s.writes_writeExport.buffered hb
  obtain ⟨b₂, hflush, -, hheld, -⟩ := Buffered.drain_keeping hb₁
  refine ⟨b₂, (bind_of_ok (inStage_of_ok hwrite)).trans (inStage_of_ok hflush), ?_⟩
  rw [hheld, hreceived, hdocument]

/-- A file that can be opened gets the document, whatever it held before. -/
theorem exportTo_of_isRegular (h : fs.openForWriting cwd path = .ok place)
    (hfile : fs.isRegular place = true) :
    s.exportTo cwd path fs = .ok () (fs.put place (.file s.document)) := by
  have hmedium : fs.mediumAt place = .keeping := FileSystem.mediumAt_of_isRegular hfile
  obtain ⟨b, hthrough, hheld⟩ :=
    s.exportThrough_keeping path (b := { device := { medium := fs.mediumAt place } }) hmedium
  have hcontent : b.device.held.toList = s.document := hheld
  simp only [exportTo, h, hthrough, hcontent, FileSystem.store_of_isRegular hfile]

/-- Whatever a device makes of an export, it stays the device it is. -/
theorem state_exportTo_of_device {m : Medium} (h : fs.openForWriting cwd path = .ok place)
    (hdevice : fs.node? place = some (.device m)) :
    s.exportTo cwd path fs = .ok () fs ∨ ∃ f, s.exportTo cwd path fs = .error f fs := by
  simp only [exportTo, h, FileSystem.store_of_device hdevice]
  split
  · exact .inl rfl
  · exact .inr ⟨_, rfl⟩

end YearSpan

/-! ## Many exports -/

/-- An export of a span to a path. -/
structure FileExport where
  span : YearSpan
  cwd : Location
  path : Bytes
deriving DecidableEq, Repr

namespace FileExport

/-- Whether an export comes through, and the files that it leaves behind. -/
def perform (e : FileExport) (fs : FileSystem) : Bool × FileSystem :=
  match e.span.exportTo e.cwd e.path fs with
  | .ok _ fs' => (true, fs')
  | .error _ fs' => (false, fs')

/-- Whether an export opens a place and comes through to it. -/
def reaches (e : FileExport) (fs : FileSystem) (place : Location) : Bool :=
  match fs.openForWriting e.cwd e.path with
  | .ok p => p = place && (e.perform fs).1
  | .error _ => false

variable {e : FileExport} {fs : FileSystem} {place p : Location}

theorem perform_of_isRegular (h : fs.openForWriting e.cwd e.path = .ok p)
    (hfile : fs.isRegular p = true) :
    e.perform fs = (true, fs.put p (.file e.span.document)) := by
  rw [perform, YearSpan.exportTo_of_isRegular h hfile]

theorem reaches_of_isRegular (h : fs.openForWriting e.cwd e.path = .ok p)
    (hfile : fs.isRegular p = true) : e.reaches fs place = decide (p = place) := by
  simp [reaches, h, perform_of_isRegular h hfile]

/-- An export puts its document at a file, or it leaves everything as it is. -/
theorem perform_cases (e : FileExport) (fs : FileSystem) :
    (∃ p, fs.openForWriting e.cwd e.path = .ok p ∧ fs.isRegular p = true) ∨
      (e.perform fs).2 = fs ∧ ∀ place, e.reaches fs place = true → fs.isRegular place = false := by
  cases hopen : fs.openForWriting e.cwd e.path with
  | error x =>
    right
    constructor
    · rw [perform, YearSpan.exportTo_of_error hopen]
    · intro place hreaches
      simp [reaches, hopen] at hreaches
  | ok p =>
    rcases FileSystem.isRegular_or_device hopen with hfile | ⟨m, hdevice⟩
    · exact .inl ⟨p, rfl, hfile⟩
    · right
      constructor
      · rw [perform]
        rcases YearSpan.state_exportTo_of_device hopen hdevice with hok | ⟨f, herror⟩
        · rw [hok]
        · rw [herror]
      · intro place hreaches
        simp only [reaches, hopen, Bool.and_eq_true, decide_eq_true_eq] at hreaches
        obtain ⟨rfl, -⟩ := hreaches
        simp [FileSystem.isRegular, hdevice]

end FileExport

namespace FileSystem

/-- The files after exports, one after the other, whether they come through or not. -/
def afterExports (fs : FileSystem) : List FileExport → FileSystem
  | [] => fs
  | e :: es => (e.perform fs).2.afterExports es

/-- The last of some exports, one after the other, that comes through to a place. -/
def lastExport? (fs : FileSystem) (place : Location) : List FileExport → Option FileExport
  | [] => none
  | e :: es =>
    ((e.perform fs).2.lastExport? place es).or (if e.reaches fs place then some e else none)

variable {fs : FileSystem} {place p q : Location} {e e' : FileExport}

/-- A file holds the document of the last export that came through to it, and what it held before
if there is none. What is no file stays as it is. -/
theorem node?_afterExports (fs : FileSystem) (place : Location) (es : List FileExport) :
    (fs.afterExports es).node? place =
      if fs.isRegular place then
        ((fs.lastExport? place es).map fun e => .file e.span.document).or (fs.node? place)
      else fs.node? place := by
  induction es generalizing fs with
  | nil => simp [afterExports, lastExport?]
  | cons e es ih =>
    rw [afterExports, lastExport?, ih]
    rcases e.perform_cases fs with ⟨p, hopen, hfile⟩ | ⟨hsame, hreaches⟩
    · -- the rest begins behind the document of `e`
      rw [FileExport.perform_of_isRegular hopen hfile,
        FileExport.reaches_of_isRegular hopen hfile, isRegular_put_file hfile]
      by_cases hp : p = place
      · subst hp
        rw [hfile, node?_put_self]
        cases lastExport? (fs.put p (.file e.span.document)) p es <;> simp
      · rw [node?_put_of_ne fs (Ne.symm hp)]
        simp [hp]
    · rw [hsame]
      by_cases hplace : fs.isRegular place = true
      · have hnot : ¬ e.reaches fs place = true := by
          intro h
          simp [hreaches place h] at hplace
        simp [hplace, hnot]
      · simp [hplace]

/-- Two exports that open different files leave the same behind in either order. -/
theorem afterExports_comm (h : fs.openForWriting e.cwd e.path = .ok p)
    (h' : fs.openForWriting e'.cwd e'.path = .ok q) (hp : fs.isRegular p = true)
    (hq : fs.isRegular q = true) (hne : p ≠ q) :
    fs.afterExports [e, e'] = fs.afterExports [e', e] := by
  have hbehind : (fs.put p (.file e.span.document)).openForWriting e'.cwd e'.path = .ok q :=
    openForWriting_congr (isDirectory_put_file hp _) h'
  have hbehind' : (fs.put q (.file e'.span.document)).openForWriting e.cwd e.path = .ok p :=
    openForWriting_congr (isDirectory_put_file hq _) h
  simp only [afterExports, FileExport.perform_of_isRegular h hp,
    FileExport.perform_of_isRegular h' hq]
  rw [FileExport.perform_of_isRegular hbehind ((isRegular_put_file hp _ q).trans hq),
    FileExport.perform_of_isRegular hbehind' ((isRegular_put_file hq _ p).trans hp)]
  exact put_comm fs hne _ _

end FileSystem

namespace YearSpan

/-- **Exports and the files.** A path that cannot be opened ends the export with code 4 and changes
nothing. A file that is opened, be it new or not and whatever it held, holds the document and
nothing else afterwards, and every other place is as it was. After any number of exports, those
that failed included, each file holds the document of the last one that came through to it; and two
that open different files leave the same behind in either order. -/
theorem exportTo_files (s : YearSpan) (cwd : Location) (path : Bytes) (fs : FileSystem) :
    (∀ e, fs.openForWriting cwd path = .error e → ∃ f,
      s.exportTo cwd path fs = .error f fs ∧ f.exitError.exitCode = 4 ∧
      "Failed to create export ".toList <+: f.exitError.message.toList) ∧
    (∀ place, fs.openForWriting cwd path = .ok place → fs.isRegular place = true → ∃ fs',
      s.exportTo cwd path fs = .ok () fs' ∧
      fs'.node? place = some (.file (Sink.observe s.writeExport {}).held) ∧
      ∀ other, other ≠ place → fs'.node? other = fs.node? other) ∧
    (∀ es place, (fs.afterExports es).node? place =
      if fs.isRegular place then
        ((fs.lastExport? place es).map fun e => .file e.span.document).or (fs.node? place)
      else fs.node? place) ∧
    ∀ (e e' : FileExport) (p q : Location), fs.openForWriting e.cwd e.path = .ok p →
      fs.openForWriting e'.cwd e'.path = .ok q → fs.isRegular p = true → fs.isRegular q = true →
      p ≠ q → fs.afterExports [e, e'] = fs.afterExports [e', e] := by
  refine ⟨?_, ?_, ?_, ?_⟩
  · intro e h
    refine ⟨.createExport path e, exportTo_of_error h, rfl, ?_⟩
    simp [Failure.exitError, ExitError.exporting, String.toList_append]
  · intro place h hfile
    refine ⟨_, exportTo_of_isRegular h hfile, fs.node?_put_self place _, ?_⟩
    intro other hother
    exact fs.node?_put_of_ne hother _
  · intro es place
    exact fs.node?_afterExports place es
  · intro e e' p q h h' hp hq hne
    exact FileSystem.afterExports_comm h h' hp hq hne

/-- Two files, of which one holds more than the document, and an export between them that cannot be
made. -/
theorem exportTo_files_rewritten :
    let old := [Text.bytes "old.json"]
    let new := [Text.bytes "new.json", Text.bytes "out"]
    let fs := (FileSystem.empty.put old (.file (List.replicate 300 0x20))).put
      [Text.bytes "out"] .directory
    let e : FileExport := ⟨⟨2010, 2000⟩, [], Text.bytes "old.json"⟩
    let e' : FileExport := ⟨⟨2000, 2001⟩, [Text.bytes "out"], Text.bytes ".././out//new.json"⟩
    let bad : FileExport := ⟨⟨2010, 2000⟩, [], Text.bytes "old.json/new.json"⟩
    (∃ f, bad.span.exportTo bad.cwd bad.path fs = .error f fs ∧ f.exitError.exitCode = 4) ∧
      (∃ fs', e.span.exportTo e.cwd e.path fs = .ok () fs' ∧
        fs'.node? old = some (.file (Sink.observe e.span.writeExport {}).held)) ∧
      (fs.afterExports [e', bad, e]).node? old = some (.file e.span.document) ∧
      (fs.afterExports [e', bad, e]).node? new = some (.file e'.span.document) ∧
      fs.afterExports [e, e'] = fs.afterExports [e', e] := by
  intro old new fs e e' bad
  have hopen : fs.openForWriting e.cwd e.path = .ok old := by rfl
  have hopen' : fs.openForWriting e'.cwd e'.path = .ok new := by rfl
  have hbad : fs.openForWriting bad.cwd bad.path = .error .notDirectory := by rfl
  have hlast : fs.lastExport? old [e', bad, e] = some e := by decide +kernel
  have hlast' : fs.lastExport? new [e', bad, e] = some e' := by decide +kernel
  obtain ⟨hfailed, -, heach, hcomm⟩ := exportTo_files bad.span bad.cwd bad.path fs
  obtain ⟨-, hfile, -, -⟩ := exportTo_files e.span e.cwd e.path fs
  have hold : fs.isRegular old = true := by decide +kernel
  have hnew : fs.isRegular new = true := by decide +kernel
  obtain ⟨f, hf, hcode, -⟩ := hfailed _ hbad
  obtain ⟨fs', hok, hheld, -⟩ := hfile old hopen hold
  refine ⟨⟨f, hf, hcode⟩, ⟨fs', hok, hheld⟩, ?_, ?_,
    hcomm e e' old new hopen hopen' hold hnew (by decide)⟩
  · rw [heach, hold, hlast]
    rfl
  · rw [heach, hnew, hlast']
    rfl

end YearSpan
end AgeReport
