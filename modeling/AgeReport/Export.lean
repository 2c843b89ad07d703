import AgeReport.FileSystem.Path
import AgeReport.Report.Write

/-!
# Exporting to a file

The export document goes through a buffer to the file or device that a path names. A file that is
there loses its earlier content as soon as it is opened.

* `exportTo_of_error`: a path that cannot be opened changes nothing.
-/

namespace AgeReport

namespace YearSpan

/-- Writes the export document through a buffer and passes on what waits in it at the end. -/
def exportThrough (s : YearSpan) (path : Bytes) : EStateM Failure Buffered Unit :=
  s.exportStages path

/-- Exports a span to a path (`write_entries_json`). -/
def exportTo (s : YearSpan) (cwd : Location) (path : Bytes) : EStateM Failure FileSystem Unit :=
  fun fs =>
    match fs.openForWriting cwd path with
    | .error e => .error (.createExport path e) fs
    | .ok place =>
      match s.exportThrough path { device := { medium := fs.mediumAt place } } with
      | .ok _ b => .ok () (fs.store place b.device.held.toList)
      | .error f b => .error f (fs.store place b.device.held.toList)

theorem exportTo_of_error {s : YearSpan} {cwd : Location} {path : Bytes} {fs : FileSystem}
    {e : IoError} (h : fs.openForWriting cwd path = .error e) :
    s.exportTo cwd path fs = .error (.createExport path e) fs := by
  simp [exportTo, h]

end YearSpan
end AgeReport
