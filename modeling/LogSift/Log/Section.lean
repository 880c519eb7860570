import LogSift.Log.Filter

/-!
# Sections

A section runs from a line that starts one up to the next such line; the lines before the first
start are a section too. `Log.sections` cuts a log into its sections, and a filter of sections
keeps or hides each as a whole.
-/

namespace LogSift.Log

/-- Makes every line that holds a match the start of a section, and counts them. -/
def divideByPattern (p : Pattern) (color : Color) (log : Log) : Nat × Log :=
  updateAll (fun l => if p.hasMatch l.text.toList then some (l.startSection color) else none) log

/-- For each line, whether its value of a field differs from that of the line before it. Before
the first line the field is missing. -/
def fieldChanges (field : String) (log : Log) : List Bool :=
  let values := log.map (·.field? field)
  List.zipWith (· != ·) (none :: values) values

/-- Makes every line where a field changes the start of a section, and counts them. -/
def divideByField (field : String) (color : Color) (log : Log) : Nat × Log :=
  let changes := fieldChanges field log
  (changes.count true,
    List.zipWith (fun changed l => if changed then l.startSection color else l) changes log)

/-- Puts a line before a list of sections: it belongs to the first one, unless that begins with
the start of a section. -/
def addLine (l : Line) : List Log → List Log
  | (next :: rest) :: more =>
    if next.beginSection then [l] :: (next :: rest) :: more else (l :: next :: rest) :: more
  | more => [l] :: more

/-- The sections of a log. -/
def sections (log : Log) : List Log := log.foldr addLine []

/-- Is a section kept by a filter? -/
def keepsSection (p : Pattern) (kind : FilterKind) (lines : Log) : Bool :=
  let found := lines.any fun l => p.hasMatch l.text.toList
  match kind with
  | .remove => !found
  | _ => found

/-- A section after a filter: as it was, or hidden. -/
def filterSection (p : Pattern) (kind : FilterKind) (lines : Log) : Log :=
  if keepsSection p kind lines then lines else lines.map fun l => { l with visible := false }

/-- Keeps or hides whole sections. The counts are those of the sections kept whose first line is
shown, and of the sections hidden. -/
def filterSections (p : Pattern) (kind : FilterKind) (log : Log) : (Nat × Nat) × Log :=
  let parts := sections log
  ((parts.countP fun s => keepsSection p kind s && (s.head?.any (·.visible)),
    parts.countP fun s => !keepsSection p kind s),
    parts.flatMap (filterSection p kind))

end LogSift.Log
