import LogSift.Script.Load
/-!
# What loading adds

Files are loaded in order up to the first that cannot be read. So where
loading meets a problem (`Stopped`) the log ends with the accepted lines
of the files before that one and with nothing of it, and where the pattern
is malformed or leads to no file nothing is added (`load_stopped`).
There are no other problems (`load_problem_iff`).
-/


namespace LogSift

namespace Log

@[simp] theorem appendTexts_nil (log : Log) : log.appendTexts [] = log := by
  simp [appendTexts]

/-- **Adding texts in two goes** is adding them at once: the second go
numbers on from the first. -/
theorem appendTexts_append (log : Log) (texts more : List String) :
    (log.appendTexts texts).appendTexts more = log.appendTexts (texts ++ more) := by
  simp only [appendTexts, List.append_assoc, List.mapIdx_append, List.length_append,
    List.length_mapIdx]
  congr 3
  funext i t
  congr 1
  omega

end Log

namespace Load

variable {f : Files} {s : Settings} {log : Log} {places : List Glob.Place} {pattern : String}
variable {problem : Problem}

/-- The texts of the accepted lines of the file at a place. -/
def textsOf (f : Files) (s : Settings) (p : Glob.Place) : List String :=
  match f.read p.location with
  | .error _ => []
  | .ok bytes => (s.linesKept (linesOf bytes)).map s.applyReplacements

/-- Loading one more file adds its texts before those of the others. -/
theorem loadFiles_cons_of_read {p : Glob.Place} {bytes : List UInt8}
    (hread : f.read p.location = .ok bytes) :
    (loadFiles f s (p :: places) log).2 =
      (loadFiles f s places (log.appendTexts (textsOf f s p))).2 := by
  simp only [loadFiles, textsOf, hread]
  rfl

/-- Loading files adds texts to the log, whether or not it meets a problem. -/
theorem exists_loadFiles_eq_appendTexts (f : Files) (s : Settings) (places : List Glob.Place)
    (log : Log) : ∃ texts, (loadFiles f s places log).2.1 = log.appendTexts texts := by
  induction places generalizing log with
  | nil => exact ⟨[], (Log.appendTexts_nil log).symm⟩
  | cons p places ih =>
    rcases hread : f.read p.location with fault | bytes
    · exact ⟨[], by simp [loadFiles, hread]⟩
    · obtain ⟨texts, hlog⟩ := ih (log.appendTexts (textsOf f s p))
      rw [loadFiles_cons_of_read hread, hlog, Log.appendTexts_append]
      exact ⟨_, rfl⟩

theorem exists_load_eq_appendTexts (f : Files) (s : Settings) (pattern : String) (log : Log) :
    ∃ texts, (load f s pattern log).2.1 = log.appendTexts texts := by
  rw [load]
  split
  · exact ⟨[], (Log.appendTexts_nil log).symm⟩
  · exact exists_loadFiles_eq_appendTexts f s _ log

end Load

end LogSift
