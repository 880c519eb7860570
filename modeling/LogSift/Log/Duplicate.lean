import LogSift.Log.Basic

/-!
# Repeated lines

Lines are alike if they agree after normalization, which leaves out what tends to differ from
one occurrence to the next. For every kind of line that occurs more often than a threshold, a
summary is put at the top of the log, the most frequent kind first.
-/

namespace LogSift.Log

/-- How often each normalized text occurs. -/
def tally (normalize : String → String) (log : Log) : Keyed Nat :=
  log.foldl
    (fun acc l =>
      let key := normalize l.text
      acc.insert key ((acc.find? key).getD 0 + 1))
    Keyed.empty

/-- The texts that occur more often than a threshold, with their numbers: the most frequent ones
first, and those of one number in the order of the texts. -/
def repeated (threshold : Nat) (normalize : String → String) (log : Log) : List (String × Nat) :=
  ((tally normalize log).entries.filter fun e => threshold < e.2).mergeSort fun a b => b.2 ≤ a.2

/-- The summary of a kind of line. -/
def summary (e : String × Nat) : Line := Line.ofText s!"[{e.2} LINES LIKE THIS] {e.1}" 0

/-- Puts the summaries of repeated lines at the top, and counts them. -/
def detectDuplicates (threshold : Nat) (normalize : String → String) (log : Log) : Nat × Log :=
  let found := repeated threshold normalize log
  if found.isEmpty then (0, log) else (found.length, renumber (found.map summary ++ log))

end LogSift.Log
