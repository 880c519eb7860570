import LogSift.Proofs.Script.Steps
/-!
# What a directive leaves alone

`Directive.changesLog` tells the directives that work on the log from
those that set or ask something, and performing keeps to it: the former
leave the settings alone (`perform_settings`), the latter the log
(`perform_log`), whether or not a problem is met. Of the latter only a
query touches the projection that the settings keep, and it puts there
the one it has asked (`perform_projection`).
-/


namespace LogSift

namespace Directive

variable {d : Directive}

/-- **A directive that works on the log leaves the settings alone.** -/
theorem perform_settings (h : d.changesLog = true) (world : World) (w : Workspace) :
    (d.perform world w).workspace.settings = w.settings := by
  cases d with
  | require | exclude | requireToday | clearFilters | limit | replace | color | dateFormat
  | query | sleep => cases h
  | load | demo | chop | clear | truncate | addField | keyValues | sort | sed | filter
  | hideUnmatched | divideByPattern | divideByField | filterSections | duplicates => rfl
  | today =>
    simp only [perform]
    split <;> rfl

/-- **Any other directive leaves the log alone.** -/
theorem perform_log (h : d.changesLog = false) (world : World) (w : Workspace) :
    (d.perform world w).workspace.log = w.log := by
  cases d with
  | require | exclude | clearFilters | limit | replace | color | dateFormat | query
  | sleep => rfl
  | requireToday =>
    simp only [perform]
    split <;> rfl
  | load | demo | chop | clear | truncate | addField | keyValues | sort | sed | filter
  | hideUnmatched | today | divideByPattern | divideByField | filterSections
  | duplicates => cases h

/-- **Of these only a query touches the projection**: it keeps the one at
hand, and otherwise the projection of the log. -/
theorem perform_projection (h : d.changesLog = false) (world : World) (w : Workspace) :
    (d.perform world w).workspace.settings.projection = w.settings.projection ∨
      (d.perform world w).workspace.settings.projection =
        some (w.settings.projection.getD (Projection.build w.log)) := by
  cases d with
  | require | exclude | clearFilters | limit | replace | color | dateFormat
  | sleep => exact Or.inl rfl
  | query => exact Or.inr rfl
  | requireToday =>
    refine Or.inl ?_
    simp only [perform]
    split <;> rfl
  | load | demo | chop | clear | truncate | addField | keyValues | sort | sed | filter
  | hideUnmatched | today | divideByPattern | divideByField | filterSections
  | duplicates => cases h

end Directive

end LogSift
