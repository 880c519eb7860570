import LogSift.CommandLine
import LogSift.Proofs.Script.Pieces
/-!
# What passing reports on leaves alone

While scripts run, the console passes their reports on. That adds to the
file of records, if there is one, and leaves everything else where it was
(`Follows`). So a script finds the same world before and after, unless it
loads the records themselves (`Finds`).
-/


namespace LogSift

namespace Console

variable {c₀ c : Console} {script : String}

/-- The files once some texts have been added to the records. -/
def recorded (c : Console) (texts : List String) : Files :=
  match c.records with
  | none => c.files
  | some l => texts.foldl (fun f text => f.append l text) c.files

/-- **The console is where the other has come to** by doing things that leave
the files alone and by writing records. -/
structure Follows (c₀ c : Console) : Prop where
  environment : c.environment = c₀.environment
  records : c.records = c₀.records
  files : ∃ texts, c.files = c₀.recorded texts

theorem Follows.refl (c : Console) : c.Follows c := by
  refine ⟨rfl, rfl, [], ?_⟩
  rw [recorded]
  split <;> rfl

/-- An effect that is not on files. -/
theorem Follows.perform (h : c₀.Follows c) (e : Effect) : c₀.Follows (c.perform e) :=
  ⟨h.environment, h.records, h.files⟩

theorem Follows.print (h : c₀.Follows c) (text : String) : c₀.Follows (c.print text) :=
  h.perform (.print text)

/-- A report adds at most a record. -/
theorem Follows.report (h : c₀.Follows c) (color : Bool) (r : Report) :
    c₀.Follows (c.report color r) := by
  cases r with
  | progress text => exact h.perform _
  | pause seconds => exact h.perform _
  | done label log =>
    cases label with
    | none => exact h
    | some label => exact h.perform _
  | record r =>
    rcases hrecords : c.records with _ | l
    · simp only [Console.report, hrecords]
      exact h
    · -- the record is one more text at the end of the file
      simp only [Console.report, hrecords]
      obtain ⟨texts, hfiles⟩ := h.files
      refine ⟨h.environment, h.records, texts ++ [recordLine c.environment.now r], ?_⟩
      have hl : c₀.records = some l := h.records.symm.trans hrecords
      rw [recorded, hl] at hfiles ⊢
      simp [append, hfiles]

theorem Follows.reportAll (h : c₀.Follows c) (color : Bool) (rs : List Report) :
    c₀.Follows (c.reportAll color rs) := by
  induction rs generalizing c with
  | nil => exact h
  | cons r rs ih => exact ih (h.report color r)

/-- **What a script loads it finds** in the files of a console as it does in
those of another, whatever may be added to the records. -/
def Finds (script : String) (c₀ c : Console) : Prop :=
  ∀ texts, ∀ pattern ∈ Script.filePatterns script, ∀ s log,
    Load.load (c.recorded texts) s pattern log = Load.load c₀.files s pattern log

/-- Without records nothing is added. -/
theorem finds_of_records_none (h : c.records = none) (script : String) : c.Finds script c := by
  intro texts pattern _ s log
  rw [recorded, h]

end Console

namespace CommandLine

/-- So a script finds the same world after some reports. -/
theorem world_agrees {script : String} {c₁ c₀ c : Console} (hfinds : c₁.Finds script c₀)
    (henvironment : c₀.environment = c₁.environment) (h : c₀.Follows c) :
    (world c₁).Agrees (Script.filePatterns script) (world c) := by
  obtain ⟨texts, hfiles⟩ := h.files
  have hsame : c.environment = c₁.environment := h.environment.trans henvironment
  refine ⟨?_, ?_, rfl, fun pattern hpattern s log => ?_⟩
  · rw [world, world, hsame]
  · rw [world, world, hsame]
  · show Load.load c₁.files s pattern log = Load.load c.files s pattern log
    rw [hfiles, hfinds texts pattern hpattern s log]

end CommandLine

end LogSift
