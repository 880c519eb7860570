import LogSift.CommandLine
/-!
# Starting a run or a dialogue

A run and a dialogue start alike: the configuration is loaded, and a session
starts with it. Options do not matter to that. A run that ends well has got
as far as its script, and it has run the script in this session
(`exists_of_runScripts_file`); a dialogue waits for its first line with the
same session (`prompt_eq`).
-/


namespace LogSift

namespace Startup

/-! ## The configuration -/

/-- Whether or not records are wanted, the configuration is the same. -/
theorem prepare_fst (debug other : Bool) (c : Console) :
    (prepare debug c).1 = (prepare other c).1 := by
  rw [prepare, prepare]
  split
  · rfl
  · split <;> rfl

/-- The surroundings of the program stay as they are while the configuration
is loaded, -/
theorem loadConfig_environment (c : Console) :
    (loadConfig c).2.environment = c.environment := by
  have hdirectory : (ensureDirectory c).2.environment = c.environment := by
    rw [ensureDirectory]
    split
    · rfl
    · split <;> rfl
  rw [loadConfig]
  split
  · rename_i hfailed
    rw [hfailed] at hdirectory
    exact hdirectory
  · rename_i hdone
    rw [hdone] at hdirectory
    split
    · exact hdirectory
    · split <;> exact hdirectory

/-- and while records are made ready. -/
theorem prepare_environment (debug : Bool) (c : Console) :
    (prepare debug c).2.environment = c.environment := by
  have hload := loadConfig_environment c
  rw [prepare]
  split
  · rename_i hfailed
    rw [hfailed] at hload
    exact hload
  · rename_i hdone
    rw [hdone] at hload
    split
    · exact hload
    · split <;> exact hload

end Startup

namespace CommandLine

variable {c : Console} {path script : String} {config : Config} {session : Session}
variable {debug color noColor : Bool}

/-! ## Scripts and the prompt -/

/-- A run that ends well has run its scripts, and they have succeeded. -/
theorem exists_of_run_finished {scripts expressions : List String} {all json fields : Bool}
    (h : (run scripts expressions all json fields debug noColor c).2 = .finished 0) :
    ∃ config o ran c', runScripts scripts expressions debug
        (c.environment.color && !noColor) c = (.ok (config, o, ran), c') ∧ o.success = true := by
  rw [run] at h
  split at h
  · cases h
  · rcases hran : runScripts scripts expressions debug (c.environment.color && !noColor) c with
      ⟨messages | ⟨config, o, ran⟩, c'⟩
    · simp only [hran] at h
      cases h
    · refine ⟨config, o, ran, c', rfl, ?_⟩
      simp only [hran] at h
      split at h
      · assumption
      · cases h

/-- **Running a script file is running its text** in a new session. -/
theorem exists_of_runScripts_file {o : Outcome} {ran : Session} {c' : Console}
    (hread : Startup.readScript (Startup.prepare debug c).2.files path = .ok script)
    (h : runScripts [path] [] debug color c = (.ok (config, o, ran), c')) :
    ∃ session, (Startup.prepare debug c).1 = .ok config ∧
      Startup.session config = .ok session ∧
      session.run (world (Startup.prepare debug c).2) script = (o, ran) := by
  rcases hprepare : Startup.prepare debug c with ⟨messages | started, c₁⟩
  · simp only [runScripts, hprepare] at h
    cases h
  · rw [hprepare] at hread
    have hassemble : assemble c₁.files [path] [] = .ok script := by
      simp [assemble, hread, bind, Except.bind, pure, Except.pure]
    rcases hsession : Startup.session started with messages | session
    · simp only [runScripts, hprepare, hassemble, hsession, bind, Except.bind] at h
      cases h
    · simp only [runScripts, hprepare, hassemble, hsession, bind, Except.bind, pure,
        Except.pure] at h
      cases h
      exact ⟨session, rfl, hsession, rfl⟩

/-- **A dialogue starts** with the session that a run would start with. -/
theorem prompt_eq (hprepared : (Startup.prepare debug c).1 = .ok config)
    (hsession : Startup.session config = .ok session) (noColor : Bool) :
    ∃ text options, prompt none debug noColor c =
      await ((Startup.prepare debug c).2.print text) ⟨session, [], options⟩ := by
  rcases hprepare : Startup.prepare debug c with ⟨prepared, c₁⟩
  rw [hprepare] at hprepared
  obtain rfl : prepared = .ok config := hprepared
  exact ⟨_, _, by simp only [prompt, hprepare, hsession, bind, Except.bind]; rfl⟩

end CommandLine

end LogSift
