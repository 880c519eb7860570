import LogSift.Proofs.Script.Frame
import LogSift.Proofs.Session.Steps
/-!
# The projection at hand

The settings keep the projection that a query has asked for, so that the
next query need not build it again. That is sound as long as the log
stays as it was: the projection is forgotten before any directive that
works on the log, the others leave the log alone, and an undo brings back
the log and its projection together. So in a session the projection at
hand is always the one of the log (`projection_current`), and a query
asks what it would ask with the projection built anew.
-/


namespace LogSift

/-- The projection at hand, if there is one, is the projection of the
log. -/
def Workspace.Coherent (w : Workspace) : Prop :=
  w.settings.projection = none ∨ w.settings.projection = some (Projection.build w.log)

namespace Workspace

variable {w : Workspace}

/-- So a query asks the projection of the log, at hand or not. -/
theorem Coherent.getD_projection (h : w.Coherent) :
    w.settings.projection.getD (Projection.build w.log) = Projection.build w.log := by
  rcases h with h | h <;> simp [h]

/-- **Every directive keeps the projection current.** -/
theorem Coherent.step (h : w.Coherent) (world : World) (d : Directive) :
    (Script.step world w d).workspace.Coherent := by
  unfold Script.step
  rcases hd : d.changesLog with _ | _
  · rw [if_neg (by simp)]
    have hlog := Directive.perform_log hd world w
    rcases Directive.perform_projection hd world w with hp | hp
    · rw [Coherent, hp, hlog]
      exact h
    · rw [Coherent, hp, hlog, h.getD_projection]
      exact Or.inr rfl
  · refine Or.inl ?_
    rw [if_pos rfl, Directive.perform_settings hd world]
    rfl

/-- **A query of a coherent workspace** asks the projection of the log and
keeps it. -/
theorem Coherent.query (h : w.Coherent) (world : World) (sql : String) :
    (w.query world sql).workspace.settings.projection = some (Projection.build w.log) ∧
      (w.query world sql).reports =
        .progress "Running SQL" :: .progress s!"... {sql}" ::
          .progress (if w.settings.projection.isSome then "... found current data"
            else "... consolidated data from log lines") ::
          world.answer (Projection.build w.log) sql := by
  simp only [Workspace.query, h.getD_projection, and_self]

end Workspace

namespace Session

/-- **The projection at hand is current.** In a session that starts
without one, after any scripts run and taken back, the settings keep no
projection or the projection of the log. And whatever directives a script
then performs first, a query asks the projection of the log as it is by
then, whether it is found at hand or built. -/
theorem projection_current (settings : Settings) (hnone : settings.projection = none)
    (budget : Nat) (steps : List Step) :
    let w := ((start settings budget).after steps).workspace
    (w.settings.projection = none ∨ w.settings.projection = some (Projection.build w.log)) ∧
      ∀ (world : World) (before : List Directive) (sql : String),
        let v := (Script.performAll world w before).1.workspace
        let p := Script.step world v (.query sql)
        p.workspace.settings.projection = some (Projection.build v.log) ∧
          p.reports =
            .progress "Running SQL" :: .progress s!"... {sql}" ::
              .progress (if v.settings.projection.isSome then "... found current data"
                else "... consolidated data from log lines") ::
              world.answer (Projection.build v.log) sql := by
  have hw : ((start settings budget).after steps).workspace.Coherent :=
    after_invariant (fun world _ d h => h.step world d) (Or.inl hnone) budget steps
  refine ⟨hw, fun world before sql => ?_⟩
  have hv : (Script.performAll world ((start settings budget).after steps).workspace
      before).1.workspace.Coherent :=
    Script.performAll_invariant (fun _ d h => h.step world d) hw
  exact hv.query world sql

/-- A script that works on the log and is taken back leaves the projection
of the query before it at hand. -/
theorem projection_current_of_undo :
    Settings.initial.projection = none ∧
      let w := ((start Settings.initial 10).after
        [.run .bare "sql a", .run .bare "clear", .undo]).workspace
      w.settings.projection = some (Projection.build w.log) := by
  refine ⟨rfl, (projection_current Settings.initial rfl 10 _).1.resolve_left fun hnone => ?_⟩
  have hsome : ((start Settings.initial 10).after
      [.run .bare "sql a", .run .bare "clear", .undo]).workspace.settings.projection.isSome =
        true := by rfl
  rw [hnone] at hsome
  cases hsome

end Session

end LogSift
