import LogSift.Proofs.Display.Segment
import LogSift.Proofs.Log.Highlights
import LogSift.Proofs.Session.Steps
/-!
# Highlights over whole sessions

Every directive keeps the lines aligned, so after any scripts, run and
taken back, the highlights of every line lie on its text as it is by then.
Wherever a line is cut up, at its segments when it is shown or around
the matches that are replaced, it is cut between characters
(`highlights_aligned`).
-/


namespace LogSift

/-- **Every directive keeps the lines aligned.** -/
theorem Directive.perform_aligned {w : Workspace} (h : w.log.Aligned) (world : World)
    (d : Directive) : (d.perform world w).workspace.log.Aligned := by
  cases d with
  | load pattern => exact h.load world.files w.settings pattern
  | demo races seed => exact h.appendTexts _
  | require | exclude | clearFilters | limit | replace | color | dateFormat | query | sleep =>
    exact h
  | requireToday =>
    rw [perform]
    split <;> exact h
  | chop => exact h.chop
  | clear => exact List.forall_mem_nil _
  | truncate characters => exact h.truncate characters
  | addField add known => exact h.addField add known
  | keyValues p => exact h.parseFields p
  | sort fields => exact h.sortByFields fields
  | sed address action => exact h.apply action address w.settings.color
  | filter kind p => exact h.filterLines (some p) kind w.settings.color none
  | hideUnmatched => exact h.hideUnmatched
  | today =>
    rw [perform]
    split
    · exact h.filterLines _ .required w.settings.color none
    · exact h
  | divideByPattern p => exact h.divideByPattern p w.settings.color
  | divideByField field => exact h.divideByField field w.settings.color
  | filterSections keep p => exact h.filterSections p _
  | duplicates threshold => exact h.detectDuplicates threshold Text.kindOf

theorem Script.step_aligned {w : Workspace} (h : w.log.Aligned) (world : World) (d : Directive) :
    (step world w d).workspace.log.Aligned :=
  step_invariant (P := fun w => w.log.Aligned) (fun _ h => h)
    (fun _ h => d.perform_aligned h world) h

namespace Session

/-- **Highlights are well-formed over whole sessions.** After any scripts
run and taken back, each highlight of each line is a part of the line's
text that is not empty, and its ends lie on boundaries. The segments that
the line is shown in fit the text, and so do the parts that a replacement
of any matches keeps: the new text is these parts joined by the
replacement. -/
theorem highlights_aligned (settings : Settings) (budget : Nat) (steps : List Step) :
    ∀ l ∈ ((start settings budget).after steps).workspace.log,
      (∀ h ∈ l.highlights,
        h.span.start < h.span.stop ∧ h.span.stop ≤ l.byteLength ∧
          Text.isBoundary h.span.start l.text.toList = true ∧
          Text.isBoundary h.span.stop l.text.toList = true) ∧
      (∀ s ∈ Segment.ofText l.text.toList l.highlights, s.span.Fits l.text.toList) ∧
      ∀ (p : Pattern) (replacement : String) (all : Bool),
        (∀ g ∈ l.keptSpans p all, g.Fits l.text.toList) ∧
          (l.replacedText p replacement all).toList =
            replacement.toList.intercalate
              ((l.keptSpans p all).map fun g => Text.slice g.start g.stop l.text.toList) := by
  intro l hl
  have haligned : ((start settings budget).after steps).workspace.log.Aligned :=
    after_invariant (P := fun w => w.log.Aligned)
      (fun world _ d h => Script.step_aligned h world d) (List.forall_mem_nil _) budget steps
  refine ⟨fun h hh => ?_, fun s hs => ?_, fun p replacement all => ?_⟩
  · have hfits : h.Fits l.text.toList := haligned l hl h hh
    exact ⟨hfits.lt, hfits.span.stop_le, hfits.span.start, hfits.span.stop⟩
  · exact (Segment.ofText_inOrder _ _).fits s.span (List.mem_map_of_mem hs)
  · exact ⟨(l.keptSpans_inOrder p all).fits, l.replacedText_toList p replacement all⟩

/-- A match around a character of two bytes is highlighted, and then the
text is cut within it. -/
theorem highlights_aligned_of_truncate :
    let world : World :=
      { World.bare with files := (Files.empty []).write ["a"] (Text.Utf8.encode "naïve") }
    let l : Line := ⟨"naï", 1, true, true, Keyed.empty, false, [⟨⟨2, 4⟩, Color.initial⟩]⟩
    l ∈ ((start Settings.initial 9).after
        [.run world "< a", .run world "~ ïv", .run world "truncate 3"]).workspace.log ∧
      Text.isBoundary 2 l.text.toList = true ∧ Text.isBoundary 4 l.text.toList = true ∧
      4 ≤ l.byteLength := by
  intro world l
  have hl : l ∈ ((start Settings.initial 9).after
      [.run world "< a", .run world "~ ïv", .run world "truncate 3"]).workspace.log := by
    decide +kernel
  obtain ⟨hhighlights, -, -⟩ := highlights_aligned Settings.initial 9 _ l hl
  obtain ⟨-, hle, hstart, hstop⟩ :=
    hhighlights ⟨⟨2, 4⟩, Color.initial⟩ (List.mem_singleton.mpr rfl)
  exact ⟨hl, hstart, hstop, hle⟩

end Session

end LogSift
