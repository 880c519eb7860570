import LogSift.Proofs.Line.Frame
import LogSift.Proofs.Pattern.Spans
import LogSift.Proofs.Script.Steps
/-!
# What an address selects

The lines that an address selects are asked for in two ways. An edit asks
for the address as a whole; a filter asks for the range first, then looks
for all matches of the pattern, and takes the line if there are any. Both
find the same lines (`Line.isFound_eq_selects?`), and where a filter finds
none there is nothing to mark. So all actions of stream edits count
and take up the same lines (`SedAction.selection_agrees`), and hiding lines to
chop them afterwards is to delete them.
-/


namespace LogSift

variable {address : Option Address} {color : Color} {kind : FilterKind} {l : Line} {log : Log}

namespace Line

variable {p : Pattern}

/-! ## Lines that a filter finds -/

/-- A filter finds the lines in range with a match. -/
theorem isFound_eq (pattern : Option Pattern) (address : Option Address) (l : Line) :
    l.isFound pattern address =
      (address.all (·.inRange l) && pattern.all fun p => p.hasMatch l.text.toList) := by
  simp only [isFound, Pattern.hasMatch_eq_spans]

/-- **With the pattern of its address it finds what the address selects.** -/
theorem isFound_eq_selects? (address : Option Address) (l : Line) :
    l.isFound (address.bind (·.pattern)) address = Address.selects? address l := by
  rw [isFound_eq]
  rcases address with _ | ⟨range, pattern⟩
  · rfl
  · cases pattern <;> rfl

/-- A line without a match has nothing to mark. -/
theorem mark_of_not_hasMatch (h : p.hasMatch l.text.toList = false) (color : Color) :
    l.mark p color = l := by
  have hspans : p.spans l.text.toList = [] := by simpa [Pattern.hasMatch_eq_spans] using h
  have hmatches : p.allMatches l.text.toList = [] := by
    rw [Pattern.hasMatch, Pattern.Program.hasMatch_eq, Bool.not_eq_false'] at h
    exact List.isEmpty_iff.mp h
  simp [mark, highlightSpans, captures, hspans, hmatches]

/-- The line with the marks of a filter that selects it by its address: the matches
of the pattern, or else all of the line. -/
def markSelected (address : Option Address) (color : Color) (l : Line) : Line :=
  match address.bind (·.pattern) with
  | some p => l.mark p color
  | none => l.highlightAll color

theorem marked_of_selected (h : Address.selects? address l = true) (color : Color) :
    l.marked (address.bind (·.pattern)) color address = l.markSelected address color := by
  rw [← isFound_eq_selects?, isFound_eq, Bool.and_eq_true] at h
  unfold marked
  rw [if_pos h.1]
  rfl

theorem marked_of_not_selected (h : Address.selects? address l = false) (color : Color) :
    l.marked (address.bind (·.pattern)) color address = l := by
  rw [← isFound_eq_selects?, isFound_eq] at h
  unfold marked
  split
  · -- a line in range is selected without a pattern
    rename_i hrange
    rw [hrange, Bool.true_and] at h
    cases hpattern : address.bind (·.pattern) with
    | none => simp [hpattern] at h
    | some p => exact mark_of_not_hasMatch (by simpa [hpattern] using h) color
  · rfl

/-! ## What a filter makes of them -/

/-- A filter that has not found a line hides it if lines are required to match, -/
theorem settle_required_false (l : Line) :
    FilterKind.required.settle false l = { l with visible := false } := by
  simp [FilterKind.settle]

/-- and otherwise leaves it as it is. -/
theorem settle_false (h : kind ≠ .required) (l : Line) : kind.settle false l = l := by
  cases kind with
  | required => exact absurd rfl h
  | add | highlight => simp [FilterKind.settle]
  | remove => simp [FilterKind.settle]

end Line

namespace SedAction

/-! ## What stream edits make of them -/

/-- **What an action makes of a selected line**: the lines that stand in its place
then. -/
def ofSelected (action : SedAction) (address : Option Address) (color : Color) (l : Line) : Log :=
  match action with
  | filter kind => [kind.settle true (l.markSelected address color)]
  | replace p replacement all => [(l.replace? p replacement all).getD l]
  | change text => [l.setText text color]
  | insert text => [Log.newLine text color, l]
  | append text => [l, Log.newLine text color]
  | delete => []

/-- **What it makes of any other line**: nothing else, but that a filter that
requires lines to be selected hides it. -/
def ofOther (action : SedAction) (l : Line) : Log :=
  match action with
  | filter .required => [{ l with visible := false }]
  | _ => [l]

/-- Does the action number all lines anew? -/
def renumbers : SedAction → Bool
  | insert _ | append _ | delete => true
  | filter _ | replace _ _ _ | change _ => false

/-- A filter settles on a line as the address selects it or does not. -/
theorem filtered_eq (kind : FilterKind) (address : Option Address) (color : Color) (l : Line) :
    [l.filtered (address.bind (·.pattern)) kind color address] =
      if Address.selects? address l then (filter kind).ofSelected address color l
      else (filter kind).ofOther l := by
  rw [Line.filtered, Line.isFound_eq_selects?]
  cases h : Address.selects? address l with
  | true => rw [Line.marked_of_selected h, if_pos rfl, ofSelected]
  | false =>
    rw [Line.marked_of_not_selected h, if_neg Bool.false_ne_true]
    by_cases hkind : kind = .required
    · rw [hkind, Line.settle_required_false, ofOther]
    · rw [Line.settle_false hkind, ofOther]
      exact fun hfilter => hkind (SedAction.filter.inj hfilter)

/-- **Each action counts the lines that the address selects**, but for a replacement,
which counts those it changes. -/
theorem apply_fst {action : SedAction} (h : ∀ p replacement all, action ≠ replace p replacement all)
    (address : Option Address) (color : Color) (log : Log) :
    (action.apply address color log).1 = log.countP (Address.selects? address) := by
  cases action with
  | filter kind =>
    rw [apply, Log.filterLines, Option.or_none]
    exact List.countP_congr fun l _ => by rw [Line.isFound_eq_selects?]
  | replace p replacement all => exact absurd rfl (h p replacement all)
  | change text =>
    refine List.countP_congr fun l _ => ?_
    cases hselected : Address.selects? address l <;> simp [hselected]
  | insert | append | delete => rfl

/-- **Each action takes up the lines that the address selects**, and puts others in
their place. -/
theorem apply_snd (action : SedAction) (address : Option Address) (color : Color) (log : Log) :
    (action.apply address color log).2 =
      (if action.renumbers then Log.renumber else id) (log.flatMap fun l =>
        if Address.selects? address l then action.ofSelected address color l
        else action.ofOther l) := by
  cases action with
  | filter kind =>
    rw [apply, Log.filterLines, Option.or_none, List.map_eq_flatMap]
    exact congrArg (List.flatMap · log) (funext fun l => filtered_eq kind address color l)
  | replace p replacement all =>
    rw [apply, Log.replace, Log.updateAll, Log.update, List.map_eq_flatMap]
    refine congrArg (List.flatMap · log) (funext fun l => ?_)
    cases Address.selects? address l <;> rfl
  | change text =>
    rw [apply, Log.change, Log.updateAll, Log.update, List.map_eq_flatMap]
    refine congrArg (List.flatMap · log) (funext fun l => ?_)
    cases Address.selects? address l <;> rfl
  | insert | append => rfl
  | delete =>
    refine congrArg Log.renumber ?_
    induction log with
    | nil => rfl
    | cons l log ih =>
      rw [List.flatMap_cons, ← ih]
      cases h : Address.selects? address l <;> simp [h, ofSelected, ofOther]

/-! ## Hiding and deleting -/

/-- A shown line that starts no section is hidden if it is selected, and otherwise
left as it is. -/
theorem filtered_remove_eq (hvisible : l.visible = true) (hstart : l.beginSection = false) :
    (l.filtered (address.bind (·.pattern)) .remove color address).visible =
        !Address.selects? address l ∧
      (Address.selects? address l = false →
        l.filtered (address.bind (·.pattern)) .remove color address = l) := by
  rw [Line.filtered, Line.isFound_eq_selects?]
  obtain ⟨fields, highlights, hmarked⟩ :=
    l.marked_frame (address.bind (·.pattern)) color address
  refine ⟨?_, fun h => ?_⟩
  · rw [hmarked, FilterKind.settle]
    simp [hvisible, hstart]
  · rw [h, Line.marked_of_not_selected h, Line.settle_false (by simp)]

/-- **Hiding lines to chop them is to delete them.** -/
theorem chop_remove_eq (h : ∀ l ∈ log, l.visible = true ∧ l.beginSection = false) :
    Log.chop ((filter .remove).apply address color log).2 = delete.apply address color log := by
  rw [apply, Log.filterLines, Option.or_none, apply, Log.chop, Log.delete]
  refine Prod.ext ?_ (congrArg Log.renumber ?_)
  · rw [List.countP_map]
    refine List.countP_congr fun l hl => ?_
    rw [Function.comp_apply, (filtered_remove_eq (h l hl).1 (h l hl).2).1, Bool.not_not]
  · rw [List.filter_map]
    have hkept : log.filter ((·.visible) ∘
        Line.filtered (address.bind (·.pattern)) .remove color address) =
        log.filter fun l => !Address.selects? address l :=
      List.filter_congr fun l hl => (filtered_remove_eq (h l hl).1 (h l hl).2).1
    rw [hkept]
    refine (List.map_congr_left fun l hl => ?_).trans (List.map_id _)
    obtain ⟨hl, hselected⟩ := List.mem_filter.mp hl
    exact (filtered_remove_eq (h l hl).1 (h l hl).2).2 (by simpa using hselected)

/-- And so it is in scripts. -/
theorem performAll_remove_chop (h : ∀ l ∈ log, l.visible = true ∧ l.beginSection = false)
    (world : World) (settings : Settings) (address : Option Address) :
    (Script.performAll world ⟨log, settings⟩ [.sed address (.filter .remove), .chop]).1.workspace =
      (Script.performAll world ⟨log, settings⟩ [.sed address .delete]).1.workspace := by
  have hchop : (Log.chop ((filter .remove).apply address settings.color log).2).2 =
      (delete.apply address settings.color log).2 :=
    congrArg Prod.snd (chop_remove_eq h)
  exact congrArg (Workspace.mk · { settings with projection := none }) hchop

/-- **All actions agree on what an address selects.** They count the same lines, and each makes of
these what it is for and leaves the others to themselves, but that a filter that requires lines to
be selected hides those. Where all lines are shown and no section starts, to hide the selected lines
and chop is to delete them, field for field, and counts the same. -/
theorem selection_agrees (address : Option Address) (color : Color) (log : Log) :
    (∀ action : SedAction, (∀ p replacement all, action ≠ replace p replacement all) →
      (action.apply address color log).1 = log.countP (Address.selects? address)) ∧
    (∀ action : SedAction, (action.apply address color log).2 =
      (if action.renumbers then Log.renumber else id) (log.flatMap fun l =>
        if Address.selects? address l then action.ofSelected address color l
        else action.ofOther l)) ∧
    ((∀ l ∈ log, l.visible = true ∧ l.beginSection = false) →
      Log.chop ((filter .remove).apply address color log).2 = delete.apply address color log ∧
      ∀ (world : World) (settings : Settings),
        (Script.performAll world ⟨log, settings⟩
            [.sed address (.filter .remove), .chop]).1.workspace =
          (Script.performAll world ⟨log, settings⟩ [.sed address .delete]).1.workspace) :=
  ⟨fun _ haction => apply_fst haction address color log,
    fun action => apply_snd action address color log,
    fun h => ⟨chop_remove_eq h, fun world settings =>
      performAll_remove_chop h world settings address⟩⟩

/-- The numbers are out of order, and the address has a range and a pattern. -/
theorem selection_agrees_of_range :
    let log : Log := [Line.ofText "a" 3, Line.ofText "a" 1, Line.ofText "b" 2]
    (∀ l ∈ log, l.visible = true ∧ l.beginSection = false) ∧
      ∃ p, Pattern.ofSource "a" = .ok p ∧
        (∀ q replacement all, insert "x" ≠ replace q replacement all) ∧
        ((insert "x").apply (some ⟨some (2, 3), some p⟩) Color.initial log).1 = 1 ∧
        Log.chop ((filter .remove).apply (some ⟨some (2, 3), some p⟩) Color.initial log).2 =
          (1, [Line.ofText "a" 1, Line.ofText "b" 2]) := by
  intro log
  have hshown : ∀ l ∈ log, l.visible = true ∧ l.beginSection = false := by decide
  have hinsert : ∀ q replacement all, insert "x" ≠ replace q replacement all :=
    fun _ _ _ h => nomatch h
  have hfound : (Pattern.ofSource "a").toOption.map
      (fun p => (p.hasMatch ['a'], p.hasMatch ['b'])) = some (true, false) := by decide +kernel
  obtain ⟨p, hp, hmatch⟩ := Pattern.exists_ofSource hfound
  obtain ⟨ha, hb⟩ := Prod.mk.inj hmatch
  let address : Option Address := some ⟨some (2, 3), some p⟩
  have hselected : Address.selects? address (Line.ofText "a" 3) = true ∧
      Address.selects? address (Line.ofText "a" 1) = false ∧
      Address.selects? address (Line.ofText "b" 2) = false := by
    simp [address, Address.selects?, Address.selects, Address.inRange, Address.patternMatches,
      Line.ofText, ha, hb]
  obtain ⟨hcount, -, hdeleted⟩ := selection_agrees address Color.initial log
  refine ⟨hshown, p, hp, hinsert, ?_, ?_⟩
  · rw [hcount (insert "x") hinsert]
    simp [log, hselected]
  · rw [(hdeleted hshown).1]
    simp only [log, hselected, apply, Log.delete, List.countP_cons, List.filter_cons]
    rfl

end SedAction

end LogSift
