import LogSift.Log.Field
import LogSift.Proofs.Keyed
/-!
# Filling in a field does not depend on scheduling

To fill in a field, all lines are asked what they tell about it, in whatever
order a schedule has them. What is noted is always the earliest of what the
lines asked so far have told (`Recalls`), and each line that is asked keeps
it so (`Recalls.note`). Once every line has been asked the order can no
longer be seen: a line gets what the first line that can tell would give it
(`taught?`), and nothing is left to fill in after that.
-/


namespace LogSift

namespace Line

theorem hasField_eq (l : Line) (name : String) : l.hasField name = (l.field? name).isSome := rfl

theorem field?_setField (l : Line) (name value other : String) :
    (l.setField name value).field? other = if other = name then some value else l.field? other :=
  Keyed.find?_insert l.fields name value other

end Line

namespace Log

variable {add known key value : String} {log : Log} {l : Line} {i : Nat}
variable {noted : Keyed (Nat × String)} {seen schedule again : List (Line × Nat)}

/-! ## What is noted -/

/-- The line has both fields, and so tells one by the other. -/
def Tells (add known : String) (l : Line) (key value : String) : Prop :=
  l.field? known = some key ∧ l.field? add = some value

/-- **What has been noted of the lines seen**, each with its place. -/
structure Recalls (add known : String) (noted : Keyed (Nat × String))
    (seen : List (Line × Nat)) : Prop where
  /-- What is noted has been told by a line at that place. -/
  told : ∀ key i value, noted.find? key = some (i, value) →
    ∃ l, (l, i) ∈ seen ∧ Tells add known l key value
  /-- What a line tells is noted of its place or of one before it. -/
  earliest : ∀ l i key value, (l, i) ∈ seen → Tells add known l key value →
    ∃ j first, noted.find? key = some (j, first) ∧ j ≤ i

theorem recalls_nil (add known : String) : Recalls add known Keyed.empty [] :=
  ⟨fun _ _ _ h => (Option.some_ne_none _ h.symm).elim, fun _ _ _ _ h => absurd h List.not_mem_nil⟩

theorem note_of_tells (h : Tells add known l key value) : note add known noted (l, i) =
    if (noted.find? key).any (·.1 ≤ i) then noted else noted.insert key (i, value) := by
  unfold note
  simp only [h.1, h.2]

theorem note_of_silent (h : ¬ ∃ key value, Tells add known l key value) :
    note add known noted (l, i) = noted := by
  unfold note
  split
  · rename_i key value hkey hvalue
    exact absurd ⟨key, value, hkey, hvalue⟩ h
  · rfl

/-- **Asking one more line** keeps the earliest of what is told. -/
theorem Recalls.note (h : Recalls add known noted seen) (l : Line) (i : Nat) :
    Recalls add known (note add known noted (l, i)) (seen ++ [(l, i)]) := by
  have hlast : ∀ {m j}, (m, j) ∈ seen ++ [(l, i)] → (m, j) ∈ seen ∨ m = l ∧ j = i := by
    simp [List.mem_append]
  -- what has been noted has been told by a line seen before, and so still has
  have htold : ∀ {key j value}, noted.find? key = some (j, value) →
      ∃ m, (m, j) ∈ seen ++ [(l, i)] ∧ Tells add known m key value := fun hfind =>
    (h.told _ _ _ hfind).imp fun _ hm => ⟨List.mem_append_left _ hm.1, hm.2⟩
  by_cases htells : ∃ key value, Tells add known l key value
  · obtain ⟨key, value, htells⟩ := htells
    -- a line tells one thing only
    have hkey : ∀ {k v}, Tells add known l k v → k = key := fun hkv =>
      Option.some.inj (hkv.1.symm.trans htells.1)
    rw [note_of_tells htells]
    by_cases hnoted : (noted.find? key).any (·.1 ≤ i) = true
    · rw [if_pos hnoted]
      refine ⟨fun k j v => htold, fun m j k v hmem hkv => ?_⟩
      rcases hlast hmem with hm | ⟨rfl, rfl⟩
      · exact h.earliest m j k v hm hkv
      · obtain ⟨⟨j', first⟩, hfind, hle⟩ := (Option.any_eq_true _ _).mp hnoted
        exact ⟨j', first, hkey hkv ▸ hfind, of_decide_eq_true hle⟩
    · rw [if_neg hnoted]
      refine ⟨fun k j v hfind => ?_, fun m j k v hmem hkv => ?_⟩
      · rw [Keyed.find?_insert] at hfind
        split at hfind
        · rename_i hk
          obtain ⟨rfl, rfl⟩ : i = j ∧ value = v := by simpa using hfind
          exact ⟨l, List.mem_append_right _ (List.mem_singleton_self _), hk ▸ htells⟩
        · exact htold hfind
      · rw [Keyed.find?_insert]
        rcases hlast hmem with hm | ⟨rfl, rfl⟩
        · obtain ⟨j', first, hfind, hle⟩ := h.earliest m j k v hm hkv
          split
          · -- what was noted before was told after this line
            rename_i hk
            have hlt : ¬ j' ≤ i := fun hle' =>
              hnoted ((Option.any_eq_true _ _).mpr ⟨(j', first), hk ▸ hfind, decide_eq_true hle'⟩)
            exact ⟨i, value, rfl, by omega⟩
          · exact ⟨j', first, hfind, hle⟩
        · exact ⟨j, value, if_pos (hkey hkv), Nat.le_refl j⟩
  · rw [note_of_silent htells]
    refine ⟨fun k j v => htold, fun m j k v hmem hkv => ?_⟩
    rcases hlast hmem with hm | ⟨rfl, rfl⟩
    · exact h.earliest m j k v hm hkv
    · exact absurd ⟨k, v, hkv⟩ htells

theorem Recalls.foldl (h : Recalls add known noted seen) (schedule : List (Line × Nat)) :
    Recalls add known (schedule.foldl (Log.note add known) noted) (seen ++ schedule) := by
  induction schedule generalizing noted seen with
  | nil => simpa using h
  | cons told schedule ih =>
    rw [List.foldl_cons, List.append_cons]
    exact ih (h.note told.1 told.2)

/-- **What is learned of a schedule** is the earliest of what its lines tell. -/
theorem recalls_learn (add known : String) (schedule : List (Line × Nat)) :
    Recalls add known (learn add known schedule) schedule :=
  (recalls_nil add known).foldl schedule

/-! ## What the first line tells -/

/-- What a line tells of the one field, the other having this value. -/
def told? (add known key : String) (l : Line) : Option String :=
  if l.field? known = some key then l.field? add else none

/-- What the first line that can tell tells. -/
def firstTold? (add known : String) (log : Log) (key : String) : Option String :=
  log.findSome? (told? add known key)

/-- What a line is told that lacks the one field and has the other. -/
def taught? (add known : String) (log : Log) (l : Line) : Option String :=
  if l.hasField add then none else (l.field? known).bind (firstTold? add known log)

/-- The log with the field filled in on the lines that are told it. -/
def filledIn (add known : String) (log : Log) : Log :=
  log.map fun l => ((taught? add known log l).map (l.setField add)).getD l

theorem told?_eq_some_iff : told? add known key l = some value ↔ Tells add known l key value := by
  rw [told?, Tells, Option.ite_none_right_eq_some]

/-- Once all lines have been asked, what has been noted is what the first line tells. -/
theorem Recalls.firstTold? (h : Recalls add known noted schedule)
    (hschedule : schedule.Perm log.zipIdx) (key : String) :
    (noted.find? key).map (·.2) = firstTold? add known log key := by
  have hmem : ∀ {l i}, (l, i) ∈ schedule ↔ log[i]? = some l := fun {l i} =>
    hschedule.mem_iff.trans List.mem_zipIdx_iff_getElem?
  rcases hfind : noted.find? key with _ | ⟨i, value⟩
  · -- a line that told something would have been noted
    refine (List.findSome?_eq_none_iff.mpr fun l hl => ?_).symm
    refine Option.eq_none_iff_forall_ne_some.mpr fun value hvalue => ?_
    obtain ⟨i, hi⟩ := List.mem_iff_getElem?.mp hl
    obtain ⟨j, first, hnoted, -⟩ :=
      h.earliest l i key value (hmem.mpr hi) (told?_eq_some_iff.mp hvalue)
    simp [hfind] at hnoted
  · obtain ⟨l, hl, htells⟩ := h.told key i value hfind
    obtain ⟨hlt, rfl⟩ := List.getElem?_eq_some_iff.mp (hmem.mp hl)
    refine (List.findSome?_eq_some_iff.mpr ⟨log.take i, log[i], log.drop (i + 1), ?_,
      told?_eq_some_iff.mpr htells, fun m hm => ?_⟩).symm
    · rw [List.getElem_cons_drop, List.take_append_drop]
    · -- a line before it that told the same would have been noted in its place
      refine Option.eq_none_iff_forall_ne_some.mpr fun other hother => ?_
      obtain ⟨j, hj, rfl⟩ := List.mem_take_iff_getElem.mp hm
      have hseen : (log[j], j) ∈ schedule := hmem.mpr (List.getElem?_eq_getElem _)
      obtain ⟨k, first, hnoted, hle⟩ := h.earliest _ j key other hseen (told?_eq_some_iff.mp hother)
      obtain ⟨rfl, -⟩ : i = k ∧ value = first := by simpa using hfind.symm.trans hnoted
      omega

/-- What a line is filled in with, once all lines have been asked. -/
theorem fill?_learn (hschedule : schedule.Perm log.zipIdx) (l : Line) :
    fill? add known (learn add known schedule) l =
      (taught? add known log l).map (l.setField add) := by
  have hlearn := (recalls_learn add known schedule).firstTold? hschedule
  rw [fill?, taught?]
  split
  · rfl
  · cases l.field? known with
    | none => rfl
    | some key =>
      rw [Option.bind_some, Option.bind_some, ← hlearn key, Option.map_map]
      rfl

/-- **What any schedule fills in** is what the first lines tell. -/
theorem addFieldBy_eq (hschedule : schedule.Perm log.zipIdx) :
    addFieldBy schedule add known log =
      (log.countP fun l => (taught? add known log l).isSome, filledIn add known log) := by
  simp only [addFieldBy, updateAll, countUpdates, update, filledIn, fill?_learn hschedule,
    Option.isSome_map]

/-! ## Filling in twice -/

/-- A line that is told a field keeps the other one. -/
theorem field?_setField_of_taught (h : taught? add known log l = some value) :
    (l.setField add value).field? known = l.field? known := by
  rw [Line.field?_setField, if_neg]
  rintro rfl
  -- the line lacks the field, and so cannot be told it by the field itself
  rw [taught?, Line.hasField_eq] at h
  cases hknown : l.field? known <;> simp [hknown] at h

/-- Where no line can tell, none can after the field has been filled in. -/
theorem firstTold?_filledIn (h : firstTold? add known log key = none) :
    firstTold? add known (filledIn add known log) key = none := by
  refine List.findSome?_eq_none_iff.mpr fun l hl => ?_
  obtain ⟨m, hm, rfl⟩ := List.mem_map.mp hl
  rcases htaught : taught? add known log m with _ | value
  · exact List.findSome?_eq_none_iff.mp h m hm
  · refine Option.eq_none_iff_forall_ne_some.mpr fun other hother => ?_
    -- it was told itself by a line with the same value
    have hknown : m.field? known = some key := by
      rw [← field?_setField_of_taught htaught]
      exact (told?_eq_some_iff.mp hother).1
    rw [taught?, hknown, Option.bind_some, h, ite_self] at htaught
    exact Option.some_ne_none _ htaught.symm

/-- **No line is told anything** once the field has been filled in. -/
theorem taught?_filledIn (hl : l ∈ filledIn add known log) :
    taught? add known (filledIn add known log) l = none := by
  obtain ⟨m, -, rfl⟩ := List.mem_map.mp hl
  rcases htaught : taught? add known log m with _ | value
  · rw [Option.map_none, Option.getD_none]
    rw [taught?] at htaught ⊢
    split at htaught
    · rw [if_pos ‹_›]
    · rw [if_neg ‹_›]
      refine Option.bind_eq_none_iff.mpr fun key hkey => firstTold?_filledIn ?_
      exact Option.bind_eq_none_iff.mp htaught key hkey
  · have hadd : (m.setField add value).hasField add := by
      simp [Line.hasField_eq, Line.field?_setField]
    rw [Option.map_some, Option.getD_some, taught?, if_pos hadd]

theorem addFieldBy_filledIn (hagain : again.Perm (filledIn add known log).zipIdx) :
    addFieldBy again add known (filledIn add known log) = (0, filledIn add known log) := by
  rw [addFieldBy_eq hagain]
  refine Prod.ext (List.countP_eq_zero.mpr fun l hl => ?_) ?_
  · simp [taught?_filledIn hl]
  · refine (List.map_congr_left fun l hl => ?_).trans (List.map_id _)
    rw [taught?_filledIn hl]
    rfl

/-- **Filling in a field does not depend on scheduling.** In whatever order the lines are asked,
a line that lacks the one field and has the other gets the field as the first line has it that has
both, the other with the same value; all other lines stay as they are, and the lines filled in are
counted. A second time, again in whatever order, nothing is filled in. -/
theorem addField_scheduled (add known : String) (log : Log) (schedule : List (Line × Nat))
    (hschedule : schedule.Perm log.zipIdx) :
    addFieldBy schedule add known log = addField add known log ∧
    addField add known log = (log.countP fun l => (taught? add known log l).isSome,
      log.map fun l => ((taught? add known log l).map (l.setField add)).getD l) ∧
    ∀ again : List (Line × Nat), again.Perm (addField add known log).2.zipIdx →
      addFieldBy again add known (addField add known log).2 = (0, (addField add known log).2) := by
  have hfirst : addField add known log =
      (log.countP fun l => (taught? add known log l).isSome, filledIn add known log) :=
    addFieldBy_eq (List.Perm.refl _)
  refine ⟨(addFieldBy_eq hschedule).trans hfirst.symm, hfirst, fun again hagain => ?_⟩
  rw [hfirst] at hagain ⊢
  exact addFieldBy_filledIn hagain

/-- Two lines tell different things, and the later one is asked first. -/
theorem addField_scheduled_backwards :
    let line (fields : List (String × String)) : Line :=
      { Line.ofText "a" 1 with fields := Keyed.ofList fields }
    let log : Log := [line [("id", "1")], line [("id", "1"), ("user", "x")],
      line [("id", "1"), ("user", "y")], line [("id", "2")]]
    log.zipIdx.reverse.Perm log.zipIdx ∧
      (addFieldBy log.zipIdx.reverse "user" "id" log).1 = 1 ∧
      (addFieldBy log.zipIdx.reverse "user" "id" log).2.map (·.field? "user") =
        [some "x", some "x", some "y", none] := by
  intro line log
  have hschedule : log.zipIdx.reverse.Perm log.zipIdx := List.reverse_perm _
  obtain ⟨hany, hfilled, -⟩ := addField_scheduled "user" "id" log log.zipIdx.reverse hschedule
  rw [hany, hfilled]
  exact ⟨hschedule, by decide, by decide⟩

end Log

end LogSift
