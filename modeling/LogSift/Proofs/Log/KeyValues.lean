import LogSift.Log.Field
import LogSift.Script.Directive
import LogSift.Proofs.Keyed
import LogSift.Proofs.Pattern.GroupNames
import LogSift.Proofs.Pattern.Spans
/-!
# Keys and values that a pattern finds

Fields are taken from a line by a pattern with groups `key` and `value`. Each
match in which both took part gives a field (`Line.keyedValues_eq`). Whether
the pattern has these groups is checked on its source: where that shows just
the names of the groups, the check says what it should.
-/


namespace LogSift

namespace Line

variable {p : Pattern} {l : Line} {m : Pattern.Match} {name : String}

/-- The named groups that took part in a match, with what they matched. -/
def takenPart (p : Pattern) (l : Line) (m : Pattern.Match) : List (String × String) :=
  p.captureNames.filterMap fun name => (p.named? name m).map fun s => (name, l.sliceText s)

/-- The keys and values of the matches in which both groups took part. -/
def bothTaken (p : Pattern) (l : Line) : List (String × String) :=
  (p.allMatches l.text.toList).filterMap fun m =>
    (p.named? "key" m).bind fun key =>
      (p.named? "value" m).map fun value => (l.sliceText key, l.sliceText value)

theorem mem_takenPart {q : String × String} : q ∈ l.takenPart p m ↔
    q.1 ∈ p.captureNames ∧ (p.named? q.1 m).map l.sliceText = some q.2 := by
  obtain ⟨name, text⟩ := q
  simp only [takenPart, List.mem_filterMap, Option.map_eq_some_iff, Prod.mk.injEq]
  constructor
  · rintro ⟨other, hother, s, hs, rfl, hslice⟩
    exact ⟨hother, s, hs, hslice⟩
  · rintro ⟨hname, s, hs, hslice⟩
    exact ⟨name, hname, s, hs, rfl, hslice⟩

theorem mem_captureNames {s : Pattern.Span} (h : p.named? name m = some s) :
    name ∈ p.captureNames := by
  obtain ⟨g, hg, -⟩ := Option.bind_eq_some_iff.mp h
  have hname : g.2 = some name := by simpa using List.find?_some hg
  exact List.mem_filterMap.mpr ⟨g, List.mem_of_find?_eq_some hg, hname⟩

/-- **A named group is found under its name** if it took part in the match. -/
theorem find?_takenPart (p : Pattern) (l : Line) (m : Pattern.Match) (name : String) :
    (Keyed.ofList (l.takenPart p m)).find? name = (p.named? name m).map l.sliceText := by
  rw [Keyed.ofList, Keyed.find?_insertAll, Keyed.find?_empty, Option.or_none]
  rcases hfound : (l.takenPart p m).reverse.find? (·.1 = name) with _ | q
  · -- a group that took part would have been found
    rw [hfound, Option.map_none, eq_comm, Option.eq_none_iff_forall_ne_some]
    intro text htext
    obtain ⟨s, hs, -⟩ := Option.map_eq_some_iff.mp htext
    have hmem : (name, text) ∈ l.takenPart p m :=
      mem_takenPart.mpr ⟨mem_captureNames hs, htext⟩
    have hnot := List.find?_eq_none.mp hfound _ (List.mem_reverse.mpr hmem)
    simp at hnot
  · have hname : q.1 = name := by simpa using List.find?_some hfound
    have hmem := List.mem_reverse.mp (List.mem_of_find?_eq_some hfound)
    rw [hfound, Option.map_some, ← hname]
    exact (mem_takenPart.mp hmem).2.symm

/-- **Each match in which both groups took part gives a key and a value.** -/
theorem keyedValues_eq (p : Pattern) (l : Line) : l.keyedValues p = l.bothTaken p := by
  have hcaptures : l.captures p = ((p.allMatches l.text.toList).map fun m =>
      Keyed.ofList (l.takenPart p m)).filter (!·.isEmpty) := rfl
  rw [keyedValues, hcaptures, bothTaken, List.filterMap_filter, List.filterMap_map]
  refine List.filterMap_congr fun m _ => ?_
  rw [Function.comp_apply]
  split
  · rw [find?_takenPart, find?_takenPart]
    cases p.named? "key" m <;> cases p.named? "value" m <;> rfl
  · -- where no group with a name took part, `key` did not
    rename_i hempty
    have hnone : (p.named? "key" m).map l.sliceText = none := by
      rw [← find?_takenPart]
      exact Keyed.find?_of_isEmpty (by simpa using hempty) "key"
    rw [Option.map_eq_none_iff.mp hnone, Option.bind_none]

theorem hasField_mergeFields {pairs : List (String × String)} {value : String}
    (hmem : (name, value) ∈ pairs) : (l.mergeFields pairs).hasField name = true := by
  have hfound : (pairs.reverse.find? (·.1 = name)).isSome = true :=
    List.find?_isSome.mpr ⟨(name, value), List.mem_reverse.mpr hmem, decide_eq_true rfl⟩
  rw [hasField, mergeFields, Keyed.has, Keyed.find?_insertAll]
  simp [hfound]

theorem mem_bothTaken {key value : Pattern.Span} (hm : m ∈ p.allMatches l.text.toList)
    (hkey : p.named? "key" m = some key) (hvalue : p.named? "value" m = some value) :
    (l.sliceText key, l.sliceText value) ∈ l.bothTaken p := by
  refine List.mem_filterMap.mpr ⟨m, hm, ?_⟩
  rw [hkey, hvalue]
  rfl

end Line

namespace Log

/-- **Every line gets the fields of its matches**, the later ones winning. -/
theorem parseFields_eq (p : Pattern) (log : Log) : log.parseFields p =
    (log.countP fun l => !(l.bothTaken p).isEmpty,
      log.map fun l => l.mergeFields (l.bothTaken p)) := by
  simp only [parseFields, Line.keyedValues_eq]
  refine Prod.ext (List.countP_congr fun l _ => ?_) (List.map_congr_left fun l _ => ?_)
  · dsimp only
    split <;> simp_all
  · dsimp only
    split
    · rename_i hnone
      rw [List.isEmpty_iff.mp hnone]
      rfl
    · rfl

end Log

namespace Pattern

open Reader (State)

variable {source : String} {p : Pattern}

theorem source_of_ofSource (hp : ofSource source = .ok p) : p.source = source := by
  obtain ⟨_, _, -, -, rfl⟩ := ofSource_eq_ok_iff.mp hp
  rfl

theorem validate_keyValues (p : Pattern) :
    (Directive.keyValues p).validate = .ok () ↔ p.groupNames = ["key", "value"] := by
  rw [Directive.validate]
  split <;> simp_all

/-- **The names that are checked and the groups that are compiled.** A compiled pattern has the
named groups of the pattern that is read, but for those in a part that is repeated no times. The
names found in the source are among those if there are no stray names, and they are all of them if
there are no hidden ones; with no group lost, either condition is also necessary where the other
holds. Then the check passes iff the groups are `key` and `value`. In any case each match in which
both groups take part leaves a field on its line. -/
theorem keyValues_checked (hp : ofSource source = .ok p) :
    ∃ e, Expr.read source.toList = .ok e ∧ p.captureNames = e.keptNames ∧
      (NoStrayNames source.toList → p.groupNames.Sublist e.names) ∧
      (NoHiddenNames source.toList → e.names.Sublist p.groupNames) ∧
      (e.keptNames = e.names →
        (NoHiddenNames source.toList →
          (p.groupNames = p.captureNames ↔ NoStrayNames source.toList)) ∧
        (NoStrayNames source.toList →
          (p.groupNames = p.captureNames ↔ NoHiddenNames source.toList)) ∧
        (NoStrayNames source.toList → NoHiddenNames source.toList →
          ((Directive.keyValues p).validate = .ok () ↔ p.captureNames = ["key", "value"]))) ∧
      ∀ (log : Log) (i : Nat) (l : Line), log[i]? = some l →
        (log.parseFields p).2[i]? = some (l.mergeFields (l.bothTaken p)) ∧
        ∀ m ∈ p.allMatches l.text.toList, ∀ key value,
          p.named? "key" m = some key → p.named? "value" m = some value →
            (l.mergeFields (l.bothTaken p)).hasField (l.sliceText key) = true := by
  obtain ⟨e, n, he, -⟩ := ofSource_eq_ok_iff_node.mp hp
  have hfound : p.groupNames = namesIn source.toList := by
    rw [groupNames, source_of_ofSource hp]
  have hstray := namesIn_eq_shownNames_iff source.toList
  have hhidden := shownNames_eq_names_iff he
  have hcaptures := captureNames_eq hp he
  -- both lists are compared with the names that are shown where the reader comes to
  refine ⟨e, he, hcaptures, fun hs => ?_, fun hh => ?_, fun hkept => ?_, fun log i l hl => ?_⟩
  · rw [hfound, hstray.mpr hs]
    exact shownNames_sublist_names he
  · rw [hfound, ← hhidden.mpr hh]
    exact shownNames_sublist_namesIn source.toList
  · have hagree : NoHiddenNames source.toList →
        (p.groupNames = p.captureNames ↔ NoStrayNames source.toList) := fun hh => by
      rw [hfound, hcaptures, hkept, ← hhidden.mpr hh, hstray]
    refine ⟨hagree, fun hs => ?_, fun hs hh => ?_⟩
    · rw [hfound, hcaptures, hkept, hstray.mpr hs, hhidden]
    · rw [validate_keyValues, (hagree hh).mpr hs]
  · rw [Log.parseFields_eq, List.getElem?_map, hl]
    exact ⟨rfl, fun m hm key value hkey hvalue =>
      Line.hasField_mergeFields (Line.mem_bothTaken hm hkey hvalue)⟩

/-- What is read of a pattern with both groups, and the units that the reader comes to. -/
theorem reads_keyValue :
    let source := "(?<key>a)=(?<value>b)".toList
    let letter (c : Char) : Expr := .atom (.literal ⟨c, false⟩)
    Expr.read source = .ok (.seq (.capture 1 (some "key") (letter 'a'))
        (.seq (letter '=') (.capture 2 (some "value") (letter 'b')))) ∧
      units source = [(source, some "key"), (source.drop 7, none), (source.drop 8, none),
        (source.drop 9, none), (source.drop 10, some "value"), (source.drop 19, none),
        (source.drop 20, none)] := by
  let second : List Char := '(' :: '?' :: '<' :: (['v', 'a', 'l', 'u', 'e'] ++ ['>', 'b', ')'])
  have hsource : "(?<key>a)=(?<value>b)".toList =
      '(' :: '?' :: '<' :: (['k', 'e', 'y'] ++ '>' :: 'a' :: ')' :: '=' :: second) := rfl
  rw [hsource]
  intro source letter
  let key : Expr := .capture 1 (some "key") (letter 'a')
  let value : Expr := .capture 2 (some "value") (letter 'b')
  let between : State := ⟨[], [], [letter '=', key], false, 1, ["key".toList]⟩
  let last : State := ⟨[], [], [value, letter '=', key], false, 2, ["value".toList, "key".toList]⟩
  have hkey := State.start.step_named ['k', 'e', 'y'] ('a' :: ')' :: '=' :: second)
    (by decide) rfl rfl
  have hvalue := between.step_named ['v', 'a', 'l', 'u', 'e'] ['b', ')']
    (by decide) rfl rfl
  have hreads : State.ReadsTo 22 State.start source [(source, some "key"), (source.drop 7, none),
      (source.drop 8, none), (source.drop 9, none), (source.drop 10, some "value"),
      (source.drop 19, none), (source.drop 20, none)] last := by
    refine .cons rfl hkey rfl ?_
    refine .cons rfl rfl rfl ?_
    refine .cons rfl rfl rfl ?_
    refine .cons rfl rfl rfl ?_
    refine .cons rfl hvalue rfl ?_
    refine .cons rfl rfl rfl ?_
    exact .cons rfl rfl rfl (.nil _ _)
  refine ⟨?_, hreads.units⟩
  have hlength : source.length + 1 = 22 := rfl
  rw [read_eq, hlength, hreads.run]
  rfl

/-- The groups are `key` and `value`, and the source shows their names. -/
theorem keyValues_checked_of_names :
    let source := "(?<key>a)=(?<value>b)"
    let l : Line := Line.ofText "a=b" 1
    NoStrayNames source.toList ∧ NoHiddenNames source.toList ∧
      ∃ p, ofSource source = .ok p ∧ (Directive.keyValues p).validate = .ok () ∧
        p.captureNames = ["key", "value"] ∧
        ∃ l', (Log.parseFields p [l]).2[0]? = some l' ∧ l'.hasField "a" = true := by
  intro source l
  obtain ⟨hread, hunits⟩ := reads_keyValue
  have hstray : NoStrayNames source.toList := by
    rw [NoStrayNames, hunits]
    decide +kernel
  have hhidden : NoHiddenNames source.toList := by
    rw [NoHiddenNames, hunits]
    decide +kernel
  have hcomment : ¬ EndsInComment source.toList := fun h =>
    absurd (spelled_of_endsInComment h).1 (by decide)
  let one (c : Char) : Node := .set (CharSet.single c)
  let n : Node := .seq (.capture 1 (some "key") (one 'a'))
    (.seq (one '=') (.capture 2 (some "value") (one 'b')))
  have hn : node source.toList = .ok n := node_eq_ok_iff.mpr
    ⟨_, n, Mode.initial, hread, rfl, by decide +kernel, by decide +kernel⟩
  let p : Pattern := ⟨source, n.program, n.anchored.program⟩
  have hp : ofSource source = .ok p :=
    ofSource_eq_ok_iff_node.mpr ⟨_, n, hread, hn, ⟨hcomment, by decide, by decide +kernel⟩, rfl⟩
  obtain ⟨e, he, hcaptures, -, -, hkept, hfields⟩ := keyValues_checked hp
  obtain rfl := Except.ok.inj (hread.symm.trans he)
  obtain ⟨-, -, hvalid⟩ := hkept rfl
  obtain ⟨hline, hfield⟩ := hfields [l] 0 l rfl
  have hmatch : (p.allMatches l.text.toList).map (fun m => (p.named? "key" m, p.named? "value" m)) =
      [(some ⟨0, 1⟩, some ⟨2, 3⟩)] := by decide +kernel
  obtain ⟨m, hm, hnamed⟩ := List.map_eq_singleton_iff.mp hmatch
  obtain ⟨hk, hv⟩ := Prod.mk.inj hnamed
  have hslice : l.sliceText ⟨0, 1⟩ = "a" := by decide
  refine ⟨hstray, hhidden, p, hp, (hvalid hstray hhidden).mpr hcaptures, hcaptures, _, hline, ?_⟩
  rw [← hslice]
  exact hfield m (hm ▸ List.mem_singleton_self m) _ _ hk hv

/-- **The check passes a pattern without any group**: behind backslashes the parentheses open
none, and both names are stray ones. -/
theorem validated_without_groups :
    ∃ p, ofSource "\\(?<key>=\\(?<value>" = .ok p ∧ (Directive.keyValues p).validate = .ok () ∧
      p.groupNames = ["key", "value"] ∧ p.captureNames = [] := by
  have hfound : (ofSource "\\(?<key>=\\(?<value>").toOption.map
      (fun p => (p.groupNames, p.captureNames)) = some (["key", "value"], []) := by decide +kernel
  obtain ⟨p, hp, hnames⟩ := Pattern.exists_ofSource hfound
  obtain ⟨hshown, hcompiled⟩ := Prod.mk.inj hnames
  exact ⟨p, hp, (validate_keyValues p).mpr hshown, hshown, hcompiled⟩

end Pattern

end LogSift
