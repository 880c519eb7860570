import LogSift.Proofs.Line.Continues
import LogSift.Proofs.Log.Lines
/-!
# Where lines come from

The lines of a log that has been made from another come from lines of that
one or are new, and `Origins` tells for each which it is: the place of the
line that it comes from, if any. A log `Follows` another by such origins if
each line that comes from one there is that line, gone on. What works on
lines in place (`Edited`) leaves the origins alone, and where lines are
left out or put in, the origins say so (`follows_flatMap`). One making
after another has the origins of both, one looked up in the other
(`Follows.comp`).
-/


namespace LogSift

/-- For each line of a log, the place of the line of another log that it comes
from, or nothing if it is new. -/
abbrev Origins := List (Option Nat)

namespace Origins

variable {o p : Origins} {R : Nat → Nat → Prop} {i j : Nat}

/-- The places whose lines are still there, in the order they are in now. -/
def kept (o : Origins) : List Nat := o.filterMap id

/-- Where the line at a place comes from. -/
def origin (o : Origins) (j : Nat) : Option Nat := o[j]?.join

/-- The origins of a log whose lines come, by `p`, from those of a log that
has origins itself. -/
def comp (o p : Origins) : Origins := p.map (·.bind o.origin)

theorem origin_eq_some_iff : o.origin j = some i ↔ o[j]? = some (some i) := by
  rw [origin, Option.join_eq_some_iff]

theorem kept_append (o p : Origins) : kept (o ++ p) = o.kept ++ p.kept := List.filterMap_append

@[simp] theorem kept_replicate_none (n : Nat) : kept (List.replicate n none) = [] := by
  simp [kept]

theorem mem_kept : i ∈ o.kept ↔ some i ∈ o := by
  simp [kept]

theorem mem_kept_iff_getElem? : i ∈ o.kept ↔ ∃ j : Nat, o[j]? = some (some i) := by
  rw [mem_kept, List.mem_iff_getElem?]

theorem kept_comp : (o.comp p).kept = p.kept.filterMap o.origin := by
  rw [kept, comp, List.filterMap_map, kept, List.filterMap_filterMap]
  rfl

/-- What holds of the places that are kept, one before the other, holds of the
origins of lines that stand so. -/
theorem origin_of_pairwise (h : o.kept.Pairwise R) {j j' i i' : Nat} (hlt : j < j')
    (hi : o.origin j = some i) (hi' : o.origin j' = some i') : R i i' := by
  rw [kept, List.pairwise_filterMap] at h
  obtain ⟨hj, hget⟩ := List.getElem?_eq_some_iff.mp (origin_eq_some_iff.mp hi)
  obtain ⟨hj', hget'⟩ := List.getElem?_eq_some_iff.mp (origin_eq_some_iff.mp hi')
  exact List.pairwise_iff_getElem.mp h j j' hj hj' hlt i hget i' hget'

/-- **What is kept twice in order** is kept in order. -/
theorem pairwise_lt_comp (ho : o.kept.Pairwise (· < ·)) (hp : p.kept.Pairwise (· < ·)) :
    (o.comp p).kept.Pairwise (· < ·) := by
  rw [kept_comp]
  exact List.Pairwise.filterMap o.origin (fun j j' hlt i hi i' hi' =>
    origin_of_pairwise ho hlt hi hi') hp

/-- **What is kept at most once, twice**, is kept at most once. -/
theorem nodup_comp (ho : o.kept.Nodup) (hp : p.kept.Nodup) : (o.comp p).kept.Nodup := by
  rw [kept_comp]
  refine List.Pairwise.filterMap o.origin (fun j j' hne i hi i' hi' => ?_) hp
  rcases Nat.lt_or_gt_of_ne hne with hlt | hgt
  · exact origin_of_pairwise ho hlt hi hi'
  · exact Ne.symm (origin_of_pairwise ho hgt hi' hi)

/-- What is not kept has been given up at first, or later. -/
theorem notMem_kept_comp (h : i ∉ (o.comp p).kept) :
    i ∉ o.kept ∨ ∃ j : Nat, o[j]? = some (some i) ∧ j ∉ p.kept := by
  by_cases hi : i ∈ o.kept
  · obtain ⟨j, hj⟩ := mem_kept_iff_getElem?.mp hi
    refine Or.inr ⟨j, hj, fun hkept => h ?_⟩
    rw [kept_comp]
    exact List.mem_filterMap.mpr ⟨j, hkept, origin_eq_some_iff.mpr hj⟩
  · exact Or.inl hi

end Origins

namespace Log

variable {before mid after log : Log} {parts more : List Line.Part} {o p : Origins}
variable {op : Line → Option Line}

/-! ## Work in place -/

/-- **Each line goes on** in its place. -/
inductive Edited (parts : List Line.Part) : Log → Log → Prop
  | nil : Edited parts [] []
  | cons {l l' : Line} {before after : Log} :
      l.Continues parts l' → Edited parts before after →
      Edited parts (l :: before) (l' :: after)

theorem Edited.refl (parts : List Line.Part) (log : Log) : Edited parts log log := by
  induction log with
  | nil => exact .nil
  | cons l log ih => exact .cons (.refl parts l) ih

theorem Edited.append {before' after' : Log} (h : Edited parts before after)
    (h' : Edited parts before' after') : Edited parts (before ++ before') (after ++ after') := by
  induction h with
  | nil => exact h'
  | cons hl _ ih => exact .cons hl ih

theorem edited_map {f : Line → Line} (hf : ∀ l : Line, l.Continues parts (f l)) (log : Log) :
    Edited parts log (log.map f) := by
  induction log with
  | nil => exact .nil
  | cons l log ih => exact .cons (hf l) ih

/-- **Changing lines** is work in place. -/
theorem edited_update (hop : ∀ l l' : Line, op l = some l' → l.Continues parts l') (log : Log) :
    Edited parts log (update op log) := by
  refine edited_map (fun l => ?_) log
  rcases hl : op l with _ | l'
  · exact .refl parts l
  · exact hop l l' hl

theorem edited_update_ite {c : Line → Prop} [DecidablePred c] {f : Line → Line}
    (hf : ∀ l : Line, l.Continues parts (f l)) (log : Log) :
    Edited parts log (update (fun l => if c l then some (f l) else none) log) := by
  refine edited_update (fun l l' hop => ?_) log
  split at hop
  · exact Option.some.inj hop ▸ hf l
  · cases hop

theorem edited_renumber (log : Log) : Edited [.number] log (renumber log) := by
  -- the lines after the first are numbered on from it, so the start is a variable
  have hidx : ∀ n : Nat,
      Edited [.number] log (log.mapIdx fun i l => { l with number := n + i + 1 }) := by
    induction log with
    | nil => exact fun n => .nil
    | cons l log ih =>
      intro n
      have htail := ih (n + 1)
      simp only [Nat.add_right_comm n 1] at htail
      rw [List.mapIdx_cons]
      exact .cons (l.continues_number _) htail
  simpa [renumber] using hidx 0

theorem edited_truncate (limit : Nat) (log : Log) :
    Edited [.text, .highlights] log (log.truncate limit).2 :=
  edited_update_ite (fun l => l.continues_truncate limit) log

theorem edited_parseFields (p : Pattern) (log : Log) :
    Edited [.fields] log (log.parseFields p).2 := by
  refine edited_update (fun l l' hop => ?_) log
  dsimp only at hop
  split at hop
  · cases hop
  · exact Option.some.inj hop ▸ l.continues_mergeFields _

theorem edited_addField (add known : String) (log : Log) :
    Edited [.fields] log (log.addField add known).2 := by
  refine edited_update (fun l l' hop => ?_) log
  rw [fill?] at hop
  split at hop
  · cases hop
  · obtain ⟨told, -, rfl⟩ := Option.map_eq_some_iff.mp hop
    exact l.continues_setField add told.2

theorem edited_filterLines (pattern : Option Pattern) (kind : FilterKind) (color : Color)
    (address : Option Address) (log : Log) :
    Edited [.visible, .matched, .fields, .highlights] log
      (log.filterLines pattern kind color address).2 :=
  edited_map (fun l => l.continues_filtered _ kind color address) log

theorem edited_hideUnmatched (log : Log) : Edited [.visible] log log.hideUnmatched.2 :=
  edited_update_ite (fun l => l.continues_visible false) log

theorem edited_divideByPattern (p : Pattern) (color : Color) (log : Log) :
    Edited [.beginSection, .highlights] log (log.divideByPattern p color).2 :=
  edited_update_ite (fun l => l.continues_startSection color) log

theorem edited_divideByField (field : String) (color : Color) (log : Log) :
    Edited [.beginSection, .highlights] log (log.divideByField field color).2 := by
  -- there is a change or none for every line, so no line is dropped at the end
  have hzip : ∀ (changes : List Bool) (log : Log), log.length ≤ changes.length →
      Edited [.beginSection, .highlights] log
        (List.zipWith (fun changed l => if changed then l.startSection color else l)
          changes log) := by
    intro changes log
    induction log generalizing changes with
    | nil => exact fun _ => by rw [List.zipWith_nil_right]; exact .nil
    | cons l log ih =>
      intro hle
      obtain ⟨changed, changes, rfl⟩ := List.exists_cons_of_length_pos (Nat.lt_of_lt_of_le
        (Nat.succ_pos _) hle)
      refine .cons ?_ (ih changes (Nat.le_of_succ_le_succ hle))
      cases changed with
      | false => exact .refl _ l
      | true => exact l.continues_startSection color
  exact hzip (fieldChanges field log) log (by simp [fieldChanges])

/-- Sections are kept or hidden in place. -/
theorem edited_filterSections (p : Pattern) (kind : FilterKind) (log : Log) :
    Edited [.visible] log (log.filterSections p kind).2 := by
  have hsection : ∀ lines : Log, Edited [.visible] lines (filterSection p kind lines) := by
    intro lines
    rw [filterSection]
    split
    · exact .refl _ lines
    · exact edited_map (fun l => l.continues_visible false) lines
  have hparts : ∀ sections : List Log,
      Edited [.visible] sections.flatten (sections.flatMap (filterSection p kind)) := by
    intro sections
    induction sections with
    | nil => exact .nil
    | cons lines sections ih =>
      rw [List.flatten_cons, List.flatMap_cons]
      exact (hsection lines).append ih
  have hall := hparts (sections log)
  rwa [flatten_sections] at hall

theorem edited_replace (p : Pattern) (replacement : String) (all : Bool)
    (address : Option Address) (log : Log) :
    Edited [.text, .highlights] log (log.replace p replacement all address).2 := by
  refine edited_update (fun l l' hop => ?_) log
  split at hop
  · exact Line.continues_replace? hop
  · cases hop

theorem edited_change (address : Option Address) (text : String) (color : Color) (log : Log) :
    Edited [.text, .highlights] log (log.change address text color).2 :=
  edited_update_ite (fun l => l.continues_setText text color) log

/-! ## Lines that come and go -/

/-- **The lines of a log follow those of another**: each is new, or a line of
that one, which goes on but for some of its parts. -/
inductive Follows (parts : List Line.Part) (before : Log) : Log → Origins → Prop
  | nil : Follows parts before [] []
  | new {l' : Line} {after : Log} {o : Origins} :
      Follows parts before after o → Follows parts before (l' :: after) (none :: o)
  | kept {i : Nat} {l l' : Line} {after : Log} {o : Origins} :
      before[i]? = some l → l.Continues parts l' → Follows parts before after o →
      Follows parts before (l' :: after) (some i :: o)

/-- For each line in turn, what stands in its place, given that and the
line. -/
def arrange (f : Line → Nat → Origins) (log : Log) : Origins :=
  log.zipIdx.flatMap fun e => f e.1 e.2

theorem Follows.length_eq (h : Follows parts before after o) : after.length = o.length := by
  induction h with
  | nil => rfl
  | new _ ih | kept _ _ _ ih => exact congrArg (· + 1) ih

/-- A line of the log is new or comes from a line of the other. -/
theorem Follows.origin_of_getElem? (h : Follows parts before after o) {j : Nat} {l' : Line}
    (hj : after[j]? = some l') :
    o[j]? = some none ∨
      ∃ i l, o[j]? = some (some i) ∧ before[i]? = some l ∧ l.Continues parts l' := by
  induction h generalizing j with
  | nil => cases hj
  | new _ ih =>
    cases j with
    | zero => exact Or.inl rfl
    | succ j => exact ih hj
  | @kept i l _ _ _ hi hl _ ih =>
    cases j with
    | zero =>
      cases hj
      exact Or.inr ⟨i, l, rfl, hi, hl⟩
    | succ j => exact ih hj

/-- A line that comes from one of the other is that one, gone on. -/
theorem Follows.continues (h : Follows parts before after o) {i j : Nat}
    (hj : o[j]? = some (some i)) :
    ∃ l l', before[i]? = some l ∧ after[j]? = some l' ∧ l.Continues parts l' := by
  have hlt : j < after.length := by
    rw [h.length_eq]
    exact (List.getElem?_eq_some_iff.mp hj).1
  rcases h.origin_of_getElem? (List.getElem?_eq_getElem hlt) with hnew | ⟨i', l, hj', hi, hl⟩
  · rw [hj] at hnew
    cases hnew
  · rw [hj] at hj'
    cases hj'
    exact ⟨l, after[j], hi, List.getElem?_eq_getElem hlt, hl⟩

theorem Follows.append {after' : Log} {o' : Origins} (h : Follows parts before after o)
    (h' : Follows parts before after' o') :
    Follows parts before (after ++ after') (o ++ o') := by
  induction h with
  | nil => exact h'
  | new _ ih => exact .new ih
  | kept hi hl _ ih => exact .kept hi hl ih

theorem Follows.mono (h : Follows parts before after o) (hparts : parts ⊆ more) :
    Follows more before after o := by
  induction h with
  | nil => exact .nil
  | new _ ih => exact .new ih
  | kept hi hl _ ih => exact .kept hi (hl.mono hparts) ih

/-- Any lines may be new. -/
theorem follows_new (parts : List Line.Part) (before new : Log) :
    Follows parts before new (List.replicate new.length none) := by
  induction new with
  | nil => exact .nil
  | cons l new ih => exact .new ih

/-- **Work in place** leaves the origins alone. -/
theorem Follows.edited (h : Follows parts before mid o) (h' : Edited more mid after) :
    Follows (parts ++ more) before after o := by
  induction h generalizing after with
  | nil =>
    cases h'
    exact .nil
  | new _ ih =>
    cases h' with
    | cons _ hrest => exact .new (ih hrest)
  | kept hi hl _ ih =>
    cases h' with
    | cons hl' hrest => exact .kept hi (hl.trans hl') (ih hrest)

/-- **One making after another** has the origins of both. -/
theorem Follows.comp (h : Follows parts before mid o) (h' : Follows more mid after p) :
    Follows (parts ++ more) before after (o.comp p) := by
  induction h' with
  | nil => exact .nil
  | new _ ih => exact .new ih
  | @kept j l l' _ _ hj hl _ ih =>
    -- what has been left by the second making may have been new in the first
    rcases h.origin_of_getElem? hj with hnew | ⟨i, l₀, horigin, hi, hl₀⟩
    · have hnone : o.origin j = none := by rw [Origins.origin, hnew]; rfl
      rw [Origins.comp, List.map_cons, Option.bind_some, hnone]
      exact .new ih
    · rw [Origins.comp, List.map_cons, Option.bind_some, Origins.origin_eq_some_iff.mpr horigin]
      exact .kept hi (hl₀.trans hl) ih

/-- What is new after two makings is new in one of them. -/
theorem Follows.none_mem_of_comp (h : Follows parts before mid o) (h' : Follows more mid after p)
    (hnone : none ∈ o.comp p) : none ∈ o ∨ none ∈ p := by
  obtain ⟨x, hx, hbind⟩ := List.mem_map.mp hnone
  cases x with
  | none => exact Or.inr hx
  | some j =>
    obtain ⟨k, hk⟩ := List.mem_iff_getElem?.mp hx
    obtain ⟨l, -, hl, -⟩ := h'.continues hk
    rcases h.origin_of_getElem? hl with hnew | ⟨i, -, horigin, -⟩
    · exact Or.inl (List.mem_of_getElem? hnew)
    · rw [Option.bind_some, Origins.origin_eq_some_iff.mpr horigin] at hbind
      cases hbind

/-- **What stands in the place of each line** follows the log if it does so
line by line. The induction is over the end of the log, with the place
where that begins. -/
theorem follows_flatMap {g : Line → Log} {f : Line → Nat → Origins}
    (h : ∀ i l, log[i]? = some l → Follows parts log (g l) (f l i)) :
    Follows parts log (log.flatMap g) (log.arrange f) := by
  have hend : ∀ (rest : Log) (n : Nat), (∀ k l, rest[k]? = some l → log[n + k]? = some l) →
      Follows parts log (rest.flatMap g) ((rest.zipIdx n).flatMap fun e => f e.1 e.2) := by
    intro rest
    induction rest with
    | nil => exact fun n _ => .nil
    | cons l rest ih =>
      intro n hrest
      rw [List.flatMap_cons, List.zipIdx_cons, List.flatMap_cons]
      refine (h n l (hrest 0 l rfl)).append (ih (n + 1) fun k m hk => ?_)
      rw [Nat.add_right_comm]
      exact hrest (k + 1) m hk
  exact hend log 0 fun k l hk => by rwa [Nat.zero_add]

/-- Lines that are left as they are. -/
theorem follows_self (log : Log) : Follows [] log log (log.arrange fun _ i => [some i]) := by
  have hall : Follows [] log (log.flatMap fun l => [l]) (log.arrange fun _ i => [some i]) :=
    follows_flatMap fun i l hi => .kept hi (.refl [] l) .nil
  simpa using hall

/-- Lines that are left out. -/
theorem follows_filter (q : Line → Bool) (log : Log) :
    Follows [] log (log.filter fun l => !q l)
      (log.arrange fun l i => if q l then [] else [some i]) := by
  have hfilter : (log.filter fun l => !q l) = log.flatMap fun l => if q l then [] else [l] := by
    induction log with
    | nil => rfl
    | cons l log ih =>
      rw [List.filter_cons, List.flatMap_cons, ih]
      cases q l <;> rfl
  rw [hfilter]
  refine follows_flatMap fun i l hi => ?_
  split
  · exact .nil
  · exact .kept hi (.refl [] l) .nil

/-- Lines that are moved. The order of lines is one of lines with their
places, too. -/
theorem exists_follows_mergeSort (le : Line → Line → Bool) (log : Log) :
    ∃ o : Origins, o.Perm (log.arrange fun _ i => [some i]) ∧
      Follows [] log (log.mergeSort le) o := by
  have hentries : ∀ es : List (Line × Nat), (∀ e ∈ es, log[e.2]? = some e.1) →
      Follows [] log (es.map (·.1)) (es.map (some ·.2)) := by
    intro es hes
    induction es with
    | nil => exact .nil
    | cons e es ih =>
      obtain ⟨he, hes⟩ := List.forall_mem_cons.mp hes
      exact .kept he (.refl [] e.1) (ih hes)
  let sorted := log.zipIdx.mergeSort fun a b => le a.1 b.1
  have hperm : sorted.Perm log.zipIdx := List.mergeSort_perm _ _
  have hsorted : sorted.map (·.1) = log.mergeSort le := by
    rw [List.map_mergeSort (s := le) fun _ _ _ _ => rfl, List.zipIdx_map_fst]
  refine ⟨sorted.map (some ·.2), ?_, hsorted ▸ hentries sorted fun e he => ?_⟩
  · rw [arrange, ← List.map_eq_flatMap]
    exact hperm.map _
  · exact List.mem_zipIdx_iff_getElem?.mp (hperm.mem_iff.mp he)

/-! ## Which lines are kept -/

/-- The places of the lines with a property. -/
def placesOf (q : Line → Bool) (log : Log) : List Nat := (log.zipIdx.filter (q ·.1)).map (·.2)

theorem pairwise_placesOf (q : Line → Bool) (log : Log) :
    (log.placesOf q).Pairwise (· < ·) := by
  have hall : (log.zipIdx.map (·.2)).Pairwise (· < ·) := by
    rw [List.zipIdx_map_snd]
    exact List.pairwise_lt_range'
  exact hall.sublist (List.filter_sublist.map _)

theorem mem_placesOf {q : Line → Bool} {i : Nat} {l : Line} (hi : log[i]? = some l) :
    i ∈ log.placesOf q ↔ q l = true := by
  rw [placesOf, List.mem_map]
  constructor
  · rintro ⟨e, he, rfl⟩
    obtain ⟨he, hq⟩ := List.mem_filter.mp he
    rw [List.mem_zipIdx_iff_getElem?.mp he] at hi
    exact Option.some.inj hi ▸ hq
  · intro hq
    exact ⟨(l, i), List.mem_filter.mpr ⟨List.mem_zipIdx_iff_getElem?.mpr hi, hq⟩, rfl⟩

/-- **If of each line at most itself is kept**, the places kept are those of
the lines that are. -/
theorem kept_arrange {f : Line → Nat → Origins} {q : Line → Bool}
    (h : ∀ l i, Origins.kept (f l i) = if q l then [i] else []) (log : Log) :
    Origins.kept (log.arrange f) = log.placesOf q := by
  have hentries : ∀ es : List (Line × Nat),
      Origins.kept (es.flatMap fun e => f e.1 e.2) = (es.filter (q ·.1)).map (·.2) := by
    intro es
    induction es with
    | nil => rfl
    | cons e es ih =>
      rw [List.flatMap_cons, Origins.kept_append, ih, h, List.filter_cons]
      split <;> rfl
  exact hentries log.zipIdx

theorem none_notMem_arrange {f : Line → Nat → Origins} (h : ∀ l i, none ∉ f l i) (log : Log) :
    none ∉ log.arrange f := by
  intro hnone
  obtain ⟨e, -, he⟩ := List.mem_flatMap.mp hnone
  exact h e.1 e.2 he

end Log

end LogSift
