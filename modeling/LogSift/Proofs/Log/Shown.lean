import LogSift.Log.Edit
import LogSift.Log.Field
import LogSift.Log.Section
import LogSift.Proofs.Line.Frame
/-!
# What a log shows

The shown lines of a log, without their numbers, are all that a chop
leaves of it: the chop numbers them anew (`chop_snd`). An operation
narrows a log if it makes of each line what it makes of it without its
number, or removes it, and if no hidden line is shown afterwards. What a
log shows after such an operation depends on what it has shown before and
on nothing else (`Narrows.shown_congr`).
-/


namespace LogSift

namespace Line

variable {l : Line} {kind : FilterKind} {address : Option Address} {f : Line → Line}
variable {c : Line → Bool} {g : Line → Option Line}

/-- The line without its number. -/
def unnumbered (l : Line) : Line := { l with number := 0 }

/-- **The operation narrows a log**, line by line. -/
structure Narrows (g : Line → Option Line) : Prop where
  /-- It does not look at numbers. -/
  unnumbered (l : Line) : g l.unnumbered = (g l).map Line.unnumbered
  /-- A hidden line stays hidden. -/
  hidden {l l' : Line} : l.visible = false → g l = some l' → l'.visible = false

/-- Changing the lines that pass a test narrows a log, if neither the test nor
the change looks at numbers. -/
theorem narrows_ite (hc : ∀ l, c l.unnumbered = c l)
    (hf : ∀ l, f l.unnumbered = (f l).unnumbered)
    (hhidden : ∀ l, l.visible = false → (f l).visible = false) :
    Narrows fun l => if c l then some (f l) else none where
  unnumbered l := by
    rw [hc, hf]
    split <;> rfl
  hidden {l l'} hl hg := by
    split at hg
    · obtain rfl := Option.some.inj hg
      exact hhidden l hl
    · cases hg

/-- Changing all lines does. -/
theorem narrows_some (hf : ∀ l, f l.unnumbered = (f l).unnumbered)
    (hhidden : ∀ l, l.visible = false → (f l).visible = false) :
    Narrows fun l => some (f l) where
  unnumbered l := by rw [hf, Option.map_some]
  hidden {l l'} hl hg := by
    obtain rfl := Option.some.inj hg
    exact hhidden l hl

/-- And so does leaving the other lines as they are instead of removing them. -/
theorem Narrows.getD (h : Narrows g) : Narrows fun l => some ((g l).getD l) := by
  refine narrows_some (fun l => ?_) (fun l hl => ?_)
  · rw [h.unnumbered]
    cases g l <;> rfl
  · rcases hg : g l with _ | l'
    · exact hl
    · exact h.hidden hl hg

/-! ## Operations that do not look at numbers -/

theorem unnumbered_highlight (l : Line) (s : Pattern.Span) (color : Color) :
    l.unnumbered.highlight s color = (l.highlight s color).unnumbered := by
  rw [highlight, highlight]
  have hlength : l.unnumbered.byteLength = l.byteLength := rfl
  rw [hlength]
  split <;> rfl

theorem unnumbered_highlightSpans (l : Line) (spans : List Pattern.Span) (color : Color) :
    l.unnumbered.highlightSpans spans color = (l.highlightSpans spans color).unnumbered := by
  induction spans generalizing l with
  | nil => rfl
  | cons s spans ih =>
    simp only [highlightSpans, List.foldl_cons] at ih ⊢
    rw [unnumbered_highlight, ih]

theorem unnumbered_foldl_mergeFields (l : Line) (ks : List (Keyed String)) :
    ks.foldl (fun acc k => acc.mergeFields k.entries) l.unnumbered =
      (ks.foldl (fun acc k => acc.mergeFields k.entries) l).unnumbered := by
  induction ks generalizing l with
  | nil => rfl
  | cons k ks ih => exact ih (l.mergeFields k.entries)

theorem unnumbered_mark (p : Pattern) (color : Color) (l : Line) :
    l.unnumbered.mark p color = (l.mark p color).unnumbered := by
  have hcaptures : l.unnumbered.captures p = l.captures p := rfl
  have htext : l.unnumbered.text = l.text := rfl
  rw [mark, mark, hcaptures, htext, unnumbered_highlightSpans, unnumbered_foldl_mergeFields]

theorem unnumbered_settle (kind : FilterKind) (found : Bool) (l : Line) :
    kind.settle found l.unnumbered = (kind.settle found l).unnumbered := by
  cases kind with
  | required | add | highlight => rfl
  | remove =>
    have hstart : l.unnumbered.beginSection = l.beginSection := rfl
    rw [FilterKind.settle, FilterKind.settle, hstart]
    split <;> rfl

/-- The address is missing or has no range, so that numbers do not matter to
it. -/
def Unranged (address : Option Address) : Prop := ∀ a, address = some a → a.range = none

theorem Unranged.inRange (h : Unranged address) (l : Line) :
    address.all (·.inRange l) = true := by
  rcases address with _ | a
  · rfl
  · rw [Option.all_some, Address.inRange, h a rfl]

theorem Unranged.selects? (h : Unranged address) (l : Line) :
    Address.selects? address l.unnumbered = Address.selects? address l := by
  rcases address with _ | a
  · rfl
  · have hrange : a.inRange l.unnumbered = a.inRange l := by
      rw [Address.inRange, Address.inRange, h a rfl]
    have hpattern : a.patternMatches l.unnumbered = a.patternMatches l := rfl
    rw [Address.selects?, Address.selects?, Option.all_some, Option.all_some, Address.selects,
      Address.selects, hrange, hpattern]

/-- **A filter looks at numbers in the range of an address only.** -/
theorem unnumbered_filtered (pattern : Option Pattern) (kind : FilterKind) (color : Color)
    (h : Unranged address) (l : Line) :
    l.unnumbered.filtered pattern kind color address =
      (l.filtered pattern kind color address).unnumbered := by
  have hfound : l.unnumbered.isFound pattern address = l.isFound pattern address := by
    rw [isFound, isFound, h.inRange, h.inRange]
    rfl
  have hmarked : l.unnumbered.marked pattern color address =
      (l.marked pattern color address).unnumbered := by
    unfold marked
    rw [if_pos (h.inRange _), if_pos (h.inRange _)]
    cases pattern with
    | none => exact unnumbered_highlight l _ color
    | some p => exact unnumbered_mark p color l
  rw [filtered, filtered, hfound, hmarked, unnumbered_settle]

/-- **A filter that does not add lines shows none.** -/
theorem visible_filtered (pattern : Option Pattern) (color : Color) (hkind : kind ≠ .add)
    (hl : l.visible = false) : (l.filtered pattern kind color address).visible = false := by
  obtain ⟨_, _, hmarked⟩ := l.marked_frame pattern color address
  rw [filtered, hmarked]
  cases kind with
  | add => exact absurd rfl hkind
  | required => simp [FilterKind.settle, hl]
  | highlight => exact hl
  | remove =>
    rw [FilterKind.settle]
    split
    · exact hl
    · simp [hl]

theorem unnumbered_startSection (l : Line) (color : Color) :
    l.unnumbered.startSection color = (l.startSection color).unnumbered :=
  unnumbered_highlight { l with beginSection := true } _ color

theorem unnumbered_setText (l : Line) (text : String) (color : Color) :
    l.unnumbered.setText text color = (l.setText text color).unnumbered :=
  unnumbered_highlight { l with text, highlights := [] } _ color

theorem unnumbered_truncate (l : Line) (limit : Nat) :
    l.unnumbered.truncate limit = (l.truncate limit).unnumbered := by
  have hexceeds : l.unnumbered.exceeds limit = l.exceeds limit := rfl
  rw [truncate, truncate, hexceeds]
  split <;> rfl

theorem unnumbered_replace? (l : Line) (p : Pattern) (replacement : String) (all : Bool) :
    l.unnumbered.replace? p replacement all =
      (l.replace? p replacement all).map unnumbered := by
  have hnew : l.unnumbered.replacedText p replacement all = l.replacedText p replacement all := rfl
  have htext : l.unnumbered.text = l.text := rfl
  simp only [replace?, hnew, htext]
  split <;> rfl

end Line

namespace Log

variable {log log' : Log} {g : Line → Option Line} {kind : FilterKind}
variable {address : Option Address}

/-- **What a log shows**: its shown lines, without their numbers. -/
def shown (log : Log) : List Line := (log.filter (·.visible)).map Line.unnumbered

/-- It can be told from the lines without their numbers. -/
theorem shown_eq (log : Log) : log.shown = (log.map Line.unnumbered).filter (·.visible) := by
  rw [shown, List.filter_map]
  rfl

theorem shown_congr (h : log.map Line.unnumbered = log'.map Line.unnumbered) :
    log.shown = log'.shown := by
  rw [shown_eq, shown_eq, h]

theorem map_unnumbered_renumber (log : Log) :
    (renumber log).map Line.unnumbered = log.map Line.unnumbered := by
  refine List.ext_getElem (by simp [renumber]) fun i _ _ => ?_
  simp [renumber, Line.unnumbered]

theorem renumber_map_unnumbered (log : Log) :
    renumber (log.map Line.unnumbered) = renumber log := by
  refine List.ext_getElem (by simp [renumber]) fun i _ _ => ?_
  simp [renumber, Line.unnumbered]

/-- **A chop leaves what is shown**, numbered from one on. -/
theorem chop_snd (log : Log) : log.chop.2 = renumber log.shown := by
  rw [chop, shown, renumber_map_unnumbered]

theorem shown_chop (log : Log) : log.chop.2.shown = log.shown := by
  have hlines : log.chop.2.map Line.unnumbered = (log.filter (·.visible)).map Line.unnumbered :=
    map_unnumbered_renumber _
  rw [shown_congr hlines, shown, List.filter_filter]
  simp [shown]

/-- What comes up of a line that an operation narrows comes up of it without
its number, and of a hidden line nothing comes up. -/
theorem filter_visible_eq (hg : Line.Narrows g) (l : Line) :
    ((g l).filter (·.visible)).map Line.unnumbered =
      if l.visible then (g l.unnumbered).filter (·.visible) else none := by
  have hline := hg.unnumbered l
  rcases hvisible : l.visible with _ | _
  · rcases hgl : g l with _ | l'
    · rfl
    · have hhidden : l'.visible = false := hg.hidden hvisible hgl
      rw [Option.filter_some_neg (by simp [hhidden])]
      rfl
  · rw [if_pos rfl, hline]
    rcases g l with _ | l'
    · rfl
    · rw [Option.map_some, Option.filter_some, Option.filter_some]
      have hsame : l'.unnumbered.visible = l'.visible := rfl
      rw [hsame]
      split <;> rfl

/-- **What is shown after an operation that narrows a log** depends on what
is shown before. -/
theorem shown_filterMap (hg : Line.Narrows g) (log : Log) :
    shown (log.filterMap g) = (shown log).filterMap fun l => (g l).filter (·.visible) := by
  calc shown (log.filterMap g)
      = log.filterMap fun l => ((g l).filter (·.visible)).map Line.unnumbered := by
        rw [shown, List.filter_filterMap, List.map_filterMap]
    _ = log.filterMap fun l =>
          if l.visible then (g l.unnumbered).filter (·.visible) else none := by
        rw [funext (filter_visible_eq hg)]
    _ = (shown log).filterMap fun l => (g l).filter (·.visible) := by
        rw [shown, List.filterMap_map, List.filterMap_filter]
        rfl

/-- **The operation narrows logs**: apart from numbers, it does with each line
what narrows a log line by line. -/
def Narrows (f : Log → Log) : Prop :=
  ∃ g, Line.Narrows g ∧ ∀ log, (f log).map Line.unnumbered = (log.filterMap g).map Line.unnumbered

/-- **Logs that show the same** show the same after an operation that narrows
them. -/
theorem Narrows.shown_congr {f : Log → Log} (hf : Narrows f) (h : log.shown = log'.shown) :
    (f log).shown = (f log').shown := by
  obtain ⟨g, hg, hlines⟩ := hf
  have hshown : ∀ log, (f log).shown = log.shown.filterMap fun l => (g l).filter (·.visible) :=
    fun log => by rw [Log.shown_congr (hlines log), shown_filterMap hg]
  rw [hshown, hshown, h]

/-! ## Operations that narrow logs -/

theorem narrows_map {f : Line → Line} (hf : Line.Narrows fun l => some (f l)) :
    Narrows (List.map f) :=
  ⟨_, hf, fun log => by rw [List.filterMap_eq_map']⟩

theorem narrows_update (hg : Line.Narrows g) : Narrows (update g) := narrows_map hg.getD

theorem narrows_filterLines (pattern : Option Pattern) (color : Color) (hkind : kind ≠ .add)
    (h : Line.Unranged address) :
    Narrows fun log => (log.filterLines pattern kind color address).2 :=
  narrows_map (Line.narrows_some (Line.unnumbered_filtered _ kind color h)
    fun _ => Line.visible_filtered _ color hkind)

theorem narrows_hideUnmatched : Narrows fun log => log.hideUnmatched.2 :=
  narrows_update (Line.narrows_ite (fun _ => rfl) (fun _ => rfl) fun _ _ => rfl)

theorem narrows_divideByPattern (p : Pattern) (color : Color) :
    Narrows fun log => (log.divideByPattern p color).2 := by
  refine narrows_update (Line.narrows_ite (fun _ => rfl)
    (fun l => l.unnumbered_startSection color) fun l hl => ?_)
  obtain ⟨_, hstart⟩ := l.startSection_frame color
  rw [hstart]
  exact hl

theorem narrows_truncate (limit : Nat) : Narrows fun log => (log.truncate limit).2 := by
  refine narrows_update (Line.narrows_ite (fun _ => rfl)
    (fun l => l.unnumbered_truncate limit) fun l hl => ?_)
  obtain ⟨_, _, hcut⟩ := l.truncate_frame limit
  rw [hcut]
  exact hl

theorem narrows_parseFields (p : Pattern) : Narrows fun log => (log.parseFields p).2 := by
  refine narrows_update ⟨fun l => ?_, fun {l l'} hl hfields => ?_⟩
  · have hpairs : l.unnumbered.keyedValues p = l.keyedValues p := rfl
    simp only [hpairs]
    split <;> rfl
  · simp only at hfields
    split at hfields
    · cases hfields
    · obtain rfl := Option.some.inj hfields
      exact hl

theorem narrows_change (text : String) (color : Color) (h : Line.Unranged address) :
    Narrows fun log => (log.change address text color).2 := by
  refine narrows_update (Line.narrows_ite (fun l => h.selects? l)
    (fun l => l.unnumbered_setText text color) fun l hl => ?_)
  obtain ⟨_, hset⟩ := l.setText_frame text color
  rw [hset]
  exact hl

theorem narrows_replace (p : Pattern) (replacement : String) (all : Bool)
    (h : Line.Unranged address) :
    Narrows fun log => (log.replace p replacement all address).2 := by
  refine narrows_update ⟨fun l => ?_, fun {l l'} hl hreplaced => ?_⟩
  · rw [h.selects?]
    split
    · exact l.unnumbered_replace? p replacement all
    · rfl
  · split at hreplaced
    · obtain ⟨_, _, rfl⟩ := Line.replace?_frame hreplaced
      exact hl
    · cases hreplaced

/-- Removing lines does, though the others are numbered anew. -/
theorem narrows_delete (h : Line.Unranged address) : Narrows fun log => (log.delete address).2 := by
  refine ⟨fun l => if !Address.selects? address l then some l else none,
    Line.narrows_ite (fun l => by rw [h.selects?]) (fun _ => rfl) fun _ hl => hl, fun log => ?_⟩
  have hkept : log.filterMap (fun l => if !Address.selects? address l then some l else none) =
      log.filter fun l => !Address.selects? address l := by
    rw [← List.filterMap_eq_filter]
    rfl
  rw [hkept]
  exact map_unnumbered_renumber _

end Log

end LogSift
