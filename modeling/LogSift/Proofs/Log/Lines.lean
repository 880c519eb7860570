import LogSift.Log.Duplicate
import LogSift.Log.Edit
import LogSift.Log.Field
import LogSift.Log.Section
/-!
# What all lines of a log have

A property of lines that holds of every line of a log is kept by what
works line by line, if the operation keeps it (`forall_mem_update`), and
by what leaves out, sorts or numbers lines. Sections are parts of the log
(`flatten_sections`), so it is kept within them too.
-/


namespace LogSift

namespace Log

variable {P : Line → Prop} {log : Log} {op : Line → Option Line}

/-- **Changing lines** keeps what the operation keeps. -/
theorem forall_mem_update (hop : ∀ l l', P l → op l = some l' → P l') (hlog : ∀ l ∈ log, P l) :
    ∀ l ∈ update op log, P l := by
  intro l hl
  obtain ⟨m, hm, rfl⟩ := List.mem_map.mp hl
  rcases hopm : op m with _ | m'
  · exact hlog m hm
  · exact hop m m' (hlog m hm) hopm

/-- Changing the lines that pass a test keeps what the change keeps. -/
theorem forall_mem_update_ite {c : Line → Prop} [DecidablePred c] {f : Line → Line}
    (hf : ∀ l, P l → P (f l)) (hlog : ∀ l ∈ log, P l) :
    ∀ l ∈ update (fun l => if c l then some (f l) else none) log, P l := by
  refine forall_mem_update (fun l l' hl hop => ?_) hlog
  split at hop
  · obtain rfl := Option.some.inj hop
    exact hf l hl
  · cases hop

/-- **Numbering lines** keeps what is not about numbers. -/
theorem forall_mem_renumber (hnumber : ∀ (l : Line) (n : Nat), P l → P { l with number := n })
    (hlog : ∀ l ∈ log, P l) : ∀ l ∈ renumber log, P l := by
  intro l hl
  obtain ⟨i, hi, rfl⟩ := List.mem_mapIdx.mp hl
  exact hnumber _ _ (hlog _ (List.getElem_mem hi))

/-- Lines put before or after others keep what they have themselves. -/
theorem forall_mem_flatMap {f : Line → Log} (hf : ∀ l, P l → ∀ m ∈ f l, P m)
    (hlog : ∀ l ∈ log, P l) : ∀ l ∈ log.flatMap f, P l := by
  intro l hl
  obtain ⟨m, hm, hlm⟩ := List.mem_flatMap.mp hl
  exact hf m (hlog m hm) l hlm

/-- What is done to each line alongside a list keeps what it keeps of a
line. -/
theorem forall_mem_zipWith {α : Type} {f : α → Line → Line} (hf : ∀ a l, P l → P (f a l))
    (xs : List α) (hlog : ∀ l ∈ log, P l) : ∀ l ∈ List.zipWith f xs log, P l := by
  intro l hl
  obtain ⟨i, hi, rfl⟩ := List.mem_iff_getElem.mp hl
  rw [List.getElem_zipWith]
  exact hf _ _ (hlog _ (List.getElem_mem _))

/-- **Adding texts** adds lines as they are loaded. -/
theorem forall_mem_appendTexts {texts : List String} (htext : ∀ text n, P (Line.ofText text n))
    (hlog : ∀ l ∈ log, P l) : ∀ l ∈ log.appendTexts texts, P l := by
  intro l hl
  rcases List.mem_append.mp hl with hl | hl
  · exact hlog l hl
  · obtain ⟨i, hi, rfl⟩ := List.mem_mapIdx.mp hl
    exact htext _ _

/-! ## Fields -/

/-- Extracting fields keeps what is not about fields. -/
theorem forall_mem_parseFields
    (hfields : ∀ (l : Line) (fields : Keyed String), P l → P { l with fields })
    (hlog : ∀ l ∈ log, P l) (p : Pattern) : ∀ l ∈ (log.parseFields p).2, P l := by
  refine forall_mem_update (fun l l' hl hop => ?_) hlog
  dsimp only at hop
  split at hop
  · cases hop
  · obtain rfl := Option.some.inj hop
    exact hfields l _ hl

/-- And so does filling them in. -/
theorem forall_mem_addField
    (hfields : ∀ (l : Line) (fields : Keyed String), P l → P { l with fields })
    (hlog : ∀ l ∈ log, P l) (add known : String) : ∀ l ∈ (log.addField add known).2, P l := by
  refine forall_mem_update (fun l l' hl hop => ?_) hlog
  rw [fill?] at hop
  split at hop
  · cases hop
  · obtain ⟨told, -, rfl⟩ := Option.map_eq_some_iff.mp hop
    exact hfields l _ hl

/-! ## Repeated lines -/

/-- **Summaries** are lines as they are loaded. -/
theorem forall_mem_detectDuplicates
    (hnumber : ∀ (l : Line) (n : Nat), P l → P { l with number := n })
    (htext : ∀ text n, P (Line.ofText text n)) (hlog : ∀ l ∈ log, P l) (threshold : Nat)
    (normalize : String → String) : ∀ l ∈ (log.detectDuplicates threshold normalize).2, P l := by
  rw [detectDuplicates]
  split
  · exact hlog
  · refine forall_mem_renumber hnumber fun l hl => ?_
    rcases List.mem_append.mp hl with hl | hl
    · obtain ⟨e, -, rfl⟩ := List.mem_map.mp hl
      exact htext _ _
    · exact hlog l hl

/-! ## Sections -/

theorem flatten_addLine (l : Line) (parts : List Log) :
    (addLine l parts).flatten = l :: parts.flatten := by
  rcases parts with _ | ⟨_ | ⟨next, rest⟩, more⟩
  · rfl
  · rfl
  · rw [addLine]
    split <;> rfl

/-- **The sections of a log are the log**, cut into parts. -/
theorem flatten_sections (log : Log) : (sections log).flatten = log := by
  induction log with
  | nil => rfl
  | cons l log ih => rw [sections, List.foldr_cons, flatten_addLine, ← sections, ih]

/-- A filter of sections keeps what hiding a line keeps. -/
theorem forall_mem_filterSections (hhide : ∀ l, P l → P { l with visible := false })
    (hlog : ∀ l ∈ log, P l) (p : Pattern) (kind : FilterKind) :
    ∀ l ∈ (filterSections p kind log).2, P l := by
  intro l hl
  obtain ⟨lines, hlines, hl⟩ := List.mem_flatMap.mp hl
  have hall : ∀ m ∈ lines, P m := by
    intro m hm
    refine hlog m ?_
    rw [← flatten_sections log]
    exact List.mem_flatten.mpr ⟨lines, hlines, hm⟩
  rw [filterSection] at hl
  split at hl
  · exact hall l hl
  · obtain ⟨m, hm, rfl⟩ := List.mem_map.mp hl
    exact hhide m (hall m hm)

end Log

end LogSift
