import LogSift.Proofs.Pattern.Steps
/-!
# Verbose mode is turned on by its flag

A pattern is read with verbose mode off (`State.Terse`). Only the flag `x`
turns it on, and so a text without that letter leaves it off
(`State.Terse.step`).
-/


namespace LogSift

namespace Pattern

namespace Reader

variable {cs left : List Char} {c : Char} {change change' : FlagChange}

/-! ## Flags -/

theorem flag?_ne_verbose (hc : c ≠ 'x') : flag? c ≠ some .verbose := by
  intro h
  unfold flag? at h
  split at h
  all_goals first
    | exact hc rfl
    | cases h

/-- Flags that are read without an `x` are not the one of verbose mode. -/
theorem flags_ne_verbose {negated dangling : Bool} (hx : 'x' ∉ cs)
    (hchange : ∀ f ∈ change, f.1 ≠ .verbose)
    (hflags : flags negated dangling change cs = .ok (change', c, left)) :
    ∀ f ∈ change', f.1 ≠ .verbose := by
  induction cs generalizing negated dangling change with
  | nil => cases hflags
  | cons d rest ih =>
    obtain ⟨hd, hrest⟩ := not_or.mp (mt List.mem_cons.mpr hx)
    rw [flags] at hflags
    split at hflags
    · split at hflags
      · cases hflags
      · cases hflags
        exact hchange
    · split at hflags
      · split at hflags
        · cases hflags
        · exact ih hrest hchange hflags
      · split at hflags
        · cases hflags
        · rename_i f hf
          split at hflags
          · cases hflags
          · refine ih hrest (fun g hg => ?_) hflags
            rcases List.mem_append.mp hg with hg | hg
            · exact hchange g hg
            · obtain rfl := List.mem_singleton.mp hg
              rintro rfl
              exact flag?_ne_verbose (Ne.symm hd) hf

namespace State

variable {st st' : State}

theorem verboseAfter_eq (hchange : ∀ f ∈ change, f.1 ≠ .verbose) :
    st.verboseAfter change = st.verbose := by
  have hnone : change.find? (·.1 = .verbose) = none :=
    List.find?_eq_none.mpr fun f hf => by simpa using hchange f hf
  rw [verboseAfter, hnone]

/-! ## Steps -/

/-- Verbose mode is off, and it was off before each open group. -/
structure Terse (st : State) : Prop where
  verbose : st.verbose = false
  outer : ∀ l ∈ st.outer, l.verbose = false

theorem terse_start : start.Terse := ⟨rfl, List.forall_mem_nil _⟩

theorem Terse.enter (h : st.Terse) (kind : GroupKind) {v : Bool} (hv : v = false) :
    (st.enter kind v).Terse :=
  ⟨hv, List.forall_mem_cons.mpr ⟨h.verbose, h.outer⟩⟩

/-- **A step over a text without an `x` leaves verbose mode off.** -/
theorem Terse.step (h : st.Terse) (hx : 'x' ∉ cs) (hst : st.step c cs = .ok (st', left)) :
    st'.Terse := by
  -- flags that are read without the letter do not speak of verbose mode
  have hverbose : ∀ {letters left change closer}, letters <:+ cs →
      flags false false [] letters = .ok (change, closer, left) →
        st.verboseAfter change = false := fun hletters hflags =>
    (verboseAfter_eq (flags_ne_verbose (mt hletters.mem hx) (List.forall_mem_nil _) hflags)).trans
      h.verbose
  cases change_of_step hst with
  | flags hletters hflags => exact ⟨hverbose hletters hflags, h.outer⟩
  | plain hletters hflags => exact h.enter _ (hverbose hletters hflags)
  | capture name names =>
    have hcaptured : ({ st with captures := st.captures + 1, names } : State).Terse := { h with }
    exact hcaptured.enter _ h.verbose
  | close houter =>
    obtain ⟨hlevel, hrest⟩ := List.forall_mem_cons.mp (houter ▸ h.outer)
    exact ⟨hlevel, hrest⟩
  | atom | bracket | branch | repeated => exact { h with }

end State

end Reader

end Pattern

end LogSift
