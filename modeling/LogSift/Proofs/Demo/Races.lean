import Mathlib.Algebra.Ring.Nat
import Mathlib.Data.List.Basic
import LogSift.Proofs.Clock.Calendar
import LogSift.Script.Perform
/-!
# What races tell

Whatever chance decides, a race is over once every car has crashed or
finished. The cars in it `Unfold` into events, each of them being the next
event of some car, so that the events of one car are its `Course`
(`Unfolds.course`), and how many there are is bounded by what every car has
ahead of it (`Unfolds.length_bounds`). Each line is written down 30 to 90
seconds after the one before (`Timed`), with the date and the time of day,
which tell the second (`stamp_eq_iff`). So all races are told in this way
(`races_told`).
-/


namespace LogSift

namespace Demo

variable {σ : Type} {cars : List Car} {car next : Car} {events : List (Nat × Event)}
variable {trace : List Event} {lap : Nat} {time time' time'' : Moment}
variable {lines lines' : List (Moment × String)}

/-! ## One car -/

/-- **What lies ahead of a car**: it starts if it has not, and in a lap it crashes, finishes if
this is the last lap, or else goes into the next lap. -/
inductive Course : Option Nat → List Event → Prop
  | started {trace : List Event} : Course (some 1) trace → Course none (.started :: trace)
  | lap {lap : Nat} {trace : List Event} : lap < lapCount → Course (some (lap + 1)) trace →
      Course (some lap) (.lap (lap + 1) :: trace)
  | crashed {lap : Nat} : Course (some lap) [.crashed]
  | finished {lap : Nat} : lapCount ≤ lap → Course (some lap) [.finished]

/-- What can happen next to a car. -/
theorem next_cases (car : Car) (crash : Bool) :
    (car.lap = none ∧ car.next crash = (.started, some { car with lap := some 1 })) ∨
      ∃ lap, car.lap = some lap ∧
        (car.next crash = (.crashed, none) ∨
          lapCount ≤ lap ∧ car.next crash = (.finished, none) ∨
          lap < lapCount ∧
            car.next crash = (.lap (lap + 1), some { car with lap := some (lap + 1) })) := by
  rcases hlap : car.lap with _ | lap
  · exact Or.inl ⟨rfl, by simp only [Car.next, hlap]⟩
  · refine Or.inr ⟨lap, rfl, ?_⟩
    cases crash
    · by_cases hle : lapCount ≤ lap
      · exact Or.inr (Or.inl ⟨hle, by simp [Car.next, hlap, hle]⟩)
      · exact Or.inr (Or.inr ⟨Nat.not_le.mp hle, by simp [Car.next, hlap, hle]⟩)
    · exact Or.inl (by simp [Car.next, hlap])

/-- A car keeps its number. -/
theorem number_of_next {crash : Bool} (h : (car.next crash).2 = some next) :
    next.number = car.number := by
  rcases next_cases car crash with ⟨-, heq⟩ | ⟨lap, -, heq | ⟨-, heq⟩ | ⟨-, heq⟩⟩
  all_goals
    rw [heq] at h
    cases h
  -- what is left are the cars that stay in the race
  · rfl
  · rfl

/-- **The course of a car that leaves the race** ends with what happens to it. -/
theorem course_of_next_none {crash : Bool} (h : (car.next crash).2 = none) :
    Course car.lap [(car.next crash).1] := by
  rcases next_cases car crash with ⟨-, heq⟩ | ⟨lap, hlap, heq | ⟨hle, heq⟩ | ⟨-, heq⟩⟩
  · rw [heq] at h
    cases h
  · rw [hlap, heq]
    exact .crashed
  · rw [hlap, heq]
    exact .finished hle
  · rw [heq] at h
    cases h

/-- **The course of a car that stays** goes on with what lies ahead of it then. -/
theorem course_of_next_some {crash : Bool} (h : (car.next crash).2 = some next)
    (htrace : Course next.lap trace) : Course car.lap ((car.next crash).1 :: trace) := by
  rcases next_cases car crash with ⟨hlap, heq⟩ | ⟨lap, hlap, heq | ⟨-, heq⟩ | ⟨hlt, heq⟩⟩
  · rw [heq] at h
    cases h
    rw [hlap, heq]
    exact .started htrace
  · rw [heq] at h
    cases h
  · rw [heq] at h
    cases h
  · rw [heq] at h
    cases h
    rw [hlap, heq]
    exact .lap hlt htrace

/-- **The story of one car**: it starts, comes into laps up to one of at most five, and crashes
there, or finishes if it is the fifth. -/
def CarStory (trace : List Event) : Prop :=
  ∃ last ending, 1 ≤ last ∧ last ≤ 5 ∧
    trace = .started :: (List.range' 2 (last - 1)).map .lap ++ [ending] ∧
    (ending = .crashed ∨ ending = .finished ∧ last = 5)

/-- A course from a lap on. -/
theorem laps_of_course (h : Course (some lap) trace) (hle : lap ≤ lapCount) :
    ∃ last ending, lap ≤ last ∧ last ≤ lapCount ∧
      trace = (List.range' (lap + 1) (last - lap)).map .lap ++ [ending] ∧
      (ending = .crashed ∨ ending = .finished ∧ last = lapCount) := by
  generalize hstart : some lap = start at h
  induction h generalizing lap with
  | started => cases hstart
  | lap hlt _ ih =>
    obtain rfl := Option.some.inj hstart
    obtain ⟨last, ending, hlast, hmost, rfl, hending⟩ := ih hlt rfl
    refine ⟨last, ending, Nat.le_of_succ_le hlast, hmost, ?_, hending⟩
    have hsub : last - lap = (last - (lap + 1)) + 1 := by omega
    rw [hsub, List.range'_succ]
    rfl
  | crashed =>
    obtain rfl := Option.some.inj hstart
    exact ⟨lap, _, Nat.le_refl _, hle, by simp, Or.inl rfl⟩
  | finished hge =>
    obtain rfl := Option.some.inj hstart
    exact ⟨lap, _, Nat.le_refl _, hle, by simp, Or.inr ⟨rfl, Nat.le_antisymm hle hge⟩⟩

/-- **The whole course of a car is its story.** -/
theorem carStory_of_course (h : Course none trace) : CarStory trace := by
  cases h with
  | started h =>
    obtain ⟨last, ending, hlast, hmost, rfl, hending⟩ := laps_of_course h (by decide)
    exact ⟨last, ending, hlast, hmost, rfl, hending⟩

/-! ## The cars of a race -/

/-- **Cars in a race unfold into events**: as long as some are left, something happens to one of
them. -/
inductive Unfolds : List Car → List (Nat × Event) → Prop
  | ended : Unfolds [] []
  | next {before behind : List Car} {car : Car} {events : List (Nat × Event)} {crash : Bool} :
      Unfolds (before ++ (car.next crash).2.toList ++ behind) events →
      Unfolds (before ++ car :: behind) ((car.number, (car.next crash).1) :: events)

/-- The car may be told by its place. -/
theorem unfolds_of_replaceAt {i : Nat} {crash : Bool} (hcar : cars[i]? = some car)
    (h : Unfolds (replaceAt cars i (car.next crash).2) events) :
    Unfolds cars ((car.number, (car.next crash).1) :: events) := by
  have hcars : cars.take i ++ car :: cars.drop (i + 1) = cars := by
    obtain ⟨hi, rfl⟩ := List.getElem?_eq_some_iff.mp hcar
    simp
  have hnext := Unfolds.next h
  rwa [hcars] at hnext

/-- What happens to the car with a number. -/
def eventsOf (number : Nat) (events : List (Nat × Event)) : List Event :=
  (events.filter (·.1 = number)).map (·.2)

theorem eventsOf_cons_self (number : Nat) (event : Event) (events : List (Nat × Event)) :
    eventsOf number ((number, event) :: events) = event :: eventsOf number events := by
  simp [eventsOf]

theorem eventsOf_cons_of_ne {number other : Nat} (h : other ≠ number) (event : Event)
    (events : List (Nat × Event)) :
    eventsOf number ((other, event) :: events) = eventsOf number events := by
  simp [eventsOf, h]

/-- What is left of a car has its number. -/
theorem numbers_next_sublist (car : Car) (crash : Bool) :
    ((car.next crash).2.toList.map Car.number).Sublist [car.number] := by
  rcases hnext : (car.next crash).2 with _ | next
  · exact List.nil_sublist _
  · rw [Option.toList_some, List.map_singleton, number_of_next hnext]

theorem numbers_sublist (before behind : List Car) (car : Car) (crash : Bool) :
    ((before ++ (car.next crash).2.toList ++ behind).map Car.number).Sublist
      ((before ++ car :: behind).map Car.number) := by
  rw [List.append_cons]
  simp only [List.map_append]
  exact ((List.Sublist.refl _).append (numbers_next_sublist car crash)).append (List.Sublist.refl _)

/-- Only the cars in a race have events. -/
theorem Unfolds.mem_numbers (h : Unfolds cars events) :
    ∀ e ∈ events, e.1 ∈ cars.map Car.number := by
  induction h with
  | ended => exact List.forall_mem_nil _
  | @next before behind car events crash _ ih =>
    refine List.forall_mem_cons.mpr ⟨?_, fun e he => ?_⟩
    · simp
    · exact (numbers_sublist before behind car crash).subset (ih e he)

/-- And so nothing happens to any other. -/
theorem Unfolds.eventsOf_eq_nil (h : Unfolds cars events) {number : Nat}
    (hnumber : number ∉ cars.map Car.number) : eventsOf number events = [] := by
  rw [eventsOf, List.map_eq_nil_iff, List.filter_eq_nil_iff]
  intro e he heq
  exact hnumber (of_decide_eq_true heq ▸ h.mem_numbers e he)

/-- **What happens to a car is its course**, whatever happens to the others in between, if no two
have one number. -/
theorem Unfolds.course (h : Unfolds cars events) (hnumbers : (cars.map Car.number).Nodup)
    (hcar : car ∈ cars) : Course car.lap (eventsOf car.number events) := by
  induction h generalizing car with
  | ended => cases hcar
  | @next before behind moved events crash hrest ih =>
    have hnodup := hnumbers.sublist (numbers_sublist before behind moved crash)
    have hothers : moved.number ∉ (before ++ behind).map Car.number := by
      have hperm : (before ++ moved :: behind).Perm (moved :: (before ++ behind)) :=
        List.perm_middle
      exact (List.nodup_cons.mp ((hperm.map Car.number).nodup_iff.mp hnumbers)).1
    rcases List.mem_cons.mp (List.perm_middle.mem_iff.mp hcar) with rfl | hcar
    · -- it is this car that something happens to, and it leaves the race or stays
      rw [eventsOf_cons_self]
      rcases hnext : (car.next crash).2 with _ | next
      · rw [hnext, Option.toList_none, List.append_nil] at hrest
        rw [hrest.eventsOf_eq_nil hothers]
        exact course_of_next_none hnext
      · refine course_of_next_some hnext ?_
        rw [← number_of_next hnext]
        exact ih hnodup (by simp [hnext])
    · have hne : moved.number ≠ car.number :=
        fun heq => hothers (heq ▸ List.mem_map_of_mem hcar)
      rw [eventsOf_cons_of_ne hne]
      refine ih hnodup ?_
      rcases List.mem_append.mp hcar with hcar | hcar
      · simp [hcar]
      · simp [hcar]

/-! ## How long a race is -/

/-- The least number of events that a car has ahead of it. -/
def Car.fewest (car : Car) : Nat := if car.lap = none then 2 else 1

/-- The greatest. -/
def Car.most (car : Car) : Nat :=
  match car.lap with
  | none => lapCount + 1
  | some lap => lapCount - lap + 1

/-- One event brings a car one closer to its end at most, and at least. -/
theorem bounds_next (car : Car) (crash : Bool) :
    car.fewest ≤ ((car.next crash).2.toList.map Car.fewest).sum + 1 ∧
      ((car.next crash).2.toList.map Car.most).sum + 1 ≤ car.most := by
  rcases next_cases car crash with ⟨hlap, heq⟩ | ⟨lap, hlap, heq | ⟨-, heq⟩ | ⟨hlt, heq⟩⟩
  · simp [heq, hlap, Car.fewest, Car.most, lapCount]
  · simp [heq, hlap, Car.fewest, Car.most]
  · simp [heq, hlap, Car.fewest, Car.most]
  · -- one lap fewer lies ahead of it
    have hahead : lapCount - (lap + 1) + 1 + 1 ≤ lapCount - lap + 1 := by omega
    simpa [heq, hlap, Car.fewest, Car.most] using hahead

/-- **A race is as long as its cars have events ahead.** -/
theorem Unfolds.length_bounds (h : Unfolds cars events) :
    (cars.map Car.fewest).sum ≤ events.length ∧ events.length ≤ (cars.map Car.most).sum := by
  induction h with
  | ended => exact ⟨Nat.le_refl _, Nat.le_refl _⟩
  | @next before behind car events crash _ ih =>
    have hcar := bounds_next car crash
    simp only [List.map_append, List.map_cons, List.sum_append, List.sum_cons,
      List.length_cons] at ih ⊢
    omega

/-- **The story of a race**: of ten cars each has a story of its own, and nothing else happens. -/
structure RaceStory (events : List (Nat × Event)) : Prop where
  cars : ∀ e ∈ events, 1 ≤ e.1 ∧ e.1 ≤ 10
  story : ∀ number, 1 ≤ number → number ≤ 10 → CarStory (eventsOf number events)
  least : 20 ≤ events.length
  most : events.length ≤ 60

/-- **What the cars that a race starts with unfold into** is the story of a race. -/
theorem raceStory_of_unfolds (h : Unfolds startingCars events) : RaceStory events where
  cars e he := by
    obtain ⟨car, hcar, hnumber⟩ := List.mem_map.mp (h.mem_numbers e he)
    obtain ⟨i, hi, rfl⟩ := List.mem_map.mp hcar
    have hlt : i < 10 := List.mem_range.mp hi
    rw [← hnumber]
    exact ⟨Nat.succ_pos i, hlt⟩
  story number hleast hmost := by
    have hmem : (⟨number, none⟩ : Car) ∈ startingCars :=
      List.mem_map.mpr ⟨number - 1, List.mem_range.mpr (by unfold carCount; omega),
        by rw [Nat.sub_add_cancel hleast]⟩
    exact carStory_of_course (h.course (by decide) hmem)
  least := h.length_bounds.1
  most := h.length_bounds.2

/-! ## Writing it down -/

/-- The line for something written down at a time. -/
def written (line : Moment × String) : String := s!"[{stamp line.1}] {line.2}"

/-- **The stamp of a line tells its second.** -/
theorem stamp_eq_iff {time time' : Moment} :
    stamp time = stamp time' ↔ time.seconds = time'.seconds :=
  Moment.format_clock_eq_iff

/-- **Each line comes 30 to 90 seconds after the one before**, whole seconds, and what follows the
last line comes as long after that. -/
inductive Timed : Moment → List (Moment × String) → Moment → Prop
  | nil {time : Moment} : Timed time [] time
  | cons {time next last : Moment} {text : String} {lines : List (Moment × String)} :
      time.seconds + 30 ≤ next.seconds → next.seconds ≤ time.seconds + 90 →
      next.nanos = time.nanos → Timed next lines last → Timed time ((time, text) :: lines) last

theorem Timed.append (h : Timed time lines time') (h' : Timed time' lines' time'') :
    Timed time (lines ++ lines') time'' := by
  induction h with
  | nil => exact h'
  | cons hleast hmost hnanos _ ih => exact .cons hleast hmost hnanos (ih h')

/-- **A log of races grows by some lines.** -/
structure Grows (log log' : RaceLog σ) (lines : List (Moment × String)) : Prop where
  timed : Timed log.time lines log'.time
  texts : log'.texts.reverse = log.texts.reverse ++ lines.map written

theorem Grows.refl (log : RaceLog σ) : Grows log log [] := ⟨.nil, by simp⟩

theorem Grows.trans {log log' log'' : RaceLog σ} (h : Grows log log' lines)
    (h' : Grows log' log'' lines') : Grows log log'' (lines ++ lines') where
  timed := h.timed.append h'.timed
  texts := by rw [h'.texts, h.texts, List.map_append, List.append_assoc]

theorem grows_write (c : Choices σ) (log : RaceLog σ) (text : String) :
    Grows log (log.write c text) [(log.time, text)] where
  timed := by
    have hlt := (c.pause log.source).1.isLt
    have hseconds : (log.write c text).time.seconds =
        log.time.seconds + (shortestPause + (c.pause log.source).1) := rfl
    rw [shortestPause] at hseconds
    have hleast : log.time.seconds + 30 ≤ (log.write c text).time.seconds := by omega
    have hmost : (log.write c text).time.seconds ≤ log.time.seconds + 90 := by omega
    exact .cons hleast hmost rfl .nil
  texts := by
    rw [RaceLog.write, List.reverse_cons]
    rfl

/-- **What is written down of an event.** -/
def eventText (race : Nat) : Nat × Event → String
  | (car, .started) => s!"race={race}, car={car}, event=STARTED"
  | (car, .lap lap) => s!"race={race}, car={car}, event=LAP, lapNum={lap}"
  | (car, .crashed) => s!"race={race}, car={car}, event=CRASHED"
  | (car, .finished) => s!"race={race}, car={car}, event=FINISHED"

/-- The text of an event stands behind the race and the car. -/
theorem eventText_eq (race : Nat) (e : Nat × Event) :
    eventText race e = s!"race={race}, car={e.1}, {e.2.text}" := by
  obtain ⟨car, event⟩ := e
  have hjoin {text more : String} (h : ", " ++ text = more) :
      s!"race={race}, car={car}" ++ more = s!"race={race}, car={car}, {text}" := by
    rw [← h, ← String.append_assoc]
    rfl
  cases event with
  | started => exact hjoin rfl
  | lap lap =>
    have hlap : ", " ++ ("event=LAP, lapNum=" ++ toString lap) =
        ", event=LAP, lapNum=" ++ toString lap := by
      rw [← String.append_assoc]
      rfl
    exact (String.append_assoc ..).trans (hjoin hlap)
  | crashed => exact hjoin rfl
  | finished => exact hjoin rfl

/-- What is written down of a race. -/
def raceText (race : Nat) (events : List (Nat × Event)) : List String :=
  s!"*** Race {race} ***" :: events.map (eventText race)

/-- **The events that the cars unfold into are written down.** -/
theorem runCars_unfolds (c : Choices σ) (race : Nat) (cars : List Car) (log : RaceLog σ) :
    ∃ events lines, Unfolds cars events ∧ Grows log (runCars c race cars log) lines ∧
      lines.map (·.2) = events.map (eventText race) := by
  fun_induction runCars c race cars log with
  | case1 cars log hover =>
    obtain rfl := List.length_eq_zero_iff.mp hover
    exact ⟨[], [], .ended, .refl log, rfl⟩
  | case2 cars log _ i source _ crash source' _ _ text ih =>
    obtain ⟨events, lines, hunfolds, hgrows, htexts⟩ := ih
    have hwrite : Grows log (RaceLog.write c { log with source := source' } text)
        [(log.time, text)] :=
      ⟨(grows_write c { log with source := source' } text).timed,
        (grows_write c { log with source := source' } text).texts⟩
    refine ⟨_, _, unfolds_of_replaceAt (List.getElem?_eq_getElem i.isLt) hunfolds,
      hwrite.trans hgrows, ?_⟩
    rw [List.map_append, htexts]
    exact congrArg (· :: events.map (eventText race)) (eventText_eq race (_, _)).symm

/-- **A race is told**: a header, and its story. -/
theorem runRace_told (c : Choices σ) (log : RaceLog σ) (race : Nat) :
    ∃ events lines, RaceStory events ∧ Grows log (runRace c log race) lines ∧
      lines.map (·.2) = raceText race events := by
  obtain ⟨events, lines, hunfolds, hgrows, htexts⟩ :=
    runCars_unfolds c race startingCars (log.write c s!"*** Race {race} ***")
  refine ⟨events, _, raceStory_of_unfolds hunfolds, (grows_write ..).trans hgrows, ?_⟩
  rw [List.map_append, htexts]
  rfl

/-- The log after some races. -/
def afterRaces (c : Choices σ) (log : RaceLog σ) (races : Nat) : RaceLog σ :=
  (List.range races).foldl (fun log i => runRace c log (i + 1)) log

theorem afterRaces_succ (c : Choices σ) (log : RaceLog σ) (races : Nat) :
    afterRaces c log (races + 1) = runRace c (afterRaces c log races) (races + 1) := by
  rw [afterRaces, List.range_succ, List.foldl_append]
  rfl

/-- **The races are told one after the other.** -/
theorem afterRaces_told (c : Choices σ) (log : RaceLog σ) (races : Nat) :
    ∃ (stories : List (List (Nat × Event))) (lines : List (Moment × String)),
      stories.length = races ∧ (∀ events ∈ stories, RaceStory events) ∧
      Grows log (afterRaces c log races) lines ∧
      lines.map (·.2) = (stories.mapIdx fun i events => raceText (i + 1) events).flatten := by
  induction races with
  | zero => exact ⟨[], [], rfl, List.forall_mem_nil _, .refl log, rfl⟩
  | succ races ih =>
    obtain ⟨stories, lines, rfl, hstories, hgrows, htexts⟩ := ih
    obtain ⟨events, lines', hstory, hgrows', htexts'⟩ :=
      runRace_told c (afterRaces c log stories.length) (stories.length + 1)
    refine ⟨stories ++ [events], lines ++ lines', List.length_append, ?_, ?_, ?_⟩
    · exact List.forall_mem_append.mpr ⟨hstories, List.forall_mem_singleton.mpr hstory⟩
    · rw [afterRaces_succ]
      exact hgrows.trans hgrows'
    · rw [List.map_append, htexts, htexts', List.mapIdx_concat, List.flatten_concat]

/-- **Some races are told in some texts**: each race has a story, and they are written down one
after the other from a time on. -/
structure Told (stories : List (List (Nat × Event))) (time : Moment) (texts : List String) :
    Prop where
  story : ∀ events ∈ stories, RaceStory events
  lines : ∃ lines last, Timed time lines last ∧ texts = lines.map written ∧
    lines.map (·.2) = (stories.mapIdx fun i events => raceText (i + 1) events).flatten

theorem raceTexts_told (c : Choices σ) (races : Nat) (source : σ) (time : Moment) :
    ∃ stories, stories.length = races ∧ Told stories time (raceTexts c races source time) := by
  obtain ⟨stories, lines, hlength, hstories, hgrows, htexts⟩ :=
    afterRaces_told c ⟨source, time, []⟩ races
  exact ⟨stories, hlength, hstories, lines, _, hgrows.timed, hgrows.texts, htexts⟩

/-- **Lines are as they are loaded**, with these texts and with numbers that follow a number. -/
structure Numbered (lines : List Line) (texts : List String) (number : Nat) : Prop where
  texts : lines.map (·.text) = texts
  numbers : lines.map (·.number) = List.range' (number + 1) lines.length
  loaded : ∀ l ∈ lines, l = Line.ofText l.text l.number

theorem numbered_mapIdx (texts : List String) (number : Nat) :
    Numbered (texts.mapIdx fun k text => Line.ofText text (number + k + 1)) texts number where
  texts := List.ext_getElem (by simp) fun k _ _ => by simp [Line.ofText]
  numbers := by
    refine List.ext_getElem (by simp) fun k _ _ => ?_
    rw [List.getElem_map, List.getElem_mapIdx, List.getElem_range', Nat.one_mul, Nat.add_right_comm]
    rfl
  loaded l hl := by
    obtain ⟨k, hk, rfl⟩ := List.mem_mapIdx.mp hl
    rfl

/-- **Races come to an end and tell a consistent story.** Whatever chance decides, so many races
are told in so many stories, one line after the other. In a race each of ten cars starts, comes into
one lap after the other up to some lap, at most the fifth, and then crashes, or finishes if it is
the fifth. That makes at least 20 and at most 60 events after the header. Each line is written down
30 to 90 seconds after the one before it, with a stamp that tells the second. The directive tells
its races from the current time on, in lines that follow those of the log and are numbered on from
its length. -/
theorem races_told :
    (∀ time time' : Moment, stamp time = stamp time' ↔ time.seconds = time'.seconds) ∧
    (∀ {σ : Type} (c : Choices σ) (races : Nat) (source : σ) (time : Moment),
      ∃ stories, stories.length = races ∧ Told stories time (raceTexts c races source time)) ∧
    ∀ (world : World) (w : Workspace) (races : Nat) (seed : Option Nat),
      let done := (Directive.demo races seed).perform world w
      done.problem = none ∧ done.workspace.settings = w.settings ∧
        ∃ stories texts lines, stories.length = races ∧ Told stories world.now texts ∧
          done.workspace.log = w.log ++ lines ∧ Numbered lines texts w.log.length := by
  refine ⟨fun _ _ => stamp_eq_iff, raceTexts_told, fun world w races seed => ⟨rfl, rfl, ?_⟩⟩
  obtain ⟨stories, hlength, htold⟩ :=
    raceTexts_told Demo.choices races (.ofSeed (seed.getD world.seed)) world.now
  exact ⟨stories, _, _, hlength, htold, rfl, numbered_mapIdx _ _⟩

end Demo

end LogSift
