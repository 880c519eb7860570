import LogSift.Clock.DateFormat
import LogSift.Demo.Permuted
import LogSift.Log.Basic

/-!
# Races

A demonstration log tells of car races. In each, ten cars start, drive laps and crash or finish,
in an order that chance decides. `Choices` is all that chance has a say in; the story of a race
holds whatever it says, and a race ends because every event brings its car closer to its end.
-/

namespace LogSift.Demo

/-- What chance decides, with a source whose state is of a type. -/
structure Choices (σ : Type) where
  /-- One of several cars. -/
  car : (count : Nat) → 0 < count → σ → Fin count × σ
  /-- Does the car crash? -/
  crash : σ → Bool × σ
  /-- The time that passes after an event, beyond the shortest. -/
  pause : σ → Fin 61 × σ

/-- The choices of a generator. -/
def choices : Choices Permuted where
  car count h g := let (n, g) := g.small count; (⟨n % count, Nat.mod_lt n h⟩, g)
  crash g := g.isBelow 1844674407370955264
  pause g := let (n, g) := g.large 61; (Fin.ofNat 61 n, g)

/-- The number of cars in a race. -/
def carCount : Nat := 10

/-- The number of laps in a race. -/
def lapCount : Nat := 5

/-- The shortest time between two events, in seconds. -/
def shortestPause : Nat := 30

/-- A car in a race. -/
structure Car where
  number : Nat
  /-- Its lap, once it has started. -/
  lap : Option Nat
deriving DecidableEq, Repr

/-- What happens to a car. -/
inductive Event
  | started
  | lap (number : Nat)
  | crashed
  | finished
deriving DecidableEq, Repr

/-- The text of an event. -/
def Event.text : Event → String
  | started => "event=STARTED"
  | lap number => s!"event=LAP, lapNum={number}"
  | crashed => "event=CRASHED"
  | finished => "event=FINISHED"

/-- More than the number of events that a car has before it. -/
def Car.ahead (c : Car) : Nat :=
  match c.lap with
  | none => lapCount + 2
  | some lap => lapCount + 1 - min lap lapCount

/-- What happens next to a car, and the car after that, if it is still in the race. -/
def Car.next (c : Car) (crash : Bool) : Event × Option Car :=
  match c.lap with
  | none => (.started, some { c with lap := some 1 })
  | some lap =>
    if crash then (.crashed, none)
    else if lapCount ≤ lap then (.finished, none)
    else (.lap (lap + 1), some { c with lap := some (lap + 1) })

/-- The cars with one of them replaced, or taken out. -/
def replaceAt (cars : List Car) (i : Nat) (car : Option Car) : List Car :=
  cars.take i ++ car.toList ++ cars.drop (i + 1)

/-- The events ahead of several cars. -/
def ahead : List Car → Nat
  | [] => 0
  | c :: cars => c.ahead + ahead cars

theorem ahead_append (cars others : List Car) :
    ahead (cars ++ others) = ahead cars + ahead others := by
  induction cars with
  | nil => simp [ahead]
  | cons c cars ih =>
    simp only [List.cons_append, ahead, ih]
    omega

theorem ahead_next_lt (c : Car) (crash : Bool) : ahead (c.next crash).2.toList < c.ahead := by
  unfold Car.next Car.ahead
  cases h : c.lap with
  | none => simp [ahead, Car.ahead, lapCount]
  | some lap =>
    cases crash
    · by_cases hl : lapCount ≤ lap
      · simp only [hl, Bool.false_eq_true, ↓reduceIte, Option.toList_none, ahead]
        unfold lapCount
        omega
      · simp only [hl, Bool.false_eq_true, ↓reduceIte, Option.toList_some, ahead, Car.ahead]
        unfold lapCount at *
        omega
    · simp only [↓reduceIte, Option.toList_none, ahead]
      unfold lapCount
      omega

theorem ahead_replaceAt_lt (cars : List Car) (i : Fin cars.length) (crash : Bool) :
    ahead (replaceAt cars i ((cars[i]).next crash).2) < ahead cars := by
  have hlt := ahead_next_lt cars[i] crash
  have hcars : cars = cars.take i ++ cars[i] :: cars.drop (i + 1) := by simp
  have hsum : ahead cars =
      ahead (cars.take i) + (cars[i].ahead + ahead (cars.drop (i + 1))) := by
    conv => lhs; rw [hcars]
    rw [ahead_append, ahead]
  rw [hsum, replaceAt, ahead_append, ahead_append]
  omega

/-- The log of races as it grows. -/
structure RaceLog (σ : Type) where
  source : σ
  time : Moment
  /-- Its lines, the last one first. -/
  texts : List String

/-- How a time is written down. -/
def stamp (time : Moment) : String := time.format "%Y-%m-%d %H:%M:%S"

/-- Writes down a line, and lets some time pass. -/
def RaceLog.write {σ : Type} (c : Choices σ) (log : RaceLog σ) (text : String) : RaceLog σ :=
  let (pause, source) := c.pause log.source
  { source
    time := log.time.later (shortestPause + pause)
    texts := s!"[{stamp log.time}] {text}" :: log.texts }

/-- Does a car that has started crash? Only such a car takes the chance. -/
def takesChance {σ : Type} (c : Choices σ) (car : Car) (source : σ) : Bool × σ :=
  match car.lap with
  | none => (false, source)
  | some _ => c.crash source

/-- A race with some cars left in it. -/
def runCars {σ : Type} (c : Choices σ) (race : Nat) (cars : List Car) (log : RaceLog σ) :
    RaceLog σ :=
  if h : cars.length = 0 then log
  else
    let (i, source) := c.car cars.length (Nat.pos_of_ne_zero h) log.source
    let (crash, source) := takesChance c cars[i] source
    have := ahead_replaceAt_lt cars i crash
    let text := s!"race={race}, car={cars[i].number}, {(cars[i].next crash).1.text}"
    runCars c race (replaceAt cars i (cars[i].next crash).2) ({ log with source }.write c text)
termination_by ahead cars

/-- The cars before a race. -/
def startingCars : List Car := (List.range carCount).map fun i => ⟨i + 1, none⟩

/-- A race. -/
def runRace {σ : Type} (c : Choices σ) (log : RaceLog σ) (race : Nat) : RaceLog σ :=
  runCars c race startingCars (log.write c s!"*** Race {race} ***")

/-- The lines of a number of races. -/
def raceTexts {σ : Type} (c : Choices σ) (races : Nat) (source : σ) (time : Moment) : List String :=
  ((List.range races).foldl (fun log i => runRace c log (i + 1)) ⟨source, time, []⟩).texts.reverse

end LogSift.Demo
