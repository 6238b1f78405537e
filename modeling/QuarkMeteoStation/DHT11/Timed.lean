import QuarkMeteoStation.DHT11.Frames
import QuarkMeteoStation.Onewire.Slots

namespace QuarkMeteoStation

/-! `DHT11.c` with its delays: the moments at which the driver looks at the line
depend on what it has seen. Without the delays it is the driver itself. -/

namespace DHT11

open Onewire (Clock)

/-- The driver at work, by the clock. -/
structure Watch where
  now : Nat
  /-- The accesses and waits so far. -/
  steps : Nat
  line : Nat → QmGpioState
  samples : List QmGpioState

namespace Watch

section Driver

variable (clock : Clock) (pace : Nat → Nat)

/-- The least that a step takes, and how much longer it does take. -/
def spend (watch : Watch) (least : Nat) : Watch :=
  { watch with
    now := watch.now + least + pace watch.steps
    steps := watch.steps + 1 }

def udelay (watch : Watch) (microseconds : Nat) : Watch :=
  watch.spend pace (clock.ticksPerUs * microseconds)

def readPin (watch : Watch) : QmGpioState × Watch :=
  let watch := watch.spend pace clock.access
  let response := watch.line watch.now
  (response, { watch with samples := watch.samples ++ [response] })

/-- The sensor answers to the length of the pulse, from its end on. -/
def reset (sensor : Nat → Nat → QmGpioState) (watch : Watch) :
    Detect × Watch :=
  let watch := watch.spend pace clock.access
  let begun := watch.now
  let watch := watch.udelay clock pace (20 * 1000)
  let watch := watch.spend pace clock.access
  let pulse := watch.now - begun
  let watch := { watch with now := 0, line := sensor pulse }
  let watch := watch.udelay clock pace 40
  let (response, watch) := watch.readPin clock pace
  let watch := watch.udelay clock pace 145
  (if response = .low then .present else .absent, watch)

def synchroLoop : Nat → QmGpioState → Watch → Watch
  | 0, _, watch => watch
  | timeout + 1, response, watch =>
      if response = .high then
        let (response, watch) := watch.readPin clock pace
        synchroLoop timeout response watch
      else watch

def readBits : Nat → DataFrame → Watch → DataFrame × Watch
  | 0, frame, watch => (frame, watch)
  | remaining + 1, frame, watch =>
      let frame : DataFrame := ⟨frame.rawData <<< 1⟩
      let watch := watch.udelay clock pace 74
      let (response, watch) := watch.readPin clock pace
      if response = .high then
        let frame : DataFrame := ⟨frame.rawData ||| 0x01⟩
        let watch :=
          watch.synchroLoop clock pace synchroLoopTimeout.toNat response
        readBits remaining frame watch
      else readBits remaining frame watch

def readDataFrame (sensor : Nat → Nat → QmGpioState) (frame : DataFrame)
    (watch : Watch) : Detect × DataFrame × Watch :=
  match watch.reset clock pace sensor with
  | (.absent, watch) => (.absent, frame, watch)
  | (.present, watch) =>
      let (frame, watch) := watch.readBits clock pace frameLength frame
      (.present, frame, watch)

end Driver

section Shown

variable {clock : Clock} {pace : Nat → Nat}

/-- The driver without its delays, on a port that shows what was seen. -/
theorem synchroLoop_shown (timeout : Nat) (response : QmGpioState)
    (watch : Watch) :
    ∃ taken, (watch.synchroLoop clock pace timeout response).samples =
        watch.samples ++ taken ∧
      ∀ (port : Port) (later : List QmGpioState),
        port.Shows (taken ++ later) →
          (DHT11.synchroLoop timeout response port).Shows later := by
  induction timeout generalizing response watch with
  | zero => exact ⟨[], (List.append_nil _).symm, fun _ _ shows => shows⟩
  | succ timeout induction =>
      by_cases high : response = .high
      · obtain ⟨taken, samples, shown⟩ := induction
          (watch.readPin clock pace).1 (watch.readPin clock pace).2
        refine ⟨(watch.readPin clock pace).1 :: taken, ?_, ?_⟩
        · rw [synchroLoop, if_pos high]
          exact samples.trans (List.append_assoc _ _ _)
        · intro port later shows
          obtain ⟨level, rest⟩ := shows.readPin
          rw [DHT11.synchroLoop, if_pos high]
          rw [← level] at shown
          exact shown _ later rest
      · refine ⟨[], ?_, fun port later shows => ?_⟩
        · rw [synchroLoop, if_neg high, List.append_nil]
        · rwa [DHT11.synchroLoop, if_neg high]

theorem readBits_shown (remaining : Nat) (frame : DataFrame) (watch : Watch) :
    ∃ taken, (watch.readBits clock pace remaining frame).2.samples =
        watch.samples ++ taken ∧
      ∀ port : Port, port.Shows taken →
        (DHT11.readBits remaining frame port).1 =
          (watch.readBits clock pace remaining frame).1 := by
  induction remaining generalizing frame watch with
  | zero => exact ⟨[], (List.append_nil _).symm, fun _ _ => rfl⟩
  | succ remaining induction =>
      let looked := (watch.udelay clock pace 74).readPin clock pace
      by_cases high : looked.1 = .high
      · obtain ⟨polled, polledSamples, waited⟩ := @synchroLoop_shown clock pace
          synchroLoopTimeout.toNat looked.1 looked.2
        obtain ⟨taken, samples, shown⟩ := induction
          ⟨frame.rawData <<< 1 ||| 0x01⟩
          (looked.2.synchroLoop clock pace synchroLoopTimeout.toNat looked.1)
        have unfolded : watch.readBits clock pace (remaining + 1) frame =
            (looked.2.synchroLoop clock pace synchroLoopTimeout.toNat
              looked.1).readBits clock pace remaining
                ⟨frame.rawData <<< 1 ||| 0x01⟩ := by
          rw [readBits]
          exact if_pos high
        refine ⟨looked.1 :: (polled ++ taken), ?_, ?_⟩
        · rw [unfolded, samples, polledSamples]
          simp [looked, readPin, udelay, spend]
        · intro port shows
          obtain ⟨level, rest⟩ := shows.readPin
          have later := waited _ taken rest
          rw [unfolded, ← shown _ later, DHT11.readBits]
          simp only [level, if_pos high]
      · obtain ⟨taken, samples, shown⟩ := induction ⟨frame.rawData <<< 1⟩
          looked.2
        have unfolded : watch.readBits clock pace (remaining + 1) frame =
            looked.2.readBits clock pace remaining ⟨frame.rawData <<< 1⟩ := by
          rw [readBits]
          exact if_neg high
        refine ⟨looked.1 :: taken, ?_, ?_⟩
        · rw [unfolded, samples]
          simp [looked, readPin, udelay, spend]
        · intro port shows
          obtain ⟨level, rest⟩ := shows.readPin
          rw [unfolded, ← shown _ rest, DHT11.readBits]
          simp only [level, if_neg high]

theorem reset_shown (config : Config) (sensor : Nat → Nat → QmGpioState)
    (watch : Watch) :
    ∃ level, (watch.reset clock pace sensor).2.samples =
        watch.samples ++ [level] ∧
      ∀ (port : Port) (later : List QmGpioState), port.Shows (level :: later) →
        (DHT11.reset config port).1 = (watch.reset clock pace sensor).1 ∧
          (DHT11.reset config port).2.Shows later := by
  refine ⟨_, rfl, fun port later shows => ?_⟩
  have ready : (pinSetDirection config .input
      (pinSetDirection config .output port)).Shows (_ :: later) := shows
  obtain ⟨level, rest⟩ := ready.readPin
  refine ⟨?_, rest⟩
  unfold DHT11.reset
  dsimp only
  rw [level]
  rfl

/-- What the driver makes of the line, it makes of the levels it has looked
at. -/
theorem readDataFrame_shown (config : Config)
    (sensor : Nat → Nat → QmGpioState) (frame : DataFrame) (watch : Watch) :
    ∃ taken, (watch.readDataFrame clock pace sensor frame).2.2.samples =
        watch.samples ++ taken ∧
      ∀ port : Port, port.Shows taken →
        (DHT11.readDataFrame config frame port).1 =
            (watch.readDataFrame clock pace sensor frame).1 ∧
          (DHT11.readDataFrame config frame port).2.1 =
            (watch.readDataFrame clock pace sensor frame).2.1 := by
  obtain ⟨level, begun, answers⟩ :=
    @reset_shown clock pace config sensor watch
  unfold readDataFrame DHT11.readDataFrame
  rcases answered : watch.reset clock pace sensor with ⟨detect, listening⟩
  rw [answered] at begun answers
  cases detect with
  | absent =>
      refine ⟨[level], begun, fun port shows => ?_⟩
      obtain ⟨detect, -⟩ := answers port [] shows
      rcases reached : DHT11.reset config port with ⟨found, after⟩
      rw [reached] at detect
      obtain rfl : found = .absent := detect
      exact ⟨rfl, rfl⟩
  | present =>
      obtain ⟨taken, samples, shown⟩ :=
        @readBits_shown clock pace frameLength frame listening
      refine ⟨level :: taken, ?_, fun port shows => ?_⟩
      · refine samples.trans ?_
        rw [begun, List.append_assoc]
        rfl
      obtain ⟨detect, rest⟩ := answers port taken shows
      rcases reached : DHT11.reset config port with ⟨found, after⟩
      rw [reached] at detect rest
      obtain rfl : found = .present := detect
      exact ⟨rfl, shown after rest⟩

end Shown

end Watch

end DHT11

end QuarkMeteoStation
