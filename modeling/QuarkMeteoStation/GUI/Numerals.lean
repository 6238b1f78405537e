import QuarkMeteoStation.GUI.Text
import QuarkMeteoStation.Library.FixedPoint

namespace QuarkMeteoStation

open Library
open Library.Decimal

/-! The displayed numbers, read back as signed numerals with two decimals. -/

namespace HD44780

/-- The characters that follow each instruction. -/
def texts : List Write → List (List UInt8)
  | [] => []
  | write :: rest =>
      match write.mode with
      | .instruction =>
          ((rest.takeWhile fun next => next.mode = .character).map
            Write.byte) :: texts rest
      | .character => texts rest

theorem texts_writeString (text : List UInt8) (rest : List Write) :
    texts (writeString text ++ rest) = texts rest := by
  induction text with
  | nil => rfl
  | cons byte text induction => exact induction

theorem takeWhile_writeString (text : List UInt8) (rest : List Write) :
    ((writeString text ++ rest).takeWhile fun next =>
        next.mode = .character) =
      writeString text ++ rest.takeWhile fun next => next.mode = .character := by
  induction text with
  | nil => rfl
  | cons byte text induction =>
      simp only [writeString, List.map_cons, List.cons_append, writeChar]
        at induction ⊢
      rw [List.takeWhile_cons_of_pos (by simp), induction]

theorem bytes_writeString (text : List UInt8) :
    (writeString text).map Write.byte = text := by
  simp [writeString, writeChar, Function.comp_def]

theorem texts_last (command : UInt8) (text : List UInt8) :
    texts (writeCmd command :: writeString text) = [text] := by
  have whole := takeWhile_writeString text []
  have none := texts_writeString text []
  rw [List.append_nil] at whole none
  rw [texts, whole, none]
  simp [writeCmd, texts, bytes_writeString]

theorem texts_followed (command next : UInt8) (text : List UInt8)
    (rest : List Write) :
    texts (writeCmd command ::
        (writeString text ++ writeCmd next :: rest)) =
      text :: texts (writeCmd next :: rest) := by
  rw [texts, takeWhile_writeString, texts_writeString,
    List.takeWhile_cons_of_neg (by simp [writeCmd])]
  simp [writeCmd, bytes_writeString]

theorem value_zeros (count : Nat) (digits : List UInt8) :
    value (List.replicate count 48 ++ digits) = value digits := by
  induction count with
  | zero => rfl
  | succ count induction =>
      rw [List.replicate_succ, List.cons_append]
      exact induction

theorem parseNat?_integerText (number length : Nat) :
    parseNat? (integerText number length) = some number := by
  have digits : (integerText number length).all isDigit = true := by
    rw [integerText_of_nonneg, List.all_append, all_isDigit_numeral,
      Bool.and_true, List.all_replicate]
    split
    · rfl
    · decide
  have nonempty : integerText number length ≠ [] := by
    rw [integerText_of_nonneg]
    simp [numeral_ne_nil]
  rw [parseNat?, if_pos ⟨nonempty, digits⟩, integerText_of_nonneg, value_zeros,
    value_numeral]

end HD44780

namespace GUI

open HD44780

/-- A field shows a number of hundredths in front of its unit. -/
def Reads (text unit : List UInt8) (hundredths : Int) : Prop :=
  ∃ numeral, text = numeral ++ unit ∧
    FixedPoint.parse? 2 numeral = some hundredths

theorem reads_append_iff (text unit : List UInt8) (hundredths : Int) :
    Reads (text ++ unit) unit hundredths ↔
      FixedPoint.parse? 2 text = some hundredths := by
  constructor
  · rintro ⟨numeral, split, parsed⟩
    rw [List.append_cancel_right split]
    exact parsed
  · intro parsed
    exact ⟨text, rfl, parsed⟩

theorem parseMagnitude?_halves (whole : Nat) {part : Nat} (small : part < 100) :
    FixedPoint.parseMagnitude? 2
        (integerText whole 0 ++ 46 :: integerText part 2) =
      some (whole * 100 + part) := by
  rw [integerText_of_nonneg whole 0, Nat.zero_sub, List.replicate_zero,
    List.nil_append, FixedPoint.parseMagnitude?_numeral,
    if_pos (length_integerText_two small), parseNat?_integerText]
  rfl

theorem parse?_hundredthsText_of_nonneg (number : Nat) :
    FixedPoint.parse? 2 (hundredthsText number) = some (number : Int) := by
  have parsed := parseMagnitude?_halves (number / 100)
    (Nat.mod_lt number (show 100 > 0 by decide))
  rw [integerText_zero_padded] at parsed
  rw [hundredthsText_of_nonneg, FixedPoint.parse?_numeral, parsed,
    Option.map_some, Int.ofNat_eq_natCast, Option.some.injEq]
  omega

theorem parse?_hundredthsText_of_neg {number : Nat} (positive : 0 < number) :
    FixedPoint.parse? 2 (hundredthsText (-(number : Int))) =
      if 100 ∣ number then some (-(number : Int)) else none := by
  rw [hundredthsText_of_neg positive]
  by_cases whole : 100 ∣ number
  · have parsed := parseMagnitude?_halves (number / 100)
      (Nat.mod_lt number (show 100 > 0 by decide))
    rw [Nat.mod_eq_zero_of_dvd whole] at parsed ⊢
    rw [integerText_neg (by omega), List.cons_append, FixedPoint.parse?_minus,
      if_pos whole, show -((0 : Nat) : Int) = ((0 : Nat) : Int) from rfl,
      parsed, Option.map_some, Option.some.injEq]
    omega
  · have part : 0 < number % 100 := by omega
    have long : ¬(45 :: integerText (number % 100 : Nat) 2).length = 2 := by
      rw [List.length_cons,
        length_integerText_two (Nat.mod_lt number (by decide))]
      decide
    rw [integerText_neg part, if_neg whole]
    by_cases small : number / 100 = 0
    · rw [small, show -((0 : Nat) : Int) = ((0 : Nat) : Int) from rfl,
        integerText_zero_padded, FixedPoint.parse?_numeral,
        FixedPoint.parseMagnitude?_numeral, if_neg long, Option.map_none]
    · rw [integerText_neg (Nat.pos_of_ne_zero small), List.cons_append,
        FixedPoint.parse?_minus, integerText_zero_padded,
        FixedPoint.parseMagnitude?_numeral, if_neg long, Option.map_none]

/-- Both halves of a negative number print a minus sign of their own, unless one
of them is zero. -/
theorem parse?_hundredthsText (hundredths : Int) :
    FixedPoint.parse? 2 (hundredthsText hundredths) = some hundredths ↔
      0 ≤ hundredths ∨ 100 ∣ hundredths := by
  obtain ⟨number, rfl | rfl⟩ := hundredths.eq_nat_or_neg
  · rw [parse?_hundredthsText_of_nonneg]
    simp
  · rcases Nat.eq_zero_or_pos number with zero | positive
    · subst zero
      have parsed := parse?_hundredthsText_of_nonneg 0
      simpa using parsed
    · rw [parse?_hundredthsText_of_neg positive]
      have divides : 0 ≤ -(number : Int) ∨ (100 : Int) ∣ -(number : Int) ↔
          100 ∣ number := by omega
      rw [divides]
      split <;> simp_all

theorem parse?_outdoorNumeral (meas : DS18B20Meas)
    (fraction : meas.fraction.toNat ≤ 99) :
    FixedPoint.parse? 2 (outdoorNumeral meas) = some meas.hundredths := by
  have parsed := @parseMagnitude?_halves meas.integer.toNat
    meas.fraction.toNat (by omega)
  cases sign : meas.sign with
  | positive =>
      rw [outdoorNumeral, sign, signText, List.singleton_append,
        List.cons_append, FixedPoint.parse?_blank, parsed]
      simp [DS18B20Meas.hundredths, sign]
  | negative =>
      rw [outdoorNumeral, sign, signText, List.singleton_append,
        List.cons_append, FixedPoint.parse?_minus, parsed]
      simp [DS18B20Meas.hundredths, sign]

theorem exists_gotoxy_eq (config : Config) (x y : UInt8) :
    ∃ command, gotoxy config x y = [writeCmd command] :=
  ⟨_, rfl⟩

theorem texts_drawBMP280 (config : Config) (meas : BMP280Meas) :
    texts (drawBMP280 config meas) =
      [hundredthsText meas.temperature.toInt ++ ascii "C ",
        hundredthsText meas.pressure.toNat ++ ascii "hPa "] := by
  obtain ⟨first, upper⟩ := exists_gotoxy_eq config 1 4
  obtain ⟨second, lower⟩ := exists_gotoxy_eq config 2 4
  rw [drawBMP280, upper, lower, temperatureText_eq, pressureText_eq,
    List.append_assoc, List.append_assoc, List.singleton_append,
    List.singleton_append, texts_followed, texts_last]

theorem texts_drawDS18B20 (config : Config) (meas : DS18B20Meas) :
    texts (drawDS18B20 config meas) = [outdoorNumeral meas ++ ascii "C "] := by
  obtain ⟨command, moved⟩ := exists_gotoxy_eq config 1 14
  rw [drawDS18B20, moved, outdoorText_eq, List.singleton_append, texts_last]

theorem outdoorNumeral_injective : Function.Injective outdoorNumeral := by
  intro first second same
  have integers (meas : DS18B20Meas) : outdoorNumeral meas =
      signText meas.sign ++ (numeral meas.integer.toNat ++ 46 ::
        integerText meas.fraction.toNat 2) := by
    rw [outdoorNumeral, integerText_zero_padded, List.append_assoc]
  rw [integers, integers] at same
  have lengths : (signText first.sign).length =
      (signText second.sign).length := by
    cases first.sign <;> cases second.sign <;> rfl
  obtain ⟨signs, magnitudes⟩ := List.append_inj same lengths
  obtain ⟨whole, fractions⟩ := FixedPoint.numeral_point_inj magnitudes
  have part := congrArg parseNat? fractions
  rw [parseNat?_integerText, parseNat?_integerText, Option.some.injEq] at part
  have sign : first.sign = second.sign := by
    revert signs
    cases first.sign <;> cases second.sign <;> simp [signText]
  cases first
  cases second
  rw [DS18B20Meas.mk.injEq]
  exact ⟨sign, UInt8.toNat_inj.mp whole, UInt8.toNat_inj.mp part⟩

/-- An update tells two outdoor readings apart. -/
theorem update_eq_iff (config : Config) {first second : Shown}
    (bmp280Meas : first.bmp280Meas = second.bmp280Meas)
    (dht11Meas : first.dht11Meas = second.dht11Meas) :
    update config first = update config second ↔
      first.ds18b20Meas = second.ds18b20Meas := by
  obtain ⟨outdoor, moved⟩ := exists_gotoxy_eq config 1 14
  obtain ⟨humid, after⟩ := exists_gotoxy_eq config 2 18
  have fields (shown : Shown) :
      drawDS18B20 config shown.ds18b20Meas ++
          drawDHT11 config shown.dht11Meas =
        writeCmd outdoor ::
          (writeString (outdoorNumeral shown.ds18b20Meas ++ ascii "C ") ++
            writeCmd humid :: humidityText shown.dht11Meas.humidity) := by
    rw [drawDS18B20, drawDHT11, moved, after, outdoorText_eq]
    simp only [List.cons_append, List.nil_append]
  constructor
  · intro same
    rw [update, update, bmp280Meas, List.append_assoc, List.append_assoc,
      List.append_cancel_left_eq, fields, fields] at same
    have drawn := congrArg texts same
    rw [texts_followed, texts_followed] at drawn
    exact outdoorNumeral_injective
      (List.append_cancel_right (List.cons.inj drawn).1)
  · intro ds18b20Meas
    rw [update, update, bmp280Meas, ds18b20Meas, dht11Meas]

/-- What the two drawing functions write can be read back as what they were
given. -/
structure ShowsMeasured (config : Config) (bmp280Meas : BMP280Meas)
    (ds18b20Meas : DS18B20Meas) : Prop where
  bmp280 : ∃ temperature pressure,
    texts (drawBMP280 config bmp280Meas) = [temperature, pressure] ∧
      Reads temperature (ascii "C ") bmp280Meas.temperature.toInt ∧
      Reads pressure (ascii "hPa ") bmp280Meas.pressure.toNat
  ds18b20 : ∃ temperature,
    texts (drawDS18B20 config ds18b20Meas) = [temperature] ∧
      Reads temperature (ascii "C ") ds18b20Meas.hundredths

/-- The display is right about every temperature but the negative ones that are
not whole degrees indoors. -/
theorem showsMeasured_iff (config : Config) (bmp280Meas : BMP280Meas)
    (ds18b20Meas : DS18B20Meas) (fraction : ds18b20Meas.fraction.toNat ≤ 99) :
    ShowsMeasured config bmp280Meas ds18b20Meas ↔
      0 ≤ bmp280Meas.temperature.toInt ∨
        100 ∣ bmp280Meas.temperature.toInt := by
  have indoor := texts_drawBMP280 config bmp280Meas
  rw [← parse?_hundredthsText, ← reads_append_iff _ (ascii "C ")]
  constructor
  · intro shows
    obtain ⟨temperature, pressure, drawn, reads, -⟩ := shows.bmp280
    rw [indoor] at drawn
    rw [(List.cons.inj drawn).1]
    exact reads
  · intro reads
    refine ⟨⟨_, _, indoor, reads, ?_⟩, ⟨_, texts_drawDS18B20 config _, ?_⟩⟩
    · rw [reads_append_iff]
      exact parse?_hundredthsText_of_nonneg _
    · rw [reads_append_iff]
      exact parse?_outdoorNumeral ds18b20Meas fraction

theorem showsMeasured_iff_frost :
    ShowsMeasured Config.configured ⟨101325, -5⟩ ⟨.negative, 3, 75⟩ ↔
      0 ≤ (-5 : Int32).toInt ∨ 100 ∣ (-5 : Int32).toInt :=
  showsMeasured_iff _ ⟨101325, -5⟩ ⟨.negative, 3, 75⟩ (by decide)

theorem not_showsMeasured_below_zero :
    ¬ ∀ (config : Config) (bmp280Meas : BMP280Meas)
        (ds18b20Meas : DS18B20Meas),
        -2 ^ 31 < bmp280Meas.temperature.toInt →
          bmp280Meas.pressure.toNat < 2 ^ 31 →
            ds18b20Meas.fraction.toNat ≤ 99 →
              ShowsMeasured config bmp280Meas ds18b20Meas := by
  intro shows
  obtain ⟨temperature, pressure, drawn, reads, -⟩ :=
    (shows Config.configured ⟨101325, -5⟩ ⟨.positive, 0, 0⟩ (by decide)
      (by decide) (by decide)).bmp280
  rw [texts_drawBMP280] at drawn
  rw [← (List.cons.inj drawn).1, reads_append_iff,
    parse?_hundredthsText] at reads
  exact absurd reads (by decide)

end GUI

end QuarkMeteoStation
