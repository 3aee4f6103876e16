import Sope.Forensic.Record
import Sope.Lib.Buffer
import Sope.Lib.Fields

set_option autoImplicit false

/- What the timestamps of a record say (`convert_timespec_to_string`), and the arrays that
they are written to. -/
namespace Sope.Forensic

open Banking CharArray

/-- The ranges that `localtime_r` keeps to, for the years 1900 to 9999. -/
structure Tm.InRange (tm : Tm) : Prop where
  year : 0 ≤ tm.tmYear ∧ tm.tmYear ≤ 8099
  mon : 0 ≤ tm.tmMon ∧ tm.tmMon ≤ 11
  mday : 1 ≤ tm.tmMday ∧ tm.tmMday ≤ 31
  hour : 0 ≤ tm.tmHour ∧ tm.tmHour ≤ 23
  min : 0 ≤ tm.tmMin ∧ tm.tmMin ≤ 59
  sec : 0 ≤ tm.tmSec ∧ tm.tmSec ≤ 60

/-- The same ranges for every year of four digits. -/
structure Tm.Valid (tm : Tm) : Prop where
  year : 1000 ≤ 1900 + tm.tmYear ∧ 1900 + tm.tmYear ≤ 9999
  mon : 0 ≤ tm.tmMon ∧ tm.tmMon ≤ 11
  mday : 1 ≤ tm.tmMday ∧ tm.tmMday ≤ 31
  hour : 0 ≤ tm.tmHour ∧ tm.tmHour ≤ 23
  min : 0 ≤ tm.tmMin ∧ tm.tmMin ≤ 59
  sec : 0 ≤ tm.tmSec ∧ tm.tmSec ≤ 60

theorem Tm.InRange.valid {tm : Tm} (inRange : tm.InRange) : tm.Valid where
  year := by
    have := inRange.year
    omega
  mon := inRange.mon
  mday := inRange.mday
  hour := inRange.hour
  min := inRange.min
  sec := inRange.sec

/-- Year, month (from 1 on), day, hour, minute and second. -/
def Tm.calendar (tm : Tm) : List Nat :=
  [(1900 + tm.tmYear).toNat, (1 + tm.tmMon).toNat, tm.tmMday.toNat, tm.tmHour.toNat,
    tm.tmMin.toNat, tm.tmSec.toNat]

/-- The fields of a timestamp behind the year, each with the separator before it. -/
def Tm.fields (tm : Tm) : List (Char × Nat) :=
  [('-', tm.tmMon.toNat), ('-', tm.tmMday.toNat), ('T', tm.tmHour.toNat), (':', tm.tmMin.toNat),
    (':', tm.tmSec.toNat)]

/-- A timestamp read as year-month-dayThour:minute:second. -/
def readTimestamp (text : CString) : Option (List Nat) := Fields.read ['-', '-', 'T', ':', ':'] text

theorem decimal_of_nonneg {value : Int} (nonneg : 0 ≤ value) :
    decimal value = Nat.toDigits 10 value.toNat := by
  rw [decimal, if_neg (Int.not_lt.mpr nonneg)]
  congr 1
  omega

section Times

variable {tools : Tools} {org org' : Int}

theorem fields_separate (tm : Tm) : ∀ field ∈ tm.fields, field.1.isDigit = false := by
  simp [Tm.fields]

/-- A timestamp is made of the year and five fields. -/
theorem convert_eq_print (inRange : (tools.localtime org).InRange) :
    convertTimespecToString tools org =
      Fields.print (1900 + (tools.localtime org).tmYear).toNat (tools.localtime org).fields := by
  have year : 0 ≤ 1900 + (tools.localtime org).tmYear := by
    have := inRange.year
    omega
  have mday : 0 ≤ (tools.localtime org).tmMday := by
    have := inRange.mday
    omega
  simp only [convertTimespecToString, decimal_of_nonneg year, decimal_of_nonneg inRange.mon.1,
    decimal_of_nonneg mday, decimal_of_nonneg inRange.hour.1, decimal_of_nonneg inRange.min.1,
    decimal_of_nonneg inRange.sec.1, Tm.fields, Fields.print, List.append_assoc, List.cons_append]

/-- The month that is read is the number from 0 on. -/
theorem readTimestamp_convert (inRange : (tools.localtime org).InRange) :
    readTimestamp (convertTimespecToString tools org) =
      some ((1900 + (tools.localtime org).tmYear).toNat ::
        (tools.localtime org).fields.map Prod.snd) := by
  rw [convert_eq_print inRange]
  exact Fields.read_print _ _ (fields_separate _)

/-- No timestamp denotes the date it is made of. -/
theorem readTimestamp_ne_calendar (tools : Tools) (org : Int)
    (inRange : (tools.localtime org).InRange) :
    readTimestamp (convertTimespecToString tools org) ≠ some (tools.localtime org).calendar := by
  rw [readTimestamp_convert inRange]
  intro same
  have mon := inRange.mon
  have months := (List.cons.inj (List.cons.inj (Option.some.inj same)).2).1
  omega

end Times

/-- The start of the epoch, as `localtime_r` gives it in UTC. -/
def epochTools : Tools where
  popen _ := none
  localtime _ := ⟨70, 0, 1, 0, 0, 0⟩
  isatty := true

theorem epoch_inRange : (epochTools.localtime 0).InRange where
  year := by decide
  mon := by decide
  mday := by decide
  hour := by decide
  min := by decide
  sec := by decide

/-- The timestamp is `1970-0-1T0:0:0`. -/
theorem epoch_month_zero :
    (epochTools.localtime 0).InRange ∧
      readTimestamp (convertTimespecToString epochTools 0) = some [1970, 0, 1, 0, 0, 0] ∧
      (epochTools.localtime 0).calendar ≠ [1970, 0, 1, 0, 0, 0] :=
  ⟨epoch_inRange, readTimestamp_convert epoch_inRange, by decide⟩

theorem epoch_ne_calendar :
    readTimestamp (convertTimespecToString epochTools 0) ≠
      some (epochTools.localtime 0).calendar :=
  readTimestamp_ne_calendar epochTools 0 epoch_inRange

/-- `char mod_time[19]` and `char acc_time[19]`. -/
def timeSize : Nat := 19

/-- The timestamp is written to an array of the caller, which is not told to
`convert_timespec_to_string`. -/
def Arrays.convertTimespecToString {n : Nat} (tools : Tools) (org : Int) (dest : Buffer n) :
    Option (Buffer n) :=
  dest.copy 0 (Forensic.convertTimespecToString tools org)

section Lengths

variable {tools : Tools} {org value : Int}

theorem length_decimal_le_iff (nonneg : 0 ≤ value) {width : Nat} (positive : 0 < width) :
    (decimal value).length ≤ width ↔ value < 10 ^ width := by
  rw [decimal_of_nonneg nonneg, Nat.length_toDigits_le_iff (by decide) positive,
    Int.toNat_lt nonneg]
  norm_cast

/-- A number below 100 takes one character or two. -/
theorem length_decimal_of_lt (nonneg : 0 ≤ value) (small : value < 100) :
    (decimal value).length ≤ 2 ∧ ((decimal value).length < 2 ↔ value < 10) := by
  have one : (decimal value).length ≤ 1 ↔ value < 10 ^ 1 :=
    length_decimal_le_iff nonneg (by decide)
  have two : (decimal value).length ≤ 2 ↔ value < 10 ^ 2 :=
    length_decimal_le_iff nonneg (by decide)
  omega

theorem length_year (valid : (tools.localtime org).Valid) :
    (decimal (1900 + (tools.localtime org).tmYear)).length = 4 := by
  obtain ⟨first, last⟩ := valid.year
  have nonneg : 0 ≤ 1900 + (tools.localtime org).tmYear := by omega
  have three : (decimal (1900 + (tools.localtime org).tmYear)).length ≤ 3 ↔
      1900 + (tools.localtime org).tmYear < 10 ^ 3 := length_decimal_le_iff nonneg (by decide)
  have four : (decimal (1900 + (tools.localtime org).tmYear)).length ≤ 4 ↔
      1900 + (tools.localtime org).tmYear < 10 ^ 4 := length_decimal_le_iff nonneg (by decide)
  omega

theorem length_convert (valid : (tools.localtime org).Valid) :
    (convertTimespecToString tools org).length =
      9 + (decimal (tools.localtime org).tmMon).length +
        (decimal (tools.localtime org).tmMday).length +
        (decimal (tools.localtime org).tmHour).length +
        (decimal (tools.localtime org).tmMin).length +
        (decimal (tools.localtime org).tmSec).length := by
  simp only [convertTimespecToString, List.length_append, List.length_cons, length_year valid]
  omega

end Lengths

/-- A timestamp and its terminator fit exactly if one of the fields behind the year has one
digit. -/
theorem timestamp_inside_iff (tools : Tools) (org : Int) (valid : (tools.localtime org).Valid)
    (dest : Buffer timeSize) :
    (Arrays.convertTimespecToString tools org dest).isSome ↔
      (tools.localtime org).tmMon < 10 ∨ (tools.localtime org).tmMday < 10 ∨
        (tools.localtime org).tmHour < 10 ∨ (tools.localtime org).tmMin < 10 ∨
        (tools.localtime org).tmSec < 10 := by
  have length := length_convert valid
  obtain ⟨-, mon, mday, hour, min, sec⟩ := valid
  have day : 0 ≤ (tools.localtime org).tmMday := by omega
  have monLength := length_decimal_of_lt mon.1 (by omega)
  have mdayLength := length_decimal_of_lt day (by omega)
  have hourLength := length_decimal_of_lt hour.1 (by omega)
  have minLength := length_decimal_of_lt min.1 (by omega)
  have secLength := length_decimal_of_lt sec.1 (by omega)
  rw [Arrays.convertTimespecToString, copy_isSome_iff, length, timeSize]
  omega

def blankTime : Buffer timeSize := ⟨List.replicate timeSize ' ', List.length_replicate⟩

/-- The timestamp `1970-0-1T0:0:0` fits. -/
theorem epoch_inside_iff :
    (epochTools.localtime 0).Valid ∧
      ((Arrays.convertTimespecToString epochTools 0 blankTime).isSome ↔
        (epochTools.localtime 0).tmMon < 10 ∨ (epochTools.localtime 0).tmMday < 10 ∨
          (epochTools.localtime 0).tmHour < 10 ∨ (epochTools.localtime 0).tmMin < 10 ∨
          (epochTools.localtime 0).tmSec < 10) :=
  ⟨epoch_inRange.valid,
    timestamp_inside_iff epochTools 0 epoch_inRange.valid blankTime⟩

/-- The afternoon of the 25th of December 2019. -/
def decemberTools : Tools := { epochTools with localtime := fun _ => ⟨119, 11, 25, 15, 17, 37⟩ }

theorem december_valid : (decemberTools.localtime 0).Valid where
  year := by decide
  mon := by decide
  mday := by decide
  hour := by decide
  min := by decide
  sec := by decide

/-- The timestamp `2019-11-25T15:17:37` leaves no room for the terminator. -/
theorem december_outside :
    (decemberTools.localtime 0).Valid ∧
      convertTimespecToString decemberTools 0 =
        ['2', '0', '1', '9', '-', '1', '1', '-', '2', '5', 'T', '1', '5', ':', '1', '7', ':',
          '3', '7'] ∧
      ¬ (convertTimespecToString decemberTools 0).length + 1 ≤ timeSize ∧
      ¬ (Arrays.convertTimespecToString decemberTools 0 blankTime).isSome :=
  ⟨december_valid, by decide, by decide, by decide⟩

end Sope.Forensic
