import EmsCollector.Collector.CommandHandlerProof.LineFraming
import EmsCollector.Collector.EmsMessageProof.Fields
import EmsCollector.Collector.ValueApiProof.Decimal
import EmsCollector.Misc.Calendar

/-!
# Setting the clock

`rc settime` sends the time it has read as a `SystemTimeRecord`, whose year has seven bits and is
counted from 2000. The same record comes from the RC and is printed as a value.
-/

namespace EmsCollector

/-- A time that `boost::posix_time` can represent. -/
structure CalendarTime extends Date where
  hours : Nat
  minutes : Nat
  seconds : Nat
  year_range : 1400 ≤ year ∧ year ≤ 9999
  hours_lt : hours < 24
  minutes_lt : minutes < 60
  seconds_lt : seconds < 60

/-- The weekday of `boost::gregorian`, counted from Monday, is that of the calendar. -/
theorem ApiCommandParser.dayOfWeek_weekday (d : Date) :
    (dayOfWeek d.year d.month d.day + 6) % 7 = d.weekday := by
  obtain ⟨year, month, day, year_pos, ⟨month_pos, month_le⟩, day_pos, -⟩ := d
  unfold Date.weekday Date.daysBefore dayOfWeek
  dsimp only
  rw [Date.sum_daysInMonth _ ⟨month_pos, month_le⟩]
  rcases Nat.lt_or_ge 2 month with late | early
  · have shift : (14 - month) / 12 = 0 := by omega
    have before := Date.sum_daysInYear year
    rw [Finset.sum_Ico_succ_top year_pos] at before
    have centuries : year / 100 ≤ year := Nat.div_le_self ..
    simp only [shift, Nat.sub_zero, Nat.mul_zero, Nat.add_zero, if_neg (Nat.not_le_of_lt late)]
    by_cases leap : LeapYear year
    · have days : daysInYear year = 366 := if_pos leap
      rw [if_pos leap]
      omega
    · have days : daysInYear year = 365 := if_neg leap
      rw [if_neg leap]
      omega
  · have shift : (14 - month) / 12 = 1 := by omega
    have before := Date.sum_daysInYear (year - 1)
    have centuries : (year - 1) / 100 ≤ year - 1 := Nat.div_le_self ..
    rw [Nat.sub_add_cancel year_pos] at before
    rw [shift, if_pos early]
    obtain rfl | rfl : month = 1 ∨ month = 2 := by omega
    · omega
    · omega

namespace CalendarTime

open ApiCommandParser

/-- The extracted `ptime`. -/
def ptime (c : CalendarTime) : Ptime := .time c.year c.month c.day c.hours c.minutes c.seconds

/-- A time as values are printed. -/
def text (c : CalendarTime) : String :=
  formatDec 4 c.year ++ "-" ++ formatDec 2 c.month ++ "-" ++
    formatDec 2 c.day ++ " " ++ formatDec 2 c.hours ++ ":" ++
    formatDec 2 c.minutes ++ ":" ++ formatDec 2 c.seconds

/-- The record prints as the time, and its weekday is that of the date. -/
structure Represents (record : SystemTimeRecord) (c : CalendarTime) : Prop where
  shown : ValueApi.formatValue (.ofSystemTime .systemZeit .none record) = .ok c.text
  weekday : record.dayOfWeek.toNat = c.weekday

/-- Some record, read from eight bytes, represents the time. -/
def Representable (c : CalendarTime) : Prop :=
  ∃ bytes, ∃ record ∈ SystemTimeRecord.read bytes, Represents record c

/-- The record of `rc settime`. -/
def record (c : CalendarTime) : SystemTimeRecord where
  common := .ofBytes (UInt8.ofNat ((((c.year : Int) - 2000) % 128).toNat)) (UInt8.ofNat c.month)
    (UInt8.ofNat c.hours) (UInt8.ofNat c.day) (UInt8.ofNat c.minutes)
  second := UInt8.ofNat c.seconds
  dayOfWeek := UInt8.ofNat ((dayOfWeek c.year c.month c.day + 6) % 7)
  flags := 0

/-- The bytes of `rc settime`. -/
def bytes (c : CalendarTime) : List UInt8 :=
  systemTimeBytes c.year c.month c.day c.hours c.minutes c.seconds

/-- The telegram of `rc settime`. -/
def telegram (c : CalendarTime) : EmsMessage :=
  .send EmsProto.addressUI800 0x06 0 c.bytes false

theorem bytes_read (c : CalendarTime) : SystemTimeRecord.read c.bytes = some c.record := rfl

theorem parse_telegram (c : CalendarTime) (values : List EmsValue) :
    c.telegram.parseRCTimeMessage values =
      .ok ((), values ++ [.ofSystemTime .systemZeit .none c.record]) :=
  EmsMessage.emits_parseRCTimeMessage c.telegram values

theorem day_le (c : CalendarTime) : c.day ≤ 31 := by
  refine c.day_range.2.trans ?_
  unfold daysInMonth
  split
  · split <;> decide
  all_goals decide

/-- The year is in the low seven bits. -/
theorem sevenBits (year : Int) :
    (UInt8.ofNat (year % 128).toNat &&& 0x7f).toNat = (year % 128).toNat := by
  have small : (year % 128).toNat < 128 := by omega
  rw [UInt8.toNat_and, UInt8.toNat_ofNat']
  show (year % 128).toNat % 2 ^ 8 &&& 2 ^ 7 - 1 = _
  rw [Nat.and_two_pow_sub_one_eq_mod]
  omega

theorem year_lt {bytes : List UInt8} {record : SystemTimeRecord}
    (read : SystemTimeRecord.read bytes = some record) : record.common.year.toNat < 128 := by
  unfold SystemTimeRecord.read at read
  split at read
  · cases read
    show (_ &&& (0x7f : UInt8)).toNat < 128
    rw [UInt8.toNat_and]
    exact Nat.lt_succ_of_le Nat.and_le_right
  · cases read

/-- The printed year is that of the record. -/
theorem Represents.year {record : SystemTimeRecord} {c : CalendarTime}
    (represents : Represents record c) (small : record.common.year.toNat < 128) :
    c.year = 2000 + record.common.year.toNat := by
  have texts := congrArg String.toList (Except.ok.inj represents.shown)
  unfold CalendarTime.text at texts
  simp only [ValueApi.formatDate, String.toList_append, List.append_assoc] at texts
  have late := c.year_range.2
  obtain ⟨same, -⟩ := List.append_inj texts (by
    rw [formatDec_length (by decide) (by omega),
      formatDec_length (by decide) (by omega)])
  have value := formatDec_value 4 c.year 0
  rw [← same, formatDec_value] at value
  omega

/-- The record represents the years from 2000 to 2127. -/
theorem record_represents {c : CalendarTime} (early : 2000 ≤ c.year) (late : c.year ≤ 2127) :
    Represents c.record c := by
  have month := c.month_range.2
  have day := c.day_le
  have hours := c.hours_lt
  have minutes := c.minutes_lt
  have seconds := c.seconds_lt
  have byte {n : Nat} (small : n < 100) : (UInt8.ofNat n).toNat = n :=
    UInt8.toNat_ofNat_of_lt' (small.trans (by decide))
  refine ⟨?_, ?_⟩
  · have year : 2000 + (((c.year : Int) - 2000) % 128).toNat = c.year := by omega
    have shown : ValueApi.formatValue (.ofSystemTime .systemZeit .none c.record) =
        .ok (ValueApi.formatDate c.record.common.year c.record.common.month c.record.common.day ++
          " " ++ formatDec 2 c.record.common.hour.toNat ++ ":" ++
          formatDec 2 c.record.common.minute.toNat ++ ":" ++ formatDec 2 c.record.second.toNat) := rfl
    rw [shown]
    unfold ValueApi.formatDate text record DateTimeRecord.ofBytes
    dsimp only
    rw [sevenBits, year, byte (by omega), byte (by omega), byte (by omega), byte (by omega),
      byte (by omega)]
  · show (UInt8.ofNat _).toNat = _
    rw [dayOfWeek_weekday, byte (by have := c.weekday_lt; omega)]

/-- The record can represent the years that are 2000 and seven bits. -/
theorem representable_iff {c : CalendarTime} : Representable c ↔ 2000 ≤ c.year ∧ c.year ≤ 2127 := by
  constructor
  · rintro ⟨bytes, record, read, represents⟩
    have small := year_lt read
    have year := represents.year small
    omega
  · rintro ⟨early, late⟩
    exact ⟨c.bytes, c.record, c.bytes_read, record_represents early late⟩

end CalendarTime

namespace ApiCommandParser

/-- The buffer begins with the command and the time. -/
def SetTimeTyped (env : Env) (c : CalendarTime) (s : Session) : Prop :=
  ∃ first second, nextWord s.request = ("rc", first) ∧ nextWord first = ("settime", second) ∧
    (env.readPtime second).1 = some c.ptime

/-- The clock is set to the time, or the time is rejected for it cannot be represented. -/
inductive SetsTime (env : Env) (c : CalendarTime) (s : Session) : Prop
  | accepted {t : Session} {message : EmsMessage} {record : SystemTimeRecord}
      (ran : parse env s = .ok .ok t)
      (sent : t.parser.effects = s.parser.effects ++ [.send message])
      (decoded : message.parseRCTimeMessage [] = .ok ((), [.ofSystemTime .systemZeit .none record]))
      (represents : CalendarTime.Represents record c)
  | rejected {t : Session} (unrepresentable : ¬ c.Representable)
      (ran : parse env s = .ok .invalidArgs t) (silent : t.parser.effects = s.parser.effects)

variable {env : Env} {c : CalendarTime} {s : Session}

/-- The command sends the telegram, whatever the time is. -/
theorem parse_setTime (idle : s.parser.activeRequest = none) (typed : SetTimeTyped env c s) :
    ∃ t, parse env s = .ok .ok t ∧
      t.parser.effects = s.parser.effects ++ [.send c.telegram] := by
  obtain ⟨first, second, category, cmd, time⟩ := typed
  refine ⟨⟨s.parser.sendCommand EmsProto.addressUI800 0x06 0 c.bytes, (env.readPtime second).2⟩,
    ?_, rfl⟩
  rw [parse_word idle category]
  show handleRcCommand env ⟨s.parser, first⟩ = _
  unfold handleRcCommand
  rw [readWord_bind, cmd]
  show handleSetTime env ⟨s.parser, second⟩ = _
  unfold handleSetTime
  rw [read_bind, time]
  rfl

/-- A time that is set is one that the record can represent: none is rejected. -/
theorem setsTime_representable (idle : s.parser.activeRequest = none) (typed : SetTimeTyped env c s)
    (sets : SetsTime env c s) : c.Representable := by
  obtain ⟨t, ran, sent⟩ := parse_setTime idle typed
  cases sets with
  | @accepted t' message record ran' sent' decoded represents =>
      cases ran.symm.trans ran'
      cases List.append_cancel_left (sent.symm.trans sent')
      cases (c.parse_telegram []).symm.trans decoded
      exact ⟨c.bytes, c.record, c.bytes_read, represents⟩
  | rejected unrepresentable ran' => cases ran.symm.trans ran'

/-- `rc settime` sets the clock in the years the record can represent, and in no others. -/
theorem setTime_iff (idle : s.parser.activeRequest = none) (typed : SetTimeTyped env c s) :
    SetsTime env c s ↔ 2000 ≤ c.year ∧ c.year ≤ 2127 := by
  constructor
  · exact fun sets => CalendarTime.representable_iff.mp (setsTime_representable idle typed sets)
  · rintro ⟨early, late⟩
    obtain ⟨t, ran, sent⟩ := parse_setTime idle typed
    exact .accepted ran sent (c.parse_telegram []) (CalendarTime.record_represents early late)

/-- The line of a client with the time behind the command. -/
def setTimeSession (time : String) : Session where
  parser := (CommandConnection.new default).parser
  request := .ofChars ("rc settime " ++ time ++ "\n").toList

def timestampEnv : Env := ⟨none, CommandConnection.readTimestamp, 0⟩

/-- 29 February of a leap year, in the evening. -/
def leapDay : CalendarTime where
  year := 2024
  month := 2
  day := 29
  hours := 23
  minutes := 5
  seconds := 0
  year_pos := by decide
  month_range := by decide
  day_range := by decide
  year_range := by decide
  hours_lt := by decide
  minutes_lt := by decide
  seconds_lt := by decide

theorem setTime_iff_leapDay :
    SetsTime timestampEnv leapDay (setTimeSession "2024-02-29 23:05:00") :=
  (setTime_iff rfl ⟨_, _, rfl, rfl, rfl⟩).mpr ⟨by decide, by decide⟩

/-- The last second before the years of the record. -/
def beforeEpoch : CalendarTime where
  year := 1999
  month := 12
  day := 31
  hours := 23
  minutes := 59
  seconds := 59
  year_pos := by decide
  month_range := by decide
  day_range := by decide
  year_range := by decide
  hours_lt := by decide
  minutes_lt := by decide
  seconds_lt := by decide

/-- It is sent as the last second of 2127. -/
theorem setTime_wraps :
    ¬ ∀ (env : Env) (c : CalendarTime) (s : Session), s.parser.activeRequest = none →
      SetTimeTyped env c s → SetsTime env c s := by
  intro sets
  have typed : SetTimeTyped timestampEnv beforeEpoch (setTimeSession "1999-12-31 23:59:59") :=
    ⟨_, _, rfl, rfl, rfl⟩
  have representable := setsTime_representable rfl typed (sets _ _ _ rfl typed)
  have years := CalendarTime.representable_iff.mp representable
  exact absurd years.1 (by decide)

end ApiCommandParser

end EmsCollector
