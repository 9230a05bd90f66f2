import Hexeract.LibraryCalendar
import Hexeract.LibraryDecimalText
import Hexeract.SchedulerBackends
import Mathlib.Data.String.Basic

/-! # Timestamps of the SQLite store

SQLite keeps instants as text. The store writes one layout and reads two, and the database
compares the texts. In one layout the texts are ordered like the instants; across the two
layouts the separator between date and time decides before the time does. -/
namespace SchedulerSqliteTime

open LibraryCalendar LibraryDecimalText LibraryFramedBytes StdTime BusEnvelope
open SchedulerMessages SchedulerStatements SchedulerBackends

/-! ## Reading and writing -/

/-- `YYYY-MM-DDTHH:MM:SS.mmmZ`, which the crate writes, and `YYYY-MM-DD HH:MM:SS`. -/
inductive Layout where
  | rfc3339Millis
  | sqliteCanonical
  deriving DecidableEq, Repr

@[ext] structure DateTime where
  date : Date
  hour : ℕ
  minute : ℕ
  second : ℕ
  milli : ℕ
  inRange : -9999 ≤ date.year ∧ date.year ≤ 9999
  inDay : hour < 24 ∧ minute < 60 ∧ second < 60 ∧ milli < 1000

def DateTime.millisOfDay (d : DateTime) : ℕ :=
  ((d.hour * 60 + d.minute) * 60 + d.second) * 1000 + d.milli

def millisPerDay : ℕ := 86400000

def DateTime.millis (d : DateTime) : ℤ := d.date.dayNumber * millisPerDay + d.millisOfDay

theorem DateTime.millisOfDay_lt (d : DateTime) : d.millisOfDay < millisPerDay := by
  obtain ⟨hour, minute, second, milli⟩ := d.inDay
  unfold millisOfDay millisPerDay
  omega

def DateTime.assumeUtc (d : DateTime) : OffsetDateTime where
  nanos := d.millis * nanosPerMilli
  in_range := by
    obtain ⟨first, last⟩ := d.date.dayNumber_bounds
    have lowest := daysBeforeYear_mono d.inRange.1
    have highest := daysBeforeYear_mono (show d.date.year + 1 ≤ 10000 by have := d.inRange; omega)
    have inDay := d.millisOfDay_lt
    have least : daysBeforeYear (-9999) = -3652425 := by decide
    have greatest : daysBeforeYear 10000 = 3652059 := by decide
    simp only [millis, millisPerDay, nanosPerMilli, nanosPerSec, epochDays] at *
    omega

def DateTime.toSystemTime (d : DateTime) : SystemTime := SchedulerMessages.toSystemTime d.assumeUtc

/-- A format description consumes the text from its front. -/
abbrev Reader := StateT (List Char) Option

def digits (width : ℕ) : Reader ℕ := fun s => takeDigits width s

def literal (c : Char) : Reader Unit
  | x :: s => if x = c then some ((), s) else none
  | [] => none

def sign : Reader (Option Char)
  | '-' :: s => some (some '-', s)
  | '+' :: s => some (some '+', s)
  | s => some (none, s)

/-- `[year]`: four digits after an optional sign. -/
def year : Reader ℤ := do
  let sign ← sign
  let n ← digits 4
  return if sign = some '-' then -(n : ℤ) else n

def monthAndDay : Reader (ℕ × ℕ) := do
  literal '-'
  let month ← digits 2
  literal '-'
  let day ← digits 2
  return (month, day)

def clock : Reader (ℕ × ℕ × ℕ) := do
  let hour ← digits 2
  literal ':'
  let minute ← digits 2
  literal ':'
  let second ← digits 2
  return (hour, minute, second)

/-- What follows the date; without a fraction the milliseconds are zero. -/
def timePart : Layout → Reader (ℕ × ℕ × ℕ × ℕ)
  | .rfc3339Millis => do
    literal 'T'
    let (hour, minute, second) ← clock
    literal '.'
    let milli ← digits 3
    literal 'Z'
    return (hour, minute, second, milli)
  | .sqliteCanonical => do
    literal ' '
    let (hour, minute, second) ← clock
    return (hour, minute, second, 0)

/-- The ranges are checked once all parts are read. -/
def build (year : ℤ) (month day hour minute second milli : ℕ) : Option DateTime :=
  if h : ValidDate year month day ∧ (-9999 ≤ year ∧ year ≤ 9999) ∧
      (hour < 24 ∧ minute < 60 ∧ second < 60 ∧ milli < 1000) then
    some ⟨⟨year, month, day, h.1⟩, hour, minute, second, milli, h.2.1, h.2.2⟩
  else none

def readDateTime (layout : Layout) : Reader DateTime := do
  let year ← year
  let (month, day) ← monthAndDay
  let (hour, minute, second, milli) ← timePart layout
  build year month day hour minute second milli

/-- Nothing may follow. -/
def parse (layout : Layout) (s : String) : Option DateTime :=
  match readDateTime layout s.toList with
  | some (d, []) => some d
  | _ => none

section Parsing

-- what the date crate says about a text it refuses
variable (debug : String → String) (reason : Layout → String → String)

def parseLayout (layout : Layout) (s : String) : Except String SystemTime :=
  match parse layout s with
  | some d => .ok d.toSystemTime
  | none => .error (reason layout s)

def parseTimestamp : String → Except SchedulerError SystemTime :=
  parseSqliteUtc debug (parseLayout reason .rfc3339Millis) (parseLayout reason .sqliteCanonical)

end Parsing

def yearText (year : ℤ) : List Char :=
  (if year < 0 then ['-'] else []) ++ padded 4 year.natAbs

def monthAndDayText (month day : ℕ) : List Char :=
  '-' :: (padded 2 month ++ '-' :: padded 2 day)

def clockText (hour minute second : ℕ) : List Char :=
  padded 2 hour ++ ':' :: (padded 2 minute ++ ':' :: padded 2 second)

def Layout.separator : Layout → Char
  | .rfc3339Millis => 'T'
  | .sqliteCanonical => ' '

def Layout.fraction (milli : ℕ) : Layout → List Char
  | .rfc3339Millis => '.' :: (padded 3 milli ++ ['Z'])
  | .sqliteCanonical => []

def Layout.timeText (layout : Layout) (hour minute second milli : ℕ) : List Char :=
  layout.separator :: (clockText hour minute second ++ layout.fraction milli)

def DateTime.dateText (d : DateTime) : List Char :=
  yearText d.date.year ++ monthAndDayText d.date.month d.date.day

def DateTime.text (d : DateTime) (layout : Layout) : List Char :=
  d.dateText ++ layout.timeText d.hour d.minute d.second d.milli

theorem year_ofDayNumber {n : ℤ} (first : daysBeforeYear (-9999) ≤ n + epochDays)
    (last : n + epochDays < daysBeforeYear 10000) :
    -9999 ≤ (Date.ofDayNumber n).year ∧ (Date.ofDayNumber n).year ≤ 9999 := by
  obtain ⟨lower, upper⟩ := (Date.ofDayNumber n).dayNumber_bounds
  rw [Date.dayNumber_ofDayNumber] at lower upper
  constructor
  · by_contra earlier
    have := daysBeforeYear_mono (show (Date.ofDayNumber n).year + 1 ≤ -9999 by omega)
    omega
  · by_contra later
    have := daysBeforeYear_mono (show 10000 ≤ (Date.ofDayNumber n).year by omega)
    omega

/-- The date and time of day an instant falls in; what is finer than a millisecond is cut
off. -/
def dateTimeOf (o : OffsetDateTime) : DateTime where
  date := .ofDayNumber (o.nanos / nanosPerMilli / millisPerDay)
  hour := (o.nanos / nanosPerMilli % millisPerDay).toNat / 3600000
  minute := (o.nanos / nanosPerMilli % millisPerDay).toNat / 60000 % 60
  second := (o.nanos / nanosPerMilli % millisPerDay).toNat / 1000 % 60
  milli := (o.nanos / nanosPerMilli % millisPerDay).toNat % 1000
  inRange := by
    have range := o.in_range
    have least : daysBeforeYear (-9999) = -3652425 := by decide
    have greatest : daysBeforeYear 10000 = 3652059 := by decide
    simp only [nanosPerSec] at range
    apply year_ofDayNumber <;> simp only [millisPerDay, nanosPerMilli, epochDays] <;> omega
  inDay := by
    simp only [millisPerDay, nanosPerMilli]
    omega

theorem millis_dateTimeOf (o : OffsetDateTime) :
    (dateTimeOf o).millis = o.nanos / nanosPerMilli := by
  simp only [DateTime.millis, DateTime.millisOfDay, dateTimeOf, Date.dayNumber_ofDayNumber,
    millisPerDay, nanosPerMilli]
  omega

def formatSqliteUtc (o : OffsetDateTime) : String :=
  .ofList ((dateTimeOf o).text .rfc3339Millis)

/-! ## What is accepted -/

theorem bind_reads {α β : Type} {p : Reader α} {f : α → Reader β} {s rest : List Char} {b : β} :
    (p >>= f) s = some (b, rest) ↔
      ∃ a middle, p s = some (a, middle) ∧ f a middle = some (b, rest) := by
  change (p s).bind (fun r => f r.1 r.2) = some (b, rest) ↔ _
  rw [Option.bind_eq_some_iff]
  exact Prod.exists

theorem pure_reads {α : Type} {a b : α} {s rest : List Char} :
    (pure a : Reader α) s = some (b, rest) ↔ a = b ∧ s = rest := by
  change some (a, s) = some (b, rest) ↔ _
  rw [Option.some.injEq, Prod.mk.injEq]

theorem literal_reads {c : Char} {s rest : List Char} {u : Unit} :
    literal c s = some (u, rest) ↔ s = c :: rest := by
  cases s with
  | nil => simp [literal]
  | cons x s =>
    simp only [literal, List.cons.injEq]
    split <;> simp_all

theorem digits_reads {width n : ℕ} {s rest : List Char} :
    digits width s = some (n, rest) ↔ n < 10 ^ width ∧ s = padded width n ++ rest :=
  takeDigits_eq_some

theorem monthAndDay_reads {s rest : List Char} {month day : ℕ} :
    monthAndDay s = some ((month, day), rest) ↔
      (month < 100 ∧ day < 100) ∧ s = monthAndDayText month day ++ rest := by
  unfold monthAndDay monthAndDayText
  simp only [bind_reads, pure_reads, literal_reads, digits_reads, List.cons_append,
    List.append_assoc]
  constructor
  · rintro ⟨_, _, rfl, m, _, ⟨hm, rfl⟩, _, _, rfl, d, _, ⟨hd, rfl⟩, same, rfl⟩
    obtain ⟨rfl, rfl⟩ := Prod.mk.inj same
    exact ⟨⟨hm, hd⟩, rfl⟩
  · rintro ⟨⟨hm, hd⟩, rfl⟩
    exact ⟨(), _, rfl, _, _, ⟨hm, rfl⟩, (), _, rfl, _, _, ⟨hd, rfl⟩, rfl, rfl⟩

theorem clock_reads {s rest : List Char} {hour minute second : ℕ} :
    clock s = some ((hour, minute, second), rest) ↔ (hour < 100 ∧ minute < 100 ∧ second < 100) ∧
      s = clockText hour minute second ++ rest := by
  unfold clock clockText
  simp only [bind_reads, pure_reads, literal_reads, digits_reads, List.cons_append,
    List.append_assoc]
  constructor
  · rintro ⟨h, _, ⟨hh, rfl⟩, _, _, rfl, m, _, ⟨hm, rfl⟩, _, _, rfl, s, _, ⟨hs, rfl⟩, same, rfl⟩
    obtain ⟨rfl, rfl, rfl⟩ : h = hour ∧ m = minute ∧ s = second := by simpa using same
    exact ⟨⟨hh, hm, hs⟩, rfl⟩
  · rintro ⟨⟨hh, hm, hs⟩, rfl⟩
    exact ⟨_, _, ⟨hh, rfl⟩, (), _, rfl, _, _, ⟨hm, rfl⟩, (), _, rfl, _, _, ⟨hs, rfl⟩, rfl, rfl⟩

def Layout.fractions : Layout → ℕ
  | .rfc3339Millis => 1000
  | .sqliteCanonical => 1

theorem timePart_reads {layout : Layout} {s rest : List Char} {hour minute second milli : ℕ} :
    timePart layout s = some ((hour, minute, second, milli), rest) ↔
      (hour < 100 ∧ minute < 100 ∧ second < 100) ∧ milli < layout.fractions ∧
        s = layout.timeText hour minute second milli ++ rest := by
  cases layout with
  | rfc3339Millis =>
    simp only [timePart, Layout.timeText, Layout.separator, Layout.fraction, Layout.fractions,
      bind_reads, pure_reads, literal_reads, digits_reads, List.cons_append, List.append_assoc,
      List.nil_append]
    constructor
    · rintro ⟨_, _, rfl, ⟨h, m, s⟩, _, read, _, _, rfl, ms, _, ⟨small, rfl⟩, _, _, rfl, same, rfl⟩
      obtain ⟨bounds, rfl⟩ := clock_reads.mp read
      obtain ⟨rfl, rfl, rfl, rfl⟩ : h = hour ∧ m = minute ∧ s = second ∧ ms = milli := by
        simpa using same
      exact ⟨bounds, small, rfl⟩
    · rintro ⟨bounds, small, rfl⟩
      exact ⟨(), _, rfl, _, _, clock_reads.mpr ⟨bounds, rfl⟩, (), _, rfl, _, _, ⟨small, rfl⟩, (), _,
        rfl, rfl, rfl⟩
  | sqliteCanonical =>
    simp only [timePart, Layout.timeText, Layout.separator, Layout.fraction, Layout.fractions,
      bind_reads, pure_reads, literal_reads, List.cons_append, List.append_nil, Nat.lt_one_iff]
    constructor
    · rintro ⟨_, _, rfl, ⟨h, m, s⟩, _, read, same, rfl⟩
      obtain ⟨bounds, rfl⟩ := clock_reads.mp read
      obtain ⟨rfl, rfl, rfl, rfl⟩ : h = hour ∧ m = minute ∧ s = second ∧ 0 = milli := by
        simpa using same
      exact ⟨bounds, rfl, rfl⟩
    · rintro ⟨bounds, rfl, rfl⟩
      exact ⟨(), _, rfl, _, _, clock_reads.mpr ⟨bounds, rfl⟩, rfl, rfl⟩

theorem lift_reads {o : Option DateTime} {d : DateTime} {s rest : List Char} :
    (liftM o : Reader DateTime) s = some (d, rest) ↔ o = some d ∧ s = rest := by
  change o.bind (fun a => some (a, s)) = some (d, rest) ↔ _
  rw [Option.bind_eq_some_iff]
  constructor
  · rintro ⟨a, rfl, same⟩
    obtain ⟨rfl, rfl⟩ := Prod.mk.inj (Option.some.inj same)
    exact ⟨rfl, rfl⟩
  · rintro ⟨rfl, rfl⟩
    exact ⟨d, rfl, rfl⟩

theorem build_eq_some {year : ℤ} {month day hour minute second milli : ℕ} {d : DateTime} :
    build year month day hour minute second milli = some d ↔ d.date.year = year ∧
      d.date.month = month ∧ d.date.day = day ∧ d.hour = hour ∧ d.minute = minute ∧
      d.second = second ∧ d.milli = milli := by
  unfold build
  constructor
  · intro built
    split at built
    · cases built
      exact ⟨rfl, rfl, rfl, rfl, rfl, rfl, rfl⟩
    · cases built
  · rintro ⟨rfl, rfl, rfl, rfl, rfl, rfl, rfl⟩
    exact dif_pos ⟨d.date.valid, d.inRange, d.inDay⟩

theorem two_digits (d : DateTime) : d.date.month < 100 ∧ d.date.day < 100 := by
  obtain ⟨_, _, inside⟩ := d.date.valid
  have month := inside.index_lt
  have longest : ∀ n ∈ monthLengths d.date.year, n ≤ 31 := by
    unfold monthLengths
    cases isLeap d.date.year <;> decide
  have day := longest _ (List.getElem_mem month)
  unfold Inside at inside
  rw [List.getD_eq_getElem _ _ month] at inside
  rw [show (monthLengths d.date.year).length = 12 from rfl] at month
  omega

theorem readDateTime_reads {layout : Layout} {s rest : List Char} {d : DateTime} :
    readDateTime layout s = some (d, rest) ↔ d.milli < layout.fractions ∧
      year s = some (d.date.year, monthAndDayText d.date.month d.date.day ++
        (layout.timeText d.hour d.minute d.second d.milli ++ rest)) := by
  unfold readDateTime
  simp only [bind_reads]
  constructor
  · rintro ⟨y, _, readYear, ⟨month, day⟩, _, readDate, ⟨hour, minute, second, milli⟩, _, readTime,
      built⟩
    obtain ⟨_, rfl⟩ := monthAndDay_reads.mp readDate
    obtain ⟨_, small, rfl⟩ := timePart_reads.mp readTime
    obtain ⟨fields, rfl⟩ := lift_reads.mp built
    obtain ⟨rfl, rfl, rfl, rfl, rfl, rfl, rfl⟩ := build_eq_some.mp fields
    exact ⟨small, readYear⟩
  · rintro ⟨small, readYear⟩
    obtain ⟨hour, minute, second, _⟩ := d.inDay
    exact ⟨_, _, readYear, (_, _), _, monthAndDay_reads.mpr ⟨two_digits d, rfl⟩, (_, _, _, _), _,
      timePart_reads.mpr ⟨by omega, small, rfl⟩,
      lift_reads.mpr ⟨build_eq_some.mpr ⟨rfl, rfl, rfl, rfl, rfl, rfl, rfl⟩, rfl⟩⟩

theorem sign_digit {d : ℕ} (small : d < 10) (s : List Char) :
    sign (Nat.digitChar d :: s) = some (none, Nat.digitChar d :: s) := by
  interval_cases d <;> rfl

theorem year_reads {y : ℤ} (inRange : -9999 ≤ y ∧ y ≤ 9999) (rest : List Char) :
    year (yearText y ++ rest) = some (y, rest) := by
  have small : y.natAbs < 10 ^ 4 := by omega
  have read := takeDigits_padded small rest
  unfold year yearText
  rw [bind_reads]
  by_cases negative : y < 0
  · rw [if_pos negative]
    refine ⟨some '-', padded 4 y.natAbs ++ rest, rfl, bind_reads.mpr ⟨_, _, read, ?_⟩⟩
    rw [pure_reads, if_pos rfl]
    exact ⟨by omega, rfl⟩
  · rw [if_neg negative]
    refine ⟨none, padded 4 y.natAbs ++ rest, sign_digit (Nat.mod_lt _ (by decide)) _,
      bind_reads.mpr ⟨_, _, read, ?_⟩⟩
    rw [pure_reads, if_neg (by decide)]
    exact ⟨by omega, rfl⟩

def Unsigned (s : List Char) : Prop := s.head? ≠ some '-' ∧ s.head? ≠ some '+'

instance (s : List Char) : Decidable (Unsigned s) := inferInstanceAs (Decidable (_ ∧ _))

theorem year_unsigned {s rest : List Char} {y : ℤ} (unsigned : Unsigned s)
    (read : year s = some (y, rest)) : 0 ≤ y ∧ s = yearText y ++ rest := by
  have signless : sign s = some (none, s) := by
    unfold sign
    split
    · exact absurd rfl unsigned.1
    · exact absurd rfl unsigned.2
    · rfl
  unfold year at read
  obtain ⟨mark, middle, marked, read⟩ := bind_reads.mp read
  rw [signless] at marked
  obtain ⟨rfl, rfl⟩ := Prod.mk.inj (Option.some.inj marked)
  obtain ⟨n, _, digits, read⟩ := bind_reads.mp read
  obtain ⟨rfl, rfl⟩ := pure_reads.mp read
  obtain ⟨_, rfl⟩ := digits_reads.mp digits
  rw [if_neg (by decide), yearText, if_neg (by omega)]
  exact ⟨by omega, rfl⟩

structure Accepted (s : List Char) (layout : Layout) (d : DateTime) : Prop where
  text : s = d.text layout
  fraction : d.milli < layout.fractions
  year : 0 ≤ d.date.year

theorem parse_accepted {layout : Layout} {s : String} {d : DateTime} (unsigned : Unsigned s.toList)
    (parsed : parse layout s = some d) : Accepted s.toList layout d := by
  unfold parse at parsed
  split at parsed
  · rename_i read
    obtain rfl := Option.some.inj parsed
    obtain ⟨small, read⟩ := readDateTime_reads.mp read
    obtain ⟨positive, whole⟩ := year_unsigned unsigned read
    refine ⟨?_, small, positive⟩
    rw [whole, DateTime.text, DateTime.dateText, List.append_nil, List.append_assoc]
  · cases parsed

theorem parse_text (d : DateTime) :
    parse .rfc3339Millis (.ofList (d.text .rfc3339Millis)) = some d := by
  have read := year_reads d.inRange (monthAndDayText d.date.month d.date.day ++
    (Layout.rfc3339Millis.timeText d.hour d.minute d.second d.milli ++ []))
  unfold parse
  rw [String.toList_ofList, DateTime.text, DateTime.dateText, List.append_assoc,
    ← List.append_nil (Layout.timeText ..), readDateTime_reads.mpr ⟨d.inDay.2.2.2, read⟩]

/-! ## The order of texts and instants -/

theorem millis_lt {d e : DateTime} : d.millis < e.millis ↔
    d.date.Before e.date ∨ d.date = e.date ∧ d.millisOfDay < e.millisOfDay := by
  have hd := d.millisOfDay_lt
  have he := e.millisOfDay_lt
  rw [← Date.dayNumber_lt, ← Date.dayNumber_inj]
  simp only [DateTime.millis, millisPerDay] at *
  omega

theorem toSystemTime_lt {d e : DateTime} :
    d.toSystemTime < e.toSystemTime ↔ d.millis < e.millis := by
  change d.millis * (nanosPerMilli : ℤ) < e.millis * (nanosPerMilli : ℤ) ↔ _
  simp only [nanosPerMilli]
  omega

theorem padded_append_lt {width n m : ℕ} {a b : List Char} (hn : n < 10 ^ width)
    (hm : m < 10 ^ width) :
    padded width n ++ a < padded width m ++ b ↔ n < m ∨ n = m ∧ a < b := by
  rw [append_lt_append (by simp), padded_lt hn hm, padded_inj hn hm]

theorem dateText_lt {d e : DateTime} (hd : 0 ≤ d.date.year) (he : 0 ≤ e.date.year) :
    d.dateText < e.dateText ↔ d.date.Before e.date := by
  have := d.inRange
  have := e.inRange
  have := two_digits d
  have := two_digits e
  unfold DateTime.dateText yearText monthAndDayText Date.Before
  rw [if_neg (by omega), if_neg (by omega), List.nil_append, List.nil_append,
    padded_append_lt (by omega) (by omega), List.cons_lt_cons_self,
    padded_append_lt (by omega) (by omega), List.cons_lt_cons_self,
    padded_lt (by omega) (by omega)]
  omega

theorem dateText_inj {d e : DateTime} (hd : 0 ≤ d.date.year) (he : 0 ≤ e.date.year) :
    d.dateText = e.dateText ↔ d.date = e.date := by
  constructor
  · intro same
    rcases Date.before_trichotomy d.date e.date with before | equal | after
    · exact absurd (same ▸ (dateText_lt hd he).mpr before) (List.lt_irrefl _)
    · exact equal
    · exact absurd (same ▸ (dateText_lt he hd).mpr after) (List.lt_irrefl _)
  · intro same
    rw [DateTime.dateText, DateTime.dateText, same]

theorem length_dateText {d : DateTime} (hd : 0 ≤ d.date.year) : d.dateText.length = 10 := by
  unfold DateTime.dateText yearText monthAndDayText
  rw [if_neg (by omega)]
  simp

theorem timeText_lt {layout : Layout} {d e : DateTime} (hd : d.milli < layout.fractions)
    (he : e.milli < layout.fractions) :
    layout.timeText d.hour d.minute d.second d.milli <
        layout.timeText e.hour e.minute e.second e.milli ↔ d.millisOfDay < e.millisOfDay := by
  have := d.inDay
  have := e.inDay
  have fraction : layout.fraction d.milli < layout.fraction e.milli ↔ d.milli < e.milli := by
    cases layout with
    | rfc3339Millis =>
      unfold Layout.fraction
      rw [List.cons_lt_cons_self, padded_append_lt (by omega) (by omega)]
      simp
    | sqliteCanonical =>
      unfold Layout.fraction
      simp only [Layout.fractions] at hd he
      simp
      omega
  unfold Layout.timeText clockText DateTime.millisOfDay
  simp only [List.append_assoc, List.cons_append]
  rw [List.cons_lt_cons_self, padded_append_lt (by omega) (by omega), List.cons_lt_cons_self,
    padded_append_lt (by omega) (by omega), List.cons_lt_cons_self,
    padded_append_lt (by omega) (by omega), fraction]
  omega

def datePart (s : String) : List Char := s.toList.take 10

def separatorOf (s : String) : Option Char := s.toList[10]?

/-- The layouts are the same, or the dates differ. -/
def Comparable (s s' : String) : Prop := separatorOf s = separatorOf s' ∨ datePart s ≠ datePart s'

instance (s s' : String) : Decidable (Comparable s s') := inferInstanceAs (Decidable (_ ∨ _))

section Accepted

variable {s s' : String} {layout layout' : Layout} {d e : DateTime}

theorem Accepted.datePart_eq (h : Accepted s.toList layout d) : datePart s = d.dateText := by
  rw [datePart, h.text, DateTime.text, List.take_left' (length_dateText h.year)]

theorem Accepted.separatorOf_eq (h : Accepted s.toList layout d) :
    separatorOf s = some layout.separator := by
  rw [separatorOf, h.text, DateTime.text, List.getElem?_append_right (length_dateText h.year).le,
    length_dateText h.year]
  rfl

theorem separator_inj : layout.separator = layout'.separator ↔ layout = layout' := by
  cases layout <;> cases layout' <;> decide

theorem separator_lt (differ : layout ≠ layout') :
    layout.separator < layout'.separator ↔ layout = .sqliteCanonical := by
  cases layout <;> cases layout' <;> first | exact absurd rfl differ | decide

theorem Accepted.comparable_iff (h : Accepted s.toList layout d)
    (h' : Accepted s'.toList layout' e) :
    Comparable s s' ↔ layout = layout' ∨ d.date ≠ e.date := by
  rw [Comparable, h.datePart_eq, h'.datePart_eq, h.separatorOf_eq, h'.separatorOf_eq,
    Option.some.injEq, separator_inj, Ne, dateText_inj h.year h'.year]

theorem Accepted.lt_iff (h : Accepted s.toList layout d) (h' : Accepted s'.toList layout' e) :
    s < s' ↔ d.date.Before e.date ∨ d.date = e.date ∧
      layout.timeText d.hour d.minute d.second d.milli <
        layout'.timeText e.hour e.minute e.second e.milli := by
  rw [String.lt_iff_toList_lt, h.text, h'.text, DateTime.text, DateTime.text,
    append_lt_append ((length_dateText h.year).trans (length_dateText h'.year).symm),
    dateText_lt h.year h'.year, dateText_inj h.year h'.year]

/-- Comparable texts are ordered like their instants. -/
theorem Accepted.lt_iff_of_comparable (h : Accepted s.toList layout d)
    (h' : Accepted s'.toList layout' e) (comparable : layout = layout' ∨ d.date ≠ e.date) :
    s < s' ↔ d.toSystemTime < e.toSystemTime := by
  rw [h.lt_iff h', toSystemTime_lt, millis_lt]
  rcases comparable with rfl | differ
  · rw [timeText_lt h.fraction h'.fraction]
  · simp [differ]

theorem Accepted.lt_iff_of_same_date (h : Accepted s.toList layout d)
    (h' : Accepted s'.toList layout' e) (date : d.date = e.date) (differ : layout ≠ layout') :
    s < s' ↔ layout = .sqliteCanonical := by
  rw [h.lt_iff h', Layout.timeText, Layout.timeText, List.cons_lt_cons_iff, separator_inj,
    separator_lt differ]
  simp only [date, e.date.before_irrefl, differ, false_and, or_false, false_or, true_and]

end Accepted

theorem parseTimestamp_accepted {debug : String → String} {reason : Layout → String → String}
    {s : String} {t : SystemTime} (unsigned : Unsigned s.toList)
    (parsed : parseTimestamp debug reason s = .ok t) :
    ∃ layout d, Accepted s.toList layout d ∧ t = d.toSystemTime := by
  unfold parseTimestamp parseSqliteUtc parseLayout at parsed
  cases first : parse .rfc3339Millis s with
  | some d =>
    simp only [first, Except.ok.injEq] at parsed
    exact ⟨_, d, parse_accepted unsigned first, parsed.symm⟩
  | none =>
    cases second : parse .sqliteCanonical s with
    | some d =>
      simp only [first, second, Except.mapError, Except.ok.injEq] at parsed
      exact ⟨_, d, parse_accepted unsigned second, parsed.symm⟩
    | none => simp [first, second, Except.mapError] at parsed

/-! ## Bytes -/

def Ascii (s : List Char) : Prop := ∀ c ∈ s, c.toNat < 128

theorem utf8_ascii {s : String} (ascii : Ascii s.toList) :
    utf8 s = s.toList.map fun c => UInt8.ofNat c.toNat := by
  rw [utf8, ← String.utf8Encode_toList, List.utf8Encode, List.toList_data_toByteArray]
  generalize s.toList = chars at ascii
  induction chars with
  | nil => rfl
  | cons c rest ih =>
    have single : String.utf8EncodeChar c = [UInt8.ofNat c.toNat] :=
      if_pos (Nat.le_of_lt_succ (ascii c List.mem_cons_self))
    rw [List.flatMap_cons, single, ih fun x hx => ascii x (List.mem_cons_of_mem _ hx)]
    rfl

theorem byte_lt {c c' : Char} (small : c.toNat < 128) (small' : c'.toNat < 128) :
    UInt8.ofNat c.toNat < UInt8.ofNat c'.toNat ↔ c < c' := by
  rw [UInt8.lt_iff_toNat_lt, UInt8.toNat_ofNat_of_lt' (by simp [UInt8.size]; omega),
    UInt8.toNat_ofNat_of_lt' (by simp [UInt8.size]; omega), Char.lt_def, UInt32.lt_iff_toNat_lt]
  rfl

theorem byte_inj {c c' : Char} (small : c.toNat < 128) (small' : c'.toNat < 128) :
    UInt8.ofNat c.toNat = UInt8.ofNat c'.toNat ↔ c = c' := by
  rw [← UInt8.toNat_inj, UInt8.toNat_ofNat_of_lt' (by simp [UInt8.size]; omega),
    UInt8.toNat_ofNat_of_lt' (by simp [UInt8.size]; omega), Char.toNat_inj]

/-- The database compares bytes; in ASCII text these are the characters. -/
theorem utf8_lt {s s' : String} (ascii : Ascii s.toList) (ascii' : Ascii s'.toList) :
    utf8 s < utf8 s' ↔ s < s' := by
  rw [utf8_ascii ascii, utf8_ascii ascii', String.lt_iff_toList_lt]
  generalize s.toList = chars at ascii
  generalize s'.toList = chars' at ascii'
  induction chars generalizing chars' with
  | nil => cases chars' <;> simp
  | cons c rest ih =>
    cases chars' with
    | nil => simp
    | cons c' rest' =>
      obtain ⟨small, ascii⟩ := List.forall_mem_cons.mp ascii
      obtain ⟨small', ascii'⟩ := List.forall_mem_cons.mp ascii'
      rw [List.map_cons, List.map_cons, List.cons_lt_cons_iff, List.cons_lt_cons_iff,
        byte_lt small small', byte_inj small small', ih ascii rest' ascii']

theorem ascii_append {a b : List Char} : Ascii (a ++ b) ↔ Ascii a ∧ Ascii b :=
  List.forall_mem_append

theorem ascii_cons {c : Char} {a : List Char} : Ascii (c :: a) ↔ c.toNat < 128 ∧ Ascii a :=
  List.forall_mem_cons

theorem ascii_nil : Ascii [] := List.forall_mem_nil _

theorem ascii_padded (width n : ℕ) : Ascii (padded width n) := by
  induction width with
  | zero => exact ascii_nil
  | succ width ih =>
    rw [padded, ascii_cons, Nat.toNat_digitChar_of_lt_ten (Nat.mod_lt _ (by decide))]
    exact ⟨by omega, ih⟩

theorem Accepted.ascii {s : String} {layout : Layout} {d : DateTime}
    (h : Accepted s.toList layout d) : Ascii s.toList := by
  rw [h.text]
  unfold DateTime.text DateTime.dateText yearText monthAndDayText Layout.timeText clockText
  rw [if_neg (not_lt.mpr h.year)]
  cases layout <;>
    simp [ascii_append, ascii_cons, ascii_nil, ascii_padded, Layout.separator, Layout.fraction]

/-! ## The comparisons of the store -/

/-- Two accepted texts with four-digit years: comparable ones are ordered like their
instants, and then no schedule is claimed early; of two others the one with the space comes
first, whatever its time. -/
theorem text_order_agrees {debug : String → String} {reason : Layout → String → String}
    {s s' : String} {t t' : SystemTime} (unsigned : Unsigned s.toList)
    (unsigned' : Unsigned s'.toList) (parsed : parseTimestamp debug reason s = .ok t)
    (parsed' : parseTimestamp debug reason s' = .ok t') :
    (utf8 s < utf8 s' ↔ s < s') ∧
    (Comparable s s' → (s < s' ↔ t < t') ∧ (s ≤ s' ↔ t ≤ t') ∧ (s = s' ↔ t = t')) ∧
    (¬ Comparable s s' → (s < s' ↔ separatorOf s = some ' ')) ∧
    ∀ (γ : Type) (table : Schedules Bytes String γ) (deadline : String) (locked : List Bytes)
      (limit : ℕ), ∀ row ∈ (claimDue s' deadline table locked limit).2,
        row.2.scheduledFor = s → Comparable s s' → t ≤ t' := by
  obtain ⟨layout, d, h, rfl⟩ := parseTimestamp_accepted unsigned parsed
  obtain ⟨layout', e, h', rfl⟩ := parseTimestamp_accepted unsigned' parsed'
  have agrees : Comparable s s' → (s < s' ↔ d.toSystemTime < e.toSystemTime) ∧
      (s ≤ s' ↔ d.toSystemTime ≤ e.toSystemTime) := by
    intro comparable
    have forward := (h.comparable_iff h').mp comparable
    have backward : layout' = layout ∨ e.date ≠ d.date := forward.imp Eq.symm Ne.symm
    refine ⟨h.lt_iff_of_comparable h' forward, ?_⟩
    rw [← not_lt, ← not_lt, h'.lt_iff_of_comparable h backward]
  refine ⟨utf8_lt h.ascii h'.ascii, ?_, ?_, ?_⟩
  · intro comparable
    obtain ⟨strict, weak⟩ := agrees comparable
    refine ⟨strict, weak, ?_⟩
    rw [eq_iff_le_not_lt, eq_iff_le_not_lt, strict, weak]
  · intro incomparable
    rw [h.comparable_iff h', not_or, not_not] at incomparable
    rw [h.lt_iff_of_same_date h' incomparable.2 incomparable.1, h.separatorOf_eq]
    cases layout <;> decide
  · intro γ table deadline locked limit row claimed stored comparable
    obtain ⟨r, _, eligible, shape, _⟩ := claimDue_returns claimed
    simp only [Row.isEligible, Bool.and_eq_true, decide_eq_true_eq] at eligible
    have due : s ≤ s' := by
      rw [← stored, shape]
      exact eligible.1.1.1.1
    exact (agrees comparable).2.mp due

def sampleReason (_ : Layout) (_ : String) : String := "the input does not match"

def midnight : String := "2024-01-01T00:00:00.000Z"

theorem text_order_agrees_sample : ∃ t t',
    parseTimestamp id sampleReason midnight = .ok t ∧
    parseTimestamp id sampleReason "2024-01-01T12:30:00.500Z" = .ok t' ∧
    (midnight ≤ "2024-01-01T12:30:00.500Z" ↔ t ≤ t') := by
  obtain ⟨t, parsed⟩ := LibraryCollections.exists_of_isOk
    (show (parseTimestamp id sampleReason midnight).isOk = true by decide +kernel)
  obtain ⟨t', parsed'⟩ := LibraryCollections.exists_of_isOk
    (show (parseTimestamp id sampleReason "2024-01-01T12:30:00.500Z").isOk = true by
      decide +kernel)
  exact ⟨t, t', parsed, parsed', ((text_order_agrees (by decide +kernel) (by decide +kernel) parsed
    parsed').2.1 (by decide +kernel)).2.1⟩

/-- A row of another writer, due at eleven in the evening. -/
def eveningTable : Schedules Bytes String (Content Unit) where
  rows := [((Uuid.fromU128 1).bytes, .fresh
    ⟨.ok "reminders.due", .ok (), .ok "delay", .ok none, .ok "mediator", .ok none⟩
    "2024-01-01 23:00:00" 5)]
  keyed := by decide +kernel

def sampleSqlite : Backend Bytes String Unit :=
  sqlite sampleDriver (fun _ => "invalid length") (parseLayout sampleReason .rfc3339Millis)
    (parseLayout sampleReason .sqliteCanonical)

/-- At midnight the row is claimed, and the worker is handed an occurrence that is due
twenty-three hours later. -/
theorem space_layout_claimed_early :
    ∃ clock, parseTimestamp sampleDriver.debug sampleReason midnight = .ok clock ∧
    ∃ o ∈ (sampleSqlite.claimDue midnight "2024-01-01T00:05:00.000Z" eveningTable [] 10).handed,
      o.message.scheduledFor.nanos = clock.nanos + 23 * 3600 * nanosPerSec := by
  have read : (parseTimestamp sampleDriver.debug sampleReason midnight).map SystemTime.nanos =
      .ok 1704067200000000000 := by decide +kernel
  obtain ⟨clock, parsed, at_midnight⟩ := LibraryCollections.map_ok.mp read
  refine ⟨clock, parsed, ?_⟩
  rw [at_midnight]
  decide +kernel

end SchedulerSqliteTime
