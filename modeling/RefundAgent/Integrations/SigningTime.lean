import RefundAgent.Integrations.Signing
import RefundAgent.Model.Vocabulary

/-!
# Reading a signing timestamp

`datetime.strptime` with the format of the signing timestamp.  It is more liberal
than `strftime`: a field may lack its leading zero, the day may be padded with a
blank, the letters may be small, and some digits may be those of another script.
What `format_timestamp` writes is read back as it was.
-/

namespace RefundAgent

open Foundation

/-!
## Numbers
-/

/-- The number that a list of decimal digits stands for. -/
def number? (cs : List Char) : Option Nat :=
  cs.foldlM (fun n c => (digit? c).map fun d => 10 * n + d) 0

theorem digit?_digitChar : forall d, d < 10 -> digit? (Nat.digitChar d) = some d := by
  decide

theorem number?_decimal (width n : Nat) :
    number? (decimal width n) = some (n % 10 ^ width) := by
  induction width generalizing n with
  | zero =>
      rw [Nat.pow_zero, Nat.mod_one]
      rfl
  | succ width ih =>
      have hinit := ih (n / 10)
      unfold number? at hinit ⊢
      rw [decimal, List.foldlM_append, hinit, Option.bind_eq_bind, Option.bind_some,
        List.foldlM_cons, digit?_digitChar _ (Nat.mod_lt n (by decide))]
      simp only [Option.map_some, Option.bind_eq_bind, Option.bind_some, List.foldlM_nil,
        Option.pure_def, Option.some_inj]
      rw [Nat.pow_succ', Nat.mod_mul]
      omega

theorem number?_decimal_of_lt {width n : Nat} (h : n < 10 ^ width) :
    number? (decimal width n) = some n := by
  rw [number?_decimal, Nat.mod_eq_of_lt h]

theorem decimal_digits (width n : Nat) :
    forall c, c ∈ decimal width n -> (digit? c).isSome = true := by
  induction width generalizing n with
  | zero =>
      intro c hc
      cases hc
  | succ width ih =>
      intro c hc
      rcases List.mem_append.mp hc with hc | hc
      · exact ih (n / 10) c hc
      · rw [List.mem_singleton.mp hc, digit?_digitChar _ (Nat.mod_lt n (by decide))]
        rfl

/-!
## Fields
-/

/-- The characters before the first separator, and those after it. -/
def upTo (separator : Char -> Bool) : List Char -> Option (List Char × List Char)
  | [] => none
  | c :: cs =>
      if separator c then some ([], cs)
      else (upTo separator cs).map fun p => (c :: p.1, p.2)

theorem upTo_append {separator : Char -> Bool} {d : Char} {field rest : List Char}
    (hfield : forall c, c ∈ field -> separator c = false) (hd : separator d = true) :
    upTo separator (field ++ d :: rest) = some (field, rest) := by
  induction field with
  | nil => exact if_pos hd
  | cons c cs ih =>
      have hc := hfield c List.mem_cons_self
      rw [List.cons_append, upTo, if_neg (by rw [hc]; exact Bool.false_ne_true),
        ih fun a ha => hfield a (List.mem_cons_of_mem c ha)]
      rfl

theorem upTo_decimal {separator : Char -> Bool} {d : Char} {width n : Nat}
    {rest : List Char} (hdigits : forall c, (digit? c).isSome = true -> separator c = false)
    (hd : separator d = true) :
    upTo separator (decimal width n ++ d :: rest) = some (decimal width n, rest) :=
  upTo_append (fun c hc => hdigits c (decimal_digits width n c hc)) hd

theorem not_digit_separator : forall d, d ∈ ['-', ':', 'T', 't', 'Z', 'z'] ->
    digit? d = none := by
  -- one equation for each separator: `decide` on the whole may range over every character
  simp only [List.mem_cons, List.not_mem_nil, or_false, forall_eq_or_imp, forall_eq]
  decide

theorem digit_beq_separator {c d : Char} (hc : (digit? c).isSome = true)
    (hd : d ∈ ['-', ':', 'T', 't', 'Z', 'z']) : (c == d) = false := by
  rw [beq_eq_false_iff_ne]
  rintro rfl
  rw [not_digit_separator c hd] at hc
  cases hc

theorem upTo_mark {d : Char} {width n : Nat} {rest : List Char}
    (hd : d ∈ ['-', ':', 'T', 't', 'Z', 'z']) :
    upTo (fun c => c == d) (decimal width n ++ d :: rest) = some (decimal width n, rest) :=
  upTo_decimal (fun _ hc => digit_beq_separator hc hd) (beq_self_eq_true d)

theorem upTo_letter {d e : Char} {width n : Nat} {rest : List Char}
    (hd : d ∈ ['-', ':', 'T', 't', 'Z', 'z']) (he : e ∈ ['-', ':', 'T', 't', 'Z', 'z']) :
    upTo (fun c => c == d || c == e) (decimal width n ++ d :: rest) =
      some (decimal width n, rest) := by
  apply upTo_decimal
  · intro c hc
    rw [digit_beq_separator hc hd, digit_beq_separator hc he]
    rfl
  · rw [beq_self_eq_true d, Bool.true_or]

/-- `%Y`. -/
def yearField (cs : List Char) : Option Nat :=
  if cs.length = 4 then number? cs else none

def isAsciiDigit (c : Char) : Bool :=
  '0' ≤ c && c ≤ '9'

/--
The pattern of a field of one or two digits, its range apart.  `\d` is any digit, and
stands for the units behind some tens only; elsewhere a class like `[0-3]` does.
-/
def shortField (tens : List Char) (single : Bool) : List Char -> Option Nat
  | [d] => if single || isAsciiDigit d then number? [d] else none
  | [t, d] =>
      if isAsciiDigit t && (decide (t ∈ tens) || isAsciiDigit d) then number? [t, d]
      else none
  | _ => none

/-- `1[0-2]|0[1-9]|[1-9]`. -/
def monthField : List Char -> Option Nat :=
  shortField [] false

/-- `3[0-1]|[1-2]\d|0[1-9]|[1-9]| [1-9]`. -/
def dayField : List Char -> Option Nat
  | [' ', d] => shortField [] false [d]
  | cs => shortField ['1', '2'] false cs

/-- `2[0-3]|[0-1]\d|\d`. -/
def hourField : List Char -> Option Nat :=
  shortField ['0', '1'] true

/-- `[0-5]\d|\d`, and for the seconds also `6[0-1]`, which no time has. -/
def minuteField : List Char -> Option Nat :=
  shortField ['0', '1', '2', '3', '4', '5'] true

theorem yearField_decimal {n : Nat} (h : n < 10000) : yearField (decimal 4 n) = some n := by
  unfold yearField
  rw [if_pos (length_decimal 4 n)]
  exact number?_decimal_of_lt h

theorem isAsciiDigit_digitChar : forall d, d < 10 ->
    isAsciiDigit (Nat.digitChar d) = true := by
  decide

theorem shortField_decimal {tens : List Char} {single : Bool} {n : Nat} (h : n < 100) :
    shortField tens single (decimal 2 n) = some n := by
  have htens := isAsciiDigit_digitChar (n / 10 % 10) (Nat.mod_lt _ (by decide))
  have hunits := isAsciiDigit_digitChar (n % 10) (Nat.mod_lt _ (by decide))
  have hnumber : number? (decimal 2 n) = some n := number?_decimal_of_lt h
  have hdecimal : decimal 2 n = [Nat.digitChar (n / 10 % 10), Nat.digitChar (n % 10)] := rfl
  rw [hdecimal] at hnumber ⊢
  unfold shortField
  simp only [htens, hunits, Bool.or_true, Bool.and_true, if_true]
  exact hnumber

theorem dayField_decimal {n : Nat} (h : n < 100) : dayField (decimal 2 n) = some n := by
  unfold dayField
  split
  · rename_i d hcs
    -- a blank is no digit
    have hblank := decimal_digits 2 n ' ' (by rw [hcs]; exact List.mem_cons_self)
    cases hblank
  · exact shortField_decimal h

/-!
## The timestamp
-/

/-- The date and time of six fields, if there is one; years before 1000 are left out. -/
def UtcSecond.ofFields? (year month day hour minute second : Nat) : Option UtcSecond :=
  if hyear : 1000 ≤ year ∧ year ≤ 9999 then
    if hdate : 1 ≤ month ∧ month ≤ 12 ∧ 1 ≤ day ∧ day ≤ daysInMonth year month then
      if htime : hour < 24 ∧ minute < 60 ∧ second < 60 then
        some
          { year := year
            month := month
            day := day
            hour := hour
            minute := minute
            second := second
            yearValid := hyear
            dateValid := hdate
            timeValid := htime }
      else none
    else none
  else none

theorem UtcSecond.ofFields?_fields (t : UtcSecond) :
    UtcSecond.ofFields? t.year t.month t.day t.hour t.minute t.second = some t := by
  unfold UtcSecond.ofFields?
  rw [dif_pos t.yearValid, dif_pos t.dateValid, dif_pos t.timeValid]

/-- `datetime.strptime(timestamp_raw, TIMESTAMP_FORMAT)`. -/
def strptime (s : String) : Option UtcSecond := do
  let (year, s) ← upTo (fun c => c == '-') s.toList
  let (month, s) ← upTo (fun c => c == '-') s
  let (day, s) ← upTo (fun c => c == 'T' || c == 't') s
  let (hour, s) ← upTo (fun c => c == ':') s
  let (minute, s) ← upTo (fun c => c == ':') s
  let (second, s) ← upTo (fun c => c == 'Z' || c == 'z') s
  -- unconverted data remains
  if s = [] then
    UtcSecond.ofFields? (← yearField year) (← monthField month) (← dayField day)
      (← hourField hour) (← minuteField minute) (← minuteField second)
  else
    none

theorem strptime_formatTimestamp (t : UtcSecond) : strptime (formatTimestamp t) = some t := by
  have hdays := daysInMonth_le t.year t.month
  rcases t.yearValid, t.dateValid, t.timeValid with ⟨hyear, hdate, htime⟩
  unfold strptime formatTimestamp UtcSecond.characters
  rw [String.toList_ofList]
  simp only [Option.bind_eq_bind]
  rw [upTo_mark (by decide), Option.bind_some, upTo_mark (by decide), Option.bind_some,
    upTo_letter (by decide) (by decide), Option.bind_some,
    upTo_mark (by decide), Option.bind_some, upTo_mark (by decide), Option.bind_some,
    upTo_letter (by decide) (by decide), Option.bind_some,
    if_pos rfl, yearField_decimal (by omega), monthField, hourField, minuteField,
    shortField_decimal (by omega), dayField_decimal (by omega),
    shortField_decimal (by omega), shortField_decimal (by omega),
    shortField_decimal (by omega)]
  exact t.ofFields?_fields

example : (strptime "2026-2-8t3:4:5z").map formatTimestamp = some "2026-02-08T03:04:05Z" := by
  decide +kernel

-- ARABIC-INDIC DIGIT THREE, behind a ten and in place of a month
example : (strptime "2026-02-1\u0663T03:04:05Z").isSome = true ∧
    strptime "2026-0\u0663-13T03:04:05Z" = none := by
  decide +kernel

/-!
## The time of a timestamp
-/

/-- The days of the years before a year. -/
def daysBeforeYear (year : Nat) : Nat :=
  365 * (year - 1) + (year - 1) / 4 - (year - 1) / 100 + (year - 1) / 400

/-- The days of a year before a month. -/
def daysBeforeMonth (year : Nat) : Nat -> Nat
  | 0 => 0
  | 1 => 0
  | month + 2 => daysBeforeMonth year (month + 1) + daysInMonth year (month + 1)

/-- `toordinal`; the first day is the first of January of the year 1. -/
def UtcSecond.toordinal (t : UtcSecond) : Nat :=
  daysBeforeYear t.year + daysBeforeMonth t.year t.month + t.day

/-- The microseconds since the first of January 1970. -/
def UtcSecond.time (t : UtcSecond) : Time :=
  ((((t.toordinal : Int) - 719163) * 24 + t.hour) * 60 + t.minute) * 60000000 +
    t.second * 1000000

end RefundAgent
