import TimeMarkup.Proofs.Text.Digits
import TimeMarkup.Timestamp.Iso

/-!
This module contains the grammar of timestamps in text, with one constructor for each form, and the
dates, times and offsets that exist among those that can be written.
-/

namespace TimeMarkup

namespace Iso

/-- The forms of a date: `YYYY`, `YYYY-MM`, `YYYY-MM-DD`, `YYYYMMDD`, `YYYY-Www`, `YYYY-Www-D`,
`YYYYWww` and `YYYYWwwD`. -/
inductive DateForm : List Char → DateFields → Prop where
  | year {ys y} (hy : IsNumber 4 y ys) : DateForm ys (.calendar y 1 1)
  | month {ys ms y m} (hy : IsNumber 4 y ys) (hm : IsNumber 2 m ms) :
    DateForm (ys ++ '-' :: ms) (.calendar y m 1)
  | day {ys ms ds y m d} (hy : IsNumber 4 y ys) (hm : IsNumber 2 m ms) (hd : IsNumber 2 d ds) :
    DateForm (ys ++ '-' :: ms ++ '-' :: ds) (.calendar y m d)
  | basicDay {ys ms ds y m d} (hy : IsNumber 4 y ys) (hm : IsNumber 2 m ms) (hd : IsNumber 2 d ds) :
    DateForm (ys ++ ms ++ ds) (.calendar y m d)
  | week {ys ws y w} (hy : IsNumber 4 y ys) (hw : IsNumber 2 w ws) :
    DateForm (ys ++ '-' :: 'W' :: ws) (.week y w 1)
  | weekday {ys ws ds y w d} (hy : IsNumber 4 y ys) (hw : IsNumber 2 w ws) (hd : IsNumber 1 d ds)
    (hd' : 1 ≤ d ∧ d ≤ 7) : DateForm (ys ++ '-' :: 'W' :: ws ++ '-' :: ds) (.week y w d)
  | basicWeek {ys ws y w} (hy : IsNumber 4 y ys) (hw : IsNumber 2 w ws) :
    DateForm (ys ++ 'W' :: ws) (.week y w 1)
  | basicWeekday {ys ws ds y w d} (hy : IsNumber 4 y ys) (hw : IsNumber 2 w ws)
    (hd : IsNumber 1 d ds) (hd' : 1 ≤ d ∧ d ≤ 7) : DateForm (ys ++ 'W' :: ws ++ ds) (.week y w d)

/-- Week dates with a dash on one side of the week only: `YYYY-WwwD` and `YYYYWww-D`. -/
inductive HalfDashedForm : List Char → DateFields → Prop where
  | before {ys ws ds y w d} (hy : IsNumber 4 y ys) (hw : IsNumber 2 w ws) (hd : IsNumber 1 d ds)
    (hd' : 1 ≤ d ∧ d ≤ 7) : HalfDashedForm (ys ++ '-' :: 'W' :: ws ++ ds) (.week y w d)
  | after {ys ws ds y w d} (hy : IsNumber 4 y ys) (hw : IsNumber 2 w ws) (hd : IsNumber 1 d ds)
    (hd' : 1 ≤ d ∧ d ≤ 7) : HalfDashedForm (ys ++ 'W' :: ws ++ '-' :: ds) (.week y w d)

inductive FractionForm : List Char → List Char → Prop where
  | none : FractionForm [] []
  | some {c ds} (hc : c = '.' ∨ c = ',') (hne : ds ≠ []) (hds : ∀ d ∈ ds, d.isDigit) :
    FractionForm (c :: ds) ds

/-- The forms of a time of day: `hh`, `hh:mm`, `hhmm`, `hh:mm:ss` and `hhmmss`. -/
inductive TimeForm : List Char → TimeFields → Prop where
  | hour {hs h} (hh : IsNumber 2 h hs) : TimeForm hs ⟨h, 0, 0, []⟩
  | minute {hs ms h m} (hh : IsNumber 2 h hs) (hm : IsNumber 2 m ms) :
    TimeForm (hs ++ ':' :: ms) ⟨h, m, 0, []⟩
  | basicMinute {hs ms h m} (hh : IsNumber 2 h hs) (hm : IsNumber 2 m ms) :
    TimeForm (hs ++ ms) ⟨h, m, 0, []⟩
  | second {hs ms ss fs h m s f} (hh : IsNumber 2 h hs) (hm : IsNumber 2 m ms)
    (hs' : IsNumber 2 s ss) (hf : FractionForm fs f) :
    TimeForm (hs ++ ':' :: ms ++ ':' :: ss ++ fs) ⟨h, m, s, f⟩
  | basicSecond {hs ms ss fs h m s f} (hh : IsNumber 2 h hs) (hm : IsNumber 2 m ms)
    (hs' : IsNumber 2 s ss) (hf : FractionForm fs f) : TimeForm (hs ++ ms ++ ss ++ fs) ⟨h, m, s, f⟩

def IsSeparator (c : Char) : Prop :=
  c = 'T' ∨ c = 't' ∨ c = ' '

inductive IsSign : Char → Bool → Prop where
  | plus : IsSign '+' false
  | minus : IsSign '-' true

/-- The forms of an offset: `Z`, `z`, `±HH`, `±HHMM` and `±HH:MM`. -/
inductive OffsetForm : List Char → OffsetFields → Prop where
  | zulu {c} (hc : c = 'Z' ∨ c = 'z') : OffsetForm [c] ⟨false, 0, 0⟩
  | hours {c negative hs h} (hc : IsSign c negative) (hh : IsNumber 2 h hs) :
    OffsetForm (c :: hs) ⟨negative, h, 0⟩
  | basicMinutes {c negative hs ms h m} (hc : IsSign c negative) (hh : IsNumber 2 h hs)
    (hm : IsNumber 2 m ms) : OffsetForm (c :: hs ++ ms) ⟨negative, h, m⟩
  | minutes {c negative hs ms h m} (hc : IsSign c negative) (hh : IsNumber 2 h hs)
    (hm : IsNumber 2 m ms) : OffsetForm (c :: hs ++ ':' :: ms) ⟨negative, h, m⟩

/-- A date in one of the forms `Form`, after it a time if any, and an offset only after a time. -/
inductive TimestampForm (Form : List Char → DateFields → Prop) : List Char → Fields → Prop where
  | date {ds d} (hd : Form ds d) : TimestampForm Form ds ⟨d, none, none⟩
  | time {ds ts c d t} (hd : Form ds d) (hc : IsSeparator c) (ht : TimeForm ts t) :
    TimestampForm Form (ds ++ c :: ts) ⟨d, some t, none⟩
  | offset {ds ts os c d t o} (hd : Form ds d) (hc : IsSeparator c) (ht : TimeForm ts t)
    (ho : OffsetForm os o) : TimestampForm Form (ds ++ c :: ts ++ os) ⟨d, some t, some o⟩

/-- The day number of the Thursday of a week. A year has the weeks whose Thursdays it holds. -/
def thursday (year week : Int) : Int :=
  firstMonday year + 7 * (week - 1) + 3

def DateFields.Exists : DateFields → Prop
  | .calendar year month day => (1 ≤ month ∧ month ≤ 12) ∧ 1 ≤ day ∧ day ≤ daysInMonth year month
  | .week year number day =>
    (1 ≤ number ∧ thursday year number < monthStart (monthIndex (year + 1) 1)) ∧ 1 ≤ day ∧ day ≤ 7

def TimeFields.Exists (t : TimeFields) : Prop :=
  t.hour ≤ 23 ∧ t.minute ≤ 59 ∧ t.second ≤ 59
    ∨ t.hour = 24 ∧ t.minute = 0 ∧ t.second = 0 ∧ ∀ c ∈ t.fraction.take 9, c = '0'

def OffsetFields.Exists (o : OffsetFields) : Prop :=
  o.hours ≤ 23 ∧ o.minutes ≤ 59

structure Fields.Exists (f : Fields) : Prop where
  date : f.date.Exists
  time : ∀ t ∈ f.time, t.Exists
  offset : ∀ o ∈ f.offset, o.Exists

def Writes (Form : List Char → DateFields → Prop) (s : String) : Prop :=
  ∃ f, TimestampForm Form s.toList f ∧ f.Exists

end Iso

end TimeMarkup
