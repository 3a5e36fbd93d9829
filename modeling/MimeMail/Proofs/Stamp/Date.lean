import MimeMail.Calendar
import MimeMail.Proofs.Text.Cut
import MimeMail.Proofs.Text.Digit

namespace MimeMail.Date

open Text

section Calendar

def daysBefore (yearOfCycle : Nat) : Nat :=
  365 * yearOfCycle + yearOfCycle / 4 - yearOfCycle / 100

/-- The days from the start of 1970 to a date. -/
def toDays (year : Int) (month day : Nat) : Int :=
  let marchYear := if month ≤ 2 then year - 1 else year
  let monthFromMarch := if month ≤ 2 then month + 9 else month - 3
  let dayOfYear := (153 * monthFromMarch + 2) / 5 + (day - 1)
  marchYear / 400 * 146097 + daysBefore (marchYear % 400).toNat + dayOfYear - 719468

/-- A cycle is three centuries of 36524 days and one of 36525, a century is periods of 1461 days,
the last of which may lack a day. -/
theorem yearOfCycle_bounds {n : Nat} (h : n < 146097) :
    let y := (n - n / 1460 + n / 36524 - n / 146096) / 365
    y ≤ 399 ∧ daysBefore y ≤ n ∧ n - daysBefore y ≤ 365 := by
  obtain ⟨c, q, r, hc, hq, hr, hlast, hn⟩ : ∃ c q r, c ≤ 3 ∧ q ≤ 24 ∧ r ≤ 1460 ∧
      (1461 * q + r < 36524 ∨ c = 3 ∧ q = 24 ∧ r = 1460) ∧ n = 36524 * c + 1461 * q + r := by
    let c := min (n / 36524) 3
    let d := n - 36524 * c
    refine ⟨c, d / 1461, d % 1461, ?_, ?_, ?_, ?_, ?_⟩ <;> omega
  -- Periods are counted as 1460 days, so one too many may be counted, in the last year of a period.
  obtain ⟨e, he, hfour⟩ : ∃ e, n / 1460 = 25 * c + q + e ∧
      (e = 0 ∧ r < 1460 ∨ e = 1 ∧ 1095 < r) := by
    by_cases hlong : 1460 ≤ 24 * c + q + r
    · exact ⟨1, by omega, by omega⟩
    · exact ⟨0, by omega, by omega⟩
  have hcentury : n / 36524 = c + n / 146096 := by
    rcases hlast with hlast | ⟨rfl, rfl, rfl⟩
    · clear he hfour
      omega
    · subst hn
      rfl
  have hyear : (n - n / 1460 + n / 36524 - n / 146096) / 365 =
      100 * c + 4 * q + min (r / 365) 3 := by
    have hdays : n - n / 1460 + n / 36524 - n / 146096 = 365 * (100 * c + 4 * q) + (r - e) := by
      generalize n / 146096 = f at *
      omega
    have hrest : (r - e) / 365 = min (r / 365) 3 := by
      clear hdays hcentury hlast he hn
      omega
    rw [hdays, Nat.mul_add_div (by decide), hrest]
  intro y
  have hy : y = 100 * c + 4 * q + min (r / 365) 3 := hyear
  clear_value y
  have h4 : y / 4 = 25 * c + q := by omega
  have h100 : y / 100 = c := by
    clear hcentury hyear hlast he hn hfour
    omega
  rw [daysBefore, h4, h100]
  clear hcentury hyear he hfour
  omega

theorem ofDays_parts (days : Int) : ∃ (cycle : Int) (y m d : Nat), y ≤ 399 ∧ m ≤ 11 ∧ d ≤ 30 ∧
    days + 719468 = cycle * 146097 + (daysBefore y + (153 * m + 2) / 5 + d : Nat) ∧
    ofDays days = if m < 10 then (cycle * 400 + y, m + 3, d + 1)
      else (cycle * 400 + y + 1, m - 9, d + 1) := by
  let n := ((days + 719468) % 146097).toNat
  have hn : n < 146097 := by omega
  have hdays : days + 719468 = (days + 719468) / 146097 * 146097 + n := by omega
  obtain ⟨hy, hstart, hlength⟩ := yearOfCycle_bounds hn
  let y := (n - n / 1460 + n / 36524 - n / 146096) / 365
  let r := n - daysBefore y
  let m := (5 * r + 2) / 153
  have hr : n = daysBefore y + r := (Nat.add_sub_cancel' hstart).symm
  obtain ⟨hm, hle, hd⟩ : m ≤ 11 ∧ (153 * m + 2) / 5 ≤ r ∧ r - (153 * m + 2) / 5 ≤ 30 := by
    have hr' : r ≤ 365 := hlength
    clear_value r
    omega
  refine ⟨(days + 719468) / 146097, y, m, r - (153 * m + 2) / 5, hy, hm, hd, ?_, ?_⟩
  · rw [Nat.add_assoc, Nat.add_sub_cancel' hle, ← hr]
    exact hdays
  · have hof : ofDays days =
        let month := if m < 10 then m + 3 else m - 9
        let year : Int := (days + 719468) / 146097 * 400 + y
        (if month ≤ 2 then year + 1 else year, month, r - (153 * m + 2) / 5 + 1) := rfl
    rw [hof]
    by_cases h : m < 10
    · simp only [h, if_true]
      rw [if_neg (by omega)]
    · simp only [h, if_false]
      rw [if_pos (by omega)]

theorem toDays_ofDays (days : Int) :
    toDays (ofDays days).1 (ofDays days).2.1 (ofDays days).2.2 = days := by
  obtain ⟨cycle, y, m, d, hy, hm, -, hdays, hof⟩ := ofDays_parts days
  have hcycle : (cycle * 400 + y) / 400 = cycle := by omega
  have hyear : ((cycle * 400 + y) % 400).toNat = y := by omega
  rw [hof]
  by_cases h : m < 10
  · have hmonth : ¬ m + 3 ≤ 2 := by omega
    simp only [h, if_true, toDays, hmonth, if_false, Nat.add_sub_cancel, hcycle, hyear]
    omega
  · have hmonth : m - 9 ≤ 2 := by omega
    have hback : m - 9 + 9 = m := by omega
    simp only [h, if_false, toDays, hmonth, if_true, Nat.add_sub_cancel, Int.add_sub_cancel, hback,
      hcycle, hyear]
    omega

theorem ofDays_injective {days days' : Int} (h : ofDays days = ofDays days') : days = days' := by
  rw [← toDays_ofDays days, h, toDays_ofDays]

/-- Numbers as they occur in a date. A minute may have 61 seconds. -/
structure IsValid (d : Date) : Prop where
  weekday : d.weekday < 7
  day : d.day ≤ 31
  month : 1 ≤ d.month ∧ d.month ≤ 12
  hour : d.hour < 24
  minute : d.minute < 60
  second : d.second ≤ 60

theorem isValid_ofSeconds (clock : Int) : (ofSeconds clock).IsValid := by
  obtain ⟨cycle, y, m, d, -, hm, hd, -, hof⟩ := ofDays_parts (clock / 86400)
  have hday : (ofSeconds clock).day = (ofDays (clock / 86400)).2.2 := rfl
  have hmonth : (ofSeconds clock).month = (ofDays (clock / 86400)).2.1 := rfl
  have hsecond : (clock % 86400).toNat < 86400 := by omega
  refine ⟨?_, ?_, ?_, ?_, ?_, ?_⟩
  · have hweekday : ((clock / 86400 + 4) % 7).toNat < 7 := by omega
    exact hweekday
  · rw [hday, hof]
    split <;> exact Nat.succ_le_succ hd
  · rw [hmonth, hof]
    split <;> dsimp only <;> omega
  · exact Nat.div_lt_of_lt_mul hsecond
  · exact Nat.mod_lt _ (by decide)
  · exact Nat.le_of_lt_succ (Nat.lt_succ_of_lt (Nat.mod_lt _ (by decide : 0 < 60)))

theorem ofSeconds_injective {clock clock' : Int} (h : ofSeconds clock = ofSeconds clock') :
    clock = clock' := by
  have hdays : clock / 86400 = clock' / 86400 := by
    have hyear : (ofDays (clock / 86400)).1 = (ofDays (clock' / 86400)).1 := congrArg year h
    have hmonth : (ofDays (clock / 86400)).2.1 = (ofDays (clock' / 86400)).2.1 := congrArg month h
    have hday : (ofDays (clock / 86400)).2.2 = (ofDays (clock' / 86400)).2.2 := congrArg day h
    exact ofDays_injective (Prod.ext hyear (Prod.ext hmonth hday))
  have hhour : (clock % 86400).toNat / 3600 = (clock' % 86400).toNat / 3600 := congrArg hour h
  have hminute : (clock % 86400).toNat / 60 % 60 = (clock' % 86400).toNat / 60 % 60 :=
    congrArg minute h
  have hsecond : (clock % 86400).toNat % 60 = (clock' % 86400).toNat % 60 := congrArg second h
  omega

end Calendar

section Text

variable {s t : List Char}

theorem isDecimal_padded (width n : Nat) : IsDecimal (padded width n).toList n :=
  ⟨width - (toString n).length, by simp [padded]⟩

theorem length_padded_two {n : Nat} (h : n < 100) : (padded 2 n).toList.length = 2 := by
  have hdigits : (Nat.toDigits 10 n).length ≤ 2 :=
    (Nat.length_toDigits_le_iff (by decide) (by decide)).mpr h
  have hlength : (padded 2 n).toList.length =
      2 - (Nat.toDigits 10 n).length + (Nat.toDigits 10 n).length := by
    simp [padded, ← String.length_toList]
  rw [hlength, Nat.sub_add_cancel hdigits]

theorem padded_append_inj {m n : Nat} (hm : m < 100) (hn : n < 100)
    (h : (padded 2 m).toList ++ s = (padded 2 n).toList ++ t) : m = n ∧ s = t := by
  obtain ⟨hdigits, hrest⟩ :=
    List.append_inj h ((length_padded_two hm).trans (length_padded_two hn).symm)
  have hm' := isDecimal_padded 2 m
  rw [hdigits] at hm'
  exact ⟨hm'.eq (isDecimal_padded 2 n), hrest⟩

theorem name_append_inj (names : List String) (hlength : ∀ s ∈ names, s.toList.length = 3)
    (hnodup : names.Nodup) {i j : Nat} (hi : i < names.length) (hj : j < names.length)
    (h : ((names[i]?).getD "").toList ++ s = ((names[j]?).getD "").toList ++ t) :
    i = j ∧ s = t := by
  rw [List.getElem?_eq_getElem hi, List.getElem?_eq_getElem hj, Option.getD_some,
    Option.getD_some] at h
  have hwidth : names[i].toList.length = names[j].toList.length :=
    (hlength _ (List.getElem_mem hi)).trans (hlength _ (List.getElem_mem hj)).symm
  obtain ⟨hname, hrest⟩ := List.append_inj h hwidth
  exact ⟨(List.getElem_inj hnodup).mp (String.toList_injective hname), hrest⟩

def readYear : List Char → Int
  | '-' :: s => -(Nat.ofDigitChars 10 s 0)
  | '+' :: s => Nat.ofDigitChars 10 s 0
  | s => Nat.ofDigitChars 10 s 0

theorem readYear_padded (width n : Nat) : readYear (padded width n).toList = n := by
  have hdecimal := isDecimal_padded width n
  have hdigit := hdecimal.isDigit
  have hvalue := hdecimal.value
  generalize (padded width n).toList = s at *
  rw [readYear.eq_def]
  split
  · exact absurd (hdigit '-' List.mem_cons_self) (by decide)
  · exact absurd (hdigit '+' List.mem_cons_self) (by decide)
  · rw [hvalue]

theorem readYear_yearText (year : Int) : readYear (yearText year).toList = year := by
  have hvalue := (isDecimal_padded 4 year.natAbs).value
  rw [yearText]
  split
  · have hminus : ("-" ++ padded 4 year.natAbs).toList = '-' :: (padded 4 year.natAbs).toList := by
      simp
    rw [hminus, readYear, hvalue]
    omega
  · split
    · have hplus : ("+" ++ padded 4 year.natAbs).toList = '+' :: (padded 4 year.natAbs).toList := by
        simp
      rw [hplus, readYear, hvalue]
      omega
    · rw [readYear_padded]
      omega

theorem space_not_mem_yearText (year : Int) : ' ' ∉ (yearText year).toList := by
  have hdigits : ' ' ∉ (padded 4 year.natAbs).toList := fun h ↦
    absurd ((isDecimal_padded 4 year.natAbs).isDigit ' ' h) (by decide)
  rw [yearText]
  split
  · simpa using hdigits
  · split
    · simpa using hdigits
    · exact hdigits

theorem yearText_append_inj {year year' : Int}
    (h : (yearText year).toList ++ ' ' :: s = (yearText year').toList ++ ' ' :: t) :
    year = year' ∧ s = t := by
  obtain ⟨hyear, hrest⟩ :=
    eq_of_append_cons_eq (space_not_mem_yearText year) (space_not_mem_yearText year') h
  refine ⟨?_, hrest⟩
  rw [← readYear_yearText year, hyear, readYear_yearText]

theorem text_append_inj {d d' : Date} (hd : d.IsValid) (hd' : d'.IsValid)
    (h : d.text.toList ++ s = d'.text.toList ++ t) : d = d' ∧ s = t := by
  have hspace : " ".toList = [' '] := by simp
  have hmonths {d : Date} (hd : d.IsValid) : d.month - 1 < months.length :=
    Nat.sub_lt_right_of_lt_add hd.month.1 (Nat.lt_succ_of_le hd.month.2)
  simp only [text, String.toList_append, List.append_assoc, hspace, List.singleton_append] at h
  -- One field after the other is equal, and what stands behind it in both texts.
  obtain ⟨hweekday, h⟩ :=
    name_append_inj weekdays (by decide) (by decide) hd.weekday hd'.weekday h
  obtain ⟨hday, h⟩ := padded_append_inj (Nat.lt_of_le_of_lt hd.day (by decide))
    (Nat.lt_of_le_of_lt hd'.day (by decide)) (List.append_cancel_left h)
  obtain ⟨hmonth, h⟩ := name_append_inj months (by decide) (by decide)
    (hmonths hd) (hmonths hd') (List.tail_eq_of_cons_eq h)
  obtain ⟨hyear, h⟩ := yearText_append_inj (List.tail_eq_of_cons_eq h)
  obtain ⟨hhour, h⟩ := padded_append_inj (Nat.lt_trans hd.hour (by decide))
    (Nat.lt_trans hd'.hour (by decide)) h
  obtain ⟨hminute, h⟩ := padded_append_inj (Nat.lt_trans hd.minute (by decide))
    (Nat.lt_trans hd'.minute (by decide)) (List.append_cancel_left h)
  obtain ⟨hsecond, h⟩ := padded_append_inj (Nat.lt_of_le_of_lt hd.second (by decide))
    (Nat.lt_of_le_of_lt hd'.second (by decide)) (List.append_cancel_left h)
  have hmonth' : d.month = d'.month := by
    have hfirst := hd.month.1
    have hfirst' := hd'.month.1
    omega
  refine ⟨?_, List.append_cancel_left h⟩
  cases d
  cases d'
  rw [mk.injEq]
  exact ⟨hweekday, hday, hmonth', hyear, hhour, hminute, hsecond⟩

end Text

section Printable

theorem printable_append {s t : String} (hs : ∀ c ∈ s.toList, Printable c)
    (ht : ∀ c ∈ t.toList, Printable c) : ∀ c ∈ (s ++ t).toList, Printable c := by
  rw [String.toList_append]
  intro c hc
  rcases List.mem_append.mp hc with hc | hc
  · exact hs c hc
  · exact ht c hc

theorem printable_padded (width n : Nat) : ∀ c ∈ (padded width n).toList, Printable c :=
  fun c hc ↦ printable_of_isDigit ((isDecimal_padded width n).isDigit c hc)

theorem printable_yearText (year : Int) : ∀ c ∈ (yearText year).toList, Printable c := by
  have hsign : (∀ c ∈ "-".toList, Printable c) ∧ ∀ c ∈ "+".toList, Printable c := by decide
  rw [yearText]
  split
  · exact printable_append hsign.1 (printable_padded 4 _)
  · split
    · exact printable_append hsign.2 (printable_padded 4 _)
    · exact printable_padded 4 _

theorem printable_getD (names : List String) (h : ∀ s ∈ names, ∀ c ∈ s.toList, Printable c)
    (i : Nat) : ∀ c ∈ ((names[i]?).getD "").toList, Printable c := by
  cases hi : names[i]? with
  | none => simp
  | some s => exact h s (List.mem_of_getElem? hi)

theorem printable_text (d : Date) : ∀ c ∈ d.text.toList, Printable c := by
  have hweekday := printable_getD weekdays (by decide) d.weekday
  have hmonth := printable_getD months (by decide) (d.month - 1)
  have hcomma : ∀ c ∈ ", ".toList, Printable c := by decide
  have hspace : ∀ c ∈ " ".toList, Printable c := by decide
  have hcolon : ∀ c ∈ ":".toList, Printable c := by decide
  have hday := printable_append (printable_append (printable_append (printable_append
    (printable_append hweekday hcomma) (printable_padded 2 d.day)) hspace) hmonth) hspace
  have hhour := printable_append (printable_append (printable_append
    (printable_append hday (printable_yearText d.year)) hspace) (printable_padded 2 d.hour)) hcolon
  have hminute := printable_append (printable_append hhour (printable_padded 2 d.minute)) hcolon
  exact printable_append (printable_append hminute (printable_padded 2 d.second)) (by decide)

end Printable

end MimeMail.Date
