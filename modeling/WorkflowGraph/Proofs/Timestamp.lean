import Mathlib.Data.List.Basic
import WorkflowGraph.Timestamp.Iso

/-!
# Timestamps that are read back

What `iso` writes is read by `ofIso?` as the timestamp it was written from, but a distance of less
than a second to universal time is lost, since only whole seconds tell whether there is one. Main
statements: `ofIso?_iso`, `ofIso?_iso_eq_some_iff`.
-/

namespace WorkflowGraph

/-! ## Digits -/

namespace Text

theorem toList_padded (width n : Nat) :
    (padded width n).toList =
      List.replicate (width - (Nat.toDigits 10 n).length) '0' ++ Nat.toDigits 10 n :=
  String.toList_ofList

theorem length_padded (width : Nat) {n : Nat} (hwidth : 0 < width) (h : n < Nat.pow 10 width) :
    (padded width n).toList.length = width := by
  have hlength : (Nat.toDigits 10 n).length ≤ width :=
    (Nat.length_toDigits_le_iff (by decide) hwidth).2 h
  rw [toList_padded, List.length_append, List.length_replicate]
  omega

theorem isAsciiDigit_of_mem_padded {width n : Nat} {c : Char} (h : c ∈ (padded width n).toList) :
    isAsciiDigit c = true := by
  rw [toList_padded, List.mem_append, List.mem_replicate] at h
  obtain ⟨-, rfl⟩ | h := h
  · rfl
  · have hdigit := Nat.isDigit_of_mem_toDigits (by decide) (by decide) h
    simpa [isAsciiDigit, Char.isDigit, Char.le_def, UInt32.le_iff_toNat_le] using hdigit

theorem ne_of_isAsciiDigit {c d : Char} (hd : isAsciiDigit d = false)
    (hc : isAsciiDigit c = true) : c ≠ d := by
  rintro rfl
  rw [hc] at hd
  cases hd

theorem natOfAsciiDigits_padded (width n : Nat) : natOfAsciiDigits (padded width n).toList = n := by
  have hzeros : ∀ k, (List.replicate k '0').foldl (fun n c => 10 * n + (c.toNat - 48)) 0 = 0 := by
    intro k
    induction k with
    | zero => rfl
    | succ k ih =>
      rw [List.replicate_succ, List.foldl_cons]
      exact ih
  rw [natOfAsciiDigits, toList_padded, List.foldl_append, hzeros]
  exact Nat.ofDigitChars_toDigits (by decide) (by decide)

end Text

namespace Timestamp.Iso

/-! ## Reading what is written -/

theorem digits?_padded (width : Nat) {n : Nat} (hwidth : 0 < width) (h : n < Nat.pow 10 width)
    (rest : List Char) : digits? width ((Text.padded width n).toList ++ rest) = some (n, rest) := by
  have hlength := Text.length_padded width hwidth h
  have htake : ((Text.padded width n).toList ++ rest).take width = (Text.padded width n).toList :=
    List.take_left' hlength
  have hdrop : ((Text.padded width n).toList ++ rest).drop width = rest := List.drop_left' hlength
  have hdigits : (Text.padded width n).toList.all Text.isAsciiDigit = true :=
    List.all_eq_true.2 fun c hc => Text.isAsciiDigit_of_mem_padded hc
  simp [digits?, htake, hdrop, hlength, hdigits, Text.natOfAsciiDigits_padded]

/-- What begins with a padded number begins with a digit. -/
theorem isAsciiDigit_head_padded (width : Nat) {n : Nat} (hwidth : 0 < width)
    (h : n < Nat.pow 10 width) (rest : List Char) :
    Text.isAsciiDigit (head ((Text.padded width n).toList ++ rest)) = true := by
  have hlength := Text.length_padded width hwidth h
  cases hdigits : (Text.padded width n).toList with
  | nil =>
    rw [hdigits] at hlength
    exact absurd hlength (Nat.ne_of_lt hwidth)
  | cons c cs => exact Text.isAsciiDigit_of_mem_padded (hdigits ▸ List.mem_cons_self)

theorem head_padded_ne (width : Nat) {n : Nat} (hwidth : 0 < width) (h : n < Nat.pow 10 width)
    (rest : List Char) {c : Char} (hc : Text.isAsciiDigit c = false) :
    (head ((Text.padded width n).toList ++ rest) == c) = false := by
  have hdigit := isAsciiDigit_head_padded width hwidth h rest
  exact beq_eq_false_iff_ne.2 (Text.ne_of_isAsciiDigit hc hdigit)

theorem padded_append_ne_nil (width : Nat) {n : Nat} (hwidth : 0 < width) (h : n < Nat.pow 10 width)
    (rest : List Char) : (Text.padded width n).toList ++ rest ≠ [] := by
  have hlength := Text.length_padded width hwidth h
  rw [← List.length_pos_iff, List.length_append]
  omega

/-! ## Dates -/

theorem head_cons_beq (c : Char) (cs : List Char) : (head (c :: cs) == c) = true :=
  beq_self_eq_true c

theorem separator?_cons (cs : List Char) : separator? true ('-' :: cs) = some cs := rfl

theorem date?_padded {year month day : Nat} (hyear : year < 10000) (hmonth : month < 100)
    (hday : day < 100) :
    date? ((Text.padded 4 year).toList ++ '-' :: ((Text.padded 2 month).toList ++
      '-' :: (Text.padded 2 day).toList)) = some (year, month, day) := by
  have hyearRead := digits?_padded 4 (by decide) hyear
    ('-' :: ((Text.padded 2 month).toList ++ '-' :: (Text.padded 2 day).toList))
  have hweek := head_padded_ne 2 (by decide) hmonth ('-' :: (Text.padded 2 day).toList)
    (c := 'W') rfl
  have hmonthRead := digits?_padded 2 (by decide) hmonth ('-' :: (Text.padded 2 day).toList)
  have hdayRead := digits?_padded 2 (by decide) hday []
  rw [List.append_nil] at hdayRead
  rw [date?, hyearRead, Option.bind_eq_bind, Option.bind_some]
  simp only [head_cons_beq, ite_true, List.drop_one, List.tail_cons, hweek]
  rw [if_neg Bool.false_ne_true, hmonthRead, Option.bind_some, separator?_cons, Option.bind_eq_bind,
    Option.bind_some, hdayRead]
  rfl

/-- A date with separators takes ten characters. -/
theorem dateLength?_padded {year month : Nat} (hyear : year < 10000) (hmonth : month < 100)
    {rest : List Char} (hrest : 3 ≤ rest.length) :
    dateLength? ((Text.padded 4 year).toList ++ '-' :: ((Text.padded 2 month).toList ++ rest)) =
      some 10 := by
  have hyearLength := Text.length_padded 4 (by decide) hyear
  have hmonthLength := Text.length_padded 2 (by decide) hmonth
  have hweek := head_padded_ne 2 (by decide) hmonth rest (c := 'W') rfl
  generalize hcs : (Text.padded 4 year).toList ++ '-' :: ((Text.padded 2 month).toList ++ rest) = cs
  have hlength : 10 ≤ cs.length := by
    rw [← hcs, List.length_append, List.length_cons, List.length_append]
    omega
  have hseparator : isAt cs 4 '-' = true := by
    rw [isAt, ← hcs, List.getElem?_append_right (Nat.le_of_eq hyearLength), hyearLength]
    rfl
  -- a digit follows the separator and not the mark of a week
  have hmonthAt : isAt cs 5 'W' = false := by
    rw [isAt, ← hcs, List.getElem?_append_right (by omega), hyearLength]
    revert hweek
    generalize (Text.padded 2 month).toList ++ rest = ds
    cases ds with
    | nil => exact fun _ => rfl
    | cons c cs => exact fun h => h
  rw [dateLength?, if_neg (by omega), if_neg (by omega), if_pos hseparator, hmonthAt]
  rfl

/-! ## Times -/

/-- Hours, minutes, seconds and microseconds fit into the digits they are written with. -/
structure Clock.IsWritable (c : Clock) : Prop where
  hours_lt : c.hours < 100
  minutes_lt : c.minutes < 100
  seconds_lt : c.seconds < 100
  microseconds_lt : c.microseconds < 1000000

/-- Hours and minutes, and what follows them. -/
def shortChars (hours minutes : Nat) (rest : List Char) : List Char :=
  (Text.padded 2 hours).toList ++ ':' :: ((Text.padded 2 minutes).toList ++ rest)

/-- A time down to a fraction of a second. -/
def Clock.chars (c : Clock) : List Char :=
  shortChars c.hours c.minutes
    (':' :: ((Text.padded 2 c.seconds).toList ++ (fractionText c.microseconds).toList))

/-- A part with a colon after it, which the first part may introduce. -/
theorem parts?_padded_colon {n : Nat} (h : n < 100) (remaining : Nat) {colons : Option Bool}
    (hcolons : colons.getD true = true) (parts : List Nat) {rest : List Char} (hrest : rest ≠ []) :
    parts? (remaining + 1) colons parts ((Text.padded 2 n).toList ++ ':' :: rest) =
      parts? remaining (some true) (parts ++ [n]) rest := by
  have hread := digits?_padded 2 (by decide) h (':' :: rest)
  have hlast : isLast (':' :: rest) = false := by
    cases rest with
    | nil => exact absurd rfl hrest
    | cons c cs => rfl
  have hcolon : (head (':' :: rest) == ':') = true := rfl
  rw [parts?, hread, Option.bind_eq_bind, Option.bind_some]
  simp only [hcolon, hcolons, hlast, Bool.and_self, ite_true, List.drop_one, List.tail_cons]
  rw [if_neg Bool.false_ne_true]

theorem fraction?_padded {n : Nat} (h : n < 1000000) (parts : List Nat) :
    fraction? parts (Text.padded 6 n).toList = some (Clock.ofParts parts n, false) := by
  have hread := digits?_padded 6 (by decide) h []
  have hlength := Text.length_padded 6 (by decide) h
  rw [List.append_nil] at hread
  rw [fraction?, hlength, Nat.min_self, hread]
  simp [goesOn, head]

/-- The last part, with a fraction if there is one. -/
theorem parts?_padded_fraction {n micro : Nat} (h : n < 100) (hmicro : micro < 1000000)
    (remaining : Nat) (colons : Option Bool) (parts : List Nat) :
    parts? (remaining + 1) colons parts ((Text.padded 2 n).toList ++ (fractionText micro).toList) =
      some (Clock.ofParts (parts ++ [n]) micro, false) := by
  have hread := digits?_padded 2 (by decide) h (fractionText micro).toList
  rw [parts?, hread, Option.bind_eq_bind, Option.bind_some]
  by_cases hzero : micro = 0
  · rw [hzero]
    rfl
  · have hfraction : (fractionText micro).toList = '.' :: (Text.padded 6 micro).toList := by
      rw [fractionText, if_neg hzero, String.toList_append]
      rfl
    have hlast : isLast ('.' :: (Text.padded 6 micro).toList) = false := by
      have hlength := Text.length_padded 6 (by decide) hmicro
      cases hdigits : (Text.padded 6 micro).toList with
      | nil => simp [hdigits] at hlength
      | cons c cs => rfl
    have hcolon : (head ('.' :: (Text.padded 6 micro).toList) == ':') = false := rfl
    rw [hfraction]
    simp only [hlast, hcolon, head_cons_beq, Bool.and_false, Bool.true_or, Bool.false_eq_true,
      ite_true, ite_false, List.drop_one, List.tail_cons]
    exact fraction?_padded hmicro _

theorem clock?_shortChars {hours minutes : Nat} (hhours : hours < 100) (hminutes : minutes < 100) :
    clock? (shortChars hours minutes []) = some (⟨hours, minutes, 0, 0⟩, false) := by
  have hnone : 0 < 1000000 := by decide
  have hlast := parts?_padded_fraction hminutes hnone 1 (some true) [hours]
  have hempty : (fractionText 0).toList = [] := rfl
  rw [hempty] at hlast
  rw [clock?, shortChars,
    parts?_padded_colon hhours 2 rfl [] (padded_append_ne_nil 2 (by decide) hminutes _)]
  exact hlast

theorem clock?_chars {c : Clock} (h : c.IsWritable) : clock? c.chars = some (c, false) := by
  rw [clock?, Clock.chars, shortChars,
    parts?_padded_colon h.hours_lt 2 rfl [] (padded_append_ne_nil 2 (by decide) h.minutes_lt _),
    parts?_padded_colon h.minutes_lt 1 rfl _ (padded_append_ne_nil 2 (by decide) h.seconds_lt _),
    parts?_padded_fraction h.seconds_lt h.microseconds_lt]
  rfl

section Characters

variable {p : Char → Prop} (hdigit : ∀ c, Text.isAsciiDigit c = true → p c) (hcolon : p ':')

include hdigit hcolon in
theorem forall_mem_shortChars (hours minutes : Nat) {rest : List Char} (hrest : ∀ c ∈ rest, p c) :
    ∀ c ∈ shortChars hours minutes rest, p c := by
  intro c hc
  simp only [shortChars, List.mem_append, List.mem_cons] at hc
  obtain hc | rfl | hc | hc := hc
  · exact hdigit c (Text.isAsciiDigit_of_mem_padded hc)
  · exact hcolon
  · exact hdigit c (Text.isAsciiDigit_of_mem_padded hc)
  · exact hrest c hc

include hdigit in
theorem forall_mem_fractionText (hpoint : p '.') (micro : Nat) :
    ∀ c ∈ (fractionText micro).toList, p c := by
  intro c hc
  rw [fractionText] at hc
  split at hc
  · cases hc
  · rw [String.toList_append, List.mem_append] at hc
    obtain hc | hc := hc
    · rw [List.mem_singleton.1 hc]
      exact hpoint
    · exact hdigit c (Text.isAsciiDigit_of_mem_padded hc)

include hdigit hcolon in
/-- Times are written with digits, colons and a point. -/
theorem Clock.forall_mem_chars (hpoint : p '.') (clock : Clock) : ∀ c ∈ clock.chars, p c := by
  refine forall_mem_shortChars hdigit hcolon _ _ fun c hc => ?_
  rw [List.mem_cons, List.mem_append] at hc
  obtain rfl | hc | hc := hc
  · exact hcolon
  · exact hdigit c (Text.isAsciiDigit_of_mem_padded hc)
  · exact forall_mem_fractionText hdigit hpoint _ c hc

end Characters

theorem isSign_of_isAsciiDigit {c : Char} (h : Text.isAsciiDigit c = true) : isSign c = false := by
  rw [isSign, beq_eq_false_iff_ne.2 (Text.ne_of_isAsciiDigit rfl h),
    beq_eq_false_iff_ne.2 (Text.ne_of_isAsciiDigit rfl h)]
  rfl

/-! ## Distances -/

/-- What is read of a distance: one of less than a second counts as none. -/
def keptDistance (ahead : Int) : Int :=
  if ahead.natAbs < 1000000 then 0 else ahead

theorem keptDistance_eq_iff {ahead : Int} :
    keptDistance ahead = ahead ↔ ahead = 0 ∨ 1000000 ≤ ahead.natAbs := by
  rw [keptDistance]
  split
  · omega
  · omega

/-- The parts of a distance. -/
def clockOf (ahead : Int) : Clock :=
  ⟨ahead.natAbs / 1000000 / 3600, ahead.natAbs / 1000000 / 60 % 60, ahead.natAbs / 1000000 % 60,
    ahead.natAbs % 1000000⟩

theorem isWritable_clockOf {ahead : Int} (h : ahead.natAbs < 360000000000) :
    (clockOf ahead).IsWritable := by
  refine ⟨?_, ?_, ?_, ?_⟩ <;> rw [clockOf] <;> dsimp only <;> omega

/-- The parts of a distance make up what is kept of it. -/
theorem distance_clockOf (ahead : Int) :
    distance (decide (ahead < 0)) (clockOf ahead) = keptDistance ahead := by
  have hseconds : ((ahead.natAbs / 1000000 / 3600 : Nat) : Int) * 3600 +
      (ahead.natAbs / 1000000 / 60 % 60 : Nat) * 60 + (ahead.natAbs / 1000000 % 60 : Nat) =
        (ahead.natAbs / 1000000 : Nat) := by
    omega
  simp only [distance, clockOf, keptDistance, hseconds, perSecond]
  by_cases hsmall : ahead.natAbs < 1000000
  · rw [if_pos hsmall, if_pos (by omega)]
  · rw [if_neg hsmall, if_neg (by omega)]
    by_cases hnegative : ahead < 0
    · simp only [hnegative, decide_true, ite_true]
      omega
    · simp only [hnegative, decide_false, Bool.false_eq_true, ite_false]
      omega

/-- A distance is written as a sign and its parts, of which seconds may be left out. -/
theorem exists_distanceText (ahead : Int) (h : ahead.natAbs < 360000000000) :
    ∃ sign cs, (distanceText ahead).toList = sign :: cs ∧ isSign sign = true ∧
      (sign == '-') = decide (ahead < 0) ∧ clock? cs = some (clockOf ahead, false) ∧
      ∀ c ∈ cs, c ≠ 'Z' := by
  have hsign : ∃ sign, (if ahead < 0 then "-" else "+" : String).toList = [sign] ∧
      isSign sign = true ∧ (sign == '-') = decide (ahead < 0) := by
    by_cases hnegative : ahead < 0
    · exact ⟨'-', by rw [if_pos hnegative]; rfl, rfl, (decide_eq_true hnegative).symm⟩
    · exact ⟨'+', by rw [if_neg hnegative]; rfl, rfl, (decide_eq_false hnegative).symm⟩
  obtain ⟨sign, hchars, hisSign, hminus⟩ := hsign
  have hdigit : ∀ c, Text.isAsciiDigit c = true → c ≠ 'Z' := fun _ hc =>
    Text.ne_of_isAsciiDigit rfl hc
  have hw := isWritable_clockOf h
  -- seconds are written only where the distance has some
  by_cases hwhole : ahead.natAbs / 1000000 % 60 = 0 ∧ ahead.natAbs % 1000000 = 0
  · refine ⟨sign, shortChars (clockOf ahead).hours (clockOf ahead).minutes [], ?_, hisSign, hminus,
      ?_, forall_mem_shortChars hdigit (by decide) _ _ (List.forall_mem_nil _)⟩
    · simp [distanceText, String.toList_append, hchars, hwhole, shortChars, clockOf]
    · have hclock : clockOf ahead = ⟨(clockOf ahead).hours, (clockOf ahead).minutes, 0, 0⟩ := by
        rw [clockOf, hwhole.1, hwhole.2]
      rw [clock?_shortChars hw.hours_lt hw.minutes_lt, ← hclock]
  · refine ⟨sign, (clockOf ahead).chars, ?_, hisSign, hminus, clock?_chars hw,
      Clock.forall_mem_chars hdigit (by decide) (by decide) _⟩
    simp [distanceText, String.toList_append, hchars, hwhole, Clock.chars, shortChars, clockOf]

theorem time?_chars {c : Clock} (hc : c.IsWritable) {ahead : Option Int}
    (h : ∀ a ∈ ahead, a.natAbs < 360000000000) :
    time? (c.chars ++ ((ahead.map distanceText).getD "").toList) =
      some (c, ahead.map keptDistance) := by
  have hsign : ∀ x ∈ c.chars, isSign x = false :=
    Clock.forall_mem_chars (p := fun x => isSign x = false) (fun _ hx => isSign_of_isAsciiDigit hx)
      rfl rfl c
  have hbefore : ∀ x ∈ c.chars, (!isSign x) = true := fun x hx => by
    rw [hsign x hx]
    rfl
  rw [time?, List.takeWhile_append_of_pos hbefore, List.dropWhile_append_of_pos hbefore]
  cases ahead with
  | none =>
    show ((clock? (c.chars ++ [])).bind fun r => if r.2 then none else some (r.1, none)) = _
    rw [List.append_nil, clock?_chars hc]
    rfl
  | some a =>
    obtain ⟨sign, cs, hchars, hisSign, hminus, hread, -⟩ := exists_distanceText a (h a rfl)
    rw [Option.map_some, Option.getD_some, hchars, List.takeWhile_cons, List.dropWhile_cons,
      hisSign]
    simp only [Bool.not_true, Bool.false_eq_true, ite_false, List.append_nil]
    rw [clock?_chars hc, hread, hminus]
    exact congrArg (fun d => some (c, some d)) (distance_clockOf a)

end Timestamp.Iso

/-! ## Timestamps -/

namespace Calendar

theorem daysInMonth_le (year month : Nat) : daysInMonth year month ≤ 31 := by
  have hall : ∀ d ∈ monthLengths year, d ≤ 31 := by
    cases hleap : isLeap year <;> simp [monthLengths, hleap]
  rw [daysInMonth]
  split
  · exact Nat.zero_le _
  · rw [List.getD_eq_getElem?_getD]
    cases hget : (monthLengths year)[month - 1]? with
    | none => exact Nat.zero_le _
    | some d => exact hall d (List.mem_of_getElem? hget)

end Calendar

namespace Timestamp

open Iso

variable {t : Timestamp}

theorem inRange_iff : t.inRange = true ↔ 1 ≤ t.year ∧ t.year ≤ 9999 ∧ 1 ≤ t.month ∧ t.month ≤ 12 ∧
    1 ≤ t.day ∧ t.day ≤ Calendar.daysInMonth t.year t.month ∧ t.hour < 24 ∧ t.minute < 60 ∧
    t.second < 60 ∧ t.microsecond < 1000000 ∧ ∀ a ∈ t.ahead, -perDay < a ∧ a < perDay := by
  simp [inRange, Option.all_eq_true, and_assoc]

/-- The time of day shown. -/
def clock (t : Timestamp) : Clock :=
  ⟨t.hour, t.minute, t.second, t.microsecond⟩

/-- The date shown. -/
def dateChars (t : Timestamp) : List Char :=
  (Text.padded 4 t.year).toList ++ '-' :: ((Text.padded 2 t.month).toList ++
    '-' :: (Text.padded 2 t.day).toList)

theorem toList_localText (t : Timestamp) :
    t.localText.toList = t.dateChars ++ 'T' :: t.clock.chars := by
  simp [localText, dateChars, clock, Clock.chars, shortChars]

theorem date_lt (h : t.inRange = true) : t.year < 10000 ∧ t.month < 100 ∧ t.day < 100 := by
  obtain ⟨-, hyear, -, hmonth, -, hday, -⟩ := inRange_iff.1 h
  have hlongest := Calendar.daysInMonth_le t.year t.month
  omega

theorem date?_dateChars (h : t.inRange = true) :
    date? t.dateChars = some (t.year, t.month, t.day) := by
  obtain ⟨hyear, hmonth, hday⟩ := date_lt h
  exact date?_padded hyear hmonth hday

theorem length_dateChars (h : t.inRange = true) : t.dateChars.length = 10 := by
  obtain ⟨hyear, hmonth, hday⟩ := date_lt h
  rw [dateChars, List.length_append, List.length_cons, List.length_append, List.length_cons,
    Text.length_padded 4 (by decide) hyear, Text.length_padded 2 (by decide) hmonth,
    Text.length_padded 2 (by decide) hday]

theorem dateLength?_dateChars (h : t.inRange = true) (time : List Char) :
    dateLength? (t.dateChars ++ 'T' :: time) = some 10 := by
  obtain ⟨hyear, hmonth, hday⟩ := date_lt h
  have hlength := Text.length_padded 2 (by decide) hday
  simp only [dateChars, List.append_assoc, List.cons_append]
  refine dateLength?_padded hyear hmonth ?_
  rw [List.length_cons, List.length_append]
  omega

theorem isWritable_clock (h : t.inRange = true) : t.clock.IsWritable := by
  obtain ⟨-, -, -, -, -, -, hhour, hminute, hsecond, hmicrosecond, -⟩ := inRange_iff.1 h
  exact ⟨Nat.lt_trans hhour (by decide), Nat.lt_trans hminute (by decide),
    Nat.lt_trans hsecond (by decide), hmicrosecond⟩

theorem natAbs_ahead_lt (h : t.inRange = true) : ∀ a ∈ t.ahead, a.natAbs < 360000000000 := by
  obtain ⟨-, -, -, -, -, -, -, -, -, -, hahead⟩ := inRange_iff.1 h
  intro a ha
  have hbounds := hahead a ha
  simp only [perDay, perSecond] at hbounds
  omega

/-- No letter but `T` occurs in a timestamp. -/
theorem ne_of_mem_iso (h : t.inRange = true) : ∀ c ∈ t.iso.toList, c ≠ 'Z' := by
  have hdigit : ∀ c, Text.isAsciiDigit c = true → c ≠ 'Z' := fun _ hc =>
    Text.ne_of_isAsciiDigit rfl hc
  have hpadded : ∀ width n, ∀ c ∈ (Text.padded width n).toList, c ≠ 'Z' := fun _ _ c hc =>
    hdigit c (Text.isAsciiDigit_of_mem_padded hc)
  intro c hc
  rw [iso, String.toList_append, toList_localText] at hc
  simp only [dateChars, List.mem_append, List.mem_cons] at hc
  obtain (((hc | rfl | hc | rfl | hc) | rfl | hc) | hc) := hc
  · exact hpadded _ _ c hc
  · decide
  · exact hpadded _ _ c hc
  · decide
  · exact hpadded _ _ c hc
  · decide
  · exact Clock.forall_mem_chars hdigit (by decide) (by decide) _ c hc
  · cases hahead : t.ahead with
    | none =>
      rw [hahead] at hc
      cases hc
    | some a =>
      obtain ⟨sign, cs, hchars, hisSign, -, -, hrest⟩ :=
        exists_distanceText a (natAbs_ahead_lt h a hahead)
      rw [hahead, Option.map_some, Option.getD_some, hchars, List.mem_cons] at hc
      obtain rfl | hc := hc
      · rintro rfl
        cases hisSign
      · exact hrest c hc

/-- The timestamp as it is read again. -/
def kept (t : Timestamp) : Timestamp :=
  { t with ahead := t.ahead.map keptDistance }

theorem inRange_kept (h : t.inRange = true) : t.kept.inRange = true := by
  obtain ⟨hyear, hyear', hmonth, hmonth', hday, hday', hhour, hminute, hsecond, hmicrosecond,
    hahead⟩ := inRange_iff.1 h
  refine inRange_iff.2 ⟨hyear, hyear', hmonth, hmonth', hday, hday', hhour, hminute, hsecond,
    hmicrosecond, fun d hd => ?_⟩
  obtain ⟨a, ha, rfl⟩ := Option.map_eq_some_iff.1 hd
  rw [keptDistance]
  split
  · decide
  · exact hahead a ha

theorem ofChars?_iso (h : t.inRange = true) : ofChars? t.iso.toList = some t.kept := by
  have htext : t.iso.toList =
      t.dateChars ++ 'T' :: (t.clock.chars ++ ((t.ahead.map distanceText).getD "").toList) := by
    rw [iso, String.toList_append, toList_localText, List.append_assoc, List.cons_append]
  have hlength := length_dateChars h
  have htime := time?_chars (isWritable_clock h) (natAbs_ahead_lt h)
  rw [htext, ofChars?, dateLength?_dateChars h, Option.bind_eq_bind, Option.bind_some,
    List.take_left' hlength, List.drop_left' hlength, date?_dateChars h]
  simp only [rest?, htime, Option.bind_eq_bind, Option.bind_some]
  exact if_pos (inRange_kept h)

/-- A timestamp is read from its text, without a distance of less than a second. -/
theorem ofIso?_iso (h : t.inRange = true) : ofIso? t.iso = some t.kept := by
  have hplain : (t.iso.toList.flatMap fun c =>
      if c == 'Z' then ['+', '0', '0', ':', '0', '0'] else [c]) = t.iso.toList := by
    have hchar : ∀ c ∈ t.iso.toList,
        (if c == 'Z' then ['+', '0', '0', ':', '0', '0'] else [c]) = [c] :=
      fun c hc => if_neg (by simpa using ne_of_mem_iso h c hc)
    rw [List.flatMap_congr hchar]
    exact List.flatMap_singleton' _
  rw [ofIso?, hplain]
  exact ofChars?_iso h

/-- Reading gives the timestamp back just if its distance is not less than a second, or none. -/
theorem ofIso?_iso_eq_some_iff (h : t.inRange = true) :
    ofIso? t.iso = some t ↔ ∀ a ∈ t.ahead, a = 0 ∨ 1000000 ≤ a.natAbs := by
  have hkept : t.kept = t ↔ t.ahead.map keptDistance = t.ahead :=
    ⟨congrArg ahead, fun hahead => by rw [kept, hahead]⟩
  rw [ofIso?_iso h, Option.some_inj, hkept]
  cases t.ahead with
  | none => simp
  | some a => simp [keptDistance_eq_iff]

end Timestamp

end WorkflowGraph
