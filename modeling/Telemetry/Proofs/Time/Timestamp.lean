import Telemetry.Proofs.Number.Digits
import Telemetry.Proofs.Time.Calendar
import Telemetry.Time.Timestamp

/-! # Written instants read back

The text of an instant names that instant (`read_write`): with a year of any sign and length, with
any shortened fraction, and in a leap second.

The text is taken apart piece by piece, each with the rest of the text behind it: the year up to the
sign that follows it, fields of two digits, and a fraction up to the zone.  What has to be known of
the parts of an instant for that is that they are in their ranges (`Writable`), which the calendar
says of the date; a leap second is a fraction beyond one second in the last second of a minute.
-/

namespace Telemetry.Timestamp

/-! ## Pieces of a text -/

theorem trimStart_cons {c : Char} {s : List Char} (h : Text.isBlank c = false) :
    Text.trimStart (c :: s) = c :: s :=
  List.dropWhile_cons_of_neg (by simp [h])

theorem isBlank_of_isDecimal {c : Char} (h : Digits.isDecimal c) : Text.isBlank c = false := by
  have hrange : 48 ≤ c.toNat ∧ c.toNat ≤ 57 := by
    simpa [Digits.isDecimal, Char.le_def, UInt32.le_iff_toNat_le] using h
  simp [Text.isBlank]
  omega

theorem number_digits {ds : List Char} (hds : ∀ c ∈ ds, Digits.isDecimal c) (hne : ds ≠ [])
    {most : Nat} {rest : List Char} (hmost : ds.length ≤ most)
    (hends : ds.length = most ∨ Digits.Ends rest) :
    number most (ds ++ rest) = some (Digits.value ds, rest) := by
  have hrun : ((ds ++ rest).take most).takeWhile Digits.isDecimal = ds := by
    rw [List.take_append, List.take_of_length_le hmost]
    refine Digits.takeWhile_isDecimal hds ?_
    rcases hends with hfull | hends
    · simp [hfull, Digits.ends_nil]
    · intro c hc
      rcases Nat.eq_zero_or_pos (most - ds.length) with hzero | hpos
      · simp [hzero] at hc
      · rw [List.head?_take, if_neg (by omega)] at hc
        exact hends c hc
  simp [number, hrun, hne]

theorem separator_cons {c : Char} (h : Text.isBlank c = false) (rest : List Char) :
    separator c (c :: rest) = some rest := by
  simp [separator, trimStart_cons h]

theorem trimStart_digits {ds : List Char} (hds : ∀ c ∈ ds, Digits.isDecimal c) (hne : ds ≠ [])
    (rest : List Char) : Text.trimStart (ds ++ rest) = ds ++ rest := by
  cases ds with
  | nil => exact absurd rfl hne
  | cons d ds => exact trimStart_cons (isBlank_of_isDecimal (hds d List.mem_cons_self))

/-- A number of two digits reads back, within its bounds, and no digit behind it is taken. -/
theorem field_fixed {low high n : Nat} (hlow : low ≤ n) (hhigh : n ≤ high) (hlt : n < 100)
    (rest : List Char) : field low high (Digits.fixed 10 2 n ++ rest) = some (n, rest) := by
  have hds : ∀ c ∈ Digits.fixed 10 2 n, Digits.isDecimal c :=
    fun c hc => Digits.isDecimal_of_mem_fixed hc
  have hlength := Digits.length_fixed 10 2 n
  have hne : Digits.fixed 10 2 n ≠ [] := List.ne_nil_of_length_pos (by omega)
  have hvalue : Digits.value (Digits.fixed 10 2 n) = n := Digits.value_fixed (by omega)
  simp [field, trimStart_digits hds hne,
    number_digits hds hne (Nat.le_of_eq hlength) (.inl hlength), hvalue, hlow, hhigh]

/-- A year reads back up to the sign behind it, with a sign of its own when it is negative or beyond
four digits. -/
theorem year_yearText (y : Int) (rest : List Char) :
    year (yearText y ++ '-' :: rest) = some (y, '-' :: rest) := by
  have hds : ∀ c ∈ Digits.padded 4 y.natAbs, Digits.isDecimal c :=
    fun c hc => Digits.isDecimal_of_mem_padded hc
  have hne := Digits.padded_ne_nil 4 y.natAbs
  have hvalue := Digits.value_padded 4 y.natAbs
  unfold yearText
  -- four digits are read as such, and behind a sign all digits up to the next one
  by_cases hplain : 0 ≤ y ∧ y ≤ 9999
  · have hlength : (Digits.padded 4 y.natAbs).length = 4 :=
      Digits.length_padded (by decide) (by omega)
    have hnumber : number 4 (Digits.padded 4 y.natAbs ++ '-' :: rest) =
        some (y.natAbs, '-' :: rest) := by
      rw [number_digits hds hne (Nat.le_of_eq hlength) (.inl hlength), hvalue]
    rw [if_pos hplain]
    cases hpadded : Digits.padded 4 y.natAbs with
    | nil => exact absurd hpadded hne
    | cons d ds =>
      rw [hpadded] at hnumber hds
      have hdecimal : Digits.isDecimal d := hds d List.mem_cons_self
      have hsign := Digits.ne_sign_of_isDecimal hdecimal
      simp only [List.cons_append] at hnumber ⊢
      simp [year, trimStart_cons (isBlank_of_isDecimal hdecimal), hsign.1, hsign.2, hnumber]
      omega
  · have hnumber : number (Digits.padded 4 y.natAbs ++ '-' :: rest).length
        (Digits.padded 4 y.natAbs ++ '-' :: rest) = some (y.natAbs, '-' :: rest) := by
      rw [number_digits hds hne (by simp) (.inr (Digits.ends_cons.mpr (by decide))), hvalue]
    rw [if_neg hplain]
    by_cases hneg : y < 0
    · rw [if_pos hneg, List.cons_append, year, trimStart_cons (by decide)]
      simp only [hnumber, Option.map_some]
      congr 2
      omega
    · rw [if_neg hneg, List.cons_append, year, trimStart_cons (by decide)]
      simp only [hnumber, Option.map_some]
      congr 2
      omega

/-- A fraction reads back up to the zone, whichever of its digits were left out. -/
theorem nanos_fraction {n : Nat} (h : n < 1000000000) (rest : List Char) :
    nanos (fraction n ++ 'Z' :: rest) = some (n, 'Z' :: rest) := by
  have hends : Digits.Ends ('Z' :: rest) := Digits.ends_cons.mpr (by decide)
  have hdigits (width m : Nat) (hwidth : 0 < width) (hwidth' : width ≤ 9) (hm : m < 10 ^ width) :
      nanos ('.' :: Digits.fixed 10 width m ++ 'Z' :: rest) =
        some (m * 10 ^ (9 - width), 'Z' :: rest) := by
    have hds : ∀ c ∈ Digits.fixed 10 width m, Digits.isDecimal c :=
      fun c hc => Digits.isDecimal_of_mem_fixed hc
    have hlength := Digits.length_fixed 10 width m
    have hne : Digits.fixed 10 width m ≠ [] := List.ne_nil_of_length_pos (by omega)
    have hvalue : Digits.value ((Digits.fixed 10 width m ++ List.replicate 9 '0').take 9) =
        m * 10 ^ (9 - width) := by
      rw [List.take_append, List.take_of_length_le (by omega), hlength, List.take_replicate,
        Nat.min_eq_left (by omega), Digits.value_append, Digits.value_fixed hm,
        Digits.valueFrom_zeros]
    simp only [nanos, List.cons_append, Digits.takeWhile_isDecimal hds hends, hvalue,
      List.isEmpty_iff, hne, if_false, List.drop_left]
  unfold fraction
  split
  next hzero =>
    subst hzero
    rfl
  split
  next hmillis =>
    rw [hdigits 3 _ (by decide) (by decide) (by omega)]
    simp
    omega
  split
  next hmicros =>
    rw [hdigits 6 _ (by decide) (by decide) (by omega)]
    simp
    omega
  next =>
    rw [hdigits 9 _ (by decide) (by decide) (by omega)]
    simp

/-! ## Whole texts -/

/-- The parts of an instant as they are written: a date of the calendar, a time of day, and a
second that only in the last one of a minute may be a leap second. -/
structure Writable (c : CivilTime) : Prop where
  month : 1 ≤ c.date.month ∧ c.date.month ≤ 12
  day : 1 ≤ c.date.day ∧ c.date.day ≤ 31
  hour : c.hour ≤ 23
  minute : c.minute ≤ 59
  second : c.second ≤ 59
  nanos : c.nanos < 1000000000 ∨ (c.nanos < 2000000000 ∧ c.second = 59)

/-- The parts of an instant read back, at no offset from UTC. -/
theorem civil_write {c : CivilTime} (h : Writable c) :
    civil (dateText c.date ++ 'T' :: clockText c ++ ['Z']) = some (c, 0, []) := by
  have hmonth := h.month
  have hday := h.day
  have hhour := h.hour
  have hminute := h.minute
  have hsecond := h.second
  have hnanos := h.nanos
  -- what is written for the second and its fraction
  obtain ⟨leap, hleap⟩ : ∃ b, b = decide (1000000000 ≤ c.nanos) := ⟨_, rfl⟩
  obtain ⟨second, hwrittenSecond⟩ : ∃ n, n = if leap then c.second + 1 else c.second := ⟨_, rfl⟩
  obtain ⟨part, hwrittenPart⟩ : ∃ n, n = if leap then c.nanos - 1000000000 else c.nanos :=
    ⟨_, rfl⟩
  have hbounds : second ≤ 60 ∧ part < 1000000000 := by
    cases leap <;> simp at hleap hwrittenSecond hwrittenPart <;> omega
  have hrestored : (⟨c.date, c.hour, c.minute, if second = 60 then 59 else second,
      if second = 60 then part + 1000000000 else part⟩ : CivilTime) = c := by
    cases leap <;> simp at hleap hwrittenSecond hwrittenPart
    · rw [if_neg (by omega), if_neg (by omega), hwrittenSecond, hwrittenPart]
    · rw [if_pos (by omega), if_pos (by omega), show part + 1000000000 = c.nanos by omega,
        show 59 = c.second by omega]
  have htext : dateText c.date ++ 'T' :: clockText c ++ ['Z'] =
      yearText c.date.year ++ '-' :: (Digits.fixed 10 2 c.date.month ++
        '-' :: (Digits.fixed 10 2 c.date.day ++ 'T' :: (Digits.fixed 10 2 c.hour ++
          ':' :: (Digits.fixed 10 2 c.minute ++ ':' :: (Digits.fixed 10 2 second ++
            (fraction part ++ ['Z'])))))) := by
    simp only [dateText, clockText, ← hleap, ← hwrittenSecond, ← hwrittenPart, List.append_assoc,
      List.cons_append]
  rw [htext]
  unfold civil
  dsimp only [Option.bind_eq_bind]
  rw [year_yearText, Option.bind_some, separator_cons (by decide), Option.bind_some,
    field_fixed hmonth.1 hmonth.2 (by omega), Option.bind_some, separator_cons (by decide),
    Option.bind_some, field_fixed hday.1 hday.2 (by omega), Option.bind_some, dateEnd,
    Option.bind_some, field_fixed (Nat.zero_le _) hhour (by omega), Option.bind_some,
    separator_cons (by decide), Option.bind_some, field_fixed (Nat.zero_le _) hminute (by omega),
    Option.bind_some, separator_cons (by decide), Option.bind_some,
    field_fixed (Nat.zero_le _) hbounds.1 (by omega), Option.bind_some, nanos_fraction hbounds.2,
    Option.bind_some]
  simpa [Text.trimStart, Text.isBlank, zone, startsWithUtc, guard] using hrestored

theorem writable_ofInstant (t : Instant) : Writable (CivilTime.ofInstant t) := by
  obtain ⟨hmonth, hmonth', hday, hday'⟩ := Date.bounds_of_isValid (Date.isValid_ofDays _)
  have hnanos := t.nanosBound
  refine ⟨⟨hmonth, hmonth'⟩, ⟨hday, hday'⟩, ?_, ?_, ?_, ?_⟩ <;> simp only [CivilTime.ofInstant] <;>
    omega

/-- The parts of an instant in UTC make up that instant, by the count of its days and the second of
its day. -/
theorem toInstant?_ofInstant (t : Instant) : (CivilTime.ofInstant t).toInstant? 0 = some t := by
  have hseconds : (Date.ofDays (t.seconds / 86400)).toDays * 86400 +
      ((t.seconds % 86400).toNat / 3600 : Nat) * 3600 +
      ((t.seconds % 86400).toNat / 60 % 60 : Nat) * 60 + ((t.seconds % 86400).toNat % 60 : Nat) =
        t.seconds := by
    rw [Date.toDays_ofDays]
    omega
  have hparts : Instant.ofParts? t.seconds t.nanos = some t :=
    Instant.ofParts?_eq_some.mpr ⟨rfl, rfl⟩
  simp only [CivilTime.toInstant?, CivilTime.ofInstant, Date.isValid_ofDays, hseconds, Int.sub_zero,
    hparts]
  rfl

/-- **The text of an instant names that instant**, for every instant that there is. -/
theorem read_write (t : Instant) : read (write t) = some t := by
  unfold read write
  dsimp only [Option.bind_eq_bind]
  rw [civil_write (writable_ofInstant t), Option.bind_some, toInstant?_ofInstant]
  rfl

end Telemetry.Timestamp
