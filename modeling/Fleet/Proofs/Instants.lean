import Fleet.Proofs.Calendar
import Fleet.Proofs.Digits

/-!
# Instants written and read

Each part of a written instant is read back with what follows it left over, so the whole text is read
back as the instant. What a lenient reading gives, from whatever text, is such an instant.
-/

namespace Fleet.Instant

open Fleet.Text

/-! ## Blanks and digits -/

theorem skipBlanks_cons {c : Char} (h : isBlank c = false) (rest : List Char) :
    skipBlanks (c :: rest) = c :: rest := by
  simp [skipBlanks, h]

section

variable {digits rest : List Char}

theorem takeDigits_append (hne : digits ≠ []) (hdigits : ∀ c ∈ digits, c.isDigit = true)
    (hrest : rest.takeWhile Char.isDigit = []) :
    takeDigits (digits ++ rest) = some (digits, rest) := by
  simp [takeDigits, takeWhile_digits_append hdigits hrest, hne]

theorem skipBlanks_digits (hne : digits ≠ []) (hdigits : ∀ c ∈ digits, c.isDigit = true) :
    skipBlanks (digits ++ rest) = digits ++ rest := by
  cases digits with
  | nil => exact absurd rfl hne
  | cons c digits =>
    exact skipBlanks_cons (isBlank_eq_false_of_isDigit (hdigits c List.mem_cons_self)) _

end

section

variable {width n : Nat} {c : Char} {rest : List Char}

theorem isDigit_of_mem_padded (h : c ∈ padded width n) : c.isDigit = true :=
  isDigit_of_mem_zeros_append h

theorem padded_ne_nil : padded width n ≠ [] :=
  List.append_ne_nil_of_right_ne_nil _ Nat.toDigits_ne_nil

theorem exists_padded_eq_cons (width n : Nat) :
    ∃ c digits, padded width n = c :: digits ∧ c.isDigit = true := by
  obtain ⟨c, digits, heq⟩ := List.exists_cons_of_ne_nil (padded_ne_nil : padded width n ≠ [])
  have hc : c ∈ padded width n := heq ▸ List.mem_cons_self
  exact ⟨c, digits, heq, isDigit_of_mem_padded hc⟩

theorem ofDigits_padded : ofDigits (padded width n) = n :=
  ofDigits_zeros_append _ n

theorem length_padded (hwidth : 0 < width) (h : n < 10 ^ width) : (padded width n).length = width :=
  length_fill (by decide) hwidth h

/-- A number of the full width is read back whatever follows it. -/
theorem takeNumber_padded (hwidth : 0 < width) (h : n < 10 ^ width) :
    takeNumber width (padded width n ++ rest) = some (n, rest) := by
  have hlength := length_padded hwidth h
  have hdigits : takeDigits (padded width n ++ []) = some (padded width n, []) :=
    takeDigits_append padded_ne_nil (fun _ => isDigit_of_mem_padded) rfl
  rw [List.append_nil] at hdigits
  simp [takeNumber, skipBlanks_digits padded_ne_nil (fun _ => isDigit_of_mem_padded (n := n)),
    hlength, hdigits, ofDigits_padded]

end

/-! ## The parts of an instant -/

section

variable {rest : List Char}

/-- A year is read back where something other than a digit follows. -/
theorem takeYear_writeYear (year : Int) (hrest : rest.takeWhile Char.isDigit = []) :
    takeYear (writeYear year ++ rest) = some (year, rest) := by
  simp only [writeYear]
  split
  · rename_i hfour
    have hnumber : takeNumber 4 (padded 4 year.toNat ++ rest) = some (year.toNat, rest) :=
      takeNumber_padded (by decide) (by omega)
    have hskip : skipBlanks (padded 4 year.toNat ++ rest) = padded 4 year.toNat ++ rest :=
      skipBlanks_digits padded_ne_nil fun _ => isDigit_of_mem_padded
    obtain ⟨c, digits, hpadded, hc⟩ := exists_padded_eq_cons 4 year.toNat
    rw [takeYear, hskip]
    rw [hpadded] at hnumber ⊢
    simp only [List.cons_append] at hnumber ⊢
    split
    · rename_i heq
      cases heq
      cases hc
    · rename_i heq
      cases heq
      cases hc
    · simp only [hnumber, Option.map_some, Option.some.injEq, Prod.mk.injEq, and_true]
      omega
  · rename_i hsigned
    have hdigits : takeDigits (padded 4 year.natAbs ++ rest) = some (padded 4 year.natAbs, rest) :=
      takeDigits_append padded_ne_nil (fun _ => isDigit_of_mem_padded) hrest
    split
    · have hblank : isBlank '-' = false := by decide
      simp only [List.cons_append, takeYear, skipBlanks_cons hblank, hdigits, Option.map_some,
        ofDigits_padded, Option.some.injEq, Prod.mk.injEq, and_true]
      omega
    · have hblank : isBlank '+' = false := by decide
      simp only [List.cons_append, takeYear, skipBlanks_cons hblank, hdigits, Option.map_some,
        ofDigits_padded, Option.some.injEq, Prod.mk.injEq, and_true]
      omega

/-- Decimals count in nanoseconds what is missing to nine of them. -/
theorem takeFraction_padded {width n : Nat} (hwidth : 0 < width) (hnine : width ≤ 9)
    (h : n < 10 ^ width) (hrest : rest.takeWhile Char.isDigit = []) :
    takeFraction ('.' :: (padded width n ++ rest)) = some (n * 10 ^ (9 - width), rest) := by
  have hdigits : takeDigits (padded width n ++ rest) = some (padded width n, rest) :=
    takeDigits_append padded_ne_nil (fun _ => isDigit_of_mem_padded) hrest
  have hlength := length_padded hwidth h
  have hkept : (padded width n).take 9 = padded width n := List.take_of_length_le (by omega)
  simp only [takeFraction, hdigits, Option.map_some, hkept, ofDigits_padded, hlength, Nat.pow_eq]

/-- The decimals that are left out are zeros. -/
theorem takeFraction_writeFraction {nanos : Nat} (h : nanos < nanosPerSecond) :
    takeFraction (writeFraction nanos ++ ['Z']) = some (nanos, ['Z']) := by
  simp only [nanosPerSecond] at h
  simp only [writeFraction]
  split
  · rename_i hzero
    rw [hzero]
    rfl
  · split
    · rw [List.cons_append, takeFraction_padded (by decide) (by decide) (by omega) rfl]
      simp only [Option.some.injEq, Prod.mk.injEq, and_true]
      omega
    · split
      · rw [List.cons_append, takeFraction_padded (by decide) (by decide) (by omega) rfl]
        simp only [Option.some.injEq, Prod.mk.injEq, and_true]
        omega
      · rw [List.cons_append, takeFraction_padded (by decide) (by decide) (by omega) rfl]
        simp

theorem lt_of_takeFraction {text : List Char} {nanos : Nat}
    (h : takeFraction text = some (nanos, rest)) : nanos < nanosPerSecond := by
  unfold takeFraction at h
  split at h
  · rename_i decimals
    obtain ⟨⟨digits, after⟩, hdigits, heq⟩ := Option.map_eq_some_iff.1 h
    simp only [Prod.mk.injEq] at heq
    have hkept : ∀ c ∈ digits.take 9, c.isDigit = true := by
      intro c hc
      simp only [takeDigits] at hdigits
      split at hdigits
      · cases hdigits
      · cases hdigits
        exact List.all_eq_true.1 List.all_takeWhile c (List.mem_of_mem_take hc)
    have hlt := ofDigits_lt hkept
    have hlength : (digits.take 9).length ≤ 9 := List.length_take_le 9 digits
    calc nanos = ofDigits (digits.take 9) * 10 ^ (9 - (digits.take 9).length) := heq.1.symm
      _ < 10 ^ (digits.take 9).length * 10 ^ (9 - (digits.take 9).length) :=
          Nat.mul_lt_mul_of_pos_right hlt (Nat.pow_pos (by decide))
      _ = nanosPerSecond := by rw [← Nat.pow_add, Nat.add_sub_cancel' hlength]; rfl
  · cases h
    decide

/-- Offsets are of whole minutes. -/
theorem minutes_of_takeOffset {text : List Char} {offset : Int}
    (h : takeOffset text = some (offset, rest)) : offset % 60 = 0 := by
  obtain ⟨sign, hours, minutes, rfl⟩ :
      ∃ (sign : Int) (hours minutes : Nat), offset = sign * (hours * 3600 + minutes * 60) := by
    simp only [takeOffset, Option.bind_eq_bind] at h
    split at h
    case h_4 => cases h
    all_goals
      simp only [Option.bind_some, Option.bind_eq_some_iff, Prod.exists, Option.some.injEq,
        Prod.mk.injEq] at h
      obtain ⟨hours, _, -, minutes, _, -, heq, -⟩ := h
      exact ⟨_, hours, minutes, heq.symm⟩
  have hsixty : sign * ((hours : Int) * 3600 + minutes * 60) = 60 * (sign * (hours * 60 + minutes)) := by
    ring
  rw [hsixty]
  exact Int.mul_emod_right _ _

theorem minutes_of_takeZone {text : List Char} {offset : Int}
    (h : takeZone text = some (offset, rest)) : offset % 60 = 0 := by
  unfold takeZone at h
  split at h
  · cases h
    rfl
  · cases h
    rfl
  · split at h
    · cases h
      rfl
    · exact minutes_of_takeOffset h

end

/-! ## Dates with a time of day -/

/-- The text of a date with a time of day in UTC. -/
def layout (date : Date) (hour minute second nanos : Nat) : List Char :=
  writeYear date.year ++ '-' :: (padded 2 date.month ++ '-' :: (padded 2 date.day ++ 'T' ::
    (padded 2 hour ++ ':' :: (padded 2 minute ++ ':' :: (padded 2 second ++
      (writeFraction nanos ++ ['Z']))))))

/-- A date with a time of day is read as the instant that it counts to; the sixtieth second of a minute
is a leap second, and no other is. -/
theorem read?_layout {date : Date} {hour minute second nanos : Nat} (hdate : date.exists? = true)
    (hyear : yearInRange date.year = true) (hhour : hour < 24) (hminute : minute < 60)
    (hsecond : second ≤ 60) (hnanos : nanos < nanosPerSecond) (seconds : Int)
    (hseconds : seconds = date.dayNumber * 86400 + hour * 3600 + minute * 60 + second)
    (hutc : yearInRange (Date.ofDayNumber ((seconds - second / 60) / 86400)).year = true) :
    read? (String.ofList (layout date hour minute second nanos)) =
      some ⟨seconds * nanosPerSecond + nanos, second = 60⟩ := by
  have htwo (n : Nat) (h : n < 100) (rest : List Char) :
      takeNumber 2 (padded 2 n ++ rest) = some (n, rest) := takeNumber_padded (by decide) h
  obtain ⟨hmonth, hday⟩ := Date.lt_of_exists hdate
  have hdash (rest : List Char) : skip '-' (skipBlanks ('-' :: rest)) = some rest := rfl
  have hcolon (rest : List Char) : skip ':' (skipBlanks (':' :: rest)) = some rest := rfl
  unfold read? layout
  rw [String.toList_ofList]
  refine Option.bind_eq_some_iff.2 ⟨_, takeYear_writeYear _ rfl, ?_⟩
  refine Option.bind_eq_some_iff.2 ⟨_, hdash _, Option.bind_eq_some_iff.2 ⟨_, htwo _ hmonth _, ?_⟩⟩
  refine Option.bind_eq_some_iff.2 ⟨_, hdash _, Option.bind_eq_some_iff.2 ⟨_, htwo _ hday _, ?_⟩⟩
  refine Option.bind_eq_some_iff.2 ⟨_, rfl, Option.bind_eq_some_iff.2 ⟨_, htwo hour (by omega) _, ?_⟩⟩
  refine Option.bind_eq_some_iff.2
    ⟨_, hcolon _, Option.bind_eq_some_iff.2 ⟨_, htwo minute (by omega) _, ?_⟩⟩
  refine Option.bind_eq_some_iff.2
    ⟨_, hcolon _, Option.bind_eq_some_iff.2 ⟨_, htwo second (by omega) _, ?_⟩⟩
  refine Option.bind_eq_some_iff.2 ⟨_, takeFraction_writeFraction hnanos, ?_⟩
  refine Option.bind_eq_some_iff.2 ⟨((0 : Int), []), rfl, ?_⟩
  simp [hdate, hyear, hutc, hhour, hminute, hsecond, skipBlanks, ← hseconds]

/-! ## Instants that a clock can show -/

/-- The seconds that a clock has counted at an instant: it stands still while a leap second passes. -/
def clockSeconds (t : Instant) : Int :=
  t.nanos / nanosPerSecond - if t.leap then 1 else 0

theorem seconds_of_nanos (seconds : Int) {fraction : Nat} (h : fraction < nanosPerSecond) :
    (seconds * nanosPerSecond + fraction) / nanosPerSecond = seconds := by
  simp only [nanosPerSecond] at h ⊢
  omega

/-- The date that a clock shows. -/
def date (t : Instant) : Date :=
  Date.ofDayNumber (t.clockSeconds / 86400)

/-- A clock can show the instant: its year is one that instants lie in, and a leap second is the sixtieth
of its minute, as no other second of a minute is ever inserted. -/
structure OnClock (t : Instant) : Prop where
  year : yearInRange t.date.year = true
  leap : t.leap = true → t.nanos / nanosPerSecond % 60 = 0

/-- Years of four digits are all in range. -/
theorem onClock_of_year {t : Instant} (hyear : 0 ≤ t.date.year ∧ t.date.year ≤ 9999)
    (hleap : t.leap = true → t.nanos / nanosPerSecond % 60 = 0) : t.OnClock := by
  refine ⟨?_, hleap⟩
  simp only [yearInRange, Bool.and_eq_true, decide_eq_true_eq]
  omega

theorem write_eq (t : Instant) :
    let ofDay := (t.clockSeconds % 86400).toNat
    t.write = String.ofList (layout t.date (ofDay / 3600) (ofDay / 60 % 60)
      (ofDay % 60 + if t.leap then 1 else 0) (t.nanos % nanosPerSecond).toNat) := by
  have hseconds (extra : Int) : (t.nanos - extra * nanosPerSecond) / nanosPerSecond =
      t.nanos / nanosPerSecond - extra := Int.sub_mul_ediv_right _ _ (by decide)
  have hnanos (extra : Int) : (t.nanos - extra * nanosPerSecond) % nanosPerSecond =
      t.nanos % nanosPerSecond := Int.sub_mul_emod_self_right _ _ _
  simp only [write, layout, date, clockSeconds, hseconds, hnanos, Nat.cast_ite, Nat.cast_one,
    Nat.cast_zero, List.append_assoc, List.cons_append]

/-- What is written is read back. -/
theorem read?_write {t : Instant} (h : t.OnClock) : read? t.write = some t := by
  obtain ⟨nanos, leap⟩ := t
  have hyear := h.year
  have hleap := h.leap
  have hdate := Date.exists_ofDayNumber (clockSeconds ⟨nanos, leap⟩ / 86400)
  have hnumber := Date.dayNumber_ofDayNumber (clockSeconds ⟨nanos, leap⟩ / 86400)
  have hfraction : (nanos % nanosPerSecond).toNat < nanosPerSecond := by
    simp only [nanosPerSecond]
    omega
  -- The extra second is what brings the clock to the second that the instant counts to.
  obtain ⟨extra, hextra⟩ : ∃ extra : Nat, extra = if leap then 1 else 0 := ⟨_, rfl⟩
  have hcount : nanos / nanosPerSecond = clockSeconds ⟨nanos, leap⟩ + extra := by
    rw [hextra, clockSeconds]
    cases leap <;> simp
  rw [write_eq]
  simp only [date] at hyear ⊢
  rw [← hextra]
  generalize clockSeconds ⟨nanos, leap⟩ = clock at *
  obtain ⟨second, hsecond⟩ : ∃ second, second = (clock % 86400).toNat % 60 + extra := ⟨_, rfl⟩
  obtain ⟨hsixty, hminute, hlast⟩ :
      second ≤ 60 ∧ second / 60 = extra ∧ (second = 60 ↔ leap = true) := by
    cases leap with
    | false =>
      simp only [Bool.false_eq_true, if_false, iff_false] at hextra ⊢
      omega
    | true =>
      have hminute := hleap rfl
      simp only [if_true, iff_true] at hextra hminute ⊢
      omega
  rw [← hsecond, read?_layout hdate hyear (by omega) (by omega) hsixty hfraction (clock + extra)]
  · have hleap : decide (second = 60) = leap := Bool.eq_iff_iff.2 (decide_eq_true_iff.trans hlast)
    have hnanos : (clock + extra) * nanosPerSecond + (nanos % nanosPerSecond).toNat = nanos := by
      simp only [nanosPerSecond] at hcount ⊢
      omega
    rw [hleap, hnanos]
  · rw [hnumber]
    omega
  · have hclock : clock + extra - second / 60 = clock := by omega
    rwa [hclock]

/-- Whatever text an instant is read from, a clock can show it. -/
theorem onClock_of_read? {text : String} {t : Instant} (h : read? text = some t) : t.OnClock := by
  unfold read? at h
  obtain ⟨⟨year, _⟩, -, h⟩ := Option.bind_eq_some_iff.1 h
  obtain ⟨_, -, h⟩ := Option.bind_eq_some_iff.1 h
  obtain ⟨⟨month, _⟩, -, h⟩ := Option.bind_eq_some_iff.1 h
  obtain ⟨_, -, h⟩ := Option.bind_eq_some_iff.1 h
  obtain ⟨⟨day, _⟩, -, h⟩ := Option.bind_eq_some_iff.1 h
  obtain ⟨_, -, h⟩ := Option.bind_eq_some_iff.1 h
  obtain ⟨⟨hour, _⟩, -, h⟩ := Option.bind_eq_some_iff.1 h
  obtain ⟨_, -, h⟩ := Option.bind_eq_some_iff.1 h
  obtain ⟨⟨minute, _⟩, -, h⟩ := Option.bind_eq_some_iff.1 h
  obtain ⟨_, -, h⟩ := Option.bind_eq_some_iff.1 h
  obtain ⟨⟨second, _⟩, -, h⟩ := Option.bind_eq_some_iff.1 h
  obtain ⟨⟨fraction, _⟩, hfraction, h⟩ := Option.bind_eq_some_iff.1 h
  obtain ⟨⟨offset, _⟩, hoffset, h⟩ := Option.bind_eq_some_iff.1 h
  obtain ⟨⟨-, -, -, hutc, -, -, hsecond⟩, heq⟩ := Option.ite_none_right_eq_some.1 h
  have hminutes := minutes_of_takeZone hoffset
  generalize hseconds : ({ year, month, day : Date }.dayNumber * 86400 + hour * 3600 + minute * 60 +
    second - offset : Int) = seconds at hutc heq
  cases heq
  have hcount := seconds_of_nanos seconds (lt_of_takeFraction hfraction)
  have hclock : clockSeconds ⟨seconds * nanosPerSecond + fraction, second = 60⟩ =
      seconds - second / 60 := by
    simp only [clockSeconds, hcount, decide_eq_true_eq]
    split <;> omega
  constructor
  · rw [date, hclock]
    exact hutc
  · intro hleap
    have hlast : second = 60 := of_decide_eq_true hleap
    rw [hcount]
    omega

/-- A leap second is read in another zone and in fewer digits than it is written in. -/
example : read? "2017-1-01 0:59:60.25 +01:00" = some ⟨1483228800250000000, true⟩ ∧
    write ⟨1483228800250000000, true⟩ = "2016-12-31T23:59:60.250Z" := by
  decide +kernel

end Fleet.Instant
