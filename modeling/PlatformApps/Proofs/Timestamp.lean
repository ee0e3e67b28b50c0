/-
# Timestamps read back

A timestamp that is written with the places of its microseconds is read as it was, whatever
its year. One that is written at whole seconds is read as the beginning of its second.
-/

import PlatformApps.Timestamp

namespace PlatformApps.Timestamp

/-! ## Digits -/

theorem digitsValue_eq (digits : List Char) :
    digitsValue digits = Nat.ofDigitChars 10 digits 0 := by
  rw [digitsValue, Nat.ofDigitChars]
  congr 1
  funext value char
  rw [Nat.mul_comm]
  rfl

theorem isDigit_digit (value : Nat) : isDigit (digit value) = true := by
  have each : ∀ last < 10, isDigit (Char.ofNat (48 + last)) = true := by decide
  exact each _ (Nat.mod_lt _ (by decide))

theorem toNat_digit (value : Nat) : (digit value).toNat - 48 = value % 10 := by
  have each : ∀ last < 10, (Char.ofNat (48 + last)).toNat - 48 = last := by decide
  exact each _ (Nat.mod_lt _ (by decide))

theorem isDigit_of_mem_twoDigits {value : Nat} :
    ∀ char ∈ twoDigits value, isDigit char = true := by
  simp [twoDigits, isDigit_digit]

theorem isDigit_of_mem_fourDigits {value : Nat} :
    ∀ char ∈ fourDigits value, isDigit char = true := by
  simp [fourDigits, twoDigits, isDigit_digit]

theorem digitsValue_twoDigits {value : Nat} (below : value < 100) :
    digitsValue (twoDigits value) = value := by
  simp only [digitsValue, twoDigits, List.foldl_cons, List.foldl_nil, toNat_digit]
  omega

theorem digitsValue_fourDigits {value : Nat} (below : value < 10000) :
    digitsValue (fourDigits value) = value := by
  simp only [digitsValue, fourDigits, twoDigits, List.cons_append, List.nil_append,
    List.foldl_cons, List.foldl_nil, toNat_digit]
  omega

theorem digitsValue_twoDigits_fourDigits {value : Nat} (below : value < 1000000) :
    digitsValue (twoDigits (value / 10000) ++ fourDigits (value % 10000)) = value := by
  simp only [digitsValue, fourDigits, twoDigits, List.cons_append, List.nil_append,
    List.foldl_cons, List.foldl_nil, toNat_digit]
  omega

/-- Leading zeros do not count. -/
theorem digitsValue_replicate_append (count value : Nat) :
    digitsValue (List.replicate count '0' ++ Nat.toDigits 10 value) = value := by
  induction count with
  | zero =>
      rw [List.replicate_zero, List.nil_append, digitsValue_eq]
      exact Nat.ofDigitChars_toDigits (by decide) (by decide)
  | succ count ih => exact ih

/-! ## Numbers -/

theorem takeWhile_isDigit {digits : List Char} (allDigits : ∀ char ∈ digits, isDigit char = true)
    {next : Char} (ends : isDigit next = false) (rest : List Char) :
    (digits ++ next :: rest).takeWhile isDigit = digits := by
  rw [List.takeWhile_append_of_pos allDigits, List.takeWhile_cons, ends]
  exact List.append_nil digits

theorem readNumber?_of_length {digits : List Char}
    (allDigits : ∀ char ∈ digits, isDigit char = true) (notEmpty : digits ≠ [])
    (rest : List Char) :
    readNumber? digits.length (digits ++ rest) = some (digitsValue digits, rest) := by
  have taken : ((digits ++ rest).take digits.length).takeWhile isDigit = digits := by
    rw [List.take_left, ← List.append_nil digits, List.takeWhile_append_of_pos]
    · rfl
    · exact allDigits
  rw [readNumber?, taken, List.drop_left, if_neg (mt List.isEmpty_iff.mp notEmpty)]

theorem readNumber?_of_ends {digits : List Char}
    (allDigits : ∀ char ∈ digits, isDigit char = true) (notEmpty : digits ≠ []) {next : Char}
    (ends : isDigit next = false) (rest : List Char) :
    readNumber? (digits ++ next :: rest).length (digits ++ next :: rest) =
      some (digitsValue digits, next :: rest) := by
  rw [readNumber?, List.take_length, takeWhile_isDigit allDigits ends, List.drop_left,
    if_neg (mt List.isEmpty_iff.mp notEmpty)]

theorem isBlank_digit (value : Nat) : Text.isBlank (digit value) = false := by
  have each : ∀ last < 10, Text.isBlank (Char.ofNat (48 + last)) = false := by decide
  exact each _ (Nat.mod_lt _ (by decide))

theorem skipBlanks_cons {char : Char} (notBlank : Text.isBlank char = false) (rest : List Char) :
    skipBlanks (char :: rest) = char :: rest := by
  rw [skipBlanks, List.dropWhile_cons, notBlank]
  rfl

theorem readTwo?_twoDigits {value : Nat} (below : value < 100) (rest : List Char) :
    readTwo? (twoDigits value ++ rest) = some (value, rest) := by
  have number := @readNumber?_of_length (twoDigits value) isDigit_of_mem_twoDigits
    (List.cons_ne_nil _ _) rest
  rw [digitsValue_twoDigits below] at number
  rw [readTwo?, twoDigits, List.cons_append, skipBlanks_cons (isBlank_digit _)]
  exact number

theorem readMark?_cons {mark : Char} (notBlank : Text.isBlank mark = false) (rest : List Char) :
    readMark? mark (mark :: rest) = some rest := by
  rw [readMark?, skipBlanks_cons notBlank, expect?, beq_self_eq_true, if_pos rfl]

/-! ## The year -/

theorem readYear?_of_fourDigits {value : Nat} (below : value < 10000) (rest : List Char) :
    readYear? (fourDigits value ++ rest) = some ((value : Int), rest) := by
  have number := @readNumber?_of_length (fourDigits value) isDigit_of_mem_fourDigits
    (List.cons_ne_nil _ _) rest
  rw [digitsValue_fourDigits below] at number
  have first : skipBlanks (fourDigits value ++ rest) = fourDigits value ++ rest :=
    skipBlanks_cons (isBlank_digit _) _
  have isDigitFirst := isDigit_digit (value / 100 / 10)
  rw [readYear?, first]
  split
  · rename_i tail sign
    rw [(List.cons.inj sign).1] at isDigitFirst
    cases isDigitFirst
  · rename_i tail sign
    rw [(List.cons.inj sign).1] at isDigitFirst
    cases isDigitFirst
  · show (readNumber? (fourDigits value).length _).map _ = _
    rw [number]
    rfl

theorem readYear?_yearChars (year : Int) (rest : List Char) :
    readYear? (yearChars year ++ '-' :: rest) = some (year, '-' :: rest) := by
  rw [yearChars]
  split
  · rename_i small
    rw [readYear?_of_fourDigits (by omega), Int.toNat_of_nonneg small.1]
  · rename_i large
    let digits := List.replicate (4 - (Nat.toDigits 10 year.natAbs).length) '0' ++
      Nat.toDigits 10 year.natAbs
    have allDigits : ∀ char ∈ digits, isDigit char = true := by
      intro char inside
      rcases List.mem_append.mp inside with zero | inside
      · rw [(List.mem_replicate.mp zero).2]
        rfl
      · exact Nat.isDigit_of_mem_toDigits (by decide) (by decide) inside
    have notEmpty : digits ≠ [] :=
      List.append_ne_nil_of_right_ne_nil _ (Nat.toDigits_ne_nil)
    have number := readNumber?_of_ends allDigits notEmpty (rfl : isDigit '-' = false) rest
    rw [digitsValue_replicate_append] at number
    by_cases negative : year < 0
    · have back : -(year.natAbs : Int) = year := by omega
      rw [if_pos negative, List.cons_append, readYear?, skipBlanks_cons rfl]
      show (readNumber? (digits ++ '-' :: rest).length (digits ++ '-' :: rest)).map _ = _
      rw [number]
      exact congrArg (fun year => some (year, '-' :: rest)) back
    · have back : (year.natAbs : Int) = year := by omega
      rw [if_neg negative, List.cons_append, readYear?, skipBlanks_cons rfl]
      show (readNumber? (digits ++ '-' :: rest).length (digits ++ '-' :: rest)).map _ = _
      rw [number]
      exact congrArg (fun year => some (year, '-' :: rest)) back

/-! ## The whole timestamp -/

theorem readFraction?_micros {micro : Nat} (below : micro < 1000000) (rest : List Char) :
    readFraction? ('.' :: (twoDigits (micro / 10000) ++ (fourDigits (micro % 10000) ++
      'Z' :: rest))) = some (micro, 'Z' :: rest) := by
  have allDigits : ∀ char ∈ twoDigits (micro / 10000) ++ fourDigits (micro % 10000),
      isDigit char = true := by
    intro char inside
    rcases List.mem_append.mp inside with first | last
    · exact isDigit_of_mem_twoDigits char first
    · exact isDigit_of_mem_fourDigits char last
  have behind : (twoDigits (micro / 10000) ++ fourDigits (micro % 10000) ++ 'Z' :: rest).dropWhile
      isDigit = 'Z' :: rest := List.dropWhile_append_of_pos allDigits
  have value : microsOf (twoDigits (micro / 10000) ++ fourDigits (micro % 10000)) = micro :=
    digitsValue_twoDigits_fourDigits below
  rw [← List.append_assoc, readFraction?, takeWhile_isDigit allDigits rfl, value, behind]
  rfl

theorem bind_of_some {α β : Type} {first : Option α} {value : α} (found : first = some value)
    (next : α → Option β) : (first >>= next) = next value := by
  rw [found]
  rfl

/-- The timestamp with other microseconds. -/
def withMicro (time : Timestamp) (micro : Nat) (below : micro < 1000000) : Timestamp where
  year := time.year
  month := time.month
  day := time.day
  hour := time.hour
  minute := time.minute
  second := time.second
  micro := micro
  inRange := by
    obtain ⟨first, last, fromMonth, toMonth, fromDay, toDay, hour, minute, second, _⟩ :=
      time.inRange
    exact ⟨first, last, fromMonth, toMonth, fromDay, toDay, hour, minute, second, by omega⟩

/-- The timestamp at the beginning of its second. -/
def wholeSecond (time : Timestamp) : Timestamp := time.withMicro 0 (by decide)

@[simp] theorem render_wholeSecond (time : Timestamp) :
    time.wholeSecond.render = time.render := rfl

theorem wholeSecond_of_micro {time : Timestamp} (whole : time.micro = 0) :
    time.wholeSecond = time := by
  cases time
  cases whole
  rfl

/-- A date and a time of day are read as they were, with the fraction that follows them. -/
theorem parse?_dateAndTime (time : Timestamp) {micro : Nat} (below : micro < 1000000)
    {fraction : List Char} (reads : readFraction? fraction = some (micro, ['Z'])) :
    parse? (String.ofList (dateAndTime time ++ fraction)) = some (time.withMicro micro below) := by
  obtain ⟨year, month, day, hour, minute, second, known, inRange⟩ := time
  have range := inRange
  obtain ⟨_, _, _, highMonth, _, highDay, highHour, highMinute, highSecond, _⟩ := range
  have shortMonth : daysInMonth year month ≤ 31 := by
    unfold daysInMonth
    split
    · split <;> decide
    · split <;> decide
  have civil : ofCivil? year month day hour minute second micro =
      some (withMicro ⟨year, month, day, hour, minute, second, known, inRange⟩ micro below) :=
    dif_pos _
  simp only [parse?, dateAndTime, String.toList_ofList, List.append_assoc, List.cons_append]
  have dash : Text.isBlank '-' = false := rfl
  have colon : Text.isBlank ':' = false := rfl
  refine (bind_of_some (readYear?_yearChars year _) _).trans ?_
  refine (bind_of_some (readMark?_cons dash _) _).trans ?_
  refine (bind_of_some (readTwo?_twoDigits (by omega) _) _).trans ?_
  refine (bind_of_some (readMark?_cons dash _) _).trans ?_
  refine (bind_of_some (readTwo?_twoDigits (by omega) _) _).trans ?_
  refine (bind_of_some (rfl : expect? _ ('T' :: _) = _) _).trans ?_
  refine (bind_of_some (readTwo?_twoDigits (by omega) _) _).trans ?_
  refine (bind_of_some (readMark?_cons colon _) _).trans ?_
  refine (bind_of_some (readTwo?_twoDigits (by omega) _) _).trans ?_
  refine (bind_of_some (readMark?_cons colon _) _).trans ?_
  refine (bind_of_some (readTwo?_twoDigits (by omega) _) _).trans ?_
  refine (bind_of_some reads _).trans ?_
  refine (bind_of_some (rfl : readOffset? (skipBlanks ['Z']) = _) _).trans ?_
  exact (bind_of_some civil _).trans rfl

/-- A timestamp in its written form with microseconds is read as it was. -/
theorem parse?_renderMicro (time : Timestamp) : parse? time.renderMicro = some time := by
  have below : time.micro < 1000000 := by
    obtain ⟨_, _, _, _, _, _, _, _, _, highMicro⟩ := time.inRange
    omega
  simp only [renderMicro, List.append_assoc, List.cons_append]
  exact parse?_dateAndTime time below (readFraction?_micros below [])

/-- In the usual written form what is beyond the second is lost. -/
theorem parse?_render (time : Timestamp) : parse? time.render = some time.wholeSecond :=
  parse?_dateAndTime time _ rfl

end PlatformApps.Timestamp
