import SqlAccess.Proofs.Time.Digits

/-
  This file defines patterns of timestamps: lists of fields
  that say what is written, and what is read, one after the
  other.  What is written by a pattern is read back by it,
  if the pattern has every number of the timestamp and each
  field can tell where its text ends.  What is read is the
  time that a clock shows, which is another one within a
  leap second that does not end its minute.

  Key definitions include:
    * `TimeOfDay.EndsMinute`
    * `TimeOfDay.shown`
    * `TimeParts`
    * `TimeField`
    * `TimeField.EndsAt`
    * `TimePattern`
    * `TimePattern.write`
    * `TimePattern.read?`
    * `TimePattern.IsReadable`

  Key theorems include:
    * `Timestamp.shown_eq_iff`
    * `TimeParts.timestamp?_ofTimestamp`
    * `TimeField.read?_write`
    * `TimePattern.isReadable_append`
    * `TimePattern.readFrom?_write`
    * `TimePattern.read?_write`
    * `TimePattern.read?_append_fraction`
-/

namespace SqlAccess

open TimestampReader

------------------------------------------------------------
-- Shown Times
------------------------------------------------------------

namespace TimeOfDay

/-
  Whether the second that a time is in ends its minute, if
  it is a leap second.
-/
def EndsMinute (t : TimeOfDay) : Prop :=
  Nat.pow 10 9 ≤ t.nano → t.second = 59

/-
  The time that a clock shows.  A leap second is shown as
  the next second, which is an ordinary one unless it would
  be the sixtieth of its minute.
-/
def shown (t : TimeOfDay) : TimeOfDay :=
  if hLeap : Nat.pow 10 9 ≤ t.nano ∧ t.second < 59 then
    { t with
      second := t.second + 1
      nano := t.nano - Nat.pow 10 9
      isTime := by
        rcases t.isTime with ⟨hHour, hMinute, -, hNano⟩
        exact ⟨hHour, hMinute, by omega, by omega⟩ }
  else t

/-
  A time is shown as it is unless a leap second in it
  follows another second than the last one of a minute.
-/
theorem shown_eq_iff (t : TimeOfDay) :
    t.shown = t ↔ t.EndsMinute := by
  have hSecond := t.isTime.2.2.1
  unfold shown EndsMinute
  split
  · next hLeap =>
      refine iff_of_false ?_ fun hEnd => ?_
      · intro hSame
        have hShown := congrArg TimeOfDay.second hSame
        exact Nat.succ_ne_self _ hShown
      · have hLast := hEnd hLeap.1
        omega
  · next hLeap =>
      refine iff_of_true rfl fun hNano => ?_
      omega

end TimeOfDay

/- The timestamp that a clock shows on its day. -/
def Timestamp.shown (t : Timestamp) : Timestamp :=
  { t with time := t.time.shown }

/-
  A timestamp is shown as it is unless it is in a leap
  second that does not end its minute.
-/
theorem Timestamp.shown_eq_iff (t : Timestamp) :
    t.shown = t ↔ t.time.EndsMinute := by
  rw [← TimeOfDay.shown_eq_iff]
  constructor
  · exact fun hSame => congrArg Timestamp.time hSame
  · intro hSame
    rw [shown, hSame]

------------------------------------------------------------
-- Parts of a Timestamp
------------------------------------------------------------

/-
  The numbers that a text has for a timestamp.  The second
  is as a clock shows it, and the nanoseconds are those past
  it.
-/
structure TimeParts where
  year : Int
  month : Nat
  day : Nat
  hour : Nat
  minute : Nat
  second : Nat
  nanos : Nat

namespace TimeParts

/- The parts before anything is read. -/
def unread : TimeParts :=
  ⟨0, 0, 0, 0, 0, 0, 0⟩

/- The parts of a timestamp. -/
def ofTimestamp (t : Timestamp) : TimeParts where
  year := t.date.year
  month := t.date.month
  day := t.date.day
  hour := t.time.hour
  minute := t.time.minute
  second := t.time.shownSecond
  nanos := t.time.fraction

/- The timestamp that has the parts. -/
def timestamp? (parts : TimeParts) : Option Timestamp := do
  let (second, nano) ← clock? parts.second parts.nanos
  Timestamp.of? parts.year parts.month parts.day
    parts.hour parts.minute second nano

/-
  What a clock shows is read.  Behind the last second of a
  minute the nanoseconds of a leap second show as a sixtieth
  second, and reading takes that second back.
-/
theorem clock?_shownSecond (t : TimeOfDay) :
    clock? t.shownSecond t.fraction =
      some (t.shown.second, t.shown.nano) := by
  rcases t.isTime with ⟨-, -, hSecond, hNano⟩
  unfold TimeOfDay.shownSecond TimeOfDay.fraction
    TimeOfDay.shown
  by_cases hLeap : Nat.pow 10 9 ≤ t.nano
  · have hLess : t.nano - Nat.pow 10 9 < Nat.pow 10 9 := by
      omega
    rw [Nat.div_eq_sub_div (by decide) hLeap,
      Nat.div_eq_of_lt hLess, Nat.mod_eq_sub_mod hLeap,
      Nat.mod_eq_of_lt hLess]
    by_cases hLast : t.second < 59
    · rw [dif_pos ⟨hLeap, hLast⟩, clock?,
        if_pos (by omega)]
    · have hEnd : t.second = 59 := by omega
      rw [dif_neg fun hBoth => hLast hBoth.2, hEnd, clock?,
        if_neg (by decide), if_pos rfl,
        Nat.add_sub_cancel' hLeap]
  · have hLess : t.nano < Nat.pow 10 9 :=
      Nat.not_le.1 hLeap
    rw [dif_neg fun hBoth => hLeap hBoth.1,
      Nat.div_eq_of_lt hLess, Nat.mod_eq_of_lt hLess,
      clock?, Nat.add_zero, if_pos hSecond]

/- A timestamp is put together again from its parts. -/
theorem of?_parts (t : Timestamp) :
    Timestamp.of? t.date.year t.date.month t.date.day
        t.time.hour t.time.minute t.time.second
          t.time.nano =
      some t := by
  have hDate :
      Date.of? t.date.year t.date.month t.date.day =
        some t.date :=
    dif_pos t.date.isDate
  have hTime :
      TimeOfDay.of? t.time.hour t.time.minute t.time.second
          t.time.nano =
        some t.time :=
    dif_pos t.time.isTime
  rw [Timestamp.of?, hDate, hTime]

/- The parts are those of the timestamp that is shown. -/
theorem timestamp?_ofTimestamp (t : Timestamp) :
    (ofTimestamp t).timestamp? = some t.shown := by
  have hHour : t.time.shown.hour = t.time.hour := by
    unfold TimeOfDay.shown
    split <;> rfl
  have hMinute : t.time.shown.minute = t.time.minute := by
    unfold TimeOfDay.shown
    split <;> rfl
  simp only [timestamp?, ofTimestamp, clock?_shownSecond,
    ← hHour, ← hMinute]
  exact of?_parts t.shown

end TimeParts

------------------------------------------------------------
-- Fields
------------------------------------------------------------

/-
  A field of a pattern: a number of a timestamp, a character
  that is written as it is, or a space.
-/
inductive TimeField
  | year
  | month
  | day
  | hour
  | minute
  | second
  | fraction
  | mark (c : Char)
  | gap

namespace TimeField

/- The text of a field. -/
def write (t : Timestamp) : TimeField → List Char
  | year => (Timestamp.yearText t.date.year).toList
  | month => (Timestamp.padded 2 t.date.month).toList
  | day => (Timestamp.padded 2 t.date.day).toList
  | hour => (Timestamp.padded 2 t.time.hour).toList
  | minute => (Timestamp.padded 2 t.time.minute).toList
  | second => (Timestamp.padded 2 t.time.shownSecond).toList
  | fraction =>
      (Timestamp.fractionText t.time.fraction).toList
  | mark c => [c]
  | gap => [' ']

/-
  The parts with what a field reads, and the text after it.
  A gap is any amount of white space, or none.
-/
def read?
    (parts : TimeParts)
    (text : List Char) :
    TimeField → Option (TimeParts × List Char)
  | year =>
      (year? text).map fun (n, rest) =>
        ({ parts with year := n }, rest)
  | month =>
      (field? text).map fun (n, rest) =>
        ({ parts with month := n }, rest)
  | day =>
      (field? text).map fun (n, rest) =>
        ({ parts with day := n }, rest)
  | hour =>
      (field? text).map fun (n, rest) =>
        ({ parts with hour := n }, rest)
  | minute =>
      (field? text).map fun (n, rest) =>
        ({ parts with minute := n }, rest)
  | second =>
      (field? text).map fun (n, rest) =>
        ({ parts with second := n }, rest)
  | fraction =>
      (fraction? text).map fun (n, rest) =>
        ({ parts with nanos := n }, rest)
  | mark c => (mark? c text).map fun rest => (parts, rest)
  | gap => some (parts, Blank.trimStart text)

/-
  The parts with those of a timestamp that a field is for.
-/
def keep
    (t : Timestamp)
    (parts : TimeParts) : TimeField → TimeParts
  | year => { parts with year := t.date.year }
  | month => { parts with month := t.date.month }
  | day => { parts with day := t.date.day }
  | hour => { parts with hour := t.time.hour }
  | minute => { parts with minute := t.time.minute }
  | second => { parts with second := t.time.shownSecond }
  | fraction => { parts with nanos := t.time.fraction }
  | mark _ => parts
  | gap => parts

/-
  Whether the text of a field ends where some text begins:
  the field would read no further.
-/
def EndsAt (rest : List Char) : TimeField → Prop
  | mark _ => True
  | gap => Blank.trimStart rest = rest
  | fraction =>
      Reading.Ends rest ∧ rest.head? ≠ some '.'
  | _ => Reading.Ends rest

/- The numbers of a timestamp fit the fields for them. -/
theorem fits (t : Timestamp) :
    (t.date.month < 100 ∧ t.date.day < 100) ∧
    (t.time.hour < 100 ∧ t.time.minute < 100) ∧
    (t.time.shownSecond < 100 ∧
      t.time.fraction < Nat.pow 10 9) := by
  rcases t.date.isDate with ⟨-, hMonth, hDay⟩
  rcases t.time.isTime with
    ⟨hHour, hMinute, hSecond, hNano⟩
  have hDays :
      Calendar.daysInMonth t.date.year t.date.month ≤
        31 := by
    unfold Calendar.daysInMonth
    repeat' split
    all_goals decide
  have hCarry : t.time.nano / Nat.pow 10 9 < 2 :=
    Nat.div_lt_of_lt_mul (Nat.mul_comm .. ▸ hNano)
  have hShown : t.time.shownSecond < 100 := by
    rw [TimeOfDay.shownSecond]
    omega
  have hFraction : t.time.fraction < Nat.pow 10 9 :=
    Nat.mod_lt _ (by decide)
  refine ⟨⟨?_, ?_⟩, ⟨?_, ?_⟩, hShown, hFraction⟩
  all_goals omega

/- Each field reads what it writes. -/
theorem read?_write
    {field : TimeField}
    {rest : List Char}
    (hEnds : field.EndsAt rest)
    (t : Timestamp)
    (parts : TimeParts) :
    field.read? parts (field.write t ++ rest) =
      some (field.keep t parts, rest) := by
  rcases fits t with
    ⟨⟨hMonth, hDay⟩, ⟨hHour, hMinute⟩, hSecond,
      hNanos⟩
  cases field with
  | year => simp [read?, write, keep, year?_yearText hEnds]
  | month =>
      simp [read?, write, keep, field?_padded hMonth hEnds]
  | day =>
      simp [read?, write, keep, field?_padded hDay hEnds]
  | hour =>
      simp [read?, write, keep, field?_padded hHour hEnds]
  | minute =>
      simp [read?, write, keep, field?_padded hMinute hEnds]
  | second =>
      simp [read?, write, keep, field?_padded hSecond hEnds]
  | fraction =>
      simp [read?, write, keep,
        fraction?_fractionText hNanos hEnds.1 hEnds.2]
  | mark c => simp [read?, write, keep, mark?]
  | gap =>
      have hBlank : Blank.isBlank ' ' = true := by decide
      have hTrim : Blank.trimStart rest = rest := hEnds
      rw [Blank.trimStart] at hTrim
      simp [read?, write, keep, Blank.trimStart, hBlank,
        hTrim]

/- Only a fraction changes the nanoseconds. -/
theorem nanos_read?
    {field : TimeField}
    {parts next : TimeParts}
    {text rest : List Char}
    (hField : field ≠ fraction)
    (hRead : field.read? parts text = some (next, rest)) :
    next.nanos = parts.nanos := by
  cases field with
  | fraction => exact absurd rfl hField
  | gap =>
      cases hRead
      rfl
  | _ =>
      rcases Option.map_eq_some_iff.1 hRead with
        ⟨found, -, hFound⟩
      cases hFound
      rfl

end TimeField

------------------------------------------------------------
-- Patterns
------------------------------------------------------------

/- A pattern: fields one after the other. -/
abbrev TimePattern := List TimeField

namespace TimePattern

/- The text of a timestamp. -/
def write
    (pattern : TimePattern)
    (t : Timestamp) : String :=
  String.ofList (pattern.flatMap (TimeField.write t))

/- Read the fields, one after the other. -/
def readFrom?
    (parts : TimeParts)
    (text : List Char) :
    TimePattern → Option (TimeParts × List Char)
  | [] => some (parts, text)
  | field :: pattern => do
      let (parts, rest) ← field.read? parts text
      readFrom? parts rest pattern

/- The timestamp that a whole text is. -/
def read?
    (pattern : TimePattern)
    (text : String) : Option Timestamp := do
  let (parts, rest) ←
    readFrom? .unread text.toList pattern
  if rest.isEmpty then parts.timestamp? else none

/-
  Whether every field, in the text of a timestamp with some
  other text after it, ends where the next one begins.
-/
def IsReadable
    (t : Timestamp)
    (rest : List Char) : TimePattern → Prop
  | [] => True
  | field :: pattern =>
      field.EndsAt
          (pattern.flatMap (TimeField.write t) ++ rest) ∧
        IsReadable t rest pattern

/-
  A pattern can be read back if its parts can, each in front
  of what comes after it.
-/
theorem isReadable_append
    {t : Timestamp}
    {rest : List Char}
    {first second : TimePattern} :
    IsReadable t rest (first ++ second) ↔
      IsReadable t
        (second.flatMap (TimeField.write t) ++ rest)
          first ∧
        IsReadable t rest second := by
  induction first with
  | nil => simp [IsReadable]
  | cons field first ih =>
      rw [List.cons_append, IsReadable, IsReadable, ih,
        List.flatMap_append, List.append_assoc, and_assoc]

/-
  A readable pattern keeps, field for field, what it wrote,
  and reads no further.
-/
theorem readFrom?_write
    {pattern : TimePattern}
    {t : Timestamp}
    {rest : List Char}
    (hReadable : pattern.IsReadable t rest)
    (parts : TimeParts) :
    readFrom? parts
        (pattern.flatMap (TimeField.write t) ++ rest)
        pattern =
      some
        (pattern.foldl (TimeField.keep t) parts,
          rest) := by
  induction pattern generalizing parts with
  | nil => rfl
  | cons field pattern ih =>
      rcases hReadable with ⟨hEnds, hReadable⟩
      rw [readFrom?, List.flatMap_cons, List.append_assoc,
        TimeField.read?_write hEnds, List.foldl_cons]
      exact ih hReadable _

/-
  A timestamp is read back as it is shown by a readable
  pattern that has all of its parts.
-/
theorem read?_write
    {pattern : TimePattern}
    {t : Timestamp}
    (hReadable : pattern.IsReadable t [])
    (hParts :
      pattern.foldl (TimeField.keep t) .unread =
        .ofTimestamp t) :
    pattern.read? (pattern.write t) = some t.shown := by
  have hRead := readFrom?_write hReadable .unread
  rw [List.append_nil, hParts] at hRead
  rw [read?, write, String.toList_ofList, hRead]
  exact TimeParts.timestamp?_ofTimestamp t

/- A pattern is read part by part. -/
theorem readFrom?_append
    (first second : TimePattern)
    (parts : TimeParts)
    (text : List Char) :
    readFrom? parts text (first ++ second) =
      (readFrom? parts text first).bind fun (parts, rest) =>
        readFrom? parts rest second := by
  induction first generalizing parts text with
  | nil => rfl
  | cons field first ih =>
      rw [List.cons_append, readFrom?, readFrom?]
      cases field.read? parts text with
      | none => rfl
      | some found => exact ih found.1 found.2

/- A pattern without a fraction reads no nanoseconds. -/
theorem nanos_readFrom?
    {pattern : TimePattern}
    {parts last : TimeParts}
    {text rest : List Char}
    (hPattern : ∀ field ∈ pattern, field ≠ .fraction)
    (hRead :
      readFrom? parts text pattern = some (last, rest)) :
    last.nanos = parts.nanos := by
  induction pattern generalizing parts text with
  | nil =>
      cases hRead
      rfl
  | cons field pattern ih =>
      rw [List.forall_mem_cons] at hPattern
      rcases Option.bind_eq_some_iff.1 hRead with
        ⟨⟨next, rest'⟩, hField, hRest⟩
      rw [ih hPattern.2 hRest,
        TimeField.nanos_read? hPattern.1 hField]

/-
  What is read without a fraction is read to the same end
  where a fraction may follow: nothing is left to be one.
-/
theorem read?_append_fraction
    {pattern : TimePattern}
    {text : String}
    {t : Timestamp}
    (hPattern : ∀ field ∈ pattern, field ≠ .fraction)
    (hRead : pattern.read? text = some t) :
    TimePattern.read? (pattern ++ [.fraction]) text =
      some t := by
  rcases Option.bind_eq_some_iff.1 hRead with
    ⟨⟨parts, rest⟩, hParts, hWhole⟩
  have hNanos : parts.nanos = 0 :=
    nanos_readFrom? hPattern hParts
  cases rest with
  | cons c rest => exact absurd hWhole (by simp)
  | nil =>
      have hLast :
          readFrom? parts [] [.fraction] =
            some (parts, []) := by
        simp [readFrom?, TimeField.read?, fraction?,
          ← hNanos]
      have hAll :
          readFrom? .unread text.toList
              (pattern ++ [.fraction]) =
            some (parts, []) := by
        rw [readFrom?_append, hParts]
        exact hLast
      rw [read?, hAll]
      exact hWhole

end TimePattern

end SqlAccess
