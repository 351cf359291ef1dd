import Mathlib.Data.List.DropRight
import SqlAccess.Backend.Sqlite
import SqlAccess.Proofs.Time.Pattern
import SqlAccess.Value.Cast

/-
  This file shows when timestamps survive as text.  The text
  that is stored and the text that is cast are the same, and
  reading it gives the timestamp that the text shows.  That
  is the timestamp itself for years of any sign and length,
  for fractions in any number of places and for leap seconds
  that end a minute.  No text shows another leap second,
  which is read as the ordinary second behind it.

  Two patterns write and two patterns read.  Reading tries
  the one without a fraction first, so the theorem also says
  when this attempt succeeds, and that it never finds
  another timestamp than the two together.

  Key definitions include:
    * `TimePattern.stored`
    * `TimePattern.whole`
    * `TimePattern.full`

  Key theorems include:
    * `TimePattern.isReadable_full`
    * `TimePattern.write_full`
    * `TimePattern.read?_full`
    * `TimePattern.read?_full_of_whole`
    * `TimePattern.read?_whole_write`
    * `Timestamp.survives_storage`
    * `Timestamp.leap_second_lost`
-/

namespace SqlAccess

open TimestampReader

namespace TimePattern

------------------------------------------------------------
-- The Patterns in Use
------------------------------------------------------------

/- A day: `%F`. -/
def date : TimePattern :=
  [.year, .mark '-', .month, .mark '-', .day]

/- A time of day: `%T`. -/
def clock : TimePattern :=
  [.hour, .mark ':', .minute, .mark ':', .second]

/- What is stored: `%F %T%.f`. -/
def stored : TimePattern :=
  date ++ [.gap] ++ clock ++ [.fraction]

/- What is read at first: `%Y-%m-%d %H:%M:%S`. -/
def whole : TimePattern :=
  [ .year, .mark '-', .month, .mark '-', .day,
    .gap,
    .hour, .mark ':', .minute, .mark ':', .second ]

/-
  What is cast, and what is read if the first attempt fails:
  `%Y-%m-%d %H:%M:%S%.f`.
-/
def full : TimePattern :=
  [ .year, .mark '-', .month, .mark '-', .day,
    .gap,
    .hour, .mark ':', .minute, .mark ':', .second,
    .fraction ]

/- The full pattern is the other one with a fraction. -/
theorem full_eq : full = whole ++ [.fraction] :=
  rfl

/- The short forms stand for the same fields. -/
theorem stored_eq : stored = full :=
  rfl

------------------------------------------------------------
-- Writing
------------------------------------------------------------

/- The pattern writes the text of a timestamp. -/
theorem write_full
    (t : Timestamp) :
    full.write t = t.text := by
  rw [← String.toList_inj]
  simp [write, full, TimeField.write, Timestamp.text,
    Timestamp.textWith]

/- The text of a fraction continues no number. -/
theorem ends_fractionText (n : Nat) :
    Reading.Ends (Timestamp.fractionText n).toList := by
  unfold Timestamp.fractionText
  repeat' split
  all_goals simp [Reading.Ends]

/-
  Every field ends where the next one begins: at a mark, at
  the first digit of the hour, or at the point of a
  fraction.
-/
theorem isReadable_whole (t : Timestamp) :
    whole.IsReadable t (TimeField.fraction.write t) := by
  have hHour := Timestamp.spells_padded 2 t.time.hour
  have hSecond :
      Reading.Ends (TimeField.fraction.write t) :=
    ends_fractionText t.time.fraction
  refine ⟨Reading.ends_cons (by decide), trivial,
    Reading.ends_cons (by decide), trivial,
    Reading.ends_cons (by decide), ?_,
    Reading.ends_cons (by decide), trivial,
    Reading.ends_cons (by decide), trivial, hSecond,
      trivial⟩
  rw [List.flatMap_cons, List.append_assoc]
  exact trimStart_of_spells hHour _

/-
  All that is written with the full pattern can be read
  back.
-/
theorem isReadable_full (t : Timestamp) :
    full.IsReadable t [] := by
  rw [full_eq, isReadable_append]
  refine ⟨?_, ⟨Reading.ends_nil, by simp⟩, trivial⟩
  rw [List.append_nil, List.flatMap_singleton]
  exact isReadable_whole t

------------------------------------------------------------
-- Reading
------------------------------------------------------------

/- White space before a number is passed over only once. -/
theorem field?_trimStart (text : List Char) :
    field? (Blank.trimStart text) = field? text := by
  have hTwice :
      Blank.trimStart (Blank.trimStart text) =
        Blank.trimStart text :=
    List.dropWhile_idempotent _ text
  rw [field?, field?, hTwice]

/- Timestamps are read by the pattern with a fraction. -/
theorem read?_full (text : String) :
    full.read? text = Timestamp.ofText? text := by
  simp [read?, full, readFrom?, TimeField.read?,
    Timestamp.ofText?, TimeParts.timestamp?,
    Option.bind_map, Option.bind_assoc, field?_trimStart]

/-
  What the first attempt reads, the second would read too.
-/
theorem read?_full_of_whole
    {text : String}
    {t : Timestamp}
    (hRead : whole.read? text = some t) :
    full.read? text = some t := by
  have hFields :
      ∀ field ∈ whole, field ≠ .fraction := by
    simp [whole]
  rw [full_eq]
  exact read?_append_fraction hFields hRead

/- So the two attempts together are the second alone. -/
theorem read?_whole_or_full (text : String) :
    (whole.read? text).or (full.read? text) =
      Timestamp.ofText? text := by
  cases hRead : whole.read? text with
  | none => rw [Option.none_or, read?_full]
  | some t =>
      rw [Option.some_or, ← read?_full,
        read?_full_of_whole hRead]

/-
  The full pattern reads what it wrote as it shows the time.
-/
theorem read?_full_write (t : Timestamp) :
    full.read? (full.write t) = some t.shown :=
  read?_write (isReadable_full t) rfl

/- A fraction has a text unless it is zero. -/
theorem fractionText_eq_nil_iff (n : Nat) :
    (Timestamp.fractionText n).toList = [] ↔ n = 0 := by
  unfold Timestamp.fractionText
  split
  case isTrue hZero => simp [hZero]
  case isFalse hFraction =>
    repeat' split
    all_goals simp [hFraction]

/- What the first attempt keeps, and what it leaves. -/
theorem readFrom?_whole_write (t : Timestamp) :
    readFrom? .unread (full.write t).toList whole =
      some
        ({ TimeParts.ofTimestamp t with nanos := 0 },
          TimeField.fraction.write t) := by
  rw [write, String.toList_ofList, full_eq,
    List.flatMap_append, List.flatMap_singleton,
    readFrom?_write (isReadable_whole t) .unread]
  rfl

/-
  The first attempt reads up to the fraction, so it succeeds
  only where there is none.
-/
theorem read?_whole_write (t : Timestamp) :
    whole.read? (full.write t) =
      if t.time.fraction = 0 then
        some t.shown
      else
        none := by
  have hRead := readFrom?_whole_write t
  have hEnd :
      TimeField.fraction.write t = [] ↔
        t.time.fraction = 0 :=
    fractionText_eq_nil_iff t.time.fraction
  by_cases hZero : t.time.fraction = 0
  · have hParts :
        { TimeParts.ofTimestamp t with nanos := 0 } =
          TimeParts.ofTimestamp t := by
      rw [TimeParts.ofTimestamp, hZero]
    rw [hParts, hEnd.2 hZero] at hRead
    rw [read?, hRead, if_pos hZero]
    exact TimeParts.timestamp?_ofTimestamp t
  · have hRest : TimeField.fraction.write t ≠ [] :=
      fun hNil => hZero (hEnd.1 hNil)
    rw [read?, hRead, if_neg hZero]
    simp [hRest]

end TimePattern

------------------------------------------------------------
-- Timestamps as Text
------------------------------------------------------------

namespace Timestamp

/- What is stored is the text of a timestamp. -/
theorem write_stored (t : Timestamp) :
    TimePattern.stored.write t = t.text := by
  rw [TimePattern.stored_eq, TimePattern.write_full]

/-
  The text that is stored is read as the timestamp it shows.
-/
theorem asTimestamp?_write_stored (t : Timestamp) :
    (Value.text (TimePattern.stored.write t)).asTimestamp? =
      some t.shown := by
  rw [Value.asTimestamp?, ← TimePattern.read?_full,
    TimePattern.stored_eq, TimePattern.read?_full_write]

/- Also when it was stored in between. -/
theorem asTimestamp?_roundTrip (t : Timestamp) :
    (Stored.roundTrip (.timestamp t)).asTimestamp? =
      some t.shown := by
  rw [← asTimestamp?_write_stored, write_stored]
  rfl

/-
  A timestamp is stored as text and cast to text, each by a
  pattern of its own, and the two texts are the same.
  Reading a text makes two attempts.  For the text of a
  timestamp the first finds the timestamp that is shown if
  that has no fraction, and else nothing, and the two
  together find it, also after the text was stored.  So
  every timestamp is read back, unless it is in a leap
  second that does not end its minute: that is read as the
  second after it.
-/
theorem survives_storage (t : Timestamp) :
    Stored.ofValue (.timestamp t) =
      .text (TimePattern.stored.write t) ∧
    TypeTag.string.cast (.timestamp t) =
      .ok (.text (TimePattern.full.write t)) ∧
    TimePattern.stored.write t =
      TimePattern.full.write t ∧
    (∀ text,
      (Value.text text).asTimestamp? =
        (TimePattern.whole.read? text).or
          (TimePattern.full.read? text)) ∧
    TimePattern.whole.read? (TimePattern.stored.write t) =
      (if t.time.fraction = 0 then some t.shown
        else none) ∧
    (Value.text (TimePattern.stored.write t)).asTimestamp? =
      some t.shown ∧
    (Stored.roundTrip (.timestamp t)).asTimestamp? =
      some t.shown ∧
    (t.shown = t ↔ t.time.EndsMinute) := by
  refine
    ⟨?_, ?_, by rw [TimePattern.stored_eq], ?_, ?_,
      asTimestamp?_write_stored t, asTimestamp?_roundTrip t,
      t.shown_eq_iff⟩
  · rw [Stored.ofValue, write_stored]
  · rw [TimePattern.write_full]
    rfl
  · intro text
    rw [TimePattern.read?_whole_or_full, Value.asTimestamp?]
  · rw [TimePattern.stored_eq,
      TimePattern.read?_whole_write]

/- Half a second into a leap second, before the year 0. -/
example :
    (Timestamp.of? (-5) 12 31 23 59 59 1500000000).map
        TimePattern.full.write =
      some "-0005-12-31 23:59:60.500" := by
  decide +kernel

/-
  A third of a second into a leap second behind the fourth
  second of a minute.
-/
def leapWithinMinute : Timestamp :=
  ⟨⟨2015, 6, 30, by decide⟩,
    ⟨23, 56, 4, 1333333333, by decide⟩⟩

/- The same time of the second behind it. -/
def secondAfterLeap : Timestamp :=
  ⟨⟨2015, 6, 30, by decide⟩,
    ⟨23, 56, 5, 333333333, by decide⟩⟩

/-
  The text of that leap second is the text of the second
  behind it, and is read as such.
-/
theorem leap_second_lost :
    Stored.ofValue (.timestamp leapWithinMinute) =
        .text "2015-06-30 23:56:05.333333333" ∧
      (Stored.roundTrip
        (.timestamp leapWithinMinute)).asTimestamp? =
          some secondAfterLeap ∧
      (Stored.roundTrip
        (.timestamp leapWithinMinute)).asTimestamp? ≠
          some leapWithinMinute := by
  have hText :
      leapWithinMinute.text =
        "2015-06-30 23:56:05.333333333" := by
    decide +kernel
  have hShown :
      leapWithinMinute.shown = secondAfterLeap := by
    decide +kernel
  have hBack := asTimestamp?_roundTrip leapWithinMinute
  rw [hShown] at hBack
  refine ⟨congrArg Stored.text hText, hBack, ?_⟩
  rw [hBack]
  decide

end Timestamp

end SqlAccess
