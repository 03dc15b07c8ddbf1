/-
  EventEnvelope.Proofs.Calendar.IsoText
  ─────────────────────────────────────
  **Dates and times of day are read back from their ISO text.**

  What is written is made of numbers of a fixed width and of marks between them.  The reader takes
  the numbers by their width, and each mark tells it what comes next, so a text is read from the
  left, field by field.  Offsets are clocks themselves, behind a sign; one that is less than a
  second is read as none.

    • `digits?_padded`          — a number of fixed width,
    • `clock?_seconds`          — hours, minutes, seconds and their fraction,
    • `offset?_iso`             — offsets, and `wholeOrUtc`, which is what is left of them,
    • `Date.ofIso?_iso`         — every date,
    • `TimeOfDay.ofIso?_iso`    — every time of day.
-/
import EventEnvelope.Calendar.Iso
import EventEnvelope.Proofs.Text.Digits

namespace EventEnvelope

/-! ## §1. Texts within a range of codes. -/

namespace Text

/-- All characters have codes in this range. -/
def Within (low high : Nat) (t : Text) : Prop := ∀ c ∈ t, low ≤ c.toNat ∧ c.toNat ≤ high

instance (low high : Nat) (t : Text) : Decidable (Within low high t) :=
  inferInstanceAs (Decidable (∀ c ∈ t, _))

variable {low high : Nat}

theorem within_append {s t : Text} :
    Within low high (s ++ t) ↔ Within low high s ∧ Within low high t := List.forall_mem_append

theorem Within.mono {t : Text} {low' high' : Nat} (h : Within low high t) (hlow : low' ≤ low)
    (hhigh : high ≤ high') : Within low' high' t := by
  intro c hc
  have := h c hc
  omega

/-- Numbers are made of digits. -/
theorem within_padded (hlow : low ≤ 0x30) (hhigh : 0x39 ≤ high) (width n : Nat) :
    Within low high (padded width n) := by
  obtain ⟨ds, htext, hlt, -, -⟩ := padded_eq_digits width n
  intro c hc
  rw [htext] at hc
  obtain ⟨d, hd, rfl⟩ := List.mem_map.mp hc
  have hdigit := hlt d hd
  rw [toNat_decimalDigit hdigit]
  omega

/-- Such a character takes one byte. -/
theorem Within.length_bytes {t : Text} (h : Within low high t) (hhigh : high < 0x80) :
    (t.flatMap Utf8.bytesOf).length = t.length := by
  induction t with
  | nil => rfl
  | cons c rest ih =>
      obtain ⟨hc, hrest⟩ := List.forall_mem_cons.mp h
      rw [List.flatMap_cons, List.length_append, ih hrest, Utf8.bytesOf_one (by omega)]
      simp [Nat.add_comm]

theorem Within.hasSurrogate {t : Text} (h : Within low high t) (hhigh : high < 0xD800) :
    t.hasSurrogate = false := by
  refine List.any_eq_false.mpr fun c hc => ?_
  have := h c hc
  simp only [CodePoint.isSurrogate, Bool.and_eq_true, decide_eq_true_eq]
  omega

theorem length_padded {width n : Nat} (hwidth : 0 < width) (hn : n < 10 ^ width) :
    (padded width n).length = width := by
  have := (length_ofNat_le hwidth).mpr hn
  simp only [padded, List.length_append, List.length_replicate]
  omega

end Text

open Text

namespace Iso

/-! ## §2. Padded numbers. -/

theorem digits?_digits (ds : List Nat) (hlt : ∀ e ∈ ds, e < 10) (rest : Text) :
    digits? ds.length (ds.map decimalDigit ++ rest) = some (natOfDigits ds, rest) := by
  induction ds with
  | nil => rfl
  | cons d ds ih =>
      obtain ⟨hd, hds⟩ := List.forall_mem_cons.mp hlt
      show digits? (ds.length + 1) (decimalDigit d :: (ds.map decimalDigit ++ rest)) = _
      rw [digits?, digitValue?_decimalDigit hd, ih hds, natOfDigits_cons]
      rfl

/-- A padded number of the right width is read as the number. -/
theorem digits?_padded {width n : Nat} (hwidth : 0 < width) (hn : n < 10 ^ width) (rest : Text) :
    digits? width (padded width n ++ rest) = some (n, rest) := by
  have hlength := length_padded hwidth hn
  obtain ⟨ds, htext, hlt, rfl, -⟩ := padded_eq_digits width n
  rw [htext, List.length_map] at hlength
  rw [htext, ← hlength]
  exact digits?_digits ds hlt rest

/-- A number begins with a digit. -/
theorem padded_eq_cons (width n : Nat) :
    ∃ c after, padded width n = c :: after ∧ 0x30 ≤ c.toNat ∧ c.toNat ≤ 0x39 := by
  have hwithin : Within 0x30 0x39 (padded width n) := within_padded le_rfl le_rfl width n
  obtain ⟨ds, htext, -, -, hne⟩ := padded_eq_digits width n
  cases ds with
  | nil => exact absurd rfl hne
  | cons d ds => exact ⟨_, _, htext, hwithin _ (by rw [htext]; exact List.mem_cons_self)⟩

theorem startsWith_padded {mark : Char} (hmark : mark.toNat < 0x30 ∨ 0x39 < mark.toNat)
    (width n : Nat) (rest : Text) : startsWith mark (padded width n ++ rest) = false := by
  obtain ⟨c, after, hcons, hc⟩ := padded_eq_cons width n
  rw [hcons]
  refine beq_eq_false_iff_ne.mpr fun heq => ?_
  have hcode : c.toNat = mark.toNat := congrArg CodePoint.toNat (Option.some.inj heq)
  omega

theorem skip?_padded {mark : Char} (hmark : mark.toNat < 0x30 ∨ 0x39 < mark.toNat)
    (width n : Nat) (rest : Text) : skip? mark (padded width n ++ rest) = none := by
  rw [skip?, startsWith_padded hmark]
  rfl

/-! ## §3. Dates. -/

theorem daysInMonth_le (year : Int) (month : Nat) : daysInMonth year month ≤ 31 := by
  unfold daysInMonth
  split
  · split <;> omega
  · split <;> omega

theorem iso_date_eq (d : Date) :
    d.iso = padded 4 d.year
      ++ .ofChar '-' :: (padded 2 d.month ++ .ofChar '-' :: (padded 2 d.day ++ [])) := by
  rw [Date.iso, List.append_assoc, List.append_assoc, List.append_assoc, List.append_nil]
  rfl

theorem monthDate?_padded {year month day : Nat} (hmonth : month < 10 ^ 2) (hday : day < 10 ^ 2) :
    monthDate? year true (padded 2 month ++ .ofChar '-' :: (padded 2 day ++ []))
      = Date.of? year month day := by
  rw [monthDate?, digits?_padded (by decide) hmonth]
  show (digits? 2 (padded 2 day ++ [])).bind _ = _
  rw [digits?_padded (by decide) hday]
  rfl

/-- A year and a dash, with no week behind them, begin a date by its month. -/
theorem date?_eq_monthDate? {t rest : Text} {year : Nat}
    (hyear : digits? 4 t = some (year, .ofChar '-' :: rest)) (hweek : skip? 'W' rest = none) :
    date? t = monthDate? year true rest := by
  have hdashed : startsWith '-' (.ofChar '-' :: rest) = true := rfl
  rw [date?, hyear]
  simp only [Option.bind_eq_bind, Option.bind_some, hdashed, if_true, List.drop_succ_cons,
    List.drop_zero, hweek]

/-- **A date is read back** from its text. -/
theorem date?_iso (d : Date) : date? d.iso = some d := by
  obtain ⟨⟨-, hyear⟩, ⟨-, hmonth⟩, -, hday⟩ := d.inRange
  have hlast := daysInMonth_le d.year d.month
  rw [iso_date_eq, date?_eq_monthDate? (digits?_padded (by decide) (by omega) _)
    (skip?_padded (by decide) 2 d.month _), monthDate?_padded (by omega) (by omega)]
  exact dif_pos d.inRange

/-! ## §4. Clocks. -/

/-- A mark and a number are more than one byte. -/
theorem bytes_padded (mark : CodePoint) (width n : Nat) (rest : Text) :
    ¬ ((mark :: (padded width n ++ rest)).flatMap Utf8.bytesOf).length ≤ 1 := by
  have hpos : ∀ c : CodePoint, 0 < (Utf8.bytesOf c).length := by
    intro c
    unfold Utf8.bytesOf
    dsimp only
    split
    · exact Nat.one_pos
    split
    · exact Nat.succ_pos _
    split
    · exact Nat.succ_pos _
    · exact Nat.succ_pos _
  obtain ⟨c, after, hcons, -⟩ := padded_eq_cons width n
  have hmark := hpos mark
  have hc := hpos c
  rw [hcons, List.cons_append, List.flatMap_cons, List.flatMap_cons, List.length_append,
    List.length_append]
  omega

theorem afterField?_colon (width n : Nat) (rest : Text) :
    afterField? true (.ofChar ':' :: (padded width n ++ rest))
      = some (.field (padded width n ++ rest)) := by
  rw [afterField?, if_neg (bytes_padded _ width n rest)]
  rfl

theorem afterField?_point (width n : Nat) (rest : Text) :
    afterField? true (.ofChar '.' :: (padded width n ++ rest))
      = some (.fraction (padded width n ++ rest)) := by
  rw [afterField?, if_neg (bytes_padded _ width n rest)]
  rfl

theorem fraction?_padded {microsecond : Nat} (h : microsecond < 1000000) :
    fraction? (padded 6 microsecond ++ []) = some (microsecond, false) := by
  have hlength : min 6 (padded 6 microsecond ++ []).length = 6 := by
    rw [List.append_nil, length_padded (by decide) h]
    rfl
  rw [fraction?, hlength]
  dsimp only
  rw [digits?_padded (by decide) h]
  show some (microsecond * 1, false) = _
  rw [Nat.mul_one]

variable {hour minute second microsecond : Nat}

/-- Hours and minutes are a clock. -/
theorem clock?_minutes (hhour : hour < 10 ^ 2) (hminute : minute < 10 ^ 2) :
    clock? (padded 2 hour ++ .ofChar ':' :: (padded 2 minute ++ []))
      = some (⟨hour, minute, 0, 0⟩, false) := by
  rw [clock?, digits?_padded (by decide) hhour]
  show (afterField? true (.ofChar ':' :: (padded 2 minute ++ []))).bind _ = _
  rw [afterField?_colon]
  show (digits? 2 (padded 2 minute ++ [])).bind _ = _
  rw [digits?_padded (by decide) hminute]
  rfl

/-- **Seconds and their fraction** are read behind them. -/
theorem clock?_seconds (hhour : hour < 10 ^ 2) (hminute : minute < 10 ^ 2)
    (hsecond : second < 10 ^ 2) (hmicro : microsecond < 1000000) :
    clock? (padded 2 hour
        ++ .ofChar ':' :: (padded 2 minute ++ .ofChar ':' :: isoSeconds second microsecond))
      = some (⟨hour, minute, second, microsecond⟩, false) := by
  obtain ⟨rest, hrest, hdone⟩ : ∃ rest, isoSeconds second microsecond = padded 2 second ++ rest
      ∧ (rest = [] ∧ microsecond = 0 ∨ rest = .ofChar '.' :: (padded 6 microsecond ++ [])) := by
    refine ⟨_, rfl, ?_⟩
    split
    next hzero => exact .inl ⟨rfl, hzero⟩
    next =>
      right
      rw [List.append_nil]
      rfl
  rw [hrest, clock?, digits?_padded (by decide) hhour]
  show (afterField? true
    (.ofChar ':' :: (padded 2 minute ++ .ofChar ':' :: (padded 2 second ++ rest)))).bind _ = _
  rw [afterField?_colon]
  show (digits? 2 (padded 2 minute ++ .ofChar ':' :: (padded 2 second ++ rest))).bind _ = _
  rw [digits?_padded (by decide) hminute]
  show (afterField? true (.ofChar ':' :: (padded 2 second ++ rest))).bind _ = _
  rw [afterField?_colon]
  show (digits? 2 (padded 2 second ++ rest)).bind _ = _
  rw [digits?_padded (by decide) hsecond]
  show (afterField? true rest).bind _ = _
  rcases hdone with ⟨rfl, rfl⟩ | rfl
  · rfl
  · rw [afterField?_point]
    show (fraction? (padded 6 microsecond ++ [])).bind _ = _
    rw [fraction?_padded hmicro]
    rfl

/-! ## §5. Offsets. -/

/-- The offset that is read for an offset: less than a second counts as none. -/
def wholeOrUtc (o : UtcOffset) : UtcOffset := if o.microseconds.natAbs < 1000000 then .utc else o

/-- The fields of an offset without its sign. -/
def clockOf (o : UtcOffset) : Clock :=
  let n := o.microseconds.natAbs
  ⟨n / 3600000000, n / 60000000 % 60, n / 1000000 % 60, n % 1000000⟩

theorem natAbs_offset_lt (o : UtcOffset) : o.microseconds.natAbs < 86400000000 := by
  have := o.inRange
  unfold microsecondsPerDay at this
  omega

/-- An offset is written as a sign and a clock. -/
theorem iso_offset_eq (o : UtcOffset) :
    ∃ t, o.iso = (if o.microseconds < 0 then .ofChar '-' else .ofChar '+') :: t
      ∧ clock? t = some (clockOf o, false) := by
  have hlt := natAbs_offset_lt o
  unfold clockOf
  dsimp only
  generalize hn : o.microseconds.natAbs = n at hlt ⊢
  have hhour : n / 3600000000 < 10 ^ 2 := by omega
  have hminute : n / 60000000 % 60 < 10 ^ 2 := by omega
  have hsign : Text.ofString (if o.microseconds < 0 then "-" else "+")
      = [if o.microseconds < 0 then .ofChar '-' else .ofChar '+'] := by
    split <;> rfl
  have hiso : o.iso = (if o.microseconds < 0 then .ofChar '-' else .ofChar '+')
      :: (padded 2 (n / 3600000000) ++ .ofChar ':' :: (padded 2 (n / 60000000 % 60)
        ++ if n / 1000000 % 60 = 0 ∧ n % 1000000 = 0 then []
          else .ofChar ':' :: isoSeconds (n / 1000000 % 60) (n % 1000000))) := by
    rw [UtcOffset.iso, hn, hsign, List.append_assoc, List.append_assoc, List.append_assoc]
    rfl
  refine ⟨_, hiso, ?_⟩
  split
  next hzero =>
    rw [clock?_minutes hhour hminute, hzero.1, hzero.2]
  next => exact clock?_seconds hhour hminute (by omega) (by omega)

theorem offsetOf?_clockOf (o : UtcOffset) :
    offsetOf? (decide (o.microseconds < 0)) (clockOf o) = some (wholeOrUtc o) := by
  have hlt := natAbs_offset_lt o
  have hseconds : (clockOf o).hour * 3600 + (clockOf o).minute * 60 + (clockOf o).second
      = o.microseconds.natAbs / 1000000 := by
    show o.microseconds.natAbs / 3600000000 * 3600 + o.microseconds.natAbs / 60000000 % 60 * 60
      + o.microseconds.natAbs / 1000000 % 60 = _
    omega
  have hmicro : (clockOf o).microsecond = o.microseconds.natAbs % 1000000 := rfl
  rw [offsetOf?, hseconds, hmicro, wholeOrUtc]
  dsimp only
  by_cases hsmall : o.microseconds.natAbs < 1000000
  · rw [if_pos (by omega), if_pos hsmall]
  · rw [if_neg (by omega), if_neg hsmall]
    have hsigned : (if decide (o.microseconds < 0) = true then
        -(((o.microseconds.natAbs / 1000000 : Nat) : Int) * 1000000
          + (o.microseconds.natAbs % 1000000 : Nat))
        else ((o.microseconds.natAbs / 1000000 : Nat) : Int) * 1000000
          + (o.microseconds.natAbs % 1000000 : Nat)) = o.microseconds := by
      simp only [decide_eq_true_eq]
      split <;> omega
    rw [hsigned]
    exact dif_pos o.inRange

/-- **An offset is read back**, unless it is less than a second. -/
theorem offset?_iso (o : UtcOffset) :
    ∃ mark t, o.iso = mark :: t ∧ isZoneMark mark = true
      ∧ offset? mark t = some (wholeOrUtc o) := by
  obtain ⟨t, hiso, hclock⟩ := iso_offset_eq o
  have hoffset := offsetOf?_clockOf o
  refine ⟨_, t, hiso, ?_, ?_⟩
  · split <;> decide
  · by_cases hnegative : o.microseconds < 0
    · rw [if_pos hnegative, offset?, if_neg (by decide), hclock]
      rw [decide_eq_true hnegative] at hoffset
      exact hoffset
    · rw [if_neg hnegative, offset?, if_neg (by decide), hclock]
      rw [decide_eq_false hnegative] at hoffset
      exact hoffset

/-! ## §6. Times of day. -/

/-- The text of a clock with seconds. -/
def clockText (t : TimeOfDay) : Text :=
  padded 2 t.hour
    ++ .ofChar ':' :: (padded 2 t.minute ++ .ofChar ':' :: isoSeconds t.second t.microsecond)

theorem iso_time_eq (t : TimeOfDay) :
    t.iso = clockText t ++ (t.offset.map UtcOffset.iso).getD [] := by
  show padded 2 t.hour ++ [.ofChar ':'] ++ padded 2 t.minute ++ [.ofChar ':']
    ++ isoSeconds t.second t.microsecond ++ _ = _
  simp only [clockText, List.append_assoc, List.cons_append, List.nil_append]

theorem within_isoSeconds (second microsecond : Nat) :
    Within 0x2E 0x3A (isoSeconds second microsecond) := by
  have hpadded : ∀ width n, Within 0x2E 0x3A (padded width n) :=
    within_padded (by decide) (by decide)
  unfold isoSeconds
  refine within_append.mpr ⟨hpadded 2 second, ?_⟩
  split
  · decide
  · exact within_append.mpr ⟨by decide, hpadded 6 microsecond⟩

theorem within_clockText (t : TimeOfDay) : Within 0x2E 0x3A (clockText t) := by
  have hpadded : ∀ width n, Within 0x2E 0x3A (padded width n) :=
    within_padded (by decide) (by decide)
  have hcolon : ∀ rest, Within 0x2E 0x3A rest → Within 0x2E 0x3A (.ofChar ':' :: rest) :=
    fun rest hrest => List.forall_mem_cons.mpr ⟨by decide, hrest⟩
  refine within_append.mpr ⟨hpadded 2 t.hour, hcolon _ (within_append.mpr ⟨hpadded 2 t.minute, ?_⟩)⟩
  exact hcolon _ (within_isoSeconds t.second t.microsecond)

/-- No character of a clock begins an offset. -/
theorem isZoneMark_of_within {t : Text} (h : Within 0x2E 0x3A t) :
    ∀ c ∈ t, (!isZoneMark c) = true := by
  intro c hc
  have hcode := h c hc
  have hne : ∀ mark : Char, mark.toNat < 0x2E ∨ 0x3A < mark.toNat →
      (c == CodePoint.ofChar mark) = false := by
    intro mark hmark
    refine beq_eq_false_iff_ne.mpr fun heq => ?_
    have : c.toNat = mark.toNat := congrArg CodePoint.toNat heq
    omega
  rw [isZoneMark, hne '+' (by decide), hne '-' (by decide), hne 'Z' (by decide)]
  rfl

/-- **A time of day is read back** from its text, but for an offset of less than a second. -/
theorem time?_iso (t : TimeOfDay) :
    time? t.iso = some { t with offset := t.offset.map wholeOrUtc } := by
  obtain ⟨hhour, hminute, hsecond, hmicro⟩ := t.inRange
  have hmarks := isZoneMark_of_within (within_clockText t)
  have hclock : clock? (clockText t) = some (⟨t.hour, t.minute, t.second, t.microsecond⟩, false) :=
    clock?_seconds (by omega) (by omega) (by omega) hmicro
  rw [iso_time_eq, time?, List.takeWhile_append_of_pos hmarks, List.dropWhile_append_of_pos hmarks]
  cases hoffset : t.offset with
  | none =>
      rw [Option.map_none, Option.getD_none, List.takeWhile_nil, List.append_nil, hclock]
      exact dif_pos t.inRange
  | some o =>
      obtain ⟨mark, rest, hiso, hmark, hread⟩ := offset?_iso o
      rw [Option.map_some, Option.getD_some, hiso, List.takeWhile_cons, List.dropWhile_cons, hmark]
      show (clock? (clockText t ++ [])).bind _ = _
      rw [List.append_nil, hclock]
      show (offset? mark rest).bind _ = _
      rw [hread]
      exact dif_pos t.inRange

end Iso

open Iso

/-! ## §7. Whole texts. -/

/-- The text of a date is ten bytes of ASCII. -/
theorem Date.within_iso (d : Date) : Text.Within 0x2D 0x39 d.iso := by
  have hpadded : ∀ width n, Within 0x2D 0x39 (padded width n) :=
    within_padded (by decide) (by decide)
  have hdash : Within 0x2D 0x39 (Text.ofString "-") := by decide
  simp only [Date.iso, within_append]
  exact ⟨⟨⟨⟨hpadded 4 d.year, hdash⟩, hpadded 2 d.month⟩, hdash⟩, hpadded 2 d.day⟩

theorem Date.length_iso (d : Date) : d.iso.length = 10 := by
  obtain ⟨⟨-, hyear⟩, ⟨-, hmonth⟩, -, hday⟩ := d.inRange
  have hlast := daysInMonth_le d.year d.month
  simp only [iso_date_eq, List.length_append, List.length_cons, List.length_nil,
    length_padded (show 0 < 4 by decide) (show d.year < 10 ^ 4 by omega),
    length_padded (show 0 < 2 by decide) (show d.month < 10 ^ 2 by omega),
    length_padded (show 0 < 2 by decide) (show d.day < 10 ^ 2 by omega)]

theorem Date.ofIso?_iso (d : Date) : Date.ofIso? d.iso = some d := by
  have hwithin := d.within_iso
  rw [Date.ofIso?, hwithin.length_bytes (by decide), hwithin.hasSurrogate (by decide), d.length_iso]
  exact date?_iso d

theorem UtcOffset.within_iso (o : UtcOffset) : Text.Within 0x2B 0x3A o.iso := by
  have hpadded : ∀ width n, Within 0x2B 0x3A (padded width n) :=
    within_padded (by decide) (by decide)
  have hcolon : Within 0x2B 0x3A (Text.ofString ":") := by decide
  have hseconds : ∀ second microsecond, Within 0x2B 0x3A (isoSeconds second microsecond) :=
    fun second microsecond => (within_isoSeconds second microsecond).mono (by decide) (by decide)
  simp only [UtcOffset.iso, within_append]
  refine ⟨⟨⟨⟨?_, hpadded 2 _⟩, hcolon⟩, hpadded 2 _⟩, ?_⟩
  · split <;> decide
  · split
    · decide
    · exact within_append.mpr ⟨hcolon, hseconds _ _⟩

theorem TimeOfDay.within_iso (t : TimeOfDay) : Text.Within 0x2B 0x3A t.iso := by
  rw [iso_time_eq, within_append]
  refine ⟨(within_clockText t).mono (by decide) (by decide), ?_⟩
  cases t.offset with
  | none => decide
  | some o => exact o.within_iso

theorem TimeOfDay.ofIso?_iso (t : TimeOfDay) :
    TimeOfDay.ofIso? t.iso = some { t with offset := t.offset.map wholeOrUtc } := by
  have hsurrogate := t.within_iso.hasSurrogate (by decide)
  have hskip : skip? 'T' t.iso = none := by
    rw [iso_time_eq, clockText, List.append_assoc]
    exact skip?_padded (by decide) 2 t.hour _
  rw [TimeOfDay.ofIso?, hsurrogate, hskip]
  exact time?_iso t

end EventEnvelope
