import RecordWatch.Proofs.Comparison.Dates

/-! The relative windows of dates. A date lies in a window if it is on that side of now and no
farther than the window is long, counted in nanoseconds without bound, also where the window leaves
the range of instants. So the longer windows hold the shorter, the two sides mirror each other, and
they meet in now alone. -/

namespace RecordWatch

/-- How long a relative window is. -/
inductive Span where
  | week
  | month
  | year

/-- The nanoseconds of a window: a week has seven days of 24 hours, a month 30 and a year 365. -/
def Span.nanoseconds : Span → Int
  | .week => 7 * (24 * 3600 * 1000000000)
  | .month => 30 * (24 * 3600 * 1000000000)
  | .year => 365 * (24 * 3600 * 1000000000)

theorem Span.nanoseconds_nonneg (span : Span) : 0 ≤ span.nanoseconds := by
  cases span <;> decide

/-- The side of now on which a relative window lies. -/
inductive Side where
  | past
  | next

namespace Side

/-- The other side. -/
def flip : Side → Side
  | .past => .next
  | .next => .past

/-- The operator of a window. -/
def operator : Side → Span → Operator
  | .past, .week => .pastWeek
  | .past, .month => .pastMonth
  | .past, .year => .pastYear
  | .next, .week => .nextWeek
  | .next, .month => .nextMonth
  | .next, .year => .nextYear

/-- How far to this side of now an instant lies; less than nothing if it lies on the other. -/
def distance (side : Side) (t now : Instant) : Int :=
  match side with
  | .past => now.nanoseconds - t.nanoseconds
  | .next => t.nanoseconds - now.nanoseconds

theorem distance_flip (side : Side) (t now : Instant) :
    side.flip.distance now t = side.distance t now := by
  cases side <;> rfl

end Side

namespace Comparison

variable {d : String} {now : Moment} {t : Instant}

theorem holds_window (hd : Instant.ofText? d now.zone = some t) (side : Side) (span : Span)
    (operand : Json) :
    holds ⟨side.operator span, operand⟩ (.date d) now =
      .ok (decide (0 ≤ side.distance t now.instant ∧
        side.distance t now.instant ≤ span.nanoseconds)) := by
  cases side with
  | past =>
    cases span <;>
    · simp only [Side.operator, holds, onDate, dateIn_of_some hd, pure_bind]
      rw [inPast_eq _ _ (by decide)]
      rfl
  | next =>
    cases span <;>
    · simp only [Side.operator, holds, onDate, dateIn_of_some hd, pure_bind]
      rw [inFuture_eq _ _ (by decide)]
      rfl

theorem holds_window_iff (hd : Instant.ofText? d now.zone = some t) {side : Side} {span : Span}
    {operand : Json} :
    holds ⟨side.operator span, operand⟩ (.date d) now = .ok true ↔
      0 ≤ side.distance t now.instant ∧ side.distance t now.instant ≤ span.nanoseconds := by
  rw [holds_window hd, Except.ok.injEq, decide_eq_true_iff]

/-- Of a date that can be read each window holds exactly if the date is no farther from now than the
window is long, and on its side. A longer window of a side holds where a shorter one does; seen from
the date, now lies in the window on the other side; and windows on both sides hold of now alone. -/
theorem exact_windows (hd : Instant.ofText? d now.zone = some t) :
    (∀ side span operand, holds ⟨Side.operator side span, operand⟩ (.date d) now =
      .ok (decide (0 ≤ side.distance t now.instant ∧
        side.distance t now.instant ≤ span.nanoseconds))) ∧
    (∀ side span longer operand, Span.nanoseconds span ≤ Span.nanoseconds longer →
      holds ⟨Side.operator side span, operand⟩ (.date d) now = .ok true →
        holds ⟨Side.operator side longer, operand⟩ (.date d) now = .ok true) ∧
    (∀ d' now', Moment.instant now' = t → Instant.ofText? d' now'.zone = some now.instant →
      ∀ side span operand, holds ⟨Side.operator side span, operand⟩ (.date d) now =
        holds ⟨side.flip.operator span, operand⟩ (.date d') now') ∧
    ∀ span span' operand,
      holds ⟨Side.past.operator span, operand⟩ (.date d) now = .ok true ∧
        holds ⟨Side.next.operator span', operand⟩ (.date d) now = .ok true ↔ t = now.instant := by
  refine ⟨holds_window hd, ?_, ?_, ?_⟩
  · intro side span longer operand hlonger h
    obtain ⟨hside, hfar⟩ := (holds_window_iff hd).mp h
    exact (holds_window_iff hd).mpr ⟨hside, Int.le_trans hfar hlonger⟩
  · rintro d' now' rfl hd' side span operand
    rw [holds_window hd, holds_window hd', side.distance_flip]
  · intro span span' operand
    rw [holds_window_iff hd, holds_window_iff hd]
    constructor
    · rintro ⟨⟨hpast, -⟩, hnext, -⟩
      have hnanoseconds : t.nanoseconds = now.instant.nanoseconds := by
        dsimp only [Side.distance] at hpast hnext
        omega
      exact Instant.eq_of_nanoseconds hnanoseconds
    · rintro rfl
      have hnow (side : Side) : side.distance now.instant now.instant = 0 := by
        cases side <;> exact Int.sub_self _
      rw [hnow, hnow]
      exact ⟨⟨Int.le_refl 0, span.nanoseconds_nonneg⟩, Int.le_refl 0, span'.nanoseconds_nonneg⟩

/-- A day after the earliest instant, a year before which there is none. -/
def secondDay : Moment := ⟨⟨-377705023201 * 1000000000 + day, by decide, by decide⟩, .utc⟩

/-- The earliest date is in the past year of the day after it, although the year has no start. -/
theorem exact_windows_earliest :
    secondDay.instant.sub? (365 * day) = none ∧
      holds ⟨.pastYear, .null⟩ (.date "-009999-01-02T01:59:59Z") secondDay = .ok true ∧
      holds ⟨.nextYear, .null⟩ (.date "-009999-01-02T01:59:59Z") secondDay = .ok false ∧
      holds ⟨.nextYear, .null⟩ (.date "-009999-01-03T01:59:59Z") ⟨.earliest, .utc⟩ = .ok true := by
  have hd : Instant.ofText? "-009999-01-02T01:59:59Z" secondDay.zone = some .earliest := by
    decide +kernel
  have hd' : Instant.ofText? "-009999-01-03T01:59:59Z" .utc = some secondDay.instant := by
    decide +kernel
  obtain ⟨hverdict, hlonger, hmirror, -⟩ := exact_windows hd
  have hpast : holds ⟨.pastYear, .null⟩ (.date "-009999-01-02T01:59:59Z") secondDay = .ok true :=
    hlonger .past .week .year .null (by decide) (hverdict .past .week .null)
  refine ⟨by decide, hpast, hverdict .next .year .null, ?_⟩
  exact (hmirror _ ⟨.earliest, .utc⟩ rfl hd' .past .year .null).symm.trans hpast

end Comparison

end RecordWatch
