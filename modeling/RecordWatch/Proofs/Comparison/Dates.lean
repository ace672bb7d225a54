import RecordWatch.Trigger.Comparison

/-! What comparators say of a date that can be read. The verdict is one on instants, and so on whole
numbers of nanoseconds; that instants have a range does not show in it. A window that would reach
past the range ends where the range does, and no instant lies beyond. -/

namespace RecordWatch

namespace Instant

theorem eq_of_nanoseconds {t t' : Instant} (h : t.nanoseconds = t'.nanoseconds) : t = t' := by
  cases t
  cases t'
  cases h
  rfl

/-- No instant is lost where a span before now begins with the range. -/
theorem sub?_getD_le_iff (t now : Instant) {span : Int} (hspan : 0 ≤ span) :
    ((now.sub? span).getD .earliest).nanoseconds ≤ t.nanoseconds ↔
      now.nanoseconds - t.nanoseconds ≤ span := by
  have hearliest := t.least_le
  have hlatest := now.le_greatest
  unfold sub? ofNanoseconds?
  split
  · rw [Option.getD_some]
    dsimp only
    omega
  -- The end of the subtraction is before every instant, and so is no bound.
  · have hbefore : now.nanoseconds - span < -377705023201 * 1000000000 := by omega
    rw [Option.getD_none]
    refine iff_of_true hearliest ?_
    omega

theorem le_add?_getD_iff (t now : Instant) {span : Int} (hspan : 0 ≤ span) :
    t.nanoseconds ≤ ((now.add? span).getD .latest).nanoseconds ↔
      t.nanoseconds - now.nanoseconds ≤ span := by
  have hearliest := now.least_le
  have hlatest := t.le_greatest
  unfold add? ofNanoseconds?
  split
  · rw [Option.getD_some]
    dsimp only
    omega
  · have hafter : 253402207200 * 1000000000 + 999999999 < now.nanoseconds + span := by omega
    rw [Option.getD_none]
    refine iff_of_true hlatest ?_
    omega

end Instant

namespace Comparison

theorem inPast_eq (t now : Instant) {days : Int} (hdays : 0 ≤ days * day) :
    inPast t now days = decide (0 ≤ now.nanoseconds - t.nanoseconds ∧
      now.nanoseconds - t.nanoseconds ≤ days * day) := by
  unfold inPast
  refine decide_eq_decide.mpr ?_
  rw [Instant.sub?_getD_le_iff t now hdays, and_comm, Int.sub_nonneg]

theorem inFuture_eq (t now : Instant) {days : Int} (hdays : 0 ≤ days * day) :
    inFuture t now days = decide (0 ≤ t.nanoseconds - now.nanoseconds ∧
      t.nanoseconds - now.nanoseconds ≤ days * day) := by
  unfold inFuture
  refine decide_eq_decide.mpr ?_
  rw [Instant.le_add?_getD_iff t now hdays, Int.sub_nonneg]

theorem dateIn_of_some {zone : Zone} {d : String} {t : Instant}
    (h : Instant.ofText? d zone = some t) : dateIn zone d = pure t := by
  rw [dateIn, h]
  rfl

/-- The verdicts on the order of two dates are those on their instants. -/
theorem holds_exclusive (now : Moment) {d text : String} {t t' : Instant}
    (hd : Instant.ofText? d now.zone = some t) (htext : Instant.ofText? text now.zone = some t') :
    holds ⟨.before, .string text⟩ (.date d) now = .ok (decide (t.nanoseconds < t'.nanoseconds)) ∧
      holds ⟨.equals, .string text⟩ (.date d) now = .ok (t.nanoseconds == t'.nanoseconds) ∧
      holds ⟨.after, .string text⟩ (.date d) now =
        .ok (decide (t'.nanoseconds < t.nanoseconds)) := by
  have hoperand (operator : Operator) : stringOperand ⟨operator, .string text⟩ = pure text := rfl
  simp only [holds, onDate, dateIn_of_some hd, hoperand, dateIn_of_some htext, pure_bind]
  exact ⟨rfl, rfl, rfl⟩

end Comparison

end RecordWatch
