import RecordWatch.Config
import RecordWatch.Proofs.Session.Completeness

/-! The arithmetic of the lookback. Minutes become seconds, which have to fit in a word, and the
instant that many seconds earlier has to be in range; else the instant itself is used. So too many
minutes keep a session from starting or make it look back no further than now, and a negative number
of them makes it look ahead. -/

namespace RecordWatch

theorem Settings.seconds?_eq (minutes : Int) :
    seconds? minutes = if fitsSigned64 (minutes * 60) then some (minutes * 60) else none :=
  rfl

namespace Config

variable {config : Config}

/-- A session can be set up if both lookbacks fit in their seconds. -/
theorem settings?_eq_some (hi : fitsSigned64 (config.initialLookback * 60))
    (hp : fitsSigned64 (config.lookbackPadding * 60)) :
    config.settings? =
      some ⟨config.rulesPath, config.initialLookback * 60, config.lookbackPadding * 60⟩ := by
  rw [settings?, Settings.seconds?_eq, Settings.seconds?_eq, if_pos hi, if_pos hp]
  rfl

theorem settings?_eq_none (h : ¬(fitsSigned64 (config.initialLookback * 60) ∧
    fitsSigned64 (config.lookbackPadding * 60))) : config.settings? = none := by
  rw [settings?, Settings.seconds?_eq, Settings.seconds?_eq]
  by_cases hi : fitsSigned64 (config.initialLookback * 60)
  · rw [if_pos hi, if_neg fun hp => h ⟨hi, hp⟩]
    rfl
  · rw [if_neg hi]
    rfl

end Config

namespace Lookback

variable {base : Instant} {minutes : Int}

/-- The start of a lookback of some minutes. -/
def start (base : Instant) (minutes : Int) : Instant := before base (minutes * 60)

/-- That many minutes before an instant there is another one. -/
def Within (base : Instant) (minutes : Int) : Prop :=
  Instant.earliest.nanoseconds ≤ base.nanoseconds - minutes * 60 * second ∧
    base.nanoseconds - minutes * 60 * second ≤ Instant.latest.nanoseconds

instance (base : Instant) (minutes : Int) : Decidable (Within base minutes) :=
  inferInstanceAs (Decidable (_ ∧ _))

theorem nanoseconds_start (base : Instant) (minutes : Int) :
    (start base minutes).nanoseconds =
      if Within base minutes then base.nanoseconds - minutes * 60 * second
      else base.nanoseconds := by
  rw [start, before, Instant.sub?, Instant.ofNanoseconds?]
  by_cases h : Within base minutes
  · rw [if_pos h]
    rw [Within, Instant.earliest, Instant.latest] at h
    rw [dif_pos h, Option.getD_some]
  · rw [if_neg h]
    rw [Within, Instant.earliest, Instant.latest] at h
    rw [dif_neg h, Option.getD_none]

/-- A lookback starts after its base only if its minutes are negative. -/
theorem base_lt_start_iff :
    base.nanoseconds < (start base minutes).nanoseconds ↔ minutes < 0 ∧ Within base minutes := by
  rw [nanoseconds_start, second]
  split
  · next h =>
    rw [and_iff_left h]
    omega
  · next h => simp [h]

/-- More minutes start a lookback later only if they lead out of range and fewer do not, or if fewer
lead out of range and more do not. -/
theorem start_lt_start_iff {more : Int} (h : minutes ≤ more) :
    (start base minutes).nanoseconds < (start base more).nanoseconds ↔
      (0 < minutes ∧ Within base minutes ∧ ¬Within base more) ∨
        (more < 0 ∧ ¬Within base minutes ∧ Within base more) := by
  rw [nanoseconds_start, nanoseconds_start, second]
  split <;> split <;> rename_i hm hn <;> simp [hm, hn] <;> omega

end Lookback

/-! ### The lookback of a session -/

/-- The instant that a poll of a collection looks back from: the start of its last successful poll,
or of the session. -/
def Session.base (session : Session) (collection : String) : Instant :=
  (session.lastSuccess.get? collection).getD session.started

namespace Config

/-- The minutes that a poll of a collection looks back. -/
def lookbackMinutes (config : Config) (session : Session) (collection : String) : Int :=
  if (session.lastSuccess.get? collection).isSome then config.lookbackPadding
  else config.initialLookback

/-- The instant that this comes to. -/
def lookbackStart (config : Config) (session : Session) (collection : String) : Instant :=
  Lookback.start (session.base collection) (config.lookbackMinutes session collection)

theorem lookback_eq {config : Config} {settings : Settings} (h : config.settings? = some settings)
    (session : Session) (collection : String) :
    session.lookback settings collection =
      Lookback.since (config.lookbackStart session collection) := by
  by_cases hfits : fitsSigned64 (config.initialLookback * 60) ∧
      fitsSigned64 (config.lookbackPadding * 60)
  · rw [settings?_eq_some hfits.1 hfits.2] at h
    obtain rfl := Option.some.inj h
    rw [Session.lookback, lookbackStart, Session.base, lookbackMinutes]
    cases session.lastSuccess.get? collection <;> rfl
  · rw [settings?_eq_none hfits] at h
    cases h

/-- When the lookback goes wrong. A configuration sets up no session if the seconds of a lookback do
not fit in a word. A lookback starts after its base only with negative minutes that stay in range.
More minutes look back less far only where they lead out of range, or where they are negative and
fewer lead out of range. -/
theorem lookback_exact (config : Config) :
    (config.settings? = none ↔ ¬(fitsSigned64 (config.initialLookback * 60) ∧
      fitsSigned64 (config.lookbackPadding * 60))) ∧
    ∀ settings, config.settings? = some settings → ∀ (session : Session) (collection : String),
      session.lookback settings collection =
          Lookback.since (config.lookbackStart session collection) ∧
        ((session.base collection).nanoseconds <
            (config.lookbackStart session collection).nanoseconds ↔
          config.lookbackMinutes session collection < 0 ∧
            Lookback.Within (session.base collection)
              (config.lookbackMinutes session collection)) ∧
        ∀ other : Config, config.lookbackMinutes session collection ≤
            other.lookbackMinutes session collection →
          ((config.lookbackStart session collection).nanoseconds <
              (other.lookbackStart session collection).nanoseconds ↔
            (0 < config.lookbackMinutes session collection ∧
              Lookback.Within (session.base collection)
                (config.lookbackMinutes session collection) ∧
              ¬Lookback.Within (session.base collection)
                (other.lookbackMinutes session collection)) ∨
            other.lookbackMinutes session collection < 0 ∧
              ¬Lookback.Within (session.base collection)
                (config.lookbackMinutes session collection) ∧
              Lookback.Within (session.base collection)
                (other.lookbackMinutes session collection)) := by
  refine ⟨⟨fun hnone hfits => ?_, settings?_eq_none⟩, fun settings hs session collection => ?_⟩
  · rw [settings?_eq_some hfits.1 hfits.2] at hnone
    cases hnone
  · exact ⟨lookback_eq hs session collection, Lookback.base_lt_start_iff,
      fun other hle => Lookback.start_lt_start_iff hle⟩

/-- A lookback of nearly two million years starts with the session; one of 45 minutes starts
earlier. -/
theorem lookback_exact_ages :
    (settings? { standard none with initialLookback := 1000000000000 }).isSome ∧
      ((standard none).lookbackStart ⟨[], none, [], default⟩ "c1").nanoseconds <
        (lookbackStart { standard none with initialLookback := 1000000000000 }
          ⟨[], none, [], default⟩ "c1").nanoseconds := by
  obtain ⟨-, -, hlater⟩ := (lookback_exact (standard none)).2 _ rfl ⟨[], none, [], default⟩ "c1"
  exact ⟨rfl, (hlater { standard none with initialLookback := 1000000000000 } (by decide)).mpr
    (.inl (by decide))⟩

end Config

end RecordWatch
