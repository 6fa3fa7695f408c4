import LogTree.Handler
import LogTree.Trace.Filter

namespace LogTree

theorem Level.max_le_iff {a b c : Level} : max a b ≤ c ↔ a ≤ c ∧ b ≤ c := by
  have hmax : max a b = if a ≤ b then b else a := rfl
  rw [hmax]
  split <;> simp only [Level.le_def] at * <;> omega

namespace Severity

/-- The least level that is published with a severity. -/
def least : Severity → Level
  | trace => .notset
  | debug => .debug
  | info => .info
  | warn => .warning
  | error => .error

theorem rank_le (severity : Severity) : severity.rank ≤ 4 := by
  cases severity <;> decide

theorem severity_least (severity : Severity) : severity.least.severity = 10 * severity.rank := by
  cases severity <;> rfl

/-- The severities are the tens of the levels, up to the one of the errors. -/
theorem rank_ofLevel (level : Level) : (ofLevel level).rank = min 4 (level.severity / 10) := by
  rw [ofLevel]
  simp only [Level.le_def, Level.error, Level.warning, Level.info, Level.debug]
  repeat' split
  all_goals
    simp only [rank]
    omega

theorem le_ofLevel_iff {severity : Severity} {level : Level} :
    severity ≤ ofLevel level ↔ severity.least ≤ level := by
  have hrank := severity.rank_le
  have hdef : severity ≤ ofLevel level ↔ severity.rank ≤ (ofLevel level).rank := Iff.rfl
  rw [hdef, rank_ofLevel, Level.le_def, severity_least]
  omega

theorem ofLevel_le_ofLevel {a b : Level} (h : a ≤ b) : ofLevel a ≤ ofLevel b :=
  le_ofLevel_iff.mpr (Nat.le_trans (le_ofLevel_iff.mp (Nat.le_refl _)) h)

end Severity

namespace Filter

/-- The least level that a filter shows. There is none if it shows nothing. -/
def cutoff? (filter : Filter) : Option Level :=
  (filter.rule?.bind FilterRule.least).map Severity.least

theorem shows_ofLevel (filter : Filter) (level : Level) :
    filter.shows (Severity.ofLevel level) = filter.cutoff?.any fun cutoff => cutoff ≤ level := by
  rw [shows, cutoff?]
  cases filter.rule?.bind FilterRule.least with
  | none => rfl
  | some severity => exact decide_eq_decide.mpr Severity.le_ofLevel_iff

theorem shows_of_cutoff?_eq_none {filter : Filter} (h : filter.cutoff? = none)
    (severity : Severity) : filter.shows severity = false := by
  rw [shows, Option.map_eq_none_iff.mp h]

theorem severity_cutoff?_mem {filter : Filter} {cutoff : Level}
    (h : filter.cutoff? = some cutoff) : cutoff.severity ∈ [0, 10, 20, 30, 40] := by
  obtain ⟨severity, -, rfl⟩ := Option.map_eq_some_iff.mp h
  cases severity <;> decide

end Filter

end LogTree
