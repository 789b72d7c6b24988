import HeartbeatMesh.Config.Load
import HeartbeatMesh.Proofs.Duration

/-!
# Valid configurations

A configuration passes validation exactly if its numbers are in range
(`MeshConfig.defect?_eq_none_iff`), and what is loaded is valid (`Config.isValid_of_load`).

A period is clamped before it is converted, so every number of seconds, in range or not, has a time
span (`ofSeconds?_clampPeriod`), from one millisecond to one week (`le_periodOf`, `periodOf_le`),
and of two periods the longer has the longer one (`periodOf_le_periodOf`).
-/

namespace HeartbeatMesh

/-! ## The range of periods -/

theorem isPositive_minPeriod : IsPositive minPeriod 4611686018427388 (-62) :=
  ⟨⟨by omega, by omega, by omega, by omega, .inl (by omega)⟩, by rfl⟩

theorem isPositive_maxPeriod : IsPositive maxPeriod (604800 * 2 ^ 33) (-33) :=
  ⟨⟨by omega, by omega, by omega, by omega, .inl (by omega)⟩, by rfl⟩

theorem isPositive_tooLong : IsPositive Nanoseconds.tooLong (2 ^ 52) 12 :=
  ⟨⟨by omega, by omega, by omega, by omega, .inl (by omega)⟩, by rfl⟩

theorem ofSeconds_minPeriod : Nanoseconds.ofSeconds minPeriod = 1000000 := by
  rw [isPositive_minPeriod.ofSeconds_eq]
  decide

theorem ofSeconds_maxPeriod : Nanoseconds.ofSeconds maxPeriod = 604800 * Nanoseconds.perSecond := by
  rw [isPositive_maxPeriod.ofSeconds_eq]
  decide

theorem minPeriod_le_maxPeriod : minPeriod ≤ maxPeriod :=
  (isPositive_minPeriod.le_iff isPositive_maxPeriod).mpr (.inl (by omega))

/-- The seconds of a period, whatever number they come from. -/
theorem clampPeriod_mem (x : Float) :
    (clampPeriod x).isFinite = true ∧ minPeriod ≤ clampPeriod x ∧ clampPeriod x ≤ maxPeriod := by
  have hmin := isPositive_minPeriod.isFinite
  have hmax := isPositive_maxPeriod.isFinite
  rw [clampPeriod]
  split_ifs with hnan hlow hhigh
  · exact ⟨hmax, minPeriod_le_maxPeriod, (not_lt_iff_le hmax hmax).mp (by decide)⟩
  · exact ⟨hmin, (not_lt_iff_le hmin hmin).mp (by decide), minPeriod_le_maxPeriod⟩
  · exact ⟨hmax, minPeriod_le_maxPeriod, (not_lt_iff_le hmax hmax).mp (by decide)⟩
  · have hfinite : x.isFinite = true := by
      by_contra h
      rcases cases_of_not_isFinite h with hnan' | habove | hbelow
      · exact hnan hnan'.1
      · exact hhigh (habove maxPeriod hmax).1
      · exact hlow (hbelow minPeriod hmin).1
    exact ⟨hfinite, (not_lt_iff_le hfinite hmin).mp hlow, (not_lt_iff_le hmax hfinite).mp hhigh⟩

theorem exists_isPositive_clampPeriod (x : Float) : ∃ m e, IsPositive (clampPeriod x) m e :=
  isPositive_minPeriod.exists_of_le (clampPeriod_mem x).1 (clampPeriod_mem x).2.1

/-- Every number of seconds has a time span once it is clamped. -/
theorem ofSeconds?_clampPeriod (x : Float) :
    Nanoseconds.ofSeconds? (clampPeriod x) = some (periodOf x) := by
  obtain ⟨hfinite, hlow, hhigh⟩ := clampPeriod_mem x
  obtain ⟨m, e, hx⟩ := exists_isPositive_clampPeriod x
  have hpos : ¬clampPeriod x < 0.0 := by
    rw [not_lt_iff_le hfinite isFinite_zero, le_iff_timeRank_le isFinite_zero hfinite]
    exact ((lt_iff_timeRank_lt isFinite_zero hfinite).mp hx.pos).le
  have hshort : clampPeriod x < Nanoseconds.tooLong := by
    have hmax := (isPositive_maxPeriod.lt_iff isPositive_tooLong).mpr (.inl (by omega))
    rw [lt_iff_timeRank_lt isPositive_maxPeriod.isFinite isPositive_tooLong.isFinite] at hmax
    rw [le_iff_timeRank_le hfinite isPositive_maxPeriod.isFinite] at hhigh
    rw [lt_iff_timeRank_lt hfinite isPositive_tooLong.isFinite]
    exact hhigh.trans_lt hmax
  rw [periodOf, Nanoseconds.ofSeconds?, if_pos ⟨hfinite, hpos, hshort⟩, Option.getD_some]

theorem periodOf_eq (x : Float) : periodOf x = Nanoseconds.ofSeconds (clampPeriod x) := by
  have h := ofSeconds?_clampPeriod x
  rw [Nanoseconds.ofSeconds?] at h
  split_ifs at h
  exact (Option.some.inj h).symm

/-- A time span is a millisecond at least. -/
theorem le_periodOf (x : Float) : 1000000 ≤ periodOf x := by
  obtain ⟨m, e, hx⟩ := exists_isPositive_clampPeriod x
  rw [periodOf_eq, ← ofSeconds_minPeriod]
  exact isPositive_minPeriod.ofSeconds_le_ofSeconds hx (clampPeriod_mem x).2.1

/-- A time span is a week at most. -/
theorem periodOf_le (x : Float) : periodOf x ≤ 604800 * Nanoseconds.perSecond := by
  obtain ⟨m, e, hx⟩ := exists_isPositive_clampPeriod x
  rw [periodOf_eq, ← ofSeconds_maxPeriod]
  exact hx.ofSeconds_le_ofSeconds isPositive_maxPeriod (clampPeriod_mem x).2.2

section

variable {x y : Float}

theorem isNaN_of_isFinite (hx : x.isFinite = true) : ¬x.isNaN = true := by
  change x.toModel.unpack.isFinite = true at hx
  change ¬x.toModel.unpack.isNaN = true
  generalize x.toModel.unpack = u at hx
  cases u with
  | zero | finite => exact Bool.false_ne_true
  | infinity | notANumber => cases hx

/-- The place of a clamped number between the shortest and the longest period. -/
theorem timeRank_clampPeriod (hx : x.isFinite = true) :
    timeRank (clampPeriod x)
      = max (timeRank minPeriod) (min (timeRank maxPeriod) (timeRank x)) := by
  have hmin := isPositive_minPeriod.isFinite
  have hmax := isPositive_maxPeriod.isFinite
  have hrange : timeRank minPeriod ≤ timeRank maxPeriod :=
    (le_iff_timeRank_le hmin hmax).mp minPeriod_le_maxPeriod
  rw [clampPeriod, if_neg (isNaN_of_isFinite hx)]
  simp only [lt_iff_timeRank_lt hx hmin, lt_iff_timeRank_lt hmax hx]
  split_ifs with hlow hhigh
  · rw [min_eq_right (hlow.le.trans hrange), max_eq_left hlow.le]
  · rw [min_eq_left hhigh.le, max_eq_right hrange]
  · rw [min_eq_right (not_lt.mp hhigh), max_eq_right (not_lt.mp hlow)]

/-- The longer of two periods has the longer time span. -/
theorem periodOf_le_periodOf (hx : x.isFinite = true) (hy : y.isFinite = true) (hxy : x ≤ y) :
    periodOf x ≤ periodOf y := by
  obtain ⟨m, e, hx'⟩ := exists_isPositive_clampPeriod x
  obtain ⟨m', e', hy'⟩ := exists_isPositive_clampPeriod y
  rw [periodOf_eq, periodOf_eq]
  refine hx'.ofSeconds_le_ofSeconds hy' ?_
  rw [le_iff_timeRank_le hx'.isFinite hy'.isFinite, timeRank_clampPeriod hx,
    timeRank_clampPeriod hy]
  exact max_le_max_left _ (min_le_min_left _ ((le_iff_timeRank_le hx hy).mp hxy))

/-- Twice a number up to the longest period is greater, and up to the longest period as well unless
the number is more than half of it. -/
theorem mul_two_of_le_maxPeriod (hpos : 0.0 < x) (hx : x.isFinite = true) (hmax : x ≤ maxPeriod) :
    (x * 2.0).isFinite = true ∧ x ≤ x * 2.0 ∧ (maxPeriod < x * 2.0 ↔ 302400.0 < x) := by
  have hhalf : IsPositive 302400.0 (604800 * 2 ^ 33) (-34) :=
    ⟨⟨by omega, by omega, by omega, by omega, .inl (by omega)⟩, by rfl⟩
  obtain ⟨m, e, hx⟩ := exists_isPositive hpos hx
  rw [hx.le_iff isPositive_maxPeriod] at hmax
  rcases hx.mul_two (by omega) with ⟨hbig, htwice⟩ | ⟨hsmall, rfl, htwice⟩
  · refine ⟨htwice.isFinite, (hx.le_iff htwice).mpr (.inl (by omega)), ?_⟩
    rw [isPositive_maxPeriod.lt_iff htwice, hhalf.lt_iff hx]
    omega
  · -- The least of all numbers are far below.
    refine ⟨htwice.isFinite, (hx.le_iff htwice).mpr (.inr ⟨rfl, by omega⟩), ?_⟩
    rw [isPositive_maxPeriod.lt_iff htwice, hhalf.lt_iff hx]
    omega

end

/-! ## Validation -/

/-- All numbers are in range. -/
structure MeshConfig.IsValid (c : MeshConfig) : Prop where
  interval_isFinite : c.interval.isFinite = true
  interval_pos : 0.0 < c.interval
  interval_le : c.interval ≤ maxPeriod
  timeout_isFinite : c.timeout.isFinite = true
  timeout_le : c.timeout ≤ maxPeriod
  interval_le_timeout : c.interval ≤ c.timeout
  capacity_pos : 0 < c.capacity

theorem MeshConfig.defect?_eq_none_iff (c : MeshConfig) : c.defect? = none ↔ c.IsValid := by
  have hmax := isPositive_maxPeriod.isFinite
  constructor
  · intro h
    rw [MeshConfig.defect?] at h
    split_ifs at h with hinterval hinterval' htimeout htimeout' hcapacity
    obtain ⟨hfinite, hpos⟩ := hinterval
    obtain ⟨hfinite', hle⟩ := not_or.mp htimeout'
    exact ⟨hfinite, hpos, (not_lt_iff_le hmax hfinite).mp hinterval', not_not.mp hfinite',
      (not_lt_iff_le hmax (not_not.mp hfinite')).mp htimeout,
      (not_lt_iff_le (not_not.mp hfinite') hfinite).mp hle, Nat.pos_of_ne_zero hcapacity⟩
  · intro h
    have hinterval : ¬maxPeriod < c.interval :=
      (not_lt_iff_le hmax h.interval_isFinite).mpr h.interval_le
    have htimeout : ¬maxPeriod < c.timeout :=
      (not_lt_iff_le hmax h.timeout_isFinite).mpr h.timeout_le
    have hle : ¬c.timeout < c.interval :=
      (not_lt_iff_le h.timeout_isFinite h.interval_isFinite).mpr h.interval_le_timeout
    rw [MeshConfig.defect?, if_neg (not_not.mpr ⟨h.interval_isFinite, h.interval_pos⟩),
      if_neg hinterval, if_neg htimeout,
      if_neg (not_or.mpr ⟨not_not.mpr h.timeout_isFinite, hle⟩), if_neg h.capacity_pos.ne']

namespace Config

variable {c c' : Config}

theorem validate_eq_ok_iff : c.validate = .ok c' ↔ c = c' ∧ c.mesh.IsValid := by
  rw [← MeshConfig.defect?_eq_none_iff, validate]
  cases c.mesh.defect? with
  | none => simp
  | some defect => simp

theorem checked_eq_ok_iff : c.checked = .ok c' ↔ c = c' ∧ c.mesh.IsValid := by
  rw [← validate_eq_ok_iff, checked]
  cases c.validate with
  | ok c => simp
  | error defect => simp

theorem checked_of_defect? {defect : Defect} (h : c.mesh.defect? = some defect) :
    c.checked = .error (.invalid defect) := by
  rw [checked, validate, h]

/-- What is loaded is valid. -/
theorem isValid_of_load {files : Files} {requested userDirectory : Option String}
    (h : Config.load files requested userDirectory = .ok c) : c.mesh.IsValid := by
  have hchecked : ∃ c' : Config, c'.checked = .ok c := by
    rw [load] at h
    split at h
    · unfold ofFile at h
      split at h
      · cases h
      · split at h
        · cases h
        · split at h
          · cases h
          · exact ⟨_, h⟩
    · exact ⟨_, h⟩
  obtain ⟨c', hc'⟩ := hchecked
  obtain ⟨rfl, hvalid⟩ := checked_eq_ok_iff.mp hc'
  exact hvalid

end Config

end HeartbeatMesh
