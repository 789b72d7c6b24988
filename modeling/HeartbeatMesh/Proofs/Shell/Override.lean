import HeartbeatMesh.Proofs.Config
import HeartbeatMesh.Shell.Arguments

/-!
# Overriding the interval

An interval that is given on the command line replaces the one that has been loaded, and a timeout
that is too short for it is replaced by twice the interval. What comes out is valid, unless the
replacement is needed and twice the interval exceeds the longest period.
-/

namespace HeartbeatMesh.Shell.Options

variable {o : Options} {files : Files} {userDirectory : Option String} {c : Config} {i : Float}

/-- The configuration with a new interval. -/
theorem apply_of_interval (hi : o.interval = some i) (c : Config) :
    o.apply c =
      { mesh :=
          { interval := i
            timeout := if c.mesh.timeout < i then i * 2.0 else c.mesh.timeout
            capacity := c.mesh.capacity
            initialNodes := o.nodes.getD c.mesh.initialNodes
            mergeState := c.mesh.mergeState }
        logging := { c.logging with level := o.logLevel.getD c.logging.level } } := by
  rw [apply, hi]

/-- **Overriding the interval.** Let a configuration be loaded, and let an interval be given that is
positive and not above the longest period, with or without other options.

* The timeout is doubled out of range if it is shorter than the interval and the interval exceeds
  half of the longest period. Then the configuration is refused for its timeout.
* Otherwise the result is a valid configuration. It has the given interval and a timeout that is not
  shorter, which is the one that has been loaded unless that is shorter. The number of nodes and the
  level of the log are the given ones, if there are any, and all else is as it has been loaded. -/
theorem resolve_of_interval (hload : Config.load files o.config userDirectory = .ok c)
    (hi : o.interval = some i) (hpos : 0.0 < i) (hmax : i ≤ maxPeriod) :
    (c.mesh.timeout < i ∧ 302400.0 < i →
        o.resolve files userDirectory = .error (.invalid .timeoutTooLong)) ∧
      (¬(c.mesh.timeout < i ∧ 302400.0 < i) →
        ∃ c', o.resolve files userDirectory = .ok c' ∧ c'.validate = .ok c' ∧
          c'.mesh.interval = i ∧ i ≤ c'.mesh.timeout ∧
          c'.mesh.timeout = (if c.mesh.timeout < i then i * 2.0 else c.mesh.timeout) ∧
          c'.mesh.initialNodes = o.nodes.getD c.mesh.initialNodes ∧
          c'.logging.level = o.logLevel.getD c.logging.level ∧
          c'.mesh.capacity = c.mesh.capacity ∧ c'.mesh.mergeState = c.mesh.mergeState ∧
          c'.logging.directory = c.logging.directory ∧ c'.logging.json = c.logging.json) := by
  have hvalid := Config.isValid_of_load hload
  have hmaxFinite := isPositive_maxPeriod.isFinite
  have hfinite : i.isFinite = true := isFinite_of_le_of_le isFinite_zero hmaxFinite
    (le_iff_compare.mpr (.inl (lt_iff_compare.mp hpos))) hmax
  obtain ⟨htwiceFinite, hle, htwice⟩ := mul_two_of_le_maxPeriod hpos hfinite hmax
  have hresolve : o.resolve files userDirectory = (o.apply c).checked := by
    rw [resolve, hload]
    rfl
  rw [hresolve, apply_of_interval hi]
  constructor
  · rintro ⟨hshort, hlong⟩
    refine Config.checked_of_defect? ?_
    rw [MeshConfig.defect?]
    dsimp only
    rw [if_pos hshort, if_neg (not_not.mpr ⟨hfinite, hpos⟩),
      if_neg ((not_lt_iff_le hmaxFinite hfinite).mpr hmax), if_pos (htwice.mpr hlong)]
  · intro hfits
    -- The timeout is in range, whether it has been replaced or not.
    have htimeout : ∀ timeout, timeout = (if c.mesh.timeout < i then i * 2.0 else c.mesh.timeout) →
        timeout.isFinite = true ∧ timeout ≤ maxPeriod ∧ i ≤ timeout := by
      rintro timeout rfl
      split_ifs with hshort
      · have hlong : ¬302400.0 < i := fun hlong ↦ hfits ⟨hshort, hlong⟩
        exact ⟨htwiceFinite, (not_lt_iff_le hmaxFinite htwiceFinite).mp (mt htwice.mp hlong), hle⟩
      · exact ⟨hvalid.timeout_isFinite, hvalid.timeout_le,
          (not_lt_iff_le hvalid.timeout_isFinite hfinite).mp hshort⟩
    obtain ⟨htimeoutFinite, htimeoutLe, hleTimeout⟩ := htimeout _ rfl
    have hmesh : MeshConfig.IsValid
        { interval := i
          timeout := if c.mesh.timeout < i then i * 2.0 else c.mesh.timeout
          capacity := c.mesh.capacity
          initialNodes := o.nodes.getD c.mesh.initialNodes
          mergeState := c.mesh.mergeState } :=
      ⟨hfinite, hpos, hmax, htimeoutFinite, htimeoutLe, hleTimeout, hvalid.capacity_pos⟩
    exact ⟨_, Config.checked_eq_ok_iff.mpr ⟨rfl, hmesh⟩, Config.validate_eq_ok_iff.mpr ⟨rfl, hmesh⟩,
      rfl, hleTimeout, rfl, rfl, rfl, rfl, rfl, rfl, rfl⟩

/-- Where there are no files the defaults are loaded. -/
theorem load_of_no_files : Config.load {} none none = .ok {} := by
  have hparts : Files.parts "swarm.yml" = ["swarm.yml"] := by cbv
  have horigin : Files.origin "swarm.yml" = .inside [] := by cbv
  have hthere : Files.has {} "swarm.yml" = false := by
    rw [Files.has, Files.find, hparts, horigin]
    decide
  have hsource : Config.source? none none (Files.has {}) = none := by
    change List.find? (Files.has {}) ["swarm.yml"] = none
    rw [List.find?_cons, hthere]
    rfl
  rw [Config.load, hsource]
  decide +kernel

/-- Half of the longest period is doubled to the longest period. -/
theorem resolve_of_interval_half :
    let o : Options := { interval := some 302400.0, nodes := some 3 }
    ∃ c', o.resolve {} none = .ok c' ∧ c'.mesh.interval = 302400.0 ∧
      c'.mesh.timeout = maxPeriod ∧ c'.mesh.initialNodes = 3 := by
  intro o
  have hhalf : ¬((10.0 : Float) < 302400.0 ∧ (302400.0 : Float) < 302400.0) := by decide +kernel
  have htwice : (if (10.0 : Float) < 302400.0 then 302400.0 * 2.0 else 10.0) = maxPeriod := by
    decide +kernel
  obtain ⟨-, hfits⟩ := resolve_of_interval (o := o) (i := 302400.0) load_of_no_files rfl
    (by decide +kernel) (by decide +kernel)
  obtain ⟨c', hresolve, -, hinterval, -, htimeout, hnodes, -⟩ := hfits hhalf
  exact ⟨c', hresolve, hinterval, htimeout.trans htwice, hnodes⟩

/-- One second more, and the configuration is refused for a timeout that nobody has asked for. -/
theorem resolve_of_interval_tooLong :
    let o : Options := { interval := some 302401.0 }
    Config.load {} o.config none = .ok {} ∧ (0.0 : Float) < 302401.0 ∧ 302401.0 ≤ maxPeriod ∧
      o.resolve {} none = .error (.invalid .timeoutTooLong) := by
  intro o
  refine ⟨load_of_no_files, by decide +kernel, by decide +kernel, ?_⟩
  change (Config.load {} none none >>= fun c ↦ (o.apply c).checked) = _
  rw [load_of_no_files]
  decide +kernel

end HeartbeatMesh.Shell.Options
