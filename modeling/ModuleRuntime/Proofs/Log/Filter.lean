import Mathlib.Data.Fintype.EquivFin
import Mathlib.Order.Bounds.Basic
import Mathlib.Order.MinMax
import ModuleRuntime.Log.Gate
import ModuleRuntime.Proofs.Log.Threshold

/-!
# The filter of a process

A configuration names thresholds, one for each key and the default, and each of them is the
threshold of some target: a key covers itself and no longer key does, and of the names without dots,
which only they themselves cover, some is no key. So the greatest threshold that is named is the
greatest that any target has. As the filter before a logger it keeps back nothing that the logger
would keep, and every lower filter keeps back something.
-/

set_option autoImplicit false

namespace ModuleRuntime.Log

/-! ## Thresholds in their order -/

/-- Every level stands above the threshold that admits nothing. -/
theorem Level.rank_pos (level : Level) : 0 < level.rank := by
  cases level <;> decide

/-- No two levels have one rank. -/
theorem Level.rank_injective : Function.Injective Level.rank := by
  intro l m h
  cases l <;> cases m <;> trivial

namespace Threshold

variable {s t : Threshold} {level : Level}

/-- No two thresholds have one rank. -/
theorem rank_injective : Function.Injective rank := by
  intro s t h
  cases s with
  | off =>
    cases t with
    | off => rfl
    | upTo level => exact absurd h (Nat.ne_of_lt level.rank_pos)
  | upTo level =>
    cases t with
    | off => exact absurd h.symm (Nat.ne_of_lt level.rank_pos)
    | upTo level' => exact congrArg upTo (Level.rank_injective h)

/-- A threshold is greater if it admits more. -/
instance : LinearOrder Threshold :=
  LinearOrder.lift' rank rank_injective

/-- The threshold that admits nothing is the least. -/
theorem off_le (t : Threshold) : off ≤ t :=
  Nat.zero_le t.rank

/-- A threshold admits the levels that it reaches. -/
theorem admits_iff : t.admits level = true ↔ upTo level ≤ t :=
  decide_eq_true_iff

/-- A threshold is not greater than another one if that admits all that it admits. -/
theorem le_iff_admits : s ≤ t ↔ ∀ level, s.admits level = true → t.admits level = true := by
  simp only [admits_iff]
  constructor
  · exact fun hle level hlevel => hlevel.trans hle
  · intro hadmits
    cases s with
    | off => exact off_le t
    | upTo level => exact hadmits level (le_refl _)

/-- Taking `Threshold.max` with one threshold after another ends with the greatest of them. -/
theorem isGreatest_foldl_max (t : Threshold) (ts : List Threshold) :
    IsGreatest {s | s ∈ t :: ts} (ts.foldl Threshold.max t) := by
  -- `Threshold.max` is the maximum of the order, which is that of the ranks.
  have hmax : (t :: ts).max? = some (ts.foldl Threshold.max t) := List.max?_cons'
  exact List.max?_eq_some_iff.mp hmax

end Threshold

namespace Config

variable {c : Config} {key level target : String} {t filter : Threshold}

/-! ## The thresholds that targets have -/

/-- The threshold of a target, as a relation. -/
theorem grants_iff : c.Grants target t ↔ c.threshold target = t :=
  (ofName_levelName_eq_iff (.refl _)).symm

/-- A key is itself a target, and no longer key covers it, so the level under it decides. -/
theorem threshold_of_find? (h : c.targetLevels.find? key = some level) :
    c.threshold key = .ofName level := by
  have hcovers : Covers key key := .inl rfl
  refine grants_iff.mp (.level h hcovers fun other _ hother => ?_)
  have hlength : other.length ≤ key.length := by
    simpa only [String.length_toList] using hother.isPrefix.length_le
  exact ⟨hlength, hother.utf8ByteSize_le hcovers hlength⟩

/-- A target without dots is covered by no other key. -/
theorem Covers.eq_of_dot_notMem (h : Covers key target) (hdot : '.' ∉ target.toList) :
    target = key := by
  rcases h with heq | ⟨rest, rfl⟩
  · exact heq
  · simp at hdot

/-- Finitely many keys leave some target uncovered. -/
theorem exists_not_covers (keys : List String) : ∃ target, ∀ key ∈ keys, ¬Covers key target := by
  -- A name without dots that is as long as no key. The empty key covers what starts with a dot, so
  -- a new name made of dots would not do.
  obtain ⟨n, hn⟩ := Infinite.exists_notMem_finset (keys.map String.length).toFinset
  refine ⟨String.ofList (List.replicate n 'x'), fun key hmem hcovers => hn ?_⟩
  have heq := hcovers.eq_of_dot_notMem (by simp)
  have hlength : key.length = n := by rw [← heq]; simp
  exact List.mem_toFinset.mpr (hlength ▸ List.mem_map_of_mem hmem)

/-- Some target has the default threshold. -/
theorem exists_threshold_eq_default (c : Config) :
    ∃ target, c.threshold target = .ofName c.defaultLevel := by
  obtain ⟨target, hnone⟩ := exists_not_covers c.targetLevels.keys
  exact ⟨target, grants_iff.mp (.default hnone)⟩

/-- The thresholds of targets are those that a configuration names. -/
theorem range_threshold (c : Config) :
    Set.range c.threshold =
      {t | t ∈ .ofName c.defaultLevel :: c.targetLevels.values.map Threshold.ofName} := by
  ext t
  rw [Set.mem_range, Set.mem_ofPred_eq, List.mem_cons, List.mem_map]
  constructor
  · rintro ⟨target, htarget⟩
    cases grants_iff.mpr htarget with
    | default _ => exact .inl rfl
    | @level key level hfind _ _ =>
      exact .inr ⟨level, (Dictionary.mem_values_iff _ _).mpr ⟨key, hfind⟩, rfl⟩
  · rintro (rfl | ⟨level, hlevel, rfl⟩)
    · exact exists_threshold_eq_default c
    · obtain ⟨key, hfind⟩ := (Dictionary.mem_values_iff _ _).mp hlevel
      exact ⟨key, threshold_of_find? hfind⟩

/-- In whatever order the levels of the keys are taken, the greatest threshold of a target is
found. -/
theorem isGreatest_foldl_of_perm {names : List String} (horder : names.Perm c.targetLevels.values) :
    IsGreatest (Set.range c.threshold)
      ((names.map Threshold.ofName).foldl Threshold.max (.ofName c.defaultLevel)) := by
  have hsame : Set.range c.threshold =
      {t | t ∈ .ofName c.defaultLevel :: names.map Threshold.ofName} := by
    rw [range_threshold]
    ext t
    exact ((horder.map Threshold.ofName).symm.cons _).mem_iff
  rw [hsame]
  exact Threshold.isGreatest_foldl_max _ _

/-- The greatest threshold that is named is the greatest that a target has. -/
theorem isGreatest_maxThreshold (c : Config) :
    IsGreatest (Set.range c.threshold) c.maxThreshold :=
  isGreatest_foldl_of_perm (.refl _)

/-- The levels up to the greatest threshold are those at which some target may log. -/
theorem maxThreshold_admits_iff (c : Config) (level : Level) :
    c.maxThreshold.admits level = true ↔ ∃ target, c.admits target level = true := by
  obtain ⟨⟨target, htarget⟩, hgreatest⟩ := c.isGreatest_maxThreshold
  constructor
  · intro hadmits
    exact ⟨target, by rwa [admits, htarget]⟩
  · rintro ⟨other, hadmits⟩
    exact Threshold.le_iff_admits.mp (hgreatest ⟨other, rfl⟩) level hadmits

end Config

/-! ## Logging through a filter -/

/-- A text that is logged. -/
structure Statement where
  level : Level
  target : String
  text : String
  timestamp : Nat

/-- The record of a statement. -/
def Statement.record (s : Statement) : Record :=
  .parse s.level s.target s.text s.timestamp

/-- The records of the statements that a configuration admits, in their order. -/
def Config.admitted (c : Config) (statements : List Statement) : List Record :=
  (statements.filter fun s => c.admits s.target s.level).map Statement.record

/-- The gate after statements. -/
def Gate.after (g : Gate) (statements : List Statement) : Gate :=
  statements.foldl (fun g s => g.log s.level s.target s.text s.timestamp) g

/-- The statements that a threshold lets through. -/
def Threshold.passed (t : Threshold) (statements : List Statement) : List Statement :=
  statements.filter fun s => t.admits s.level

/-- What a configuration admits of some statements and then of others. -/
theorem Config.admitted_append (c : Config) (earlier later : List Statement) :
    c.admitted (earlier ++ later) = c.admitted earlier ++ c.admitted later := by
  rw [admitted, List.filter_append, List.map_append]
  rfl

/-- What a threshold passes of some statements and then of others. -/
theorem Threshold.passed_append (t : Threshold) (earlier later : List Statement) :
    t.passed (earlier ++ later) = t.passed earlier ++ t.passed later :=
  List.filter_append ..

/-- A logger adds the record of a statement that its configuration admits. -/
theorem Logger.log_eq (l : Logger) (s : Statement) :
    l.log s.level s.target s.text s.timestamp =
      ⟨l.config, l.records ++ l.config.admitted [s]⟩ := by
  by_cases hadmits : l.config.admits s.target s.level = true
  · simp [log, enabled, Config.admitted, Statement.record, hadmits]
  · simp [log, enabled, Config.admitted, hadmits]

namespace Gate

variable {c : Config} {records : List Record} {filter : Threshold}

/-- A statement that the filter lets through is logged by the logger. -/
theorem log_eq (s : Statement) :
    Gate.log ⟨some ⟨c, records⟩, filter⟩ s.level s.target s.text s.timestamp =
      ⟨some ⟨c, records ++ c.admitted (filter.passed [s])⟩, filter⟩ := by
  by_cases hadmits : filter.admits s.level = true
  · simp [log, Logger.log_eq, Threshold.passed, hadmits]
  · simp [log, Config.admitted, Threshold.passed, hadmits]

/-- The statements that leave records are those that the filter lets through and the configuration
admits. -/
theorem after_eq (statements : List Statement) :
    after ⟨some ⟨c, records⟩, filter⟩ statements =
      ⟨some ⟨c, records ++ c.admitted (filter.passed statements)⟩, filter⟩ := by
  induction statements generalizing records with
  | nil => simp [after, Config.admitted, Threshold.passed]
  | cons s rest ih =>
    have hsplit : c.admitted (filter.passed (s :: rest)) =
        c.admitted (filter.passed [s]) ++ c.admitted (filter.passed rest) := by
      rw [← Config.admitted_append, ← Threshold.passed_append, List.singleton_append]
    calc after ⟨some ⟨c, records⟩, filter⟩ (s :: rest)
        = after ⟨some ⟨c, records ++ c.admitted (filter.passed [s])⟩, filter⟩ rest := by
          rw [← log_eq]; rfl
      _ = ⟨some ⟨c, records ++ c.admitted (filter.passed (s :: rest))⟩, filter⟩ := by
          rw [ih, hsplit, List.append_assoc]

/-- A logger is installed in a process that has none, and the filter is what any target may log. -/
theorem install_eq_ok_iff {g g' : Gate} {l : Logger} :
    g.install l = .ok g' ↔ g.logger = none ∧ g' = ⟨some l, l.config.maxThreshold⟩ := by
  obtain ⟨logger, filter⟩ := g
  cases logger with
  | none =>
    show Except.ok ⟨some l, l.config.maxThreshold⟩ = Except.ok g' ↔ _
    rw [Except.ok.injEq, eq_comm, and_iff_right rfl]
  | some _ =>
    exact ⟨fun h => (nomatch h), fun h => (nomatch h.1)⟩

end Gate

namespace Config

variable {c : Config} {filter : Threshold}

/-- Behind the filter a logger with the configuration makes, in every run, the records of all the
statements that the configuration admits. -/
def Lossless (c : Config) (filter : Threshold) : Prop :=
  ∀ (records : List Record) (statements : List Statement),
    Gate.after ⟨some ⟨c, records⟩, filter⟩ statements =
      ⟨some ⟨c, records ++ c.admitted statements⟩, filter⟩

/-- A filter is lossless if it admits every level at which some target may log. -/
theorem lossless_iff_admits : c.Lossless filter ↔
    ∀ target level, c.admits target level = true → filter.admits level = true := by
  constructor
  · intro hlossless target level hadmits
    by_contra hfilter
    -- A run of one statement, which is admitted and does not reach the logger.
    have hrun := hlossless [] [⟨level, target, "", 0⟩]
    rw [Gate.after_eq] at hrun
    simp [admitted, Threshold.passed, hadmits, hfilter] at hrun
  · intro hadmits records statements
    have hpassed : c.admitted (filter.passed statements) = c.admitted statements := by
      rw [admitted, admitted, Threshold.passed, List.filter_filter]
      congr 1
      refine List.filter_congr fun s _ => ?_
      rw [Bool.and_eq_left_iff_imp]
      exact hadmits s.target s.level
    rw [Gate.after_eq, hpassed]

/-- A filter loses nothing iff it is at least the greatest threshold. -/
theorem lossless_iff : c.Lossless filter ↔ c.maxThreshold ≤ filter := by
  calc c.Lossless filter
      ↔ ∀ target level, c.admits target level = true → filter.admits level = true :=
        lossless_iff_admits
    _ ↔ ∀ target, c.threshold target ≤ filter :=
        forall_congr' fun _ => Threshold.le_iff_admits.symm
    _ ↔ filter ∈ upperBounds (Set.range c.threshold) :=
        (mem_upperBounds.trans Set.forall_mem_range).symm
    _ ↔ c.maxThreshold ≤ filter := (isLUB_le_iff c.isGreatest_maxThreshold.isLUB).symm

/-- The right filter before the loggers of a configuration is the greatest threshold of a target. It
admits the levels at which some target may log and no others, and no lower filter is lossless. -/
structure IsTight (c : Config) (t : Threshold) : Prop where
  isGreatest : IsGreatest (Set.range c.threshold) t
  admits_iff (level : Level) : t.admits level = true ↔ ∃ target, c.admits target level = true
  isLeast : IsLeast {filter | c.Lossless filter} t

/-- The filter that comes with an installed logger is the right one for its configuration, and any
order of the levels gives the same. -/
theorem isTight_maxThreshold (c : Config) :
    c.IsTight c.maxThreshold ∧
      (∀ names : List String, names.Perm c.targetLevels.values →
        (names.map Threshold.ofName).foldl Threshold.max (.ofName c.defaultLevel) =
          c.maxThreshold) ∧
      ∀ (g g' : Gate) (records : List Record), g.install ⟨c, records⟩ = .ok g' ↔
        g.logger = none ∧ g' = ⟨some ⟨c, records⟩, c.maxThreshold⟩ := by
  refine ⟨⟨c.isGreatest_maxThreshold, c.maxThreshold_admits_iff, ?_, ?_⟩, ?_, ?_⟩
  · exact lossless_iff.mpr (le_refl _)
  · exact fun filter hlossless => lossless_iff.mp hlossless
  · exact fun names horder => (isGreatest_foldl_of_perm horder).unique c.isGreatest_maxThreshold
  · exact fun g g' records => Gate.install_eq_ok_iff

/-- A configuration whose keys are all quieter than the default. -/
def muted : Config :=
  ⟨"Debug", .ofList [("", "off"), ("x", "warning"), ("x.y", "chatty")], true, false⟩

/-- The default is the greatest threshold here, and so it is the filter. -/
theorem isTight_muted :
    ["chatty", "off", "warning"].Perm muted.targetLevels.values ∧
      muted.IsTight (.upTo .debug) ∧
      (["chatty", "off", "warning"].map Threshold.ofName).foldl Threshold.max (.ofName "Debug") =
        .upTo .debug ∧
      Gate.install ⟨none, .off⟩ ⟨muted, []⟩ = .ok ⟨some ⟨muted, []⟩, .upTo .debug⟩ := by
  have horder : ["chatty", "off", "warning"].Perm muted.targetLevels.values := by decide
  have hmax : muted.maxThreshold = .upTo .debug := by decide
  obtain ⟨htight, hany, hinstall⟩ := isTight_maxThreshold muted
  rw [hmax] at htight
  exact ⟨horder, htight, (hany _ horder).trans hmax, (hinstall _ _ _).mpr ⟨rfl, by rw [hmax]⟩⟩

end Config

end ModuleRuntime.Log
