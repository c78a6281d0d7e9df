-- SUMMARY: The weights of every configuration are usable.
import RefactorAudit.CommandLine.Run
import RefactorAudit.Proofs.Config.Discovery
import RefactorAudit.Proofs.Config.Sections

/-!
# Usable weights

Whatever a document says, the configuration that is read from it has four finite weights above zero:
if one of those that are written is not, the standard weights take the place of all four, and nothing
else changes. So every configuration has usable weights, be it that of a named file, a discovered or
the standard one. What the command line says instead concerns other settings.
-/

namespace RefactorAudit

/-! ## Weights -/

namespace Severity.Weights

/-- Every weight is finite and greater than zero. -/
def AllUsable (w : Weights) : Prop :=
  ∀ weight ∈ [w.typeErrors, w.lintIssues, w.complexity, w.coverageDeficit],
    weight.isFinite = true ∧ weight > 0.0

theorem allUsable_standard : standard.AllUsable := by
  unfold AllUsable
  decide +kernel

theorem problem?_eq_none_iff (w : Weights) : w.problem? = none ↔ w.AllUsable := by
  simp [problem?, named, isUsable, AllUsable]

end Severity.Weights

namespace Config

variable {t : FileTree} {text : String} {written c : Config}

/-! ## Documents -/

/-- Weights of which one is not usable are replaced as a whole, and nothing else is. -/
structure Mends (written c : Config) : Prop where
  audit : c.audit = written.audit
  paths : c.paths = written.paths
  kept : written.weights.AllUsable → c.weights = written.weights
  replaced : ¬ written.weights.AllUsable → c.weights = .standard

/-- A configuration is what a document gives, but for weights that are not usable. -/
def IsOf (text : String) (c : Config) : Prop :=
  ∃ entries written, Toml.readEntries text = .ok entries ∧ GivesConfig entries written ∧
    Mends written c

theorem Mends.allUsable (h : Mends written c) : c.weights.AllUsable := by
  by_cases husable : written.weights.AllUsable
  · exact h.kept husable ▸ husable
  · exact h.replaced husable ▸ Severity.Weights.allUsable_standard

theorem IsOf.allUsable (h : IsOf text c) : c.weights.AllUsable := by
  obtain ⟨-, written, -, -, hmends⟩ := h
  exact hmends.allUsable

theorem mends_withUsableWeights (written : Config) :
    Mends written (withUsableWeights written).value := by
  have hproblem := written.weights.problem?_eq_none_iff
  unfold withUsableWeights
  cases hfound : written.weights.problem? with
  | none =>
    have husable := hproblem.1 hfound
    exact ⟨rfl, rfl, fun _ => rfl, fun h => absurd husable h⟩
  | some message =>
    have hunusable : ¬ written.weights.AllUsable := by
      intro husable
      simp [hproblem.2 husable] at hfound
    exact ⟨rfl, rfl, fun h => absurd h hunusable, fun _ => rfl⟩

theorem isOf_of_ofText (h : ofText text = .ok written) :
    IsOf text (withUsableWeights written).value := by
  unfold ofText at h
  split at h
  · next read hread =>
    cases h
    obtain ⟨entries, hentries, hwritten⟩ := bind_eq_ok.1 hread
    exact ⟨entries, written, hentries, givesConfig_of_ofEntries hwritten,
      mends_withUsableWeights written⟩
  · exact nomatch h

theorem isOf_of_read (h : (read text).run.value = .ok c) : IsOf text c := by
  rw [run_read] at h
  cases hwritten : ofText text with
  | ok written =>
    simp only [hwritten, Noted.value_map, Except.ok.injEq] at h
    exact h ▸ isOf_of_ofText hwritten
  | error message => simp [hwritten] at h

/-! ## Files -/

/-- A configuration is the standard one or that of a file on the way up. -/
def FoundFrom (t : FileTree) (directory : String) (c : Config) : Prop :=
  c = {} ∨ ∃ above ∈ Path.ancestors searchDepth directory, ∃ text,
    t.text (Path.join above fileName) = .ok text ∧ IsOf text c

/-- A configuration is that of the file that is named, or else one that is found. -/
def LoadedFrom (t : FileTree) (c : Config) : Option String → Prop
  | none => FoundFrom t t.currentPath c
  | some path => ∃ text, t.text path = .ok text ∧ IsOf text c

theorem FoundFrom.allUsable {directory : String} (h : FoundFrom t directory c) :
    c.weights.AllUsable := by
  rcases h with rfl | ⟨-, -, text, -, hof⟩
  · exact Severity.Weights.allUsable_standard
  · exact hof.allUsable

theorem LoadedFrom.allUsable {path : Option String} (h : LoadedFrom t c path) :
    c.weights.AllUsable := by
  cases path with
  | none => exact FoundFrom.allUsable h
  | some path =>
    obtain ⟨text, -, hof⟩ := h
    exact hof.allUsable

theorem isOf_of_holding {directory : String} (h : (holding t directory).config? = some c) :
    ∃ text, t.text (Path.join directory fileName) = .ok text ∧ IsOf text c := by
  unfold holding at h
  split at h
  · exact nomatch h
  · exact nomatch h
  · next text htext =>
    split at h
    · next written hwritten =>
      cases h
      exact ⟨text, htext, isOf_of_ofText hwritten⟩
    · exact nomatch h

theorem foundFrom_discover (t : FileTree) (directory : String) :
    FoundFrom t directory (discover t directory).value := by
  rw [discover_eq]
  cases hfound : (holdings t directory).findSome? Holding.config? with
  | none => exact .inl rfl
  | some config =>
    obtain ⟨found, hmem, hconfig⟩ := List.exists_of_findSome?_eq_some hfound
    obtain ⟨above, habove, rfl⟩ := List.mem_map.1 hmem
    exact .inr ⟨above, habove, isOf_of_holding hconfig⟩

theorem value_load_some (t : FileTree) (path : String) : (load t (some path)).run.value =
    t.read path >>= fun text => (read text).run.value.mapError Fault.configuration := by
  cases hread : t.read path with
  | error fault =>
    simp only [load, hread]
    rfl
  | ok text =>
    simp only [load, hread]
    change _ = (read text).run.value.mapError Fault.configuration
    generalize (read text).run = result
    obtain ⟨value, warnings⟩ := result
    cases value <;> rfl

theorem loadedFrom_of_load {path : Option String} (h : (load t path).run.value = .ok c) :
    LoadedFrom t c path := by
  cases path with
  | none =>
    cases h
    exact foundFrom_discover t t.currentPath
  | some path =>
    rw [value_load_some] at h
    obtain ⟨text, htext, hread⟩ := bind_eq_ok.1 h
    exact ⟨text, mapError_eq_ok.1 htext, isOf_of_read (mapError_eq_ok.1 hread)⟩

/-! ## Command lines -/

/-- The command line sets the marker, the root of the repository and the number of jobs. Everything
else is left as it is. -/
structure Overrides (i : CommandLine.Invocation) (base c : Config) : Prop where
  marker : c.paths.marker = i.marker.or base.paths.marker
  repoRoot : c.paths.repoRoot = i.repoRoot.or base.paths.repoRoot
  jobs : c.audit.jobs = i.jobs.getD base.audit.jobs
  threshold : c.audit.threshold = base.audit.threshold
  privateMark : c.audit.privateMark = base.audit.privateMark
  exclude : c.audit.exclude = base.audit.exclude
  weights : c.weights = base.weights

theorem value_settings (i : CommandLine.Invocation) (t : FileTree) :
    (i.settings t).run.value =
      (load t i.config).run.value.mapError
        (CommandLine.Failure.ofFault "Failed to load configuration") >>=
      fun base => .ok (i.override base) := by
  unfold CommandLine.Invocation.settings
  generalize load t i.config = result
  obtain ⟨value, warnings⟩ := result
  cases value <;> rfl

theorem overrides_of_settings {i : CommandLine.Invocation}
    (h : (i.settings t).run.value = .ok c) :
    ∃ base, LoadedFrom t base i.config ∧ Overrides i base c := by
  rw [value_settings] at h
  obtain ⟨base, hbase, hc⟩ := bind_eq_ok.1 h
  cases hc
  have hload := mapError_eq_ok.1 hbase
  exact ⟨base, loadedFrom_of_load hload, ⟨rfl, rfl, rfl, rfl, rfl, rfl, rfl⟩⟩

/-- Every configuration has usable weights: that of a document, a discovered one, a loaded one and
that of a run. Each is what its document gives, with the standard weights in the place of written
ones that are not usable; a run has on top of it what the command line says. -/
theorem every_config_usable :
    (∀ text c, (read text).run.value = .ok c → c.weights.AllUsable ∧ IsOf text c) ∧
    (∀ t directory, (discover t directory).value.weights.AllUsable ∧
      FoundFrom t directory (discover t directory).value) ∧
    (∀ t path c, (load t path).run.value = .ok c → c.weights.AllUsable ∧ LoadedFrom t c path) ∧
    ∀ (i : CommandLine.Invocation) t c, (i.settings t).run.value = .ok c →
      c.weights.AllUsable ∧ ∃ base, LoadedFrom t base i.config ∧ Overrides i base c := by
  refine ⟨fun text c h => ?_, fun t directory => ?_, fun t path c h => ?_, fun i t c h => ?_⟩
  · have hof := isOf_of_read h
    exact ⟨hof.allUsable, hof⟩
  · have hfound := foundFrom_discover t directory
    exact ⟨hfound.allUsable, hfound⟩
  · have hloaded := loadedFrom_of_load h
    exact ⟨hloaded.allUsable, hloaded⟩
  · obtain ⟨base, hloaded, hoverrides⟩ := overrides_of_settings h
    exact ⟨hoverrides.weights ▸ hloaded.allUsable, base, hloaded, hoverrides⟩

/-- A weight below zero takes the other written weight with it. Every other setting is that of the
file, but for the marker that the command line gives. -/
theorem every_config_usable_of_negative_weight :
    let text := "[audit]\nprivate_prefix = \"__\"\njobs = 2\nexclude = [\"old/*\", \"b.py\"]\n" ++
      "[paths]\nproject_root_marker = \"lib\"\nrepo_root = \"/w\"\n" ++
      "[severity]\ncomplexity = -1\nlint_issues = 7\n"
    let t : FileTree := { root := .directory [(".refactorguard.toml", .file text.toUTF8)] }
    let i : CommandLine.Invocation :=
      { command := .rank { merged := "merged.json", top := none, json := false }
        verbosity := 0, config := none, marker := some "src", repoRoot := none, jobs := none }
    (∃ c, (read text).run.value = .ok c ∧ c.weights.AllUsable ∧ IsOf text c ∧
      c.weights.lintIssues = 1.0 ∧
      c.audit = { threshold := 10, privateMark := "__", jobs := 2, exclude := ["old/*", "b.py"] } ∧
      c.paths = { marker := some "lib", repoRoot := some "/w" }) ∧
    ∃ c, (i.settings t).run.value = .ok c ∧ c.weights.AllUsable ∧ c.weights.lintIssues = 1.0 ∧
      c.audit.jobs = 2 ∧ c.paths = { marker := some "src", repoRoot := some "/w" } := by
  intro text t i
  have hread : (read text).run.value.toOption.map
      (fun c => (c.weights.lintIssues, c.audit, c.paths)) = some (1.0,
        { threshold := 10, privateMark := "__", jobs := 2, exclude := ["old/*", "b.py"] },
        { marker := some "lib", repoRoot := some "/w" }) := by
    decide +kernel +zetaReduce
  have hsettings : (i.settings t).run.value.toOption.map
      (fun c => (c.weights.lintIssues, c.audit.jobs, c.paths)) =
        some (1.0, 2, { marker := some "src", repoRoot := some "/w" }) := by
    decide +kernel +zetaReduce
  constructor
  · cases hvalue : (read text).run.value with
    | error message => simp [hvalue, Except.toOption] at hread
    | ok c =>
      simp only [hvalue, Except.toOption, Option.map_some, Option.some.injEq,
        Prod.mk.injEq] at hread
      obtain ⟨husable, hof⟩ := every_config_usable.1 text c hvalue
      exact ⟨c, rfl, husable, hof, hread⟩
  · cases hvalue : (i.settings t).run.value with
    | error failure => simp [hvalue, Except.toOption] at hsettings
    | ok c =>
      simp only [hvalue, Except.toOption, Option.map_some, Option.some.injEq,
        Prod.mk.injEq] at hsettings
      exact ⟨c, rfl, (every_config_usable.2.2.2 i t c hvalue).1, hsettings⟩

end Config

end RefactorAudit
