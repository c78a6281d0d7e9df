-- SUMMARY: Which of the configuration files on the way up gives the configuration.
import RefactorAudit.Config.Discovery

/-!
# Discovered configurations

On the way up, each directory has no file with settings, a broken one or a well-formed one. The first
well-formed file gives the configuration, and nothing above it matters. A broken file is told in a
warning and passed over. So the nearest file alone does not decide: if it is broken, the settings of
a file further up take the place of the standard ones.
-/

namespace RefactorAudit.Config

/-! ## Files on the way up -/

/-- What a directory has in the place of the file with the settings. -/
inductive Holding where
  | nothing
  /-- A file that cannot be read or is not well formed, and the warning about it. -/
  | broken (warning : Warning)
  /-- A well-formed file. Its configuration comes with a warning if the weights are not usable. -/
  | settings (config : Noted Config)

namespace Holding

def isFile : Holding → Bool
  | nothing => false
  | broken _ | settings _ => true

def config? : Holding → Option Config
  | settings config => some config.value
  | nothing | broken _ => none

def warnings : Holding → List Warning
  | nothing => []
  | broken warning => [warning]
  | settings config => config.warnings

end Holding

/-- What a directory of a tree has in the place of the file with the settings. -/
def holding (t : FileTree) (directory : String) : Holding :=
  match t.text (Path.join directory fileName) with
  | .error .absent => .nothing
  | .error refusal =>
    .broken (.unreadableConfiguration (Path.join directory fileName) refusal)
  | .ok text =>
    match ofText text with
    | .ok config => .settings (withUsableWeights config)
    | .error message => .broken (.invalidConfiguration message)

/-- What a directory and those above it have, the nearest first. -/
def holdings (t : FileTree) (directory : String) : List Holding :=
  (Path.ancestors searchDepth directory).map (holding t)

/-- The nearest file, be it well formed or not. -/
def nearest? (chain : List Holding) : Option Holding := chain.find? Holding.isFile

/-- The configuration of the nearest file; the standard one if it is broken or there is none. -/
def configOfNearest (chain : List Holding) : Config :=
  ((nearest? chain).bind Holding.config?).getD {}

/-- The files up to the first well-formed one. -/
def consulted : List Holding → List Holding
  | [] => []
  | first :: rest => first :: if first.config?.isSome then [] else consulted rest

/-! ## Reading -/

theorem run_read (text : String) : (read text).run =
    match ofText text with
    | .ok config => Except.ok <$> withUsableWeights config
    | .error message => pure (.error message) := by
  unfold read
  cases ofText text with
  | ok config => rfl
  | error message => rfl

theorem tryRead_eq (t : FileTree) (directory : String) :
    tryRead t (Path.join directory fileName) =
      ⟨(holding t directory).config?, (holding t directory).warnings⟩ := by
  unfold tryRead holding
  cases t.text (Path.join directory fileName) with
  | error refusal => cases refusal <;> rfl
  | ok text =>
    simp only [run_read]
    cases ofText text with
    | ok config => simp [Bind.bind, Pure.pure, Functor.map, Holding.config?, Holding.warnings]
    | error message => rfl

theorem firstOf_eq (t : FileTree) (directories : List String) :
    firstOf t directories = ⟨(directories.map (holding t)).findSome? Holding.config?,
      (consulted (directories.map (holding t))).flatMap Holding.warnings⟩ := by
  induction directories with
  | nil => rfl
  | cons directory rest ih =>
    simp only [firstOf, tryRead_eq, ih, List.map_cons, List.findSome?_cons, consulted]
    cases (holding t directory).config? <;> simp [Bind.bind, Pure.pure]

theorem discover_eq (t : FileTree) (directory : String) :
    discover t directory = ⟨((holdings t directory).findSome? Holding.config?).getD {},
      (consulted (holdings t directory)).flatMap Holding.warnings⟩ := by
  unfold discover
  rw [firstOf_eq]
  simp [Bind.bind, Pure.pure, holdings]

/-! ## Files that decide -/

variable {chain : List Holding}

/-- The files above a well-formed one are not looked at. -/
theorem consulted_append (below above above' : List Holding) (config : Noted Config) :
    consulted (below ++ .settings config :: above) =
      consulted (below ++ .settings config :: above') := by
  induction below with
  | nil => rfl
  | cons first rest ih => simp only [List.cons_append, consulted, ih]

/-- The files that are looked at decide. -/
theorem findSome?_consulted (chain : List Holding) :
    (consulted chain).findSome? Holding.config? = chain.findSome? Holding.config? := by
  induction chain with
  | nil => rfl
  | cons first rest ih =>
    simp only [consulted, List.findSome?_cons]
    cases first.config? with
    | none => exact ih
    | some config => rfl

/-- A nearest file that is not broken is the first well-formed one. -/
theorem findSome?_eq_of_nearest (h : ∀ warning, nearest? chain ≠ some (.broken warning)) :
    chain.findSome? Holding.config? = (nearest? chain).bind Holding.config? := by
  induction chain with
  | nil => rfl
  | cons first rest ih =>
    cases first with
    | nothing => exact ih h
    | broken warning => exact absurd rfl (h warning)
    | settings config => rfl

theorem findSome?_eq_configOfNearest_iff (chain : List Holding) :
    (chain.findSome? Holding.config?).getD {} = configOfNearest chain ↔
      ∀ warning config, nearest? chain = some (.broken warning) →
        chain.findSome? Holding.config? = some config → config = {} := by
  constructor
  · intro heq warning config hnearest hfound
    simpa [configOfNearest, hnearest, hfound, Holding.config?] using heq
  · intro h
    by_cases hbroken : ∃ warning, nearest? chain = some (.broken warning)
    · obtain ⟨warning, hnearest⟩ := hbroken
      have hstandard : configOfNearest chain = {} := by
        simp [configOfNearest, hnearest, Holding.config?]
      rw [hstandard]
      cases hfound : chain.findSome? Holding.config? with
      | none => rfl
      | some config => exact h warning config hnearest hfound
    · have hfirst := findSome?_eq_of_nearest fun warning hnearest => hbroken ⟨warning, hnearest⟩
      rw [hfirst, configOfNearest]

/-- The first well-formed file on the way up gives the configuration, which is the standard one if
there is none. Each file below it that is broken is told in a warning, and no file above it has any
influence. It is the configuration of the nearest file, unless that file is broken and the first
well-formed one above it says something else than the standard. -/
theorem discover_eq_configOfNearest_iff (t : FileTree) (directory : String) :
    (discover t directory).value =
        ((holdings t directory).findSome? Holding.config?).getD {} ∧
      (discover t directory).warnings =
        (consulted (holdings t directory)).flatMap Holding.warnings ∧
      (∀ t' directory' below config above above',
        holdings t directory = below ++ .settings config :: above →
        holdings t' directory' = below ++ .settings config :: above' →
          discover t' directory' = discover t directory) ∧
      ((discover t directory).value = configOfNearest (holdings t directory) ↔
        ∀ warning config, nearest? (holdings t directory) = some (.broken warning) →
          (holdings t directory).findSome? Holding.config? = some config → config = {}) := by
  simp only [discover_eq]
  refine ⟨trivial, trivial, ?_, findSome?_eq_configOfNearest_iff _⟩
  intro t' directory' below config above above' h h'
  rw [h, h', consulted_append below above' above, ← findSome?_consulted (below ++ _ :: above'),
    consulted_append below above' above, findSome?_consulted]

/-- The nearest file is well formed, and the broken one above it is not looked at. -/
theorem discover_eq_configOfNearest_iff_of_broken_above :
    let t : FileTree :=
      { root := .directory
          [(".refactorguard.toml", .file "[audit\n".toUTF8),
           ("a", .directory [(".refactorguard.toml", .file "[audit]\njobs = 2\n".toUTF8),
             ("b", .directory [])])] }
    (discover t "a/b").value = configOfNearest (holdings t "a/b") ∧
      (discover t "a/b").value.audit.jobs = 2 ∧ (discover t "a/b").warnings = [] := by
  intro t
  have hsettings : ((nearest? (holdings t "a/b")).bind Holding.config?).isSome := by
    decide +kernel +zetaReduce
  refine ⟨?_, by decide +kernel +zetaReduce, by decide +kernel +zetaReduce⟩
  apply (discover_eq_configOfNearest_iff t "a/b").2.2.2.2
  intro warning config hbroken
  rw [hbroken] at hsettings
  exact nomatch hsettings

/-- The nearest file is broken, and the settings of another one further up count. -/
theorem discover_ne_configOfNearest_of_broken :
    let t : FileTree :=
      { root := .directory
          [(".refactorguard.toml", .file "[audit]\njobs = 2\n".toUTF8),
           ("a", .directory [(".refactorguard.toml", .file "[audit\n".toUTF8)])] }
    (discover t "a").value ≠ configOfNearest (holdings t "a") ∧
      (discover t "a").value.audit.jobs = 2 ∧
      (configOfNearest (holdings t "a")).audit.jobs = 0 ∧
      (discover t "a").warnings = [.invalidConfiguration
        "Failed to parse .refactorguard.toml: TOML parse error at line 1, column 7"] := by
  intro t
  have hfound : (discover t "a").value.audit.jobs = 2 := by
    decide +kernel +zetaReduce
  have hnearest : (configOfNearest (holdings t "a")).audit.jobs = 0 := by
    decide +kernel +zetaReduce
  refine ⟨?_, hfound, hnearest, by decide +kernel +zetaReduce⟩
  intro heq
  rw [heq, hnearest] at hfound
  exact absurd hfound (by decide)

end RefactorAudit.Config
