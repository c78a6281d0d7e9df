-- SUMMARY: The ranking of a report is the only list of its files in the order of the ranking.
import RefactorAudit.CommandLine.Run
import RefactorAudit.Proofs.Json.Spelling
import RefactorAudit.Proofs.Report.Reading
import RefactorAudit.Proofs.Severity.Place
import RefactorAudit.Proofs.Terminal.Grid
import RefactorAudit.Proofs.Text.ByteOrder
import Mathlib.Data.Prod.Lex
import Mathlib.Data.String.Basic

/-!
# Rankings

Of two files with different paths one precedes the other: the one of the greater score or, among
equal scores, of the smaller path. So a set of files can be listed in this order in one way only.
Sorting finds it, and what is left of it on fewer files is the ranking of these files. What is
printed has the files in this order, as JSON or as a grid.
-/

namespace RefactorAudit.Severity

open Decimal (Binary Reading exactValue)
open Text (bytes bytes_lt_bytes_iff)

variable {w : Weights} {report : Report.Merged} {ranking other : List Ranked} {a b c r : Ranked}

/-! ## The order of files -/

/-- A greater score in the total order of floats, or an equal one and a path that is smaller in the
order of bytes. -/
def Ranked.Precedes (a b : Ranked) : Prop :=
  place b.severity.score < place a.severity.score ∨
    a.severity.score = b.severity.score ∧ bytes a.path < bytes b.path

/-- What a file is listed by. -/
def Ranked.key (r : Ranked) : ℤᵒᵈ ×ₗ String :=
  toLex (OrderDual.toDual (place r.severity.score), r.path)

theorem Ranked.precedes_iff : a.Precedes b ↔ a.key < b.key := by
  simp only [Precedes, key, Prod.Lex.toLex_lt_toLex, OrderDual.toDual_lt_toDual,
    EmbeddingLike.apply_eq_iff_eq, place_inj, bytes_lt_bytes_iff]

theorem Ranked.before_iff : a.before b = true ↔ a.key ≤ b.key := by
  simp only [key, Prod.Lex.toLex_le_toLex, OrderDual.toDual_lt_toDual,
    EmbeddingLike.apply_eq_iff_eq, before]
  split
  · next heq => simp [heq]
  · next hne => simp [hne]

theorem Ranked.Precedes.trans (hab : a.Precedes b) (hbc : b.Precedes c) : a.Precedes c := by
  rw [precedes_iff] at *
  exact hab.trans hbc

theorem Ranked.Precedes.irrefl : ¬ a.Precedes a := by
  rw [precedes_iff]
  exact lt_irrefl _

/-! ## Rankings of a report -/

/-- The list has the files of the report, each with the severity of its own record, and of any two
neighbours the first one precedes the second. -/
structure IsRanking (w : Weights) (report : Report.Merged) (ranking : List Ranked) : Prop where
  mem_iff : ∀ r, r ∈ ranking ↔
    ∃ fields, (r.path, fields) ∈ report ∧ r.severity = ofRecord w fields
  ordered : ranking.IsChain Ranked.Precedes

namespace IsRanking

theorem pairwise (h : IsRanking w report ranking) : ranking.Pairwise Ranked.Precedes := by
  have htrans : IsTrans Ranked Ranked.Precedes := ⟨fun _ _ _ => Ranked.Precedes.trans⟩
  exact List.isChain_iff_pairwise.1 h.ordered

/-- Two lists of the same files in this order are equal. -/
theorem unique (h : IsRanking w report ranking) (h' : IsRanking w report other) :
    other = ranking := by
  have hirrefl : Std.Irrefl Ranked.Precedes := ⟨fun _ => Ranked.Precedes.irrefl⟩
  have hantisymm : Std.Antisymm Ranked.Precedes :=
    ⟨fun _ _ hab hba => absurd (hab.trans hba) Ranked.Precedes.irrefl⟩
  apply List.Pairwise.eq_of_mem_iff h'.pairwise h.pairwise
  intro r
  simp only [h.mem_iff, h'.mem_iff]

/-- A ranking stays one on fewer files. -/
theorem filter (h : IsRanking w report ranking) (keep : String → Bool) :
    IsRanking w (report.filter fun file => keep file.1) (ranking.filter fun r => keep r.path) where
  mem_iff r := by
    simp only [List.mem_filter, h.mem_iff]
    constructor
    · rintro ⟨⟨fields, hmem, hseverity⟩, hkeep⟩
      exact ⟨fields, ⟨hmem, hkeep⟩, hseverity⟩
    · rintro ⟨fields, ⟨hmem, hkeep⟩, hseverity⟩
      exact ⟨⟨fields, hmem, hseverity⟩, hkeep⟩
  ordered := (h.pairwise.filter _).isChain

/-- The values of finite scores fall along a ranking. -/
theorem exactValue_le (h : IsRanking w report ranking) :
    ranking.Pairwise fun a b => ∀ {x y : Binary}, Reading.ofFloat a.severity.score = .finite x →
      Reading.ofFloat b.severity.score = .finite y →
      exactValue b.severity.score ≤ exactValue a.severity.score := by
  apply h.pairwise.imp
  intro a b hab x y hx hy
  apply Severity.exactValue_le hy hx
  rcases hab with hlt | ⟨heq, -⟩
  · exact Int.le_of_lt hlt
  · exact Int.le_of_eq (congrArg place heq.symm)

end IsRanking

/-- The files of a report with their severities. -/
def files (w : Weights) (report : Report.Merged) : List Ranked :=
  report.map fun (path, fields) => { path, severity := ofRecord w fields }

theorem rank_perm (w : Weights) (report : Report.Merged) :
    (rank w report).Perm (files w report) := List.mergeSort_perm _ _

theorem paths_files (w : Weights) (report : Report.Merged) :
    (files w report).map (·.path) = Table.names report := by
  simp [files, Table.names]

theorem mem_files : r ∈ files w report ↔
    ∃ fields, (r.path, fields) ∈ report ∧ r.severity = ofRecord w fields := by
  simp only [files, List.mem_map, Prod.exists]
  constructor
  · rintro ⟨path, fields, hmem, rfl⟩
    exact ⟨fields, hmem, rfl⟩
  · rintro ⟨fields, hmem, hseverity⟩
    exact ⟨r.path, fields, hmem, by rw [← hseverity]⟩

/-- Each path is listed once. -/
theorem paths_rank (w : Weights) (report : Report.Merged) :
    ((rank w report).map (·.path)).Perm (Table.names report) := by
  rw [← paths_files w report]
  exact (rank_perm w report).map _

theorem isRanking_rank (w : Weights) (h : (Table.names report).Nodup) :
    IsRanking w report (rank w report) where
  mem_iff r := by rw [(rank_perm w report).mem_iff, mem_files]
  ordered := by
    have hle : (rank w report).Pairwise fun a b => a.before b = true := by
      apply List.pairwise_mergeSort
      · intro a b c
        simp only [Ranked.before_iff]
        exact le_trans
      · intro a b
        simp only [Bool.or_eq_true, Ranked.before_iff]
        exact le_total _ _
    have hpaths : (rank w report).Pairwise fun a b => a.path ≠ b.path :=
      List.pairwise_map.1 ((paths_rank w report).nodup_iff.2 h)
    apply ((hle.and hpaths).imp _).isChain
    rintro a b ⟨hle, hne⟩
    apply Ranked.precedes_iff.2
    apply lt_of_le_of_ne (Ranked.before_iff.1 hle)
    intro heq
    exact hne (congrArg (fun key => (ofLex key).2) heq)

/-! ## Shown rankings -/

open CommandLine (RankCommand rankingText)

/-- A text shows files in their order. As JSON it has an object for each of them; otherwise it is a
grid with a row for each of them, numbered from one, or a note that there are none. -/
inductive Shows : Bool → List Ranked → String → Prop where
  | objects {files : List Ranked} {text : String}
      (h : Json.StandsFor text (.array (files.map fun r => .object
        [("path", .string r.path), ("score", .number (.float r.severity.score)),
          ("type_errors", .number (.int r.severity.typeErrors)),
          ("lint_issues", .number (.int r.severity.lintIssues)),
          ("avg_complexity", .number (.float r.severity.averageComplexity)),
          ("coverage_pct", .number (.float r.severity.coveragePercent))]))) :
      Shows true files text
  | rows {files : List Ranked} {text : String} (hne : files ≠ [])
      (h : Terminal.ShowsGrid
        ["#", "File", "Score", "Type errors", "Lint issues", "Avg complexity", "Coverage %"]
        (files.zipIdx.map fun (r, n) =>
          [toString (n + 1), r.path, Decimal.fixed 2 r.severity.score,
            toString r.severity.typeErrors, toString r.severity.lintIssues,
            Decimal.fixed 2 r.severity.averageComplexity,
            Decimal.fixed 1 r.severity.coveragePercent]) text) :
      Shows false files text
  | nothing : Shows false [] "No files to rank\n"

theorem shows_rankingText (json : Bool) (files : List Ranked) :
    Shows json files (rankingText json files) := by
  cases json with
  | true => exact .objects (Json.standsFor_pretty _)
  | false =>
    cases files with
    | nil => exact .nothing
    | cons file rest =>
      apply Shows.rows (List.cons_ne_nil _ _)
      have hlength : ∀ row ∈ (file :: rest).zipIdx.map fun (r, n) => r.texts (n + 1),
          row.length = Ranking.header.length := by
        intro row hrow
        obtain ⟨_, -, rfl⟩ := List.mem_map.1 hrow
        rfl
      have hgrid := Terminal.Grid.showsGrid_lines (List.cons_ne_nil _ _) hlength
      rw [List.map_map] at hgrid
      exact hgrid

/-- A merged report that is loaded has each of its paths once. -/
theorem nodup_of_merged {t : FileTree} {path : String} (h : t.merged path = .ok report) :
    (Table.names report).Nodup := by
  obtain ⟨text, -, hread⟩ := bind_eq_ok.1 h
  exact (Report.Merged.sorted_of_read (mapError_eq_ok.1 hread)).nodup

/-- A command that shows a number of files shows the first ones of the ranking. -/
theorem value_run_top {t : FileTree} {conf : Config} {command : RankCommand} {n : Nat}
    (hread : t.merged command.merged = .ok report) (htop : command.top = some n) :
    (command.run t conf).run.value = .ok {
      tree := t
      output := rankingText command.json ((rank conf.weights report).take n) } := by
  simp [RankCommand.run, hread, htop, CommandLine.Action.ofExcept, CommandLine.emit]

/-- The ranking of a report lists each of its paths once, with the severity of its own record, so
that of any two neighbours the first one has the greater score, or the smaller path if the scores
are equal. No other list of these files does; along it the values of finite scores never rise. The
ranking of some of the paths is what is left on them of the ranking of all. Whoever asks for the
first few files of a merged report is shown the first few of its ranking: the text that is printed
has an object or a row for each of them and for no other, in this order. -/
theorem rank_unique_arrangement (w : Weights) (report : Report.Merged)
    (h : (Table.names report).Nodup) :
    IsRanking w report (rank w report) ∧
    ((rank w report).map (·.path)).Perm (Table.names report) ∧
    (∀ ranking, IsRanking w report ranking → ranking = rank w report) ∧
    ((rank w report).Pairwise fun a b => ∀ {x y : Binary},
      Reading.ofFloat a.severity.score = .finite x → Reading.ofFloat b.severity.score = .finite y →
        exactValue b.severity.score ≤ exactValue a.severity.score) ∧
    (∀ keep : String → Bool, rank w (report.filter fun file => keep file.1) =
      (rank w report).filter fun r => keep r.path) ∧
    ∀ (t : FileTree) (conf : Config) (command : RankCommand) (loaded : Report.Merged) (n : Nat),
      t.merged command.merged = .ok loaded → command.top = some n →
        IsRanking conf.weights loaded (rank conf.weights loaded) ∧
        ∃ output, (command.run t conf).run.value = .ok { tree := t, output } ∧
          Shows command.json ((rank conf.weights loaded).take n) output := by
  have hrank := isRanking_rank w h
  refine ⟨hrank, paths_rank w report, fun ranking => hrank.unique, hrank.exactValue_le,
    fun keep => ?_, fun t conf command loaded n hread htop => ?_⟩
  · have hnodup : (Table.names (report.filter fun file => keep file.1)).Nodup :=
      h.sublist (List.filter_sublist.map _)
    exact ((isRanking_rank w hnodup).unique (hrank.filter keep)).symm
  · exact ⟨isRanking_rank _ (nodup_of_merged hread), _, value_run_top hread htop,
      shows_rankingText _ _⟩

set_option maxRecDepth 4000 in
/-- Two files of one score, and one of a greater score that comes last by its path. Two of them are
shown, as JSON and as a grid. -/
theorem rank_unique_arrangement_of_tie :
    let slight : Json.Fields := [("lint_issues", .array [.null])]
    let severe : Json.Fields := [("type_errors", .array [.null, .null])]
    let report : Report.Merged := [("a.py", slight), ("b.py", slight), ("c.py", severe)]
    let text := "\x7b\"a.py\":\x7b\"lint_issues\":[null]\x7d," ++
      "\"b.py\":\x7b\"lint_issues\":[null]\x7d,\"c.py\":\x7b\"type_errors\":[null,null]\x7d\x7d"
    let t : FileTree := { root := .directory [("merged.json", .file text.toUTF8)] }
    let shown : List Ranked :=
      [⟨"c.py", ofRecord .standard severe⟩, ⟨"a.py", ofRecord .standard slight⟩]
    let objects := "[\n  \x7b\n    \"path\": \"c.py\",\n    \"score\": 56.0,\n" ++
      "    \"type_errors\": 2,\n    \"lint_issues\": 0,\n    \"avg_complexity\": 0.0,\n" ++
      "    \"coverage_pct\": 0.0\n  \x7d,\n" ++
      "  \x7b\n    \"path\": \"a.py\",\n    \"score\": 51.0,\n" ++
      "    \"type_errors\": 0,\n    \"lint_issues\": 1,\n    \"avg_complexity\": 0.0,\n" ++
      "    \"coverage_pct\": 0.0\n  \x7d\n]\n"
    let grid :=
      "┌───┬──────┬───────┬─────────────┬─────────────┬────────────────┬────────────┐\n" ++
      "│ # ┆ File ┆ Score ┆ Type errors ┆ Lint issues ┆ Avg complexity ┆ Coverage % │\n" ++
      "╞═══╪══════╪═══════╪═════════════╪═════════════╪════════════════╪════════════╡\n" ++
      "│ 1 ┆ c.py ┆ 56.00 ┆ 2           ┆ 0           ┆ 0.00           ┆ 0.0        │\n" ++
      "├╌╌╌┼╌╌╌╌╌╌┼╌╌╌╌╌╌╌┼╌╌╌╌╌╌╌╌╌╌╌╌╌┼╌╌╌╌╌╌╌╌╌╌╌╌╌┼╌╌╌╌╌╌╌╌╌╌╌╌╌╌╌╌┼╌╌╌╌╌╌╌╌╌╌╌╌┤\n" ++
      "│ 2 ┆ a.py ┆ 51.00 ┆ 0           ┆ 1           ┆ 0.00           ┆ 0.0        │\n" ++
      "└───┴──────┴───────┴─────────────┴─────────────┴────────────────┴────────────┘\n"
    (Table.names report).Nodup ∧ (rank .standard report).map (·.path) = ["c.py", "a.py", "b.py"] ∧
      t.merged "merged.json" = .ok report ∧
      ((RankCommand.run ⟨"merged.json", some 2, true⟩ t {}).run.value =
        .ok { tree := t, output := objects } ∧ Shows true shown objects) ∧
      (RankCommand.run ⟨"merged.json", some 2, false⟩ t {}).run.value =
        .ok { tree := t, output := grid } ∧ Shows false shown grid := by
  intro slight severe report text t shown objects grid
  have hnodup : (Table.names report).Nodup := by decide
  have hranking : IsRanking .standard report
      [⟨"c.py", ofRecord .standard severe⟩, ⟨"a.py", ofRecord .standard slight⟩,
        ⟨"b.py", ofRecord .standard slight⟩] := by
    constructor
    · intro r
      rw [← mem_files]
      simp only [files, report, List.map_cons, List.map_nil, List.mem_cons]
      tauto
    · refine .cons_cons (.inl ?_) (.cons_cons (.inr ⟨rfl, by decide⟩) (.singleton _))
      decide +kernel +zetaReduce
  have hread : t.read "merged.json" = .ok text := by
    cbv
  have hjson : Report.Merged.read text = .ok report := by
    cbv
  have hmerged : t.merged "merged.json" = .ok report :=
    bind_eq_ok.2 ⟨text, hread, mapError_eq_ok.2 hjson⟩
  obtain ⟨-, -, hunique, -, -, hshown⟩ := rank_unique_arrangement .standard report hnodup
  have hrank := hunique _ hranking
  have hprinted (json : Bool) (output : String) (houtput : rankingText json shown = output) :
      (RankCommand.run ⟨"merged.json", some 2, json⟩ t {}).run.value = .ok { tree := t, output } ∧
        Shows json shown output := by
    obtain ⟨-, printed, hrun, hshows⟩ :=
      hshown t {} ⟨"merged.json", some 2, json⟩ report 2 hmerged rfl
    have hoffered : (RankCommand.run ⟨"merged.json", some 2, json⟩ t {}).run.value =
        .ok { tree := t, output := rankingText json ((rank .standard report).take 2) } :=
      value_run_top hmerged rfl
    have hsame := congrArg CommandLine.Outcome.output (Except.ok.inj (hrun.symm.trans hoffered))
    rw [← hrank] at hsame hshows
    cases hsame.trans houtput
    exact ⟨hrun, hshows⟩
  refine ⟨hnodup, ?_, hmerged, hprinted true objects ?_, hprinted false grid ?_⟩
  · rw [← hrank]
    rfl
  · decide +kernel +zetaReduce
  · decide +kernel +zetaReduce

end RefactorAudit.Severity
