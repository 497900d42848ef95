import CallRouting.Command.Check
import CallRouting.Proofs.Narrowing
import CallRouting.Proofs.Printing

/-!
# What a check says of a rule

A check compiles the clauses of a rule one by one and counts them, so that it can name the first
that is refused; a router compiles all clauses of a rule that is valid, or takes none of it. The two
go through the same texts apart from each other, and should come to the same.

* `compileAll_cases` : both ways of compiling a list of clauses;
* `Router.build_of_valid`, `Router.build_of_invalid` : what a router makes of a rule;
* `RuleReport.Lists` : the sources that a report shows, in both of its forms and as it is printed;
* `CheckCommand.run_eq` : a check is what it finds in the text, shown in one form or the other;
* `CheckCommand.predicts` : what a check accepts and rejects, compared with a new router.
-/

namespace CallRouting

/-! ## Clauses -/

/-- Clauses are compiled with and without counting them, and both ways stop at the same one. -/
theorem compileAll_cases (force : Bool) (texts : List String) (index : Nat) :
    (∃ cs, compileAll force index texts = .ok cs ∧
        texts.mapM (Clause.compile · force) = .ok cs) ∨
      ∃ i e, compileAll force index texts = .error (.clause (index + i) e) ∧
        texts.mapM (Clause.compile · force) = .error e ∧
        FirstFails (Clause.compile · force) texts i e := by
  induction texts generalizing index with
  | nil => exact Or.inl ⟨[], rfl, rfl⟩
  | cons text texts ih =>
    rw [compileAll, List.mapM_cons]
    cases h : Clause.compile text force with
    | error e => exact Or.inr ⟨0, e, rfl, rfl, .head (f := (Clause.compile · force)) h texts⟩
    | ok c =>
      rcases ih (index + 1) with ⟨cs, hall, hread⟩ | ⟨i, e, hall, hread, hfirst⟩
      · rw [hall, hread]
        exact Or.inl ⟨c :: cs, rfl, rfl⟩
      · rw [hall, hread, Nat.add_right_comm]
        exact Or.inr ⟨i + 1, e, rfl, rfl, .cons (f := (Clause.compile · force)) h hfirst⟩

/-! ## Routers -/

namespace Router

variable {text : Option String} {rule : Rule} (hparse : Rule.parse text = .ok rule)

include hparse

/-- A valid rule is taken with the matchers of its clauses, or refused with the first error. -/
theorem build_of_valid (hv : rule.isValid) (key : String) :
    build Compiler.clauses key text =
      match rule.conditions.mapM (Clause.compile · rule.force) with
      | .ok cs => .ok ⟨key, Compiler.clauses, rule, cs.map Clause.matcher, 1⟩
      | .error e => .error (.clause e) := by
  have hmatchers : rule.conditions.mapM (Compiler.clauses · rule.force) = _ :=
    mapM_map_eq (Clause.compile · rule.force) Clause.matcher rule.conditions
  rw [build_of_parse hparse, Snapshot.build_eq, Snapshot.matchersOf, if_pos hv, hmatchers]
  cases rule.conditions.mapM (Clause.compile · rule.force) <;> rfl

theorem build_of_invalid (hv : rule.isValid = false) (key : String) :
    build Compiler.clauses key text = .ok ⟨key, Compiler.clauses, rule, [], 1⟩ := by
  rw [build_of_parse hparse, Snapshot.build_eq, Snapshot.matchersOf, hv]
  rfl

end Router

/-! ## Reports -/

open Report (Json Table)

namespace RuleReport

/-- The report shows these sources, numbered in their order: in the rows of its table, in the items
of its JSON, and in what is printed of both. -/
structure Lists (r : RuleReport) (sources : List String) : Prop where
  rows : ∀ colours, (r.table colours).rows.map (·.take 2) =
    sources.zipIdx.map fun (source, i) => [toString i, source]
  json : ∃ items, (r.json.field? "rule").bind (·.field? "clauses") = some (.array items) ∧
    items.map (fun item => (item.field? "index", item.field? "clause")) =
      sources.zipIdx.map fun (source, i) => (some (.number i), some (.text source))
  drawn : ∀ colours, Table.ShowsRows (r.table colours).draw
    (sources.zipIdx.map fun (source, i) => [toString i, source])
  rendered : ∃ lines, r.json.render = "\n".intercalate lines ∧
    Json.Shown (sources.map Json.quoted) lines

theorem field?_json (r : RuleReport) :
    (r.json.field? "rule").bind (·.field? "clauses") =
      some (.array (r.clauses.zipIdx.map fun (clause, index) => clauseJson clause index)) := by
  simp [json, Json.field?_ofFields, Dict.ofList]

theorem field?_clauseJson (clause : Clause) (index : Nat) :
    (clauseJson clause index).field? "index" = some (.number index) ∧
      (clauseJson clause index).field? "clause" = some (.text clause.source) := by
  simp [clauseJson, Json.field?_ofFields, Dict.ofList]

theorem sources_sublist_items (clauses : List Clause) (index : Nat) :
    (clauses.map (·.source)).Sublist (Json.array ((clauses.zipIdx index).map
      fun (clause, index) => clauseJson clause index)).texts := by
  induction clauses generalizing index with
  | nil => exact List.nil_sublist _
  | cons clause clauses ih =>
    have hclause := Json.sublist_of_field? (field?_clauseJson clause index).2
    exact hclause.append (ih (index + 1))

/-- The sources are among the texts of the report, in their order. -/
theorem sources_sublist_texts (r : RuleReport) :
    (r.clauses.map (·.source)).Sublist r.json.texts := by
  obtain ⟨rule, hrule, hclauses⟩ := Option.bind_eq_some_iff.1 r.field?_json
  exact (sources_sublist_items r.clauses 0).trans
    ((Json.sublist_of_field? hclauses).trans (Json.sublist_of_field? hrule))

theorem rows_take (r : RuleReport) (colours : Bool) :
    (r.table colours).rows.map (·.take 2) =
      (r.clauses.map (·.source)).zipIdx.map fun (source, i) => [toString i, source] := by
  simp [table, row, List.zipIdx_map, Function.comp_def]

/-- A report lists the sources of its clauses. -/
theorem lists_sources (r : RuleReport) : r.Lists (r.clauses.map (·.source)) where
  rows := r.rows_take
  json := by
    refine ⟨_, r.field?_json, ?_⟩
    simp [field?_clauseJson, List.zipIdx_map, Function.comp_def]
  drawn colours := by
    rw [← r.rows_take colours]
    exact (Table.showsRows_draw _).map fun row => List.take_subset 2 row
  rendered := by
    refine ⟨r.json.lines, rfl, ?_⟩
    exact IsTrans.trans _ _ _ (r.sources_sublist_texts.map Json.quoted).sublistForall₂
      r.json.shown_lines

theorem ofText_of_parse {text : String} {rule : Rule} (h : Rule.parse (some text) = .ok rule) :
    ofText text = (compileAll rule.force 0 rule.conditions).map ({ rule, clauses := · }) := by
  rw [ofText, h]
  show ofRule rule = _
  rw [ofRule]
  cases compileAll rule.force 0 rule.conditions <;> rfl

theorem ofText_of_parse_error {text : String} {e : RuleError}
    (h : Rule.parse (some text) = .error e) : ofText text = .error (.rule e) := by
  rw [ofText, h]
  rfl

end RuleReport

/-! ## Checks -/

namespace CheckCommand

variable {c : CheckCommand} {files : FileTree} {text : String}

/-- How the command shows a report. -/
def shown (c : CheckCommand) (colours : Bool) (r : RuleReport) : String :=
  if c.json then r.json.render else r.text colours

theorem run_eq (hread : files.readText c.rule = .ok text) (colours : Bool) :
    c.run files colours = (RuleReport.ofText text).map (c.shown colours) := by
  rw [run, hread]
  show (RuleReport.ofText text >>= fun report => _) = _
  cases RuleReport.ofText text <;> rfl

/-- A check of a text whose rule can be read shows all clauses, or names the first that is refused;
the other way of compiling them comes to the same. -/
theorem run_cases (hread : files.readText c.rule = .ok text) (colours : Bool) {rule : Rule}
    (hparse : Rule.parse (some text) = .ok rule) :
    (∃ cs, RuleReport.ofText text = .ok { rule, clauses := cs } ∧
        c.run files colours = .ok (c.shown colours { rule, clauses := cs }) ∧
        rule.conditions.mapM (Clause.compile · rule.force) = .ok cs) ∨
      ∃ i e, c.run files colours = .error (.clause i e) ∧
        rule.conditions.mapM (Clause.compile · rule.force) = .error e ∧
        FirstFails (Clause.compile · rule.force) rule.conditions i e := by
  rw [run_eq hread, RuleReport.ofText_of_parse hparse]
  rcases compileAll_cases rule.force rule.conditions 0 with
    ⟨cs, hall, hmap⟩ | ⟨i, e, hall, hmap, hfirst⟩
  · rw [hall]
    exact Or.inl ⟨cs, rfl, rfl, hmap⟩
  · rw [hall, Nat.zero_add]
    exact Or.inr ⟨i, e, rfl, hmap, hfirst⟩

/-- **A check tells what a router will do.** A text that is accepted by a check is taken by a new
router. A check rejects the text of a valid rule exactly if a router refuses it; then it names the
first clause that is refused, with the error that the router gives. If both accept it, the check
prints the report of the text, as a table below its summary or as JSON, and in both the rows are the
sources of the matchers in force, in their order. -/
theorem predicts (hread : files.readText c.rule = .ok text) (colours : Bool) (key : String) :
    (∀ out, c.run files colours = .ok out →
        ∃ r, Router.build Compiler.clauses key (some text) = .ok r) ∧
      ∀ rule, Rule.parse (some text) = .ok rule → rule.isValid →
        ((∃ failure, c.run files colours = .error failure) ↔
            ∃ e, Router.build Compiler.clauses key (some text) = .error e) ∧
          (∀ failure, c.run files colours = .error failure →
            ∃ i e, FirstFails (Clause.compile · rule.force) rule.conditions i e ∧
              failure.message = "Clause " ++ toString i ++ ": " ++ e.message ∧
              Router.build Compiler.clauses key (some text) = .error (.clause e)) ∧
          ∀ out r, c.run files colours = .ok out →
            Router.build Compiler.clauses key (some text) = .ok r →
            ∃ report, RuleReport.ofText text = .ok report ∧ report.rule = rule ∧
              report.Lists (r.active.matchers.map (·.source)) ∧
              (c.json = false →
                out = report.summary colours ++ "\n" ++ (report.table colours).draw) ∧
              (c.json = true → out = report.json.render) := by
  refine ⟨fun out hout => ?_, fun rule hparse hv => ?_⟩
  · cases hparse : Rule.parse (some text) with
    | error e =>
      rw [run_eq hread, RuleReport.ofText_of_parse_error hparse] at hout
      cases hout
    | ok rule =>
      cases hv : rule.isValid with
      | false => exact ⟨_, Router.build_of_invalid hparse hv key⟩
      | true =>
        rcases run_cases hread colours hparse with ⟨cs, -, -, hmap⟩ | ⟨i, e, hrun, -⟩
        · exact ⟨_, by rw [Router.build_of_valid hparse hv, hmap]⟩
        · rw [hrun] at hout
          cases hout
  · rw [Router.build_of_valid hparse hv]
    rcases run_cases hread colours hparse with
      ⟨cs, hreport, hrun, hmap⟩ | ⟨i, e, hrun, hmap, hfirst⟩
    · rw [hrun, hmap]
      refine ⟨⟨nofun, nofun⟩, nofun, ?_⟩
      rintro _ _ ⟨⟩ ⟨⟩
      refine ⟨_, hreport, rfl, ?_, fun hjson => ?_, fun hjson => ?_⟩
      · rw [List.map_map]
        exact RuleReport.lists_sources { rule, clauses := cs }
      · rw [shown, hjson, if_neg Bool.false_ne_true, RuleReport.text]
      · rw [shown, hjson, if_pos rfl]
    · rw [hrun, hmap]
      refine ⟨⟨fun _ => ⟨_, rfl⟩, fun _ => ⟨_, rfl⟩⟩, ?_, nofun⟩
      rintro _ ⟨⟩
      exact ⟨i, e, hfirst, rfl, rfl⟩

/-- Of three clauses the second and the third cannot be read. -/
def twoFaults : String := "force: true\nconditions:\n- => host = a\n- ' => host = , '\n- ''"

/-- Two clauses that can be read, the first one between blanks. -/
def twoClauses : String :=
  "force: true\nconditions:\n- ' => host = a '\n- method = get => host != b"

theorem parse_twoFaults : Rule.parse (some twoFaults) =
    .ok { conditions := ["=> host = a", "=> host = ,", ""], force := true } :=
  eq_ok_of_toOption (by decide +kernel)

theorem parse_twoClauses : Rule.parse (some twoClauses) =
    .ok { conditions := ["=> host = a", "method = get => host != b"], force := true } :=
  eq_ok_of_toOption (by decide +kernel)

/-- A folder with a rule in it. -/
def ruleFile (text : String) : FileTree :=
  { entries := ⟨[("rule.yaml", .file text.toUTF8.data.toList)]⟩ }

/-- Of the first text the second clause is named, and a router gives the same error; of the other
one a table shows both clauses. -/
theorem predicts_twoTexts :
    (∃ failure e, run ⟨"rule.yaml", true⟩ (ruleFile twoFaults) false = .error failure ∧
      failure.message = "Clause 1: Illegal route rule \"=> host = ,\": dangling '=,'" ∧
      Router.build Compiler.clauses "k" (some twoFaults) = .error (.clause e)) ∧
    ∃ out r report, run ⟨"rule.yaml", false⟩ (ruleFile twoClauses) false = .ok out ∧
      Router.build Compiler.clauses "k" (some twoClauses) = .ok r ∧
      RuleReport.ofText twoClauses = .ok report ∧
      out = report.summary false ++ "\n" ++ (report.table false).draw ∧
      Table.ShowsRows (report.table false).draw
        [["0", "=> host = a"], ["1", "method = get => host != b"]] := by
  constructor
  · have hread : (ruleFile twoFaults).readText "rule.yaml" = .ok twoFaults :=
      eq_ok_of_toOption (by decide +kernel)
    obtain ⟨failure, hrun, hmessage⟩ : ∃ failure,
        run ⟨"rule.yaml", true⟩ (ruleFile twoFaults) false = .error failure ∧
          decide (failure.message =
            "Clause 1: Illegal route rule \"=> host = ,\": dangling '=,'") = true :=
      exists_error_of (by decide +kernel)
    obtain ⟨-, hvalid⟩ := predicts (c := ⟨"rule.yaml", true⟩) hread false "k"
    obtain ⟨i, e, -, -, hbuild⟩ := (hvalid _ parse_twoFaults rfl).2.1 failure hrun
    exact ⟨failure, e, hrun, of_decide_eq_true hmessage, hbuild⟩
  · have hread : (ruleFile twoClauses).readText "rule.yaml" = .ok twoClauses :=
      eq_ok_of_toOption (by decide +kernel)
    have hok : (run ⟨"rule.yaml", false⟩ (ruleFile twoClauses) false).isOk = true := by
      decide +kernel
    obtain ⟨out, hrun⟩ := exists_ok_of_isOk hok
    obtain ⟨hbuilds, hvalid⟩ := predicts (c := ⟨"rule.yaml", false⟩) hread false "k"
    obtain ⟨r, hbuild⟩ := hbuilds out hrun
    have hsources : (Router.build Compiler.clauses "k" (some twoClauses)).toOption.map
        (fun r => r.active.matchers.map (·.source)) =
          some ["=> host = a", "method = get => host != b"] := by decide +kernel
    rw [hbuild] at hsources
    have hsources : r.active.matchers.map (·.source) = _ := Option.some.inj hsources
    obtain ⟨report, hreport, -, hlists, hout, -⟩ :=
      (hvalid _ parse_twoClauses rfl).2.2 out r hrun hbuild
    have hdrawn := hlists.drawn false
    rw [hsources] at hdrawn
    exact ⟨out, r, report, hrun, hbuild, hreport, hout rfl, hdrawn⟩

end CheckCommand
end CallRouting
