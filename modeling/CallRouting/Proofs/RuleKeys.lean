import CallRouting.Command.Watch
import CallRouting.Proofs.Cutting
import CallRouting.Proofs.ListenerRun

/-!
# Rule keys that a folder refuses

A configuration is checked by the name of its application, a folder is asked for the rule by a key
that is made from that name. The two checks agree about separators, and that a name must not be
blank; but only the folder objects to a dot in front.

* `mem_trim_iff` : trimming takes no character away that is not blank;
* `Config.checkApplication_eq_ok_iff` : the applications that pass;
* `Config.validate_of_application` : where nothing else is set, that is all there is to check;
* `Directory.isFileName_ruleKey` : the key of such an application is a file name unless the name
  begins with a dot;
* `Live.attach_eq_source_error_iff` : a service fails for its source exactly if that cannot be read;
* `Config.watch_refuses_iff` : so a valid configuration may fail at the start, exactly if its
  application begins with a dot.
-/

namespace CallRouting

/-! ## Applications -/

/-- Trimming takes no character away that is not blank. -/
theorem mem_trim_iff {c : Char} {s : List Char} (hc : Text.isBlank c = false) :
    c ∈ Text.trim s ↔ c ∈ s := by
  obtain ⟨l, r, hs, hl, hr⟩ := Text.exists_trim s
  constructor
  · intro h
    rw [hs]
    exact List.mem_append_right _ (List.mem_append_left _ h)
  · intro h
    rw [hs, List.mem_append, List.mem_append] at h
    rcases h with h | h | h
    · exact absurd (hl c h) (by simp [hc])
    · exact h
    · exact absurd (hr c h) (by simp [hc])

/-- An application passes if it is not blank and has no separators. -/
theorem Config.checkApplication_eq_ok_iff (application : String) :
    checkApplication application = .ok () ↔
      Text.trim application.toList ≠ [] ∧ '/' ∉ application.toList ∧
        '\\' ∉ application.toList := by
  have hslash := mem_trim_iff (c := '/') (s := application.toList) (by decide)
  have hbackslash := mem_trim_iff (c := '\\') (s := application.toList) (by decide)
  simp only [checkApplication]
  split
  · next h => simp [h]
  · next h => simp [h, hslash, hbackslash]

theorem Config.checkApplication_of_validate {c : Config} (h : c.validate = .ok ()) :
    checkApplication c.application = .ok () := by
  unfold validate at h
  cases hc : checkApplication c.application with
  | error e =>
    rw [hc] at h
    cases h
  | ok u => rfl

theorem Logging.validate_default : ({} : Logging).validate = .ok () := by
  have hlevel : checkLevel "logging.level" "info" = .ok () :=
    if_pos (by decide +kernel : Text.lowercase "info" ∈ levels)
  rw [validate, hlevel]
  rfl

/-- If nothing else has been set, only the application and the folder can be wrong, and any folder
will do. -/
theorem Config.validate_of_application (application dir : String) :
    ({ application, dir } : Config).validate = checkApplication application := by
  simp only [validate, Logging.validate_default]
  cases checkApplication application <;> rfl

theorem Config.validate_eq_ok {application : String}
    (h : Text.trim application.toList ≠ [] ∧ '/' ∉ application.toList ∧
      '\\' ∉ application.toList) : ({ application } : Config).validate = .ok () :=
  (validate_of_application application _).trans ((checkApplication_eq_ok_iff application).2 h)

/-! ## Keys -/

/-- Of the keys of applications that pass, a folder refuses those with a dot in front. -/
theorem Directory.isFileName_ruleKey {application : String} (hne : application.toList ≠ [])
    (hslash : '/' ∉ application.toList) (hbackslash : '\\' ∉ application.toList) :
    isFileName (ruleKey application) = true ↔ application.toList.head? ≠ some '.' := by
  obtain ⟨c, r, hcr⟩ := List.exists_cons_of_ne_nil hne
  rw [hcr] at hslash hbackslash
  have hsuffix : '/' ∉ ".condition-router".toList ∧ '\\' ∉ ".condition-router".toList := by decide
  simp only [isFileName, ruleKey, String.toList_append, hcr, List.cons_append, List.isEmpty_cons,
    Bool.not_false, Bool.true_and, List.contains_eq_mem, List.head?_cons, ne_eq, Bool.and_eq_true,
    Bool.not_eq_true', decide_eq_false_iff_not, decide_eq_true_eq, Option.some.injEq]
  simp only [← List.cons_append, List.mem_append]
  exact ⟨fun h => h.2, fun h => ⟨⟨fun h' => h'.elim hslash hsuffix.1,
    fun h' => h'.elim hbackslash hsuffix.2⟩, h⟩⟩

theorem Directory.read_eq_notAFileName_iff (d : Directory) (files : FileTree) (key : String) :
    d.read files key = .error (.notAFileName key) ↔ isFileName key = false := by
  unfold read
  split
  · next h =>
    rw [Bool.not_eq_true'] at h
    exact ⟨fun _ => h, fun _ => rfl⟩
  · next h =>
    rw [Bool.not_eq_true', Bool.not_eq_false] at h
    rw [h]
    refine ⟨fun hr => ?_, nofun⟩
    split at hr
    · cases hr
    · split at hr <;> cases hr
    · cases hr

/-! ## Services -/

theorem Router.build_ne_source_error (compiler : Compiler) (key : String) (text : Option String)
    (e : SourceError) : build compiler key text ≠ .error (.source e) := by
  intro h
  cases hp : Rule.parse text with
  | error e' =>
    rw [build, hp] at h
    cases h
  | ok rule =>
    rw [build_of_parse hp] at h
    cases hs : Snapshot.build compiler rule 1 with
    | error e' =>
      rw [hs] at h
      cases h
    | ok active =>
      rw [hs] at h
      cases h

/-- A service that cannot be started for its source could not subscribe to the rule. -/
theorem Live.attach_eq_source_error_iff (files : FileTree) (source : Source) (application : String)
    (compiler : Compiler) (capacity : Nat) (baseline : Call) (pool : Pool) (e : SourceError) :
    attach files source application compiler capacity baseline pool = .error (.source e) ↔
      source.subscribe files (ruleKey application) = .error e := by
  cases hs : source.subscribe files (ruleKey application) with
  | error e' =>
    have hattach : attach files source application compiler capacity baseline pool =
        .error (.source e') := by
      rw [attach, hs]
      rfl
    rw [hattach, Except.error.injEq, InstallError.source.injEq, Except.error.injEq]
  | ok p =>
    rw [attach_of_subscribe hs]
    refine iff_of_false (fun h => ?_) (by simp)
    cases hb : Router.build compiler p.1.key p.1.initial with
    | error e' =>
      rw [hb] at h
      exact Router.build_ne_source_error compiler p.1.key p.1.initial e <|
        hb.trans (congrArg _ (Except.error.inj h))
    | ok router =>
      rw [hb] at h
      cases h

theorem Source.subscribe_directory_eq_error_iff (d : Directory) (files : FileTree) (key : String)
    (e : SourceError) :
    (directory d).subscribe files key = .error e ↔ d.read files key = .error e := by
  simp only [subscribe, Directory.subscribe]
  cases d.read files key with
  | error e' => simp [bind, Except.bind]
  | ok text => simp [bind, Except.bind, pure, Except.pure]

namespace Config

/-- The rule key of the configuration is a file name to every folder. -/
def KeyAccepted (c : Config) : Prop :=
  ∀ (d : Directory) (files : FileTree), d.read files c.ruleKey ≠ .error (.notAFileName c.ruleKey)

theorem keyAccepted_iff (c : Config) : c.KeyAccepted ↔ Directory.isFileName c.ruleKey = true := by
  simp only [KeyAccepted, ne_eq, Directory.read_eq_notAFileName_iff, Bool.not_eq_false]
  exact ⟨fun h => h { dir := "" } {}, fun h _ _ => h⟩

/-- To follow a rule in a folder fails for the source exactly if the folder cannot be read. -/
theorem watch_eq_source_error_iff {c : Config} (hfile : c.sourceKind = .file) (files : FileTree)
    (pool : Pool) (e : SourceError) :
    c.watch files pool = .error (.source e) ↔
      ({ dir := c.dir, capacity := c.capacity } : Directory).read files c.ruleKey = .error e := by
  rw [← Source.subscribe_directory_eq_error_iff, ruleKey,
    ← Live.attach_eq_source_error_iff files _ c.application .clauses c.capacity {} pool e]
  simp only [watch, hfile]
  cases Live.attach files _ c.application .clauses c.capacity {} pool with
  | error e' => simp [bind, Except.bind]
  | ok l => simp [bind, Except.bind, pure, Except.pure]

/-- **When a folder refuses the rule key of a valid configuration.** It does exactly if the
application begins with a dot; then the rule cannot be followed. -/
theorem watch_refuses_iff {c : Config} (hfile : c.sourceKind = .file)
    (hvalid : c.validate = .ok ()) :
    (c.KeyAccepted ↔ c.application.toList.head? ≠ some '.') ∧
      ∀ files pool, c.watch files pool = .error (.source (.notAFileName c.ruleKey)) ↔
        c.application.toList.head? = some '.' := by
  obtain ⟨htrim, hslash, hbackslash⟩ :=
    (checkApplication_eq_ok_iff c.application).1 (checkApplication_of_validate hvalid)
  have hne : c.application.toList ≠ [] := fun hnil => htrim (by rw [hnil]; rfl)
  have hkey : Directory.isFileName c.ruleKey = true ↔ c.application.toList.head? ≠ some '.' :=
    Directory.isFileName_ruleKey hne hslash hbackslash
  refine ⟨(keyAccepted_iff c).trans hkey, fun files pool => ?_⟩
  rw [watch_eq_source_error_iff hfile, Directory.read_eq_notAFileName_iff, ← Bool.not_eq_true, hkey,
    ne_eq, Decidable.not_not]

/-- An application with a dot in front, and one with a blank before the dot. -/
theorem watch_refuses_hidden :
    ¬ ({ application := ".hidden" } : Config).KeyAccepted ∧
      ({ application := " .hidden" } : Config).KeyAccepted :=
  ⟨fun h => (watch_refuses_iff rfl (validate_eq_ok (by decide))).1.1 h rfl,
    (watch_refuses_iff rfl (validate_eq_ok (by decide))).1.2 (by decide)⟩

/-- Not every valid configuration for a folder has a rule key that a folder accepts. -/
theorem not_keyAccepted :
    ¬ ∀ c : Config, c.sourceKind = .file → c.validate = .ok () → c.KeyAccepted := by
  intro h
  have hkey := (keyAccepted_iff _).1 <|
    h { application := ".hidden" } rfl (validate_eq_ok (by decide))
  revert hkey
  decide

end Config
end CallRouting
