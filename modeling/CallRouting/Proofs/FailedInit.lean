import CallRouting.Command.Init
import CallRouting.Proofs.RuleKeys
import CallRouting.Proofs.StarterText

/-!
# What a failed command leaves behind

To write a first configuration takes five steps that may fail, and only the last one, making the
folder of the rules, comes after something has been written. If it fails, the configuration stays,
and so do the folders that could be made on the way.

* `FileTree.entry?_put` : what is in each place after something has been put into one;
* `FileTree.Extends` : some folders are new, and all else is as it was;
  `FileTree.extends_makeFolders` says so of making folders, whether that succeeds or not;
* `FileTree.Keeps.locate` : where all folders stay, paths lead where they led before;
* `InitCommand.Strands` : the configuration is written and its folder cannot be made;
* `InitCommand.failed_run` : what a failed command changes, and when that is nothing;
* `InitCommand.Strands.run_again` : what has been left stands in the way of a second attempt.
-/

namespace CallRouting

namespace FileTree

/-! ## Putting something in a place -/

theorem entry?_put (t : FileTree) (p q : Place) (e : Entry) :
    entry? (t.put p e) q =
      if q = [] then some .folder else if key q = key p then some e else t.entry? q := by
  unfold entry? put
  split
  · rfl
  · rw [Dict.get?_insert]

/-- Two trees with the same in every place. -/
structure Same (t t' : FileTree) : Prop where
  here : t'.here = t.here
  entry : ∀ p, t'.entry? p = t.entry? p

/-- All folders are there still, and the working folder is the same. -/
structure Keeps (t t' : FileTree) : Prop where
  here : t'.here = t.here
  folder : ∀ q, t.entry? q = some .folder → t'.entry? q = some .folder

/-- Some folders are new, and all else is as it was. -/
structure Extends (t t' : FileTree) : Prop where
  here : t'.here = t.here
  entry : ∀ q, t'.entry? q = t.entry? q ∨ t.entry? q = none ∧ t'.entry? q = some .folder

theorem Extends.refl (t : FileTree) : t.Extends t := ⟨rfl, fun _ => Or.inl rfl⟩

theorem Extends.trans {t t' t'' : FileTree} (h : t.Extends t') (h' : t'.Extends t'') :
    t.Extends t'' where
  here := h'.here.trans h.here
  entry q := by
    rcases h.entry q with hq | ⟨hnone, hfolder⟩
    · rw [← hq]
      exact h'.entry q
    · rcases h'.entry q with hq | ⟨hnone', -⟩
      · exact Or.inr ⟨hnone, hq.trans hfolder⟩
      · rw [hfolder] at hnone'
        cases hnone'

theorem Keeps.trans {t t' t'' : FileTree} (h : t.Keeps t') (h' : t'.Keeps t'') : t.Keeps t'' :=
  ⟨h'.here.trans h.here, fun q hq => h'.folder q (h.folder q hq)⟩

theorem Extends.keeps {t t' : FileTree} (h : t.Extends t') : t.Keeps t' where
  here := h.here
  folder q hq := by
    rcases h.entry q with h | ⟨hnone, -⟩
    · rw [h, hq]
    · rw [hq] at hnone
      cases hnone

/-- A place is told by its key, but for the root, which is always there. -/
theorem entry?_eq_of_key_eq (t : FileTree) {p q : Place} (hp : p ≠ []) (hq : q ≠ [])
    (h : key p = key q) : t.entry? p = t.entry? q := by
  unfold entry?
  rw [if_neg hp, if_neg hq, h]

theorem ne_nil_of_not_folder {t : FileTree} {p : Place} (h : t.entry? p ≠ some .folder) :
    p ≠ [] := by
  rintro rfl
  exact h rfl

theorem extends_put {t : FileTree} {p : Place} (hp : t.entry? p = none) :
    t.Extends (t.put p .folder) where
  here := rfl
  entry q := by
    rw [entry?_put]
    by_cases hq : q = []
    · subst hq
      exact Or.inl rfl
    · rw [if_neg hq]
      by_cases hk : key q = key p
      · have hne := ne_nil_of_not_folder (t := t) (p := p) (by rw [hp]; nofun)
        rw [if_pos hk, t.entry?_eq_of_key_eq hq hne hk, hp]
        exact Or.inr ⟨rfl, rfl⟩
      · rw [if_neg hk]
        exact Or.inl rfl

theorem keeps_put {t : FileTree} {p : Place} (hp : t.entry? p ≠ some .folder) (e : Entry) :
    t.Keeps (t.put p e) where
  here := rfl
  folder q hq := by
    rw [entry?_put]
    by_cases hnil : q = []
    · rw [if_pos hnil]
    · rw [if_neg hnil, if_neg, hq]
      intro hk
      exact hp ((t.entry?_eq_of_key_eq hnil (ne_nil_of_not_folder hp) hk).symm.trans hq)

/-! ## Paths -/

theorem entry?_of_step {t : FileTree} {p p' : Place} {name : String}
    (h : t.step p name = .ok p') : t.entry? p = some .folder := by
  unfold step at h
  split at h
  · cases h
  · cases h
  · assumption

theorem Keeps.step {t t' : FileTree} (h : t.Keeps t') {p p' : Place} {name : String}
    (hs : t.step p name = .ok p') : t'.step p name = .ok p' := by
  have hp := entry?_of_step hs
  rw [← hs, FileTree.step, FileTree.step, hp, h.folder p hp]

theorem Keeps.foldlM_step {t t' : FileTree} (h : t.Keeps t') {p p' : Place} {names : List String}
    (hs : names.foldlM t.step p = .ok p') : names.foldlM t'.step p = .ok p' := by
  induction names generalizing p with
  | nil => exact hs
  | cons name names ih =>
    rw [List.foldlM_cons] at hs ⊢
    cases hp : t.step p name with
    | error e =>
      rw [hp] at hs
      cases hs
    | ok p₁ =>
      rw [hp] at hs
      rw [h.step hp]
      exact ih hs

/-- Where all folders stay, paths lead where they led before. -/
theorem Keeps.locate {t t' : FileTree} (h : t.Keeps t') {path : String} {p : Place}
    (hl : t.locate path = .ok p) : t'.locate path = .ok p := by
  simp only [FileTree.locate] at hl ⊢
  split at hl
  · cases hl
  · next hempty =>
    rw [if_neg hempty]
    split at hl
    · cases hl
    · next hnul =>
      rw [if_neg hnul]
      split at hl
      · cases hl
      · next hlong =>
        rw [if_neg hlong, h.here]
        exact h.foldlM_step hl

/-- What there is to find is what stands in the place, unless only a folder would do. -/
theorem find?_eq_file_iff {t : FileTree} {path : String} {p : Place} (hp : t.locate path = .ok p)
    (hfolder : (Path.ofText path).folder = false) (content : List UInt8) :
    t.find? path = .ok (.file content) ↔ t.entry? p = some (.file content) := by
  simp only [find?, hp, bind, Except.bind]
  split
  · next h => simp [h]
  · next h => simp [h]
  · next h => simp [h, hfolder]

/-- A single name leads to a place in the working folder. -/
theorem locate_name {t : FileTree} {name : String} (hhere : t.entry? t.here = some .folder)
    (hnames : (Path.ofText name).names = [name] ∧ (Path.ofText name).absolute = false)
    (hname : name ≠ "" ∧ name ≠ "." ∧ name ≠ "..") (hnul : name.toList.contains '\x00' = false)
    (hlong : name.utf8ByteSize ≤ Path.maxName) : t.locate name = .ok (t.here ++ [name]) := by
  have hstep : t.step t.here name = .ok (t.here ++ [name]) := by
    rw [step, hhere]
    simp only [if_neg hname.2.1, if_neg hname.2.2, if_neg (Nat.not_lt_of_le hlong)]
  have hpath : ¬ name.utf8ByteSize > Path.maxPath :=
    Nat.not_lt_of_le (Nat.le_trans hlong (by decide))
  rw [locate, if_neg hname.1, hnul, if_neg (by decide), if_neg hpath, hnames.1, hnames.2]
  exact (List.foldlM_cons ..).trans (by rw [if_neg (by decide), hstep]; rfl)

/-! ## Writing -/

theorem writeFile_eq (t : FileTree) (path : String) (content : List UInt8) :
    t.writeFile path content = (t.locate path).bind fun p =>
      if (Path.ofText path).folder then .error .isADirectory
      else if t.entry? p = some .folder then .error .isADirectory
      else .ok (t.put p (.file content)) := by
  unfold writeFile
  cases t.locate path with
  | error e => rfl
  | ok p =>
    simp only [bind, Except.bind]
    split
    · rfl
    · cases t.entry? p with
      | none => rfl
      | some e => cases e <;> rfl

theorem writeFile_eq_ok {t t' : FileTree} {path : String} {content : List UInt8}
    (h : t.writeFile path content = .ok t') :
    ∃ p, t.locate path = .ok p ∧ (Path.ofText path).folder = false ∧
      t.entry? p ≠ some .folder ∧ t' = t.put p (.file content) := by
  rw [writeFile_eq] at h
  cases hl : t.locate path with
  | error e =>
    rw [hl] at h
    cases h
  | ok p =>
    simp only [hl, Except.bind] at h
    split at h
    · cases h
    · next hf =>
      split at h
      · cases h
      · next he => exact ⟨p, rfl, by simpa using hf, he, (Except.ok.inj h).symm⟩

theorem makeFolder_eq (t : FileTree) (path : String) :
    t.makeFolder path = (t.locate path).bind fun p =>
      if (t.entry? p).isSome then .error .alreadyExists else .ok (t.put p .folder) := by
  unfold makeFolder
  cases t.locate path with
  | error e => rfl
  | ok p =>
    simp only [bind, Except.bind]
    split <;> rfl

theorem makeFolder_eq_ok {t t' : FileTree} {path : String} (h : t.makeFolder path = .ok t') :
    t.Extends t' := by
  rw [makeFolder_eq] at h
  cases hl : t.locate path with
  | error e =>
    rw [hl] at h
    cases h
  | ok p =>
    simp only [hl, Except.bind] at h
    split at h
    · cases h
    · next he =>
      rw [← Except.ok.inj h]
      exact extends_put (by simpa using he)

theorem extends_makeAll (t : FileTree) (paths : List String) : t.Extends (t.makeAll paths).2 := by
  induction paths with
  | nil => exact .refl t
  | cons path above ih =>
    simp only [makeAll]
    split
    · next h => exact makeFolder_eq_ok h
    · exact .refl t
    · -- The folders above come first; what is made of them stays.
      split
      · next h => exact h ▸ ih
      · next h =>
        rw [h] at ih
        split
        · next h' => exact ih.trans (makeFolder_eq_ok h')
        · exact ih
    · exact .refl t

theorem extends_makeFolders (t : FileTree) (path : String) : t.Extends (t.makeFolders path).2 := by
  unfold makeFolders
  split
  · exact .refl t
  · exact t.extends_makeAll _

end FileTree

namespace InitCommand

open FileTree

/-- The configuration is written, but the folder of its rules cannot be made. -/
structure Strands (c : InitCommand) (files after : FileTree) (content : String) (config : Config)
    (cause : FileError) : Prop where
  asked : c.makeDir = true
  rendered : Starter.render c.output c.application c.dir = .ok (content, config)
  stranded : ∃ written, files.writeFile c.output content.toUTF8.toList = .ok written ∧
    written.makeFolders config.dir = (.error cause, after)

variable {c : InitCommand} {files after : FileTree} {e : ConfigError}
  {content : String} {config : Config} {cause : FileError}

/-- A command fails before it has written anything, or strands. -/
theorem run_eq_error (h : c.run files = (.error e, after)) :
    after = files ∨
      ∃ content config cause, c.Strands files after content config cause ∧
        e = .write config.dir cause := by
  unfold run at h
  split at h
  · exact Or.inl (Prod.mk.inj h).2.symm
  · split at h
    · exact Or.inl (Prod.mk.inj h).2.symm
    · next content config hr =>
      split at h
      · exact Or.inl (Prod.mk.inj h).2.symm
      · next written hw =>
        unfold makeRules at h
        by_cases hm : c.makeDir = true
        · rw [if_pos hm] at h
          cases hd : (written.makeFolders config.dir) with
          | mk made left =>
            cases made with
            | ok u =>
              simp only [hd] at h
              cases h
            | error cause =>
              simp only [hd] at h
              obtain ⟨he, rfl⟩ := Prod.mk.inj h
              exact Or.inr ⟨content, config, cause, ⟨hm, hr, written, hw, hd⟩,
                (Except.error.inj he).symm⟩
        · rw [if_neg hm] at h
          cases h

/-- A command strands if it gets as far as that. -/
theorem Strands.run_eq (h : c.Strands files after content config cause)
    (hfree : files.contains c.output = false ∨ c.force = true) :
    c.run files = (.error (.write config.dir cause), after) := by
  obtain ⟨hasked, hrendered, written, hwrite, hstranded⟩ := h
  have hgo : (files.contains c.output && !c.force) = false := by
    rcases hfree with h | h <;> simp [h]
  unfold run
  rw [hgo, if_neg Bool.false_ne_true, hrendered]
  simp only [hwrite, makeRules, hasked, hstranded, if_true]
  rfl

/-- The configuration stays, and besides only folders may be new. -/
theorem Strands.place (h : c.Strands files after content config cause) :
    after.here = files.here ∧ ∃ p, files.locate c.output = .ok p ∧
      (Path.ofText c.output).folder = false ∧ after.entry? p = some (.file content.toUTF8.toList) ∧
      ∀ q, key q ≠ key p → after.entry? q = files.entry? q ∨
        files.entry? q = none ∧ after.entry? q = some .folder := by
  obtain ⟨-, -, written, hw, hstranded⟩ := h
  obtain ⟨p, hp, hfolder, hentry, rfl⟩ := writeFile_eq_ok hw
  have hextends := extends_makeFolders (files.put p (.file content.toUTF8.toList)) config.dir
  rw [hstranded] at hextends
  have hput := entry?_put files p p (.file content.toUTF8.toList)
  rw [if_neg (ne_nil_of_not_folder hentry), if_pos rfl] at hput
  refine ⟨hextends.here, p, hp, hfolder, ?_, fun q hq => ?_⟩
  · rcases hextends.entry p with h | ⟨h, -⟩
    · rw [h, hput]
    · rw [hput] at h
      cases h
  · have hother : entry? (files.put p (.file content.toUTF8.toList)) q = files.entry? q := by
      rw [entry?_put, if_neg hq]
      split
      · next hnil => rw [hnil]; rfl
      · rfl
    have hafter := hextends.entry q
    rwa [hother] at hafter

/-- A command that strands changes nothing only if the file was there already, with the same in it,
and no folder was made. -/
theorem Strands.same_iff (h : c.Strands files after content config cause) :
    files.Same after ↔ files.find? c.output = .ok (.file content.toUTF8.toList) ∧
      ∀ q, files.entry? q = none → after.entry? q = none := by
  obtain ⟨hhere, p, hp, hfolder, hentry, hrest⟩ := h.place
  rw [find?_eq_file_iff hp hfolder]
  refine ⟨fun hsame => ⟨(hsame.entry p).symm.trans hentry, fun q hq => (hsame.entry q).trans hq⟩,
    fun ⟨hfile, hnone⟩ => ⟨hhere, fun q => ?_⟩⟩
  by_cases hkey : key q = key p
  · by_cases hq : q = []
    · rw [hq]
      rfl
    · have hp' : p ≠ [] := ne_nil_of_not_folder (by rw [hfile]; nofun)
      rw [after.entry?_eq_of_key_eq hq hp' hkey, files.entry?_eq_of_key_eq hq hp' hkey, hentry,
        hfile]
  · rcases hrest q hkey with h | ⟨h, h'⟩
    · exact h
    · rw [hnone q h] at h'
      cases h'

/-- **What a failed command changes.** Nothing, unless all that fails is to make the folder of the
rules: then the configuration has been written, and besides only folders may be new. So all is as it
was exactly if the file was there before, with the same in it, and no folder has been made. -/
theorem failed_run (h : c.run files = (.error e, after)) :
    (after = files ∨ ∃ content config cause p, c.Strands files after content config cause ∧
      e = .write config.dir cause ∧ files.locate c.output = .ok p ∧
      after.entry? p = some (.file content.toUTF8.toList) ∧
      ∀ q, key q ≠ key p → after.entry? q = files.entry? q ∨
        files.entry? q = none ∧ after.entry? q = some .folder) ∧
    (files.Same after ↔ ∀ content config cause, c.Strands files after content config cause →
      files.find? c.output = .ok (.file content.toUTF8.toList) ∧
      ∀ q, files.entry? q = none → after.entry? q = none) := by
  rcases run_eq_error h with rfl | ⟨content, config, cause, hs, he⟩
  · exact ⟨Or.inl rfl, fun hsame _ _ _ hs => hs.same_iff.1 hsame, fun _ => ⟨rfl, fun _ => rfl⟩⟩
  · obtain ⟨-, p, hp, -, hentry, hrest⟩ := hs.place
    exact ⟨Or.inr ⟨content, config, cause, p, hs, he, hp, hentry, hrest⟩,
      fun hsame _ _ _ hs => hs.same_iff.1 hsame, fun hall => hs.same_iff.2 (hall _ _ _ hs)⟩

/-! ## A second attempt -/

theorem Strands.keeps (h : c.Strands files after content config cause) : files.Keeps after := by
  obtain ⟨-, -, written, hw, hstranded⟩ := h
  obtain ⟨p, -, -, hentry, rfl⟩ := writeFile_eq_ok hw
  have hextends := extends_makeFolders (files.put p (.file content.toUTF8.toList)) config.dir
  rw [hstranded] at hextends
  exact (keeps_put hentry _).trans hextends.keeps

/-- A command that strands cannot be run again: the file that it has left is in its way. -/
theorem Strands.run_again (h : c.Strands files after content config cause)
    (hforce : c.force = false) : c.run after = (.error (.taken c.output), after) := by
  obtain ⟨-, p, hp, hfolder, hentry, -⟩ := h.place
  have hfile := (find?_eq_file_iff (h.keeps.locate hp) hfolder content.toUTF8.toList).2 hentry
  have hthere : after.contains c.output = true := by
    rw [contains, hfile]
    rfl
  rw [run, hthere, hforce]
  rfl

/-! ## A folder that cannot be made -/

/-- Asks for a folder of the rules where a file is. -/
def intoFile : InitCommand where
  output := "condgate.toml"
  force := false
  application := none
  dir := some "blocked"
  makeDir := true

def withFile : FileTree := { entries := ⟨[("blocked", .file [120])]⟩ }

theorem makeFolders_withFile (content : List UInt8) :
    (withFile.put ["condgate.toml"] (.file content)).makeFolders "blocked" =
      (.error .alreadyExists, withFile.put ["condgate.toml"] (.file content)) := by
  have hlocate : (withFile.put ["condgate.toml"] (.file content)).locate "blocked" =
      .ok ["blocked"] := locate_name rfl (by decide +kernel) (by decide) (by decide) (by decide)
  have hentry : entry? (withFile.put ["condgate.toml"] (.file content)) ["blocked"] =
      some (.file [120]) := by
    rw [entry?_put, if_neg nofun, if_neg (by decide +kernel)]
    decide +kernel
  generalize withFile.put ["condgate.toml"] (.file content) = t at hlocate hentry
  have hmake : t.makeFolder "blocked" = .error .alreadyExists := by
    simp [makeFolder_eq, hlocate, hentry, Except.bind]
  have hfolder : t.isFolder "blocked" = false := by
    have hkind : (Path.ofText "blocked").folder = false := by decide +kernel
    simp [isFolder, (find?_eq_file_iff hlocate hkind _).2 hentry]
  have hsteps : Path.steps "blocked" = ["blocked"] := by decide +kernel
  simp only [makeFolders, hsteps, makeAll, hmake, hfolder]
  rfl

theorem locate_output : withFile.locate "condgate.toml" = .ok ["condgate.toml"] :=
  locate_name rfl (by decide +kernel) (by decide) (by decide) (by decide)

theorem entry?_output : withFile.entry? ["condgate.toml"] = none := by decide +kernel

theorem find?_output : withFile.find? "condgate.toml" = .error .notFound := by
  simp [find?, locate_output, entry?_output, bind, Except.bind]

theorem strands_intoFile : ∃ content, intoFile.Strands withFile
    (withFile.put ["condgate.toml"] (.file content.toUTF8.toList)) content { dir := "blocked" }
    .alreadyExists := by
  have hvalid : ({ dir := "blocked" } : Config).validate = .ok () :=
    (Config.validate_of_application "demo" "blocked").trans
      ((Config.checkApplication_eq_ok_iff "demo").2 (by decide))
  have hrender : Starter.render "condgate.toml" none (some "blocked") = _ :=
    Starter.render_eq _ (Or.inr (by decide))
  rw [show Starter.asked none (some "blocked") = { dir := "blocked" } from rfl, hvalid] at hrender
  have hkind : (Path.ofText "condgate.toml").folder = false := by decide +kernel
  refine ⟨_, rfl, hrender, _, ?_, makeFolders_withFile _⟩
  simp [writeFile_eq, intoFile, locate_output, hkind, entry?_output, Except.bind]

theorem run_intoFile : ∃ content,
    intoFile.Strands withFile (withFile.put ["condgate.toml"] (.file content.toUTF8.toList)) content
      { dir := "blocked" } .alreadyExists ∧
    intoFile.run withFile = (.error (.write "blocked" .alreadyExists),
      withFile.put ["condgate.toml"] (.file content.toUTF8.toList)) := by
  obtain ⟨content, hs⟩ := strands_intoFile
  have hfree : withFile.contains "condgate.toml" = false := by
    rw [contains, find?_output]
    rfl
  exact ⟨content, hs, hs.run_eq (Or.inl hfree)⟩

/-- There all is not as it was. -/
theorem failed_run_intoFile : ∃ e after, intoFile.run withFile = (.error e, after) ∧
    ¬ withFile.Same after := by
  obtain ⟨content, hs, hrun⟩ := run_intoFile
  refine ⟨_, _, hrun, fun hsame => ?_⟩
  have hfile := (((failed_run hrun).2.1 hsame) _ _ _ hs).1
  rw [intoFile, find?_output] at hfile
  cases hfile

/-- Not every failed command leaves all as it was. -/
theorem not_failed_run_same : ¬ ∀ (c : InitCommand) (files : FileTree) (e : ConfigError)
    (after : FileTree), c.run files = (.error e, after) → files.Same after := by
  intro h
  obtain ⟨content, -, hrun⟩ := run_intoFile
  have hentry := (h _ _ _ _ hrun).entry ["condgate.toml"]
  rw [entry?_output, entry?_put, if_neg nofun, if_pos rfl] at hentry
  cases hentry

end InitCommand

end CallRouting
