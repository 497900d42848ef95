import CallRouting.Proofs.Cutting
import CallRouting.Proofs.TextLines
import CallRouting.Proofs.TomlLines
import Mathlib.Data.List.Forall2

/-!
# What the first configuration says

A first configuration is made by putting two strings into a text, one after the other, each in place
of the first line that sets it. A string may have line breaks, and then the second search goes
through the lines of the first string too.

* `filled` : the text with both settings in their places;
* `linesOf_setting` : the lines of a setting are those of its value, more or less as they are;
* `decoy?` : the line of an application that is taken for the one that sets the folder;
* `textFor_eq` : without such a line the text is as it should be;
* `parse?_filled` : that text holds the two settings, and all else is as for everyone;
* `render_eq` : so what is asked for is written, if it is valid.
-/

namespace CallRouting

namespace Starter

open Toml (BlockForm Line Plain ReadsAs exists_blockForm not_mem_quotedChars)

/-- What a line begins with that sets a name. -/
def start (name : String) : List Char := name.toList ++ " = ".toList

/-- The line that sets a name to a string. -/
def setting (name value : String) : List Char := start name ++ Toml.quotedChars value.toList

theorem replace_eq (t : List Char) (name value : String) :
    replace t name value =
      unlines (replaceFirst (start name) (setting name value) (splitLines t)) := rfl

def head : List (List Char) := (lines.take 6).map String.toList

def middle : List (List Char) := ((lines.drop 7).take 5).map String.toList

def tail : List (List Char) := (lines.drop 13).map String.toList

/-- The text with these two in place of the lines that set the application and the folder. They may
have line breaks in them. -/
def withSettings (application dir : List Char) : List (List Char) :=
  head ++ application :: middle ++ dir :: tail

/-- The text with these settings. -/
def filled (application dir : String) : List (List Char) :=
  withSettings (setting "application" application) (setting "dir" dir)

/-! ## The other lines -/

/-- Quotes of a block do not occur. -/
def NoBlock (l : List Char) : Prop :=
  ¬ List.replicate 3 '"' <:+: l ∧ ¬ List.replicate 3 '\'' <:+: l

instance (l : List Char) : Decidable (NoBlock l) := inferInstanceAs (Decidable (_ ∧ _))

/-- A line that sets neither the application nor the folder. -/
structure Other (l : List Char) (o : Option Line) : Prop where
  reads : ReadsAs l o
  line : '\n' ∉ l
  application : ¬ start "application" <+: l
  dir : ¬ start "dir" <+: l
  block : NoBlock l

theorem Other.comment {s : String} {cs : List Char} (hs : s = String.ofList ('#' :: cs))
    (h : cs.all Toml.isPrinting = true) (hblock : NoBlock ('#' :: cs)) :
    Other s.toList none := by
  have h := List.all_eq_true.1 h
  rw [hs, String.toList_ofList]
  exact {
    reads := Toml.readsAs_comment h
    line := fun hl => (List.mem_cons.1 hl).elim (by decide) fun hl => absurd (h _ hl) (by decide)
    application := fun hp => absurd (List.cons_prefix_cons.1 hp).1 (by decide)
    dir := fun hp => absurd (List.cons_prefix_cons.1 hp).1 (by decide)
    block := hblock }

theorem Other.blank : Other "".toList none where
  reads := Toml.readsAs_none (fun _ => rfl) fun _ => rfl
  line := by decide
  application := by decide
  dir := by decide
  block := by decide

theorem Other.entry {s : String} {l : List Char} {line : Line} (hs : s = String.ofList l)
    (hreads : ReadsAs l (some line))
    (hline : '\n' ∉ l ∧ ¬ start "application" <+: l ∧ ¬ start "dir" <+: l ∧ NoBlock l) :
    Other s.toList (some line) := by
  rw [hs, String.toList_ofList]
  exact ⟨hreads, hline.1, hline.2.1, hline.2.2.1, hline.2.2.2⟩

def headLines : List (Option Line) := [none, none, none, none, some (.heading ["router"]), none]

def middleLines : List (Option Line) :=
  [none, some (.heading ["source"]), none, none, some (.assignment ["kind"] (.string "file"))]

def tailLines : List (Option Line) := [
  some (.assignment ["poll_interval_ms"] (.integer 1000)), none,
  some (.heading ["notifications"]), none, some (.assignment ["capacity"] (.integer 16)), none,
  some (.heading ["logging"]), none, some (.assignment ["level"] (.string "info")), none,
  some (.assignment ["format"] (.string "pretty")), none, none, none, none, none]

theorem other_head : List.Forall₂ Other head headLines := by
  refine .cons (.comment rfl ?_ ?_) <| .cons (.comment rfl ?_ ?_) <| .cons (.comment rfl ?_ ?_) <|
    .cons .blank <| .cons (.entry rfl ?entry ?_) <| .cons (.comment rfl ?_ ?_) .nil
  case entry => exact Toml.readsAs_some (fun _ => rfl) (fun _ => rfl) fun _ => rfl
  all_goals decide +kernel

theorem other_middle : List.Forall₂ Other middle middleLines := by
  refine .cons .blank <| .cons (.entry rfl ?source ?_) <| .cons (.comment rfl ?_ ?_) <|
    .cons (.comment rfl ?_ ?_) <| .cons (.entry rfl ?kind ?_) .nil
  case source | kind => exact Toml.readsAs_some (fun _ => rfl) (fun _ => rfl) fun _ => rfl
  all_goals decide +kernel

theorem other_tail : List.Forall₂ Other tail tailLines := by
  refine .cons (.entry rfl ?interval ?_) <| .cons .blank <|
    .cons (.entry rfl ?notifications ?_) <| .cons (.comment rfl ?_ ?_) <|
    .cons (.entry rfl ?capacity ?_) <| .cons .blank <| .cons (.entry rfl ?logging ?_) <|
    .cons (.comment rfl ?_ ?_) <| .cons (.entry rfl ?level ?_) <| .cons (.comment rfl ?_ ?_) <|
    .cons (.entry rfl ?format ?_) <| .cons .blank <| .cons (.comment rfl ?_ ?_) <|
    .cons (.comment rfl ?_ ?_) <| .cons (.comment rfl ?_ ?_) <| .cons (.comment rfl ?_ ?_) .nil
  case interval | notifications | logging | level | format =>
    exact Toml.readsAs_some (fun _ => rfl) (fun _ => rfl) fun _ => rfl
  case capacity =>
    -- What follows decides whether there are enough characters for a year.
    refine Toml.readsAs_some (fun _ => rfl) (fun _ => rfl) fun r => ?_
    cases r <;> rfl
  all_goals decide +kernel

theorem linesWithin?_unlines {ls : List (List Char)} {os : List (Option Line)}
    (h : List.Forall₂ ReadsAs ls os) (fuel : Nat) (r : List Char) :
    Toml.linesWithin? (fuel + ls.length) (unlines ls ++ r) =
      (Toml.linesWithin? fuel r).map (os.reduceOption ++ ·) := by
  induction h with
  | nil =>
    show Toml.linesWithin? fuel r = _
    cases Toml.linesWithin? fuel r <;> rfl
  | @cons l o ls os hl _ ih =>
    rw [unlines_cons, List.append_assoc, List.cons_append, List.length_cons, ← Nat.add_assoc, hl,
      ih]
    cases o <;> cases Toml.linesWithin? fuel r <;> rfl

theorem filled_default : filled "demo" "rules" = lines.map String.toList := by
  have happlication : setting "application" "demo" = "application = \"demo\"".toList := by decide
  have hdir : setting "dir" "rules" = "dir = \"rules\"".toList := by decide
  rw [filled, withSettings, happlication, hdir]
  rfl

/-! ## The application and the folder -/

theorem readsAs_of_other {ls : List (List Char)} {os : List (Option Line)}
    (h : List.Forall₂ Other ls os) : List.Forall₂ ReadsAs ls os :=
  h.imp fun _ _ hl => hl.reads

theorem forall_of_forall₂ {p : List Char → Prop} {ls : List (List Char)} {os : List (Option Line)}
    (hp : ∀ l o, Other l o → p l) (h : List.Forall₂ Other ls os) : ∀ l ∈ ls, p l := by
  induction h with
  | nil => nofun
  | @cons l o _ _ hl _ ih =>
    intro m hm
    rcases List.mem_cons.1 hm with rfl | hm
    · exact hp _ o hl
    · exact ih m hm

theorem not_mem_head_middle_tail :
    (∀ l ∈ head, '\n' ∉ l) ∧ (∀ l ∈ middle, '\n' ∉ l) ∧ ∀ l ∈ tail, '\n' ∉ l :=
  ⟨forall_of_forall₂ (fun _ _ h => h.line) other_head,
    forall_of_forall₂ (fun _ _ h => h.line) other_middle,
    forall_of_forall₂ (fun _ _ h => h.line) other_tail⟩

theorem splitLines_text : splitLines text = lines.map String.toList := by
  rw [text, ← filled_default, ← List.append_nil (unlines _), splitLines_unlines]
  · exact List.append_nil _
  · intro l hl
    simp only [filled, withSettings, List.mem_append, List.mem_cons] at hl
    rcases hl with (hl | rfl | hl) | rfl | hl
    · exact not_mem_head_middle_tail.1 l hl
    · decide
    · exact not_mem_head_middle_tail.2.1 l hl
    · decide
    · exact not_mem_head_middle_tail.2.2 l hl

theorem replace_application (application : String) :
    replace text "application" application = unlines (filled application "rules") := by
  have hsetting : start "application" <+: setting "application" "demo" := by decide
  have hhead : ∀ l ∈ head, ¬ start "application" <+: l :=
    forall_of_forall₂ (fun _ _ h => h.application) other_head
  rw [replace_eq, splitLines_text, ← filled_default, filled, filled, withSettings, withSettings,
    List.append_assoc, List.append_assoc, replaceFirst_append hhead]
  simp only [List.cons_append]
  rw [replaceFirst_cons hsetting]

/-! ## Lines of an application -/

theorem write_unlines (b : BlockForm) (ls : List (List Char)) (l : List Char) :
    b.write (unlines ls ++ l) = unlines (ls.map b.write) ++ b.write l := by
  induction ls with
  | nil => rfl
  | cons m ls ih =>
    rw [unlines_cons, List.append_assoc, List.cons_append, b.write_append_newline, ih,
      List.map_cons, unlines_cons]
    simp

/-- The lines of a value in a block stand between a line with the name and the closing quotes. -/
theorem start_append_text (name : String) (b : BlockForm) (ls : List (List Char)) (l : List Char) :
    start name ++ b.text (unlines ls ++ l) =
      unlines ((start name ++ [b.quote, b.quote, b.quote]) :: ls.map b.write) ++
        (b.write l ++ [b.quote, b.quote, b.quote]) := by
  rw [BlockForm.text, write_unlines, unlines_cons]
  simp

theorem linesOf_setting_of_not_mem {name value : String} (hname : '\n' ∉ start name)
    (h : '\n' ∉ value.toList) : linesOf (setting name value) = [setting name value] :=
  splitLines_cons (fun hmem => (List.mem_append.1 hmem).elim hname (not_mem_quotedChars h)) []

theorem quote_ne (b : BlockForm) : b.quote ≠ '\n' ∧ b.quote ∉ start "dir" := by
  cases b <;> decide

theorem linesOf_setting (name : String) {value : String} (hname : '\n' ∉ start name)
    (h : '\n' ∈ value.toList) {ls : List (List Char)} {l : List Char}
    (hls : linesOf value.toList = ls ++ [l]) :
    ∃ b : BlockForm, b.Fits value.toList ∧ linesOf (setting name value) =
      (start name ++ [b.quote, b.quote, b.quote]) ::
        (ls.map b.write ++ [b.write l ++ [b.quote, b.quote, b.quote]]) := by
  obtain ⟨b, hfits, hwritten⟩ := exists_blockForm h
  refine ⟨b, hfits, ?_⟩
  have hmem : ∀ m ∈ ls ++ [l], '\n' ∉ m := fun m hm => not_mem_linesOf (hls ▸ hm)
  have hquotes : '\n' ∉ [b.quote, b.quote, b.quote] := by simp [(quote_ne b).1.symm]
  rw [setting, hwritten, eq_of_linesOf hls, start_append_text, linesOf_unlines]
  · rfl
  · intro m hm
    rcases List.mem_cons.1 hm with rfl | hm
    · exact fun h => (List.mem_append.1 h).elim hname hquotes
    · obtain ⟨m', hm', rfl⟩ := List.mem_map.1 hm
      exact b.not_mem_write (hmem m' (List.mem_append_left _ hm'))
  · exact fun h => (List.mem_append.1 h).elim
      (b.not_mem_write (hmem l (List.mem_append_right _ (List.mem_singleton_self l)))) hquotes

/-- The line of an application with line breaks that is taken for the one that sets the folder: the
first one that begins like it. -/
def decoy? (application : String) : Option (List Char) :=
  if '\n' ∈ application.toList then
    (linesOf application.toList).find? (start "dir").isPrefixOf
  else none

theorem plain_start_dir : Plain (start "dir") := by decide

theorem decoy?_eq_none {application : String} (h : decoy? application = none) :
    ∀ l ∈ linesOf (setting "application" application), ¬ start "dir" <+: l := by
  have hfirst : ∀ w, ¬ start "dir" <+: start "application" ++ w := by
    intro w hp
    exact absurd (List.cons_prefix_cons.1 hp).1 (by decide)
  by_cases hline : '\n' ∈ application.toList
  · rw [decoy?, if_pos hline, List.find?_eq_none] at h
    obtain ⟨ls, l, hls⟩ := exists_linesOf application.toList
    obtain ⟨b, -, hsetting⟩ := linesOf_setting "application" (by decide) hline hls
    have hnone : ∀ m ∈ ls ++ [l], ¬ start "dir" <+: b.write m := fun m hm hp =>
      h m (hls ▸ hm) (List.isPrefixOf_iff_prefix.2 ((b.prefix_write_iff plain_start_dir m).1 hp))
    intro m hm
    rw [hsetting, List.mem_cons, List.mem_append, List.mem_map, List.mem_singleton] at hm
    rcases hm with rfl | ⟨m', hm', rfl⟩ | rfl
    · exact hfirst _
    · exact hnone m' (List.mem_append_left _ hm')
    · rw [Text.prefix_append_cons_iff (quote_ne b).2]
      exact hnone l (by simp)
  · rw [linesOf_setting_of_not_mem (by decide) hline]
    intro m hm
    rw [List.mem_singleton.1 hm]
    exact hfirst _

/-! ## The text for an application and a folder -/

/-- The lines of the text in which only the application has been set. -/
theorem splitLines_filled (application : String) :
    splitLines (unlines (filled application "rules")) =
      head ++ linesOf (setting "application" application) ++ middle ++
        setting "dir" "rules" :: tail := by
  have htext : unlines (filled application "rules") =
      unlines head ++ (unlines (linesOf (setting "application" application)) ++
        unlines (middle ++ setting "dir" "rules" :: tail)) := by
    rw [unlines_linesOf, filled, withSettings, List.append_assoc, unlines_append, List.cons_append,
      unlines_cons]
    simp
  have hrest : ∀ l ∈ middle ++ setting "dir" "rules" :: tail, '\n' ∉ l := by
    intro l hl
    rcases List.mem_append.1 hl with hl | hl
    · exact not_mem_head_middle_tail.2.1 l hl
    · rcases List.mem_cons.1 hl with rfl | hl
      · decide
      · exact not_mem_head_middle_tail.2.2 l hl
  have hend := splitLines_unlines hrest []
  rw [List.append_nil] at hend
  rw [htext, splitLines_unlines not_mem_head_middle_tail.1,
    splitLines_unlines fun l hl => not_mem_linesOf hl, hend]
  simp [splitLines]

/-- Without such a line both settings end up where they belong. -/
theorem replace_dir {application : String} (h : decoy? application = none) (dir : String) :
    replace (unlines (filled application "rules")) "dir" dir =
      unlines (filled application dir) := by
  have hrules : start "dir" <+: setting "dir" "rules" := List.prefix_append _ _
  have hbefore : ∀ l ∈ head ++ linesOf (setting "application" application) ++ middle,
      ¬ start "dir" <+: l := by
    intro l hl
    simp only [List.mem_append] at hl
    rcases hl with (hl | hl) | hl
    · exact forall_of_forall₂ (fun _ _ h => h.dir) other_head l hl
    · exact decoy?_eq_none h l hl
    · exact forall_of_forall₂ (fun _ _ h => h.dir) other_middle l hl
  rw [replace_eq, splitLines_filled, replaceFirst_append hbefore, replaceFirst_cons hrules]
  simp only [unlines_append, unlines_cons, unlines_linesOf, filled, withSettings]
  simp

theorem textFor_none (application : Option String) :
    textFor application none = unlines (filled (application.getD "demo") "rules") := by
  cases application with
  | none => exact (congrArg unlines filled_default).symm
  | some a => exact replace_application a

theorem textFor_some (application : Option String) (dir : String) :
    textFor application (some dir) = replace (textFor application none) "dir" dir := rfl

theorem textFor_eq {application dir : Option String}
    (h : dir = none ∨ decoy? (application.getD "demo") = none) :
    textFor application dir = unlines (filled (application.getD "demo") (dir.getD "rules")) := by
  cases dir with
  | none => exact textFor_none application
  | some d =>
    rw [textFor_some, textFor_none]
    exact replace_dir (h.resolve_left nofun) d

/-! ## The configuration in the text -/

/-- What is read from the text. -/
def entries (application dir : String) : List (Option Line) :=
  headLines ++ some (.assignment ["application"] (.string application)) :: middleLines ++
    some (.assignment ["dir"] (.string dir)) :: tailLines

theorem readsAs_setting {name value : String} (hne : name.toList ≠ [])
    (hname : name.toList.all Toml.isBare = true) :
    ReadsAs (setting name value) (some (.assignment [name] (.string value))) := by
  have hread := Toml.readsAs_assignment (w := Toml.quotedChars value.toList) hne
    (List.all_eq_true.1 hname) (fun r => by
      obtain ⟨q, w, hq, rfl | rfl⟩ := Toml.quotedChars_head value.toList <;> rw [hq] <;> rfl)
    (Toml.value?_quotedChars value.toList)
  rwa [String.ofList_toList, String.ofList_toList] at hread

section

variable {a d : List Char} {application dir : String}

theorem readsAs_withSettings
    (ha : ReadsAs a (some (.assignment ["application"] (.string application))))
    (hd : ReadsAs d (some (.assignment ["dir"] (.string dir)))) :
    List.Forall₂ ReadsAs (withSettings a d) (entries application dir) :=
  List.rel_append
    (List.rel_append (readsAs_of_other other_head) (.cons ha (readsAs_of_other other_middle)))
    (.cons hd (readsAs_of_other other_tail))

theorem lines?_withSettings
    (ha : ReadsAs a (some (.assignment ["application"] (.string application))))
    (hd : ReadsAs d (some (.assignment ["dir"] (.string dir)))) :
    Toml.lines? (unlines (withSettings a d)) = some (entries application dir).reduceOption := by
  have hstart : ∃ r, unlines (withSettings a d) = '#' :: r := ⟨_, rfl⟩
  obtain ⟨r, hr⟩ := hstart
  have hmark : Toml.lines? ('#' :: r) = Toml.linesWithin? (('#' :: r).length + 1) ('#' :: r) := rfl
  obtain ⟨fuel, hfuel⟩ :=
    Nat.exists_eq_add_of_le (length_le_length_unlines (withSettings a d))
  have hread := linesWithin?_unlines (readsAs_withSettings ha hd) (fuel + 1) []
  have hend : Toml.linesWithin? (fuel + 1) [] = some [] := rfl
  have hcount : (unlines (withSettings a d)).length + 1 =
      fuel + 1 + (withSettings a d).length := by omega
  rw [hr, hmark, ← hr, hcount, ← List.append_nil (unlines _), hread, hend]
  exact congrArg some (List.append_nil _)

end

/-- The tables in the text. -/
def root (application dir : String) : Toml.Entries := [
  ("router", .table false false [("application", .value (.string application))]),
  ("source", .table false false [("kind", .value (.string "file")), ("dir", .value (.string dir)),
    ("poll_interval_ms", .value (.integer 1000))]),
  ("notifications", .table false false [("capacity", .value (.integer 16))]),
  ("logging", .table false false [("level", .value (.string "info")),
    ("format", .value (.string "pretty"))])]

theorem foldlM_entries (application dir : String) :
    (entries application dir).reduceOption.foldlM Toml.Document.line {} =
      some { root := root application dir, current := ["logging"] } := by
  have hentries : (entries application dir).reduceOption = [
      .heading ["router"], .assignment ["application"] (.string application),
      .heading ["source"], .assignment ["kind"] (.string "file"),
      .assignment ["dir"] (.string dir), .assignment ["poll_interval_ms"] (.integer 1000),
      .heading ["notifications"], .assignment ["capacity"] (.integer 16),
      .heading ["logging"], .assignment ["level"] (.string "info"),
      .assignment ["format"] (.string "pretty")] := rfl
  rw [hentries]
  simp [root, Toml.Document.line, Toml.Document.above, Toml.Document.openTable, Toml.Item.descend,
    Toml.assign, Toml.Item.add, Toml.Entries.get?, Toml.Entries.set]

theorem ofValue?_root (application dir : String) :
    Config.ofValue? (.table (Toml.Item.entriesToValues (root application dir))) =
      some { application, dir } := by
  simp [root, Toml.Item.entriesToValues, Toml.Item.toValue, Config.ofValue?, Toml.Value.fields?,
    Toml.Value.entries?, Toml.field?, Config.applicationOfValue?, Config.withSource?,
    Config.capacityOfValue?, Logging.ofValue?, Toml.Value.string?, Toml.Value.choice?,
    SourceKind.ofName?, LogFormat.ofName?, Toml.Value.natBelow?]
  rfl

/-- The text holds the two settings, and all else is as for everyone. -/
theorem parse?_withSettings {a d : List Char} {application dir : String}
    (ha : ReadsAs a (some (.assignment ["application"] (.string application))))
    (hd : ReadsAs d (some (.assignment ["dir"] (.string dir)))) :
    Config.parse? (String.ofList (unlines (withSettings a d))) = some { application, dir } := by
  rw [Config.parse?, Toml.parse?, String.toList_ofList, lines?_withSettings ha hd]
  simp only [Option.bind_eq_bind, Option.bind_some, foldlM_entries]
  exact ofValue?_root application dir

theorem parse?_filled (application dir : String) :
    Config.parse? (String.ofList (unlines (filled application dir))) =
      some { application, dir } :=
  parse?_withSettings (readsAs_setting (by decide) (by decide))
    (readsAs_setting (by decide) (by decide))

/-- The configuration that is asked for. -/
def asked (application dir : Option String) : Config :=
  { application := application.getD "demo", dir := dir.getD "rules" }

/-- Unless a line of the application is in the way, what is asked for is written if it is valid. -/
theorem render_eq (path : String) {application dir : Option String}
    (h : dir = none ∨ decoy? (application.getD "demo") = none) :
    render path application dir =
      (asked application dir).validate.map fun () =>
        (String.ofList (textFor application dir), asked application dir) := by
  unfold render
  rw [textFor_eq h]
  simp only [parse?_filled]
  rw [asked]
  cases Config.validate _ <;> rfl

end Starter
end CallRouting
