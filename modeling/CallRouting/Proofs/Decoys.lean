import CallRouting.Proofs.RuleKeys
import CallRouting.Proofs.StarterEnding

/-!
# Decoys

The folder is put into the first line that begins as the one for the folder does, and this may be a
line of the application. Then the line that should have been replaced stays as it was.

* `Decoy` : where such a line is among those of an application;
* `misplaced`, `Decoy.replace_dir` : the text that results;
* `Decoy.dir_eq` : the folder in it is the one for everyone;
* `Decoy.parse?_inner` : the folder that was asked for is a part of the application, if the decoy is
  not its last line;
* `Decoy.parse?_last` : otherwise the quotes that close the application are gone, and the text is
  malformed;
* `render_eq_asked_iff` : so when what is written is what was asked for.
-/

namespace CallRouting.Starter

open Toml (BlockForm ReadsAs)

/-! ## Where the folder is put -/

/-- Where a decoy is among the lines of an application. -/
structure Decoy (application : String) (before : List (List Char)) (line : List Char)
    (after : List (List Char)) : Prop where
  newline : '\n' ∈ application.toList
  lines : linesOf application.toList = before ++ line :: after
  first : ∀ l ∈ before, ¬ start "dir" <+: l
  begins : start "dir" <+: line

theorem decoy_of_decoy? {application : String} {line : List Char}
    (h : decoy? application = some line) : ∃ before after, Decoy application before line after := by
  by_cases hline : '\n' ∈ application.toList
  · rw [decoy?, if_pos hline, List.find?_eq_some_iff_append] at h
    obtain ⟨hstart, before, after, hlines, hfirst⟩ := h
    refine ⟨before, after, hline, hlines, fun l hl hp => ?_, List.isPrefixOf_iff_prefix.1 hstart⟩
    have hno := hfirst l hl
    rw [List.isPrefixOf_iff_prefix.2 hp] at hno
    cases hno
  · rw [decoy?, if_neg hline] at h
    cases h

variable {application : String} {before after : List (List Char)} {line : List Char}

/-- The text with a line `m` among those of the application, and the folder as for everyone. -/
def misplaced (b : BlockForm) (before : List (List Char)) (m : List Char)
    (rest : List (List Char)) : List (List Char) :=
  head ++
    ((start "application" ++ [b.quote, b.quote, b.quote]) :: before.map b.write ++ m :: rest) ++
    middle ++ setting "dir" "rules" :: tail

/-- The folder is put into the lines of the application, and the line that sets it stays. -/
theorem Decoy.replace_dir (h : Decoy application before line after) (dir : String) :
    ∃ (b : BlockForm) (rest : List (List Char)), b.Fits application.toList ∧
      replace (unlines (filled application "rules")) "dir" dir =
        unlines (misplaced b before (setting "dir" dir) rest) ∧
      (after = [] → rest = []) ∧
      ∀ inner l, after = inner ++ [l] →
        rest = inner.map b.write ++ [b.write l ++ [b.quote, b.quote, b.quote]] := by
  have hreplace : ∀ (b : BlockForm) m rest,
      linesOf (setting "application" application) =
        (start "application" ++ [b.quote, b.quote, b.quote]) :: before.map b.write ++ m :: rest →
      start "dir" <+: m → replace (unlines (filled application "rules")) "dir" dir =
        unlines (misplaced b before (setting "dir" dir) rest) := by
    intro b m rest hlines hm
    have hnone : ∀ l ∈ head ++ (start "application" ++ [b.quote, b.quote, b.quote]) ::
        before.map b.write, ¬ start "dir" <+: l := by
      intro l hl
      rw [List.mem_append, List.mem_cons, List.mem_map] at hl
      rcases hl with hl | rfl | ⟨m', hm', rfl⟩
      · exact forall_of_forall₂ (fun _ _ h => h.dir) other_head l hl
      · exact fun hp => absurd (List.cons_prefix_cons.1 hp).1 (by decide)
      · rw [b.prefix_write_iff plain_start_dir]
        exact h.first m' hm'
    have htext : head ++ ((start "application" ++ [b.quote, b.quote, b.quote]) ::
        before.map b.write ++ m :: rest) ++ middle ++ setting "dir" "rules" :: tail =
        (head ++ (start "application" ++ [b.quote, b.quote, b.quote]) :: before.map b.write) ++
          m :: (rest ++ middle ++ setting "dir" "rules" :: tail) := by simp
    rw [replace_eq, splitLines_filled, hlines, htext, replaceFirst_append hnone,
      replaceFirst_cons hm]
    simp [misplaced]
  rcases List.eq_nil_or_concat after with rfl | ⟨inner, l, rfl⟩
  · obtain ⟨b, hfits, hlines⟩ := linesOf_setting "application" (by decide) h.newline h.lines
    refine ⟨b, [], hfits, hreplace b _ [] hlines ?_, fun _ => rfl, fun inner l hl => ?_⟩
    · exact ((b.prefix_write_iff plain_start_dir line).2 h.begins).trans (List.prefix_append _ _)
    · exact absurd hl (by simp)
  · have hall : linesOf application.toList = (before ++ line :: inner) ++ [l] := by
      rw [h.lines, List.concat_eq_append]
      simp
    obtain ⟨b, hfits, hlines⟩ := linesOf_setting "application" (by decide) h.newline hall
    refine ⟨b, inner.map b.write ++ [b.write l ++ [b.quote, b.quote, b.quote]], hfits,
      hreplace b (b.write line) _ ?_ ?_, fun hl => ?_, fun inner' l' hl => ?_⟩
    · rw [hlines]
      simp
    · exact (b.prefix_write_iff plain_start_dir line).2 h.begins
    · exact absurd hl (by simp)
    · rw [List.concat_eq_append] at hl
      obtain ⟨rfl, hl'⟩ := List.append_inj' hl rfl
      rw [(List.cons.inj hl').1]

/-- So the folder that is read is that of everyone. -/
theorem Decoy.dir_eq (h : Decoy application before line after) {dir : String} {c : Config}
    (hc : Config.parse? (String.ofList (replace (unlines (filled application "rules")) "dir" dir)) =
      some c) : c.dir = "rules" := by
  obtain ⟨b, rest, -, htext, -⟩ := h.replace_dir dir
  rw [htext, misplaced, List.append_assoc, unlines_append] at hc
  exact dir_of_endsIn ⟨_, rfl⟩ hc

/-! ## A decoy before the last line -/

theorem fits_unlines_iff (b : BlockForm) (ls : List (List Char)) (l : List Char) :
    b.Fits (unlines ls ++ l) ↔ ∀ m ∈ ls ++ [l], b.Fits m := by
  cases b with
  | escaped => exact ⟨fun _ _ _ => trivial, fun _ => trivial⟩
  | literal =>
    induction ls with
    | nil => simp [unlines]
    | cons m ls ih =>
      rw [List.cons_append, List.forall_mem_cons, ← ih, unlines_cons, List.append_assoc,
        List.cons_append]
      have hquote : '\n' ∉ List.replicate 3 '\'' := by decide
      have hcode : Toml.isCode '\n' = false := rfl
      simp only [BlockForm.Fits, Text.infix_append_cons_iff hquote, List.forall_mem_append,
        List.forall_mem_cons, not_or]
      tauto

/-- A line that stands for itself in every block. -/
structure Shown (l : List Char) : Prop where
  write : ∀ b : BlockForm, b.write l = l
  fits : ∀ b : BlockForm, b.Fits l

theorem shown_of {l : List Char} (hescape : Toml.escapeFrom true 0 l = l)
    (hcode : l.any Toml.isCode = false) (hquote : ¬ List.replicate 3 '\'' <:+: l) : Shown l where
  write b := by
    cases b with
    | escaped => exact hescape
    | literal => rfl
  fits b := by
    cases b with
    | escaped => trivial
    | literal => exact ⟨fun c hc => Bool.eq_false_iff.2 (List.any_eq_false.1 hcode c hc), hquote⟩

theorem readsAs_block {name : String} (hne : name.toList ≠ [])
    (hname : name.toList.all Toml.isBare = true) (b : BlockForm) {s : List Char}
    (h : b.Fits s) :
    ReadsAs (start name ++ b.text s) (some (.assignment [name] (.string (String.ofList s)))) := by
  have hread := Toml.readsAs_assignment (w := b.text s) hne
    (List.all_eq_true.1 hname) (fun r => by cases b <;> rfl) (b.value?_text h)
  rwa [String.ofList_toList] at hread

/-- If the decoy is not the last line, the application has the folder in it. -/
theorem Decoy.parse?_inner {inner : List (List Char)} {l : List Char}
    (h : Decoy application before line (inner ++ [l])) {dir : String}
    (hdir : Shown (setting "dir" dir)) :
    Config.parse? (String.ofList (replace (unlines (filled application "rules")) "dir" dir)) =
      some { application :=
        String.ofList (unlines (before ++ setting "dir" dir :: inner) ++ l) } := by
  obtain ⟨b, rest, hfits, htext, -, hinner⟩ := h.replace_dir dir
  have hfits' : b.Fits (unlines (before ++ setting "dir" dir :: inner) ++ l) := by
    have hlines : linesOf application.toList = (before ++ line :: inner) ++ [l] := by
      rw [h.lines]
      simp
    rw [eq_of_linesOf hlines, fits_unlines_iff] at hfits
    rw [fits_unlines_iff]
    intro m hm
    simp only [List.mem_append, List.mem_cons] at hm hfits
    rcases hm with (hm | rfl | hm) | hm
    · exact hfits m (Or.inl (Or.inl hm))
    · exact hdir.fits b
    · exact hfits m (Or.inl (Or.inr (Or.inr hm)))
    · exact hfits m (Or.inr hm)
  have hsettings : unlines (misplaced b before (setting "dir" dir) rest) =
      unlines (withSettings
        (start "application" ++ b.text (unlines (before ++ setting "dir" dir :: inner) ++ l))
        (setting "dir" "rules")) := by
    have hmap : (before ++ setting "dir" dir :: inner).map b.write =
        before.map b.write ++ setting "dir" dir :: inner.map b.write := by
      rw [List.map_append, List.map_cons, hdir.write b]
    rw [hinner inner l rfl, misplaced, withSettings, start_append_text, hmap]
    simp [unlines_append, unlines_cons]
  rw [htext, hsettings]
  exact parse?_withSettings (readsAs_block (by decide) (by decide) b hfits')
    (readsAs_setting (by decide) (by decide))

/-! ## A decoy in the last line -/

/-- A block that nothing closes is no value. -/
theorem value?_open (b : BlockForm) {z r : List Char} (h : b.Fits z) (hr : NoBlock r) :
    Toml.value? (b.quote :: b.quote :: b.quote :: '\n' :: (b.write z ++ '\n' :: r)) = none := by
  cases b with
  | escaped =>
    have hclose : ∀ k ≤ 2, Toml.blockRest false (List.replicate k '"' ++ '\n' :: r) =
        Toml.prependRead (List.replicate k '"') none := by
      intro k hk
      refine Toml.blockRest_eq_none fun hin => ?_
      rw [Text.infix_append_cons_iff (by decide)] at hin
      rcases hin with hin | hin
      · have hlength := hin.length_le
        simp only [List.length_replicate] at hlength
        omega
      · exact hr.1 hin
    have hread := Toml.blockRest_escapeFrom hclose z (Nat.zero_le 2)
    rw [List.replicate_zero, List.nil_append, List.nil_append] at hread
    refine Toml.value?_eq_none (Or.inl rfl) ?_
    show (Toml.blockRest false (Toml.escapeFrom true 0 z ++ '\n' :: r)).map _ = none
    rw [hread]
    rfl
  | literal =>
    have hread : Toml.literalBlockRest (z ++ '\n' :: r) = none :=
      Toml.literalBlockRest_eq_none fun hin =>
        ((Text.infix_append_cons_iff (by decide) z r).1 hin).elim h.2 hr.2
    refine Toml.value?_eq_none (Or.inr rfl) ?_
    show (Toml.literalBlockRest (z ++ '\n' :: r)).map _ = none
    rw [hread]
    rfl

/-- If the decoy is the last line, the closing quotes are lost, and the text is malformed. -/
theorem Decoy.parse?_last (h : Decoy application before line []) {dir : String}
    (hdir : Shown (setting "dir" dir)) :
    Config.parse? (String.ofList (replace (unlines (filled application "rules")) "dir" dir)) =
      none := by
  obtain ⟨b, rest, hfits, htext, hlast, -⟩ := h.replace_dir dir
  have hfits' : b.Fits (unlines before ++ setting "dir" dir) := by
    rw [eq_of_linesOf h.lines, fits_unlines_iff] at hfits
    rw [fits_unlines_iff]
    intro m hm
    rcases List.mem_append.1 hm with hm | hm
    · exact hfits m (List.mem_append_left _ hm)
    · exact List.mem_singleton.1 hm ▸ hdir.fits b
  have hrest : NoBlock (unlines (middle ++ setting "dir" "rules" :: tail)) := by
    refine noBlock_unlines fun l hl => ?_
    simp only [List.mem_append, List.mem_cons] at hl
    rcases hl with hl | rfl | hl
    · exact forall_of_forall₂ (fun _ _ h => h.block) other_middle l hl
    · decide
    · exact forall_of_forall₂ (fun _ _ h => h.block) other_tail l hl
  have hopen := value?_open b hfits' hrest
  have hshape : unlines (misplaced b before (setting "dir" dir) rest) =
      unlines head ++ ("application".toList ++ " = ".toList ++
        (b.quote :: b.quote :: b.quote :: '\n' :: (b.write (unlines before ++ setting "dir" dir) ++
          '\n' :: unlines (middle ++ setting "dir" "rules" :: tail)))) := by
    rw [hlast rfl, misplaced, write_unlines, hdir.write]
    simp [unlines_append, unlines_cons, start]
  have hlines : ∀ fuel,
      Toml.linesWithin? fuel (unlines (misplaced b before (setting "dir" dir) rest)) = none := by
    intro fuel
    refine Option.eq_none_iff_forall_ne_some.2 fun ls hls => ?_
    have hmore := Toml.linesWithin?_mono hls head.length
    rw [hshape, linesWithin?_unlines (readsAs_of_other other_head),
      Toml.linesWithin?_eq_none (by decide) (List.all_eq_true.1 (by decide))
        (by cases b <;> rfl) hopen] at hmore
    cases hmore
  have hstart : ∃ r, unlines (misplaced b before (setting "dir" dir) rest) = '#' :: r := ⟨_, rfl⟩
  obtain ⟨r, hr⟩ := hstart
  rw [hr] at hlines
  have hnone : Toml.lines? ('#' :: r) = none := hlines _
  rw [htext, hr, Config.parse?, Toml.parse?, String.toList_ofList, hnone]
  rfl

/-! ## What is written -/

theorem shown_rules : Shown (setting "dir" "rules") :=
  shown_of (by decide) (by decide) (by decide)

theorem render_eq_ok {path t : String} {application dir : Option String} {c : Config}
    (h : render path application dir = .ok (t, c)) :
    t = String.ofList (textFor application dir) ∧ Config.parse? t = some c := by
  unfold render at h
  simp only at h
  split at h
  · next c' hc =>
    cases hvalid : c'.validate with
    | error e =>
      rw [hvalid] at h
      cases h
    | ok u =>
      rw [hvalid] at h
      cases h
      exact ⟨rfl, hc⟩
  · cases h

theorem render_of_parse? {application dir : Option String} {c : Config}
    (hc : Config.parse? (String.ofList (textFor application dir)) = some c)
    (hvalid : c.validate = .ok ()) (path : String) :
    render path application dir = .ok (String.ofList (textFor application dir), c) := by
  unfold render
  simp only [hc, hvalid]
  rfl

/-- With a decoy, what is read is what was asked for only if nothing has been changed by it. -/
theorem Decoy.eq_asked_iff (h : Decoy application before line after) {dir : String} {c : Config}
    (hc : Config.parse? (String.ofList (replace (unlines (filled application "rules")) "dir" dir)) =
      some c) :
    c = { application, dir } ↔ dir = "rules" ∧ line = setting "dir" "rules" := by
  by_cases hdir : dir = "rules"
  · subst hdir
    rcases List.eq_nil_or_concat after with rfl | ⟨inner, l, rfl⟩
    · rw [h.parse?_last shown_rules] at hc
      cases hc
    · rw [List.concat_eq_append] at h
      have hlines : linesOf application.toList = (before ++ line :: inner) ++ [l] := by
        rw [h.lines]
        simp
      have hmem : ∀ m ∈ (before ++ line :: inner) ++ [l], '\n' ∉ m := fun m hm =>
        not_mem_linesOf (hlines ▸ hm)
      rw [h.parse?_inner shown_rules] at hc
      rw [← Option.some.inj hc]
      constructor
      · intro heq
        have happlication := congrArg (fun c => linesOf c.application.toList) heq
        simp only [String.toList_ofList] at happlication
        rw [hlines, linesOf_unlines] at happlication
        · have hsame := List.append_cancel_right happlication
          exact ⟨rfl, (List.cons.inj (List.append_cancel_left hsame)).1.symm⟩
        · intro m hm
          rcases List.mem_append.1 hm with hm | hm
          · exact hmem m (by simp [hm])
          · rcases List.mem_cons.1 hm with rfl | hm
            · decide
            · exact hmem m (by simp [hm])
        · exact hmem l (List.mem_append_right _ (List.mem_singleton_self l))
      · rintro ⟨-, rfl⟩
        rw [← eq_of_linesOf hlines, String.ofList_toList]
  · refine ⟨fun heq => ?_, fun h => absurd h.1 hdir⟩
    have hrules := h.dir_eq hc
    rw [heq] at hrules
    exact absurd hrules hdir

theorem parse?_text : Config.parse? (String.ofList text) = some {} := by
  rw [text, ← filled_default]
  exact parse?_filled "demo" "rules"

/-- **When the configuration that is written is the one that was asked for.** It always is, but if a
folder is given together with an application over several lines, one of which begins as the line for
the folder does; then only if that changes nothing. -/
theorem render_eq_asked_iff {path t : String} {application dir : Option String} {c : Config}
    (h : render path application dir = .ok (t, c)) :
    ∃ base, Config.parse? (String.ofList text) = some base ∧ Config.parse? t = some c ∧
      (c = { base with application := application.getD base.application,
                       dir := dir.getD base.dir } ↔
        ∀ a d line, application = some a → dir = some d → decoy? a = some line →
          d = base.dir ∧ line = setting "dir" base.dir) := by
  obtain ⟨rfl, hc⟩ := render_eq_ok h
  refine ⟨{}, parse?_text, hc, ?_⟩
  have hplain : dir = none ∨ decoy? (application.getD "demo") = none →
      c = asked application dir := by
    intro hnone
    rw [textFor_eq hnone, parse?_filled] at hc
    exact (Option.some.inj hc).symm
  cases dir with
  | none => exact ⟨fun _ _ _ _ _ => nofun, fun _ => hplain (Or.inl rfl)⟩
  | some d =>
    cases application with
    | none => exact ⟨fun _ _ _ _ => nofun, fun _ => hplain (Or.inr (by decide))⟩
    | some a =>
      cases hdecoy : decoy? a with
      | none =>
        refine ⟨fun _ a' _ _ ha _ hl => ?_, fun _ => hplain (Or.inr hdecoy)⟩
        cases ha
        rw [hdecoy] at hl
        cases hl
      | some line =>
        obtain ⟨before, after, hd⟩ := decoy_of_decoy? hdecoy
        rw [textFor_some, textFor_none] at hc
        have hiff := hd.eq_asked_iff hc
        constructor
        · intro heq a' d' line' ha hd' hl
          cases ha
          cases hd'
          cases hdecoy.symm.trans hl
          exact hiff.1 heq
        · exact fun hall => hiff.2 (hall a d line rfl rfl hdecoy)

/-! ## An application with a decoy -/

theorem render_decoy : ∃ t,
    render "condgate.toml" (some "shop\ndir = old\nend") (some "mine") =
      .ok (t, { application := "shop\ndir = \"mine\"\nend" }) := by
  have hdecoy : Decoy "shop\ndir = old\nend" ["shop".toList] "dir = old".toList
      ([] ++ ["end".toList]) := ⟨by decide, by decide, by decide, by decide⟩
  have hshown : Shown (setting "dir" "mine") := shown_of (by decide) (by decide) (by decide)
  have hparse := hdecoy.parse?_inner hshown
  have happlication : String.ofList (unlines (["shop".toList] ++ setting "dir" "mine" :: []) ++
      "end".toList) = "shop\ndir = \"mine\"\nend" := by decide
  have hvalid : ({ application := "shop\ndir = \"mine\"\nend" } : Config).validate = .ok () :=
    Config.validate_eq_ok (by decide)
  rw [happlication] at hparse
  refine ⟨_, render_of_parse? ?_ hvalid _⟩
  rw [textFor_some, textFor_none]
  exact hparse

/-- There the text does not hold what was asked for. -/
theorem render_eq_asked_decoy : ∃ t c,
    render "condgate.toml" (some "shop\ndir = old\nend") (some "mine") = .ok (t, c) ∧
      Config.parse? t = some c ∧
      c ≠ { application := "shop\ndir = old\nend", dir := "mine" } := by
  obtain ⟨t, h⟩ := render_decoy
  obtain ⟨base, hbase, hc, hiff⟩ := render_eq_asked_iff h
  cases hbase.symm.trans parse?_text
  refine ⟨t, _, h, hc, fun heq => ?_⟩
  have hdir := (hiff.1 heq _ _ "dir = old".toList rfl rfl (by decide)).1
  exact absurd hdir (by decide)

/-- Not every text that is written holds what was asked for. -/
theorem not_render_eq_asked : ¬ ∀ (path : String) (application dir : Option String) (t : String)
    (c : Config), render path application dir = .ok (t, c) →
      Config.parse? t = some (asked application dir) := by
  intro h
  obtain ⟨t, ht⟩ := render_decoy
  have hparse := (render_eq_ok ht).2
  rw [h _ _ _ _ _ ht] at hparse
  have hdir := congrArg Config.dir (Option.some.inj hparse)
  exact absurd hdir (by decide)

end CallRouting.Starter
