import Mathlib.Data.List.Basic
import CallRouting.Proofs.ClauseTree
import CallRouting.Proofs.Cutting
import CallRouting.Proofs.DictOrder
import CallRouting.Proofs.Globs

/-!
# Conditions read from their texts

The text of a conjunction is read to the condition that asks of each key what the groups of the key
ask, one group after the other, and that condition holds when the conjunction does.

* `Conjunction.tokens`, `scan_text` : the tokens of the text;
* `Reading.give` : how a test for a key is added to what has been read;
* `foldlM_listing`, `foldlM_group`, `foldlM_groups` : what is added by the tokens of a listing, of a
  group and of several groups;
* `Conjunction.condition`, `parse_text` : what the text is read to;
* `holds_condition_iff` : and what that means.
-/

namespace CallRouting.Clause

/-! ## Tokens -/

def commaTokens (ws : List Word) : List Token := ws.map fun w => ⟨[','], w.chars⟩

def Listing.tokens (l : Listing) : List Token :=
  ⟨l.polarity.sign, l.first.chars⟩ :: commaTokens l.more

def Group.valueTokens (g : Group) : List Token := g.listings.flatMap Listing.tokens

/-- The tokens of a group, of which the first has the separators that open the group. -/
def Group.tokens (opener : List Char) (g : Group) : List Token :=
  ⟨opener, g.key.chars⟩ :: g.valueTokens

def Conjunction.tokens (c : Conjunction) : List Token :=
  c.first.tokens [] ++ c.more.flatMap (Group.tokens ['&'])

theorem Listing.flatMap_spaced (l : Listing) : l.tokens.flatMap Token.spaced = l.text := by
  simp [tokens, commaTokens, text, Token.spaced, List.flatMap_map]

theorem Group.flatMap_spaced (g : Group) : g.valueTokens.flatMap Token.spaced =
    g.listings.flatMap Listing.text := by
  simp only [valueTokens, List.flatMap_assoc, Listing.flatMap_spaced]

theorem Conjunction.text_eq (c : Conjunction) : c.text = c.first.key.chars ++
    (c.first.valueTokens ++ c.more.flatMap (Group.tokens ['&'])).flatMap Token.spaced := by
  have hmore : ∀ g : Group, (g.tokens ['&']).flatMap Token.spaced = [' ', '&', ' '] ++ g.text := by
    intro g
    rw [Group.tokens, List.flatMap_cons, Group.flatMap_spaced]
    simp [Token.spaced, Group.text]
  rw [text, Group.text, List.flatMap_append, Group.flatMap_spaced, List.flatMap_assoc]
  simp only [hmore, List.append_assoc]

theorem Polarity.isSeparator_sign (p : Polarity) : ∀ c ∈ p.sign, isSeparator c = true := by
  cases p <;> simp [sign, isSeparator]

theorem Listing.wellFormed (l : Listing) : ∀ t ∈ l.tokens, t.WellFormed := by
  intro t ht
  rcases List.mem_cons.1 ht with rfl | ht
  · exact ⟨l.polarity.isSeparator_sign, l.first.solid⟩
  · obtain ⟨w, -, rfl⟩ := List.mem_map.1 ht
    exact ⟨by simp [isSeparator], w.solid⟩

theorem Group.wellFormed_values (g : Group) : ∀ t ∈ g.valueTokens, t.WellFormed := by
  intro t ht
  obtain ⟨l, -, hl⟩ := List.mem_flatMap.1 ht
  exact l.wellFormed t hl

theorem Group.wellFormed (g : Group) : ∀ t ∈ g.tokens ['&'], t.WellFormed := by
  intro t ht
  rcases List.mem_cons.1 ht with rfl | ht
  · exact ⟨by simp [isSeparator], g.key.solid⟩
  · exact g.wellFormed_values t ht

theorem Conjunction.wellFormed (c : Conjunction) :
    ∀ t ∈ c.first.valueTokens ++ c.more.flatMap (Group.tokens ['&']), t.WellFormed := by
  intro t ht
  rcases List.mem_append.1 ht with ht | ht
  · exact c.first.wellFormed_values t ht
  · obtain ⟨g, -, hg⟩ := List.mem_flatMap.1 ht
    exact g.wellFormed t hg

theorem Conjunction.scan_text (c : Conjunction) : Token.scan c.text = c.tokens := by
  rw [c.text_eq, Token.scan_word_spaced c.first.key.solid c.wellFormed]
  rfl

/-! ## Tests -/

def Word.pattern (side : Side) (w : Word) : Pattern := .ofWord side w.chars

namespace Test

def join (t u : Test) : Test := ⟨t.accepted ++ u.accepted, t.rejected ++ u.rejected⟩

@[simp] theorem join_empty (t : Test) : t.join {} = t := by simp [join]

@[simp] theorem empty_join (t : Test) : join {} t = t := by simp [join]

theorem join_assoc (t u v : Test) : (t.join u).join v = t.join (u.join v) := by simp [join]

/-- The test with these values on its two lists. -/
def ofValues (side : Side) (values : Polarity → List Word) : Test :=
  ⟨(values .accepted).map (Word.pattern side), (values .rejected).map (Word.pattern side)⟩

/-- The test with these values on one of its lists. -/
def only (side : Side) (p : Polarity) (ws : List Word) : Test :=
  ofValues side fun q => if p = q then ws else []

@[simp] theorem only_nil (side : Side) (p : Polarity) : only side p [] = {} := by
  simp [only, ofValues]

theorem add_eq_join (side : Side) (t : Test) (w : Word) (p : Polarity) :
    t.add (w.pattern side) p = t.join (only side p [w]) := by
  cases p <;> simp [add, join, only, ofValues]

theorem join_ofValues (side : Side) (f g : Polarity → List Word) :
    (ofValues side f).join (ofValues side g) = ofValues side fun p => f p ++ g p := by
  simp [join, ofValues]

theorem join_only (side : Side) (p : Polarity) (v w : List Word) :
    (only side p v).join (only side p w) = only side p (v ++ w) := by
  rw [only, only, join_ofValues, only]
  congr 1
  funext q
  split <;> simp

end Test

def Group.test (side : Side) (g : Group) : Test := .ofValues side g.values

/-! ## Reading -/

theorem argumentIndex?_of_solid {digits : List Char} {n : Nat}
    (hkey : Solid (argumentsStart ++ digits ++ [']']))
    (hn : Text.natBelow? UInt64.size digits = some n) :
    argumentIndex? (String.ofList (argumentsStart ++ digits ++ [']'])) = some n := by
  have hstart : argumentsStart.isPrefixOf? (argumentsStart ++ digits ++ [']']) =
      some (digits ++ [']']) :=
    List.isPrefixOf?_eq_some_iff_append_eq.2 (List.append_assoc ..).symm
  have hblank : ∀ c ∈ digits, Text.isBlank c = false :=
    fun c hc => hkey.notBlank c (by simp [hc])
  have htrim : Text.trim digits = digits := Text.trim_bare (Text.bare_of_forall hblank)
  simp only [argumentIndex?, String.toList_ofList, hstart, Option.bind_eq_bind, Option.bind_some,
    List.getLast?_append, List.getLast?_singleton, Option.some_or, List.dropLast_concat, htrim, hn]

namespace Reading

/-- The reading after a test has been added for a key, with the list that a comma goes on with. -/
def give (r : Reading) (key : String) (t : Test) (p : Option Polarity) : Reading where
  condition := r.condition.update key fun o => (o.getD {}).join t
  key := some key
  polarity := p

theorem give_give (r : Reading) (key : String) (t u : Test) (p q : Option Polarity) :
    (r.give key t p).give key u q = r.give key (t.join u) q := by
  simp [give, Dict.update_update, Test.join_assoc]

theorem addValue_eq_give {side : Side} {r : Reading} {key : String} (h : r.key = some key)
    (w : Word) (p : Polarity) :
    r.addValue side key w.chars p = r.give key (.only side p [w]) (some p) := by
  simp only [addValue, give, h, ← Test.add_eq_join]
  rfl

theorem openKey_eq_give (r : Reading) (g : Group) :
    r.openKey g.key.chars = .ok (r.give g.key.text {} none) := by
  have hposition : ¬ (argumentsStart.isPrefixOf g.key.chars &&
      (argumentIndex? g.key.text).isNone) = true := by
    intro h
    rw [Bool.and_eq_true, List.isPrefixOf_iff_prefix] at h
    obtain ⟨digits, n, hkey, hn⟩ := g.position h.1
    have hsolid := g.key.solid
    rw [hkey] at hsolid
    rw [Word.text, hkey, argumentIndex?_of_solid hsolid hn] at h
    cases h.2
  simp only [give, Test.join_empty]
  exact if_neg hposition

variable (side : Side)

theorem foldlM_comma (r : Reading) (key : String) (p : Polarity) (ws : List Word) (t : Test) :
    (commaTokens ws).foldlM (token side) (r.give key t (some p)) =
      .ok (r.give key (t.join (.only side p ws)) (some p)) := by
  induction ws generalizing t with
  | nil => rw [Test.only_nil, Test.join_empty]; rfl
  | cons w ws ih =>
    -- The comma leaves the list as it is, so the next one goes on with the same.
    have hstep : (r.give key t (some p)).token side ⟨[','], w.chars⟩ =
        .ok (r.give key (t.join (.only side p [w])) (some p)) := by
      rw [token, if_neg w.solid.ne_nil]
      exact congrArg Except.ok ((addValue_eq_give rfl w p).trans (give_give ..))
    rw [commaTokens, List.map_cons, List.foldlM_cons, hstep]
    exact (ih _).trans (by rw [Test.join_assoc, Test.join_only]; rfl)

theorem foldlM_listing (r : Reading) (key : String) (t : Test) (p : Option Polarity)
    (l : Listing) :
    l.tokens.foldlM (token side) (r.give key t p) =
      .ok (r.give key (t.join (.only side l.polarity l.words)) (some l.polarity)) := by
  have hstep : (r.give key t p).token side ⟨l.polarity.sign, l.first.chars⟩ =
      .ok (r.give key (t.join (.only side l.polarity [l.first])) (some l.polarity)) := by
    rw [token, if_neg l.first.solid.ne_nil]
    cases l.polarity <;>
      exact congrArg Except.ok ((addValue_eq_give rfl l.first _).trans (give_give ..))
  rw [Listing.tokens, List.foldlM_cons, hstep]
  refine (foldlM_comma side r key l.polarity l.more _).trans ?_
  rw [Test.join_assoc, Test.join_only]
  rfl

theorem foldlM_listings (r : Reading) (key : String) (ls : List Listing) (t : Test)
    (p : Option Polarity) :
    ∃ q, (ls.flatMap Listing.tokens).foldlM (token side) (r.give key t p) =
      .ok (r.give key (t.join (.ofValues side fun p => ls.flatMap (·.values p))) q) := by
  induction ls generalizing t p with
  | nil => exact ⟨p, congrArg (fun u => Except.ok (r.give key u p)) (Test.join_empty t).symm⟩
  | cons l ls ih =>
    obtain ⟨q, hq⟩ := ih (t.join (.only side l.polarity l.words)) (some l.polarity)
    refine ⟨q, ?_⟩
    rw [List.flatMap_cons, List.foldlM_append, foldlM_listing]
    refine hq.trans ?_
    -- What one listing gives stands on one of the two lists, so they are joined list by list.
    rw [Test.join_assoc, Test.only, Test.join_ofValues]
    rfl

/-- The separators that can stand before a key. -/
def Opens (opener : List Char) : Prop := opener = [] ∨ opener = ['&']

theorem foldlM_group {opener : List Char} (h : Opens opener) (r : Reading) (g : Group) :
    ∃ p, (g.tokens opener).foldlM (token side) r = .ok (r.give g.key.text (g.test side) p) := by
  have hstep : r.token side ⟨opener, g.key.chars⟩ = .ok (r.give g.key.text {} none) := by
    rw [token, if_neg g.key.solid.ne_nil]
    obtain rfl | rfl := h <;> exact openKey_eq_give r g
  obtain ⟨p, hp⟩ := foldlM_listings side r g.key.text g.listings {} none
  rw [Test.empty_join] at hp
  refine ⟨p, ?_⟩
  rw [Group.tokens, List.foldlM_cons, hstep]
  exact hp

end Reading

/-- A condition and what one more group asks of its key. -/
def Condition.ask (side : Side) (d : Condition) (g : Group) : Condition :=
  d.update g.key.text fun o => (o.getD {}).join (g.test side)

def Conjunction.condition (side : Side) (c : Conjunction) : Condition :=
  c.groups.foldl (Condition.ask side) .empty

theorem Reading.foldlM_groups (side : Side) (gs : List Group) (r : Reading) :
    ∃ r', (gs.flatMap (Group.tokens ['&'])).foldlM (token side) r = .ok r' ∧
      r'.condition = gs.foldl (Condition.ask side) r.condition := by
  induction gs generalizing r with
  | nil => exact ⟨r, rfl, rfl⟩
  | cons g gs ih =>
    obtain ⟨p, hp⟩ := foldlM_group side (.inr rfl) r g
    obtain ⟨r', hr, hcondition⟩ := ih (r.give g.key.text (g.test side) p)
    refine ⟨r', ?_, hcondition⟩
    rw [List.flatMap_cons, List.foldlM_append, hp]
    exact hr

theorem Conjunction.parse_text (side : Side) (c : Conjunction) :
    Condition.parse side c.text = .ok (c.condition side) := by
  obtain ⟨p, hp⟩ := Reading.foldlM_group side (.inl rfl) {} c.first
  obtain ⟨r, hr, hcondition⟩ := Reading.foldlM_groups side c.more (.give {} _ _ p)
  rw [Condition.parse, c.scan_text, tokens, List.foldlM_append, hp]
  exact (congrArg (Except.map (·.condition)) hr).trans (congrArg Except.ok hcondition)

/-! ## Meaning -/

theorem Condition.ordered_foldl (side : Side) (gs : List Group) {d : Condition} (h : d.Ordered) :
    (gs.foldl (ask side) d).Ordered := by
  induction gs generalizing d with
  | nil => exact h
  | cons g gs ih => exact ih (h.update _ _)

/-- The values that the groups of one key give it, in order. -/
def valuesOf (gs : List Group) (key : String) (p : Polarity) : List Word :=
  (gs.filter (·.key.text = key)).flatMap (·.values p)

theorem valuesOf_cons (g : Group) (gs : List Group) (key : String) (p : Polarity) :
    valuesOf (g :: gs) key p = (if g.key.text = key then g.values p else []) ++ valuesOf gs key p := by
  by_cases h : g.key.text = key <;> simp [valuesOf, h]

namespace Condition

variable (side : Side)

theorem getD_ask (d : Condition) (g : Group) (key : String) :
    ((d.ask side g).get? key).getD {} = ((d.get? key).getD {}).join
      (.ofValues side fun p => if g.key.text = key then g.values p else []) := by
  rw [ask, Dict.get?_update]
  by_cases h : g.key.text = key
  · simp only [h, if_true]
    rfl
  · simp only [if_neg h, if_neg (Ne.symm h)]
    exact (Test.join_empty _).symm

theorem getD_foldl (gs : List Group) (d : Condition) (key : String) :
    ((gs.foldl (ask side) d).get? key).getD {} =
      ((d.get? key).getD {}).join (.ofValues side (valuesOf gs key)) := by
  induction gs generalizing d with
  | nil => exact (Test.join_empty _).symm
  | cons g gs ih =>
    rw [List.foldl_cons, ih, getD_ask, Test.join_assoc, Test.join_ofValues,
      funext (valuesOf_cons g gs key)]

theorem isSome_foldl (gs : List Group) (d : Condition) (key : String) :
    ((gs.foldl (ask side) d).get? key).isSome = true ↔
      (d.get? key).isSome = true ∨ ∃ g ∈ gs, g.key.text = key := by
  induction gs generalizing d with
  | nil => simp
  | cons g gs ih =>
    rw [List.foldl_cons, ih, ask, Dict.get?_update]
    by_cases h : g.key.text = key
    · simp [h]
    · simp [h, Ne.symm h]

end Condition

theorem Word.text_inj {v w : Word} : v.text = w.text ↔ v = w := by
  rw [text, text, String.ofList_inj, Word.ext_iff]

namespace Conjunction

variable (side : Side) (c : Conjunction)

theorem ordered_condition : (c.condition side).Ordered :=
  Condition.ordered_foldl side c.groups Dict.ordered_empty

theorem get?_condition {g : Group} (hg : g ∈ c.groups) :
    (c.condition side).get? g.key.text = some (.ofValues side (c.values g.key)) := by
  have hvalues : valuesOf c.groups g.key.text = c.values g.key := by
    funext p
    simp only [valuesOf, values, Word.text_inj]
  have hsome := (Condition.isSome_foldl side c.groups .empty g.key.text).2 (.inr ⟨g, hg, rfl⟩)
  obtain ⟨t, ht⟩ := Option.isSome_iff_exists.1 hsome
  have htest := Condition.getD_foldl side c.groups .empty g.key.text
  rw [ht, hvalues] at htest
  exact ht.trans (congrArg some (htest.trans (Test.empty_join _)))

theorem exists_of_get?_condition {key : String} {t : Test}
    (h : (c.condition side).get? key = some t) : ∃ g ∈ c.groups, g.key.text = key := by
  have hsome := (Condition.isSome_foldl side c.groups .empty key).1
    (Option.isSome_iff_exists.2 ⟨t, h⟩)
  exact hsome.resolve_left (by simp)

theorem isEmpty_condition : (c.condition side).isEmpty = false :=
  Dict.isEmpty_eq_false (c.get?_condition side List.mem_cons_self)

end Conjunction

theorem Word.pattern_of_reference {side : Side} {w : Word} {key : String}
    (h : w.reference? side = some key) : side = .endpoint ∧ w.pattern side = .reference key := by
  cases side with
  | call => cases h
  | endpoint =>
    simp only [reference?] at h
    split at h
    · rename_i key hchars
      cases h
      rw [pattern, hchars, Pattern.ofWord, if_neg (by simp)]
      exact ⟨rfl, rfl⟩
    · cases h

theorem Word.pattern_of_plain {side : Side} {w : Word} (h : w.reference? side = none) :
    w.pattern side = if w.chars = ['*'] then .any
      else if '*' ∈ w.chars then .wildcard w.chars else .exact w.text := by
  cases side with
  | call => rfl
  | endpoint =>
    have hplain : ∀ key, w.chars = '$' :: key → False := by
      intro key hchars
      simp [reference?, hchars] at h
    rw [pattern, Pattern.ofWord]
    · rfl
    · exact fun key _ => hplain key

theorem Word.accepts_pattern_iff {side : Side} {call : Call} {resolve : String → Option String}
    (h : side = .endpoint → resolve = call.lookup) (w : Word) (value : String) :
    (w.pattern side).accepts resolve value = true ↔ w.Fits side call value := by
  cases href : w.reference? side with
  | some key =>
    obtain ⟨hside, hpattern⟩ := pattern_of_reference href
    simp [Fits, href, hpattern, Pattern.accepts, Pattern.acceptsBy, h hside]
  | none =>
    rw [pattern_of_plain href]
    simp only [Fits, href]
    split
    · rename_i hstar
      simp [Pattern.accepts, Pattern.acceptsBy, hstar, stands_star]
    · split
      · exact Pattern.acceptsBy_wildcard_iff Glob.reader_lawful resolve value
      · rename_i hplain
        rw [stands_iff_eq hplain]
        simp [Pattern.accepts, Pattern.acceptsBy, text, String.ext_iff]

theorem Test.passes_ofValues_iff {side : Side} {call : Call} {resolve : String → Option String}
    (h : side = .endpoint → resolve = call.lookup) (c : Conjunction) (key : Word)
    (value : Option String) : (ofValues side (c.values key)).passes resolve value = true ↔
      c.Passes side call key value := by
  have hany : ∀ (value : String) (ws : List Word),
      ((ws.map (Word.pattern side)).any (·.accepts resolve value) = true ↔
        ∃ w ∈ ws, w.Fits side call value) := by
    intro value ws
    simp [Word.accepts_pattern_iff h]
  cases value with
  | none => simp [passes, ofValues, Conjunction.Passes]
  | some value =>
    simp only [passes, accepts, ofValues, Conjunction.Passes, hany, List.isEmpty_map]
    by_cases hrejected : ∃ w ∈ c.values key .rejected, w.Fits side call value
    · obtain ⟨w, hw, hfits⟩ := hrejected
      rw [if_pos ⟨w, hw, hfits⟩]
      exact iff_of_false Bool.false_ne_true fun hnone => hnone.1 w hw hfits
    · have hnone : ∀ w ∈ c.values key .rejected, ¬ w.Fits side call value :=
        fun w hw hfits => hrejected ⟨w, hw, hfits⟩
      rw [if_neg hrejected, and_iff_right hnone]
      by_cases haccepted : c.values key .accepted = []
      · simp [haccepted]
      · simp only [List.isEmpty_iff, if_neg haccepted, hany]

theorem Conjunction.holds_condition_iff {side : Side} {call : Call}
    {resolve : String → Option String} (h : side = .endpoint → resolve = call.lookup)
    (c : Conjunction) (lookup : String → Option String) :
    (c.condition side).holds lookup resolve = true ↔ c.Holds side call lookup := by
  simp only [Condition.holds, c.isEmpty_condition, Bool.not_false, Bool.true_and,
    List.all_eq_true]
  -- The entries of the condition are the keys of the groups, each with all its values.
  constructor
  · intro hall g hg
    have hmem := (c.ordered_condition side).mem_toList_iff.2 (c.get?_condition side hg)
    exact (Test.passes_ofValues_iff h c g.key _).1 (hall _ hmem)
  · rintro hholds ⟨key, t⟩ hmem
    have hget := (c.ordered_condition side).mem_toList_iff.1 hmem
    obtain ⟨g, hg, rfl⟩ := c.exists_of_get?_condition side hget
    cases hget.symm.trans (c.get?_condition side hg)
    exact (Test.passes_ofValues_iff h c g.key _).2 (hholds g hg)

end CallRouting.Clause
