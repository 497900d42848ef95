import CallRouting.Proofs.Markers

/-!
# Words with stars

In a value `*` stands for any text, and nothing else means anything. This is so for every lawful
engine, of which the program has one, and it goes through from the text of a clause to the hosts
that the clause accepts.

* `compile_starHost` : what a clause with such a host says;
* `star_only_wildcard` : what words with stars are patterns for.
-/

namespace CallRouting.Clause

open Glob (Engine collapse)

/-- The clause `=> host = w` is for the hosts that `w` stands for. -/
theorem compile_starHost {w : List Char} (hw : Solid w) (hplain : w.head? ≠ some '$')
    (hmarkers : ∀ m ∈ markers, ¬ m <:+: w) (force : Bool) :
    ∃ c, compile (String.ofList ("=> host = ".toList ++ w)) force = .ok c ∧
      ∀ call e, c.accepts call e = true ↔ Wildcard.Stands w e.host.toList := by
  refine ⟨_, compile_plainHost hw hmarkers force, fun call e => ?_⟩
  rw [accepts_hostIs_iff rfl, Word.Fits, Word.reference?_eq_none hplain]

/-- **A star stands for any text, and every other character for itself.** Let a word have a star,
and let it be no reference. Whatever lawful engine matches its glob, the glob can be built, and the
pattern accepts exactly the values that result from the word by replacing each star by some text;
so words that differ only in the lengths of their runs of stars accept the same. The engine of the
program is lawful, so it does as any other would, and a clause that gives the word as a host is read
and accepts such hosts. -/
theorem star_only_wildcard {word : List Char} (hstar : '*' ∈ word)
    (hplain : word.head? ≠ some '$') :
    (∀ E : Engine, E.Lawful →
      (∃ test, E.build? (Glob.ofWord word) = some test) ∧
      (∀ side resolve value, (Pattern.ofWord side word).acceptsBy E resolve value = true ↔
        Wildcard.Stands word value.toList) ∧
      ∀ word', collapse word' = collapse word → ∀ side resolve value,
        (Pattern.ofWord side word').acceptsBy E resolve value =
          (Pattern.ofWord side word).acceptsBy E resolve value) ∧
    (∀ side resolve value, (Pattern.ofWord side word).accepts resolve value = true ↔
      Wildcard.Stands word value.toList) ∧
    (Solid word → (∀ m ∈ markers, ¬ m <:+: word) → ∀ force,
      ∃ c, compile (String.ofList ("=> host = ".toList ++ word)) force = .ok c ∧
        ∀ call e, c.accepts call e = true ↔ Wildcard.Stands word e.host.toList) := by
  refine ⟨fun E hE => ⟨?_, ?_, ?_⟩, ?_, ?_⟩
  · obtain ⟨test, htest, -⟩ := hE.reads_ofWord word
    exact ⟨test, htest⟩
  · exact fun side => Pattern.acceptsBy_ofWord_iff hE hstar hplain
  · intro word' hsame side resolve value
    have hstar' : '*' ∈ word' := by
      rwa [← Glob.star_mem_collapse_iff, hsame, Glob.star_mem_collapse_iff]
    have hplain' : word'.head? ≠ some '$' := by
      rwa [← Glob.head?_collapse, hsame, Glob.head?_collapse]
    rw [Bool.eq_iff_iff, Pattern.acceptsBy_ofWord_iff hE hstar hplain,
      Pattern.acceptsBy_ofWord_iff hE hstar' hplain', ← Glob.stands_collapse_iff, hsame,
      Glob.stands_collapse_iff]
  · exact fun side => Pattern.acceptsBy_ofWord_iff Glob.reader_lawful hstar hplain
  · exact fun hsolid hmarkers force => compile_starHost hsolid hplain hmarkers force

/-- Characters that mean something in a glob, next to a run of stars. -/
theorem star_only_wildcard_brackets :
    let word := "v[1]**\\?*".toList
    '*' ∈ word ∧ word.head? ≠ some '$' ∧
      Glob.ofWord word = "v\\[1\\]*\\\\\\?*".toList ∧
      Wildcard.Stands word "v[1]/any\\?".toList ∧
      ((Pattern.ofWord .endpoint word).acceptsBy Glob.reader (fun _ => none) "v[1]/any\\?" = true ∧
        (Pattern.ofWord .endpoint word).acceptsBy Glob.reader (fun _ => none) "v1/any\\?" = false) ∧
      (Pattern.ofWord .endpoint "v[1]*\\?***".toList).accepts (fun _ => none) "v[1]/any\\?" = true ∧
      ∃ c, compile "=> host = v[1]**\\?*" true = .ok c ∧
        ∀ call e, c.accepts call e = true ↔ Wildcard.Stands word e.host.toList := by
  intro word
  have hstar : '*' ∈ word := by decide +kernel
  have hplain : word.head? ≠ some '$' := by decide +kernel
  obtain ⟨hengine, haccepts, hclause⟩ := star_only_wildcard hstar hplain
  obtain ⟨-, hby, hsame⟩ := hengine Glob.reader Glob.reader_lawful
  have hstands : Wildcard.Stands word "v[1]/any\\?".toList := by
    rw [← Wildcard.accepts_iff]
    decide +kernel
  refine ⟨hstar, hplain, by decide +kernel, hstands, ⟨?_, ?_⟩, ?_, ?_⟩
  · exact (hby .endpoint _ _).2 hstands
  · rw [← Bool.not_eq_true, hby, ← Wildcard.accepts_iff]
    decide +kernel
  · refine (hsame "v[1]*\\?***".toList (by decide +kernel) .endpoint _ _).trans ?_
    exact (haccepts .endpoint _ _).2 hstands
  · have htext : String.ofList ("=> host = ".toList ++ word) = "=> host = v[1]**\\?*" := by
      decide +kernel
    have hread := hclause (by decide +kernel) (by decide +kernel) true
    rwa [htext] at hread

end CallRouting.Clause
