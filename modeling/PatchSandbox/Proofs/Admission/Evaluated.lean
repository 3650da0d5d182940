import PatchSandbox.Machine.Source
import PatchSandbox.Proofs.Admission.Exact
import PatchSandbox.Proofs.Script.Goals.Statement

/-!
# What was admitted and what is evaluated

A source is read twice: as a module when it is admitted, and as a script when it is evaluated.

* **`evaluated_as_admitted`** — where its tokens are the same to both, what is evaluated is the
  program that was admitted.
* **`comment_hides_debugger`** — where they are not, it may be another one, with something in it
  that is never admitted.
-/

namespace PatchSandbox.Admission

open Script (Program Neutral)

/-- A source that is admitted is read as a module in which nothing is wrong. -/
theorem read_of_check_eq_nil {limits : SourceLimits} {source : String}
    (h : check limits source = []) : ∃ p, Program.read .module source.toList = .ok p ∧
      ¬LacksDirective p ∧ ∀ path n kind, p.at? path = some n → ¬Flagged kind n.form := by
  unfold check at h
  dsimp only at h
  split at h
  · cases h
  · split at h
    · cases h
    · unfold contents at h
      split at h
      · cases h
      · rename_i p hp
        exact ⟨p, hp, (findings_eq_nil_iff _ p).mp h⟩

/-- A text that has code was read as a script. -/
theorem read_of_codeOf {text : String} {base : Nat} {codes : Array Machine.FunctionCode}
    (h : Machine.codeOf text base = .ok codes) :
    ∃ p, Program.read .script text.toList = .ok p ∧
      Machine.compileScript text base p = .ok codes := by
  unfold Machine.codeOf at h
  split at h
  · cases h
  · split at h
    · cases h
    · rename_i p hp
      split at h
      · rename_i hc
        cases h
        exact ⟨p, hp, hc⟩
      · cases h

/-- **What is evaluated is what was admitted**, in a source whose tokens are the same to modules
and to scripts. The code is made of the program that was admitted, which does not lack the strict
directive and in which nothing is wrong at any place. -/
theorem evaluated_as_admitted {limits : SourceLimits} {source : String} {base : Nat}
    {codes : Array Machine.FunctionCode} (hn : Neutral source.toList)
    (ha : check limits source = []) (hc : Machine.codeOf source base = .ok codes) :
    ∃ p, Program.read .script source.toList = .ok p ∧
      Program.read .module source.toList = .ok p ∧
      Machine.compileScript source base p = .ok codes ∧
      ¬LacksDirective p ∧ ∀ path n kind, p.at? path = some n → ¬Flagged kind n.form := by
  obtain ⟨p, hs, hp⟩ := read_of_codeOf hc
  have hm := Script.read_module_of_script hs
  obtain ⟨q, hq, clean⟩ := read_of_check_eq_nil ha
  cases hm.symm.trans hq
  exact ⟨p, hs, hm, hp, clean⟩

/-- A comparison with a count, which would be a comment if it were spelled without the blank. -/
theorem count_evaluated_as_admitted :
    let source := "\"use strict\"; let n = 2; n <! --n"
    check {} source = [] ∧ ∃ codes p, Machine.codeOf source 0 = .ok codes ∧
      Program.read .script source.toList = .ok p ∧ Program.read .module source.toList = .ok p := by
  intro source
  have hc : (Machine.codeOf source 0).toOption.isSome = true := by decide +kernel
  have ha : check {} source = [] := by decide +kernel
  cases hcodes : Machine.codeOf source 0 with
  | error e => simp [hcodes, Except.toOption] at hc
  | ok codes =>
      have hn : Neutral source.toList := Script.neutral_of_isNeutral (by decide +kernel)
      obtain ⟨p, hs, hm, -⟩ := evaluated_as_admitted hn ha hcodes
      exact ⟨ha, codes, p, rfl, hs, hm⟩

/-- **A comment of scripts hides what is evaluated.** Both sources are admitted: as modules they
have a comparison with a count, and then a comment that goes on over the rest. As a script the
first has its comment before that, and a `debugger` after it; and the second, in the function that
it is put in, ends that function and begins another one. -/
theorem comment_hides_debugger :
    let source := "\"use strict\"; let b = 1; 1 <!--b; /*\ndebugger; 2 /**/"
    let body := "\"use strict\"; let b = 1; 1 <!--b; /*\n\x7d); b = 2; (function () \x7b /**/"
    (check {} source = [] ∧ ∃ p path n, Program.read .script source.toList = .ok p ∧
        p.at? path = some n ∧ n.form = .debugger) ∧
      check {} body = [] ∧ ∃ p, Program.read .script (Loader.wrap body).toList = .ok p ∧
        p.statements.length = 3 := by
  intro source body
  have offends : ((Program.read .script source.toList).toOption.bind (·.at? [3])).any
      (fun n => match n.form with | .debugger => true | _ => false) = true := by decide +kernel
  have leaves : (Program.read .script (Loader.wrap body).toList).toOption.map
      (·.statements.length) = some 3 := by decide +kernel
  refine ⟨⟨by decide +kernel, ?_⟩, by decide +kernel, ?_⟩
  · cases hp : Program.read .script source.toList with
    | error flaw => simp [hp, Except.toOption] at offends
    | ok p =>
        simp only [hp, Except.toOption, Option.bind_some] at offends
        cases hn : p.at? [3] with
        | none => simp [hn] at offends
        | some n =>
            simp only [hn, Option.any_some] at offends
            refine ⟨p, [3], n, rfl, hn, ?_⟩
            split at offends
            · assumption
            · cases offends
  · cases hp : Program.read .script (Loader.wrap body).toList with
    | error flaw => simp [hp, Except.toOption] at leaves
    | ok p => exact ⟨p, rfl, by simpa [hp, Except.toOption] using leaves⟩

end PatchSandbox.Admission
