import PatchSandbox.Proofs.Admission.Exact
import PatchSandbox.Proofs.Admission.Limits
import PatchSandbox.Proofs.Script.Words.Statement

/-!
# Findings as bullets

Findings are shown one below the other, each after a dash. Whoever takes the text apart at its line
feeds gets them back only if none of them has a line feed of its own, and one has it only where its
message quotes it. What a message quotes is a number, a name of `forbiddenCallees`, a word of the
source or the module that an import or an `export *` names. A word has no line feed, whatever the
source is (`Script.isTidy_of_read`). But a module is named by a string, and an escape in it can
stand for a line feed.

* **`Offence.isOneLine_message`** — a message is one line exactly if all that it quotes is.
* **`isOneLine_findings_iff`** — the messages about a program are, exactly if the modules that it
  names are.
* **`one_bullet_a_line`** — findings are shown as one bullet a line exactly if no module is named
  with a line feed.
* **`import_forges_bullet`** — a finding that is shown as two bullets.
-/

namespace PatchSandbox

open Text (IsOneLine isOneLine_append isOneLine_nat textLines)

/-! ### Bullets -/

/-- A finding as it stands in a list. -/
def Finding.bullet (f : Finding) : String := "- " ++ f.text

theorem Finding.render_eq (fs : List Finding) : render fs = "\n".intercalate (fs.map bullet) := rfl

theorem Finding.ne_empty_of_mem_bullets (fs : List Finding) : ∀ t ∈ fs.map bullet, t ≠ "" := by
  simp [bullet, String.append_eq_empty_iff]

theorem Location.isOneLine_text (l : Location) : IsOneLine l.text := by
  rw [text, isOneLine_append, isOneLine_append]
  exact ⟨⟨isOneLine_nat _, by decide⟩, isOneLine_nat _⟩

/-- What stands before a message has no line feed. -/
theorem Finding.isOneLine_bullet {f : Finding} : IsOneLine f.bullet ↔ IsOneLine f.message := by
  have dash : IsOneLine "- " := by decide
  have colon : IsOneLine ": " := by decide
  rw [bullet, isOneLine_append, and_iff_right dash, text]
  cases f.location with
  | none => rfl
  | some l =>
      dsimp only
      rw [isOneLine_append, isOneLine_append, and_iff_right ⟨l.isOneLine_text, colon⟩]

/-- Findings are shown as one bullet a line exactly if their messages are one line each. -/
theorem Finding.textLines_render_iff (fs : List Finding) :
    textLines (render fs) = fs.map bullet ↔ ∀ f ∈ fs, IsOneLine f.message := by
  rw [render_eq, Text.textLines_intercalate_iff (ne_empty_of_mem_bullets fs)]
  simp only [List.forall_mem_map, isOneLine_bullet]

/-- They already are if they are as many as the lines. -/
theorem Finding.length_textLines_render_iff (fs : List Finding) :
    (textLines (render fs)).length = fs.length ↔ ∀ f ∈ fs, IsOneLine f.message := by
  have count := Text.length_textLines_intercalate_iff (ne_empty_of_mem_bullets fs)
  rw [← render_eq, List.length_map] at count
  rw [count]
  simp only [List.forall_mem_map, isOneLine_bullet]

/-- Only of no findings nothing is shown. -/
theorem Finding.render_eq_empty_iff (fs : List Finding) : render fs = "" ↔ fs = [] := by
  constructor
  · intro h
    by_contra hne
    exact Text.intercalate_ne_empty (ne_empty_of_mem_bullets fs) (by simpa using hne) h
  · rintro rfl
    rfl

namespace Admission

open Nesting (excessNesting)
open Script (Node Form Program)

/-! ### Messages -/

/-- What the message of an offence quotes. -/
def Offence.quoted : Offence → List String
  | .importDeclaration source => [source]
  | .exportAll source => [source]
  | .metaProperty object property => [object, property]
  | .call name => [name]
  | .construction name => [name]
  | .taggedTemplate name => [name]
  | _ => []

/-- A message is one line exactly if all that it quotes is. -/
theorem Offence.isOneLine_message (o : Offence) :
    IsOneLine o.message ↔ ∀ s ∈ o.quoted, IsOneLine s := by
  unfold message
  cases o <;> simp only [quoted, strictDirective, isOneLine_append, List.forall_mem_cons]
  -- What is left are the fixed parts.
  all_goals simp [IsOneLine]

/-- A forbidden name is one line. -/
theorem isOneLine_of_forbidden {n : Node} {name : String} (h : forbidden? n = some name) :
    IsOneLine name := by
  have all : ∀ name ∈ forbiddenCallees, IsOneLine name := by decide
  obtain ⟨-, hc⟩ := Option.filter_eq_some_iff.mp h
  exact all name (List.contains_iff_mem.mp hc)

/-- The name of the module that a node gives access to, if its offence quotes one. -/
def moduleNamed? : Form Node → Option String
  | .importModule source => some source.toStringLossy
  | .exportAll source => some source.toStringLossy
  | _ => none

theorem isSome_offence?_of_moduleNamed {form : Form Node} {name : String}
    (h : moduleNamed? form = some name) : (offence? form).isSome = true := by
  cases form <;> cases h <;> rfl

/-- The message about a node whose words are one line each is one line exactly if the module is that
the node names. -/
theorem isOneLine_offence_iff {form : Form Node} {o : Offence}
    (words : ∀ s ∈ form.quoted, IsOneLine s) (h : offence? form = some o) :
    IsOneLine o.message ↔ ∀ name ∈ moduleNamed? form, IsOneLine name := by
  rw [o.isOneLine_message]
  cases form <;> simp only [offence?, Option.some.injEq, Option.map_eq_some_iff,
    reduceCtorEq] at h
  case call | new | tagged =>
    obtain ⟨name, hn, rfl⟩ := h
    simp [Offence.quoted, moduleNamed?, isOneLine_of_forbidden hn]
  case metaProperty =>
    subst h
    simpa [Offence.quoted, moduleNamed?] using words
  all_goals
    subst h
    simp [Offence.quoted, moduleNamed?]

/-! ### Sources -/

section

variable {limits : SourceLimits} {source : String} {p : Program}

/-- The messages about a program are one line each exactly if the modules that it names are. -/
theorem isOneLine_findings_iff {cs : List Char} (hp : Program.read .module cs = .ok p) :
    (∀ f ∈ findings cs p, IsOneLine f.message) ↔
      ∀ path n name, p.at? path = some n → moduleNamed? n.form = some name → IsOneLine name := by
  have words : ∀ n ∈ (p.directives ++ p.statements).flatMap Node.nodes,
      ∀ s ∈ n.form.quoted, IsOneLine s := by
    intro n hn
    obtain ⟨root, hr, hn⟩ := List.mem_flatMap.mp hn
    exact Script.isTidy_of_read hp root hr n hn
  have strict : ∀ r ∈ strictReport p, IsOneLine r.offence.message := by
    intro r hr
    rcases strictReport_cases p with ⟨-, first, -, he⟩ | ⟨-, he⟩
    · rw [he, List.mem_singleton] at hr
      subst hr
      exact (Offence.isOneLine_message _).mpr (List.forall_mem_nil _)
    · simp [he] at hr
  have made : (∀ f ∈ findings cs p, IsOneLine f.message) ↔
      ∀ r ∈ reports p, IsOneLine r.offence.message := by
    simp only [(findings_perm cs p).mem_iff, List.forall_mem_map]
    rfl
  rw [made, reports_eq, List.forall_mem_append, and_iff_right strict]
  constructor
  · intro h path n name hn hm
    have visited := Program.mem_nodes_iff.mpr ⟨path, hn⟩
    obtain ⟨o, ho⟩ := Option.isSome_iff_exists.mp (isSome_offence?_of_moduleNamed hm)
    have reported := h ⟨o, n.span.start⟩
      (List.mem_filterMap.mpr ⟨n, visited, by simp [report?, ho]⟩)
    exact (isOneLine_offence_iff (words n visited) ho).mp reported name hm
  · intro h r hr
    obtain ⟨n, visited, hn⟩ := List.mem_filterMap.mp hr
    obtain ⟨o, ho, rfl⟩ := Option.map_eq_some_iff.mp hn
    obtain ⟨path, hp⟩ := Program.mem_nodes_iff.mp visited
    exact (isOneLine_offence_iff (words n visited) ho).mpr fun name hm => h path n name hp hm

/-- No module of a source is named with a line feed, unless the source is turned away before what
it names is looked at. -/
def NamesInOneLine (limits : SourceLimits) (source : String) : Prop :=
  source.utf8ByteSize ≤ limits.maxBytes → excessNesting source.toList limits.maxNesting = none →
    ∀ p, Program.read .module source.toList = .ok p →
      ∀ path n name, p.at? path = some n → moduleNamed? n.form = some name → IsOneLine name

/-- The messages about a source are one line each exactly if its modules are named in one line. -/
theorem isOneLine_check_iff
    (parser : ∀ flaw, Program.read .module source.toList = .error flaw →
      IsOneLine flaw.cause.admissionText) :
    (∀ f ∈ check limits source, IsOneLine f.message) ↔ NamesInOneLine limits source := by
  -- Wherever the source is turned away at once, the one message quotes numbers or the parser.
  by_cases hb : source.utf8ByteSize ≤ limits.maxBytes
  · cases hn : excessNesting source.toList limits.maxNesting with
    | some offset =>
        refine iff_of_true (fun f hf => ?_) fun _ hn' => by simp [hn] at hn'
        simp only [check, if_neg (Nat.not_lt.mpr hb), hn, List.mem_singleton] at hf
        subst hf
        exact isOneLine_append.mpr ⟨by decide, isOneLine_nat _⟩
    | none =>
        rw [check_eq_contents hb hn, contents]
        cases hp : Program.read .module source.toList with
        | error flaw =>
            refine iff_of_true (fun f hf => ?_) fun _ _ p hp' => by simp [hp] at hp'
            obtain rfl := List.mem_singleton.mp hf
            exact isOneLine_append.mpr ⟨by decide, parser flaw hp⟩
        | ok p =>
            rw [isOneLine_findings_iff hp]
            constructor
            · intro h _ _ q hq
              cases hp.symm.trans hq
              exact h
            · exact fun h => h hb hn p hp
  · refine iff_of_true (fun f hf => ?_) fun hb' => absurd hb' hb
    simp only [check, if_pos (Nat.not_le.mp hb), List.mem_singleton] at hf
    subst hf
    simp only [isOneLine_append]
    exact ⟨⟨⟨⟨by decide, isOneLine_nat _⟩, by decide⟩, isOneLine_nat _⟩, by decide⟩

end

/-- **Findings are shown as one bullet a line exactly if no module is named with a line feed.** Then
the lines are the findings in their order; else there are more lines than findings. The parser's own
wordings are taken to be one line each. -/
theorem one_bullet_a_line (limits : SourceLimits) {source : String}
    (parser : ∀ flaw, Script.Program.read .module source.toList = .error flaw →
      IsOneLine flaw.cause.admissionText) :
    (textLines (Finding.render (check limits source)) = (check limits source).map Finding.bullet ↔
        NamesInOneLine limits source) ∧
      ((textLines (Finding.render (check limits source))).length = (check limits source).length ↔
        NamesInOneLine limits source) ∧
      (Finding.render (check limits source) = "" ↔ check limits source = []) := by
  rw [Finding.textLines_render_iff, Finding.length_textLines_render_iff,
    Finding.render_eq_empty_iff, isOneLine_check_iff parser]
  exact ⟨Iff.rfl, Iff.rfl, Iff.rfl⟩

/-- An import and an `export *`, which name modules without a line feed. -/
theorem modules_one_bullet_each :
    let source := "\"use strict\"; import \"a\"; export * from \"./b\";"
    let found := check ⟨64, 1⟩ source
    (∀ flaw, Program.read .module source.toList = .error flaw →
        IsOneLine flaw.cause.admissionText) ∧
      NamesInOneLine ⟨64, 1⟩ source ∧ found.length = 2 ∧
      textLines (Finding.render found) = found.map Finding.bullet := by
  intro source found
  have reads : (Program.read .module source.toList).toOption.map
      (fun p => (((p.directives ++ p.statements).flatMap Node.nodes).filterMap
        fun n => moduleNamed? n.form, (reports p).length)) = some (["a", "./b"], 2) := by
    decide +kernel
  cases hp : Program.read .module source.toList with
  | error flaw => simp [hp, Except.toOption] at reads
  | ok p =>
      rw [hp] at reads
      obtain ⟨named, count⟩ := Prod.mk.inj (Option.some.inj reads)
      have parser : ∀ flaw, Program.read .module source.toList = .error flaw →
          IsOneLine flaw.cause.admissionText := by simp [hp]
      have one : NamesInOneLine ⟨64, 1⟩ source := by
        intro _ _ q hq path n name hn hm
        cases hp.symm.trans hq
        have mem : name ∈ ["a", "./b"] :=
          named ▸ List.mem_filterMap.mpr ⟨n, Program.mem_nodes_iff.mpr ⟨path, hn⟩, hm⟩
        have all : ∀ name ∈ ["a", "./b"], IsOneLine name := by decide
        exact all name mem
      have two : found.length = 2 := by
        rw [← count, ← List.length_map (Report.finding source.toList),
          ← (findings_perm source.toList p).length_eq]
        have judged : found = contents source.toList :=
          check_eq_contents (by decide +kernel) (by decide +kernel)
        rw [judged, contents, hp]
      exact ⟨by simp, one, two, (one_bullet_a_line ⟨64, 1⟩ parser).1.mpr one⟩

/-- An import whose one finding is shown as two bullets; nothing was found for the second. -/
theorem import_forges_bullet :
    let source := "\"use strict\"; import \"a\\n- 9:9: b\";"
    (Program.read .module source.toList).isOk = true ∧ (check ⟨65536, 512⟩ source).length = 1 ∧
      textLines (Finding.render (check ⟨65536, 512⟩ source)) =
        ["- 1:15: import declaration ('a", "- 9:9: b') is not allowed"] := by
  decide +kernel

end Admission

end PatchSandbox
