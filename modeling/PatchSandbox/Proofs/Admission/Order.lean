import PatchSandbox.Proofs.Admission.Exact
import PatchSandbox.Proofs.Text.Location

/-!
# Findings come in the order of the text

The walk reports a node before its parts, which is not always the order of the text: a decorator
stands before the export that it is a part of. Findings are sorted by their locations, and at
boundaries that is to sort the reports by their offsets (**`findings_eq_map_mergeSort`**), since
locations are in the order of the offsets.

* **`InSourceOrder`** — the reports of a program, sorted by their offsets, where those of one offset
  stay in the order in which they were made.
* **`contents_in_source_order`** — the findings of a source that reads as a module are these
  reports, one by one.
-/

namespace PatchSandbox.Admission

open Script (Node Program nodes_sublist_trees)
open Location (IsBoundary Precedes)

/-! ### Locations for offsets -/

/-- Whether one report is about no later a place than another. -/
def startsNoLater (r s : Report) : Bool := r.offset ≤ s.offset

theorem startsNoLater_trans (r s t : Report) (h : startsNoLater r s = true)
    (h' : startsNoLater s t = true) : startsNoLater r t = true := by
  simp only [startsNoLater, decide_eq_true_eq] at *
  omega

theorem startsNoLater_total (r s : Report) : (startsNoLater r s || startsNoLater s r) = true := by
  simp only [startsNoLater, Bool.or_eq_true, decide_eq_true_eq]
  omega

section

variable {source : List Char} {p : Program}

theorem noLater_iff {f g : Finding} {l m : Location} (hf : f.location = some l)
    (hg : g.location = some m) : noLater f g = true ↔ ¬Precedes m l := by
  simp only [noLater, hf, hg, Precedes, Bool.or_eq_true, Bool.and_eq_true, decide_eq_true_eq,
    beq_iff_eq]
  omega

/-- Findings are in the order of the reports that they are made of. -/
theorem noLater_finding (small : byteLength source < Location.greatest) {r s : Report}
    (hr : IsBoundary source r.offset) (hs : IsBoundary source s.offset) :
    startsNoLater r s = noLater (r.finding source) (s.finding source) := by
  rw [Bool.eq_iff_iff, noLater_iff rfl rfl, ← Location.lt_iff_precedes small hs hr, startsNoLater,
    decide_eq_true_eq, Nat.not_lt]

/-- To sort findings is to sort the reports. -/
theorem findings_eq_map_mergeSort (small : byteLength source < Location.greatest)
    (hb : ∀ r ∈ reports p, IsBoundary source r.offset) :
    findings source p = ((reports p).mergeSort startsNoLater).map (Report.finding source) := by
  refine (List.map_mergeSort ?_).symm
  intro r hr s hs
  exact noLater_finding small (hb r hr) (hb s hs)

/-! ### The order of reports -/

/-- The reports about nodes are made in the order in which the tree is gone over. -/
theorem sublist_reports {ns : List Node}
    (h : ns.Sublist ((p.directives ++ p.statements).flatMap Node.nodes)) :
    (strictReport p ++ ns.filterMap report?).Sublist (reports p) := by
  rw [reports_eq]
  exact (h.filterMap report?).append_left _

/-- A node is reported before what is below it. -/
theorem pair_sublist_reports {path more : List Nat} {n m : Node} {r s : Report} (hm : more ≠ [])
    (hp : p.at? path = some n) (hq : p.at? (path ++ more) = some m) (hr : report? n = some r)
    (hs : report? m = some s) : [r, s].Sublist (reports p) := by
  rw [Program.at?_append hp] at hq
  have pair : [n, m].Sublist n.nodes :=
    ((List.singleton_sublist.mpr m.mem_nodes).cons_cons n).trans (Node.cons_nodes_sublist hm hq)
  have := sublist_reports (pair.trans (nodes_sublist_trees hp))
  simp only [List.filterMap_cons, hr, hs, List.filterMap_nil] at this
  exact (List.sublist_append_right _ _).trans this

/-- The directive is reported before any node. -/
theorem strict_sublist_reports {path : List Nat} {n : Node} {r s : Report}
    (hr : r ∈ strictReport p) (hp : p.at? path = some n) (hs : report? n = some s) :
    [r, s].Sublist (reports p) := by
  have one := sublist_reports
    ((List.singleton_sublist.mpr n.mem_nodes).trans (nodes_sublist_trees hp))
  simp only [List.filterMap_cons, hs, List.filterMap_nil] at one
  exact ((List.singleton_sublist.mpr hr).append_right [s]).trans one

/-- The reports of a program in the order of the text. At one offset they are in the order in which
they were made: the one about the directive first, and one about a node before those about what is
below it. -/
structure InSourceOrder (p : Program) (sorted : List Report) : Prop where
  same : sorted.Perm (reports p)
  ascending : sorted.Pairwise fun r s => r.offset ≤ s.offset
  stable : ∀ offset, sorted.filter (·.offset = offset) = (reports p).filter (·.offset = offset)
  directive_first : ∀ r ∈ strictReport p, ∀ path n s, p.at? path = some n →
    report? n = some s → r.offset = s.offset → [r, s].Sublist sorted
  enclosing_first : ∀ path more n m r s, more ≠ [] → p.at? path = some n →
    p.at? (path ++ more) = some m → report? n = some r → report? m = some s →
    r.offset = s.offset → [r, s].Sublist sorted

/-- Sorting does not change the order of two reports of one offset. -/
theorem pair_sublist_mergeSort {r s : Report} {rs : List Report} (h : [r, s].Sublist rs)
    (ho : r.offset = s.offset) : [r, s].Sublist (rs.mergeSort startsNoLater) :=
  List.pair_sublist_mergeSort startsNoLater_trans startsNoLater_total
    (by simp [startsNoLater, ho]) h

/-- What has one offset stays as it is. -/
theorem filter_mergeSort (rs : List Report) (offset : Nat) :
    (rs.mergeSort startsNoLater).filter (·.offset = offset) =
      rs.filter (·.offset = offset) := by
  have alike : (rs.filter (·.offset = offset)).Pairwise fun r s => startsNoLater r s = true := by
    refine List.pairwise_of_forall_mem_list fun r hr s hs => ?_
    have hr := (List.mem_filter.mp hr).2
    have hs := (List.mem_filter.mp hs).2
    simp only [decide_eq_true_eq] at hr hs
    simp [startsNoLater, hr, hs]
  have kept := (List.sublist_mergeSort startsNoLater_trans startsNoLater_total alike
    List.filter_sublist).filter (·.offset = offset)
  rw [List.filter_filter] at kept
  simp only [Bool.and_self] at kept
  exact (kept.eq_of_length
    ((List.mergeSort_perm rs startsNoLater).filter _).length_eq.symm).symm

theorem inSourceOrder_mergeSort (p : Program) :
    InSourceOrder p ((reports p).mergeSort startsNoLater) where
  same := List.mergeSort_perm _ _
  ascending := (List.pairwise_mergeSort startsNoLater_trans startsNoLater_total _).imp
    fun h => by simpa [startsNoLater] using h
  stable := filter_mergeSort _
  directive_first _ hr _ _ _ hp hs ho :=
    pair_sublist_mergeSort (strict_sublist_reports hr hp hs) ho
  enclosing_first _ _ _ _ _ _ hm hp hq hr hs ho :=
    pair_sublist_mergeSort (pair_sublist_reports hm hp hq hr hs) ho

end

/-- **Findings come in the order of the text.** Where a source reads as a module and the nodes that
are reported start at characters, its findings are the reports in the order of the source. -/
theorem contents_in_source_order {source : List Char} {p : Program}
    (small : byteLength source < Location.greatest) (hp : Program.read .module source = .ok p)
    (hb : ∀ r ∈ reports p, IsBoundary source r.offset) :
    ∃ sorted, InSourceOrder p sorted ∧ contents source = sorted.map (Report.finding source) := by
  refine ⟨_, inSourceOrder_mergeSort p, ?_⟩
  rw [contents, hp]
  exact findings_eq_map_mergeSort small hb

/-- A call in a decorator is reported after the export that it is a part of, and found before it;
the directive stays before the export. -/
theorem decorator_found_before_export :
    let source := "/*é*/ @eval() export class A \x7b\x7d".toList
    byteLength source < Location.greatest ∧ ∃ p, Program.read .module source = .ok p ∧
      (reports p).map (fun r => (r.offence.kind, r.offset)) =
        [(.missingStrictMode, 15), (.moduleSyntax, 15), (.forbiddenCallee, 8)] ∧
      (∀ r ∈ reports p, IsBoundary source r.offset) ∧
      ∃ sorted, InSourceOrder p sorted ∧ contents source = sorted.map (Report.finding source) ∧
        sorted.map (·.offset) = [8, 15, 15] := by
  intro source
  have small : byteLength source < Location.greatest := by decide
  have reads : (Program.read .module source).toOption.map
      (fun p => (reports p).map fun r => (r.offence.kind, r.offset)) =
        some [(.missingStrictMode, 15), (.moduleSyntax, 15), (.forbiddenCallee, 8)] := by
    decide +kernel
  cases hp : Program.read .module source with
  | error flaw => simp [hp, Except.toOption] at reads
  | ok p =>
      rw [hp] at reads
      have made := Option.some.inj reads
      have offsets : (reports p).map (·.offset) = [15, 15, 8] := by
        have := congrArg (List.map Prod.snd) made
        rwa [List.map_map] at this
      have hb : ∀ r ∈ reports p, IsBoundary source r.offset := by
        intro r hr
        have boundary : ∀ offset ∈ [15, 15, 8], IsBoundary source offset := by decide
        exact boundary r.offset (offsets ▸ List.mem_map_of_mem hr)
      obtain ⟨sorted, ordered, found⟩ := contents_in_source_order small hp hb
      refine ⟨small, p, rfl, made, hb, sorted, ordered, found, ?_⟩
      have perm : (sorted.map (·.offset)).Perm [8, 15, 15] := by
        refine (ordered.same.map (·.offset)).trans ?_
        rw [offsets]
        decide
      exact perm.eq_of_pairwise (fun _ _ _ _ => Nat.le_antisymm)
        (List.pairwise_map.mpr ordered.ascending) (by decide)

end PatchSandbox.Admission
