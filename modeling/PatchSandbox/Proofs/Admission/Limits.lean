import PatchSandbox.Admission
import PatchSandbox.Proofs.Nesting.Course

/-!
# Admission under limits

A source meets its limits before it is read, and they decide nothing after that.

* **`check_of_limits_le`** — a source that is not turned away for its size or its nesting is judged
  alike under all larger limits.
* **`rejection_backed`** — a source that is turned away for its nesting has the brackets for it.
-/

namespace PatchSandbox.Admission

open Nesting (excessNesting openers openings Counter)

section

variable {limits limits' : SourceLimits} {source : String} {f : Finding}

/-- What is found in the contents is never about the size or the nesting. -/
theorem kind_ne_of_mem_contents {cs : List Char} (h : f ∈ contents cs) :
    f.kind ≠ .sourceTooLarge ∧ f.kind ≠ .nestingTooDeep := by
  unfold contents at h
  split at h
  · obtain rfl := List.mem_singleton.mp h
    exact ⟨FindingKind.noConfusion, FindingKind.noConfusion⟩
  · obtain ⟨r, -, rfl⟩ := List.mem_map.mp (List.mem_mergeSort.mp h)
    cases ho : r.offence <;> simp [Report.finding, Offence.kind, ho]

/-- A source within the limits is judged by its contents. -/
theorem check_eq_contents (hb : source.utf8ByteSize ≤ limits.maxBytes)
    (hn : excessNesting source.toList limits.maxNesting = none) :
    check limits source = contents source.toList := by
  simp only [check, hn]
  rw [if_neg (by omega)]

/-- A source that is not turned away for its size or its nesting is within the limits. -/
theorem within_of_check
    (h : ∀ f ∈ check limits source, f.kind ≠ .sourceTooLarge ∧ f.kind ≠ .nestingTooDeep) :
    source.utf8ByteSize ≤ limits.maxBytes ∧
      excessNesting source.toList limits.maxNesting = none := by
  unfold check at h
  dsimp only at h
  split at h
  · exact absurd rfl (h _ (List.mem_singleton_self _)).1
  · split at h
    · exact absurd rfl (h _ (List.mem_singleton_self _)).2
    · exact ⟨by omega, by assumption⟩

/-- Only the scan of the brackets turns a source away for its nesting. -/
theorem kind_ne_nestingTooDeep (hn : excessNesting source.toList limits.maxNesting = none)
    (h : f ∈ check limits source) : f.kind ≠ .nestingTooDeep := by
  unfold check at h
  dsimp only at h
  split at h
  · obtain rfl := List.mem_singleton.mp h
    exact FindingKind.noConfusion
  · rw [hn] at h
    exact (kind_ne_of_mem_contents h).2

end

/-- **A source that is not turned away for its size or its nesting is judged alike under all larger
limits.** So no bracket is too many under a limit if none is under a smaller one. -/
theorem check_of_limits_le (source : String) :
    (∀ limits limits' : SourceLimits, limits.maxBytes ≤ limits'.maxBytes →
      limits.maxNesting ≤ limits'.maxNesting →
      (∀ f ∈ check limits source, f.kind ≠ .sourceTooLarge ∧ f.kind ≠ .nestingTooDeep) →
      check limits' source = check limits source) ∧
    ∀ limit limit', limit ≤ limit' → excessNesting source.toList limit = none →
      excessNesting source.toList limit' = none := by
  refine ⟨fun limits limits' hb hn h => ?_, fun _ _ => Nesting.excessNesting_of_le⟩
  obtain ⟨hs, he⟩ := within_of_check h
  rw [check_eq_contents hs he,
    check_eq_contents (Nat.le_trans hs hb) (Nesting.excessNesting_of_le hn he)]

/-- A string that is cut off by a line feed, so that every bracket counts. -/
theorem cut_off_judged_alike :
    (∀ f ∈ check ⟨8, 1⟩ "'\n[", f.kind ≠ .sourceTooLarge ∧ f.kind ≠ .nestingTooDeep) ∧
      check ⟨8, 1⟩ "'\n[" ≠ [] ∧ check ⟨9, 2⟩ "'\n[" = check ⟨8, 1⟩ "'\n[" := by
  have h : ∀ f ∈ check ⟨8, 1⟩ "'\n[", f.kind ≠ .sourceTooLarge ∧ f.kind ≠ .nestingTooDeep := by
    decide +kernel
  exact ⟨h, by decide +kernel, (check_of_limits_le _).1 _ _ (by decide) (by decide) h⟩

/-- **A source that is turned away for its nesting has the brackets for it.** The offset is that of
a character of the source at which a bracket opens, and the text up to that bracket opens more than
the limit. So a source with no more of them is not turned away for its nesting. The counter of the
scan is never more than one beyond the limit, nor more than the bytes of the source, so a machine
word that can count these can count for the scan. -/
theorem rejection_backed (limit : Nat) (source : String) :
    (∀ offset, excessNesting source.toList limit = some offset →
      offset < source.utf8ByteSize ∧ (⟨offset⟩ : String.Pos.Raw).IsValid source ∧
      ∃ before bracket after, bracket ∈ openings ∧ source.toList = before ++ bracket ++ after ∧
        offset = byteLength before ∧ limit < openers (before ++ bracket)) ∧
    (openers source.toList ≤ limit → excessNesting source.toList limit = none ∧
      ∀ maxBytes, ∀ f ∈ check ⟨maxBytes, limit⟩ source, f.kind ≠ .nestingTooDeep) ∧
    ∀ n, Counter limit source.toList n → n ≤ limit + 1 ∧ n ≤ source.utf8ByteSize := by
  have size : source.utf8ByteSize = byteLength source.toList := by
    rw [← utf8ByteSize_ofList, String.ofList_toList]
  refine ⟨fun offset h => ?_, fun h => ?_, fun n h => ?_⟩
  · obtain ⟨before, bracket, after, hb, ht, ho, hl⟩ := Nesting.excess_backed h
    have pos : 0 < byteLength bracket := by
      have := Nesting.openers_le_byteLength bracket
      rw [Nesting.openers_of_mem_openings hb] at this
      exact this
    refine ⟨?_, ?_, before, bracket, after, hb, ht, ho, hl⟩
    · rw [size, ht, byteLength_append, byteLength_append]
      omega
    · refine String.Pos.Raw.isValid_iff_exists_append.mpr
        ⟨String.ofList before, String.ofList (bracket ++ after), ?_, ?_⟩
      · rw [← String.ofList_append, ← List.append_assoc, ← ht, String.ofList_toList]
      · rw [String.rawEndPos, utf8ByteSize_ofList, ho]
  · have hn := Nesting.excessNesting_of_openers_le h
    exact ⟨hn, fun _ _ => kind_ne_nestingTooDeep hn⟩
  · obtain ⟨hl, hc⟩ := h.bounded
    exact ⟨hl, size ▸ Nat.le_trans hc (Nesting.openers_le_byteLength _)⟩

theorem recount_rejection_backed :
    excessNesting "'é\n[[".toList 1 = some 5 ∧ 5 < "'é\n[[".utf8ByteSize ∧
      (⟨5⟩ : String.Pos.Raw).IsValid "'é\n[[" := by
  have h : excessNesting "'é\n[[".toList 1 = some 5 := by decide +kernel
  obtain ⟨hs, hv, -⟩ := (rejection_backed 1 "'é\n[[").1 5 h
  exact ⟨h, hs, hv⟩

end PatchSandbox.Admission
