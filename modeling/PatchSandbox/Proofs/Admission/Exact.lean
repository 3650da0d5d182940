import PatchSandbox.Admission
import PatchSandbox.Proofs.Script.Places

/-!
# What admission finds

The walk over a program does not look below imports, `export *`, `debugger` and meta
properties, and everywhere else it reports and goes on. Nothing is lost by it: below those
nodes there is nothing (**`walk_toList`**), so that each place of a program with something
wrong is reported once, wherever it stands.

* **`Flagged`** says which nodes are wrong, and in which way.
* **`Exact`** compares findings with the places of a program, kind by kind.
* **`contents_exact`** says that the findings of a source are exact.
-/

namespace PatchSandbox.Admission

open Script (Node Form Program)

/-- What is wrong with nodes, by the kind of finding. -/
inductive Flagged : FindingKind → Form Node → Prop
  | importDeclaration {source} : Flagged .moduleSyntax (.importModule source)
  | exportNamed {declaration} : Flagged .moduleSyntax (.exportNamed declaration)
  | exportDefault {value} : Flagged .moduleSyntax (.exportDefault value)
  | exportAll {source} : Flagged .moduleSyntax (.exportAll source)
  | importCall {args} : Flagged .moduleSyntax (.importCall args)
  | withStatement {object body} : Flagged .withStatement (.withObject object body)
  | debugger : Flagged .debugger .debugger
  | metaProperty {object property} : Flagged .metaProperty (.metaProperty object property)
  | call {isOptional callee args} (h : (forbidden? callee).isSome = true) :
      Flagged .forbiddenCallee (.call isOptional callee args)
  | construction {callee args} (h : (forbidden? callee).isSome = true) :
      Flagged .forbiddenCallee (.new callee args)
  | taggedTemplate {tag template} (h : (forbidden? tag).isSome = true) :
      Flagged .forbiddenCallee (.tagged tag template)

/-- A node is flagged by the kind of its offence. -/
theorem flagged_iff {kind : FindingKind} {form : Form Node} :
    Flagged kind form ↔ ∃ o, offence? form = some o ∧ o.kind = kind := by
  constructor
  · intro h
    cases h with
    | call h =>
        obtain ⟨name, hn⟩ := Option.isSome_iff_exists.mp h
        exact ⟨.call name, by simp [offence?, hn], rfl⟩
    | construction h =>
        obtain ⟨name, hn⟩ := Option.isSome_iff_exists.mp h
        exact ⟨.construction name, by simp [offence?, hn], rfl⟩
    | taggedTemplate h =>
        obtain ⟨name, hn⟩ := Option.isSome_iff_exists.mp h
        exact ⟨.taggedTemplate name, by simp [offence?, hn], rfl⟩
    | _ => exact ⟨_, rfl, rfl⟩
  · rintro ⟨o, ho, rfl⟩
    cases form <;> simp only [offence?, Option.some.injEq, Option.map_eq_some_iff,
      reduceCtorEq] at ho
    case call =>
      obtain ⟨name, hn, rfl⟩ := ho
      exact .call (by simp [hn])
    case new =>
      obtain ⟨name, hn, rfl⟩ := ho
      exact .construction (by simp [hn])
    case tagged =>
      obtain ⟨name, hn, rfl⟩ := ho
      exact .taggedTemplate (by simp [hn])
    all_goals
      subst ho
      constructor

/-! ### The walk -/

/-- The report of a node. -/
def report? (n : Node) : Option Report := (offence? n.form).map fun o => ⟨o, n.span.start⟩

/-- Where the walk does not go on, there is nothing. -/
theorem children_of_not_goesOn {form : Form Node} (h : goesOn form = false) :
    form.children = [] := by
  cases form <;> simp [goesOn] at h <;> rfl

/-- The walk reports what is wrong with the nodes of a tree, and nothing else. -/
theorem walk_toList (n : Node) (found : Array Report) :
    (walk n found).toList = found.toList ++ n.nodes.filterMap report? := by
  cases n with
  | mk span form =>
      have parts (ms : List { m // m ∈ form.children }) (found : Array Report) :
          (ms.foldl (fun found m => walk m.1 found) found).toList =
            found.toList ++ (ms.unattach.flatMap Node.nodes).filterMap report? := by
        induction ms generalizing found with
        | nil => simp
        | cons m ms ih =>
            have hm := m.2
            rw [List.foldl_cons, ih, walk_toList m.1 found]
            simp [List.append_assoc]
      rw [walk, Node.nodes_mk, List.filterMap_cons]
      cases hg : goesOn form with
      | true =>
          simp only [if_true, parts, List.unattach_attach]
          cases ho : offence? form <;> simp [report?, Node.form, Node.span, ho]
      | false =>
          simp only [Bool.false_eq_true, if_false]
          rw [children_of_not_goesOn hg]
          cases ho : offence? form <;> simp [report?, Node.form, Node.span, ho]
termination_by sizeOf n
decreasing_by exact Node.sizeOf_lt_of_mem_children hm

/-- The reports of a program: the one about the directive, then those of its nodes. -/
theorem reports_eq (p : Program) :
    reports p = strictReport p ++
      ((p.directives ++ p.statements).flatMap Node.nodes).filterMap report? := by
  have all (ns : List Node) (found : Array Report) :
      (ns.foldl (fun found n => walk n found) found).toList =
        found.toList ++ (ns.flatMap Node.nodes).filterMap report? := by
    induction ns generalizing found with
    | nil => simp
    | cons n ns ih => simp [ih, walk_toList, List.append_assoc]
  simp [reports, all]

/-- Reports, place by place. -/
theorem reports_eq_places (p : Program) : ∃ places : List (List Nat),
    places.Nodup ∧ (∀ path, path ∈ places ↔ (p.at? path).isSome = true) ∧
      reports p = strictReport p ++ places.filterMap fun path => (p.at? path).bind report? := by
  obtain ⟨places, h⟩ := p.exists_places
  refine ⟨places, h.once, h.all, ?_⟩
  have := congrArg (List.filterMap fun o : Option Node => o.bind report?) h.nodes
  rw [List.filterMap_map, List.filterMap_map] at this
  rw [reports_eq]
  exact congrArg _ this.symm

/-! ### The directive -/

/-- A program opens with the strict directive, spelled out. -/
def OpensStrict (p : Program) : Prop :=
  ∃ span body rest, p.directives = .mk span (.directive strictDirective body) :: rest

/-- There is something in a program, and it does not open with the strict directive. -/
def LacksDirective (p : Program) : Prop :=
  p.directives ++ p.statements ≠ [] ∧ ¬OpensStrict p

theorem isStrict_iff {p : Program} : isStrict p = true ↔ OpensStrict p := by
  unfold isStrict OpensStrict
  cases hd : p.directives with
  | nil => simp
  | cons d rest =>
      obtain ⟨span, form⟩ := d
      cases form <;> simp [Node.form]

/-- There is one report about the directive where it is missing, at the start of the program,
and else none. -/
theorem strictReport_cases (p : Program) :
    (LacksDirective p ∧ ∃ first, (p.directives ++ p.statements).head? = some first ∧
        strictReport p = [⟨.notStrict, first.span.start⟩]) ∨
      (¬LacksDirective p ∧ strictReport p = []) := by
  unfold LacksDirective strictReport
  rw [← isStrict_iff]
  cases p.directives ++ p.statements with
  | nil => exact .inr (by simp)
  | cons first rest =>
      cases hs : isStrict p with
      | true => exact .inr (by simp)
      | false => exact .inl (by simp)

/-! ### Exactness -/

/-- Findings that are exact: those of one kind stand for the places with nodes that are flagged
by that kind, one for each and where it begins, and there is one about the directive where it
is missing. -/
structure Exact (source : List Char) (p : Program) (found : List Finding) : Prop where
  nodes : ∀ kind, kind ≠ .missingStrictMode → ∃ places : List (List Nat), places.Nodup ∧
    (∀ path, path ∈ places ↔ ∃ n, p.at? path = some n ∧ Flagged kind n.form) ∧
    ((found.filter (·.kind = kind)).map (·.location)).Perm
      (places.map fun path => (p.at? path).map fun n => Location.ofOffset source n.span.start)
  directive :
    (LacksDirective p ∧ (found.filter (·.kind = .missingStrictMode)).length = 1) ∨
      (¬LacksDirective p ∧ found.filter (·.kind = .missingStrictMode) = [])
  clean : found = [] ↔
    ¬LacksDirective p ∧ ∀ path n kind, p.at? path = some n → ¬Flagged kind n.form

/-- Values of a partial function that pass a test, and where they come from. -/
theorem map_filter_filterMap {α β γ : Type} (f : α → Option β) (q : β → Bool) (g : β → γ)
    (l : List α) : ((l.filterMap f).filter q).map (fun b => some (g b)) =
      (l.filter fun a => (f a).any q).map fun a => (f a).map g := by
  induction l with
  | nil => rfl
  | cons a l ih =>
      cases hf : f a with
      | none => simp [hf, ih]
      | some b => cases hq : q b <;> simp [hf, hq, ih]

theorem report?_bind_any {o : Option Node} {kind : FindingKind} :
    (o.bind report?).any (fun r => r.offence.kind = kind) = true ↔
      ∃ n, o = some n ∧ Flagged kind n.form := by
  cases o with
  | none => simp
  | some n =>
      rw [Option.bind_some, report?, Option.any_map]
      cases ho : offence? n.form <;> simp [flagged_iff, ho]

theorem kind_ne_of_report {n : Node} {r : Report} (h : report? n = some r) :
    r.offence.kind ≠ .missingStrictMode := by
  obtain ⟨o, ho, rfl⟩ := Option.map_eq_some_iff.mp h
  intro hk
  cases flagged_iff.mpr ⟨o, ho, hk⟩

theorem findings_perm (source : List Char) (p : Program) :
    (findings source p).Perm ((reports p).map (Report.finding source)) :=
  List.mergeSort_perm ..

/-- The findings of one kind, from the reports. -/
theorem findings_filter_perm (source : List Char) (p : Program) (kind : FindingKind) :
    ((findings source p).filter (·.kind = kind)).Perm
      (((reports p).filter fun r => r.offence.kind = kind).map (Report.finding source)) := by
  have := (findings_perm source p).filter (·.kind = kind)
  rwa [List.filter_map] at this

/-- Among the reports about nodes there is none about the directive. -/
theorem filter_nodeReports (p : Program) (places : List (List Nat)) :
    (places.filterMap fun path => (p.at? path).bind report?).filter
      (fun r => r.offence.kind = .missingStrictMode) = [] := by
  refine List.filter_eq_nil_iff.mpr fun r hr => ?_
  obtain ⟨path, -, hp⟩ := List.mem_filterMap.mp hr
  obtain ⟨n, -, hn⟩ := Option.bind_eq_some_iff.mp hp
  simpa using kind_ne_of_report hn

/-- The report about the directive is of no other kind. -/
theorem kind_of_mem_strictReport {p : Program} {r : Report} (h : r ∈ strictReport p) :
    r.offence.kind = .missingStrictMode := by
  rcases strictReport_cases p with ⟨-, first, -, he⟩ | ⟨-, he⟩
  · rw [he, List.mem_singleton] at h
    subst h
    rfl
  · simp [he] at h

/-- The findings of a kind stand for the places that are flagged by it. -/
theorem findings_nodes (source : List Char) (p : Program) {kind : FindingKind}
    (hk : kind ≠ .missingStrictMode) : ∃ places : List (List Nat), places.Nodup ∧
      (∀ path, path ∈ places ↔ ∃ n, p.at? path = some n ∧ Flagged kind n.form) ∧
      (((findings source p).filter (·.kind = kind)).map (·.location)).Perm
        (places.map fun path =>
          (p.at? path).map fun n => Location.ofOffset source n.span.start) := by
  obtain ⟨places, once, all, hr⟩ := reports_eq_places p
  refine ⟨places.filter fun path => ((p.at? path).bind report?).any fun r => r.offence.kind = kind,
    once.sublist List.filter_sublist, fun path => ?_, ?_⟩
  · rw [List.mem_filter, report?_bind_any, all]
    constructor
    · exact And.right
    · intro hf
      obtain ⟨n, hn, -⟩ := id hf
      exact ⟨by simp [hn], hf⟩
  · have none : (strictReport p).filter (fun r => r.offence.kind = kind) = [] := by
      refine List.filter_eq_nil_iff.mpr fun r hm => ?_
      simpa [kind_of_mem_strictReport hm] using Ne.symm hk
    refine ((findings_filter_perm source p kind).map _).trans (List.Perm.of_eq ?_)
    rw [hr, List.filter_append, none, List.nil_append, List.map_map]
    refine (map_filter_filterMap _ _
      (fun r : Report => Location.ofOffset source r.offset) _).trans ?_
    refine List.map_congr_left fun path hm => ?_
    obtain ⟨n, hn, hf⟩ := report?_bind_any.mp (List.mem_filter.mp hm).2
    obtain ⟨o, ho, -⟩ := flagged_iff.mp hf
    simp [hn, report?, ho]

/-- There is one finding about the directive where it is missing. -/
theorem findings_directive (source : List Char) (p : Program) :
    (LacksDirective p ∧
        ((findings source p).filter (·.kind = .missingStrictMode)).length = 1) ∨
      (¬LacksDirective p ∧ (findings source p).filter (·.kind = .missingStrictMode) = []) := by
  obtain ⟨places, -, -, hr⟩ := reports_eq_places p
  have hp := findings_filter_perm source p .missingStrictMode
  have all : (strictReport p).filter (fun r => r.offence.kind = .missingStrictMode) =
      strictReport p :=
    List.filter_eq_self.mpr fun r hm => by simp [kind_of_mem_strictReport hm]
  rw [hr, List.filter_append, filter_nodeReports, all, List.append_nil] at hp
  rcases strictReport_cases p with ⟨hl, first, -, he⟩ | ⟨hl, he⟩
  · refine .inl ⟨hl, ?_⟩
    simpa [he] using hp.length_eq
  · refine .inr ⟨hl, ?_⟩
    simpa [he] using hp

/-- There is no finding just where there is nothing to find. -/
theorem findings_eq_nil_iff (source : List Char) (p : Program) : findings source p = [] ↔
    ¬LacksDirective p ∧ ∀ path n kind, p.at? path = some n → ¬Flagged kind n.form := by
  obtain ⟨places, -, all, hr⟩ := reports_eq_places p
  have hf : findings source p = [] ↔ reports p = [] := by
    rw [← List.length_eq_zero_iff, (findings_perm source p).length_eq]
    simp
  have hs : strictReport p = [] ↔ ¬LacksDirective p := by
    rcases strictReport_cases p with ⟨hl, first, -, he⟩ | ⟨hl, he⟩ <;> simp [hl, he]
  rw [hf, hr, List.append_eq_nil_iff, hs, List.filterMap_eq_nil_iff]
  refine and_congr_right fun _ => ⟨fun h path n kind hn hflag => ?_, fun h path _ => ?_⟩
  · obtain ⟨o, ho, -⟩ := flagged_iff.mp hflag
    have := h path ((all path).mpr (by simp [hn]))
    simp [hn, report?, ho] at this
  · cases hn : p.at? path with
    | none => rfl
    | some n =>
        cases ho : offence? n.form with
        | none => simp [report?, ho]
        | some o => exact absurd (flagged_iff.mpr ⟨o, ho, rfl⟩) (h path n o.kind hn)

/-- The findings of any tree are exact. -/
theorem findings_exact (source : List Char) (p : Program) :
    Exact source p (findings source p) where
  nodes := fun _ hk => findings_nodes source p hk
  directive := findings_directive source p
  clean := findings_eq_nil_iff source p

end PatchSandbox.Admission
