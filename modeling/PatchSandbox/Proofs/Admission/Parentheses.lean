import PatchSandbox.Proofs.Admission.Exact
import PatchSandbox.Proofs.Script.Parentheses

/-!
# Parentheses in what is called

A call of a forbidden function is to be reported however many parentheses stand in it. The check
looks through the parentheses around the callee and around the global object. It does not look
through those around the name in brackets, nor past the end of an optional chain, which
parentheses around the callee bring about. There the name is hidden (**`hidesName`**), and the call
is not reported.

**`reported_through_parentheses`** goes over two programs that are the same but for parentheses:
their calls, constructions and tagged templates correspond, and two of them are reported alike
unless just one hides its name.
-/

namespace PatchSandbox.Admission

open Script (Node Form Program)
open Script.Node (Reparenthesized)

variable {n m : Node} {f : Form Node}

/-! ### Callees -/

/-- What is called, constructed or used as a tag. -/
def callee? : Form Node → Option Node
  | .call _ callee _ => some callee
  | .new callee _ => some callee
  | .tagged tag _ => some tag
  | _ => none

/-- Whether a form has a callee. -/
def invokes : Form Unit → Bool
  | .call _ _ _ => true
  | .new _ _ => true
  | .tagged _ _ => true
  | _ => false

/-- The offence of a form with a callee of a forbidden name. -/
def wording : Form Unit → String → Offence
  | .new _ _ => .construction
  | .tagged _ _ => .taggedTemplate
  | _ => .call

theorem isSome_callee? (f : Form Node) : (callee? f).isSome = invokes f.head := by
  cases f <;> rfl

theorem head?_children_of_callee? {c : Node} (h : callee? f = some c) :
    f.children.head? = some c := by
  cases f <;> cases h <;> rfl

theorem offence?_of_callee? {c : Node} (h : callee? f = some c) :
    offence? f = (forbidden? c).map (wording f.head) := by
  cases f <;> cases h <;> rfl

/-- The callees of calls that are the same but for parentheses are the same but for parentheses. -/
theorem callees_reparenthesized {c d : Node} (h : Reparenthesized n m)
    (hn : callee? n.form = some c) (hm : callee? m.form = some d) :
    n.form.head = m.form.head ∧ Reparenthesized c d := by
  cases h with
  | @parts _ _ f f' head each =>
      have first := head?_children_of_callee? hn
      have first' := head?_children_of_callee? hm
      refine ⟨head, each c d ?_⟩
      simp only [Node.form] at first first'
      cases hc : f.children with
      | nil => simp [hc] at first
      | cons a l =>
          cases hd : f'.children with
          | nil => simp [hd] at first'
          | cons b k =>
              obtain rfl : a = c := by simpa [hc] using first
              obtain rfl : b = d := by simpa [hd] using first'
              simp
  | parenLeft => cases hn
  | parenRight => cases hm
  | chainLeft => cases hn
  | chainRight => cases hm

/-! ### Looking through parentheses -/

theorem unparenthesized_paren (s : Script.Span) (n : Node) :
    unparenthesized (.mk s (.paren n)) = unparenthesized n := by
  rw [unparenthesized]

theorem unparenthesized_mk {s : Script.Span} (h : f.isParen = false) :
    unparenthesized (.mk s f) = .mk s f := by
  rw [unparenthesized]
  rintro _ body ⟨⟩
  cases h

theorem unparenthesized_eq_self (h : n.form.isParen = false) : unparenthesized n = n := by
  obtain ⟨s, f⟩ := n
  exact unparenthesized_mk h

theorem isParen_of_isLink (h : f.isLink = true) : f.isParen = false := by
  cases f <;> first | rfl | cases h

/-- What shows of the form of a node through its parentheses is the same in both trees, if nothing
shows of the links of a chain and of its end. -/
theorem shows_eq {α : Type} {shows : Form Unit → α} {nothing : α}
    (link : ∀ f : Form Unit, f.isLink = true → shows f = nothing)
    (chain : shows (.chain ()) = nothing) (h : Reparenthesized n m) :
    shows (unparenthesized n).form.head = shows (unparenthesized m).form.head := by
  have ends (s : Script.Span) (a : Node) :
      shows (unparenthesized (.mk s (.chain a))).form.head = nothing := by
    rw [unparenthesized_mk rfl]
    exact chain
  have links {a : Node} (hl : a.form.isLink = true) :
      shows (unparenthesized a).form.head = nothing := by
    rw [unparenthesized_eq_self (isParen_of_isLink hl)]
    exact link _ (by rw [Form.isLink_head, hl])
  induction h using Reparenthesized.outside_in with
  | bare head each hp hp' =>
      rw [unparenthesized_mk hp, unparenthesized_mk hp']
      exact congrArg shows head
  | left _ ih =>
      rw [unparenthesized_paren]
      exact ih
  | right _ ih =>
      rw [unparenthesized_paren]
      exact ih
  | chainLeft hl _ ih => rw [ends, ← ih, links hl]
  | chainRight hl _ ih => rw [ends, ih, links hl]

/-- Whether a form names the global object. -/
def namesGlobal : Form Unit → Bool
  | .name name => globalObjects.contains name
  | _ => false

/-- Parentheses around the global object do not matter. -/
theorem isGlobalObject_eq (h : Reparenthesized n m) : isGlobalObject n = isGlobalObject m := by
  have eq (n : Node) : isGlobalObject n = namesGlobal (unparenthesized n).form.head := by
    rw [isGlobalObject]
    cases (unparenthesized n).form <;> rfl
  rw [eq, eq]
  refine shows_eq (fun f hf => ?_) rfl h
  cases f <;> cases hf <;> rfl

/-- The name that a string gives, in brackets. -/
def literal : Form Unit → Option String
  | .string value _ => some value.toStringLossy
  | _ => none

/-- A key in no parentheses of its own gives the same name as one that it corresponds to. -/
theorem literal_eq (h : Reparenthesized n m) (hn : n.form.isParen = false)
    (hm : m.form.isParen = false) : literal n.form.head = literal m.form.head := by
  have through : literal (unparenthesized n).form.head = literal (unparenthesized m).form.head := by
    refine shows_eq (fun f hf => ?_) rfl h
    cases f <;> cases hf <;> rfl
  rwa [unparenthesized_eq_self hn, unparenthesized_eq_self hm] at through

/-! ### Names of callees -/

theorem calleeName?_paren (s : Script.Span) (n : Node) :
    calleeName? (.mk s (.paren n)) = calleeName? n := by
  rw [calleeName?, calleeName?, unparenthesized_paren]

theorem calleeName?_member (s : Script.Span) (isOptional : Bool) (target : Node) (name : String) :
    calleeName? (.mk s (.member isOptional target name)) =
      if isGlobalObject target then some name else none := by
  rw [calleeName?, unparenthesized_mk rfl]
  rfl

theorem literal_head (k : Form Node) :
    (match k with
      | .string value _ => some value.toStringLossy
      | _ => none) = literal k.head := by
  cases k <;> rfl

theorem calleeName?_index (s : Script.Span) (isOptional : Bool) (target key : Node) :
    calleeName? (.mk s (.index isOptional target key)) =
      if isGlobalObject target then literal key.form.head else none := by
  rw [calleeName?, unparenthesized_mk rfl, ← literal_head]
  rfl

/-- Whether a form, in no parentheses, may give a callee a name. -/
def isNamed : Form Unit → Bool
  | .name _ => true
  | .member _ _ _ => true
  | .index _ _ _ => true
  | _ => false

theorem calleeName?_of_not_isNamed {s : Script.Span} (hp : f.isParen = false)
    (h : isNamed f.head = false) : calleeName? (.mk s f) = none := by
  rw [calleeName?, unparenthesized_mk hp]
  cases f <;> first | rfl | cases h

/-! ### Hidden names -/

/-- Whether the name of a callee is hidden from the check: past the end of an optional chain, or in
parentheses between brackets. -/
def hidesName (callee : Node) : Bool :=
  match (unparenthesized callee).form with
  | .chain _ => true
  | .index _ _ key => key.form.isParen
  | _ => false

theorem hidesName_paren (s : Script.Span) (n : Node) :
    hidesName (.mk s (.paren n)) = hidesName n := by
  rw [hidesName, hidesName, unparenthesized_paren]

theorem hidesName_chain (s : Script.Span) (n : Node) : hidesName (.mk s (.chain n)) = true := by
  rw [hidesName, unparenthesized_mk rfl]
  rfl

theorem hidesName_index (s : Script.Span) (isOptional : Bool) (target key : Node) :
    hidesName (.mk s (.index isOptional target key)) = key.form.isParen := by
  rw [hidesName, unparenthesized_mk rfl]
  rfl

/-- What is hidden is not found. -/
theorem calleeName?_of_hidesName (h : hidesName n = true) : calleeName? n = none := by
  unfold hidesName at h
  unfold calleeName?
  split at h
  case h_1 he => rw [he]
  case h_2 target key he =>
      obtain ⟨body, hk⟩ := Form.eq_paren_of_isParen h
      rw [he]
      simp [hk]
  case h_3 => cases h

/-- Parentheses around a callee and in it do not matter, where they do not hide the name. -/
theorem calleeName?_eq (h : Reparenthesized n m) (hn : hidesName n = false)
    (hm : hidesName m = false) : calleeName? n = calleeName? m := by
  induction h using Reparenthesized.outside_in with
  | @bare s s' f f' head each hp hp' =>
      cases named : isNamed f.head with
      | false =>
          rw [calleeName?_of_not_isNamed hp named, calleeName?_of_not_isNamed hp' (head ▸ named)]
      | true =>
          cases hh : f.head with
          | name text =>
              obtain rfl := Form.eq_name_of_head hh
              obtain rfl := Form.eq_name_of_head (head.symm.trans hh)
              rfl
          | member isOptional u text =>
              obtain ⟨target, rfl⟩ := Form.eq_member_of_head hh
              obtain ⟨target', rfl⟩ := Form.eq_member_of_head (head.symm.trans hh)
              have targets : Reparenthesized target target' := each _ _ (by simp [Form.children])
              rw [calleeName?_member, calleeName?_member, isGlobalObject_eq targets]
          | index isOptional u v =>
              obtain ⟨target, key, rfl⟩ := Form.eq_index_of_head hh
              obtain ⟨target', key', rfl⟩ := Form.eq_index_of_head (head.symm.trans hh)
              have targets : Reparenthesized target target' := each _ _ (by simp [Form.children])
              have keys : Reparenthesized key key' := each _ _ (by simp [Form.children])
              rw [hidesName_index] at hn hm
              rw [calleeName?_index, calleeName?_index, isGlobalObject_eq targets,
                literal_eq keys hn hm]
          | _ => simp [hh, isNamed] at named
  | left _ ih =>
      rw [hidesName_paren] at hn
      rw [calleeName?_paren]
      exact ih hn hm
  | right _ ih =>
      rw [hidesName_paren] at hm
      rw [calleeName?_paren]
      exact ih hn hm
  | chainLeft => simp [hidesName_chain] at hn
  | chainRight => simp [hidesName_chain] at hm

theorem forbidden?_of_hidesName (h : hidesName n = true) : forbidden? n = none := by
  rw [forbidden?, calleeName?_of_hidesName h]
  rfl

theorem forbidden?_eq (h : Reparenthesized n m) (hh : hidesName n = hidesName m) :
    forbidden? n = forbidden? m := by
  cases hm : hidesName m with
  | true => rw [forbidden?_of_hidesName (hh.trans hm), forbidden?_of_hidesName hm]
  | false => rw [forbidden?, forbidden?, calleeName?_eq h (hh.trans hm) hm]

/-! ### Calls in programs -/

/-- The calls, constructions and tagged templates of a program, in the order of the text. -/
def invocations (p : Program) : List Node :=
  ((p.directives ++ p.statements).flatMap Node.nodes).filter fun n => invokes n.form.head

/-- What is reported of forbidden callees. -/
def forbiddenReports (p : Program) : List Report :=
  (reports p).filter fun r => r.offence.kind = .forbiddenCallee

/-- Whether the name of what a node calls is hidden from the check. -/
def hides (n : Node) : Bool := (callee? n.form).any hidesName

/-- Two calls that differ in parentheses are reported alike, unless just one hides the name of what
is called. That one is not reported. -/
structure ReportedAlike (n m : Node) : Prop where
  reparenthesized : Reparenthesized n m
  alike : hides n = hides m → offence? n.form = offence? m.form
  hidden_left : hides n = true → report? n = none
  hidden_right : hides m = true → report? m = none

theorem exists_callee (h : invokes n.form.head = true) : ∃ c, callee? n.form = some c := by
  rw [← isSome_callee?] at h
  exact Option.isSome_iff_exists.mp h

theorem report?_of_hides (h : hides n = true) : report? n = none := by
  unfold hides at h
  cases hc : callee? n.form with
  | none => simp [hc] at h
  | some c =>
      have hidden : hidesName c = true := by simpa [hc] using h
      rw [report?, offence?_of_callee? hc, forbidden?_of_hidesName hidden]
      rfl

theorem reportedAlike (h : Reparenthesized n m) (hn : invokes n.form.head = true)
    (hm : invokes m.form.head = true) : ReportedAlike n m where
  reparenthesized := h
  alike hh := by
    obtain ⟨c, hc⟩ := exists_callee hn
    obtain ⟨d, hd⟩ := exists_callee hm
    obtain ⟨heads, callees⟩ := callees_reparenthesized h hc hd
    have hidden : hidesName c = hidesName d := by simpa [hides, hc, hd] using hh
    rw [offence?_of_callee? hc, offence?_of_callee? hd, heads, forbidden?_eq callees hidden]
  hidden_left := report?_of_hides
  hidden_right := report?_of_hides

/-- Just what has a callee is reported for it. -/
theorem kind_eq_forbiddenCallee_iff {o : Offence} (h : offence? f = some o) :
    o.kind = .forbiddenCallee ↔ invokes f.head = true := by
  rw [← isSome_callee?]
  constructor
  · intro hk
    cases flagged_iff.mpr ⟨o, h, hk⟩ <;> rfl
  · intro hc
    obtain ⟨c, hc⟩ := Option.isSome_iff_exists.mp hc
    rw [offence?_of_callee? hc] at h
    obtain ⟨name, -, rfl⟩ := Option.map_eq_some_iff.mp h
    cases f.head <;> rfl

/-- What is reported of forbidden callees comes from the calls, each for itself. -/
theorem forbiddenReports_eq (p : Program) :
    forbiddenReports p = (invocations p).filterMap report? := by
  have strict : (strictReport p).filter (fun r => r.offence.kind = .forbiddenCallee) = [] := by
    refine List.filter_eq_nil_iff.mpr fun r hr => ?_
    simp [kind_of_mem_strictReport hr]
  have each (n : Node) : (report? n).filter (fun r => r.offence.kind = .forbiddenCallee) =
      if invokes n.form.head then report? n else none := by
    cases ho : offence? n.form with
    | none => simp [report?, ho]
    | some o => simp [report?, ho, Option.filter_some, kind_eq_forbiddenCallee_iff ho]
  rw [forbiddenReports, reports_eq, List.filter_append, strict, List.nil_append, invocations,
    List.filter_filterMap, List.filterMap_filter]
  exact congrArg (fun g => List.filterMap g _) (funext each)

variable {p q : Program}

theorem invocations_reportedAlike (h : p.Reparenthesized q) :
    List.Forall₂ ReportedAlike (invocations p) (invocations q) := by
  have trees := List.rel_append h.directives h.statements
  have nodes : List.Forall₂ Reparenthesized (invocations p) (invocations q) := by
    rw [invocations, invocations, List.filter_flatMap, List.filter_flatMap]
    exact List.rel_flatMap trees fun a b hab => hab.filter_nodes rfl rfl
  obtain ⟨length, related⟩ := List.forall₂_iff_zip.mp nodes
  refine List.forall₂_iff_zip.mpr ⟨length, fun {a b} hz => ?_⟩
  obtain ⟨ha, hb⟩ := List.of_mem_zip hz
  exact reportedAlike (related hz) (List.mem_filter.mp ha).2 (List.mem_filter.mp hb).2

/-- Where no name is hidden, parentheses change nothing in what is reported but where it stands. -/
theorem map_offence_eq_of_not_hides (h : p.Reparenthesized q)
    (hp : ∀ n ∈ invocations p, hides n = false) (hq : ∀ n ∈ invocations q, hides n = false) :
    (forbiddenReports p).map (·.offence) = (forbiddenReports q).map (·.offence) := by
  have worded (n : Node) : (report? n).map (·.offence) = offence? n.form := by
    rw [report?, Option.map_map]
    exact Option.map_id'
  rw [forbiddenReports_eq, forbiddenReports_eq, List.map_filterMap, List.map_filterMap,
    funext worded]
  have alike := invocations_reportedAlike h
  generalize invocations p = ns at hp alike
  generalize invocations q = ms at hq alike
  induction alike with
  | nil => rfl
  | @cons n m ns ms first rest ih =>
      rw [List.forall_mem_cons] at hp hq
      rw [List.filterMap_cons, List.filterMap_cons, first.alike (hp.1.trans hq.1.symm),
        ih hp.2 hq.2]

/-- **Forbidden callees through parentheses.** In two programs that are the same but for
parentheses the calls, constructions and tagged templates correspond, and any two of them are
reported alike unless the parentheses of just one hide the name; and there are no other reports of
forbidden callees. -/
theorem reported_through_parentheses (h : p.Reparenthesized q) :
    List.Forall₂ ReportedAlike (invocations p) (invocations q) ∧
      forbiddenReports p = (invocations p).filterMap report? ∧
      forbiddenReports q = (invocations q).filterMap report? :=
  ⟨invocations_reportedAlike h, forbiddenReports_eq p, forbiddenReports_eq q⟩

/-- A program that calls something. -/
def calling (callee : Node) : Program :=
  ⟨default, [], [.mk default (.expression (.mk default (.call false callee [])))]⟩

theorem calling_reparenthesized (h : Reparenthesized n m) :
    (calling n).Reparenthesized (calling m) :=
  ⟨.nil, .cons (.of_forall₂ rfl (.cons (.of_forall₂ rfl (.cons h .nil)) .nil)) .nil⟩

/-- A call is reported with parentheses around the global object and around its member, or without
any. -/
theorem parenthesized_eval_reported :
    let object : Node := .mk default (.name "globalThis")
    let plain := calling (.mk default (.member false object "eval"))
    let member : Node := .mk default (.member false (.mk default (.paren object)) "eval")
    let parenthesized := calling (.mk default (.paren member))
    plain.Reparenthesized parenthesized ∧
      List.Forall₂ ReportedAlike (invocations plain) (invocations parenthesized) ∧
      (forbiddenReports plain).map (·.offence) = [.call "eval"] ∧
      (forbiddenReports parenthesized).map (·.offence) = [.call "eval"] := by
  intro object plain member parenthesized
  have h : plain.Reparenthesized parenthesized :=
    calling_reparenthesized (.parenRight (.of_forall₂ rfl (.cons (.around default object) .nil)))
  exact ⟨h, (reported_through_parentheses h).1, by decide +kernel, by decide +kernel⟩

/-- **Parentheses do hide a forbidden callee**: around the name in brackets, and around the member
that an optional chain ends with. -/
theorem parentheses_hide_eval :
    let found : List Finding :=
      [⟨.forbiddenCallee, "call to forbidden function 'eval'", some ⟨1, 15⟩⟩]
    let bracketed := "\"use strict\"; globalThis[(\"eval\")](\"1\")"
    let ended := "\"use strict\"; (globalThis?.eval)(\"1\")"
    (check {} "\"use strict\"; globalThis[\"eval\"](\"1\")" = found ∧ check {} bracketed = []) ∧
    (check {} "\"use strict\"; globalThis?.eval(\"1\")" = found ∧ check {} ended = []) ∧
    (∀ source ∈ [bracketed, ended], (Program.read .module source.toList).toOption.map
      (fun p => (invocations p).map hides) = some [true]) ∧
    ∃ p q : Program, p.Reparenthesized q ∧
      (forbiddenReports p).map (·.offence) = [.call "eval"] ∧ forbiddenReports q = [] := by
  intro found bracketed ended
  refine ⟨⟨by decide +kernel, by decide +kernel⟩, ⟨by decide +kernel, by decide +kernel⟩,
    by decide +kernel, ?_⟩
  let object : Node := .mk default (.name "globalThis")
  -- the units of "eval"
  let key : Node := .mk default (.string ⟨#[0x65, 0x76, 0x61, 0x6C]⟩ false)
  let parenthesized : Node := .mk default (.paren key)
  have h : Reparenthesized (.mk default (.index false object key))
      (.mk default (.index false object parenthesized)) :=
    .of_forall₂ rfl (.cons (.refl object) (.cons (.around default key) .nil))
  exact ⟨_, _, calling_reparenthesized h, by decide +kernel, by decide +kernel⟩

end PatchSandbox.Admission
