import PatchSandbox.Proofs.Evaluation.Outcome

/-!
# Whether a rejected promise is left, and which one is named

The ledger hears that a promise was rejected, or that somebody waits for one after all. It does
not hear which promise that is: it counts, and keeps one reason.

* **`left`** lists the promises that are rejected and that nobody waits for. **`Lawful`** says that
  somebody comes to wait for a promise only while it is one of them.
* **`outstanding_heard`**: the counter is the length of that list, by induction on the reports. The
  subtraction never meets a zero, so nothing is lost in it.
* **`decides_faults`**: an evaluation fails for a rejected promise exactly if one is left.
* **`names_opener`** says whose reason it then tells: that of the promise that was rejected when
  none was left. Somebody may wait for that one by now, while others are left
  (**`awaited_promise_named`**).
-/

namespace PatchSandbox

/-- Something that the machine reports about a promise. -/
inductive Report (P : Type) where
  /-- It was rejected, and nobody waits for it. -/
  | rejected (p : P) (reason : String)
  /-- Somebody waits for it now. -/
  | awaited (p : P)
  deriving DecidableEq, Repr

namespace Report

variable {P : Type}

/-- What the ledger hears of a report. -/
def heard : Report P → Rejection
  | .rejected _ reason => .unhandled reason
  | .awaited _ => .handled

/-- The promise that was rejected. -/
def rejected? : Report P → Option P
  | .rejected p _ => some p
  | .awaited _ => none

/-- The ledger after some reports. -/
def ledger (rs : List (Report P)) : Ledger := Ledger.of (rs.map heard)

@[simp] theorem ledger_append_singleton (rs : List (Report P)) (r : Report P) :
    ledger (rs ++ [r]) = (ledger rs).note r.heard := by
  rw [ledger, List.map_append, List.map_singleton, Ledger.of_append_singleton]
  rfl

/-- The ledger answers with the reason that it keeps. -/
theorem take_eq_firstReason (rs : List (Report P)) :
    (ledger rs).take.1 = (ledger rs).firstReason := by
  by_cases hrs : 0 < (ledger rs).outstanding
  · obtain ⟨reason, hreason, -⟩ := Ledger.exists_firstReason hrs
    have kept : (ledger rs).firstReason = some reason := hreason
    simp [Ledger.take, hrs, kept]
  · have none : (ledger rs).firstReason = none :=
      Ledger.firstReason_eq_none (Nat.eq_zero_of_not_pos hrs)
    simp [Ledger.take, hrs, none]

/-- A place in reports with one more at their end: it is the last one, or a place in the others. -/
theorem append_singleton_eq_iff {rs before after : List (Report P)} {r x : Report P} :
    rs ++ [r] = before ++ x :: after ↔
      (after = [] ∧ rs = before ∧ r = x) ∨
        ∃ init, after = init ++ [r] ∧ rs = before ++ x :: init := by
  constructor
  · intro he
    rcases List.eq_nil_or_concat after with rfl | ⟨init, y, rfl⟩
    · exact .inl ⟨rfl, List.append_singleton_inj.mp he⟩
    · rw [List.concat_eq_append, ← List.cons_append, ← List.append_assoc,
        List.append_singleton_inj] at he
      obtain ⟨hrs, rfl⟩ := he
      exact .inr ⟨init, List.concat_eq_append, hrs⟩
  · rintro (⟨rfl, rfl, rfl⟩ | ⟨init, rfl, rfl⟩)
    · rfl
    · simp

/-- A promise that is reported once is reported at one place. -/
theorem eq_of_rejected_once {before after before' after' : List (Report P)} {p : P}
    {reason reason' : String}
    (hrs : ((before ++ .rejected p reason :: after).filterMap rejected?).Nodup)
    (he : before ++ .rejected p reason :: after = before' ++ .rejected p reason' :: after') :
    after = after' := by
  -- Of two places one comes first, and the promise is reported again after it.
  rcases List.append_eq_append_iff.mp he with ⟨mid, rfl, hm⟩ | ⟨mid, rfl, hm⟩
  · cases mid with
    | nil => exact (List.cons.inj hm).2
    | cons x mid =>
        obtain ⟨rfl, rfl⟩ := List.cons.inj hm
        simp [rejected?, List.nodup_append] at hrs
  · cases mid with
    | nil => exact (List.cons.inj hm).2.symm
    | cons x mid =>
        obtain ⟨rfl, rfl⟩ := List.cons.inj hm
        simp [rejected?, List.nodup_append] at hrs

/-! ### What is left -/

variable [DecidableEq P]

/-- What is left after one report more. A promise is left as often as it was reported. -/
def leave (ps : List (P × String)) : Report P → List (P × String)
  | .rejected p reason => ps ++ [(p, reason)]
  | .awaited p => ps.eraseP fun q => q.1 = p

/-- The promises that are left after some reports, the one that was rejected first in front. -/
def left (rs : List (Report P)) : List (P × String) := rs.foldl leave []

/-- Somebody comes to wait only for promises that are left. -/
def Lawful (rs : List (Report P)) : Prop :=
  ∀ before p after, rs = before ++ .awaited p :: after → ∃ reason, (p, reason) ∈ left before

section

variable {rs before after : List (Report P)} {r : Report P} {p : P} {reason reason' : String}

@[simp] theorem left_nil : left ([] : List (Report P)) = [] := rfl

@[simp] theorem left_append_singleton : left (rs ++ [r]) = leave (left rs) r := by
  rw [left, List.foldl_append]
  rfl

theorem lawful_nil : Lawful ([] : List (Report P)) := by
  intro before p after he
  simp at he

theorem lawful_append_singleton : Lawful (rs ++ [r]) ↔
    Lawful rs ∧ ∀ p, r = .awaited p → ∃ reason, (p, reason) ∈ left rs := by
  constructor
  · intro h
    refine ⟨fun before p after he => ?_, ?_⟩
    · exact h before p (after ++ [r]) (append_singleton_eq_iff.mpr (.inr ⟨after, rfl, he⟩))
    · rintro p rfl
      exact h rs p [] rfl
  · rintro ⟨h, hr⟩ before p after he
    rcases append_singleton_eq_iff.mp he with ⟨-, rfl, rfl⟩ | ⟨init, -, he⟩
    · exact hr p rfl
    · exact h before p init he

theorem Lawful.rejected (h : Lawful rs) (p : P) (reason : String) :
    Lawful (rs ++ [.rejected p reason]) :=
  lawful_append_singleton.mpr ⟨h, by rintro _ ⟨⟩⟩

theorem Lawful.awaited (h : Lawful rs) (p : P) (reason : String) (hp : (p, reason) ∈ left rs) :
    Lawful (rs ++ [.awaited p]) :=
  lawful_append_singleton.mpr ⟨h, by rintro _ ⟨⟩; exact ⟨reason, hp⟩⟩

theorem Lawful.of_append (h : Lawful (before ++ after)) : Lawful before := by
  intro start p rest he
  exact h start p (rest ++ after) (by rw [he, List.append_assoc, List.cons_append])

/-- **The counter** is the number of promises that are left. -/
theorem outstanding_heard (h : Lawful rs) : (ledger rs).outstanding = (left rs).length := by
  induction rs using List.reverseRecOn with
  | nil => rfl
  | append_singleton rs r ih =>
      obtain ⟨hrs, hr⟩ := lawful_append_singleton.mp h
      rw [ledger_append_singleton, left_append_singleton]
      cases r with
      | rejected p reason =>
          rw [heard, Ledger.outstanding_note_unhandled, leave, ih hrs, List.length_append,
            List.length_singleton]
      | awaited p =>
          -- The promise is in the list, so one less is left, and the counter was not zero.
          obtain ⟨reason, hp⟩ := hr p rfl
          rw [heard, Ledger.outstanding_note_handled, leave, ih hrs,
            List.length_eraseP_of_mem hp (by simp)]

theorem leftUnhandled_heard (h : Lawful rs) :
    Ledger.LeftUnhandled (rs.map heard) ↔ left rs ≠ [] := by
  rw [Ledger.leftUnhandled_iff, ← ledger, outstanding_heard h, List.length_pos_iff]

/-! ### Promises that are reported once -/

theorem left_sublist (rs : List (Report P)) :
    ((left rs).map (·.1)).Sublist (rs.filterMap rejected?) := by
  induction rs using List.reverseRecOn with
  | nil => exact List.Sublist.refl _
  | append_singleton rs r ih =>
      rw [left_append_singleton, List.filterMap_append]
      cases r with
      | rejected p reason =>
          rw [leave, List.map_append]
          exact ih.append (List.Sublist.refl _)
      | awaited p =>
          rw [leave]
          exact ((List.eraseP_sublist.map _).trans ih).trans (List.sublist_append_left ..)

/-- Taking a promise out of a list that holds it at most once. -/
theorem mem_eraseP_iff {ps : List (P × String)} (hps : (ps.map (·.1)).Nodup) (q : P) :
    (p, reason) ∈ ps.eraseP (fun x => x.1 = q) ↔ (p, reason) ∈ ps ∧ p ≠ q := by
  induction ps with
  | nil => simp
  | cons x ps ih =>
      obtain ⟨hx, hps⟩ := List.nodup_cons.mp hps
      by_cases hq : x.1 = q
      · have apart : (p, reason) ∈ ps → p ≠ q := by
          rintro hp rfl
          exact hx (List.mem_map.mpr ⟨_, hp, hq.symm⟩)
        rw [List.eraseP_cons_of_pos (by simpa using hq), List.mem_cons]
        constructor
        · exact fun hp => ⟨.inr hp, apart hp⟩
        · rintro ⟨rfl | hp, hne⟩
          · exact absurd hq hne
          · exact hp
      · rw [List.eraseP_cons_of_neg (by simpa using hq), List.mem_cons, List.mem_cons, ih hps]
        constructor
        · rintro (rfl | ⟨hp, hne⟩)
          · exact ⟨.inl rfl, hq⟩
          · exact ⟨.inr hp, hne⟩
        · rintro ⟨rfl | hp, hne⟩
          · exact .inl rfl
          · exact .inr ⟨hp, hne⟩

/-- **What is left**, where no promise is reported as rejected twice: the promises that were
rejected and that nobody came to wait for since. -/
theorem mem_left_iff (hrs : (rs.filterMap rejected?).Nodup) :
    (p, reason) ∈ left rs ↔
      ∃ before after, rs = before ++ .rejected p reason :: after ∧ .awaited p ∉ after := by
  induction rs using List.reverseRecOn with
  | nil => simp
  | append_singleton rs r ih =>
      have fewer : (rs.filterMap rejected?).Nodup := by
        rw [List.filterMap_append] at hrs
        exact (List.nodup_append.mp hrs).1
      have once := (left_sublist rs).nodup fewer
      simp only [left_append_singleton, append_singleton_eq_iff]
      cases r with
      | rejected q reason' =>
          rw [leave, List.mem_append, ih fewer, List.mem_singleton]
          constructor
          · rintro (⟨before, after, rfl, hp⟩ | he)
            · exact ⟨before, _, .inr ⟨after, rfl, rfl⟩, by simpa using hp⟩
            · cases he
              exact ⟨rs, [], .inl ⟨rfl, rfl, rfl⟩, List.not_mem_nil⟩
          · rintro ⟨before, after, ⟨-, -, he⟩ | ⟨init, rfl, rfl⟩, hp⟩
            · cases he
              exact .inr rfl
            · exact .inl ⟨before, init, rfl, fun hi => hp (List.mem_append_left _ hi)⟩
      | awaited q =>
          rw [leave, mem_eraseP_iff once, ih fewer]
          -- `once` is what makes taking one out the same as taking all out.
          constructor
          · rintro ⟨⟨before, after, rfl, hp⟩, hne⟩
            exact ⟨before, _, .inr ⟨after, rfl, rfl⟩, by simpa [hne] using hp⟩
          · rintro ⟨before, after, ⟨-, -, he⟩ | ⟨init, rfl, rfl⟩, hp⟩
            · cases he
            · have hp : .awaited p ∉ init ∧ p ≠ q := by simpa using hp
              exact ⟨⟨before, init, rfl, hp.1⟩, hp.2⟩

/-! ### Who opened -/

/-- A report that opened what is left: nothing was left before it, and something always since. -/
structure Opens (rs before : List (Report P)) (p : P) (reason : String) (after : List (Report P)) :
    Prop where
  split : rs = before ++ .rejected p reason :: after
  none_before : left before = []
  always : ∀ mid, mid <+: after → left (before ++ .rejected p reason :: mid) ≠ []

/-- What the ledger hears up to a place after a report says whether something is left there. -/
theorem leftUnhandled_since {mid : List (Report P)}
    (h : Lawful (before ++ .rejected p reason :: after)) (hm : mid <+: after) :
    Ledger.LeftUnhandled (before.map heard ++ .unhandled reason :: mid.map heard) ↔
      left (before ++ .rejected p reason :: mid) ≠ [] := by
  obtain ⟨rest, rfl⟩ := hm
  rw [← List.cons_append, ← List.append_assoc] at h
  rw [← leftUnhandled_heard h.of_append, List.map_append, List.map_cons, heard]

/-- The reason to blame is that of the report that opened what is left. -/
theorem blamed_heard_iff (h : Lawful rs) :
    Ledger.Blamed (rs.map heard) reason ↔ ∃ before p after, Opens rs before p reason after := by
  constructor
  · rintro ⟨told, tail, he, none, always⟩
    -- A place in what was heard is a place in the reports.
    obtain ⟨before, rest, rfl, rfl, hrest⟩ := List.map_eq_append_iff.mp he
    obtain ⟨r, after, rfl, hr, rfl⟩ := List.map_eq_cons_iff.mp hrest
    cases r with
    | awaited p => cases hr
    | rejected p reason' =>
        cases hr
        refine ⟨before, p, after, rfl, ?_, fun mid hm => ?_⟩
        · simpa [leftUnhandled_heard h.of_append] using none
        · exact (leftUnhandled_since h hm).mp (always _ (hm.map heard))
  · rintro ⟨before, p, after, rfl, none, always⟩
    refine ⟨before.map heard, after.map heard, by simp [heard], ?_, ?_⟩
    · rw [leftUnhandled_heard h.of_append]
      exact fun some => some none
    · intro told ht
      obtain ⟨mid, hm, rfl⟩ := List.prefix_map_iff.mp ht
      exact (leftUnhandled_since h hm).mpr (always mid hm)

/-- What is in front stays there until somebody waits for it. -/
theorem foldl_leave_cons (reason : String) (ps : List (P × String)) (hp : .awaited p ∉ after) :
    ∃ qs, after.foldl leave ((p, reason) :: ps) = (p, reason) :: qs := by
  induction after generalizing ps with
  | nil => exact ⟨ps, rfl⟩
  | cons r after ih =>
      obtain ⟨hr, rest⟩ := not_or.mp (List.mem_cons.not.mp hp)
      rw [List.foldl_cons]
      cases r with
      | rejected q reason' => exact ih _ rest
      | awaited q =>
          have hne : p ≠ q := by simpa using hr
          rw [leave, List.eraseP_cons_of_neg (by simpa using hne)]
          exact ih _ rest

/-- The promise that opened what is left is the first of it, unless somebody waits for it. -/
theorem Opens.head?_left (ho : Opens rs before p reason after) (hp : .awaited p ∉ after) :
    (left rs).head? = some (p, reason) := by
  obtain ⟨qs, hqs⟩ := foldl_leave_cons reason [] hp
  have start : leave (left before) (.rejected p reason) = [(p, reason)] := by
    rw [ho.none_before]
    rfl
  rw [ho.split, left, List.foldl_append, List.foldl_cons, ← left, start, hqs]
  rfl

/-- If somebody waits for it, it is not left. -/
theorem Opens.not_mem_left (ho : Opens rs before p reason after) (hp : .awaited p ∈ after)
    (hrs : (rs.filterMap rejected?).Nodup) : (p, reason') ∉ left rs := by
  rw [mem_left_iff hrs]
  rintro ⟨before', after', he, hp'⟩
  rw [ho.split] at hrs
  rw [eq_of_rejected_once hrs (ho.split.symm.trans he)] at hp
  exact hp' hp

/-- Where something is left, a report opened it. -/
theorem exists_opens (h : Lawful rs) (hl : left rs ≠ []) :
    ∃ before p reason after, Opens rs before p reason after := by
  have some : 0 < (ledger rs).outstanding := by
    rwa [outstanding_heard h, List.length_pos_iff]
  obtain ⟨reason, -, blamed⟩ := Ledger.exists_firstReason some
  obtain ⟨before, p, after, ho⟩ := (blamed_heard_iff h).mp blamed
  exact ⟨before, p, reason, after, ho⟩

/-! ### Evaluations -/

/-- The program and the jobs that it leaves all complete, with these reports of promises. -/
inductive Heard {σ ι : Type} (r : Runner σ ι) (limit : Nat) (s : σ) (rs : List (Report P)) :
    Json → Array Event → Prop
  | intro {output events} (hb : (r.body s).outcome = .ok output)
      (hd : Drains r.jobs limit (r.body s).rest none events)
      (hr : rejectionsOf ((r.body s).events ++ events) = rs.map heard) :
      Heard r limit s rs output ((r.body s).events ++ events)

variable {σ ι : Type} {r : Runner σ ι} {limit : Nat} {s : σ} {output : Json}
  {events : Array Event}

theorem Heard.completes (hh : Heard r limit s rs output events) (h : Lawful rs)
    (hl : left rs = []) : Completes r limit s output events := by
  cases hh with
  | intro hb hd hr =>
      refine .intro hb hd ?_
      rw [hr, leftUnhandled_heard h]
      exact fun some => some hl

theorem Heard.fails (hh : Heard r limit s rs output events) (h : Lawful rs)
    (ho : Opens rs before p reason after) :
    Fails r limit s (Fault.unhandledText reason) events := by
  cases hh with
  | intro hb hd hr =>
      refine .unhandled hb hd ?_
      rw [hr, blamed_heard_iff h]
      exact ⟨before, p, after, ho⟩

/-- How the ledger decides after some reports. -/
structure Decides (rs : List (Report P)) : Prop where
  /-- It answers with a reason exactly if a promise is left. -/
  some_iff : (ledger rs).take.1.isSome ↔ ∃ p reason, (p, reason) ∈ left rs
  /-- The answer is the reason that it keeps, and none that is made up. -/
  kept : (ledger rs).take.1 = (ledger rs).firstReason
  /-- Asked again, it has no answer. -/
  again : (ledger rs).take.2.take.1 = none
  /-- Whenever somebody comes to wait for a promise, there is one to subtract. -/
  counts : ∀ before p after, rs = before ++ .awaited p :: after → 0 < (ledger before).outstanding
  /-- Left are the promises that were rejected and that nobody came to wait for since, as far as
  each is rejected once. -/
  left_iff : (rs.filterMap rejected?).Nodup → ∀ p reason, (p, reason) ∈ left rs ↔
    ∃ before after, rs = before ++ .rejected p reason :: after ∧ .awaited p ∉ after
  /-- An evaluation with these reports, of which nothing else fails, succeeds exactly if none is
  left. -/
  evaluated : ∀ {σ ι : Type} (r : Runner σ ι) (limit : Nat) (s : σ) (output : Json)
    (events : Array Event), Heard r limit s rs output events →
      ((∃ out, (evaluate r limit s).1 = .ok out) ↔ left rs = [])

/-- **Faults for rejected promises are decided correctly**, whatever promises are rejected and come
to be waited for, and in whatever order. -/
theorem decides_faults {rs : List (Report P)} (h : Lawful rs) : Decides rs where
  some_iff := by
    have hn : (ledger rs).take.1 = none ↔ left rs = [] := by
      rw [ledger, Ledger.take_eq_none_iff, leftUnhandled_heard h, not_not]
    rw [Option.isSome_iff_ne_none, ne_eq, hn]
    constructor
    · intro hl
      obtain ⟨q, hq⟩ := List.exists_mem_of_ne_nil _ hl
      exact ⟨q.1, q.2, hq⟩
    · rintro ⟨p, reason, hp⟩
      exact List.ne_nil_of_mem hp
  kept := take_eq_firstReason rs
  again := rfl
  counts := by
    intro before p after he
    obtain ⟨reason, hp⟩ := h before p after he
    rw [outstanding_heard (he ▸ h).of_append]
    exact List.length_pos_of_mem hp
  left_iff := fun once _ _ => mem_left_iff once
  evaluated := by
    intro σ ι r limit s output events hh
    constructor
    · rintro ⟨out, hout⟩
      by_contra hl
      obtain ⟨before, p, reason, after, ho⟩ := exists_opens h hl
      rw [outcome_of_fails (hh.fails h ho)] at hout
      cases hout
    · exact fun hl => ⟨_, outcome_of_completes (hh.completes h hl)⟩

/-- Three promises for which somebody comes to wait, one after the other, and a fourth. -/
def lateWaiters : List (Report Nat) :=
  [.rejected 0 "a", .rejected 1 "b", .awaited 0, .rejected 2 "c", .awaited 1, .awaited 2,
    .rejected 3 "d"]

theorem lawful_lateWaiters : Lawful lateWaiters :=
  ((((((lawful_nil.rejected 0 "a").rejected 1 "b").awaited 0 "a" (by decide)).rejected 2 "c").awaited
    1 "b" (by decide)).awaited 2 "c" (by decide)).rejected 3 "d"

theorem late_waiters_decided :
    Lawful lateWaiters ∧ Decides lateWaiters ∧ left lateWaiters = [(3, "d")] ∧
      (ledger lateWaiters).take.1 = some "d" :=
  ⟨lawful_lateWaiters, decides_faults lawful_lateWaiters, rfl, rfl⟩

/-- Whose reason the ledger tells after some reports. -/
structure NamesOpener (rs : List (Report P)) : Prop where
  /-- It is the reason of the promise that was rejected when none was left, since when one always
  was. -/
  told_iff : ∀ reason, (ledger rs).take.1 = some reason ↔
    ∃ before p after, Opens rs before p reason after
  /-- An evaluation of which nothing else fails, fails with that reason. -/
  evaluated : ∀ {σ ι : Type} (r : Runner σ ι) (limit : Nat) (s : σ) (output : Json)
    (events : Array Event), Heard r limit s rs output events →
      ∀ before p reason after, Opens rs before p reason after →
        (evaluate r limit s).1 = .error ⟨Fault.unhandledText reason, linesOf events⟩
  /-- Unless somebody came to wait for it since, that promise is left, and it is the one that was
  rejected first. -/
  first_left : ∀ before p reason after, Opens rs before p reason after → .awaited p ∉ after →
    (left rs).head? = some (p, reason)
  /-- If somebody did, the promise is not left. -/
  not_left : (rs.filterMap rejected?).Nodup → ∀ before p reason after,
    Opens rs before p reason after → .awaited p ∈ after → ∀ reason', (p, reason') ∉ left rs

/-- **The reason that is told** is that of the promise which opened what is left. It is the first
that is left itself exactly as long as nobody came to wait for it. -/
theorem names_opener {rs : List (Report P)} (h : Lawful rs) : NamesOpener rs where
  told_iff := by
    intro reason
    rw [ledger, Ledger.take_eq_some_iff, blamed_heard_iff h]
  evaluated := fun r limit s output events hh before p reason after ho =>
    outcome_of_fails (hh.fails h ho)
  first_left := fun before p reason after ho hp => ho.head?_left hp
  not_left := fun once before p reason after ho hp reason' => ho.not_mem_left hp once

/-- A promise for which somebody comes to wait, and then two more, of which the later one is waited
for. -/
def firstKept : List (Report Nat) :=
  [.rejected 0 "a", .awaited 0, .rejected 1 "b", .rejected 2 "c", .awaited 2]

theorem first_rejected_named :
    Lawful firstKept ∧ NamesOpener firstKept ∧
      (∃ before p after, Opens firstKept before p "b" after) ∧
      (left firstKept).head? = some (1, "b") := by
  have lawful : Lawful firstKept :=
    ((((lawful_nil.rejected 0 "a").awaited 0 "a" (by decide)).rejected 1 "b").rejected 2
      "c").awaited 2 "c" (by decide)
  have names := names_opener lawful
  exact ⟨lawful, names, (names.told_iff "b").mp rfl, rfl⟩

/-- Two promises, for the first of which somebody comes to wait. -/
def firstAwaited : List (Report Nat) := [.rejected 0 "a", .rejected 1 "b", .awaited 0]

/-- **The reason of a promise that somebody waits for** may be told, while another one is left:
the reason that was kept first stays as long as any promise is left. -/
theorem awaited_promise_named :
    Lawful firstAwaited ∧ (ledger firstAwaited).take.1 = some "a" ∧
      left firstAwaited = [(1, "b")] ∧ ¬ ∃ p, (p, "a") ∈ left firstAwaited := by
  have lawful : Lawful firstAwaited :=
    ((lawful_nil.rejected 0 "a").rejected 1 "b").awaited 0 "a" (by decide)
  have lone : left firstAwaited = [(1, "b")] := rfl
  exact ⟨lawful, rfl, lone, by simp [lone]⟩

end

end Report

end PatchSandbox
