import Mathlib.Data.List.Forall2
import PatchSandbox.Machine.Bindings

/-!
# What a call of the bridge sees

A function of the bridge looks at its arguments, and to look at one may run code of the script and
fail. It always returns, and it has one effect at most.

* **`Sight`** is an argument as the host sees it: what it is, and what comes of making its JSON form
  and of turning it into a text.
* **`Sees`** says what a call gets to see, in the order in which it looks, and in which state that
  leaves the machine. There is always something to see.
* **`runBridge_of_sees`** is all that a call does: its effect is decided by what it sees.
* **`events_of_sees`** says that to look at arguments without code shows the host nothing.

Every statement is about any state that the machine may be in.
-/

namespace PatchSandbox.Machine

/-! ### Arguments -/

/-- What comes of making a text of an argument. -/
inductive Making where
  | text (t : String)
  /-- There is no text. -/
  | nothing
  /-- Making it fails. -/
  | failed

/-- The text that was made. -/
def Making.text? : Making → Option String
  | .text t => some t
  | .nothing => none
  | .failed => none

/-- An argument as the host sees it. -/
structure Sight where
  string? : Option String
  number? : Option Float
  bool? : Option Bool
  /-- The JSON form. -/
  json : Making
  /-- The text that the argument is turned into. -/
  coerced : Making
  /-- What kind of value the argument is. -/
  kind : String

/-- What the functions of the bridge go by. -/
def Sight.view (d : Sight) : View Id where
  string? := d.string?
  number? := d.number?
  bool? := d.bool?
  json? := d.json.text?
  coerced? := d.coerced.text?
  typeName := d.kind

/-- How an argument is shown: a text as it is, else the JSON form, else the text that it is turned
into, else its kind. -/
def Sight.shown (d : Sight) : String :=
  (d.string?.or (d.json.text?.or d.coerced.text?)).getD ("[" ++ d.kind ++ "]")

/-- What is seen of a value at once. -/
structure Describes (i : Interp) (s : State) (v : Value) (d : Sight) : Prop where
  string : ∀ t, d.string? = some t ↔ ∃ u, v = .string u ∧ u.toString? = some t
  number : ∀ x, d.number? = some x ↔ v = .number x
  bool : ∀ b, d.bool? = some b ↔ v = .bool b
  kind : kindName v i s = .ok d.kind s

/-- What comes of making a text, and the state after that. Where the host cannot read what is made
there is no text, and a run that is given up meanwhile goes on for the host. -/
inductive Makes {α : Type} (i : Interp) (x : M α) (read : α → Option String) (s : State) :
    Making → State → Prop
  | text {a t s'} (h : x i s = .ok a s') (ht : read a = some t) : Makes i x read s (.text t) s'
  | nothing {a s'} (h : x i s = .ok a s') (ht : read a = none) : Makes i x read s .nothing s'
  | thrown {v s'} (h : x i s = .error (.thrown v) s') : Makes i x read s .failed s'
  | interrupted {s'} (h : x i s = .error .interrupted s') :
      Makes i x read s .failed
        { s' with frame := s.frame, callers := s.callers, depth := s.depth, steps := graceSteps }

/-- What comes of making the JSON form of a value. -/
def MakesJson (i : Interp) (v : Value) : State → Making → State → Prop :=
  Makes i (serialize {} v) fun u => u.bind Text.CodeUnits.toString?

/-- What comes of turning a value into a text. -/
def MakesText (i : Interp) (v : Value) : State → Making → State → Prop :=
  Makes i (toText v) Text.CodeUnits.toString?

/-- What a line needs to know of an argument: nothing more of a text, else the JSON form, and where
there is none the text that the argument is turned into. -/
inductive Shows (i : Interp) (v : Value) (d : Sight) : State → State → Prop
  | string {s} (h : d.string?.isSome = true) : Shows i v d s s
  | json {s s'} (h : d.string? = none) (hj : MakesJson i v s d.json s')
      (ht : d.json.text?.isSome = true) : Shows i v d s s'
  | coerced {s s₁ s'} (h : d.string? = none) (hj : MakesJson i v s d.json s₁)
      (ht : d.json.text? = none) (hc : MakesText i v s₁ d.coerced s') : Shows i v d s s'

/-- What a line needs to know of its arguments, one after the other. -/
inductive ShowsAll (i : Interp) : List Value → List Sight → State → State → Prop
  | nil {s} : ShowsAll i [] [] s s
  | cons {v vs d ds s s₁ s'} (h : Shows i v d s s₁) (rest : ShowsAll i vs ds s₁ s') :
      ShowsAll i (v :: vs) (d :: ds) s s'

/-- What a function looks into: `emit` and `removeEntities` into the JSON form of the first
argument, the console into all arguments, the others into none. -/
inductive Looks (i : Interp) : BridgeFunction → List Value → List Sight → State → State → Prop
  | setRule {vs ds s} : Looks i .setRule vs ds s s
  | setAbility {vs ds s} : Looks i .setAbility vs ds s s
  | nothing {f s} (hf : f = .emit ∨ f = .removeEntities) : Looks i f [] [] s s
  | first {f v vs d ds s s'} (hf : f = .emit ∨ f = .removeEntities)
      (h : MakesJson i v s d.json s') : Looks i f (v :: vs) (d :: ds) s s'
  | console {vs ds s s'} (h : ShowsAll i vs ds s s') : Looks i .console vs ds s s'

/-- What a call sees of its arguments, and the state after it has looked. -/
structure Sees (i : Interp) (f : BridgeFunction) (args : List Value) (ds : List Sight)
    (s s' : State) : Prop where
  described : List.Forall₂ (Describes i s) args ds
  looked : Looks i f args ds s s'

/-! ### There is always something to see -/

theorem ok_bind {α β : Type} {m : M α} {f : α → M β} {i : Interp} {s s' : State} {a : α}
    (h : m i s = .ok a s') : (m >>= f) i s = f a i s' := by
  change EStateM.bind (m i) (fun a => f a i) s = _
  unfold EStateM.bind
  rw [h]

theorem exists_makes {α : Type} (i : Interp) (x : M α) (read : α → Option String) (s : State) :
    ∃ m s', Makes i x read s m s' := by
  cases h : x i s with
  | ok a s' =>
      cases ht : read a with
      | none => exact ⟨_, _, .nothing h ht⟩
      | some t => exact ⟨_, _, .text h ht⟩
  | error e s' =>
      cases e with
      | thrown v => exact ⟨_, _, .thrown h⟩
      | interrupted => exact ⟨_, _, .interrupted h⟩

theorem exists_makesJson (i : Interp) (v : Value) (s : State) : ∃ m s', MakesJson i v s m s' :=
  exists_makes i _ _ s

theorem exists_makesText (i : Interp) (v : Value) (s : State) : ∃ m s', MakesText i v s m s' :=
  exists_makes i _ _ s

theorem getKind_ok (i : Interp) (r : Ref) (s : State) :
    getKind r i s = .ok (s.objects.getD r.index default).kind s := rfl

/-- Whether an object is a constructor is known without running anything, -/
theorem exists_isConstructor (i : Interp) (r : Ref) (s : State) :
    ∃ b, isConstructor r i s = .ok b s := by
  unfold isConstructor
  rw [ok_bind (getKind_ok i r s)]
  cases (s.objects.getD r.index default).kind with
  | bound target receiver args =>
      dsimp only
      rw [ok_bind (getKind_ok i target s)]
      cases (s.objects.getD target.index default).kind <;> exact ⟨_, rfl⟩
  | _ => exact ⟨_, rfl⟩

/-- and so is the kind of a value. -/
theorem exists_kind (i : Interp) (v : Value) (s : State) : ∃ name, kindName v i s = .ok name s := by
  have callable (r : Ref) (k : Kind) : ∃ name, (do
      if !k.isCallable then return "object"
      else if ← isConstructor r then return "constructor"
      else return "function" : M String) i s = .ok name s := by
    cases k.isCallable with
    | false => exact ⟨_, rfl⟩
    | true =>
        obtain ⟨b, hb⟩ := exists_isConstructor i r s
        simp only [Bool.not_true, Bool.false_eq_true, if_false]
        rw [ok_bind hb]
        cases b <;> exact ⟨_, rfl⟩
  cases v with
  | object r =>
      unfold kindName
      dsimp only
      rw [ok_bind (getKind_ok i r s)]
      cases (s.objects.getD r.index default).kind with
      | array _ _ _ => exact ⟨_, rfl⟩
      | error => exact ⟨_, rfl⟩
      | promise _ _ => exact ⟨_, rfl⟩
      | _ => exact callable r _
  | _ => exact ⟨_, rfl⟩

/-- Every value can be described, whatever comes of making its texts. -/
theorem exists_describes (i : Interp) (v : Value) (s : State) (json coerced : Making) :
    ∃ d, Describes i s v d ∧ d.json = json ∧ d.coerced = coerced := by
  obtain ⟨kind, hk⟩ := exists_kind i v s
  refine ⟨⟨(viewOf kind v).string?, (viewOf kind v).number?, (viewOf kind v).bool?, json, coerced,
    kind⟩, ⟨fun t => ?_, fun x => ?_, fun b => ?_, hk⟩, rfl, rfl⟩ <;>
  cases v <;> simp [viewOf]

theorem exists_describes_all (i : Interp) (vs : List Value) (s : State) :
    ∃ ds, List.Forall₂ (Describes i s) vs ds := by
  induction vs with
  | nil => exact ⟨[], .nil⟩
  | cons v vs ih =>
      obtain ⟨ds, hds⟩ := ih
      obtain ⟨d, hd, -⟩ := exists_describes i v s .nothing .nothing
      exact ⟨d :: ds, .cons hd hds⟩

theorem exists_shows (i : Interp) (v : Value) (s₀ s : State) :
    ∃ d s', Describes i s₀ v d ∧ Shows i v d s s' := by
  obtain ⟨json, s₁, hj⟩ := exists_makesJson i v s
  obtain ⟨coerced, s₂, hc⟩ := exists_makesText i v s₁
  obtain ⟨d, hd, rfl, rfl⟩ := exists_describes i v s₀ json coerced
  cases hs : d.string? with
  | some t => exact ⟨d, s, hd, .string (by simp [hs])⟩
  | none =>
      cases ht : d.json.text? with
      | some t => exact ⟨d, s₁, hd, .json hs hj (by simp [ht])⟩
      | none => exact ⟨d, s₂, hd, .coerced hs hj ht hc⟩

theorem exists_showsAll (i : Interp) (vs : List Value) (s₀ s : State) :
    ∃ ds s', List.Forall₂ (Describes i s₀) vs ds ∧ ShowsAll i vs ds s s' := by
  induction vs generalizing s with
  | nil => exact ⟨[], s, .nil, .nil⟩
  | cons v vs ih =>
      obtain ⟨d, s₁, hd, h⟩ := exists_shows i v s₀ s
      obtain ⟨ds, s', hds, rest⟩ := ih s₁
      exact ⟨d :: ds, s', .cons hd hds, .cons h rest⟩

theorem exists_sees_first (i : Interp) {f : BridgeFunction} (hf : f = .emit ∨ f = .removeEntities)
    (vs : List Value) (s : State) : ∃ ds s', Sees i f vs ds s s' := by
  cases vs with
  | nil => exact ⟨[], s, .nil, .nothing hf⟩
  | cons v vs =>
      obtain ⟨json, s', hj⟩ := exists_makesJson i v s
      obtain ⟨d, hd, rfl, -⟩ := exists_describes i v s json .nothing
      obtain ⟨ds, hds⟩ := exists_describes_all i vs s
      exact ⟨d :: ds, s', .cons hd hds, .first hf hj⟩

/-- Whatever a call is given, in whatever state, it sees something. -/
theorem exists_sees (i : Interp) (f : BridgeFunction) (vs : List Value) (s : State) :
    ∃ ds s', Sees i f vs ds s s' := by
  cases f with
  | emit => exact exists_sees_first i (.inl rfl) vs s
  | removeEntities => exact exists_sees_first i (.inr rfl) vs s
  | setRule =>
      obtain ⟨ds, hds⟩ := exists_describes_all i vs s
      exact ⟨ds, s, hds, .setRule⟩
  | setAbility =>
      obtain ⟨ds, hds⟩ := exists_describes_all i vs s
      exact ⟨ds, s, hds, .setAbility⟩
  | console =>
      obtain ⟨ds, s', hds, h⟩ := exists_showsAll i vs s s
      exact ⟨ds, s', hds, .console h⟩

/-! ### What a call does -/

section

variable {i : Interp} {s s' : State}

theorem attempted {α : Type} {x : M α} {read : α → Option String} {m : Making}
    (h : Makes i x read s m s') :
    ∃ r, attemptForHost x i s = .ok r s' ∧ r.bind read = m.text? := by
  unfold attemptForHost
  cases h with
  | text h ht => exact ⟨some _, by rw [h], ht⟩
  | nothing h ht => exact ⟨some _, by rw [h], ht⟩
  | thrown h => exact ⟨none, by rw [h], rfl⟩
  | interrupted h => exact ⟨none, by rw [h], rfl⟩

theorem json_of_makes {v : Value} {m : Making} (name : String) (h : MakesJson i v s m s') :
    (viewOf name v).json? i s = .ok m.text? s' := by
  obtain ⟨r, hr, ht⟩ := attempted h
  refine (ok_bind hr).trans ?_
  rw [← ht]
  rcases r with _ | _ | u <;> rfl

theorem coerced_of_makes {v : Value} {m : Making} (name : String) (h : MakesText i v s m s') :
    (viewOf name v).coerced? i s = .ok m.text? s' := by
  obtain ⟨r, hr, ht⟩ := attempted h
  refine (ok_bind hr).trans ?_
  rw [← ht]
  rcases r with _ | u <;> rfl

/-- How the host sees an argument that is described so. -/
def Sight.viewOf (d : Sight) (v : Value) : View M := Machine.viewOf d.kind v

theorem Describes.string? {v : Value} {d : Sight} (h : Describes i s v d) :
    (d.viewOf v).string? = d.string? := by
  ext t
  rw [h.string]
  cases v <;> simp [Sight.viewOf, Machine.viewOf]

theorem Describes.number? {v : Value} {d : Sight} (h : Describes i s v d) :
    (d.viewOf v).number? = d.number? := by
  ext t
  rw [h.number]
  cases v <;> simp [Sight.viewOf, Machine.viewOf]

theorem Describes.bool? {v : Value} {d : Sight} (h : Describes i s v d) :
    (d.viewOf v).bool? = d.bool? := by
  ext t
  rw [h.bool]
  cases v <;> simp [Sight.viewOf, Machine.viewOf]

theorem views_of_described {vs : List Value} {ds : List Sight}
    (h : List.Forall₂ (Describes i s) vs ds) :
    vs.mapM view i s = .ok (List.zipWith (fun v d => d.viewOf v) vs ds) s := by
  induction h with
  | nil => rfl
  | cons hd _ ih =>
      rw [List.mapM_cons, ok_bind (ok_bind hd.kind), ok_bind ih]
      rfl

/-- A JSON form that was made is read by the host. -/
theorem toJson_of_makes {v : Value} {d : Sight} (h : MakesJson i v s d.json s') :
    (d.viewOf v).toJson i s = .ok (View.toJson d.view) s' := by
  refine (ok_bind (json_of_makes d.kind h)).trans ?_
  have seen : d.view.json? = d.json.text? := rfl
  unfold View.toJson
  rw [seen]
  cases d.json.text? <;> rfl

theorem describe_of_shows {v : Value} {d : Sight} {s₀ : State} (hd : Describes i s₀ v d)
    (h : Shows i v d s s') : (d.viewOf v).describe i s = .ok d.shown s' := by
  unfold View.describe Sight.shown
  rw [hd.string?]
  cases h with
  | string h =>
      obtain ⟨t, ht⟩ := Option.isSome_iff_exists.mp h
      rw [ht]
      rfl
  | json hs hj ht =>
      obtain ⟨t, ht⟩ := Option.isSome_iff_exists.mp ht
      rw [hs]
      refine (ok_bind (json_of_makes d.kind hj)).trans ?_
      rw [ht]
      rfl
  | coerced hs hj ht hc =>
      rw [hs]
      refine (ok_bind (json_of_makes d.kind hj)).trans ?_
      rw [ht]
      refine (ok_bind (coerced_of_makes d.kind hc)).trans ?_
      cases d.coerced.text? <;> rfl

/-- Every argument is shown, one after the other. -/
theorem describe_of_showsAll {vs : List Value} {ds : List Sight} {s₀ : State}
    (hd : List.Forall₂ (Describes i s₀) vs ds) (h : ShowsAll i vs ds s s') :
    (List.zipWith (fun v d => Sight.viewOf d v) vs ds).mapM View.describe i s =
      .ok (ds.map Sight.shown) s' := by
  induction h with
  | nil => rfl
  | cons h rest ih =>
      obtain ⟨hv, hvs⟩ := List.forall₂_cons.mp hd
      rw [List.zipWith_cons_cons, List.mapM_cons, ok_bind (describe_of_shows hv h),
        ok_bind (ih hvs)]
      rfl

theorem describe_view (d : Sight) : View.describe d.view = d.shown := by
  obtain ⟨string?, number?, bool?, json, coerced, kind⟩ := d
  cases string? with
  | some t => rfl
  | none =>
      cases json with
      | text t => rfl
      | _ => cases coerced <;> rfl

/-- The effect of a call that sees this. -/
def effectOf (f : BridgeFunction) (ds : List Sight) : Option Entry :=
  BridgeFunction.respond (m := Id) f (ds.map Sight.view)

/-- A line shows the arguments, with blanks between them. -/
theorem effectOf_console (ds : List Sight) :
    effectOf .console ds = some (.line (" ".intercalate (ds.map Sight.shown))) := by
  have shown : (ds.map Sight.view).mapM View.describe = (ds.map Sight.shown : Id _) := by
    induction ds with
    | nil => rfl
    | cons d ds ih =>
        rw [List.map_cons, List.mapM_cons, describe_view, ih]
        rfl
  change (some <$> Entry.line <$> (" ".intercalate <$> (ds.map Sight.view).mapM View.describe) :
    Id _) = _
  rw [shown]
  rfl

/-- A call is answered by what it sees. -/
theorem respond_of_sees {f : BridgeFunction} {vs : List Value} {ds : List Sight}
    (h : Sees i f vs ds s s') :
    f.respond (List.zipWith (fun v d => Sight.viewOf d v) vs ds) i s =
      .ok (effectOf f ds) s' := by
  obtain ⟨hd, hl⟩ := h
  cases hl with
  | setRule =>
      rcases hd with _ | ⟨hd₁, _ | ⟨hd₂, hds⟩⟩
      case cons.cons =>
        unfold effectOf BridgeFunction.respond
        simp only [List.zipWith_cons_cons, List.map_cons, hd₁.string?, hd₂.number?, Sight.view]
        generalize Sight.string? _ = path
        generalize Sight.number? _ = value
        cases path <;> cases value <;> rfl
      all_goals rfl
  | setAbility =>
      rcases hd with _ | ⟨hd₁, _ | ⟨hd₂, hds⟩⟩
      case cons.cons =>
        unfold effectOf BridgeFunction.respond
        simp only [List.zipWith_cons_cons, List.map_cons, hd₁.string?, hd₂.bool?, Sight.view]
        generalize Sight.string? _ = name
        generalize Sight.bool? _ = active
        cases name <;> cases active <;> rfl
      all_goals rfl
  | nothing hf => rcases hf with rfl | rfl <;> rfl
  | first hf hm =>
      rcases hf with rfl | rfl
      · exact ok_bind (toJson_of_makes hm)
      · refine (ok_bind (toJson_of_makes hm)).trans ?_
        unfold effectOf
        rw [List.map_cons]
        unfold BridgeFunction.respond
        dsimp only
        generalize View.toJson (Sight.view _) = filter
        cases filter with
        | none => rfl
        | some filter =>
            change (if filter.isObject then _ else _ : M _) i s' =
              .ok (if filter.isObject then _ else _) s'
            split <;> rfl
  | console h =>
      rw [effectOf_console]
      exact ok_bind (describe_of_showsAll hd h)

/-- The state after an effect. -/
def State.after (s : State) : Option Entry → State
  | some e => { s with events := s.events.push (.effect e) }
  | none => s

/-- All that a call does: it looks at its arguments, and what it sees decides on its effect. -/
theorem runBridge_of_sees {f : BridgeFunction} {c : Call} {ds : List Sight}
    (h : Sees i f c.args.toList ds s s') :
    runBridge f c i s = .ok .undefined (s'.after (effectOf f ds)) := by
  unfold runBridge
  rw [ok_bind (views_of_described h.described), ok_bind (respond_of_sees h)]
  cases effectOf f ds <;> rfl

end

/-! ### Arguments without code -/

/-- A value of which a text is made without running code of the script. -/
def Value.isPlain : Value → Bool
  | .object _ => false
  | .bigint _ => false
  | _ => true

/-- The state in which something ends, however it ends. -/
def endOf {α : Type} : EStateM.Result Abrupt State α → State
  | .ok _ s => s
  | .error _ s => s

/-- The host is shown nothing meanwhile. -/
def Unseen {α : Type} (x : M α) : Prop := ∀ i s, (endOf (x i s)).events = s.events

theorem Unseen.events {α : Type} {x : M α} {i : Interp} {s : State}
    {r : EStateM.Result Abrupt State α} (hx : Unseen x) (h : x i s = r) :
    (endOf r).events = s.events :=
  h ▸ hx i s

theorem unseen_bind {α β : Type} {x : M α} {f : α → M β} (hx : Unseen x)
    (hf : ∀ a, Unseen (f a)) : Unseen (x >>= f) := by
  intro i s
  change (endOf (EStateM.bind (x i) (fun a => f a i) s)).events = _
  unfold EStateM.bind
  cases h : x i s with
  | ok a s₁ => exact (hf a i s₁).trans (hx.events h)
  | error e s₁ => exact hx.events h

theorem unseen_pure {α : Type} (a : α) : Unseen (pure a) := fun _ _ => rfl

theorem unseen_fail {α : Type} (kind : ErrorKind) (message : String) :
    Unseen (fail kind message : M α) := fun _ _ => rfl

theorem unseen_charge (bytes : Nat) : Unseen (charge bytes) := by
  refine unseen_bind (fun i s => ?_) fun beyond => ?_
  · change (if bytes > s.memoryLimit then s else { s with used := s.used + bytes }).events = _
    split <;> rfl
  · cases beyond with
    | true => exact unseen_fail .internalError _
    | false => exact unseen_pure _

theorem unseen_toText {v : Value} (hv : v.isPlain = true) : Unseen (toText v) := by
  cases v with
  | symbol _ => exact unseen_fail .typeError _
  | object _ => cases hv
  | _ => exact unseen_pure _

theorem prepareValue_plain {v : Value} (hv : v.isPlain = true) (holder : Value) (key : Key) :
    prepareValue {} holder key v = pure v := by
  cases v with
  | object _ => cases hv
  | bigint _ => cases hv
  | _ => rfl

theorem unseen_writeValue {v : Value} (hv : v.isPlain = true) (fuel : Nat) (path : List Ref)
    (margin : Text.CodeUnits) (acc : Array UInt16) :
    Unseen (writeValue {} (fuel + 1) path margin acc v) := by
  unfold writeValue
  cases v with
  | object _ => cases hv
  | bigint _ => cases hv
  | _ => exact unseen_pure _

theorem unseen_serialize {v : Value} (hv : v.isPlain = true) : Unseen (serialize {} v) := by
  unfold serialize
  simp only [pure_bind, prepareValue_plain hv]
  refine unseen_bind (unseen_writeValue hv 1999 [] ∅ #[]) fun written => ?_
  cases written.2 with
  | true => exact unseen_bind (unseen_charge _) fun _ => unseen_pure _
  | false => exact unseen_pure _

theorem events_of_makes {α : Type} {i : Interp} {x : M α} {read : α → Option String}
    {s s' : State} {m : Making} (hx : Unseen x) (h : Makes i x read s m s') :
    s'.events = s.events := by
  cases h with
  | text h _ => exact hx.events h
  | nothing h _ => exact hx.events h
  | thrown h => exact hx.events h
  | interrupted h => exact hx.events h

theorem events_of_showsAll {i : Interp} {vs : List Value} {ds : List Sight} {s s' : State}
    (hv : ∀ v ∈ vs, v.isPlain = true) (h : ShowsAll i vs ds s s') : s'.events = s.events := by
  induction h with
  | nil => rfl
  | cons h rest ih =>
      obtain ⟨hv, hvs⟩ := List.forall_mem_cons.mp hv
      refine (ih hvs).trans ?_
      cases h with
      | string _ => rfl
      | json _ hj _ => exact events_of_makes (unseen_serialize hv) hj
      | coerced _ hj _ hc =>
          exact (events_of_makes (unseen_toText hv) hc).trans
            (events_of_makes (unseen_serialize hv) hj)

/-- To look at plain arguments shows the host nothing. -/
theorem events_of_sees {i : Interp} {f : BridgeFunction} {vs : List Value} {ds : List Sight}
    {s s' : State} (hv : ∀ v ∈ vs, v.isPlain = true) (h : Sees i f vs ds s s') :
    s'.events = s.events := by
  cases h.looked with
  | setRule => rfl
  | setAbility => rfl
  | nothing _ => rfl
  | first _ h => exact events_of_makes (unseen_serialize (hv _ (List.mem_cons_self ..))) h
  | console h => exact events_of_showsAll hv h

end PatchSandbox.Machine
