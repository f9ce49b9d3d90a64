import StoryPress.Story.Directive

/-! What a directive does on a store is told by four readings of its functions: whether it fires,
what it runs, what it writes and why it fails. A dispatch folds them over the directives, each on
the store that the directives before it left, and stops before the first one that fails. -/
namespace StoryPress.Story

open StoryPress.Json (Value)

namespace Directive

def fault? {α : Type} : Except Fault α → Option Fault
  | .error fault => some fault
  | .ok _ => none

/-- A directive fires without a condition or with a true one. -/
def fires (d : Directive) (store : Store) : Bool :=
  match d.condition with
  | none => true
  | some condition =>
    match condition store.get? with
    | .ok holds => holds
    | .error _ => false

/-- The functions that are run: a condition always, the value only if the directive fires. -/
def callsOn (d : Directive) (store : Store) : List Call :=
  (if d.isConditional then [.condition d.name] else []) ++
    (if d.fires store then [.value d.name] else [])

def valueOn (d : Directive) (store : Store) : Option Value :=
  if d.fires store then (d.value store.get?).toOption else none

def writeOn (d : Directive) (store : Store) : Option (String × Value) :=
  (d.valueOn store).map fun value => (d.name, value)

def failureOn (d : Directive) (store : Store) : Option RenderError :=
  let conditionFault := d.condition.bind fun condition => fault? (condition store.get?)
  let valueFault := if d.fires store then fault? (d.value store.get?) else none
  (conditionFault.map (.condition d.name)).or (valueFault.map (.value d.name))

/-- The four readings tell all that a run does. -/
theorem run_eq (d : Directive) (store : Store) :
    d.run store.get? =
      (d.callsOn store,
        match d.failureOn store with
        | some e => .error e
        | none => .ok (d.valueOn store)) := by
  cases hc : d.condition with
  | none =>
    have hfires : d.fires store = true := by simp [fires, hc]
    cases hv : d.value store.get? <;>
      simp [run, callsOn, failureOn, valueOn, isConditional, fault?, Except.toOption, hc, hv,
        hfires]
  | some condition =>
    cases hb : condition store.get? with
    | error fault =>
      have hfires : d.fires store = false := by simp [fires, hc, hb]
      simp [run, callsOn, failureOn, isConditional, fault?, hc, hb, hfires]
    | ok holds =>
      have hfires : d.fires store = holds := by simp [fires, hc, hb]
      cases holds with
      | false => simp [run, callsOn, failureOn, valueOn, isConditional, fault?, hc, hb, hfires]
      | true =>
        cases hv : d.value store.get? <;>
          simp [run, callsOn, failureOn, valueOn, isConditional, fault?, Except.toOption, hc, hb,
            hv, hfires]

end Directive

/-- The store that a directive leaves. -/
def Directive.after (d : Directive) (store : Store) : Store :=
  store.setAll (d.writeOn store).toList

/-- The writes of directives in order, each told by the store that the ones before it left. -/
def fired : List Directive → Store → List (String × Value)
  | [], _ => []
  | d :: rest, store => (d.writeOn store).toList ++ fired rest (d.after store)

def callsOf : List Directive → Store → List Directive.Call
  | [], _ => []
  | d :: rest, store => d.callsOn store ++ callsOf rest (d.after store)

/-- The store that directives leave. -/
def storeAfter (directives : List Directive) (seed : Store) : Store :=
  seed.setAll (fired directives seed)

/-- Every directive passes on the store that the ones before it left. -/
def Passes (directives : List Directive) (seed : Store) : Prop :=
  ∀ before d after, directives = before ++ d :: after →
    d.failureOn (storeAfter before seed) = none

theorem storeAfter_cons (d : Directive) (rest : List Directive) (seed : Store) :
    storeAfter (d :: rest) seed = storeAfter rest (d.after seed) := by
  simp [storeAfter, fired, Store.setAll_append, Directive.after]

theorem storeAfter_append (first later : List Directive) (seed : Store) :
    storeAfter (first ++ later) seed = storeAfter later (storeAfter first seed) := by
  induction first generalizing seed with
  | nil => rfl
  | cons d rest ih => rw [List.cons_append, storeAfter_cons, storeAfter_cons, ih]

theorem passes_nil (seed : Store) : Passes [] seed := by
  intro before d after h
  simp at h

theorem passes_cons {d : Directive} {rest : List Directive} {seed : Store}
    (hd : d.failureOn seed = none) (hrest : Passes rest (d.after seed)) :
    Passes (d :: rest) seed := by
  intro before e after h
  cases before with
  | nil =>
    obtain ⟨rfl, -⟩ := List.cons.inj h
    exact hd
  | cons first before =>
    obtain ⟨rfl, hrest'⟩ := List.cons.inj h
    rw [storeAfter_cons]
    exact hrest before e after hrest'

theorem dispatch_of_failure {d : Directive} {rest : List Directive} {seed : Store}
    {e : RenderError} (h : d.failureOn seed = some e) :
    dispatch (d :: rest) seed = ⟨seed, d.callsOn seed, some e⟩ := by
  rw [dispatch, Directive.run_eq, h]

theorem dispatch_of_no_failure {d : Directive} {rest : List Directive} {seed : Store}
    (h : d.failureOn seed = none) :
    dispatch (d :: rest) seed =
      { dispatch rest (d.after seed) with
        calls := d.callsOn seed ++ (dispatch rest (d.after seed)).calls } := by
  rw [dispatch, Directive.run_eq, h]
  cases hv : d.valueOn seed with
  | none => simp [Directive.after, Directive.writeOn, hv, Store.setAll]
  | some value => simp [Directive.after, Directive.writeOn, hv, Store.setAll]

/-- Where a dispatch ends: after all directives, or at the first one that fails. -/
inductive Ends (seed : Store) (passed : List Directive) :
    List Directive → Option RenderError → List Directive.Call → Prop
  | complete : Ends seed passed [] none (callsOf passed seed)
  | failed {d : Directive} {rest : List Directive} {e : RenderError}
      (failure : d.failureOn (storeAfter passed seed) = some e) :
      Ends seed passed (d :: rest) (some e)
        (callsOf passed seed ++ d.callsOn (storeAfter passed seed))

theorem Ends.cons {seed : Store} {d : Directive} {passed later : List Directive}
    {error : Option RenderError} {calls : List Directive.Call}
    (h : Ends (d.after seed) passed later error calls) :
    Ends seed (d :: passed) later error (d.callsOn seed ++ calls) := by
  cases h with
  | complete => exact .complete
  | failed failure =>
    rw [← List.append_assoc, ← storeAfter_cons]
    rw [← storeAfter_cons] at failure
    exact .failed failure

theorem dispatch_ends (directives : List Directive) (seed : Store) :
    ∃ passed later, directives = passed ++ later ∧ Passes passed seed ∧
      (dispatch directives seed).store = storeAfter passed seed ∧
      Ends seed passed later (dispatch directives seed).error (dispatch directives seed).calls := by
  induction directives generalizing seed with
  | nil => exact ⟨[], [], rfl, passes_nil seed, rfl, .complete⟩
  | cons d rest ih =>
    cases hd : d.failureOn seed with
    | some e =>
      rw [dispatch_of_failure hd]
      exact ⟨[], d :: rest, rfl, passes_nil seed, rfl, .failed hd⟩
    | none =>
      obtain ⟨passed, later, hsplit, hpasses, hstore, hends⟩ := ih (d.after seed)
      rw [dispatch_of_no_failure hd]
      refine ⟨d :: passed, later, by rw [hsplit, List.cons_append], passes_cons hd hpasses, ?_, ?_⟩
      · rw [storeAfter_cons]
        exact hstore
      · exact hends.cons

theorem store_dispatch {directives : List Directive} {seed : Store}
    (h : (dispatch directives seed).error = none) :
    (dispatch directives seed).store = storeAfter directives seed := by
  obtain ⟨passed, later, hsplit, -, hstore, hends⟩ := dispatch_ends directives seed
  have hlater : later = [] := by
    rw [h] at hends
    generalize (dispatch directives seed).calls = calls at hends
    cases hends
    rfl
  rw [hstore, hsplit, hlater, List.append_nil]

/-- A dispatch folds the directives over the store up to the first one that fails. The log grows by
the writes of those that fired, and the last write to a name is its value. -/
theorem dispatch_lazy_fold (directives : List Directive) (seed : Store) :
    (∃ passed later, directives = passed ++ later ∧ Passes passed seed ∧
      let ended := dispatchUnless false directives seed
      ended.store = storeAfter passed seed ∧
      ended.store.writes = seed.writes ++ fired passed seed ∧
      (∀ name, ended.store.get? name =
        ((fired passed seed).reverse.lookup name).or (seed.get? name)) ∧
      Ends seed passed later ended.error ended.calls) ∧
    dispatchUnless true directives seed = ⟨seed, [], none⟩ := by
  obtain ⟨passed, later, hsplit, hpasses, hstore, hends⟩ := dispatch_ends directives seed
  have hunless : dispatchUnless false directives seed = dispatch directives seed := rfl
  refine ⟨⟨passed, later, hsplit, hpasses, ?_⟩, rfl⟩
  rw [hunless]
  refine ⟨hstore, ?_, ?_, hends⟩
  · rw [hstore]
    exact Store.writes_setAll seed (fired passed seed)
  · intro name
    rw [hstore]
    exact Store.get?_setAll seed (fired passed seed) name

end StoryPress.Story
