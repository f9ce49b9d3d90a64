import StoryPress.Modifier.History

/-! The handlers of a window hand a passage and the table of slots from one to the next. The first
that fails ends this: what it made of the passage and of its slot is kept, the handlers after it are
left out with the slots that only they use, and none of the window is run at a later text block. -/
namespace StoryPress.Modifier

open StoryPress.Story (Fault)

/-- What a handler is given and what it hands on. -/
structure Stage where
  passage : Passage
  slots : Slots

namespace Armed

/-- What a handler does at a stage. It sees no slot but its own. -/
def on (a : Armed) (stage : Stage) : Handled :=
  a.modifier.handle stage.passage (stage.slots.get a.index) a.invocation

/-- The stage that a handler leaves, also if it fails. -/
def after (a : Armed) (stage : Stage) : Stage :=
  ⟨(a.on stage).passage, stage.slots.put a.index (a.on stage).slot⟩

def run (a : Armed) (stage : Stage) : Run :=
  ⟨a.index, a.modifier.name, a.invocation, stage.passage.text⟩

/-- What tells the activations of a window apart, but for repeated ones. -/
def key (a : Armed) : Nat × String × String := (a.index, a.modifier.name, a.invocation)

theorem get?_after_of_ne (a : Armed) (stage : Stage) {index : Nat} (h : a.index ≠ index) :
    (a.after stage).slots.get? index = stage.slots.get? index := by
  rw [after, Slots.get?_put, if_neg (Ne.symm h)]

end Armed

/-- The activation that a run is due to. -/
def Run.key (r : Run) : Nat × String × String := (r.index, r.name, r.invocation)

/-- The stage that handlers leave, each at the stage that the one before left. -/
def stageAfter (armed : List Armed) (stage : Stage) : Stage :=
  armed.foldl (fun stage a => a.after stage) stage

def runsOf : List Armed → Stage → List Run
  | [], _ => []
  | a :: rest, stage => a.run stage :: runsOf rest (a.after stage)

/-- No handler fails at the stage that the ones before it leave. -/
def Succeeds (armed : List Armed) (stage : Stage) : Prop :=
  ∀ before a after, armed = before ++ a :: after → (a.on (stageAfter before stage)).fault = none

/-- The first handler that fails, with the ones before and after it. -/
structure FailsAt (armed : List Armed) (stage : Stage) (before : List Armed) (a : Armed)
    (after : List Armed) (fault : Fault) : Prop where
  split : armed = before ++ a :: after
  earlier : Succeeds before stage
  failure : (a.on (stageAfter before stage)).fault = some fault

theorem stageAfter_cons (a : Armed) (rest : List Armed) (stage : Stage) :
    stageAfter (a :: rest) stage = stageAfter rest (a.after stage) := rfl

theorem get?_stageAfter (armed : List Armed) (stage : Stage) {index : Nat}
    (h : ∀ a ∈ armed, a.index ≠ index) :
    (stageAfter armed stage).slots.get? index = stage.slots.get? index := by
  induction armed generalizing stage with
  | nil => rfl
  | cons a rest ih =>
    have hrest : ∀ b ∈ rest, b.index ≠ index := fun b hb => h b (List.mem_cons_of_mem a hb)
    rw [stageAfter_cons, ih (a.after stage) hrest, a.get?_after_of_ne stage (h a List.mem_cons_self)]

theorem map_key_runsOf (armed : List Armed) (stage : Stage) :
    (runsOf armed stage).map Run.key = armed.map Armed.key := by
  induction armed generalizing stage with
  | nil => rfl
  | cons a rest ih => rw [runsOf, List.map_cons, List.map_cons, ih]; rfl

theorem runsOf_concat (armed : List Armed) (a : Armed) (stage : Stage) :
    runsOf (armed ++ [a]) stage = runsOf armed stage ++ [a.run (stageAfter armed stage)] := by
  induction armed generalizing stage with
  | nil => rfl
  | cons b rest ih => rw [List.cons_append, runsOf, runsOf, ih, List.cons_append, stageAfter_cons]

theorem succeeds_nil (stage : Stage) : Succeeds [] stage := by
  intro before a after h
  cases before <;> cases h

theorem succeeds_cons_iff {a : Armed} {rest : List Armed} {stage : Stage} :
    Succeeds (a :: rest) stage ↔ (a.on stage).fault = none ∧ Succeeds rest (a.after stage) := by
  constructor
  · intro h
    refine ⟨h [] a rest rfl, fun before b after hrest => ?_⟩
    have hb := h (a :: before) b after (by rw [hrest, List.cons_append])
    rwa [stageAfter_cons] at hb
  · rintro ⟨ha, hrest⟩ before b after h
    cases before with
    | nil =>
      obtain ⟨rfl, -⟩ := List.cons.inj h
      exact ha
    | cons first before =>
      obtain ⟨rfl, hsplit⟩ := List.cons.inj h
      rw [stageAfter_cons]
      exact hrest before b after hsplit

/-- Either all handlers succeed or there is a first one that fails. -/
theorem succeeds_or_failsAt (armed : List Armed) (stage : Stage) :
    Succeeds armed stage ∨ ∃ before a after fault, FailsAt armed stage before a after fault := by
  induction armed generalizing stage with
  | nil => exact .inl (succeeds_nil stage)
  | cons a rest ih =>
    cases hfault : (a.on stage).fault with
    | some fault => exact .inr ⟨[], a, rest, fault, rfl, succeeds_nil stage, hfault⟩
    | none =>
      rcases ih (a.after stage) with hrest | ⟨before, b, after, fault, hsplit, hearlier, hfailure⟩
      · exact .inl (succeeds_cons_iff.mpr ⟨hfault, hrest⟩)
      · exact .inr ⟨a :: before, b, after, fault, congrArg (a :: ·) hsplit,
          succeeds_cons_iff.mpr ⟨hfault, hearlier⟩, hfailure⟩

theorem applyAll_of_failure {a : Armed} {stage : Stage} {fault : Fault}
    (h : (a.on stage).fault = some fault) (rest : List Armed) :
    applyAll (a :: rest) stage.passage stage.slots =
      ⟨(a.after stage).passage, (a.after stage).slots, [a.run stage],
        some (.modifier a.modifier.name fault)⟩ := by
  have hfault : (a.modifier.handle stage.passage (stage.slots.get a.index) a.invocation).fault =
      some fault := h
  rw [applyAll]
  simp only [hfault]
  rfl

theorem applyAll_of_success {a : Armed} {stage : Stage} (h : (a.on stage).fault = none)
    (rest : List Armed) :
    applyAll (a :: rest) stage.passage stage.slots =
      let later := applyAll rest (a.after stage).passage (a.after stage).slots
      { later with runs := a.run stage :: later.runs } := by
  have hfault : (a.modifier.handle stage.passage (stage.slots.get a.index) a.invocation).fault =
      none := h
  rw [applyAll]
  simp only [hfault]
  rfl

/-- Handlers that succeed hand on the stage that they leave. -/
theorem applyAll_append {armed : List Armed} {stage : Stage} (h : Succeeds armed stage)
    (rest : List Armed) :
    applyAll (armed ++ rest) stage.passage stage.slots =
      let reached := stageAfter armed stage
      let later := applyAll rest reached.passage reached.slots
      { later with runs := runsOf armed stage ++ later.runs } := by
  induction armed generalizing stage with
  | nil => rfl
  | cons a others ih =>
    obtain ⟨ha, hothers⟩ := succeeds_cons_iff.mp h
    rw [List.cons_append, applyAll_of_success ha, ih hothers]
    rfl

theorem error_applyAll_of_succeeds {armed : List Armed} {stage : Stage} (h : Succeeds armed stage) :
    (applyAll armed stage.passage stage.slots).error = none := by
  have happlied := applyAll_append h []
  rw [List.append_nil] at happlied
  rw [happlied]
  rfl

theorem FailsAt.applyAll {armed before after : List Armed} {stage : Stage} {a : Armed}
    {fault : Fault} (h : FailsAt armed stage before a after fault) :
    let reached := stageAfter before stage
    Modifier.applyAll armed stage.passage stage.slots =
      ⟨(a.on reached).passage, reached.slots.put a.index (a.on reached).slot,
        runsOf (before ++ [a]) stage, some (.modifier a.modifier.name fault)⟩ := by
  intro reached
  have hfailed := applyAll_of_failure h.failure after
  rw [h.split, applyAll_append h.earlier, runsOf_concat]
  simp only [hfailed]
  rfl

/-- The activation of a use, if it is one. -/
def Use.armed? : Use → Option Armed
  | .activate a => some a
  | _ => none

def activations (uses : List Use) : List Armed := uses.filterMap Use.armed?

theorem keys_applyAll_isPrefix (armed : List Armed) (stage : Stage) :
    (Modifier.applyAll armed stage.passage stage.slots).runs.map Run.key <+: armed.map Armed.key := by
  rcases succeeds_or_failsAt armed stage with h | ⟨before, a, after, fault, h⟩
  · have happlied := applyAll_append h []
    rw [List.append_nil] at happlied
    rw [happlied]
    simp only [Modifier.applyAll, List.append_nil, map_key_runsOf]
    exact List.prefix_refl _
  · rw [h.applyAll]
    simp only [map_key_runsOf, h.split]
    refine ⟨after.map Armed.key, ?_⟩
    rw [← List.map_append, List.append_assoc, List.singleton_append]

/-- Whatever is done with a window, each run is due to an activation of its own, in their order. -/
theorem keys_useAll_sublist (window : Window) (uses : List Use) :
    ((window.useAll uses).2.map Run.key).Sublist
      ((window.armed ++ activations uses).map Armed.key) := by
  induction uses generalizing window with
  | nil => exact List.nil_sublist _
  | cons u rest ih =>
    have hrest := ih (window.use u).1
    rw [Window.useAll, List.map_append]
    cases u with
    | activate a =>
      have hactivations : activations (.activate a :: rest) = a :: activations rest := rfl
      rw [hactivations, List.append_cons]
      exact hrest
    | apply passage =>
      rw [List.map_append]
      exact (keys_applyAll_isPrefix window.armed ⟨passage, window.slots⟩).sublist.append hrest
    | discard =>
      rw [List.map_append]
      exact hrest.trans (List.sublist_append_right _ _)

/-- A window fails exactly if there is a first handler that does. The error names that modifier and
is its own; the passage and the slots are what the handlers before it left and what it then did
itself. Nothing after it is run, so other slots are as they were, and the window is empty: later runs
are due to later activations. -/
theorem failing_handler_stops (window : Window) (passage : Passage) :
    let opening : Stage := ⟨passage, window.slots⟩
    let left := (window.apply passage).1
    let applied := (window.apply passage).2
    (applied.error ≠ none ↔
      ∃ before a after fault, FailsAt window.armed opening before a after fault) ∧
    ∀ before a after fault, FailsAt window.armed opening before a after fault →
      let reached := stageAfter before opening
      applied.error = some (.modifier a.modifier.name fault) ∧
      applied.passage = (a.on reached).passage ∧
      left.slots = reached.slots.put a.index (a.on reached).slot ∧
      applied.runs = runsOf (before ++ [a]) opening ∧
      applied.runs.map Run.key = (before ++ [a]).map Armed.key ∧
      (∀ index, (∀ b ∈ before ++ [a], b.index ≠ index) →
        left.slots.get? index = window.slots.get? index) ∧
      left.armed = [] ∧
      ∀ uses, ((left.useAll uses).2.map Run.key).Sublist ((activations uses).map Armed.key) := by
  intro opening left applied
  refine ⟨⟨fun herror => ?_, ?_⟩, ?_⟩
  · rcases succeeds_or_failsAt window.armed opening with h | h
    · exact absurd (error_applyAll_of_succeeds h) herror
    · exact h
  · rintro ⟨before, a, after, fault, h⟩
    have happlied : applied = _ := h.applyAll
    rw [happlied]
    exact Option.some_ne_none _
  · intro before a after fault h reached
    have happlied : applied = _ := h.applyAll
    have hslots : left.slots = applied.slots := rfl
    rw [hslots, happlied]
    refine ⟨rfl, rfl, rfl, rfl, map_key_runsOf _ opening, fun index hindex => ?_, rfl,
      fun uses => ?_⟩
    · have hbefore : ∀ b ∈ before, b.index ≠ index := fun b hb =>
        hindex b (List.mem_append_left [a] hb)
      have ha : a.index ≠ index := hindex a (List.mem_append_right before List.mem_cons_self)
      exact (a.get?_after_of_ne reached ha).trans (get?_stageAfter before opening hbefore)
    · exact keys_useAll_sublist left uses

/-- A modifier that is armed before and after the one that fails keeps what it did before it. -/
theorem broken_between_notes :
    let note : Modifier := ⟨"note", fun _ => true, fun passage slot invocation =>
      .ok { passage with text := passage.text ++ invocation } (slot.put invocation (.bool true))⟩
    let broken : Modifier := ⟨"broken", fun _ => true, fun passage slot invocation =>
      ⟨{ passage with text := passage.text ++ "?" }, slot.put invocation .null,
        some (.message "no such thing")⟩⟩
    let before : List Armed := [⟨0, note, "a"⟩]
    let after : List Armed := [⟨0, note, "c"⟩, ⟨2, note, "d"⟩]
    let window : Window := ⟨before ++ ⟨1, broken, "b"⟩ :: after, [(2, []), (0, []), (1, [])]⟩
    let left := (window.apply (.ofText "x")).1
    let applied := (window.apply (.ofText "x")).2
    FailsAt window.armed ⟨.ofText "x", window.slots⟩ before ⟨1, broken, "b"⟩ after
        (.message "no such thing") ∧
      applied.error = some (.modifier "broken" (.message "no such thing")) ∧
      applied.passage = .ofText "xa?" ∧
      left.slots = [(2, []), (0, [("a", .bool true)]), (1, [("b", .null)])] ∧
      applied.runs.map Run.key = [(0, "note", "a"), (1, "broken", "b")] ∧
      ((left.useAll [.activate ⟨2, note, "e"⟩, .apply (.ofText "y")]).2.map Run.key).Sublist
        [(2, "note", "e")] := by
  intro note broken before after window left applied
  have hfails : FailsAt window.armed ⟨.ofText "x", window.slots⟩ before ⟨1, broken, "b"⟩ after
      (.message "no such thing") :=
    ⟨rfl, succeeds_cons_iff.mpr ⟨rfl, succeeds_nil _⟩, rfl⟩
  obtain ⟨herror, hpassage, hslots, -, hruns, -, -, hlater⟩ :=
    (failing_handler_stops window (.ofText "x")).2 before ⟨1, broken, "b"⟩ after _ hfails
  exact ⟨hfails, herror, hpassage.trans (by decide), hslots.trans (by decide), hruns, hlater _⟩

end StoryPress.Modifier
