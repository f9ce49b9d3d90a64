import StoryPress.Condition.Eval

/-! Numbers are ordered by their value and texts by their characters, whatever kinds of numbers
meet; no other pair is ordered. Equality is sameness of form: the form of a value forgets the sign
of its zeros and, unless it stands inside an array or an object, the kind of a number. So equality
is an equivalence, and it goes along with the order. -/
namespace StoryPress.Number.Double

/-- Both zeros as one. -/
def unsigned (d : Double) : Double := if d.isZero then zero else d

theorem toInt_eq_iff {a b : Double} : a.toInt = b.toInt ↔ a.unsigned = b.unsigned := by
  obtain ⟨negative, units⟩ := a
  obtain ⟨negative', units'⟩ := b
  by_cases hunits : units = 0 <;> by_cases hunits' : units' = 0 <;> cases negative <;>
    cases negative' <;> simp [toInt, unsigned, isZero, zero, hunits, hunits'] <;> omega

theorem cmp_eq_iff {a b : Double} : a.cmp b = .eq ↔ a.unsigned = b.unsigned := by
  rw [cmp, Std.LawfulEqOrd.compare_eq_iff_eq, toInt_eq_iff]

instance : Std.TransCmp Double.cmp where
  eq_swap := Std.OrientedOrd.eq_swap
  isLE_trans := Std.TransOrd.isLE_trans

end StoryPress.Number.Double

namespace StoryPress.Json

namespace Number

/-- A number without the sign of a zero. -/
def normal : Json.Number → Json.Number
  | int i => int i
  | real d => real d.unsigned

theorem same_iff {m n : Json.Number} : m.same n = true ↔ m.normal = n.normal := by
  cases m <;> cases n <;> simp [same, normal, Number.Double.cmp_eq_iff]

end Number

namespace Value

mutual

/-- A value in which no zero has a sign. -/
def normal : Value → Value
  | number n => number n.normal
  | array items => array (normalItems items)
  | object fields => object (normalFields fields)
  | value => value

def normalItems : List Value → List Value
  | [] => []
  | x :: xs => normal x :: normalItems xs

def normalFields : List (String × Value) → List (String × Value)
  | [] => []
  | (k, x) :: xs => (k, normal x) :: normalFields xs

end

mutual

theorem same_iff : (a b : Value) → (same a b = true ↔ a.normal = b.normal)
  | null, b => by cases b <;> simp [same, normal]
  | bool _, b => by cases b <;> simp [same, normal]
  | number _, b => by cases b <;> simp [same, normal, Number.same_iff]
  | text _, b => by cases b <;> simp [same, normal]
  | array xs, b => by cases b <;> simp [same, normal, sameItems_iff xs]
  | object xs, b => by cases b <;> simp [same, normal, sameFields_iff xs]

theorem sameItems_iff :
    (xs ys : List Value) → (sameItems xs ys = true ↔ normalItems xs = normalItems ys)
  | [], ys => by cases ys <;> simp [sameItems, normalItems]
  | x :: xs, ys => by cases ys <;> simp [sameItems, normalItems, same_iff x, sameItems_iff xs]

theorem sameFields_iff :
    (xs ys : List (String × Value)) → (sameFields xs ys = true ↔ normalFields xs = normalFields ys)
  | [], ys => by cases ys <;> simp [sameFields, normalFields]
  | (k, x) :: xs, ys => by
    cases ys <;> simp [sameFields, normalFields, and_assoc, same_iff x, sameFields_iff xs]

end

end Value

end StoryPress.Json

namespace StoryPress.Condition

open StoryPress.Json (Value)

theorem cmpChars_eq (xs ys : List Char) :
    cmpChars xs ys = compare (xs.map Char.toNat) (ys.map Char.toNat) := by
  induction xs generalizing ys with
  | nil => cases ys <;> rfl
  | cons x xs ih =>
    cases ys with
    | nil => rfl
    | cons y ys => rw [cmpChars, ih, List.map_cons, List.map_cons, List.compare_cons_cons]

instance : Std.TransCmp cmpChars where
  eq_swap := by
    intro xs ys
    rw [cmpChars_eq, cmpChars_eq]
    exact Std.OrientedOrd.eq_swap
  isLE_trans := by
    intro xs ys zs hxy hyz
    rw [cmpChars_eq] at hxy hyz ⊢
    exact Std.TransOrd.isLE_trans hxy hyz

theorem cmpChars_eq_iff {s t : String} : cmpChars s.toList t.toList = .eq ↔ s = t := by
  have hinjective : Function.Injective Char.toNat := fun c d h => Char.toNat_inj.mp h
  rw [cmpChars_eq, Std.LawfulEqOrd.compare_eq_iff_eq, List.map_inj_right hinjective, String.toList_inj]

/-- The pairs that have an order. -/
inductive Ordered : Value → Value → Prop
  | numbers (m n : Json.Number) : Ordered (.number m) (.number n)
  | texts (s t : String) : Ordered (.text s) (.text t)

theorem order?_of_ordered {a b : Value} (h : Ordered a b) : ∃ o, order? a b = some o := by
  cases h <;> exact ⟨_, rfl⟩

theorem order?_of_not_ordered {a b : Value} (h : ¬ Ordered a b) : order? a b = none := by
  unfold order?
  split
  · next m n => exact absurd (.numbers m n) h
  · next s t => exact absurd (.texts s t) h
  · rfl

theorem order?_swap (a b : Value) : order? a b = (order? b a).map Ordering.swap := by
  cases a <;> cases b <;> try rfl
  · exact congrArg some Std.OrientedCmp.eq_swap
  · exact congrArg some Std.OrientedCmp.eq_swap

theorem order?_trans {a b c : Value} (hab : order? a b = some .lt) (hbc : order? b c = some .lt) :
    order? a c = some .lt := by
  unfold order? at hab
  split at hab
  · next m n =>
    cases c with
    | number k =>
      exact congrArg some (Std.TransCmp.lt_trans (Option.some.inj hab) (Option.some.inj hbc))
    | _ => cases hbc
  · next s t =>
    cases c with
    | text u =>
      exact congrArg some (Std.TransCmp.lt_trans (Option.some.inj hab) (Option.some.inj hbc))
    | _ => cases hbc
  · cases hab

/-- What equality looks at: of a number its double, of other values their structure. -/
def form : Value → Value
  | .number n => .number (.real n.toDouble.unsigned)
  | value => value.normal

theorem order?_congr {a b : Value} (h : form a = form b) (c : Value) : order? a c = order? b c := by
  cases a with
  | number m =>
    cases b with
    | number n =>
      have hcmp : m.toDouble.cmp n.toDouble = .eq := by
        simpa [form, Number.Double.cmp_eq_iff] using h
      cases c with
      | number k => exact congrArg some (Std.TransCmp.congr_left hcmp)
      | _ => rfl
    | _ => simp [form, Value.normal] at h
  | text s =>
    cases b with
    | text t =>
      have htext : s = t := by simpa [form, Value.normal] using h
      rw [htext]
    | _ => simp [form, Value.normal] at h
  | _ =>
    cases b with
    | number n => simp [form, Value.normal] at h
    | text t => simp [form, Value.normal] at h
    | _ => rfl

namespace Comparison

variable {a b c : Value}

theorem decide_of_some {o : Ordering} (h : order? a b = some o) (op : Comparison) :
    op.decide a b = op.holds o := by
  simp only [decide, h]

/-- The comparisons that need an order. -/
def orderings : List Comparison := [lt, le, gt, ge]

theorem decide_of_none (h : order? a b = none) {op : Comparison} (hop : op ∈ orderings) :
    op.decide a b = false := by
  simp only [orderings, List.mem_cons, List.not_mem_nil, or_false] at hop
  rcases hop with rfl | rfl | rfl | rfl <;> simp only [decide, h]

theorem equal_iff : eq.decide a b = true ↔ form a = form b := by
  cases a <;> cases b <;> simp [decide, order?, holds, form, Value.normal, Value.same,
    Value.sameItems_iff, Value.sameFields_iff, Number.Double.cmp_eq_iff, cmpChars_eq_iff]

theorem ne_eq_not : ne.decide a b = !eq.decide a b := by
  cases h : order? a b with
  | some o => cases o <;> simp [decide, h, holds]
  | none => simp [decide, h]

theorem lt_iff : lt.decide a b = true ↔ order? a b = some .lt := by
  cases h : order? a b with
  | some o => simp [decide_of_some h, holds]
  | none => simp [decide_of_none h (show lt ∈ orderings by decide)]

/-- Two orderings that differ by turning every order round take the two sides in turned places. -/
theorem decide_swap {op other : Comparison} (hop : op ∈ orderings) (hother : other ∈ orderings)
    (hholds : ∀ o, op.holds (Ordering.swap o) = other.holds o) :
    op.decide a b = other.decide b a := by
  have hswap := order?_swap a b
  cases h : order? b a with
  | some o =>
    rw [h] at hswap
    rw [decide_of_some hswap, decide_of_some h, hholds]
  | none =>
    rw [h] at hswap
    rw [decide_of_none hswap hop, decide_of_none h hother]

theorem lt_eq_gt : lt.decide a b = gt.decide b a :=
  decide_swap (by decide) (by decide) fun o => by cases o <;> rfl

theorem le_eq_ge : le.decide a b = ge.decide b a :=
  decide_swap (by decide) (by decide) fun o => by cases o <;> rfl

theorem equal_comm : eq.decide a b = eq.decide b a := by
  rw [Bool.eq_iff_iff, equal_iff, equal_iff]
  exact ⟨Eq.symm, Eq.symm⟩

theorem less_congr (h : eq.decide a b = true) (c : Value) :
    lt.decide a c = lt.decide b c ∧ lt.decide c a = lt.decide c b := by
  have hform : form a = form b := equal_iff.mp h
  have hleft : ∀ d, order? a d = order? b d := order?_congr hform
  constructor
  · rw [Bool.eq_iff_iff, lt_iff, lt_iff, hleft]
  · rw [Bool.eq_iff_iff, lt_iff, lt_iff, order?_swap c a, order?_swap c b, hleft]

/-- Equality is an equivalence with `!=` for its negation; the other comparisons come in converse
pairs. Of two numbers, and of two texts, exactly one is less than, equal to or greater than the
other; less is transitive and takes equals for equals. Other values are not ordered. -/
theorem comparison_laws (a b c : Value) :
    (eq.decide a a = true ∧ eq.decide a b = eq.decide b a ∧
      (eq.decide a b = true → eq.decide b c = true → eq.decide a c = true)) ∧
    ne.decide a b = !eq.decide a b ∧
    (lt.decide a b = gt.decide b a ∧ le.decide a b = ge.decide b a) ∧
    (Ordered a b → [lt.decide a b, eq.decide a b, gt.decide a b].count true = 1 ∧
      le.decide a b = !gt.decide a b) ∧
    (lt.decide a b = true → lt.decide b c = true → lt.decide a c = true) ∧
    (eq.decide a b = true →
      lt.decide a c = lt.decide b c ∧ lt.decide c a = lt.decide c b) ∧
    (¬ Ordered a b → ∀ op ∈ orderings, op.decide a b = false) := by
  refine ⟨⟨equal_iff.mpr rfl, equal_comm, fun hab hbc => ?_⟩, ne_eq_not, ⟨lt_eq_gt, le_eq_ge⟩,
    fun h => ?_, fun hab hbc => ?_, fun h => less_congr h c, fun h op hop => ?_⟩
  · exact equal_iff.mpr ((equal_iff.mp hab).trans (equal_iff.mp hbc))
  · obtain ⟨o, ho⟩ := order?_of_ordered h
    simp only [decide_of_some ho]
    cases o <;> exact ⟨rfl, rfl⟩
  · exact lt_iff.mpr (order?_trans (lt_iff.mp hab) (lt_iff.mp hbc))
  · exact decide_of_none (order?_of_not_ordered h) hop

/-- Two integers that only their last digit tells apart are one double, so they are equal and less
than the same numbers. -/
theorem neighbours_beyond_doubles :
    let odd : Value := .number (.int 9007199254740993)
    let even : Value := .number (.int 9007199254740992)
    let next : Value := .number (.real (Number.Double.ofInt 9007199254740994))
    let last : Value := .number (.int 9007199254740996)
    eq.decide odd even = true ∧ lt.decide odd next = true ∧ gt.decide odd next = false ∧
      lt.decide odd last = true ∧ ∀ op ∈ orderings, op.decide odd (.text "9") = false := by
  intro odd even next last
  have heq : eq.decide odd even = true := by decide +kernel
  have heven : lt.decide even next = true := by decide +kernel
  have hnext : lt.decide next last = true := by decide +kernel
  obtain ⟨-, -, -, -, -, hcongr, -⟩ := comparison_laws odd even next
  obtain ⟨-, -, -, hone, htrans, -, -⟩ := comparison_laws odd next last
  obtain ⟨-, -, -, -, -, -, hnone⟩ := comparison_laws odd (.text "9") next
  have hodd : lt.decide odd next = true := (hcongr heq).1.trans heven
  have hcount := (hone (.numbers _ _)).1
  have hkinds : ¬ Ordered (.number (.int 9007199254740993)) (.text "9") := nofun
  have honly : ∀ x y : Bool, [true, x, y].count true = 1 → y = false := by decide
  rw [hodd] at hcount
  exact ⟨heq, hodd, honly _ _ hcount, htrans hodd hnext, hnone hkinds⟩

end Comparison

end StoryPress.Condition
