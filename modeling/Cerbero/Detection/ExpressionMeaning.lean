import Cerbero.Detection.EventCompiler

/-!
# Detection/ExpressionMeaning — what an expression means, and that lowering keeps it

`Evaluates` reads an expression from left to right: a conjunction stops at the first child that is
not true, a disjunction at the first that is not false, and a child that fails is where the whole
fails.  `ReachesLeaf` names the comparisons this order gets to.  The lowered predicate returns exactly
what the expression means (`evaluatePredicate_lower_iff`), and a failure comes from a leaf that was
reached (`exists_reached_of_error`).
-/

namespace Cerbero

namespace Detection

variable {Field RuleValue EventValue Error : Type} {state : Field → EventFieldState EventValue}
  {policy : EventLeafEvaluationPolicy Field RuleValue EventValue Error}

/-! ## The meaning -/

/-- **The short-circuit meaning of an expression** from left to right. -/
inductive Evaluates (state : Field → EventFieldState EventValue)
    (policy : EventLeafEvaluationPolicy Field RuleValue EventValue Error) :
    DetectionExpression Field RuleValue → Except Error Bool → Prop
  | and_true {children : List (DetectionExpression Field RuleValue)}
      (h : ∀ child ∈ children, Evaluates state policy child (.ok true)) :
      Evaluates state policy (.and children) (.ok true)
  | and_stop {before after : List (DetectionExpression Field RuleValue)}
      {child : DetectionExpression Field RuleValue} {r : Except Error Bool}
      (hbefore : ∀ e ∈ before, Evaluates state policy e (.ok true))
      (h : Evaluates state policy child r) (hr : r ≠ .ok true) :
      Evaluates state policy (.and (before ++ child :: after)) r
  | or_false {children : List (DetectionExpression Field RuleValue)}
      (h : ∀ child ∈ children, Evaluates state policy child (.ok false)) :
      Evaluates state policy (.or children) (.ok false)
  | or_stop {before after : List (DetectionExpression Field RuleValue)}
      {child : DetectionExpression Field RuleValue} {r : Except Error Bool}
      (hbefore : ∀ e ∈ before, Evaluates state policy e (.ok false))
      (h : Evaluates state policy child r) (hr : r ≠ .ok false) :
      Evaluates state policy (.or (before ++ child :: after)) r
  | not {child : DetectionExpression Field RuleValue} {r : Except Error Bool}
      (h : Evaluates state policy child r) :
      Evaluates state policy (.not child) (r.map fun b => !b)
  | comparison (comparison : ComparisonExpression Field RuleValue) :
      Evaluates state policy (.comparison comparison)
        (policy.evaluateComparison comparison.field (state comparison.field) comparison.operator
          comparison.value)
  | exists (exists_ : ExistsExpression Field) :
      Evaluates state policy (.exists exists_)
        (policy.evaluateExists exists_.field (state exists_.field))

/-- **The leaves the short-circuit order gets to.** -/
inductive ReachesLeaf (state : Field → EventFieldState EventValue)
    (policy : EventLeafEvaluationPolicy Field RuleValue EventValue Error) :
    DetectionExpression Field RuleValue → DetectionExpression Field RuleValue → Prop
  | comparison (comparison : ComparisonExpression Field RuleValue) :
      ReachesLeaf state policy (.comparison comparison) (.comparison comparison)
  | exists (exists_ : ExistsExpression Field) :
      ReachesLeaf state policy (.exists exists_) (.exists exists_)
  | not {child leaf : DetectionExpression Field RuleValue} (h : ReachesLeaf state policy child leaf) :
      ReachesLeaf state policy (.not child) leaf
  | and {before after : List (DetectionExpression Field RuleValue)}
      {child leaf : DetectionExpression Field RuleValue}
      (hbefore : ∀ e ∈ before, Evaluates state policy e (.ok true))
      (h : ReachesLeaf state policy child leaf) :
      ReachesLeaf state policy (.and (before ++ child :: after)) leaf
  | or {before after : List (DetectionExpression Field RuleValue)}
      {child leaf : DetectionExpression Field RuleValue}
      (hbefore : ∀ e ∈ before, Evaluates state policy e (.ok false))
      (h : ReachesLeaf state policy child leaf) :
      ReachesLeaf state policy (.or (before ++ child :: after)) leaf

/-- `comparison` and `exists` are the leaves. -/
def DetectionExpression.isLeaf : DetectionExpression Field RuleValue → Bool
  | .comparison _ | .exists _ => true
  | _ => false

theorem ReachesLeaf.isLeaf {e leaf : DetectionExpression Field RuleValue}
    (h : ReachesLeaf state policy e leaf) : leaf.isLeaf := by
  induction h with
  | comparison => rfl
  | «exists» => rfl
  | not _ ih => exact ih
  | and _ _ ih => exact ih
  | or _ _ ih => exact ih

/-! ## Rounds -/

theorem evaluateAll_of_true {child : EventPredicate Field RuleValue}
    (children : List (EventPredicate Field RuleValue))
    (h : evaluatePredicate state policy child = .ok true) :
    evaluateAll state policy (child :: children) = evaluateAll state policy children := by
  rw [evaluateAll, h]
  rfl

theorem evaluateAll_of_ne {child : EventPredicate Field RuleValue}
    (children : List (EventPredicate Field RuleValue))
    (h : evaluatePredicate state policy child ≠ .ok true) :
    evaluateAll state policy (child :: children) = evaluatePredicate state policy child := by
  rw [evaluateAll]
  match hr : evaluatePredicate state policy child with
  | .error _ => rfl
  | .ok false => rfl
  | .ok true => exact absurd hr h

theorem evaluateAny_of_false {child : EventPredicate Field RuleValue}
    (children : List (EventPredicate Field RuleValue))
    (h : evaluatePredicate state policy child = .ok false) :
    evaluateAny state policy (child :: children) = evaluateAny state policy children := by
  rw [evaluateAny, h]
  rfl

theorem evaluateAny_of_ne {child : EventPredicate Field RuleValue}
    (children : List (EventPredicate Field RuleValue))
    (h : evaluatePredicate state policy child ≠ .ok false) :
    evaluateAny state policy (child :: children) = evaluatePredicate state policy child := by
  rw [evaluateAny]
  match hr : evaluatePredicate state policy child with
  | .error _ => rfl
  | .ok false => exact absurd hr h
  | .ok true => rfl

/-- Children that are true are passed over. -/
theorem evaluateAll_append {before : List (EventPredicate Field RuleValue)}
    (rest : List (EventPredicate Field RuleValue))
    (h : ∀ e ∈ before, evaluatePredicate state policy e = .ok true) :
    evaluateAll state policy (before ++ rest) = evaluateAll state policy rest := by
  induction before with
  | nil => rfl
  | cons e before ih =>
    rw [List.forall_mem_cons] at h
    rw [List.cons_append, evaluateAll_of_true _ h.1, ih h.2]

/-- Children that are false are passed over. -/
theorem evaluateAny_append {before : List (EventPredicate Field RuleValue)}
    (rest : List (EventPredicate Field RuleValue))
    (h : ∀ e ∈ before, evaluatePredicate state policy e = .ok false) :
    evaluateAny state policy (before ++ rest) = evaluateAny state policy rest := by
  induction before with
  | nil => rfl
  | cons e before ih =>
    rw [List.forall_mem_cons] at h
    rw [List.cons_append, evaluateAny_of_false _ h.1, ih h.2]

theorem lowerEventPredicates_eq_map :
    ∀ children : List (DetectionExpression Field RuleValue),
      lowerEventPredicates children = children.map lowerEventPredicate
  | [] => rfl
  | child :: children => by
      rw [lowerEventPredicates, lowerEventPredicates_eq_map children, List.map_cons]

/-! ## Lowering -/

mutual

/-- **The lowered predicate returns what the expression means.** -/
theorem evaluates_lower (state : Field → EventFieldState EventValue)
    (policy : EventLeafEvaluationPolicy Field RuleValue EventValue Error) :
    ∀ e : DetectionExpression Field RuleValue,
      Evaluates state policy e (evaluatePredicate state policy (lowerEventPredicate e))
  | .and children => by
      rw [lowerEventPredicate, evaluatePredicate]
      exact evaluates_and state policy children [] (by simp)
  | .or children => by
      rw [lowerEventPredicate, evaluatePredicate]
      exact evaluates_or state policy children [] (by simp)
  | .not child => by
      rw [lowerEventPredicate, evaluatePredicate]
      exact .not (evaluates_lower state policy child)
  | .comparison comparison => by
      rw [lowerEventPredicate, evaluatePredicate]
      exact .comparison comparison
  | .exists exists_ => by
      rw [lowerEventPredicate, evaluatePredicate]
      exact .exists exists_

theorem evaluates_and (state : Field → EventFieldState EventValue)
    (policy : EventLeafEvaluationPolicy Field RuleValue EventValue Error) :
    ∀ (rest before : List (DetectionExpression Field RuleValue)),
      (∀ e ∈ before, Evaluates state policy e (.ok true)) →
        Evaluates state policy (.and (before ++ rest))
          (evaluateAll state policy (lowerEventPredicates rest))
  | [], before, hbefore => by
      rw [List.append_nil]
      exact .and_true hbefore
  | child :: rest, before, hbefore => by
      have hchild := evaluates_lower state policy child
      rw [lowerEventPredicates]
      by_cases htrue : evaluatePredicate state policy (lowerEventPredicate child) = .ok true
      · rw [evaluateAll_of_true _ htrue, List.append_cons]
        refine evaluates_and state policy rest (before ++ [child]) ?_
        rw [htrue] at hchild
        simpa [or_imp, forall_and] using ⟨hbefore, hchild⟩
      · rw [evaluateAll_of_ne _ htrue]
        exact .and_stop hbefore hchild htrue

theorem evaluates_or (state : Field → EventFieldState EventValue)
    (policy : EventLeafEvaluationPolicy Field RuleValue EventValue Error) :
    ∀ (rest before : List (DetectionExpression Field RuleValue)),
      (∀ e ∈ before, Evaluates state policy e (.ok false)) →
        Evaluates state policy (.or (before ++ rest))
          (evaluateAny state policy (lowerEventPredicates rest))
  | [], before, hbefore => by
      rw [List.append_nil]
      exact .or_false hbefore
  | child :: rest, before, hbefore => by
      have hchild := evaluates_lower state policy child
      rw [lowerEventPredicates]
      by_cases hfalse : evaluatePredicate state policy (lowerEventPredicate child) = .ok false
      · rw [evaluateAny_of_false _ hfalse, List.append_cons]
        refine evaluates_or state policy rest (before ++ [child]) ?_
        rw [hfalse] at hchild
        simpa [or_imp, forall_and] using ⟨hbefore, hchild⟩
      · rw [evaluateAny_of_ne _ hfalse]
        exact .or_stop hbefore hchild hfalse

end

/-- An expression means one thing, and the lowered predicate returns it. -/
theorem Evaluates.evaluatePredicate_eq {e : DetectionExpression Field RuleValue}
    {r : Except Error Bool} (h : Evaluates state policy e r) :
    evaluatePredicate state policy (lowerEventPredicate e) = r := by
  induction h with
  | @and_true children _ ih =>
    rw [lowerEventPredicate, evaluatePredicate, lowerEventPredicates_eq_map,
      ← List.append_nil (children.map _), evaluateAll_append, evaluateAll]
    simpa using ih
  | @and_stop before after child r _ _ hr ihbefore ih =>
    rw [lowerEventPredicate, evaluatePredicate, lowerEventPredicates_eq_map, List.map_append,
      List.map_cons, evaluateAll_append _ (by simpa using ihbefore),
      evaluateAll_of_ne _ (by rwa [ih]), ih]
  | @or_false children _ ih =>
    rw [lowerEventPredicate, evaluatePredicate, lowerEventPredicates_eq_map,
      ← List.append_nil (children.map _), evaluateAny_append, evaluateAny]
    simpa using ih
  | @or_stop before after child r _ _ hr ihbefore ih =>
    rw [lowerEventPredicate, evaluatePredicate, lowerEventPredicates_eq_map, List.map_append,
      List.map_cons, evaluateAny_append _ (by simpa using ihbefore),
      evaluateAny_of_ne _ (by rwa [ih]), ih]
  | not _ ih =>
    rw [lowerEventPredicate, evaluatePredicate, ih]
    rfl
  | comparison comparison => rw [lowerEventPredicate, evaluatePredicate]
  | «exists» exists_ => rw [lowerEventPredicate, evaluatePredicate]

/-- **Lowering keeps the meaning**, failures included. -/
theorem evaluatePredicate_lower_iff {e : DetectionExpression Field RuleValue}
    {r : Except Error Bool} :
    evaluatePredicate state policy (lowerEventPredicate e) = r ↔ Evaluates state policy e r :=
  ⟨fun h => h ▸ evaluates_lower state policy e, Evaluates.evaluatePredicate_eq⟩

/-! ## Failures -/

/-- **A failure comes from a leaf that was reached.** -/
theorem Evaluates.exists_reached {e : DetectionExpression Field RuleValue} {r : Except Error Bool}
    (h : Evaluates state policy e r) :
    ∀ {error : Error}, r = .error error →
      ∃ leaf, ReachesLeaf state policy e leaf ∧ Evaluates state policy leaf (.error error) := by
  induction h with
  | and_true => exact fun hr => nomatch hr
  | or_false => exact fun hr => nomatch hr
  | and_stop hbefore _ _ _ ih =>
    intro error hr
    obtain ⟨leaf, hreach, hleaf⟩ := ih hr
    exact ⟨leaf, .and hbefore hreach, hleaf⟩
  | or_stop hbefore _ _ _ ih =>
    intro error hr
    obtain ⟨leaf, hreach, hleaf⟩ := ih hr
    exact ⟨leaf, .or hbefore hreach, hleaf⟩
  | @not child r _ ih =>
    intro error hr
    obtain e | b := r
    · obtain ⟨leaf, hreach, hleaf⟩ := ih hr
      exact ⟨leaf, .not hreach, hleaf⟩
    · exact nomatch hr
  | comparison comparison =>
    intro error hr
    exact ⟨_, .comparison comparison, hr ▸ .comparison comparison⟩
  | «exists» exists_ =>
    intro error hr
    exact ⟨_, .exists exists_, hr ▸ .exists exists_⟩

end Detection

end Cerbero
