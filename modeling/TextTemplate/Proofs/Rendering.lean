import TextTemplate.Substitution

/-!
# What can be said of a rendering

Three judgements on activities that leave a trail and may be nested too deeply: what they yield,
that they complete, and that one answers whenever another does. Each is kept by sequencing, by
folding over a list and by mapping over a list, so that a statement about one step of a rendering
becomes a statement about all of it.
-/

set_option autoImplicit false

namespace TextTemplate.Rendering

variable {α β γ : Type}

theorem bind_eq_some_iff {activity : Rendering α} {next : α → Rendering β} {trail : Trail}
    {answer : β × Trail} :
    (activity >>= next) trail = some answer ↔
      ∃ result between, activity trail = some (result, between) ∧
        next result between = some answer := by
  change (activity trail).bind (fun step => next step.1 step.2) = some answer ↔ _
  rw [Option.bind_eq_some_iff]
  constructor
  · rintro ⟨⟨result, between⟩, first, second⟩
    exact ⟨result, between, first, second⟩
  · rintro ⟨result, between, first, second⟩
    exact ⟨(result, between), first, second⟩

theorem pure_eq_some_iff {value : α} {trail : Trail} {answer : α × Trail} :
    (pure value : Rendering α) trail = some answer ↔ (value, trail) = answer :=
  Option.some_inj

/-! ### What an activity yields -/

/-- Every result of the activity is as `post` says. -/
def Yields (post : α → Prop) (activity : Rendering α) : Prop :=
  ∀ trail result after, activity trail = some (result, after) → post result

namespace Yields

variable {post : α → Prop} {goal : β → Prop}

theorem mono {activity : Rendering α} {weaker : α → Prop} (yields : Yields post activity)
    (implies : ∀ result, post result → weaker result) : Yields weaker activity :=
  fun trail result after done => implies result (yields trail result after done)

theorem of_forall {activity : Rendering α} (holds : ∀ result, post result) : Yields post activity :=
  fun _ result _ _ => holds result

theorem and {activity : Rendering α} {other : α → Prop} (first : Yields post activity)
    (second : Yields other activity) : Yields (fun result => post result ∧ other result) activity :=
  fun trail result after done => ⟨first trail result after done, second trail result after done⟩

theorem pure {value : α} (holds : post value) : Yields post (pure value) := by
  intro trail result after done
  cases pure_eq_some_iff.mp done
  exact holds

theorem bind {activity : Rendering α} {next : α → Rendering β} (first : Yields post activity)
    (second : ∀ result, post result → Yields goal (next result)) :
    Yields goal (activity >>= next) := by
  intro trail result after done
  obtain ⟨between, trailBetween, firstDone, secondDone⟩ := bind_eq_some_iff.mp done
  exact second between (first trail between trailBetween firstDone) trailBetween result after
    secondDone

theorem bind_of_all {activity : Rendering α} {next : α → Rendering β}
    (second : ∀ result, Yields goal (next result)) : Yields goal (activity >>= next) := by
  have first : Yields (fun _ => True) activity := of_forall fun _ => trivial
  exact first.bind fun result _ => second result

theorem foldlM {step : β → α → Rendering β} {items : List α} {start : β} (holds : goal start)
    (preserved : ∀ state, ∀ item ∈ items, goal state → Yields goal (step state item)) :
    Yields goal (items.foldlM step start) := by
  induction items generalizing start with
  | nil => exact pure holds
  | cons item items ih =>
      rw [List.foldlM_cons]
      have first := preserved start item List.mem_cons_self holds
      refine first.bind fun state stillHolds => ?_
      exact ih stillHolds fun state later present =>
        preserved state later (List.mem_cons_of_mem item present)

/-- What one step of a fold brings about and no step undoes holds at its end. -/
theorem foldlM_of_mem {reached : β → Prop} {step : β → α → Rendering β} {items : List α}
    {item : α} {start : β} (present : item ∈ items) (holds : goal start)
    (preserved : ∀ state, ∀ other ∈ items, goal state → Yields goal (step state other))
    (reaches : ∀ state, goal state → Yields reached (step state item))
    (stays : ∀ state, ∀ other ∈ items, reached state → Yields reached (step state other)) :
    Yields reached (items.foldlM step start) := by
  obtain ⟨front, back, rfl⟩ := List.append_of_mem present
  rw [List.foldlM_append]
  have before := foldlM holds fun state earlier among =>
    preserved state earlier (List.mem_append_left _ among)
  refine before.bind fun between betweenHolds => ?_
  rw [List.foldlM_cons]
  refine (reaches between betweenHolds).bind fun state reachedHere => ?_
  exact foldlM reachedHere fun current later among =>
    stays current later (List.mem_append_right _ (List.mem_cons_of_mem item among))

theorem mapM {step : α → Rendering β} {items : List α}
    (each : ∀ item ∈ items, Yields goal (step item)) :
    Yields (fun results => ∀ result ∈ results, goal result) (items.mapM step) := by
  induction items with
  | nil =>
      rw [List.mapM_nil]
      exact pure fun result impossible => absurd impossible List.not_mem_nil
  | cons item items ih =>
      rw [List.mapM_cons]
      refine (each item List.mem_cons_self).bind fun first firstHolds => ?_
      have rest := ih fun later present => each later (List.mem_cons_of_mem item present)
      refine rest.bind fun others othersHold => pure ?_
      intro result present
      rcases List.mem_cons.mp present with rfl | later
      · exact firstHolds
      · exact othersHold result later

theorem length_mapM {step : α → Rendering β} {items : List α} :
    Yields (fun results => results.length = items.length) (items.mapM step) := by
  induction items with
  | nil =>
      rw [List.mapM_nil]
      exact pure rfl
  | cons item items ih =>
      rw [List.mapM_cons]
      refine bind_of_all fun first => ih.bind fun others length => pure ?_
      rw [List.length_cons, List.length_cons, length]

end Yields

theorem Yields.bind_congr {post : α → Prop} {activity : Rendering α}
    {first second : α → Rendering β} (yields : Yields post activity)
    (same : ∀ result, post result → first result = second result) :
    activity >>= first = activity >>= second := by
  funext trail
  change (activity trail).bind _ = (activity trail).bind _
  cases done : activity trail with
  | none => rfl
  | some answer =>
      obtain ⟨result, after⟩ := answer
      exact congrFun (same result (yields trail result after done)) after

/-! ### Completing -/

/-- The activity gives an answer, whatever was done before it. -/
def Completes (activity : Rendering α) : Prop :=
  ∀ trail, ∃ answer, activity trail = some answer

namespace Completes

theorem pure (value : α) : Completes (pure value) :=
  fun trail => ⟨(value, trail), rfl⟩

theorem bind {post : α → Prop} {activity : Rendering α} {next : α → Rendering β}
    (first : Completes activity) (yields : Yields post activity)
    (second : ∀ result, post result → Completes (next result)) :
    Completes (activity >>= next) := by
  intro trail
  obtain ⟨⟨result, between⟩, firstDone⟩ := first trail
  obtain ⟨answer, secondDone⟩ :=
    second result (yields trail result between firstDone) between
  exact ⟨answer, bind_eq_some_iff.mpr ⟨result, between, firstDone, secondDone⟩⟩

theorem bind_of_all {activity : Rendering α} {next : α → Rendering β}
    (first : Completes activity) (second : ∀ result, Completes (next result)) :
    Completes (activity >>= next) := by
  have yields : Yields (fun _ => True) activity := Yields.of_forall fun _ => trivial
  exact first.bind yields fun result _ => second result

theorem foldlM {goal : β → Prop} {step : β → α → Rendering β} {items : List α} {start : β}
    (holds : goal start)
    (preserved : ∀ state, ∀ item ∈ items, goal state → Yields goal (step state item))
    (completes : ∀ state, ∀ item ∈ items, goal state → Completes (step state item)) :
    Completes (items.foldlM step start) := by
  induction items generalizing start with
  | nil => exact pure start
  | cons item items ih =>
      rw [List.foldlM_cons]
      apply bind (completes start item List.mem_cons_self holds)
        (preserved start item List.mem_cons_self holds)
      intro state stillHolds
      exact ih stillHolds
        (fun state later present => preserved state later (List.mem_cons_of_mem item present))
        (fun state later present => completes state later (List.mem_cons_of_mem item present))

theorem foldlM_of_all {step : β → α → Rendering β} {items : List α} {start : β}
    (completes : ∀ state, ∀ item ∈ items, Completes (step state item)) :
    Completes (items.foldlM step start) := by
  have holds : (fun _ : β => True) start := trivial
  exact foldlM holds (fun _ _ _ _ => Yields.of_forall fun _ => trivial)
    fun state item present _ => completes state item present

theorem mapM {step : α → Rendering β} {items : List α}
    (each : ∀ item ∈ items, Completes (step item)) : Completes (items.mapM step) := by
  induction items with
  | nil =>
      rw [List.mapM_nil]
      exact pure []
  | cons item items ih =>
      rw [List.mapM_cons]
      apply bind_of_all (each item List.mem_cons_self)
      intro first
      apply bind_of_all (ih fun later present => each later (List.mem_cons_of_mem item present))
      intro others
      exact pure (first :: others)

end Completes

/-! ### Answering whenever another activity does -/

/-- Where `small` gives an answer, `large` gives the same. -/
def Extends (large small : Rendering α) : Prop :=
  ∀ trail answer, small trail = some answer → large trail = some answer

namespace Extends

theorem refl (activity : Rendering α) : Extends activity activity :=
  fun _ _ done => done

theorem bind {large small : Rendering α} {largeNext smallNext : α → Rendering β}
    (first : Extends large small)
    (second : ∀ result, Extends (largeNext result) (smallNext result)) :
    Extends (large >>= largeNext) (small >>= smallNext) := by
  intro trail answer done
  obtain ⟨result, between, firstDone, secondDone⟩ := bind_eq_some_iff.mp done
  exact bind_eq_some_iff.mpr
    ⟨result, between, first trail _ firstDone, second result between answer secondDone⟩

theorem foldlM {large small : β → α → Rendering β} (items : List α)
    (each : ∀ state item, Extends (large state item) (small state item)) (start : β) :
    Extends (items.foldlM large start) (items.foldlM small start) := by
  induction items generalizing start with
  | nil => exact refl _
  | cons item items ih =>
      rw [List.foldlM_cons, List.foldlM_cons]
      exact bind (each start item) ih

theorem mapM {large small : α → Rendering β} (items : List α)
    (each : ∀ item, Extends (large item) (small item)) :
    Extends (items.mapM large) (items.mapM small) := by
  induction items with
  | nil => exact refl _
  | cons item items ih =>
      rw [List.mapM_cons, List.mapM_cons]
      exact bind (each item) fun _ => bind ih fun _ => refl _

end Extends

/-! ### Carrying out a plan -/

/-- The activity does all that the plan does, and its result is a view of the plan's result, of
which `post` holds. -/
structure CarriesOut (view : β → α) (post : β → Prop) (activity : Rendering α)
    (plan : Rendering β) : Prop where
  same : activity = plan >>= fun result => pure (view result)
  yields : Yields post plan

namespace CarriesOut

variable {α' β' : Type} {view : β → α} {view' : β' → α'} {post : β → Prop} {post' : β' → Prop}

theorem pure {value : β} (holds : post value) :
    CarriesOut view post (pure (view value)) (pure value) :=
  ⟨rfl, Yields.pure holds⟩

theorem yields_view {activity : Rendering α} {plan : Rendering β}
    (carries : CarriesOut view post activity plan) :
    Yields (fun value => ∃ result, post result ∧ value = view result) activity := by
  rw [carries.same]
  exact carries.yields.bind fun result holds => Yields.pure ⟨result, holds, rfl⟩

theorem exists_of_yields {activity : Rendering α}
    (yields : Yields (fun value => ∃ result, post result ∧ value = view result) activity) :
    ∃ plan, CarriesOut view post activity plan := by
  classical
  let source : α → Rendering β := fun value =>
    if known : ∃ result, post result ∧ value = view result then Pure.pure known.choose
    else fun _ => none
  have source_eq : ∀ value (known : ∃ result, post result ∧ value = view result),
      source value = Pure.pure known.choose := fun value known => dif_pos known
  refine ⟨activity >>= source, ?_, ?_⟩
  · have views : activity >>= Pure.pure =
        activity >>= fun value => source value >>= fun result => Pure.pure (view result) := by
      apply yields.bind_congr
      intro value known
      rw [source_eq value known, pure_bind, ← known.choose_spec.2]
    rw [bind_assoc, ← views, bind_pure]
  · refine yields.bind fun value known => ?_
    rw [source_eq value known]
    exact Yields.pure known.choose_spec.1

theorem mono {weaker : β → Prop} {activity : Rendering α} {plan : Rendering β}
    (carries : CarriesOut view post activity plan)
    (implies : ∀ result, post result → weaker result) :
    CarriesOut view weaker activity plan :=
  ⟨carries.same, carries.yields.mono implies⟩

theorem bind {activity : Rendering α} {plan : Rendering β} {next : α → Rendering α'}
    {planNext : β → Rendering β'} (first : CarriesOut view post activity plan)
    (second : ∀ result, post result →
      CarriesOut view' post' (next (view result)) (planNext result)) :
    CarriesOut view' post' (activity >>= next) (plan >>= planNext) := by
  refine ⟨?_, first.yields.bind fun result holds => (second result holds).yields⟩
  rw [first.same, bind_assoc, bind_assoc]
  apply first.yields.bind_congr
  intro result holds
  rw [pure_bind]
  exact (second result holds).same

theorem after (before : Rendering γ) {activity : γ → Rendering α} {plan : γ → Rendering β}
    (each : ∀ result, CarriesOut view post (activity result) (plan result)) :
    CarriesOut view post (before >>= activity) (before >>= plan) := by
  refine ⟨?_, Yields.bind_of_all fun result => (each result).yields⟩
  rw [bind_assoc]
  exact bind_congr fun result => (each result).same

theorem foldlM {step : α → γ → Rendering α} {planStep : β → γ → Rendering β} {items : List γ}
    {start : β} (holds : post start)
    (each : ∀ state, ∀ item ∈ items, post state →
      CarriesOut view post (step (view state) item) (planStep state item)) :
    CarriesOut view post (items.foldlM step (view start)) (items.foldlM planStep start) := by
  induction items generalizing start with
  | nil => exact pure holds
  | cons item items ih =>
      rw [List.foldlM_cons, List.foldlM_cons]
      refine (each start item List.mem_cons_self holds).bind fun state stillHolds => ?_
      exact ih stillHolds fun state later present =>
        each state later (List.mem_cons_of_mem item present)

theorem mapM {step : γ → Rendering α} {planStep : γ → Rendering β} {items : List γ}
    (each : ∀ item ∈ items, CarriesOut view post (step item) (planStep item)) :
    CarriesOut (List.map view) (fun results => ∀ result ∈ results, post result)
      (items.mapM step) (items.mapM planStep) := by
  refine ⟨?_, Yields.mapM fun item present => (each item present).yields⟩
  induction items with
  | nil => rfl
  | cons item items ih =>
      have rest := ih fun later present => each later (List.mem_cons_of_mem item present)
      rw [List.mapM_cons, List.mapM_cons, (each item List.mem_cons_self).same, rest]
      simp only [bind_assoc, pure_bind, List.map_cons]

end CarriesOut

end TextTemplate.Rendering
