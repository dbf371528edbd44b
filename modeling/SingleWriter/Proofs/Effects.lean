import SingleWriter.Action

/-!
# Effects of actions

An action is described through a view of the state. It keeps a view when no outcome
changes it, and it makes a change of a view when success changes it so and failure
leaves it. What a sequence has done is found by taking its binds apart, one lemma to an
outcome. On a part of a larger state a sequence does what it does on the part alone.
-/

set_option autoImplicit false

namespace SingleWriter.Action

variable {ε δ σ τ υ α β : Type}

theorem bind_eq_ok {x : EStateM ε σ α} {f : α → EStateM ε σ β} {s t : σ} {b : β} :
    (x >>= f) s = .ok b t ↔ ∃ a u, x s = .ok a u ∧ f a u = .ok b t := by
  change EStateM.bind x f s = .ok b t ↔ _
  unfold EStateM.bind
  cases h : x s with
  | ok a u =>
    constructor
    · intro hf
      exact ⟨a, u, rfl, hf⟩
    · rintro ⟨_, _, ⟨⟩, hf⟩
      exact hf
  | error e u => simp

theorem bind_eq_error {x : EStateM ε σ α} {f : α → EStateM ε σ β} {s t : σ} {e : ε} :
    (x >>= f) s = .error e t ↔
      x s = .error e t ∨ ∃ a u, x s = .ok a u ∧ f a u = .error e t := by
  change EStateM.bind x f s = .error e t ↔ _
  unfold EStateM.bind
  cases h : x s with
  | ok a u =>
    constructor
    · intro hf
      exact .inr ⟨a, u, rfl, hf⟩
    · rintro (hs | ⟨_, _, ⟨⟩, hf⟩)
      · cases hs
      · exact hf
  | error e u => simp

theorem pure_eq_ok {a b : α} {s t : σ} :
    (pure a : EStateM ε σ α) s = .ok b t ↔ a = b ∧ s = t := by
  change EStateM.Result.ok a s = .ok b t ↔ _
  simp

theorem throw_ne_ok {e : ε} {s t : σ} {a : α} : (throw e : EStateM ε σ α) s ≠ .ok a t := by
  intro h
  cases h

theorem bind_of_ok {x : EStateM ε σ α} {f : α → EStateM ε σ β} {s u : σ} {a : α}
    (h : x s = .ok a u) : (x >>= f) s = f a u := by
  change EStateM.bind x f s = f a u
  unfold EStateM.bind
  rw [h]

def result? (x : EStateM ε σ α) (s : σ) : Option α :=
  match x s with
  | .ok a _ => some a
  | .error _ _ => none

theorem exists_of_result? {x : EStateM ε σ α} {s : σ} {a : α} (h : result? x s = some a) :
    ∃ t, x s = .ok a t := by
  unfold result? at h
  cases hs : x s with
  | ok b t =>
    rw [hs] at h
    cases h
    exact ⟨t, rfl⟩
  | error e t =>
    rw [hs] at h
    cases h

/-! ## Changes of a view -/

structure Makes (view : σ → τ) (f : τ → τ) (x : EStateM ε σ α) : Prop where
  ok : ∀ {s t : σ} {a : α}, x s = .ok a t → view t = f (view s)
  error : ∀ {s t : σ} {e : ε}, x s = .error e t → view t = view s

abbrev Keeps (view : σ → τ) (x : EStateM ε σ α) : Prop := Makes view id x

variable {view : σ → τ} {f : τ → τ} {x : EStateM ε σ α}

theorem keeps_pure (a : α) : Keeps view (pure a : EStateM ε σ α) := by
  constructor
  · intro s t b h
    rw [(pure_eq_ok.1 h).2]
    rfl
  · intro s t e h
    cases h

theorem keeps_throw (e : ε) : Keeps view (throw e : EStateM ε σ α) := by
  constructor
  · intro s t a h
    exact absurd h throw_ne_ok
  · intro s t d h
    cases h
    rfl

theorem Keeps.bind {g : α → EStateM ε σ β} (hx : Keeps view x) (hg : ∀ a, Makes view f (g a)) :
    Makes view f (x >>= g) := by
  constructor
  · intro s t b h
    obtain ⟨a, u, hu, ht⟩ := bind_eq_ok.1 h
    exact ((hg a).ok ht).trans (congrArg f (hx.ok hu))
  · intro s t e h
    rcases bind_eq_error.1 h with hu | ⟨a, u, hu, ht⟩
    · exact hx.error hu
    · exact ((hg a).error ht).trans (hx.ok hu)

theorem Makes.mapError {d : ε → δ} (hx : Makes view f x) : Makes view f (mapError d x) := by
  constructor
  · intro s t a h
    unfold Action.mapError at h
    cases hs : x s with
    | ok b u =>
      rw [hs] at h
      cases h
      exact hx.ok hs
    | error e u =>
      rw [hs] at h
      cases h
  · intro s t e h
    unfold Action.mapError at h
    cases hs : x s with
    | ok b u =>
      rw [hs] at h
      cases h
    | error e u =>
      rw [hs] at h
      cases h
      exact hx.error hs

theorem outcome_eq_ok {s t : σ} {r : Except ε α} :
    (outcome x : EStateM δ σ (Except ε α)) s = .ok r t ↔
      (∃ a, r = .ok a ∧ x s = .ok a t) ∨ (∃ e, r = .error e ∧ x s = .error e t) := by
  unfold outcome
  cases h : x s with
  | ok a u =>
    constructor
    · rintro ⟨⟩
      exact .inl ⟨a, rfl, rfl⟩
    · rintro (⟨b, rfl, ⟨⟩⟩ | ⟨e, -, ⟨⟩⟩)
      rfl
  | error e u =>
    constructor
    · rintro ⟨⟩
      exact .inr ⟨e, rfl, rfl⟩
    · rintro (⟨b, -, ⟨⟩⟩ | ⟨d, rfl, ⟨⟩⟩)
      rfl

theorem outcome_ne_error {s t : σ} {d : δ} :
    (outcome x : EStateM δ σ (Except ε α)) s ≠ .error d t := by
  unfold outcome
  cases x s <;> simp

theorem Keeps.outcome (hx : Keeps view x) :
    Keeps view (outcome x : EStateM δ σ (Except ε α)) := by
  constructor
  · intro s t r h
    rcases outcome_eq_ok.1 h with ⟨a, -, hs⟩ | ⟨e, -, hs⟩
    · exact hx.ok hs
    · exact hx.error hs
  · intro s t d h
    exact absurd h outcome_ne_error

theorem within_eq_ok {part : υ → σ} {replace : σ → υ → υ} {u v : υ} {a : α} :
    within part replace x u = .ok a v ↔ ∃ s, x (part u) = .ok a s ∧ replace s u = v := by
  unfold within
  cases h : x (part u) with
  | ok b s =>
    constructor
    · rintro ⟨⟩
      exact ⟨s, rfl, rfl⟩
    · rintro ⟨_, ⟨⟩, rfl⟩
      rfl
  | error e s => simp

theorem within_eq_error {part : υ → σ} {replace : σ → υ → υ} {u v : υ} {e : ε} :
    within part replace x u = .error e v ↔ ∃ s, x (part u) = .error e s ∧ replace s u = v := by
  unfold within
  cases h : x (part u) with
  | ok b s => simp
  | error d s =>
    constructor
    · rintro ⟨⟩
      exact ⟨s, rfl, rfl⟩
    · rintro ⟨_, ⟨⟩, rfl⟩
      rfl

/-- A change of the part is a change of whatever shows the part. -/
theorem Makes.within {part : υ → σ} {replace : σ → υ → υ} (hx : Makes view f x)
    (h : ∀ s u, part (replace s u) = s) :
    Makes (fun u => view (part u)) f (within part replace x) := by
  constructor
  · intro u v a hv
    obtain ⟨s, hs, rfl⟩ := within_eq_ok.1 hv
    exact (congrArg view (h s u)).trans (hx.ok hs)
  · intro u v e hv
    obtain ⟨s, hs, rfl⟩ := within_eq_error.1 hv
    exact (congrArg view (h s u)).trans (hx.error hs)

/-- What lies beside the part is kept. -/
theorem keeps_within {part : υ → σ} {replace : σ → υ → υ} {view : υ → τ}
    (h : ∀ s u, view (replace s u) = view u) : Keeps view (within part replace x) := by
  constructor
  · intro u v a hv
    obtain ⟨s, -, rfl⟩ := within_eq_ok.1 hv
    exact h s u
  · intro u v e hv
    obtain ⟨s, -, rfl⟩ := within_eq_error.1 hv
    exact h s u

theorem within_pure {part : υ → σ} {replace : σ → υ → υ} (hsame : ∀ u, replace (part u) u = u)
    (a : α) : within part replace (pure a : EStateM ε σ α) = pure a := by
  funext u
  exact within_eq_ok.2 ⟨part u, rfl, hsame u⟩

/-- A sequence on the part is the sequence of its steps on the part. -/
theorem within_bind {part : υ → σ} {replace : σ → υ → υ} (hpart : ∀ s u, part (replace s u) = s)
    (hover : ∀ s t u, replace s (replace t u) = replace s u) (g : α → EStateM ε σ β) :
    within part replace (x >>= g) =
      within part replace x >>= fun a => within part replace (g a) := by
  funext u
  cases h : x (part u) with
  | ok a s =>
    have hu : within part replace x u = .ok a (replace s u) := within_eq_ok.2 ⟨s, h, rfl⟩
    rw [bind_of_ok hu, within, within, bind_of_ok h, hpart]
    cases g a s <;> simp only [hover]
  | error e s =>
    have hu : within part replace x u = .error e (replace s u) := within_eq_error.2 ⟨s, h, rfl⟩
    rw [bind_eq_error.2 (.inl hu), within_eq_error]
    exact ⟨s, bind_eq_error.2 (.inl h), rfl⟩

theorem within_each {part : υ → σ} {replace : σ → υ → υ} (hpart : ∀ s u, part (replace s u) = s)
    (hsame : ∀ u, replace (part u) u = u)
    (hover : ∀ s t u, replace s (replace t u) = replace s u) (g : β → EStateM ε σ Unit)
    (bs : List β) :
    within part replace (each g bs) = each (fun b => within part replace (g b)) bs := by
  induction bs with
  | nil => exact within_pure hsame ()
  | cons b bs ih => rw [each, each, within_bind hpart hover, ih]

/-! ## Failures -/

structure Fails (p : ε → Prop) (x : EStateM ε σ α) : Prop where
  error : ∀ {s t : σ} {e : ε}, x s = .error e t → p e

section

variable {p : ε → Prop}

theorem fails_pure (a : α) : Fails p (pure a : EStateM ε σ α) := by
  constructor
  intro s t e h
  cases h

theorem fails_throw {e : ε} (he : p e) : Fails p (throw e : EStateM ε σ α) := by
  constructor
  intro s t d h
  cases h
  exact he

theorem Fails.bind {g : α → EStateM ε σ β} (hx : Fails p x) (hg : ∀ a, Fails p (g a)) :
    Fails p (x >>= g) := by
  constructor
  intro s t e h
  rcases bind_eq_error.1 h with hs | ⟨a, u, -, hu⟩
  · exact hx.error hs
  · exact (hg a).error hu

theorem fails_mapError {d : δ → ε} (hd : ∀ e, p (d e)) (y : EStateM δ σ α) :
    Fails p (mapError d y) := by
  constructor
  intro s t e h
  unfold mapError at h
  cases hs : y s with
  | ok a u =>
    rw [hs] at h
    cases h
  | error c u =>
    rw [hs] at h
    cases h
    exact hd c

theorem fails_outcome (y : EStateM δ σ α) :
    Fails p (outcome y : EStateM ε σ (Except δ α)) :=
  ⟨fun h => absurd h outcome_ne_error⟩

end

/-! ## The state that is reached -/

def stateAfter (x : EStateM ε σ α) (s : σ) : σ :=
  match x s with
  | .ok _ t => t
  | .error _ t => t

theorem stateAfter_of_ok {s t : σ} {a : α} (h : x s = .ok a t) : stateAfter x s = t := by
  rw [stateAfter, h]

theorem stateAfter_of_error {s t : σ} {e : ε} (h : x s = .error e t) : stateAfter x s = t := by
  rw [stateAfter, h]

theorem stateAfter_bind_of_ok {g : α → EStateM ε σ β} {s u : σ} {a : α} (h : x s = .ok a u) :
    stateAfter (x >>= g) s = stateAfter (g a) u := by
  rw [stateAfter, bind_of_ok h, stateAfter]

theorem stateAfter_bind_of_error {g : α → EStateM ε σ β} {s u : σ} {e : ε}
    (h : x s = .error e u) : stateAfter (x >>= g) s = u :=
  stateAfter_of_error (bind_eq_error.2 (.inl h))

theorem Keeps.view_stateAfter (hx : Keeps view x) (s : σ) : view (stateAfter x s) = view s := by
  cases h : x s with
  | ok a t =>
    rw [stateAfter_of_ok h]
    exact hx.ok h
  | error e t =>
    rw [stateAfter_of_error h]
    exact hx.error h

/-- What follows an action leaves what the action has made. -/
theorem view_stateAfter_bind {g : α → EStateM ε σ β} (hg : ∀ a, Keeps view (g a)) (s : σ) :
    view (stateAfter (x >>= g) s) = view (stateAfter x s) := by
  cases h : x s with
  | ok a t =>
    rw [stateAfter_bind_of_ok h, stateAfter_of_ok h]
    exact (hg a).view_stateAfter t
  | error e t => rw [stateAfter_bind_of_error h, stateAfter_of_error h]

/-! ## Items in turn -/

/-- The items change the view one after the other, and a failure leaves what the items
before the failing one have made. -/
theorem each_cases {g : β → EStateM ε σ Unit} {change : τ → β → τ}
    (hg : ∀ b, Makes view (change · b) (g b)) (bs : List β) (s : σ) :
    (∃ t, each g bs s = .ok () t ∧ view t = bs.foldl change (view s)) ∨
    (∃ e t, each g bs s = .error e t ∧
      ∃ done b u, done ++ [b] <+: bs ∧ each g done s = .ok () u ∧ g b u = .error e t ∧
        view t = done.foldl change (view s)) := by
  induction bs generalizing s with
  | nil => exact .inl ⟨s, rfl, rfl⟩
  | cons b bs ih =>
    cases hs : g b s with
    | ok a u =>
      have hu := (hg b).ok hs
      have hstep : ∀ cs, each g (b :: cs) s = each g cs u := fun _ => bind_of_ok hs
      rw [hstep]
      rcases ih u with ⟨t, ht, hv⟩ | ⟨e, t, ht, done, c, v, hpre, hdone, hc, hv⟩
      · exact .inl ⟨t, ht, by rw [hv, hu, List.foldl_cons]⟩
      · refine .inr ⟨e, t, ht, b :: done, c, v, ?_, ?_, hc, by rw [hv, hu, List.foldl_cons]⟩
        · rw [List.cons_append]
          exact (List.prefix_cons_inj b).2 hpre
        · rw [hstep, hdone]
    | error e u =>
      refine .inr ⟨e, u, ?_, [], b, s, by simp, rfl, hs, (hg b).error hs⟩
      exact bind_eq_error.2 (.inl hs)

/-- The first item fails exactly when nothing is made. -/
theorem stateAfter_each {g : β → EStateM ε σ Unit} {change : τ → β → τ}
    (hg : ∀ b, Makes view (change · b) (g b)) (bs : List β) (s : σ) :
    ∃ done, done <+: bs ∧ view (stateAfter (each g bs) s) = done.foldl change (view s) ∧
      ∀ b rest, bs = b :: rest → (done = [] ↔ ∃ e t, g b s = .error e t) := by
  rcases each_cases hg bs s with ⟨t, ht, hv⟩ | ⟨e, t, ht, done, c, u, hpre, hdone, hc, hv⟩
  · refine ⟨bs, List.prefix_rfl, by rw [stateAfter_of_ok ht, hv], ?_⟩
    rintro b rest rfl
    obtain ⟨a, u, hb, -⟩ := bind_eq_ok.1 ht
    simp [hb]
  · refine ⟨done, (List.prefix_append done [c]).trans hpre, by rw [stateAfter_of_error ht, hv], ?_⟩
    rintro b rest rfl
    cases done with
    | nil =>
      have hbc : c = b := (List.cons_prefix_cons.1 hpre).1
      cases hdone
      exact ⟨fun _ => ⟨e, t, hbc ▸ hc⟩, fun _ => rfl⟩
    | cons d done =>
      have hbd : d = b := (List.cons_prefix_cons.1 hpre).1
      obtain ⟨a, v, hd, -⟩ := bind_eq_ok.1 hdone
      rw [hbd] at hd
      simp [hd]

theorem Keeps.each {g : β → EStateM ε σ Unit} (hg : ∀ b, Keeps view (g b)) (bs : List β) :
    Keeps view (each g bs) := by
  induction bs with
  | nil => exact keeps_pure ()
  | cons b bs ih => exact (hg b).bind fun _ => ih

/-! ## Related states -/

def Moves (R : σ → σ → Prop) (x : EStateM ε σ α) : Prop := ∀ s, R s (stateAfter x s)

theorem Keeps.moves {R : σ → σ → Prop} (hx : Keeps view x) (hR : ∀ {s t}, view t = view s → R s t) :
    Moves R x := fun s => hR (hx.view_stateAfter s)

theorem Moves.within {R : σ → σ → Prop} {part : υ → σ} {replace : σ → υ → υ} (hx : Moves R x)
    (h : ∀ s u, part (replace s u) = s) :
    Moves (fun u v => R (part u) (part v)) (within part replace x) := by
  intro u
  have hu := hx (part u)
  cases hs : x (part u) with
  | ok a s =>
    rw [stateAfter_of_ok hs] at hu
    rw [stateAfter_of_ok (within_eq_ok.2 ⟨s, hs, rfl⟩), h]
    exact hu
  | error e s =>
    rw [stateAfter_of_error hs] at hu
    rw [stateAfter_of_error (within_eq_error.2 ⟨s, hs, rfl⟩), h]
    exact hu

section

variable {R : σ → σ → Prop} (htrans : ∀ ⦃s t u⦄, R s t → R t u → R s u)

include htrans

theorem Moves.bind {g : α → EStateM ε σ β} (hx : Moves R x) (hg : ∀ a, Moves R (g a)) :
    Moves R (x >>= g) := by
  intro s
  have hs := hx s
  cases h : x s with
  | ok a t =>
    rw [stateAfter_of_ok h] at hs
    rw [stateAfter_bind_of_ok h]
    exact htrans hs (hg a t)
  | error e t =>
    rw [stateAfter_of_error h] at hs
    rw [stateAfter_bind_of_error h]
    exact hs

theorem Moves.each (hrefl : ∀ s, R s s) {g : β → EStateM ε σ Unit} {bs : List β}
    (hg : ∀ b ∈ bs, Moves R (g b)) : Moves R (each g bs) := by
  induction bs with
  | nil => exact hrefl
  | cons b bs ih =>
    exact Moves.bind htrans (hg b (by simp)) fun _ => ih fun c hc => hg c (by simp [hc])

end

end SingleWriter.Action
