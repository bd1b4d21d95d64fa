import SqlTemplate.Proofs.Rendering

/-!
# What successful coercions have in common

A coercion may fail and may ask suppliers on its way.  `Ensures` says what holds of its
result whenever there is one, whatever the suppliers answer, and the lemmas below follow
the way coercions are put together: `ensures_bind`, `ensures_mapM`, and
`ensures_resolveBind` for a coercion that begins by resolving a value.  Judgements of
scalars ask no supplier; `bind_eq_ok` and `map_eq_ok` take them apart, as
`coercing_bind_eq_ok` does for coercions, of which `coercing_bind_congr` compares two, and
`identifierText_eq_ok` is the judgement of a name.
-/

namespace SqlTemplate

/-! ## Judgements -/

section Judgements

variable {α β : Type}

theorem bind_eq_ok {first : Except Rejection α} {next : α → Except Rejection β} {result : β} :
    first >>= next = .ok result ↔ ∃ middle, first = .ok middle ∧ next middle = .ok result := by
  cases first with
  | ok middle => simp [bind, Except.bind]
  | error reason => simp [bind, Except.bind]

theorem map_eq_ok {judgement : Except Rejection α} {f : α → β} {result : β} :
    f <$> judgement = .ok result ↔ ∃ inner, judgement = .ok inner ∧ f inner = result := by
  cases judgement with
  | ok inner => simp [Functor.map, Except.map]
  | error reason => simp [Functor.map, Except.map]

/-- A name is written if it is accepted, and then as its style says. -/
theorem identifierText_eq_ok {config : Config} {style : QuoteStyle} {raw text : String} :
    identifierText config style raw = .ok text ↔ config.isQuantifier raw = true ∧
      text = match style with
        | .quoted => config.quoteIdentifier raw
        | .unquoted => raw := by
  unfold identifierText
  split
  · rename_i haccepted
    constructor
    · rintro ⟨⟩
      exact ⟨haccepted, rfl⟩
    · rintro ⟨-, rfl⟩
      rfl
  · rename_i hrefused
    exact iff_of_false nofun fun hboth => hrefused hboth.1

end Judgements

/-! ## Coercions -/

/-- Whenever the coercion succeeds, its result has the property. -/
def Ensures {α : Type} (coercion : Coercing α) (property : α → Prop) : Prop :=
  ∀ log result after, coercion log = (.ok result, after) → property result

variable {α β : Type} {property : α → Prop} {goal : β → Prop}

theorem ensures_pure {result : α} (h : property result) : Ensures (pure result) property := by
  rintro log _ after ⟨⟩
  exact h

theorem ensures_throw (rejected : Rejected) : Ensures (throw rejected) property := by
  rintro log result after ⟨⟩

theorem ensures_judge {found : ValueKind} {judgement : Except Rejection α}
    (h : ∀ result, judgement = .ok result → property result) :
    Ensures (judge found judgement) property := by
  cases judgement with
  | ok result => exact ensures_pure (h result rfl)
  | error reason => exact ensures_throw _

theorem ok_of_judge {found : ValueKind} {judgement : Except Rejection α} {result : α}
    {log after : CallLog} (h : judge found judgement log = (.ok result, after)) :
    judgement = .ok result ∧ after = log := by
  cases judgement <;> cases h
  exact ⟨rfl, rfl⟩

/-- A coercion in two steps succeeds if both steps do, one after the other. -/
theorem coercing_bind_eq_ok {first : Coercing α} {next : α → Coercing β} {log after : CallLog}
    {result : β} :
    (first >>= next) log = (.ok result, after) ↔
      ∃ middle between, first log = (.ok middle, between) ∧
        next middle between = (.ok result, after) := by
  show (first >>= next).run log = _ ↔ _
  rw [bind_apply]
  rcases hfirst : first.run log with ⟨rejected | middle, between⟩
  · refine ⟨nofun, ?_⟩
    rintro ⟨_, _, hmiddle, _⟩
    cases hfirst.symm.trans hmiddle
  · refine ⟨fun hnext => ⟨middle, between, hfirst, hnext⟩, ?_⟩
    rintro ⟨_, _, hmiddle, hnext⟩
    cases hfirst.symm.trans hmiddle
    exact hnext

/-- Coercions in two steps come to the same if their first steps do and their second steps do after
that. -/
theorem coercing_bind_congr {first second : Coercing α} {next other : α → Coercing β}
    {log : CallLog} (h : first log = second log)
    (hnext : ∀ result after, first log = (.ok result, after) →
      next result after = other result after) :
    (first >>= next) log = (second >>= other) log := by
  show (first >>= next).run log = (second >>= other).run log
  rw [bind_apply, bind_apply, ← show first.run log = second.run log from h]
  rcases hrun : first.run log with ⟨rejected | result, after⟩
  · rfl
  · exact hnext result after hrun

theorem ensures_bind {first : Coercing α} {next : α → Coercing β}
    (hfirst : Ensures first property)
    (hnext : ∀ result, property result → Ensures (next result) goal) :
    Ensures (first >>= next) goal := by
  intro log result after hrun
  obtain ⟨middle, between, hmiddle, hrest⟩ := coercing_bind_eq_ok.mp hrun
  exact hnext middle (hfirst log middle between hmiddle) between result after hrest

theorem ensures_mapM {step : α → Coercing β} {items : List α}
    (h : ∀ item, Ensures (step item) goal) :
    Ensures (items.mapM step) fun results => ∀ result ∈ results, goal result := by
  induction items with
  | nil => exact ensures_pure nofun
  | cons item rest ih =>
    rw [List.mapM_cons]
    refine ensures_bind (h item) fun first hfirst => ensures_bind ih fun others hothers => ?_
    exact ensures_pure (List.forall_mem_cons.mpr ⟨hfirst, hothers⟩)

theorem ensures_resolveBind {value : Value} {next : Resolved → Coercing β}
    (h : ∀ resolved, Ensures (next resolved) goal) :
    Ensures (do next (← value.resolve)) goal := by
  intro log result after hrun
  rw [resolve_bind] at hrun
  exact h _ _ _ _ hrun

end SqlTemplate
