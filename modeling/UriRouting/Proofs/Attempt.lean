import Mathlib.Tactic
import UriRouting.Journal

/-!
# What an attempt comes to

An attempt returns a result or a fault, together with a journal.  The lemmas here say step by step
what it returns, without regard to the journal, and then what it notes.  Both together determine it
(`ext`).
-/

namespace UriRouting.Attempt

variable {fault α β : Type}

@[simp] lemma value_pure (a : α) : (pure a : Attempt fault α).run.value = .ok a := rfl

@[simp] lemma value_ofExcept (result : Except fault α) :
    (ofExcept result).run.value = result := rfl

@[simp] lemma value_note (o : Observation) : (note o : Attempt fault Unit).run.value = .ok () := rfl

@[simp] lemma value_bind (x : Attempt fault α) (f : α → Attempt fault β) :
    (x >>= f).run.value = match x.run.value with
      | .ok a => (f a).run.value
      | .error e => .error e := by
  change (Recorded.value (ExceptT.bindCont f x.run.value)) = _
  cases x.run.value <;> rfl

@[simp] lemma value_adapt {other : Type} (g : fault → other) (x : Attempt fault α) :
    (x.adapt g).run.value = x.run.value.mapError g := by
  change (Recorded.value (x.run >>= fun r => pure (r.mapError g))) = _
  rfl

@[simp] lemma value_map (f : α → β) (x : Attempt fault α) :
    (f <$> x).run.value = x.run.value.map f := by
  change (x >>= fun a => pure (f a)).run.value = _
  rw [value_bind]
  cases x.run.value <;> rfl

@[simp] lemma value_lift (x : Recorded α) :
    (ExceptT.lift x : Attempt fault α).run.value = .ok x.value := rfl

@[simp] lemma ofExcept_ok (a : α) : (ofExcept (.ok a) : Attempt fault α) = pure a := rfl

@[simp] lemma ofExcept_error (e : fault) : (ofExcept (.error e) : Attempt fault α) = throw e := rfl

@[simp] lemma throw_bind (e : fault) (f : α → Attempt fault β) :
    (throw e : Attempt fault α) >>= f = throw e := rfl

/-- Another name for the fault does not turn it into a result. -/
lemma mapError_eq_ok {ε ε' : Type} {x : Except ε α} {f : ε → ε'} {a : α} :
    x.mapError f = .ok a ↔ x = .ok a := by
  cases x <;> simp [Except.mapError]

lemma toOption_eq_some {ε : Type} {x : Except ε α} {a : α} : x.toOption = some a ↔ x = .ok a := by
  cases x <;> simp [Except.toOption]

lemma value_bind_eq_ok {x : Attempt fault α} {f : α → Attempt fault β} {b : β} :
    (x >>= f).run.value = .ok b ↔ ∃ a, x.run.value = .ok a ∧ (f a).run.value = .ok b := by
  rw [value_bind]
  cases x.run.value <;> simp

/-! ## What is noted -/

lemma ext {x y : Attempt fault α} (hvalue : x.run.value = y.run.value)
    (hjournal : x.run.journal = y.run.journal) : x = y :=
  Recorded.ext hvalue hjournal

@[simp] lemma journal_pure (a : α) : (pure a : Attempt fault α).run.journal = [] := rfl

@[simp] lemma journal_ofExcept (result : Except fault α) : (ofExcept result).run.journal = [] := rfl

@[simp] lemma journal_lift (x : Recorded α) :
    (ExceptT.lift x : Attempt fault α).run.journal = x.journal := List.append_nil _

/-- After a step that returns a fault nothing is noted any more. -/
lemma journal_bind (x : Attempt fault α) (f : α → Attempt fault β) :
    (x >>= f).run.journal = x.run.journal ++ match x.run.value with
      | .ok a => (f a).run.journal
      | .error _ => [] := by
  change x.run.journal ++ (Recorded.journal (ExceptT.bindCont f x.run.value)) = _
  cases x.run.value <;> rfl

lemma mem_journal_bind {x : Attempt fault α} {f : α → Attempt fault β} {o : Observation} :
    o ∈ (x >>= f).run.journal ↔
      o ∈ x.run.journal ∨ ∃ a, x.run.value = .ok a ∧ o ∈ (f a).run.journal := by
  rw [journal_bind]
  cases x.run.value <;> simp

@[simp] lemma journal_map (f : α → β) (x : Attempt fault α) :
    (f <$> x).run.journal = x.run.journal := by
  change (x >>= fun a => pure (f a)).run.journal = _
  rw [journal_bind]
  cases x.run.value <;> simp

@[simp] lemma journal_adapt {other : Type} (g : fault → other) (x : Attempt fault α) :
    (x.adapt g).run.journal = x.run.journal := by
  change (Recorded.journal (x.run >>= fun r => pure (r.mapError g))) = _
  rw [Recorded.journal_bind, Recorded.journal_pure, List.append_nil]

lemma adapt_map {other : Type} (g : fault → other) (f : α → β) (x : Attempt fault α) :
    (f <$> x).adapt g = f <$> x.adapt g := by
  apply ext
  · rw [value_adapt, value_map, value_map, value_adapt]
    cases x.run.value <;> rfl
  · rw [journal_adapt, journal_map, journal_map, journal_adapt]

end UriRouting.Attempt
