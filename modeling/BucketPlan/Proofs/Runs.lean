import BucketPlan.Refusal

namespace BucketPlan

variable {ε α β γ : Type}

/-- A sequence has an answer when its first step has one, and the rest has one from there. -/
theorem bind_eq_ok_iff {x : Except ε α} {f : α → Except ε β} {b : β} :
    (x >>= f) = .ok b ↔ ∃ a, x = .ok a ∧ f a = .ok b := by
  cases x <;> simp [bind, Except.bind]

theorem pure_eq_ok_iff {a b : α} : (pure a : Except ε α) = .ok b ↔ a = b := by
  simp [pure, Except.pure]

/-- A computation whose answer is changed has an answer when it has one by itself. -/
theorem map_eq_ok_iff {x : Except ε α} {f : α → β} {b : β} : f <$> x = .ok b ↔ ∃ a, x = .ok a ∧ f a = b := by
  cases x <;> simp [Functor.map, Except.map]

theorem throw_ne_ok {e : ε} {a : α} : (throw e : Except ε α) ≠ .ok a := by
  simp [throw, throwThe, MonadExceptOf.throw]

/-- A choice that fails on one side has the answer of the other side. -/
theorem ite_throw_eq_ok_iff {p : Prop} [Decidable p] {x : Except ε α} {e : ε} {a : α} :
    (if p then throw e else x) = .ok a ↔ ¬ p ∧ x = .ok a := by
  by_cases h : p <;> simp [h, throw_ne_ok]

theorem ite_eq_ok_iff {p : Prop} [Decidable p] {x : Except ε α} {e : ε} {a : α} :
    (if p then x else throw e) = .ok a ↔ p ∧ x = .ok a := by
  by_cases h : p <;> simp [h, throw_ne_ok]

/-- A lifted computation has the answers that it has by itself. -/
theorem Overflow.monadLift_eq_ok_iff {x : Except Overflow α} {a : α} :
    (liftM x : Except Failure α) = .ok a ↔ x = .ok a := Overflow.lift_eq_ok_iff

theorem Refusal.monadLift_eq_ok_iff {x : Except Refusal α} {a : α} :
    (liftM x : Except Failure α) = .ok a ↔ x = .ok a := Refusal.lift_eq_ok_iff

theorem mapM_eq_ok_iff {f : α → Except ε β} {xs : List α} {bs : List β} :
    xs.mapM f = .ok bs ↔ xs.map f = bs.map .ok := by
  induction xs generalizing bs with
  | nil => cases bs <;> simp [pure, Except.pure]
  | cons x xs ih =>
    simp only [List.mapM_cons, bind_eq_ok_iff, pure_eq_ok_iff, ih, List.map_cons]
    constructor
    · rintro ⟨b, first, rest, more, rfl⟩
      rw [first, more, List.map_cons]
    · intro each
      cases bs with
      | nil => cases each
      | cons b bs =>
        obtain ⟨first, more⟩ := List.cons.inj each
        exact ⟨b, first, bs, more, rfl⟩

theorem mapM_map_eq_ok {f : α → Except ε β} {make : β → γ} {xs : List α} {bs : List β} (run : xs.mapM f = .ok bs) :
    (xs.mapM fun x => make <$> f x) = .ok (bs.map make) := by
  rw [mapM_eq_ok_iff] at run ⊢
  have made := congrArg (List.map (make <$> ·)) run
  rw [List.map_map, List.map_map] at made
  rw [List.map_map]
  exact made

/-- A list is worked off when each of its members is, and what is known of each answer is
    known of the answers together. -/
theorem exists_mapM_map {f : α → Except ε β} {k : β → γ} {v : α → γ} {xs : List α}
    (each : ∀ x ∈ xs, ∃ b, f x = .ok b ∧ k b = v x) : ∃ bs, xs.mapM f = .ok bs ∧ bs.map k = xs.map v := by
  induction xs with
  | nil => exact ⟨[], rfl, rfl⟩
  | cons x xs ih =>
    obtain ⟨b, first, known⟩ := each x List.mem_cons_self
    obtain ⟨bs, rest, more⟩ := ih fun y member => each y (List.mem_cons_of_mem x member)
    refine ⟨b :: bs, ?_, by rw [List.map_cons, List.map_cons, known, more]⟩
    simp only [List.mapM_cons, first, rest, bind, Except.bind, pure, Except.pure]

/-- A list is worked off when each of its members is. -/
theorem exists_mapM {f : α → Except ε β} {xs : List α} (each : ∀ x ∈ xs, ∃ b, f x = .ok b) :
    ∃ bs, xs.mapM f = .ok bs := by
  obtain ⟨bs, run, _⟩ : ∃ bs, xs.mapM f = .ok bs ∧ bs.map (fun _ => ()) = xs.map fun _ => () :=
    exists_mapM_map fun x member => (each x member).imp fun _ run => ⟨run, rfl⟩
  exact ⟨bs, run⟩

/-! ## Failing runs -/

/-- A sequence fails where its first step fails, or the rest from the answer of the first step. -/
theorem bind_eq_error_iff {x : Except ε α} {f : α → Except ε β} {e : ε} :
    (x >>= f) = .error e ↔ x = .error e ∨ ∃ a, x = .ok a ∧ f a = .error e := by
  cases x <;> simp [bind, Except.bind]

theorem pure_ne_error {a : α} {e : ε} : (pure a : Except ε α) ≠ .error e := by
  simp [pure, Except.pure]

theorem throw_eq_error_iff {d e : ε} : (throw d : Except ε α) = .error e ↔ d = e := by
  simp [throw, throwThe, MonadExceptOf.throw]

theorem map_eq_error_iff {x : Except ε α} {f : α → β} {e : ε} : f <$> x = .error e ↔ x = .error e := by
  cases x <;> simp [Functor.map, Except.map]

/-- Without an answer there is the one failure that an overflow is. -/
theorem Overflow.eq_error_iff {x : Except Overflow α} : x = .error .outOfRange ↔ ¬ ∃ a, x = .ok a := by
  cases x with
  | error e => cases e; simp
  | ok a => simp

theorem Overflow.lift_eq_overflow_iff {x : Except Overflow α} :
    Overflow.lift x = .error .overflow ↔ x = .error .outOfRange := by
  cases x with
  | error e => cases e; simp [Overflow.lift]
  | ok a => simp [Overflow.lift]

theorem Overflow.monadLift_eq_error_iff {x : Except Overflow α} :
    (liftM x : Except Failure α) = .error .overflow ↔ x = .error .outOfRange := Overflow.lift_eq_overflow_iff

theorem Refusal.lift_ne_overflow {x : Except Refusal α} : Refusal.lift x ≠ .error .overflow := by
  cases x <;> simp [Refusal.lift]

theorem Refusal.monadLift_ne_overflow {x : Except Refusal α} : (liftM x : Except Failure α) ≠ .error .overflow :=
  Refusal.lift_ne_overflow

end BucketPlan
