import EntityGen.Trace
import Mathlib.Data.List.Forall2

/-!
Runs over a list that stop at the first failure. `List.mapM` in `Except` succeeds exactly when every
element does (`mapM_eq_ok_iff`) and otherwise fails as its first failing element does
(`mapM_eq_error_iff`). `Traced.forEach` has the same outcome (`outcome_forEach`), and it tells what the elements
tell, one after the other, up to the first that fails. -/
namespace EntityGen
variable {α β γ δ ε : Type}

/-! ### Outcomes -/

theorem map_eq_ok_iff {x : Except ε α} {f : α → β} {b : β} :
    x.map f = .ok b ↔ ∃ a, x = .ok a ∧ f a = b := by
  cases x <;> simp [Except.map]

theorem exists_map_eq_ok_iff {x : Except ε α} {f : α → β} : (∃ b, x.map f = .ok b) ↔ ∃ a, x = .ok a := by
  cases x <;> simp [Except.map]

theorem map_eq_error_iff {x : Except ε α} {f : α → β} {e : ε} :
    x.map f = .error e ↔ x = .error e := by
  cases x <;> simp [Except.map]

theorem bind_eq_ok_iff {x : Except ε α} {f : α → Except ε β} {b : β} :
    x >>= f = .ok b ↔ ∃ a, x = .ok a ∧ f a = .ok b := by
  cases x <;> simp [bind, Except.bind]

theorem bind_eq_error_iff {x : Except ε α} {f : α → Except ε β} {e : ε} :
    x >>= f = .error e ↔ x = .error e ∨ ∃ a, x = .ok a ∧ f a = .error e := by
  cases x <;> simp [bind, Except.bind]

theorem bind_of_ok {x : Except ε α} {a : α} (h : x = .ok a) (f : α → Except ε β) : x >>= f = f a := by
  rw [h]
  rfl

theorem bind_of_error {x : Except ε α} {e : ε} (h : x = .error e) (f : α → Except ε β) : x >>= f = .error e := by
  rw [h]
  rfl

/-! ### First failures -/

/-- Some element fails with `e`, and all before it succeed. -/
def FailsFirst (f : α → Except ε β) (l : List α) (e : ε) : Prop :=
  ∃ before a after, l = before ++ a :: after ∧ (∀ b ∈ before, ∃ y, f b = .ok y) ∧ f a = .error e

theorem failsFirst_nil {f : α → Except ε β} {e : ε} : ¬ FailsFirst f [] e := by
  intro h
  obtain ⟨before, a, after, h, _⟩ := h
  cases before <;> exact nomatch h

theorem failsFirst_cons {f : α → Except ε β} {a : α} {l : List α} {e : ε} :
    FailsFirst f (a :: l) e ↔ f a = .error e ∨ (∃ b, f a = .ok b) ∧ FailsFirst f l e := by
  constructor
  · intro h
    obtain ⟨before, x, after, heq, hb, hx⟩ := h
    cases before with
    | nil =>
      obtain ⟨rfl, rfl⟩ := List.cons.inj heq
      exact .inl hx
    | cons b before =>
      obtain ⟨rfl, rfl⟩ := List.cons.inj heq
      have ha := hb a (List.mem_cons_self ..)
      exact .inr ⟨ha, before, x, after, rfl, fun c hc => hb c (List.mem_cons_of_mem _ hc), hx⟩
  · intro h
    rcases h with h | ⟨ha, before, x, after, rfl, hb, hx⟩
    · exact ⟨[], a, l, rfl, nofun, h⟩
    · refine ⟨a :: before, x, after, rfl, fun b hm => ?_, hx⟩
      rcases List.mem_cons.mp hm with rfl | hm
      · exact ha
      · exact hb b hm

/-- What is done with the results does not change which element fails first. -/
theorem failsFirst_map {f : α → Except ε β} {g : β → γ} {l : List α} {e : ε} :
    FailsFirst (fun a => (f a).map g) l e ↔ FailsFirst f l e := by
  simp only [FailsFirst, exists_map_eq_ok_iff, map_eq_error_iff]

/-- The first failing element, where a test tells which elements fail. -/
theorem failsFirst_iff_find? {f : α → Except ε β} {fails : α → Bool}
    (tested : ∀ a, fails a = true ↔ ∃ e, f a = .error e) {l : List α} {e : ε} :
    FailsFirst f l e ↔ ∃ a, l.find? fails = some a ∧ f a = .error e := by
  have passes : ∀ a, (!fails a) = true ↔ ∃ b, f a = .ok b := by
    intro a
    rw [Bool.not_eq_true', ← Bool.not_eq_true, tested]
    cases f a <;> simp
  simp only [List.find?_eq_some_iff_append, passes]
  constructor
  · intro h
    obtain ⟨before, a, after, split, passed, failed⟩ := h
    exact ⟨a, ⟨(tested a).mpr ⟨e, failed⟩, before, after, split, passed⟩, failed⟩
  · intro h
    obtain ⟨a, ⟨-, before, after, split, passed⟩, failed⟩ := h
    exact ⟨before, a, after, split, passed, failed⟩

/-! ### Runs -/

theorem mapM_cons_eq (f : α → Except ε β) (a : α) (l : List α) :
    (a :: l).mapM f = f a >>= fun b => (l.mapM f).map (b :: ·) := by
  rw [List.mapM_cons]
  rfl

/-- A run succeeds with the results of the elements. -/
theorem mapM_eq_ok_iff {f : α → Except ε β} {l : List α} {bs : List β} :
    l.mapM f = .ok bs ↔ List.Forall₂ (fun a b => f a = .ok b) l bs := by
  induction l generalizing bs with
  | nil =>
    rw [List.mapM_nil, List.forall₂_nil_left_iff]
    exact ⟨fun h => (Except.ok.inj h).symm, fun h => h ▸ rfl⟩
  | cons a l ih =>
    simp only [mapM_cons_eq, bind_eq_ok_iff, map_eq_ok_iff, ih, List.forall₂_cons_left_iff]
    constructor
    · intro h
      obtain ⟨b, hb, bs', hbs, rfl⟩ := h
      exact ⟨b, bs', hb, hbs, rfl⟩
    · intro h
      obtain ⟨b, bs', hb, hbs, rfl⟩ := h
      exact ⟨b, hb, bs', hbs, rfl⟩

/-- What stands on the right stands against something on the left. -/
theorem exists_of_mem_forall₂ {R : α → β → Prop} {l : List α} {bs : List β} (h : List.Forall₂ R l bs) {b : β}
    (hb : b ∈ bs) : ∃ a ∈ l, R a b := by
  induction h with
  | nil => exact nomatch hb
  | cons hab _ ih =>
    rcases List.mem_cons.mp hb with rfl | hb
    · exact ⟨_, List.mem_cons_self .., hab⟩
    · obtain ⟨a, ha, hab⟩ := ih hb
      exact ⟨a, List.mem_cons_of_mem _ ha, hab⟩

/-- What stands on the left stands against something at its place on the right. -/
theorem exists_split_of_mem_forall₂ {R : α → β → Prop} {l : List α} {bs : List β} (h : List.Forall₂ R l bs)
    {a : α} (ha : a ∈ l) : ∃ before b after, bs = before ++ b :: after ∧ R a b := by
  induction h with
  | nil => exact nomatch ha
  | @cons c d _ rest hcd _ ih =>
    rcases List.mem_cons.mp ha with rfl | ha
    · exact ⟨[], d, rest, rfl, hcd⟩
    · obtain ⟨before, b, after, rfl, hab⟩ := ih ha
      exact ⟨d :: before, b, after, rfl, hab⟩

/-- A result of a run is the result of an element. -/
theorem exists_of_mem_mapM {f : α → Except ε β} {l : List α} {bs : List β} (h : l.mapM f = .ok bs) {b : β}
    (hb : b ∈ bs) : ∃ a ∈ l, f a = .ok b := exists_of_mem_forall₂ (mapM_eq_ok_iff.mp h) hb

/-- What holds of every element and its result holds down the run. -/
theorem forall₂_map_of_mapM {f : α → Except ε β} {g : β → γ} {S : α → γ → Prop} {l : List α} {bs : List β}
    (h : l.mapM f = .ok bs) (own : ∀ a ∈ l, ∀ b, f a = .ok b → S a (g b)) :
    List.Forall₂ S l (bs.map g) := by
  rw [List.forall₂_map_right_iff]
  have results : List.Forall₂ (fun a b => a ∈ l ∧ f a = .ok b) l bs :=
    (List.forall₂_and_left _ _).mpr ⟨fun _ ha => ha, mapM_eq_ok_iff.mp h⟩
  exact results.imp fun a b ⟨ha, hb⟩ => own a ha b hb

/-- A run fails as its first failing element does. -/
theorem mapM_eq_error_iff {f : α → Except ε β} {l : List α} {e : ε} :
    l.mapM f = .error e ↔ FailsFirst f l e := by
  induction l with
  | nil => exact iff_of_false nofun failsFirst_nil
  | cons a l ih =>
    rw [mapM_cons_eq, bind_eq_error_iff, failsFirst_cons]
    simp only [map_eq_error_iff, ih, exists_and_right]

/-- A run succeeds exactly when every element does. -/
theorem exists_mapM_eq_ok_iff {f : α → Except ε β} {l : List α} :
    (∃ bs, l.mapM f = .ok bs) ↔ ∀ a ∈ l, ∃ b, f a = .ok b := by
  simp only [mapM_eq_ok_iff]
  induction l with
  | nil => exact ⟨fun _ => nofun, fun _ => ⟨[], .nil⟩⟩
  | cons a l ih =>
    rw [List.forall_mem_cons, ← ih]
    constructor
    · intro h
      obtain ⟨bs, h⟩ := h
      obtain ⟨b, bs', hb, hbs, -⟩ := List.forall₂_cons_left_iff.mp h
      exact ⟨⟨b, hb⟩, bs', hbs⟩
    · intro h
      obtain ⟨⟨b, hb⟩, bs, hbs⟩ := h
      exact ⟨b :: bs, .cons hb hbs⟩

/-- Some element fails first exactly when some element fails. -/
theorem exists_failsFirst_iff {f : α → Except ε β} {l : List α} :
    (∃ e, FailsFirst f l e) ↔ ∃ a ∈ l, ∃ e, f a = .error e := by
  constructor
  · intro h
    obtain ⟨e, before, a, after, rfl, -, failed⟩ := h
    exact ⟨a, List.mem_append_right _ (List.mem_cons_self ..), e, failed⟩
  · intro h
    obtain ⟨a, mem, _, failed⟩ := h
    cases run : l.mapM f with
    | error e => exact ⟨e, mapM_eq_error_iff.mp run⟩
    | ok bs =>
      obtain ⟨_, passed⟩ := exists_mapM_eq_ok_iff.mp ⟨bs, run⟩ a mem
      exact nomatch passed.symm.trans failed

/-! ### Alone and together

`g` is made of the results of a run, `h` of the result of one element alone. -/

theorem exists_run_eq_ok_iff {f : α → Except ε β} (g : List β → γ) (h : β → δ) {l : List α} :
    (∃ c, (l.mapM f).map g = .ok c) ↔ ∀ a ∈ l, ∃ d, (f a).map h = .ok d := by
  simp only [exists_map_eq_ok_iff, exists_mapM_eq_ok_iff]

theorem run_eq_error_iff {f : α → Except ε β} (g : List β → γ) (h : β → δ) {l : List α} {e : ε} :
    (l.mapM f).map g = .error e ↔ FailsFirst (fun a => (f a).map h) l e := by
  rw [map_eq_error_iff, mapM_eq_error_iff, failsFirst_map]

namespace Traced

theorem forEach_cons (f : α → Traced ε β) (a : α) (l : List α) :
    forEach f (a :: l) = f a >>= fun b => forEach f l >>= fun bs => pure (b :: bs) := rfl

theorem outcome_bind (x : Traced ε α) (f : α → Traced ε β) :
    (x >>= f).outcome = x.outcome >>= fun a => (f a).outcome := by
  cases h : x.outcome with
  | error e => rw [bind_of_error h]; rfl
  | ok a => rw [bind_of_ok h]; rfl

/-- Events aside, a traced run is a plain one. -/
theorem outcome_forEach (f : α → Traced ε β) (l : List α) :
    (forEach f l).outcome = l.mapM fun a => (f a).outcome := by
  induction l with
  | nil => rfl
  | cons a l ih => rw [forEach_cons, outcome_bind, List.mapM_cons]; simp only [outcome_bind, ih]; rfl

/-- A run that succeeds tells what its elements tell, in order. -/
theorem events_forEach {f : α → Traced ε β} {l : List α} {bs : List β}
    (h : (forEach f l).outcome = .ok bs) : (forEach f l).events = l.flatMap fun a => (f a).events := by
  induction l generalizing bs with
  | nil => rfl
  | cons a l ih =>
    rw [outcome_forEach, mapM_eq_ok_iff] at h
    obtain ⟨b, bs', hb, hbs, rfl⟩ := List.forall₂_cons_left_iff.mp h
    rw [← mapM_eq_ok_iff, ← outcome_forEach] at hbs
    rw [forEach_cons, bind_of_ok hb, bind_of_ok hbs]
    simp [ih hbs]

/-- A run that fails tells what its elements tell up to the first that fails, and what that one tells. -/
theorem events_forEach_append_cons {f : α → Traced ε β} {before after : List α} {a : α} {e : ε}
    (passed : ∀ b ∈ before, ∃ y, (f b).outcome = .ok y) (failed : (f a).outcome = .error e) :
    (forEach f (before ++ a :: after)).events = (before.flatMap fun b => (f b).events) ++ (f a).events := by
  induction before with
  | nil => rw [List.nil_append, forEach_cons, bind_of_error failed, List.flatMap_nil, List.nil_append]
  | cons b before ih =>
    obtain ⟨⟨y, hy⟩, passed⟩ := List.forall_mem_cons.mp passed
    have stops : (forEach f (before ++ a :: after)).outcome = .error e := by
      rw [outcome_forEach, mapM_eq_error_iff]
      exact ⟨before, a, after, rfl, passed, failed⟩
    rw [List.cons_append, forEach_cons, bind_of_ok hy, bind_of_error stops, List.flatMap_cons, List.append_assoc,
      ih passed]

theorem mem_events_bind {x : Traced ε α} {f : α → Traced ε β} {event : Event} (h : event ∈ (x >>= f).events) :
    event ∈ x.events ∨ ∃ a, x.outcome = .ok a ∧ event ∈ (f a).events := by
  cases ha : x.outcome with
  | error e =>
    rw [bind_of_error ha] at h
    exact .inl h
  | ok a =>
    rw [bind_of_ok ha] at h
    exact (List.mem_append.mp h).imp_right fun h => ⟨a, rfl, h⟩

/-- A run tells nothing that no element of it tells, even if it fails. -/
theorem mem_events_forEach {f : α → Traced ε β} {l : List α} {event : Event}
    (h : event ∈ (forEach f l).events) : ∃ a ∈ l, event ∈ (f a).events := by
  induction l with
  | nil => exact nomatch h
  | cons a l ih =>
    rw [forEach_cons] at h
    rcases mem_events_bind h with h | ⟨b, -, h⟩
    · exact ⟨a, List.mem_cons_self .., h⟩
    · rcases mem_events_bind h with h | ⟨bs, -, h⟩
      · obtain ⟨c, hc, h⟩ := ih h
        exact ⟨c, List.mem_cons_of_mem _ hc, h⟩
      · exact nomatch h

end Traced

end EntityGen
