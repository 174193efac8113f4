/-
# Steps that can fail

A chain of steps has a result if each of its steps has one. A chain whose steps give up earlier than
those of another one is the same as the other, unless it gives up (`SameUnless`).
-/

import Mathlib.Data.List.Forall2

namespace Reckoner

variable {ε ε' α β : Type}

/-- Two stages succeed if the first one does and the second one does on its result. -/
theorem bind_eq_ok_iff {x : Except ε α} {f : α → Except ε β} {b : β} :
    x >>= f = .ok b ↔ ∃ a, x = .ok a ∧ f a = .ok b := by
  cases x with
  | error e => exact ⟨nofun, fun ⟨_, h, _⟩ => nomatch h⟩
  | ok a => exact ⟨fun h => ⟨a, rfl, h⟩, fun ⟨_, h, hf⟩ => by cases h; exact hf⟩

/-- Rewording errors keeps what succeeds. -/
theorem mapError_eq_ok_iff {x : Except ε α} {f : ε → ε'} {a : α} :
    x.mapError f = .ok a ↔ x = .ok a := by
  cases x with
  | error e => exact ⟨nofun, nofun⟩
  | ok a => exact ⟨fun h => congrArg _ (Except.ok.inj h), fun h => congrArg _ (Except.ok.inj h)⟩

/-- Two stages fail if the first one does, or the second one on its result. -/
theorem bind_eq_error_iff {x : Except ε α} {f : α → Except ε β} {e : ε} :
    x >>= f = .error e ↔ x = .error e ∨ ∃ a, x = .ok a ∧ f a = .error e := by
  cases x with
  | error e' =>
    exact ⟨fun h => .inl (congrArg _ (Except.error.inj h)), fun h => h.elim
      (fun h => congrArg _ (Except.error.inj h)) fun ⟨_, h, _⟩ => nomatch h⟩
  | ok a =>
    exact ⟨fun h => .inr ⟨a, rfl, h⟩, fun h => h.elim nofun fun ⟨_, h, hf⟩ => by cases h; exact hf⟩

/-- A reworded error is the wording of one. -/
theorem mapError_eq_error_iff {x : Except ε α} {f : ε → ε'} {e' : ε'} :
    x.mapError f = .error e' ↔ ∃ e, x = .error e ∧ f e = e' := by
  cases x with
  | error e =>
    exact ⟨fun h => ⟨e, rfl, Except.error.inj h⟩, fun ⟨_, h, hf⟩ => by cases h; exact congrArg _ hf⟩
  | ok a => exact ⟨nofun, fun ⟨_, h, _⟩ => nomatch h⟩

/-- Steps along a list that all had results. -/
theorem forall₂_of_mapM {f : α → Except ε β} {xs : List α} {ys : List β}
    (h : xs.mapM f = .ok ys) : List.Forall₂ (fun x y => f x = .ok y) xs ys := by
  induction xs generalizing ys with
  | nil =>
    cases h
    exact .nil
  | cons x xs ih =>
    rw [List.mapM_cons] at h
    obtain ⟨y, hy, h⟩ := bind_eq_ok_iff.1 h
    obtain ⟨ys, hys, h⟩ := bind_eq_ok_iff.1 h
    cases h
    exact .cons hy (ih hys)

/-- What succeeds on each element succeeds on the list. -/
theorem mapM_of_forall₂ {f : α → Except ε β} {xs : List α} {ys : List β}
    (h : List.Forall₂ (fun x y => f x = .ok y) xs ys) : xs.mapM f = .ok ys := by
  induction h with
  | nil => rfl
  | cons hx _ ih =>
    rw [List.mapM_cons, hx, ih]
    rfl

/-- What each left side of related lists has. -/
theorem forall_of_forall₂ {r : α → β → Prop} {p : α → Prop} {xs : List α} {ys : List β}
    (h : List.Forall₂ r xs ys) (hp : ∀ x y, r x y → p x) : ∀ x ∈ xs, p x :=
  ((List.forall₂_and_left xs ys).1 (h.imp fun x y hxy => ⟨hp x y hxy, hxy⟩)).1

/-- What succeeds on each element with the value of a function maps the list by it. -/
theorem mapM_eq_ok {f : α → Except ε β} {g : α → β} {xs : List α}
    (h : ∀ x ∈ xs, f x = .ok (g x)) : xs.mapM f = .ok (xs.map g) := by
  induction xs with
  | nil => rfl
  | cons x xs ih =>
    obtain ⟨hx, hxs⟩ := List.forall_mem_cons.1 h
    rw [List.mapM_cons, hx, ih hxs]
    rfl

/-- Steps along a list have results if each of them has one. -/
theorem exists_mapM {f : α → Except ε β} {xs : List α} (h : ∀ x ∈ xs, ∃ y, f x = .ok y) :
    ∃ ys, xs.mapM f = .ok ys := by
  induction xs with
  | nil => exact ⟨[], rfl⟩
  | cons x xs ih =>
    obtain ⟨⟨y, hy⟩, hxs⟩ := List.forall_mem_cons.1 h
    obtain ⟨ys, hys⟩ := ih hxs
    exact ⟨y :: ys, by rw [List.mapM_cons, hy, hys]; rfl⟩

/-- Steps along a list fail with the first of them that fails. -/
theorem mapM_eq_error_iff {f : α → Except ε β} {xs : List α} {e : ε} :
    xs.mapM f = .error e ↔ ∃ before x after, xs = before ++ x :: after ∧
      (∀ y ∈ before, ∃ b, f y = .ok b) ∧ f x = .error e := by
  induction xs with
  | nil => exact ⟨nofun, fun ⟨before, x, after, h, _⟩ => by cases before <;> cases h⟩
  | cons x xs ih =>
    rw [List.mapM_cons, bind_eq_error_iff]
    constructor
    · rintro (h | ⟨y, hy, h⟩)
      · exact ⟨[], x, xs, rfl, by simp, h⟩
      · obtain h | ⟨ys, -, h⟩ := bind_eq_error_iff.1 h
        · obtain ⟨before, z, after, rfl, hbefore, hz⟩ := ih.1 h
          exact ⟨x :: before, z, after, rfl, List.forall_mem_cons.2 ⟨⟨y, hy⟩, hbefore⟩, hz⟩
        · cases h
    · rintro ⟨before, z, after, h, hbefore, hz⟩
      cases before with
      | nil =>
        cases h
        exact .inl hz
      | cons w before =>
        obtain ⟨rfl, rfl⟩ := List.cons.inj h
        obtain ⟨⟨y, hy⟩, hbefore⟩ := List.forall_mem_cons.1 hbefore
        exact .inr ⟨y, hy, bind_eq_error_iff.2 (.inl (ih.2 ⟨before, z, after, rfl, hbefore, hz⟩))⟩

/-- A fold fails with the first of its steps that fails. -/
theorem foldlM_eq_error_iff {f : β → α → Except ε β} {xs : List α} {b : β} {e : ε} :
    xs.foldlM f b = .error e ↔ ∃ before x after b', xs = before ++ x :: after ∧
      before.foldlM f b = .ok b' ∧ f b' x = .error e := by
  induction xs generalizing b with
  | nil => exact ⟨nofun, fun ⟨before, x, after, _, h, _⟩ => by cases before <;> cases h⟩
  | cons x xs ih =>
    rw [List.foldlM_cons, bind_eq_error_iff]
    constructor
    · rintro (h | ⟨next, hnext, h⟩)
      · exact ⟨[], x, xs, b, rfl, rfl, h⟩
      · obtain ⟨before, y, after, b', rfl, hbefore, hy⟩ := ih.1 h
        exact ⟨x :: before, y, after, b', rfl, bind_eq_ok_iff.2 ⟨next, hnext, hbefore⟩, hy⟩
    · rintro ⟨before, y, after, b', h, hbefore, hy⟩
      cases before with
      | nil =>
        cases h
        cases hbefore
        exact .inl hy
      | cons w before =>
        obtain ⟨rfl, rfl⟩ := List.cons.inj h
        obtain ⟨next, hnext, hbefore⟩ := bind_eq_ok_iff.1 hbefore
        exact .inr ⟨next, hnext, ih.2 ⟨before, y, after, b', rfl, hbefore, hy⟩⟩

/-! ### Steps that give up -/

/-- That a step comes to the same as another one, unless it fails with an error of a sort. -/
def SameUnless (p : ε → Prop) (x y : Except ε α) : Prop := x = y ∨ ∃ e, x = .error e ∧ p e

namespace SameUnless

variable {p : ε → Prop} {x y z : Except ε α}

/-- An outcome is the same as itself. -/
theorem refl (p : ε → Prop) (x : Except ε α) : SameUnless p x x := .inl rfl

/-- An excepted error is the same as anything. -/
theorem error {e : ε} (h : p e) (y : Except ε α) : SameUnless p (.error e) y := .inr ⟨e, rfl, h⟩

/-- Sameness is transitive. -/
theorem trans (h : SameUnless p x y) (h' : SameUnless p y z) : SameUnless p x z := by
  obtain rfl | he := h
  · exact h'
  · exact .inr he

/-- More errors may be excepted. -/
theorem mono {q : ε → Prop} (h : SameUnless p x y) (hpq : ∀ e, p e → q e) : SameUnless q x y :=
  h.imp_right fun ⟨e, he, hp⟩ => ⟨e, he, hpq e hp⟩

/-- A step that has no error of the sort is the same as the other. -/
theorem eq (h : SameUnless p x y) (hp : ∀ e, ¬p e) : x = y :=
  h.resolve_right fun ⟨e, _, he⟩ => hp e he

/-- An error is the same error, or an excepted one. -/
theorem eq_error (h : SameUnless p x y) {e : ε} (hx : x = .error e) : y = .error e ∨ p e := by
  obtain rfl | ⟨e', he, hp⟩ := h
  · exact .inl hx
  · cases he.symm.trans hx
    exact .inr hp

/-- Stages that are the same are so one after the other. -/
theorem bind {f g : α → Except ε β} (h : SameUnless p x y) (hf : ∀ a, SameUnless p (f a) (g a)) :
    SameUnless p (x >>= f) (y >>= g) := by
  obtain rfl | ⟨e, rfl, hp⟩ := h
  · cases x with
    | error e => exact refl p _
    | ok a => exact hf a
  · exact error hp _

/-- Rewording keeps sameness, if it keeps what is excepted. -/
theorem mapError {q : ε' → Prop} {f : ε → ε'} (h : SameUnless p x y) (hf : ∀ e, p e → q (f e)) :
    SameUnless q (x.mapError f) (y.mapError f) := by
  obtain rfl | ⟨e, rfl, hp⟩ := h
  · exact refl q _
  · exact error (hf e hp) _

/-- Folds with the same steps are the same. -/
theorem foldlM {f g : β → α → Except ε β} {as : List α}
    (h : ∀ a ∈ as, ∀ b, SameUnless p (f b a) (g b a)) (b : β) :
    SameUnless p (as.foldlM f b) (as.foldlM g b) := by
  induction as generalizing b with
  | nil => exact refl p _
  | cons a as ih =>
    obtain ⟨ha, has⟩ := List.forall_mem_cons.1 h
    exact (ha b).bind (ih has)

end SameUnless

end Reckoner
