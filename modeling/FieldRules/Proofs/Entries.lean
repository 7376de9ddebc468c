import Mathlib.Data.List.Forall2
import Mathlib.Data.List.Perm.Basic
import Mathlib.Data.List.Nodup
import Mathlib.Tactic.Common

/-!
# Entries

Results that are made from other ones, lists whose items are related one by one, and lists of entries in which
every key stands once: what is looked up in these does not depend on their order.
-/

namespace FieldRules

/-! ## Results -/

/-- A sequence that has a result has come through both of its parts. -/
theorem bind_eq_ok {ε α β : Type} {x : Except ε α} {f : α → Except ε β} {y : β} (h : x >>= f = .ok y) :
    ∃ a, x = .ok a ∧ f a = .ok y := by
  cases x with
  | error e => cases h
  | ok a => exact ⟨a, rfl, h⟩

/-- A result that is made from another one was there before. -/
theorem exists_of_bind_pure {ε α β : Type} {x : Except ε α} {f : α → β} {y : β}
    (h : (do return f (← x)) = .ok y) : ∃ a, x = .ok a ∧ f a = y := by
  obtain ⟨a, hx, ha⟩ := bind_eq_ok h
  exact ⟨a, hx, Except.ok.inj ha⟩

/-! ## Related items -/

theorem exists_of_forall₂_right {α β : Type} {R : α → β → Prop} {xs : List α} {ys : List β}
    (h : List.Forall₂ R xs ys) {y : β} (hy : y ∈ ys) : ∃ x ∈ xs, R x y := by
  induction h with
  | nil => cases hy
  | cons hxy _ ih =>
    rcases List.mem_cons.1 hy with rfl | hy
    · exact ⟨_, List.mem_cons_self .., hxy⟩
    · obtain ⟨x, hx, hR⟩ := ih hy
      exact ⟨x, List.mem_cons_of_mem _ hx, hR⟩

theorem exists_of_forall₂_left {α β : Type} {R : α → β → Prop} {xs : List α} {ys : List β}
    (h : List.Forall₂ R xs ys) {x : α} (hx : x ∈ xs) : ∃ y ∈ ys, R x y :=
  exists_of_forall₂_right h.flip hx

/-- Items that have been worked through one after the other. -/
theorem forall₂_of_mapM_eq_ok {ε α β : Type} {f : α → Except ε β} {xs : List α} {ys : List β}
    (h : xs.mapM f = .ok ys) : List.Forall₂ (fun x y => f x = .ok y) xs ys := by
  induction xs generalizing ys with
  | nil =>
    cases h
    exact .nil
  | cons x xs ih =>
    rw [List.mapM_cons] at h
    obtain ⟨y, hx, h⟩ := bind_eq_ok h
    obtain ⟨ys', hxs, rfl⟩ := exists_of_bind_pure h
    exact .cons hx (ih hxs)

theorem mapM_eq_ok_of_forall₂ {ε α β : Type} {f : α → Except ε β} {xs : List α} {ys : List β}
    (h : List.Forall₂ (fun x y => f x = .ok y) xs ys) : xs.mapM f = .ok ys := by
  induction h with
  | nil => rfl
  | cons hx _ ih =>
    rw [List.mapM_cons, hx, ih]
    rfl

/-- What is made from the result of each item is made from the results of all. -/
theorem mapM_eq_map_of_mem {ε α β γ : Type} {f : α → Except ε β} {f' : α → Except ε γ} {g : β → γ} {xs : List α}
    (h : ∀ x ∈ xs, f' x = (f x).map g) : xs.mapM f' = (xs.mapM f).map (List.map g) := by
  induction xs with
  | nil => rfl
  | cons x xs ih =>
    rw [List.forall_mem_cons] at h
    rw [List.mapM_cons, List.mapM_cons, h.1, ih h.2]
    cases f x with
    | error e => rfl
    | ok y => cases xs.mapM f <;> rfl

/-- Where an item of the second list stands, there stands one of the first list that is related to it. -/
theorem exists_split_of_forall₂ {α β : Type} {R : α → β → Prop} {xs : List α} {before after : List β} {y : β}
    (h : List.Forall₂ R xs (before ++ y :: after)) :
    ∃ before' x after', xs = before' ++ x :: after' ∧ R x y ∧ List.Forall₂ R after' after := by
  induction before generalizing xs with
  | nil =>
    cases h with
    | cons hxy hafter => exact ⟨[], _, _, rfl, hxy, hafter⟩
  | cons z before ih =>
    cases h with
    | @cons x _ _ _ _ hrest =>
      obtain ⟨before', x', after', rfl, hxy, hafter⟩ := ih hrest
      exact ⟨x :: before', x', after', rfl, hxy, hafter⟩

/-- Behind an item that succeeds, the others decide whether there is a failure. -/
theorem mapM_cons_eq_error_iff {ε α β : Type} {f : α → Except ε β} {x : α} {z : β} (hx : f x = .ok z) {xs : List α}
    {e : ε} : (x :: xs).mapM f = .error e ↔ xs.mapM f = .error e := by
  rw [List.mapM_cons, hx]
  show (xs.mapM f >>= fun zs => pure (z :: zs)) = _ ↔ _
  cases xs.mapM f with
  | error e' => exact ⟨fun h => congrArg _ (Except.error.inj h), fun h => congrArg _ (Except.error.inj h)⟩
  | ok zs => exact iff_of_false nofun nofun

/-- Working through items one after the other fails at the first one that fails. -/
theorem mapM_eq_error_iff {ε α β : Type} {f : α → Except ε β} {xs : List α} {e : ε} :
    xs.mapM f = .error e ↔ ∃ before x after, xs = before ++ x :: after ∧
      (∀ y ∈ before, ∃ z, f y = .ok z) ∧ f x = .error e := by
  constructor
  · intro h
    induction xs with
    | nil => cases h
    | cons x xs ih =>
      cases hx : f x with
      | error e' =>
        rw [List.mapM_cons, hx] at h
        cases h
        exact ⟨[], x, xs, rfl, fun _ hy => (nomatch hy), hx⟩
      | ok z =>
        obtain ⟨before, y, after, rfl, hbefore, hy⟩ := ih ((mapM_cons_eq_error_iff hx).1 h)
        refine ⟨x :: before, y, after, rfl, ?_, hy⟩
        exact List.forall_mem_cons.2 ⟨⟨z, hx⟩, hbefore⟩
  · rintro ⟨before, x, after, rfl, hbefore, hx⟩
    induction before with
    | nil =>
      rw [List.nil_append, List.mapM_cons, hx]
      rfl
    | cons y before ih =>
      rw [List.forall_mem_cons] at hbefore
      obtain ⟨⟨z, hz⟩, hbefore⟩ := hbefore
      exact (mapM_cons_eq_error_iff hz).2 (ih hbefore)

/-- Either all items can be worked through, or one of them fails after those before it. -/
theorem mapM_ok_or_error {ε α β : Type} (f : α → Except ε β) (xs : List α) :
    (∃ ys, xs.mapM f = .ok ys) ∨
      ∃ before x after ys e, xs = before ++ x :: after ∧ before.mapM f = .ok ys ∧ f x = .error e := by
  induction xs with
  | nil => exact .inl ⟨[], rfl⟩
  | cons x xs ih =>
    cases hx : f x with
    | error e => exact .inr ⟨[], x, xs, [], e, rfl, rfl, hx⟩
    | ok y =>
      obtain ⟨ys, hys⟩ | ⟨before, x', after, ys, e, rfl, hbefore, he⟩ := ih
      · exact .inl ⟨y :: ys, by rw [List.mapM_cons, hx, hys]; rfl⟩
      · exact .inr ⟨x :: before, x', after, y :: ys, e, rfl, by rw [List.mapM_cons, hx, hbefore]; rfl, he⟩

variable {κ β : Type} [BEq κ]

/-- No two entries lie under the same key. -/
def Distinct (es : List (κ × β)) : Prop :=
  es.Pairwise fun a b => (a.1 == b.1) = false

variable [EquivBEq κ]

theorem Distinct.perm {es es' : List (κ × β)} (d : Distinct es) (h : es.Perm es') : Distinct es' := by
  refine h.pairwise d ?_
  intro a b hab
  rw [BEq.comm]
  exact hab

/-- Under different keys the order of the entries does not matter. -/
theorem lookup_perm {es es' : List (κ × β)} (d : Distinct es) (h : es.Perm es') (key : κ) :
    es.lookup key = es'.lookup key := by
  induction h with
  | nil => rfl
  | cons x _ ih =>
    obtain ⟨k, e⟩ := x
    have ih := ih (List.pairwise_cons.1 d).2
    simp only [List.lookup_cons, ih]
  | swap x y l =>
    obtain ⟨k, e⟩ := x
    obtain ⟨k', e'⟩ := y
    have hne : (k' == k) = false := (List.pairwise_cons.1 d).1 (k, e) (by simp)
    simp only [List.lookup_cons]
    cases hk : key == k with
    | false => rfl
    | true =>
      cases hk' : key == k' with
      | false => rfl
      | true =>
        have : (k' == k) = true := BEq.trans (BEq.symm hk') hk
        rw [hne] at this
        contradiction
  | trans h₁ _ ih₁ ih₂ => rw [ih₁ d, ih₂ (d.perm h₁)]

/-- Under different keys every entry is found. -/
theorem lookup_of_mem {es : List (κ × β)} (d : Distinct es) {key : κ} {e : β} (h : (key, e) ∈ es) :
    es.lookup key = some e := by
  obtain ⟨before, after, rfl⟩ := List.append_of_mem h
  have hperm : (before ++ (key, e) :: after).Perm ((key, e) :: (before ++ after)) :=
    List.perm_middle
  rw [lookup_perm d hperm, List.lookup_cons_self]

omit [EquivBEq κ] in
/-- What is found is an entry under such a key. -/
theorem mem_of_lookup {es : List (κ × β)} {key : κ} {e : β} (h : es.lookup key = some e) :
    ∃ k, (k, e) ∈ es ∧ (key == k) = true := by
  induction es with
  | nil => simp at h
  | cons x rest ih =>
    obtain ⟨k, e'⟩ := x
    rw [List.lookup_cons] at h
    cases hk : key == k with
    | true =>
      rw [hk] at h
      cases h
      exact ⟨k, by simp, hk⟩
    | false =>
      rw [hk] at h
      obtain ⟨k', hk', hkey⟩ := ih h
      exact ⟨k', List.mem_cons_of_mem _ hk', hkey⟩

omit [EquivBEq κ] in
/-- Under keys that are all different, what is found under a key is exactly what stands under it. -/
theorem lookup_eq_some_iff_mem [LawfulBEq κ] {es : List (κ × β)} (h : (es.map Prod.fst).Nodup)
    {key : κ} {e : β} : es.lookup key = some e ↔ (key, e) ∈ es := by
  have hdistinct : Distinct es := by
    refine (List.pairwise_map.1 h).imp fun {a b} hab => ?_
    exact beq_eq_false_iff_ne.2 hab
  constructor
  · intro hfound
    obtain ⟨k, hmem, hkey⟩ := mem_of_lookup hfound
    rw [eq_of_beq hkey]
    exact hmem
  · exact lookup_of_mem hdistinct

end FieldRules
