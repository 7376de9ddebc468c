import FieldRules.Cache
import FieldRules.Proofs.Entries

/-!
# Computations on a state

What is needed to take apart a computation that may fail and works on a state.

* `Run.bind_eq` and its relatives say what a sequence of two computations does;
* `Run.Compositional` is a property that a sequence has if its parts have it, and so has all that is made
  of such parts;
* `Run.Keeps` is an invariant that a computation keeps, whether it fails or not;
* `Run.Advances` relates the states before and after a computation that comes to its end;
* `Run.Gives` is a property of the results of a computation;
* `Run.Yields` is a computation whose outcome does not depend on the state, as long as that has an
  invariant, which is kept;
* `Run.Tracks` is a step for an item whose outcome is known from the item, with what the steps have come to so far
  in the state;
* `Run.Matches` relates the results of two computations that start in different states;
* `Run.Mirrors` are two computations that come to related results or fail in the same way.
-/

namespace FieldRules.Cache.Run

variable {σ ε α β : Type}

/-! ## Sequences -/

@[simp] theorem pure_eq (a : α) (s : σ) : (pure a : Run σ ε α) s = (.ok a, s) := rfl

theorem bind_eq (m : Run σ ε α) (f : α → Run σ ε β) (s : σ) :
    (m >>= f) s = match m s with
      | (.ok a, s₁) => f a s₁
      | (.error e, s₁) => (.error e, s₁) := by
  show (match m s with | (r, s₁) => ExceptT.bindCont f r s₁) = _
  rcases m s with ⟨_ | _, _⟩ <;> rfl

theorem bind_of_ok {m : Run σ ε α} {f : α → Run σ ε β} {s s₁ : σ} {a : α} (h : m s = (.ok a, s₁)) :
    (m >>= f) s = f a s₁ := by
  rw [bind_eq, h]

theorem bind_of_error {m : Run σ ε α} {f : α → Run σ ε β} {s s₁ : σ} {e : ε}
    (h : m s = (.error e, s₁)) : (m >>= f) s = (.error e, s₁) := by
  rw [bind_eq, h]

/-- A sequence that comes to its end has come through both of its parts. -/
theorem bind_eq_ok {m : Run σ ε α} {f : α → Run σ ε β} {s s₂ : σ} {b : β}
    (h : (m >>= f) s = (.ok b, s₂)) : ∃ a s₁, m s = (.ok a, s₁) ∧ f a s₁ = (.ok b, s₂) := by
  rw [bind_eq] at h
  rcases hm : m s with ⟨_ | a, s₁⟩
  · rw [hm] at h
    cases h
  · rw [hm] at h
    exact ⟨a, s₁, rfl, h⟩

/-- Where the second part does not look at the state, the outcome of a sequence is known from that of the
first part. -/
theorem bind_fst_congr {m : Run σ ε α} {f : α → Run σ ε β} {s s' : σ} (hm : (m s).1 = (m s').1)
    (hf : ∀ a s s', (f a s).1 = (f a s').1) : ((m >>= f) s).1 = ((m >>= f) s').1 := by
  rw [bind_eq, bind_eq]
  rcases hs : m s with ⟨r, s₁⟩
  rcases hs' : m s' with ⟨r', s₂⟩
  obtain rfl : r = r' := by rwa [hs, hs'] at hm
  cases r with
  | error e => rfl
  | ok a => exact hf a s₁ s₂

@[simp] theorem map_eq (f : α → β) (m : Run σ ε α) (s : σ) :
    (f <$> m) s = ((m s).1.map f, (m s).2) := by
  show (do let a ← m; pure (f a) : Run σ ε β) s = _
  rw [bind_eq]
  rcases m s with ⟨_ | _, _⟩ <;> rfl

@[simp] theorem get_eq (s : σ) : (get : Run σ ε σ) s = (.ok s, s) := rfl

@[simp] theorem modify_eq (f : σ → σ) (s : σ) : (modify f : Run σ ε PUnit) s = (.ok ⟨⟩, f s) := rfl

/-- A result that is given with the errors renamed was given before. -/
theorem eq_ok_of_mapError {ε' : Type} {f : ε → ε'} {r : Except ε α} {a : α}
    (h : r.mapError f = .ok a) : r = .ok a := by
  cases r with
  | error e => cases h
  | ok b =>
    cases h
    rfl

theorem eq_ok_of_toOption {r : Except ε α} {a : α} (h : r.toOption = some a) : r = .ok a := by
  cases r with
  | error e => cases h
  | ok b =>
    cases h
    rfl

/-- An outcome that is known beforehand leaves the state alone. -/
@[simp] theorem lift_eq (r : Except ε α) (s : σ) : (liftM r : Run σ ε α) s = (r, s) := by
  cases r <;> rfl

/-- Items that have been worked through one after the other. -/
theorem mapM_eq_ok {f : α → Run σ ε β} {xs : List α} {ys : List β} {s s' : σ}
    (h : xs.mapM f s = (.ok ys, s')) :
    List.Forall₂ (fun x y => ∃ s₁ s₂, f x s₁ = (.ok y, s₂)) xs ys := by
  induction xs generalizing ys s with
  | nil =>
    rw [List.mapM_nil, pure_eq] at h
    cases h
    exact .nil
  | cons x xs ih =>
    rw [List.mapM_cons] at h
    obtain ⟨y, s₁, hx, h⟩ := bind_eq_ok h
    obtain ⟨ys, s₂, hxs, h⟩ := bind_eq_ok h
    rw [pure_eq] at h
    cases h
    exact .cons ⟨s, s₁, hx⟩ (ih hxs)

/-- A property of computations that a sequence has if its parts have it. -/
structure Compositional (C : (α : Type) → Run σ ε α → Prop) : Prop where
  pure : ∀ {α : Type} (a : α), C α (pure a)
  throw : ∀ {α : Type} (e : ε), C α (throw e)
  bind : ∀ {α β : Type} {m : Run σ ε α} {f : α → Run σ ε β},
    C α m → (∀ a, C β (f a)) → C β (m >>= f)

section Compositional
variable {C : (α : Type) → Run σ ε α → Prop} {α β : Type}

theorem Compositional.lift (h : Compositional C) (r : Except ε α) : C α (liftM r) := by
  cases r with
  | error e => exact h.throw e
  | ok a => exact h.pure a

theorem Compositional.map (h : Compositional C) {m : Run σ ε α} (f : α → β) (hm : C α m) :
    C β (f <$> m) :=
  h.bind hm fun a => h.pure (f a)

theorem Compositional.mapM (h : Compositional C) {f : α → Run σ ε β} {xs : List α}
    (hf : ∀ x, C β (f x)) : C (List β) (xs.mapM f) := by
  induction xs with
  | nil => exact h.pure []
  | cons x xs ih =>
    rw [List.mapM_cons]
    exact h.bind (hf x) fun y => h.bind ih fun ys => h.pure (y :: ys)

theorem Compositional.forM (h : Compositional C) {f : α → Run σ ε PUnit} {xs : List α}
    (hf : ∀ x, C PUnit (f x)) : C PUnit (xs.forM f) := by
  induction xs with
  | nil => exact h.pure _
  | cons x xs ih => exact h.bind (hf x) fun _ => ih

end Compositional

/-! ## Invariants -/

/-- The computation keeps an invariant of the state. -/
def Keeps (I : σ → Prop) (m : Run σ ε α) : Prop :=
  ∀ s, I s → I (m s).2

section Keeps
variable {I : σ → Prop} {α β : Type}

theorem Keeps.bind {m : Run σ ε α} {f : α → Run σ ε β} (hm : Keeps I m) (hf : ∀ a, Keeps I (f a)) :
    Keeps I (m >>= f) := by
  intro s hs
  have h₁ := hm s hs
  rw [bind_eq]
  rcases hms : m s with ⟨_ | a, s₁⟩ <;> rw [hms] at h₁
  · exact h₁
  · exact hf a s₁ h₁

/-- What every part keeps, a sequence keeps. -/
theorem compositional_keeps (I : σ → Prop) :
    Compositional fun _ (m : Run σ ε _) => Keeps I m where
  pure _ _ h := h
  throw _ _ h := h
  bind := Keeps.bind

theorem Keeps.pure (a : α) : Keeps I (pure a : Run σ ε α) := fun _ h => h

theorem Keeps.get : Keeps I (get : Run σ ε σ) := fun _ h => h

theorem Keeps.lift (r : Except ε α) : Keeps I (liftM r : Run σ ε α) :=
  (compositional_keeps I).lift r

theorem Keeps.map {m : Run σ ε α} (f : α → β) (hm : Keeps I m) : Keeps I (f <$> m) :=
  (compositional_keeps I).map f hm

theorem Keeps.mapM {f : α → Run σ ε β} {xs : List α} (hf : ∀ x, Keeps I (f x)) :
    Keeps I (xs.mapM f) :=
  (compositional_keeps I).mapM hf

theorem Keeps.forM {f : α → Run σ ε PUnit} {xs : List α} (hf : ∀ x, Keeps I (f x)) :
    Keeps I (xs.forM f) :=
  (compositional_keeps I).forM hf

end Keeps

/-! ## States before and after -/

/-- Where the computation comes to its end, the state before it is related to the one after it. -/
def Advances (R : σ → σ → Prop) (m : Run σ ε α) : Prop :=
  ∀ s a s', m s = (.ok a, s') → R s s'

/-- Steps forward make a step forward. -/
theorem compositional_advances {R : σ → σ → Prop} (hrefl : ∀ s, R s s)
    (htrans : ∀ s s₁ s₂, R s s₁ → R s₁ s₂ → R s s₂) :
    Compositional fun _ (m : Run σ ε _) => Advances R m where
  pure a s b s' h := by
    cases h
    exact hrefl s
  throw e s b s' h := nomatch h
  bind hm hf s b s₂ h := by
    obtain ⟨a, s₁, hms, hfs⟩ := bind_eq_ok h
    exact htrans s s₁ s₂ (hm s a s₁ hms) (hf a s₁ b s₂ hfs)

/-! ## Properties of results -/

/-- Where the computation comes to its end, its result has the property. -/
def Gives (P : α → Prop) (m : Run σ ε α) : Prop :=
  ∀ s a s', m s = (.ok a, s') → P a

theorem Gives.pure {P : α → Prop} {a : α} (h : P a) : Gives P (pure a : Run σ ε α) := by
  intro s b s' hb
  cases hb
  exact h

/-- Where the end of a sequence gives results with the property, it does not matter how it starts. -/
theorem Gives.last {Q : β → Prop} {m : Run σ ε α} {f : α → Run σ ε β} (hf : ∀ a, Gives Q (f a)) :
    Gives Q (m >>= f) := by
  intro s b s₂ h
  obtain ⟨a, s₁, -, hfs⟩ := bind_eq_ok h
  exact hf a s₁ b s₂ hfs

theorem Gives.bind {P : α → Prop} {Q : β → Prop} {m : Run σ ε α} {f : α → Run σ ε β}
    (hm : Gives P m) (hf : ∀ a, P a → Gives Q (f a)) : Gives Q (m >>= f) := by
  intro s b s₂ h
  obtain ⟨a, s₁, hms, hfs⟩ := bind_eq_ok h
  exact hf a (hm s a s₁ hms) s₁ b s₂ hfs

/-! ## Outcomes that are known beforehand -/

/-- From every state with the invariant the computation has the given outcome and keeps the invariant. -/
def Yields (I : σ → Prop) (m : Run σ ε α) (r : Except ε α) : Prop :=
  ∀ s, I s → (m s).1 = r ∧ I (m s).2

section Yields
variable {I : σ → Prop}

theorem Yields.congr {I' : σ → Prop} {m : Run σ ε α} {r : Except ε α} (hI : ∀ s, I' s ↔ I s)
    (h : Yields I m r) : Yields I' m r := by
  intro s hs
  obtain ⟨hr, hs'⟩ := h s ((hI s).1 hs)
  exact ⟨hr, (hI _).2 hs'⟩

theorem Yields.pure (a : α) : Yields I (pure a : Run σ ε α) (.ok a) := fun _ h => ⟨rfl, h⟩

theorem Yields.lift (r : Except ε α) : Yields I (liftM r : Run σ ε α) r := by
  intro s h
  rw [lift_eq]
  exact ⟨rfl, h⟩

theorem Yields.bind {m : Run σ ε α} {f : α → Run σ ε β} {r : Except ε α} {g : α → Except ε β}
    (hm : Yields I m r) (hf : ∀ a, r = .ok a → Yields I (f a) (g a)) :
    Yields I (m >>= f) (r >>= g) := by
  intro s hs
  obtain ⟨h₁, hI⟩ := hm s hs
  rw [bind_eq]
  rcases hms : m s with ⟨e | a, s₁⟩ <;> rw [hms] at h₁ hI <;> subst h₁
  · exact ⟨rfl, hI⟩
  · exact hf a rfl s₁ hI

theorem Yields.mapM {f : α → Run σ ε β} {g : α → Except ε β} {xs : List α}
    (h : ∀ x ∈ xs, Yields I (f x) (g x)) : Yields I (xs.mapM f) (xs.mapM g) := by
  induction xs with
  | nil => exact .pure []
  | cons x xs ih =>
    rw [List.mapM_cons, List.mapM_cons]
    refine (h x (by simp)).bind fun y _ => ?_
    exact (ih fun x' hx' => h x' (by simp [hx'])).bind fun ys _ => .pure (y :: ys)

end Yields

/-! ## Items that are worked through -/

/-- What a step comes to is known from its item, and is added to what the state shows of the steps before it. A
step that fails adds nothing. -/
structure Tracks {γ : Type} (I : List γ → σ → Prop) (g : α → Except ε γ) (f : α → Run σ ε β) : Prop where
  returns : ∀ {zs x z s}, I zs s → g x = .ok z → ∃ b s₁, f x s = (.ok b, s₁) ∧ I (zs ++ [z]) s₁
  fails : ∀ {zs x e s}, I zs s → g x = .error e → ∃ s₁, f x s = (.error e, s₁) ∧ I zs s₁

section Tracks
variable {γ : Type} {I : List γ → σ → Prop} {g : α → Except ε γ} {xs before : List α} {x : α} {zs ys : List γ} {e : ε}
  {s : σ}

/-- Items of which none fails. -/
theorem Tracks.mapM_ok {f : α → Run σ ε β} (h : Tracks I g f) (hs : I zs s) (hxs : xs.mapM g = .ok ys) :
    ∃ bs s₁, xs.mapM f s = (.ok bs, s₁) ∧ I (zs ++ ys) s₁ := by
  replace hxs := forall₂_of_mapM_eq_ok hxs
  -- On the items, with whatever the state shows of those before them.
  induction hxs generalizing zs s with
  | nil => exact ⟨[], s, rfl, by rwa [List.append_nil]⟩
  | cons hx _ ih =>
    obtain ⟨b, s₁, hb, hs₁⟩ := h.returns hs hx
    obtain ⟨bs, s₂, hbs, hs₂⟩ := ih hs₁
    rw [List.append_assoc, List.singleton_append] at hs₂
    refine ⟨b :: bs, s₂, ?_, hs₂⟩
    rw [List.mapM_cons, bind_of_ok hb, bind_of_ok hbs]
    rfl

/-- Items of which one fails: those before it have been worked through. -/
theorem Tracks.mapM_error {f : α → Run σ ε β} (h : Tracks I g f) (hs : I zs s) (hbefore : before.mapM g = .ok ys)
    (hx : g x = .error e) (after : List α) : ∃ s₁, (before ++ x :: after).mapM f s = (.error e, s₁) ∧ I (zs ++ ys) s₁ := by
  replace hbefore := forall₂_of_mapM_eq_ok hbefore
  induction hbefore generalizing zs s with
  | nil =>
    obtain ⟨s₁, he, hs₁⟩ := h.fails hs hx
    refine ⟨s₁, ?_, by rwa [List.append_nil]⟩
    rw [List.nil_append, List.mapM_cons, bind_of_error he]
  | cons hy _ ih =>
    obtain ⟨b, s₁, hb, hs₁⟩ := h.returns hs hy
    obtain ⟨s₂, he, hs₂⟩ := ih hs₁
    rw [List.append_assoc, List.singleton_append] at hs₂
    refine ⟨s₂, ?_, hs₂⟩
    rw [List.cons_append, List.mapM_cons, bind_of_ok hb, bind_of_error he]

variable {f : α → Run σ ε PUnit}

theorem forM_eq_mapM (xs : List α) (s : σ) : xs.forM f s = ((xs.mapM f s).1.map fun _ => ⟨⟩, (xs.mapM f s).2) := by
  induction xs generalizing s with
  | nil => rfl
  | cons x xs ih =>
    rw [List.forM_eq_forM] at ih ⊢
    rw [List.forM_cons, List.mapM_cons, bind_eq, bind_eq]
    rcases f x s with ⟨e | b, s₁⟩
    · rfl
    · dsimp only
      rw [ih, bind_eq]
      rcases xs.mapM f s₁ with ⟨_ | _, _⟩ <;> rfl

theorem Tracks.forM_ok (h : Tracks I g f) (hs : I zs s) (hxs : xs.mapM g = .ok ys) :
    ∃ s₁, xs.forM f s = (.ok ⟨⟩, s₁) ∧ I (zs ++ ys) s₁ := by
  obtain ⟨bs, s₁, hbs, hs₁⟩ := h.mapM_ok hs hxs
  refine ⟨s₁, ?_, hs₁⟩
  rw [forM_eq_mapM, hbs]
  rfl

theorem Tracks.forM_error (h : Tracks I g f) (hs : I zs s) (hbefore : before.mapM g = .ok ys) (hx : g x = .error e)
    (after : List α) : ∃ s₁, (before ++ x :: after).forM f s = (.error e, s₁) ∧ I (zs ++ ys) s₁ := by
  obtain ⟨s₁, he, hs₁⟩ := h.mapM_error hs hbefore hx after
  refine ⟨s₁, ?_, hs₁⟩
  rw [forM_eq_mapM, he]
  rfl

end Tracks

/-! ## Two computations -/

/-- Two computations start in states of two sorts. Where both come to their ends, the results are related, and
they end in states of these sorts; under a condition, the second one comes to its end where the first one
does. -/
structure Matches (W W' : σ → Prop) (K : Prop) (A : α → β → Prop) (m : Run σ ε α) (m' : Run σ ε β) :
    Prop where
  related : ∀ {s s' s₁ s₁' a b}, W s → W' s' → m s = (.ok a, s₁) → m' s' = (.ok b, s₁') →
    A a b ∧ W s₁ ∧ W' s₁'
  returns : K → ∀ {s s' s₁ a}, W s → W' s' → m s = (.ok a, s₁) → ∃ b s₁', m' s' = (.ok b, s₁')

section Matches
variable {W W' : σ → Prop} {K : Prop} {γ δ : Type}

theorem Matches.pure {A : α → β → Prop} {a : α} {b : β} (h : A a b) :
    Matches W W' K A (pure a : Run σ ε α) (pure b : Run σ ε β) where
  related hs hs' ha hb := by
    cases ha
    cases hb
    exact ⟨h, hs, hs'⟩
  returns _ s s' s₁ a' _ _ _ := ⟨b, s', rfl⟩

/-- What fails matches anything. -/
theorem Matches.throw {A : α → β → Prop} (e : ε) (m : Run σ ε β) :
    Matches W W' K A (throw e : Run σ ε α) m where
  related _ _ ha := nomatch ha
  returns _ _ _ _ _ _ _ ha := nomatch ha

theorem Matches.bind {A : α → β → Prop} {B : γ → δ → Prop} {m : Run σ ε α} {m' : Run σ ε β}
    {f : α → Run σ ε γ} {f' : β → Run σ ε δ} (hm : Matches W W' K A m m')
    (hf : ∀ a b, A a b → Matches W W' K B (f a) (f' b)) : Matches W W' K B (m >>= f) (m' >>= f') where
  related := by
    intro s s' s₂ s₂' c d hs hs' hc hd
    obtain ⟨a, s₁, ha, hc⟩ := bind_eq_ok hc
    obtain ⟨b, s₁', hb, hd⟩ := bind_eq_ok hd
    obtain ⟨hab, hs₁, hs₁'⟩ := hm.related hs hs' ha hb
    exact (hf a b hab).related hs₁ hs₁' hc hd
  returns := by
    intro hK s s' s₂ c hs hs' hc
    obtain ⟨a, s₁, ha, hc⟩ := bind_eq_ok hc
    obtain ⟨b, s₁', hb⟩ := hm.returns hK hs hs' ha
    obtain ⟨hab, hs₁, hs₁'⟩ := hm.related hs hs' ha hb
    obtain ⟨d, s₂', hd⟩ := (hf a b hab).returns hK hs₁ hs₁' hc
    exact ⟨d, s₂', by rw [bind_of_ok hb, hd]⟩

/-- Where the two give the same, the second one gives what the first one has given. -/
theorem Matches.again {m m' : Run σ ε α} {s s' s₁ : σ} {a : α} (h : Matches W W' K Eq m m') (hK : K)
    (hs : W s) (hs' : W' s') (ha : m s = (.ok a, s₁)) :
    W s₁ ∧ ∃ s₁', m' s' = (.ok a, s₁') ∧ W' s₁' := by
  obtain ⟨b, s₁', hb⟩ := h.returns hK hs hs' ha
  obtain ⟨rfl, hs₁, hs₁'⟩ := h.related hs hs' ha hb
  exact ⟨hs₁, s₁', hb, hs₁'⟩

theorem Matches.imp {A B : α → β → Prop} {m : Run σ ε α} {m' : Run σ ε β} (h : Matches W W' K A m m')
    (hAB : ∀ a b, A a b → B a b) : Matches W W' K B m m' where
  related hs hs' ha hb := by
    obtain ⟨hab, hstates⟩ := h.related hs hs' ha hb
    exact ⟨hAB _ _ hab, hstates⟩
  returns := h.returns

/-- The two may make use of the same outcome. -/
theorem Matches.lift {A : α → α → Prop} (hA : ∀ a, A a a) (r : Except ε α) :
    Matches W W' K A (liftM r : Run σ ε α) (liftM r) := by
  cases r with
  | error e => exact .throw e _
  | ok a => exact .pure (hA a)

/-- A computation that gives the same in all these states: so does a sequence of such. -/
theorem compositional_matches (W W' : σ → Prop) (K : Prop) :
    Compositional fun _ (m : Run σ ε _) => Matches W W' K Eq m m where
  pure _ := .pure rfl
  throw e := .throw e _
  bind hm hf := hm.bind fun a b hab => by
    subst hab
    exact hf a

end Matches

/-! ## Two computations that fail alike -/

/-- From related states the two computations come to related results and to related states, or both fail with the
same error. -/
structure Mirrors (R : σ → σ → Prop) (A : α → β → Prop) (m : Run σ ε α) (m' : Run σ ε β) : Prop where
  returns : ∀ {s s' s₁ a}, R s s' → m s = (.ok a, s₁) → ∃ b s₁', m' s' = (.ok b, s₁') ∧ A a b ∧ R s₁ s₁'
  fails : ∀ {s s' s₁ e}, R s s' → m s = (.error e, s₁) → ∃ s₁', m' s' = (.error e, s₁')

section Mirrors
variable {R : σ → σ → Prop} {γ δ : Type}

theorem Mirrors.pure {A : α → β → Prop} {a : α} {b : β} (h : A a b) :
    Mirrors R A (pure a : Run σ ε α) (pure b : Run σ ε β) where
  returns hs ha := by
    cases ha
    exact ⟨b, _, rfl, h, hs⟩
  fails _ ha := nomatch ha

theorem Mirrors.throw {A : α → β → Prop} (e : ε) : Mirrors R A (throw e : Run σ ε α) (throw e : Run σ ε β) where
  returns _ ha := nomatch ha
  fails _ ha := by
    cases ha
    exact ⟨_, rfl⟩

theorem Mirrors.bind {A : α → β → Prop} {B : γ → δ → Prop} {m : Run σ ε α} {m' : Run σ ε β}
    {f : α → Run σ ε γ} {f' : β → Run σ ε δ} (hm : Mirrors R A m m')
    (hf : ∀ a b, A a b → Mirrors R B (f a) (f' b)) : Mirrors R B (m >>= f) (m' >>= f') where
  returns := by
    intro s s' s₂ c hs hc
    obtain ⟨a, s₁, ha, hc⟩ := bind_eq_ok hc
    obtain ⟨b, s₁', hb, hab, hs₁⟩ := hm.returns hs ha
    obtain ⟨d, s₂', hd, hcd, hs₂⟩ := (hf a b hab).returns hs₁ hc
    exact ⟨d, s₂', by rw [bind_of_ok hb, hd], hcd, hs₂⟩
  fails := by
    intro s s' s₂ e hs he
    rcases hms : m s with ⟨e' | a, s₁⟩
    · rw [bind_of_error hms] at he
      cases he
      obtain ⟨s₁', hb⟩ := hm.fails hs hms
      exact ⟨s₁', bind_of_error hb⟩
    · rw [bind_of_ok hms] at he
      obtain ⟨b, s₁', hb, hab, hs₁⟩ := hm.returns hs hms
      obtain ⟨s₂', hd⟩ := (hf a b hab).fails hs₁ he
      exact ⟨s₂', by rw [bind_of_ok hb, hd]⟩

/-- Where the two come to the same result, both go on with that. -/
theorem Mirrors.bind_eq {B : γ → δ → Prop} {m m' : Run σ ε α} {f : α → Run σ ε γ} {f' : α → Run σ ε δ}
    (hm : Mirrors R Eq m m') (hf : ∀ a, Mirrors R B (f a) (f' a)) : Mirrors R B (m >>= f) (m' >>= f') :=
  hm.bind fun a b hab => by
    subst hab
    exact hf a

/-- A computation that comes to the same from related states: so does a sequence of such. -/
theorem compositional_mirrors (R : σ → σ → Prop) :
    Compositional fun _ (m : Run σ ε _) => Mirrors R Eq m m where
  pure _ := .pure rfl
  throw := .throw
  bind := Mirrors.bind_eq

theorem Mirrors.lift (r : Except ε α) : Mirrors R Eq (liftM r : Run σ ε α) (liftM r) :=
  (compositional_mirrors R).lift r

theorem Mirrors.mapM {f f' : α → Run σ ε β} {xs : List α} (h : ∀ x ∈ xs, Mirrors R Eq (f x) (f' x)) :
    Mirrors R Eq (xs.mapM f) (xs.mapM f') := by
  induction xs with
  | nil => exact .pure rfl
  | cons x xs ih =>
    rw [List.forall_mem_cons] at h
    rw [List.mapM_cons, List.mapM_cons]
    exact h.1.bind_eq fun y => (ih h.2).bind_eq fun ys => .pure rfl

/-- Where the second result is made from the first one, so is the second outcome. -/
theorem Mirrors.fst_eq {g : α → β} {m : Run σ ε α} {m' : Run σ ε β} {s s' : σ}
    (h : Mirrors R (fun a b => b = g a) m m') (hs : R s s') : (m' s').1 = (m s).1.map g := by
  rcases hms : m s with ⟨e | a, s₁⟩
  · obtain ⟨s₁', hb⟩ := h.fails hs hms
    rw [hb]
    rfl
  · obtain ⟨b, s₁', hb, rfl, -⟩ := h.returns hs hms
    rw [hb]
    rfl

end Mirrors

end FieldRules.Cache.Run
