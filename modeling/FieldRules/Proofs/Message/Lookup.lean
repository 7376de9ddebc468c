import FieldRules.Message.Library
import FieldRules.Proofs.Run

/-!
# Texts that are looked up again

A library reads its catalogs when they are asked for, so looking up a text changes the library. The catalogs
for one locale are always asked for in the same order, and what has been read is kept. So looking up texts for
a locale does not change which texts are found for it, nor which looks fail (`agrees_resolve`).
-/

namespace FieldRules

open Cache

/-! ## Catalogs -/

namespace Bundle

variable {f : Fetcher} {tag? : Option String} {b b₁ b₂ : Bundle} {s s₁ s₂ s' : Store}
variable {c : Option Catalog} {k₁ : String} {r₁ : Option String}

/-- A catalog that has been read is not read again. -/
theorem catalog_of_lookup (h : b.catalogs.lookup tag? = some c) (s : Store) :
    catalog f tag? (b, s) = (.ok c, (b, s)) := by
  rw [catalog, Run.bind_of_ok (Run.get_eq _)]
  simp only [h]
  rfl

/-- Reading a file leaves the bundle as it is. -/
theorem bundle_of_readCatalog {file : String} (h : readCatalog f file (b, s) = (.ok c, (b₁, s₁))) :
    b₁ = b := by
  obtain ⟨v?, ⟨b', s'⟩, hfetch, h⟩ := Run.bind_eq_ok h
  have hb : b' = b := (congrArg (fun r => r.2.1) hfetch).symm
  rw [← hb]
  cases v? with
  | none =>
    cases h
    rfl
  | some v =>
    obtain ⟨flat, s₂, hflat, h⟩ := Run.bind_eq_ok h
    rw [Run.lift_eq] at hflat
    have hkept : s₂ = (b', s') := (congrArg Prod.snd hflat).symm
    cases h
    exact congrArg Prod.fst hkept

/-- A catalog that is asked for is read, if it has not been read before, and put behind the others. -/
theorem catalogs_of_catalog (h : catalog f tag? (b, s) = (.ok c, (b₁, s₁))) :
    (b.catalogs.lookup tag? = some c ∧ b₁.catalogs = b.catalogs) ∨
      (b.catalogs.lookup tag? = none ∧ b₁.catalogs = b.catalogs ++ [(tag?, c)]) := by
  rcases hheld : b.catalogs.lookup tag? with _ | d
  · rw [catalog, Run.bind_of_ok (Run.get_eq _)] at h
    simp only [hheld] at h
    cases hbase : b.base? with
    | none =>
      rw [hbase] at h
      cases h
      exact .inr ⟨rfl, rfl⟩
    | some base =>
      rw [hbase] at h
      obtain ⟨read, ⟨b', s'⟩, hread, h⟩ := Run.bind_eq_ok h
      have hb := bundle_of_readCatalog hread
      cases h
      exact .inr ⟨rfl, by rw [hb]⟩
  · rw [catalog_of_lookup hheld] at h
    cases h
    exact .inl ⟨rfl, rfl⟩

/-- A catalog that was asked for has been read. -/
theorem lookup_of_catalog (h : catalog f tag? (b, s) = (.ok c, (b₁, s₁))) :
    b₁.catalogs.lookup tag? = some c := by
  rcases catalogs_of_catalog h with ⟨hheld, hcatalogs⟩ | ⟨hheld, hcatalogs⟩
  · rw [hcatalogs, hheld]
  · rw [hcatalogs, List.lookup_append, hheld]
    simp

/-- Catalogs that have been read are kept. -/
theorem lookup_catalog {other? : Option String} {d : Option Catalog}
    (h : catalog f tag? (b, s) = (.ok c, (b₁, s₁))) (hd : b.catalogs.lookup other? = some d) :
    b₁.catalogs.lookup other? = some d := by
  rcases catalogs_of_catalog h with ⟨-, hcatalogs⟩ | ⟨-, hcatalogs⟩
  · rw [hcatalogs, hd]
  · rw [hcatalogs, List.lookup_append, hd]
    rfl

/-! ## Bundles -/

/-- The first tag's catalog is read, and the other tags are looked under if it does not have the key. -/
theorem lookupIn_cons {key : String} {rest : List (Option String)}
    (h : catalog f tag? (b, s) = (.ok c, (b₁, s₁))) :
    lookupIn f key (tag? :: rest) (b, s) = match c.bind fun c => c.get? key with
      | some text => (.ok (some text), (b₁, s₁))
      | none => lookupIn f key rest (b₁, s₁) := by
  rw [lookupIn, Run.bind_of_ok h]
  cases c.bind fun c => c.get? key <;> rfl

/-- Looking up a text keeps the catalogs that have been read. -/
theorem lookup_lookupIn {tags : List (Option String)} {other? : Option String} {d : Option Catalog}
    (h : lookupIn f k₁ tags (b, s) = (.ok r₁, (b₁, s₁))) (hd : b.catalogs.lookup other? = some d) :
    b₁.catalogs.lookup other? = some d := by
  induction tags generalizing b s with
  | nil =>
    cases h
    exact hd
  | cons tag? rest ih =>
    obtain ⟨c, ⟨b', s'⟩, hcatalog, -⟩ := Run.bind_eq_ok h
    have hd' := lookup_catalog hcatalog hd
    rw [lookupIn_cons hcatalog] at h
    split at h
    · cases h
      exact hd'
    · exact ih h hd'

/-- Two keys that are looked up one after the other. The second look ends as it would without the first one.
If the first key is not found, everything has been read, so the second look changes nothing and does not depend
on the resources; if the second one is not found, everything has been read in either way. -/
theorem lookupIn_again {tags : List (Option String)} (h : lookupIn f k₁ tags (b, s) = (.ok r₁, (b₁, s₁)))
    (k₂ : String) (hs : r₁ = none ∨ s' = s₁) :
    (lookupIn f k₂ tags (b₁, s')).1 = (lookupIn f k₂ tags (b, s)).1 ∧
      (r₁ = none → (lookupIn f k₂ tags (b₁, s')).2 = (b₁, s')) ∧
      ((lookupIn f k₂ tags (b, s)).1 = .ok none →
        (lookupIn f k₂ tags (b, s)).2
          = if r₁ = none then (b₁, s₁) else (lookupIn f k₂ tags (b₁, s')).2) := by
  induction tags generalizing b s with
  | nil =>
    cases h
    exact ⟨rfl, fun _ => rfl, fun _ => rfl⟩
  | cons tag? rest ih =>
    obtain ⟨c, ⟨b', s''⟩, hcatalog, -⟩ := Run.bind_eq_ok h
    have hread := lookup_of_catalog hcatalog
    rw [lookupIn_cons hcatalog] at h ⊢
    split at h
    · -- the first text is in this catalog, so the second look goes on where the first one ended
      cases h
      obtain rfl : s' = s₁ := hs.resolve_left nofun
      rw [lookupIn_cons (catalog_of_lookup hread _)]
      exact ⟨rfl, nofun, fun _ => rfl⟩
    · have hkept := lookup_lookupIn h hread
      rw [lookupIn_cons (catalog_of_lookup hkept _)]
      split
      · exact ⟨rfl, fun _ => rfl, nofun⟩
      · exact ih h

end Bundle

/-! ## Libraries -/

namespace Library

variable {f : Fetcher} {tags : List (Option String)} {k₁ : String} {r₁ : Option String}

/-- The next bundles are asked if the first one does not have the key. -/
theorem lookupIn_cons {key : String} (b : Bundle) (rest : List Bundle) (s : Store) :
    (lookupIn f key tags (b :: rest) s).1 = match (Bundle.lookupIn f key tags (b, s)).1 with
      | .ok none => (lookupIn f key tags rest (Bundle.lookupIn f key tags (b, s)).2.2).1
      | r => r := by
  rw [lookupIn]
  rcases Bundle.lookupIn f key tags (b, s) with ⟨_ | _ | _, _, _⟩ <;> rfl

/-- Of two keys that are looked up one after the other, the look for the second one ends as it would without
the first one. If the first one is not found, the second look does not depend on the resources. -/
theorem lookupIn_again {bs bs₁ : List Bundle} {s s₁ s' : Store}
    (h : lookupIn f k₁ tags bs s = (.ok r₁, bs₁, s₁)) (k₂ : String) (hs : r₁ = none ∨ s' = s₁) :
    (lookupIn f k₂ tags bs₁ s').1 = (lookupIn f k₂ tags bs s).1 := by
  induction bs generalizing s bs₁ with
  | nil =>
    cases h
    rfl
  | cons b rest ih =>
    rcases hfirst : Bundle.lookupIn f k₁ tags (b, s) with ⟨_ | _ | text, b', s''⟩
    · rw [lookupIn, hfirst] at h
      cases h
    · rw [lookupIn, hfirst] at h
      dsimp only at h
      rcases hrest : lookupIn f k₁ tags rest s'' with ⟨r, rest₁, s₂⟩
      rw [hrest] at h
      cases h
      -- the first key is not in this bundle: what the look has read in it, the second one finds again
      have hnotFound : (none : Option String) = none ∨ s' = s'' := .inl rfl
      obtain ⟨hresult, hstays, hread⟩ := Bundle.lookupIn_again hfirst k₂ hnotFound
      rw [lookupIn_cons, lookupIn_cons, hresult]
      split
      · next hnone =>
        rw [hstays rfl, hread hnone]
        exact ih hrest
      · rfl
    · -- the first key is found here, so that the bundles behind are as they were
      rw [lookupIn, hfirst] at h
      cases h
      obtain rfl : s' = s₁ := hs.resolve_left nofun
      obtain ⟨hresult, -, hread⟩ := Bundle.lookupIn_again hfirst k₂ (.inr rfl)
      rw [lookupIn_cons, lookupIn_cons, hresult]
      split
      · next hnone =>
        rw [hread hnone]
        rfl
      · rfl

/-- The keys are made alike in two libraries, and looking up a text for the locale gives the same text, or
fails in the same way. -/
structure Agrees (locale? : Option String) (l l' : Library) : Prop where
  keyPrefix : l'.keyPrefix = l.keyPrefix
  texts : ∀ key, (resolve key locale? l').1 = (resolve key locale? l).1

theorem Agrees.refl (locale? : Option String) (l : Library) : Agrees locale? l l where
  keyPrefix := rfl
  texts _ := rfl

theorem Agrees.symm {locale? : Option String} {l l' : Library} (h : Agrees locale? l l') :
    Agrees locale? l' l where
  keyPrefix := h.keyPrefix.symm
  texts key := (h.texts key).symm

theorem Agrees.trans {locale? : Option String} {l l₁ l₂ : Library} (h : Agrees locale? l l₁)
    (h' : Agrees locale? l₁ l₂) : Agrees locale? l l₂ where
  keyPrefix := h'.keyPrefix.trans h.keyPrefix
  texts key := (h'.texts key).trans (h.texts key)

/-- **Looks do not interfere.** A text that is looked up for a locale does not change what is found for that
locale afterwards. -/
theorem agrees_resolve {locale? : Option String} {key : String} {l l' : Library} {r : Option String}
    (h : resolve key locale? l = (.ok r, l')) : Agrees locale? l l' := by
  rcases hfound : lookupIn l.fetcher key (Locale.candidates (nonEmpty locale? <|> l.defaultLocale?))
      l.bundles l.store with ⟨r₁, bundles, s⟩
  have hlibrary : (r₁, { l with bundles, store := s }) = (.ok r, l') := by
    rw [← h]
    unfold resolve
    dsimp only
    rw [hfound]
  cases hlibrary
  exact ⟨rfl, fun key' => lookupIn_again hfound key' (.inr rfl)⟩

end Library

end FieldRules
