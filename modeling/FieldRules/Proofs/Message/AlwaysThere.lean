import FieldRules.Proofs.Message.History

/-!
# Texts that are always there

Whatever bundles have been added to a library, from wherever they are read, the texts that are always there stay behind
them (`Library.Backed`). So a look for one of their keys finds a text, or fails on the way: it never comes to nothing
(`Library.resolve_ne_none`).
-/

namespace FieldRules

namespace Texts

/-- The texts are found under their full keys. -/
theorem get?_catalog (texts : List (String × String)) (short : String) :
    (catalog texts).get? (keyPrefix ++ "." ++ short) = texts.lookup short := by
  unfold Catalog.get? catalog
  induction texts with
  | nil => rfl
  | cons entry rest ih =>
    obtain ⟨key, text⟩ := entry
    have hkey : (keyPrefix ++ "." ++ short == keyPrefix ++ "." ++ key) = (short == key) := by
      rw [Bool.eq_iff_iff, beq_iff_eq, beq_iff_eq]
      exact ⟨fun h => String.append_right_inj _ |>.1 h, fun h => h ▸ rfl⟩
    rw [List.map_cons, List.lookup_cons, List.lookup_cons, hkey, ih]

end Texts

/-- The default texts are looked for last, whatever the locale. -/
theorem Locale.none_mem_candidates (locale? : Option String) : none ∈ candidates locale? := by
  unfold candidates
  split
  · exact List.mem_singleton_self none
  · split <;> simp

namespace Bundle

variable {f : Fetcher} {s : Store} {b : Bundle} {key : String} {tags : List (Option String)}

/-- The bundle has the texts that are always there. -/
structure IsAlwaysThere (b : Bundle) : Prop where
  base : b.base? = none
  catalogs : ∀ tag? c, b.catalogs.lookup tag? = some c → c = Texts.forTag? tag?

theorem IsAlwaysThere.keeps (h : b.IsAlwaysThere) (f : Fetcher) (s : Store) : Keeps f s none (b, s) where
  store := rfl
  base := h.base
  catalogs tag? c hc := congrArg Except.ok (h.catalogs tag? c hc).symm

theorem isAlwaysThere_of_keeps {p : Bundle × Store} (h : Keeps f s none p) : p.1.IsAlwaysThere where
  base := h.base
  catalogs tag? c hc := (Except.ok.inj (h.catalogs tag? c hc)).symm

/-- The texts that are always there are not read from anywhere, and stay what they are. -/
theorem IsAlwaysThere.lookupIn (h : b.IsAlwaysThere) (f : Fetcher) (s : Store) (key : String)
    (tags : List (Option String)) :
    (lookupIn f key tags (b, s)).1 = firstText key (tags.map (reading f s none)) ∧
      (lookupIn f key tags (b, s)).2.1.IsAlwaysThere := by
  have hlocal : ∀ base ∈ (none : Option String), IsLocal base := nofun
  obtain ⟨hresult, hkeeps⟩ := yields_lookupIn hlocal key tags (b, s) (h.keeps f s)
  exact ⟨hresult, isAlwaysThere_of_keeps hkeeps⟩

/-- A key of the default texts is found. -/
theorem firstText_ne_none (hnone : none ∈ tags)
    (hkey : ((Texts.catalog Texts.english).get? key).isSome) :
    firstText key (tags.map (reading f s none)) ≠ .ok none := by
  intro hresult
  have hnothing := (firstText_eq_ok_iff.1 hresult).1
  rw [List.findSome?_eq_none_iff] at hnothing
  have hdefault := hnothing _ (List.mem_map_of_mem hnone)
  -- Without a locale the catalog is the one in English.
  have htext : textIn? key (reading f s none none) = (Texts.catalog Texts.english).get? key := rfl
  rw [htext] at hdefault
  rw [hdefault] at hkey
  cases hkey

end Bundle

namespace Library

variable {f : Fetcher} {s : Store} {bs : List Bundle} {key : String} {tags : List (Option String)} {l : Library}

/-- The last one of the bundles has the texts that are always there. -/
inductive Backed : List Bundle → Prop
  | last {b : Bundle} : b.IsAlwaysThere → Backed [b]
  | cons (b : Bundle) {bs : List Bundle} : Backed bs → Backed (b :: bs)

theorem Backed.lookupIn (h : Backed bs) (f : Fetcher) (s : Store) (key : String) (tags : List (Option String)) :
    Backed (lookupIn f key tags bs s).2.1 := by
  induction h generalizing s with
  | @last b hb =>
    have hkept := (hb.lookupIn f s key tags).2
    rw [Library.lookupIn]
    rcases hfirst : Bundle.lookupIn f key tags (b, s) with ⟨_ | _ | text, b', s'⟩ <;> rw [hfirst] at hkept
    · exact .last hkept
    · exact .last hkept
    · exact .last hkept
  | cons b hbs ih =>
    rw [Library.lookupIn]
    rcases Bundle.lookupIn f key tags (b, s) with ⟨_ | _ | text, b', s'⟩
    · exact .cons b' hbs
    · exact .cons b' (ih s')
    · exact .cons b' hbs

/-- A look for a key of the default texts ends with these, if not before. -/
theorem Backed.lookupIn_ne_none (h : Backed bs) (f : Fetcher) (s : Store) (hnone : none ∈ tags)
    (hkey : ((Texts.catalog Texts.english).get? key).isSome) : (Library.lookupIn f key tags bs s).1 ≠ .ok none := by
  induction h generalizing s with
  | @last b hb =>
    have hfound : (Bundle.lookupIn f key tags (b, s)).1 ≠ .ok none := by
      rw [(hb.lookupIn f s key tags).1]
      exact Bundle.firstText_ne_none hnone hkey
    rw [lookupIn_cons]
    split
    · next hnothing => exact absurd hnothing hfound
    · exact hfound
  | cons b hbs ih =>
    rw [lookupIn_cons]
    split
    · exact ih _
    · next hother => exact hother

/-- The library makes its keys as usual, and has the texts that are always there behind all others. -/
structure Stands (l : Library) : Prop where
  keyPrefix : l.keyPrefix = Texts.keyPrefix
  bundles : Backed l.bundles

/-- Whatever a library does, the texts that are always there stay behind all others. -/
theorem Stands.perform (h : l.Stands) (act : Act) : (act.perform l).Stands := by
  cases act with
  | look key locale? => exact ⟨h.keyPrefix, h.bundles.lookupIn _ _ _ _⟩
  | add base preload =>
    unfold Act.perform addBundle
    dsimp only
    split
    · exact ⟨h.keyPrefix, .cons _ h.bundles⟩
    · exact ⟨h.keyPrefix, h.bundles⟩
    · exact ⟨h.keyPrefix, h.bundles⟩

theorem Stands.after (h : l.Stands) (acts : List Act) : (after l acts).Stands := by
  induction acts generalizing l with
  | nil => exact h
  | cons act acts ih => exact ih (h.perform act)

/-- A library with nothing but the texts that are always there. -/
theorem stands_of_bundles (husual : l.keyPrefix = Texts.keyPrefix) (h : l.bundles = [{}]) : l.Stands where
  keyPrefix := husual
  bundles := by
    rw [h]
    exact .last ⟨rfl, nofun⟩

/-- A look for a short key of the default texts finds a text or fails. -/
theorem Stands.resolve_ne_none (h : l.Stands) {short : String} (hshort : (Texts.english.lookup short).isSome)
    (locale? : Option String) : (resolve (l.messageKey short) locale? l).1 ≠ .ok none := by
  unfold resolve messageKey
  rw [h.keyPrefix]
  refine h.bundles.lookupIn_ne_none _ _ (Locale.none_mem_candidates _) ?_
  rwa [Texts.get?_catalog]

end Library

end FieldRules
