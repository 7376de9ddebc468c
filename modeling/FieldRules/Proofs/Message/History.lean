import FieldRules.Proofs.Entries
import FieldRules.Proofs.Message.Lookup

/-!
# Histories of bundles

Bundles are added to a library and texts are looked up in it, in any order, and every look may read catalogs that
are kept from then on. Where the files are not on the network, this does not show: reading a catalog gives the same
at any time (`Bundle.reading`), what a bundle keeps is what reading gives (`Bundle.Keeps`), and the library after any
history has the bundles that could be added, the latest first (`Library.Follows`). So a look finds the first text that
reading the catalogs gives (`Library.resolveOr_after`).

A look does not come to its end if a catalog in front of the first text fails to be read. Documents that are written
wrong are one reason for this. Another one is the locale: it becomes a part of the file name, and with a colon in it
the name has a scheme (`Library.resolveOr_colon`).
-/

namespace FieldRules

open Cache

/-! ## Schemes -/

namespace Uri

/-- The first place of a character is in the first part of a text, or in the second one. -/
theorem cutAt?_append (c : Char) (v x : List Char) : Text.cutAt? [c] (v ++ x) =
    ((Text.cutAt? [c] v).map fun r => (r.1, r.2 ++ x)).or
      ((Text.cutAt? [c] x).map fun r => (v ++ r.1, r.2)) := by
  induction v with
  | nil =>
    have hnone : Text.cutAt? [c] [] = none := rfl
    rw [hnone]
    simp
  | cons d v ih =>
    have hstart (rest : List Char) : [c].isPrefixOf (d :: rest) = (c == d) := by simp [List.isPrefixOf]
    rw [List.cons_append, Text.cutAt?, Text.cutAt?, ih, hstart, hstart]
    cases c == d with
    | true => simp
    | false =>
      cases Text.cutAt? [c] v with
      | none => cases Text.cutAt? [c] x <;> simp
      | some r => simp

theorem splitScheme_fst (s : List Char) : (splitScheme s).1 = ((Text.cutAt? [':'] s).map fun r =>
    if (r.1.head?.map isPlainLetter).getD false && r.1.all isSchemeChar then r.1.map Char.toLower
    else []).getD [] := by
  unfold splitScheme
  cases Text.cutAt? [':'] s with
  | none => rfl
  | some r =>
    dsimp only [Option.map_some, Option.getD_some]
    split <;> rfl

/-- The scheme of a text. -/
def schemeOf (s : String) : List Char :=
  (splitScheme (visible s.toList)).1

theorem scheme_of_split {s : String} {u : Uri} (h : split s.toList = .ok u) : u.scheme = schemeOf s := by
  unfold split at h
  dsimp only at h
  split at h
  · obtain ⟨_, -, h⟩ := bind_eq_ok h
    obtain ⟨_, -, h⟩ := bind_eq_ok h
    obtain ⟨_, -, h⟩ := bind_eq_ok h
    cases h
    rfl
  · obtain ⟨_, -, h⟩ := bind_eq_ok h
    obtain ⟨_, -, h⟩ := bind_eq_ok h
    cases h
    rfl

theorem visible_append (s y : List Char) :
    visible (s ++ '.' :: y) = visible s ++ '.' :: y.filter fun c => c != '\t' && c != '\r' && c != '\n' := by
  unfold visible
  rw [List.dropWhile_append]
  cases h : s.dropWhile fun c => c.toNat ≤ 0x20 with
  | nil => simp
  | cons c rest =>
    rw [if_neg (by simp), List.filter_append]
    rfl

/-- A scheme that is one for the network. -/
def IsRemote (scheme : List Char) : Prop :=
  scheme = "http".toList ∨ scheme = "https".toList

instance (scheme : List Char) : Decidable (IsRemote scheme) :=
  inferInstanceAs (Decidable (_ ∨ _))

/-- What stands behind a point makes no scheme for the network. -/
theorem isRemote_point (s y y' : List Char) (h : IsRemote (splitScheme (visible (s ++ '.' :: y))).1) :
    IsRemote (splitScheme (visible (s ++ '.' :: y'))).1 := by
  rw [visible_append, splitScheme_fst, cutAt?_append] at h ⊢
  cases hcut : Text.cutAt? [':'] (visible s) with
  | some r =>
    rw [hcut] at h
    exact h
  | none =>
    -- The text has no colon in front of the point, which is then a part of the scheme if there is one.
    have hpoint (scheme : List Char) (hmem : '.' ∈ scheme) : ¬ IsRemote scheme := by
      rintro (rfl | rfl) <;> revert hmem <;> decide
    have hnone : ¬ IsRemote [] := by
      rintro (h | h) <;> cases h
    rw [hcut, Option.map_none, Option.none_or, Text.cutAt?, if_neg (by simp [List.isPrefixOf])] at h
    exfalso
    cases hrest : Text.cutAt? [':'] (y.filter fun c => c != '\t' && c != '\r' && c != '\n') with
    | none =>
      rw [hrest] at h
      exact hnone h
    | some r =>
      rw [hrest] at h
      simp only [Option.map_some, Option.getD_some] at h
      split at h
      · exact hpoint _ (List.mem_map.2 ⟨'.', by simp, rfl⟩) h
      · exact hnone h

end Uri

namespace Store

/-- Where a file is looked for that is named by its path or by a URI for files. -/
def located (f : Fetcher) (name : String) : Except Error Path :=
  match Uri.split name.toList with
  | .error p => .error (.uri p)
  | .ok u =>
    if u.scheme.length ≤ 1 then .ok (f.base.join (Path.ofString name))
    else if String.ofList u.scheme = "file" then .ok (Path.ofString (String.ofList (Uri.unescape u.path)))
    else .error (.resource (.scheme (String.ofList u.scheme) name))

/-- The content of a file that is not on the network, if there is such a file. -/
def contentAt (f : Fetcher) (s : Store) (name : String) : Except Error (Option Content) := do
  return (s.file? (← located f name)).map readContent

/-- The document in a file that is not on the network, if there is such a file. -/
def documentAt (f : Fetcher) (s : Store) (name : String) (unreadable : DocumentError → Error) :
    Except Error (Option Value) := do
  match ← contentAt f s name with
  | none => return none
  | some c => return some (← (documentOf c).mapError unreadable)

section
variable {f : Fetcher} {s : Store} {name : String}

/-- Reading a file that is not on the network changes nothing. -/
theorem yields_fetch (h : ¬ Uri.IsRemote (Uri.schemeOf name)) :
    Run.Yields (· = s) (fetch f name) (contentAt f s name) := by
  rintro s rfl
  suffices hfetch : fetch f name s = (contentAt f s name, s) by simp [hfetch]
  unfold fetch contentAt located
  cases hsplit : Uri.split name.toList with
  | error p => rfl
  | ok u =>
    have hscheme := Uri.scheme_of_split hsplit
    dsimp only
    by_cases hlength : u.scheme.length ≤ 1
    · rw [if_pos hlength, if_pos hlength]
      rfl
    · rw [if_neg hlength, if_neg hlength]
      by_cases hfile : String.ofList u.scheme = "file"
      · rw [if_pos hfile, hfile]
        rfl
      · rw [if_neg hfile]
        have hhttp : String.ofList u.scheme ≠ "http" := fun heq =>
          h (.inl (by rw [← hscheme, ← heq, String.toList_ofList]))
        have hhttps : String.ofList u.scheme ≠ "https" := fun heq =>
          h (.inr (by rw [← hscheme, ← heq, String.toList_ofList]))
        show _ = (throw (.resource (.scheme (String.ofList u.scheme) name)) : Run (Option Content)) s
        -- The match is on texts: the scheme has to be a variable for it to be split.
        refine congrFun ?_ s
        generalize String.ofList u.scheme = scheme at hfile hhttp hhttps
        split
        · exact absurd rfl hfile
        · exact absurd rfl hhttp
        · exact absurd rfl hhttps
        · rfl

theorem yields_fetchDocument (h : ¬ Uri.IsRemote (Uri.schemeOf name)) (unreadable : DocumentError → Error) :
    Run.Yields (· = s) (fetchDocument f name unreadable) (documentAt f s name unreadable) := by
  refine (yields_fetch h).bind fun c? _ => ?_
  cases c? with
  | none => exact .pure none
  | some c =>
    dsimp only
    cases documentOf c with
    | ok v => exact .pure (some v)
    | error e => exact .lift (.error (unreadable e))

end

end Store

namespace Bundle

/-! ## Catalogs -/

/-- The files of a bundle are not on the network. -/
def IsLocal (base : String) : Prop :=
  ¬ Uri.IsRemote (Uri.schemeOf (fileName base none))

instance (base : String) : Decidable (IsLocal base) :=
  inferInstanceAs (Decidable (¬ _))

/-- What reading the catalog for a tag gives, with these files. -/
def reading (f : Fetcher) (s : Store) : Option String → Option String → Except Error (Option Catalog)
  | none, tag? => .ok (Texts.forTag? tag?)
  | some base, tag? => do
    match ← Store.documentAt f s (fileName base tag?) fun _ => .setup (.invalidMessages (fileName base tag?)) with
    | none => return none
    | some v => return some (← liftFault (Catalog.flatten "" v))

/-- The catalogs that are kept are what reading them gives, with these files. -/
structure Keeps (f : Fetcher) (s : Store) (base? : Option String) (p : Bundle × Store) : Prop where
  store : p.2 = s
  base : p.1.base? = base?
  catalogs : ∀ tag? c, p.1.catalogs.lookup tag? = some c → reading f s base? tag? = .ok c

/-- What a lookup gives: the first text, if no catalog in front of it fails to be read. -/
def firstText (key : String) : List (Except Error (Option Catalog)) → Except Error (Option String)
  | [] => return none
  | r :: rest => do
    match (← r).bind fun c => c.get? key with
    | some text => return some text
    | none => firstText key rest

/-- The text for a key in a catalog that can be read and is there. -/
def textIn? (key : String) (r : Except Error (Option Catalog)) : Option String :=
  r.toOption.join.bind fun c => c.get? key

section Reading
variable {f : Fetcher} {s : Store} {base : String} {base? tag? : Option String}

/-- No tag brings the files of a local bundle to the network. -/
theorem IsLocal.tag (h : IsLocal base) (tag? : Option String) :
    ¬ Uri.IsRemote (Uri.schemeOf (fileName base tag?)) := by
  cases tag? with
  | none => exact h
  | some tag =>
    intro hremote
    refine h ?_
    have hnone : (fileName base none).toList = base.toList ++ '.' :: "yaml".toList := by
      simp [fileName]
    have htag : (fileName base (some tag)).toList = base.toList ++ '.' :: (tag ++ ".yaml").toList := by
      simp [fileName]
    unfold Uri.schemeOf at hremote ⊢
    rw [htag] at hremote
    rw [hnone]
    exact Uri.isRemote_point _ _ _ hremote

theorem yields_onStore {α : Type} {m : Store.Run α} {r : Except Error α} (h : Run.Yields (· = s) m r) :
    Run.Yields (Keeps f s base?) (onStore m) r := by
  rintro ⟨b, s'⟩ hkeeps
  obtain rfl : s' = s := hkeeps.store
  obtain ⟨hr, hs⟩ := h s' rfl
  exact ⟨hr, hs, hkeeps.base, hkeeps.catalogs⟩

/-- Reading a catalog of a local bundle changes nothing. -/
theorem yields_readCatalog (h : IsLocal base) (tag? : Option String) :
    Run.Yields (Keeps f s base?) (readCatalog f (fileName base tag?)) (reading f s (some base) tag?) := by
  refine (yields_onStore (Store.yields_fetchDocument (h.tag tag?) _)).bind fun v? _ => ?_
  cases v? with
  | none => exact .pure none
  | some v => exact (Run.Yields.lift _).bind fun c _ => .pure (some c)

/-- A catalog that has been read is kept. -/
theorem Keeps.add {p : Bundle × Store} {c : Option Catalog} (hp : Keeps f s base? p)
    (hc : reading f s base? tag? = .ok c) :
    Keeps f s base? ({ p.1 with catalogs := p.1.catalogs ++ [(tag?, c)] }, p.2) where
  store := hp.store
  base := hp.base
  catalogs other? d hd := by
    rw [List.lookup_append] at hd
    rcases hheld : p.1.catalogs.lookup other? with _ | e
    · rw [hheld, Option.none_or] at hd
      obtain ⟨k, hmem, hk⟩ := mem_of_lookup hd
      obtain ⟨rfl, rfl⟩ := Prod.mk.inj (List.mem_singleton.1 hmem)
      rw [eq_of_beq hk, hc]
    · rw [hheld, Option.some_or] at hd
      exact hp.catalogs other? d (hheld.trans hd)

/-- A catalog is what reading it gives, and is kept. -/
theorem yields_catalog (h : ∀ base ∈ base?, IsLocal base) (tag? : Option String) :
    Run.Yields (Keeps f s base?) (catalog f tag?) (reading f s base? tag?) := by
  rintro ⟨b, s'⟩ hkeeps
  cases hheld : b.catalogs.lookup tag? with
  | some c =>
    rw [catalog_of_lookup hheld]
    exact ⟨(hkeeps.catalogs tag? c hheld).symm, hkeeps⟩
  | none =>
    have hbase : b.base? = base? := hkeeps.base
    rw [catalog, Run.bind_of_ok (Run.get_eq _), ← bind_pure (reading f s base? tag?)]
    simp only [hheld, hbase]
    cases base? with
    | none =>
      refine Run.Yields.bind (.pure _) (fun c hc => ?_) (b, s') hkeeps
      exact fun p hp => ⟨rfl, hp.add hc⟩
    | some base =>
      refine (yields_readCatalog (h base rfl) tag?).bind (fun c hc => ?_) (b, s') hkeeps
      exact fun p hp => ⟨rfl, hp.add hc⟩

/-- A text that is looked up is the first one that reading the catalogs gives. -/
theorem yields_lookupIn (h : ∀ base ∈ base?, IsLocal base) (key : String) (tags : List (Option String)) :
    Run.Yields (Keeps f s base?) (lookupIn f key tags) (firstText key (tags.map (reading f s base?))) := by
  induction tags with
  | nil => exact .pure none
  | cons tag? rest ih =>
    refine (yields_catalog h tag?).bind fun c _ => ?_
    cases c.bind fun c => c.get? key with
    | some text => exact .pure (some text)
    | none => exact ih

/-- Whether any of the catalogs for some locales is there, with these files. -/
def anyThere (f : Fetcher) (s : Store) (base? : Option String) (locales : List (Option String)) :
    Except Error Bool := do
  return (← locales.mapM fun locale? => reading f s base? (locale?.bind Locale.tag?)).any Option.isSome

theorem anyThere_cons (locale? : Option String) (locales : List (Option String)) :
    anyThere f s base? (locale? :: locales) = do
      let here ← reading f s base? (locale?.bind Locale.tag?)
      return here.isSome || (← anyThere f s base? locales) := by
  unfold anyThere
  rw [List.mapM_cons]
  simp only [bind_assoc, pure_bind, List.any_cons]

theorem yields_load (h : ∀ base ∈ base?, IsLocal base) (locales : List (Option String)) :
    Run.Yields (Keeps f s base?) (load f locales) (anyThere f s base? locales) := by
  induction locales with
  | nil => exact .pure false
  | cons locale? rest ih =>
    rw [anyThere_cons]
    exact (yields_catalog h _).bind fun here _ => ih.bind fun others _ => .pure (here.isSome || others)

/-- The catalogs behind others are read if these do not have the key. -/
theorem firstText_append (key : String) (rs rs' : List (Except Error (Option Catalog))) :
    firstText key (rs ++ rs') = firstText key rs >>= fun
      | some text => return some text
      | none => firstText key rs' := by
  induction rs with
  | nil => rfl
  | cons r rs ih =>
    rw [List.cons_append, firstText, firstText, bind_assoc]
    refine bind_congr fun c => ?_
    cases c.bind fun c => c.get? key with
    | some text => rfl
    | none => exact ih

/-- In front of the first failure there is something that holds, or it holds of what is put in front. -/
theorem before_error_cons {α : Type} {P : Except Error α → Prop} {a : α} {rs : List (Except Error α)} :
    (∀ before e rest, .ok a :: rs = before ++ .error e :: rest → ∃ r ∈ before, P r) ↔
      P (.ok a) ∨ ∀ before e rest, rs = before ++ .error e :: rest → ∃ r ∈ before, P r := by
  constructor
  · intro h
    by_cases ha : P (.ok a)
    · exact .inl ha
    · refine .inr fun before e rest hrs => ?_
      obtain ⟨r, hr, hfound⟩ := h (.ok a :: before) e rest (congrArg _ hrs)
      rcases List.mem_cons.1 hr with rfl | hr
      · exact absurd hfound ha
      · exact ⟨r, hr, hfound⟩
  · intro h before e rest hrs
    cases before with
    | nil => cases hrs
    | cons r before =>
      obtain ⟨rfl, hbehind⟩ := List.cons.inj hrs
      rcases h with ha | h
      · exact ⟨.ok a, List.mem_cons_self .., ha⟩
      · obtain ⟨r, hr, hfound⟩ := h before e rest hbehind
        exact ⟨r, List.mem_cons_of_mem _ hr, hfound⟩

/-- A lookup comes to its end exactly if no catalog fails to be read in front of the first text. It gives that
text then. -/
theorem firstText_eq_ok_iff {key : String} {rs : List (Except Error (Option Catalog))} {text? : Option String} :
    firstText key rs = .ok text? ↔ rs.findSome? (textIn? key) = text? ∧
      ∀ before e rest, rs = before ++ .error e :: rest → ∃ r ∈ before, (textIn? key r).isSome := by
  induction rs with
  | nil =>
    show Except.ok none = Except.ok text? ↔ _
    simp
  | cons r rs ih =>
    cases r with
    | error e =>
      refine ⟨nofun, fun h => ?_⟩
      obtain ⟨r, hr, -⟩ := h.2 [] e rs rfl
      cases hr
    | ok c =>
      have hhere : textIn? key (.ok c) = c.bind fun c => c.get? key := rfl
      show firstText key (pure c :: rs) = _ ↔ _
      rw [firstText, pure_bind, List.findSome?_cons, before_error_cons, hhere]
      cases c.bind fun c => c.get? key with
      | some text =>
        -- the text is found here, whatever the catalogs behind are
        show Except.ok (some text) = Except.ok text? ↔ some text = text? ∧ _
        simp
      | none =>
        dsimp only
        rw [ih, Option.isSome_none, or_iff_right Bool.false_ne_true]

end Reading

end Bundle

namespace Library

/-! ## Histories -/

/-- What a library is asked to do: to add a bundle, or to look up a text. -/
inductive Act where
  | add (base : String) (preload : List String)
  | look (key : String) (locale? : Option String)

namespace Act

/-- The library afterwards, whether the act has failed or not. -/
def perform (l : Library) : Act → Library
  | add base preload => (addBundle base preload l).2
  | look key locale? => (resolve key locale? l).2

/-- The bundle that is added, which needs a catalog that is there. -/
def added? (f : Fetcher) (s : Store) : Act → Option String
  | add base preload =>
    match Bundle.anyThere f s (some base) (none :: preload.map some) with
    | .ok true => some base
    | _ => none
  | look _ _ => none

/-- The bundles that may be added are local ones. -/
def IsLocal : Act → Prop
  | add base _ => Bundle.IsLocal base
  | look _ _ => True

instance : DecidablePred IsLocal
  | add base _ => inferInstanceAs (Decidable (Bundle.IsLocal base))
  | look _ _ => inferInstanceAs (Decidable True)

end Act

/-- The library after some acts. -/
def after (l : Library) (acts : List Act) : Library :=
  acts.foldl Act.perform l

/-- Where texts are looked for after some acts: in the bundles that have been added, the latest first, and
then in the texts that are always there. -/
def places (f : Fetcher) (s : Store) (acts : List Act) : List (Option String) :=
  (acts.filterMap (Act.added? f s)).reverse.map some ++ [none]

/-- What reading the catalogs gives for a locale after some acts, in the order in which they are read. -/
def readings (l : Library) (acts : List Act) (locale? : Option String) :
    List (Except Error (Option Catalog)) :=
  (places l.fetcher l.store acts).flatMap fun base? =>
    (Locale.candidates (nonEmpty locale? <|> l.defaultLocale?)).map (Bundle.reading l.fetcher l.store base?)

/-- A library that has come from another one: the files are the same, and its bundles keep what reading their
catalogs gives. -/
structure Follows (l : Library) (bases : List (Option String)) (l' : Library) : Prop where
  store : l'.store = l.store
  fetcher : l'.fetcher = l.fetcher
  defaultLocale : l'.defaultLocale? = l.defaultLocale?
  bundles : List.Forall₂ (fun base? b => Bundle.Keeps l.fetcher l.store base? (b, l.store)) bases l'.bundles
  isLocal : ∀ base? ∈ bases, ∀ base ∈ base?, Bundle.IsLocal base

section Follows
variable {f : Fetcher} {s : Store} {l l' : Library} {bases : List (Option String)} {bs : List Bundle}

theorem follows_refl (h : l.bundles = [{}]) : Follows l [none] l where
  store := rfl
  fetcher := rfl
  defaultLocale := rfl
  bundles := by
    rw [h]
    exact .cons ⟨rfl, rfl, fun _ _ hd => nomatch hd⟩ .nil
  isLocal base? hbase base hb := by
    cases List.mem_singleton.1 hbase
    cases hb

/-- A text that is looked up in some bundles is the first one that reading their catalogs gives. -/
theorem lookupIn_keeps (h : List.Forall₂ (fun base? b => Bundle.Keeps f s base? (b, s)) bases bs)
    (hlocal : ∀ base? ∈ bases, ∀ base ∈ base?, Bundle.IsLocal base) (key : String)
    (tags : List (Option String)) :
    ∃ bs', lookupIn f key tags bs s =
        (Bundle.firstText key (bases.flatMap fun base? => tags.map (Bundle.reading f s base?)), bs', s) ∧
      List.Forall₂ (fun base? b => Bundle.Keeps f s base? (b, s)) bases bs' := by
  induction h with
  | nil => exact ⟨[], rfl, .nil⟩
  | @cons base? b bases bs hb hbs ih =>
    rw [List.forall_mem_cons] at hlocal
    obtain ⟨bs', hrest, hbs'⟩ := ih hlocal.2
    obtain ⟨hfirst, hkeeps⟩ := Bundle.yields_lookupIn hlocal.1 key tags (b, s) hb
    rw [List.flatMap_cons, Bundle.firstText_append, ← hfirst, lookupIn]
    generalize Bundle.lookupIn f key tags (b, s) = first at hkeeps
    obtain ⟨r, b', s'⟩ := first
    obtain rfl : s' = s := hkeeps.store
    rcases r with e | _ | text
    · exact ⟨b' :: bs, rfl, .cons hkeeps hbs⟩
    · dsimp only
      rw [hrest]
      exact ⟨b' :: bs', rfl, .cons hkeeps hbs'⟩
    · exact ⟨b' :: bs, rfl, .cons hkeeps hbs⟩

/-- Looking up a text gives what reading the catalogs gives, and changes nothing that shows. -/
theorem Follows.resolve (h : Follows l bases l') (key : String) (locale? : Option String) :
    (resolve key locale? l').1 = Bundle.firstText key (bases.flatMap fun base? =>
        (Locale.candidates (nonEmpty locale? <|> l.defaultLocale?)).map (Bundle.reading l.fetcher l.store base?)) ∧
      Follows l bases (resolve key locale? l').2 := by
  unfold Library.resolve
  rw [h.store, h.fetcher, h.defaultLocale]
  obtain ⟨bs', hlook, hbs'⟩ := lookupIn_keeps h.bundles h.isLocal key
    (Locale.candidates (nonEmpty locale? <|> l.defaultLocale?))
  dsimp only
  rw [hlook]
  exact ⟨rfl, rfl, rfl, rfl, hbs', h.isLocal⟩

/-- Whether a bundle is added depends on the files alone. One that is added is looked in first, and an attempt that
fails changes nothing. -/
theorem Follows.addBundle (h : Follows l bases l') {base : String} (hbase : Bundle.IsLocal base)
    (preload : List String) :
    ((addBundle base preload l').1 = do
        if ← Bundle.anyThere l.fetcher l.store (some base) (none :: preload.map some) then return ()
        else throw (.setup (.unreadableBundle base))) ∧
      Follows l (((Act.add base preload).added? l.fetcher l.store).toList.map some ++ bases)
        (addBundle base preload l').2 := by
  have hlocal : ∀ base' ∈ some base, Bundle.IsLocal base' := by
    rintro _ ⟨rfl⟩
    exact hbase
  have hstart : Bundle.Keeps l.fetcher l.store (some base) ({ base? := some base }, l.store) :=
    ⟨rfl, rfl, fun _ _ hd => nomatch hd⟩
  obtain ⟨hload, hkeeps⟩ := Bundle.yields_load hlocal (none :: preload.map some) _ hstart
  unfold Library.addBundle Act.added?
  dsimp only
  rw [h.fetcher, h.store, ← hload]
  generalize Bundle.load l.fetcher (none :: preload.map some) ({ base? := some base }, l.store) = loaded at hkeeps
  obtain ⟨r, b, s⟩ := loaded
  obtain rfl : s = l.store := hkeeps.store
  rcases r with e | _ | _
  · exact ⟨rfl, rfl, rfl, h.defaultLocale, h.bundles, h.isLocal⟩
  · exact ⟨rfl, rfl, rfl, h.defaultLocale, h.bundles, h.isLocal⟩
  · exact ⟨rfl, rfl, rfl, h.defaultLocale, .cons hkeeps h.bundles,
      List.forall_mem_cons.2 ⟨hlocal, h.isLocal⟩⟩

/-- One act adds a bundle in front, or changes nothing that shows. -/
theorem Follows.perform (h : Follows l bases l') {act : Act} (hact : act.IsLocal) :
    Follows l ((act.added? l.fetcher l.store).toList.map some ++ bases) (act.perform l') := by
  cases act with
  | add base preload => exact (h.addBundle hact preload).2
  | look key locale? => exact (h.resolve key locale?).2

/-- The bundles that are added in some acts stand in front, the latest first. -/
theorem Follows.after (h : Follows l bases l') {acts : List Act} (hacts : ∀ act ∈ acts, act.IsLocal) :
    Follows l ((acts.filterMap (Act.added? l.fetcher l.store)).reverse.map some ++ bases)
      (after l' acts) := by
  induction acts generalizing bases l' with
  | nil => exact h
  | cons act acts ih =>
    rw [List.forall_mem_cons] at hacts
    have hafter := ih (h.perform hacts.1) hacts.2
    rw [List.filterMap_cons]
    cases hadded : act.added? l.fetcher l.store with
    | none =>
      rw [hadded] at hafter
      exact hafter
    | some base =>
      rw [hadded] at hafter
      rw [List.reverse_cons, List.map_append, List.append_assoc]
      exact hafter

end Follows

/-- **Texts after any history.** A library starts with the texts that are always there; bundles that are not on the
network are added to it, or fail to be, and texts are looked up. Afterwards a look for a key goes through what reading
the catalogs gives: in the bundles that have been added, the latest first, and then in the texts that are always
there, each time for the locale or else the usual one, for its language and without a locale. It finds the first text,
or what is given instead if there is none, exactly if no catalog in front of that text fails to be read. Whether a
bundle is added depends on the files and on its own locales, and not on what has been done before. -/
theorem resolveOr_after {l : Library} {acts : List Act} (hl : l.bundles = [{}])
    (hacts : ∀ act ∈ acts, act.IsLocal) (key : String) (locale? default? : Option String) :
    (resolveOr key locale? default? (after l acts)).1
        = (Bundle.firstText key (readings l acts locale?)).map (·.or default?) ∧
      ((resolveOr key locale? default? (after l acts)).1
          = .ok (((readings l acts locale?).findSome? (Bundle.textIn? key)).or default?) ↔
        ∀ before e rest, readings l acts locale? = before ++ .error e :: rest →
          ∃ r ∈ before, (Bundle.textIn? key r).isSome) ∧
      ∀ before base preload rest, acts = before ++ .add base preload :: rest →
        (addBundle base preload (after l before)).1 = (do
          if ← Bundle.anyThere l.fetcher l.store (some base) (none :: preload.map some) then return ()
          else throw (.setup (.unreadableBundle base))) := by
  have hresult : (resolveOr key locale? default? (after l acts)).1
      = (Bundle.firstText key (readings l acts locale?)).map (·.or default?) := by
    have hresolve := (((follows_refl hl).after hacts).resolve key locale?).1
    unfold readings places
    rw [← hresolve]
    unfold resolveOr
    rw [Run.bind_eq]
    rcases resolve key locale? (after l acts) with ⟨_ | _, _⟩ <;> rfl
  refine ⟨hresult, ?_, ?_⟩
  · rw [hresult]
    constructor
    · intro hreturns
      cases hfirst : Bundle.firstText key (readings l acts locale?) with
      | error e =>
        rw [hfirst] at hreturns
        cases hreturns
      | ok text? => exact (Bundle.firstText_eq_ok_iff.1 hfirst).2
    · intro hfound
      rw [Bundle.firstText_eq_ok_iff.2 ⟨rfl, hfound⟩]
      rfl
  · -- The acts before the addition are a history of their own.
    rintro before base preload rest rfl
    rw [List.forall_mem_append, List.forall_mem_cons] at hacts
    exact (((follows_refl hl).after hacts.1).addBundle hacts.2.1 preload).1

/-- A library with greetings in two languages, and with some other texts. -/
def greetings : Library where
  store.files := [
    (["messages.yaml"], .document (.dict [(.string "greeting", .string "Hello")])),
    (["messages.de.yaml"], .document (.dict [(.string "greeting", .string "Hallo")])),
    (["other.yaml"], .document (.dict [(.string "farewell", .string "Goodbye")]))]

theorem resolveOr_after_greetings :
    let acts : List Act := [.add "messages" ["de"], .look "farewell" none, .add "absent" ["de"], .add "other" []]
    greetings.bundles = [{}] ∧ (∀ act ∈ acts, act.IsLocal) ∧
      (addBundle "absent" ["de"] (after greetings (acts.take 2))).1 = .error (.setup (.unreadableBundle "absent")) ∧
      (resolveOr "greeting" (some "de_AT") none (after greetings acts)).1 = .ok (some "Hallo") := by
  intro acts
  have hacts : ∀ act ∈ acts, act.IsLocal := by decide +kernel
  obtain ⟨htext, -, hadd⟩ := resolveOr_after (l := greetings) rfl hacts "greeting" (some "de_AT") none
  refine ⟨rfl, hacts, (hadd (acts.take 2) "absent" ["de"] [.add "other" []] rfl).trans ?_, htext.trans ?_⟩
  · decide +kernel
  · decide +kernel

/-- With a colon in the locale, the file name is taken for a URI with a scheme that is not known, and the look does
not go on to the messages without a locale. -/
theorem resolveOr_colon :
    let acts : List Act := [.add "messages" []]
    greetings.bundles = [{}] ∧ (∀ act ∈ acts, act.IsLocal) ∧
      (addBundle "messages" [] greetings).1 = .ok () ∧
      (resolveOr "greeting" (some "de:AT") none (after greetings acts)).1
        = .error (.resource (.scheme "messages.de" "messages.de:at.yaml")) ∧
      ((readings greetings acts (some "de:AT")).findSome? (Bundle.textIn? "greeting")).or none = some "Hello" := by
  refine ⟨rfl, ?_, ?_, ?_, ?_⟩ <;> decide +kernel

end Library

end FieldRules
