import FieldRules.Message.Library
import FieldRules.Proofs.Text.Case
import Mathlib.Data.List.SplitBy
import Mathlib.Logic.Relation

/-!
# Spellings of locales

A locale can be written with hyphens or underscores, with more of them than needed, and with small letters or capitals
in its language and in parts of two letters. `Locale.Respells` lists these liberties one by one, and two texts are
spellings of one locale if steps of this kind lead from the one to the other (`Locale.Respelled`). Spellings of one
locale have one tag, and the tag is one of the spellings, so no others have the same tag (`Locale.tag?_spellings`). What
is looked up in a library for a locale depends on its tag alone.
-/

namespace FieldRules

namespace Locale

variable {a b : Char} {s t u v p q gap : List Char}

/-! ## Parts -/

/-- No character of the text separates parts. -/
def IsWord (p : List Char) : Prop :=
  ∀ c ∈ p, isSeparator c = false

/-- The text is over, or goes on with a separator. -/
def Ends (v : List Char) : Prop :=
  ∀ c ∈ v.head?, isSeparator c = true

theorem ends_cons (ha : isSeparator a = true) (v : List Char) : Ends (a :: v) := by
  intro c hc
  rw [← Option.some.inj hc]
  exact ha

theorem Ends.append (hu : Ends u) (hv : Ends v) : Ends (u ++ v) := by
  cases u with
  | nil => exact hv
  | cons c u => exact hu

theorem ends_dropWhile (s : List Char) : Ends (s.dropWhile fun c => !isSeparator c) := by
  intro c hc
  have hhead := List.head?_dropWhile_not (fun c => !isSeparator c) s
  rw [Option.mem_def.1 hc] at hhead
  simpa using hhead

/-- A locale is over, or it starts with a separator, or with a word and what ends it. -/
@[elab_as_elim]
theorem induction {P : List Char → Prop} (nil : P [])
    (separator : ∀ a s, isSeparator a = true → P s → P (a :: s))
    (word : ∀ p s, p ≠ [] → IsWord p → Ends s → P s → P (p ++ s)) (s : List Char) : P s := by
  -- A word is taken as a whole, so the induction is on the length.
  induction hlength : s.length using Nat.strongRecOn generalizing s with
  | ind n ih =>
    cases s with
    | nil => exact nil
    | cons c s =>
      cases hc : isSeparator c with
      | true => exact separator c s hc (ih s.length (by simp [← hlength]) s rfl)
      | false =>
        have hrest : (s.dropWhile fun c => !isSeparator c).length < n := by
          have hle := (List.dropWhile_sublist (l := s) fun c => !isSeparator c).length_le
          simp only [List.length_cons] at hlength
          omega
        have hword : IsWord (c :: s.takeWhile fun c => !isSeparator c) := by
          intro d hd
          rcases List.mem_cons.1 hd with rfl | hd
          · exact hc
          · simpa using List.all_eq_true.1 (List.all_takeWhile (p := fun c => !isSeparator c) (l := s)) d hd
        have hP := word _ _ (List.cons_ne_nil _ _) hword (ends_dropWhile s) (ih _ hrest _ rfl)
        rwa [List.cons_append, List.takeWhile_append_dropWhile] at hP

theorem parts_nil : parts [] = [] :=
  rfl

/-- Between separators there are no parts. -/
theorem parts_gap (hgap : ∀ c ∈ gap, isSeparator c = true) (hs : ∀ c ∈ s.head?, isSeparator c = false) :
    parts (gap ++ s) = parts s := by
  unfold parts
  rw [List.splitBy_append, List.filter_append]
  · have hnone : (gap.splitBy fun a b => isSeparator a == isSeparator b).filter (fun p => !p.any isSeparator) = [] := by
      rw [List.filter_eq_nil_iff]
      intro p hp
      obtain ⟨c, hc⟩ := List.exists_mem_of_ne_nil p (List.ne_nil_of_mem_splitBy hp)
      have hmem : c ∈ gap := by
        rw [← List.flatten_splitBy (fun a b => isSeparator a == isSeparator b) gap]
        exact List.mem_flatten.2 ⟨p, hp, hc⟩
      simpa using ⟨c, hc, hgap c hmem⟩
    rw [hnone, List.nil_append]
  · intro x hx y hy
    rw [hgap x (List.mem_of_getLast? hx), hs y hy]
    rfl

theorem parts_cons (ha : isSeparator a = true) (s : List Char) : parts (a :: s) = parts s := by
  have hgap : ∀ c ∈ s.takeWhile isSeparator, isSeparator c = true := List.all_eq_true.1 List.all_takeWhile
  have hrest : ∀ c ∈ (s.dropWhile isSeparator).head?, isSeparator c = false := by
    intro c hc
    have hhead := List.head?_dropWhile_not isSeparator s
    rwa [Option.mem_def.1 hc] at hhead
  calc parts (a :: s) = parts (a :: s.takeWhile isSeparator ++ s.dropWhile isSeparator) := by
        rw [List.cons_append, List.takeWhile_append_dropWhile]
    _ = parts (s.dropWhile isSeparator) := parts_gap (List.forall_mem_cons.2 ⟨ha, hgap⟩) hrest
    _ = parts (s.takeWhile isSeparator ++ s.dropWhile isSeparator) := (parts_gap hgap hrest).symm
    _ = parts s := by rw [List.takeWhile_append_dropWhile]

/-- A word is a part. -/
theorem parts_word (hne : p ≠ []) (hp : IsWord p) (hv : Ends v) : parts (p ++ v) = p :: parts v := by
  have hchain : p.IsChain fun a b => (isSeparator a == isSeparator b) = true := by
    apply List.Pairwise.isChain
    apply List.pairwise_of_forall_mem_list
    intro c hc d hd
    rw [hp c hc, hp d hd]
    rfl
  have hkept : (!p.any isSeparator) = true := by
    simpa [IsWord] using hp
  unfold parts
  rw [List.splitBy_append, List.splitBy_of_isChain hne hchain, List.singleton_append, List.filter_cons, if_pos hkept]
  intro x hx y hy
  rw [hp x (List.mem_of_getLast? hx), hv y hy]
  rfl

/-- A separator keeps the parts before it and behind it apart. -/
theorem parts_append_cons (ha : isSeparator a = true) (u v : List Char) :
    parts (u ++ a :: v) = parts u ++ parts v := by
  induction u using Locale.induction with
  | nil => exact parts_cons ha v
  | separator b u hb ih => rw [List.cons_append, parts_cons hb, ih, parts_cons hb]
  | word p u hne hp hu ih =>
    rw [List.append_assoc, parts_word hne hp (hu.append (ends_cons ha v)), ih, parts_word hne hp hu, List.cons_append]

/-! ## Liberties -/

/-- Two words of ASCII that differ in nothing but the case of their letters. -/
structure SameLetters (p q : List Char) : Prop where
  ascii : ∀ c ∈ p ++ q, c.toNat < 128
  words : IsWord (p ++ q)
  letters : p.map Char.toLower = q.map Char.toLower

/-- One step from a spelling of a locale to another one. -/
inductive Respells : List Char → List Char → Prop
  /-- Any separator will do. -/
  | separator {a b : Char} (u v : List Char) (ha : isSeparator a = true) (hb : isSeparator b = true) :
      Respells (u ++ a :: v) (u ++ b :: v)
  /-- A separator may be repeated. -/
  | repeated {a b : Char} (u v : List Char) (ha : isSeparator a = true) (hb : isSeparator b = true) :
      Respells (u ++ a :: b :: v) (u ++ b :: v)
  /-- A separator may stand in front of the locale. -/
  | leading {a : Char} (v : List Char) (ha : isSeparator a = true) : Respells (a :: v) v
  /-- A separator may stand behind the locale. -/
  | trailing {a : Char} (u : List Char) (ha : isSeparator a = true) : Respells (u ++ [a]) u
  /-- The first part may be written in any case. -/
  | language {gap p q v : List Char} (hgap : ∀ c ∈ gap, isSeparator c = true) (hsame : SameLetters p q)
      (hv : Ends v) : Respells (gap ++ p ++ v) (gap ++ q ++ v)
  /-- A later part of two letters may be written in any case. -/
  | region {a : Char} {p q v : List Char} (u : List Char) (ha : isSeparator a = true) (hlength : p.length = 2)
      (hsame : SameLetters p q) (hv : Ends v) : Respells (u ++ a :: p ++ v) (u ++ a :: q ++ v)

/-- Two spellings of one locale. -/
def Respelled : List Char → List Char → Prop :=
  Relation.EqvGen Respells

namespace SameLetters

theorem lower_eq (h : SameLetters p q) : Text.lower p = Text.lower q := by
  have hascii := List.forall_mem_append.1 h.ascii
  rw [Text.lower_of_ascii hascii.1, Text.lower_of_ascii hascii.2, h.letters]

theorem length_eq (h : SameLetters p q) : p.length = q.length := by
  simpa using congrArg List.length h.letters

theorem region_eq (h : SameLetters p q) (hlength : p.length = 2) : region p = region q := by
  have hascii := List.forall_mem_append.1 h.ascii
  have hlength' : q.length = 2 := by
    rw [← h.length_eq]
    exact hlength
  rw [region, region, if_pos (beq_iff_eq.2 hlength), if_pos (beq_iff_eq.2 hlength')]
  exact Text.upper_eq_of_lower_eq hascii.1 hascii.2 h.letters

end SameLetters

/-! ## Tags -/

/-- The parts of a tag come from the parts of its locale. -/
theorem tagParts_congr (h : parts s = parts t) : tagParts (String.ofList s) = tagParts (String.ofList t) := by
  rw [tagParts, tagParts, String.toList_ofList, String.toList_ofList, h]

theorem tagParts_of_parts {rest : List (List Char)} (h : parts s = p :: rest) :
    tagParts (String.ofList s) = String.ofList (Text.lower p) :: rest.map (String.ofList ∘ region) := by
  rw [tagParts, String.toList_ofList, h]

/-- A part may be replaced by one that is the same in small letters, and as a region if it is not the first one. -/
theorem tagParts_replace {before after : List (List Char)} (hs : parts s = before ++ p :: after)
    (ht : parts t = before ++ q :: after) (hlower : Text.lower p = Text.lower q)
    (hregion : before ≠ [] → region p = region q) :
    tagParts (String.ofList s) = tagParts (String.ofList t) := by
  cases before with
  | nil => rw [tagParts_of_parts hs, tagParts_of_parts ht, hlower]
  | cons first before =>
    rw [tagParts_of_parts hs, tagParts_of_parts ht]
    simp [hregion (List.cons_ne_nil _ _)]

/-- No step changes the tag. -/
theorem Respells.tagParts_eq (h : Respells s t) : tagParts (String.ofList s) = tagParts (String.ofList t) := by
  cases h with
  | separator u v ha hb =>
    apply tagParts_congr
    rw [parts_append_cons ha, parts_append_cons hb]
  | repeated u v ha hb =>
    apply tagParts_congr
    rw [parts_append_cons ha, parts_append_cons hb, parts_cons hb]
  | leading v ha => exact tagParts_congr (parts_cons ha t)
  | trailing u ha =>
    apply tagParts_congr
    rw [parts_append_cons ha, parts_nil, List.append_nil]
  | @language gap p q v hgap hsame hv =>
    obtain ⟨hp, hq⟩ := List.forall_mem_append.1 hsame.words
    by_cases hne : p = []
    · have hne' : q = [] := by
        rw [← List.length_eq_zero_iff, ← hsame.length_eq, hne, List.length_nil]
      rw [hne, hne']
    · have hne' : q ≠ [] := by
        intro hq
        rw [← List.length_eq_zero_iff, ← hsame.length_eq, List.length_eq_zero_iff] at hq
        exact hne hq
      -- the language is the first part in both spellings, and is compared in small letters
      have hparts : ∀ {w : List Char}, w ≠ [] → IsWord w → parts (gap ++ w ++ v) = [] ++ w :: parts v := by
        intro w hw hword
        rw [List.append_assoc, parts_gap hgap, parts_word hw hword hv, List.nil_append]
        intro c hc
        obtain ⟨d, w, rfl⟩ := List.exists_cons_of_ne_nil hw
        exact hword c (by simp_all)
      exact tagParts_replace (hparts hne hp) (hparts hne' hq) hsame.lower_eq fun h => absurd rfl h
  | @region a p q v u ha hlength hsame hv =>
    obtain ⟨hp, hq⟩ := List.forall_mem_append.1 hsame.words
    -- a region stands behind another part, and is compared in capitals
    have hparts : ∀ {w : List Char}, w.length = 2 → IsWord w → parts (u ++ a :: w ++ v) = parts u ++ w :: parts v := by
      intro w hw hword
      have hne : w ≠ [] := List.ne_nil_of_length_pos (by omega)
      rw [List.append_assoc, List.cons_append, parts_append_cons ha, parts_word hne hword hv]
    exact tagParts_replace (hparts hlength hp) (hparts (hsame.length_eq ▸ hlength) hq) hsame.lower_eq
      fun _ => hsame.region_eq hlength

theorem Respelled.tagParts_eq (h : Respelled s t) : tagParts (String.ofList s) = tagParts (String.ofList t) := by
  induction h with
  | rel s t h => exact h.tagParts_eq
  | refl s => rfl
  | symm s t _ ih => exact ih.symm
  | trans s t u _ _ ih₁ ih₂ => exact ih₁.trans ih₂

theorem tag?_congr {s t : String} (h : tagParts s = tagParts t) : tag? s = tag? t := by
  rw [tag?, tag?, h]

/-! ## Tags as spellings -/

/-- A way of writing single characters that keeps all but the case of letters gives a word with the same letters. -/
theorem sameLetters_map {f : Char → Char} (hf : ∀ n < 128, (f (Char.ofNat n)).toNat < 128 ∧
      isSeparator (f (Char.ofNat n)) = isSeparator (Char.ofNat n) ∧ (f (Char.ofNat n)).toLower = (Char.ofNat n).toLower)
    (hascii : ∀ c ∈ p, c.toNat < 128) (hp : IsWord p) : SameLetters p (p.map f) := by
  have hchar : ∀ c ∈ p, (f c).toNat < 128 ∧ isSeparator (f c) = isSeparator c ∧ (f c).toLower = c.toLower := by
    intro c hc
    exact Text.forall_ascii (P := fun c => (f c).toNat < 128 ∧ isSeparator (f c) = isSeparator c ∧
      (f c).toLower = c.toLower) hf (hascii c hc)
  constructor
  case ascii =>
    rw [List.forall_mem_append, List.forall_mem_map]
    exact ⟨hascii, fun c hc => (hchar c hc).1⟩
  case words =>
    rw [IsWord, List.forall_mem_append, List.forall_mem_map]
    exact ⟨hp, fun c hc => by rw [(hchar c hc).2.1, hp c hc]⟩
  case letters =>
    rw [List.map_map, List.map_inj_left]
    exact fun c hc => (hchar c hc).2.2.symm

theorem sameLetters_lower (hascii : ∀ c ∈ p, c.toNat < 128) (hp : IsWord p) : SameLetters p (Text.lower p) := by
  rw [Text.lower_of_ascii hascii]
  exact sameLetters_map (by decide +kernel) hascii hp

theorem sameLetters_upper (hascii : ∀ c ∈ p, c.toNat < 128) (hp : IsWord p) : SameLetters p (Text.upper p) := by
  rw [Text.upper_of_ascii hascii]
  exact sameLetters_map (by decide +kernel) hascii hp

theorem Respells.respelled (h : Respells s t) : Respelled s t :=
  .rel s t h

/-- In front of what ends a part there may be a hyphen. -/
theorem respelled_hyphen (u : List Char) (hv : Ends v) : Respelled (u ++ v) (u ++ '-' :: v) := by
  cases v with
  | nil =>
    rw [List.append_nil]
    exact .symm _ _ (Respells.trailing u rfl).respelled
  | cons a v => exact .symm _ _ (Respells.repeated u v rfl (hv a rfl)).respelled

/-- Behind a hyphen, all parts may be written as in a tag. -/
theorem respelled_regions (hs : ∀ c ∈ s, c.toNat < 128) (u : List Char) :
    Respelled (u ++ '-' :: s) (u ++ (parts s).flatMap fun p => '-' :: region p) := by
  -- The parts that have been rewritten become a part of what stands in front.
  induction s using Locale.induction generalizing u with
  | nil =>
    rw [parts_nil, List.flatMap_nil, List.append_nil]
    exact (Respells.trailing u rfl).respelled
  | separator a s ha ih =>
    rw [parts_cons ha]
    have honce : Respelled (u ++ '-' :: a :: s) (u ++ a :: s) := (Respells.repeated u s rfl ha).respelled
    have hhyphen : Respelled (u ++ a :: s) (u ++ '-' :: s) := (Respells.separator u s ha rfl).respelled
    exact .trans _ _ _ honce (.trans _ _ _ hhyphen (ih (List.forall_mem_cons.1 hs).2 u))
  | word p s hne hp hends ih =>
    obtain ⟨hascii, hs⟩ := List.forall_mem_append.1 hs
    rw [parts_word hne hp hends, List.flatMap_cons, ← List.append_assoc]
    have hregion : Respelled (u ++ '-' :: p ++ s) (u ++ '-' :: region p ++ s) := by
      unfold region
      split
      · next hlength =>
        exact (Respells.region u rfl (beq_iff_eq.1 hlength) (sameLetters_upper hascii hp) hends).respelled
      · exact .refl _
    rw [List.append_assoc, List.cons_append] at hregion
    refine .trans _ _ _ hregion (.trans _ _ _ ?_ (ih hs (u ++ '-' :: region p)))
    exact respelled_hyphen _ hends

theorem toList_intercalate (language : List Char) (rest : List (List Char)) :
    ("-".intercalate (String.ofList language :: rest.map (String.ofList ∘ region))).toList =
      language ++ rest.flatMap fun p => '-' :: region p := by
  induction rest generalizing language with
  | nil => simp
  | cons p rest ih =>
    rw [List.map_cons, String.intercalate_cons_cons, String.toList_append, String.toList_append, Function.comp_apply,
      ih]
    simp

/-- The tag of a locale is a spelling of it; a locale without a tag is as good as none. -/
theorem respelled_tag (hs : ∀ c ∈ s, c.toNat < 128) : Respelled s ((tag? (String.ofList s)).getD "").toList := by
  induction s using Locale.induction with
  | nil => exact .refl _
  | separator a s ha ih =>
    rw [tag?_congr (tagParts_congr (parts_cons ha s))]
    exact .trans _ _ _ (Respells.leading s ha).respelled (ih (List.forall_mem_cons.1 hs).2)
  | word p s hne hp hends _ =>
    obtain ⟨hascii, hs⟩ := List.forall_mem_append.1 hs
    have htag : tag? (String.ofList (p ++ s)) =
        some ("-".intercalate (String.ofList (Text.lower p) :: (parts s).map (String.ofList ∘ region))) := by
      rw [tag?, tagParts_of_parts (parts_word hne hp hends)]
    have hlanguage : Respelled (p ++ s) (Text.lower p ++ s) :=
      (Respells.language (List.forall_mem_nil _) (sameLetters_lower hascii hp) hends).respelled
    rw [htag, Option.getD_some, toList_intercalate]
    exact .trans _ _ _ hlanguage (.trans _ _ _ (respelled_hyphen _ hends) (respelled_regions hs _))

/-- Two locales have the same tag if they are spellings of one locale. -/
theorem Respelled.tag?_eq {s t : String} (h : Respelled s.toList t.toList) : tag? s = tag? t := by
  have hparts := h.tagParts_eq
  rw [String.ofList_toList, String.ofList_toList] at hparts
  exact tag?_congr hparts

/-- Two locales are spellings of one locale if they have the same tag. -/
theorem respelled_of_tag?_eq {s t : String} (hs : ∀ c ∈ s.toList, c.toNat < 128) (ht : ∀ c ∈ t.toList, c.toNat < 128)
    (h : tag? s = tag? t) : Respelled s.toList t.toList := by
  have hs := respelled_tag hs
  have ht := respelled_tag ht
  rw [String.ofList_toList] at hs ht
  rw [← h] at ht
  exact .trans _ _ _ hs (.symm _ _ ht)

/-- Messages for locales with one tag are looked for in the same places. -/
theorem candidates_congr {s t : String} (h : tag? s = tag? t) : candidates (some s) = candidates (some t) := by
  rw [candidates, candidates, Option.bind_some, Option.bind_some, h]

theorem isEmpty_of_tag? {s tag : String} (h : tag? s = some tag) : s.isEmpty = false := by
  rw [← Bool.not_eq_true, String.isEmpty_iff]
  rintro rfl
  cases h

end Locale

/-- A library looks for the same messages for locales with one tag. -/
theorem Library.resolveOr_congr {s t tag : String} (hs : Locale.tag? s = some tag) (ht : Locale.tag? t = some tag)
    (key : String) (default? : Option String) : resolveOr key (some s) default? = resolveOr key (some t) default? := by
  have hsome : ∀ {r : String}, Locale.tag? r = some tag → nonEmpty (some r) = some r := by
    intro r hr
    simp [nonEmpty, Locale.isEmpty_of_tag? hr]
  have hresolve : resolve key (some s) = resolve key (some t) := by
    funext l
    have hplaces : Locale.candidates (some s <|> l.defaultLocale?) = Locale.candidates (some t <|> l.defaultLocale?) :=
      Locale.candidates_congr (hs.trans ht.symm)
    unfold resolve
    rw [hsome hs, hsome ht]
    dsimp only
    rw [hplaces]
  rw [resolveOr, resolveOr, hresolve]

namespace Locale

/-- **The spelling of a locale does not matter.** A tag is its own tag. Spellings of one locale, which differ in their
separators, in the case of the first part and in that of later parts of two letters, have one tag and one list of
places where messages are looked for; no other locales have the same tag. For a locale that has a tag, any library
finds the same text as for that tag, fails in the same way, and has read the same catalogs afterwards. -/
theorem tag?_spellings {s : String} (hs : ∀ c ∈ s.toList, c.toNat < 128) :
    (tag? s).bind tag? = tag? s ∧
    (∀ t : String, Respelled s.toList t.toList → tag? s = tag? t ∧ candidates (some s) = candidates (some t)) ∧
    (∀ t : String, (∀ c ∈ t.toList, c.toNat < 128) → tag? s = tag? t → Respelled s.toList t.toList) ∧
    ∀ tag, tag? s = some tag → ∀ key default?,
      Library.resolveOr key (some s) default? = Library.resolveOr key (some tag) default? := by
  have hidempotent : ∀ tag, tag? s = some tag → tag? tag = some tag := by
    intro tag htag
    have hspelling := respelled_tag hs
    rw [String.ofList_toList, htag, Option.getD_some] at hspelling
    rw [← hspelling.tag?_eq, htag]
  refine ⟨?_, fun t h => ⟨h.tag?_eq, candidates_congr h.tag?_eq⟩, fun t ht => respelled_of_tag?_eq hs ht, ?_⟩
  · cases htag : tag? s with
    | none => rfl
    | some tag => exact hidempotent tag htag
  · intro tag htag key default?
    exact Library.resolveOr_congr htag (hidempotent tag htag) key default?

/-- Taiwan is spelled in two ways. -/
theorem tag?_spellings_taiwan :
    Respelled "_zh__tW-".toList "ZH-tw".toList ∧ candidates (some "_zh__tW-") = candidates (some "ZH-tw") ∧
      Library.resolveOr "greeting" (some "_zh__tW-") none = Library.resolveOr "greeting" (some "zh-TW") none := by
  have hascii : ∀ w : String, (w.toList.all fun c => c.toNat < 128) = true → ∀ c ∈ w.toList, c.toNat < 128 := by
    intro w hw c hc
    simpa using List.all_eq_true.1 hw c hc
  have htag : tag? "_zh__tW-" = some "zh-TW" := by decide +kernel
  have htag' : tag? "ZH-tw" = some "zh-TW" := by decide +kernel
  obtain ⟨-, hagree, hspelled, hresolve⟩ := tag?_spellings (hascii "_zh__tW-" rfl)
  have hrespelled := hspelled "ZH-tw" (hascii _ rfl) (htag.trans htag'.symm)
  exact ⟨hrespelled, (hagree "ZH-tw" hrespelled).2, hresolve "zh-TW" htag "greeting" none⟩

end Locale

end FieldRules
