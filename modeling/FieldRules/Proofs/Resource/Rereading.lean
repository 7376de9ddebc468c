import FieldRules.Proofs.Resource.Keeping
import FieldRules.Proofs.Text.Lines

/-!
# Texts that are read again

A text from the network is given as it has come the first time, and as it is read from its file from then on. What
has been called in between makes no difference to that (`Kept`, with one lemma for a call more), as long as nobody
goes to the same directory on another path. Files are read with all ends of lines alike, so that the text has become
another one exactly if it came with a carriage return (`Store.fetch_again`).
-/

namespace FieldRules

open Cache

namespace Store

variable {s t : Store} {f g : Fetcher} {c c' : Call} {uri u : String} {content : Content}

/-! ## Directories that are added -/

/-- The directories and files of one store are there in another one at the same place. -/
structure Grows (s t : Store) : Prop where
  place : t.place = s.place
  directories : s.directories ⊆ t.directories
  paths : s.files.map Prod.fst ⊆ t.files.map Prod.fst

theorem Grows.isDirectory (h : s.Grows t) {names : List String} (hnames : s.isDirectory names = true) :
    t.isDirectory names = true := by
  unfold Store.isDirectory at hnames ⊢
  simp only [Bool.or_eq_true, List.contains_iff_mem, List.any_eq_true] at hnames ⊢
  rcases hnames with (hplace | hmade) | ⟨e, he, hinside⟩
  · exact .inl (.inl (by rwa [h.place]))
  · exact .inl (.inr (h.directories hmade))
  · obtain ⟨e', he', hsame⟩ := List.mem_map.1 (h.paths (List.mem_map_of_mem he))
    exact .inr ⟨e', he', by rwa [hsame]⟩

/-- A path leads where it has led before. -/
theorem Grows.walk? (h : s.Grows t) {here names found : List String} (hfound : s.walk? here names = some found) :
    t.walk? here names = some found := by
  induction names generalizing here with
  | nil => exact hfound
  | cons name rest ih =>
    rw [Store.walk?] at hfound ⊢
    by_cases hhere : s.isDirectory here = true
    · rw [hhere] at hfound
      rw [h.isDirectory hhere]
      by_cases hname : (name == "..") = true
      · rw [hname] at hfound ⊢
        exact ih hfound
      · rw [eq_false_of_ne_true hname] at hfound ⊢
        exact ih hfound
    · rw [eq_false_of_ne_true hhere] at hfound
      cases hfound

theorem lookup_putContent (names other : List String) (files : List (List String × Content)) :
    (putContent names content files).lookup other = if other = names then some content else files.lookup other := by
  induction files with
  | nil =>
    rw [putContent, List.lookup_cons]
    by_cases h : other = names
    · rw [if_pos h, beq_iff_eq.2 h]
    · rw [if_neg h, beq_eq_false_iff_ne.2 h]
  | cons e rest ih =>
    obtain ⟨n, d⟩ := e
    rw [putContent]
    by_cases hn : n = names
    · subst hn
      rw [if_pos (beq_self_eq_true n), List.lookup_cons, List.lookup_cons]
      by_cases h : other = n
      · rw [if_pos h, beq_iff_eq.2 h]
      · rw [if_neg h, beq_eq_false_iff_ne.2 h]
    · rw [if_neg (fun h => hn (beq_iff_eq.1 h)), List.lookup_cons, List.lookup_cons]
      by_cases h : other = n
      · rw [beq_iff_eq.2 h, if_neg (fun hname => hn (h.symm.trans hname))]
      · rw [beq_eq_false_iff_ne.2 h, ih]

theorem map_fst_subset_putContent (names : List String) (files : List (List String × Content)) :
    files.map Prod.fst ⊆ (putContent names content files).map Prod.fst := by
  induction files with
  | nil => exact List.nil_subset _
  | cons e rest ih =>
    obtain ⟨n, d⟩ := e
    rw [putContent]
    split
    · exact List.Subset.refl _
    · exact List.cons_subset_cons n ih

theorem grows_write (p : Path) (content : Content) : s.Grows (s.write p content) where
  place := rfl
  directories := List.subset_append_left ..
  paths := map_fst_subset_putContent ..

/-! ## Files that are written -/

/-- A file can be read again where it has been written. -/
theorem file?_write_self : (s.write (keptPath f uri) content).file? (keptPath f uri) = some content := by
  refine file?_of_lookup ?_ (reachable_write content)
  show (putContent (Path.resolveParts (s.place.join (keptPath f uri)).parts) content s.files).lookup _ = _
  rw [resolveParts_keptPath, lookup_putContent]
  exact if_pos rfl

/-- Other files stay what they are. -/
theorem file?_write_of_ne {p q : Path} {old : Content} (h : s.file? p = some old)
    (hne : Path.resolveParts (s.place.join p).parts ≠ Path.resolveParts (s.place.join q).parts) :
    (s.write q content).file? p = some old := by
  rw [file?, Option.bind_eq_some_iff] at h ⊢
  obtain ⟨names, hwalk, hlookup⟩ := h
  have hnames : names = Path.resolveParts (s.place.join p).parts := eq_of_walk?_eq_some [] hwalk
  refine ⟨names, (grows_write q content).walk? hwalk, ?_⟩
  show (putContent (Path.resolveParts (s.place.join q).parts) content s.files).lookup names = _
  rw [lookup_putContent, if_neg (hnames ▸ hne), hlookup]

/-! ## Calls in between -/

/-- Where a fetcher keeps texts in the same directory as another one, it goes there on the same path. -/
def SameWay (place : Path) (f g : Fetcher) : Prop :=
  Path.resolveParts (keepParts place g) = Path.resolveParts (keepParts place f) → g.cache = f.cache

theorem sameWay_of_cache_eq (place : Path) (h : g.cache = f.cache) : SameWay place f g := fun _ => h

theorem keptPath_congr (h : g.cache = f.cache) (uri : String) : keptPath g uri = keptPath f uri := by
  rw [keptPath, keptPath, h]

/-- For a URI there is a file from which its text is read. -/
structure Kept (place : Path) (f : Fetcher) (uri : String) (content : Content) (s : Store) : Prop where
  place : s.place = place
  file : s.file? (keptPath f uri) = some content

section Kept
variable {place : Path}

theorem Kept.of_files (h : Kept place f uri content s) (hplace : t.place = s.place) (hfiles : t.files = s.files)
    (hdirectories : t.directories = s.directories) : Kept place f uri content t where
  place := hplace.trans h.place
  file := (file?_congr hplace hfiles hdirectories _).trans h.file

/-- A fetcher writes the text for a URI into another file, unless it finds one to read. -/
theorem Kept.write {text : Content} (h : Kept place f uri content s) (hway : SameWay place f g)
    (hnone : s.file? (keptPath g u) = none) : Kept place f uri content (s.write (keptPath g u) text) where
  place := h.place
  file := by
    refine file?_write_of_ne h.file fun hsame => ?_
    rw [resolveParts_keptPath, resolveParts_keptPath, h.place] at hsame
    -- If both files were one, there would be something to read for this URI as well.
    obtain ⟨hdirectory, hname⟩ := List.append_inj' hsame rfl
    have hpath : keptPath g u = keptPath f uri := by
      rw [keptPath_congr (hway hdirectory.symm), keptPath, keptPath, List.singleton_inj.1 hname]
    rw [hpath, h.file] at hnone
    cases hnone

theorem keeps_fetchRemote (hway : SameWay place f g) (u : String) :
    Run.Keeps (Kept place f uri content) (fetchRemote g u) := by
  intro s h
  cases hkept : s.file? (keptPath g u) with
  | some _ =>
    rw [fetchRemote_kept hkept]
    exact h
  | none =>
    have hasked : Kept place f uri content { s with requested := s.requested ++ [u] } := h.of_files rfl rfl rfl
    rw [fetchRemote_asked hkept, Run.bind_eq, request_eq]
    cases outcome u ((s.network.lookup u).getD (.failure "unreachable")) with
    | error e => exact hasked
    | ok text? =>
      cases text? with
      | none => exact hasked
      | some text =>
        exact hasked.write hway ((file?_congr (t := { s with requested := s.requested ++ [u] }) (s := s)
          rfl rfl rfl _).trans hkept)

/-- Only texts from the network are written. -/
theorem keeps_fetch (hway : SameWay place f g) (u : String) : Run.Keeps (Kept place f uri content) (fetch g u) := by
  have hread (p : Path) : Run.Keeps (Kept place f uri content) (readFile p) := fun _ h => h
  have hthrow (e : Error) : Run.Keeps (Kept place f uri content) (throw e : Run (Option Content)) := fun _ h => h
  unfold fetch
  cases Uri.split u.toList with
  | error p => exact hthrow _
  | ok split =>
    dsimp only
    by_cases hlength : split.scheme.length ≤ 1
    · rw [if_pos hlength]
      exact hread _
    · rw [if_neg hlength]
      split
      · exact hread _
      · exact keeps_fetchRemote hway u
      · exact keeps_fetchRemote hway u
      · exact hthrow _

theorem keeps_fetchCall (hway : SameWay place f g) (c : Call) :
    Run.Keeps (Kept place f uri content) (fetchCall g c) :=
  .bind (fun _ h => h.of_files rfl rfl rfl) fun _ => keeps_fetch hway c.uri

end Kept

/-- A call with the fetcher that makes it. -/
structure Visit where
  fetcher : Fetcher
  call : Call

/-- The store after a row of visits. -/
def afterVisits (visits : List Visit) (s : Store) : Store :=
  visits.foldl (fun s v => (fetchCall v.fetcher v.call s).2) s

section Again
variable {visits : List Visit}

theorem Kept.afterVisits {place : Path} (h : Kept place f uri content s)
    (hways : ∀ v ∈ visits, SameWay place f v.fetcher) : Kept place f uri content (afterVisits visits s) := by
  induction visits generalizing s with
  | nil => exact h
  | cons v visits ih =>
    rw [List.forall_mem_cons] at hways
    exact ih (keeps_fetchCall hways.1 v.call s h) hways.2

/-! ## The first call and the later ones -/

theorem readContent_text_eq_iff {text : String} : readContent (.text text) = .text text ↔ '\r' ∉ text.toList := by
  unfold readContent
  rw [Content.text.injEq, ← Text.unifyLines_eq_self_iff, ← String.toList_inj, String.toList_ofList]

/-- What has been read from a file is read again as it is. -/
theorem readContent_readContent (content : Content) : readContent (readContent content) = readContent content := by
  cases content with
  | text s =>
    rw [show readContent (.text s) = .text (String.ofList (Text.unifyLines s.toList)) from rfl,
      readContent_text_eq_iff, String.toList_ofList]
    exact Text.not_mem_unifyLines _
  | document v => rfl

/-- Where a first call comes to its text from: a file that is read, or the network, which fills such a file. -/
inductive Obtained (f : Fetcher) (c : Call) (s : Store) (content : Content) (s₁ : Store) : Prop
  | read (held : Content) : s.file? (keptPath f c.uri) = some held → content = readContent held →
      Kept s.place f c.uri held s₁ → Obtained f c s content s₁
  | asked (text : String) : s.file? (keptPath f c.uri) = none → c.reply.text? = some text → content = .text text →
      Kept s.place f c.uri content s₁ → Obtained f c s content s₁

theorem obtained_fetchCall {s₁ : Store} (hremote : isRemote c.uri = true)
    (hfirst : fetchCall f c s = (.ok (some content), s₁)) : Obtained f c s content s₁ := by
  cases hheld : s.file? (keptPath f c.uri) with
  | some held =>
    rw [fetchCall_kept hremote hheld] at hfirst
    cases hfirst
    exact .read held hheld rfl (Kept.of_files ⟨rfl, hheld⟩ rfl rfl rfl)
  | none =>
    rw [fetchCall_asked hremote hheld] at hfirst
    obtain ⟨houtcome, rfl⟩ := Prod.mk.inj hfirst
    cases hreply : outcome c.uri c.reply with
    | error e =>
      rw [hreply] at houtcome
      cases houtcome
    | ok text? =>
      rw [hreply] at houtcome
      cases text? with
      | none => cases houtcome
      | some text =>
        cases houtcome
        have htext := outcome_eq_ok_some.1 hreply
        refine .asked text hheld htext rfl ⟨place_answered, ?_⟩
        rw [answered, htext]
        exact file?_write_self

/-- A later call gives what a file is read as. -/
theorem Kept.fetchCall_fst {place : Path} (h : Kept place f uri content s) (hremote : isRemote uri = true)
    (huri : c.uri = uri) (hcache : g.cache = f.cache) : (fetchCall g c s).1 = .ok (some (readContent content)) := by
  subst huri
  rw [fetchCall_kept hremote ((congrArg s.file? (keptPath_congr hcache c.uri)).trans h.file)]

/-- **A text is read again as it was, but for its ends of lines.** After a call that has given a content, and after
whatever has been called for since, a call for the same URI gives that content with all ends of lines alike. It is
another one exactly if it was the network that gave it, with a carriage return in it. -/
theorem fetch_again {s₁ : Store} (hremote : isRemote c.uri = true)
    (hfirst : fetchCall f c s = (.ok (some content), s₁)) (hways : ∀ v ∈ visits, SameWay s.place f v.fetcher)
    (huri : c'.uri = c.uri) (hcache : g.cache = f.cache) :
    (fetchCall g c' (afterVisits visits s₁)).1 = .ok (some (readContent content)) ∧
      ((fetchCall g c' (afterVisits visits s₁)).1 ≠ .ok (some content) ↔
        s.file? (keptPath f c.uri) = none ∧ ∃ text, c.reply.text? = some text ∧ '\r' ∈ text.toList) := by
  have hlater {held : Content} (h : Kept s.place f c.uri held s₁) :
      (fetchCall g c' (afterVisits visits s₁)).1 = .ok (some (readContent held)) :=
    (h.afterVisits hways).fetchCall_fst hremote huri hcache
  cases obtained_fetchCall hremote hfirst with
  | read held hheld hcontent hkept =>
    subst hcontent
    rw [hlater hkept, readContent_readContent, hheld]
    exact ⟨rfl, iff_of_false (fun h => h rfl) (fun h => nomatch h.1)⟩
  | asked text hnone htext hcontent hkept =>
    subst hcontent
    rw [hlater hkept, hnone, htext]
    refine ⟨rfl, ?_⟩
    rw [Ne, Except.ok.injEq, Option.some.injEq, readContent_text_eq_iff, not_not]
    simp

/-- A text is called for before and after another URI, and its line ends in another way the second time. -/
theorem fetch_again_notes :
    (fetchCall { cache := { parts := ["cache"] } } { uri := "http://h/a", reply := .failure "gone" }
        (afterVisits
          [{ fetcher := { cache := { parts := ["cache"] } },
             call := { uri := "http://h/b", reply := .response 404 "Not Found" "" } }]
          (answered { cache := { parts := ["cache"] } }
            { uri := "http://h/a", reply := .response 200 "OK" "one\r\n" } {}))).1
      = .ok (some (readContent (.text "one\r\n"))) := by
  have hremote : isRemote "http://h/a" = true := by decide +kernel
  refine And.left (fetch_again (c := { uri := "http://h/a", reply := .response 200 "OK" "one\r\n" }) (s := {}) hremote
    (fetchCall_asked hremote (file?_of_lookup_eq_none rfl)) ?_ rfl rfl)
  rw [List.forall_mem_singleton]
  exact sameWay_of_cache_eq _ rfl

/-- A text that came with a carriage return is given without it when it is asked for again. -/
theorem fetch_drops_return :
    (fetchCall { cache := { parts := ["cache"] } }
        { uri := "http://h/a", reply := .response 200 "OK" "one\r\ntwo" } {}).1 = .ok (some (.text "one\r\ntwo")) ∧
      (fetchCall { cache := { parts := ["cache"] } }
        { uri := "http://h/a", reply := .response 200 "OK" "one\r\ntwo" }
        (fetchCall { cache := { parts := ["cache"] } }
          { uri := "http://h/a", reply := .response 200 "OK" "one\r\ntwo" } {}).2).1
        = .ok (some (.text "one\ntwo")) := by
  have hremote : isRemote "http://h/a" = true := by decide +kernel
  have hfirst := fetchCall_asked (f := { cache := { parts := ["cache"] } }) (s := {})
    (c := { uri := "http://h/a", reply := .response 200 "OK" "one\r\ntwo" }) hremote (file?_of_lookup_eq_none rfl)
  rw [hfirst]
  refine ⟨rfl, ?_⟩
  have hkept : Kept { start := "/" } { cache := { parts := ["cache"] } } "http://h/a" (.text "one\r\ntwo")
      (answered { cache := { parts := ["cache"] } }
        { uri := "http://h/a", reply := .response 200 "OK" "one\r\ntwo" } {}) :=
    ⟨place_answered, file?_write_self⟩
  rw [hkept.fetchCall_fst hremote rfl rfl]
  rfl

end Again

end Store

end FieldRules
