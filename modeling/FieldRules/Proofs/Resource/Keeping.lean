import FieldRules.Proofs.Run
import FieldRules.Proofs.Text.Escape
import FieldRules.Resource.Store
import Mathlib.Data.List.Induction

/-!
# Texts that are kept from the network

A history of calls for URIs, each with the reply that the network would give to it: `Store.fetch_serves` says what
a call gives after such a history, whether the network is asked, and what becomes of the files. Only the first
text that was got for the same URI counts (`firstText`).

* `walk?_of_directories`: a path leads where its names say if there are the directories on the way to it;
* `digest_eq_of_cacheName_eq`: URIs with different digests are kept under different names;
* `Remembers`: what the files hold after a history, with one lemma for a call more.
-/

namespace FieldRules

open Cache

/-! ## Paths -/

namespace Path

theorem resolveParts_concat (parts : List String) (name : String) :
    resolveParts (parts ++ [name])
      = if name = ".." then (resolveParts parts).dropLast else resolveParts parts ++ [name] := by
  unfold resolveParts
  rw [List.foldl_append, List.foldl_cons, List.foldl_nil]
  by_cases hname : name = ".."
  · rw [if_pos hname, if_pos (beq_iff_eq.2 hname), List.drop_one, List.dropLast_reverse]
  · rw [if_neg hname, if_neg (fun h => hname (beq_iff_eq.1 h)), List.reverse_cons]

end Path

namespace Store

section Walk
variable {s : Store}

/-- Where there are the directories on the way, the names lead where they say. -/
theorem walk?_of_directories (before after : List String)
    (h : ∀ n, before.length ≤ n → n < (before ++ after).length →
      s.isDirectory (Path.resolveParts ((before ++ after).take n)) = true) :
    s.walk? (Path.resolveParts before) after = some (Path.resolveParts (before ++ after)) := by
  induction after generalizing before with
  | nil => rw [walk?, List.append_nil]
  | cons name rest ih =>
    have hhere : s.isDirectory (Path.resolveParts before) = true := by
      have hdirectory := h before.length (Nat.le_refl _) (by simp)
      rwa [List.take_left] at hdirectory
    have hrest := ih (before ++ [name]) (by
      intro n hn hlt
      rw [List.append_assoc] at hlt ⊢
      exact h n (by simp at hn; omega) hlt)
    rw [List.append_assoc, List.singleton_append] at hrest
    rw [walk?, hhere, ← hrest, Path.resolveParts_concat]
    by_cases hname : name = ".." <;> simp [hname]

/-- The names lead nowhere, or where they say. -/
theorem eq_of_walk?_eq_some (before : List String) {after names : List String}
    (h : s.walk? (Path.resolveParts before) after = some names) :
    names = Path.resolveParts (before ++ after) := by
  induction after generalizing before with
  | nil =>
    rw [walk?] at h
    cases h
    rw [List.append_nil]
  | cons name rest ih =>
    rw [walk?] at h
    split at h
    · cases h
    · have hstep : s.walk? (Path.resolveParts (before ++ [name])) rest = some names := by
        rw [Path.resolveParts_concat]
        by_cases hname : name = ".." <;> simpa [hname] using h
      rw [ih _ hstep, List.append_assoc, List.singleton_append]

/-- Where a path leads depends on the directories alone. -/
theorem walk?_congr {t : Store} (h : t.isDirectory = s.isDirectory) (here names : List String) :
    t.walk? here names = s.walk? here names := by
  induction names generalizing here with
  | nil => rfl
  | cons name rest ih => rw [walk?, walk?, h, ih, ih]

theorem file?_congr {t : Store} (hplace : t.place = s.place) (hfiles : t.files = s.files)
    (hdirectories : t.directories = s.directories) (p : Path) : t.file? p = s.file? p := by
  have hsame : t.isDirectory = s.isDirectory := by
    funext names
    rw [isDirectory, isDirectory, hplace, hfiles, hdirectories]
  rw [file?, file?, walk?_congr hsame, hplace, hfiles]

theorem file?_network (network : List (String × Reply)) (p : Path) :
    ({ s with network } : Store).file? p = s.file? p :=
  file?_congr (s := s) (t := { s with network }) rfl rfl rfl p

end Walk

/-! ## Where texts are kept -/

theorem flatMap_hexDigits_injective {as bs : List UInt8}
    (h : as.flatMap (fun b => Text.hexDigits 2 b.toNat) = bs.flatMap fun b => Text.hexDigits 2 b.toNat) :
    as = bs := by
  have htake (b : UInt8) (rest : List Char) :
      Text.takeHex 2 0 (Text.hexDigits 2 b.toNat ++ rest) = some (b.toNat, rest) :=
    Text.takeHex_all 2 b.toNat_lt rest
  induction as generalizing bs with
  | nil =>
    cases bs with
    | nil => rfl
    | cons b bs => cases h
  | cons a as ih =>
    cases bs with
    | nil => cases h
    | cons b bs =>
      rw [List.flatMap_cons, List.flatMap_cons] at h
      have hfirst := congrArg (Text.takeHex 2 0) h
      rw [htake, htake, Option.some.injEq, Prod.mk.injEq] at hfirst
      rw [UInt8.toNat_inj.1 hfirst.1, ih hfirst.2]

/-- URIs that are kept under the same name have the same digest. -/
theorem digest_eq_of_cacheName_eq {u v : String} (h : cacheName u = cacheName v) :
    Digest.digest u.toUTF8.toList = Digest.digest v.toUTF8.toList := by
  refine flatMap_hexDigits_injective ?_
  unfold cacheName at h
  rw [String.append_right_inj] at h
  simpa using congrArg String.toList h

theorem cacheName_ne_dots (u : String) : cacheName u ≠ ".." := by
  intro h
  have hhead := congrArg (fun s : String => s.toList.head?) h
  simp [cacheName] at hhead

/-- The path under which the text for a URI is kept. -/
def keptPath (f : Fetcher) (uri : String) : Path :=
  f.cache.join { parts := [cacheName uri] }

/-- The names of the directory in which texts are kept, as they are written. -/
def keepParts (place : Path) (f : Fetcher) : List String :=
  (place.join f.cache).parts

/-- The names from the root under which the text for a URI is kept. -/
def keptAt (place : Path) (f : Fetcher) (uri : String) : List String :=
  Path.resolveParts (keepParts place f) ++ [cacheName uri]

section Kept
variable {place : Path} {s : Store} {f : Fetcher} {u v uri : String}

theorem join_keptPath : (place.join (keptPath f uri)).parts = keepParts place f ++ [cacheName uri] := by
  unfold keptPath keepParts Path.join Path.isAbsolute
  by_cases h : f.cache.start = "" <;> simp [h]

theorem resolveParts_keptPath :
    Path.resolveParts (place.join (keptPath f uri)).parts = keptAt place f uri := by
  rw [join_keptPath, Path.resolveParts_concat, if_neg (cacheName_ne_dots uri), keptAt]

theorem keptAt_injective (h : keptAt place f u = keptAt place f v) :
    Digest.digest u.toUTF8.toList = Digest.digest v.toUTF8.toList :=
  digest_eq_of_cacheName_eq (List.singleton_inj.1 (List.append_cancel_left h))

/-- There are the directories on the way to kept texts. -/
def Reachable (s : Store) (f : Fetcher) : Prop :=
  ∀ n, n < (keepParts s.place f).length + 1 →
    s.isDirectory (Path.resolveParts ((keepParts s.place f).take n)) = true

theorem file?_of_lookup {c : Content} (h : s.files.lookup (keptAt s.place f uri) = some c)
    (hreach : s.Reachable f) : s.file? (keptPath f uri) = some c := by
  have hwalk := walk?_of_directories (s := s) [] (keepParts s.place f ++ [cacheName uri]) (by
    intro n _ hn
    rw [List.nil_append] at hn ⊢
    rw [List.length_append, List.length_singleton] at hn
    rw [List.take_append_of_le_length (Nat.le_of_lt_succ hn)]
    exact hreach n hn)
  rw [List.nil_append, ← join_keptPath, resolveParts_keptPath] at hwalk
  rw [file?, show ([] : List String) = Path.resolveParts [] from rfl, hwalk, Option.bind_some, h]

theorem file?_of_lookup_eq_none (h : s.files.lookup (keptAt s.place f uri) = none) :
    s.file? (keptPath f uri) = none := by
  rw [file?, Option.bind_eq_none_iff]
  intro names hnames
  have hresolved := eq_of_walk?_eq_some [] hnames
  rw [List.nil_append, resolveParts_keptPath] at hresolved
  rw [hresolved, h]

theorem putContent_of_lookup_eq_none {names : List String} {c : Content}
    {files : List (List String × Content)} (h : files.lookup names = none) :
    putContent names c files = files ++ [(names, c)] := by
  induction files with
  | nil => rfl
  | cons e rest ih =>
    obtain ⟨n, d⟩ := e
    rw [List.lookup_cons] at h
    unfold putContent
    by_cases hn : names = n
    · rw [beq_iff_eq.2 hn] at h
      cases h
    · rw [beq_eq_false_iff_ne.2 hn] at h
      rw [if_neg (fun heq => hn (beq_iff_eq.1 heq).symm), ih h]
      rfl

theorem files_write (c : Content) (h : s.files.lookup (keptAt s.place f uri) = none) :
    (s.write (keptPath f uri) c).files = s.files ++ [(keptAt s.place f uri, c)] := by
  show putContent (Path.resolveParts (s.place.join (keptPath f uri)).parts) c s.files = _
  rw [resolveParts_keptPath, putContent_of_lookup_eq_none h]

/-- Writing a text makes the directories on the way to it. -/
theorem reachable_write (c : Content) : (s.write (keptPath f uri) c).Reachable f := by
  intro n hn
  have hn : n < (keepParts s.place f).length + 1 := hn
  have hmade : Path.resolveParts ((keepParts s.place f).take n) ∈ s.directoriesTo (keptPath f uri) := by
    unfold directoriesTo
    rw [join_keptPath]
    refine List.mem_map.2 ⟨n, ?_, ?_⟩
    · rw [List.mem_range, List.length_append]
      exact hn
    · rw [List.take_append_of_le_length (Nat.le_of_lt_succ hn)]
  have hdirectory : (s.write (keptPath f uri) c).directories.contains
      (Path.resolveParts ((keepParts s.place f).take n)) = true :=
    List.contains_iff_mem.2 (List.mem_append_right _ hmade)
  unfold isDirectory
  rw [show (s.write (keptPath f uri) c).place = s.place from rfl, hdirectory, Bool.or_true, Bool.true_or]

end Kept

/-! ## One call -/

/-- A call for a URI, with the reply that the network gives if it is asked. -/
structure Call where
  uri : String
  reply : Reply

end Store

/-- The text that a reply brings, if it reports no error. -/
def Reply.text? : Reply → Option String
  | .failure _ => none
  | .response status _ text => if status = 404 ∨ 400 ≤ status then none else some text

namespace Store

/-- Whether a URI is one for the network. -/
def isRemote (uri : String) : Bool :=
  match Uri.split uri.toList with
  | .ok u => ["http", "https"].contains (String.ofList u.scheme)
  | .error _ => false

/-- Fetches a resource while the network gives that reply. -/
def fetchCall (f : Fetcher) (c : Call) : Run (Option Content) := do
  modify fun s => { s with network := [(c.uri, c.reply)] }
  fetch f c.uri

/-- What a reply means to whoever has asked for a URI. -/
def outcome (uri : String) : Reply → Except Error (Option String)
  | .failure reason => .error (.resource (.unreachable uri reason))
  | .response status reason text =>
    if status = 404 then .ok none
    else if 400 ≤ status then .error (.resource (.status uri status reason))
    else .ok (some text)

section Fetch
variable {f : Fetcher} {uri : String} {s : Store}

theorem fetch_eq_fetchRemote (h : isRemote uri = true) : fetch f uri = fetchRemote f uri := by
  unfold isRemote at h
  unfold fetch
  cases hsplit : Uri.split uri.toList with
  | error p =>
    rw [hsplit] at h
    cases h
  | ok u =>
    rw [hsplit] at h
    have hscheme : String.ofList u.scheme = "http" ∨ String.ofList u.scheme = "https" := by
      simpa using h
    have hlength : ¬ u.scheme.length ≤ 1 := by
      rcases hscheme with h | h
      all_goals
        have hlist := congrArg String.toList h
        rw [String.toList_ofList] at hlist
        rw [hlist]
        decide
    dsimp only
    rw [if_neg hlength]
    rcases hscheme with h | h
    all_goals
      rw [h]
      rfl

theorem request_eq : request uri s =
    (outcome uri ((s.network.lookup uri).getD (.failure "unreachable")),
      { s with requested := s.requested ++ [uri] }) := by
  unfold request
  rw [Cache.Run.bind_of_ok (Cache.Run.modify_eq _ _), Cache.Run.bind_of_ok (Cache.Run.get_eq _)]
  dsimp only
  cases (s.network.lookup uri).getD (.failure "unreachable") with
  | failure reason => rfl
  | response status reason text =>
    unfold outcome
    by_cases hmissing : status = 404
    · simp [hmissing]
    · by_cases hstatus : 400 ≤ status
      · simp [hmissing, hstatus]
        rfl
      · simp [hmissing, hstatus]

/-- A text that is kept is read. -/
theorem fetchRemote_kept {c : Content} (h : s.file? (keptPath f uri) = some c) :
    fetchRemote f uri s = (.ok (some (readContent c)), s) := by
  unfold fetchRemote
  rw [Cache.Run.bind_of_ok (Cache.Run.get_eq _)]
  unfold keptPath at h
  simp only [h]
  rfl

/-- Where none is kept the network is asked, and the text that it gives is kept. -/
theorem fetchRemote_asked (h : s.file? (keptPath f uri) = none) : fetchRemote f uri s =
    (request uri >>= fun r => match r with
      | none => pure none
      | some text => do
        modify fun s => s.write (keptPath f uri) (.text text)
        pure (some (.text text))) s := by
  unfold fetchRemote
  rw [Cache.Run.bind_of_ok (Cache.Run.get_eq _)]
  unfold keptPath at h
  simp only [h]
  rfl

theorem outcome_eq_ok_some {text : String} {reply : Reply} :
    outcome uri reply = .ok (some text) ↔ reply.text? = some text := by
  cases reply with
  | failure reason => simp [outcome, Reply.text?]
  | response status reason text =>
    unfold outcome Reply.text?
    by_cases hmissing : status = 404
    · simp [hmissing]
    · by_cases hstatus : 400 ≤ status <;> simp [hmissing, hstatus]

/-- The store after the network has been asked. -/
def answered (f : Fetcher) (c : Call) (s : Store) : Store :=
  let asked := { s with network := [(c.uri, c.reply)], requested := s.requested ++ [c.uri] }
  c.reply.text?.elim asked fun text => asked.write (keptPath f c.uri) (.text text)

variable {c : Call}

theorem fetchCall_eq (h : isRemote c.uri = true) :
    fetchCall f c s = fetchRemote f c.uri { s with network := [(c.uri, c.reply)] } := by
  unfold fetchCall
  rw [Cache.Run.bind_of_ok (Cache.Run.modify_eq _ _), fetch_eq_fetchRemote h]

/-- A call for a URI for which a text is kept. -/
theorem fetchCall_kept {content : Content} (h : isRemote c.uri = true)
    (hkept : s.file? (keptPath f c.uri) = some content) :
    fetchCall f c s = (.ok (some (readContent content)), { s with network := [(c.uri, c.reply)] }) := by
  rw [fetchCall_eq h]
  exact fetchRemote_kept (by rw [file?_network, hkept])

/-- A call for a URI for which no text is kept. -/
theorem fetchCall_asked (h : isRemote c.uri = true) (hkept : s.file? (keptPath f c.uri) = none) :
    fetchCall f c s = ((outcome c.uri c.reply).map (Option.map .text), answered f c s) := by
  have hnone : ({ s with network := [(c.uri, c.reply)] } : Store).file? (keptPath f c.uri) = none := by
    rw [file?_network, hkept]
  rw [fetchCall_eq h, fetchRemote_asked hnone, Cache.Run.bind_eq, request_eq, List.lookup_cons, beq_self_eq_true]
  dsimp only [Option.getD_some]
  unfold answered
  rcases houtcome : outcome c.uri c.reply with e | _ | text
  case ok.some => rw [outcome_eq_ok_some.1 houtcome]; rfl
  all_goals
    have hreply : c.reply.text? = none := Option.eq_none_iff_forall_ne_some.2 fun text h => by
      rw [outcome_eq_ok_some.2 h] at houtcome
      cases houtcome
    rw [hreply]
    rfl

@[simp] theorem place_answered : (answered f c s).place = s.place := by
  unfold answered
  cases c.reply.text? <;> rfl

@[simp] theorem requested_answered : (answered f c s).requested = s.requested ++ [c.uri] := by
  unfold answered
  cases c.reply.text? <;> rfl

theorem files_answered (hkept : s.files.lookup (keptAt s.place f c.uri) = none) : (answered f c s).files
    = s.files ++ (c.reply.text?.map fun text => (keptAt s.place f c.uri, Content.text text)).toList := by
  unfold answered
  cases c.reply.text? with
  | none => exact (List.append_nil _).symm
  | some text => exact files_write _ hkept

theorem reachable_answered {text : String} (h : c.reply.text? = some text) : (answered f c s).Reachable f := by
  unfold answered
  rw [h]
  exact reachable_write _

end Fetch

/-! ## Histories of calls -/

/-- The first text that the network has for a URI in a row of calls. -/
def firstText (calls : List Call) (uri : String) : Option String :=
  calls.findSome? fun c => if c.uri = uri then c.reply.text? else none

/-- The store after a row of calls. -/
def afterCalls (f : Fetcher) (calls : List Call) (s : Store) : Store :=
  calls.foldl (fun s c => (fetchCall f c s).2) s

/-- No file is in the directory for kept texts or in its place. -/
def KeepsNothing (f : Fetcher) (s : Store) : Prop :=
  ∀ e ∈ s.files, ¬ Path.resolveParts (keepParts s.place f) <+: e.1

/-- No two of the URIs have the same digest. -/
def Distinguished (uris : List String) : Prop :=
  ∀ u ∈ uris, ∀ v ∈ uris, Digest.digest u.toUTF8.toList = Digest.digest v.toUTF8.toList → u = v

/-- A store after a row of calls that have started at a place: it holds the first text for each of the URIs, and
the way to it. -/
structure Remembers (f : Fetcher) (start : Path) (uris : List String) (calls : List Call) (s : Store) : Prop where
  place : s.place = start
  held : ∀ u ∈ uris, s.files.lookup (keptAt start f u) = (firstText calls u).map .text
  reached : ∀ u text, firstText calls u = some text → s.Reachable f

section History
variable {f : Fetcher} {start : Path} {uris : List String} {calls : List Call} {c : Call} {s : Store}

theorem firstText_concat (uri : String) : firstText (calls ++ [c]) uri
    = (firstText calls uri).or (if c.uri = uri then c.reply.text? else none) := by
  unfold firstText
  rw [List.findSome?_append, List.findSome?_singleton]

theorem firstText_filter (uri : String) :
    firstText (calls.filter fun c => c.uri = uri) uri = firstText calls uri := by
  unfold firstText
  induction calls with
  | nil => rfl
  | cons c rest ih =>
    by_cases h : c.uri = uri
    · rw [List.filter_cons_of_pos (by simpa using h), List.findSome?_cons, List.findSome?_cons, ih]
    · rw [List.filter_cons_of_neg (by simpa using h), List.findSome?_cons, if_neg h, ih]

theorem firstText_eq_none_iff {uri : String} :
    firstText calls uri = none ↔ ∀ c ∈ calls, c.uri = uri → c.reply.text? = none := by
  unfold firstText
  rw [List.findSome?_eq_none_iff]
  exact forall₂_congr fun c _ => by by_cases h : c.uri = uri <;> simp [h]

theorem remembers_nil (h : KeepsNothing f s) : Remembers f s.place uris [] s where
  place := rfl
  held u _ := by
    rw [show firstText [] u = none from rfl, Option.map_none, List.lookup_eq_none_iff]
    rintro ⟨path, content⟩ he
    have hne : keptAt s.place f u ≠ path := by
      rintro rfl
      exact h _ he (List.prefix_append ..)
    simpa using hne
  reached u text h := nomatch h

/-- What a call does to a store that remembers. -/
theorem Remembers.fetchCall_snd (hs : Remembers f start uris calls s) (hc : c.uri ∈ uris)
    (hremote : isRemote c.uri = true) : (fetchCall f c s).2 =
      if firstText calls c.uri = none then answered f c s else { s with network := [(c.uri, c.reply)] } := by
  have hheld := hs.held _ hc
  rw [← hs.place] at hheld
  cases htext : firstText calls c.uri with
  | none =>
    rw [htext] at hheld
    rw [fetchCall_asked hremote (file?_of_lookup_eq_none hheld), if_pos rfl]
  | some text =>
    rw [htext] at hheld
    rw [fetchCall_kept hremote (file?_of_lookup hheld (hs.reached _ _ htext)), if_neg (by simp)]

/-- A call for a URI whose text is kept leaves what is kept: the text stays the first one. -/
theorem Remembers.concat_kept (hs : Remembers f start uris calls s) {text : String}
    (htext : firstText calls c.uri = some text) :
    Remembers f start uris (calls ++ [c]) { s with network := [(c.uri, c.reply)] } := by
  have hfirst (u : String) : firstText (calls ++ [c]) u = firstText calls u := by
    rw [firstText_concat]
    by_cases hu : c.uri = u
    · rw [← hu, htext, Option.some_or]
    · rw [if_neg hu, Option.or_none]
  refine ⟨hs.place, fun u hu => ?_, fun u t ht => ?_⟩
  · rw [hfirst]
    exact hs.held u hu
  · rw [hfirst] at ht
    exact hs.reached u t ht

/-- A call that asks the network keeps the text that it answers with, if it has one. -/
theorem Remembers.concat_asked (hs : Remembers f start uris calls s) (huris : Distinguished uris)
    (hc : c.uri ∈ uris) (htext : firstText calls c.uri = none) :
    Remembers f start uris (calls ++ [c]) (answered f c s) := by
  have hnone : s.files.lookup (keptAt s.place f c.uri) = none := by
    rw [hs.place, hs.held _ hc, htext, Option.map_none]
  refine ⟨by rw [place_answered, hs.place], fun u hu => ?_, fun u t ht => ?_⟩
  · rw [files_answered hnone, List.lookup_append, hs.held u hu, firstText_concat, hs.place]
    by_cases hcu : c.uri = u
    · subst hcu
      rw [htext, if_pos rfl, Option.none_or, Option.map_none, Option.none_or]
      cases c.reply.text? with
      | none => rfl
      | some text => simp
    · -- The texts for other URIs are kept elsewhere.
      rw [if_neg hcu, Option.or_none]
      have helsewhere : keptAt start f u ≠ keptAt start f c.uri := fun h =>
        hcu (huris u hu c.uri hc (keptAt_injective h)).symm
      cases c.reply.text? with
      | none => simp
      | some text => simp [List.lookup_cons, beq_eq_false_iff_ne.2 helsewhere]
  · cases hreply : c.reply.text? with
    | some text => exact reachable_answered hreply
    | none =>
      have hu : firstText calls u = some t := by
        rw [firstText_concat, hreply, ite_self, Option.or_none] at ht
        exact ht
      unfold answered
      rw [hreply]
      exact hs.reached u t hu

/-- A call more is remembered. -/
theorem Remembers.concat (hs : Remembers f start uris calls s) (huris : Distinguished uris) (hc : c.uri ∈ uris)
    (hremote : isRemote c.uri = true) : Remembers f start uris (calls ++ [c]) (fetchCall f c s).2 := by
  rw [hs.fetchCall_snd hc hremote]
  cases htext : firstText calls c.uri with
  | some text =>
    rw [if_neg (Option.some_ne_none text)]
    exact hs.concat_kept htext
  | none =>
    rw [if_pos rfl]
    exact hs.concat_asked huris hc htext

/-- So a row of calls is remembered. -/
theorem remembers_afterCalls (h : KeepsNothing f s) (huris : Distinguished uris)
    (hcalls : ∀ c ∈ calls, c.uri ∈ uris ∧ isRemote c.uri = true) :
    Remembers f s.place uris calls (afterCalls f calls s) := by
  -- the last call of the row is the one that finds what the others have kept
  induction calls using List.reverseRec with
  | nil => exact remembers_nil h
  | append_singleton calls c ih =>
    have hc := hcalls c (by simp)
    unfold afterCalls
    rw [List.foldl_append]
    exact (ih fun c' hc' => hcalls c' (List.mem_append_left _ hc')).concat huris hc.1 hc.2

/-- What a call does after a row of calls. What counts of the row is the first text that the network has had for the
same URI. -/
structure Serves (f : Fetcher) (s : Store) (calls : List Call) (c : Call) : Prop where
  /-- The network is asked for the URI if it has had no text for it. -/
  asks : (∀ c' ∈ calls, c'.uri = c.uri → c'.reply.text? = none) →
    (fetchCall f c (afterCalls f calls s)).2.requested = (afterCalls f calls s).requested ++ [c.uri]
  /-- Once it has had one it is not asked. -/
  spares : (∃ c' ∈ calls, c'.uri = c.uri ∧ c'.reply.text? ≠ none) →
    (fetchCall f c (afterCalls f calls s)).2.requested = (afterCalls f calls s).requested
  /-- The text is given again, as it is read from a file. -/
  again : ∀ text, firstText calls c.uri = some text →
    (fetchCall f c (afterCalls f calls s)).1 = .ok (some (readContent (.text text)))
  /-- The text that the network has is given, and is kept in a file that was not there. -/
  found : ∀ text, firstText calls c.uri = none → c.reply.text? = some text →
    (fetchCall f c (afterCalls f calls s)).1 = .ok (some (.text text))
      ∧ (afterCalls f calls s).files.lookup (keptAt s.place f c.uri) = none
      ∧ (fetchCall f c (afterCalls f calls s)).2.files
        = (afterCalls f calls s).files ++ [(keptAt s.place f c.uri, .text text)]
  /-- What the network does not have is not there. -/
  missing : ∀ reason text, firstText calls c.uri = none → c.reply = .response 404 reason text →
    (fetchCall f c (afterCalls f calls s)).1 = .ok none
  /-- What the network refuses is reported. -/
  refused : ∀ status reason text, firstText calls c.uri = none → c.reply = .response status reason text →
    status ≠ 404 → 400 ≤ status →
    (fetchCall f c (afterCalls f calls s)).1 = .error (.resource (.status c.uri status reason))
  /-- So is a network that cannot be reached. -/
  unreachable : ∀ reason, firstText calls c.uri = none → c.reply = .failure reason →
    (fetchCall f c (afterCalls f calls s)).1 = .error (.resource (.unreachable c.uri reason))
  /-- Without a new text no file is touched. -/
  leaves : firstText calls c.uri ≠ none ∨ c.reply.text? = none →
    (fetchCall f c (afterCalls f calls s)).2.files = (afterCalls f calls s).files
  /-- The calls for other URIs make no difference. -/
  alone : (fetchCall f c (afterCalls f calls s)).1
    = (fetchCall f c (afterCalls f (calls.filter fun c' => c'.uri = c.uri) s)).1

/-- What a call gives from a store that remembers. -/
theorem Remembers.fetchCall_fst (hs : Remembers f start uris calls s) (hc : c.uri ∈ uris)
    (hremote : isRemote c.uri = true) : (fetchCall f c s).1 =
      (firstText calls c.uri).elim ((outcome c.uri c.reply).map (Option.map .text)) fun text =>
        .ok (some (readContent (.text text))) := by
  have hheld := hs.held _ hc
  rw [← hs.place] at hheld
  cases htext : firstText calls c.uri with
  | none =>
    rw [htext] at hheld
    rw [fetchCall_asked hremote (file?_of_lookup_eq_none hheld), Option.elim_none]
  | some text =>
    rw [htext] at hheld
    rw [fetchCall_kept hremote (file?_of_lookup hheld (hs.reached _ _ htext)), Option.elim_some]

/-- Whatever has been called before, and whatever the network has said to it: the network is asked for a URI until
it has a text, and that text is given from then on. -/
theorem fetch_serves (hempty : KeepsNothing f s) (hremote : ∀ c ∈ calls, isRemote c.uri = true)
    (huris : Distinguished (calls.map Call.uri)) (before after : List Call) (hcalls : calls = before ++ c :: after) :
    Serves f s before c := by
  have hmem : ∀ c' ∈ calls, c'.uri ∈ calls.map Call.uri ∧ isRemote c'.uri = true := fun c' h =>
    ⟨List.mem_map_of_mem h, hremote c' h⟩
  have hbefore : ∀ c' ∈ before, c' ∈ calls := fun c' h => hcalls ▸ List.mem_append_left _ h
  obtain ⟨hc, hcremote⟩ := hmem c (hcalls ▸ by simp)
  have hs := remembers_afterCalls hempty huris fun c' h => hmem c' (hbefore c' h)
  have hsame : Remembers f s.place (calls.map Call.uri) (before.filter fun c' => c'.uri = c.uri) _ :=
    remembers_afterCalls hempty huris fun c' h => hmem c' (hbefore c' (List.mem_of_mem_filter h))
  -- the reply and the store after the call in terms of the first text alone
  have hfst := hs.fetchCall_fst hc hcremote
  have hsnd := hs.fetchCall_snd hc hcremote
  have hnone (h : firstText before c.uri = none) :
      (afterCalls f before s).files.lookup (keptAt s.place f c.uri) = none := by
    rw [hs.held _ hc, h, Option.map_none]
  constructor
  case asks =>
    intro h
    rw [hsnd, if_pos (firstText_eq_none_iff.2 h), requested_answered]
  case spares =>
    rintro ⟨c', hc', huri, htext⟩
    rw [hsnd, if_neg fun h => htext (firstText_eq_none_iff.1 h c' hc' huri)]
  case again =>
    intro text h
    rw [hfst, h, Option.elim_some]
  case found =>
    intro text h hreply
    refine ⟨?_, hnone h, ?_⟩
    · rw [hfst, h, Option.elim_none, outcome_eq_ok_some.2 hreply]
      rfl
    · rw [hsnd, if_pos h, files_answered (by rw [hs.place, hnone h]), hreply, hs.place]
      rfl
  case missing =>
    intro reason text h hreply
    rw [hfst, h, hreply]
    rfl
  case refused =>
    intro status reason text h hreply hmissing hstatus
    rw [hfst, h, hreply, Option.elim_none, outcome, if_neg hmissing, if_pos hstatus]
    rfl
  case unreachable =>
    intro reason h hreply
    rw [hfst, h, hreply]
    rfl
  case leaves =>
    intro h
    rw [hsnd]
    by_cases htext : firstText before c.uri = none
    · have hreply : c.reply.text? = none := h.resolve_left fun hne => hne htext
      rw [if_pos htext, files_answered (by rw [hs.place, hnone htext]), hreply]
      exact List.append_nil _
    · rw [if_neg htext]
  case alone =>
    rw [hfst, hsame.fetchCall_fst hc hcremote, firstText_filter]

/-- A text is kept while another URI is asked for, and is given when the network is gone. -/
theorem fetch_serves_unreachable :
    Serves { cache := { parts := ["cache"] } } {}
      [{ uri := "http://h/a", reply := .response 200 "OK" "one\r\n" },
        { uri := "http://h/b", reply := .response 404 "Not Found" "" }]
      { uri := "http://h/a", reply := .failure "gone" } := by
  have hempty : KeepsNothing { cache := { parts := ["cache"] } } {} := fun _ he => nomatch he
  refine fetch_serves hempty ?_ ?_ _ [] rfl
  · decide +kernel
  · unfold Distinguished
    decide +kernel

end History

end Store

end FieldRules
