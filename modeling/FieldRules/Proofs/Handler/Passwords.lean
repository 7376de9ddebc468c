import FieldRules.Proofs.Handler.Verdict
import FieldRules.Proofs.Regex.Line
import FieldRules.Proofs.Run

/-!
# Levels of passwords

A password of a level is a single line with so many characters and with characters of certain kinds (`IsPassword`). The
patterns look for each kind from the start of the text before they count the characters. The levels are ordered
(`levels_ordered`).
-/

namespace FieldRules

open Regex

/-! ## Looking ahead for a character -/

namespace Regex

theorem Fit.ahead_cat {a b : Fit} {before s after : List Char} :
    ((a.ahead false).cat b) before s after ↔ (∃ x y, s ++ after = x ++ y ∧ a before x y) ∧ b before s after := by
  constructor
  · rintro ⟨_, y, rfl, ⟨rfl, hahead⟩, hy⟩
    exact ⟨hahead.2 rfl, hy⟩
  · rintro ⟨hahead, hs⟩
    exact ⟨[], s, rfl, ⟨rfl, iff_of_true hahead rfl⟩, hs⟩

/-- Looking for a character behind others finds it wherever it stands. -/
theorem Fit.exists_behind {holds passes : Char → Bool} {before s : List Char} (hs : ∀ c ∈ s, passes c = true) :
    (∃ x y, s = x ++ y ∧ (((one passes).repetition 0 none).cat (one holds)) before x y) ↔
      ∃ c ∈ s, holds c = true := by
  constructor
  · rintro ⟨_, y, rfl, x, _, rfl, -, c, hc, rfl⟩
    exact ⟨c, by simp, hc⟩
  · rintro ⟨c, hmem, hc⟩
    obtain ⟨x, y, rfl⟩ := List.append_of_mem hmem
    refine ⟨x ++ [c], y, by simp, x, [c], rfl, repetition_one.2 ⟨Nat.zero_le _, fun d hd => ?_⟩, c, hc, rfl⟩
    exact hs d (List.mem_append_left _ hd)

end Regex

namespace Handler

/-! ## Passwords -/

/-- A single line of at least so many characters, with a character of each kind. -/
structure IsPassword (least : Nat) (kinds : List (Char → Bool)) (s : List Char) : Prop where
  length : least ≤ s.length
  oneLine : ∀ c ∈ s, c ≠ '\n'
  kinds : ∀ kind ∈ kinds, ∃ c ∈ s, kind c = true

/-- A password stays one for fewer characters and wider kinds. -/
theorem IsPassword.mono {least least' : Nat} {kinds kinds' : List (Char → Bool)} {s : List Char}
    (hleast : least' ≤ least) (hkinds : ∀ kind' ∈ kinds', ∃ kind ∈ kinds, ∀ c, kind c = true → kind' c = true)
    (h : IsPassword least kinds s) : IsPassword least' kinds' s where
  length := Nat.le_trans hleast h.length
  oneLine := h.oneLine
  kinds kind' hkind' := by
    obtain ⟨kind, hkind, hwider⟩ := hkinds kind' hkind'
    obtain ⟨c, hmem, hc⟩ := h.kinds kind hkind
    exact ⟨c, hmem, hwider c hc⟩

/-- The kind of the characters in a set, or outside of it. -/
def kindOf (x : Bool × List SetItem) (c : Char) : Bool :=
  x.2.any (SetItem.holds {} c) != x.1

theorem kindOf_mono {items items' : List SetItem} (h : ∀ x ∈ items, x ∈ items') (c : Char)
    (hc : kindOf (false, items) c = true) : kindOf (false, items') c = true := by
  rw [kindOf, Bool.bne_false, List.any_eq_true] at hc ⊢
  obtain ⟨x, hx, hholds⟩ := hc
  exact ⟨x, h x hx, hholds⟩

/-- Looks for a character of a kind in the line. -/
def kindNode (x : Bool × List SetItem) : Node :=
  .look none false (.cat (.loop .greedy 0 none .any) (.set x.1 x.2))

/-- The nodes of a pattern for passwords. -/
def passwordNodes (least : Nat) (kinds : List (Bool × List SetItem)) : List Node :=
  kinds.map kindNode ++ [.loop .greedy least none .any]

theorem isPlain_passwordNodes (least : Nat) (kinds : List (Bool × List SetItem)) :
    (passwordNodes least kinds).all Node.isPlain = true := by
  rw [passwordNodes, List.all_append, List.all_map, Bool.and_eq_true]
  exact ⟨List.all_eq_true.2 fun _ _ => rfl, rfl⟩

theorem fit_passwordNodes {least : Nat} {kinds : List (Bool × List SetItem)} {s : List Char} :
    Fit.row ((passwordNodes least kinds).map (·.fit {})) [] s [] ↔ IsPassword least (kinds.map kindOf) s := by
  -- A kind is looked for behind characters of the line; as the text is a single line, that is anywhere in it.
  have hline : (∀ c ∈ s, (({} : Flags).dotAll || c != '\n') = true) ↔ ∀ c ∈ s, c ≠ '\n' :=
    forall₂_congr fun c _ => bne_iff_ne
  induction kinds with
  | nil =>
    refine Fit.cat_empty.trans (Fit.repetition_one.trans ⟨fun h => ⟨h.1, hline.1 h.2, List.forall_mem_nil _⟩, ?_⟩)
    exact fun h => ⟨h.length, hline.2 h.oneLine⟩
  | cons x kinds ih =>
    refine Fit.ahead_cat.trans ((and_congr_right' ih).trans ?_)
    rw [List.append_nil]
    constructor
    · rintro ⟨hahead, h⟩
      have hkind := (Fit.exists_behind (hline.2 h.oneLine)).1 hahead
      exact ⟨h.length, h.oneLine, List.forall_mem_cons.2 ⟨hkind, h.kinds⟩⟩
    · intro h
      obtain ⟨hkind, hkinds⟩ := List.forall_mem_cons.1 h.kinds
      exact ⟨(Fit.exists_behind (hline.2 h.oneLine)).2 hkind, h.length, h.oneLine, hkinds⟩

/-! ## Levels -/

/-- Small letters of ASCII. -/
def smallLetters : Bool × List SetItem := (false, [.span 97 122])

/-- Capital letters of ASCII. -/
def capitalLetters : Bool × List SetItem := (false, [.span 65 90])

/-- Letters of ASCII. -/
def letters : Bool × List SetItem := (false, [.span 65 90, .span 97 122])

/-- Decimal digits of any script. -/
def digits : Bool × List SetItem := (false, [.category .digit false])

/-- What is none of these, letters of other scripts included. -/
def symbols : Bool × List SetItem := (true, [.span 65 90, .span 97 122, .category .digit false])

/-- The least numbers of characters of the levels and the kinds of characters that they ask for. -/
def levelKinds : List (String × Nat × List (Bool × List SetItem)) :=
  [("strong", 10, [smallLetters, capitalLetters, digits, symbols]), ("medium", 8, [letters, digits]), ("weak", 6, [])]

/-- The source of the pattern of a level. -/
def levelSource (level : String) : String :=
  (passwordLevels.lookup level).getD ""

/-- Whether a text matches the pattern of a level. -/
def isOfLevel (level : String) (s : List Char) : Bool :=
  matchesSource (levelSource level) s

theorem read_levelKinds : ∀ x ∈ levelKinds, (levelOf (.string x.1)).toOption = some x.1 ∧
    passwordLevels.lookup x.1 = some (levelSource x.1) ∧ (Regex.compile (levelSource x.1)).toOption
      = some ⟨levelSource x.1, {}, .line (passwordNodes x.2.1 x.2.2)⟩ := by
  decide +kernel

theorem isOfLevel_iff {level : String} {least : Nat} {kinds : List (Bool × List SetItem)}
    (h : (level, least, kinds) ∈ levelKinds) (s : List Char) :
    isOfLevel level s = true ↔ IsPassword least (kinds.map kindOf) s := by
  obtain ⟨-, -, hcompile⟩ := read_levelKinds _ h
  exact (matchesSource_line hcompile (isPlain_passwordNodes least kinds) s).trans fit_passwordNodes

/-- The verdict on a text as a password of a level. -/
def passwordVerdict? (r : Registry) (l : Leniency) (ctx : Context) (f : Fragment) (s level : String) : Option Bool :=
  (Dispatch.run r l (.string s) { f with name := "password", arguments := [.string level] } ctx).verdict?

/-- A text passes a level if it is empty or matches the pattern of that. -/
theorem passwordVerdict?_eq {r : Registry} (hr : r.find? "password" = some password) (l : Leniency) (ctx : Context)
    (f : Fragment) (s level : String) (h : level ∈ levelKinds.map Prod.fst) :
    passwordVerdict? r l ctx f s level = some (s.toList.isEmpty || isOfLevel level s.toList) := by
  obtain ⟨x, hx, rfl⟩ := List.mem_map.1 h
  obtain ⟨hlevel, hsource, -⟩ := read_levelKinds x hx
  refine (Dispatch.verdict?_run hr rfl rfl l (.string s) ctx).trans ((if_pos rfl).trans ?_)
  have hchars : charsOf (.string s) = s.toList := rfl
  have hargument : { f with name := "password", arguments := [.string x.1] }.argument 0 (some .string)
      = .ok (.string x.1) := rfl
  unfold password
  dsimp only
  rw [hchars, hargument]
  -- The level is not looked up for an empty text.
  cases s.toList.isEmpty with
  | true => rfl
  | false =>
    rw [if_neg Bool.false_ne_true, Check.liftM_ok_bind, Cache.Run.eq_ok_of_toOption hlevel, Check.liftM_fault_ok_bind,
      hsource]
    exact verdict?_acceptIf _ ctx _ _

theorem isOfLevel_medium_of_strong {s : List Char} (h : isOfLevel "strong" s = true) : isOfLevel "medium" s = true := by
  have hstrong : IsPassword 10 ([smallLetters, capitalLetters, digits, symbols].map kindOf) s :=
    (isOfLevel_iff (by decide) s).1 h
  have hletters : ∀ c, kindOf smallLetters c = true → kindOf letters c = true := kindOf_mono (by decide)
  have hmedium : IsPassword 8 ([letters, digits].map kindOf) s := by
    refine hstrong.mono (by decide) (List.forall_mem_cons.2 ⟨⟨_, List.mem_map_of_mem (by decide), hletters⟩, ?_⟩)
    exact List.forall_mem_singleton.2 ⟨kindOf digits, List.mem_map_of_mem (by decide), fun _ => id⟩
  exact (isOfLevel_iff (by decide) s).2 hmedium

theorem isOfLevel_weak_of_medium {s : List Char} (h : isOfLevel "medium" s = true) : isOfLevel "weak" s = true := by
  have hmedium : IsPassword 8 ([letters, digits].map kindOf) s := (isOfLevel_iff (by decide) s).1 h
  have hweak : IsPassword 6 ([].map kindOf) s := hmedium.mono (by decide) (List.forall_mem_nil _)
  exact (isOfLevel_iff (by decide) s).2 hweak

/-- **The levels of passwords are ordered.** Every text comes to a verdict on every level; one that passes as a strong
password passes as one of the medium level, and one that passes as that passes as a weak one. -/
theorem levels_ordered {r : Registry} (hr : r.find? "password" = some password) (l : Leniency) (ctx : Context)
    (f : Fragment) (s : String) :
    (∀ level ∈ ["strong", "medium", "weak"], (passwordVerdict? r l ctx f s level).isSome) ∧
    (passwordVerdict? r l ctx f s "strong" = some true → passwordVerdict? r l ctx f s "medium" = some true) ∧
    (passwordVerdict? r l ctx f s "medium" = some true → passwordVerdict? r l ctx f s "weak" = some true) := by
  have hverdict := passwordVerdict?_eq hr l ctx f s
  refine ⟨fun level hlevel => Option.isSome_of_eq_some (hverdict level hlevel), ?_⟩
  rw [hverdict "strong" (by decide), hverdict "medium" (by decide), hverdict "weak" (by decide)]
  simp only [Option.some.injEq, Bool.or_eq_true]
  exact ⟨Or.imp_right isOfLevel_medium_of_strong, Or.imp_right isOfLevel_weak_of_medium⟩

/-- A strong password with a digit of another script. -/
theorem levels_ordered_strong :
    Registry.builtin.find? "password" = some password ∧
      (passwordVerdict? .builtin {} {} { name := "" } "Correct Horse ٣" "strong" = some true →
        passwordVerdict? .builtin {} {} { name := "" } "Correct Horse ٣" "medium" = some true) ∧
      passwordVerdict? .builtin {} {} { name := "" } "Correct Horse ٣" "strong" = some true :=
  ⟨rfl, (levels_ordered (r := .builtin) rfl {} {} { name := "" } "Correct Horse ٣").2.1, by decide +kernel⟩

end Handler

end FieldRules
