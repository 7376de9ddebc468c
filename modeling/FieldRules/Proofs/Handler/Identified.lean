import FieldRules.Handler.Simple
import FieldRules.Proofs.Handler.Builtin
import FieldRules.Proofs.Run
import FieldRules.Validation.Fragments

/-!
# Rejections that can be told apart

A rejection goes by its message keys: its code is the last of them. A handler may give any keys, or none, or empty ones;
the dispatch sees to it that there are some in the end, and that none of them is empty (`Dispatch.run_identifies`). A
handler that leaves its keys to the fragment and a variant of it (`Handler.Inherits`), as all do that are always there
(`Handler.inherits_builtin`), has the name of the fragment for its code, possibly with the variant behind it.
-/

namespace FieldRules

open Cache

/-! ## Outcomes of decisions -/

namespace Check

variable {α β : Type} {P Q : α → Prop}

/-- What a decision may return: a sibling may have any value and any label. -/
inductive MayReturn : Check α → α → Prop
  | done (a : α) : MayReturn (.done a) a
  | warn {w : Warning} {next : Check α} {a : α} : MayReturn next a → MayReturn (.warn w next) a
  | sibling {name : String} {next : Value → Check α} {a : α} (v : Value) :
      MayReturn (next v) a → MayReturn (.sibling name next) a
  | siblingLabel {name : String} {next : String → Check α} {a : α} (label : String) :
      MayReturn (next label) a → MayReturn (.siblingLabel name next) a

/-- What goes on with a result has come to that result. -/
theorem mayReturn_bind {c : Check α} {next : α → Check β} {b : β} :
    (c >>= next).MayReturn b ↔ ∃ a, c.MayReturn a ∧ (next a).MayReturn b := by
  constructor
  · intro h
    induction c with
    | done a => exact ⟨a, .done a, h⟩
    | fail e => cases h
    | warn w c ih =>
      cases h with
      | warn h =>
        obtain ⟨a, ha, hb⟩ := ih h
        exact ⟨a, .warn ha, hb⟩
    | sibling name c ih =>
      cases h with
      | sibling v h =>
        obtain ⟨a, ha, hb⟩ := ih v h
        exact ⟨a, .sibling v ha, hb⟩
    | siblingLabel name c ih =>
      cases h with
      | siblingLabel label h =>
        obtain ⟨a, ha, hb⟩ := ih label h
        exact ⟨a, .siblingLabel label ha, hb⟩
  · rintro ⟨a, ha, hb⟩
    induction ha with
    | done a => exact hb
    | warn _ ih => exact .warn (ih hb)
    | sibling v _ ih => exact .sibling v (ih hb)
    | siblingLabel label _ ih => exact .siblingLabel label (ih hb)

/-- Whatever a decision comes to in a session, it may return. -/
theorem mayReturn_of_settle {V : Validator} {q : Request} {s : Subject} {c : Check α} {a : α} {σ σ' : Session}
    (h : V.settle q s c σ = (.ok a, σ')) : c.MayReturn a := by
  induction c generalizing σ with
  | done b =>
    cases h
    exact .done a
  | fail e => cases h
  | warn w next ih =>
    obtain ⟨-, σ₁, -, h⟩ := Run.bind_eq_ok h
    exact .warn (ih h)
  | sibling name next ih =>
    obtain ⟨v, σ₁, -, h⟩ := Run.bind_eq_ok h
    exact .sibling v (ih v h)
  | siblingLabel name next ih =>
    obtain ⟨label, σ₁, -, h⟩ := Run.bind_eq_ok h
    exact .siblingLabel label (ih label h)

/-- Whatever the decision may return has the property. -/
def Ensures (P : α → Prop) (c : Check α) : Prop :=
  ∀ a, c.MayReturn a → P a

theorem Ensures.done {a : α} (h : P a) : Ensures P (.done a) := by
  intro b hb
  cases hb
  exact h

theorem Ensures.fail (e : Error) : Ensures P (.fail e) := nofun

theorem Ensures.warn {w : Warning} {next : Check α} (h : Ensures P next) : Ensures P (.warn w next) := by
  intro a ha
  cases ha with
  | warn ha => exact h a ha

theorem Ensures.sibling {name : String} {next : Value → Check α} (h : ∀ v, Ensures P (next v)) :
    Ensures P (.sibling name next) := by
  intro a ha
  cases ha with
  | sibling v ha => exact h v a ha

theorem Ensures.siblingLabel {name : String} {next : String → Check α} (h : ∀ label, Ensures P (next label)) :
    Ensures P (.siblingLabel name next) := by
  intro a ha
  cases ha with
  | siblingLabel label ha => exact h label a ha

/-- The last part of a decision decides what it returns. -/
theorem Ensures.bind {c : Check β} {next : β → Check α} (h : ∀ b, Ensures P (next b)) : Ensures P (c >>= next) := by
  intro a ha
  obtain ⟨b, -, hb⟩ := mayReturn_bind.1 ha
  exact h b a hb

theorem Ensures.ite {p : Prop} [Decidable p] {c c' : Check α} (h : Ensures P c) (h' : Ensures P c') :
    Ensures P (if p then c else c') := by
  split
  · exact h
  · exact h'

end Check

/-! ## Keys of handlers -/

namespace Handler

/-- The decision leaves the message keys to the dispatch, or makes them for one of some variants and the class of the
place of the value. -/
abbrev Keyed (variants : List String) (f : Fragment) (ctx : Context) (c : Check Finding) : Prop :=
  c.Ensures fun found => found.keys = [] ∨ ∃ variant ∈ variants, found.keys = ctx.typedKeys f (some variant)

/-- All decisions of the handler make their message keys in this way. -/
def KeysWithin (h : Handler) (variants : List String) : Prop :=
  ∀ v f ctx, Keyed variants f ctx (h.check v f ctx)

section Handlers
variable {condition : Bool} {variants : List String} {v : Value} {f : Fragment} {ctx : Context}

theorem keyed_accept : Keyed variants f ctx accept :=
  .done (.inl rfl)

theorem keyed_acceptIf_none : Keyed variants f ctx (acceptIf condition ctx f none) := by
  unfold acceptIf
  exact .ite keyed_accept (.done (.inl rfl))

theorem keyed_acceptIf_some {variant : String} (h : variant ∈ variants) :
    Keyed variants f ctx (acceptIf condition ctx f (some variant)) := by
  unfold acceptIf
  exact .ite keyed_accept (.done (.inr ⟨variant, h, rfl⟩))

theorem keyed_rejectListing : Keyed variants f ctx (rejectListing f) :=
  .bind fun _ => .done (.inl rfl)

theorem keyed_bounded (number size : Except Error Bool) : Keyed ["size"] f ctx (bounded number size v f ctx) :=
  .ite (.bind fun _ => keyed_acceptIf_none) (.bind fun _ => keyed_acceptIf_some (List.mem_singleton_self _))

theorem keysWithin_length : length.KeysWithin ["range"] := by
  intro v f ctx
  refine .bind fun size => .ite ?_ ?_
  · exact .bind fun _ => keyed_acceptIf_none
  · exact .bind fun _ => keyed_acceptIf_some (List.mem_singleton_self _)

theorem keysWithin_boundary : boundary.KeysWithin [] := by
  intro v f ctx
  exact .ite keyed_rejectListing (.bind fun _ => .ite keyed_accept keyed_rejectListing)

theorem keysWithin_equals : equals.KeysWithin ["specify", "related"] := by
  intro v f ctx
  refine .bind fun target => .bind fun second => .bind fun ignoreCase => ?_
  cases siblingName? target with
  | none => exact .bind fun _ => keyed_acceptIf_some (List.mem_cons_self ..)
  | some name =>
    refine .ite ?_ (.warn keyed_accept)
    refine .sibling fun target => .bind fun _ => .ite keyed_accept (.siblingLabel fun label => .done (.inr ?_))
    exact ⟨"related", List.mem_cons_of_mem _ (List.mem_singleton_self _), rfl⟩

theorem keysWithin_url : url.KeysWithin [] := by
  intro v f ctx
  refine .ite keyed_accept ?_
  cases uriAndPort? (charsOf v) with
  | none => exact keyed_acceptIf_none
  | some read =>
    refine .bind fun _ => .ite keyed_acceptIf_none ?_
    refine .bind fun _ => .ite keyed_acceptIf_none ?_
    exact .bind fun _ => keyed_acceptIf_none

theorem keysWithin_password : password.KeysWithin (passwordLevels.map Prod.fst) := by
  intro v f ctx
  refine .ite keyed_accept (.bind fun argument => .bind fun level => ?_)
  cases hlevel : passwordLevels.lookup level with
  | none => exact .fail _
  | some source =>
    obtain ⟨before, after, hlevels, -⟩ := List.lookup_eq_some_iff.1 hlevel
    have hmem : level ∈ passwordLevels.map Prod.fst := by
      rw [hlevels, List.map_append, List.map_cons]
      exact List.mem_append_right _ (List.mem_cons_self ..)
    exact keyed_acceptIf_some hmem

end Handlers

/-- A handler that is always there makes its message keys for some variants. There is a text for each of its names, and
for each of its names with one of its variants. -/
theorem keysWithin_builtin {h : Handler} (hh : h ∈ Registry.builtinHandlers) :
    ∃ variants, h.KeysWithin variants ∧ ∀ name ∈ h.names,
      (Texts.english.lookup name).isSome ∧ ∀ variant ∈ variants, (Texts.english.lookup (name ++ "." ++ variant)).isSome := by
  -- The handlers in the order of the list, each with its variants. The texts are a closed question.
  simp only [Registry.builtinHandlers, List.mem_cons, List.not_mem_nil, or_false] at hh
  rcases hh with rfl | rfl | rfl | rfl | rfl | rfl | rfl | rfl | rfl | rfl | rfl | rfl | rfl | rfl
  · exact ⟨[], fun v f ctx => keyed_accept, by decide +kernel⟩
  · exact ⟨[], fun v f ctx => .bind fun _ => keyed_acceptIf_none, by decide +kernel⟩
  · exact ⟨[], fun v f ctx => keyed_acceptIf_none, by decide +kernel⟩
  · exact ⟨["range"], keysWithin_length, by decide +kernel⟩
  · exact ⟨["size"], fun v f ctx => keyed_bounded _ _, by decide +kernel⟩
  · exact ⟨["size"], fun v f ctx => keyed_bounded _ _, by decide +kernel⟩
  · exact ⟨["size"], fun v f ctx => keyed_bounded _ _, by decide +kernel⟩
  · exact ⟨[], fun v f ctx => .bind fun _ => .bind fun _ => keyed_acceptIf_none, by decide +kernel⟩
  · exact ⟨[], fun v f ctx => .ite keyed_accept keyed_rejectListing, by decide +kernel⟩
  · exact ⟨[], keysWithin_boundary, by decide +kernel⟩
  · exact ⟨["specify", "related"], keysWithin_equals, by decide +kernel⟩
  · exact ⟨[], keysWithin_url, by decide +kernel⟩
  · exact ⟨passwordLevels.map Prod.fst, keysWithin_password, by decide +kernel⟩
  · exact ⟨[], fun v f ctx => .ite keyed_accept keyed_acceptIf_none, by decide +kernel⟩

/-- The handler makes message keys, if any, for its fragment, a variant and the class of some place. -/
structure Inherits (h : Handler) : Prop where
  keys : h.keys = Context.typedKeys
  check : ∀ v f ctx, (h.check v f ctx).Ensures fun found =>
    found.keys = [] ∨ ∃ ctx' variant?, found.keys = Context.typedKeys ctx' f variant?

theorem inherits_builtin {h : Handler} (hh : h ∈ Registry.builtinHandlers) : h.Inherits where
  keys := keys_builtin hh
  check v f ctx found hfound := by
    obtain ⟨variants, hkeys, -⟩ := keysWithin_builtin hh
    rcases hkeys v f ctx found hfound with hnone | ⟨variant, -, hkeys⟩
    · exact .inl hnone
    · exact .inr ⟨ctx, some variant, hkeys⟩

end Handler

/-! ## Keys of rejections -/

/-- The code of a rejection is the last one of its keys. -/
theorem Validator.rejection_of_getLast? {q : Request} {s : Subject} {f : Fragment} {found : Finding} {code : String}
    (hcode : found.keys.getLast? = some code) : rejection q s f found =
      (fun message => { name := f.name, errorCode := code, message, arguments := f.arguments }) <$>
        rejectionMessage q f (found.bindings ++ s.context.bindings) found.keys := by
  have hempty : found.keys.isEmpty = false := by
    rw [List.isEmpty_eq_false_iff]
    intro hnil
    rw [hnil] at hcode
    cases hcode
  have hlast : found.keys.getLastD f.name = code := by
    rw [List.getLastD_eq_getLast?, hcode]
    rfl
  unfold rejection
  simp only [hempty, Bool.false_eq_true, ↓reduceIte, hlast]
  rfl

/-- The key of a fragment is its name, or its name with a variant behind it. -/
theorem Context.baseKey_eq (f : Fragment) (variant? : Option String) :
    baseKey f variant? = f.name ∨ ∃ suffix, suffix ≠ "" ∧ baseKey f variant? = f.name ++ "." ++ suffix := by
  unfold baseKey
  split
  · exact .inl rfl
  · exact .inl rfl
  · next variant hvariant => exact .inr ⟨variant, hvariant, rfl⟩

theorem Context.baseKey_ne_empty {f : Fragment} (hname : f.name ≠ "") (variant? : Option String) :
    baseKey f variant? ≠ "" := by
  rcases baseKey_eq f variant? with heq | ⟨suffix, -, heq⟩
  · rwa [heq]
  · rw [heq]
    intro hempty
    exact hname (by simpa using congrArg String.toList hempty)

namespace Dispatch

variable {h : Handler} {f : Fragment} {ctx ctx' : Context} {found : List String}

/-- The keys of a list that are not empty. -/
abbrev nonEmptyKeys (keys : List String) : List String :=
  keys.filter fun k => !k.isEmpty

theorem mem_nonEmptyKeys {k : String} {keys : List String} : k ∈ nonEmptyKeys keys ↔ k ∈ keys ∧ k ≠ "" := by
  rw [List.mem_filter, Bool.not_eq_true', ← Bool.not_eq_true, String.isEmpty_iff]

/-- The keys of a rejection are those that the handler has made at one time or the other, or the name of the fragment. -/
theorem rejectionKeys_cases (h : Handler) (f : Fragment) (ctx : Context) (found : List String) :
    nonEmptyKeys found ≠ [] ∧ rejectionKeys h f ctx found = nonEmptyKeys found ∨
    nonEmptyKeys found = [] ∧ nonEmptyKeys (h.keys ctx f none) ≠ [] ∧
      rejectionKeys h f ctx found = nonEmptyKeys (h.keys ctx f none) ∨
    nonEmptyKeys found = [] ∧ nonEmptyKeys (h.keys ctx f none) = [] ∧
      rejectionKeys h f ctx found = nonEmptyKeys [f.name] := by
  unfold rejectionKeys
  split
  · next hfound =>
    refine .inr ?_
    split
    · next hkeys => exact .inr ⟨hfound, hkeys, rfl⟩
    · next hkeys => exact .inl ⟨hfound, hkeys, rfl⟩
  · next hfound => exact .inl ⟨hfound, rfl⟩

/-- There are keys, and none of them is empty. -/
theorem rejectionKeys_usable (h : Handler) (ctx : Context) (found : List String) (hname : f.name ≠ "") :
    rejectionKeys h f ctx found ≠ [] ∧ "" ∉ rejectionKeys h f ctx found := by
  have hempty : ∀ keys, "" ∉ nonEmptyKeys keys := fun keys hmem => (mem_nonEmptyKeys.1 hmem).2 rfl
  rcases rejectionKeys_cases h f ctx found with ⟨hfound, heq⟩ | ⟨-, hkeys, heq⟩ | ⟨-, -, heq⟩
  · rw [heq]
    exact ⟨hfound, hempty _⟩
  · rw [heq]
    exact ⟨hkeys, hempty _⟩
  · rw [heq]
    have hmem : f.name ∈ nonEmptyKeys [f.name] := mem_nonEmptyKeys.2 ⟨List.mem_singleton_self _, hname⟩
    exact ⟨List.ne_nil_of_mem hmem, hempty _⟩

/-- The last key that is made for a variant is that of the fragment, which is never left out. -/
theorem getLast?_typedKeys (ctx : Context) (hname : f.name ≠ "") (variant? : Option String) :
    (nonEmptyKeys (ctx.typedKeys f variant?)).getLast? = some (Context.baseKey f variant?) := by
  have hkept : nonEmptyKeys [Context.baseKey f variant?] = [Context.baseKey f variant?] := by
    simp [nonEmptyKeys, Context.baseKey_ne_empty hname]
  unfold Context.typedKeys
  rw [nonEmptyKeys, List.filter_append]
  rw [show List.filter _ [_] = _ from hkept, List.getLast?_concat]

/-- Where the keys are made for variants of a sort, the last one of a rejection is made for one of them, or for none. -/
theorem getLast?_rejectionKeys {P : Option String → Prop} (ctx : Context) (hname : f.name ≠ "") (hkeys : h.keys = Context.typedKeys)
    (hnone : P none) (hfound : found = [] ∨ ∃ ctx' variant?, P variant? ∧ found = Context.typedKeys ctx' f variant?) :
    ∃ variant?, P variant? ∧ (rejectionKeys h f ctx found).getLast? = some (Context.baseKey f variant?) := by
  rcases rejectionKeys_cases h f ctx found with ⟨hne, heq⟩ | ⟨-, -, heq⟩ | ⟨-, hempty, -⟩
  · rcases hfound with rfl | ⟨ctx', variant?, hvariant, rfl⟩
    · exact absurd rfl hne
    · exact ⟨variant?, hvariant, by rw [heq, getLast?_typedKeys ctx' hname]⟩
  · exact ⟨none, hnone, by rw [heq, hkeys, getLast?_typedKeys ctx hname]⟩
  · -- The fragment has a name, so there is at least the key that is made of it.
    rw [hkeys] at hempty
    have hlast := getLast?_typedKeys ctx hname none
    rw [hempty] at hlast
    cases hlast

/-- A rejection by a handler that applies is what it has decided, or that the value is missing, with the keys of
rejections. -/
theorem exists_of_decideBy {v : Value} {found : Finding} (hfound : (decideBy h v f ctx).MayReturn found)
    (hrejected : found.passed = false) :
    ∃ made : Finding, (made.keys = [] ∨ (h.check v f ctx).MayReturn made) ∧
      found = { made with keys := rejectionKeys h f ctx made.keys } := by
  have hfinish : ∀ made : Finding, (if made.passed then return made
      else return { made with keys := rejectionKeys h f ctx made.keys } : Check Finding).MayReturn found →
      found = { made with keys := rejectionKeys h f ctx made.keys } := by
    intro made hreturn
    split at hreturn
    · next hpassed =>
      cases hreturn
      rw [hpassed] at hrejected
      cases hrejected
    · cases hreturn
      rfl
  cases v with
  | none =>
    obtain ⟨made, hmade, hreturn⟩ := Check.mayReturn_bind.1 hfound
    cases hmade
    exact ⟨_, .inl rfl, hfinish _ hreturn⟩
  | _ =>
    obtain ⟨made, hmade, hreturn⟩ := Check.mayReturn_bind.1 hfound
    exact ⟨made, .inr hmade, hfinish made hreturn⟩

/-- A fragment that does not apply rejects nothing. -/
theorem passed_of_skip {l : Leniency} {w : Warning} {found : Finding} (h : (skip l w).MayReturn found) :
    found.passed = true := by
  have hskip : (skip l w).Ensures fun found => found.passed = true :=
    .ite (.warn (.done rfl)) (.done rfl)
  exact hskip found h

/-- A rejection comes from the handler of the fragment's name. -/
theorem exists_of_run {r : Registry} {l : Leniency} {v : Value} {found : Finding}
    (hfound : (run r l v f ctx).MayReturn found) (hrejected : found.passed = false) :
    ∃ h, r.find? f.name = some h ∧ (decideBy h v f ctx).MayReturn found := by
  have hskipped : ∀ w, ¬ (skip l w).MayReturn found := by
    intro w hw
    rw [passed_of_skip hw] at hrejected
    cases hrejected
  unfold run at hfound
  cases hfind : r.find? f.name with
  | none =>
    rw [hfind] at hfound
    dsimp only at hfound
    split at hfound
    · cases hfound
    · exact absurd hfound (hskipped _)
  | some h =>
    rw [hfind] at hfound
    dsimp only at hfound
    split at hfound
    · exact absurd hfound (hskipped _)
    · split at hfound
      · cases hfound
      · exact ⟨h, rfl, hfound⟩

/-- **Every rejection is identified.** Whatever the handlers are and do, a rejection by a fragment with a name has
message keys, and none of them is empty. Its code is the last of them. For a handler that makes its keys for variants of
the fragment, the code is the name of the fragment, or that with a suffix behind it. -/
theorem run_identifies {r : Registry} {l : Leniency} {v : Value} {f : Fragment} {ctx : Context} {found : Finding}
    (hname : f.name ≠ "") (hfound : (run r l v f ctx).MayReturn found) (hrejected : found.passed = false) :
    found.keys ≠ [] ∧ "" ∉ found.keys ∧ ∃ code, found.keys.getLast? = some code ∧ code ≠ "" ∧
      (∀ q s, Validator.rejection q s f found =
        (fun message => { name := f.name, errorCode := code, message, arguments := f.arguments }) <$>
          Validator.rejectionMessage q f (found.bindings ++ s.context.bindings) found.keys) ∧
      ∀ h, r.find? f.name = some h → h.Inherits →
        code = f.name ∨ ∃ suffix, suffix ≠ "" ∧ code = f.name ++ "." ++ suffix := by
  obtain ⟨h, hfind, hdecide⟩ := exists_of_run hfound hrejected
  obtain ⟨made, hmade, rfl⟩ := exists_of_decideBy hdecide hrejected
  obtain ⟨hne, hempty⟩ := rejectionKeys_usable h ctx made.keys hname
  dsimp only
  obtain ⟨code, hcode⟩ : ∃ code, (rejectionKeys h f ctx made.keys).getLast? = some code :=
    ⟨_, List.getLast?_eq_some_getLast hne⟩
  refine ⟨hne, hempty, code, hcode, ?_, fun q s => ?_, fun h' hfind' hinherits => ?_⟩
  · rintro rfl
    exact hempty (List.mem_of_getLast? hcode)
  · exact Validator.rejection_of_getLast? hcode
  · rw [hfind] at hfind'
    cases hfind'
    have hkeys : made.keys = [] ∨ ∃ ctx' variant?, True ∧ made.keys = Context.typedKeys ctx' f variant? := by
      rcases hmade with hnone | hmade
      · exact .inl hnone
      · simpa using hinherits.check v f ctx made hmade
    obtain ⟨variant?, -, hlast⟩ := getLast?_rejectionKeys ctx hname hinherits.keys trivial hkeys
    rw [hcode] at hlast
    cases hlast
    exact Context.baseKey_eq f variant?

/-- A handler that gives an empty key for everything: the name of the fragment is the key. -/
theorem run_identifies_unkeyed :
    let refuse := Handler.simple (Handler.simpleClass "models" "Refuse") ["refuse"] none {} false (some [""]) .never
    ∃ found : Finding, (run [("refuse", refuse)] {} (.int 3) { name := "refuse" } {}).MayReturn found ∧
      found.passed = false ∧ found.keys ≠ [] ∧ "" ∉ found.keys := by
  intro refuse
  have hfound : (run [("refuse", refuse)] {} (.int 3) { name := "refuse" } {}).MayReturn
      { passed := false, keys := ["refuse"] } := .done _
  obtain ⟨hne, hempty, -⟩ := run_identifies (by decide) hfound rfl
  exact ⟨_, hfound, rfl, hne, hempty⟩

end Dispatch

end FieldRules
