import FieldRules.Proofs.Handler.Identified
import FieldRules.Proofs.Message.AlwaysThere
import FieldRules.Proofs.Rule.Failures
import FieldRules.Proofs.Validation.Agreement

/-!
# Rejections that have a text

The message of a rejection is the text for the first of its keys that has one. There are texts for all that the handlers
that are always there can say, without a locale at least, and they stay behind all bundles that are added. So a
rejection by such a handler has a text, unless looking for one fails (`Validator.holdAgainst_builtin`); the key itself
never stands for the message.
-/

namespace FieldRules

open Cache

/-! ## The first text -/

/-- What a look for the text of a short key comes to. -/
def Library.answer (l : Library) (locale? : Option String) (short : String) : Except Error (Option String) :=
  (resolve (l.messageKey short) locale? l).1

theorem Library.Agrees.answer {locale? : Option String} {l l' : Library} (h : Agrees locale? l l') (short : String) :
    l'.answer locale? short = l.answer locale? short := by
  unfold Library.answer messageKey
  rw [h.keyPrefix, h.texts]

/-- A failure to find a text is that of reading a catalog. -/
theorem Bundle.mem_of_firstText_error {key : String} {rs : List (Except Error (Option Catalog))} {e : Error}
    (h : firstText key rs = .error e) : .error e ∈ rs := by
  induction rs with
  | nil => cases h
  | cons r rs ih =>
    cases r with
    | error e' =>
      obtain rfl : e' = e := Except.error.inj h
      exact List.mem_cons_self ..
    | ok c =>
      replace h : firstText key (pure c :: rs) = .error e := h
      rw [firstText, pure_bind] at h
      split at h
      · cases h
      · exact List.mem_cons_of_mem _ (ih h)

/-- What a look comes to with local bundles is a text of one of the catalogs, or the failure of reading one. -/
theorem Library.answer_after {l : Library} {acts : List Act} (hl : l.bundles = [{}])
    (hacts : ∀ act ∈ acts, act.IsLocal) {locale? : Option String} {short : String} {answer : Except Error String}
    (h : (after l acts).answer locale? short = some <$> answer) :
    (∀ text, answer = .ok text → ∃ c, .ok (some c) ∈ readings l acts locale? ∧
      c.get? ((after l acts).messageKey short) = some text) ∧
    ∀ e, answer = .error e → .error e ∈ readings l acts locale? := by
  have hlook : Bundle.firstText ((after l acts).messageKey short) (readings l acts locale?) = some <$> answer := by
    rw [← h]
    exact (((follows_refl hl).after hacts).resolve _ locale?).1.symm
  constructor
  · rintro text rfl
    obtain ⟨r, hr, htext⟩ := List.exists_of_findSome?_eq_some (Bundle.firstText_eq_ok_iff.1 hlook).1
    rcases r with e | _ | c
    · cases htext
    · cases htext
    · exact ⟨c, hr, htext⟩
  · rintro e rfl
    exact Bundle.mem_of_firstText_error hlook

namespace Validator

open Session

variable {V : Validator} {q : Request} {s : Subject} {f : Fragment} {found : Finding} {σ σ' : Session}

/-- The keys are gone through up to the first one for which a look comes to something. What it comes to is the text, or
the failure. -/
theorem firstText?_eq {keys : List String} (h : ∃ k ∈ keys, σ.library.answer q.locale? k ≠ .ok none) :
    ∃ before key after answer, keys = before ++ key :: after ∧
      (∀ k ∈ before, σ.library.answer q.locale? k = .ok none) ∧
      σ.library.answer q.locale? key = some <$> answer ∧ (firstText? q keys σ).1 = some <$> answer := by
  induction keys generalizing σ with
  | nil =>
    obtain ⟨k, hk, -⟩ := h
    cases hk
  | cons key rest ih =>
    have hlook : textFor? key q.locale? σ = (σ.library.answer q.locale? key, (textFor? key q.locale? σ).2) := rfl
    cases hanswer : σ.library.answer q.locale? key with
    | error e =>
      rw [hanswer] at hlook
      refine ⟨[], key, rest, .error e, rfl, nofun, hanswer, ?_⟩
      rw [firstText?, Run.bind_of_error hlook]
      rfl
    | ok text? =>
      rw [hanswer] at hlook
      rw [firstText?, Run.bind_of_ok hlook]
      cases text? with
      | some text => exact ⟨[], key, rest, .ok text, rfl, nofun, hanswer, rfl⟩
      | none =>
        -- A look that comes to nothing does not change what the other ones come to.
        have hagrees : Session.Agrees q.locale? σ (textFor? key q.locale? σ).2 := agrees_of_lookup hlook
        have hrest : ∃ k ∈ rest, (textFor? key q.locale? σ).2.library.answer q.locale? k ≠ .ok none := by
          obtain ⟨k, hk, hne⟩ := h
          rcases List.mem_cons.1 hk with rfl | hk
          · exact absurd hanswer hne
          · exact ⟨k, hk, by rwa [Library.Agrees.answer hagrees]⟩
        obtain ⟨before, key', after, answer, rfl, hbefore, hkey', hfirst⟩ := ih hrest
        refine ⟨key :: before, key', after, answer, rfl, ?_, ?_, hfirst⟩
        · rw [List.forall_mem_cons]
          exact ⟨hanswer, fun k hk => by rw [← hbefore k hk, Library.Agrees.answer hagrees]⟩
        · rw [← hkey', Library.Agrees.answer hagrees]

/-- The text that is found is the message, with its placeholders filled. -/
theorem rejectionMessage_eq {bindings : List (String × Value)} {keys : List String} {answer : Except Error String}
    (hown : (f.message.filter fun m => !m.isEmpty) = none) (h : (firstText? q keys σ).1 = some <$> answer) :
    (rejectionMessage q f bindings keys σ).1 = answer >>= fun text => Template.fill text bindings f.arguments := by
  unfold rejectionMessage
  rw [hown]
  dsimp only
  cases answer with
  | error e =>
    have hfirst : firstText? q keys σ = (.error e, (firstText? q keys σ).2) := Prod.ext h rfl
    rw [Run.bind_of_error hfirst]
    rfl
  | ok text =>
    have hfirst : firstText? q keys σ = (.ok (some text), (firstText? q keys σ).2) := Prod.ext h rfl
    rw [Run.bind_of_ok hfirst]
    dsimp only
    rw [Run.lift_eq]
    rfl

/-! ## Rejections by handlers that are always there -/

/-- One of the keys of a rejection by a handler that is always there is that of a default text, the last one. -/
theorem exists_key_builtin {r : Registry} {l : Leniency} {v : Value} {ctx : Context} {h : Handler}
    (hfind : r.find? f.name = some h) (hh : h ∈ Registry.builtinHandlers) (hname : f.name ∈ h.names)
    (hfound : (Dispatch.run r l v f ctx).MayReturn found) (hrejected : found.passed = false) :
    ∃ code, found.keys.getLast? = some code ∧ (Texts.english.lookup code).isSome := by
  obtain ⟨h', hfind', hdecide⟩ := Dispatch.exists_of_run hfound hrejected
  obtain rfl : h = h' := Option.some.inj (hfind.symm.trans hfind')
  obtain ⟨made, hmade, rfl⟩ := Dispatch.exists_of_decideBy hdecide hrejected
  obtain ⟨variants, hvariants, htexts⟩ := Handler.keysWithin_builtin hh
  obtain ⟨htext, hvariantTexts⟩ := htexts f.name hname
  have hnamed : f.name ≠ "" := by
    intro hempty
    rw [hempty] at htext
    exact absurd htext (by decide +kernel)
  let HasText : Option String → Prop := fun variant? => (Texts.english.lookup (Context.baseKey f variant?)).isSome
  -- the keys that the handler gives belong to its own name, with a variant that has a text or with none
  have hkeys : made.keys = [] ∨ ∃ ctx' variant?, HasText variant? ∧ made.keys = Context.typedKeys ctx' f variant? := by
    rcases hmade with hnone | hmade
    · exact .inl hnone
    · rcases hvariants v f ctx made hmade with hnone | ⟨variant, hvariant, hkeys⟩
      · exact .inl hnone
      · -- An empty variant adds nothing to the name.
        refine .inr ⟨ctx, some variant, ?_, hkeys⟩
        show (Texts.english.lookup (Context.baseKey f (some variant))).isSome
        unfold Context.baseKey
        split
        · exact htext
        · exact htext
        · next heq =>
          cases heq
          exact hvariantTexts variant hvariant
  obtain ⟨variant?, hlast, hcode⟩ := Dispatch.getLast?_rejectionKeys (P := HasText) ctx hnamed
    (Handler.keys_builtin hh) htext hkeys
  exact ⟨_, hcode, hlast⟩

/-- Holding a value against a fragment comes to a rejection if the decision does. -/
theorem holdAgainst_of_rejected
    (hsettle : V.settle q s (Dispatch.run V.registry V.leniency s.value f s.context) σ = (.ok found, σ'))
    (hrejected : found.passed = false) : (V.holdAgainst q s f σ).1 = some <$> (rejection q s f found σ').1 := by
  unfold holdAgainst
  rw [Run.bind_of_ok hsettle, hrejected, if_neg Bool.false_ne_true, Run.bind_eq]
  rcases rejection q s f found σ' with ⟨_ | r, σ''⟩ <;> rfl

/-- **Rejections by handlers that are always there have a text.** A library starts with the texts that are always there,
whatever it is asked to do then. A subject is rejected by a fragment of a handler that is always there, which has no
message of its own. The keys of the rejection are gone through up to the first one for which a look comes to something,
and there is such a key. What the look comes to is a text, and the message is that text with its placeholders filled; or
it fails, and so does the rejection. With local bundles the text is in one of the catalogs, and the failure is that of
reading one. -/
theorem holdAgainst_builtin {l : Library} {acts : List Library.Act} {h : Handler} (hl : l.bundles = [{}])
    (husual : l.keyPrefix = Texts.keyPrefix) (hσ : σ.library = Library.after l acts)
    (hfind : V.registry.find? f.name = some h) (hh : h ∈ Registry.builtinHandlers) (hname : f.name ∈ h.names)
    (hown : (f.message.filter fun m => !m.isEmpty) = none)
    (hsettle : V.settle q s (Dispatch.run V.registry V.leniency s.value f s.context) σ = (.ok found, σ'))
    (hrejected : found.passed = false) :
    ∃ before key after answer code, found.keys = before ++ key :: after ∧
      (∀ k ∈ before, (Library.after l acts).answer q.locale? k = .ok none) ∧
      (Library.after l acts).answer q.locale? key = some <$> answer ∧ found.keys.getLast? = some code ∧
      (V.holdAgainst q s f σ).1 = (do
        let text ← answer
        let message ← Template.fill text (found.bindings ++ s.context.bindings) f.arguments
        return some { name := f.name, errorCode := code, message, arguments := f.arguments }) ∧
      ((∀ act ∈ acts, act.IsLocal) →
        (∀ text, answer = .ok text → ∃ c, .ok (some c) ∈ Library.readings l acts q.locale? ∧
          c.get? (Texts.keyPrefix ++ "." ++ key) = some text) ∧
        ∀ e, answer = .error e → .error e ∈ Library.readings l acts q.locale?) := by
  have hstands : (Library.after l acts).Stands := (Library.stands_of_bundles husual hl).after acts
  have hreturn := Check.mayReturn_of_settle hsettle
  obtain ⟨code, hcode, htext⟩ := exists_key_builtin hfind hh hname hreturn hrejected
  -- The decision may look up labels, which does not change what other looks come to.
  have hagrees : Session.Agrees q.locale? σ σ' := (V.parts_agrees q.locale?).settle s _ σ found σ' hsettle
  have hsome : ∃ k ∈ found.keys, σ'.library.answer q.locale? k ≠ .ok none := by
    refine ⟨code, List.mem_of_getLast? hcode, ?_⟩
    rw [Library.Agrees.answer hagrees, hσ]
    exact hstands.resolve_ne_none htext q.locale?
  obtain ⟨before, key, after, answer, hkeys, hbefore, hkey, hfirst⟩ := firstText?_eq hsome
  rw [Library.Agrees.answer hagrees, hσ] at hkey
  refine ⟨before, key, after, answer, code, hkeys, ?_, hkey, hcode, ?_, fun hacts => ?_⟩
  · intro k hk
    rw [← hbefore k hk, Library.Agrees.answer hagrees, hσ]
  · rw [holdAgainst_of_rejected hsettle hrejected, rejection_of_getLast? hcode, Run.map_eq,
      rejectionMessage_eq hown hfirst]
    cases answer with
    | error e => rfl
    | ok text =>
      show some <$> (Template.fill text _ f.arguments).map _ = Template.fill text _ f.arguments >>= _
      cases Template.fill text (found.bindings ++ s.context.bindings) f.arguments <;> rfl
  · have hplace := Library.answer_after hl hacts hkey
    unfold Library.messageKey at hplace
    rwa [hstands.keyPrefix] at hplace

/-- A missing value is rejected in a locale that has no messages. -/
theorem holdAgainst_builtin_required :
    let V : Validator := {}
    let q : Request := { locale? := some "xx" }
    let s : Subject := { value := .none, label := "target" }
    let σ : Session := { library := Library.after Library.greetings [.add "messages" []] }
    let found : Finding := { passed := false, keys := ["required"] }
    V.settle q s (Dispatch.run V.registry V.leniency s.value { name := "required" } s.context) σ = (.ok found, σ) ∧
      found.passed = false ∧ ∃ key ∈ found.keys, ∃ answer, σ.library.answer q.locale? key = some <$> answer := by
  intro V q s σ found
  have hfind : V.registry.find? "required" = some .requiredValue := rfl
  have hsettle : V.settle q s (Dispatch.run V.registry V.leniency s.value { name := "required" } s.context) σ =
      (.ok found, σ) := rfl
  have hlibrary : σ.library = Library.after Library.greetings [.add "messages" []] := rfl
  obtain ⟨before, key, after, answer, -, hkeys, -, hkey, -⟩ := holdAgainst_builtin rfl rfl hlibrary hfind
    (List.mem_cons_self ..) (List.mem_singleton_self _) rfl hsettle rfl
  refine ⟨hsettle, rfl, key, ?_, answer, hkey⟩
  rw [hkeys]
  exact List.mem_append_right _ (List.mem_cons_self ..)

/-- With a colon in the locale, looking for the text fails, although there is one without a locale. -/
theorem holdAgainst_colon :
    let σ : Session := { library := Library.after Library.greetings [.add "messages" []] }
    (({} : Validator).holdAgainst { locale? := some "de:AT" } { value := .none, label := "target" }
        { name := "required" } σ).1 = .error (.resource (.scheme "messages.de" "messages.de:at.yaml")) ∧
      σ.library.answer none "required" = .ok (some "\x7blabel\x7d is required") := by
  intro σ
  have hfails : Rule.failure? (({} : Validator).holdAgainst { locale? := some "de:AT" }
      { value := .none, label := "target" } { name := "required" } σ).1 =
        some (.resource (.scheme "messages.de" "messages.de:at.yaml")) := by
    decide +kernel
  exact ⟨Rule.eq_error_of_failure? hfails, by decide +kernel⟩

end Validator

end FieldRules
